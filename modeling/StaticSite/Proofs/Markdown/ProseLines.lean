/-
StaticSite.Proofs.Markdown.ProseLines — a line of prose is a paragraph.

A block of one line could be code, a heading, a rule, an item of a list, a quotation
or the definition of a reference. None of these forms fits a line of prose: they
start with a sign that no run starts with, or they go on as no run does. A line may
start with an asterisk, a bracket or a number; but no space follows the asterisk, no
colon the closing bracket, and no dot the number (`Line.start`, `AreRuns.dot_not_after_digits`).
-/
import StaticSite.Proofs.Markdown.Prose
import StaticSite.Proofs.Text.Splitting

namespace StaticSite.Markdown

open StaticSite.Text

/-! ## 1. How a line starts -/

/-- How runs start: with plain text, a backtick, an asterisk before a word, or the text of a
link. -/
inductive StartsAsProse : List Char → Prop where
  | plain {c : Char} (s : List Char) (hc : isLetterOrNumber c = true ∨ c ∈ [' ', ',', ':']) :
      StartsAsProse (c :: s)
  | code (s : List Char) : StartsAsProse ('\x60' :: s)
  | emphasis {c : Char} (s : List Char) (hc : isLetterOrNumber c = true) :
      StartsAsProse ('*' :: c :: s)
  | link {label : List Char} (s : List Char) (hopen : '[' ∉ label) (hclose : ']' ∉ label) :
      StartsAsProse ('[' :: (label ++ ']' :: '(' :: s))

section

variable {r : Run} {runs : List Run} {s : List Char}

theorem Run.IsSound.startsAsProse (h : r.IsSound) (s : List Char) :
    StartsAsProse (r.source ++ s) := by
  cases r with
  | plain t =>
    obtain ⟨c, t, rfl⟩ := List.exists_cons_of_ne_nil (IsWordOver.ne_nil h)
    exact .plain _ (IsWordOver.chars h c List.mem_cons_self)
  | code t => exact .code _
  | emphasis t =>
    obtain ⟨c, t, rfl, hc⟩ := IsPhrase.exists_head h
    exact .emphasis _ hc
  | link label target =>
    have hsource : (Run.link label target).source ++ s =
        '[' :: (label ++ ']' :: '(' :: (target ++ ')' :: s)) := by
      simp [Run.source]
    rw [hsource]
    exact .link _ (h.1.not_mem (by decide) (by decide)) (h.1.not_mem (by decide) (by decide))

/-- A dot is no plain text, and no other run starts with a digit. -/
theorem AreRuns.dot_not_after_digits (h : AreRuns runs) :
    ((runs.flatMap Run.source).dropWhile isDecimalDigit).head? ≠ some '.' := by
  induction runs with
  | nil => exact nofun
  | cons r runs ih =>
    rw [List.flatMap_cons]
    cases r with
    | plain s =>
      rw [Run.source, List.dropWhile_append]
      split
      · exact ih h.tail
      · next hrest =>
        have hs := IsWordOver.not_mem h.head (d := '.') (by decide) (by decide)
        rw [List.isEmpty_iff] at hrest
        rw [List.head?_append_of_ne_nil _ hrest]
        exact fun hhead => hs (List.dropWhile_subset _ (List.mem_of_head? hhead))
    | code s => exact (by decide : some '\x60' ≠ some '.')
    | emphasis s => exact (by decide : some '*' ≠ some '.')
    | link label target => exact (by decide : some '[' ≠ some '.')

theorem Line.start (line : Line) : StartsAsProse line.source := by
  obtain ⟨r, runs, hruns⟩ := List.exists_cons_of_ne_nil line.ne_nil
  have h := line.areRuns
  rw [hruns] at h
  rw [Line.source, hruns, List.flatMap_cons]
  exact h.head.startsAsProse _

theorem StartsAsProse.ne_nil (h : StartsAsProse s) : s ≠ [] := by
  cases h <;> exact List.cons_ne_nil _ _

theorem ne_of_isPlain {c d : Char} (hc : isLetterOrNumber c = true ∨ c ∈ [' ', ',', ':'])
    (hd : isLetterOrNumber d = false) (hsigns : d ∉ [' ', ',', ':']) : c ≠ d := by
  rintro rfl
  rcases hc with hc | hc
  · rw [hc] at hd
    cases hd
  · exact hsigns hc

/-- Signs that no line of prose starts with. -/
theorem StartsAsProse.head?_ne (h : StartsAsProse s) {d : Char} (hd : isLetterOrNumber d = false)
    (hsigns : d ∉ [' ', ',', ':', '\x60', '*', '[']) : s.head? ≠ some d := by
  intro hhead
  cases h with
  | plain t hc =>
    refine ne_of_isPlain hc hd (fun hmem => hsigns ?_) (Option.some.inj hhead)
    exact List.mem_append_left ['\x60', '*', '['] hmem
  | code _ | emphasis _ _ | link _ _ _ =>
    cases hhead
    exact hsigns (by decide)

end

/-! ## 2. The forms of lines -/

section

variable {s : List Char}

theorem linesOf_ofChars (h : '\n' ∉ s) : linesOf (ofChars s) = [ofChars s] := by
  refine splitOn_of_none fun a ha => ?_
  obtain ⟨c, hc, rfl⟩ := List.mem_map.mp ha
  have hne : c ≠ '\n' := fun heq => h (heq ▸ hc)
  simp [Atom.is, Atom.char?, hne]

theorem leadingSpaces_ofChars (h : s.head? ≠ some ' ') : leadingSpaces (ofChars s) = 0 := by
  cases s with
  | nil => rfl
  | cons c s =>
    have hc : c ≠ ' ' := fun heq => h (heq ▸ rfl)
    rw [leadingSpaces, ofChars, List.map_cons, List.takeWhile_cons_of_neg]
    · rfl
    · simp [Atom.is, Atom.char?, hc]

theorem isIndented_ofChars (h : s.head? ≠ some ' ') : isIndented (ofChars s) = false := by
  rw [isIndented, leadingSpaces_ofChars h]
  rfl

theorem dropShortIndent_ofChars (h : s.head? ≠ some ' ') :
    dropShortIndent (ofChars s) = some (ofChars s) := by
  rw [dropShortIndent, leadingSpaces_ofChars h]
  rfl

theorem ne_cons_of_head? {c : Char} (h : s.head? ≠ some c) (t : Atoms) :
    ofChars s ≠ .char c :: t := by
  cases s with
  | nil => exact nofun
  | cons d s =>
    intro heq
    have hd : d = c := Atom.char.inj (List.cons.inj heq).1
    exact h (hd ▸ rfl)

theorem hashHeading?_ofChars (h : s.head? ≠ some '#') : hashHeading? (ofChars s) = none := by
  cases s with
  | nil => rfl
  | cons c s =>
    have hc : c ≠ '#' := fun heq => h (heq ▸ rfl)
    rw [hashHeading?, ofChars, List.map_cons, List.takeWhile_cons_of_neg]
    · rfl
    · simp [Atom.is, Atom.char?, hc]

/-- A word is not the second sign of a rule. -/
theorem isRuleTail_word {sign c : Char} (hsign : isLetterOrNumber sign = false)
    (hc : isLetterOrNumber c = true) (signs spaces : Nat) (t : Atoms) :
    isRuleTail sign signs spaces (.char c :: t) = false := by
  have hne : c ≠ sign := ne_of_not hc hsign
  have hspace : c ≠ ' ' := ne_of_not hc (by decide)
  simp [isRuleTail, Atom.is, Atom.char?, hne, hspace]

theorem StartsAsProse.isRule (h : StartsAsProse s) (hspace : s.head? ≠ some ' ') :
    isRule (ofChars s) = false := by
  rw [Markdown.isRule, dropShortIndent_ofChars hspace]
  cases h with
  | plain t hc =>
    have hdash := ne_of_isPlain hc (d := '-') (by decide) (by decide)
    have hline := ne_of_isPlain hc (d := '_') (by decide) (by decide)
    have hstar := ne_of_isPlain hc (d := '*') (by decide) (by decide)
    simp [ofChars_cons, hdash, hline, hstar]
  | code t => rfl
  | emphasis t hc =>
    simp only [ofChars_cons, isRuleTail_word (by decide : isLetterOrNumber '*' = false) hc,
      Bool.and_false]
  | link t hopen hclose => rfl

/-- Only an asterisk could be a bullet, and no space follows it. -/
theorem StartsAsProse.itemOf?_bullets (h : StartsAsProse s) (hspace : s.head? ≠ some ' ') :
    itemOf? .bullets (ofChars s) = none := by
  have hbullet : afterBullet? (ofChars s) = none := by
    cases h with
    | plain t hc =>
      have hdash := ne_of_isPlain hc (d := '-') (by decide) (by decide)
      have hplus := ne_of_isPlain hc (d := '+') (by decide) (by decide)
      have hstar := ne_of_isPlain hc (d := '*') (by decide) (by decide)
      simp [ofChars_cons, afterBullet?, hdash, hplus, hstar]
    | code t => rfl
    | @emphasis c t hc =>
      have hword : (c :: t).head? ≠ some ' ' :=
        fun hhead => ne_of_not hc (by decide) (Option.some.inj hhead)
      have hitem : itemText? (ofChars (c :: t)) = none := by
        rw [itemText?, leadingSpaces_ofChars hword]
        rfl
      exact hitem
    | link t hopen hclose => rfl
  rw [itemOf?, dropShortIndent_ofChars hspace]
  simp [hbullet]

theorem itemOf?_numbers (hspace : s.head? ≠ some ' ')
    (hdot : (s.dropWhile isDecimalDigit).head? ≠ some '.') :
    itemOf? .numbers (ofChars s) = none := by
  have hdrop : (ofChars s).drop ((ofChars s).takeWhile (Atom.isIn isDecimalDigit)).length =
      ofChars (s.dropWhile isDecimalDigit) := by
    have hsplit := List.takeWhile_append_dropWhile (p := Atom.isIn isDecimalDigit) (l := ofChars s)
    have hdrop := congrArg
      (List.drop ((ofChars s).takeWhile (Atom.isIn isDecimalDigit)).length) hsplit
    rw [List.drop_left] at hdrop
    rw [← hdrop, ofChars, List.dropWhile_map]
    rfl
  have hnumber : afterNumber? (ofChars s) = none := by
    unfold afterNumber?
    dsimp only
    rw [hdrop]
    split
    · next heq => exact absurd heq (ne_cons_of_head? hdot _)
    · rfl
  rw [itemOf?, dropShortIndent_ofChars hspace]
  simp [hnumber]

theorem quoted?_ofChars (h : s.head? ≠ some '>') (hspace : s.head? ≠ some ' ') :
    quoted? (ofChars s) = none := by
  unfold quoted?
  rw [dropShortIndent_ofChars hspace]
  split
  · next heq => exact absurd (Option.some.inj heq) (ne_cons_of_head? h _)
  · rfl

/-- The text of a link is no label: no colon follows it. -/
theorem StartsAsProse.referenceAt? (h : StartsAsProse s) (hspace : s.head? ≠ some ' ') :
    referenceAt? (ofChars s) = none := by
  unfold Markdown.referenceAt?
  rw [dropShortIndent_ofChars hspace]
  split
  · next t heq =>
    cases h with
    | plain u hc =>
      exact absurd (Atom.char.inj (List.cons.inj (Option.some.inj heq)).1)
        (ne_of_isPlain hc (by decide) (by decide))
    | code u => cases heq
    | emphasis u hc => cases heq
    | @link label u hopen hclose =>
      cases heq
      have hlabel : ∀ a ∈ ofChars label, (!(a.is '[' || a.is ']')) = true := by
        intro a ha
        obtain ⟨c, hc, rfl⟩ := List.mem_map.mp ha
        have hc₁ : c ≠ '[' := fun heq => hopen (heq ▸ hc)
        have hc₂ : c ≠ ']' := fun heq => hclose (heq ▸ hc)
        simp [Atom.is, Atom.char?, hc₁, hc₂]
      have htext : (label ++ ']' :: '(' :: u).map Atom.char =
          ofChars label ++ .char ']' :: .char '(' :: ofChars u := by
        rw [List.map_append]
        rfl
      have htake : (ofChars label ++ .char ']' :: .char '(' :: ofChars u).takeWhile
          (fun a => !(a.is '[' || a.is ']')) = ofChars label := by
        rw [List.takeWhile_append_of_pos hlabel, List.takeWhile_cons_of_neg (by decide),
          List.append_nil]
      dsimp only
      rw [htext, htake, List.drop_left]
      rfl
  · rfl

/-- A reference is defined at the start of a line only. -/
theorem findDefinition?_ofChars (h : '\n' ∉ s) (before : Atoms) :
    findDefinition? before false (ofChars s) = none := by
  induction s generalizing before with
  | nil => rfl
  | cons c s ih =>
    rw [List.mem_cons, not_or] at h
    have hc : (Atom.char c).is '\n' = false := by simp [Atom.is, Atom.char?, Ne.symm h.1]
    rw [ofChars_cons, findDefinition?, if_neg Bool.false_ne_true, hc]
    exact ih h.2 _

end

/-! ## 3. A line as a block -/

theorem isBlank_of_isProseChar {c : Char} (h : isProseChar c = true) (hc : c ≠ ' ') :
    isBlank c = false := by
  have hsigns : proseSigns.all (fun d => d == ' ' || !isBlank d) = true := by decide
  rw [Markdown.isProseChar, Bool.or_eq_true, List.contains_iff_mem] at h
  rcases h with h | h
  · exact isBlank_of_isLetterOrNumber h
  · simpa [hc] using List.all_eq_true.mp hsigns c h

namespace Line

variable (line : Line)

theorem not_mem {c : Char} (hc : isProseChar c = false) : c ∉ line.source := by
  intro hmem
  rw [line.areRuns.isProseChar c hmem] at hc
  cases hc

theorem isBlank_of_head? {c : Char} (h : line.source.head? = some c) : isBlank c = false := by
  refine isBlank_of_isProseChar (line.areRuns.isProseChar c (List.mem_of_head? h)) ?_
  rintro rfl
  exact line.head h

theorem isBlank_of_getLast? {c : Char} (h : line.source.getLast? = some c) :
    isBlank c = false := by
  refine isBlank_of_isProseChar (line.areRuns.isProseChar c (List.mem_of_getLast? h)) ?_
  rintro rfl
  exact line.last h

/-- A line starts with a character that is not blank. -/
theorem exists_cons : ∃ c s, line.source = c :: s ∧ isBlank c = false := by
  obtain ⟨c, s, hsource⟩ := List.exists_cons_of_ne_nil line.start.ne_nil
  exact ⟨c, s, hsource, line.isBlank_of_head? (by rw [hsource]; rfl)⟩

theorem head?_ne {d : Char} (hd : isLetterOrNumber d = false)
    (hsigns : d ∉ [' ', ',', ':', '\x60', '*', '[']) : line.source.head? ≠ some d :=
  line.start.head?_ne hd hsigns

theorem dot_not_after_digits : (line.source.dropWhile isDecimalDigit).head? ≠ some '.' :=
  line.areRuns.dot_not_after_digits

theorem linesOf_source : linesOf (ofChars line.source) = [ofChars line.source] :=
  linesOf_ofChars (line.not_mem (by decide))

/-- The text of a line starts as it stands, and is not blank. -/
theorem dropBlank_source : dropBlank (ofChars line.source) = ofChars line.source := by
  obtain ⟨c, s, hsource, hc⟩ := line.exists_cons
  rw [hsource, ofChars_cons, dropBlank, List.dropWhile_cons_of_neg]
  simpa [Atom.isBlank] using hc

theorem allBlank_source : allBlank (ofChars line.source) = false := by
  obtain ⟨c, s, hsource, hc⟩ := line.exists_cons
  rw [hsource, ofChars_cons, allBlank, List.all_cons, Atom.isBlank, hc, Bool.false_and]

theorem not_startsEmpty :
    ((ofChars line.source).isEmpty || startsWith '\n' (ofChars line.source)) = false := by
  obtain ⟨c, s, hsource, hc⟩ := line.exists_cons
  have hne : c ≠ '\n' := ne_of_not (p := fun c => !isBlank c) (by rw [hc]; rfl) (by decide)
  rw [hsource, ofChars_cons]
  simp [startsWith, Atom.is, Atom.char?, hne]

theorem findDefinition?_source : findDefinition? [] true (ofChars line.source) = none := by
  have hstart := line.start.referenceAt? line.head
  obtain ⟨c, s, hsource, -⟩ := line.exists_cons
  have hrest := line.not_mem (c := '\n') (by decide)
  rw [hsource, List.mem_cons, not_or] at hrest
  have hc : (Atom.char c).is '\n' = false := by simp [Atom.is, Atom.char?, Ne.symm hrest.1]
  rw [hsource, ofChars_cons] at hstart ⊢
  rw [findDefinition?, if_pos rfl, hstart, hc]
  exact findDefinition?_ofChars hrest.2 _

end Line

theorem splitAtForm_of_none {α : Type} {form : Atoms → Option α} {s : Atoms}
    (h : form s = none) : splitAtForm form [s] = none := by
  rw [splitAtForm, h]
  rfl

/-- No form fits a line of prose, so it becomes a paragraph. -/
theorem readBlock_line (read : BlockReader) (line : Line) (o : Outline) :
    readBlock read .plain (ofChars line.source) o =
      (o.map (·.add (.ofText .paragraph (ofChars line.source))), []) := by
  have hlines := line.linesOf_source
  have hindent : isIndented (ofChars line.source) = false := isIndented_ofChars line.head
  have hindented : readIndented? read .plain (ofChars line.source) o = none := by
    rw [readIndented?, hindent]
    rfl
  have hheading : readHeading? read .plain (ofChars line.source) o = none := by
    rw [readHeading?, hlines,
      splitAtForm_of_none (hashHeading?_ofChars (line.head?_ne (by decide) (by decide)))]
    rfl
  have hunderlined : readUnderlined? (ofChars line.source) o = none := by
    rw [readUnderlined?, hlines]
  have hrule : readRule? read .plain (ofChars line.source) o = none := by
    rw [readRule?, hlines, splitAtForm_of_none]
    · rfl
    · rw [line.start.isRule line.head]
      rfl
  have hnumbers : readList? read .numbers (ofChars line.source) o = none := by
    rw [readList?, hlines, List.head?_cons, Option.bind_some,
      itemOf?_numbers (s := line.source) line.head line.dot_not_after_digits]
  have hbullets : readList? read .bullets (ofChars line.source) o = none := by
    rw [readList?, hlines, List.head?_cons, Option.bind_some,
      line.start.itemOf?_bullets line.head]
  have hquote : readQuote? read .plain (ofChars line.source) o = none := by
    rw [readQuote?, hlines, splitAtForm_of_none]
    · rfl
    · rw [quoted?_ofChars (line.head?_ne (by decide) (by decide)) line.head]
      rfl
  have hreference : readReference? (ofChars line.source) o = none := by
    rw [readReference?, line.findDefinition?_source]
    rfl
  rw [readBlock, line.not_startsEmpty, if_neg Bool.false_ne_true, hindented]
  simp only [hindent, Bool.false_eq_true, if_false, List.findSome?, hheading, hunderlined, hrule,
    hnumbers, hbullets, hquote, hreference, Option.getD_none]
  rw [readParagraph, line.allBlank_source, if_neg Bool.false_ne_true, if_neg (by decide),
    line.dropBlank_source]

end StaticSite.Markdown
