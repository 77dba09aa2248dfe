/-
StaticSite.Proofs.Markdown.ProsePatterns — the patterns that prose fits.

Of the patterns only the first and that of links find something in prose. The
signs that all others look for do not come in it (`Pattern.pass_of_nothing`), but
for brackets: a link by reference does not fit a link whose target stands in
parentheses, and when the links have been found no bracket is left.
-/
import Mathlib.Data.List.SplitBy
import StaticSite.Proofs.Markdown.Prose

namespace StaticSite.Markdown

open StaticSite.Text

/-! ## 1. Replacing -/

section

variable {fits : Atoms → Atoms → Finding} {before s t : Atoms}

/-- Where a pattern finds nothing it leaves the text as it is. -/
theorem replaceFrom_append_of_nothing
    (h : ∀ a ∈ t, ∀ before rest, fits before (a :: rest) = .nothing) :
    replaceFrom fits 0 0 before (t ++ s) = replaceFrom fits 0 0 (t.reverse ++ before) s := by
  induction t generalizing before with
  | nil => rfl
  | cons a t ih =>
    rw [List.forall_mem_cons] at h
    rw [List.cons_append, replaceFrom, h.1]
    dsimp only
    rw [ih h.2, List.reverse_cons, List.append_assoc, List.singleton_append]

theorem replaceFrom_drop (n : Nat) (ht : t.length = n) :
    replaceFrom fits n 0 before (t ++ s) = replaceFrom fits 0 0 before s := by
  induction t generalizing n with
  | nil =>
    subst ht
    rfl
  | cons a t ih =>
    subst ht
    rw [List.cons_append, List.length_cons, replaceFrom]
    exact ih _ rfl

/-- What a pattern has found is put in its place. -/
theorem replaceFrom_of_found {a : Atom} {atoms : Atoms}
    (h : fits before (a :: (t ++ s)) = .found atoms (t.length + 1)) :
    replaceFrom fits 0 0 before (a :: (t ++ s)) =
      replaceFrom fits 0 0 (atoms.reverse ++ before) s := by
  rw [replaceFrom, h]
  exact replaceFrom_drop _ rfl

end

theorem Pattern.pass_of_nothing {pattern : Pattern} {inner : Atoms → Atoms} {s : Atoms}
    (h : ∀ a t, a :: t <:+ s → ∀ before, pattern inner before (a :: t) = .nothing) :
    pattern.pass inner s = s := by
  have hfrom : ∀ before, replaceFrom (pattern inner) 0 0 before s = before.reverse ++ s := by
    induction s with
    | nil => simp [replaceFrom]
    | cons a s ih =>
      intro before
      rw [replaceFrom, h a s List.suffix_rfl before]
      dsimp only
      rw [ih fun b t hsuffix => h b t (hsuffix.trans (List.suffix_cons a s)), List.reverse_cons,
        List.append_assoc, List.singleton_append]
  exact hfrom []

/-! ## 2. Atoms of prose -/

/-- An element, or a character that comes in prose. -/
inductive Atom.IsProse : Atom → Prop where
  | char {c : Char} (hc : isProseChar c = true) : (Atom.char c).IsProse
  | node (tag : Tag) (attributes : List (String × Atoms)) (content : Atoms) :
      (Atom.node tag attributes content).IsProse

theorem Atom.IsProse.is_eq_false {a : Atom} (h : a.IsProse) {c : Char}
    (hc : isProseChar c = false) : a.is c = false := by
  cases h with
  | char hd =>
    have hne := ne_of_not hd hc
    simp [Atom.is, Atom.char?, hne]
  | node => rfl

theorem Atom.IsProse.ne_char {a : Atom} (h : a.IsProse) {c : Char} (hc : isProseChar c = false) :
    a ≠ .char c := by
  rintro rfl
  have his := h.is_eq_false hc
  simp [Atom.is, Atom.char?] at his

/-- The patterns that look for a sign that does not come in prose. -/
def idlePatterns (references : References) : List Pattern :=
  [backslash, inlineLink true, referenceLink references true true,
    referenceLink references true false, autolink, automail, lineBreak, inlineMarkup,
    characterReference]

section

variable {s : Atoms} {inner : Atoms → Atoms} {references : References}

theorem inAngles?_of_ne {a : Atom} (ha : a ≠ .char '<') : inAngles? (a :: s) = none := by
  unfold inAngles?
  split
  · next heq => exact absurd (List.cons.inj heq).1 ha
  · rfl

theorem opening?_true_of_ne {a : Atom} (ha : a ≠ .char '!') (before : Atoms) :
    opening? true before (a :: s) = none := by
  unfold opening?
  rw [if_pos rfl]
  split
  · next heq => exact absurd (List.cons.inj heq).1 ha
  · rfl

theorem eq_nothing_of_idle {pattern : Pattern} (hpattern : pattern ∈ idlePatterns references)
    {a : Atom} (hs : ∀ b ∈ a :: s, b.IsProse) (before : Atoms) :
    pattern inner before (a :: s) = .nothing := by
  have ha := hs a List.mem_cons_self
  have hopening := opening?_true_of_ne (s := s) (ha.ne_char (c := '!') (by decide)) before
  have hangles := inAngles?_of_ne (s := s) (ha.ne_char (c := '<') (by decide))
  simp only [idlePatterns, List.mem_cons, List.not_mem_nil, or_false] at hpattern
  rcases hpattern with rfl | rfl | rfl | rfl | rfl | rfl | rfl | rfl | rfl
  · have hslash := ha.ne_char (c := '\\') (by decide)
    unfold backslash
    split
    · next heq => exact absurd (List.cons.inj heq).1 hslash
    · next heq => exact absurd (List.cons.inj heq).1 hslash
    · rfl
  · rw [inlineLink, hopening]
  · rw [referenceLink, hopening]
  · rw [referenceLink, hopening]
  · rw [autolink, hangles]
  · rw [automail, hangles]
  · unfold lineBreak
    split
    · next heq =>
      rw [heq] at hs
      have hend := hs (.char '\n') (by simp)
      exact absurd rfl (hend.ne_char (c := '\n') (by decide))
    · rfl
  · have hangle := ha.ne_char (c := '<') (by decide)
    have hnone : afterMarkup? (a :: s) = none := by
      unfold afterMarkup?
      split
      · next heq => exact absurd (List.cons.inj heq).1 hangle
      · next heq => exact absurd (List.cons.inj heq).1 hangle
      · next heq => exact absurd (List.cons.inj heq).1 hangle
      · next heq => exact absurd (List.cons.inj heq).1 hangle
      · rfl
    rw [inlineMarkup, hnone]
  · have hamp := ha.ne_char (c := '&') (by decide)
    unfold characterReference
    split
    · next heq => exact absurd (List.cons.inj heq).1 hamp
    · rfl

theorem pass_of_idle {pattern : Pattern} (hpattern : pattern ∈ idlePatterns references)
    (hs : ∀ a ∈ s, a.IsProse) : pattern.pass inner s = s :=
  Pattern.pass_of_nothing fun _ _ hsuffix before =>
    eq_nothing_of_idle hpattern (fun b hb => hs b (hsuffix.subset hb)) before

end

/-! ## 3. Runs of backticks -/

/-- Not both characters are backticks. -/
def NotBothTicks (c d : Char) : Prop :=
  ¬ (c = '\x60' ∧ d = '\x60')

theorem isChain_notBothTicks {s : List Char} (h : '\x60' ∉ s) : s.IsChain NotBothTicks := by
  refine List.Pairwise.isChain (List.pairwise_of_forall_mem_list ?_)
  rintro c hc d - ⟨rfl, -⟩
  exact h hc

theorem notBothTicks_of_left {c d : Char} (h : c ≠ '\x60') : NotBothTicks c d :=
  fun hboth => h hboth.1

theorem notBothTicks_of_right {c d : Char} (h : d ≠ '\x60') : NotBothTicks c d :=
  fun hboth => h hboth.2

theorem Run.IsSound.isChain_notBothTicks {r : Run} (h : r.IsSound) :
    r.source.IsChain NotBothTicks := by
  cases r with
  | plain s => exact Markdown.isChain_notBothTicks (IsWordOver.not_mem h (by decide) (by decide))
  | code s =>
    have hs := IsWordOver.not_mem h (d := '\x60') (by decide) (by decide)
    obtain ⟨c, rest, rfl⟩ := List.exists_cons_of_ne_nil (IsWordOver.ne_nil h)
    refine List.isChain_cons.mpr ⟨?_, List.isChain_append.mpr ⟨?_, .singleton _, ?_⟩⟩
    · rintro d ⟨⟩
      exact notBothTicks_of_right fun heq => hs (heq ▸ List.mem_cons_self)
    · exact Markdown.isChain_notBothTicks hs
    · intro d hd _ _
      exact notBothTicks_of_left fun heq => hs (heq ▸ List.mem_of_getLast? hd)
  | emphasis s =>
    have hs := IsPhrase.not_mem h (d := '\x60') (by decide) (by decide)
    exact Markdown.isChain_notBothTicks (by simp [Run.source, hs])
  | link label target =>
    have hlabel := IsPhrase.not_mem h.1 (d := '\x60') (by decide) (by decide)
    have htarget := IsWordOver.not_mem h.2 (d := '\x60') (by decide) (by decide)
    exact Markdown.isChain_notBothTicks (by simp [Run.source, hlabel, htarget])

/-- Backticks in prose stand alone. -/
theorem AreRuns.isChain_notBothTicks {runs : List Run} (h : AreRuns runs) :
    (runs.flatMap Run.source).IsChain NotBothTicks := by
  induction runs with
  | nil => exact .nil
  | cons r runs ih =>
    rw [List.flatMap_cons]
    refine List.isChain_append.mpr ⟨h.head.isChain_notBothTicks, ih h.tail, ?_⟩
    intro c hc d hd
    cases hr : r.isPlain with
    | true =>
      cases r with
      | plain s =>
        have hs := IsWordOver.not_mem h.head (d := '\x60') (by decide) (by decide)
        exact notBothTicks_of_left fun heq => hs (heq ▸ List.mem_of_getLast? hc)
      | code _ | emphasis _ | link _ _ => cases hr
    | false =>
      rcases h.next hr with rfl | ⟨e, s, rest, rfl, hs⟩
      · cases hd
      · have hnot := hs.not_mem (d := '\x60') (by decide) (by decide)
        cases hd
        exact notBothTicks_of_right fun heq => hnot (heq ▸ List.mem_cons_self)

/-- Are both atoms backticks, or neither? -/
def sameTicks (a b : Atom) : Bool :=
  a.is '\x60' == b.is '\x60'

theorem eq_one_of_mem_tickRuns {s : List Char} (h : s.IsChain NotBothTicks) :
    ∀ n ∈ tickRuns (ofChars s), n = 1 := by
  intro n hn
  rw [tickRuns, List.mem_map] at hn
  obtain ⟨part, hpart, rfl⟩ := hn
  obtain ⟨hpart, hticks⟩ := List.mem_filter.mp hpart
  have hsame : part.IsChain fun a b => sameTicks a b = true := List.isChain_of_mem_splitBy hpart
  have hlone : part.IsChain fun a b => ¬ (a.is '\x60' = true ∧ b.is '\x60' = true) := by
    refine List.IsChain.infix ?_ (List.infix_of_mem_flatten hpart)
    rw [List.flatten_splitBy, ofChars, List.isChain_map]
    exact h.imp fun c d hcd => by simpa [is_char, NotBothTicks] using hcd
  match part, hticks, hsame, hlone with
  | [_], _, _, _ => rfl
  | a :: b :: rest, hticks, hsame, hlone =>
    have ha : a.is '\x60' = true := hticks
    have hab := (List.isChain_cons_cons.mp hsame).1
    rw [sameTicks, ha, beq_iff_eq] at hab
    exact absurd ⟨ha, hab.symm⟩ (List.isChain_cons_cons.mp hlone).1

theorem startsWith_of_sameTicks {part : Atoms}
    (h : part.IsChain fun a b => sameTicks a b = true) (hmem : Atom.char '\x60' ∈ part) :
    startsWith '\x60' part = true := by
  induction part with
  | nil => cases hmem
  | cons a part ih =>
    rcases List.mem_cons.mp hmem with rfl | hmem
    · exact is_char
    · have hpart := ih h.tail hmem
      obtain ⟨b, rest, rfl⟩ := List.exists_cons_of_ne_nil (List.ne_nil_of_mem hmem)
      have hab := (List.isChain_cons_cons.mp h).1
      rw [sameTicks, beq_iff_eq] at hab
      exact hab.trans hpart

theorem tickRuns_ne_nil {s : List Char} (h : '\x60' ∈ s) : tickRuns (ofChars s) ≠ [] := by
  have hmem : Atom.char '\x60' ∈ ((ofChars s).splitBy sameTicks).flatten := by
    rw [List.flatten_splitBy]
    exact List.mem_map_of_mem h
  obtain ⟨part, hpart, hmem⟩ := List.mem_flatten.mp hmem
  have hticks := startsWith_of_sameTicks (List.isChain_of_mem_splitBy hpart) hmem
  have hrun : part.length ∈ tickRuns (ofChars s) :=
    List.mem_map_of_mem (List.mem_filter.mpr ⟨hpart, hticks⟩)
  exact List.ne_nil_of_mem hrun

theorem longestTicks_eq_one {s : List Char} (h : s.IsChain NotBothTicks) (hmem : '\x60' ∈ s) :
    longestTicks (ofChars s) = 1 := by
  have hones : ∀ l : List Nat, (∀ n ∈ l, n = 1) → l.foldl max 1 = 1 := by
    intro l hl
    induction l with
    | nil => rfl
    | cons n l ih =>
      rw [List.forall_mem_cons] at hl
      rw [List.foldl_cons, hl.1]
      exact ih hl.2
  have hall := eq_one_of_mem_tickRuns h
  obtain ⟨n, l, hl⟩ := List.exists_cons_of_ne_nil (tickRuns_ne_nil hmem)
  rw [hl, List.forall_mem_cons] at hall
  rw [longestTicks, hl, List.foldl_cons, hall.1]
  exact hones l hall.2

/-! ## 4. Code -/

theorem ofChars_flatMap (runs : List Run) :
    ofChars (runs.flatMap Run.source) = runs.flatMap fun r => ofChars r.source :=
  List.map_flatMap

theorem takeWhile_is_of_ne {c : Char} {a : Atom} (ha : a.is c = false) (s : Atoms) :
    (a :: s).takeWhile (Atom.is c) = [] := by
  rw [List.takeWhile_cons_of_neg (by simp [ha])]

/-- Only a backtick or a backslash can be the start of code. -/
theorem codeSpan_of_ne {inner : Atoms → Atoms} {a : Atom} (htick : a.is '\x60' = false)
    (hslash : a.is '\\' = false) (before s : Atoms) :
    codeSpan inner before (a :: s) = .nothing := by
  rw [codeSpan]
  split
  · rfl
  · simp only [runLength, takeWhile_is_of_ne hslash, takeWhile_is_of_ne htick]
    rfl

theorem runLength_tick {rest : List Char} (hrest : rest.head? ≠ some '\x60') :
    runLength '\x60' (.char '\x60' :: ofChars rest) = 1 := by
  rw [runLength, List.takeWhile_cons_of_pos is_char]
  cases rest with
  | nil => rfl
  | cons c rest =>
    have hc : c ≠ '\x60' := fun heq => hrest (heq ▸ rfl)
    have hnone := takeWhile_is_of_ne (c := '\x60') (a := .char c) (by simp [is_char, hc])
    rw [ofChars, List.map_cons, hnone]
    rfl

/-- The first backtick that stands alone. -/
theorem findTicks?_eq {s : List Char} (hs : '\x60' ∉ s) {rest : List Char}
    (hrest : rest.head? ≠ some '\x60') (index : Nat) :
    findTicks? 1 false index (ofChars (s ++ '\x60' :: rest)) = some (index + s.length) := by
  induction s generalizing index with
  | nil =>
    have hrun := runLength_tick hrest
    simp only [ofChars, List.nil_append, List.map_cons] at hrun ⊢
    rw [findTicks?, hrun]
    rfl
  | cons c s ih =>
    rw [List.mem_cons, not_or] at hs
    have hc : (Atom.char c).is '\x60' = false := by simp [is_char, Ne.symm hs.1]
    rw [List.cons_append, ofChars, List.map_cons, findTicks?, hc]
    have hrest := ih hs.2 (index + 1)
    rw [ofChars] at hrest
    simp only [Bool.false_and, Bool.false_eq_true, if_false, hrest, List.length_cons]
    congr 1
    omega

theorem trim_ofChars {s : List Char} (h : ∀ c ∈ s, isBlank c = false) :
    trim (ofChars s) = ofChars s := by
  have hatoms : ∀ a ∈ ofChars s, ¬ a.isBlank = true := by
    intro a ha
    obtain ⟨c, hc, rfl⟩ := List.mem_map.mp ha
    simp [Atom.isBlank, h c hc]
  have hdrop : ∀ t : Atoms, (∀ a ∈ t, ¬ a.isBlank = true) → t.dropWhile Atom.isBlank = t := by
    intro t ht
    cases t with
    | nil => rfl
    | cons a t => rw [List.dropWhile_cons_of_neg (ht a List.mem_cons_self)]
  rw [trim, dropBlank, hdrop _ hatoms, dropEndBlank,
    hdrop _ fun a ha => hatoms a (List.mem_reverse.mp ha), List.reverse_reverse]

theorem codeText_ofChars {s : List Char} (hs : ∀ c ∈ s, c ≠ '&' ∧ c ≠ '<' ∧ c ≠ '>') :
    codeText (ofChars s) = verbatimText s := by
  induction s with
  | nil => rfl
  | cons c s ih =>
    rw [List.forall_mem_cons] at hs
    have hc : codeChar c = [c] := by simp [codeChar, hs.1]
    have hrest := ih hs.2
    rw [codeText, ofChars] at hrest
    rw [codeText, ofChars, List.map_cons, List.flatMap_cons, hrest]
    dsimp only
    rw [hc]
    rfl

/-- Between backticks stands code. -/
theorem codeSpan_code (inner : Atoms → Atoms) {s rest : List Char} (h : (Run.code s).IsSound)
    (hrest : rest.head? ≠ some '\x60') (hlone : (s ++ '\x60' :: rest).IsChain NotBothTicks)
    {before : Atoms} (hbefore : endsWith '\\' before = false) :
    codeSpan inner before (.char '\x60' :: ofChars (s ++ '\x60' :: rest)) =
      .found (Run.code s).withCode (s.length + 2) := by
  have hword : IsWordOver ['-', '#', '*', '?', '/', '.'] s := h
  have htick := hword.not_mem (d := '\x60') (by decide) (by decide)
  have hprose := hword.isProseChar (by decide)
  have hmarks : ∀ c ∈ s, c ≠ '&' ∧ c ≠ '<' ∧ c ≠ '>' := fun c hc =>
    ⟨ne_of_not (hprose c hc) (by decide), ne_of_not (hprose c hc) (by decide),
      ne_of_not (hprose c hc) (by decide)⟩
  have hrun : runLength '\x60' (.char '\x60' :: ofChars (s ++ '\x60' :: rest)) = 1 := by
    refine runLength_tick fun hhead => htick ?_
    obtain ⟨c, t, rfl⟩ := List.exists_cons_of_ne_nil hword.ne_nil
    cases hhead
    exact List.mem_cons_self
  have hslash : runLength '\\' (.char '\x60' :: ofChars (s ++ '\x60' :: rest)) = 0 := by
    rw [runLength, takeWhile_is_of_ne (by decide)]
    rfl
  have hlongest := longestTicks_eq_one hlone (by simp)
  have hfind := findTicks?_eq htick hrest 0
  have hinside : (ofChars (s ++ '\x60' :: rest)).take s.length = ofChars s := by
    rw [ofChars_append]
    exact List.take_left' (by simp [ofChars])
  rw [codeSpan, if_neg (by simp [hbefore]), hslash, hrun]
  simp only [bne_self_eq_false, Bool.false_eq_true, if_false, List.drop_succ_cons, List.drop_zero]
  rw [codeAfter, hlongest]
  simp only [Nat.min_self, Nat.le_refl, if_true, hfind, Nat.zero_add, Nat.sub_self,
    List.replicate_zero, List.nil_append, hinside, trim_ofChars (hword.isBlank (by decide)),
    codeText_ofChars hmarks]
  rw [Run.withCode, Nat.add_comm 1, Nat.add_assoc]

/-- An atom that is neither a backtick nor a backslash. -/
theorem codeSpan_of_isProse {inner : Atoms → Atoms} {s : List Char}
    (hs : ∀ c ∈ s, isProseChar c = true) (htick : '\x60' ∉ s) :
    ∀ a ∈ ofChars s, ∀ before rest, codeSpan inner before (a :: rest) = .nothing := by
  intro a ha before rest
  obtain ⟨c, hc, rfl⟩ := List.mem_map.mp ha
  have hcode : c ≠ '\x60' := fun heq => htick (heq ▸ hc)
  have hslash : c ≠ '\\' := ne_of_not (hs c hc) (by decide)
  exact codeSpan_of_ne (by simp [is_char, hcode]) (by simp [is_char, hslash]) before rest

section

variable {runs : List Run} {inner : Atoms → Atoms}

theorem withCode_of_not_code {r : Run} (hr : ∀ s, r ≠ .code s) : r.withCode = ofChars r.source := by
  cases r with
  | code s => exact absurd rfl (hr s)
  | _ => rfl

theorem Run.IsSound.tick_not_mem {r : Run} (h : r.IsSound) (hr : ∀ s, r ≠ .code s) :
    '\x60' ∉ r.source := by
  cases r with
  | code s => exact absurd rfl (hr s)
  | plain s => exact IsWordOver.not_mem h (by decide) (by decide)
  | emphasis s =>
    have hs := IsPhrase.not_mem h (d := '\x60') (by decide) (by decide)
    simp [Run.source, hs]
  | link label target =>
    have hlabel := IsPhrase.not_mem h.1 (d := '\x60') (by decide) (by decide)
    have htarget := IsWordOver.not_mem h.2 (d := '\x60') (by decide) (by decide)
    simp [Run.source, hlabel, htarget]

theorem Run.IsSound.isProse_withCode {r : Run} (h : r.IsSound) : ∀ a ∈ r.withCode, a.IsProse := by
  have hchars : ∀ a ∈ ofChars r.source, a.IsProse := by
    intro a ha
    obtain ⟨c, hc, rfl⟩ := List.mem_map.mp ha
    exact .char (h.isProseChar c hc)
  cases r with
  | code s =>
    rintro a ha
    rw [List.mem_singleton.mp ha]
    exact .node _ _ _
  | _ => exact hchars

theorem endsWith_of_isProse {before : Atoms} (h : ∀ a ∈ before, a.IsProse) {c : Char}
    (hc : isProseChar c = false) : endsWith c before = false := by
  cases before with
  | nil => rfl
  | cons a before => exact (h a List.mem_cons_self).is_eq_false hc

/-- No sign follows code, emphasis or a link. -/
theorem AreRuns.head?_ne {r : Run} (h : AreRuns (r :: runs)) (hr : r.isPlain = false) {d : Char}
    (hd : isLetterOrNumber d = false) (hplain : d ∉ [' ', ',', ':']) :
    (runs.flatMap Run.source).head? ≠ some d := by
  rcases h.next hr with rfl | ⟨c, s, rest, rfl, hs⟩
  · exact nofun
  · intro hhead
    have hc : c = d := Option.some.inj hhead
    exact hs.not_mem hd hplain (hc ▸ List.mem_cons_self)

/-- A pattern that puts one thing for each run puts these things for all of them. -/
theorem AreRuns.replaceFrom_flatMap {fits : Atoms → Atoms → Finding} {before : Atoms}
    {old new : Run → Atoms} (hnew : ∀ r : Run, r.IsSound → ∀ a ∈ new r, a.IsProse)
    (hstep : ∀ r runs before, AreRuns (r :: runs) → (∀ a ∈ before, a.IsProse) →
      replaceFrom fits 0 0 before (old r ++ runs.flatMap old) =
        replaceFrom fits 0 0 ((new r).reverse ++ before) (runs.flatMap old))
    (h : AreRuns runs) (hbefore : ∀ a ∈ before, a.IsProse) :
    replaceFrom fits 0 0 before (runs.flatMap old) = before.reverse ++ runs.flatMap new := by
  induction runs generalizing before with
  | nil => simp [replaceFrom]
  | cons r runs ih =>
    have hmore : ∀ a ∈ (new r).reverse ++ before, a.IsProse := by
      intro a ha
      rcases List.mem_append.mp ha with ha | ha
      · exact hnew r h.head a (List.mem_reverse.mp ha)
      · exact hbefore a ha
    rw [List.flatMap_cons, hstep r runs before h hbefore, ih h.tail hmore, List.reverse_append,
      List.reverse_reverse, List.append_assoc, List.flatMap_cons]

/-- The first pattern finds the code in a line. -/
theorem AreRuns.pass_codeSpan (h : AreRuns runs) :
    codeSpan.pass inner (ofChars (runs.flatMap Run.source)) = runs.flatMap Run.withCode := by
  rw [ofChars_flatMap]
  refine h.replaceFrom_flatMap (fun r hr => hr.isProse_withCode) ?_ (by simp)
  intro r runs before h hbefore
  rw [← ofChars_flatMap]
  by_cases hcode : ∃ s, r = .code s
  · obtain ⟨s, rfl⟩ := hcode
    have hlone := h.isChain_notBothTicks
    have hsource : (Run.code s).source ++ runs.flatMap Run.source =
        '\x60' :: (s ++ '\x60' :: runs.flatMap Run.source) := by
      simp [Run.source]
    rw [List.flatMap_cons, hsource] at hlone
    have hfound := codeSpan_code inner h.head
      (h.head?_ne rfl (d := '\x60') (by decide) (by decide)) hlone.tail
      (endsWith_of_isProse hbefore (by decide))
    have hatoms : ofChars (s ++ '\x60' :: runs.flatMap Run.source) =
        ofChars (s ++ ['\x60']) ++ ofChars (runs.flatMap Run.source) := by
      simp [ofChars]
    rw [hatoms] at hfound
    rw [← ofChars_append, hsource, ofChars, List.map_cons, ← ofChars, hatoms]
    exact replaceFrom_of_found (by rw [hfound]; simp [ofChars])
  · have hnot : ∀ s, r ≠ .code s := fun s heq => hcode ⟨s, heq⟩
    rw [withCode_of_not_code hnot]
    exact replaceFrom_append_of_nothing
      (codeSpan_of_isProse h.head.isProseChar (h.head.tick_not_mem hnot))

end

/-! ## 5. Links -/

/-- The text of a link, up to its closing bracket. -/
theorem bracketed?_ofChars {label : List Char} (hopen : '[' ∉ label) (hclose : ']' ∉ label)
    (rest : Atoms) :
    bracketed? 0 (ofChars label ++ .char ']' :: rest) = some (ofChars label, rest) := by
  induction label with
  | nil => rfl
  | cons c label ih =>
    rw [List.mem_cons, not_or] at hopen hclose
    have hc : (Atom.char c).is ']' = false := by simp [is_char, Ne.symm hclose.1]
    have hd : (Atom.char c).is '[' = false := by simp [is_char, Ne.symm hopen.1]
    have hrest := ih hopen.2 hclose.2
    simp only [ofChars] at hrest
    rw [ofChars, List.map_cons, List.cons_append, bracketed?, hc, hd]
    simp [hrest]

/-- The search goes on to the parenthesis that closes the target. -/
theorem run_start {target : List Char}
    (htarget : ∀ c ∈ target, c ≠ '(' ∧ c ≠ ')' ∧ c ≠ '"' ∧ c ≠ '\'') (rest : Atoms)
    (last : Option Char) (index : Nat) :
    ∃ last', Search.run { Search.start with last } index (ofChars target ++ .char ')' :: rest) =
      ({ Search.start with last := last', depth := 0 }, index + target.length + 1) := by
  induction target generalizing last index with
  | nil => exact ⟨last, rfl⟩
  | cons c target ih =>
    rw [List.forall_mem_cons] at htarget
    obtain ⟨⟨hleft, hright, hdouble, hsingle⟩, htarget⟩ := htarget
    have hmeet : Search.meet { Search.start with last } index (.char c) =
        { Search.start with last } := by
      unfold Search.meet
      split
      · next heq => exact absurd (Atom.char.inj heq) hleft
      · next heq => exact absurd (Atom.char.inj heq) hright
      · next heq =>
        cases heq
        simp [hdouble, hsingle]
      · rfl
    obtain ⟨last', hrun⟩ := ih htarget (if (Atom.char c).is ' ' then last else some c) (index + 1)
    refine ⟨last', ?_⟩
    have hindex : index + (c :: target).length + 1 = index + 1 + target.length + 1 := by
      rw [List.length_cons]
      omega
    rw [ofChars, List.map_cons, List.cons_append, Search.run, hmeet, hindex, ← hrun]
    rfl

theorem flatten_ofChars (s : List Char) : flatten (ofChars s) = ofChars s := by
  induction s with
  | nil => rw [ofChars, List.map_nil, flatten]
  | cons c s ih =>
    rw [ofChars] at ih
    rw [ofChars, List.map_cons, flatten, ih]

/-- The target of a link, up to its closing parenthesis. -/
theorem targetAt?_ofChars {target : List Char} (h : IsWordOver [':', '/', '.', '-', '#'] target)
    (rest : Atoms) :
    targetAt? (.char '(' :: (ofChars target ++ .char ')' :: rest)) =
      some (⟨ofChars target, none⟩, rest) := by
  have hsigns : ∀ c ∈ target, c ≠ '(' ∧ c ≠ ')' ∧ c ≠ '"' ∧ c ≠ '\'' := by
    have hleft := h.not_mem (d := '(') (by decide) (by decide)
    have hright := h.not_mem (d := ')') (by decide) (by decide)
    have hquote := h.not_mem (d := '"') (by decide) (by decide)
    have hmark := h.not_mem (d := '\'') (by decide) (by decide)
    exact fun c hc => ⟨fun heq => hleft (heq ▸ hc), fun heq => hright (heq ▸ hc),
      fun heq => hquote (heq ▸ hc), fun heq => hmark (heq ▸ hc)⟩
  have hblank := h.isBlank (by decide)
  have hangle := h.not_mem (d := '<') (by decide) (by decide)
  obtain ⟨last, hrun⟩ := run_start hsigns rest none 0
  have hplace : (ofChars target ++ .char ')' :: rest).take (0 + target.length + 1 - 1) =
      ofChars target := List.take_left' (by simp [ofChars])
  have hafter : (ofChars target ++ .char ')' :: rest).drop (0 + target.length + 1) = rest := by
    rw [← List.singleton_append, ← List.append_assoc]
    exact List.drop_left' (by simp [ofChars])
  have hplain : plainTarget? (ofChars target ++ .char ')' :: rest) =
      some (⟨ofChars target, none⟩, rest) := by
    rw [plainTarget?, show Search.start = { Search.start with last := none } from rfl, hrun]
    simp only [beq_self_eq_true, if_true, hafter, targetOf, Search.start, hplace, Target.ofParts,
      flatten_ofChars, trim_ofChars hblank, Option.map_none]
  obtain ⟨c, t, rfl⟩ := List.exists_cons_of_ne_nil h.ne_nil
  have hfirst : dropBlank (ofChars (c :: t) ++ .char ')' :: rest) =
      ofChars (c :: t) ++ .char ')' :: rest := by
    rw [dropBlank, ofChars, List.map_cons, List.cons_append, List.dropWhile_cons_of_neg]
    simp [Atom.isBlank, hblank c List.mem_cons_self]
  have hnone : angleTarget? (ofChars (c :: t) ++ .char ')' :: rest) = none := by
    unfold angleTarget?
    split
    · next heq =>
      have hc : c = '<' := Atom.char.inj (List.cons.inj heq).1
      exact absurd (hc ▸ List.mem_cons_self) hangle
    · rfl
  rw [targetAt?, hfirst, hnone]
  exact hplain

section

variable {inner : Atoms → Atoms} {label target : List Char} {before rest : Atoms}

theorem IsPhrase.brackets (h : IsPhrase label) : '[' ∉ label ∧ ']' ∉ label :=
  ⟨h.not_mem (by decide) (by decide), h.not_mem (by decide) (by decide)⟩

/-- A link as atoms, with the text after it. -/
def linkAtoms (label target : List Char) (rest : Atoms) : Atoms :=
  .char '[' :: (ofChars label ++ .char ']' :: .char '(' :: (ofChars target ++ .char ')' :: rest))

theorem opening?_linkAtoms (h : IsPhrase label) (hbefore : endsWith '!' before = false) :
    opening? false before (linkAtoms label target rest) =
      some (ofChars label, .char '(' :: (ofChars target ++ .char ')' :: rest)) := by
  unfold linkAtoms opening?
  rw [if_neg (by decide)]
  simp only [hbefore, Bool.false_eq_true, if_false]
  exact bracketed?_ofChars h.brackets.1 h.brackets.2 _

/-- No label follows the text of a link whose target stands in parentheses. -/
theorem referenceLink_linkAtoms (references : References) (h : IsPhrase label)
    (hbefore : endsWith '!' before = false) :
    referenceLink references false true inner before (linkAtoms label target rest) = .nothing := by
  rw [referenceLink, opening?_linkAtoms h hbefore]
  rfl

/-- Brackets with parentheses after them are a link. -/
theorem inlineLink_linkAtoms (h : (Run.link label target).IsSound)
    (hbefore : endsWith '!' before = false) (hinner : inner (ofChars label) = ofChars label) :
    inlineLink false inner before (linkAtoms label target rest) =
      .found (Run.link label target).withLinks (label.length + target.length + 4) := by
  rw [inlineLink, opening?_linkAtoms h.1 hbefore]
  dsimp only
  rw [targetAt?_ofChars h.2]
  dsimp only
  rw [linkTo, if_neg (by decide), hinner]
  have hlength : (linkAtoms label target rest).length - rest.length =
      label.length + target.length + 4 := by
    simp only [linkAtoms, ofChars, List.length_cons, List.length_append, List.length_map]
    omega
  rw [hlength]
  rfl

/-- A link starts with a bracket. -/
theorem opening?_false_of_ne {a : Atom} (ha : a ≠ .char '[') {s : Atoms} :
    opening? false before (a :: s) = none := by
  unfold opening?
  rw [if_neg (by decide)]
  split
  · next heq => exact absurd (List.cons.inj heq).1 ha
  · rfl

theorem bracket_not_mem_of_not_link {r : Run} (h : r.IsSound)
    (hr : ∀ label target, r ≠ .link label target) : ∀ a ∈ r.withLinks, a ≠ .char '[' := by
  have hchars {s : List Char} (hs : '[' ∉ s) : ∀ a ∈ ofChars s, a ≠ .char '[' := by
    rintro a ha rfl
    obtain ⟨c, hc, heq⟩ := List.mem_map.mp ha
    exact hs (Atom.char.inj heq ▸ hc)
  cases r with
  | link label target => exact absurd rfl (hr label target)
  | plain s => exact hchars (IsWordOver.not_mem h (by decide) (by decide))
  | emphasis s =>
    have hs := IsPhrase.not_mem h (d := '[') (by decide) (by decide)
    exact hchars (by simp [Run.source, hs])
  | code s =>
    rintro a ha
    rw [List.mem_singleton.mp ha]
    intro heq
    cases heq

theorem withLinks_of_not_link {r : Run} (hr : ∀ label target, r ≠ .link label target) :
    r.withLinks = r.withCode := by
  cases r with
  | link label target => exact absurd rfl (hr label target)
  | _ => rfl

theorem withCode_link (label target : List Char) (rest : Atoms) :
    (Run.link label target).withCode ++ rest = linkAtoms label target rest := by
  simp [Run.withCode, Run.source, linkAtoms, ofChars]

/-- The characters of a link after its first bracket. -/
theorem bracket_not_mem_link (h : (Run.link label target).IsSound) :
    ∀ a ∈ (Run.link label target).withCode.tail, a ≠ .char '[' := by
  have hlabel := h.1.brackets.1
  have htarget := h.2.not_mem (d := '[') (by decide) (by decide)
  rintro a ha rfl
  simp [Run.withCode, Run.source, ofChars, hlabel, htarget] at ha

variable {runs : List Run} {references : References}

theorem AreRuns.isProse_withCode (h : AreRuns runs) :
    ∀ a ∈ runs.flatMap Run.withCode, a.IsProse := by
  intro a ha
  obtain ⟨r, hr, ha⟩ := List.mem_flatMap.mp ha
  exact (h.sound r hr).isProse_withCode a ha

/-- A link by reference does not fit. -/
theorem AreRuns.pass_referenceLink (h : AreRuns runs) :
    (referenceLink references false true).pass inner (runs.flatMap Run.withCode) =
      runs.flatMap Run.withCode := by
  have hnothing {t : Atoms} (ht : ∀ a ∈ t, a ≠ .char '[') : ∀ a ∈ t, ∀ before rest,
      referenceLink references false true inner before (a :: rest) = .nothing := by
    intro a ha before rest
    rw [referenceLink, opening?_false_of_ne (ht a ha)]
  refine h.replaceFrom_flatMap (fun r hr => hr.isProse_withCode) ?_ (by simp)
  intro r runs before h hbefore
  by_cases hlink : ∃ label target, r = .link label target
  · obtain ⟨label, target, rfl⟩ := hlink
    have hfirst : referenceLink references false true inner before
        (linkAtoms label target (runs.flatMap Run.withCode)) = .nothing :=
      referenceLink_linkAtoms references h.head.1
        (endsWith_of_isProse hbefore (c := '!') (by decide))
    have hsplit : (Run.link label target).withCode =
        .char '[' :: (Run.link label target).withCode.tail := rfl
    rw [← withCode_link, hsplit, List.cons_append] at hfirst
    rw [hsplit, List.cons_append, replaceFrom, hfirst]
    dsimp only
    rw [replaceFrom_append_of_nothing (hnothing (bracket_not_mem_link h.head)),
      List.reverse_cons, List.append_assoc, List.singleton_append]
  · have hnot : ∀ label target, r ≠ .link label target :=
      fun label target heq => hlink ⟨label, target, heq⟩
    have hno := bracket_not_mem_of_not_link h.head hnot
    rw [withLinks_of_not_link hnot] at hno
    exact replaceFrom_append_of_nothing (hnothing hno)

theorem Run.IsSound.isProse_withLinks {r : Run} (h : r.IsSound) :
    ∀ a ∈ r.withLinks, a.IsProse := by
  cases r with
  | link label target =>
    rintro a ha
    rw [List.mem_singleton.mp ha]
    exact .node _ _ _
  | _ => exact h.isProse_withCode

theorem AreRuns.isProse_withLinks (h : AreRuns runs) :
    ∀ a ∈ runs.flatMap Run.withLinks, a.IsProse := by
  intro a ha
  obtain ⟨r, hr, ha⟩ := List.mem_flatMap.mp ha
  exact (h.sound r hr).isProse_withLinks a ha

/-- The pattern of links finds those in a line. -/
theorem AreRuns.pass_inlineLink (h : AreRuns runs)
    (hinner : ∀ label, IsPhrase label → inner (ofChars label) = ofChars label) :
    (inlineLink false).pass inner (runs.flatMap Run.withCode) = runs.flatMap Run.withLinks := by
  refine h.replaceFrom_flatMap (fun r hr => hr.isProse_withLinks) ?_ (by simp)
  intro r runs before h hbefore
  by_cases hlink : ∃ label target, r = .link label target
  · obtain ⟨label, target, rfl⟩ := hlink
    have hfound : inlineLink false inner before
        (linkAtoms label target (runs.flatMap Run.withCode)) =
          .found (Run.link label target).withLinks (label.length + target.length + 4) :=
      inlineLink_linkAtoms h.head (endsWith_of_isProse hbefore (c := '!') (by decide))
        (hinner label h.head.1)
    have hsplit : (Run.link label target).withCode =
        .char '[' :: (Run.link label target).withCode.tail := rfl
    rw [← withCode_link, hsplit, List.cons_append] at hfound
    rw [hsplit, List.cons_append]
    refine replaceFrom_of_found ?_
    rw [hfound]
    simp [Run.withCode, Run.source, ofChars]
    omega
  · have hnot : ∀ label target, r ≠ .link label target :=
      fun label target heq => hlink ⟨label, target, heq⟩
    have hno := bracket_not_mem_of_not_link h.head hnot
    rw [withLinks_of_not_link hnot] at hno ⊢
    refine replaceFrom_append_of_nothing fun a ha before rest => ?_
    rw [inlineLink, opening?_false_of_ne (hno a ha)]

/-- Without brackets there is no link by reference either. -/
theorem pass_referenceLink_of_no_bracket {s : Atoms} (hs : ∀ a ∈ s, a ≠ .char '[') (long : Bool) :
    (referenceLink references false long).pass inner s = s := by
  refine Pattern.pass_of_nothing fun a t hsuffix before => ?_
  rw [referenceLink, opening?_false_of_ne (hs a (hsuffix.subset List.mem_cons_self))]

theorem AreRuns.no_bracket_withLinks (h : AreRuns runs) :
    ∀ a ∈ runs.flatMap Run.withLinks, a ≠ .char '[' := by
  intro a ha
  obtain ⟨r, hr, ha⟩ := List.mem_flatMap.mp ha
  by_cases hlink : ∃ label target, r = .link label target
  · obtain ⟨label, target, rfl⟩ := hlink
    rw [List.mem_singleton.mp ha]
    intro heq
    cases heq
  · exact bracket_not_mem_of_not_link (h.sound r hr)
      (fun label target heq => hlink ⟨label, target, heq⟩) a ha

end

end StaticSite.Markdown
