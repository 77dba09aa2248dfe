/-
StaticSite.Proofs.Markup.Verbatim — texts that are put between tags without escaping.

Where elements are written with texts as they stand, the page is read as
these elements and these texts just if each text is shown as it stands: no
tag or comment starts in it, and it has no reference to decode
(`shown?_written_iff`). If a tag or a comment does start in a text, fewer
characters than the text has come before it, and decoding does not make
them more (`shown?_ne_of_startsMarkup`).
-/
import StaticSite.Proofs.Markup.HtmlTree

namespace StaticSite.Markup

/-! ## 1. Texts that are shown as they stand -/

/-- No tag or comment starts in the text, and decoding leaves it as it is. -/
structure IsShown (d : Decoder) (s : List Char) : Prop where
  startsMarkup : startsMarkup false s = false
  decode : d.decode s = s

theorem isShown_of_plain (d : Decoder) {s : List Char} (hsign : '<' ∉ s) (hampersand : '&' ∉ s) :
    IsShown d s :=
  ⟨startsMarkup_of_not_mem hsign, d.plain s hampersand⟩

theorem isShown_nil {d : Decoder} : IsShown d [] :=
  isShown_of_plain d List.not_mem_nil List.not_mem_nil

/-- All texts between the tags are shown as they stand, where some characters have just been
passed. -/
def AreShown (d : Decoder) (read : List Char) : List Lexeme → Prop
  | [] => IsShown d read
  | .char c :: ls => AreShown d (read ++ [c]) ls
  | _ :: ls => IsShown d read ∧ AreShown d [] ls

section

variable {d : Decoder} {l : Lexeme} {ls : List Lexeme}

theorem areShown_cons (h : l.isMarkup = true) (read : List Char) :
    AreShown d read (l :: ls) ↔ IsShown d read ∧ AreShown d [] ls := by
  cases l with
  | char c => cases h
  | _ => exact Iff.rfl

theorem areShown_append (h : l.isMarkup = true) (read : List Char) (more : List Lexeme) :
    AreShown d read (ls ++ l :: more) ↔ AreShown d read ls ∧ AreShown d [] more := by
  induction ls generalizing read with
  | nil => exact areShown_cons h read
  | cons first ls ih =>
    rw [List.cons_append]
    cases first with
    | char c => exact ih (read ++ [c])
    | _ => rw [areShown_cons rfl, areShown_cons rfl, ih, and_assoc]

theorem areShown_chars (read s : List Char) :
    AreShown d read (chars s ++ ls) ↔ AreShown d (read ++ s) ls := by
  induction s generalizing read with
  | nil => rw [List.append_nil, chars, List.map_nil, List.nil_append]
  | cons c s ih =>
    have hchars : chars (c :: s) ++ ls = .char c :: (chars s ++ ls) := rfl
    rw [hchars, AreShown, ih, List.append_assoc, List.singleton_append]

end

/-! ## 2. Decoded texts -/

section

variable (d : Decoder)

theorem Decoder.decodeTexts_cons {l : Lexeme} (h : l.isMarkup = true) (read : List Char)
    (ls : List Lexeme) :
    d.decodeTexts read (l :: ls) = chars (d.decode read) ++ l :: d.decodeTexts [] ls := by
  cases l with
  | char c => cases h
  | _ => rfl

theorem Decoder.decodeTexts_chars (read s : List Char) (ls : List Lexeme) :
    d.decodeTexts read (chars s ++ ls) = d.decodeTexts (read ++ s) ls := by
  induction s generalizing read with
  | nil => rw [List.append_nil, chars, List.map_nil, List.nil_append]
  | cons c s ih =>
    have hchars : chars (c :: s) ++ ls = .char c :: (chars s ++ ls) := rfl
    rw [hchars, decodeTexts, ih, List.append_assoc, List.singleton_append]

/-- Before a tag, a text is decoded by itself. -/
theorem Decoder.decodeTexts_of_isAtMarkup {ls : List Lexeme} (h : IsAtMarkup ls)
    (read : List Char) :
    ∃ rest, IsAtMarkup rest ∧ d.decodeTexts read ls = chars (d.decode read) ++ rest := by
  cases ls with
  | nil => exact ⟨[], trivial, (List.append_nil _).symm⟩
  | cons l ls =>
    cases l with
    | char c => exact h.elim
    | _ => exact ⟨_, isAtMarkup_cons rfl _, rfl⟩

theorem map_mapValues_chars (f : List Char → List Char) (s : List Char) :
    (chars s).map (Lexeme.mapValues f) = chars s := by
  rw [chars, List.map_map]
  rfl

theorem isAtMarkup_map_mapValues {ls : List Lexeme} (h : IsAtMarkup ls)
    (f : List Char → List Char) :
    IsAtMarkup (ls.map (Lexeme.mapValues f)) := by
  cases ls with
  | nil => trivial
  | cons l ls =>
    cases l with
    | char c => exact h.elim
    | _ => trivial

end

/-! ## 3. Pages with texts as they stand -/

section

variable {d : Decoder} {s t : List Char} {first : List Lexeme}

theorem lexemes?_append (h : Lexer.inText.run s = some (.inText, first)) :
    lexemes? (s ++ t) = (lexemes? t).map (first ++ ·) := by
  rw [lexemes?, lexemes?, List.append_assoc, Lexer.run_append h]
  cases Lexer.inText.run (t ++ ['<']) with
  | none => rfl
  | some found =>
    obtain ⟨after, rest⟩ := found
    by_cases hspot : after.spot = .sign
    · simp [hspot]
    · simp [hspot]

/-- A text in which a tag or a comment starts is not shown as it stands, whatever comes after it. -/
theorem shown?_ne_of_startsMarkup (h : startsMarkup false s = true) {ls : List Lexeme}
    (hls : IsAtMarkup ls) : shown? d (s ++ t) ≠ some (chars s ++ ls) := by
  obtain ⟨front, rest, r, shown, rfl, hfront, hspot, hlength⟩ := Lexer.run_markup h
  have hfront : Lexer.inText.run front = some (r, chars shown) := hfront
  intro hshown
  obtain ⟨found, hfound, hdecoded⟩ := Option.map_eq_some_iff.mp hshown
  have hlisted : ∃ more, IsAtMarkup more ∧ found = chars shown ++ more := by
    rw [lexemes?, List.append_assoc, List.append_assoc, Lexer.run_append hfront] at hfound
    cases hrest : r.run (rest ++ (t ++ ['<'])) with
    | none => simp [hrest] at hfound
    | some entry =>
      rw [hrest] at hfound
      simp only [Option.map_some, Option.ite_none_right_eq_some, Option.some.injEq] at hfound
      exact ⟨entry.2, Lexer.run_inside hspot hrest, hfound.2.symm⟩
  obtain ⟨more, hmore, rfl⟩ := hlisted
  obtain ⟨last, hlast, htexts⟩ :=
    d.decodeTexts_of_isAtMarkup (isAtMarkup_map_mapValues hmore d.decode) shown
  rw [List.map_append, map_mapValues_chars, d.decodeTexts_chars, List.nil_append,
    htexts] at hdecoded
  -- The characters before the first tag are too few.
  have hfew := d.length_le shown
  rw [(chars_append_inj hlast hls hdecoded).1] at hfew
  exact absurd hfew (Nat.not_le.mpr hlength)

/-- A text and the tag after it. -/
theorem shown?_append_written {l : Lexeme} (hmarkup : l.isMarkup = true) (hl : l.isWritable = true)
    (hs : startsMarkup false s = false) :
    shown? d (s ++ (l.written ++ t)) =
      (shown? d t).map fun ls => chars (d.decode s) ++ l :: ls := by
  have hplain : Lexer.inText.run (s ++ ['<']) = some (.atSign, chars s) := Lexer.run_plain hs
  have hrun : Lexer.inText.run (s ++ l.written) = some (.inText, chars s ++ [l.raw]) := by
    rw [Lexeme.written_eq_cons hmarkup, List.append_cons]
    exact Lexer.run_trans hplain (Lexer.run_written_tail hmarkup hl)
  rw [← List.append_assoc, shown?, shown?, lexemes?_append hrun, Option.map_map, Option.map_map]
  congr 1
  funext ls
  simp only [Function.comp_apply, List.map_append, List.map_cons, map_mapValues_chars,
    d.mapValues_raw, List.append_assoc, List.singleton_append, d.decodeTexts_chars,
    d.decodeTexts_cons hmarkup, List.nil_append]

/-- A text without tags and comments. -/
theorem shown?_of_not_startsMarkup (hs : startsMarkup false s = false) :
    shown? d s = some (chars (d.decode s)) := by
  have hrun : Lexer.inText.run (s ++ ['<']) = some (.atSign, chars s) := Lexer.run_plain hs
  have hlexemes : lexemes? s = some (chars s) := by
    rw [lexemes?, hrun]
    rfl
  have hdecoded := d.decodeTexts_chars [] s []
  rw [List.append_nil, List.nil_append] at hdecoded
  rw [shown?, hlexemes, Option.map_some, map_mapValues_chars, hdecoded, Decoder.decodeTexts]

/-- Tags that elements write, with texts as they stand between them, are read as these tags and
these texts just if each text is shown as it stands. -/
theorem shown?_written_iff {ls : List Lexeme} (hls : ∀ l ∈ ls, l.isWritable = true)
    (read : List Char) :
    shown? d (read ++ ls.flatMap Lexeme.written) = some (chars read ++ ls) ↔
      AreShown d read ls := by
  -- What has been passed since the last tag is kept apart, since it is decoded as a whole.
  induction ls generalizing read with
  | nil =>
    rw [List.flatMap_nil, AreShown]
    cases hread : startsMarkup false read with
    | true =>
      refine iff_of_false (shown?_ne_of_startsMarkup hread (by trivial)) fun h => ?_
      exact Bool.noConfusion (hread.symm.trans h.startsMarkup)
    | false =>
      rw [List.append_nil, List.append_nil, shown?_of_not_startsMarkup hread, Option.some.injEq,
        chars, chars, List.map_inj_right (fun _ _ => Lexeme.char.inj)]
      exact ⟨fun h => ⟨hread, h⟩, fun h => h.decode⟩
  | cons l ls ih =>
    rw [List.forall_mem_cons] at hls
    obtain ⟨hl, hls⟩ := hls
    rw [List.flatMap_cons]
    cases hmarkup : l.isMarkup with
    | false =>
      cases l with
      | char c =>
        have hih := ih hls (read ++ [c])
        rw [chars_append, List.append_assoc, List.append_assoc] at hih
        exact hih
      | _ => cases hmarkup
    | true =>
      have hmore := isAtMarkup_cons hmarkup ls
      rw [areShown_cons hmarkup]
      cases hread : startsMarkup false read with
      | true =>
        refine iff_of_false (shown?_ne_of_startsMarkup hread hmore) fun h => ?_
        exact Bool.noConfusion (hread.symm.trans h.1.startsMarkup)
      | false =>
        have hrest := ih hls []
        rw [List.nil_append] at hrest
        rw [shown?_append_written hmarkup hl hread, Option.map_eq_some_iff, ← hrest]
        constructor
        · rintro ⟨found, hfound, hsame⟩
          obtain ⟨hdecode, hcons⟩ := chars_append_inj (isAtMarkup_cons hmarkup found) hmore hsame
          rw [List.cons.injEq] at hcons
          exact ⟨⟨hread, hdecode⟩, hfound.trans (congrArg some hcons.2)⟩
        · rintro ⟨hshown, hfound⟩
          exact ⟨ls, hfound, by rw [hshown.decode]⟩

end

/-! ## 4. Elements with texts as they stand -/

/-- The text is what elements write for the parts, with all characters as they stand. -/
structure IsWrittenAs (html : String) (parts : List Part) : Prop where
  written : html.toList = (lexemesOf parts).flatMap Lexeme.written
  isWritable : ∀ l ∈ lexemesOf parts, l.isWritable = true

/-- All texts among the parts are shown as they stand, where some characters have just been
passed. -/
def PartsShown (d : Decoder) (read : List Char) (parts : List Part) : Prop :=
  AreShown d read (lexemesOf parts)

section

variable {d : Decoder} {rest : List Part}

theorem partsShown_nil {read : List Char} : PartsShown d read [] ↔ IsShown d read :=
  Iff.rfl

theorem partsShown_text {read : List Char} (s : String) :
    PartsShown d read (textParts s ++ rest) ↔ PartsShown d (read ++ s.toList) rest := by
  rw [PartsShown, lexemesOf_append, lexemesOf_textParts, areShown_chars, PartsShown]

theorem partsShown_textParts {s : String} :
    PartsShown d [] (textParts s) ↔ IsShown d s.toList := by
  rw [← List.append_nil (textParts s), partsShown_text, partsShown_nil, List.nil_append]

theorem partsShown_lone {read : List Char} {tag : String} {attributes : List ReadAttribute} :
    PartsShown d read (.lone tag attributes :: rest) ↔ IsShown d read ∧ PartsShown d [] rest := by
  rw [PartsShown, lexemesOf, Part.lexemes]
  exact areShown_cons rfl read

/-- A text ends at the tags of an element. -/
theorem partsShown_element {read : List Char} {tag : String} {attributes : List ReadAttribute}
    {body : List Part} :
    PartsShown d read (.element tag attributes body :: rest) ↔
      IsShown d read ∧ PartsShown d [] body ∧ PartsShown d [] rest := by
  rw [PartsShown, lexemesOf, Part.lexemes, List.cons_append, areShown_cons rfl, List.append_assoc,
    List.singleton_append, areShown_append rfl]
  exact Iff.rfl

end

namespace IsWrittenAs

variable {s t tag : String} {attributes : List (String × String)} {first second parts : List Part}

theorem empty : IsWrittenAs "" [] :=
  ⟨rfl, nofun⟩

theorem append (hs : IsWrittenAs s first) (ht : IsWrittenAs t second) :
    IsWrittenAs (s ++ t) (first ++ second) := by
  constructor
  · rw [String.toList_append, lexemesOf_append, List.flatMap_append, hs.written, ht.written]
  · rw [lexemesOf_append, List.forall_mem_append]
    exact ⟨hs.isWritable, ht.isWritable⟩

theorem text (s : String) : IsWrittenAs s (textParts s) := by
  have hchars (cs : List Char) : (chars cs).flatMap Lexeme.written = cs := by
    rw [chars, List.flatMap_map]
    exact List.flatMap_singleton' cs
  constructor
  · rw [lexemesOf_textParts, hchars]
  · rw [lexemesOf_textParts]
    intro l hl
    obtain ⟨c, -, rfl⟩ := List.mem_map.mp hl
    rfl

theorem element (hbody : IsWrittenAs s parts) (htag : isPlainName tag = true)
    (hpaired : unpairedNames.contains tag.toList = false)
    (hnames : arePlainNames attributes = true) :
    IsWrittenAs (element tag attributes s) [.element tag (textAttributes attributes) parts] := by
  constructor
  · rw [toList_element, hbody.written, lexemesOf, lexemesOf, Part.lexemes]
    simp
  · rw [lexemesOf, lexemesOf, Part.lexemes, List.append_nil, List.forall_mem_cons,
      List.forall_mem_append, List.forall_mem_singleton]
    exact ⟨isWritable_opening htag hpaired hnames, hbody.isWritable, htag⟩

theorem emptyElement (htag : isPlainName tag = true)
    (halone : unpairedNames.contains tag.toList = true) (hnames : arePlainNames attributes = true) :
    IsWrittenAs (emptyElement tag attributes) [.lone tag (textAttributes attributes)] := by
  constructor
  · rw [toList_emptyElement, lexemesOf, lexemesOf, Part.lexemes]
    simp
  · rw [lexemesOf, lexemesOf, Part.lexemes, List.append_nil, List.forall_mem_singleton]
    exact isWritable_lone htag halone hnames

theorem isCompositional : IsCompositional IsWrittenAs :=
  ⟨empty, append, fun _ => text _, element⟩

/-- What is written as the parts is read as these just if all texts are shown as they stand. -/
theorem readShown_iff {d : Decoder} (h : IsWrittenAs s parts) :
    readShown d s = some parts ↔ PartsShown d [] parts := by
  rw [readShown_eq_some_iff, h.written]
  exact shown?_written_iff h.isWritable []

end IsWrittenAs

end StaticSite.Markup
