/-
StaticSite.Proofs.Yaml.ReadScalar — scalars that are read back from one line.

A text in double quotes is read as that text, whatever follows it
(`readQuoted_quotedText`), because an escape is read as the character it is
written for (`readEscape_numbered`), and spaces are kept when text or the
quote follows them. A word of letters and digits is read as it is where a gap
or a sign of the brackets follows it (`readLeaf?_word`).
-/
import StaticSite.Proofs.Yaml.FlowText
import StaticSite.Yaml.Flow

namespace StaticSite.Yaml

open StaticSite.Number StaticSite.Text

/-! ## 1. Cursors -/

theorem columnAfter_of_isLineChar {c : Char} (h : isLineChar c = true) (column : Nat) :
    columnAfter column c = column + 1 := by
  rw [columnAfter, if_neg (by simpa using ne_of_class h (by decide)),
    if_neg (by simpa using ne_of_class h (by decide))]

theorem isBreak_of_isLineChar {c : Char} (h : isLineChar c = true) : isBreak c = false := by
  simp only [isBreak, Bool.or_eq_false_iff, beq_eq_false_iff_ne]
  exact ⟨⟨⟨ne_of_class h (by decide), ne_of_class h (by decide)⟩,
    ne_of_class h (by decide)⟩, ne_of_class h (by decide)⟩

namespace Cursor

variable {w rest : List Char} {column : Nat}

theorem skip_append (h : ∀ a ∈ w, isLineChar a = true) :
    skip w.length ⟨w ++ rest, column⟩ = ⟨rest, column + w.length⟩ := by
  induction w generalizing column with
  | nil => rfl
  | cons c w ih =>
    rw [List.forall_mem_cons] at h
    rw [List.length_cons, skip, List.cons_append, next]
    simp only [columnAfter_of_isLineChar h.1]
    rw [ih h.2, Nat.add_assoc, Nat.add_comm 1]

theorem upTo_append (w rest : List Char) (column stop : Nat) :
    upTo ⟨w ++ rest, column⟩ ⟨rest, stop⟩ = w := by
  simp [upTo]

theorem canBeKey_append (h : ∀ a ∈ w, isLineChar a = true) (hlength : w.length ≤ maxKey)
    (stop : Nat) : canBeKey ⟨w ++ rest, column⟩ ⟨rest, stop⟩ = true := by
  have hline : '\n' ∉ w := fun hmem => by simpa [isLineChar] using h _ hmem
  simp [canBeKey, crossesLine, upTo_append, hlength, hline]

end Cursor

/-! ## 2. Texts in quotes -/

/-- Characters of a line that belong to an escape are passed over. -/
theorem readQuotedFrom_passed {w : List Char} (h : ∀ a ∈ w, isLineChar a = true)
    (pending : Pending) (column : Nat) (rest : List Char) :
    readQuotedFrom true w.length pending column (w ++ rest) =
      readQuotedFrom true 0 pending (column + w.length) rest := by
  induction w generalizing column with
  | nil => rfl
  | cons c w ih =>
    rw [List.forall_mem_cons] at h
    rw [List.length_cons, List.cons_append, readQuotedFrom, columnAfter_of_isLineChar h.1,
      ih h.2, Nat.add_assoc, Nat.add_comm 1]

theorem hexNumber?_hexText {width n : Nat} (hwidth : 0 < width) (h : n < 16 ^ width)
    (rest : List Char) : hexNumber? width (hexText width n ++ rest) = some n := by
  have hlength := length_hexText hwidth h
  have hdigits : (hexText width n ++ rest).take width = hexText width n :=
    List.take_left' hlength
  rw [hexNumber?, hdigits, hlength, if_pos (beq_self_eq_true width), readNat?_hexText]

/-- The number of a character is no half of a surrogate pair. -/
theorem numberedChar_toNat (width : Nat) (c : Char) (after : List Char) :
    numberedChar width c.toNat after = .ok (c, width + 1) := by
  have hvalid : c.toNat.isValidChar := c.valid
  have hhigh : isHighSurrogate c.toNat = false := by
    simp only [isHighSurrogate, Bool.and_eq_false_iff, decide_eq_false_iff_not]
    simp only [Nat.isValidChar] at hvalid
    omega
  rw [numberedChar, hhigh, if_neg Bool.false_ne_true, dif_pos hvalid]
  rfl

theorem readEscape_numbered {letter c : Char} {width : Nat} (hletter : escapeWidth? letter = some width)
    (hshort : shortEscape? letter = none) (hwidth : 0 < width) (h : c.toNat < 16 ^ width)
    (rest : List Char) :
    readEscape (letter :: (hexText width c.toNat ++ rest)) = .ok (c, width + 1) := by
  simp only [readEscape, hshort, hletter, hexNumber?_hexText hwidth h]
  exact numberedChar_toNat width c _

/-- An escape on one line is read as its character. -/
theorem readQuotedFrom_escape {w : List Char} {c : Char} {rest : List Char} {n : Nat}
    (hline : ∀ a ∈ w, isLineChar a = true) (hlength : w.length = n) (hw : w ≠ [])
    (hread : readEscape (w ++ rest) = .ok (c, n)) (pending : Pending) (column : Nat) :
    readQuotedFrom true 0 pending column ('\\' :: (w ++ rest)) =
      before (pending.text ++ [c]) (readQuotedFrom true 0 .none (column + (n + 1)) rest) := by
  have hhead : ((w ++ rest).head?.map isBreak).getD false = false := by
    obtain ⟨a, u, rfl⟩ := List.exists_cons_of_ne_nil hw
    exact isBreak_of_isLineChar (hline a List.mem_cons_self)
  rw [readQuotedFrom, if_neg (by decide), if_neg (by decide), if_pos (by decide), hhead,
    if_neg Bool.false_ne_true, hread]
  simp only
  rw [← hlength, readQuotedFrom_passed hline, Nat.add_assoc, Nat.add_comm 1]

theorem readQuotedFrom_escapeText {c : Char} (hspace : c ≠ ' ') (pending : Pending)
    (column : Nat) (rest : List Char) :
    readQuotedFrom true 0 pending column (escapeText c ++ rest) =
      before (pending.text ++ [c])
        (readQuotedFrom true 0 .none (column + (escapeText c).length) rest) := by
  have hnumbered : ∀ {letter : Char} {width : Nat}, letter.isAlphanum = true →
      escapeWidth? letter = some width → shortEscape? letter = none → 0 < width →
      c.toNat < 16 ^ width →
      readQuotedFrom true 0 pending column ('\\' :: letter :: hexText width c.toNat ++ rest) =
        before (pending.text ++ [c]) (readQuotedFrom true 0 .none
          (column + ('\\' :: letter :: hexText width c.toNat).length) rest) := by
    intro letter width hletter hescape hshort hwidth hnumber
    have hlength : (letter :: hexText width c.toNat).length = width + 1 := by
      rw [List.length_cons, length_hexText hwidth hnumber]
    have hline : ∀ a ∈ letter :: hexText width c.toNat, isLineChar a = true := by
      rw [List.forall_mem_cons]
      exact ⟨isLineChar_of_isAlphanum hletter,
        fun a ha => isLineChar_of_isAlphanum (isAlphanum_of_mem_hexText ha)⟩
    rw [List.length_cons, hlength]
    exact readQuotedFrom_escape hline hlength (List.cons_ne_nil _ _)
      (readEscape_numbered hescape hshort hwidth hnumber rest) pending column
  rw [escapeText]
  split
  · rename_i hc
    rw [Bool.or_eq_true, beq_iff_eq, beq_iff_eq] at hc
    rcases hc with rfl | rfl
    · exact readQuotedFrom_escape (w := ['"']) (List.all_eq_true.mp (by decide)) rfl (by decide) rfl
        pending column
    · exact readQuotedFrom_escape (w := ['\\']) (List.all_eq_true.mp (by decide)) rfl (by decide) rfl
        pending column
  · rename_i hquote
    rw [Bool.or_eq_true, not_or, beq_iff_eq, beq_iff_eq] at hquote
    split
    · rename_i hline
      have htab : c ≠ '\t' := ne_of_class hline (by decide)
      have hgap : ¬ (c == ' ' || c == '\t') = true := by simp [hspace, htab]
      rw [List.singleton_append, readQuotedFrom, if_neg hgap, isBreak_of_isLineChar hline,
        if_neg Bool.false_ne_true, if_neg (by simp [hquote.2]), if_neg (by simp [hquote.1]),
        columnAfter_of_isLineChar hline]
      rfl
    · split
      · rename_i hsmall
        exact hnumbered (by decide) rfl (by decide) (by decide) hsmall
      · split
        · rename_i hmiddle
          exact hnumbered (by decide) rfl (by decide) (by decide) hmiddle
        · have hlarge : c.toNat < 16 ^ 8 := by
            have hvalid : c.toNat.isValidChar := c.valid
            simp only [Nat.isValidChar] at hvalid
            omega
          exact hnumbered (by decide) rfl (by decide) (by decide) hlarge

/-- The inside of the quotes is read up to the closing one, after any spaces before it. -/
theorem readQuotedFrom_flatMap (s passed : List Char) (column : Nat) (rest : List Char) :
    readQuotedFrom true 0 (.blanks passed) column (s.flatMap escapeText ++ '"' :: rest) =
      .ok (passed.reverse ++ s, ⟨rest, column + (s.flatMap escapeText ++ ['"']).length⟩) := by
  induction s generalizing passed column with
  | nil =>
    rw [List.flatMap_nil, List.nil_append, readQuotedFrom, if_neg (by decide), if_neg (by decide),
      if_neg (by decide), if_pos (by decide), if_neg (by simp)]
    simp [Pending.text]
  | cons c s ih =>
    rw [List.flatMap_cons, List.append_assoc]
    by_cases hspace : c = ' '
    · have hself : escapeText ' ' = [' '] := by decide
      rw [hspace, hself, List.singleton_append, readQuotedFrom, if_pos (by decide)]
      rw [show Pending.blank ' ' (.blanks passed) = .blanks (' ' :: passed) from rfl, ih]
      simp [Nat.add_assoc, Nat.add_comm, Nat.add_left_comm]
    · rw [readQuotedFrom_escapeText hspace, show Pending.none = .blanks [] from rfl, ih]
      simp [before, Pending.text, Nat.add_assoc]

theorem readQuoted_quotedText (s : String) (column : Nat) (rest : List Char) :
    readQuoted true ⟨quotedText s ++ rest, column⟩ =
      .ok (s.toList, ⟨rest, column + (quotedText s).length⟩) := by
  have hnext : Cursor.next ⟨quotedText s ++ rest, column⟩ =
      ⟨s.toList.flatMap escapeText ++ '"' :: rest, column + 1⟩ := by
    simp [Cursor.next, quotedText, columnAfter_of_isLineChar (show isLineChar '"' = true by decide)]
  rw [readQuoted, hnext]
  simp only [Pending.none, readQuotedFrom_flatMap, List.reverse_nil, List.nil_append]
  rw [quotedText, List.length_cons, Nat.add_assoc, Nat.add_comm 1]

/-! ## 3. Words -/

/-- A character of a plain word. -/
def isPlainChar (c : Char) : Bool :=
  c.isAlphanum || c == '-'

theorem isPlainChar_of_isAlphanum {c : Char} (h : c.isAlphanum = true) : isPlainChar c = true := by
  simp [isPlainChar, h]

theorem IsPlainWord.chars {w : List Char} (h : IsPlainWord w) :
    ∀ c ∈ w, isPlainChar c = true := by
  cases h with
  | bare c s word => exact fun a ha => isPlainChar_of_isAlphanum (word a ha)
  | signed c s word =>
    rw [List.forall_mem_cons]
    exact ⟨by decide, fun a ha => isPlainChar_of_isAlphanum (word a ha)⟩

theorem isLineChar_of_isPlainChar {c : Char} (h : isPlainChar c = true) : isLineChar c = true := by
  rw [isPlainChar, Bool.or_eq_true, beq_iff_eq] at h
  rcases h with halphanum | rfl
  · exact isLineChar_of_isAlphanum halphanum
  · decide

theorem isGap_of_isPlainChar {c : Char} (h : isPlainChar c = true) : isGap c = false := by
  have hspace : c ≠ ' ' := ne_of_class h (by decide)
  have htab : c ≠ '\t' := ne_of_class h (by decide)
  simp [isGap, hspace, htab, isBreak_of_isLineChar (isLineChar_of_isPlainChar h)]

theorem isFlowMark_of_isPlainChar {c : Char} (h : isPlainChar c = true) : isFlowMark c = false := by
  simp only [isFlowMark, Bool.or_eq_false_iff, beq_eq_false_iff_ne]
  exact ⟨⟨⟨⟨ne_of_class h (by decide), ne_of_class h (by decide)⟩,
    ne_of_class h (by decide)⟩, ne_of_class h (by decide)⟩,
    ne_of_class h (by decide)⟩

/-- What may follow a plain word: it ends there, and goes on nowhere after a gap. -/
structure EndsPlain (inFlow : Bool) (rest : List Char) : Prop where
  word : endsWord .v12 inFlow rest = true
  gap : ∀ column found, plainGap? ⟨rest, column⟩ = some found → found.2.rest = []

/-- A sign that may follow data in brackets. -/
def isEndMark (c : Char) : Bool :=
  c == ',' || c == ']' || c == '\x7d'

theorem endsPlain_mark {c : Char} (hc : isEndMark c = true) (s : List Char) :
    EndsPlain true (c :: s) := by
  have hmarks : c = ',' ∨ c = ']' ∨ c = '\x7d' := by
    simpa [isEndMark, or_assoc] using hc
  refine ⟨?_, fun column found hfound => ?_⟩
  · rcases hmarks with rfl | rfl | rfl <;> rfl
  · rcases hmarks with rfl | rfl | rfl <;> cases hfound

theorem endsPlain_end : EndsPlain false [] :=
  ⟨rfl, fun _ _ hfound => by cases hfound⟩

theorem endsPlain_line : EndsPlain false ['\n'] := by
  refine ⟨rfl, fun column found hfound => ?_⟩
  cases hfound
  rfl

section

variable {w rest : List Char} {inFlow : Bool} {column : Nat}

theorem endsWord_of_isPlainChar {c : Char} (hc : isPlainChar c = true) (s : List Char) :
    endsWord .v12 inFlow (c :: s) = false := by
  have hcolon : c ≠ ':' := ne_of_class hc (by decide)
  have hquestion : c ≠ '?' := ne_of_class hc (by decide)
  simp [endsWord, isGap_of_isPlainChar hc, isFlowMark_of_isPlainChar hc, hcolon, hquestion]

/-- A text on one line with no end of a word in it. -/
structure IsUnbroken (inFlow : Bool) (w : List Char) : Prop where
  line : ∀ c ∈ w, isLineChar c = true
  word : ∀ c ∈ w, ∀ s, endsWord .v12 inFlow (c :: s) = false

theorem IsPlainWord.isUnbroken (hw : IsPlainWord w) (inFlow : Bool) : IsUnbroken inFlow w where
  line c hc := isLineChar_of_isPlainChar (hw.chars c hc)
  word c hc s := endsWord_of_isPlainChar (hw.chars c hc) s

theorem wordLength_append (hw : ∀ c ∈ w, ∀ s, endsWord .v12 inFlow (c :: s) = false)
    (hrest : endsWord .v12 inFlow rest = true) :
    wordLength .v12 inFlow (w ++ rest) = w.length := by
  induction w with
  | nil =>
    cases rest with
    | nil => rfl
    | cons c s => rw [List.nil_append, wordLength, if_pos hrest, List.length_nil]
  | cons c w ih =>
    rw [List.forall_mem_cons] at hw
    rw [List.cons_append, wordLength, hw.1, if_neg Bool.false_ne_true, ih hw.2, List.length_cons]

theorem isIndicator_of_isPlainChar {c : Char} (hc : isPlainChar c = true) :
    isIndicator c = false := by
  simp only [isIndicator, isFlowMark_of_isPlainChar hc, Bool.or_eq_false_iff,
    beq_eq_false_iff_ne, Bool.false_or]
  refine ⟨⟨⟨⟨⟨⟨⟨⟨⟨⟨?_, ?_⟩, ?_⟩, ?_⟩, ?_⟩, ?_⟩, ?_⟩, ?_⟩, ?_⟩, ?_⟩, ?_⟩ <;>
    exact ne_of_class hc (by decide)

theorem startsPlain_word (hw : IsPlainWord w) (rest : List Char) :
    startsPlain .v12 inFlow (w ++ rest) = true := by
  cases hw with
  | bare c s word =>
    have hc := word c List.mem_cons_self
    have hplain := isPlainChar_of_isAlphanum hc
    have hdash : c ≠ '-' := ne_of_class hc (by decide)
    have hcolon : c ≠ ':' := ne_of_class hc (by decide)
    have hquestion : c ≠ '?' := ne_of_class hc (by decide)
    simp [startsPlain, hdash, hcolon, hquestion, isGap_of_isPlainChar hplain,
      isIndicator_of_isPlainChar hplain]
  | signed c s word =>
    have hplain := isPlainChar_of_isAlphanum (word c List.mem_cons_self)
    simp [startsPlain, atGap, isGap_of_isPlainChar hplain]

theorem readPlain_unbroken (hw : IsUnbroken inFlow w) (hne : w ≠ [])
    (hrest : EndsPlain inFlow rest) (indent : Nat) :
    readPlain .v12 inFlow indent ⟨w ++ rest, column⟩ = (w, ⟨rest, column + w.length⟩) := by
  have hlength := wordLength_append hw.word hrest.word
  have hskip : Cursor.skip w.length ⟨w ++ rest, column⟩ = ⟨rest, column + w.length⟩ :=
    Cursor.skip_append hw.line
  obtain ⟨c, s, hcs⟩ := List.exists_cons_of_ne_nil hne
  have hbound : (w ++ rest).length = (s ++ rest).length + 1 := by rw [hcs]; rfl
  rw [readPlain]
  simp only [hbound]
  rw [readWords]
  simp only [hlength, List.take_left', hskip]
  cases hgap : plainGap? ⟨rest, column + w.length⟩ with
  | none => rfl
  | some found =>
    obtain ⟨gap, stop⟩ := found
    have hstop : stop.rest = [] := hrest.gap _ _ hgap
    have hends : goesOn .v12 inFlow indent stop = false := by simp [goesOn, hstop, wordLength]
    simp [hends]

/-! ## 4. Leaves -/

theorem readLeaf?_unbroken {c : Char} {s : List Char} (hc : isIndicator c = false)
    (hw : IsUnbroken inFlow (c :: s)) (hstarts : startsPlain .v12 inFlow (c :: s ++ rest) = true)
    (hrest : EndsPlain inFlow rest) (indent column : Nat) :
    readLeaf? .v12 inFlow indent ⟨c :: s ++ rest, column⟩ =
      .ok (some (.scalar .absent true (c :: s), ⟨rest, column + (c :: s).length⟩)) := by
  have hread : readPlain .v12 inFlow indent ⟨c :: s ++ rest, column⟩ =
      (c :: s, ⟨rest, column + (c :: s).length⟩) :=
    readPlain_unbroken hw (List.cons_ne_nil c s) hrest indent
  rw [readLeaf?]
  split
  · rename_i heq
    cases heq
    cases hc
  · rename_i heq
    cases heq
    cases hc
  · rename_i heq
    cases heq
    cases hc
  · simp only [hstarts, if_true, hread]

theorem readLeaf?_word (hw : IsPlainWord w) (hrest : EndsPlain inFlow rest)
    (indent column : Nat) :
    readLeaf? .v12 inFlow indent ⟨w ++ rest, column⟩ =
      .ok (some (.scalar .absent true w, ⟨rest, column + w.length⟩)) := by
  obtain ⟨c, s, rfl, -⟩ := hw.starts
  exact readLeaf?_unbroken (isIndicator_of_isPlainChar (hw.chars c List.mem_cons_self))
    (hw.isUnbroken inFlow) (startsPlain_word hw rest) hrest indent column

theorem readLeaf?_quotedText (s : String) (inFlow : Bool) (rest : List Char)
    (indent column : Nat) :
    readLeaf? .v12 inFlow indent ⟨quotedText s ++ rest, column⟩ =
      .ok (some (.scalar .absent false s.toList, ⟨rest, column + (quotedText s).length⟩)) := by
  have hread := readQuoted_quotedText s column rest
  rw [quotedText, List.cons_append] at hread ⊢
  simp only [readLeaf?, hread]

end

end StaticSite.Yaml
