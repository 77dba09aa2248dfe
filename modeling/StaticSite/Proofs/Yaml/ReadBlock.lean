/-
StaticSite.Proofs.Yaml.ReadBlock — the last node of a document, by indentation.

What stands last in a document is read from the inside out: a scalar at the
end of the last line (`endsWith_scalar`), the entry of a mapping whose value
stands last (`endsWith_entry`), and the item of a list that stands last, in
the column of the mapping around it (`endsWith_item`).
-/
import StaticSite.Proofs.Yaml.ReadLine

namespace StaticSite.Yaml

open StaticSite.Text

/-! ## 1. Scalars on one line -/

/-- What a scalar of letters and digits, or one in double quotes, starts with. -/
def startsScalar (c : Char) : Bool :=
  c.isAlphanum || c == '"'

theorem isStart_of_startsScalar {c : Char} (hc : startsScalar c = true) : isStart c = true := by
  rw [startsScalar, Bool.or_eq_true] at hc
  rcases hc with h | h <;> simp [isStart, h]

/-- A word or a text in quotes that is read as a scalar where a text follows it. -/
structure IsScalarText (w rest : List Char) (node : Node) : Prop where
  line : ∀ c ∈ w, isLineChar c = true
  starts : ∃ c s, w = c :: s ∧ startsScalar c = true
  read : ∀ least column, readLeaf? .v12 false least ⟨w ++ rest, column⟩ =
    .ok (some (node, ⟨rest, column + w.length⟩))

theorem isScalarText_quotedText (s : String) (rest : List Char) :
    IsScalarText (quotedText s) rest (.scalar .absent false s.toList) where
  line c hc := isLineChar_of_mem_quotedText hc
  starts := ⟨_, _, rfl, by decide⟩
  read least column := readLeaf?_quotedText s false rest least column

/-- A text that starts with a letter or a digit is a scalar up to the end of its word. -/
theorem isScalarText_unbroken {c : Char} {s rest : List Char} (hc : c.isAlphanum = true)
    (hw : IsUnbroken false (c :: s)) (hrest : EndsPlain false rest) :
    IsScalarText (c :: s) rest (.scalar .absent true (c :: s)) where
  line := hw.line
  starts := ⟨c, s, rfl, by rw [startsScalar, hc, Bool.true_or]⟩
  read least column := by
    have hindicator := isIndicator_of_isPlainChar (isPlainChar_of_isAlphanum hc)
    have hstarts : startsPlain .v12 false (c :: s ++ rest) = true :=
      startsPlain_word (.bare c [] (by simpa using hc)) (s ++ rest)
    exact readLeaf?_unbroken hindicator hw hstarts hrest least column

section

variable {w rest : List Char} {node : Node} (hw : IsScalarText w rest node) (column : Nat)
include hw

theorem IsScalarText.skipBlanks :
    skipBlanks ⟨w ++ rest, column⟩ = ⟨⟨w ++ rest, column⟩, false⟩ := by
  obtain ⟨c, s, rfl, hc⟩ := hw.starts
  exact skipBlanks_token (isToken_of_isStart (isStart_of_startsScalar hc)) _ _

theorem IsScalarText.atMarker : atMarker ⟨w ++ rest, column⟩ = false := by
  obtain ⟨c, s, rfl, hc⟩ := hw.starts
  exact atMarker_start (ne_of_class hc (by decide)) (ne_of_class hc (by decide)) _ _

theorem IsScalarText.atSign : atSign '-' (w ++ rest) = false := by
  obtain ⟨c, s, rfl, hc⟩ := hw.starts
  exact atSign_start (ne_of_class hc (by decide)) _

theorem IsScalarText.endsBefore {least : Nat} (h : least ≤ column) :
    endsBefore least ⟨w ++ rest, column⟩ = false := by
  obtain ⟨c, s, hcs, hc⟩ := hw.starts
  have hmarker := hw.atMarker column
  rw [hcs, List.cons_append] at hmarker ⊢
  simp [Yaml.endsBefore, hmarker, Nat.not_lt.mpr h]

theorem IsScalarText.readHead {setting : Setting} (hversion : setting.version = .v12)
    (flow : NodeReader) (least : Nat) (fresh : Bool) :
    readHead setting flow least ⟨⟨w ++ rest, column⟩, fresh⟩ =
      keyOrContent .none ⟨w ++ rest, column⟩ node ⟨rest, column + w.length⟩ := by
  have hread := hw.read least column
  obtain ⟨c, s, rfl, hc⟩ := hw.starts
  refine readHead_start (isStart_of_startsScalar hc) ?_
  rw [readContent?]
  split
  · rename_i heq
    exact (ne_of_class hc (by decide) (List.cons.inj heq).1).elim
  · rename_i heq
    exact (ne_of_class hc (by decide) (List.cons.inj heq).1).elim
  · rw [hversion]
    exact hread

end

/-! ## 2. The last node -/

/-- The node stands at the place, and nothing comes after it. -/
def EndsWith (setting : Setting) (depth least : Nat) (listToLeft : Bool) (place : Place)
    (node : Node) : Prop :=
  ∃ stop, readBlockNode setting depth least listToLeft .none place = .ok ⟨node, stop⟩ ∧
    stop.next.cursor.rest = []

section

variable {setting : Setting} {depth least column : Nat} {listToLeft fresh : Bool} {place : Place}
  {node : Node}

theorem next_of_end {place : Place} (h : place.cursor.rest = []) : place.next.cursor.rest = [] := by
  rw [Place.next, Yaml.skipBlanks, h]
  rfl

theorem endsBefore_of_end {p : Cursor} (h : p.rest = []) (column : Nat) :
    endsBefore column p = true := by
  simp [endsBefore, h]

variable (hversion : setting.version = .v12)
include hversion

/-- A scalar at the end of the last line. -/
theorem endsWith_scalar {w : List Char} (hw : IsScalarText w ['\n'] node) (hleast : least ≤ column)
    (hplace : place.next = ⟨⟨w ++ ['\n'], column⟩, fresh⟩) :
    EndsWith setting (depth + 1) least listToLeft place node := by
  refine ⟨⟨⟨['\n'], column + w.length⟩, false⟩, ?_, rfl⟩
  have hcontent : keyOrContent .none ⟨w ++ ['\n'], column⟩ node ⟨['\n'], column + w.length⟩ =
      .ok (.content .none node ⟨['\n'], column + w.length⟩) := by
    simp [keyOrContent, Yaml.atSign, EndsDocument.line.skipBlanks]
  rw [readBlockNode]
  simp only [hplace, hw.endsBefore column hleast, hw.atSign, Bool.false_eq_true, if_false,
    hw.readHead column hversion, hcontent]
  rfl

/-- An entry of a mapping, whose value stands last. -/
theorem endsWith_entry {k after : List Char} {key : Node} (hk : IsScalarText k (':' :: after) key)
    (hlength : k.length ≤ Cursor.maxKey) (hgap : atGap after = true) (hleast : least ≤ column)
    (hplace : place.next = ⟨⟨k ++ ':' :: after, column⟩, true⟩)
    (hvalue : EndsWith setting depth (column + 1) true
      ⟨⟨after, column + k.length + 1⟩, false⟩ node) :
    EndsWith setting (depth + 1) least listToLeft place (.map .absent [(key, node)]) := by
  obtain ⟨stop, hread, hend⟩ := hvalue
  refine ⟨stop.next, ?_, next_of_end hend⟩
  have hblanks : skipBlanks ⟨':' :: after, column + k.length⟩ =
      ⟨⟨':' :: after, column + k.length⟩, false⟩ := skipBlanks_token (by decide) _ _
  have hcrosses : ∀ p : Cursor, p.crossesLine p = false := by
    intro p
    simp [Cursor.crossesLine, Cursor.upTo]
  have hnext : Cursor.next ⟨':' :: after, column + k.length⟩ = ⟨after, column + k.length + 1⟩ :=
    next_token (by decide) _ _
  have hhead : keyOrContent .none ⟨k ++ ':' :: after, column⟩ key
      ⟨':' :: after, column + k.length⟩ =
        .ok (.entry (.key key ⟨after, column + k.length + 1⟩)) := by
    have hnone : key.withProperties? .none = some key := rfl
    simp only [keyOrContent, hblanks, hcrosses, hnext, hnone,
      Cursor.canBeKey_append hk.line hlength]
    simp [Yaml.atSign, hgap]
  rw [readBlockNode]
  simp only [hplace, hk.endsBefore column hleast, hk.atSign, Bool.false_eq_true, if_false,
    hk.readHead column hversion, hhead, if_true]
  rw [readBlockEntries, readBlockEntry, hread]
  simp only [endsBefore_of_end hend, if_true]
  rfl

omit hversion in
/-- An item of a list in the column of the mapping around it, which stands last. -/
theorem endsWith_item {s : List Char}
    (hplace : place.next = ⟨⟨'-' :: ' ' :: s, column⟩, true⟩)
    (hitem : EndsWith setting depth (column + 1) false ⟨⟨' ' :: s, column + 1⟩, true⟩ node) :
    EndsWith setting (depth + 1) (column + 1) true place (.seq .absent [node]) := by
  obtain ⟨stop, hread, hend⟩ := hitem
  refine ⟨stop.next, ?_, next_of_end hend⟩
  have hmarker : atMarker ⟨'-' :: ' ' :: s, column⟩ = false := by
    simp [Yaml.atMarker]
  have hends : endsBefore (column + 1) ⟨'-' :: ' ' :: s, column⟩ = true := by
    simp [endsBefore]
  have hsign : atSign '-' ('-' :: ' ' :: s) = true := rfl
  have hnext : Cursor.next ⟨'-' :: ' ' :: s, column⟩ = ⟨' ' :: s, column + 1⟩ :=
    next_token (by decide) _ _
  rw [readBlockNode]
  simp only [hplace, hends, hmarker, hsign, List.isEmpty_cons, Bool.false_or, bne_self_eq_false,
    Bool.false_eq_true, if_false, if_true, Bool.and_self]
  rw [readItems, hnext, hread]
  simp only [endsBefore_of_end hend, if_true]
  rfl

/-! ## 3. The document -/

omit hversion in
/-- The last node of the document that is all there is. -/
theorem EndsWith.readRoot (h : EndsWith setting (place.cursor.rest.length + 2) 0 false place node) :
    readRoot setting place = .ok node := by
  obtain ⟨stop, hread, hend⟩ := h
  have hdots : atDots stop.next.cursor = false := by
    simp [atDots, hend]
  rw [Yaml.readRoot, hread]
  simp only [skipDots, hdots, Bool.not_false, if_true, hend, List.isEmpty_nil]

end

end StaticSite.Yaml
