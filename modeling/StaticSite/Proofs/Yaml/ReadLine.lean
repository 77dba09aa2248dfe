/-
StaticSite.Proofs.Yaml.ReadLine — a document that is one line of data.

A line of data has no directives and no markers, and its first token starts
its root node. What follows the data ends the document (`EndsDocument`): the
end of the file, or a line end before it.
-/
import StaticSite.Proofs.Yaml.ReadFlow
import StaticSite.Yaml.Document

namespace StaticSite.Yaml

/-! ## 1. The end of the document -/

/-- Nothing follows the data but the end of its line. -/
inductive EndsDocument : List Char → Prop
  | none : EndsDocument []
  | line : EndsDocument ['\n']

section

variable {rest : List Char} (h : EndsDocument rest)
include h

theorem EndsDocument.endsPlain : EndsPlain false rest := by
  cases h with
  | none => exact endsPlain_end
  | line => exact endsPlain_line

theorem EndsDocument.skipBlanks (column : Nat) : (skipBlanks ⟨rest, column⟩).stop.rest = [] := by
  cases h with
  | none => rfl
  | line => rfl

theorem EndsDocument.isAllowed : ∀ c ∈ rest, isAllowed c = true := by
  cases h with
  | none => exact List.forall_mem_nil _
  | line => exact List.all_eq_true.mp (by decide)

end

theorem isAllowed_of_isLineChar {c : Char} (h : isLineChar c = true) : isAllowed c = true := by
  simp only [isLineChar, Bool.and_eq_true, decide_eq_true_eq] at h
  simp only [isAllowed, Bool.or_eq_true, Bool.and_eq_true, beq_iff_eq, decide_eq_true_eq]
  omega

/-! ## 2. The root -/

theorem atSign_start {c sign : Char} (h : c ≠ sign) (s : List Char) :
    atSign sign (c :: s) = false := by
  simp [atSign, h]

/-- A word is not taken for a dash. -/
theorem IsPlainWord.atSign {w : List Char} (h : IsPlainWord w) (rest : List Char) :
    atSign '-' (w ++ rest) = false := by
  cases h with
  | bare c s word =>
    exact atSign_start (ne_of_class (word c List.mem_cons_self) (by decide)) _
  | signed c s word =>
    have hc := isPlainChar_of_isAlphanum (word c List.mem_cons_self)
    simp [Yaml.atSign, atGap, isGap_of_isPlainChar hc]

variable (d : FlowData) (rest : List Char)

/-- No line of data starts with the sign of an item. -/
theorem FlowData.atSign_text : atSign '-' (d.text ++ rest) = false := by
  cases d with
  | null => exact atSign_start (by decide) _
  | bool b => exact (isPlainWord_truthText b).atSign rest
  | int n => exact (isPlainWord_intText n).atSign rest
  | string s => exact atSign_start (by decide) _
  | list items => exact atSign_start (by decide) _
  | map entries => exact atSign_start (by decide) _

/-- What a line starts with is content, or a key if a colon follows it. -/
theorem readHead_start {c : Char} (hc : isStart c = true) {s : List Char} {setting : Setting}
    {flow : NodeReader} {least column : Nat} {fresh : Bool} {node : Node} {stop : Cursor}
    (hcontent : readContent? flow ⟨setting.version, true, fresh, none⟩ false least
      ⟨c :: s, column⟩ ⟨c :: s, column⟩ = .ok (some (node, stop))) :
    readHead setting flow least ⟨⟨c :: s, column⟩, fresh⟩ =
      keyOrContent .none ⟨c :: s, column⟩ node stop := by
  have hheader : atBlockText (c :: s) = false := by
    have hbar : c ≠ '|' := ne_of_class hc (by decide)
    have hangle : c ≠ '>' := ne_of_class hc (by decide)
    simp [atBlockText, hbar, hangle]
  rw [readHead]
  simp only [atSign_start (ne_of_class hc (show isStart '?' = false by decide)),
    atSign_start (ne_of_class hc (show isStart ':' = false by decide)), propertiesAt_start hc]
  simp only [Properties.isNone, Properties.none, beq_self_eq_true, Option.isNone_none,
    Bool.and_self, Bool.not_true, Bool.false_and, Bool.false_eq_true, if_false, if_true, hheader]
  rw [hcontent]

variable {d rest}

/-- What starts on the line is content, and no key. -/
theorem readHead_text (hd : d.IsFit) (hrest : EndsDocument rest) {setting : Setting}
    (hversion : setting.version = .v12) {bound : Nat} {node : NodeReader}
    (hnode : ReadsData node bound) (hbound : d.text.length ≤ bound + 1) (least column : Nat)
    (fresh : Bool) :
    readHead setting node least ⟨⟨d.text ++ rest, column⟩, fresh⟩ =
      .ok (.content .none d.node ⟨rest, column + d.text.length⟩) := by
  have hplace : (FlowPlace.mk setting.version true fresh none).version = .v12 := hversion
  have hcontent := readContent?_text hnode hplace
    hd hbound hrest.endsPlain least column ⟨d.text ++ rest, column⟩
  have hkey : keyOrContent .none ⟨d.text ++ rest, column⟩ d.node ⟨rest, column + d.text.length⟩ =
      .ok (.content .none d.node ⟨rest, column + d.text.length⟩) := by
    simp [keyOrContent, hrest.skipBlanks, atSign]
  obtain ⟨c, s, hcs, hc⟩ := d.starts_text
  rw [hcs, List.cons_append] at hcontent hkey ⊢
  rw [readHead_start hc hcontent]
  exact hkey

theorem readRoot_text (hd : d.IsFit) (hrest : EndsDocument rest) {setting : Setting}
    (hversion : setting.version = .v12) :
    readRoot setting ⟨⟨d.text ++ rest, 0⟩, true⟩ = .ok d.node := by
  have hlength : d.text.length ≤ (d.text ++ rest).length + 1 := by
    rw [List.length_append]
    omega
  have hhead := readHead_text hd hrest hversion (readsData_readFlowNode setting _)
    (Nat.le_succ_of_le hlength) 0 0 true
  have hmarker := d.atMarker_text rest 0
  have hsign := d.atSign_text rest
  have hstart : Place.next ⟨⟨d.text ++ rest, 0⟩, true⟩ = ⟨⟨d.text ++ rest, 0⟩, true⟩ := by
    obtain ⟨c, s, hcs, hc⟩ := d.starts_text
    rw [hcs, List.cons_append, Place.next]
    simp only [skipBlanks_token (isToken_of_isStart hc)]
    rfl
  obtain ⟨c, s, hcs, hc⟩ := d.starts_text
  have hends : endsBefore 0 ⟨d.text ++ rest, 0⟩ = false := by
    rw [endsBefore, hmarker, hcs]
    rfl
  have hnode : readBlockNode setting ((d.text ++ rest).length + 2) 0 false .none
      ⟨⟨d.text ++ rest, 0⟩, true⟩ = .ok ⟨d.node, ⟨⟨rest, 0 + d.text.length⟩, false⟩⟩ := by
    rw [readBlockNode]
    simp only [hstart, hends, hsign, Bool.false_eq_true, if_false, hhead]
    rfl
  have hstop : (Place.next ⟨⟨rest, 0 + d.text.length⟩, false⟩).cursor.rest = [] :=
    hrest.skipBlanks _
  have hdots : ∀ p : Cursor, p.rest = [] → atDots p = false := by
    intro p hp
    simp [atDots, hp]
  rw [readRoot, hnode]
  simp only [skipDots, hdots _ hstop, Bool.not_false, if_true, hstop, List.isEmpty_nil]

/-! ## 3. The document -/

/-- Without directives and markers, the file is its root. -/
theorem readFile_start {c : Char} (hc : isStart c = true) {s : List Char} {root : Node}
    (hallowed : (c :: s).all isAllowed = true) (hmarker : atMarker ⟨c :: s, 0⟩ = false)
    (hroot : readRoot ⟨.v12, defaultHandles⟩ ⟨⟨c :: s, 0⟩, true⟩ = .ok root) :
    readFile (c :: s) = .ok ⟨⟨.v12, defaultHandles⟩, some root⟩ := by
  have hsetting : Directives.none.setting = ⟨.v12, defaultHandles⟩ := rfl
  have hmark : c ≠ byteOrderMark := ne_of_class hc (by decide)
  have hpercent : c ≠ '%' := ne_of_class hc (by decide)
  have hdirectives : readDirectives ((c :: s).length + 1) false .none ⟨c :: s, 0⟩ =
      .ok (false, .none, ⟨⟨c :: s, 0⟩, true⟩) := by
    rw [readDirectives, skipBlanks_token (isToken_of_isStart hc)]
    simp [hpercent]
  have hafter : readAfterDirectives ⟨.v12, defaultHandles⟩ false ⟨c :: s, 0⟩ = .ok (some root) := by
    simp [readAfterDirectives, atDashes, atDots, hmarker, hroot]
  rw [readFile, hallowed]
  simp only [Bool.not_true, Bool.false_eq_true, if_false, List.head?_cons, Option.some_beq_some,
    beq_eq_false_iff_ne.mpr hmark, hdirectives, hsetting, hafter]
  rfl

theorem readFile_text (hd : d.IsFit) (hrest : EndsDocument rest) :
    readFile (d.text ++ rest) = .ok ⟨⟨.v12, defaultHandles⟩, some d.node⟩ := by
  have hversion : (⟨.v12, defaultHandles⟩ : Setting).version = .v12 := rfl
  have hroot := readRoot_text hd hrest hversion
  have hallowed : (d.text ++ rest).all isAllowed = true := by
    rw [List.all_append, Bool.and_eq_true, List.all_eq_true, List.all_eq_true]
    exact ⟨fun c hc => isAllowed_of_isLineChar (hd.isLineChar_of_mem_text c hc), hrest.isAllowed⟩
  have hmarker := d.atMarker_text rest 0
  obtain ⟨c, s, hcs, hc⟩ := d.starts_text
  rw [hcs, List.cons_append] at hroot hallowed hmarker ⊢
  exact readFile_start hc hallowed hmarker hroot

end StaticSite.Yaml
