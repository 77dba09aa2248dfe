/-
StaticSite.Proofs.Files.PathText — paths and their texts.

The parts that are read from a text hold no slash, are not empty and are no
single dot (`isPart_of_mem_ofText`). A path of such parts is read back from
its own text (`ofText_text`).
-/
import StaticSite.Files.Path
import StaticSite.Proofs.Text.Splitting

namespace StaticSite

namespace Path

open StaticSite.Text

/-! ## 1. Parts -/

/-- Can the text be a part of a path? -/
structure IsPart (part : String) : Prop where
  noSlash : '/' ∉ part.toList
  notEmpty : part ≠ ""
  notDot : part ≠ "."

theorem isPart_of_mem_partsOf {s : List Char} {part : String} (h : part ∈ partsOf s) :
    IsPart part := by
  rw [partsOf, List.mem_filter] at h
  obtain ⟨hmem, hkept⟩ := h
  obtain ⟨chars, hchars, rfl⟩ := List.mem_map.mp hmem
  rw [Bool.and_eq_true, bne_iff_ne, bne_iff_ne] at hkept
  refine ⟨?_, hkept.1, hkept.2⟩
  intro hslash
  rw [String.toList_ofList] at hslash
  simpa using not_separator_of_mem_splitOn hchars '/' hslash

theorem isPart_of_mem_ofText {s part : String} (h : part ∈ (ofText s).parts) : IsPart part :=
  isPart_of_mem_partsOf h

/-- Joined parts fall apart at the slashes between them. -/
theorem splitOn_joinWith {parts : List String} (hne : parts ≠ [])
    (h : ∀ part ∈ parts, IsPart part) :
    splitOn (· == '/') (joinWith "/" parts).toList = parts.map String.toList := by
  rw [toList_joinWith]
  refine splitOn_joinLists rfl (by simpa using hne) ?_
  intro chars hchars c hc
  obtain ⟨name, hname, rfl⟩ := List.mem_map.mp hchars
  rw [beq_eq_false_iff_ne]
  rintro rfl
  exact (h name hname).noSlash hc

/-- Parts are found again in the text that they make. -/
theorem partsOf_joinWith {parts : List String} (h : ∀ part ∈ parts, IsPart part) :
    partsOf (joinWith "/" parts).toList = parts := by
  cases parts with
  | nil => rfl
  | cons part rest =>
    have hsplit := splitOn_joinWith (List.cons_ne_nil part rest) h
    have hback : ((part :: rest).map String.toList).map String.ofList = part :: rest := by
      rw [List.map_map]
      exact List.map_id'' (fun name => String.ofList_toList) _
    rw [partsOf, hsplit, hback, List.filter_eq_self]
    intro name hname
    simp [(h name hname).notEmpty, (h name hname).notDot]

theorem splitOn_slash (s : List Char) :
    splitOn (· == '/') ('/' :: s) = [] :: splitOn (· == '/') s :=
  splitOn_append_cons rfl [] s

theorem partsOf_slash (s : List Char) : partsOf ('/' :: s) = partsOf s := by
  simp [partsOf, splitOn_slash]

theorem dropParts?_eq_some_iff {front parts rest : List String} :
    dropParts? front parts = some rest ↔ parts = front ++ rest := by
  induction front generalizing parts with
  | nil => simp [dropParts?]
  | cons a front ih =>
    cases parts with
    | nil => simp [dropParts?]
    | cons b parts =>
      rw [dropParts?]
      split
      · rename_i hab
        rw [ih, beq_iff_eq.mp hab]
        simp
      · rename_i hab
        have hne : ¬ b = a := fun hba => hab (beq_iff_eq.mpr hba.symm)
        simp [hne]

/-! ## 2. Texts -/

/-- Parts that are joined do not start with a slash. -/
theorem head?_joinWith {parts : List String} (h : ∀ part ∈ parts, IsPart part) :
    (joinWith "/" parts).toList.head? ≠ some '/' := by
  cases parts with
  | nil => simp [joinWith]
  | cons part rest =>
    have hpart := h part List.mem_cons_self
    obtain ⟨c, s, hs⟩ := List.exists_cons_of_ne_nil
      (show part.toList ≠ [] by simpa using hpart.notEmpty)
    have hc : c ≠ '/' := by
      rintro rfl
      exact hpart.noSlash (by simp [hs])
    cases rest with
    | nil => simpa [joinWith, hs] using hc
    | cons next rest => simpa [joinWith, hs] using hc

theorem rootOf_rootText (root : PathRoot) {s : List Char} (h : s.head? ≠ some '/') :
    rootOf ((rootText root).toList ++ s) = root := by
  have hs : ∀ t, s ≠ '/' :: t := by
    rintro t rfl
    exact h rfl
  cases root <;> cases s with
  | nil => rfl
  | cons c s =>
    have hc : c ≠ '/' := fun hc => hs s (hc ▸ rfl)
    simp [rootText, rootOf, hc]

/-- A path is read back from its text. -/
theorem ofText_text {p : Path} (h : ∀ part ∈ p.parts, IsPart part) : ofText p.text = p := by
  obtain ⟨root, parts⟩ := p
  have hread : ofText (rootText root ++ joinWith "/" parts) = ⟨root, parts⟩ := by
    rw [ofText, String.toList_append, rootOf_rootText root (head?_joinWith h)]
    congr 1
    cases root with
    | relative => simpa [rootText] using partsOf_joinWith h
    | absolute => simpa [rootText, partsOf_slash] using partsOf_joinWith h
    | doubled => simpa [rootText, partsOf_slash] using partsOf_joinWith h
  rw [text]
  split
  · rename_i hroot hparts
    simp only at hroot hparts
    rw [hroot, hparts]
    decide
  · exact hread

theorem length_joinWith_partsOf_le (s : List Char) :
    (joinWith "/" (partsOf s)).toList.length ≤ s.length := by
  rw [toList_joinWith]
  refine length_joinLists_splitOn_le '/' (p := (· == '/')) ?_
  have hkept : ((partsOf s).map String.toList).Sublist
      (((splitOn (· == '/') s).map String.ofList).map String.toList) :=
    List.filter_sublist.map _
  rwa [List.map_map, List.map_id'' (f := String.toList ∘ String.ofList)
    fun _ => String.toList_ofList] at hkept

/-- A path has no longer text than the one that it is read from. -/
theorem length_text_ofText_le {s : String} (hs : s ≠ "") :
    (ofText s).text.toList.length ≤ s.toList.length := by
  have hne : s.toList ≠ [] := by simpa using hs
  rw [ofText]
  generalize s.toList = chars at hne ⊢
  fun_cases rootOf chars with
  | case1 rest =>
    have hjoined := length_joinWith_partsOf_le rest
    simp only [text, rootText, partsOf_slash, String.toList_append, List.length_append,
      List.length_cons]
    exact Nat.le_trans (Nat.add_le_add_left hjoined _) (by simp; omega)
  | case2 rest =>
    simpa [text, rootText, partsOf_slash] using length_joinWith_partsOf_le rest
  | case3 rest =>
    simpa [text, rootText, partsOf_slash] using length_joinWith_partsOf_le rest
  | case4 =>
    have hjoined := length_joinWith_partsOf_le chars
    cases hparts : partsOf chars with
    | nil => simpa [text, Nat.one_le_iff_ne_zero] using hne
    | cons part rest =>
      rw [hparts] at hjoined
      simpa [text, rootText] using hjoined

/-- The text of a path with parts ends in the last of them. -/
theorem getLast?_splitOn_text {p : Path} {name : String} (h : ∀ part ∈ p.parts, IsPart part)
    (hname : p.parts.getLast? = some name) :
    (splitOn (· == '/') p.text.toList).getLast? = some name.toList := by
  obtain ⟨root, parts⟩ := p
  have hne : parts ≠ [] := by
    rintro rfl
    cases hname
  have htext : text ⟨root, parts⟩ = rootText root ++ joinWith "/" parts := by
    cases root with
    | relative => cases parts <;> simp_all [text]
    | absolute | doubled => rfl
  have hlast : (splitOn (· == '/') (joinWith "/" parts).toList).getLast? = some name.toList := by
    rw [splitOn_joinWith hne h, List.getLast?_map, hname, Option.map_some]
  have hslash : ∀ s : List Char, (splitOn (· == '/') ('/' :: s)).getLast? =
      (splitOn (· == '/') s).getLast? := by
    intro s
    rw [splitOn_slash, List.getLast?_cons, List.getLast?_eq_some_getLast (splitOn_ne_nil _ s), Option.getD_some]
  rw [htext, String.toList_append]
  cases root with
  | relative => simpa [rootText] using hlast
  | absolute => simpa [rootText, hslash] using hlast
  | doubled => simpa [rootText, hslash] using hlast

theorem ofText_text_ofText (s : String) : ofText (ofText s).text = ofText s :=
  ofText_text fun _ => isPart_of_mem_ofText

end Path

end StaticSite
