/-
StaticSite.Proofs.Text.Strip — what is left of a text when its ends are taken off.

A text is trimmed if it neither starts nor ends with a blank character
(`trim_eq_self_iff`), and so is what trimming leaves (`trim_trim`). Taking
characters off the ends makes a text no longer, and leaves it as it is only
if nothing is taken off: a text that is as long as before is the same
(`eq_of_trim_length`). Slashes are taken off at the end only, all of them
(`stripTrailingSlashes_append`).
-/
import Mathlib.Data.List.DropRight
import StaticSite.Text.Blank

namespace StaticSite.Text

/-! ## 1. Characters of a class at the end -/

theorem dropEndWhile_isPrefix (p : Char → Bool) (s : List Char) : dropEndWhile p s <+: s :=
  List.rdropWhile_prefix p s

theorem dropEndWhile_eq_self_iff {p : Char → Bool} {s : List Char} :
    dropEndWhile p s = s ↔ ∀ c, s.getLast? = some c → p c = false := by
  rw [show dropEndWhile p s = s.rdropWhile p from rfl, List.rdropWhile_eq_self_iff]
  constructor
  · intro h c hc
    have hne : s ≠ [] := by
      rintro rfl
      cases hc
    rw [List.getLast?_eq_some_getLast hne, Option.some.injEq] at hc
    simpa [hc] using h hne
  · intro h hne
    simp [h _ (List.getLast?_eq_some_getLast hne)]

theorem not_of_getLast?_dropEndWhile {p : Char → Bool} {s : List Char} {c : Char}
    (h : (dropEndWhile p s).getLast? = some c) : p c = false := by
  have hagain : dropEndWhile p (dropEndWhile p s) = dropEndWhile p s :=
    List.rdropWhile_idempotent p s
  exact dropEndWhile_eq_self_iff.mp hagain c h

/-- Nothing is taken off before a character that is not of the class. -/
theorem dropEndWhile_append {p : Char → Bool} {s : List Char}
    (hs : ∃ c, s.getLast? = some c ∧ p c = false) (t : List Char) :
    dropEndWhile p (s ++ t) = s ++ dropEndWhile p t := by
  obtain ⟨c, hlast, hc⟩ := hs
  obtain ⟨front, rfl⟩ := List.getLast?_eq_some_iff.mp hlast
  rw [dropEndWhile, List.reverse_append, List.dropWhile_append]
  split
  · next h =>
    rw [List.isEmpty_iff] at h
    simp [dropEndWhile, h, hc]
  · simp [dropEndWhile]

theorem dropEndWhile_append_of_all {p : Char → Bool} {t : List Char} (ht : ∀ c ∈ t, p c = true)
    (s : List Char) : dropEndWhile p (s ++ t) = dropEndWhile p s := by
  have hreverse : ∀ c ∈ t.reverse, p c = true := by simpa using ht
  rw [dropEndWhile, List.reverse_append, List.dropWhile_append_of_pos hreverse, dropEndWhile]

theorem dropEndWhile_cons (p : Char → Bool) (c : Char) (s : List Char) :
    dropEndWhile p (c :: s) = [] ∨ dropEndWhile p (c :: s) = c :: dropEndWhile p s := by
  by_cases hc : p c = true
  · rw [dropEndWhile, List.reverse_cons, List.dropWhile_append]
    split
    · exact .inl (by simp [hc])
    · exact .inr (by simp [dropEndWhile])
  · exact .inr (dropEndWhile_append (s := [c]) ⟨c, rfl, by simpa using hc⟩ s)

/-! ## 2. Trimming -/

theorem dropBlank_eq_self_iff {s : List Char} :
    dropBlank s = s ↔ ∀ c, s.head? = some c → isBlank c = false := by
  cases s with
  | nil => simp [dropBlank]
  | cons a s =>
    rw [dropBlank, List.dropWhile_eq_self_iff]
    simp

theorem trim_sublist (s : List Char) : (trim s).Sublist s :=
  (dropEndWhile_isPrefix isBlank (dropBlank s)).sublist.trans (List.dropWhile_sublist _)

theorem eq_of_trim_length {s : List Char} (h : s.length ≤ (trim s).length) : trim s = s :=
  (trim_sublist s).eq_of_length_le h

theorem trim_eq_self_iff {s : List Char} :
    trim s = s ↔ (∀ c, s.head? = some c → isBlank c = false) ∧
      ∀ c, s.getLast? = some c → isBlank c = false := by
  rw [← dropBlank_eq_self_iff, ← dropEndWhile_eq_self_iff, trim, dropEndBlank]
  constructor
  · intro h
    have hfront : dropBlank s = s := by
      refine (List.dropWhile_sublist _).eq_of_length_le ?_
      rw [← congrArg List.length h]
      exact (dropEndWhile_isPrefix isBlank (dropBlank s)).length_le
    exact ⟨hfront, by rwa [hfront] at h⟩
  · rintro ⟨hfront, hend⟩
    rw [hfront, hend]

/-- A sign, a digit or a letter of ASCII. -/
def IsGraphic (c : Char) : Prop :=
  33 ≤ c.toNat ∧ c.toNat ≤ 126

instance : DecidablePred IsGraphic :=
  fun c => inferInstanceAs (Decidable (33 ≤ c.toNat ∧ c.toNat ≤ 126))

theorem isBlank_of_isGraphic {c : Char} (h : IsGraphic c) : isBlank c = false := by
  simp only [IsGraphic] at h
  simp only [isBlank, Bool.or_eq_false_iff, Bool.and_eq_false_iff, decide_eq_false_iff_not,
    beq_eq_false_iff_ne, ne_eq]
  omega

theorem trim_of_isGraphic {s : List Char} (h : ∀ c ∈ s, IsGraphic c) : trim s = s :=
  trim_eq_self_iff.mpr ⟨fun c hc => isBlank_of_isGraphic (h c (List.mem_of_head? hc)),
    fun c hc => isBlank_of_isGraphic (h c (List.mem_of_getLast? hc))⟩

theorem trim_trim (s : List Char) : trim (trim s) = trim s := by
  rw [trim_eq_self_iff]
  constructor
  · intro c hc
    obtain ⟨rest, hrest⟩ := dropEndWhile_isPrefix isBlank (dropBlank s)
    have hfront : (dropBlank s).head? = some c := by
      rw [← hrest, List.head?_append]
      exact congrArg (Option.or · _) hc
    exact head?_dropBlank s hfront
  · intro c hc
    exact not_of_getLast?_dropEndWhile hc

/-! ## 3. Slashes at the end -/

theorem stripTrailingSlashes_of_getLast? {s : String} (h : s.toList.getLast? ≠ some '/') :
    stripTrailingSlashes s = s := by
  have hkept : dropEndWhile (· == '/') s.toList = s.toList := by
    rw [dropEndWhile_eq_self_iff]
    intro c hc
    rw [beq_eq_false_iff_ne]
    rintro rfl
    exact h hc
  rw [stripTrailingSlashes, hkept, String.ofList_toList]

theorem getLast?_stripTrailingSlashes (s : String) :
    (stripTrailingSlashes s).toList.getLast? ≠ some '/' := by
  intro h
  rw [stripTrailingSlashes, String.toList_ofList] at h
  simpa using not_of_getLast?_dropEndWhile h

theorem length_stripTrailingSlashes_le (s : String) :
    (stripTrailingSlashes s).toList.length ≤ s.toList.length := by
  rw [stripTrailingSlashes, String.toList_ofList]
  exact (dropEndWhile_isPrefix _ _).length_le

/-- A number of slashes. -/
def slashes (n : Nat) : String :=
  String.ofList (List.replicate n '/')

/-- However many slashes there are, they are taken off. -/
theorem stripTrailingSlashes_append (s : String) (n : Nat) :
    stripTrailingSlashes (s ++ slashes n) = stripTrailingSlashes s := by
  have hslashes : ∀ c ∈ List.replicate n '/', (c == '/') = true := fun c hc =>
    beq_iff_eq.mpr (List.eq_of_mem_replicate hc)
  rw [stripTrailingSlashes, slashes, String.toList_append, String.toList_ofList,
    dropEndWhile_append_of_all hslashes, stripTrailingSlashes]

end StaticSite.Text
