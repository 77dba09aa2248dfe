/-
StaticSite.Proofs.Text.Splitting — lists that are cut at separators and joined again.

A list that was joined splits into its members (`splitOn_joinLists`), and a
list that was split is joined again from its parts (`joinLists_splitOn`). What
is split and joined, in whole or in part, has nothing new in it
(`subset_of_mem_splitOn`, `mem_joinLists`) and is no longer than before
(`length_joinLists_splitOn_le`). The line ends of a text are unified already
if there is no carriage return in it.
-/
import StaticSite.Text.Lines

namespace StaticSite.Text

/-! ## 1. Line ends -/

theorem unifyLineEnds_of_not_mem {s : List Char} (h : '\r' ∉ s) : unifyLineEnds s = s := by
  induction s with
  | nil => rfl
  | cons c s ih =>
    rw [List.mem_cons, not_or] at h
    have hc : c ≠ '\r' := Ne.symm h.1
    rw [unifyLineEnds, ih h.2]
    · rintro _ rfl
      exact (hc rfl).elim
    · exact hc

/-! ## 2. Splitting what was joined -/

variable {α : Type} {p : α → Bool}

theorem splitOn_of_none {s : List α} (h : ∀ a ∈ s, p a = false) : splitOn p s = [s] := by
  induction s with
  | nil => rfl
  | cons a s ih =>
    rw [List.forall_mem_cons] at h
    simp [splitOn, ih h.2, h.1]

theorem splitOn_append_cons {a : α} (ha : p a = true) (s t : List α) :
    splitOn p (s ++ a :: t) = splitOn p s ++ splitOn p t := by
  induction s with
  | nil =>
    obtain ⟨part, parts, hparts⟩ := List.exists_cons_of_ne_nil (splitOn_ne_nil p t)
    simp [splitOn, hparts, ha]
  | cons b s ih =>
    obtain ⟨part, parts, hparts⟩ := List.exists_cons_of_ne_nil (splitOn_ne_nil p s)
    rw [List.cons_append, splitOn, ih, splitOn, hparts]
    cases p b <;> simp

/-- A list that was joined splits into its members, if the separator comes in none of them. -/
theorem splitOn_joinLists {a : α} (ha : p a = true) {parts : List (List α)} (hne : parts ≠ [])
    (h : ∀ part ∈ parts, ∀ b ∈ part, p b = false) : splitOn p (joinLists [a] parts) = parts := by
  induction parts with
  | nil => exact absurd rfl hne
  | cons part rest ih =>
    rw [List.forall_mem_cons] at h
    cases rest with
    | nil => exact splitOn_of_none h.1
    | cons next rest =>
      rw [joinLists, List.append_assoc, List.singleton_append, splitOn_append_cons ha,
        splitOn_of_none h.1, ih (List.cons_ne_nil _ _) h.2, List.singleton_append]

theorem not_separator_of_mem_splitOn {s part : List α} (h : part ∈ splitOn p s) :
    ∀ a ∈ part, p a = false := by
  induction s generalizing part with
  | nil =>
    rw [splitOn, List.mem_singleton] at h
    simp [h]
  | cons b s ih =>
    obtain ⟨first, rest, hparts⟩ := List.exists_cons_of_ne_nil (splitOn_ne_nil p s)
    rw [splitOn, hparts] at h
    rw [hparts] at ih
    cases hb : p b with
    | true =>
      simp only [hb, if_true, List.mem_cons] at h
      rcases h with rfl | h
      · simp
      · exact ih (List.mem_cons.mpr h)
    | false =>
      simp only [hb, Bool.false_eq_true, if_false, List.mem_cons] at h
      rcases h with rfl | h
      · simpa [hb] using ih List.mem_cons_self
      · exact ih (List.mem_cons_of_mem _ h)

/-! ## 3. Joining what was split -/

theorem joinLists_cons {separator first : List α} {rest : List (List α)} (h : rest ≠ []) :
    joinLists separator (first :: rest) = first ++ separator ++ joinLists separator rest := by
  obtain ⟨next, rest, rfl⟩ := List.exists_cons_of_ne_nil h
  rfl

theorem joinLists_cons_first (separator : List α) (a : α) (first : List α) (rest : List (List α)) :
    joinLists separator ((a :: first) :: rest) = a :: joinLists separator (first :: rest) := by
  cases rest <;> rfl

/-- The parts of a list make the list again, if there is only one separator to put between them. -/
theorem joinLists_splitOn {a : α} (hp : ∀ b, p b = true → b = a) (s : List α) :
    joinLists [a] (splitOn p s) = s := by
  induction s with
  | nil => rfl
  | cons b s ih =>
    obtain ⟨part, parts, hparts⟩ := List.exists_cons_of_ne_nil (splitOn_ne_nil p s)
    rw [hparts] at ih
    rw [splitOn, hparts]
    cases hb : p b with
    | true =>
      simp only [if_true]
      rw [joinLists_cons (List.cons_ne_nil part parts), ih, hp b hb]
      rfl
    | false =>
      simp only [Bool.false_eq_true, if_false]
      rw [joinLists_cons_first, ih]

theorem length_splitOn (p : α → Bool) (s : List α) : (splitOn p s).length = s.countP p + 1 := by
  induction s with
  | nil => rfl
  | cons b s ih =>
    obtain ⟨part, parts, hparts⟩ := List.exists_cons_of_ne_nil (splitOn_ne_nil p s)
    rw [hparts] at ih
    rw [splitOn, hparts, List.countP_cons]
    cases p b with
    | true => simpa using ih
    | false => simpa using ih

/-! ## 4. Members -/

/-- The parts of a list have nothing that the list has not. -/
theorem subset_of_mem_splitOn {s : List α} : ∀ part ∈ splitOn p s, part ⊆ s := by
  induction s with
  | nil => simp [splitOn]
  | cons a s ih =>
    obtain ⟨first, rest, hparts⟩ := List.exists_cons_of_ne_nil (splitOn_ne_nil p s)
    rw [hparts, List.forall_mem_cons] at ih
    obtain ⟨hfirst, hrest⟩ := ih
    have hmore : ∀ part ∈ rest, part ⊆ a :: s :=
      fun part hpart => List.subset_cons_of_subset a (hrest part hpart)
    intro part h
    rw [splitOn, hparts] at h
    cases ha : p a with
    | true =>
      simp only [ha, if_true, List.mem_cons] at h
      rcases h with rfl | rfl | h
      · exact List.nil_subset _
      · exact List.subset_cons_of_subset a hfirst
      · exact hmore part h
    | false =>
      simp only [ha, Bool.false_eq_true, if_false, List.mem_cons] at h
      rcases h with rfl | h
      · exact List.cons_subset_cons a hfirst
      · exact hmore part h

theorem mem_joinLists {separator : List α} {lists : List (List α)} {a : α}
    (h : a ∈ joinLists separator lists) : a ∈ separator ∨ ∃ s ∈ lists, a ∈ s := by
  induction lists with
  | nil => exact absurd h List.not_mem_nil
  | cons s rest ih =>
    cases rest with
    | nil => exact .inr ⟨s, List.mem_cons_self, h⟩
    | cons t rest =>
      rw [joinLists, List.append_assoc, List.mem_append, List.mem_append] at h
      rcases h with h | h | h
      · exact .inr ⟨s, List.mem_cons_self, h⟩
      · exact .inl h
      · rcases ih h with h | ⟨part, hpart, h⟩
        · exact .inl h
        · exact .inr ⟨part, List.mem_cons_of_mem _ hpart, h⟩

theorem mem_joinLists_of_mem (separator : List α) {lists : List (List α)} {s : List α}
    (hs : s ∈ lists) {a : α} (ha : a ∈ s) : a ∈ joinLists separator lists := by
  induction lists with
  | nil => cases hs
  | cons first rest ih =>
    cases rest with
    | nil =>
      rw [List.mem_singleton] at hs
      rwa [← hs]
    | cons next rest =>
      rw [joinLists, List.append_assoc, List.mem_append, List.mem_append]
      rcases List.mem_cons.mp hs with rfl | hmem
      · exact .inl ha
      · exact .inr (.inr (ih hmem))

/-! ## 5. Lengths -/

theorem length_joinLists_cons_cons (a : α) (first next : List α) (rest : List (List α)) :
    (joinLists [a] (first :: next :: rest)).length =
      first.length + 1 + (joinLists [a] (next :: rest)).length := by
  rw [joinLists, List.length_append, List.length_append, List.length_singleton]

theorem length_joinLists_splitOn (a : α) (s : List α) :
    (joinLists [a] (splitOn p s)).length = s.length := by
  induction s with
  | nil => rfl
  | cons b s ih =>
    obtain ⟨part, parts, hparts⟩ := List.exists_cons_of_ne_nil (splitOn_ne_nil p s)
    rw [hparts] at ih
    rw [splitOn, hparts, List.length_cons, ← ih]
    cases p b with
    | true =>
      simp only [if_true]
      rw [length_joinLists_cons_cons, List.length_nil]
      omega
    | false =>
      simp only [Bool.false_eq_true, if_false]
      cases parts with
      | nil => rfl
      | cons next rest =>
        rw [length_joinLists_cons_cons, length_joinLists_cons_cons, List.length_cons]
        omega

theorem length_joinLists_le (a : α) {parts all : List (List α)} (h : parts.Sublist all) :
    (joinLists [a] parts).length ≤ (joinLists [a] all).length := by
  induction h with
  | slnil => exact Nat.le_refl _
  | @cons parts all part h ih =>
    cases all with
    | nil => simp [List.sublist_nil.mp h, joinLists]
    | cons next rest =>
      rw [length_joinLists_cons_cons]
      omega
  | @cons_cons parts all part h ih =>
    cases parts with
    | nil =>
      cases all with
      | nil => exact Nat.le_refl _
      | cons next rest =>
        rw [length_joinLists_cons_cons, joinLists]
        omega
    | cons kept parts =>
      cases all with
      | nil => cases h
      | cons next rest =>
        rw [length_joinLists_cons_cons, length_joinLists_cons_cons]
        omega

/-- Joining some of the parts of a list gives no longer list. -/
theorem length_joinLists_splitOn_le (a : α) {s : List α} {parts : List (List α)}
    (h : parts.Sublist (splitOn p s)) : (joinLists [a] parts).length ≤ s.length := by
  rw [← length_joinLists_splitOn (p := p) a s]
  exact length_joinLists_le a h

theorem length_le_of_mem_joinLists (separator : List α) {part : List α}
    {parts : List (List α)} (h : part ∈ parts) :
    part.length ≤ (joinLists separator parts).length := by
  induction parts with
  | nil => cases h
  | cons first rest ih =>
    cases rest with
    | nil =>
      rw [List.mem_singleton] at h
      exact Nat.le_of_eq (congrArg List.length h)
    | cons next rest =>
      rw [joinLists, List.length_append, List.length_append]
      rcases List.mem_cons.mp h with rfl | hrest
      · omega
      · have := ih hrest
        omega

theorem length_le_length_joinLists {separator : List α} {parts : List (List α)}
    (h : ∀ part ∈ parts, part ≠ []) : parts.length ≤ (joinLists separator parts).length := by
  induction parts with
  | nil => exact Nat.zero_le _
  | cons first rest ih =>
    rw [List.forall_mem_cons] at h
    have hfirst : 0 < first.length := List.length_pos_iff.mpr h.1
    cases rest with
    | nil =>
      rw [joinLists, List.length_singleton]
      exact hfirst
    | cons next rest =>
      have hrest := ih h.2
      rw [joinLists, List.length_append, List.length_append, List.length_cons]
      omega

/-! ## 6. Texts -/

/-- Looking for lines with a word in what some texts were printed as finds those of the texts that
start with the word, if none of them holds a line feed. -/
theorem linesWith_asLines {word : String} (hword : word ≠ "") {texts : List String}
    (h : ∀ text ∈ texts, '\n' ∉ text.toList) :
    linesWith word (asLines texts) =
      texts.filter fun text => word.toList.isPrefixOf text.toList := by
  induction texts with
  | nil =>
    have hnone : word.toList.isPrefixOf ([] : List Char) = false := by
      rw [Bool.eq_false_iff, ne_eq, List.isPrefixOf_iff_prefix, List.prefix_nil,
        String.toList_eq_nil_iff]
      exact hword
    simp [linesWith, asLines, concat, splitOn, hnone]
  | cons text rest ih =>
    rw [List.forall_mem_cons] at h
    have hfirst : ∀ c ∈ text.toList, (c == '\n') = false := by
      intro c hc
      rw [beq_eq_false_iff_ne]
      rintro rfl
      exact h.1 hc
    have hsplit : splitOn (· == '\n') (asLines (text :: rest)).toList =
        text.toList :: splitOn (· == '\n') (asLines rest).toList := by
      rw [show asLines (text :: rest) = text ++ "\n" ++ asLines rest from rfl,
        String.toList_append, String.toList_append, List.append_assoc]
      rw [show "\n".toList ++ (asLines rest).toList = '\n' :: (asLines rest).toList from rfl,
        splitOn_append_cons (by rfl), splitOn_of_none hfirst, List.singleton_append]
    have hrest := ih h.2
    rw [linesWith] at hrest ⊢
    rw [hsplit, List.map_cons, List.filter_cons, List.filter_cons, hrest, String.ofList_toList]


theorem toList_joinWith (separator : String) (parts : List String) :
    (joinWith separator parts).toList = joinLists separator.toList (parts.map String.toList) := by
  induction parts with
  | nil => rfl
  | cons part rest ih =>
    cases rest with
    | nil => rfl
    | cons next rest =>
      rw [joinWith, String.toList_append, String.toList_append, ih]
      rfl

end StaticSite.Text
