/-
StaticSite.Proofs.Text.Delimiter — texts that end where a delimiter stands.

A text is told apart from what follows it when the next thing is a
delimiter that it does not hold. The delimiter is either a text whose first
character comes nowhere else in it, so that two of its occurrences cannot
overlap (`append_inj_of_marker`), or just a first character
(`append_inj_of_stop`). Read from its end, a text starts where the last
delimiter stands (`append_inj_of_start`).
-/

namespace StaticSite.Text

/-! ## 1. Lists -/

section

variable {α : Type} {a b front marker x y : List α} {c : α}

/-- An occurrence of the marker cannot start in a list before it, unless the list holds one. -/
theorem eq_nil_of_marker (hfirst : marker.head? = some c) (honce : c ∉ marker.tail)
    (hfront : ¬ marker <:+: front) (h : marker ++ x = front ++ (marker ++ y)) : front = [] := by
  cases marker with
  | nil => cases hfirst
  | cons d rest =>
    obtain rfl : d = c := Option.some.inj hfirst
    cases front with
    | nil => rfl
    | cons e front =>
      exfalso
      rw [List.cons_append, List.cons_append, List.cons.injEq] at h
      obtain ⟨rfl, h⟩ := h
      rcases List.append_eq_append_iff.mp h with ⟨middle, rfl, -⟩ | ⟨middle, rfl, hmiddle⟩
      · exact hfront ⟨[], middle, by simp⟩
      · cases middle with
        | nil => exact hfront ⟨[], [], by simp⟩
        | cons g middle =>
          -- the second occurrence would start inside the first one
          rw [List.cons_append, List.cons_append, List.cons.injEq] at hmiddle
          exact honce (by simp [hmiddle.1])

theorem append_list_inj_of_marker (hfirst : marker.head? = some c) (honce : c ∉ marker.tail)
    (ha : ¬ marker <:+: a) (hb : ¬ marker <:+: b) (h : a ++ (marker ++ x) = b ++ (marker ++ y)) :
    a = b ∧ x = y := by
  have hsame : a = b := by
    rcases List.append_eq_append_iff.mp h with ⟨middle, rfl, hmiddle⟩ | ⟨middle, rfl, hmiddle⟩
    · have hnil := eq_nil_of_marker hfirst honce
        (fun hin => hb (hin.trans (List.suffix_append a middle).isInfix)) hmiddle
      rw [hnil, List.append_nil]
    · have hnil := eq_nil_of_marker hfirst honce
        (fun hin => ha (hin.trans (List.suffix_append b middle).isInfix)) hmiddle
      rw [hnil, List.append_nil]
  subst hsame
  exact ⟨rfl, List.append_cancel_left (List.append_cancel_left h)⟩

theorem append_list_inj_of_stop (ha : c ∉ a) (hb : c ∉ b) (h : a ++ c :: x = b ++ c :: y) :
    a = b ∧ x = y :=
  append_list_inj_of_marker (rfl : [c].head? = some c) List.not_mem_nil
    (fun hin => ha (hin.subset List.mem_cons_self))
    (fun hin => hb (hin.subset List.mem_cons_self)) h

theorem append_list_inj_of_start (hx : c ∉ x) (hy : c ∉ y)
    (h : a ++ c :: x = b ++ c :: y) : a = b ∧ x = y := by
  have hreverse : x.reverse ++ c :: a.reverse = y.reverse ++ c :: b.reverse := by
    simpa using congrArg List.reverse h
  obtain ⟨hxy, hab⟩ := append_list_inj_of_stop (by simpa using hx) (by simpa using hy) hreverse
  exact ⟨List.reverse_inj.mp hab, List.reverse_inj.mp hxy⟩

end

/-! ## 2. Texts -/

variable {a b x y : String} {c : Char}

/-- Does a text hold another one? -/
def Holds (s part : String) : Prop :=
  part.toList <:+: s.toList

/-- Does a list start with another one, or does a list further on? -/
def startsSomewhere (part : List Char) : List Char → Bool
  | [] => part.isEmpty
  | c :: rest => part.isPrefixOf (c :: rest) || startsSomewhere part rest

theorem startsSomewhere_iff (part s : List Char) :
    startsSomewhere part s = true ↔ part <:+: s := by
  induction s with
  | nil => simp [startsSomewhere]
  | cons c rest ih =>
    rw [startsSomewhere, Bool.or_eq_true, List.isPrefixOf_iff_prefix, ih, List.infix_cons_iff]

instance (s part : String) : Decidable (Holds s part) :=
  decidable_of_iff _ (startsSomewhere_iff part.toList s.toList)

theorem append_inj_of_marker {marker : String} (hfirst : marker.toList.head? = some c)
    (honce : c ∉ marker.toList.tail) (ha : ¬ Holds a marker) (hb : ¬ Holds b marker)
    (h : a ++ (marker ++ x) = b ++ (marker ++ y)) : a = b ∧ x = y := by
  rw [← String.toList_inj] at h
  simp only [String.toList_append] at h
  obtain ⟨hab, hxy⟩ := append_list_inj_of_marker hfirst honce ha hb h
  exact ⟨String.toList_inj.mp hab, String.toList_inj.mp hxy⟩

/-- The text between two others ends where the next one starts. -/
theorem append_inj_of_stop {next : String} (hfirst : next.toList.head? = some c)
    (ha : c ∉ a.toList) (hb : c ∉ b.toList) (h : a ++ (next ++ x) = b ++ (next ++ y)) :
    a = b ∧ x = y := by
  obtain ⟨rest, hnext⟩ := List.head?_eq_some_iff.mp hfirst
  rw [← String.toList_inj] at h
  simp only [String.toList_append, hnext, List.cons_append] at h
  obtain ⟨hab, hxy⟩ := append_list_inj_of_stop ha hb h
  exact ⟨String.toList_inj.mp hab, String.toList_inj.mp (List.append_cancel_left hxy)⟩

/-- The last text starts where the one before it ends. -/
theorem append_inj_of_start {before : String} (hlast : before.toList.getLast? = some c)
    (hx : c ∉ x.toList) (hy : c ∉ y.toList) (h : a ++ (before ++ x) = b ++ (before ++ y)) :
    a = b ∧ x = y := by
  obtain ⟨rest, hbefore⟩ := List.getLast?_eq_some_iff.mp hlast
  rw [← String.toList_inj] at h
  simp only [String.toList_append, hbefore, List.append_assoc, List.cons_append,
    List.nil_append] at h
  simp only [← List.append_assoc _ rest] at h
  obtain ⟨hab, hxy⟩ := append_list_inj_of_start hx hy h
  exact ⟨String.toList_inj.mp (List.append_cancel_right hab), String.toList_inj.mp hxy⟩

end StaticSite.Text
