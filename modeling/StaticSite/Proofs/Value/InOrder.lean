/-
StaticSite.Proofs.Value.InOrder — lists that are read item by item.

The first item that cannot be read ends the reading of a list. So the list has
a result just if each item has one, and then the results stand in the order of
the items (`mapM_ok_iff`); otherwise the error is that of the first item that
has none (`mapM_error_iff`). An item can be read with its index in the list
(`mapM_zipIdx_ok_iff`, `mapM_zipIdx_error_iff`).
-/
import Mathlib.Data.List.Forall2

namespace StaticSite

section

variable {ε α β : Type} {e : ε}

theorem ok_bind (a : α) (f : α → Except ε β) : (Except.ok a >>= f) = f a :=
  rfl

theorem bind_ok_iff {x : Except ε α} {f : α → Except ε β} {b : β} :
    (x >>= f) = .ok b ↔ ∃ a, x = .ok a ∧ f a = .ok b := by
  cases x with
  | error e => exact iff_of_false nofun nofun
  | ok a => exact ⟨fun h => ⟨a, rfl, h⟩, fun ⟨_, ha, h⟩ => Except.ok.inj ha ▸ h⟩

theorem bind_error_iff {x : Except ε α} {f : α → Except ε β} :
    (x >>= f) = .error e ↔ x = .error e ∨ ∃ a, x = .ok a ∧ f a = .error e := by
  cases x with
  | error fault =>
    constructor
    · rintro ⟨⟩
      exact Or.inl rfl
    · rintro (⟨⟨⟩⟩ | ⟨_, ⟨⟩, -⟩)
      rfl
  | ok a =>
    constructor
    · exact fun h => Or.inr ⟨a, rfl, h⟩
    · rintro (⟨⟨⟩⟩ | ⟨_, ⟨⟩, h⟩)
      exact h

section

variable {read : α → Except ε β} {items : List α} {results : List β}

theorem mapM_ok_iff :
    items.mapM read = .ok results ↔
      List.Forall₂ (fun item result => read item = .ok result) items results := by
  induction items generalizing results with
  | nil =>
    rw [List.forall₂_nil_left_iff]
    exact ⟨fun h => (Except.ok.inj h).symm, fun h => h ▸ rfl⟩
  | cons item rest ih =>
    simp only [List.mapM_cons, bind_ok_iff, List.forall₂_cons_left_iff, ih]
    constructor
    · rintro ⟨result, hresult, others, hothers, ⟨⟩⟩
      exact ⟨result, others, hresult, hothers, rfl⟩
    · rintro ⟨result, others, hresult, hothers, rfl⟩
      exact ⟨result, hresult, others, hothers, rfl⟩

theorem mapM_error_iff :
    items.mapM read = .error e ↔
      ∃ (i : Nat) (item : α), items[i]? = some item ∧ read item = .error e ∧
        ∀ j < i, ∀ before, items[j]? = some before → ∃ result, read before = .ok result := by
  induction items with
  | nil =>
    refine iff_of_false nofun ?_
    rintro ⟨i, item, hitem, -⟩
    cases hitem
  | cons first rest ih =>
    have hrest : (∃ result, read first = .ok result ∧
          (rest.mapM read >>= fun results => pure (result :: results)) = .error e) ↔
        (∃ result, read first = .ok result) ∧ rest.mapM read = .error e := by
      rw [← exists_and_right]
      refine exists_congr fun result => and_congr_right fun _ => ?_
      rw [bind_error_iff]
      exact or_iff_left nofun
    -- the item that fails is the first one, or comes after one that can be read
    rw [List.mapM_cons, bind_error_iff, hrest, ← Nat.or_exists_add_one, ih]
    simp only [Nat.forall_lt_succ_left, List.getElem?_cons_zero, List.getElem?_cons_succ,
      Option.some.injEq, forall_eq', Nat.not_lt_zero, false_imp_iff, implies_true, and_true,
      exists_eq_left']
    refine or_congr_right ⟨?_, ?_⟩
    · rintro ⟨hfirst, i, item, hitem, herror, hbefore⟩
      exact ⟨i, item, hitem, herror, hfirst, hbefore⟩
    · rintro ⟨i, item, hitem, herror, hfirst, hbefore⟩
      exact ⟨hfirst, i, item, hitem, herror, hbefore⟩

end

section

variable {items : List α} {results : List β}

/-- Each item has a result at its index, and there are no other results. -/
theorem mapM_zipIdx_ok_iff (read : Nat → α → Except ε β) :
    (items.zipIdx.mapM fun item => read item.2 item.1) = .ok results ↔
      results.length = items.length ∧
        ∀ (i : Nat) (item : α) (result : β), items[i]? = some item → results[i]? = some result →
          read i item = .ok result := by
  rw [mapM_ok_iff, List.forall₂_iff_get]
  constructor
  · rintro ⟨hlength, h⟩
    refine ⟨by simpa using hlength.symm, fun i item result hitem hresult => ?_⟩
    obtain ⟨hi, rfl⟩ := List.getElem?_eq_some_iff.mp hitem
    obtain ⟨hi', rfl⟩ := List.getElem?_eq_some_iff.mp hresult
    simpa using h i (by simpa using hi) hi'
  · rintro ⟨hlength, h⟩
    refine ⟨by simpa using hlength.symm, fun i hi hi' => ?_⟩
    have hitem : i < items.length := hlength ▸ hi'
    simpa using h i items[i] results[i] (List.getElem?_eq_getElem hitem)
      (List.getElem?_eq_getElem hi')

theorem mapM_zipIdx_error_iff (read : Nat → α → Except ε β) :
    (items.zipIdx.mapM fun item => read item.2 item.1) = .error e ↔
      ∃ (i : Nat) (item : α), items[i]? = some item ∧ read i item = .error e ∧
        ∀ j < i, ∀ before, items[j]? = some before → ∃ result, read j before = .ok result := by
  rw [mapM_error_iff]
  simp [List.getElem?_zipIdx]

end

end

end StaticSite
