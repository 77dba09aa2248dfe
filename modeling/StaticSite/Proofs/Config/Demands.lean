/-
StaticSite.Proofs.Config.Demands — what a computation demands, and what it fails with.

The loader of a configuration makes many demands one after the other, and
fails at the first that is not met (`FirstUnmet`). `Raises` says so of a
computation and a list of demands. Of two computations one after the other
the list is that of the first, and then that of the second (`raises_bind`):
so the order of the demands is that of the computations, and each of them is
looked at by itself. The smallest ones ask for one text each
(`raises_textField`).
-/
import StaticSite.Config.Load

namespace StaticSite

open StaticSite.Text

/-! ## 1. Demands -/

/-- A demand on a value, with the error that follows if it is not met and the kind it is raised
as. -/
structure Demand where
  met : Prop
  kind : ErrorKind
  error : ConfigError
  raised : error.kind = kind := by rfl

/-- The first of the demands that is not met. -/
inductive FirstUnmet : List Demand → Demand → Prop where
  | here {d : Demand} {rest : List Demand} (h : ¬ d.met) : FirstUnmet (d :: rest) d
  | later {d first : Demand} {rest : List Demand} (h : d.met) (hrest : FirstUnmet rest first) :
      FirstUnmet (d :: rest) first

/-- A computation fails with the error of the first demand that is not met, and has a result if all
are. -/
def Raises {α : Type} (x : Except ConfigError α) : List Demand → Prop
  | [] => ∃ a, x = .ok a
  | d :: rest => ¬ d.met ∧ x = .error d.error ∨ d.met ∧ Raises x rest

section

variable {α β : Type} {x : Except ConfigError α} {d : Demand} {ds rest : List Demand}
  {e : ConfigError}

theorem raises_of_unmet (h : ¬ d.met) (hx : x = .error d.error) : Raises x (d :: rest) :=
  Or.inl ⟨h, hx⟩

theorem raises_of_met (h : d.met) (hx : Raises x rest) : Raises x (d :: rest) :=
  Or.inr ⟨h, hx⟩

/-- Of two computations one after the other the second one makes its demands when those of the
first are met. -/
theorem raises_bind {f : α → Except ConfigError β} (hx : Raises x ds)
    (hf : ∀ a, x = .ok a → Raises (f a) rest) : Raises (x >>= f) (ds ++ rest) := by
  induction ds with
  | nil =>
    obtain ⟨a, rfl⟩ := hx
    exact hf a rfl
  | cons d ds ih =>
    rcases hx with ⟨hunmet, rfl⟩ | ⟨hmet, hx⟩
    · exact raises_of_unmet hunmet rfl
    · exact raises_of_met hmet (ih hx)

namespace Raises

theorem map {g : α → β} (h : Raises x ds) : Raises (x.map g) ds := by
  induction ds with
  | nil =>
    obtain ⟨a, rfl⟩ := h
    exact ⟨g a, rfl⟩
  | cons d ds ih =>
    rcases h with ⟨hunmet, rfl⟩ | ⟨hmet, h⟩
    · exact raises_of_unmet hunmet rfl
    · exact raises_of_met hmet (ih h)

theorem ok_iff (h : Raises x ds) : (∃ a, x = .ok a) ↔ ∀ d ∈ ds, d.met := by
  induction ds with
  | nil => exact iff_of_true h (List.forall_mem_nil _)
  | cons d rest ih =>
    rw [List.forall_mem_cons]
    rcases h with ⟨hunmet, rfl⟩ | ⟨hmet, h⟩
    · exact iff_of_false nofun fun hall => hunmet hall.1
    · rw [ih h, and_iff_right hmet]

theorem error_iff (h : Raises x ds) : x = .error e ↔ ∃ d, FirstUnmet ds d ∧ d.error = e := by
  induction ds with
  | nil =>
    obtain ⟨a, rfl⟩ := h
    exact iff_of_false nofun nofun
  | cons d rest ih =>
    rcases h with ⟨hunmet, rfl⟩ | ⟨hmet, h⟩
    · rw [Except.error.injEq]
      constructor
      · rintro rfl
        exact ⟨d, .here hunmet, rfl⟩
      · rintro ⟨first, ⟨-⟩ | ⟨hmet, -⟩, hfirst⟩
        · exact hfirst
        · exact absurd hmet hunmet
    · rw [ih h]
      constructor
      · rintro ⟨first, hfirst, herror⟩
        exact ⟨first, .later hmet hfirst, herror⟩
      · rintro ⟨first, ⟨hunmet⟩ | ⟨-, hfirst⟩, herror⟩
        · exact absurd hmet hunmet
        · exact ⟨first, hfirst, herror⟩

end Raises

end

/-! ## 2. Texts -/

namespace Value

/-- Is the value null, or is there nothing but blank characters in its text? -/
def IsBlank (v : Value) : Prop :=
  v = .null ∨ strip v.shown = ""

theorem stripped?_eq {v : Value} (hnull : v ≠ .null) : v.stripped? = v.text.map nonBlank? := by
  unfold stripped?
  split
  · exact absurd rfl hnull
  · cases text _ <;> rfl

theorem stripped?_cases (v : Value) :
    (v.hasText = false ∧ v.stripped? = .error .tooManyDigits) ∨
      (v.hasText = true ∧ v.IsBlank ∧ v.stripped? = .ok none) ∨
      v.hasText = true ∧ ¬ v.IsBlank ∧ ∃ s, v.stripped? = .ok (some s) := by
  by_cases hnull : v = .null
  · subst hnull
    exact Or.inr (Or.inl ⟨rfl, Or.inl rfl, rfl⟩)
  rw [stripped?_eq hnull, text]
  cases htext : v.hasText with
  | false => exact Or.inl ⟨rfl, rfl⟩
  | true =>
    by_cases hblank : strip v.shown = ""
    · have hnone : nonBlank? v.shown = none := by simp [nonBlank?, hblank]
      exact Or.inr (Or.inl ⟨rfl, Or.inr hblank, congrArg Except.ok hnone⟩)
    · have hsome : nonBlank? v.shown = some (strip v.shown) := by simp [nonBlank?, hblank]
      exact Or.inr (Or.inr ⟨rfl, not_or.mpr ⟨hnull, hblank⟩, _, congrArg Except.ok hsome⟩)

end Value

/-- A demand that texts can be written. -/
def Demand.ofTexts (met : Prop) : Demand where
  met := met
  kind := .value
  error := .noText .tooManyDigits

@[simp]
theorem Demand.met_ofTexts (met : Prop) : (Demand.ofTexts met).met = met :=
  rfl

/-- The text under a name, if there is a value, can be written. -/
def textDemand (fields : List (Value × Value)) (name : String) : Demand :=
  .ofTexts (∀ v, Value.field? name fields = some v → v.hasText = true)

section

variable {fields : List (Value × Value)}

theorem raises_stripped {α : Type} {name : String} {v : Value}
    (hv : Value.field? name fields = some v) (g : Option String → α) :
    Raises ((ConfigError.ofText v.stripped?).map g) [textDemand fields name] := by
  have hmet : (textDemand fields name).met ↔ v.hasText = true := by
    simp [textDemand, hv]
  rcases v.stripped?_cases with ⟨hno, hs⟩ | ⟨htext, -, hs⟩ | ⟨htext, -, s, hs⟩ <;> rw [hs]
  · exact raises_of_unmet (by simp [hmet, hno]) rfl
  · exact raises_of_met (hmet.mpr htext) ⟨_, rfl⟩
  · exact raises_of_met (hmet.mpr htext) ⟨_, rfl⟩

theorem raises_of_field?_eq_none {α : Type} {name : String}
    (h : Value.field? name fields = none) (a : α) : Raises (.ok a) [textDemand fields name] :=
  raises_of_met (by simp [textDemand, h]) ⟨a, rfl⟩

theorem raises_textField (name default : String) :
    Raises (textField fields name default) [textDemand fields name] := by
  rw [textField]
  cases hv : Value.field? name fields with
  | none => exact raises_of_field?_eq_none hv _
  | some v => exact raises_stripped hv _

theorem raises_handleOf (default : Option String) :
    Raises (handleOf fields default) [textDemand fields handleField] := by
  rw [handleOf]
  cases hv : Value.field? handleField fields with
  | none => exact raises_of_field?_eq_none hv _
  | some v => exact raises_stripped hv _

end

end StaticSite
