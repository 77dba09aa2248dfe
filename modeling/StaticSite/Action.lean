/-
StaticSite.Action — what is done with a state and can fail.

The state that an action leaves counts even if the action fails.
-/

namespace StaticSite

/-- An action: it comes to a result or an error, and it leaves a state behind. -/
abbrev Action (ε σ α : Type) : Type :=
  ExceptT ε (StateM σ) α

namespace Action

variable {ε σ α β : Type}

/-- What comes of an action, and the state afterwards. -/
def perform (part : Action ε σ α) (state : σ) : Except ε α × σ :=
  part.run.run state

theorem perform_pure (a : α) (state : σ) : (pure a : Action ε σ α).perform state = (.ok a, state) :=
  rfl

/-- One action after the other: the first failure ends both. -/
theorem perform_bind (part : Action ε σ α) (next : α → Action ε σ β) (state : σ) :
    (part >>= next).perform state =
      match part.perform state with
      | (.ok a, state) => (next a).perform state
      | (.error e, state) => (.error e, state) := by
  simp only [perform, ExceptT.run, StateT.run, bind, ExceptT.bind, ExceptT.mk, StateT.bind]
  obtain ⟨made, after⟩ := part state
  cases made <;> rfl

end Action

end StaticSite
