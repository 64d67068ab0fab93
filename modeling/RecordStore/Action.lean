import RecordStore.Fault

/-!
# Actions

An action works on a state in place, and may be refused on the way. Nothing undoes what it has done
until then: the state after a refusal is the one that the action had reached. That a refused
command leaves a store as it was is therefore no matter of course. Every action has to see to it
that its checks come before its changes.
-/

namespace RecordStore

/-- Work on a state in place, which may be refused. -/
abbrev Action (σ α : Type) : Type := EStateM Fault σ α

namespace Action

variable {σ τ α : Type}

/-- The state after an action, whether it was refused or not, and its result. -/
def perform (action : Action σ α) (state : σ) : σ × Except Fault α :=
  match action.run state with
  | .ok a state => (state, .ok a)
  | .error fault state => (state, .error fault)

/-- Works on another state that is given up when the action is refused, and returned with the
result when it is not. -/
def apart (start : τ) (action : Action τ α) : Action σ (α × τ) :=
  match action.run start with
  | .ok a state => pure (a, state)
  | .error fault _ => throw fault

end Action

end RecordStore
