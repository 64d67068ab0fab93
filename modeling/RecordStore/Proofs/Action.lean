import RecordStore.Action

/-!
# Actions that happen as a whole or not at all

An action is `Atomic` for a property of states if it keeps the property when it succeeds and leaves
the state as it was when it is refused. Actions work in place, so this is not for free, and it is not
kept by putting one action after another: the second might be refused when the first has already
changed something. It is kept by putting any number of checks before an action, and a last step that
cannot be refused behind it, which is how the actions on tables and stores are built.
-/

namespace RecordStore.Action

variable {σ τ α β : Type} {P : σ → Prop}

/-- The action keeps a property of states, and does nothing to such a state if it is refused. -/
structure Atomic (P : σ → Prop) (action : Action σ α) : Prop where
  /-- The property is kept. -/
  keeps : ∀ {state a after}, P state → action.run state = .ok a after → P after
  /-- A refusal leaves the state as it was. -/
  undone : ∀ {state fault after}, P state → action.run state = .error fault after → after = state

/-- A check leaves the state alone. -/
theorem run_liftExcept (check : Except Fault α) (state : σ) :
    (liftExcept check : Action σ α).run state =
      match check with
      | .ok a => .ok a state
      | .error fault => .error fault state := by
  cases check <;> rfl

theorem Atomic.check_bind (check : Except Fault α) {rest : α → Action σ β}
    (h : ∀ a, check = .ok a → Atomic P (rest a)) :
    Atomic P (liftExcept check >>= rest) := by
  constructor <;> intro state <;> rw [EStateM.run_bind, run_liftExcept] <;> cases hcheck : check
  case keeps.error fault => exact fun _ hrun ↦ nomatch hrun
  case keeps.ok a => exact (h a hcheck).keeps
  case undone.error fault => exact fun _ hrun ↦ by cases hrun; rfl
  case undone.ok a => exact (h a hcheck).undone

theorem Atomic.check (check : Except Fault α) : Atomic P (liftExcept check) where
  keeps hstate hrun := by
    rw [run_liftExcept] at hrun
    cases check <;> cases hrun
    exact hstate
  undone _ hrun := by
    rw [run_liftExcept] at hrun
    cases check <;> cases hrun
    rfl

theorem Atomic.get_bind {rest : σ → Action σ β} (h : ∀ state, Atomic P (rest state)) :
    Atomic P (get >>= rest) where
  keeps {state} := (h state).keeps
  undone {state} := (h state).undone

/-- A last step that only computes a result. -/
theorem Atomic.map {action : Action σ α} (h : Atomic P action) (f : α → β) :
    Atomic P (action >>= fun a ↦ pure (f a)) := by
  constructor <;> intro state <;> rw [EStateM.run_bind] <;> cases hrun : action.run state
  case keeps.ok a after =>
    intro b after' hstate heq
    cases heq
    exact h.keeps hstate hrun
  case keeps.error fault after => exact fun _ heq ↦ nomatch heq
  case undone.ok a after => exact fun _ heq ↦ nomatch heq
  case undone.error fault after =>
    intro fault' after' hstate heq
    cases heq
    exact h.undone hstate hrun

/-- A check in front decides whether the rest is done at all. -/
theorem perform_check_bind (check : Except Fault α) (rest : α → Action σ β) (state : σ) :
    (liftExcept check >>= rest : Action σ β).perform state =
      match check with
      | .ok a => (rest a).perform state
      | .error fault => (state, .error fault) := by
  rw [perform, EStateM.run_bind, run_liftExcept]
  cases check <;> rfl

/-- A last step that only computes a result is no matter of the state. -/
theorem perform_map (action : Action σ α) (f : α → β) (state : σ) :
    (action >>= fun a ↦ pure (f a) : Action σ β).perform state =
      ((action.perform state).1, (action.perform state).2.map f) := by
  unfold perform
  rw [EStateM.run_bind]
  cases action.run state <;> rfl

/-- An action with a last step that only computes a result is done if the action is. -/
theorem exists_run_of_map {action : Action σ α} {f : α → β} {state after : σ} {b : β}
    (h : (action >>= fun a ↦ pure (f a) : Action σ β).run state = .ok b after) :
    ∃ a, action.run state = .ok a after ∧ f a = b := by
  rw [EStateM.run_bind] at h
  cases hrun : action.run state with
  | ok a between =>
    rw [hrun] at h
    cases h
    exact ⟨a, rfl, rfl⟩
  | error fault between =>
    rw [hrun] at h
    cases h

/-- What an atomic action keeps, holds after it in any case. -/
theorem Atomic.perform {action : Action σ α} (h : Atomic P action) {state : σ} (hstate : P state) :
    P (action.perform state).1 := by
  unfold Action.perform
  cases hrun : action.run state with
  | ok a after => exact h.keeps hstate hrun
  | error fault after =>
    show P after
    rw [h.undone hstate hrun]
    exact hstate

/-- A refused atomic action leaves the state as it was. -/
theorem Atomic.perform_of_refused {action : Action σ α} (h : Atomic P action) {state : σ}
    (hstate : P state) {fault : Fault} (hrefused : (action.perform state).2 = .error fault) :
    (action.perform state).1 = state := by
  unfold Action.perform at hrefused ⊢
  cases hrun : action.run state with
  | ok a after =>
    rw [hrun] at hrefused
    cases hrefused
  | error fault after => exact h.undone hstate hrun

/-- What each of several actions keeps, holds after all of them. -/
theorem keeps_forM {actions : List α} {body : α → Action σ PUnit}
    (hbody : ∀ a ∈ actions, ∀ {state u after}, P state → (body a).run state = .ok u after → P after)
    {state after : σ} {u : PUnit} (hstate : P state)
    (hrun : (actions.forM body).run state = .ok u after) : P after := by
  induction actions generalizing state with
  | nil =>
    cases hrun
    exact hstate
  | cons first rest ih =>
    change (body first >>= fun _ ↦ rest.forM body).run state = .ok u after at hrun
    rw [EStateM.run_bind] at hrun
    cases hfirst : (body first).run state with
    | error fault between =>
      rw [hfirst] at hrun
      cases hrun
    | ok u between =>
      rw [hfirst] at hrun
      have hbetween := hbody first List.mem_cons_self hstate hfirst
      exact ih (fun a ha ↦ hbody a (List.mem_cons_of_mem _ ha)) hbetween hrun

/-- Once the first of several actions are done, the others go on from there. -/
theorem run_forM_append {front rest : List α} {body : α → Action σ PUnit} {state between : σ}
    {u : PUnit} (h : (front.forM body).run state = .ok u between) :
    ((front ++ rest).forM body).run state = (rest.forM body).run between := by
  induction front generalizing state with
  | nil =>
    cases h
    rfl
  | cons first front ih =>
    change (body first >>= fun _ ↦ front.forM body).run state = .ok u between at h
    change (body first >>= fun _ ↦ (front ++ rest).forM body).run state = _
    rw [EStateM.run_bind] at h ⊢
    cases hfirst : (body first).run state with
    | error fault after =>
      rw [hfirst] at h
      cases h
    | ok u after =>
      rw [hfirst] at h
      exact ih h

end RecordStore.Action
