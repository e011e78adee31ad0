import FlyEvents.Foundation.Machine

/-! # Views of a machine through a plainer one

A view reads the states of one machine as states of another, and each of its
actions as the actions that the other takes meanwhile: none, one or several. If
every step is matched then so is every run, and what holds of the runs of the
plainer machine can be said of what is seen.
-/

universe uState uAction uView uSeen

namespace Machine

/-- The actions of a restricted run stay restricted when more of them follow. -/
theorem along_append_iff {State : Type uState} {Action : Type uAction}
    {step : Machine State Action} {allowed : State → Action → Prop} {start middle : State}
    {first : List Action} (hfirst : step.run start first = some middle) (second : List Action) :
    Along step allowed start (first ++ second) ↔
      Along step allowed start first ∧ Along step allowed middle second := by
  induction first generalizing start with
  | nil =>
      cases hfirst
      simp [Along]
  | cons action rest ih =>
      obtain ⟨next, hnext, hrest⟩ := run_cons_eq_some_iff.mp hfirst
      simp only [List.cons_append, Along, hnext, Option.some.injEq, forall_eq']
      rw [ih hrest, and_assoc]

/-- A restriction that the actions meet in every state is met along the run. -/
theorem along_of_forall {State : Type uState} {Action : Type uAction}
    {step : Machine State Action} {allowed : State → Action → Prop} {actions : List Action}
    (hallowed : ∀ action ∈ actions, ∀ state, allowed state action) (start : State) :
    Along step allowed start actions := by
  induction actions generalizing start with
  | nil => trivial
  | cons action rest ih =>
      refine ⟨hallowed action List.mem_cons_self start, fun next _ => ?_⟩
      exact ih (fun later hlater => hallowed later (List.mem_cons_of_mem action hlater)) next

variable {State : Type uState} {Action : Type uAction} {Seen : Type uView}
  {SeenAction : Type uSeen}

/-- How a machine is seen as another one: from the states that the invariant
holds of, every step is matched by a run. -/
structure View (step : Machine State Action) (seen : Machine Seen SeenAction) where
  invariant : State → Prop
  state : State → Seen
  actions : State → Action → List SeenAction
  kept : ∀ current action next, invariant current → step current action = some next →
    invariant next
  matched : ∀ current action next, invariant current → step current action = some next →
    seen.run (state current) (actions current action) = some (state next)

namespace View

variable {step : Machine State Action} {seen : Machine Seen SeenAction} (view : View step seen)

/-- The actions that a run is seen to take. -/
def trace (start : State) (actions : List Action) : List SeenAction :=
  step.outputs view.actions start actions

/-- A run is seen as a run. -/
theorem run {start finish : State} {actions : List Action} (hstart : view.invariant start)
    (hrun : step.run start actions = some finish) :
    seen.run (view.state start) (view.trace start actions) = some (view.state finish) := by
  induction actions generalizing start with
  | nil =>
      cases hrun
      rfl
  | cons action rest ih =>
      obtain ⟨middle, hmiddle, hrest⟩ := run_cons_eq_some_iff.mp hrun
      rw [trace, outputs_cons hmiddle]
      exact run_append_eq_some_iff.mpr ⟨view.state middle,
        view.matched start action middle hstart hmiddle,
        ih (view.kept start action middle hstart hmiddle) hrest⟩

/-- If the steps that a run may take are seen to take allowed steps only, so is
the run. -/
theorem along_trace {own : State → Action → Prop} {allowed : Seen → SeenAction → Prop}
    (hallowed : ∀ current action next, view.invariant current → own current action →
      step current action = some next →
      Along seen allowed (view.state current) (view.actions current action))
    {start finish : State} {actions : List Action} (hstart : view.invariant start)
    (halong : Along step own start actions) (hrun : step.run start actions = some finish) :
    Along seen allowed (view.state start) (view.trace start actions) := by
  induction actions generalizing start with
  | nil => trivial
  | cons action rest ih =>
      obtain ⟨hown, hafter⟩ := halong
      obtain ⟨middle, hmiddle, hrest⟩ := run_cons_eq_some_iff.mp hrun
      rw [trace, outputs_cons hmiddle]
      refine (along_append_iff (view.matched start action middle hstart hmiddle) _).mpr ⟨?_, ?_⟩
      · exact hallowed start action middle hstart hown hmiddle
      · exact ih (view.kept start action middle hstart hmiddle) (hafter middle hmiddle) hrest

end View

end Machine
