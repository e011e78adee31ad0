import Mathlib.Algebra.GroupWithZero.Nat
import Mathlib.Data.List.Basic
import Mathlib.Data.List.Induction
import Mathlib.Data.List.Perm.Basic
import Mathlib.Order.Basic

/-! # Runs of partial labelled machines

A machine answers an action with the next state, or with `none` where the
state does not offer the action. A run is a list of actions taken one after
another. The rules below carry a property from one step to a whole run, also
for runs whose steps are restricted or give something out, and bound runs by a
decreasing measure.
-/

universe uState uAction uOutput

/-- A machine over `State` whose steps are labelled by `Action`. -/
abbrev Machine (State : Type uState) (Action : Type uAction) := State → Action → Option State

namespace Machine

variable {State : Type uState} {Action : Type uAction}

/-- Take the listed actions in order; `none` when one of them is not offered. -/
def run (step : Machine State Action) (start : State) (actions : List Action) : Option State :=
  actions.foldlM step start

@[simp] theorem run_nil (step : Machine State Action) (start : State) :
    step.run start [] = some start := rfl

theorem run_cons (step : Machine State Action) (start : State) (action : Action)
    (rest : List Action) :
    step.run start (action :: rest) = (step start action).bind fun next => step.run next rest :=
  List.foldlM_cons

theorem run_cons_eq_some_iff {step : Machine State Action} {start finish : State}
    {action : Action} {rest : List Action} :
    step.run start (action :: rest) = some finish ↔
      ∃ middle, step start action = some middle ∧ step.run middle rest = some finish := by
  rw [run_cons, Option.bind_eq_some_iff]

@[simp] theorem run_singleton (step : Machine State Action) (start : State) (action : Action) :
    step.run start [action] = step start action := by
  rw [run_cons]
  cases step start action <;> rfl

theorem run_append (step : Machine State Action) (start : State) (first second : List Action) :
    step.run start (first ++ second) =
      (step.run start first).bind fun middle => step.run middle second :=
  List.foldlM_append

theorem run_append_eq_some_iff {step : Machine State Action} {start finish : State}
    {first second : List Action} :
    step.run start (first ++ second) = some finish ↔
      ∃ middle, step.run start first = some middle ∧ step.run middle second = some finish := by
  rw [run_append, Option.bind_eq_some_iff]

/-- Every action of a run is taken in some state on the way. -/
theorem exists_step_of_mem {step : Machine State Action} {start finish : State}
    {actions : List Action} {action : Action} (hrun : step.run start actions = some finish)
    (hmem : action ∈ actions) :
    ∃ before after state next, actions = before ++ action :: after ∧
      step.run start before = some state ∧ step state action = some next ∧
      step.run next after = some finish := by
  obtain ⟨before, after, rfl⟩ := List.append_of_mem hmem
  obtain ⟨state, hbefore, hrest⟩ := run_append_eq_some_iff.mp hrun
  obtain ⟨next, hnext, hafter⟩ := run_cons_eq_some_iff.mp hrest
  exact ⟨before, after, state, next, rfl, hbefore, hnext, hafter⟩

/-- A state that offers no action. -/
def Halted (step : Machine State Action) (state : State) : Prop :=
  ∀ action, step state action = none

theorem eq_of_run_of_halted {step : Machine State Action} {start finish : State}
    {actions : List Action} (hhalted : step.Halted start)
    (hrun : step.run start actions = some finish) : finish = start := by
  cases actions with
  | nil => exact (Option.some.inj hrun).symm
  | cons action rest =>
      obtain ⟨middle, hmiddle, -⟩ := run_cons_eq_some_iff.mp hrun
      rw [hhalted action] at hmiddle
      cases hmiddle

/-- A property that every step preserves holds at the end of every run. -/
theorem run_invariant {step : Machine State Action} (invariant : State → Prop)
    (hstep : ∀ state action next, invariant state → step state action = some next →
      invariant next)
    {start finish : State} {actions : List Action} (hstart : invariant start)
    (hrun : step.run start actions = some finish) : invariant finish := by
  induction actions generalizing start with
  | nil =>
      cases hrun
      exact hstart
  | cons action rest ih =>
      obtain ⟨middle, hmiddle, hrest⟩ := run_cons_eq_some_iff.mp hrun
      exact ih (hstep start action middle hstart hmiddle) hrest

/-- A property of the state and the actions that led to it: every step that
extends a run keeps it, so it holds at the end of every run. -/
theorem run_trace_invariant {step : Machine State Action} {start finish : State}
    (invariant : List Action → State → Prop)
    (hstep : ∀ taken state action next, step.run start taken = some state →
      invariant taken state → step state action = some next → invariant (taken ++ [action]) next)
    (hstart : invariant [] start) {actions : List Action}
    (hrun : step.run start actions = some finish) : invariant actions finish := by
  induction actions using List.reverseRecOn generalizing finish with
  | nil =>
      cases hrun
      exact hstart
  | append_singleton taken action ih =>
      obtain ⟨state, htaken, hlast⟩ := run_append_eq_some_iff.mp hrun
      rw [run_singleton] at hlast
      exact hstep taken state action finish htaken (ih htaken) hlast

/-- Every step of the run is taken in a state, and with an action, that the
restriction allows. -/
def Along (step : Machine State Action) (allowed : State → Action → Prop) :
    State → List Action → Prop
  | _, [] => True
  | state, action :: rest => allowed state action ∧
      ∀ next, step state action = some next → Along step allowed next rest

instance decidableAlong (step : Machine State Action) (allowed : State → Action → Prop)
    [∀ state action, Decidable (allowed state action)] :
    ∀ state actions, Decidable (Along step allowed state actions)
  | _, [] => .isTrue trivial
  | state, action :: rest =>
      match hstep : step state action with
      | none => decidable_of_iff (allowed state action) (by simp [Along, hstep])
      | some next =>
          have := decidableAlong step allowed next rest
          decidable_of_iff (allowed state action ∧ Along step allowed next rest)
            (by simp [Along, hstep])

/-- A property that the allowed steps preserve holds at the end of every run
that takes only such steps. -/
theorem run_invariant_of_along {step : Machine State Action}
    {allowed : State → Action → Prop} (invariant : State → Prop)
    (hstep : ∀ state action next, invariant state → allowed state action →
      step state action = some next → invariant next)
    {start finish : State} {actions : List Action} (hstart : invariant start)
    (halong : Along step allowed start actions)
    (hrun : step.run start actions = some finish) : invariant finish := by
  induction actions generalizing start with
  | nil =>
      cases hrun
      exact hstart
  | cons action rest ih =>
      obtain ⟨middle, hmiddle, hrest⟩ := run_cons_eq_some_iff.mp hrun
      exact ih (hstep start action middle hstart halong.1 hmiddle)
        (halong.2 middle hmiddle) hrest

/-- Restrictions that agree wherever an invariant holds restrict the same runs. -/
theorem along_congr {step : Machine State Action} {first second : State → Action → Prop}
    (invariant : State → Prop)
    (hstep : ∀ state action next, invariant state → step state action = some next →
      invariant next)
    (hagree : ∀ state action, invariant state → (first state action ↔ second state action))
    {start : State} (hstart : invariant start) (actions : List Action) :
    Along step first start actions ↔ Along step second start actions := by
  induction actions generalizing start with
  | nil => exact Iff.rfl
  | cons action rest ih =>
      refine and_congr (hagree start action hstart) ?_
      refine forall_congr' fun next => ?_
      exact imp_congr_right fun hnext => ih (hstep start action next hstart hnext)

/-- A run that is not restricted to allowed steps takes a forbidden one: the
run splits just before it. -/
theorem exists_forbidden_of_not_along {step : Machine State Action}
    {allowed : State → Action → Prop} {start finish : State} {actions : List Action}
    (hrun : step.run start actions = some finish)
    (hnot : ¬ Along step allowed start actions) :
    ∃ before action after state next, actions = before ++ action :: after ∧
      step.run start before = some state ∧ ¬ allowed state action ∧
      step state action = some next ∧ step.run next after = some finish := by
  induction actions generalizing start with
  | nil => exact absurd trivial hnot
  | cons action rest ih =>
      obtain ⟨middle, hmiddle, hrest⟩ := run_cons_eq_some_iff.mp hrun
      by_cases hallowed : allowed start action
      · -- The first step is allowed, so the forbidden one comes later.
        have htail : ¬ Along step allowed middle rest := by
          intro htail
          refine hnot ⟨hallowed, fun next hnext => ?_⟩
          rw [hmiddle] at hnext
          cases hnext
          exact htail
        obtain ⟨before, forbidden, after, state, next, heq, hbefore, hrefused, hnext, hafter⟩ :=
          ih hrest htail
        exact ⟨action :: before, forbidden, after, state, next, by rw [heq, List.cons_append],
          run_cons_eq_some_iff.mpr ⟨middle, hmiddle, hbefore⟩, hrefused, hnext, hafter⟩
      · exact ⟨[], action, rest, start, middle, rfl, rfl, hallowed, hmiddle, hrest⟩

/-- What the steps of a run give out, in their order. -/
def outputs {Output : Type uOutput} (step : Machine State Action)
    (output : State → Action → List Output) : State → List Action → List Output
  | _, [] => []
  | state, action :: rest =>
      output state action ++ (step state action).elim [] fun next =>
        outputs step output next rest

theorem outputs_cons {Output : Type uOutput} {step : Machine State Action}
    {output : State → Action → List Output} {start middle : State} {action : Action}
    (hstep : step start action = some middle) (rest : List Action) :
    step.outputs output start (action :: rest) =
      output start action ++ step.outputs output middle rest := by
  rw [outputs, hstep]
  rfl

theorem outputs_concat {Output : Type uOutput} {step : Machine State Action}
    {output : State → Action → List Output} {start finish : State} {actions : List Action}
    (hrun : step.run start actions = some finish) (action : Action) :
    step.outputs output start (actions ++ [action]) =
      step.outputs output start actions ++ output finish action := by
  induction actions generalizing start with
  | nil =>
      cases hrun
      cases hstep : step finish action <;> simp [outputs, hstep]
  | cons first rest ih =>
      obtain ⟨middle, hmiddle, hrest⟩ := run_cons_eq_some_iff.mp hrun
      rw [List.cons_append, outputs_cons hmiddle, outputs_cons hmiddle, ih hrest,
        List.append_assoc]

/-- What a run gives out is given out by one of its steps: the run splits just
before it. -/
theorem exists_of_mem_outputs {Output : Type uOutput} {step : Machine State Action}
    {output : State → Action → List Output} {start finish : State} {actions : List Action}
    {item : Output} (hrun : step.run start actions = some finish)
    (hmem : item ∈ step.outputs output start actions) :
    ∃ before action after state, actions = before ++ action :: after ∧
      step.run start before = some state ∧ item ∈ output state action := by
  induction actions generalizing start with
  | nil => cases hmem
  | cons action rest ih =>
      obtain ⟨middle, hmiddle, hrest⟩ := run_cons_eq_some_iff.mp hrun
      rw [outputs_cons hmiddle, List.mem_append] at hmem
      rcases hmem with hhead | htail
      · exact ⟨[], action, rest, start, rfl, rfl, hhead⟩
      · obtain ⟨before, later, after, state, rfl, hbefore, hitem⟩ := ih hrest htail
        exact ⟨action :: before, later, after, state, rfl,
          run_cons_eq_some_iff.mpr ⟨middle, hmiddle, hbefore⟩, hitem⟩

/-- A relation between the state and what was given out so far, preserved by
every step, holds at the end of every run. -/
theorem run_outputs_invariant {Output : Type uOutput} {step : Machine State Action}
    {output : State → Action → List Output} (invariant : State → List Output → Prop)
    (hstep : ∀ state given action next, invariant state given → step state action = some next →
      invariant next (given ++ output state action))
    {start finish : State} {actions : List Action} (hstart : invariant start [])
    (hrun : step.run start actions = some finish) :
    invariant finish (step.outputs output start actions) := by
  -- The induction needs the items that were given out before the run.
  have hgeneral : ∀ given, invariant start given →
      invariant finish (given ++ step.outputs output start actions) := by
    clear hstart
    induction actions generalizing start with
    | nil =>
        cases hrun
        intro given hgiven
        simpa [outputs] using hgiven
    | cons action rest ih =>
        intro given hgiven
        obtain ⟨middle, hmiddle, hrest⟩ := run_cons_eq_some_iff.mp hrun
        rw [outputs_cons hmiddle, ← List.append_assoc]
        exact ih hrest _ (hstep start given action middle hgiven hmiddle)
  simpa using hgeneral [] hstart

/-- A measure that every step decreases bounds the length of every run. -/
theorem run_length_le {step : Machine State Action} (measure : State → Nat)
    (hstep : ∀ state action next, step state action = some next →
      measure next < measure state)
    {start finish : State} {actions : List Action}
    (hrun : step.run start actions = some finish) :
    actions.length + measure finish ≤ measure start := by
  induction actions generalizing start with
  | nil =>
      cases hrun
      simp
  | cons action rest ih =>
      obtain ⟨middle, hmiddle, hrest⟩ := run_cons_eq_some_iff.mp hrun
      have hhead := hstep start action middle hmiddle
      have htail := ih hrest
      simp only [List.length_cons]
      omega

/-- Where the steps decrease a measure except for what their actions bring in,
the length of a run is bounded by the measure and by all that is brought in. -/
theorem run_length_le_budget {step : Machine State Action} (measure : State → Nat)
    (budget : Action → Nat)
    (hstep : ∀ state action next, step state action = some next →
      measure next < measure state + budget action)
    {start finish : State} {actions : List Action}
    (hrun : step.run start actions = some finish) :
    actions.length + measure finish ≤ measure start + (actions.map budget).sum := by
  induction actions generalizing start with
  | nil =>
      cases hrun
      simp
  | cons action rest ih =>
      obtain ⟨middle, hmiddle, hrest⟩ := run_cons_eq_some_iff.mp hrun
      have hhead := hstep start action middle hmiddle
      have htail := ih hrest
      simp only [List.length_cons, List.map_cons, List.sum_cons]
      omega

/-- With such a measure every state has a run to a halted one. -/
theorem exists_run_halted {step : Machine State Action} (measure : State → Nat)
    (hstep : ∀ state action next, step state action = some next →
      measure next < measure state)
    (start : State) :
    ∃ actions finish, step.run start actions = some finish ∧ step.Halted finish := by
  induction hmeasure : measure start using Nat.strongRecOn generalizing start with
  | ind bound ih =>
      by_cases hhalted : step.Halted start
      · exact ⟨[], start, rfl, hhalted⟩
      · simp only [Halted, not_forall] at hhalted
        obtain ⟨action, haction⟩ := hhalted
        obtain ⟨middle, hmiddle⟩ := Option.ne_none_iff_exists'.mp haction
        obtain ⟨actions, finish, hrun, hfinish⟩ :=
          ih (measure middle) (hmeasure ▸ hstep start action middle hmiddle) middle rfl
        exact ⟨action :: actions, finish,
          run_cons_eq_some_iff.mpr ⟨middle, hmiddle, hrun⟩, hfinish⟩

/-! ## Processes that can end

A step may end the process the machine runs in. The ended process is `none`,
and offers nothing.
-/

/-- The machine in a process that its fatal actions end. -/
def ending (step : Machine State Action) (fatal : State → Action → Bool) :
    Machine (Option State) Action
  | none, _ => none
  | some state, action => if fatal state action then some none else (step state action).map some

theorem ending_eq_some_some_iff {step : Machine State Action} {fatal : State → Action → Bool}
    {state next : State} {action : Action} :
    step.ending fatal (some state) action = some (some next) ↔
      fatal state action = false ∧ step state action = some next := by
  cases hfatal : fatal state action <;> simp [ending, hfatal]

theorem ending_eq_some_none_iff {step : Machine State Action} {fatal : State → Action → Bool}
    {state : State} {action : Action} :
    step.ending fatal (some state) action = some none ↔ fatal state action = true := by
  cases hfatal : fatal state action <;> simp [ending, hfatal]

/-- A process that has not ended has run as the machine does, without a fatal
action. -/
theorem run_of_ending_run {step : Machine State Action} {fatal : State → Action → Bool}
    {start finish : State} {actions : List Action}
    (hrun : (step.ending fatal).run (some start) actions = some (some finish)) :
    step.run start actions = some finish ∧
      Along step (fun state action => fatal state action = false) start actions := by
  induction actions generalizing start with
  | nil =>
      cases hrun
      exact ⟨rfl, trivial⟩
  | cons action rest ih =>
      obtain ⟨middle, hmiddle, hrest⟩ := run_cons_eq_some_iff.mp hrun
      cases middle with
      | none =>
          -- Nothing runs in an ended process.
          cases rest with
          | nil => cases hrest
          | cons later rest =>
              obtain ⟨_, hlater, -⟩ := run_cons_eq_some_iff.mp hrest
              cases hlater
      | some middle =>
          obtain ⟨hfatal, hstep⟩ := ending_eq_some_some_iff.mp hmiddle
          obtain ⟨hfinish, halong⟩ := ih hrest
          refine ⟨run_cons_eq_some_iff.mpr ⟨middle, hstep, hfinish⟩, hfatal, ?_⟩
          intro next hnext
          rw [hstep] at hnext
          cases hnext
          exact halong

/-- A process that no action ends is at rest when its machine is. -/
theorem ending_halted_iff {step : Machine State Action} {fatal : State → Action → Bool}
    {state : State} (hsafe : ∀ action, fatal state action = false) :
    (step.ending fatal).Halted (some state) ↔ step.Halted state :=
  forall_congr' fun action => by simp [ending, hsafe action]

/-- What nothing ends runs as the machine does. -/
theorem run_ending_of_safe {step : Machine State Action} {fatal : State → Action → Bool}
    (hsafe : ∀ state action, fatal state action = false) (start : State) (actions : List Action) :
    (step.ending fatal).run (some start) actions = (step.run start actions).map some := by
  induction actions generalizing start with
  | nil => rfl
  | cons action rest ih =>
      rw [run_cons, run_cons, ending, hsafe start action]
      cases hstep : step start action with
      | none => rfl
      | some middle => exact ih middle

/-- A measure of the machine is one of the process. -/
theorem ending_measure_lt {step : Machine State Action} {fatal : State → Action → Bool}
    (measure : State → Nat)
    (hstep : ∀ state action next, step state action = some next →
      measure next < measure state)
    (process : Option State) (action : Action) (next : Option State)
    (hnext : step.ending fatal process action = some next) :
    next.elim 0 (fun state => measure state + 1) <
      process.elim 0 (fun state => measure state + 1) := by
  cases process with
  | none => cases hnext
  | some state =>
      cases next with
      | none => exact Nat.succ_pos _
      | some next =>
          exact Nat.succ_lt_succ (hstep state action next (ending_eq_some_some_iff.mp hnext).2)

/-! ## Lists of pending work

A state often holds a list of which a step replaces or removes one item.
-/

/-- A list split at an index, and what replacing and removing do there. -/
theorem exists_split_of_getElem? {α : Type uState} {list : List α} {index : Nat}
    {item : α}
    (hitem : list[index]? = some item) :
    ∃ before after, list = before ++ item :: after ∧
      (∀ other, list.set index other = before ++ other :: after) ∧
      list.eraseIdx index = before ++ after := by
  obtain ⟨hlt, hget⟩ := List.getElem?_eq_some_iff.mp hitem
  refine ⟨list.take index, list.drop (index + 1), ?_, fun other => ?_, ?_⟩
  · rw [← hget, List.getElem_cons_drop, List.take_append_drop]
  · rw [List.set_eq_take_append_cons_drop, if_pos hlt]
  · exact List.eraseIdx_eq_take_drop_succ list index

/-- Where an item was replaced, any item of the list is the new one or was there
before, at another place but with as many items behind it. -/
theorem exists_split_of_replaced {α : Type uState} {before after above below : List α}
    {new item : α} (old : α) (hsplit : before ++ new :: after = above ++ item :: below) :
    (new = item ∧ after = below) ∨ ∃ front back, before ++ old :: after = front ++ item :: back ∧
      back.length = below.length ∧ below.length ≠ after.length := by
  rcases List.append_eq_append_iff.mp hsplit with ⟨gap, rfl, hgap⟩ | ⟨gap, rfl, hgap⟩
  · cases gap with
    | nil => exact .inl (List.cons.inj hgap)
    | cons first gap =>
        obtain ⟨rfl, rfl⟩ := List.cons.inj hgap
        exact .inr ⟨before ++ old :: gap, below, by simp, rfl, by simp; omega⟩
  · cases gap with
    | nil =>
        obtain ⟨rfl, rfl⟩ := List.cons.inj hgap
        exact .inl ⟨rfl, rfl⟩
    | cons first gap =>
        obtain ⟨rfl, rfl⟩ := List.cons.inj hgap
        exact .inr ⟨above, gap ++ old :: after, by simp, by simp, by simp; omega⟩

/-- Removing an item takes that item, and no other. -/
theorem cons_eraseIdx_perm {α : Type uState} {list : List α} {index : Nat} {item : α}
    (hitem : list[index]? = some item) : (item :: list.eraseIdx index).Perm list := by
  obtain ⟨hlt, hget⟩ := List.getElem?_eq_some_iff.mp hitem
  rw [← hget]
  exact List.getElem_cons_eraseIdx_perm hlt

theorem length_eraseIdx_add_one {α : Type uState} {list : List α} {index : Nat} {item : α}
    (hitem : list[index]? = some item) : (list.eraseIdx index).length + 1 = list.length :=
  (cons_eraseIdx_perm hitem).length_eq

/-- What a replaced item has in common with the one before it. -/
theorem map_set_of_eq {α : Type uState} {β : Type uAction} {list : List α} {index : Nat}
    {item other : α} {f : α → β} (hitem : list[index]? = some item) (hsame : f other = f item) :
    (list.set index other).map f = list.map f := by
  obtain ⟨before, after, hlist, hset, -⟩ := exists_split_of_getElem? hitem
  rw [hset, hlist, List.map_append, List.map_append, List.map_cons, List.map_cons, hsame]

end Machine
