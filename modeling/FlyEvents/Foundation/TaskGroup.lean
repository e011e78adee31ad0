import FlyEvents.Foundation.Machine

/-! # A loop that starts tasks in a group and waits for them

The loop enters the group once for each item and starts the item's task, or
leaves the group at once when the item has none. A task's callback runs at any
later point, updates the store, and leaves the group. After the loop a notify
block is registered; it runs when the group is empty.

The count of the group is an integer, so that leaving too often is a reachable
count below zero and not an arithmetic accident.
-/

universe uItem uTask uStore

namespace TaskGroup

/-- What the loop starts for an item, what a finished task does to the store,
and what the notify block does to it. -/
structure Program (Item : Type uItem) (Task : Type uTask) (Store : Type uStore) where
  start : Item → Option Task
  callback : Task → Store → Store
  notify : Store → Store

/-- Where the starting code is: in its loop, behind the registered notify
block, or with the block run. -/
inductive Phase
  | looping
  | waiting
  | finished
  deriving DecidableEq

/-- Items the loop has not reached, started tasks whose callback has not run,
the count of the group, and the store. -/
structure Config (Item : Type uItem) (Task : Type uTask) (Store : Type uStore) where
  todo : List Item
  pending : List Task
  count : Int
  phase : Phase
  store : Store

/-- One iteration of the loop, the callback of one pending task, the
registration of the notify block, or its run. -/
inductive Action
  | iterate
  | callback (position : Nat)
  | register
  | notify
  deriving DecidableEq

variable {Item : Type uItem} {Task : Type uTask} {Store : Type uStore}

/-- The configuration in which the loop begins on an empty group. -/
def initial (items : List Item) (store : Store) : Config Item Task Store where
  todo := items
  pending := []
  count := 0
  phase := .looping
  store := store

/-- Entering the group. -/
def Config.enter (config : Config Item Task Store) : Config Item Task Store :=
  { config with count := config.count + 1 }

/-- Leaving the group. -/
def Config.leave (config : Config Item Task Store) : Config Item Task Store :=
  { config with count := config.count - 1 }

namespace Program

variable (program : Program Item Task Store)

/-- One action of the starting code or of the queue that runs the callbacks. -/
def step : Machine (Config Item Task Store) Action
  | config, .iterate =>
      match config.phase, config.todo with
      | .looping, item :: rest =>
          let entered := { config.enter with todo := rest }
          match program.start item with
          | some task => some { entered with pending := entered.pending ++ [task] }
          -- The count is back where it was: nothing is waited for.
          | none => some entered.leave
      | _, _ => none
  | config, .callback position =>
      match config.pending[position]? with
      | some task => some { config.leave with
          pending := config.pending.eraseIdx position
          store := program.callback task config.store }
      | none => none
  | config, .register =>
      match config.phase, config.todo with
      | .looping, [] => some { config with phase := .waiting }
      | _, _ => none
  | config, .notify =>
      if config.phase = .waiting ∧ config.count = 0 then
        some { config with phase := .finished, store := program.notify config.store }
      else none

/-- Everything a step can do, by its action. -/
theorem step_cases {config next : Config Item Task Store} {action : Action}
    (hstep : program.step config action = some next) :
    (∃ item rest task, action = .iterate ∧ config.phase = .looping ∧
      config.todo = item :: rest ∧ program.start item = some task ∧
      next = { config with
        todo := rest, pending := config.pending ++ [task], count := config.count + 1 }) ∨
    (∃ item rest, action = .iterate ∧ config.phase = .looping ∧
      config.todo = item :: rest ∧ program.start item = none ∧
      next = { config with todo := rest }) ∨
    (∃ position task, action = .callback position ∧ config.pending[position]? = some task ∧
      next = { config with
        pending := config.pending.eraseIdx position, count := config.count - 1,
        store := program.callback task config.store }) ∨
    (action = .register ∧ config.phase = .looping ∧ config.todo = [] ∧
      next = { config with phase := .waiting }) ∨
    (action = .notify ∧ config.phase = .waiting ∧ config.count = 0 ∧
      next = { config with phase := .finished, store := program.notify config.store }) := by
  cases action with
  | iterate =>
      simp only [step] at hstep
      split at hstep
      next item rest hphase htodo =>
        split at hstep
        next task htask =>
          exact .inl ⟨item, rest, task, rfl, hphase, htodo, htask,
            (Option.some.inj hstep).symm⟩
        next hnone =>
          refine .inr (.inl ⟨item, rest, rfl, hphase, htodo, hnone, ?_⟩)
          rw [← Option.some.inj hstep]
          simp [Config.leave, Config.enter]
      next => cases hstep
  | callback position =>
      simp only [step] at hstep
      split at hstep
      next task htask =>
        exact .inr (.inr (.inl ⟨position, task, rfl, htask, (Option.some.inj hstep).symm⟩))
      next => cases hstep
  | register =>
      simp only [step] at hstep
      split at hstep
      next hphase htodo =>
        exact .inr (.inr (.inr (.inl ⟨rfl, hphase, htodo, (Option.some.inj hstep).symm⟩)))
      next => cases hstep
  | notify =>
      simp only [step] at hstep
      split at hstep
      next hready =>
        exact .inr (.inr (.inr (.inr ⟨rfl, hready.1, hready.2, (Option.some.inj hstep).symm⟩)))
      next => cases hstep

/-- The store after the callbacks of the listed tasks, in their order. -/
def deliver (tasks : List Task) (store : Store) : Store :=
  tasks.foldl (fun store task => program.callback task store) store

@[simp] theorem deliver_nil (store : Store) : program.deliver [] store = store := rfl

@[simp] theorem deliver_cons (task : Task) (rest : List Task) (store : Store) :
    program.deliver (task :: rest) store = program.deliver rest (program.callback task store) :=
  rfl

@[simp] theorem deliver_append (first second : List Task) (store : Store) :
    program.deliver (first ++ second) store =
      program.deliver second (program.deliver first store) :=
  List.foldl_append

/-- The tasks the loop starts for the items, in loop order. -/
def tasks (items : List Item) : List Task := items.filterMap program.start

/-- What every reachable configuration satisfies, with the tasks whose callback
has run listed in the order of the callbacks. -/
structure Invariant (items : List Item) (store : Store) (delivered : List Task)
    (config : Config Item Task Store) : Prop where
  count : config.count = config.pending.length
  account : (delivered ++ config.pending ++ program.tasks config.todo).Perm (program.tasks items)
  loop : config.phase ≠ .looping → config.todo = []
  drained : config.phase = .finished → config.pending = []
  store : config.store = if config.phase = .finished then
    program.notify (program.deliver delivered store) else program.deliver delivered store

theorem invariant_initial (items : List Item) (store : Store) :
    program.Invariant items store [] (initial items store) where
  count := rfl
  account := .refl _
  loop := fun hphase => absurd rfl hphase
  drained := fun hphase => nomatch hphase
  store := rfl

/-- A step keeps the invariant, and only a callback lengthens the list of
delivered tasks. -/
theorem invariant_step {items : List Item} {store : Store} {delivered : List Task}
    {config next : Config Item Task Store} {action : Action}
    (hinvariant : program.Invariant items store delivered config)
    (hstep : program.step config action = some next) :
    ∃ delivered', program.Invariant items store delivered' next := by
  obtain ⟨hcount, haccount, hloop, hdrained, hstore⟩ := hinvariant
  rcases program.step_cases hstep with
    ⟨item, rest, task, -, hphase, htodo, htask, rfl⟩ | ⟨item, rest, -, hphase, htodo, hnone, rfl⟩ |
    ⟨position, task, -, hpending, rfl⟩ | ⟨-, hphase, htodo, rfl⟩ | ⟨-, hphase, hzero, rfl⟩
  · refine ⟨delivered, by simp [hcount], ?_, fun h => absurd hphase h, ?_, by simpa using hstore⟩
    · simpa [tasks, htodo, htask] using haccount
    · intro hfinished
      rw [hphase] at hfinished
      cases hfinished
  · refine ⟨delivered, hcount, ?_, fun h => absurd hphase h, hdrained, hstore⟩
    simpa [tasks, htodo, hnone] using haccount
  · have hlength := Machine.length_eraseIdx_add_one hpending
    have herase := Machine.cons_eraseIdx_perm hpending
    have hnot : config.phase ≠ .finished := by
      intro hfinished
      simp [hdrained hfinished] at hpending
    -- The task moves from the pending to the delivered ones.
    refine ⟨delivered ++ [task], ?_, ?_, hloop, fun h => absurd h hnot, ?_⟩
    · simp only [hcount]
      omega
    · refine List.Perm.trans ?_ haccount
      refine List.Perm.append_right _ ?_
      simpa using List.Perm.append_left delivered herase
    · simp [hnot, hstore]
  · refine ⟨delivered, hcount, haccount, fun _ => htodo, fun h => (nomatch h), ?_⟩
    simpa [hphase] using hstore
  · have hempty : config.pending = [] := by
      rw [hcount] at hzero
      exact List.length_eq_zero_iff.mp (by exact_mod_cast hzero)
    refine ⟨delivered, hcount, haccount, fun _ => hloop (by simp [hphase]), fun _ => hempty, ?_⟩
    simp [hstore, hphase]

/-- Every run keeps the invariant for some order of its callbacks. -/
theorem invariant_run {items : List Item} {store : Store} {actions : List Action}
    {config : Config Item Task Store}
    (hrun : program.step.run (initial items store) actions = some config) :
    ∃ delivered, program.Invariant items store delivered config :=
  Machine.run_invariant (fun config => ∃ delivered, program.Invariant items store delivered config)
    (fun _ _ _ hinvariant hstep => hinvariant.elim fun _ h => program.invariant_step h hstep)
    ⟨[], program.invariant_initial items store⟩ hrun

/-- Once the notify block has run, every started task has been delivered
exactly once, and the store is what the deliveries and the block made of it. -/
theorem Invariant.of_finished {items : List Item} {store : Store} {delivered : List Task}
    {config : Config Item Task Store}
    (hinvariant : program.Invariant items store delivered config)
    (hfinished : config.phase = .finished) :
    delivered.Perm (program.tasks items) ∧
      config.store = program.notify (program.deliver delivered store) := by
  have htodo : config.todo = [] := hinvariant.loop (by simp [hfinished])
  have hpending := hinvariant.drained hfinished
  constructor
  · simpa [htodo, hpending, tasks] using hinvariant.account
  · simpa [hfinished] using hinvariant.store

theorem finished_run {items : List Item} {store : Store} {actions : List Action}
    {config : Config Item Task Store}
    (hrun : program.step.run (initial items store) actions = some config)
    (hfinished : config.phase = .finished) :
    ∃ delivered, delivered.Perm (program.tasks items) ∧
      config.store = program.notify (program.deliver delivered store) :=
  (program.invariant_run hrun).imp fun _ hinvariant => hinvariant.of_finished program hfinished

/-- Steps left in a configuration: two for an item of the loop, one for a
pending callback, one each for registering and running the notify block. -/
def remaining (config : Config Item Task Store) : Nat :=
  2 * config.todo.length + config.pending.length +
    match config.phase with
    | .looping => 2
    | .waiting => 1
    | .finished => 0

theorem remaining_step {config next : Config Item Task Store} {action : Action}
    (hstep : program.step config action = some next) : remaining next < remaining config := by
  rcases program.step_cases hstep with
    ⟨item, rest, task, -, hphase, htodo, -, rfl⟩ | ⟨item, rest, -, hphase, htodo, -, rfl⟩ |
    ⟨position, task, -, hpending, rfl⟩ | ⟨-, hphase, htodo, rfl⟩ | ⟨-, hphase, -, rfl⟩
  · simp only [remaining, htodo, List.length_cons, List.length_append, List.length_nil]
    omega
  · simp only [remaining, htodo, List.length_cons]
    omega
  · have hlength := Machine.length_eraseIdx_add_one hpending
    simp only [remaining]
    omega
  · simp only [remaining, hphase]
    omega
  · simp only [remaining, hphase]
    omega

/-- No run is longer than the steps its first configuration has left. -/
theorem run_length_le {start config : Config Item Task Store} {actions : List Action}
    (hrun : program.step.run start actions = some config) :
    actions.length ≤ remaining start :=
  Nat.le_trans (Nat.le_add_right _ _)
    (Machine.run_length_le remaining (fun _ _ _ hstep => program.remaining_step hstep) hrun)

/-- A reachable configuration in which nothing can happen has run its notify
block: neither the loop nor the group gets stuck. -/
theorem finished_of_halted {items : List Item} {store : Store} {delivered : List Task}
    {config : Config Item Task Store}
    (hinvariant : program.Invariant items store delivered config)
    (hhalted : program.step.Halted config) : config.phase = .finished := by
  cases hphase : config.phase with
  | looping =>
      cases htodo : config.todo with
      | nil =>
          have hregister := hhalted .register
          simp [step, hphase, htodo] at hregister
      | cons item rest =>
          have hiterate := hhalted .iterate
          cases hstart : program.start item <;> simp [step, hphase, htodo, hstart] at hiterate
  | waiting =>
      cases hpending : config.pending with
      | nil =>
          have hnotify := hhalted .notify
          simp [step, hphase, hinvariant.count, hpending] at hnotify
      | cons task rest =>
          have hcallback := hhalted (.callback 0)
          simp [step, hpending] at hcallback
  | finished => rfl

/-- The loop runs to its end without a callback in between. -/
theorem run_iterate (config : Config Item Task Store) (hphase : config.phase = .looping) :
    program.step.run config (List.replicate config.todo.length .iterate) =
      some { config with
        todo := []
        pending := config.pending ++ program.tasks config.todo
        count := config.count + (program.tasks config.todo).length } := by
  obtain ⟨todo, pending, count, phase, store⟩ := config
  subst hphase
  induction todo generalizing pending count with
  | nil => simp [tasks]
  | cons item rest ih =>
      rw [List.length_cons, List.replicate_succ, Machine.run_cons]
      cases hstart : program.start item with
      | none => simpa [step, hstart, Config.enter, Config.leave, tasks] using ih pending count
      | some task =>
          have hcount : count + 1 + ((rest.filterMap program.start).length : Int) =
              count + ((rest.filterMap program.start).length + 1) := by omega
          simpa [step, hstart, Config.enter, tasks, hcount] using ih (pending ++ [task]) (count + 1)

/-- The pending callbacks can run in any order. -/
theorem exists_run_callbacks (config : Config Item Task Store) (order : List Task)
    (horder : order.Perm config.pending) :
    ∃ actions, program.step.run config actions = some { config with
      pending := []
      count := config.count - config.pending.length
      store := program.deliver order config.store } := by
  induction order generalizing config with
  | nil =>
      have hpending : config.pending = [] := List.nil_perm.mp horder
      obtain ⟨todo, pending, count, phase, store⟩ := config
      subst hpending
      exact ⟨[], by simp⟩
  | cons task rest ih =>
      obtain ⟨position, hget⟩ := List.getElem?_of_mem (horder.subset List.mem_cons_self)
      have hlength := Machine.length_eraseIdx_add_one hget
      have hrest : rest.Perm (config.pending.eraseIdx position) :=
        List.Perm.cons_inv (horder.trans (Machine.cons_eraseIdx_perm hget).symm)
      obtain ⟨actions, hactions⟩ := ih { config with
        pending := config.pending.eraseIdx position
        count := config.count - 1
        store := program.callback task config.store } hrest
      refine ⟨.callback position :: actions,
        Machine.run_cons_eq_some_iff.mpr ⟨_, ?_, hactions.trans ?_⟩⟩
      · simp [step, Config.leave, hget]
      · have hcount : config.count - 1 - ((config.pending.eraseIdx position).length : Int) =
            config.count - config.pending.length := by omega
        simp [hcount, deliver]

/-- Every order of the started tasks is the order of the callbacks of some run
that ends with the notify block run. -/
theorem exists_run_of_perm (items : List Item) (store : Store) (order : List Task)
    (horder : order.Perm (program.tasks items)) :
    ∃ actions config, program.step.run (initial items store) actions = some config ∧
      config.phase = .finished ∧ config.store = program.notify (program.deliver order store) := by
  let started : Config Item Task Store := {
    todo := [], pending := program.tasks items, count := (program.tasks items).length
    phase := .looping, store := store }
  let drained : Config Item Task Store := {
    todo := [], pending := [], count := 0
    phase := .waiting, store := program.deliver order store }
  have hloop : program.step.run (initial items store) (List.replicate items.length .iterate) =
      some started := by
    simpa [initial, started] using program.run_iterate (initial items store) rfl
  obtain ⟨callbacks, hcallbacks⟩ :=
    program.exists_run_callbacks { started with phase := .waiting } order horder
  have hdrained : program.step.run { started with phase := .waiting } callbacks =
      some drained := by
    simpa [started, drained] using hcallbacks
  refine ⟨List.replicate items.length .iterate ++ .register :: (callbacks ++ [.notify]),
    { drained with phase := .finished, store := program.notify drained.store }, ?_, rfl, rfl⟩
  rw [Machine.run_append_eq_some_iff]
  refine ⟨started, hloop, Machine.run_cons_eq_some_iff.mpr
    ⟨{ started with phase := .waiting }, rfl, ?_⟩⟩
  exact Machine.run_append_eq_some_iff.mpr ⟨drained, hdrained, rfl⟩

end Program

end TaskGroup
