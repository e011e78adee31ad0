import FlyEvents.Foundation.TaskGroup
import Mathlib.Data.List.Nodup

/-! # A task group over tasks that run by themselves

Every task runs as a machine of its own and gives replies. A reply runs the
callback of the task and leaves the group; nothing in the group looks at how
often a task replies. Where every task replies once, what is reached is what the
program reaches that is given the replies from outside.
-/

universe uItem uTask uState uAction uReply uStore uKey

namespace TaskGroup

/-- The machines the tasks run as, with the replies they have given. Launching a
task can fail, and this ends the process. -/
structure Runner (Task : Type uTask) (TaskState : Type uState) (TaskAction : Type uAction)
    (Reply : Type uReply) where
  launch : Task → Option TaskState
  step : Machine TaskState TaskAction
  replies : TaskState → List Reply

/-- A program whose callbacks take a reply. -/
structure RepliedProgram (Item : Type uItem) (Task : Type uTask) (Reply : Type uReply)
    (Store : Type uStore) where
  start : Item → Option Task
  callback : Task → Reply → Store → Store
  notify : Store → Store

/-- Items the loop has not reached, the launched tasks in their order, the count
of the group, and the store. -/
structure Running (Item : Type uItem) (Task : Type uTask) (TaskState : Type uState)
    (Store : Type uStore) where
  todo : List Item
  tasks : List (Task × TaskState)
  count : Int
  phase : Phase
  store : Store

/-- One iteration of the loop, a step of a launched task, the registration of
the notify block, or its run. -/
inductive RunningAction (TaskAction : Type uAction)
  | iterate
  | task (index : Nat) (action : TaskAction)
  | register
  | notify

variable {Item : Type uItem} {Task : Type uTask} {TaskState : Type uState}
  {TaskAction : Type uAction} {Reply : Type uReply} {Store : Type uStore}

/-- The program that is given the reply of every task. -/
def RepliedProgram.program (program : RepliedProgram Item Task Reply Store)
    (reply : Task → Reply) : Program Item Task Store where
  start := program.start
  callback task := program.callback task (reply task)
  notify := program.notify

namespace Runner

variable (runner : Runner Task TaskState TaskAction Reply)
  (program : RepliedProgram Item Task Reply Store)

/-- The state in which the loop begins on an empty group. -/
def begin (items : List Item) (store : Store) : Running Item Task TaskState Store where
  todo := items
  tasks := []
  count := 0
  phase := .looping
  store := store

/-- The replies that a task gives in a step. -/
def given (state next : TaskState) : List Reply :=
  (runner.replies next).drop (runner.replies state).length

/-- One action of the starting code, or a step of a task with its callbacks. -/
def running : Machine (Running Item Task TaskState Store) (RunningAction TaskAction)
  | current, .iterate =>
      match current.phase, current.todo with
      | .looping, item :: rest =>
          match program.start item with
          | some task => (runner.launch task).map fun state => { current with
              todo := rest, tasks := current.tasks ++ [(task, state)], count := current.count + 1 }
          | none => some { current with todo := rest }
      | _, _ => none
  | current, .task index action =>
      match current.tasks[index]? with
      | some (task, state) => (runner.step state action).map fun next => { current with
          tasks := current.tasks.set index (task, next)
          count := current.count - (runner.given state next).length
          store := (runner.given state next).foldl (fun store reply =>
            program.callback task reply store) current.store }
      | none => none
  | current, .register =>
      match current.phase, current.todo with
      | .looping, [] => some { current with phase := .waiting }
      | _, _ => none
  | current, .notify =>
      if current.phase = .waiting ∧ current.count = 0 then
        some { current with phase := .finished, store := program.notify current.store }
      else none

/-- An iteration that cannot launch its task. -/
def fatal (current : Running Item Task TaskState Store) : RunningAction TaskAction → Bool
  | .iterate =>
      match current.phase, current.todo with
      | .looping, item :: _ =>
          ((program.start item).map runner.launch).any Option.isNone
      | _, _ => false
  | _ => false

/-- The group in a process that ends where a task cannot be launched. -/
def process : Machine (Option (Running Item Task TaskState Store)) (RunningAction TaskAction) :=
  Machine.ending (runner.running program) (runner.fatal program)

/-- Everything a step can do, by its action. -/
inductive Ran (current : Running Item Task TaskState Store) :
    RunningAction TaskAction → Running Item Task TaskState Store → Prop
  | launched {item rest task state} (hphase : current.phase = .looping)
      (htodo : current.todo = item :: rest) (hstart : program.start item = some task)
      (hlaunch : runner.launch task = some state) :
      Ran current .iterate { current with
        todo := rest, tasks := current.tasks ++ [(task, state)], count := current.count + 1 }
  | passed {item rest} (hphase : current.phase = .looping) (htodo : current.todo = item :: rest)
      (hstart : program.start item = none) : Ran current .iterate { current with todo := rest }
  | stepped {index action task state next} (htask : current.tasks[index]? = some (task, state))
      (hstep : runner.step state action = some next) :
      Ran current (.task index action) { current with
        tasks := current.tasks.set index (task, next)
        count := current.count - (runner.given state next).length
        store := (runner.given state next).foldl (fun store reply =>
          program.callback task reply store) current.store }
  | registered (hphase : current.phase = .looping) (htodo : current.todo = []) :
      Ran current .register { current with phase := .waiting }
  | notified (hphase : current.phase = .waiting) (hcount : current.count = 0) :
      Ran current .notify { current with
        phase := .finished, store := program.notify current.store }

variable {runner program}

theorem ran_of_running {current next : Running Item Task TaskState Store}
    {action : RunningAction TaskAction}
    (hstep : runner.running program current action = some next) :
    Ran runner program current action next := by
  cases action with
  | iterate =>
      simp only [running] at hstep
      split at hstep
      next item rest hphase htodo =>
        split at hstep
        next task hstart =>
          obtain ⟨state, hlaunch, rfl⟩ := Option.map_eq_some_iff.mp hstep
          exact .launched hphase htodo hstart hlaunch
        next hstart =>
          cases hstep
          exact .passed hphase htodo hstart
      next => cases hstep
  | task index action =>
      simp only [running] at hstep
      split at hstep
      next task state htask =>
        obtain ⟨next, hnext, rfl⟩ := Option.map_eq_some_iff.mp hstep
        exact .stepped htask hnext
      next => cases hstep
  | register =>
      simp only [running] at hstep
      split at hstep
      next hphase htodo =>
        cases hstep
        exact .registered hphase htodo
      next => cases hstep
  | notify =>
      simp only [running] at hstep
      split at hstep
      next hready =>
        cases hstep
        exact .notified hready.1 hready.2
      next => cases hstep

/-! ## Tasks that reply once -/

variable (runner) in
/-- The tasks keep an invariant, and under it give one reply: never more, and
not less when they have come to their end. -/
structure RepliesOnce (invariant : TaskState → Prop) : Prop where
  launched : ∀ task state, runner.launch task = some state →
    invariant state ∧ runner.replies state = []
  kept : ∀ state action next, invariant state → runner.step state action = some next →
    invariant next ∧ runner.replies state <+: runner.replies next
  atMostOnce : ∀ state, invariant state → (runner.replies state).length ≤ 1
  atLeastOnce : ∀ state, invariant state → runner.step.Halted state → runner.replies state ≠ []

variable (runner) in
/-- The task has not replied. -/
def waits (entry : Task × TaskState) : Bool := (runner.replies entry.2).isEmpty

variable (runner) in
/-- The group alone: the tasks that have not replied are pending. -/
def config (current : Running Item Task TaskState Store) : Config Item Task Store where
  todo := current.todo
  pending := (current.tasks.filter runner.waits).map Prod.fst
  count := current.count
  phase := current.phase
  store := current.store

variable (runner) in
/-- The replies given so far are those of the function. -/
def Gave (reply : Task → Reply) (current : Running Item Task TaskState Store) : Prop :=
  ∀ entry ∈ current.tasks, ∀ given ∈ runner.replies entry.2, given = reply entry.1

variable {invariant : TaskState → Prop} {current next : Running Item Task TaskState Store}
  {action : RunningAction TaskAction}

theorem RepliesOnce.kept_running (honce : runner.RepliesOnce invariant)
    (hkept : ∀ entry ∈ current.tasks, invariant entry.2)
    (hran : Ran runner program current action next) :
    ∀ entry ∈ next.tasks, invariant entry.2 := by
  cases hran with
  | launched hphase htodo hstart hlaunch =>
      intro entry hmem
      rcases List.mem_append.mp hmem with hold | hnew
      · exact hkept entry hold
      · obtain rfl := List.mem_singleton.mp hnew
        exact (honce.launched _ _ hlaunch).1
  | stepped htask hstep =>
      intro entry hmem
      rcases List.mem_or_eq_of_mem_set hmem with hold | rfl
      · exact hkept entry hold
      · exact (honce.kept _ _ _ (hkept _ (List.mem_of_getElem? htask)) hstep).1
  | passed => exact hkept
  | registered => exact hkept
  | notified => exact hkept

/-- What was given before a step is given behind it. -/
theorem RepliesOnce.gave_of_ran (honce : runner.RepliesOnce invariant)
    (hkept : ∀ entry ∈ current.tasks, invariant entry.2)
    (hran : Ran runner program current action next) {reply : Task → Reply}
    (hgave : runner.Gave reply next) : runner.Gave reply current := by
  cases hran with
  | launched => exact fun entry hmem => hgave entry (List.mem_append_left _ hmem)
  | @stepped index action task state after htask hstep =>
      obtain ⟨before, behind, htasks, hset, -⟩ := Machine.exists_split_of_getElem? htask
      intro entry hmem given hgiven
      rw [htasks] at hmem
      simp only [Gave, hset] at hgave
      rcases List.mem_append.mp hmem with hbefore | hrest
      · exact hgave entry (List.mem_append_left _ hbefore) given hgiven
      · rcases List.mem_cons.mp hrest with rfl | hbehind
        · -- The task has given its replies before the step, too.
          have hbegins := (honce.kept _ _ _ (hkept _ (List.mem_of_getElem? htask)) hstep).2
          exact hgave (task, after) (by simp) given (hbegins.subset hgiven)
        · exact hgave entry (by simp [hbehind]) given hgiven
  | passed => exact hgave
  | registered => exact hgave
  | notified => exact hgave

/-- A step of a task, as the group sees it: its callback, or nothing. -/
theorem RepliesOnce.config_stepped (honce : runner.RepliesOnce invariant)
    {index : Nat} {taskAction : TaskAction} {task : Task} {state after : TaskState}
    (hkept : invariant state) (htask : current.tasks[index]? = some (task, state))
    (hstep : runner.step state taskAction = some after) {reply : Task → Reply}
    (hgave : ∀ given ∈ runner.replies after, given = reply task) :
    let next : Running Item Task TaskState Store := { current with
      tasks := current.tasks.set index (task, after)
      count := current.count - (runner.given state after).length
      store := (runner.given state after).foldl (fun store reply =>
        program.callback task reply store) current.store }
    runner.config next = runner.config current ∨
      ∃ action, (program.program reply).step (runner.config current) action =
        some (runner.config next) := by
  obtain ⟨before, behind, htasks, hset, -⟩ := Machine.exists_split_of_getElem? htask
  obtain ⟨hafter, hbegins⟩ := honce.kept _ _ _ hkept hstep
  have honly := honce.atMostOnce after hafter
  simp only [htasks] at hset
  intro next
  by_cases hwaited : runner.replies state = []
  · cases hreplies : runner.replies after with
    | nil =>
        left
        simp [next, config, hset, htasks, waits, given, hwaited, hreplies]
    | cons given rest =>
        right
        obtain rfl : rest = [] := by
          rw [hreplies, List.length_cons] at honly
          exact List.length_eq_zero_iff.mp (by omega)
        obtain rfl : given = reply task := hgave given (by simp [hreplies])
        refine ⟨.callback (before.filter runner.waits).length, ?_⟩
        simp [next, config, hset, htasks, waits, Runner.given, hwaited, hreplies, Program.step,
          RepliedProgram.program, Config.leave, List.eraseIdx_append_of_length_le]
  · left
    have hsame : runner.replies after = runner.replies state := by
      have hlength := List.length_pos_of_ne_nil hwaited
      exact (hbegins.eq_of_length_le (by omega)).symm
    have hwaits : runner.waits (task, after) = runner.waits (task, state) := by
      simp [waits, hsame]
    cases hanswered : runner.waits (task, state) <;>
      simp [next, config, hset, htasks, given, hsame, hwaits, hanswered]

/-- A step is a step of the program that is given the replies, or none at all. -/
theorem RepliesOnce.config_ran (honce : runner.RepliesOnce invariant)
    (hkept : ∀ entry ∈ current.tasks, invariant entry.2)
    (hran : Ran runner program current action next) {reply : Task → Reply}
    (hgave : runner.Gave reply next) :
    runner.config next = runner.config current ∨
      ∃ action, (program.program reply).step (runner.config current) action =
        some (runner.config next) := by
  cases hran with
  | launched hphase htodo hstart hlaunch =>
      refine .inr ⟨.iterate, ?_⟩
      have hnone := (honce.launched _ _ hlaunch).2
      simp [Program.step, RepliedProgram.program, config, hphase, htodo, hstart, waits, hnone,
        Config.enter]
  | passed hphase htodo hstart =>
      refine .inr ⟨.iterate, ?_⟩
      simp [Program.step, RepliedProgram.program, config, hphase, htodo, hstart, Config.enter,
        Config.leave]
  | stepped htask hstep =>
      refine honce.config_stepped (hkept _ (List.mem_of_getElem? htask)) htask hstep ?_
      obtain ⟨hlt, -⟩ := List.getElem?_eq_some_iff.mp htask
      exact hgave _ (List.mem_set hlt _)
  | registered hphase htodo =>
      refine .inr ⟨.register, ?_⟩
      simp [Program.step, config, hphase, htodo]
  | notified hphase hcount =>
      refine .inr ⟨.notify, ?_⟩
      simp [Program.step, RepliedProgram.program, config, hphase, hcount]

/-- Every run of the group is one of the program that is given the replies the
tasks have given, and will give. -/
theorem RepliesOnce.exists_run (honce : runner.RepliesOnce invariant) {items : List Item}
    {store : Store} {actions : List (RunningAction TaskAction)}
    (hrun : (runner.running program).run (begin items store) actions = some current) :
    (∀ entry ∈ current.tasks, invariant entry.2) ∧
    ∀ reply : Task → Reply, runner.Gave reply current →
      ∃ taken, (program.program reply).step.run (initial items store) taken =
        some (runner.config current) := by
  refine Machine.run_invariant
    (fun current : Running Item Task TaskState Store =>
      (∀ entry ∈ current.tasks, invariant entry.2) ∧
      ∀ reply : Task → Reply, runner.Gave reply current →
        ∃ taken, (program.program reply).step.run (initial items store) taken =
          some (runner.config current)) ?_ ?_ hrun
  · rintro current action next ⟨hkept, htaken⟩ hstep
    have hran := ran_of_running hstep
    refine ⟨honce.kept_running hkept hran, fun reply hgave => ?_⟩
    obtain ⟨taken, htaken⟩ := htaken reply (honce.gave_of_ran hkept hran hgave)
    rcases honce.config_ran hkept hran hgave with hsame | ⟨action, haction⟩
    · exact ⟨taken, hsame ▸ htaken⟩
    · refine ⟨taken ++ [action], ?_⟩
      rw [Machine.run_append_eq_some_iff]
      exact ⟨_, htaken, by rw [Machine.run_singleton, haction]⟩
  · exact ⟨fun entry hmem => (nomatch hmem), fun reply _ => ⟨[], rfl⟩⟩

/-! ## Nothing is left to do -/

/-- Where nothing can happen in the process, every task has replied. -/
theorem RepliesOnce.replied_of_halted (honce : runner.RepliesOnce invariant)
    (hkept : ∀ entry ∈ current.tasks, invariant entry.2)
    (hhalted : (runner.process program).Halted (some current)) :
    ∀ entry ∈ current.tasks, (runner.replies entry.2).length = 1 := by
  rintro ⟨task, state⟩ hmem
  obtain ⟨index, htask⟩ := List.getElem?_of_mem hmem
  have hstuck : runner.step.Halted state := by
    intro action
    have hnone := hhalted (.task index action)
    simpa [process, Machine.ending, fatal, running, htask] using hnone
  have hreplied := List.length_pos_of_ne_nil (honce.atLeastOnce state (hkept _ hmem) hstuck)
  exact Nat.le_antisymm (honce.atMostOnce state (hkept _ hmem)) hreplied

/-- Then nothing can happen in the program either. -/
theorem RepliesOnce.halted_config (honce : runner.RepliesOnce invariant)
    (hkept : ∀ entry ∈ current.tasks, invariant entry.2)
    (hhalted : (runner.process program).Halted (some current)) (reply : Task → Reply) :
    (program.program reply).step.Halted (runner.config current) := by
  intro action
  cases action with
  | iterate =>
      have hnone := hhalted .iterate
      cases hphase : current.phase with
      | looping =>
          cases htodo : current.todo with
          | nil => simp [Program.step, config, hphase, htodo]
          | cons item rest =>
              cases hstart : program.start item with
              | none =>
                  simp [process, Machine.ending, fatal, running, hphase, htodo, hstart] at hnone
              | some task =>
                  cases hlaunch : runner.launch task <;>
                    simp [process, Machine.ending, fatal, running, hphase, htodo, hstart,
                      hlaunch] at hnone
      | waiting => simp [Program.step, config, hphase]
      | finished => simp [Program.step, config, hphase]
  | callback position =>
      have hpending : (runner.config current).pending = [] := by
        simp only [config, List.map_eq_nil_iff, List.filter_eq_nil_iff]
        intro entry hmem hwaits
        have hreplied := honce.replied_of_halted hkept hhalted entry hmem
        rw [List.isEmpty_iff.mp hwaits] at hreplied
        cases hreplied
      simp [Program.step, hpending]
  | register =>
      have hnone := hhalted .register
      cases hphase : current.phase with
      | looping =>
          cases htodo : current.todo with
          | nil => simp [process, Machine.ending, fatal, running, hphase, htodo] at hnone
          | cons item rest => simp [Program.step, config, hphase, htodo]
      | waiting => simp [Program.step, config, hphase]
      | finished => simp [Program.step, config, hphase]
  | notify =>
      have hnone := hhalted .notify
      have hnot : ¬ (current.phase = .waiting ∧ current.count = 0) := by
        simpa [process, Machine.ending, fatal, running] using hnone
      exact if_neg hnot

/-- Where no task is pending, every launched task has replied. -/
theorem RepliesOnce.replied_of_drained (honce : runner.RepliesOnce invariant)
    (hkept : ∀ entry ∈ current.tasks, invariant entry.2)
    (hdrained : (runner.config current).pending = []) :
    ∀ entry ∈ current.tasks, (runner.replies entry.2).length = 1 := by
  intro entry hmem
  have hanswered : runner.waits entry ≠ true := by
    simp only [config, List.map_eq_nil_iff, List.filter_eq_nil_iff] at hdrained
    exact hdrained entry hmem
  have hreplied := List.length_pos_of_ne_nil fun hnil => hanswered (List.isEmpty_iff.mpr hnil)
  exact Nat.le_antisymm (honce.atMostOnce entry.2 (hkept entry hmem)) hreplied

/-- Once the notify block has run and all tasks have replied, the store stays. -/
theorem RepliesOnce.store_of_finished (honce : runner.RepliesOnce invariant)
    (hkept : ∀ entry ∈ current.tasks, invariant entry.2) (hfinished : current.phase = .finished)
    (hreplied : ∀ entry ∈ current.tasks, (runner.replies entry.2).length = 1)
    (hran : Ran runner program current action next) :
    next.store = current.store ∧ next.phase = .finished := by
  cases hran with
  | launched hphase => simp [hfinished] at hphase
  | passed hphase => simp [hfinished] at hphase
  | registered hphase => simp [hfinished] at hphase
  | notified hphase => simp [hfinished] at hphase
  | @stepped index taskAction task state after htask hstep =>
      have hmem := List.mem_of_getElem? htask
      obtain ⟨hafter, hbegins⟩ := honce.kept _ _ _ (hkept _ hmem) hstep
      have hbefore : (runner.replies state).length = 1 := hreplied _ hmem
      have hnothing : runner.given state after = [] :=
        List.drop_eq_nil_of_le (hbefore ▸ honce.atMostOnce after hafter)
      simp [hnothing, hfinished]

/-! ## What was launched -/

/-- A property that launching establishes and the steps of the tasks keep. -/
theorem forall_tasks_run (holds : Task → TaskState → Prop)
    (hlaunch : ∀ task state, runner.launch task = some state → holds task state)
    (hsteps : ∀ task state action next, holds task state → runner.step state action = some next →
      holds task next)
    {items : List Item} {store : Store} {actions : List (RunningAction TaskAction)}
    (hrun : (runner.running program).run (begin items store) actions = some current) :
    ∀ entry ∈ current.tasks, holds entry.1 entry.2 := by
  refine Machine.run_invariant (fun current : Running Item Task TaskState Store =>
    ∀ entry ∈ current.tasks, holds entry.1 entry.2) ?_ (by simp [begin]) hrun
  intro current action next hholds hstep entry hmem
  cases ran_of_running hstep with
  | launched hphase htodo hstart hlaunched =>
      rcases List.mem_append.mp hmem with hold | hnew
      · exact hholds entry hold
      · obtain rfl := List.mem_singleton.mp hnew
        exact hlaunch _ _ hlaunched
  | @stepped index taskAction task state after htask hstepped =>
      rcases List.mem_or_eq_of_mem_set hmem with hold | rfl
      · exact hholds entry hold
      · exact hsteps task state taskAction after
          (hholds (task, state) (List.mem_of_getElem? htask)) hstepped
  | passed => exact hholds entry hmem
  | registered => exact hholds entry hmem
  | notified => exact hholds entry hmem

/-- The tasks are launched in the order of the loop. -/
theorem launched_run {items : List Item} {store : Store}
    {actions : List (RunningAction TaskAction)}
    (hrun : (runner.running program).run (begin items store) actions = some current) :
    current.tasks.map Prod.fst ++ current.todo.filterMap program.start =
      items.filterMap program.start := by
  refine Machine.run_invariant (fun current : Running Item Task TaskState Store =>
    current.tasks.map Prod.fst ++ current.todo.filterMap program.start =
      items.filterMap program.start) ?_ rfl hrun
  intro current action next hlaunched hstep
  cases ran_of_running hstep with
  | launched hphase htodo hstart => simpa [htodo, hstart] using hlaunched
  | passed hphase htodo hstart => simpa [htodo, hstart] using hlaunched
  | stepped htask =>
      obtain ⟨before, behind, htasks, hset, -⟩ := Machine.exists_split_of_getElem? htask
      rw [htasks] at hlaunched
      simpa [hset] using hlaunched
  | registered => exact hlaunched
  | notified => exact hlaunched

variable (runner) in
/-- The reply that was given by the task with a key. -/
def replyFor {Key : Type uKey} [DecidableEq Key] (key : Task → Key) (default : Reply)
    (current : Running Item Task TaskState Store) (wanted : Key) : Reply :=
  match current.tasks.find? (fun entry => key entry.1 = wanted) with
  | some entry => (runner.replies entry.2).head?.getD default
  | none => default

/-- Where the keys of the launched tasks differ, these are the replies given. -/
theorem RepliesOnce.gave_replyFor (honce : runner.RepliesOnce invariant)
    (hkept : ∀ entry ∈ current.tasks, invariant entry.2)
    {Key : Type uKey} [DecidableEq Key] {key : Task → Key}
    (hkeys : (current.tasks.map fun entry => key entry.1).Nodup) (default : Reply) :
    runner.Gave (fun task => runner.replyFor key default current (key task)) current := by
  intro entry hmem given hgiven
  have hfound : current.tasks.find? (fun other => key other.1 = key entry.1) = some entry := by
    cases hfind : current.tasks.find? (fun other => key other.1 = key entry.1) with
    | none => simpa using List.find?_eq_none.mp hfind entry hmem
    | some other =>
        have hsame : key other.1 = key entry.1 := by simpa using List.find?_some hfind
        rw [List.inj_on_of_nodup_map hkeys (List.mem_of_find?_eq_some hfind) hmem hsame]
  have honly := honce.atMostOnce entry.2 (hkept entry hmem)
  simp only [replyFor, hfound]
  cases hreplies : runner.replies entry.2 with
  | nil => simp [hreplies] at hgiven
  | cons first rest =>
      obtain rfl : rest = [] := by
        rw [hreplies, List.length_cons] at honly
        exact List.length_eq_zero_iff.mp (by omega)
      simpa [hreplies] using hgiven

theorem exists_of_fatal (hfatal : runner.fatal program current action = true) :
    ∃ item rest task, current.todo = item :: rest ∧ program.start item = some task ∧
      runner.launch task = none := by
  unfold fatal at hfatal
  split at hfatal
  next =>
    split at hfatal
    next item rest hphase htodo =>
      cases hstart : program.start item with
      | none => simp [hstart] at hfatal
      | some task => exact ⟨item, rest, task, htodo, hstart, by simpa [hstart] using hfatal⟩
    next => cases hfatal
  next => cases hfatal

/-- A process that has ended was to launch a task that cannot be launched. -/
theorem exists_of_ended {items : List Item} {store : Store}
    {actions : List (RunningAction TaskAction)}
    (hrun : (runner.process program).run (some (begin items store)) actions = some none) :
    ∃ item ∈ items, ∃ task, program.start item = some task ∧ runner.launch task = none := by
  refine Machine.run_invariant (fun current : Option (Running Item Task TaskState Store) =>
    match current with
    | none => ∃ item ∈ items, ∃ task, program.start item = some task ∧ runner.launch task = none
    | some current => current.todo ⊆ items) ?_ (List.Subset.refl items) hrun
  rintro (_ | current) action (_ | next) hbefore hstep
  · cases hstep
  · cases hstep
  · obtain ⟨item, rest, task, htodo, hstart, hlaunch⟩ :=
      exists_of_fatal (Machine.ending_eq_some_none_iff.mp hstep)
    exact ⟨item, hbefore (by simp [htodo]), task, hstart, hlaunch⟩
  · have hbefore : current.todo ⊆ items := hbefore
    obtain ⟨-, hstep⟩ := Machine.ending_eq_some_some_iff.mp hstep
    cases ran_of_running hstep with
    | launched hphase htodo => exact List.Subset.trans (by simp [htodo]) hbefore
    | passed hphase htodo => exact List.Subset.trans (by simp [htodo]) hbefore
    | stepped => exact hbefore
    | registered => exact hbefore
    | notified => exact hbefore

/-! ## The length of a run -/

/-- What a step of the group brings in, if only the steps of the tasks do. -/
def taskBudget (budget : TaskAction → Nat) : RunningAction TaskAction → Nat
  | .task _ action => budget action
  | _ => 0

/-- Steps left in a state, with the costs of the launched tasks. An item of the
loop pays for its iteration and for what its task costs at first. -/
def remaining (cost : TaskState → Nat) (first : Nat)
    (current : Running Item Task TaskState Store) : Nat :=
  (first + 1) * current.todo.length + (current.tasks.map fun entry => cost entry.2).sum +
    match current.phase with
    | .looping => 2
    | .waiting => 1
    | .finished => 0

theorem remaining_running {cost : TaskState → Nat} {budget : TaskAction → Nat} {first : Nat}
    (hlaunch : ∀ task state, runner.launch task = some state → cost state ≤ first)
    (hcost : ∀ state action next, runner.step state action = some next →
      cost next < cost state + budget action)
    (hstep : runner.running program current action = some next) :
    remaining cost first next < remaining cost first current + taskBudget budget action := by
  cases ran_of_running hstep with
  | launched hphase htodo hstart hlaunched =>
      have hfirst := hlaunch _ _ hlaunched
      simp only [remaining, hphase, htodo, taskBudget, List.length_cons, List.map_append,
        List.sum_append, List.map_cons, List.map_nil, List.sum_cons, List.sum_nil, Nat.mul_add]
      omega
  | passed hphase htodo =>
      simp only [remaining, hphase, htodo, taskBudget, List.length_cons, Nat.mul_add]
      omega
  | stepped htask hstepped =>
      obtain ⟨before, behind, htasks, hset, -⟩ := Machine.exists_split_of_getElem? htask
      have hless := hcost _ _ _ hstepped
      simp only [remaining, hset, taskBudget, List.map_append, List.map_cons, List.sum_append,
        List.sum_cons]
      rw [htasks]
      simp only [List.map_append, List.map_cons, List.sum_append, List.sum_cons]
      omega
  | registered hphase =>
      simp only [remaining, hphase, taskBudget]
      omega
  | notified hphase =>
      simp only [remaining, hphase, taskBudget]
      omega

/-- The steps of a run are bounded by the items, and by what the tasks bring in. -/
theorem run_length_le_budget {cost : TaskState → Nat} {budget : TaskAction → Nat} {first : Nat}
    (hlaunch : ∀ task state, runner.launch task = some state → cost state ≤ first)
    (hcost : ∀ state action next, runner.step state action = some next →
      cost next < cost state + budget action)
    {items : List Item} {store : Store} {actions : List (RunningAction TaskAction)}
    (hrun : (runner.running program).run (begin items store) actions = some current) :
    actions.length ≤ (first + 1) * items.length + 2 +
      (actions.map (taskBudget budget)).sum := by
  have hlength := Machine.run_length_le_budget (remaining cost first) (taskBudget budget)
    (fun _ _ _ hstep => remaining_running hlaunch hcost hstep) hrun
  simp only [remaining, begin, List.map_nil, List.sum_nil] at hlength
  omega

end Runner

end TaskGroup
