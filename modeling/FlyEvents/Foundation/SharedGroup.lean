import FlyEvents.Foundation.Machine
import Mathlib.Algebra.GroupWithZero.Nat

/-! # Calls that share one group

Every call enters the group once for each of its tasks and registers a notify
block of its own. The calls overlap: one may begin while tasks of another are
still running, and they share the count. When the group empties, every
registered block is handed to the queue, which runs it later; calls may begin
in between. A call keeps its local variables until its block has run.

All of this happens on one queue, so a call is one step, and so is a callback.
-/

universe uRequest uTask uLocals uStore uOutput

namespace SharedGroup

/-- The tasks a call starts, its local variables, what a callback does to them,
and what the notify block does to the store and gives to the completion. The
callback of a task knows the number of its call. -/
structure Program (Request : Type uRequest) (Task : Type uTask) (Locals : Type uLocals)
    (Store : Type uStore) (Output : Type uOutput) where
  tasks : Request → List Task
  locals : Request → Locals
  callback : Nat → Task → Locals → Locals
  notify : Request → Locals → Store → Store × Output

/-- Where the notify block of a call is: registered with the group, handed to
the queue, or run. -/
inductive Phase
  | registered
  | submitted
  | finished
  deriving DecidableEq

/-- A call: its request, the tasks whose callback has not run, its block, its
local variables, and what its completion was called with. -/
structure Call (Request : Type uRequest) (Task : Type uTask) (Locals : Type uLocals)
    (Output : Type uOutput) where
  request : Request
  pending : List Task
  phase : Phase
  locals : Locals
  completions : List Output

/-- The calls in the order they began, the count of the group, and the store. -/
structure Config (Request : Type uRequest) (Task : Type uTask) (Locals : Type uLocals)
    (Store : Type uStore) (Output : Type uOutput) where
  calls : List (Call Request Task Locals Output)
  count : Int
  store : Store

/-- What the queue runs: the callback of a pending task of a call, or a notify
block that was handed to it. -/
inductive Delivery
  | callback (number position : Nat)
  | notify (number : Nat)
  deriving DecidableEq

/-- A new call, or something the queue runs. -/
inductive Action (Request : Type uRequest)
  | call (request : Request)
  | deliver (delivery : Delivery)

variable {Request : Type uRequest} {Task : Type uTask} {Locals : Type uLocals}
  {Store : Type uStore} {Output : Type uOutput}

/-- No call yet. -/
def initial (store : Store) : Config Request Task Locals Store Output where
  calls := []
  count := 0
  store := store

/-- A registered block is handed to the queue. -/
def Call.submit (call : Call Request Task Locals Output) : Call Request Task Locals Output :=
  if call.phase = .registered then { call with phase := .submitted } else call

/-- An empty group hands all its blocks to the queue. -/
def Config.settle (config : Config Request Task Locals Store Output) :
    Config Request Task Locals Store Output :=
  if config.count = 0 then { config with calls := config.calls.map Call.submit } else config

namespace Program

variable (program : Program Request Task Locals Store Output)

/-- What a call is when it begins. -/
def begun (request : Request) : Call Request Task Locals Output where
  request := request
  pending := program.tasks request
  phase := .registered
  locals := program.locals request
  completions := []

/-- A call enters the group for its tasks and registers its block. -/
def call (config : Config Request Task Locals Store Output) (request : Request) :
    Config Request Task Locals Store Output :=
  Config.settle { config with
    calls := config.calls ++ [program.begun request]
    count := config.count + (program.tasks request).length }

/-- The queue runs a callback or a notify block. -/
def deliver : Machine (Config Request Task Locals Store Output) Delivery
  | config, .callback number position =>
      match config.calls[number]? with
      | none => none
      | some call =>
          match call.pending[position]? with
          | none => none
          | some task => some (Config.settle { config with
              calls := config.calls.set number { call with
                pending := call.pending.eraseIdx position
                locals := program.callback number task call.locals }
              count := config.count - 1 })
  | config, .notify number =>
      match config.calls[number]? with
      | none => none
      | some call =>
          if call.phase = .submitted then
            let result := program.notify call.request call.locals config.store
            some { config with
              calls := config.calls.set number { call with
                phase := .finished, completions := call.completions ++ [result.2] }
              store := result.1 }
          else none

def step : Machine (Config Request Task Locals Store Output) (Action Request)
  | config, .call request => some (program.call config request)
  | config, .deliver delivery => program.deliver config delivery

/-- Everything a delivery can do. -/
theorem deliver_cases {config next : Config Request Task Locals Store Output}
    {delivery : Delivery} (hstep : program.deliver config delivery = some next) :
    (∃ number position call task, delivery = .callback number position ∧
      config.calls[number]? = some call ∧ call.pending[position]? = some task ∧
      next = Config.settle { config with
        calls := config.calls.set number { call with
          pending := call.pending.eraseIdx position
          locals := program.callback number task call.locals }
        count := config.count - 1 }) ∨
    (∃ number call, delivery = .notify number ∧ config.calls[number]? = some call ∧
      call.phase = .submitted ∧
      next = { config with
        calls := config.calls.set number { call with
          phase := .finished
          completions := call.completions ++
            [(program.notify call.request call.locals config.store).2] }
        store := (program.notify call.request call.locals config.store).1 }) := by
  cases delivery with
  | callback number position =>
      simp only [deliver] at hstep
      split at hstep
      next => cases hstep
      next call hcall =>
        split at hstep
        next => cases hstep
        next task htask =>
          cases hstep
          exact .inl ⟨number, position, call, task, rfl, hcall, htask, rfl⟩
  | notify number =>
      simp only [deliver] at hstep
      split at hstep
      next => cases hstep
      next call hcall =>
        split at hstep
        next hphase =>
          cases hstep
          exact .inr ⟨number, call, rfl, hcall, hphase, rfl⟩
        next => cases hstep

/-- The local variables after the callbacks of the listed tasks, in their order. -/
def deliverAll (number : Nat) (tasks : List Task) (locals : Locals) : Locals :=
  tasks.foldl (fun locals task => program.callback number task locals) locals

@[simp] theorem deliverAll_nil (number : Nat) (locals : Locals) :
    program.deliverAll number [] locals = locals := rfl

@[simp] theorem deliverAll_concat (number : Nat) (tasks : List Task) (task : Task)
    (locals : Locals) :
    program.deliverAll number (tasks ++ [task]) locals =
      program.callback number task (program.deliverAll number tasks locals) := by
  simp [deliverAll]

/-- What holds of every call: its tasks are either pending or delivered, its
local variables are what the delivered ones made of them, its block leaves the
group only when nothing of it is pending, and its completion is called by its
block alone. -/
structure CallInvariant (number : Nat) (call : Call Request Task Locals Output) : Prop where
  account : ∃ delivered, (delivered ++ call.pending).Perm (program.tasks call.request) ∧
    call.locals = program.deliverAll number delivered (program.locals call.request)
  drained : call.phase ≠ .registered → call.pending = []
  silent : call.phase ≠ .finished → call.completions = []
  completed : call.phase = .finished →
    ∃ store, call.completions = [(program.notify call.request call.locals store).2]

/-- The tasks of all calls whose callback has not run. -/
def pendingCount (calls : List (Call Request Task Locals Output)) : Nat :=
  (calls.map fun call => call.pending.length).sum

/-- The count of the group is the number of pending tasks of all calls. -/
structure Accounted (config : Config Request Task Locals Store Output) : Prop where
  count : config.count = pendingCount config.calls
  calls : ∀ number call, config.calls[number]? = some call → program.CallInvariant number call

/-- A block is registered only while the group is not empty. -/
structure Invariant (config : Config Request Task Locals Store Output) : Prop
    extends program.Accounted config where
  registered : ∀ call ∈ config.calls, call.phase = .registered → config.count ≠ 0

/-- How a sum over the calls changes when one of them does. -/
theorem sum_map_set (weight : Call Request Task Locals Output → Nat)
    {calls : List (Call Request Task Locals Output)} {number : Nat}
    {old : Call Request Task Locals Output} (hget : calls[number]? = some old)
    (new : Call Request Task Locals Output) :
    ((calls.set number new).map weight).sum + weight old =
      (calls.map weight).sum + weight new := by
  induction calls generalizing number with
  | nil => simp at hget
  | cons first rest ih =>
      cases number with
      | zero =>
          rw [List.getElem?_cons_zero, Option.some.injEq] at hget
          subst hget
          simp only [List.set_cons_zero, List.map_cons, List.sum_cons]
          omega
      | succ number =>
          rw [List.getElem?_cons_succ] at hget
          have hrest := ih hget
          simp only [List.set_cons_succ, List.map_cons, List.sum_cons]
          omega

theorem pending_eq_nil_of_pendingCount {calls : List (Call Request Task Locals Output)}
    (hzero : pendingCount calls = 0) {call : Call Request Task Locals Output}
    (hmem : call ∈ calls) : call.pending = [] := by
  rw [pendingCount, List.sum_eq_zero_iff_forall_eq_nat] at hzero
  exact List.length_eq_zero_iff.mp (hzero _ (List.mem_map_of_mem hmem))

@[simp] theorem submit_pending (call : Call Request Task Locals Output) :
    call.submit.pending = call.pending := by
  unfold Call.submit
  split <;> rfl

@[simp] theorem submit_request (call : Call Request Task Locals Output) :
    call.submit.request = call.request := by
  unfold Call.submit
  split <;> rfl

@[simp] theorem submit_completions (call : Call Request Task Locals Output) :
    call.submit.completions = call.completions := by
  unfold Call.submit
  split <;> rfl

@[simp] theorem settle_store (config : Config Request Task Locals Store Output) :
    config.settle.store = config.store := by
  unfold Config.settle
  split <;> rfl

/-- Handing over blocks changes nothing of a call but where its block is. -/
theorem map_settle_calls {Value : Type*} (value : Call Request Task Locals Output → Value)
    (hvalue : ∀ call : Call Request Task Locals Output, value call.submit = value call)
    (config : Config Request Task Locals Store Output) :
    config.settle.calls.map value = config.calls.map value := by
  unfold Config.settle
  split
  next => simp [Function.comp_def, hvalue]
  next => rfl

theorem submit_phase_ne_registered (call : Call Request Task Locals Output) :
    call.submit.phase ≠ .registered := by
  unfold Call.submit
  split <;> simp_all

theorem CallInvariant.submit {number : Nat} {call : Call Request Task Locals Output}
    (hcall : program.CallInvariant number call) (hpending : call.pending = []) :
    program.CallInvariant number call.submit := by
  unfold Call.submit
  split
  next hregistered =>
    exact {
      account := hcall.account
      drained := fun _ => hpending
      silent := fun _ => hcall.silent (by simp [hregistered])
      completed := by simp }
  next => exact hcall

theorem pendingCount_map_submit (calls : List (Call Request Task Locals Output)) :
    pendingCount (calls.map Call.submit) = pendingCount calls := by
  simp [pendingCount, Function.comp_def]

/-- Handing over the blocks of an empty group leaves none registered. -/
theorem Accounted.settle {config : Config Request Task Locals Store Output}
    (haccounted : program.Accounted config) : program.Invariant config.settle := by
  obtain ⟨hcount, hcalls⟩ := haccounted
  unfold Config.settle
  split
  next hzero =>
    have hnone : pendingCount config.calls = 0 := by omega
    refine { count := ?_, calls := ?_, registered := ?_ }
    · rw [pendingCount_map_submit]
      exact hcount
    · intro number call hget
      rw [List.getElem?_map, Option.map_eq_some_iff] at hget
      obtain ⟨old, hold, rfl⟩ := hget
      exact (hcalls number old hold).submit program
        (pending_eq_nil_of_pendingCount hnone (List.mem_of_getElem? hold))
    · intro call hmem hregistered
      obtain ⟨old, -, rfl⟩ := List.mem_map.mp hmem
      exact absurd hregistered (submit_phase_ne_registered old)
  next hbusy => exact { count := hcount, calls := hcalls, registered := fun _ _ _ => hbusy }

theorem invariant_initial (store : Store) : program.Invariant (initial store) where
  count := rfl
  calls := by simp [initial]
  registered := by simp [initial]

/-- The call that begins has everything pending. -/
theorem callInvariant_begun (number : Nat) (request : Request) :
    program.CallInvariant number (program.begun request) where
  account := ⟨[], .refl _, rfl⟩
  drained := fun h => absurd rfl h
  silent := fun _ => rfl
  completed := fun h => nomatch h

theorem Invariant.call {config : Config Request Task Locals Store Output}
    (hinvariant : program.Invariant config) (request : Request) :
    program.Invariant (program.call config request) := by
  apply Accounted.settle
  constructor
  · simp [hinvariant.count, pendingCount, begun]
  · intro number call hget
    rw [List.getElem?_append] at hget
    split at hget
    next => exact hinvariant.calls number call hget
    next =>
      rw [List.getElem?_singleton] at hget
      split at hget
      next =>
        cases hget
        exact program.callInvariant_begun number request
      next => cases hget

/-- The calls after one of them has changed. -/
theorem calls_set {calls : List (Call Request Task Locals Output)} {number : Nat}
    {new : Call Request Task Locals Output}
    (hcalls : ∀ other call, calls[other]? = some call → program.CallInvariant other call)
    (hnew : program.CallInvariant number new) {other : Nat}
    {call : Call Request Task Locals Output}
    (hget : (calls.set number new)[other]? = some call) : program.CallInvariant other call := by
  rw [List.getElem?_set] at hget
  split at hget
  next heq =>
    subst heq
    split at hget
    next =>
      cases hget
      exact hnew
    next => cases hget
  next => exact hcalls other call hget

/-- A delivered task moves from the pending to the delivered ones. -/
theorem CallInvariant.callback {number position : Nat} {call : Call Request Task Locals Output}
    {task : Task} (hcall : program.CallInvariant number call)
    (htask : call.pending[position]? = some task) :
    program.CallInvariant number { call with
      pending := call.pending.eraseIdx position
      locals := program.callback number task call.locals } := by
  have hregistered : call.phase = .registered := by
    by_contra hother
    simp [hcall.drained hother] at htask
  obtain ⟨delivered, haccount, hlocals⟩ := hcall.account
  have herase := Machine.cons_eraseIdx_perm htask
  exact {
    account := by
      refine ⟨delivered ++ [task], ?_, by simp [hlocals]⟩
      refine List.Perm.trans ?_ haccount
      simpa using List.Perm.append_left delivered herase
    drained := fun h => absurd hregistered h
    silent := hcall.silent
    completed := fun h => absurd (hregistered.symm.trans h) (by decide) }

/-- The block of a call runs. -/
theorem CallInvariant.notify {number : Nat} {call : Call Request Task Locals Output}
    (hcall : program.CallInvariant number call) (hphase : call.phase = .submitted)
    (store : Store) :
    program.CallInvariant number { call with
      phase := .finished
      completions := call.completions ++ [(program.notify call.request call.locals store).2] } where
  account := hcall.account
  drained := fun _ => hcall.drained (by simp [hphase])
  silent := fun h => absurd rfl h
  completed := fun _ => ⟨store, by simp [hcall.silent, hphase]⟩

theorem Invariant.deliver {config next : Config Request Task Locals Store Output}
    {delivery : Delivery} (hinvariant : program.Invariant config)
    (hstep : program.deliver config delivery = some next) : program.Invariant next := by
  rcases program.deliver_cases hstep with
    ⟨number, position, call, task, -, hcall, htask, rfl⟩ | ⟨number, call, -, hcall, hphase, rfl⟩
  · apply Accounted.settle
    constructor
    · have hlength := Machine.length_eraseIdx_add_one htask
      have hsum := sum_map_set (fun call => call.pending.length) hcall { call with
        pending := call.pending.eraseIdx position
        locals := program.callback number task call.locals }
      simp only [hinvariant.count, pendingCount] at hsum ⊢
      omega
    · intro other changed hget
      exact program.calls_set hinvariant.calls
        ((hinvariant.calls number call hcall).callback program htask) hget
  · constructor
    · constructor
      · have hsum := sum_map_set (fun call => call.pending.length) hcall { call with
          phase := .finished
          completions := call.completions ++
            [(program.notify call.request call.locals config.store).2] }
        simp only [hinvariant.count, pendingCount] at hsum ⊢
        omega
      · intro other changed hget
        exact program.calls_set hinvariant.calls
          ((hinvariant.calls number call hcall).notify program hphase config.store) hget
    · intro other hmem hregistered
      rcases List.mem_or_eq_of_mem_set hmem with hold | rfl
      · exact hinvariant.registered other hold hregistered
      · cases hregistered

theorem invariant_step {config next : Config Request Task Locals Store Output}
    {action : Action Request} (hinvariant : program.Invariant config)
    (hstep : program.step config action = some next) : program.Invariant next := by
  cases action with
  | call request =>
      cases hstep
      exact hinvariant.call program request
  | deliver delivery => exact hinvariant.deliver program hstep

theorem invariant_run {store : Store} {actions : List (Action Request)}
    {config : Config Request Task Locals Store Output}
    (hrun : program.step.run (initial store) actions = some config) :
    program.Invariant config :=
  Machine.run_invariant program.Invariant
    (fun _ _ _ hinvariant hstep => program.invariant_step hinvariant hstep)
    (program.invariant_initial store) hrun

/-- The block of a call runs once all tasks of the call are delivered, and works
on what their callbacks made of its local variables. -/
theorem Invariant.notified {config next : Config Request Task Locals Store Output}
    {number : Nat} (hinvariant : program.Invariant config)
    (hstep : program.deliver config (.notify number) = some next) :
    ∃ call delivered, config.calls[number]? = some call ∧ call.pending = [] ∧
      call.completions = [] ∧ delivered.Perm (program.tasks call.request) ∧
      let result := program.notify call.request
        (program.deliverAll number delivered (program.locals call.request)) config.store
      next.store = result.1 ∧ next.calls[number]?.map Call.completions = some [result.2] := by
  rcases program.deliver_cases hstep with
    ⟨_, _, _, _, hdelivery, -⟩ | ⟨_, call, hdelivery, hcall, hphase, rfl⟩
  · cases hdelivery
  · cases hdelivery
    obtain ⟨hlt, -⟩ := List.getElem?_eq_some_iff.mp hcall
    have hinv := hinvariant.calls number call hcall
    have hpending := hinv.drained (by simp [hphase])
    have hsilent := hinv.silent (by simp [hphase])
    obtain ⟨delivered, haccount, hlocals⟩ := hinv.account
    refine ⟨call, delivered, hcall, hpending, hsilent, by simpa [hpending] using haccount, ?_⟩
    rw [← hlocals]
    exact ⟨rfl, by simp [hlt, hsilent]⟩

/-- Nothing is stuck: while the queue has nothing to run, every block has run. -/
theorem Invariant.finished_of_halted {config : Config Request Task Locals Store Output}
    (hinvariant : program.Invariant config) (hhalted : program.deliver.Halted config)
    {number : Nat} {call : Call Request Task Locals Output}
    (hcall : config.calls[number]? = some call) : call.phase = .finished := by
  cases hphase : call.phase with
  | finished => rfl
  | submitted =>
      have hnotify := hhalted (.notify number)
      simp [Program.deliver, hcall, hphase] at hnotify
  | registered =>
      have hcount := hinvariant.registered call (List.mem_of_getElem? hcall) hphase
      have hpositive : 0 < pendingCount config.calls := by
        have := hinvariant.count
        omega
      -- Some call has a pending task, whose callback can run.
      obtain ⟨_, hmem, hlong⟩ := List.sum_pos_iff_exists_pos_nat.mp hpositive
      obtain ⟨busy, hbusy, rfl⟩ := List.mem_map.mp hmem
      obtain ⟨other, hother⟩ := List.getElem?_of_mem hbusy
      have hcallback := hhalted (.callback other 0)
      simp [Program.deliver, hother, List.getElem?_eq_getElem hlong] at hcallback

/-- What is left of a call: a callback for each pending task, and its block. -/
def Call.remaining (call : Call Request Task Locals Output) : Nat :=
  call.pending.length + if call.phase = .finished then 0 else 1

def remaining (config : Config Request Task Locals Store Output) : Nat :=
  (config.calls.map Call.remaining).sum

theorem remaining_settle (config : Config Request Task Locals Store Output) :
    remaining config.settle = remaining config := by
  apply congrArg List.sum
  apply map_settle_calls
  intro call
  unfold Call.remaining
  rw [submit_pending]
  unfold Call.submit
  split <;> simp_all

theorem remaining_deliver {config next : Config Request Task Locals Store Output}
    {delivery : Delivery} (hstep : program.deliver config delivery = some next) :
    remaining next < remaining config := by
  rcases program.deliver_cases hstep with
    ⟨number, position, call, task, -, hcall, htask, rfl⟩ | ⟨number, call, -, hcall, hphase, rfl⟩
  · have hlength := Machine.length_eraseIdx_add_one htask
    have hsum := sum_map_set Call.remaining hcall { call with
      pending := call.pending.eraseIdx position
      locals := program.callback number task call.locals }
    rw [remaining_settle]
    simp only [remaining, Call.remaining] at hsum ⊢
    omega
  · have hsum := sum_map_set Call.remaining hcall { call with
      phase := .finished
      completions := call.completions ++
        [(program.notify call.request call.locals config.store).2] }
    simp only [remaining, Call.remaining, hphase, reduceCtorEq, if_false, if_true] at hsum ⊢
    omega

/-- Without new calls, the queue comes to rest. -/
theorem exists_deliver_run_halted (config : Config Request Task Locals Store Output) :
    ∃ deliveries next, program.deliver.run config deliveries = some next ∧
      program.deliver.Halted next :=
  Machine.exists_run_halted remaining (fun _ _ _ hstep => program.remaining_deliver hstep) config

/-- Until the next call begins, the queue runs no more than what is left. -/
theorem deliver_run_length_le {config next : Config Request Task Locals Store Output}
    {deliveries : List Delivery} (hrun : program.deliver.run config deliveries = some next) :
    deliveries.length ≤ remaining config :=
  Nat.le_trans (Nat.le_add_right _ _)
    (Machine.run_length_le remaining (fun _ _ _ hstep => program.remaining_deliver hstep) hrun)

end Program

end SharedGroup
