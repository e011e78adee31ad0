import FlyEvents.Backend.DownloadCompletion

/-! # A download goes on only while the network does

What a statement puts on the queues is less than itself, so the queues run empty
between two deliveries of the network. A download to which the network delivers
only so often comes to an end, and has then called its completion.
-/

namespace FlyEvents

/-- The statements that can follow from a statement, with itself. -/
def DispatchStatement.cost : DispatchStatement → Nat
  | .enqueueImplementation | .stopFetching | .setError _ => 1
  | .fireFailure => 3

@[inherit_doc DispatchStatement.cost]
def CallbackStatement.cost : CallbackStatement → Nat
  | .receivedProgress => 7
  | .fetched _ _ => 13
  | .setError _ | .setDownloadData _ | .removeAllObservers => 1
  | .fire .progress => 7
  | .fire _ => 3
  | .observed .progress _ => 6
  | .observed _ _ => 2
  | .completeSuccess _ | .completeFailure _ => 1

namespace DownloadAction

/-- What a delivery of the network can bring about, with itself. -/
def budget : DownloadAction → Nat
  | .dispatch | .callback => 0
  | .didReceiveResponse _ | .didReceiveData _ | .didComplete _ => 14

def fromNetwork : DownloadAction → Bool
  | .dispatch | .callback => false
  | .didReceiveResponse _ | .didReceiveData _ | .didComplete _ => true

theorem sum_budget (actions : List DownloadAction) :
    (actions.map budget).sum = 14 * actions.countP fromNetwork := by
  induction actions with
  | nil => rfl
  | cons action rest ih =>
      rw [List.map_cons, List.sum_cons, List.countP_cons, ih]
      cases action <;> simp [budget, fromNetwork, Nat.mul_add, Nat.add_comm]

end DownloadAction

namespace StorageDownloadTask

variable {task next : StorageDownloadTask} {action : DownloadAction}

def dispatchCost (queue : List DispatchStatement) : Nat := (queue.map DispatchStatement.cost).sum

def callbackCost (queue : List CallbackStatement) : Nat := (queue.map CallbackStatement.cost).sum

/-- The statements that are left on the queues, with all that can follow. -/
def cost (task : StorageDownloadTask) : Nat :=
  dispatchCost task.dispatchQueue + callbackCost task.callbackQueue

@[simp] theorem dispatchCost_nil : dispatchCost [] = 0 := rfl

@[simp] theorem callbackCost_nil : callbackCost [] = 0 := rfl

@[simp] theorem dispatchCost_cons (statement : DispatchStatement)
    (rest : List DispatchStatement) :
    dispatchCost (statement :: rest) = statement.cost + dispatchCost rest := rfl

@[simp] theorem dispatchCost_append (first second : List DispatchStatement) :
    dispatchCost (first ++ second) = dispatchCost first + dispatchCost second := by
  simp [dispatchCost]

@[simp] theorem callbackCost_cons (statement : CallbackStatement)
    (rest : List CallbackStatement) :
    callbackCost (statement :: rest) = statement.cost + callbackCost rest := rfl

@[simp] theorem callbackCost_append (first second : List CallbackStatement) :
    callbackCost (first ++ second) = callbackCost first + callbackCost second := by
  simp [callbackCost]

theorem cost_getData (reference : StoragePath) (maxSize : Int) :
    (reference.getData maxSize).cost = 1 := rfl

theorem cost_fired_lt (task : StorageDownloadTask) (status : StorageTaskStatus) :
    callbackCost (task.fired status) < (CallbackStatement.fire status).cost := by
  unfold fired
  split
  next => cases status <;> exact Nat.lt_succ_self _
  next => cases status <;> exact Nat.succ_pos _

theorem cost_fetcherCompletion_lt (task : StorageDownloadTask) (data : Option ByteArray)
    (serverError : Option Int) :
    callbackCost (task.fetcherCompletion data serverError) <
      (CallbackStatement.fetched data serverError).cost := by
  cases serverError <;> simp [fetcherCompletion, CallbackStatement.cost]

theorem cost_pos (statement : CallbackStatement) : 0 < statement.cost := by
  cases statement with
  | fire status => cases status <;> decide
  | observed status => cases status <;> exact Nat.succ_pos _
  | _ => exact Nat.succ_pos _

/-- A statement of the storage's queue that adds less than itself. -/
theorem cost_lt_of_dispatch {statement : DispatchStatement} {rest : List DispatchStatement}
    (hqueue : task.dispatchQueue = statement :: rest) (added : Nat)
    (hnext : next.cost = dispatchCost rest + callbackCost task.callbackQueue + added)
    (hless : added < statement.cost) : next.cost < task.cost := by
  rw [hnext, cost, hqueue, dispatchCost_cons]
  omega

/-- A statement of the callback queue that adds less than itself. -/
theorem cost_lt_of_callback {statement : CallbackStatement} {rest : List CallbackStatement}
    (hqueue : task.callbackQueue = statement :: rest) (added : Nat)
    (hnext : next.cost = dispatchCost task.dispatchQueue + callbackCost rest + added)
    (hless : added < statement.cost) : next.cost < task.cost := by
  rw [hnext, cost, hqueue, callbackCost_cons]
  omega

/-- A step of a queue lowers the cost, and a delivery raises it by a bounded amount. -/
theorem cost_step (hstep : task.step action = some next) :
    next.cost < task.cost + action.budget := by
  cases step_cases hstep with
  | enqueueImplementation hqueue => exact cost_lt_of_dispatch hqueue 0 rfl (by decide)
  | stopFetching hqueue => exact cost_lt_of_dispatch hqueue 0 rfl (by decide)
  | cancelled hqueue => exact cost_lt_of_dispatch hqueue 0 rfl (Nat.succ_pos _)
  | fireFailure hqueue =>
      exact cost_lt_of_dispatch hqueue _ (by simp [cost, Nat.add_assoc])
        (task.cost_fired_lt .failure)
  | receivedProgress hqueue =>
      exact cost_lt_of_callback hqueue _ (by simp [cost, Nat.add_assoc])
        (task.cost_fired_lt .progress)
  | fetched hqueue =>
      refine cost_lt_of_callback hqueue _ ?_ (task.cost_fetcherCompletion_lt _ _)
      simp only [cost, callbackCost_append]
      omega
  | failed hqueue => exact cost_lt_of_callback hqueue 0 rfl (cost_pos _)
  | setDownloadData hqueue => exact cost_lt_of_callback hqueue 0 rfl (cost_pos _)
  | @fire _ status hqueue =>
      exact cost_lt_of_callback hqueue _ (by simp [cost, Nat.add_assoc])
        (task.cost_fired_lt status)
  | removeAllObservers hqueue => exact cost_lt_of_callback hqueue 0 rfl (cost_pos _)
  | observedSuccess hqueue =>
      exact cost_lt_of_callback hqueue 1 (by simp [cost, CallbackStatement.cost, Nat.add_assoc])
        Nat.one_lt_two
  | observedFailure hqueue =>
      exact cost_lt_of_callback hqueue 1 (by simp [cost, CallbackStatement.cost, Nat.add_assoc])
        Nat.one_lt_two
  | overflowed hqueue =>
      refine cost_lt_of_callback hqueue 5 ?_ (Nat.lt_succ_self 5)
      simp [cost, DispatchStatement.cost, Nat.add_right_comm]
  | completeSuccess hqueue => exact cost_lt_of_callback hqueue 0 rfl (cost_pos _)
  | completeFailure hqueue => exact cost_lt_of_callback hqueue 0 rfl (cost_pos _)
  | idle hqueue => exact cost_lt_of_callback hqueue 0 rfl (cost_pos _)
  | didReceiveResponse => exact Nat.lt_add_of_pos_right (Nat.succ_pos _)
  | didReceiveNothing => exact Nat.lt_add_of_pos_right (Nat.succ_pos _)
  | didReceiveData => simp [cost, Nat.add_assoc, CallbackStatement.cost, DownloadAction.budget]
  | didComplete => simp [cost, Nat.add_assoc, CallbackStatement.cost, DownloadAction.budget]

end StorageDownloadTask

/-- The steps of a download are bounded by the deliveries of its network: none of
the queues keeps another one busy. -/
theorem getData_steps_le (reference : StoragePath) (maxSize : Int)
    (actions : List DownloadAction) (task : StorageDownloadTask)
    (hrun : Machine.run StorageDownloadTask.step (reference.getData maxSize) actions = some task) :
    actions.length ≤ 1 + 14 * actions.countP DownloadAction.fromNetwork := by
  have hlength := Machine.run_length_le_budget StorageDownloadTask.cost DownloadAction.budget
    (fun _ _ _ hstep => StorageDownloadTask.cost_step hstep) hrun
  rw [StorageDownloadTask.cost_getData, DownloadAction.sum_budget] at hlength
  omega

theorem getData_steps_le_notFound :
    ([.dispatch, .didComplete (some 404)] ++ List.replicate 8 .callback :
      List DownloadAction).length ≤ 15 := by
  have hsome : (Machine.run StorageDownloadTask.step ((StoragePath.initWith "fly" none).getData 1)
      ([.dispatch, .didComplete (some 404)] ++ List.replicate 8 .callback)).isSome = true := by
    decide +kernel
  obtain ⟨task, hrun⟩ := Option.isSome_iff_exists.mp hsome
  exact getData_steps_le _ 1 _ task hrun

end FlyEvents
