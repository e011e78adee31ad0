import FlyEvents.Backend.DownloadProgress
import FlyEvents.Backend.StorageReference
import FlyEvents.Foundation.RunningTasks

/-! # Groups of downloads

The view models start a download for each of a list of addresses, in a dispatch
group. Here these downloads are the tasks of the storage library, each with its
own queues and its own network. All orders between them are taken to be possible;
on the queues they share, only some of them are.
-/

namespace FlyEvents

variable {Task Character : Type} [DecidableEq Character]

/-- `downloadImage`, up to its callback: a reference to the address, and the
task that gets at most so much of its data. -/
def imageTasks (storage : Storage Character) (maxSize : Int) (url : Task → String) :
    TaskGroup.Runner Task StorageDownloadTask DownloadAction GetDataReply where
  launch task := (storage.referenceForURL (url task)).map fun storageRef =>
    storageRef.getData maxSize
  step := StorageDownloadTask.step
  replies := StorageDownloadTask.replies

/-- What the networks of the downloads deliver. -/
def deliveries (actions : List (TaskGroup.RunningAction DownloadAction)) : Nat :=
  actions.countP fun
    | .task _ action => action.fromNetwork
    | _ => false

theorem sum_taskBudget (actions : List (TaskGroup.RunningAction DownloadAction)) :
    (actions.map (TaskGroup.Runner.taskBudget DownloadAction.budget)).sum =
      14 * deliveries actions := by
  induction actions with
  | nil => rfl
  | cons action rest ih =>
      rw [List.map_cons, List.sum_cons, deliveries, List.countP_cons, ih]
      cases action with
      | task index action =>
          cases action <;> simp [TaskGroup.Runner.taskBudget, DownloadAction.budget,
            DownloadAction.fromNetwork, deliveries, Nat.mul_add, Nat.add_comm]
      | _ => simp [TaskGroup.Runner.taskBudget, deliveries]

section

variable {storage : Storage Character} {maxSize : Int} {url : Task → String}

theorem imageTasks_repliesOnce :
    (imageTasks storage maxSize url).RepliesOnce
      StorageDownloadTask.Reached where
  launched task state hlaunch := by
    obtain ⟨reference, -, rfl⟩ := Option.map_eq_some_iff.mp hlaunch
    exact ⟨StorageDownloadTask.reached_getData reference _, rfl⟩
  kept state action next hreached hstep :=
    ⟨hreached.step hstep, StorageDownloadTask.replies_prefix_step hstep⟩
  atMostOnce state hreached := hreached.length_replies_le
  atLeastOnce state hreached hhalted := by
    have hlength := hreached.length_replies_of_halted hhalted
    exact List.ne_nil_of_length_pos (Nat.lt_of_sub_eq_succ hlength)

variable {Item Store : Type} {program : TaskGroup.RepliedProgram Item Task GetDataReply Store}
  {items : List Item} {store : Store} {actions : List (TaskGroup.RunningAction DownloadAction)}
  {current : TaskGroup.Running Item Task StorageDownloadTask Store}

/-- A download gets what its address refers to. -/
theorem referenceForURL_of_running
    (hrun : ((imageTasks storage maxSize url).running program).run
      (TaskGroup.Runner.begin items store) actions = some current) :
    ∀ entry ∈ current.tasks,
      storage.referenceForURL (url entry.1) =
        some entry.2.reference := by
  refine TaskGroup.Runner.forall_tasks_run (fun task state =>
    storage.referenceForURL (url task) =
      some state.reference) ?_ ?_ hrun
  · intro task state hlaunch
    obtain ⟨reference, hreference, rfl⟩ := Option.map_eq_some_iff.mp hlaunch
    exact hreference
  · intro task state action next hreference hstep
    rw [hreference, StorageDownloadTask.reference_step hstep]

/-- The steps of a run are bounded by the items and the deliveries of the networks. -/
theorem running_length_le
    (hrun : ((imageTasks storage maxSize url).running program).run
      (TaskGroup.Runner.begin items store) actions = some current) :
    actions.length ≤ 2 * items.length + 2 + 14 * deliveries actions := by
  have hlaunch : ∀ task state,
      (imageTasks storage maxSize url).launch task = some state →
        state.cost ≤ 1 := by
    intro task state hlaunch
    obtain ⟨reference, -, rfl⟩ := Option.map_eq_some_iff.mp hlaunch
    exact Nat.le_of_eq (StorageDownloadTask.cost_getData reference _)
  have hlength := TaskGroup.Runner.run_length_le_budget hlaunch
    (fun _ _ _ hstep => StorageDownloadTask.cost_step hstep) hrun
  rwa [sum_taskBudget] at hlength

end

end FlyEvents
