import FlyEvents.Backend.StorageDownloadTask

/-! # A download answers once

However the queues and the network take turns, the completion of `getData` is
called at most once, and exactly once when nothing is left to do. Until an
outcome is on its way to the completion, the observers are all there, and
something is left that will fire one of them.
-/

namespace FlyEvents

/-- In the queue no guarded statement comes before the first guard. -/
def Guarded {α : Type} (guard guarded : α → Bool) : List α → Prop
  | [] => True
  | statement :: rest =>
      guarded statement = false ∧ (guard statement = true ∨ Guarded guard guarded rest)

namespace Guarded

variable {α : Type} {guard guarded : α → Bool}

theorem of_forall {queue : List α} (hnone : ∀ statement ∈ queue, guarded statement = false) :
    Guarded guard guarded queue := by
  induction queue with
  | nil => trivial
  | cons statement rest ih =>
      exact ⟨hnone statement List.mem_cons_self,
        .inr (ih fun other hmem => hnone other (List.mem_cons_of_mem _ hmem))⟩

theorem append {queue added : List α} (hqueue : Guarded guard guarded queue)
    (hadded : Guarded guard guarded added) : Guarded guard guarded (queue ++ added) := by
  induction queue with
  | nil => exact hadded
  | cons statement rest ih => exact ⟨hqueue.1, hqueue.2.imp_right ih⟩

theorem tail {statement : α} {queue rest : List α} (hguarded : Guarded guard guarded queue)
    (hqueue : queue = statement :: rest) (hnot : guard statement = false) :
    Guarded guard guarded rest := by
  subst hqueue
  exact hguarded.2.resolve_left (by simp [hnot])

end Guarded

namespace CallbackStatement

/-- The statement leads to a call of the completion, unless it was called before. -/
def settles : CallbackStatement → Bool
  | .observed .success _ | .observed .failure _ | .completeSuccess _ | .completeFailure _ => true
  | _ => false

def firesOutcome : CallbackStatement → Bool
  | .fire .success | .fire .failure => true
  | _ => false

def removes : CallbackStatement → Bool
  | .removeAllObservers => true
  | _ => false

/-- The statement is one of the fetcher's completion handler. -/
def ofCompletion : CallbackStatement → Bool
  | .setDownloadData _ | .setError _ | .fire _ | .removeAllObservers => true
  | _ => false

end CallbackStatement

namespace StorageDownloadTask

variable {task next : StorageDownloadTask} {action : DownloadAction}

theorem guarded_fired {guarded : CallbackStatement → Bool}
    (hplain : ∀ statement, statement.ofCompletion = false → guarded statement = false)
    (status : StorageTaskStatus) : ∀ statement ∈ task.fired status, guarded statement = false := by
  intro statement hmem
  unfold fired at hmem
  split at hmem
  next =>
    obtain rfl := List.mem_singleton.mp hmem
    exact hplain _ rfl
  next => cases hmem

theorem removes_fired (status : StorageTaskStatus) :
    ∀ statement ∈ task.fired status, statement.removes = false := by
  refine guarded_fired (fun statement hplain => ?_) status
  cases statement with
  | removeAllObservers => cases hplain
  | _ => rfl

/-- Where the completion handler keeps its own statements behind the guard, a step
keeps them there, or takes the guard. -/
theorem guarded_step {guard guarded : CallbackStatement → Bool}
    (hplain : ∀ statement, statement.ofCompletion = false → guarded statement = false)
    (hcompletion : ∀ data serverError rest, Guarded guard guarded rest →
      Guarded guard guarded (task.fetcherCompletion data serverError ++ rest))
    (hguarded : Guarded guard guarded task.callbackQueue) (hstep : task.step action = some next) :
    Guarded guard guarded next.callbackQueue ∨ action = .callback ∧ ∃ statement rest,
      task.callbackQueue = statement :: rest ∧ guard statement = true := by
  have hfired : ∀ status, Guarded guard guarded (task.fired status) :=
    fun status => .of_forall (guarded_fired hplain status)
  have hsingle : ∀ statement, statement.ofCompletion = false →
      Guarded guard guarded [statement] :=
    fun statement hnot => ⟨hplain statement hnot, .inr trivial⟩
  have htaken : ∀ {statement rest}, task.callbackQueue = statement :: rest →
      Guarded guard guarded rest ∨ ∃ statement rest,
        task.callbackQueue = statement :: rest ∧ guard statement = true := by
    intro statement rest hqueue
    by_cases hguard : guard statement = true
    · exact .inr ⟨statement, rest, hqueue, hguard⟩
    · exact .inl (hguarded.tail hqueue (Bool.not_eq_true _ ▸ hguard))
  cases step_cases hstep with
  | enqueueImplementation => exact .inl hguarded
  | stopFetching => exact .inl hguarded
  | cancelled => exact .inl hguarded
  | fireFailure => exact .inl (hguarded.append (hfired .failure))
  | receivedProgress hqueue =>
      exact (htaken hqueue).imp (fun hrest => hrest.append (hfired .progress)) (⟨rfl, ·⟩)
  | fetched hqueue => exact (htaken hqueue).imp (hcompletion _ _ _) (⟨rfl, ·⟩)
  | failed hqueue => exact (htaken hqueue).imp_right (⟨rfl, ·⟩)
  | setDownloadData hqueue => exact (htaken hqueue).imp_right (⟨rfl, ·⟩)
  | fire hqueue => exact (htaken hqueue).imp (fun hrest => hrest.append (hfired _)) (⟨rfl, ·⟩)
  | removeAllObservers hqueue => exact (htaken hqueue).imp_right (⟨rfl, ·⟩)
  | observedSuccess hqueue =>
      exact (htaken hqueue).imp (fun hrest => hrest.append (hsingle _ rfl)) (⟨rfl, ·⟩)
  | observedFailure hqueue =>
      exact (htaken hqueue).imp (fun hrest => hrest.append (hsingle _ rfl)) (⟨rfl, ·⟩)
  | overflowed hqueue => exact (htaken hqueue).imp_right (⟨rfl, ·⟩)
  | completeSuccess hqueue => exact (htaken hqueue).imp_right (⟨rfl, ·⟩)
  | completeFailure hqueue => exact (htaken hqueue).imp_right (⟨rfl, ·⟩)
  | idle hqueue => exact (htaken hqueue).imp_right (⟨rfl, ·⟩)
  | didReceiveResponse => exact .inl hguarded
  | didReceiveNothing => exact .inl hguarded
  | didReceiveData => exact .inl (hguarded.append (hsingle _ rfl))
  | didComplete => exact .inl (hguarded.append (hsingle _ rfl))

/-! ## At most once -/

/-- The completion was called once if it is gone, and never before. -/
def Counted (task : StorageDownloadTask) : Prop :=
  task.replies.length = if task.completionData then 0 else 1

theorem Counted.step (hcounted : task.Counted) (hstep : task.step action = some next) :
    next.Counted := by
  unfold Counted at hcounted ⊢
  cases step_cases hstep with
  | completeSuccess hqueue hcompletion => simpa [hcompletion] using hcounted
  | completeFailure hqueue hcompletion => simpa [hcompletion] using hcounted
  | _ => exact hcounted

theorem Counted.length_le (hcounted : task.Counted) : task.replies.length ≤ 1 := by
  unfold Counted at hcounted
  split at hcounted <;> omega

/-! ## At least once -/

/-- The completion was called, or an outcome is on its way to it. -/
def Settled (task : StorageDownloadTask) : Prop :=
  task.completionData = false ∨ ∃ statement ∈ task.callbackQueue, statement.settles = true

theorem Settled.of_subset (hsettled : task.Settled)
    (hcompletion : next.completionData = task.completionData)
    (hqueue : task.callbackQueue ⊆ next.callbackQueue) : next.Settled := by
  rcases hsettled with hanswered | ⟨statement, hmem, hsettles⟩
  · exact .inl (hcompletion.trans hanswered)
  · exact .inr ⟨statement, hqueue hmem, hsettles⟩

theorem Settled.of_rest {statement : CallbackStatement} {rest : List CallbackStatement}
    (hsettled : task.Settled) (hqueue : task.callbackQueue = statement :: rest)
    (hnot : statement.settles = false)
    (hcompletion : next.completionData = task.completionData)
    (hrest : rest ⊆ next.callbackQueue) : next.Settled := by
  rcases hsettled with hanswered | ⟨other, hmem, hsettles⟩
  · exact .inl (hcompletion.trans hanswered)
  · rw [hqueue] at hmem
    rcases List.mem_cons.mp hmem with rfl | hmem
    · simp [hnot] at hsettles
    · exact .inr ⟨other, hrest hmem, hsettles⟩

theorem Settled.step (hsettled : task.Settled) (hstep : task.step action = some next) :
    next.Settled := by
  cases step_cases hstep with
  | enqueueImplementation => exact hsettled
  | stopFetching => exact hsettled
  | cancelled => exact hsettled
  | fireFailure => exact hsettled.of_subset rfl (List.subset_append_left _ _)
  | receivedProgress hqueue =>
      exact hsettled.of_rest hqueue rfl rfl (List.subset_append_left _ _)
  | fetched hqueue => exact hsettled.of_rest hqueue rfl rfl (List.subset_append_right _ _)
  | failed hqueue => exact hsettled.of_rest hqueue rfl rfl (List.Subset.refl _)
  | setDownloadData hqueue => exact hsettled.of_rest hqueue rfl rfl (List.Subset.refl _)
  | fire hqueue => exact hsettled.of_rest hqueue rfl rfl (List.subset_append_left _ _)
  | removeAllObservers hqueue => exact hsettled.of_rest hqueue rfl rfl (List.Subset.refl _)
  | observedSuccess hqueue => exact .inr ⟨_, List.mem_append_right _ List.mem_cons_self, rfl⟩
  | observedFailure hqueue => exact .inr ⟨_, List.mem_append_right _ List.mem_cons_self, rfl⟩
  | overflowed hqueue => exact hsettled.of_rest hqueue rfl rfl (List.Subset.refl _)
  | completeSuccess => exact .inl rfl
  | completeFailure => exact .inl rfl
  | idle hqueue hidle =>
      rcases hidle with ⟨rfl, -⟩ | ⟨⟨data, serverError, rfl⟩, -⟩ | ⟨snapshot, rfl⟩ | ⟨hanswered, -⟩
      · exact hsettled.of_rest hqueue rfl rfl (List.Subset.refl _)
      · exact hsettled.of_rest hqueue rfl rfl (List.Subset.refl _)
      · exact hsettled.of_rest hqueue rfl rfl (List.Subset.refl _)
      · exact .inl hanswered
  | didReceiveResponse => exact hsettled
  | didReceiveNothing => exact hsettled
  | didReceiveData => exact hsettled.of_subset rfl (List.subset_append_left _ _)
  | didComplete => exact hsettled.of_subset rfl (List.subset_append_left _ _)

/-- Something is left that fires an outcome. -/
inductive Coming (task : StorageDownloadTask) : Prop
  | enqueued (hmem : .enqueueImplementation ∈ task.dispatchQueue)
  | fetching {fetcher} (hfetcher : task.fetcher = some fetcher)
      (hfetching : StorageDownloadTask.fetching fetcher = true)
  | fetched {data serverError} (hmem : .fetched data serverError ∈ task.callbackQueue)
      (hactive : task.fetcher.any GTMSessionFetcher.userStoppedFetching = false)
  | firing {statement} (hmem : statement ∈ task.callbackQueue)
      (hfires : statement.firesOutcome = true)
  | failing (hmem : .fireFailure ∈ task.dispatchQueue)

/-- All observers are there, and stay until an outcome was fired. -/
structure Open (task : StorageDownloadTask) : Prop where
  observers : task.observers = [.success, .failure, .progress]
  guarded : Guarded CallbackStatement.firesOutcome CallbackStatement.removes task.callbackQueue
  stopping : .stopFetching ∈ task.dispatchQueue → .fireFailure ∈ task.dispatchQueue
  coming : task.Coming

theorem open_getData (reference : StoragePath) (maxSize : Int) :
    (reference.getData maxSize).Open where
  observers := rfl
  guarded := trivial
  stopping hmem := by simp [StoragePath.getData] at hmem
  coming := .enqueued List.mem_cons_self

/-- What is left is still left after a statement that fires no outcome. -/
theorem Coming.of_rest {statement : CallbackStatement} {rest : List CallbackStatement}
    (hcoming : task.Coming) (hqueue : task.callbackQueue = statement :: rest)
    (hfires : statement.firesOutcome = false)
    (hfetched : (∃ data serverError, statement = .fetched data serverError) →
      task.fetcher.any GTMSessionFetcher.userStoppedFetching = true)
    (hdispatch : next.dispatchQueue = task.dispatchQueue) (hfetcher : next.fetcher = task.fetcher)
    (hrest : rest ⊆ next.callbackQueue) : next.Coming := by
  have hmoved : ∀ other, other ∈ task.callbackQueue → other ≠ statement →
      other ∈ next.callbackQueue := by
    intro other hmem hne
    rw [hqueue] at hmem
    exact hrest ((List.mem_cons.mp hmem).resolve_left hne)
  cases hcoming with
  | enqueued hmem => exact .enqueued (hdispatch ▸ hmem)
  | fetching hsome hfetching => exact .fetching (hfetcher.trans hsome) hfetching
  | @fetched data serverError hmem hactive =>
      refine .fetched (hmoved _ hmem ?_) (hfetcher ▸ hactive)
      rintro rfl
      rw [hfetched ⟨data, serverError, rfl⟩] at hactive
      cases hactive
  | firing hmem hfire =>
      refine .firing (hmoved _ hmem ?_) hfire
      rintro rfl
      rw [hfires] at hfire
      cases hfire
  | failing hmem => exact .failing (hdispatch ▸ hmem)

/-- A statement that fires no outcome leaves the rest open. -/
theorem Open.of_rest {statement : CallbackStatement} {rest added : List CallbackStatement}
    (hopen : task.Open) (hqueue : task.callbackQueue = statement :: rest)
    (hfires : statement.firesOutcome = false)
    (hfetched : (∃ data serverError, statement = .fetched data serverError) →
      task.fetcher.any GTMSessionFetcher.userStoppedFetching = true)
    (hadded : ∀ other ∈ added, other.removes = false)
    (hnext : next.callbackQueue = rest ++ added)
    (hdispatch : next.dispatchQueue = task.dispatchQueue) (hfetcher : next.fetcher = task.fetcher)
    (hobservers : next.observers = task.observers) : next.Open where
  observers := hobservers.trans hopen.observers
  guarded := hnext ▸ (hopen.guarded.tail hqueue hfires).append (.of_forall hadded)
  stopping := hdispatch ▸ hopen.stopping
  coming := hopen.coming.of_rest hqueue hfires hfetched hdispatch hfetcher
    (hnext ▸ List.subset_append_left _ _)

theorem Open.of_popped {statement : CallbackStatement} {rest : List CallbackStatement}
    (hopen : task.Open) (hqueue : task.callbackQueue = statement :: rest)
    (hfires : statement.firesOutcome = false)
    (hfetched : (∃ data serverError, statement = .fetched data serverError) →
      task.fetcher.any GTMSessionFetcher.userStoppedFetching = true)
    (hnext : next.callbackQueue = rest) (hdispatch : next.dispatchQueue = task.dispatchQueue)
    (hfetcher : next.fetcher = task.fetcher) (hobservers : next.observers = task.observers) :
    next.Open := by
  have hnone : ∀ other ∈ ([] : List CallbackStatement), other.removes = false := by simp
  exact hopen.of_rest hqueue hfires hfetched hnone (by simpa using hnext) hdispatch hfetcher
    hobservers

theorem settled_of_fired {status : StorageTaskStatus} (hopen : task.Open)
    (houtcome : status ≠ .progress) (hfired : task.fired status ⊆ next.callbackQueue) :
    next.Settled := by
  have hobserved : task.fired status = [.observed status task.snapshot] := by
    unfold fired
    rw [hopen.observers, if_pos (by cases status <;> simp)]
  refine .inr ⟨.observed status task.snapshot, hfired (by simp [hobserved]), ?_⟩
  cases status with
  | progress => exact absurd rfl houtcome
  | success => rfl
  | failure => rfl

theorem mem_of_stopping {statement : DispatchStatement} {rest : List DispatchStatement}
    (hopen : task.Open) (hqueue : task.dispatchQueue = statement :: rest)
    (hnot : statement ≠ .fireFailure) (hstop : .stopFetching ∈ task.dispatchQueue) :
    .fireFailure ∈ rest := by
  have hmem := hopen.stopping hstop
  rw [hqueue] at hmem
  exact (List.mem_cons.mp hmem).resolve_left (Ne.symm hnot)

/-- A step of the storage's queue. -/
theorem Open.dispatched {statement : DispatchStatement} {rest : List DispatchStatement}
    (hopen : task.Open) (hqueue : task.dispatchQueue = statement :: rest)
    (hnot : statement ≠ .fireFailure) (hcoming : next.Coming)
    (hdispatch : next.dispatchQueue = rest) (hcallback : next.callbackQueue = task.callbackQueue)
    (hobservers : next.observers = task.observers) : next.Open where
  observers := hobservers.trans hopen.observers
  guarded := hcallback ▸ hopen.guarded
  stopping hmem := by
    rw [hdispatch] at hmem ⊢
    exact mem_of_stopping hopen hqueue hnot (hqueue ▸ List.mem_cons_of_mem _ hmem)
  coming := hcoming

theorem removes_fetcherCompletion (data : Option ByteArray) (serverError : Option Int)
    (rest : List CallbackStatement) :
    Guarded CallbackStatement.firesOutcome CallbackStatement.removes
      (task.fetcherCompletion data serverError ++ rest) := by
  cases serverError <;>
    simp [fetcherCompletion, Guarded, CallbackStatement.firesOutcome, CallbackStatement.removes]

theorem Open.step (hopen : task.Open) (hstep : task.step action = some next) :
    next.Settled ∨ next.Open := by
  cases step_cases hstep with
  | enqueueImplementation hqueue =>
      exact .inr (hopen.dispatched hqueue (by simp) (.fetching rfl rfl) rfl rfl rfl)
  | stopFetching hqueue =>
      -- The block that stops the fetch goes on to fire the failure.
      have hmem := mem_of_stopping hopen hqueue (by simp) (by simp [hqueue])
      exact .inr (hopen.dispatched hqueue (by simp) (.failing hmem) rfl rfl rfl)
  | @cancelled rest error hqueue =>
      refine .inr (hopen.dispatched hqueue (by simp) ?_ rfl rfl rfl)
      cases hopen.coming with
      | enqueued hmem => exact .enqueued (by simpa [hqueue] using hmem)
      | fetching hsome hfetching => exact .fetching hsome hfetching
      | fetched hmem hactive => exact .fetched hmem hactive
      | firing hmem hfires => exact .firing hmem hfires
      | failing hmem => exact .failing (by simpa [hqueue] using hmem)
  | fireFailure hqueue =>
      exact .inl (settled_of_fired hopen (by simp) (List.subset_append_right _ _))
  | receivedProgress hqueue =>
      exact .inr (hopen.of_rest hqueue rfl (by simp) (removes_fired .progress) rfl rfl rfl rfl)
  | @fetched rest data serverError hqueue hactive =>
      refine .inr ⟨hopen.observers, removes_fetcherCompletion data serverError rest,
        hopen.stopping, ?_⟩
      cases serverError with
      | none =>
          have hmem : .fire .success ∈ task.fetcherCompletion data none ++ rest := by
            simp [fetcherCompletion]
          exact .firing hmem rfl
      | some code =>
          have hmem : .fire .failure ∈ task.fetcherCompletion data (some code) ++ rest := by
            simp [fetcherCompletion]
          exact .firing hmem rfl
  | failed hqueue =>
      exact .inr (hopen.of_popped hqueue rfl (by simp) rfl rfl rfl rfl)
  | setDownloadData hqueue =>
      exact .inr (hopen.of_popped hqueue rfl (by simp) rfl rfl rfl rfl)
  | @fire rest status hqueue =>
      by_cases houtcome : status = .progress
      · subst houtcome
        exact .inr (hopen.of_rest hqueue rfl (by simp) (removes_fired .progress) rfl rfl rfl rfl)
      · exact .inl (settled_of_fired hopen houtcome (List.subset_append_right _ _))
  | removeAllObservers hqueue =>
      have hguarded := hopen.guarded
      rw [hqueue] at hguarded
      cases hguarded.1
  | observedSuccess => exact .inl (.inr ⟨_, List.mem_append_right _ List.mem_cons_self, rfl⟩)
  | observedFailure => exact .inl (.inr ⟨_, List.mem_append_right _ List.mem_cons_self, rfl⟩)
  | overflowed hqueue =>
      exact .inr ⟨hopen.observers, hopen.guarded.tail hqueue rfl, by simp, .failing (by simp)⟩
  | completeSuccess => exact .inl (.inl rfl)
  | completeFailure => exact .inl (.inl rfl)
  | idle hqueue hidle =>
      rcases hidle with ⟨rfl, -⟩ | ⟨⟨_, _, rfl⟩, hstopped⟩ | ⟨snapshot, rfl⟩ | ⟨hanswered, -⟩
      · exact .inr (hopen.of_popped hqueue rfl (by simp) rfl rfl rfl rfl)
      · exact .inr (hopen.of_popped hqueue rfl (fun _ => hstopped) rfl rfl rfl rfl)
      · exact .inr (hopen.of_popped hqueue rfl (by simp) rfl rfl rfl rfl)
      · exact .inl (.inl hanswered)
  | didReceiveResponse hfetcher hfetching =>
      exact .inr ⟨hopen.observers, hopen.guarded, hopen.stopping, .fetching rfl hfetching⟩
  | didReceiveNothing => exact .inr hopen
  | didReceiveData hfetcher hfetching =>
      exact .inr ⟨hopen.observers, hopen.guarded.append ⟨rfl, .inr trivial⟩, hopen.stopping,
        .fetching rfl hfetching⟩
  | @didComplete serverError fetcher hfetcher hfetching =>
      have hactive : fetcher.userStoppedFetching = false := by
        simpa using (Bool.and_eq_true_iff.mp hfetching).2
      exact .inr ⟨hopen.observers, hopen.guarded.append ⟨rfl, .inr trivial⟩, hopen.stopping,
        .fetched (List.mem_append_right _ List.mem_cons_self) hactive⟩

theorem counted_run {reference : StoragePath} {maxSize : Int} {actions : List DownloadAction}
    (hrun : Machine.run StorageDownloadTask.step (reference.getData maxSize) actions = some task) :
    task.Counted :=
  Machine.run_invariant Counted (fun _ _ _ hcounted hstep => hcounted.step hstep)
    (by simp [Counted, StoragePath.getData]) hrun

theorem settled_or_open_run {reference : StoragePath} {maxSize : Int}
    {actions : List DownloadAction}
    (hrun : Machine.run StorageDownloadTask.step (reference.getData maxSize) actions = some task) :
    task.Settled ∨ task.Open :=
  Machine.run_invariant (fun task => task.Settled ∨ task.Open)
    (fun _ _ _ hcases hstep => hcases.elim (fun h => .inl (h.step hstep)) (fun h => h.step hstep))
    (.inr (open_getData reference maxSize)) hrun

/-- Where the queues are empty and nothing is fetched, nothing is coming. -/
theorem not_coming_of_halted (hhalted : Machine.Halted StorageDownloadTask.step task) :
    task.dispatchQueue = [] ∧ task.callbackQueue = [] ∧ ¬ task.Coming := by
  have hdispatch : task.dispatchQueue = [] := by
    cases hqueue : task.dispatchQueue with
    | nil => rfl
    | cons statement rest =>
        have hstep := hhalted .dispatch
        simp [StorageDownloadTask.step, hqueue] at hstep
  have hcallback : task.callbackQueue = [] := by
    cases hqueue : task.callbackQueue with
    | nil => rfl
    | cons statement rest =>
        have hstep := hhalted .callback
        simp [StorageDownloadTask.step, hqueue] at hstep
  refine ⟨hdispatch, hcallback, fun hcoming => ?_⟩
  cases hcoming with
  | enqueued hmem => simp [hdispatch] at hmem
  | fetching hfetcher hfetching =>
      have hstep := hhalted (.didComplete none)
      simp [StorageDownloadTask.step, hfetcher, Option.filter, hfetching] at hstep
  | fetched hmem => simp [hcallback] at hmem
  | firing hmem => simp [hcallback] at hmem
  | failing hmem => simp [hdispatch] at hmem

theorem halted_of_idle (hdispatch : task.dispatchQueue = []) (hcallback : task.callbackQueue = [])
    (hfetching : task.fetcher.any fetching = false) :
    Machine.Halted StorageDownloadTask.step task := by
  have hfilter : task.fetcher.filter fetching = none := by
    cases hfetcher : task.fetcher <;> simp_all [Option.filter]
  intro action
  cases action <;> simp [StorageDownloadTask.step, hdispatch, hcallback, hfilter]

/-- A download with nothing left to do has called its completion. -/
theorem length_replies_of_halted {reference : StoragePath} {maxSize : Int}
    {actions : List DownloadAction}
    (hrun : Machine.run StorageDownloadTask.step (reference.getData maxSize) actions = some task)
    (hhalted : Machine.Halted StorageDownloadTask.step task) : task.replies.length = 1 := by
  obtain ⟨hdispatch, hcallback, hnothing⟩ := not_coming_of_halted hhalted
  have hanswered : task.completionData = false := by
    rcases settled_or_open_run hrun with hsettled | hopen
    · rcases hsettled with hanswered | ⟨statement, hmem, -⟩
      · exact hanswered
      · simp [hcallback] at hmem
    · exact absurd hopen.coming hnothing
  have hcounted := counted_run hrun
  simpa [Counted, hanswered] using hcounted

/-- The task is in a state that a download can come to. -/
def Reached (task : StorageDownloadTask) : Prop :=
  ∃ reference maxSize actions,
    Machine.run StorageDownloadTask.step (StoragePath.getData reference maxSize) actions = some task

theorem reached_getData (reference : StoragePath) (maxSize : Int) :
    (reference.getData maxSize).Reached := ⟨reference, maxSize, [], rfl⟩

theorem Reached.step (hreached : task.Reached) (hstep : task.step action = some next) :
    next.Reached := by
  obtain ⟨reference, maxSize, actions, hrun⟩ := hreached
  refine ⟨reference, maxSize, actions ++ [action], ?_⟩
  rw [Machine.run_append_eq_some_iff]
  exact ⟨task, hrun, (Machine.run_singleton ..).trans hstep⟩

theorem Reached.length_replies_le (hreached : task.Reached) : task.replies.length ≤ 1 := by
  obtain ⟨reference, maxSize, actions, hrun⟩ := hreached
  exact (counted_run hrun).length_le

theorem Reached.length_replies_of_halted (hreached : task.Reached)
    (hhalted : Machine.Halted StorageDownloadTask.step task) : task.replies.length = 1 := by
  obtain ⟨reference, maxSize, actions, hrun⟩ := hreached
  exact StorageDownloadTask.length_replies_of_halted hrun hhalted

/-- A step takes no reply back. -/
theorem replies_prefix_step (hstep : task.step action = some next) :
    task.replies <+: next.replies := by
  cases step_cases hstep with
  | completeSuccess => exact List.prefix_append _ _
  | completeFailure => exact List.prefix_append _ _
  | _ => exact List.prefix_refl _

/-- A task that has replied gives no other reply. -/
theorem Reached.replies_step (hreached : task.Reached) (hreplied : task.replies ≠ [])
    (hstep : task.step action = some next) : next.replies = task.replies := by
  have honly := (hreached.step hstep).length_replies_le
  have hlength := List.length_pos_of_ne_nil hreplied
  exact ((replies_prefix_step hstep).eq_of_length_le (by omega)).symm

theorem reference_step (hstep : task.step action = some next) :
    next.reference = task.reference := by
  cases step_cases hstep <;> rfl

end StorageDownloadTask

/-- In every interleaving of the storage's queue, the callback queue and the
network, whatever the network delivers, the completion of `getData` is called at
most once, and once when nothing is left to do. -/
theorem getData_completes_once (reference : StoragePath) (maxSize : Int)
    (actions : List DownloadAction) (task : StorageDownloadTask)
    (hrun : Machine.run StorageDownloadTask.step (reference.getData maxSize) actions = some task) :
    task.replies.length ≤ 1 ∧
      (Machine.Halted StorageDownloadTask.step task → task.replies.length = 1) :=
  ⟨(StorageDownloadTask.counted_run hrun).length_le,
    StorageDownloadTask.length_replies_of_halted hrun⟩

theorem getData_completes_once_notFound :
    ∃ task, Machine.run StorageDownloadTask.step
        ((StoragePath.initWith "fly" none).getData 1)
        ([.dispatch, .didComplete (some 404)] ++ List.replicate 8 .callback) = some task ∧
      task.replies.length = 1 := by
  have hmap : (Machine.run StorageDownloadTask.step ((StoragePath.initWith "fly" none).getData 1)
      ([.dispatch, .didComplete (some 404)] ++ List.replicate 8 .callback)).map (fun task =>
        (task.dispatchQueue.length, task.callbackQueue.length,
          task.fetcher.any StorageDownloadTask.fetching)) = some (0, 0, false) := by
    decide +kernel
  obtain ⟨task, hrun, heq⟩ := Option.map_eq_some_iff.mp hmap
  simp only [Prod.mk.injEq, List.length_eq_zero_iff] at heq
  obtain ⟨hdispatch, hcallback, hfetching⟩ := heq
  exact ⟨task, hrun, (getData_completes_once _ 1 _ task hrun).2
    (StorageDownloadTask.halted_of_idle hdispatch hcallback hfetching)⟩

end FlyEvents
