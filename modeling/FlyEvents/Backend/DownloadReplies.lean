import FlyEvents.Backend.DownloadCompletion

/-! # What a download answers

The completion gets an error or all that the fetcher had when it ended, and then
the task's last count of it was within the limit.
-/

namespace FlyEvents

namespace CallbackStatement

def setsData : CallbackStatement → Bool
  | .setDownloadData _ => true
  | _ => false

def firesSuccess : CallbackStatement → Bool
  | .fire .success => true
  | _ => false

def setsError : CallbackStatement → Bool
  | .setError _ => true
  | _ => false

def firesFailure : CallbackStatement → Bool
  | .fire .failure => true
  | _ => false

end CallbackStatement

namespace DispatchStatement

def setsError : DispatchStatement → Bool
  | .setError _ => true
  | _ => false

def firesFailure : DispatchStatement → Bool
  | .fireFailure => true
  | _ => false

end DispatchStatement

namespace StorageDownloadTask

variable {task next : StorageDownloadTask} {action : DownloadAction}

/-- The fetcher ended with the given data. -/
def Finished (task : StorageDownloadTask) (data : Option ByteArray) : Prop :=
  ∃ fetcher, task.fetcher = some fetcher ∧ fetcher.finished = true ∧ fetcher.downloadedData = data

theorem Finished.unique {first second : Option ByteArray} (hfirst : task.Finished first)
    (hsecond : task.Finished second) : first = second := by
  obtain ⟨fetcher, hfetcher, -, rfl⟩ := hfirst
  obtain ⟨other, hother, -, rfl⟩ := hsecond
  rw [hfetcher] at hother
  cases hother
  rfl

theorem Finished.not_fetching {data : Option ByteArray} (hfinished : task.Finished data)
    {fetcher : GTMSessionFetcher} (hfetcher : task.fetcher = some fetcher)
    (hfetching : fetching fetcher = true) : False := by
  obtain ⟨other, hother, hended, -⟩ := hfinished
  rw [hfetcher] at hother
  cases hother
  simp [fetching, hended] at hfetching

/-- The statements that a step puts on the callback queue. -/
inductive Added (task next : StorageDownloadTask) : CallbackStatement → Prop
  | receivedProgress : Added task next .receivedProgress
  | fetched {fetcher : GTMSessionFetcher} {serverError}
      (hnext : next.fetcher = some { fetcher with finished := true }) :
      Added task next (.fetched fetcher.downloadedData serverError)
  | fetcherCompletion {data serverError statement}
      (hmem : .fetched data serverError ∈ task.callbackQueue)
      (hstatement : statement ∈ task.fetcherCompletion data serverError) :
      Added task next statement
  | observedProgress {snapshot} : Added task next (.observed .progress snapshot)
  | observedSuccess {rest} (hqueue : task.callbackQueue = .fire .success :: rest) :
      Added task next (.observed .success task.snapshot)
  | observedFailure (hfired : (∃ rest, task.callbackQueue = .fire .failure :: rest) ∨
        ∃ rest, task.dispatchQueue = .fireFailure :: rest) :
      Added task next (.observed .failure task.snapshot)
  | completeSuccess {snapshot} (hmem : .observed .success snapshot ∈ task.callbackQueue) :
      Added task next (.completeSuccess task.checkSizeOverflow)
  | completeFailure {snapshot} (hmem : .observed .failure snapshot ∈ task.callbackQueue) :
      Added task next (.completeFailure snapshot.error)

theorem eq_of_mem_fired {status : StorageTaskStatus} {statement : CallbackStatement}
    (hmem : statement ∈ task.fired status) : statement = .observed status task.snapshot := by
  unfold fired at hmem
  split at hmem
  next => exact List.mem_singleton.mp hmem
  next => cases hmem

theorem ofCompletion_of_mem {data : Option ByteArray} {serverError : Option Int}
    {statement : CallbackStatement} (hmem : statement ∈ task.fetcherCompletion data serverError) :
    statement.ofCompletion = true := by
  cases serverError <;>
    simp only [fetcherCompletion, List.mem_cons, List.not_mem_nil, or_false] at hmem <;>
    rcases hmem with rfl | rfl | rfl | rfl <;> rfl

theorem mem_of_step (hstep : task.step action = some next) {statement : CallbackStatement}
    (hmem : statement ∈ next.callbackQueue) :
    statement ∈ task.callbackQueue ∨ Added task next statement := by
  cases step_cases hstep with
  | enqueueImplementation => exact .inl hmem
  | stopFetching => exact .inl hmem
  | cancelled => exact .inl hmem
  | fireFailure hqueue =>
      refine (List.mem_append.mp hmem).imp_right fun hfired => ?_
      rw [eq_of_mem_fired hfired]
      exact .observedFailure (.inr ⟨_, hqueue⟩)
  | receivedProgress hqueue =>
      rw [hqueue]
      refine (List.mem_append.mp hmem).imp (List.mem_cons_of_mem _) fun hfired => ?_
      rw [eq_of_mem_fired hfired]
      exact .observedProgress
  | fetched hqueue =>
      rw [hqueue]
      refine (List.mem_append.mp hmem).symm.imp (List.mem_cons_of_mem _) fun hcompletion => ?_
      exact .fetcherCompletion (hqueue ▸ List.mem_cons_self) hcompletion
  | failed hqueue => exact .inl (hqueue ▸ List.mem_cons_of_mem _ hmem)
  | setDownloadData hqueue => exact .inl (hqueue ▸ List.mem_cons_of_mem _ hmem)
  | @fire rest status hqueue =>
      rw [hqueue]
      refine (List.mem_append.mp hmem).imp (List.mem_cons_of_mem _) fun hfired => ?_
      rw [eq_of_mem_fired hfired]
      cases status with
      | progress => exact .observedProgress
      | success => exact .observedSuccess hqueue
      | failure => exact .observedFailure (.inl ⟨_, hqueue⟩)
  | removeAllObservers hqueue => exact .inl (hqueue ▸ List.mem_cons_of_mem _ hmem)
  | observedSuccess hqueue =>
      rw [hqueue]
      refine (List.mem_append.mp hmem).imp (List.mem_cons_of_mem _) fun hadded => ?_
      obtain rfl := List.mem_singleton.mp hadded
      exact .completeSuccess (hqueue ▸ List.mem_cons_self)
  | observedFailure hqueue =>
      rw [hqueue]
      refine (List.mem_append.mp hmem).imp (List.mem_cons_of_mem _) fun hadded => ?_
      obtain rfl := List.mem_singleton.mp hadded
      exact .completeFailure (hqueue ▸ List.mem_cons_self)
  | overflowed hqueue => exact .inl (hqueue ▸ List.mem_cons_of_mem _ hmem)
  | completeSuccess hqueue => exact .inl (hqueue ▸ List.mem_cons_of_mem _ hmem)
  | completeFailure hqueue => exact .inl (hqueue ▸ List.mem_cons_of_mem _ hmem)
  | idle hqueue => exact .inl (hqueue ▸ List.mem_cons_of_mem _ hmem)
  | didReceiveResponse => exact .inl hmem
  | didReceiveNothing => exact .inl hmem
  | didReceiveData =>
      refine (List.mem_append.mp hmem).imp_right fun hadded => ?_
      obtain rfl := List.mem_singleton.mp hadded
      exact .receivedProgress
  | didComplete =>
      refine (List.mem_append.mp hmem).imp_right fun hadded => ?_
      obtain rfl := List.mem_singleton.mp hadded
      exact .fetched rfl

/-! ## The data -/

/-- The one fetcher of the task is started first. -/
def Started (task : StorageDownloadTask) : Prop :=
  .enqueueImplementation ∈ task.dispatchQueue →
    task.fetcher = none ∧ task.dispatchQueue = [.enqueueImplementation] ∧ task.callbackQueue = []

theorem Started.step (hstarted : task.Started) (hstep : task.step action = some next) :
    next.Started := by
  intro hmem
  cases step_cases hstep with
  | enqueueImplementation hqueue =>
      obtain ⟨-, hdispatch, -⟩ := hstarted (hqueue ▸ List.mem_cons_self)
      rw [hqueue] at hdispatch
      simp [(List.cons.inj hdispatch).2] at hmem
  | stopFetching hqueue =>
      obtain ⟨-, hdispatch, -⟩ := hstarted (hqueue ▸ List.mem_cons_of_mem _ hmem)
      simp [hqueue] at hdispatch
  | cancelled hqueue =>
      obtain ⟨-, hdispatch, -⟩ := hstarted (hqueue ▸ List.mem_cons_of_mem _ hmem)
      simp [hqueue] at hdispatch
  | fireFailure hqueue =>
      obtain ⟨-, hdispatch, -⟩ := hstarted (hqueue ▸ List.mem_cons_of_mem _ hmem)
      simp [hqueue] at hdispatch
  | overflowed hqueue =>
      obtain ⟨-, -, hcallback⟩ := hstarted (by simpa using hmem)
      simp [hqueue] at hcallback
  | didReceiveResponse hfetcher => simp [(hstarted hmem).1] at hfetcher
  | didReceiveNothing => exact hstarted hmem
  | didReceiveData hfetcher => simp [(hstarted hmem).1] at hfetcher
  | didComplete hfetcher => simp [(hstarted hmem).1] at hfetcher
  | _ hqueue => simp [(hstarted hmem).2.2] at hqueue

/-- A fetcher that ended keeps its data. -/
theorem Finished.step {data : Option ByteArray} (hfinished : task.Finished data)
    (hstarted : task.Started) (hstep : task.step action = some next) : next.Finished data := by
  cases step_cases hstep with
  | enqueueImplementation hqueue =>
      obtain ⟨fetcher, hfetcher, -⟩ := hfinished
      simp [(hstarted (hqueue ▸ List.mem_cons_self)).1] at hfetcher
  | stopFetching =>
      obtain ⟨fetcher, hfetcher, hended, hdata⟩ := hfinished
      exact ⟨{ fetcher with userStoppedFetching := true }, by simp [hfetcher], hended, hdata⟩
  | didReceiveResponse hfetcher hfetching => exact (hfinished.not_fetching hfetcher hfetching).elim
  | didReceiveData hfetcher hfetching => exact (hfinished.not_fetching hfetcher hfetching).elim
  | didComplete hfetcher hfetching => exact (hfinished.not_fetching hfetcher hfetching).elim
  | _ => exact hfinished

/-- The task has taken over what its fetcher ended with. -/
def Downloaded (task : StorageDownloadTask) : Prop := task.Finished task.downloadData

/-- How the data of a fetcher that ended gets to the completion. -/
structure Delivering (task : StorageDownloadTask) : Prop where
  started : task.Started
  fetched : ∀ data serverError, .fetched data serverError ∈ task.callbackQueue →
    task.Finished data
  setsData : ∀ data, .setDownloadData data ∈ task.callbackQueue → task.Finished data
  taken : task.downloadData = none ∨ task.Downloaded
  fires : task.Downloaded ∨
    Guarded CallbackStatement.setsData CallbackStatement.firesSuccess task.callbackQueue
  observed : ∀ snapshot, .observed .success snapshot ∈ task.callbackQueue → task.Downloaded
  completes : ∀ error, .completeSuccess error ∈ task.callbackQueue →
    task.Downloaded ∧ error = task.checkSizeOverflow

namespace Delivering

theorem downloaded_step (hdelivering : task.Delivering) (hdownloaded : task.Downloaded)
    (hstep : task.step action = some next) :
    next.Downloaded ∧ next.checkSizeOverflow = task.checkSizeOverflow := by
  have hfinished := hdownloaded.step hdelivering.started hstep
  cases step_cases hstep with
  | receivedProgress hqueue hfetcher hfetching =>
      exact (hdownloaded.not_fetching hfetcher hfetching).elim
  | setDownloadData hqueue =>
      have hsame := (hdelivering.setsData _ (hqueue ▸ List.mem_cons_self)).unique hdownloaded
      refine ⟨?_, rfl⟩
      simp only [Downloaded, hsame, Option.or_self]
      exact hfinished
  | _ => exact ⟨hfinished, rfl⟩

theorem fetched_step (hdelivering : task.Delivering) (hstep : task.step action = some next)
    (data : Option ByteArray) (serverError : Option Int)
    (hmem : .fetched data serverError ∈ next.callbackQueue) : next.Finished data := by
  rcases mem_of_step hstep hmem with hold | hadded
  · exact (hdelivering.fetched data serverError hold).step hdelivering.started hstep
  · cases hadded with
    | fetched hnext => exact ⟨_, hnext, rfl, rfl⟩
    | fetcherCompletion hmem hstatement => cases ofCompletion_of_mem hstatement

theorem setsData_step (hdelivering : task.Delivering) (hstep : task.step action = some next)
    (data : Option ByteArray) (hmem : .setDownloadData data ∈ next.callbackQueue) :
    next.Finished data := by
  rcases mem_of_step hstep hmem with hold | hadded
  · exact (hdelivering.setsData data hold).step hdelivering.started hstep
  · cases hadded with
    | @fetcherCompletion _ code _ hmem hstatement =>
        have hfinished := (hdelivering.fetched _ _ hmem).step hdelivering.started hstep
        cases code with
        | some code => simp [fetcherCompletion] at hstatement
        | none =>
            obtain rfl : data = _ := by simpa [fetcherCompletion] using hstatement
            exact hfinished

theorem downloaded_of_setDownloadData (hdelivering : task.Delivering) {data : Option ByteArray}
    {rest : List CallbackStatement} (hqueue : task.callbackQueue = .setDownloadData data :: rest) :
    data.or task.downloadData = data := by
  have hfinished := hdelivering.setsData data (hqueue ▸ List.mem_cons_self)
  rcases hdelivering.taken with hnone | hdownloaded
  · simp [hnone]
  · simp [hfinished.unique hdownloaded]

theorem taken_step (hdelivering : task.Delivering) (hstep : task.step action = some next) :
    next.downloadData = none ∨ next.Downloaded := by
  have hdownloaded := fun h => (hdelivering.downloaded_step h hstep).1
  cases step_cases hstep with
  | @setDownloadData rest data hqueue =>
      right
      have hfinished := (hdelivering.setsData data (hqueue ▸ List.mem_cons_self)).step
        hdelivering.started hstep
      simpa only [Downloaded, hdelivering.downloaded_of_setDownloadData hqueue] using hfinished
  | _ => exact hdelivering.taken.imp_right hdownloaded

theorem fires_step (hdelivering : task.Delivering) (hstep : task.step action = some next) :
    next.Downloaded ∨
      Guarded CallbackStatement.setsData CallbackStatement.firesSuccess next.callbackQueue := by
  rcases hdelivering.fires with hdownloaded | hguarded
  · exact .inl (hdelivering.downloaded_step hdownloaded hstep).1
  · have hplain : ∀ statement : CallbackStatement, statement.ofCompletion = false →
        statement.firesSuccess = false := by
      intro statement hnot
      cases statement <;> first | rfl | cases hnot
    have hcompletion : ∀ data serverError rest,
        Guarded CallbackStatement.setsData CallbackStatement.firesSuccess rest →
        Guarded CallbackStatement.setsData CallbackStatement.firesSuccess
          (task.fetcherCompletion data serverError ++ rest) := by
      intro data serverError rest hrest
      cases serverError with
      | none => exact ⟨rfl, .inr ⟨rfl, .inl rfl⟩⟩
      | some code => exact ⟨rfl, .inr ⟨rfl, .inr ⟨rfl, .inr ⟨rfl, .inr hrest⟩⟩⟩⟩
    rcases guarded_step hplain hcompletion hguarded hstep with
      hnext | ⟨rfl, statement, rest, hqueue, hguard⟩
    · exact .inr hnext
    · left
      cases statement with
      | setDownloadData data =>
          have hfinished := (hdelivering.setsData data (hqueue ▸ List.mem_cons_self)).step
            hdelivering.started hstep
          have hdata : next.downloadData = data.or task.downloadData := by
            simp only [StorageDownloadTask.step, hqueue, Option.some.injEq] at hstep
            rw [← hstep]
            rfl
          rw [Downloaded, hdata, hdelivering.downloaded_of_setDownloadData hqueue]
          exact hfinished
      | _ => cases hguard

theorem observed_step (hdelivering : task.Delivering) (hstep : task.step action = some next)
    (snapshot : StorageTaskSnapshot) (hmem : .observed .success snapshot ∈ next.callbackQueue) :
    next.Downloaded := by
  refine (hdelivering.downloaded_step ?_ hstep).1
  rcases mem_of_step hstep hmem with hold | hadded
  · exact hdelivering.observed snapshot hold
  · cases hadded with
    | fetcherCompletion hmem hstatement => cases ofCompletion_of_mem hstatement
    | observedSuccess hqueue =>
        refine hdelivering.fires.resolve_right fun hguarded => ?_
        rw [hqueue] at hguarded
        cases hguarded.1

theorem completes_step (hdelivering : task.Delivering) (hstep : task.step action = some next)
    (error : Option BackendError) (hmem : .completeSuccess error ∈ next.callbackQueue) :
    next.Downloaded ∧ error = next.checkSizeOverflow := by
  have hold : task.Downloaded ∧ error = task.checkSizeOverflow := by
    rcases mem_of_step hstep hmem with hold | hadded
    · exact hdelivering.completes error hold
    · cases hadded with
      | fetcherCompletion hmem hstatement => cases ofCompletion_of_mem hstatement
      | completeSuccess hobserved => exact ⟨hdelivering.observed _ hobserved, rfl⟩
  obtain ⟨hdownloaded, hsame⟩ := hdelivering.downloaded_step hold.1 hstep
  exact ⟨hdownloaded, hold.2.trans hsame.symm⟩

theorem step (hdelivering : task.Delivering) (hstep : task.step action = some next) :
    next.Delivering where
  started := hdelivering.started.step hstep
  fetched := hdelivering.fetched_step hstep
  setsData := hdelivering.setsData_step hstep
  taken := hdelivering.taken_step hstep
  fires := hdelivering.fires_step hstep
  observed := hdelivering.observed_step hstep
  completes := hdelivering.completes_step hstep

end Delivering

theorem delivering_getData (reference : StoragePath) (maxSize : Int) :
    (reference.getData maxSize).Delivering where
  started _ := ⟨rfl, rfl, rfl⟩
  fetched _ _ hmem := nomatch hmem
  setsData _ hmem := nomatch hmem
  taken := .inl rfl
  fires := .inr trivial
  observed _ hmem := nomatch hmem
  completes _ hmem := nomatch hmem

/-! ## The errors -/

/-- A failure is fired with an error. -/
structure Failing (task : StorageDownloadTask) : Prop where
  dispatch : task.error.isSome = true ∨
    Guarded DispatchStatement.setsError DispatchStatement.firesFailure task.dispatchQueue
  callback : task.error.isSome = true ∨
    Guarded CallbackStatement.setsError CallbackStatement.firesFailure task.callbackQueue
  observed : ∀ snapshot, .observed .failure snapshot ∈ task.callbackQueue →
    snapshot.error.isSome = true
  completes : ∀ error, .completeFailure error ∈ task.callbackQueue → error.isSome = true

theorem failing_getData (reference : StoragePath) (maxSize : Int) :
    (reference.getData maxSize).Failing where
  dispatch := .inr ⟨rfl, .inr trivial⟩
  callback := .inr trivial
  observed _ hmem := nomatch hmem
  completes _ hmem := nomatch hmem

namespace Failing

theorem error_step (herror : task.error.isSome = true) (hstep : task.step action = some next) :
    next.error.isSome = true := by
  cases step_cases hstep with
  | cancelled => rfl
  | failed => rfl
  | _ => exact herror

theorem dispatch_step (hfailing : task.Failing) (hstep : task.step action = some next) :
    next.error.isSome = true ∨
      Guarded DispatchStatement.setsError DispatchStatement.firesFailure next.dispatchQueue := by
  rcases hfailing.dispatch with herror | hguarded
  · exact .inl (error_step herror hstep)
  · cases step_cases hstep with
    | enqueueImplementation hqueue => exact .inr (hguarded.tail hqueue rfl)
    | stopFetching hqueue => exact .inr (hguarded.tail hqueue rfl)
    | cancelled => exact .inl rfl
    | fireFailure hqueue => exact .inr (hguarded.tail hqueue rfl)
    | failed => exact .inl rfl
    | overflowed => exact .inr (hguarded.append ⟨rfl, .inr ⟨rfl, .inl rfl⟩⟩)
    | _ => exact .inr hguarded

theorem callback_step (hfailing : task.Failing) (hstep : task.step action = some next) :
    next.error.isSome = true ∨
      Guarded CallbackStatement.setsError CallbackStatement.firesFailure next.callbackQueue := by
  rcases hfailing.callback with herror | hguarded
  · exact .inl (error_step herror hstep)
  · have hplain : ∀ statement : CallbackStatement, statement.ofCompletion = false →
        statement.firesFailure = false := by
      intro statement hnot
      cases statement <;> first | rfl | cases hnot
    have hcompletion : ∀ data serverError rest,
        Guarded CallbackStatement.setsError CallbackStatement.firesFailure rest →
        Guarded CallbackStatement.setsError CallbackStatement.firesFailure
          (task.fetcherCompletion data serverError ++ rest) := by
      intro data serverError rest hrest
      cases serverError with
      | none => exact ⟨rfl, .inr ⟨rfl, .inr ⟨rfl, .inr ⟨rfl, .inr hrest⟩⟩⟩⟩
      | some code => exact ⟨rfl, .inr ⟨rfl, .inl rfl⟩⟩
    rcases guarded_step hplain hcompletion hguarded hstep with
      hnext | ⟨rfl, statement, rest, hqueue, hguard⟩
    · exact .inr hnext
    · left
      cases statement with
      | setError error =>
          simp only [StorageDownloadTask.step, hqueue, Option.some.injEq] at hstep
          rw [← hstep]
          rfl
      | _ => cases hguard

theorem step (hfailing : task.Failing) (hstep : task.step action = some next) :
    next.Failing where
  dispatch := hfailing.dispatch_step hstep
  callback := hfailing.callback_step hstep
  observed snapshot hmem := by
    rcases mem_of_step hstep hmem with hold | hadded
    · exact hfailing.observed snapshot hold
    · cases hadded with
      | fetcherCompletion hmem hstatement => cases ofCompletion_of_mem hstatement
      | observedFailure hfired =>
          rcases hfired with ⟨rest, hqueue⟩ | ⟨rest, hqueue⟩
          · refine hfailing.callback.resolve_right fun hguarded => ?_
            rw [hqueue] at hguarded
            cases hguarded.1
          · refine hfailing.dispatch.resolve_right fun hguarded => ?_
            rw [hqueue] at hguarded
            cases hguarded.1
  completes error hmem := by
    rcases mem_of_step hstep hmem with hold | hadded
    · exact hfailing.completes error hold
    · cases hadded with
      | fetcherCompletion hmem hstatement => cases ofCompletion_of_mem hstatement
      | completeFailure hobserved => exact hfailing.observed _ hobserved

end Failing

/-! ## The replies -/

/-- A reply is an error, or what the fetcher ended with, counted within the limit. -/
def Answers (task : StorageDownloadTask) (reply : GetDataReply) : Prop :=
  (reply.data = none ∧ reply.error.isSome = true) ∨
    reply.error = none ∧ task.Finished reply.data ∧ task.checkSizeOverflow = none ∧ task.Downloaded

/-- What is known of a task in any state that is reached. -/
structure Known (task : StorageDownloadTask) : Prop where
  delivering : task.Delivering
  failing : task.Failing
  replies : ∀ reply ∈ task.replies, task.Answers reply

theorem Known.step (hknown : task.Known) (hstep : task.step action = some next) : next.Known := by
  obtain ⟨hdelivering, hfailing, hreplies⟩ := hknown
  refine ⟨hdelivering.step hstep, hfailing.step hstep, fun reply hmem => ?_⟩
  have hkept : ∀ reply, task.Answers reply → next.Answers reply := by
    rintro reply (hfailed | ⟨herror, hfinished, hlimit, hdownloaded⟩)
    · exact .inl hfailed
    · obtain ⟨hnext, hsame⟩ := hdelivering.downloaded_step hdownloaded hstep
      exact .inr ⟨herror, hfinished.step hdelivering.started hstep, hsame.trans hlimit, hnext⟩
  refine hkept reply ?_
  cases step_cases hstep with
  | @completeSuccess rest error hqueue =>
      rcases List.mem_append.mp hmem with hmem | hadded
      · exact hreplies reply hmem
      · obtain rfl := List.mem_singleton.mp hadded
        obtain ⟨hdownloaded, hchecked⟩ := hdelivering.completes error (hqueue ▸ List.mem_cons_self)
        cases error with
        | none => exact .inr ⟨rfl, hdownloaded, hchecked.symm, hdownloaded⟩
        | some error => exact .inl ⟨rfl, rfl⟩
  | @completeFailure rest error hqueue =>
      rcases List.mem_append.mp hmem with hmem | hadded
      · exact hreplies reply hmem
      · obtain rfl := List.mem_singleton.mp hadded
        exact .inl ⟨rfl, hfailing.completes error (hqueue ▸ List.mem_cons_self)⟩
  | _ => exact hreplies reply hmem

theorem known_run {reference : StoragePath} {maxSize : Int} {actions : List DownloadAction}
    (hrun : Machine.run StorageDownloadTask.step (reference.getData maxSize) actions = some task) :
    task.Known :=
  Machine.run_invariant Known (fun _ _ _ hknown hstep => hknown.step hstep)
    ⟨delivering_getData reference maxSize, failing_getData reference maxSize,
      fun _ hmem => nomatch hmem⟩ hrun

theorem maxSize_run {reference : StoragePath} {maxSize : Int} {actions : List DownloadAction}
    (hrun : Machine.run StorageDownloadTask.step (reference.getData maxSize) actions = some task) :
    task.maxSize = maxSize := by
  refine Machine.run_invariant (fun task => task.maxSize = maxSize)
    (fun task action next hsame hstep => ?_) rfl hrun
  cases step_cases hstep <;> exact hsame

/-- What a fetcher has after a delivery. -/
def receive (data : ByteArray) : DownloadAction → ByteArray
  | .didReceiveResponse _ => ByteArray.empty
  | .didReceiveData more => data ++ more
  | _ => data

/-- What the network delivered from the last response on. -/
def received (actions : List DownloadAction) : ByteArray :=
  actions.foldl receive ByteArray.empty

theorem received_concat (actions : List DownloadAction) (action : DownloadAction) :
    received (actions ++ [action]) = receive (received actions) action :=
  List.foldl_append

/-- The data of the fetcher, which is empty before there is one. -/
def downloadedData (task : StorageDownloadTask) : Option ByteArray :=
  task.fetcher.elim (some ByteArray.empty) GTMSessionFetcher.downloadedData

theorem downloadedData_step {actions : List DownloadAction} (hstarted : task.Started)
    (hreceived : task.downloadedData = some (received actions))
    (hstep : task.step action = some next) :
    next.downloadedData = some (received (actions ++ [action])) := by
  rw [received_concat]
  cases step_cases hstep with
  | enqueueImplementation hqueue =>
      rw [downloadedData, (hstarted (hqueue ▸ List.mem_cons_self)).1] at hreceived
      exact hreceived
  | stopFetching =>
      refine Eq.trans ?_ hreceived
      cases hfetcher : task.fetcher <;> simp [downloadedData, hfetcher]
  | didReceiveResponse hfetcher =>
      simp only [downloadedData, hfetcher, Option.elim_some] at hreceived
      simp [downloadedData, receive, hreceived]
  | didReceiveNothing hempty =>
      simp [receive, hreceived, ByteArray.size_eq_zero_iff.mp hempty]
  | didReceiveData hfetcher =>
      simp only [downloadedData, hfetcher, Option.elim_some] at hreceived
      simp [downloadedData, receive, hreceived]
  | didComplete hfetcher =>
      rw [downloadedData, hfetcher] at hreceived
      exact hreceived
  | _ => exact hreceived

/-- The fetcher has all that was delivered, and nothing else. -/
theorem downloadedData_run {reference : StoragePath} {maxSize : Int}
    {actions : List DownloadAction}
    (hrun : Machine.run StorageDownloadTask.step (reference.getData maxSize) actions = some task) :
    task.downloadedData = some (received actions) :=
  Machine.run_trace_invariant (fun actions task => task.downloadedData = some (received actions))
    (fun _ _ _ _ htaken hreceived hstep =>
      downloadedData_step (known_run htaken).delivering.started hreceived hstep) rfl hrun

end StorageDownloadTask

/-- A reply is an error, or all that the network delivered before it ended, which
is empty data if the object is empty. -/
theorem getData_answers (reference : StoragePath) (maxSize : Int) (actions : List DownloadAction)
    (task : StorageDownloadTask)
    (hrun : Machine.run StorageDownloadTask.step (reference.getData maxSize) actions = some task)
    (reply : GetDataReply) (hmem : reply ∈ task.replies) :
    (reply.data = none ∧ reply.error.isSome = true) ∨
    (reply.error = none ∧ reply.data = some (StorageDownloadTask.received actions) ∧
      ∃ fetcher, task.fetcher = some fetcher ∧ fetcher.finished = true ∧
        fetcher.downloadedData = reply.data) := by
  rcases (StorageDownloadTask.known_run hrun).replies reply hmem with
    hfailed | ⟨hsucceeded, ⟨fetcher, hfetcher, hended, hdata⟩, -⟩
  · exact .inl hfailed
  · have hreceived := StorageDownloadTask.downloadedData_run hrun
    rw [StorageDownloadTask.downloadedData, hfetcher] at hreceived
    exact .inr ⟨hsucceeded, hdata.symm.trans hreceived, fetcher, hfetcher, hended, hdata⟩

/-- The transfer of an empty object. -/
def emptyObject : List DownloadAction :=
  [.dispatch, .didReceiveResponse 0, .didComplete none] ++ List.replicate 8 .callback

theorem getData_answers_emptyObject :
    ∃ task reply, Machine.run StorageDownloadTask.step
        ((StoragePath.initWith "fly" (some "empty.png")).getData 1) emptyObject = some task ∧
      reply ∈ task.replies ∧ reply.data = some ByteArray.empty := by
  have hmap : (Machine.run StorageDownloadTask.step
      ((StoragePath.initWith "fly" (some "empty.png")).getData 1) emptyObject).map (fun task =>
        task.replies.map fun reply => reply.error.isSome) = some [false] := by
    decide +kernel
  obtain ⟨task, hrun, hreplies⟩ := Option.map_eq_some_iff.mp hmap
  obtain ⟨reply, hreply, herror⟩ := List.map_eq_singleton_iff.mp hreplies
  have hmem : reply ∈ task.replies := by simp [hreply]
  refine ⟨task, reply, hrun, hmem, ?_⟩
  rcases getData_answers _ 1 _ task hrun reply hmem with ⟨-, hfailed⟩ | ⟨-, hdata, -⟩
  · simp [herror] at hfailed
  · exact hdata

end FlyEvents
