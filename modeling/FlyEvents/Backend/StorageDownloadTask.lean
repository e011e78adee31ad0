import FlyEvents.Backend.StoragePath
import FlyEvents.ViewModels.ServicesViewModel

/-! # Downloads from the storage of the backend

`getData(maxSize:)` starts a task of the storage library and observes it. Three
things go on side by side: the queue of the storage, the callback queue, and the
network that the task's fetcher listens to. The queues are serial, and hold the
statements of the blocks put on them one by one, so that the blocks of one queue
can be interrupted by the other anywhere.

The app keeps no task, so none is paused, resumed or cancelled from outside, and
none gets another observer. The fetcher retries by itself: a new response begins
a new attempt.
-/

namespace FlyEvents

/-- The counts of `Progress`. -/
structure Progress where
  totalUnitCount : Int := 0
  completedUnitCount : Int := 0

/-- The statuses that the observers of `getData` wait for. -/
inductive StorageTaskStatus
  | progress
  | success
  | failure
  deriving DecidableEq

/-- What an observer of `getData` looks at, beside the task. -/
structure StorageTaskSnapshot where
  error : Option BackendError

/-- The fetcher: what the network delivered so far, and whether it ended or was
stopped. Either way its progress block is released. A fetch begins with empty data. -/
structure GTMSessionFetcher where
  expectedContentLength : Option Int := none
  downloadedData : Option ByteArray := none
  finished : Bool := false
  userStoppedFetching : Bool := false

/-- The statements of the blocks on the queue of the storage. -/
inductive DispatchStatement
  | enqueueImplementation
  | stopFetching
  | setError (error : BackendError)
  | fireFailure

/-- The statements of the blocks on the callback queue. The fetcher calls its
progress block and its completion handler there, and so are the observers
called, whose own blocks call the completion of `getData`. -/
inductive CallbackStatement
  | receivedProgress
  | fetched (data : Option ByteArray) (serverError : Option Int)
  | setError (error : BackendError)
  | setDownloadData (data : Option ByteArray)
  | fire (status : StorageTaskStatus)
  | removeAllObservers
  | observed (status : StorageTaskStatus) (snapshot : StorageTaskSnapshot)
  | completeSuccess (error : Option BackendError)
  | completeFailure (error : Option BackendError)

/-- A task, with the replies that the completion of `getData` was called with. -/
structure StorageDownloadTask where
  reference : StoragePath
  maxSize : Int
  progress : Progress := {}
  downloadData : Option ByteArray := none
  error : Option BackendError := none
  observers : List StorageTaskStatus := []
  /-- The completion is still there. -/
  completionData : Bool := true
  fetcher : Option GTMSessionFetcher := none
  dispatchQueue : List DispatchStatement := []
  callbackQueue : List CallbackStatement := []
  replies : List GetDataReply := []

/-- The next statement of a queue, or something that the network delivers. -/
inductive DownloadAction
  | dispatch
  | callback
  | didReceiveResponse (expectedContentLength : Int)
  | didReceiveData (data : ByteArray)
  | didComplete (serverError : Option Int)

/-- `StorageErrorCode.error(withServerError:)`, by the code of the error. -/
def StoragePath.serverError (reference : StoragePath) : Int → BackendError
  | 401 => ⟨"User is not authenticated, please authenticate using Firebase " ++
      "Authentication and try again."⟩
  | 402 => ⟨"Quota for bucket " ++ reference.bucket ++
      " exceeded, please view quota on firebase.google.com."⟩
  | 403 => ⟨"User does not have permission to access gs://" ++ reference.bucket ++ "/" ++
      reference.object.getD "<object-entity-internal-error>" ++ "."⟩
  | 404 => ⟨"Object " ++ reference.object.getD "<object-entity-internal-error>" ++
      " does not exist."⟩
  | _ => ⟨"An unknown error occurred, please check the server response."⟩

namespace StorageDownloadTask

/-- `StorageErrorCode.error(withCode: .downloadSizeExceeded)` -/
def downloadSizeExceeded (totalSize maxAllowedSize : Int) : BackendError :=
  ⟨"Attempted to download object with size of " ++ toString totalSize ++ " bytes, " ++
    "which exceeds the maximum size of " ++ toString maxAllowedSize ++ " bytes. " ++
    "Consider raising the maximum download size, or using StorageReference.write"⟩

variable (task : StorageDownloadTask)

/-- The task has counted more than the caller allows. -/
def checkSizeOverflow : Option BackendError :=
  if task.progress.totalUnitCount > task.maxSize ∨
      task.progress.completedUnitCount > task.maxSize then
    some (downloadSizeExceeded task.progress.totalUnitCount task.maxSize)
  else none

def snapshot : StorageTaskSnapshot where
  error := task.error

/-- `fire(for:snapshot:)`: the observers of the status are called later. -/
def fire (status : StorageTaskStatus) : StorageDownloadTask :=
  if status ∈ task.observers then
    { task with callbackQueue := task.callbackQueue ++ [.observed status task.snapshot] }
  else task

/-- `cancel(withError:)` -/
def cancel (error : BackendError) : StorageDownloadTask :=
  { task with dispatchQueue :=
      task.dispatchQueue ++ [.stopFetching, .setError error, .fireFailure] }

/-- The completion of `getData` is called, and then forgotten. -/
def complete (reply : GetDataReply) : StorageDownloadTask :=
  if task.completionData then
    { task with completionData := false, replies := task.replies ++ [reply] }
  else task

/-- The observers that `getData` adds. -/
def observed (snapshot : StorageTaskSnapshot) : StorageTaskStatus → StorageDownloadTask
  | .success =>
      { task with callbackQueue := task.callbackQueue ++ [.completeSuccess task.checkSizeOverflow] }
  | .failure =>
      { task with callbackQueue := task.callbackQueue ++ [.completeFailure snapshot.error] }
  | .progress =>
      match task.checkSizeOverflow with
      | some error => task.cancel error
      | none => task

/-- The progress block of the fetcher, which is released when the fetch ends. -/
def receivedProgress (fetcher : GTMSessionFetcher) : StorageDownloadTask :=
  if fetcher.userStoppedFetching ∨ fetcher.finished then task
  else { task with progress := {
      completedUnitCount := (fetcher.downloadedData.getD ByteArray.empty).size
      totalUnitCount := fetcher.expectedContentLength.getD task.progress.totalUnitCount }
    : StorageDownloadTask }.fire .progress

/-- What the completion handler of the fetcher goes on to do. -/
def fetcherCompletion (data : Option ByteArray) : Option Int → List CallbackStatement
  | some code => [.fire .progress, .setError (task.reference.serverError code), .fire .failure,
      .removeAllObservers]
  | none => [.fire .progress, .setDownloadData data, .fire .success, .removeAllObservers]

/-- A statement of the queue of the storage. -/
def runDispatch : DispatchStatement → StorageDownloadTask
  | .enqueueImplementation => { task with
      fetcher := some { downloadedData := some ByteArray.empty } }
  | .stopFetching => { task with
      fetcher := task.fetcher.map (fun fetcher => { fetcher with userStoppedFetching := true }) }
  | .setError error => { task with error := some error }
  | .fireFailure => task.fire .failure

/-- A statement of the callback queue. -/
def runCallback : CallbackStatement → StorageDownloadTask
  | .receivedProgress =>
      match task.fetcher with
      | some fetcher => task.receivedProgress fetcher
      | none => task
  | .fetched data serverError =>
      -- A fetcher that was stopped meanwhile calls nothing any more.
      if task.fetcher.any GTMSessionFetcher.userStoppedFetching then task
      else { task with callbackQueue :=
        task.fetcherCompletion data serverError ++ task.callbackQueue }
  | .setError error => { task with error := some error }
  | .setDownloadData data => { task with downloadData := data.or task.downloadData }
  | .fire status => task.fire status
  | .removeAllObservers => { task with observers := [] }
  | .observed status snapshot => task.observed snapshot status
  | .completeSuccess error => task.complete
      { data := if error.isNone then task.downloadData else none, error }
  | .completeFailure error => task.complete { data := none, error }

/-- The network still delivers to the fetcher. -/
def fetching (fetcher : GTMSessionFetcher) : Bool :=
  !fetcher.finished && !fetcher.userStoppedFetching

/-- One statement of a queue, or one delivery of the network. -/
def step : Machine StorageDownloadTask DownloadAction
  | task, .dispatch =>
      match task.dispatchQueue with
      | statement :: rest => some ({ task with dispatchQueue := rest }.runDispatch statement)
      | [] => none
  | task, .callback =>
      match task.callbackQueue with
      | statement :: rest => some ({ task with callbackQueue := rest }.runCallback statement)
      | [] => none
  | task, .didReceiveResponse expectedContentLength => do
      let fetcher ← task.fetcher.filter fetching
      return { task with fetcher := some { fetcher with
        expectedContentLength := some expectedContentLength
        downloadedData := fetcher.downloadedData.map (fun _ => ByteArray.empty) } }
  | task, .didReceiveData data => do
      let fetcher ← task.fetcher.filter fetching
      if data.size = 0 then return task
      return { task with
        fetcher := some { fetcher with
          downloadedData := some (fetcher.downloadedData.getD ByteArray.empty ++ data) }
        callbackQueue := task.callbackQueue ++ [.receivedProgress] }
  | task, .didComplete serverError => do
      let fetcher ← task.fetcher.filter fetching
      return { task with
        fetcher := some { fetcher with finished := true }
        callbackQueue := task.callbackQueue ++ [.fetched fetcher.downloadedData serverError] }

/-- The call of the observer that a firing puts on the callback queue. -/
def fired (status : StorageTaskStatus) : List CallbackStatement :=
  if status ∈ task.observers then [.observed status task.snapshot] else []

theorem fire_eq (status : StorageTaskStatus) :
    task.fire status = { task with callbackQueue := task.callbackQueue ++ task.fired status } := by
  unfold fire fired
  split <;> simp

/-- What a step can do. The statements that find nothing to do are put together. -/
inductive Stepped : DownloadAction → StorageDownloadTask → Prop
  | enqueueImplementation {rest} (hqueue : task.dispatchQueue = .enqueueImplementation :: rest) :
      Stepped .dispatch { task with
        dispatchQueue := rest, fetcher := some { downloadedData := some ByteArray.empty } }
  | stopFetching {rest} (hqueue : task.dispatchQueue = .stopFetching :: rest) :
      Stepped .dispatch { task with
        dispatchQueue := rest
        fetcher := task.fetcher.map (fun fetcher => { fetcher with userStoppedFetching := true }) }
  | cancelled {rest error} (hqueue : task.dispatchQueue = .setError error :: rest) :
      Stepped .dispatch { task with dispatchQueue := rest, error := some error }
  | fireFailure {rest} (hqueue : task.dispatchQueue = .fireFailure :: rest) :
      Stepped .dispatch { task with
        dispatchQueue := rest, callbackQueue := task.callbackQueue ++ task.fired .failure }
  | receivedProgress {rest fetcher} (hqueue : task.callbackQueue = .receivedProgress :: rest)
      (hfetcher : task.fetcher = some fetcher) (hfetching : fetching fetcher = true) :
      Stepped .callback { task with
        callbackQueue := rest ++ task.fired .progress
        progress := {
          completedUnitCount := (fetcher.downloadedData.getD ByteArray.empty).size
          totalUnitCount := fetcher.expectedContentLength.getD task.progress.totalUnitCount } }
  | fetched {rest data serverError}
      (hqueue : task.callbackQueue = .fetched data serverError :: rest)
      (hfetching : task.fetcher.any GTMSessionFetcher.userStoppedFetching = false) :
      Stepped .callback { task with
        callbackQueue := task.fetcherCompletion data serverError ++ rest }
  | failed {rest error} (hqueue : task.callbackQueue = .setError error :: rest) :
      Stepped .callback { task with callbackQueue := rest, error := some error }
  | setDownloadData {rest data} (hqueue : task.callbackQueue = .setDownloadData data :: rest) :
      Stepped .callback { task with
        callbackQueue := rest, downloadData := data.or task.downloadData }
  | fire {rest status} (hqueue : task.callbackQueue = .fire status :: rest) :
      Stepped .callback { task with callbackQueue := rest ++ task.fired status }
  | removeAllObservers {rest} (hqueue : task.callbackQueue = .removeAllObservers :: rest) :
      Stepped .callback { task with callbackQueue := rest, observers := [] }
  | observedSuccess {rest snapshot}
      (hqueue : task.callbackQueue = .observed .success snapshot :: rest) :
      Stepped .callback { task with
        callbackQueue := rest ++ [.completeSuccess task.checkSizeOverflow] }
  | observedFailure {rest snapshot}
      (hqueue : task.callbackQueue = .observed .failure snapshot :: rest) :
      Stepped .callback { task with callbackQueue := rest ++ [.completeFailure snapshot.error] }
  | overflowed {rest snapshot error}
      (hqueue : task.callbackQueue = .observed .progress snapshot :: rest)
      (hoverflow : task.checkSizeOverflow = some error) :
      Stepped .callback { task with
        callbackQueue := rest
        dispatchQueue := task.dispatchQueue ++ [.stopFetching, .setError error, .fireFailure] }
  | completeSuccess {rest error} (hqueue : task.callbackQueue = .completeSuccess error :: rest)
      (hcompletion : task.completionData = true) :
      Stepped .callback { task with
        callbackQueue := rest, completionData := false
        replies := task.replies ++
          [{ data := if error.isNone then task.downloadData else none, error }] }
  | completeFailure {rest error} (hqueue : task.callbackQueue = .completeFailure error :: rest)
      (hcompletion : task.completionData = true) :
      Stepped .callback { task with
        callbackQueue := rest, completionData := false
        replies := task.replies ++ [{ data := none, error }] }
  | idle {statement rest} (hqueue : task.callbackQueue = statement :: rest)
      (hidle : (statement = .receivedProgress ∧
          ∀ fetcher, task.fetcher = some fetcher → fetching fetcher = false) ∨
        ((∃ data serverError, statement = .fetched data serverError) ∧
          task.fetcher.any GTMSessionFetcher.userStoppedFetching = true) ∨
        (∃ snapshot, statement = .observed .progress snapshot) ∨ task.completionData = false ∧
          ((∃ error, statement = .completeSuccess error) ∨
            ∃ error, statement = .completeFailure error)) :
      Stepped .callback { task with callbackQueue := rest }
  | didReceiveResponse {expectedContentLength fetcher} (hfetcher : task.fetcher = some fetcher)
      (hfetching : fetching fetcher = true) :
      Stepped (.didReceiveResponse expectedContentLength) { task with fetcher := some { fetcher with
        expectedContentLength := some expectedContentLength
        downloadedData := fetcher.downloadedData.map (fun _ => ByteArray.empty) } }
  | didReceiveNothing {data} (hempty : data.size = 0) : Stepped (.didReceiveData data) task
  | didReceiveData {data fetcher} (hfetcher : task.fetcher = some fetcher)
      (hfetching : fetching fetcher = true) :
      Stepped (.didReceiveData data) { task with
        fetcher := some { fetcher with
          downloadedData := some (fetcher.downloadedData.getD ByteArray.empty ++ data) }
        callbackQueue := task.callbackQueue ++ [.receivedProgress] }
  | didComplete {serverError fetcher} (hfetcher : task.fetcher = some fetcher)
      (hfetching : fetching fetcher = true) :
      Stepped (.didComplete serverError) { task with
        fetcher := some { fetcher with finished := true }
        callbackQueue := task.callbackQueue ++ [.fetched fetcher.downloadedData serverError] }

variable {task}

theorem exists_of_filter_eq_some {fetcher : GTMSessionFetcher}
    (hfilter : task.fetcher.filter fetching = some fetcher) :
    task.fetcher = some fetcher ∧ fetching fetcher = true := Option.filter_eq_some_iff.mp hfilter

theorem stepped_dispatch {statement : DispatchStatement} {rest : List DispatchStatement}
    (hqueue : task.dispatchQueue = statement :: rest) :
    task.Stepped .dispatch ({ task with dispatchQueue := rest }.runDispatch statement) := by
  cases statement with
  | enqueueImplementation => exact .enqueueImplementation hqueue
  | stopFetching => exact .stopFetching hqueue
  | setError error => exact .cancelled hqueue
  | fireFailure =>
      rw [runDispatch, fire_eq]
      exact .fireFailure hqueue

theorem stepped_callback {statement : CallbackStatement} {rest : List CallbackStatement}
    (hqueue : task.callbackQueue = statement :: rest) :
    task.Stepped .callback ({ task with callbackQueue := rest }.runCallback statement) := by
  cases statement with
  | receivedProgress =>
      simp only [runCallback]
      split
      next fetcher hfetcher =>
        unfold receivedProgress
        split
        next hended =>
          refine .idle hqueue (.inl ⟨rfl, fun other hother => ?_⟩)
          obtain rfl := Option.some.inj (hfetcher.symm.trans hother)
          simpa [fetching, imp_iff_not_or, or_comm] using hended
        next hactive =>
          rw [fire_eq]
          exact .receivedProgress hqueue hfetcher (by simpa [fetching, and_comm] using hactive)
      next hnone =>
        refine .idle hqueue (.inl ⟨rfl, fun fetcher hfetcher => ?_⟩)
        simp [hfetcher] at hnone
  | fetched data serverError =>
      simp only [runCallback]
      split
      next hstopped => exact .idle hqueue (.inr (.inl ⟨⟨data, serverError, rfl⟩, hstopped⟩))
      next hactive => exact .fetched hqueue (Bool.not_eq_true _ ▸ hactive)
  | setError error => exact .failed hqueue
  | setDownloadData data => exact .setDownloadData hqueue
  | fire status =>
      rw [runCallback, fire_eq]
      exact .fire hqueue
  | removeAllObservers => exact .removeAllObservers hqueue
  | observed status snapshot =>
      cases status with
      | success => exact .observedSuccess hqueue
      | failure => exact .observedFailure hqueue
      | progress =>
          simp only [runCallback, observed]
          split
          next error hoverflow => exact .overflowed hqueue hoverflow
          next => exact .idle hqueue (.inr (.inr (.inl ⟨snapshot, rfl⟩)))
  | completeSuccess error =>
      simp only [runCallback, complete]
      split
      next hcompletion => exact .completeSuccess hqueue hcompletion
      next hanswered =>
        exact .idle hqueue (.inr (.inr (.inr ⟨Bool.not_eq_true _ ▸ hanswered, .inl ⟨error, rfl⟩⟩)))
  | completeFailure error =>
      simp only [runCallback, complete]
      split
      next hcompletion => exact .completeFailure hqueue hcompletion
      next hanswered =>
        exact .idle hqueue (.inr (.inr (.inr ⟨Bool.not_eq_true _ ▸ hanswered, .inr ⟨error, rfl⟩⟩)))

theorem step_cases {next : StorageDownloadTask} {action : DownloadAction}
    (hstep : task.step action = some next) : task.Stepped action next := by
  cases action with
  | dispatch =>
      simp only [step] at hstep
      split at hstep
      next statement rest hqueue =>
        cases hstep
        exact stepped_dispatch hqueue
      next => cases hstep
  | callback =>
      simp only [step] at hstep
      split at hstep
      next statement rest hqueue =>
        cases hstep
        exact stepped_callback hqueue
      next => cases hstep
  | didReceiveResponse expectedContentLength =>
      obtain ⟨fetcher, hfetcher, hstep⟩ := Option.bind_eq_some_iff.mp hstep
      cases hstep
      obtain ⟨hfetcher, hfetching⟩ := exists_of_filter_eq_some hfetcher
      exact .didReceiveResponse hfetcher hfetching
  | didReceiveData data =>
      obtain ⟨fetcher, hfetcher, hstep⟩ := Option.bind_eq_some_iff.mp hstep
      obtain ⟨hfetcher, hfetching⟩ := exists_of_filter_eq_some hfetcher
      split at hstep
      next hempty =>
        cases hstep
        exact .didReceiveNothing hempty
      next =>
        cases hstep
        exact .didReceiveData hfetcher hfetching
  | didComplete serverError =>
      obtain ⟨fetcher, hfetcher, hstep⟩ := Option.bind_eq_some_iff.mp hstep
      cases hstep
      obtain ⟨hfetcher, hfetching⟩ := exists_of_filter_eq_some hfetcher
      exact .didComplete hfetcher hfetching

end StorageDownloadTask

/-- `getData(maxSize:)`: the task with its observers, put on the queue. -/
def StoragePath.getData (reference : StoragePath) (maxSize : Int) : StorageDownloadTask where
  reference
  maxSize
  observers := [.success, .failure, .progress]
  dispatchQueue := [.enqueueImplementation]

end FlyEvents
