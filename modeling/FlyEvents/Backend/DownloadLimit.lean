import FlyEvents.Backend.DownloadReplies

/-! # The size limit of a download

The limit is checked against what the task has counted, and the task counts when
its fetcher reports. A report that waits when the transfer ends is not made any
more: what came in after the last one is not counted, and is handed over however
much it is. The limit holds where the reports keep up with the network.
-/

namespace FlyEvents

namespace StorageDownloadTask

variable {task next : StorageDownloadTask} {action : DownloadAction}

def sizeOf (data : Option ByteArray) : Int := (data.getD ByteArray.empty).size

/-- The transfer does not end while a report of its fetcher waits to be made. -/
def Reported (task : StorageDownloadTask) : DownloadAction → Prop
  | .didComplete _ => .receivedProgress ∉ task.callbackQueue
  | _ => True

def isReport : CallbackStatement → Bool
  | .receivedProgress => true
  | _ => false

theorem receivedProgress_mem_iff {queue : List CallbackStatement} :
    .receivedProgress ∈ queue ↔ queue.any isReport = true := by
  rw [List.any_eq_true]
  constructor
  · intro hmem
    exact ⟨_, hmem, rfl⟩
  · rintro ⟨statement, hmem, hreport⟩
    cases statement <;> first | exact hmem | cases hreport

instance (task : StorageDownloadTask) (action : DownloadAction) :
    Decidable (task.Reported action) :=
  match action with
  | .didComplete _ => decidable_of_iff _ (not_congr receivedProgress_mem_iff.symm)
  | .dispatch | .callback | .didReceiveResponse _ | .didReceiveData _ => .isTrue trivial

/-- What came in is counted, or a report is still to be made; what a fetcher
ended with is counted. -/
structure Reporting (task : StorageDownloadTask) : Prop where
  nonneg : 0 ≤ task.progress.completedUnitCount
  fetching : ∀ fetcher, task.fetcher = some fetcher → fetching fetcher = true →
    .receivedProgress ∈ task.callbackQueue ∨
      sizeOf fetcher.downloadedData ≤ task.progress.completedUnitCount
  finished : ∀ data, task.Finished data → sizeOf data ≤ task.progress.completedUnitCount

namespace Reporting

/-- A statement that is no report leaves the reports as they are. -/
theorem of_rest {statement : CallbackStatement} {rest : List CallbackStatement}
    (hreporting : task.Reporting) (hqueue : task.callbackQueue = statement :: rest)
    (hother : statement ≠ .receivedProgress) (hfetcher : next.fetcher = task.fetcher)
    (hprogress : next.progress = task.progress) (hrest : rest ⊆ next.callbackQueue) :
    next.Reporting where
  nonneg := hprogress ▸ hreporting.nonneg
  fetching fetcher hsome hfetching := by
    rw [hprogress]
    refine (hreporting.fetching fetcher (hfetcher ▸ hsome) hfetching).imp_left fun hmem => ?_
    rw [hqueue] at hmem
    exact hrest ((List.mem_cons.mp hmem).resolve_left (Ne.symm hother))
  finished data hfinished := by
    rw [hprogress]
    exact hreporting.finished data (by simpa [Finished, hfetcher] using hfinished)

theorem step (hreporting : task.Reporting) (hreported : task.Reported action)
    (hstep : task.step action = some next) : next.Reporting := by
  cases step_cases hstep with
  | enqueueImplementation =>
      refine ⟨hreporting.nonneg, fun fetcher hfetcher _ => ?_, fun data hfinished => ?_⟩
      · cases hfetcher
        exact .inr hreporting.nonneg
      · obtain ⟨fetcher, hfetcher, hended, -⟩ := hfinished
        cases hfetcher
        cases hended
  | stopFetching =>
      refine ⟨hreporting.nonneg, fun fetcher hfetcher hfetching => ?_, fun data hfinished => ?_⟩
      · obtain ⟨other, -, rfl⟩ := Option.map_eq_some_iff.mp hfetcher
        simp [StorageDownloadTask.fetching] at hfetching
      · obtain ⟨fetcher, hfetcher, hended, hdata⟩ := hfinished
        obtain ⟨other, hother, rfl⟩ := Option.map_eq_some_iff.mp hfetcher
        exact hreporting.finished data ⟨other, hother, hended, hdata⟩
  | cancelled => exact ⟨hreporting.nonneg, hreporting.fetching, hreporting.finished⟩
  | fireFailure =>
      refine ⟨hreporting.nonneg, fun fetcher hfetcher hfetching => ?_, hreporting.finished⟩
      exact (hreporting.fetching fetcher hfetcher hfetching).imp_left (List.mem_append_left _)
  | receivedProgress hqueue hfetcher hfetching =>
      refine ⟨by simp, fun other hother _ => ?_, fun data hfinished => ?_⟩
      · cases hfetcher.symm.trans hother
        exact .inr (le_refl _)
      · exact (Finished.not_fetching hfinished hfetcher hfetching).elim
  | fetched hqueue =>
      exact hreporting.of_rest hqueue (by simp) rfl rfl (List.subset_append_right _ _)
  | failed hqueue => exact hreporting.of_rest hqueue (by simp) rfl rfl (List.Subset.refl _)
  | setDownloadData hqueue => exact hreporting.of_rest hqueue (by simp) rfl rfl (List.Subset.refl _)
  | fire hqueue => exact hreporting.of_rest hqueue (by simp) rfl rfl (List.subset_append_left _ _)
  | removeAllObservers hqueue =>
      exact hreporting.of_rest hqueue (by simp) rfl rfl (List.Subset.refl _)
  | observedSuccess hqueue =>
      exact hreporting.of_rest hqueue (by simp) rfl rfl (List.subset_append_left _ _)
  | observedFailure hqueue =>
      exact hreporting.of_rest hqueue (by simp) rfl rfl (List.subset_append_left _ _)
  | overflowed hqueue => exact hreporting.of_rest hqueue (by simp) rfl rfl (List.Subset.refl _)
  | completeSuccess hqueue =>
      exact hreporting.of_rest hqueue (by simp) rfl rfl (List.Subset.refl _)
  | completeFailure hqueue =>
      exact hreporting.of_rest hqueue (by simp) rfl rfl (List.Subset.refl _)
  | idle hqueue hidle =>
      rcases hidle with ⟨rfl, hnone⟩ | ⟨⟨_, _, rfl⟩, -⟩ | ⟨_, rfl⟩ | ⟨-, ⟨_, rfl⟩ | ⟨_, rfl⟩⟩
      · refine ⟨hreporting.nonneg, fun fetcher hfetcher hfetching => ?_, hreporting.finished⟩
        rw [hnone fetcher hfetcher] at hfetching
        cases hfetching
      all_goals exact hreporting.of_rest hqueue (by simp) rfl rfl (List.Subset.refl _)
  | @didReceiveResponse _ fetcher hfetcher hfetching =>
      refine ⟨hreporting.nonneg, fun other hother _ => ?_, fun data hfinished => ?_⟩
      · obtain rfl := Option.some.inj hother
        right
        cases hdata : fetcher.downloadedData <;> simpa [sizeOf] using hreporting.nonneg
      · exact (hfinished.not_fetching rfl hfetching).elim
  | didReceiveNothing => exact hreporting
  | didReceiveData hfetcher hfetching =>
      refine ⟨hreporting.nonneg, fun other hother _ => .inl (by simp), fun data hfinished => ?_⟩
      exact (hfinished.not_fetching rfl hfetching).elim
  | didComplete hfetcher hfetching =>
      refine ⟨hreporting.nonneg, fun other hother hactive => ?_, fun data hfinished => ?_⟩
      · obtain rfl := Option.some.inj hother
        simp [StorageDownloadTask.fetching] at hactive
      · obtain ⟨other, hother, -, rfl⟩ := hfinished
        obtain rfl := Option.some.inj hother
        exact (hreporting.fetching _ hfetcher hfetching).resolve_left hreported

end Reporting

theorem reporting_getData (reference : StoragePath) (maxSize : Int) :
    (reference.getData maxSize).Reporting where
  nonneg := le_refl _
  fetching _ hfetcher := nomatch hfetcher
  finished _ hfinished := nomatch hfinished

/-- A transfer that ends before the callback queue gets to its one report. -/
def unreported (data : ByteArray) : List DownloadAction :=
  [.dispatch, .didReceiveData data, .didComplete none] ++ List.replicate 9 .callback

theorem replies_unreported (reference : StoragePath) {maxSize : Int} (hlimit : 0 ≤ maxSize)
    {data : ByteArray} (hdata : data.size ≠ 0) :
    ∃ task, Machine.run StorageDownloadTask.step (reference.getData maxSize) (unreported data) =
      some task ∧ task.replies = [{ data := some data, error := none }] := by
  have hunchecked : ¬ (0 > maxSize) := by omega
  refine Option.map_eq_some_iff.mp (?_ : Option.map StorageDownloadTask.replies _ = _)
  simp [unreported, List.replicate, Machine.run_cons, StoragePath.getData, step, runDispatch,
    runCallback, fetching, Option.filter, hdata, receivedProgress, fetcherCompletion, fire,
    observed, checkSizeOverflow, complete, hunchecked, cancel]

end StorageDownloadTask

/-- The app's limit holds if the transfer never ends while a report waits; if it
may, any data at all can be handed over. -/
theorem size_limit (reference : StoragePath) (maxSize : Int) (hlimit : 0 ≤ maxSize) :
    (∀ actions task,
      Machine.run StorageDownloadTask.step (reference.getData maxSize) actions = some task →
      Machine.Along StorageDownloadTask.step StorageDownloadTask.Reported
        (reference.getData maxSize) actions →
      ∀ reply ∈ task.replies, ∀ data, reply.data = some data → (data.size : Int) ≤ maxSize) ∧
    ∀ data : ByteArray, data.size ≠ 0 → ∃ actions task,
      Machine.run StorageDownloadTask.step (reference.getData maxSize) actions = some task ∧
      task.replies = [{ data := some data, error := none }] := by
  refine ⟨fun actions task hrun hreported reply hmem data hdata => ?_, fun data hdata => ?_⟩
  · have hreporting := Machine.run_invariant_of_along StorageDownloadTask.Reporting
      (fun _ _ _ hreporting hreported hstep => hreporting.step hreported hstep)
      (StorageDownloadTask.reporting_getData reference maxSize) hreported hrun
    rcases (StorageDownloadTask.known_run hrun).replies reply hmem with
      ⟨hnone, -⟩ | ⟨-, hfinished, hchecked, -⟩
    · rw [hnone] at hdata
      cases hdata
    · have hsize := hreporting.finished _ hfinished
      have hmax := StorageDownloadTask.maxSize_run hrun
      have hwithin : task.progress.completedUnitCount ≤ maxSize := by
        unfold StorageDownloadTask.checkSizeOverflow at hchecked
        split at hchecked
        next => cases hchecked
        next hnot =>
          rw [hmax] at hnot
          omega
      rw [hdata] at hsize
      exact le_trans hsize hwithin
  · obtain ⟨task, hrun, hreplies⟩ :=
      StorageDownloadTask.replies_unreported reference hlimit hdata
    exact ⟨_, task, hrun, hreplies⟩

/-- One byte, reported before the transfer ends. -/
def reportedByte : List DownloadAction :=
  [.dispatch, .didReceiveData ⟨#[1]⟩, .callback, .didComplete none] ++ List.replicate 9 .callback

theorem size_limit_oneByte :
    (∃ task, Machine.run StorageDownloadTask.step
        ((StoragePath.initWith "fly" (some "dj.png")).getData 1) reportedByte = some task ∧
      ∃ reply ∈ task.replies, ∃ data, reply.data = some data ∧ (data.size : Int) ≤ 1) ∧
    ∃ actions task, Machine.run StorageDownloadTask.step
        ((StoragePath.initWith "fly" (some "dj.png")).getData 0) actions = some task ∧
      task.replies = [{ data := some ⟨#[1]⟩, error := none }] := by
  have hmap : (Machine.run StorageDownloadTask.step
      ((StoragePath.initWith "fly" (some "dj.png")).getData 1) reportedByte).map (fun task =>
        task.replies.map fun reply => reply.data.isSome) = some [true] := by
    decide +kernel
  have hreported : Machine.Along StorageDownloadTask.step StorageDownloadTask.Reported
      ((StoragePath.initWith "fly" (some "dj.png")).getData 1) reportedByte := by
    decide +kernel
  obtain ⟨task, hrun, hreplies⟩ := Option.map_eq_some_iff.mp hmap
  obtain ⟨reply, hreply, hsome⟩ := List.map_eq_singleton_iff.mp hreplies
  obtain ⟨data, hdata⟩ := Option.isSome_iff_exists.mp hsome
  have hmem : reply ∈ task.replies := by simp [hreply]
  refine ⟨⟨task, hrun, reply, hmem, data, hdata, ?_⟩, ?_⟩
  · exact (size_limit _ 1 (by decide)).1 _ task hrun hreported reply hmem data hdata
  · exact (size_limit _ 0 (by decide)).2 ⟨#[1]⟩ (by decide)

end FlyEvents
