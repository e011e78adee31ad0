import FlyEvents.Backend.DownloadReplies
import FlyEvents.Backend.ImageDownloads
import FlyEvents.ViewModels.CatalogueRuns

/-! # The catalogue load over its downloads

The loop of `populateServicesModels` with the downloads that it starts. The
callbacks are called by the tasks of the storage library, and nothing is taken
for granted about how often.
-/

namespace FlyEvents

variable {Image Character : Type} [DecidableEq Character]

open ServicesViewModel

/-- The downloads of the catalogue, of at most 1 MiB each. -/
def downloadTasks (storage : Storage Character) :
    TaskGroup.Runner Download StorageDownloadTask DownloadAction GetDataReply :=
  imageTasks storage (1 * 1024 * 1024)
    fun download => download.service.imageURL

/-- `populateServicesModels`, whose callbacks take the reply of their download. -/
def populatingReplied (platform : Platform Image) :
    TaskGroup.RepliedProgram (ServiceOptions × Nat) Download GetDataReply (Loading Image) where
  start := (populateServicesModels platform fun _ => { data := none, error := none }).start
  callback download reply := (populateServicesModels platform fun _ => reply).callback download
  notify := (populateServicesModels platform fun _ => { data := none, error := none }).notify

/-- A call of `populateServicesModels` in progress, with its downloads. -/
abbrev Downloading (Image : Type) :=
  TaskGroup.Running (ServiceOptions × Nat) Download StorageDownloadTask (Loading Image)

/-- `populateServicesModels` called with a list of services. -/
def ServicesViewModel.downloading (viewModel : ServicesViewModel Image)
    (services : List ServiceOptions) : Downloading Image :=
  TaskGroup.Runner.begin services.zipIdx { viewModel, completions := [] }

/-- The call in a process that ends at an address that is not accepted. -/
def downloadingProcess (platform : Platform Image) (storage : Storage Character) :
    Machine (Option (Downloading Image)) (TaskGroup.RunningAction DownloadAction) :=
  (downloadTasks storage).process (populatingReplied platform)

variable (storage : Storage Character)

/-- The replies of the downloads, by the numbers of their options. -/
def Downloading.getData (load : Downloading Image) : Nat → GetDataReply :=
  (downloadTasks storage).replyFor Download.position
    { data := none, error := none } load

theorem downloadTasks_repliesOnce :
    (downloadTasks storage).RepliesOnce StorageDownloadTask.Reached :=
  imageTasks_repliesOnce

variable {storage} {platform : Platform Image}
  {viewModel : ServicesViewModel Image} {services : List ServiceOptions}
  {actions : List (TaskGroup.RunningAction DownloadAction)} {load : Downloading Image}

theorem positions_sublist (platform : Platform Image) (numbered : List (ServiceOptions × Nat)) :
    ((numbered.filterMap (populatingReplied platform).start).map Download.position).Sublist
      (numbered.map Prod.snd) := by
  induction numbered with
  | nil => exact List.Sublist.slnil
  | cons service rest ih =>
      rw [List.filterMap_cons]
      split
      next => exact ih.cons _
      next download hstart =>
        obtain ⟨branch, -, rfl⟩ := Option.map_eq_some_iff.mp hstart
        exact ih.cons_cons _

/-- The numbers of the started downloads differ. -/
theorem nodup_positions
    (hrun : ((downloadTasks storage).running
      (populatingReplied platform)).run (viewModel.downloading services) actions = some load) :
    (load.tasks.map fun entry => entry.1.position).Nodup := by
  have hlaunched := congrArg (List.map Download.position) (TaskGroup.Runner.launched_run hrun)
  have hnodup : (services.zipIdx.map Prod.snd).Nodup := by
    rw [List.zipIdx_map_snd]
    exact List.nodup_range'
  have hstarted := (positions_sublist platform services.zipIdx).nodup hnodup
  rw [← hlaunched, List.map_append, List.map_map] at hstarted
  exact (List.nodup_append.mp hstarted).1

/-- The group of a load runs as if given the replies of its downloads. -/
theorem exists_populating_of_downloading
    (hrun : ((downloadTasks storage).running
      (populatingReplied platform)).run (viewModel.downloading services) actions = some load) :
    (∀ entry ∈ load.tasks, entry.2.Reached) ∧
    ∃ taken, (populateServicesModels platform
      (load.getData storage)).step.run (viewModel.populating services) taken =
        some ((downloadTasks storage).config load) := by
  have honce := downloadTasks_repliesOnce storage
  obtain ⟨hreached, htaken⟩ := honce.exists_run hrun
  exact ⟨hreached, htaken _ (honce.gave_replyFor hreached (nodup_positions hrun) _)⟩

/-- The completion is called by the notify block. -/
theorem completions_of_downloading
    (hrun : ((downloadTasks storage).running
      (populatingReplied platform)).run (viewModel.downloading services) actions = some load) :
    load.store.completions = if load.phase = .finished then [true] else [] := by
  obtain ⟨-, taken, htaken⟩ := exists_populating_of_downloading hrun
  obtain ⟨delivered, hinvariant⟩ := (populateServicesModels platform
    (load.getData storage)).invariant_run htaken
  exact populating_completions platform _ hinvariant

theorem finished_of_completed
    (hrun : ((downloadTasks storage).running
      (populatingReplied platform)).run (viewModel.downloading services) actions = some load)
    (hcompleted : load.store.completions ≠ []) : load.phase = .finished := by
  by_contra hnot
  exact hcompleted (by rw [completions_of_downloading hrun, if_neg hnot])

/-- A completed load shows the catalogue of what the downloads replied. -/
theorem showsCatalogue_of_completed
    (hrun : ((downloadTasks storage).running
      (populatingReplied platform)).run (({} : ServicesViewModel Image).downloading services)
        actions = some load)
    (hcompleted : load.store.completions ≠ []) :
    ShowsCatalogue platform (platform.image (load.getData storage)) services
      load.store.viewModel.servicesSections := by
  obtain ⟨-, taken, htaken⟩ := exists_populating_of_downloading hrun
  obtain ⟨downloads, hperm, hstore⟩ :=
    populating_finished platform _ htaken (finished_of_completed hrun hcompleted)
  have hstore : load.store = _ := hstore
  rw [hstore]
  exact loaded_showsCatalogue platform _ hperm

/-- What a started load comes to. The process ends only at an address that is
not accepted. While it has not ended, the steps are bounded by the options and
the deliveries of the networks; when nothing is left to do, the load has
completed; and a completed load has heard from every download once, and shows
the catalogue of what the downloads replied. -/
theorem catalogue_of_downloads (platform : Platform Image) (storage : Storage Character)
    (services : List ServiceOptions) (actions : List (TaskGroup.RunningAction DownloadAction))
    (process : Option (Downloading Image))
    (hrun : (downloadingProcess platform storage).run
      (some (({} : ServicesViewModel Image).downloading services)) actions = some process) :
    (process = none → ∃ option ∈ services, (Service.ofName? option.service).isSome = true ∧
      storage.referenceForURL option.imageURL = none) ∧
    ∀ load, process = some load →
      actions.length ≤ 2 * services.length + 2 + 14 * deliveries actions ∧
      (load.store.completions = [] ∨ load.store.completions = [true]) ∧
      ((downloadingProcess platform storage).Halted (some load) →
        load.store.completions = [true]) ∧
      (load.store.completions ≠ [] →
        (∀ entry ∈ load.tasks, entry.2.replies.length = 1) ∧
        ShowsCatalogue platform (platform.image (load.getData storage))
          services load.store.viewModel.servicesSections) := by
  constructor
  · rintro rfl
    obtain ⟨⟨option, position⟩, hmem, download, hstart, hlaunch⟩ :=
      TaskGroup.Runner.exists_of_ended hrun
    obtain ⟨branch, hbranch, rfl⟩ := Option.map_eq_some_iff.mp hstart
    exact ⟨option, List.fst_mem_of_mem_zipIdx hmem, by simp [hbranch],
      Option.map_eq_none_iff.mp hlaunch⟩
  · rintro load rfl
    obtain ⟨hplain, -⟩ := Machine.run_of_ending_run hrun
    obtain ⟨hreached, taken, htaken⟩ := exists_populating_of_downloading hplain
    obtain ⟨delivered, hinvariant⟩ := (populateServicesModels platform
      (load.getData storage)).invariant_run htaken
    have hcompletions := completions_of_downloading hplain
    have honce := downloadTasks_repliesOnce storage
    refine ⟨?_, ?_, fun hhalted => ?_, fun hcompleted => ?_⟩
    · have hlength := running_length_le hplain
      simpa using hlength
    · rw [hcompletions]
      split
      · exact .inr rfl
      · exact .inl rfl
    · rw [hcompletions, if_pos]
      exact TaskGroup.Program.finished_of_halted _ hinvariant
        (honce.halted_config hreached hhalted _)
    · have hdrained := hinvariant.drained (finished_of_completed hplain hcompleted)
      exact ⟨honce.replied_of_drained hreached hdrained,
        showsCatalogue_of_completed hplain hcompleted⟩

/-- A discjockey and a bar with picture addresses. -/
def addressed : List ServiceOptions :=
  [⟨"Ana", 300, "wedding", "DJ", "gs://fly/dj/1.png", "1"⟩,
    ⟨"Club", 50, "wedding", "BAR", "gs://fly/bar/2.png", "2"⟩]

/-- The loop starts the second download while the first one is under way, and
their deliveries and callbacks take turns. -/
def addressedRun : List (TaskGroup.RunningAction DownloadAction) :=
  [.iterate, .task 0 .dispatch, .iterate, .register, .task 1 .dispatch,
    .task 1 (.didReceiveData ⟨#[1]⟩), .task 0 (.didReceiveData ⟨#[1]⟩),
    .task 1 (.didComplete none), .task 0 (.didComplete none)] ++
  (List.replicate 9 [.task 1 .callback, .task 0 .callback]).flatten ++ [.notify]

theorem catalogue_of_downloads_addressed :
    ∃ load, (downloadingProcess Platform.plain (Storage.ofBucket "fly")).run
        (some (({} : ServicesViewModel Unit).downloading addressed)) addressedRun =
          some (some load) ∧
      load.tasks.length = 2 ∧ (∀ entry ∈ load.tasks, entry.2.replies.length = 1) ∧
      ShowsCatalogue Platform.plain (Platform.plain.image (load.getData (Storage.ofBucket "fly")))
        addressed load.store.viewModel.servicesSections := by
  obtain ⟨load, hrun, hcompleted, htasks⟩ :
      ∃ load, (downloadingProcess Platform.plain (Storage.ofBucket "fly")).run
          (some (({} : ServicesViewModel Unit).downloading addressed)) addressedRun =
            some (some load) ∧
        load.store.completions = [true] ∧ load.tasks.length = 2 := ⟨_, rfl, rfl, rfl⟩
  obtain ⟨-, hload⟩ := catalogue_of_downloads Platform.plain (Storage.ofBucket "fly") addressed
    addressedRun _ hrun
  exact ⟨load, hrun, htasks, (hload load rfl).2.2.2 (by simp [hcompleted])⟩

theorem downloadImage_eq_some {reply : GetDataReply} {picture : Image}
    (himage : downloadImage platform reply = some picture) :
    reply.error = none ∧ ∃ data, reply.data = some data ∧ platform.uiImage data = some picture := by
  unfold downloadImage at himage
  split at himage
  next => cases himage
  next herror =>
    split at himage
    next data hdata => exact ⟨herror, data, hdata, himage⟩
    next => cases himage

/-- A reply with data is one that a download gave. -/
theorem exists_of_getData {position : Nat} {data : ByteArray}
    (hdata : (load.getData storage position).data = some data) :
    ∃ entry ∈ load.tasks, entry.1.position = position ∧
      load.getData storage position ∈ entry.2.replies := by
  unfold Downloading.getData TaskGroup.Runner.replyFor at hdata ⊢
  split at hdata
  next entry hfound =>
    have hposition : entry.1.position = position := by simpa using List.find?_some hfound
    refine ⟨entry, List.mem_of_find?_eq_some hfound, hposition, ?_⟩
    cases hreplies : ((downloadTasks storage).replies entry.2).head? with
    | none => simp [hreplies] at hdata
    | some reply => exact List.mem_of_mem_head? hreplies
  next => cases hdata

/-- The option of a started download is the one at its number. -/
theorem service_of_position
    (hrun : ((downloadTasks storage).running
      (populatingReplied platform)).run (viewModel.downloading services) actions = some load)
    {entry : Download × StorageDownloadTask} (hmem : entry ∈ load.tasks) :
    services[entry.1.position]? = some entry.1.service := by
  have hstarted : entry.1 ∈ services.zipIdx.filterMap (populatingReplied platform).start := by
    rw [← TaskGroup.Runner.launched_run hrun]
    exact List.mem_append_left _ (List.mem_map_of_mem hmem)
  obtain ⟨⟨option, position⟩, hoption, hstart⟩ := List.mem_filterMap.mp hstarted
  obtain ⟨branch, -, heq⟩ := Option.map_eq_some_iff.mp hstart
  rw [← heq]
  exact List.mk_mem_zipIdx_iff_getElem?.mp hoption

/-- Every picture that is shown was decoded from all that a fetcher had when it
ended, and is shown with the option to whose address that fetcher went. -/
theorem shown_pictures_downloaded (platform : Platform Image) (storage : Storage Character)
    (services : List ServiceOptions) (actions : List (TaskGroup.RunningAction DownloadAction))
    (load : Downloading Image)
    (hrun : (downloadingProcess platform storage).run
      (some (({} : ServicesViewModel Image).downloading services)) actions = some (some load))
    (hcompleted : load.store.completions ≠ []) (service : Service)
    (options : List (ServiceOptionModel Image))
    (hshown : load.store.viewModel.servicesSections[service.sectionIndex]? = some options)
    (model : ServiceOptionModel Image) (hmem : model ∈ options) :
    ∃ entry ∈ load.tasks, ∃ fetcher data picture,
      entry.2.fetcher = some fetcher ∧ fetcher.finished = true ∧
      fetcher.downloadedData = some data ∧ platform.uiImage data = some picture ∧
      storage.referenceForURL entry.1.service.imageURL =
        some entry.2.reference ∧
      entry.1.service ∈ services ∧ model = entry.1.service.model picture := by
  obtain ⟨hplain, -⟩ := Machine.run_of_ending_run hrun
  obtain ⟨hreached, -⟩ := exists_populating_of_downloading hplain
  have hcatalogue := showsCatalogue_of_completed hplain hcompleted
  obtain ⟨shown, hsection, hperm⟩ := hcatalogue.exact service
  obtain rfl : options = shown := Option.some.inj (hshown.symm.trans hsection)
  obtain ⟨option, position, picture, hoption, -, hpicture, rfl⟩ :=
    mem_published_iff.mp (hperm.mem_iff.mp hmem)
  obtain ⟨-, data, hdata, hdecoded⟩ := downloadImage_eq_some hpicture
  obtain ⟨entry, hentry, hposition, hreply⟩ := exists_of_getData hdata
  have hservice : some option = some entry.1.service := by
    rw [← service_of_position hplain hentry, hposition]
    exact (List.mk_mem_zipIdx_iff_getElem?.mp hoption).symm
  obtain rfl := Option.some.inj hservice
  obtain ⟨reference, maxSize, steps, hsteps⟩ := hreached entry hentry
  rcases (StorageDownloadTask.known_run hsteps).replies _ hreply with
    ⟨hnone, -⟩ | ⟨-, ⟨fetcher, hfetcher, hended, hall⟩, -⟩
  · rw [hnone] at hdata
    cases hdata
  · exact ⟨entry, hentry, fetcher, data, picture, hfetcher, hended, hall.trans hdata, hdecoded,
      referenceForURL_of_running hplain entry hentry, List.fst_mem_of_mem_zipIdx hoption, rfl⟩

theorem shown_pictures_downloaded_addressed :
    ∃ load, (downloadingProcess Platform.plain (Storage.ofBucket "fly")).run
        (some (({} : ServicesViewModel Unit).downloading addressed)) addressedRun =
          some (some load) ∧
      ∀ service ∈ [Service.dj, Service.bar], ∃ entry ∈ load.tasks, ∃ fetcher,
        entry.2.fetcher = some fetcher ∧ fetcher.finished = true ∧
        entry.1.service ∈ addressed := by
  obtain ⟨load, hrun, hcompleted, hshown⟩ :
      ∃ load, (downloadingProcess Platform.plain (Storage.ofBucket "fly")).run
          (some (({} : ServicesViewModel Unit).downloading addressed)) addressedRun =
            some (some load) ∧
        load.store.completions = [true] ∧
        ∀ service ∈ [Service.dj, Service.bar], ∃ model rest,
          load.store.viewModel.servicesSections[service.sectionIndex]? = some (model :: rest) := by
    refine ⟨_, rfl, rfl, ?_⟩
    simp only [List.forall_mem_cons]
    exact ⟨⟨_, _, rfl⟩, ⟨_, _, rfl⟩, by simp⟩
  refine ⟨load, hrun, fun service hservice => ?_⟩
  obtain ⟨model, rest, hsection⟩ := hshown service hservice
  obtain ⟨entry, hentry, fetcher, data, picture, hfetcher, hended, -, -, -, hmem, -⟩ :=
    shown_pictures_downloaded Platform.plain (Storage.ofBucket "fly") addressed addressedRun load
      hrun (by simp [hcompleted]) service _ hsection model List.mem_cons_self
  exact ⟨entry, hentry, fetcher, hfetcher, hended, hmem⟩

end FlyEvents
