import FlyEvents.Backend.ImageDownloads
import FlyEvents.ViewControllers.DecorDescriptionViewController

/-! # The decor sheet while it loads

The sheet makes one call of its view model, which downloads all pictures at once.
A picture that is missing leaves its place empty, and success is reported
whatever became of the downloads. A block on the main queue then reads the first
five places, and takes the indicator away.
-/

namespace FlyEvents

open DecorDescriptionViewModel

variable {Image Character : Type} [DecidableEq Character]

/-- What the closures of the one call work on, and what its completion was called
with. -/
structure DecorLoading (Image : Type) where
  fetched : FetchedImages Image
  viewModel : DecorDescriptionViewModel Image
  completions : List Bool

/-- The loop of `populateDecorDescriptionModel`, whose callbacks take the reply of
their download. -/
def populatingDecor (platform : Platform Image) (description : DecorDescription) :
    TaskGroup.RepliedProgram (String × Nat) (String × Nat) GetDataReply (DecorLoading Image) where
  start := some
  callback download reply loading := { loading with
    fetched := imageFetched (downloadImage platform reply) download.2 loading.fetched }
  notify loading :=
    let published := notified description loading.fetched loading.viewModel
    { loading with
      viewModel := published.1, completions := loading.completions ++ [published.2] }

/-- A call of `populateDecorDescriptionModel` in progress, with its downloads. -/
abbrev DecorDownloading (Image : Type) :=
  TaskGroup.Running (String × Nat) (String × Nat) StorageDownloadTask (DecorLoading Image)

def DecorDescriptionViewModel.downloading (viewModel : DecorDescriptionViewModel Image)
    (description : DecorDescription) : DecorDownloading Image :=
  TaskGroup.Runner.begin description.imagesURL.zipIdx {
    fetched := {
      fetchedImages := List.replicate description.imagesURL.length none
      fetchedCount := 0 }
    viewModel
    completions := [] }

/-- The downloads of the sheet, of at most 5 MiB each. -/
def decorTasks (storage : Storage Character) :
    TaskGroup.Runner (String × Nat) StorageDownloadTask DownloadAction GetDataReply :=
  imageTasks storage (5 * 1024 * 1024) Prod.fst

/-- The replies of the downloads, by the indices of their addresses. -/
def DecorDownloading.getData (load : DecorDownloading Image) (index : Nat) : GetDataReply :=
  (load.tasks[index]?.bind fun entry => entry.2.replies.head?).getD { data := none, error := none }

/-- A sheet from the callback of its query on. -/
structure DecorSheet (Image : Type) where
  /-- The call that was made, unless there was no description. -/
  load : Option (DecorDescription × DecorDownloading Image)
  /-- The blocks on the main queue that call `updateUI`. -/
  updates : Nat := 0
  pictures : Option (DecorPictures Image) := none
  loadingIndicatorHidden : Bool := false

/-- A step of the call, or the next block of the main queue. -/
inductive DecorSheetAction
  | load (action : TaskGroup.RunningAction DownloadAction)
  | update

namespace DecorSheet

/-- What the completion of `getDecorDescription` was called with. -/
def completions (sheet : DecorSheet Image) : List Bool :=
  sheet.load.elim [false] fun call => call.2.store.completions

/-- `loadAllData`, from the callback of the query on. -/
def loadAllData (reply : DescriptionReply) : DecorSheet Image :=
  let fetched := fetchDecorDescription reply ({} : DecorDescriptionViewModel Image)
  { load := fetched.2.map fun description => (description, fetched.1.downloading description) }

/-- The process ends at an address that is not accepted, and where an index is out
of the range of the images. -/
def step (platform : Platform Image) (storage : Storage Character) :
    Machine (Option (DecorSheet Image)) DecorSheetAction
  | none, _ => none
  | some sheet, .load action =>
      match sheet.load with
      | none => none
      | some (description, load) =>
          ((decorTasks storage).process
            (populatingDecor platform description) (some load) action).map <| Option.map fun next =>
              { sheet with
                load := some (description, next)
                updates := sheet.updates +
                  (next.store.completions.drop load.store.completions.length).count true }
  | some sheet, .update =>
      match sheet.updates, sheet.load with
      | updates + 1, some (_, load) => some ((updateUI load.store.viewModel).map fun pictures =>
          { sheet with updates, pictures := some pictures, loadingIndicatorHidden := true })
      | _, _ => none

end DecorSheet

/-! ## The call -/

section

variable {platform : Platform Image} {storage : Storage Character}
  {description : DecorDescription} {viewModel : DecorDescriptionViewModel Image}
  {actions : List (TaskGroup.RunningAction DownloadAction)} {load : DecorDownloading Image}

theorem decorTasks_repliesOnce (storage : Storage Character) :
    (decorTasks storage).RepliesOnce StorageDownloadTask.Reached :=
  imageTasks_repliesOnce

/-- A download is launched for each address in turn. -/
theorem launched_of_decorDownloading
    (hrun : ((decorTasks storage).running
      (populatingDecor platform description)).run (viewModel.downloading description) actions =
        some load) :
    load.tasks.map Prod.fst ++ load.todo = description.imagesURL.zipIdx := by
  have hlaunched := TaskGroup.Runner.launched_run hrun
  simpa [populatingDecor] using hlaunched

/-- The download at a place is the one for the address there. -/
theorem index_of_decorDownloading
    (hrun : ((decorTasks storage).running
      (populatingDecor platform description)).run (viewModel.downloading description) actions =
        some load) {index : Nat} {entry : (String × Nat) × StorageDownloadTask}
    (hentry : load.tasks[index]? = some entry) : entry.1.2 = index := by
  have hlaunched := launched_of_decorDownloading hrun
  have hlt : index < (load.tasks.map Prod.fst).length := by
    simpa using (List.getElem?_eq_some_iff.mp hentry).1
  have hsame : description.imagesURL.zipIdx[index]? = some entry.1 := by
    rw [← hlaunched, List.getElem?_append_left hlt, List.getElem?_map, hentry]
    rfl
  rw [List.getElem?_zipIdx, Option.map_eq_some_iff] at hsame
  obtain ⟨url, -, hpair⟩ := hsame
  rw [← hpair, Nat.zero_add]

theorem gave_getData
    (hrun : ((decorTasks storage).running
      (populatingDecor platform description)).run (viewModel.downloading description) actions =
        some load) (hreached : ∀ entry ∈ load.tasks, entry.2.Reached) :
    (decorTasks storage).Gave (fun download => load.getData download.2)
      load := by
  intro entry hmem given hgiven
  obtain ⟨index, hentry⟩ := List.getElem?_of_mem hmem
  have honly := (hreached entry hmem).length_replies_le
  have hgiven : given ∈ entry.2.replies := hgiven
  change given = load.getData entry.1.2
  rw [index_of_decorDownloading hrun hentry, DecorDownloading.getData, hentry, Option.bind_some]
  cases hreplies : entry.2.replies with
  | nil => simp [hreplies] at hgiven
  | cons first rest =>
      obtain rfl : rest = [] := by
        rw [hreplies, List.length_cons] at honly
        exact List.length_eq_zero_iff.mp (by omega)
      simpa [hreplies] using hgiven

/-- The callbacks do to the shared variables what they do in a call by itself. -/
theorem deliver_populatingDecor (platform : Platform Image) (description : DecorDescription)
    (getData : Nat → GetDataReply) (delivered : List (String × Nat))
    (loading : DecorLoading Image) :
    ((populatingDecor platform description).program fun download =>
        getData download.2).deliver delivered loading =
      { loading with fetched := (populateDecorDescriptionModel platform fun _ =>
          getData).deliverAll 0 delivered loading.fetched } := by
  induction delivered generalizing loading with
  | nil => rfl
  | cons download rest ih =>
      rw [TaskGroup.Program.deliver_cons, ih]
      rfl

/-- A call that has completed reported success after its last download, and has
published their outcomes. -/
theorem completed_of_decorDownloading
    (hrun : ((decorTasks storage).running
      (populatingDecor platform description)).run (viewModel.downloading description) actions =
        some load) :
    (load.phase ≠ .finished ∧ load.store.completions = []) ∨
    (load.phase = .finished ∧ load.store.completions = [true] ∧
      load.store.viewModel.model = some {
        id := description.id
        images := outcomes platform (fun _ => load.getData) 0 description } ∧
      load.tasks.map Prod.fst = description.imagesURL.zipIdx ∧
      ∀ entry ∈ load.tasks, entry.2.replies.length = 1) := by
  have honce := decorTasks_repliesOnce storage
  obtain ⟨hreached, htaken⟩ := honce.exists_run hrun
  obtain ⟨taken, htaken⟩ := htaken _ (gave_getData hrun hreached)
  obtain ⟨delivered, hinvariant⟩ := TaskGroup.Program.invariant_run _ htaken
  have hdelivered := deliver_populatingDecor platform description load.getData delivered
  by_cases hfinished : load.phase = .finished
  · right
    obtain ⟨hperm, hstore⟩ := hinvariant.of_finished _ hfinished
    have hperm : delivered.Perm description.imagesURL.zipIdx := by
      simpa [TaskGroup.Program.tasks, TaskGroup.RepliedProgram.program, populatingDecor]
        using hperm
    let program := populateDecorDescriptionModel platform fun _ => load.getData
    have hnotified : notified description
        (program.deliverAll 0 delivered (program.locals description)) viewModel =
        ({ viewModel with model := some {
          id := description.id
          images := outcomes platform (fun _ => load.getData) 0 description } }, true) :=
      notified_delivered platform _ hperm viewModel
    have hstore : load.store = _ := hstore
    rw [hdelivered] at hstore
    have hpublished : load.store.completions = [true] ∧
        load.store.viewModel.model = some {
          id := description.id
          images := outcomes platform (fun _ => load.getData) 0 description } := by
      rw [hstore]
      constructor
      · exact congrArg (fun published => [published.2]) hnotified
      · exact congrArg (fun published => published.1.model) hnotified
    have htodo : load.todo = [] := hinvariant.loop (by simp [TaskGroup.Runner.config, hfinished])
    have hlaunched := launched_of_decorDownloading hrun
    rw [htodo, List.append_nil] at hlaunched
    exact ⟨hfinished, hpublished.1, hpublished.2, hlaunched,
      honce.replied_of_drained hreached (hinvariant.drained hfinished)⟩
  · left
    have hstore := hinvariant.store.trans (if_neg hfinished)
    rw [hdelivered] at hstore
    exact ⟨hfinished, congrArg DecorLoading.completions hstore⟩

/-- A call in which nothing can happen has completed. -/
theorem finished_of_decorDownloading
    (hrun : ((decorTasks storage).running
      (populatingDecor platform description)).run (viewModel.downloading description) actions =
        some load)
    (hhalted : ((decorTasks storage).process
      (populatingDecor platform description)).Halted (some load)) : load.phase = .finished := by
  have honce := decorTasks_repliesOnce storage
  obtain ⟨hreached, htaken⟩ := honce.exists_run hrun
  obtain ⟨taken, htaken⟩ := htaken _ (gave_getData hrun hreached)
  obtain ⟨delivered, hinvariant⟩ := TaskGroup.Program.invariant_run _ htaken
  exact TaskGroup.Program.finished_of_halted _ hinvariant
    (honce.halted_config hreached hhalted _)

/-- The outcomes are those of the replies that the downloads gave. -/
theorem replies_of_completed (platform : Platform Image)
    (hlaunched : load.tasks.map Prod.fst = description.imagesURL.zipIdx)
    (hreplied : ∀ entry ∈ load.tasks, entry.2.replies.length = 1) :
    load.tasks.map (fun entry => entry.2.replies.map (downloadImage platform)) =
      (outcomes platform (fun _ => load.getData) 0 description).map fun image => [image] := by
  have hlength : load.tasks.length = description.imagesURL.length := by
    simpa using congrArg List.length hlaunched
  apply List.ext_getElem
  · simp [outcomes, hlength]
  · intro index hindex _
    simp only [List.length_map] at hindex
    obtain ⟨reply, hreply⟩ :=
      List.length_eq_one_iff.mp (hreplied load.tasks[index] (List.getElem_mem hindex))
    have hget : load.getData index = reply := by
      simp [DecorDownloading.getData, hindex, hreply]
    simp [outcomes, hreply, hget]

theorem updateUI_congr {first second : DecorDescriptionViewModel Image}
    (hmodel : first.model = second.model) : updateUI first = updateUI second := by
  rw [updateUI, updateUI, hmodel]

end

/-! ## The sheet -/

namespace DecorSheet

variable {platform : Platform Image} {storage : Storage Character}
  {description : DecorDescription} {viewModel : DecorDescriptionViewModel Image}
  {sheet next : DecorSheet Image}

/-- The actions of the call among those of the sheet. -/
def loadActions (actions : List DecorSheetAction) :
    List (TaskGroup.RunningAction DownloadAction) :=
  actions.filterMap fun
    | .load action => some action
    | .update => none

variable (platform storage description viewModel) in
/-- What holds of a sheet with a description: the call has run as it does by
itself, and the views are set once it has completed. -/
structure Tracked (actions : List DecorSheetAction) (sheet : DecorSheet Image)
    (load : DecorDownloading Image) : Prop where
  made : sheet.load = some (description, load)
  ran : ((decorTasks storage).running
    (populatingDecor platform description)).run (viewModel.downloading description)
      (loadActions actions) = some load
  updates : sheet.updates + (if sheet.loadingIndicatorHidden then 1 else 0) =
    load.store.completions.length
  length : actions.length =
    (loadActions actions).length + if sheet.loadingIndicatorHidden then 1 else 0
  shown : sheet.loadingIndicatorHidden = true →
    ∃ pictures, sheet.pictures = some pictures ∧ updateUI load.store.viewModel = some pictures

theorem loadActions_concat (actions : List DecorSheetAction)
    (action : TaskGroup.RunningAction DownloadAction) :
    loadActions (actions ++ [.load action]) = loadActions actions ++ [action] := by
  simp [loadActions]

theorem loadActions_concat_update (actions : List DecorSheetAction) :
    loadActions (actions ++ [.update]) = loadActions actions := by
  simp [loadActions]

variable {actions : List DecorSheetAction} {load : DecorDownloading Image}

/-- A step of the call, which the sheet follows. -/
theorem Tracked.load_step {action : TaskGroup.RunningAction DownloadAction}
    {after : DecorDownloading Image}
    (htracked : Tracked platform storage description viewModel actions sheet
      load)
    (hstep : (decorTasks storage).running
      (populatingDecor platform description) load action = some after) :
    Tracked platform storage description viewModel (actions ++ [.load action])
      { sheet with
        load := some (description, after)
        updates := sheet.updates +
          (after.store.completions.drop load.store.completions.length).count true } after := by
  have honce := decorTasks_repliesOnce storage
  have hrun : ((decorTasks storage).running
      (populatingDecor platform description)).run (viewModel.downloading description)
        (loadActions actions ++ [action]) = some after :=
    Machine.run_append_eq_some_iff.mpr
      ⟨load, htracked.ran, (Machine.run_singleton ..).trans hstep⟩
  have hlength : (actions ++ [DecorSheetAction.load action]).length =
      (loadActions actions ++ [action]).length +
        if sheet.loadingIndicatorHidden then 1 else 0 := by
    simp only [List.length_append, List.length_singleton, htracked.length]
    omega
  rw [← loadActions_concat] at hrun hlength
  rcases completed_of_decorDownloading htracked.ran with
    ⟨-, hsilent⟩ | ⟨hfinished, -, -, -, hreplied⟩
  · -- Nothing was reported before the step, so nothing is shown.
    have hupdates := htracked.updates
    rw [hsilent, List.length_nil, Nat.add_eq_zero_iff] at hupdates
    have hhidden : sheet.loadingIndicatorHidden = false := by simpa using hupdates.2
    refine ⟨rfl, hrun, ?_, hlength, fun hshown => by simp [hhidden] at hshown⟩
    rcases completed_of_decorDownloading hrun with ⟨-, hafter⟩ | ⟨-, hafter, -⟩ <;>
      simp [hsilent, hafter, hupdates.1, hhidden]
  · -- The call has completed, and nothing more comes of it.
    obtain ⟨hreached, -⟩ := honce.exists_run htracked.ran
    obtain ⟨hstore, -⟩ := honce.store_of_finished hreached hfinished hreplied
      (TaskGroup.Runner.ran_of_running hstep)
    refine ⟨rfl, hrun, ?_, hlength, ?_⟩
    · simpa [hstore] using htracked.updates
    · simpa [hstore] using htracked.shown

/-- The next block of the main queue: it sets the views, or ends the process. -/
theorem Tracked.update_step {process : Option (DecorSheet Image)}
    (htracked : Tracked platform storage description viewModel actions sheet
      load)
    (hstep : step platform storage (some sheet) .update = some process) :
    (process = none ∧ description.imagesURL.length < 5) ∨
      ∃ next, process = some next ∧ Tracked platform storage description
        viewModel (actions ++ [.update]) next load := by
  obtain ⟨hmade, hran, hupdates, hlength, hshown⟩ := htracked
  simp only [step, hmade] at hstep
  split at hstep
  next updates _ _ hcount heq =>
    cases heq
    rw [hcount] at hupdates
    rcases completed_of_decorDownloading hran with ⟨-, hsilent⟩ | ⟨-, hcompletions, hmodel, -⟩
    · rw [hsilent] at hupdates
      simp at hupdates
    · rw [hcompletions, List.length_singleton] at hupdates
      have hfirst : updates = 0 ∧ sheet.loadingIndicatorHidden = false := by
        cases hhidden : sheet.loadingIndicatorHidden with
        | false => simpa [hhidden] using hupdates
        | true => simp [hhidden] at hupdates
      rw [hfirst.2] at hlength
      cases hdrawn : updateUI load.store.viewModel with
      | none =>
          left
          rw [hdrawn] at hstep
          have hshort := mt (updateUI_isSome_iff hmodel).mpr (by simp [hdrawn])
          exact ⟨(Option.some.inj hstep).symm, by simpa [outcomes] using hshort⟩
      | some pictures =>
          right
          rw [hdrawn] at hstep
          refine ⟨_, (Option.some.inj hstep).symm, rfl, ?_, ?_, ?_,
            fun _ => ⟨pictures, rfl, hdrawn⟩⟩
          · rw [loadActions_concat_update]
            exact hran
          · simp [hfirst.1, hcompletions]
          · simpa [loadActions_concat_update] using hlength
  next => cases hstep

/-- A call that ends the process has come to an address that is not accepted. -/
theorem Tracked.exists_of_fatal {action : TaskGroup.RunningAction DownloadAction}
    (htracked : Tracked platform storage description viewModel actions sheet
      load)
    (hfatal : (decorTasks storage).fatal
      (populatingDecor platform description) load action = true) :
    ∃ url ∈ description.imagesURL,
      storage.referenceForURL url = none := by
  obtain ⟨item, rest, task, htodo, hstart, hlaunch⟩ := TaskGroup.Runner.exists_of_fatal hfatal
  obtain rfl : item = task := Option.some.inj hstart
  have hmem : item ∈ description.imagesURL.zipIdx := by
    rw [← launched_of_decorDownloading htracked.ran, htodo]
    exact List.mem_append_right _ List.mem_cons_self
  exact ⟨item.1, List.fst_mem_of_mem_zipIdx hmem, Option.map_eq_none_iff.mp hlaunch⟩

variable (platform storage description viewModel) in
/-- What holds of the process: it has ended for one of two reasons, or has a sheet. -/
def Tracks (actions : List DecorSheetAction) : Option (DecorSheet Image) → Prop
  | none => (∃ url ∈ description.imagesURL,
      storage.referenceForURL url = none) ∨
        description.imagesURL.length < 5
  | some sheet => ∃ load,
      Tracked platform storage description viewModel actions sheet load

theorem Tracks.step {process after : Option (DecorSheet Image)} {action : DecorSheetAction}
    (htracks : Tracks platform storage description viewModel actions process)
    (hstep : step platform storage process action = some after) :
    Tracks platform storage description viewModel (actions ++ [action])
      after := by
  cases process with
  | none => cases hstep
  | some sheet =>
      obtain ⟨load, htracked⟩ := htracks
      cases action with
      | load action =>
          simp only [DecorSheet.step, htracked.made] at hstep
          obtain ⟨ran, hran, rfl⟩ := Option.map_eq_some_iff.mp hstep
          cases ran with
          | none => exact .inl (htracked.exists_of_fatal (Machine.ending_eq_some_none_iff.mp hran))
          | some next =>
              exact ⟨next, htracked.load_step (Machine.ending_eq_some_some_iff.mp hran).2⟩
      | update =>
          rcases htracked.update_step hstep with ⟨rfl, hshort⟩ | ⟨next, rfl, hnext⟩
          · exact .inr hshort
          · exact ⟨load, hnext⟩

theorem tracks_run {process : Option (DecorSheet Image)}
    (hrun : (step platform storage).run
      (some { load := some (description, viewModel.downloading description) }) actions =
        some process) :
    Tracks platform storage description viewModel actions process := by
  refine Machine.run_trace_invariant
    (Tracks platform storage description viewModel)
    (fun _ _ _ _ _ htracks hstep => htracks.step hstep) ?_ hrun
  exact ⟨_, rfl, rfl, rfl, rfl, fun hshown => nomatch hshown⟩

/-- A sheet without a description does nothing any more. -/
theorem run_of_load_none {process : Option (DecorSheet Image)} (hload : sheet.load = none)
    (hrun : (step platform storage).run (some sheet) actions =
      some process) : actions = [] ∧ process = some sheet := by
  cases actions with
  | nil => exact ⟨rfl, (Option.some.inj hrun).symm⟩
  | cons action rest =>
      obtain ⟨middle, hmiddle, -⟩ := Machine.run_cons_eq_some_iff.mp hrun
      cases action with
      | load action => simp [step, hload] at hmiddle
      | update => simp [step, hload] at hmiddle

theorem loadAllData_of_decodes {reply : DescriptionReply}
    (hdecodes : reply.decodes DecorDescription.initFrom = some description) :
    ∃ viewModel : DecorDescriptionViewModel Image,
      loadAllData reply = { load := some (description, viewModel.downloading description) } := by
  refine ⟨(fetchDecorDescription reply {}).1, ?_⟩
  have hfetched : (fetchDecorDescription reply ({} : DecorDescriptionViewModel Image)).2 =
      some description := by
    simp [fetchDecorDescription, hdecodes]
  simp only [loadAllData, hfetched, Option.map_some]

theorem loadAllData_of_not_decodes {reply : DescriptionReply}
    (hdecodes : reply.decodes DecorDescription.initFrom = none) :
    (loadAllData reply : DecorSheet Image) = { load := none } := by
  have hfetched :
      (fetchDecorDescription reply ({} : DecorDescriptionViewModel Image)).2 = none := by
    simp [fetchDecorDescription, hdecodes]
  simp only [loadAllData, hfetched, Option.map_none]

/-- A sheet with a description that has come to rest shows its pictures. -/
theorem Tracked.shown_of_halted
    (htracked : Tracked platform storage description viewModel actions sheet
      load)
    (hhalted : (step platform storage).Halted (some sheet)) :
    sheet.loadingIndicatorHidden = true := by
  have hstuck : ((decorTasks storage).process
      (populatingDecor platform description)).Halted (some load) := by
    intro action
    have hnone := hhalted (.load action)
    simpa [step, htracked.made] using hnone
  have hfinished := finished_of_decorDownloading htracked.ran hstuck
  by_contra hhidden
  have hupdates := htracked.updates
  rcases completed_of_decorDownloading htracked.ran with ⟨hnot, -⟩ | ⟨-, hcompletions, -⟩
  · exact hnot hfinished
  · -- The block that was handed to the main queue can run.
    rw [hcompletions, if_neg hhidden] at hupdates
    have hone : sheet.updates = 0 + 1 := hupdates
    have hnone := hhalted .update
    simp [step, hone, htracked.made] at hnone

/-- What a sheet that is revealed shows, and what it was downloaded from. -/
theorem Tracked.revealed
    (htracked : Tracked platform storage description viewModel actions sheet
      load) (hhidden : sheet.loadingIndicatorHidden = true) :
    ∃ images pictures,
      load.tasks.map (fun entry => some entry.2.reference) =
        description.imagesURL.map storage.referenceForURL ∧
      load.tasks.map (fun entry => entry.2.replies.map (downloadImage platform)) =
        images.map (fun image => [image]) ∧
      updateUI ({ model := some { id := description.id, images } } :
        DecorDescriptionViewModel Image) = some pictures ∧
      sheet.pictures = some pictures := by
  obtain ⟨pictures, hpictures, hdrawn⟩ := htracked.shown hhidden
  have hupdates := htracked.updates
  rcases completed_of_decorDownloading htracked.ran with
    ⟨-, hsilent⟩ | ⟨-, -, hmodel, hlaunched, hreplied⟩
  · simp [hhidden, hsilent] at hupdates
  · refine ⟨_, pictures, ?_, replies_of_completed platform hlaunched hreplied, ?_, hpictures⟩
    · have hreferences := referenceForURL_of_running htracked.ran
      have hurls : load.tasks.map (fun entry => entry.1.1) = description.imagesURL := by
        rw [← List.zipIdx_map_fst 0 description.imagesURL, ← hlaunched, List.map_map]
        rfl
      rw [← hurls, List.map_map]
      exact List.map_congr_left fun entry hmem => (hreferences entry hmem).symm
    · rw [← updateUI_congr hmodel]
      exact hdrawn

end DecorSheet

/-- What becomes of the decor sheet, over the downloads it starts, for any reply to
its query. The process ends only at an address that is not accepted, or with
fewer than five addresses. Otherwise the steps are bounded by the addresses and
the deliveries of the networks; success is reported at most once; the pictures
that are shown are what each address gave, in its place; and a sheet that comes
to rest without them has found no description. -/
theorem decor_sheet_loads (platform : Platform Image) (storage : Storage Character)
    (reply : DescriptionReply) (actions : List DecorSheetAction)
    (process : Option (DecorSheet Image))
    (hrun : (DecorSheet.step platform storage).run (some (DecorSheet.loadAllData reply)) actions =
      some process) :
    (process = none → ∃ description, reply.decodes DecorDescription.initFrom = some description ∧
      ((∃ url ∈ description.imagesURL, storage.referenceForURL url = none) ∨
        description.imagesURL.length < 5)) ∧
    ∀ sheet, process = some sheet →
      actions.length ≤ 2 * ((reply.decodes DecorDescription.initFrom).elim 0 fun description =>
        description.imagesURL.length) + 3 + 14 * deliveries (DecorSheet.loadActions actions) ∧
      sheet.completions.length ≤ 1 ∧
      (sheet.loadingIndicatorHidden = true → ∃ description load images pictures,
        reply.decodes DecorDescription.initFrom = some description ∧
        sheet.load = some (description, load) ∧
        load.tasks.map (fun entry => some entry.2.reference) =
          description.imagesURL.map storage.referenceForURL ∧
        load.tasks.map (fun entry => entry.2.replies.map (downloadImage platform)) =
          images.map (fun image => [image]) ∧
        updateUI ({ model := some { id := description.id, images } } :
          DecorDescriptionViewModel Image) = some pictures ∧
        sheet.pictures = some pictures) ∧
      ((DecorSheet.step platform storage).Halted (some sheet) →
        sheet.loadingIndicatorHidden = false →
        reply.decodes DecorDescription.initFrom = none) := by
  cases hdecodes : reply.decodes DecorDescription.initFrom with
  | none =>
      rw [DecorSheet.loadAllData_of_not_decodes hdecodes] at hrun
      obtain ⟨rfl, rfl⟩ := DecorSheet.run_of_load_none rfl hrun
      refine ⟨nofun, ?_⟩
      rintro sheet ⟨rfl⟩
      exact ⟨Nat.zero_le _, Nat.le_refl 1, nofun, fun _ _ => rfl⟩
  | some description =>
      obtain ⟨viewModel, hstart⟩ : ∃ viewModel : DecorDescriptionViewModel Image, _ :=
        DecorSheet.loadAllData_of_decodes hdecodes
      rw [hstart] at hrun
      have htracks := DecorSheet.tracks_run hrun
      constructor
      · rintro rfl
        exact ⟨description, rfl, htracks⟩
      · rintro sheet rfl
        obtain ⟨load, htracked⟩ := htracks
        refine ⟨?_, ?_, fun hhidden => ?_, fun hhalted hhidden => ?_⟩
        · have hload := running_length_le htracked.ran
          have hlength := htracked.length
          rw [List.length_zipIdx] at hload
          simp only [Option.elim_some]
          split at hlength <;> omega
        · rw [DecorSheet.completions, htracked.made]
          rcases completed_of_decorDownloading htracked.ran with
            ⟨-, hcompletions⟩ | ⟨-, hcompletions, -⟩ <;> simp [hcompletions]
        · obtain ⟨images, pictures, hshown⟩ := htracked.revealed hhidden
          exact ⟨description, load, images, pictures, rfl, htracked.made, hshown⟩
        · rw [htracked.shown_of_halted hhalted] at hhidden
          cases hhidden

/-- The document of a decor option with five pictures. -/
def fivePictures : DescriptionReply where
  snapshot := some [{
    decodeString := fun key => if key = "id" then some "d1" else none
    decodeInt := fun _ => none
    decodeStrings := fun key =>
      if key = "imagesURL" then some (List.replicate 5 "gs://fly/decor") else none }]
  error := none

/-- The first picture comes in, and there is nothing at the other four addresses. -/
def oneOfFive : List DecorSheetAction :=
  let picture : List DownloadAction :=
    [.dispatch, .didReceiveData ⟨#[1]⟩, .didComplete none] ++ List.replicate 9 .callback
  let missing : List DownloadAction :=
    [.dispatch, .didComplete (some 404)] ++ List.replicate 8 .callback
  List.replicate 5 (.load .iterate) ++ .load .register ::
    picture.map (fun action => .load (.task 0 action)) ++
    [1, 2, 3, 4].flatMap (fun index => missing.map fun action => .load (.task index action)) ++
    [.load .notify, .update]

theorem decor_sheet_loads_oneOfFive :
    ∃ sheet, (DecorSheet.step Platform.plain (Storage.ofBucket "fly")).run
        (some (DecorSheet.loadAllData fivePictures)) oneOfFive = some (some sheet) ∧
      sheet.loadingIndicatorHidden = true ∧
      ∃ pictures, sheet.pictures = some pictures := by
  have hmap : ((DecorSheet.step Platform.plain (Storage.ofBucket "fly")).run
      (some (DecorSheet.loadAllData fivePictures)) oneOfFive).map (Option.map fun sheet =>
        sheet.loadingIndicatorHidden) = some (some true) := by
    decide +kernel
  obtain ⟨process, hrun, hprocess⟩ := Option.map_eq_some_iff.mp hmap
  obtain ⟨sheet, rfl, hhidden⟩ := Option.map_eq_some_iff.mp hprocess
  obtain ⟨-, hsheet⟩ := decor_sheet_loads Platform.plain (Storage.ofBucket "fly") fivePictures
    oneOfFive _ hrun
  obtain ⟨-, -, hrevealed, -⟩ := hsheet sheet rfl
  obtain ⟨_, _, _, pictures, -, -, -, -, -, hpictures⟩ := hrevealed hhidden
  exact ⟨sheet, hrun, hhidden, pictures, hpictures⟩

end FlyEvents
