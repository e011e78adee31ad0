import FlyEvents.Backend.DownloadCompletion
import FlyEvents.Backend.StorageReference
import FlyEvents.Foundation.Segments
import FlyEvents.ViewModels.CatalogueCall
import FlyEvents.ViewModels.DescriptionViewModels

/-! # The sheets of DJ, BAR and FOTO while they load

A sheet shows an indicator until its view model reports success; then a block on
the main queue fills the labels and takes the indicator away. Of a failure it
hears as well, and does nothing. The pictures are downloaded by tasks of the
storage library, of which each is started by the callback of the one before.
-/

namespace FlyEvents

open Segments

variable {Image Character : Type} [DecidableEq Character]

/-- What the labels take from the platform. -/
structure Texts where
  uppercased : String → String
  count : String → Nat

/-- `replacingOccurrences(of: "\\n", with: "\n")`, on Unicode scalars: nothing is
taken to combine with the letter. -/
def withLineBreaks (text : String) : String :=
  .ofList (replacing ['\\', 'n'] ['\n'] text.toList)

/-- The labels of the DJ sheet; a long description is set in a smaller font. -/
structure DjLabels (Image : Type) where
  descriptionTitle : Option String
  priceLabel : Option String
  pictureView : Option Image
  numberOfPeopleLabel : Option String
  packDescriptionLabel : Option String
  packDescriptionIsLong : Bool
  backgroundImageView : Option Image

@[inherit_doc DjLabels]
structure BarLabels (Image : Type) where
  descriptionTitle : Option String
  priceLabel : Option String
  pictureView : Option Image
  packDescriptionTitleLabel : Option String
  packDescriptionLabel : Option String
  packDescriptionIsLong : Bool
  backgroundImageView : Option Image

def DjDescriptionViewController.updateUI (texts : Texts)
    (viewModel : DjDescriptionViewModel Image) : DjLabels Image :=
  let packDescription := viewModel.model.map fun model => withLineBreaks model.packDescription
  { descriptionTitle := viewModel.model.map fun model => texts.uppercased model.title
    priceLabel := viewModel.model.map DjDescriptionModel.priceWithCurrency
    pictureView := viewModel.model.bind DjDescriptionModel.image
    numberOfPeopleLabel := viewModel.model.map DjDescriptionModel.numberOfPeople
    packDescriptionLabel := packDescription
    packDescriptionIsLong := decide ((packDescription.map texts.count).getD 0 > 100)
    backgroundImageView := viewModel.model.bind DjDescriptionModel.backgroundImage }

def BarDescriptionViewController.updateUI (texts : Texts)
    (viewModel : BarDescriptionViewModel Image) : BarLabels Image :=
  let packDescription := viewModel.model.map fun model => withLineBreaks model.packDescription
  { descriptionTitle := viewModel.model.map fun model => texts.uppercased model.title
    priceLabel := viewModel.model.map BarDescriptionModel.priceWithCurrency
    pictureView := viewModel.model.bind BarDescriptionModel.image
    packDescriptionTitleLabel :=
      viewModel.model.map fun model => withLineBreaks model.packDescriptionTitle
    packDescriptionLabel := packDescription
    packDescriptionIsLong := decide ((packDescription.map texts.count).getD 0 > 100)
    backgroundImageView := viewModel.model.bind BarDescriptionModel.backgroundImage }

/-- The image of the one view of the FOTO sheet. -/
def FotoDescriptionViewController.updateUI (viewModel : FotoDescriptionViewModel Image) :
    Option Image :=
  viewModel.model.bind FotoDescriptionModel.image

/-- A sheet from the callback of its query on. The labels are those of the
storyboard until they are set. -/
structure DescriptionSheet (Image Description Model Labels : Type) where
  viewModel : DescriptionViewModel Description Model := {}
  /-- The tasks in the order of their start, with their callbacks. -/
  downloads : List ((Option Image → DownloadChain Image (DescriptionViewModel Description Model)) ×
    StorageDownloadTask) := []
  completions : List Bool := []
  /-- The blocks on the main queue that call `updateUI`. -/
  updates : Nat := 0
  labels : Option Labels := none
  loadingIndicatorHidden : Bool := false

/-- A step of a download, or the next block of the main queue. -/
inductive SheetAction
  | download (index : Nat) (action : DownloadAction)
  | update

namespace DescriptionSheet

variable {Description Model Labels : Type}

variable (platform : Platform Image) (storage : Storage Character)

/-- What a callback goes on to do; the process ends at an address that is not
accepted. -/
def follow (sheet : DescriptionSheet Image Description Model Labels) :
    DownloadChain Image (DescriptionViewModel Description Model) →
      Option (DescriptionSheet Image Description Model Labels)
  | .downloadImage viewModel url callback =>
      (storage.referenceForURL url).map fun storageRef =>
        { sheet with
          viewModel
          downloads := sheet.downloads ++ [(callback, storageRef.getData (1 * 1024 * 1024))] }
  | .completion viewModel success => some { sheet with
      viewModel
      completions := sheet.completions ++ [success]
      updates := if success then sheet.updates + 1 else sheet.updates }

/-- `loadAllData`, from the callback of the query on. -/
def loadAllData (chain : DownloadChain Image (DescriptionViewModel Description Model)) :
    Option (DescriptionSheet Image Description Model Labels) :=
  follow storage {} chain

/-- A process that has ended offers nothing. -/
def step (updateUI : DescriptionViewModel Description Model → Labels) :
    Machine (Option (DescriptionSheet Image Description Model Labels)) SheetAction
  | none, _ => none
  | some sheet, .download index action =>
      match sheet.downloads[index]? with
      | some (callback, task) => (task.step action).map fun next =>
          (next.replies.drop task.replies.length).foldlM
            (fun sheet reply => sheet.follow storage
              (callback (downloadImage platform reply)))
            { sheet with downloads := sheet.downloads.set index (callback, next) }
      | none => none
  | some sheet, .update =>
      match sheet.updates with
      | updates + 1 => some (some { sheet with
          updates, labels := some (updateUI sheet.viewModel), loadingIndicatorHidden := true })
      | 0 => none

end DescriptionSheet

/-! ## Pictures gathered one after the other -/

/-- Downloads the pictures in turn, and publishes them if it gets all. -/
def gathering {ViewModel : Type} (viewModel : ViewModel) :
    List String → (List Image → ViewModel) → DownloadChain Image ViewModel
  | [], publish => .completion (publish []) true
  | url :: rest, publish => .downloadImage viewModel url fun
      | none => .completion viewModel false
      | some image => gathering viewModel rest fun images => publish (image :: images)

namespace DescriptionSheet

variable {Description Model Labels : Type} {platform : Platform Image}
  {storage : Storage Character}
  {updateUI : DescriptionViewModel Description Model → Labels}
  {viewModel : DescriptionViewModel Description Model} {urls : List String}
  {publish : List Image → DescriptionViewModel Description Model}
  {sheet : DescriptionSheet Image Description Model Labels} {pictures : List Image}

/-- The paths of the downloads, in the order of their start. -/
def references (sheet : DescriptionSheet Image Description Model Labels) : List StoragePath :=
  sheet.downloads.map fun download => download.2.reference

/-- The callbacks of the downloads. -/
def callbacks (sheet : DescriptionSheet Image Description Model Labels) :
    List (Option Image → DownloadChain Image (DescriptionViewModel Description Model)) :=
  sheet.downloads.map Prod.fst

variable (platform) in
/-- What the callbacks of the downloads were called with, download by download. -/
def images (sheet : DescriptionSheet Image Description Model Labels) : List (List (Option Image)) :=
  sheet.downloads.map fun download => download.2.replies.map (downloadImage platform)

/-- Each download gave its picture once. -/
def got (pictures : List Image) : List (List (Option Image)) :=
  pictures.map fun picture => [some picture]

variable (viewModel urls publish pictures) in
/-- The callback of the download that follows the listed pictures. -/
def awaiting : Option Image → DownloadChain Image (DescriptionViewModel Description Model)
  | none => .completion viewModel false
  | some image => gathering viewModel (urls.drop (pictures.length + 1)) fun more =>
      publish (pictures ++ image :: more)

variable (platform updateUI viewModel urls publish) in
/-- Where a sheet stands that has gathered the listed pictures: it waits for the
next one, has missed it, or has them all. -/
inductive Stage (sheet : DescriptionSheet Image Description Model Labels)
    (pictures : List Image) : Prop
  | waiting (himages : sheet.images platform = got pictures ++ [[]])
      (hcallback : sheet.callbacks[pictures.length]? =
        some (awaiting viewModel urls publish pictures))
      (hcompletions : sheet.completions = []) (hupdates : sheet.updates = 0)
      (hhidden : sheet.loadingIndicatorHidden = false)
  | missed (himages : sheet.images platform = got pictures ++ [[none]])
      (hcompletions : sheet.completions = [false]) (hupdates : sheet.updates = 0)
      (hhidden : sheet.loadingIndicatorHidden = false)
  | gathered (himages : sheet.images platform = got pictures)
      (hlength : pictures.length = urls.length) (hcompletions : sheet.completions = [true])
      (hviewModel : sheet.viewModel = publish pictures)
      (hshown : sheet.updates = 1 ∧ sheet.loadingIndicatorHidden = false ∨
        sheet.updates = 0 ∧ sheet.loadingIndicatorHidden = true ∧
          sheet.labels = some (updateUI (publish pictures)))

variable (storage) in
/-- What holds of a sheet in every state it can reach, with the pictures it has
gathered. -/
structure Tracked (platform : Platform Image)
    (updateUI : DescriptionViewModel Description Model → Labels)
    (viewModel : DescriptionViewModel Description Model) (urls : List String)
    (publish : List Image → DescriptionViewModel Description Model)
    (sheet : DescriptionSheet Image Description Model Labels) (pictures : List Image) : Prop where
  reached : ∀ download ∈ sheet.downloads, download.2.Reached
  addressed : sheet.references.map some = (urls.take sheet.downloads.length).map
    storage.referenceForURL
  stage : Stage platform updateUI viewModel urls publish sheet pictures

variable (storage) in
/-- What holds of the process: an address is not accepted where it has ended. -/
def Tracks (platform : Platform Image)
    (updateUI : DescriptionViewModel Description Model → Labels)
    (viewModel : DescriptionViewModel Description Model) (urls : List String)
    (publish : List Image → DescriptionViewModel Description Model) :
    Option (DescriptionSheet Image Description Model Labels) → Prop
  | none => ∃ url ∈ urls, storage.referenceForURL url = none
  | some sheet => ∃ pictures,
      Tracked storage platform updateUI viewModel urls publish sheet pictures

/-- The sheet goes on with the next picture, or publishes those it has. -/
theorem tracked_follow (hreached : ∀ download ∈ sheet.downloads, download.2.Reached)
    (haddressed : sheet.references.map some = (urls.take sheet.downloads.length).map
      storage.referenceForURL)
    (himages : sheet.images platform = got pictures) (hle : pictures.length ≤ urls.length)
    (hcompletions : sheet.completions = []) (hupdates : sheet.updates = 0)
    (hhidden : sheet.loadingIndicatorHidden = false) :
    Tracks storage platform updateUI viewModel urls publish
      (sheet.follow storage
        (gathering viewModel (urls.drop pictures.length) fun more =>
          publish (pictures ++ more))) := by
  have hlength : sheet.downloads.length = pictures.length := by
    simpa [images, got] using congrArg List.length himages
  cases hrest : urls.drop pictures.length with
  | nil =>
      have hall : pictures.length = urls.length :=
        Nat.le_antisymm hle (List.drop_eq_nil_iff.mp hrest)
      simp only [gathering, follow, List.append_nil, if_true]
      exact ⟨pictures, hreached, haddressed, .gathered himages hall (by simp [hcompletions]) rfl
        (.inl ⟨by simp [hupdates], hhidden⟩)⟩
  | cons url rest =>
      have hurl : urls[pictures.length]? = some url := by
        rw [← List.head?_drop, hrest, List.head?_cons]
      have hdrop : urls.drop (pictures.length + 1) = rest := by
        rw [← List.tail_drop, hrest, List.tail_cons]
      simp only [gathering, follow]
      cases hreference : storage.referenceForURL url with
      | none => exact ⟨url, List.mem_of_getElem? hurl, hreference⟩
      | some reference =>
          refine ⟨pictures, ?_, ?_, .waiting ?_ ?_ hcompletions hupdates hhidden⟩
          · intro download hmem
            rcases List.mem_append.mp hmem with hold | hnew
            · exact hreached download hold
            · obtain rfl := List.mem_singleton.mp hnew
              exact StorageDownloadTask.reached_getData reference _
          · have htake : urls.take (sheet.downloads.length + 1) =
                urls.take sheet.downloads.length ++ [url] := by
              rw [List.take_add_one, hlength, hurl, Option.toList_some]
            simp only [references] at haddressed
            simp [references, htake, haddressed, hreference, StoragePath.getData]
          · simp only [images] at himages
            simp [images, himages, StoragePath.getData]
          · have hcount : (sheet.downloads.map Prod.fst).length = pictures.length := by
              simpa using hlength
            simp only [callbacks, List.map_append, List.map_cons, List.map_nil]
            rw [← hcount, List.getElem?_concat_length]
            congr 1
            funext image
            cases image with
            | none => rfl
            | some image => rw [awaiting, hdrop]

/-- The step of a download keeps where the downloads come from and go to. -/
theorem Tracked.kept {index : Nat}
    {callback : Option Image → DownloadChain Image (DescriptionViewModel Description Model)}
    {task next : StorageDownloadTask}
    (htracked : Tracked storage platform updateUI viewModel urls publish
      sheet pictures)
    (hdownload : sheet.downloads[index]? = some (callback, task)) (hnext : next.Reached)
    (hreference : next.reference = task.reference) :
    let stepped := { sheet with downloads := sheet.downloads.set index (callback, next) }
    (∀ download ∈ stepped.downloads, download.2.Reached) ∧
      stepped.references.map some = (urls.take stepped.downloads.length).map
        storage.referenceForURL ∧
      stepped.callbacks = sheet.callbacks := by
  intro stepped
  have hreferences : stepped.references = sheet.references :=
    Machine.map_set_of_eq hdownload hreference
  refine ⟨fun download hmem => ?_, ?_, Machine.map_set_of_eq hdownload rfl⟩
  · rcases List.mem_or_eq_of_mem_set hmem with hold | rfl
    · exact htracked.reached download hold
    · exact hnext
  · rw [hreferences, List.length_set]
    exact htracked.addressed

/-- A download that gives no reply in a step leaves the sheet where it stands. -/
theorem Tracked.silent {index : Nat}
    {callback : Option Image → DownloadChain Image (DescriptionViewModel Description Model)}
    {task next : StorageDownloadTask}
    (htracked : Tracked storage platform updateUI viewModel urls publish
      sheet pictures)
    (hdownload : sheet.downloads[index]? = some (callback, task)) (hnext : next.Reached)
    (hreference : next.reference = task.reference) (hreplies : next.replies = task.replies) :
    Tracked storage platform updateUI viewModel urls publish
      { sheet with downloads := sheet.downloads.set index (callback, next) } pictures := by
  obtain ⟨hreached, haddressed, hcallbacks⟩ := htracked.kept hdownload hnext hreference
  have hsame : ({ sheet with downloads := sheet.downloads.set index (callback, next) } :
      DescriptionSheet Image Description Model Labels).images platform = sheet.images platform :=
    Machine.map_set_of_eq hdownload (congrArg _ hreplies)
  refine ⟨hreached, haddressed, ?_⟩
  cases htracked.stage with
  | waiting himages hcallback hcompletions hupdates hhidden =>
      exact .waiting (hsame.trans himages) (hcallbacks ▸ hcallback) hcompletions hupdates hhidden
  | missed himages hcompletions hupdates hhidden =>
      exact .missed (hsame.trans himages) hcompletions hupdates hhidden
  | gathered himages hlength hcompletions hviewModel hshown =>
      exact .gathered (hsame.trans himages) hlength hcompletions hviewModel hshown

/-- A download that has not replied is the one the sheet waits for. -/
theorem Stage.eq_length_of_unanswered
    (hstage : Stage platform updateUI viewModel urls publish sheet pictures) {index : Nat}
    (hunanswered : (sheet.images platform)[index]? = some []) :
    index = pictures.length ∧ sheet.images platform = got pictures ++ [[]] ∧
      sheet.callbacks[pictures.length]? = some (awaiting viewModel urls publish pictures) ∧
      sheet.completions = [] ∧ sheet.updates = 0 ∧ sheet.loadingIndicatorHidden = false := by
  have hgot : [] ∉ got pictures := by simp [got]
  cases hstage with
  | waiting himages hcallback hcompletions hupdates hhidden =>
      refine ⟨?_, himages, hcallback, hcompletions, hupdates, hhidden⟩
      rw [himages] at hunanswered
      rcases Nat.lt_or_ge index (got pictures).length with hlt | hge
      · rw [List.getElem?_append_left hlt] at hunanswered
        exact absurd (List.mem_of_getElem? hunanswered) hgot
      · obtain ⟨hlt, -⟩ := List.getElem?_eq_some_iff.mp hunanswered
        simp only [got, List.length_append, List.length_map, List.length_singleton] at hlt hge
        omega
  | missed himages =>
      rw [himages] at hunanswered
      have hmem := List.mem_of_getElem? hunanswered
      simp [hgot] at hmem
  | gathered himages =>
      rw [himages] at hunanswered
      exact absurd (List.mem_of_getElem? hunanswered) hgot

theorem Tracked.download_step {index : Nat} {action : DownloadAction}
    {callback : Option Image → DownloadChain Image (DescriptionViewModel Description Model)}
    {task next : StorageDownloadTask}
    (htracked : Tracked storage platform updateUI viewModel urls publish
      sheet pictures)
    (hdownload : sheet.downloads[index]? = some (callback, task))
    (hstep : task.step action = some next) :
    Tracks storage platform updateUI viewModel urls publish
      ((next.replies.drop task.replies.length).foldlM
        (fun sheet reply => sheet.follow storage
          (callback (downloadImage platform reply)))
        { sheet with downloads := sheet.downloads.set index (callback, next) }) := by
  have hreached := htracked.reached _ (List.mem_of_getElem? hdownload)
  have hnext := hreached.step hstep
  have hreference := StorageDownloadTask.reference_step hstep
  by_cases hanswered : next.replies = task.replies
  · rw [hanswered, List.drop_length]
    exact ⟨pictures, htracked.silent hdownload hnext hreference hanswered⟩
  · have hunanswered : task.replies = [] := by
      by_contra hreplied
      exact hanswered (hreached.replies_step hreplied hstep)
    have honly := hnext.length_replies_le
    obtain ⟨reply, hreply⟩ : ∃ reply, next.replies = [reply] := by
      rw [hunanswered] at hanswered
      obtain ⟨reply, rest, hreplies⟩ := List.exists_cons_of_ne_nil hanswered
      rw [hreplies, List.length_cons] at honly
      exact ⟨reply, by rw [hreplies, List.length_eq_zero_iff.mp (by omega : rest.length = 0)]⟩
    have hempty : (sheet.images platform)[index]? = some [] := by
      simp [images, hdownload, hunanswered]
    obtain ⟨rfl, himages, hcallback, hcompletions, hupdates, hhidden⟩ :=
      htracked.stage.eq_length_of_unanswered hempty
    obtain ⟨hkept, haddressed, -⟩ := htracked.kept hdownload hnext hreference
    have hgiven : callback = awaiting viewModel urls publish pictures := by
      simpa [callbacks, hdownload] using hcallback
    let stepped : DescriptionSheet Image Description Model Labels :=
      { sheet with downloads := sheet.downloads.set pictures.length (callback, next) }
    have hreplied : stepped.images platform =
        got pictures ++ [[downloadImage platform reply]] := by
      have hset : stepped.images platform =
          (sheet.images platform).set pictures.length [downloadImage platform reply] := by
        simp [stepped, images, List.map_set, hreply]
      rw [hset, himages]
      simp [got, List.set_append_right]
    have hfollow : (next.replies.drop task.replies.length).foldlM
        (fun sheet reply => sheet.follow storage
          (callback (downloadImage platform reply))) stepped =
        stepped.follow storage
          (awaiting viewModel urls publish pictures (downloadImage platform reply)) := by
      simp [hreply, hunanswered, hgiven]
    rw [hfollow]
    cases himage : downloadImage platform reply with
    | none =>
        rw [himage] at hreplied
        exact ⟨pictures, hkept, haddressed,
          .missed hreplied (by simp [stepped, hcompletions]) hupdates hhidden⟩
    | some picture =>
        rw [himage] at hreplied
        have hmore : stepped.images platform = got (pictures ++ [picture]) := by
          simpa [got] using hreplied
        have hle : (pictures ++ [picture]).length ≤ urls.length := by
          have hcount := congrArg List.length htracked.addressed
          have hlength := congrArg List.length himages
          simp only [references, images, got, List.length_map, List.length_take,
            List.length_append, List.length_singleton] at hcount hlength ⊢
          omega
        have hgoes : awaiting viewModel urls publish pictures (some picture) =
            gathering viewModel (urls.drop (pictures ++ [picture]).length) fun more =>
              publish (pictures ++ [picture] ++ more) := by
          simp [awaiting]
        rw [hgoes]
        exact tracked_follow hkept haddressed hmore hle hcompletions hupdates hhidden

theorem Tracked.update_step
    (htracked : Tracked storage platform updateUI viewModel urls publish
      sheet pictures) {updates : Nat} (hupdates : sheet.updates = updates + 1) :
    Tracked storage platform updateUI viewModel urls publish
      { sheet with
        updates, labels := some (updateUI sheet.viewModel), loadingIndicatorHidden := true }
      pictures := by
  refine ⟨htracked.reached, htracked.addressed, ?_⟩
  cases htracked.stage with
  | waiting himages hcallback hcompletions hnone => simp [hnone] at hupdates
  | missed himages hcompletions hnone => simp [hnone] at hupdates
  | gathered himages hlength hcompletions hviewModel hshown =>
      refine .gathered himages hlength hcompletions hviewModel (.inr ⟨?_, rfl, hviewModel ▸ rfl⟩)
      rcases hshown with ⟨hone, -⟩ | ⟨hzero, -⟩
      · exact Nat.succ.inj (hupdates.symm.trans hone)
      · simp [hzero] at hupdates

theorem Tracks.step {process next : Option (DescriptionSheet Image Description Model Labels)}
    {action : SheetAction}
    (htracks : Tracks storage platform updateUI viewModel urls publish process)
    (hstep : DescriptionSheet.step platform storage updateUI process action =
      some next) :
    Tracks storage platform updateUI viewModel urls publish next := by
  cases process with
  | none => cases hstep
  | some sheet =>
      obtain ⟨pictures, htracked⟩ := htracks
      cases action with
      | download index action =>
          simp only [DescriptionSheet.step] at hstep
          split at hstep
          next callback task hdownload =>
            obtain ⟨after, hafter, rfl⟩ := Option.map_eq_some_iff.mp hstep
            exact htracked.download_step hdownload hafter
          next => cases hstep
      | update =>
          simp only [DescriptionSheet.step] at hstep
          split at hstep
          next updates hupdates =>
            cases hstep
            exact ⟨pictures, htracked.update_step hupdates⟩
          next => cases hstep

theorem tracks_run {actions : List SheetAction}
    {process : Option (DescriptionSheet Image Description Model Labels)}
    (hrun : Machine.run (DescriptionSheet.step platform storage updateUI)
      (loadAllData storage (gathering viewModel urls publish)) actions =
        some process) :
    Tracks storage platform updateUI viewModel urls publish process := by
  refine Machine.run_invariant
    (Tracks storage platform updateUI viewModel urls publish)
    (fun _ _ _ htracks hstep => htracks.step hstep) ?_ hrun
  change Tracks storage platform updateUI viewModel urls publish
    (({} : DescriptionSheet Image Description Model Labels).follow storage
      (gathering viewModel (urls.drop ([] : List Image).length) fun more => publish ([] ++ more)))
  exact tracked_follow (fun _ hmem => absurd hmem List.not_mem_nil) rfl rfl (Nat.zero_le _) rfl
    rfl rfl

/-- Where nothing can happen, every download has replied and no block waits. -/
theorem Tracked.of_halted
    (htracked : Tracked storage platform updateUI viewModel urls publish
      sheet pictures)
    (hhalted : Machine.Halted
      (DescriptionSheet.step platform storage updateUI) (some sheet)) :
    [] ∉ sheet.images platform ∧ sheet.updates = 0 := by
  constructor
  · intro hmem
    obtain ⟨download, hdownload, hempty⟩ := List.mem_map.mp hmem
    obtain ⟨index, hindex⟩ := List.getElem?_of_mem hdownload
    have hstuck : Machine.Halted StorageDownloadTask.step download.2 := by
      intro action
      have hnone := hhalted (.download index action)
      simpa [DescriptionSheet.step, hindex] using hnone
    have hlength := (htracked.reached download hdownload).length_replies_of_halted hstuck
    rw [List.map_eq_nil_iff.mp hempty] at hlength
    cases hlength
  · have hnone := hhalted .update
    cases hupdates : sheet.updates with
    | zero => rfl
    | succ updates => simp [DescriptionSheet.step, hupdates] at hnone

end DescriptionSheet

open DescriptionSheet in
/-- What becomes of a sheet. The process ends only at an address of the
description that is not accepted. The indicator goes once every download has
replied with a picture, and the labels are then set for these pictures. The
indicator of a sheet at rest stays where there is no description, or where a
download gave no picture. -/
structure LoadsSheet {Description Model Labels : Type} (platform : Platform Image)
    (storage : Storage Character) (updateUI : DescriptionViewModel Description Model → Labels)
    (chain : DownloadChain Image (DescriptionViewModel Description Model))
    (decoded : Option Description) (urls : Description → List String)
    (shown : Description → List Image → Labels) : Prop where
  ended : ∀ actions, Machine.run (step platform storage updateUI)
      (loadAllData storage chain) actions = some none →
    ∃ description, decoded = some description ∧ ∃ url ∈ urls description,
      storage.referenceForURL url = none
  revealed : ∀ actions sheet, Machine.run (step platform storage updateUI)
      (loadAllData storage chain) actions = some (some sheet) →
    sheet.loadingIndicatorHidden = true →
    ∃ description pictures, decoded = some description ∧
      sheet.references.map some = (urls description).map
        storage.referenceForURL ∧
      sheet.images platform = got pictures ∧ sheet.labels = some (shown description pictures)
  reported : ∀ actions sheet, Machine.run (step platform storage updateUI)
      (loadAllData storage chain) actions = some (some sheet) →
    sheet.completions.length ≤ 1
  rests : ∀ actions sheet, Machine.run (step platform storage updateUI)
      (loadAllData storage chain) actions = some (some sheet) →
    Machine.Halted (step platform storage updateUI) (some sheet) →
    sheet.loadingIndicatorHidden = false → decoded = none ∨ [none] ∈ sheet.images platform

namespace LoadsSheet

open DescriptionSheet

variable {Description Model Labels : Type} {platform : Platform Image}
  {storage : Storage Character}
  {updateUI : DescriptionViewModel Description Model → Labels}
  {viewModel : DescriptionViewModel Description Model}
  {urls : Description → List String} {shown : Description → List Image → Labels}

/-- The sheet of a description whose pictures are gathered one after the other. -/
theorem of_gathering {publish : List Image → DescriptionViewModel Description Model}
    {description : Description}
    (hshown : ∀ pictures, shown description pictures = updateUI (publish pictures)) :
    LoadsSheet platform storage updateUI
      (gathering viewModel (urls description) publish) (some description) urls shown where
  ended actions hrun := ⟨description, rfl, tracks_run hrun⟩
  revealed actions sheet hrun hrevealed := by
    obtain ⟨pictures, -, haddressed, hstage⟩ := tracks_run hrun
    cases hstage with
    | waiting _ _ _ _ hhidden => simp [hhidden] at hrevealed
    | missed _ _ _ hhidden => simp [hhidden] at hrevealed
    | gathered himages hlength _ _ hlabels =>
        have hcount := congrArg List.length himages
        simp only [images, got, List.length_map, hlength] at hcount
        rw [hcount, List.take_length] at haddressed
        rcases hlabels with ⟨-, hhidden⟩ | ⟨-, -, hlabels⟩
        · simp [hhidden] at hrevealed
        · exact ⟨description, pictures, rfl, haddressed, himages,
            hlabels.trans (congrArg some (hshown pictures).symm)⟩
  reported actions sheet hrun := by
    obtain ⟨pictures, -, -, hstage⟩ := tracks_run hrun
    cases hstage with
    | waiting _ _ hcompletions => simp [hcompletions]
    | missed _ hcompletions => simp [hcompletions]
    | gathered _ _ hcompletions => simp [hcompletions]
  rests actions sheet hrun hhalted hhidden := by
    obtain ⟨pictures, htracked⟩ := tracks_run hrun
    obtain ⟨hreplied, hdrained⟩ := htracked.of_halted hhalted
    right
    cases htracked.stage with
    | waiting himages => simp [himages] at hreplied
    | missed himages => simp [himages]
    | gathered _ _ _ _ hshown =>
        rcases hshown with ⟨hone, -⟩ | ⟨-, hrevealed, -⟩
        · simp [hdrained] at hone
        · simp [hrevealed] at hhidden

/-- The sheet of a query without a description. -/
theorem of_completion : LoadsSheet platform storage updateUI
    (.completion viewModel false) none urls shown := by
  have hhalted : Machine.Halted (step platform storage updateUI)
      (loadAllData storage (.completion viewModel false)) := by
    rintro (⟨index, action⟩ | _) <;> rfl
  refine ⟨fun actions hrun => ?_, fun actions sheet hrun hrevealed => ?_,
    fun actions sheet hrun => ?_, fun _ _ _ _ _ => .inl rfl⟩
  · cases Machine.eq_of_run_of_halted hhalted hrun
  · cases Machine.eq_of_run_of_halted hhalted hrun
    cases hrevealed
  · cases Machine.eq_of_run_of_halted hhalted hrun
    exact Nat.le_refl 1

/-- A query and what follows it, for a sheet that shows what the model says. -/
theorem of_getDescription {initFrom : DescriptionContainer → Option Description}
    {reply : DescriptionReply}
    {populate : Description → DescriptionViewModel Description Model →
      DownloadChain Image (DescriptionViewModel Description Model)}
    {published : Description → List Image → Option Model}
    (hpopulate : ∀ description viewModel, populate description viewModel =
      gathering viewModel (urls description) fun pictures =>
        { viewModel with model := published description pictures })
    (hupdate : ∀ viewModel, updateUI viewModel = updateUI { model := viewModel.model }) :
    LoadsSheet platform storage updateUI
      (DescriptionViewModel.getDescription (fetchDescription initFrom reply viewModel) populate)
      (reply.decodes initFrom) urls (fun description pictures =>
        updateUI { model := published description pictures }) := by
  unfold DescriptionViewModel.getDescription
  rw [fetchDescription_description]
  cases reply.decodes initFrom with
  | none => exact of_completion
  | some description =>
      simp only [hpopulate]
      refine of_gathering fun pictures => (hupdate { description := _, model := _ }).symm

end LoadsSheet

/-! ## The three sheets -/

def DjDescription.urls (description : DjDescription) : List String :=
  [description.backgroundImageURL, description.imageURL]

def BarDescription.urls (description : BarDescription) : List String :=
  [description.backgroundImageURL, description.imageURL]

def FotoDescription.urls (description : FotoDescription) : List String := [description.imageURL]

/-- The model of the description with its pictures. -/
def DjDescription.published (description : DjDescription) :
    List Image → Option (DjDescriptionModel Image)
  | [backgroundImage, image] => some {
      backgroundImage := some backgroundImage
      id := description.id
      image := some image
      numberOfPeople := description.numberOfPeople
      packDescription := description.packDescription
      price := description.price
      title := description.title }
  | _ => none

@[inherit_doc DjDescription.published]
def BarDescription.published (description : BarDescription) :
    List Image → Option (BarDescriptionModel Image)
  | [backgroundImage, image] => some {
      backgroundImage := some backgroundImage
      id := description.id
      image := some image
      packDescriptionTitle := description.packDescriptionTitle
      packDescription := description.packDescription
      price := description.price
      title := description.title }
  | _ => none

@[inherit_doc DjDescription.published]
def FotoDescription.published (description : FotoDescription) :
    List Image → Option (FotoDescriptionModel Image)
  | [image] => some { id := description.id, image := some image }
  | _ => none

/-- The sheets of DJ, BAR and FOTO, over the downloads they start, for any reply
to their query. -/
theorem sheets_load (texts : Texts) (platform : Platform Image) (storage : Storage Character)
    (reply : DescriptionReply) :
    LoadsSheet platform storage (DjDescriptionViewController.updateUI texts)
      (DescriptionViewModel.getDjDescription reply {}) (reply.decodes DjDescription.initFrom)
      DjDescription.urls (fun description pictures =>
        DjDescriptionViewController.updateUI texts { model := description.published pictures }) ∧
    LoadsSheet platform storage (BarDescriptionViewController.updateUI texts)
      (DescriptionViewModel.getBarDescription reply {}) (reply.decodes BarDescription.initFrom)
      BarDescription.urls (fun description pictures =>
        BarDescriptionViewController.updateUI texts { model := description.published pictures }) ∧
    LoadsSheet platform storage FotoDescriptionViewController.updateUI
      (DescriptionViewModel.getFotoDescription reply {}) (reply.decodes FotoDescription.initFrom)
      FotoDescription.urls (fun description pictures =>
        FotoDescriptionViewController.updateUI { model := description.published pictures }) := by
  exact ⟨.of_getDescription (fun _ _ => rfl) (fun _ => rfl),
    .of_getDescription (fun _ _ => rfl) (fun _ => rfl),
    .of_getDescription (fun _ _ => rfl) (fun _ => rfl)⟩

/-- The document of a discjockey. -/
def djReply : DescriptionReply where
  snapshot := some [{
    decodeString := fun key =>
      if key = "backgroundImageURL" then some "gs://fly/dj/stage.png"
      else if key = "imageURL" then some "gs://fly/dj/1.png"
      else some "Ana"
    decodeInt := fun _ => some 300
    decodeStrings := fun _ => none }]
  error := none

/-- The background and the picture come in, the one after the other, and the main
queue shows them. -/
def djShown : List SheetAction :=
  (List.range 2).flatMap (fun index => List.map (.download index)
    ([.dispatch, .didReceiveData ⟨#[1]⟩, .didComplete none] ++ List.replicate 9 .callback)) ++
  [.update]

theorem sheets_load_dj :
    ∃ sheet, Machine.run (DescriptionSheet.step Platform.plain (Storage.ofBucket "fly")
        (DjDescriptionViewController.updateUI ⟨String.toUpper, String.length⟩))
        (DescriptionSheet.loadAllData (Storage.ofBucket "fly")
          (DescriptionViewModel.getDjDescription djReply {})) djShown = some (some sheet) ∧
      sheet.loadingIndicatorHidden = true ∧ sheet.downloads.length = 2 ∧
      ∃ description pictures, djReply.decodes DjDescription.initFrom = some description ∧
        sheet.images Platform.plain = DescriptionSheet.got pictures := by
  have hmap : (Machine.run (DescriptionSheet.step Platform.plain (Storage.ofBucket "fly")
      (DjDescriptionViewController.updateUI ⟨String.toUpper, String.length⟩))
      (DescriptionSheet.loadAllData (Storage.ofBucket "fly")
        (DescriptionViewModel.getDjDescription djReply {})) djShown).map
      (Option.map fun sheet => (sheet.loadingIndicatorHidden, sheet.downloads.length)) =
        some (some (true, 2)) := by
    decide +kernel
  obtain ⟨process, hrun, hprocess⟩ := Option.map_eq_some_iff.mp hmap
  obtain ⟨sheet, rfl, heq⟩ := Option.map_eq_some_iff.mp hprocess
  obtain ⟨hhidden, hdownloads⟩ := Prod.mk.inj heq
  obtain ⟨hdj, -, -⟩ := sheets_load ⟨String.toUpper, String.length⟩ Platform.plain
    (Storage.ofBucket "fly") djReply
  obtain ⟨description, pictures, hdecoded, -, himages, -⟩ := hdj.revealed _ sheet hrun hhidden
  exact ⟨sheet, hrun, hhidden, hdownloads, description, pictures, hdecoded, himages⟩

end FlyEvents
