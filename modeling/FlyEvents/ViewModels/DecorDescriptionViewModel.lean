import FlyEvents.Foundation.SharedGroup
import FlyEvents.ViewModels.CatalogueCall
import FlyEvents.ViewModels.DescriptionViewModels

/-! # The decor view model

`populateDecorDescriptionModel` starts all its downloads at once. A callback
stores its outcome at the index of its address and counts it; the notify block
publishes the outcomes when the count is the number of addresses. The dispatch
group belongs to the view model, so overlapping calls share it.
-/

namespace FlyEvents

variable {Image : Type}

abbrev DecorDescriptionViewModel (Image : Type) :=
  DescriptionViewModel DecorDescription (DecorDescriptionModel Image)

/-- The variables that the closures of one call share. -/
structure FetchedImages (Image : Type) where
  fetchedImages : List (Option Image)
  fetchedCount : Nat

namespace DecorDescriptionViewModel

def fetchDecorDescription (reply : DescriptionReply)
    (viewModel : DecorDescriptionViewModel Image) :
    DecorDescriptionViewModel Image × Option DecorDescription :=
  fetchDescription DecorDescription.initFrom reply viewModel

/-- The callback of the download for an index. -/
def imageFetched (image : Option Image) (index : Nat) (fetched : FetchedImages Image) :
    FetchedImages Image where
  fetchedImages := fetched.fetchedImages.set index image
  fetchedCount := fetched.fetchedCount + 1

/-- The notify block, and what it calls the completion with. -/
def notified (description : DecorDescription) (fetched : FetchedImages Image)
    (viewModel : DecorDescriptionViewModel Image) : DecorDescriptionViewModel Image × Bool :=
  if fetched.fetchedCount = description.imagesURL.length then
    ({ viewModel with
      model := some { id := description.id, images := fetched.fetchedImages } }, true)
  else (viewModel, false)

/-- `populateDecorDescriptionModel` as a program of the shared group. The reply
of a download is taken by the number of its call and its index. -/
def populateDecorDescriptionModel (platform : Platform Image)
    (getData : Nat → Nat → GetDataReply) :
    SharedGroup.Program DecorDescription (String × Nat) (FetchedImages Image)
      (DecorDescriptionViewModel Image) Bool where
  tasks description := description.imagesURL.zipIdx
  locals description := {
    fetchedImages := List.replicate description.imagesURL.length none
    fetchedCount := 0 }
  callback number download :=
    imageFetched (downloadImage platform (getData number download.2)) download.2
  notify := notified

/-- The view model with the calls of `populateDecorDescriptionModel` on it. -/
abbrev Calls (Image : Type) :=
  SharedGroup.Config DecorDescription (String × Nat) (FetchedImages Image)
    (DecorDescriptionViewModel Image) Bool

/-- `getDecorDescription` after the callback of its query: the call it makes, and
what its completion is called with at once. -/
def getDecorDescription (platform : Platform Image) (getData : Nat → Nat → GetDataReply)
    (reply : DescriptionReply) (viewModel : DecorDescriptionViewModel Image) :
    Calls Image × List Bool :=
  let fetched := fetchDecorDescription reply viewModel
  match fetched.2 with
  | some description =>
      ((populateDecorDescriptionModel platform getData).call (SharedGroup.initial fetched.1)
        description, [])
  | none => (SharedGroup.initial fetched.1, [false])

variable (platform : Platform Image) (getData : Nat → Nat → GetDataReply)

/-- The outcomes of the downloads of a call, in the order of its addresses. -/
def outcomes (number : Nat) (description : DecorDescription) : List (Option Image) :=
  (List.range description.imagesURL.length).map fun index =>
    downloadImage platform (getData number index)

theorem deliverAll_length (number : Nat) (delivered : List (String × Nat))
    (fetched : FetchedImages Image) :
    ((populateDecorDescriptionModel platform getData).deliverAll number delivered
      fetched).fetchedImages.length = fetched.fetchedImages.length := by
  induction delivered using List.reverseRecOn with
  | nil => rfl
  | append_singleton delivered download ih =>
      rw [SharedGroup.Program.deliverAll_concat, ← ih]
      simp [populateDecorDescriptionModel, imageFetched]

theorem deliverAll_fetchedCount (number : Nat) (delivered : List (String × Nat))
    (fetched : FetchedImages Image) :
    ((populateDecorDescriptionModel platform getData).deliverAll number delivered
      fetched).fetchedCount = fetched.fetchedCount + delivered.length := by
  induction delivered using List.reverseRecOn with
  | nil => rfl
  | append_singleton delivered download ih =>
      rw [SharedGroup.Program.deliverAll_concat, List.length_append, ← Nat.add_assoc, ← ih]
      rfl

/-- What the callbacks leave in the array: an outcome at the index of each of
them, whatever their order, and what was there before at the other indices. -/
theorem deliverAll_getElem? (number : Nat) (delivered : List (String × Nat))
    (fetched : FetchedImages Image) {index : Nat}
    (hindex : index < fetched.fetchedImages.length) :
    ((populateDecorDescriptionModel platform getData).deliverAll number delivered
        fetched).fetchedImages[index]? =
      if index ∈ delivered.map Prod.snd then
        some (downloadImage platform (getData number index))
      else fetched.fetchedImages[index]? := by
  induction delivered using List.reverseRecOn with
  | nil => simp
  | append_singleton delivered download ih =>
      have hlength := deliverAll_length platform getData number delivered fetched
      rw [SharedGroup.Program.deliverAll_concat]
      simp only [populateDecorDescriptionModel, imageFetched] at ih hlength ⊢
      rw [List.getElem?_set]
      by_cases hlast : download.2 = index
      · subst hlast
        simp [hlength, hindex]
      · have hmem : index ∈ (delivered ++ [download]).map Prod.snd ↔
            index ∈ delivered.map Prod.snd := by
          rw [List.map_append, List.mem_append, List.map_singleton, List.mem_singleton]
          exact or_iff_left (Ne.symm hlast)
        rw [if_neg hlast, ih]
        simp only [hmem]

/-- All callbacks of a call, in any order, leave its outcomes in their places. -/
theorem deliverAll_fetchedImages (number : Nat) {description : DecorDescription}
    {delivered : List (String × Nat)}
    (hdelivered : delivered.Perm description.imagesURL.zipIdx) :
    let program := populateDecorDescriptionModel platform getData
    (program.deliverAll number delivered (program.locals description)).fetchedImages =
      outcomes platform getData number description := by
  intro program
  have hlength := deliverAll_length platform getData number delivered (program.locals description)
  apply List.ext_getElem?
  intro index
  by_cases hindex : index < description.imagesURL.length
  · have hmem : index ∈ delivered.map Prod.snd := by
      rw [(hdelivered.map Prod.snd).mem_iff, List.zipIdx_map_snd]
      simpa using hindex
    rw [deliverAll_getElem? platform getData number delivered _
      (by simpa [program, populateDecorDescriptionModel] using hindex), if_pos hmem]
    simp [outcomes, hindex]
  · have hshort : description.imagesURL.length ≤ index := Nat.le_of_not_lt hindex
    rw [List.getElem?_eq_none, List.getElem?_eq_none]
    · simpa [outcomes] using hshort
    · rw [hlength]
      simpa [program, populateDecorDescriptionModel] using hshort

/-- When all of them are delivered, the count is the number of addresses. -/
theorem deliverAll_fetchedCount_eq (number : Nat) {description : DecorDescription}
    {delivered : List (String × Nat)}
    (hdelivered : delivered.Perm description.imagesURL.zipIdx) :
    let program := populateDecorDescriptionModel platform getData
    (program.deliverAll number delivered (program.locals description)).fetchedCount =
      description.imagesURL.length := by
  intro program
  rw [deliverAll_fetchedCount, hdelivered.length_eq]
  simp [program, populateDecorDescriptionModel]

/-- The notify block of a call whose callbacks have all run takes its first
branch, and publishes the outcomes of the call. -/
theorem notified_delivered {number : Nat} {description : DecorDescription}
    {delivered : List (String × Nat)}
    (hdelivered : delivered.Perm description.imagesURL.zipIdx)
    (viewModel : DecorDescriptionViewModel Image) :
    let program := populateDecorDescriptionModel platform getData
    program.notify description (program.deliverAll number delivered (program.locals description))
        viewModel =
      ({ viewModel with model := some {
          id := description.id, images := outcomes platform getData number description } },
        true) := by
  intro program
  have hcount := deliverAll_fetchedCount_eq platform getData number hdelivered
  have himages := deliverAll_fetchedImages platform getData number hdelivered
  simp only [program, populateDecorDescriptionModel, notified] at hcount himages ⊢
  rw [if_pos hcount, himages]

/-- Every call that has completed did so once, with `true`. -/
theorem completions_eq {config : Calls Image}
    (hinvariant : (populateDecorDescriptionModel platform getData).Invariant config)
    {number : Nat} {call : SharedGroup.Call DecorDescription (String × Nat) (FetchedImages Image)
      Bool} (hcall : config.calls[number]? = some call) (hfinished : call.phase = .finished) :
    call.completions = [true] := by
  have hinv := hinvariant.calls number call hcall
  have hpending := hinv.drained (by simp [hfinished])
  obtain ⟨delivered, haccount, hlocals⟩ := hinv.account
  obtain ⟨store, hcompletions⟩ := hinv.completed hfinished
  rw [hpending, List.append_nil] at haccount
  have hdelivered : delivered.Perm call.request.imagesURL.zipIdx := haccount
  rw [hcompletions, hlocals, notified_delivered platform getData hdelivered]

/-- The only call on the view model: nothing is published before it completes,
and then the pictures of its description are. -/
structure OneCall (description : DecorDescription) (before : DecorDescriptionViewModel Image)
    (config : Calls Image) : Prop where
  invariant : (populateDecorDescriptionModel platform getData).Invariant config
  requests : config.calls.map SharedGroup.Call.request = [description]
  published : ∃ completions, config.calls.map SharedGroup.Call.completions = [completions] ∧
    (completions = [] ∧ config.store = before ∨
      completions = [true] ∧ config.store.model = some {
        id := description.id, images := outcomes platform getData 0 description })

theorem oneCall_call (description : DecorDescription) (before : DecorDescriptionViewModel Image) :
    OneCall platform getData description before
      ((populateDecorDescriptionModel platform getData).call (SharedGroup.initial before)
        description) where
  invariant := ((populateDecorDescriptionModel platform getData).invariant_initial before).call _
    description
  requests := by
    rw [SharedGroup.Program.call, SharedGroup.Program.map_settle_calls _
      SharedGroup.Program.submit_request]
    rfl
  published := by
    refine ⟨[], ?_, .inl ⟨rfl, ?_⟩⟩
    · rw [SharedGroup.Program.call, SharedGroup.Program.map_settle_calls _
        SharedGroup.Program.submit_completions]
      rfl
    · rw [SharedGroup.Program.call, SharedGroup.Program.settle_store]
      rfl

variable {platform getData}

theorem OneCall.deliver {description : DecorDescription}
    {before : DecorDescriptionViewModel Image} {config next : Calls Image}
    {delivery : SharedGroup.Delivery}
    (hone : OneCall platform getData description before config)
    (hstep : (populateDecorDescriptionModel platform getData).deliver config delivery =
      some next) : OneCall platform getData description before next := by
  obtain ⟨hinvariant, hrequests, completions, hcompletions, hpublished⟩ := hone
  have hnext := hinvariant.deliver _ hstep
  obtain ⟨call, hcalls, rfl⟩ := List.map_eq_singleton_iff.mp hrequests
  have honly : ∀ number other, config.calls[number]? = some other → number = 0 ∧ other = call := by
    intro number other hother
    rw [hcalls, List.getElem?_singleton] at hother
    split at hother
    next hzero => exact ⟨hzero, (Option.some.inj hother).symm⟩
    next => cases hother
  rcases (populateDecorDescriptionModel platform getData).deliver_cases hstep with
    ⟨number, _, other, _, rfl, hother, -, hafter⟩ | ⟨number, other, rfl, hother, -, hafter⟩
  · obtain ⟨rfl, rfl⟩ := honly number other hother
    refine { invariant := hnext, requests := ?_, published := ⟨completions, ?_, ?_⟩ }
    · rw [hafter, SharedGroup.Program.map_settle_calls _ SharedGroup.Program.submit_request, hcalls]
      rfl
    · rw [hafter, SharedGroup.Program.map_settle_calls _ SharedGroup.Program.submit_completions,
        ← hcompletions, hcalls]
      rfl
    · rw [hafter, SharedGroup.Program.settle_store]
      exact hpublished
  · obtain ⟨rfl, rfl⟩ := honly number other hother
    obtain ⟨_, delivered, hsame, -, -, hdelivered, hstore, hcompleted⟩ :=
      hinvariant.notified _ hstep
    obtain ⟨-, rfl⟩ := honly 0 _ hsame
    rw [notified_delivered platform getData hdelivered] at hstore hcompleted
    refine { invariant := hnext, requests := ?_, published := ⟨[true], ?_, .inr ⟨rfl, ?_⟩⟩ }
    · rw [hafter, hcalls]
      rfl
    · simp only [hafter, hcalls] at hcompleted ⊢
      simpa using hcompleted
    · rw [hstore]

theorem OneCall.run {description : DecorDescription}
    {before : DecorDescriptionViewModel Image} {start config : Calls Image}
    {deliveries : List SharedGroup.Delivery}
    (hone : OneCall platform getData description before start)
    (hrun : (populateDecorDescriptionModel platform getData).deliver.run start deliveries =
      some config) : OneCall platform getData description before config :=
  Machine.run_invariant (OneCall platform getData description before)
    (fun _ _ _ hone hstep => hone.deliver hstep) hone hrun

/-- What the completion of `getDecorDescription` has been called with: at once,
or by the completion of the call it made. -/
def reported (atOnce : List Bool) (config : Calls Image) : List Bool :=
  atOnce ++ config.calls.flatMap SharedGroup.Call.completions

theorem OneCall.reported {description : DecorDescription}
    {before : DecorDescriptionViewModel Image} {config : Calls Image}
    (hone : OneCall platform getData description before config) :
    reported [] config = [] ∧ config.store = before ∨
      reported [] config = [true] ∧ config.store.model = some {
        id := description.id, images := outcomes platform getData 0 description } := by
  obtain ⟨completions, hcompletions, hpublished⟩ := hone.published
  have hreported : DecorDescriptionViewModel.reported [] config = completions := by
    rw [DecorDescriptionViewModel.reported, List.nil_append, List.flatMap_def, hcompletions]
    simp
  rwa [hreported]

/-- At rest, the call has completed. -/
theorem OneCall.reported_of_halted {description : DecorDescription}
    {before : DecorDescriptionViewModel Image} {config : Calls Image}
    (hone : OneCall platform getData description before config)
    (hhalted : (populateDecorDescriptionModel platform getData).deliver.Halted config) :
    DecorDescriptionViewModel.reported [] config = [true] := by
  obtain ⟨call, hcalls, -⟩ := List.map_eq_singleton_iff.mp hone.requests
  have hcall : config.calls[0]? = some call := by simp [hcalls]
  have hcompletions := completions_eq platform getData hone.invariant hcall
    (hone.invariant.finished_of_halted _ hhalted hcall)
  simp [DecorDescriptionViewModel.reported, hcalls, hcompletions]

theorem getDecorDescription_of_decodes {reply : DescriptionReply}
    {description : DecorDescription}
    (hdecodes : reply.decodes DecorDescription.initFrom = some description)
    (viewModel : DecorDescriptionViewModel Image) :
    getDecorDescription platform getData reply viewModel =
      ((populateDecorDescriptionModel platform getData).call
        (SharedGroup.initial (fetchDecorDescription reply viewModel).1) description, []) := by
  simp [getDecorDescription, fetchDecorDescription, hdecodes]

theorem getDecorDescription_of_not_decodes {reply : DescriptionReply}
    (hdecodes : reply.decodes DecorDescription.initFrom = none)
    (viewModel : DecorDescriptionViewModel Image) :
    getDecorDescription platform getData reply viewModel =
      (SharedGroup.initial (fetchDecorDescription reply viewModel).1, [false]) := by
  simp [getDecorDescription, fetchDecorDescription, hdecodes]

/-- Nothing is delivered to a view model without calls. -/
theorem deliver_run_initial {viewModel : DecorDescriptionViewModel Image}
    {deliveries : List SharedGroup.Delivery} {config : Calls Image}
    (hrun : (populateDecorDescriptionModel platform getData).deliver.run
      (SharedGroup.initial viewModel) deliveries = some config) :
    deliveries = [] ∧ config = SharedGroup.initial viewModel := by
  cases deliveries with
  | nil => exact ⟨rfl, (Option.some.inj hrun).symm⟩
  | cons delivery rest =>
      obtain ⟨middle, hmiddle, -⟩ := Machine.run_cons_eq_some_iff.mp hrun
      cases delivery <;> cases hmiddle

end DecorDescriptionViewModel

end FlyEvents
