import FlyEvents.Backend.StorageReference
import FlyEvents.ViewModels.DescriptionViewModels

/-! # One meaning of success

The screens act on the flag that a loader calls its completion with. `OneMeaning`
says what the flag should mean: the query gave what was asked for, and every
download that was issued gave an image. The loaders of DJ, BAR and FOTO, which
download one image after another, mean it so exactly if every address that they
come to is accepted, and the process does not end there.
-/

namespace FlyEvents

variable {Image Character : Type} [DecidableEq Character]

/-- A call of a loader from the callback of its query on, in a process that can
end: how it runs, what it was called on, and what of it is seen from outside. -/
structure LoaderCall (State Action Published : Type) where
  step : Machine (Option State) Action
  start : Option State
  before : Published
  /-- The query succeeded and gave what the loader asked for. -/
  fetched : Bool
  /-- For each download that was issued, whether it gave an image. -/
  issued : State → List Bool
  completions : State → List Bool
  published : State → Published

/-- The completion is called exactly once, with `true` exactly when the query
and every issued download succeeded; on `false` nothing is published. A process
that has ended calls nothing any more. -/
structure LoaderCall.OneMeaning {State Action Published : Type}
    (call : LoaderCall State Action Published) : Prop where
  bounded : ∃ bound, ∀ actions process, call.step.run call.start actions = some process →
    actions.length ≤ bound
  atMostOnce : ∀ actions state, call.step.run call.start actions = some (some state) →
    (call.completions state).length ≤ 1
  meaning : ∀ actions process, call.step.run call.start actions = some process →
    call.step.Halted process →
    ∃ state, process = some state ∧
      call.completions state = [call.fetched && (call.issued state).all id]
  kept : ∀ actions state, call.step.run call.start actions = some (some state) →
    false ∈ call.completions state → call.published state = call.before

/-- A call that ends the process does not have the one meaning. -/
theorem LoaderCall.not_oneMeaning_of_ended {State Action Published : Type}
    {call : LoaderCall State Action Published} {actions : List Action}
    (hended : ∀ action, call.step none action = none)
    (hrun : call.step.run call.start actions = some none) : ¬ call.OneMeaning := by
  intro hmeaning
  obtain ⟨state, hnone, -⟩ := hmeaning.meaning actions none hrun hended
  cases hnone

/-! ## Loaders that download one image after another -/

/-- A chain of downloads and the outcomes of those that have ended. -/
structure ChainState (Image ViewModel : Type) where
  chain : DownloadChain Image ViewModel
  issued : List Bool

namespace ChainState

variable {ViewModel : Type}

/-- `downloadImage` is called with the address that the chain has come to, and the
process ends at one that is not accepted. -/
def follow (storage : Storage Character) (state : ChainState Image ViewModel) :
    Option (ChainState Image ViewModel) :=
  match state.chain with
  | .downloadImage _ url _ => if storage.acceptsURL url then some state else none
  | .completion _ _ => some state

theorem follow_downloadImage (storage : Storage Character) (viewModel : ViewModel) (url : String)
    (callback : Option Image → DownloadChain Image ViewModel) (issued : List Bool) :
    follow storage { chain := .downloadImage viewModel url callback, issued } =
      if storage.acceptsURL url then
        some { chain := .downloadImage viewModel url callback, issued }
      else none := rfl

/-- The callback of the download the chain waits for. -/
def step (storage : Storage Character) (platform : Platform Image)
    (getData : Nat → GetDataReply) : Machine (Option (ChainState Image ViewModel)) Unit
  | none, () => none
  | some state, () =>
      match state.chain with
      | .downloadImage _ _ callback =>
          let image := downloadImage platform (getData state.issued.length)
          some (follow storage
            { chain := callback image, issued := state.issued ++ [image.isSome] })
      | .completion _ _ => none

def completions (state : ChainState Image ViewModel) : List Bool :=
  match state.chain with
  | .downloadImage _ _ _ => []
  | .completion _ success => [success]

def viewModel (state : ChainState Image ViewModel) : ViewModel :=
  match state.chain with
  | .downloadImage viewModel _ _ => viewModel
  | .completion viewModel _ => viewModel

end ChainState

variable {Description Model : Type}

/-- Along every branch of the chain, the flag at its end says whether all of its
downloads succeeded, and with `false` the model is the one there was before. -/
def DownloadChain.Faithful (before : Option Model) :
    Bool → DownloadChain Image (DescriptionViewModel Description Model) → Prop
  | succeeded, .completion viewModel success =>
      success = succeeded ∧ (success = false → viewModel.model = before)
  | succeeded, .downloadImage _ _ callback =>
      ∀ image, Faithful before (succeeded && image.isSome) (callback image)

/-- Every download that the chain comes to has an address that is accepted, with
so many downloads issued before. -/
def DownloadChain.Accepted {ViewModel : Type} (storage : Storage Character)
    (platform : Platform Image) (getData : Nat → GetDataReply) :
    Nat → DownloadChain Image ViewModel → Prop
  | _, .completion _ _ => True
  | issued, .downloadImage _ url callback =>
      storage.acceptsURL url = true ∧
        Accepted storage platform getData (issued + 1)
          (callback (FlyEvents.downloadImage platform (getData issued)))

/-- A call of a loader whose downloads form a chain. -/
def chainCall (storage : Storage Character) (platform : Platform Image)
    (getData : Nat → GetDataReply) (fetched : Bool) (before : Option Model)
    (chain : DownloadChain Image (DescriptionViewModel Description Model)) :
    LoaderCall (ChainState Image (DescriptionViewModel Description Model)) Unit
      (Option Model) where
  step := ChainState.step storage platform getData
  start := ChainState.follow storage { chain, issued := [] }
  before := before
  fetched := fetched
  issued := ChainState.issued
  completions := ChainState.completions
  published state := state.viewModel.model

section Chain

variable {storage : Storage Character} {platform : Platform Image} {getData : Nat → GetDataReply}

/-- No chain goes on for ever. -/
theorem chain_bounded (chain : DownloadChain Image (DescriptionViewModel Description Model))
    (issued : List Bool) :
    ∃ bound, ∀ actions process, (ChainState.step storage platform getData).run
      (ChainState.follow storage { chain, issued }) actions = some process →
      actions.length ≤ bound := by
  induction chain generalizing issued with
  | completion viewModel success =>
      refine ⟨0, fun actions process hrun => ?_⟩
      cases actions with
      | nil => exact Nat.le_refl 0
      | cons action rest =>
          obtain ⟨middle, hmiddle, -⟩ := Machine.run_cons_eq_some_iff.mp hrun
          cases hmiddle
  | downloadImage viewModel url callback ih =>
      obtain ⟨bound, hbound⟩ := ih (downloadImage platform (getData issued.length))
        (issued ++ [(downloadImage platform (getData issued.length)).isSome])
      refine ⟨bound + 1, fun actions process hrun => ?_⟩
      cases actions with
      | nil => exact Nat.zero_le _
      | cons action rest =>
          obtain ⟨middle, hmiddle, hrest⟩ := Machine.run_cons_eq_some_iff.mp hrun
          rw [ChainState.follow_downloadImage] at hmiddle
          split at hmiddle
          next =>
            cases hmiddle
            exact Nat.succ_le_succ (hbound rest process hrest)
          next => cases hmiddle

/-- A chain that comes to an address that is not accepted ends the process there. -/
theorem exists_chain_ended {chain : DownloadChain Image (DescriptionViewModel Description Model)}
    (issued : List Bool) (hrejected : ¬ chain.Accepted storage platform getData issued.length) :
    ∃ actions, (ChainState.step storage platform getData).run
      (ChainState.follow storage { chain, issued }) actions = some none := by
  induction chain generalizing issued with
  | completion viewModel success => exact absurd trivial hrejected
  | downloadImage viewModel url callback ih =>
      by_cases haccepted : storage.acceptsURL url = true
      · obtain ⟨actions, hrun⟩ := ih (downloadImage platform (getData issued.length))
          (issued ++ [(downloadImage platform (getData issued.length)).isSome])
          (fun hrest => hrejected ⟨haccepted, by simpa using hrest⟩)
        refine ⟨() :: actions, Machine.run_cons_eq_some_iff.mpr ⟨_, ?_, hrun⟩⟩
        rw [ChainState.follow_downloadImage, if_pos haccepted]
        rfl
      · exact ⟨[], by rw [ChainState.follow_downloadImage, if_neg haccepted, Machine.run_nil]⟩

/-- What is kept of a chain whose addresses are accepted: it is faithful for the
outcomes so far, and the addresses to come are accepted. -/
def Following (storage : Storage Character) (platform : Platform Image)
    (getData : Nat → GetDataReply) (before : Option Model) (fetched : Bool)
    (process : Option (ChainState Image (DescriptionViewModel Description Model))) : Prop :=
  ∃ state, process = some state ∧
    state.chain.Faithful before (fetched && state.issued.all id) ∧
    state.chain.Accepted storage platform getData state.issued.length

theorem following_follow {fetched : Bool} {before : Option Model}
    (state : ChainState Image (DescriptionViewModel Description Model))
    (hfaithful : state.chain.Faithful before (fetched && state.issued.all id))
    (haccepted : state.chain.Accepted storage platform getData state.issued.length) :
    Following storage platform getData before fetched (ChainState.follow storage state) := by
  refine ⟨state, ?_, hfaithful, haccepted⟩
  obtain ⟨chain, issued⟩ := state
  cases chain with
  | completion viewModel success => rfl
  | downloadImage viewModel url callback => exact if_pos haccepted.1

theorem Following.step {fetched : Bool} {before : Option Model}
    {process next : Option (ChainState Image (DescriptionViewModel Description Model))}
    {action : Unit} (hfollowing : Following storage platform getData before fetched process)
    (hstep : ChainState.step storage platform getData process action = some next) :
    Following storage platform getData before fetched next := by
  obtain ⟨⟨chain, issued⟩, rfl, hfaithful, haccepted⟩ := hfollowing
  cases chain with
  | completion viewModel success => cases hstep
  | downloadImage viewModel url callback =>
      cases hstep
      have himage := hfaithful (downloadImage platform (getData issued.length))
      exact following_follow _ (by simpa [Bool.and_assoc] using himage)
        (by simpa using haccepted.2)

/-- A call whose chain is faithful has the one meaning of success exactly when
the addresses it comes to are accepted. -/
theorem oneMeaning_iff_of_faithful {fetched : Bool} {before : Option Model}
    {chain : DownloadChain Image (DescriptionViewModel Description Model)}
    (hfaithful : chain.Faithful before fetched) :
    (chainCall storage platform getData fetched before chain).OneMeaning ↔
      chain.Accepted storage platform getData 0 := by
  constructor
  · intro hmeaning
    by_contra hrejected
    obtain ⟨actions, hrun⟩ := exists_chain_ended [] hrejected
    exact LoaderCall.not_oneMeaning_of_ended (fun _ => rfl) hrun hmeaning
  · intro haccepted
    have hfollowing : ∀ actions process, (ChainState.step storage platform getData).run
        (ChainState.follow storage { chain, issued := [] }) actions = some process →
        Following storage platform getData before fetched process := by
      intro actions process hrun
      exact Machine.run_invariant (Following storage platform getData before fetched)
        (fun _ _ _ hfollowing hstep => hfollowing.step hstep)
        (following_follow ⟨chain, []⟩ (by simpa using hfaithful) haccepted) hrun
    refine {
      bounded := chain_bounded chain []
      atMostOnce := ?_
      meaning := ?_
      kept := ?_ }
    · rintro actions ⟨chain, issued⟩ -
      cases chain with
      | completion viewModel success => exact Nat.le_refl 1
      | downloadImage viewModel url callback => exact Nat.zero_le 1
    · intro actions process hrun hhalted
      obtain ⟨⟨final, issued⟩, rfl, hfinal, -⟩ := hfollowing actions process hrun
      refine ⟨_, rfl, ?_⟩
      cases final with
      | completion viewModel success => exact congrArg (fun flag => [flag]) hfinal.1
      | downloadImage viewModel url callback => cases hhalted ()
    · intro actions state hrun hfalse
      obtain ⟨⟨final, issued⟩, ⟨rfl⟩, hfinal, -⟩ := hfollowing actions _ hrun
      cases final with
      | completion viewModel success => exact hfinal.2 (List.mem_singleton.mp hfalse).symm
      | downloadImage viewModel url callback => cases hfalse

/-- A call that finds a description goes on faithfully if its downloads do. -/
theorem faithful_getDescription {initFrom : DescriptionContainer → Option Description}
    {reply : DescriptionReply} {viewModel : DescriptionViewModel Description Model}
    {populate : Description → DescriptionViewModel Description Model →
      DownloadChain Image (DescriptionViewModel Description Model)}
    (hpopulate : ∀ description viewModel, (populate description viewModel).Faithful
      viewModel.model true) :
    (DescriptionViewModel.getDescription (fetchDescription initFrom reply viewModel)
      populate).Faithful viewModel.model (reply.decodes initFrom).isSome := by
  unfold DescriptionViewModel.getDescription
  rw [fetchDescription_description]
  cases hdecodes : reply.decodes initFrom with
  | none => exact ⟨rfl, fun _ => fetchDescription_model initFrom reply viewModel⟩
  | some description =>
      have hchain := hpopulate description (fetchDescription initFrom reply viewModel).1
      rwa [fetchDescription_model] at hchain

theorem accepted_getDescription_iff {initFrom : DescriptionContainer → Option Description}
    {reply : DescriptionReply} {viewModel : DescriptionViewModel Description Model}
    {populate : Description → DescriptionViewModel Description Model →
      DownloadChain Image (DescriptionViewModel Description Model)} {issued : Nat} :
    (DescriptionViewModel.getDescription (fetchDescription initFrom reply viewModel)
        populate).Accepted storage platform getData issued ↔
      ∀ description, reply.decodes initFrom = some description →
        (populate description (fetchDescription initFrom reply viewModel).1).Accepted storage
          platform getData issued := by
  unfold DescriptionViewModel.getDescription
  rw [fetchDescription_description]
  cases reply.decodes initFrom with
  | none => simp [DownloadChain.Accepted]
  | some description => simp

/-- A chain of two downloads that publishes its model after both is faithful. -/
theorem DownloadChain.faithful_twoDownloads {backgroundImageURL imageURL : String}
    {viewModel : DescriptionViewModel Description Model}
    {published : Image → Image → DescriptionViewModel Description Model} :
    Faithful viewModel.model true (.downloadImage viewModel backgroundImageURL fun
      | none => .completion viewModel false
      | some backgroundImage => .downloadImage viewModel imageURL fun
          | none => .completion viewModel false
          | some image => .completion (published backgroundImage image) true) := by
  intro backgroundImage
  cases backgroundImage with
  | none => exact ⟨rfl, fun _ => rfl⟩
  | some backgroundImage =>
      intro image
      cases image with
      | none => exact ⟨rfl, fun _ => rfl⟩
      | some image => exact ⟨rfl, fun hfalse => nomatch hfalse⟩

/-- The second address counts only if the first download gives an image. -/
theorem accepted_twoDownloads_iff {backgroundImageURL imageURL : String}
    {viewModel : DescriptionViewModel Description Model}
    {published : Image → Image → DescriptionViewModel Description Model} :
    DownloadChain.Accepted storage platform getData 0 (.downloadImage viewModel
      backgroundImageURL fun
        | none => .completion viewModel false
        | some backgroundImage => .downloadImage viewModel imageURL fun
            | none => .completion viewModel false
            | some image => .completion (published backgroundImage image) true) ↔
      storage.acceptsURL backgroundImageURL = true ∧
        ((downloadImage platform (getData 0)).isSome = true →
          storage.acceptsURL imageURL = true) := by
  simp only [DownloadChain.Accepted]
  refine and_congr_right fun _ => ?_
  cases downloadImage platform (getData 0) with
  | none => simp [DownloadChain.Accepted]
  | some backgroundImage =>
      simp only [DownloadChain.Accepted, zero_add, Option.isSome_some, forall_const]
      refine and_iff_left ?_
      cases downloadImage platform (getData 1) <;> trivial

end Chain

section Loaders

variable (storage : Storage Character) (platform : Platform Image)

def djLoader (getData : Nat → GetDataReply) (reply : DescriptionReply)
    (viewModel : DjDescriptionViewModel Image) :=
  chainCall storage platform getData (reply.decodes DjDescription.initFrom).isSome viewModel.model
    (viewModel.getDjDescription reply)

def barLoader (getData : Nat → GetDataReply) (reply : DescriptionReply)
    (viewModel : BarDescriptionViewModel Image) :=
  chainCall storage platform getData (reply.decodes BarDescription.initFrom).isSome viewModel.model
    (viewModel.getBarDescription reply)

def fotoLoader (getData : Nat → GetDataReply) (reply : DescriptionReply)
    (viewModel : FotoDescriptionViewModel Image) :=
  chainCall storage platform getData (reply.decodes FotoDescription.initFrom).isSome
    viewModel.model (viewModel.getFotoDescription reply)

variable {storage platform}

theorem djLoader_oneMeaning_iff (getData : Nat → GetDataReply) (reply : DescriptionReply)
    (viewModel : DjDescriptionViewModel Image) :
    (djLoader storage platform getData reply viewModel).OneMeaning ↔
      ∀ description, reply.decodes DjDescription.initFrom = some description →
        storage.acceptsURL description.backgroundImageURL = true ∧
        ((downloadImage platform (getData 0)).isSome = true →
          storage.acceptsURL description.imageURL = true) := by
  refine (oneMeaning_iff_of_faithful (faithful_getDescription
    fun _ _ => DownloadChain.faithful_twoDownloads)).trans (accepted_getDescription_iff.trans ?_)
  exact forall₂_congr fun _ _ => accepted_twoDownloads_iff

theorem barLoader_oneMeaning_iff (getData : Nat → GetDataReply) (reply : DescriptionReply)
    (viewModel : BarDescriptionViewModel Image) :
    (barLoader storage platform getData reply viewModel).OneMeaning ↔
      ∀ description, reply.decodes BarDescription.initFrom = some description →
        storage.acceptsURL description.backgroundImageURL = true ∧
        ((downloadImage platform (getData 0)).isSome = true →
          storage.acceptsURL description.imageURL = true) := by
  refine (oneMeaning_iff_of_faithful (faithful_getDescription
    fun _ _ => DownloadChain.faithful_twoDownloads)).trans (accepted_getDescription_iff.trans ?_)
  exact forall₂_congr fun _ _ => accepted_twoDownloads_iff

theorem fotoLoader_oneMeaning_iff (getData : Nat → GetDataReply) (reply : DescriptionReply)
    (viewModel : FotoDescriptionViewModel Image) :
    (fotoLoader storage platform getData reply viewModel).OneMeaning ↔
      ∀ description, reply.decodes FotoDescription.initFrom = some description →
        storage.acceptsURL description.imageURL = true := by
  have hfaithful : ∀ description (viewModel : FotoDescriptionViewModel Image),
      (DescriptionViewModel.populateFotoDescriptionModel description viewModel).Faithful
        viewModel.model true := by
    intro description viewModel image
    cases image with
    | none => exact ⟨rfl, fun _ => rfl⟩
    | some image => exact ⟨rfl, fun hfalse => nomatch hfalse⟩
  refine (oneMeaning_iff_of_faithful (faithful_getDescription hfaithful)).trans
    (accepted_getDescription_iff.trans (forall₂_congr fun description _ => ?_))
  simp only [DescriptionViewModel.populateFotoDescriptionModel, DownloadChain.Accepted]
  refine and_iff_left ?_
  cases downloadImage platform (getData 0) <;> trivial

end Loaders

end FlyEvents
