import FlyEvents.ViewModels.DecorDescriptionViewModel

/-! # The decor sheet

The sheet shows five pictures, which it reads from the published model at the
indices 0 to 4 once its view model has reported success. How many pictures the
model has is up to the document.
-/

namespace FlyEvents

open DecorDescriptionViewModel

variable {Image : Type}

/-- The images of the five image views. -/
structure DecorPictures (Image : Type) where
  leftTop : Option Image
  rightTop : Option Image
  middle : Option Image
  leftBottom : Option Image
  rightBottom : Option Image

/-- `updateUI`; `none` where an index is out of the range of the images. Without
a model it reads nothing and clears the views. -/
def updateUI (viewModel : DecorDescriptionViewModel Image) : Option (DecorPictures Image) :=
  match viewModel.model with
  | none => some {
      leftTop := none, rightTop := none, middle := none, leftBottom := none, rightBottom := none }
  | some decorDescriptionModel => do
      let leftTop ← decorDescriptionModel.images[0]?
      let rightTop ← decorDescriptionModel.images[1]?
      let middle ← decorDescriptionModel.images[2]?
      let leftBottom ← decorDescriptionModel.images[3]?
      let rightBottom ← decorDescriptionModel.images[4]?
      return { leftTop, rightTop, middle, leftBottom, rightBottom }

theorem updateUI_isSome_iff {viewModel : DecorDescriptionViewModel Image}
    {model : DecorDescriptionModel Image} (hmodel : viewModel.model = some model) :
    (updateUI viewModel).isSome = true ↔ 5 ≤ model.images.length := by
  simp only [updateUI, hmodel]
  constructor
  · intro hdrawn
    by_contra hshort
    have hlast : model.images[4]? = none := List.getElem?_eq_none (by omega)
    simp [hlast] at hdrawn
  · intro hlong
    have hget : ∀ index, index < 5 → ∃ image, model.images[index]? = some image := by
      intro index hindex
      exact ⟨_, List.getElem?_eq_getElem (by omega)⟩
    obtain ⟨leftTop, hleftTop⟩ := hget 0 (by omega)
    obtain ⟨rightTop, hrightTop⟩ := hget 1 (by omega)
    obtain ⟨middle, hmiddle⟩ := hget 2 (by omega)
    obtain ⟨leftBottom, hleftBottom⟩ := hget 3 (by omega)
    obtain ⟨rightBottom, hrightBottom⟩ := hget 4 (by omega)
    simp [hleftTop, hrightTop, hmiddle, hleftBottom, hrightBottom]

/-- A sheet whose loader has reported success can be drawn exactly when its
document has addresses for the five pictures. -/
theorem loaded_sheet_draws_iff (platform : Platform Image) (getData : Nat → Nat → GetDataReply)
    (reply : DescriptionReply) (viewModel : DecorDescriptionViewModel Image) :
    (∀ deliveries config,
        (populateDecorDescriptionModel platform getData).deliver.run
          (getDecorDescription platform getData reply viewModel).1 deliveries = some config →
        true ∈ reported (getDecorDescription platform getData reply viewModel).2 config →
        (updateUI config.store).isSome = true) ↔
      ∀ description, reply.decodes DecorDescription.initFrom = some description →
        5 ≤ description.imagesURL.length := by
  constructor
  · intro hdraws description hdecodes
    rw [getDecorDescription_of_decodes hdecodes] at hdraws
    have hstart :=
      oneCall_call platform getData description (fetchDecorDescription reply viewModel).1
    -- The call comes to rest, and has reported success then.
    obtain ⟨deliveries, config, hrun, hhalted⟩ :=
      (populateDecorDescriptionModel platform getData).exists_deliver_run_halted _
    have hone := hstart.run hrun
    have hreported := hone.reported_of_halted hhalted
    have hdrawn := hdraws deliveries config hrun (hreported ▸ List.mem_singleton_self true)
    rcases hone.reported with ⟨hsilent, -⟩ | ⟨-, hmodel⟩
    · rw [hsilent] at hreported
      cases hreported
    · simpa [outcomes] using (updateUI_isSome_iff hmodel).mp hdrawn
  · intro hlong deliveries config hrun hreported
    cases hdecodes : reply.decodes DecorDescription.initFrom with
    | none =>
        rw [getDecorDescription_of_not_decodes hdecodes] at hrun hreported
        obtain ⟨-, rfl⟩ := deliver_run_initial hrun
        simp [reported, SharedGroup.initial] at hreported
    | some description =>
        rw [getDecorDescription_of_decodes hdecodes] at hrun hreported
        rcases ((oneCall_call platform getData description _).run hrun).reported with
          ⟨hsilent, -⟩ | ⟨-, hmodel⟩
        · rw [hsilent] at hreported
          cases hreported
        · rw [updateUI_isSome_iff hmodel]
          simpa [outcomes] using hlong description hdecodes

/-- The document of a decor option with no pictures. -/
def picturelessReply : DescriptionReply where
  snapshot := some [{
    decodeString := fun key => if key = "id" then some "d1" else none
    decodeInt := fun _ => none
    decodeStrings := fun key => if key = "imagesURL" then some [] else none }]
  error := none

/-- Its sheet is loaded without a download, and the first read is out of range. -/
theorem picturelessReply_not_drawn :
    let loaded := getDecorDescription Platform.plain (fun _ _ => .ofData) picturelessReply {}
    ∃ config, (populateDecorDescriptionModel Platform.plain fun _ _ => .ofData).deliver.run
        loaded.1 [.notify 0] = some config ∧
      reported loaded.2 config = [true] ∧ updateUI config.store = none := by
  intro loaded
  exact ⟨_, rfl, rfl, rfl⟩

end FlyEvents
