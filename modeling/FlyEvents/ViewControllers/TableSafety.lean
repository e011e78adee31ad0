import FlyEvents.ViewControllers.ServicesViewController

/-! # When the catalogue table can be drawn

The header of a section reads its first row, and the jump buttons scroll to
it. The loader publishes four sections whatever the query and the downloads
gave; a service without a downloaded option leaves its section empty.
-/

namespace FlyEvents

variable {Image : Type}

namespace ServicesViewController

theorem scrollToRow_isSome_iff {controller : ServicesViewController Image}
    {row sectionIndex : Nat} :
    (controller.scrollToRow ⟨row, sectionIndex⟩).isSome ↔
      (controller.viewModel.optionAt ⟨row, sectionIndex⟩).isSome := by
  rw [ServicesViewModel.optionAt_isSome_iff]
  unfold scrollToRow numberOfRowsInSection
  cases controller.viewModel.servicesSections[sectionIndex]? with
  | none => simp
  | some options => by_cases hrow : row < options.length <;> simp [hrow]

/-- Selecting a row that exists reads nothing out of range. -/
theorem didSelectRowAt_isSome {controller : ServicesViewController Image} {indexPath : IndexPath}
    (hoption : (controller.viewModel.optionAt indexPath).isSome) :
    (controller.didSelectRowAt indexPath).isSome := by
  obtain ⟨option, hoption⟩ := Option.isSome_iff_exists.mp hoption
  unfold didSelectRowAt
  split <;> simp [goToDjDescritpionViewController, goToBarDescriptionViewController,
    goToFotoDescritpionViewController, goToDecorDescritpionViewController, present, hoption]

/-- No index access of the screen is out of range: not for the header of a
section, not for a row of a section, and not for a jump button. -/
structure IndexSafe (controller : ServicesViewController Image) : Prop where
  header : ∀ sectionIndex < controller.numberOfSections,
    (controller.titleForHeaderInSection sectionIndex).isSome
  rows : ∀ sectionIndex < controller.numberOfSections, ∃ rows,
    controller.numberOfRowsInSection sectionIndex = some rows ∧ ∀ row < rows,
      (controller.cellForRowAt ⟨row, sectionIndex⟩).isSome ∧
      (controller.didSelectRowAt ⟨row, sectionIndex⟩).isSome
  jumps : controller.sectionButtonsEnabled = true →
    controller.didTapDJ.isSome ∧ controller.didTapBar.isSome ∧
    controller.didTapFoto.isSome ∧ controller.didTapDecor.isSome

/-- With the sections of the loader, the screen is safe exactly when no section
is empty. -/
theorem indexSafe_iff {controller : ServicesViewController Image}
    (hsections : controller.viewModel.servicesSections =
      Service.all.map controller.viewModel.options) :
    controller.IndexSafe ↔ ∀ service, controller.viewModel.options service ≠ [] := by
  have hfirst : ∀ service : Service,
      (controller.viewModel.optionAt ⟨0, service.sectionIndex⟩).isSome ↔
        controller.viewModel.options service ≠ [] := by
    intro service
    rw [ServicesViewModel.optionAt_isSome_iff, ServicesViewModel.section_getElem? hsections]
    simp [List.length_pos_iff]
  have hcount : controller.numberOfSections = 4 := by
    rw [numberOfSections, hsections]
    rfl
  constructor
  · intro hsafe service
    rw [← hfirst]
    have hheader := hsafe.header service.sectionIndex (hcount ▸ service.sectionIndex_lt)
    simpa [titleForHeaderInSection] using hheader
  · intro hnonempty
    -- Headers and jump buttons read a first row; all other reads are of counted rows.
    have hrow : ∀ sectionIndex < controller.numberOfSections,
        (controller.viewModel.optionAt ⟨0, sectionIndex⟩).isSome := by
      intro sectionIndex hlt
      rw [hcount] at hlt
      rcases sectionIndex with _ | _ | _ | _ | sectionIndex
      · exact (hfirst .dj).mpr (hnonempty .dj)
      · exact (hfirst .bar).mpr (hnonempty .bar)
      · exact (hfirst .foto).mpr (hnonempty .foto)
      · exact (hfirst .decor).mpr (hnonempty .decor)
      · omega
    refine ⟨?_, ?_, fun _ => ?_⟩
    · intro sectionIndex hlt
      simpa [titleForHeaderInSection] using hrow sectionIndex hlt
    · intro sectionIndex hlt
      obtain ⟨options, hoptions, -⟩ :=
        ServicesViewModel.optionAt_isSome_iff.mp (hrow sectionIndex hlt)
      refine ⟨options.length, by simp [numberOfRowsInSection, hoptions], fun row hlength => ?_⟩
      have hoption := ServicesViewModel.optionAt_isSome_iff.mpr ⟨options, hoptions, hlength⟩
      exact ⟨by simpa [cellForRowAt] using hoption, didSelectRowAt_isSome hoption⟩
    · refine ⟨?_, ?_, ?_, ?_⟩
      all_goals
        apply scrollToRow_isSome_iff.mpr
        apply hrow
        rw [hcount]
        decide

end ServicesViewController

/-- Some option of the service that the query returned has a downloaded image. -/
def Call.Offers (platform : Platform Image) (call : Call) (service : Service) : Prop :=
  ∃ option position, (option, position) ∈ call.returned.zipIdx ∧
    option.service = service.name ∧ (platform.image call.getData position).isSome

theorem Call.offers_iff (platform : Platform Image) (call : Call) (service : Service) :
    call.Offers platform service ↔
      published (platform.image call.getData) service call.returned.zipIdx ≠ [] := by
  constructor
  · rintro ⟨option, position, hmem, hservice, himage⟩
    obtain ⟨picture, hpicture⟩ := Option.isSome_iff_exists.mp himage
    apply List.ne_nil_of_mem
    exact mem_published_iff.mpr ⟨option, position, picture, hmem, hservice, hpicture, rfl⟩
  · intro hpublished
    obtain ⟨model, hmodel⟩ := List.exists_mem_of_ne_nil _ hpublished
    obtain ⟨option, position, picture, hmem, hservice, hpicture, -⟩ := mem_published_iff.mp hmodel
    exact ⟨option, position, hmem, hservice, Option.isSome_of_eq_some hpicture⟩

/-- After the completion of the load of a catalogue, in any run of it, no index
access is out of range if and only if every service has an option to show. -/
theorem table_safe_iff (platform : Platform Image) (call : Call)
    (viewModel : ServicesViewModel Image) (hload : call.Completes platform {} viewModel) :
    ((ServicesViewController.opened call.event).loadAllData viewModel).IndexSafe ↔
      ∀ service, call.Offers platform service := by
  obtain ⟨hsections, hoptions⟩ := hload.fresh_spec
  rw [ServicesViewController.indexSafe_iff hsections]
  refine forall_congr' fun service => ?_
  rw [Call.offers_iff]
  have hperm := hoptions service
  exact not_congr ⟨fun h => (h ▸ hperm).nil_eq.symm, fun h => (h ▸ hperm).eq_nil⟩

theorem table_safe_fullCatalogue :
    ((ServicesViewController.opened .wedding).loadAllData fullCatalogue).IndexSafe := by
  refine (table_safe_iff Platform.plain fullCatalogueCall _ fullCatalogueCall_completes).mpr ?_
  intro service
  cases service with
  | dj => exact ⟨_, 0, List.mem_zipIdx_iff_getElem?.mpr rfl, rfl, rfl⟩
  | bar => exact ⟨_, 1, List.mem_zipIdx_iff_getElem?.mpr rfl, rfl, rfl⟩
  | foto => exact ⟨_, 2, List.mem_zipIdx_iff_getElem?.mpr rfl, rfl, rfl⟩
  | decor => exact ⟨_, 3, List.mem_zipIdx_iff_getElem?.mpr rfl, rfl, rfl⟩

/-- The load of a failed query completes with four empty sections: the header
of the first one and the jump button for it are out of range. -/
theorem failedQuery_not_indexSafe :
    ∃ viewModel, failedQueryCall.Completes Platform.plain {} viewModel ∧
      ((ServicesViewController.opened .wedding).loadAllData viewModel).titleForHeaderInSection
        0 = none ∧
      ((ServicesViewController.opened .wedding).loadAllData viewModel).didTapDJ = none ∧
      ¬ ((ServicesViewController.opened .wedding).loadAllData viewModel).IndexSafe := by
  refine ⟨_, ⟨[.register, .notify], _, rfl, rfl, rfl⟩, rfl, rfl, ?_⟩
  intro hsafe
  exact absurd (hsafe.header 0 (by decide)) (by decide)

end FlyEvents
