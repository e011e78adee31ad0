import FlyEvents.ViewModels.CatalogueAddresses
import FlyEvents.ViewModels.DecorDescriptionViewModel
import FlyEvents.ViewModels.DescriptionLoaders

/-! # The meaning of success of the five loaders

The loaders of the catalogue and of the decorations start all their downloads at
once. Beside ending the process at an address that is not accepted, they report
success where the other loaders report that there is none. The results below say
exactly when this makes no difference.
-/

namespace FlyEvents

variable {Image Character : Type} [DecidableEq Character]

open ServicesViewModel DecorDescriptionViewModel

variable (storage : Storage Character) (platform : Platform Image)

def servicesLoader (call : Call) (viewModel : ServicesViewModel Image) :
    LoaderCall (TaskGroup.Config (ServiceOptions × Nat) Download (Loading Image))
      TaskGroup.Action (List (List (ServiceOptionModel Image))) where
  step := populatingProcess storage platform call.getData
  start := some (viewModel.getServices call.collection call.event)
  before := viewModel.servicesSections
  fetched := decide call.Succeeded
  issued _ := ((populateServicesModels platform call.getData).tasks
    (call.passed viewModel.serviceOptions).zipIdx).map fun download =>
      (downloadImage platform (call.getData download.position)).isSome
  completions config := config.store.completions
  published config := config.store.viewModel.servicesSections

/-- The loop over the addresses runs with the callback of the query, and ends the
process at one that is not accepted; nothing does after it. -/
def decorLoader (getData : Nat → Nat → GetDataReply) (reply : DescriptionReply)
    (viewModel : DecorDescriptionViewModel Image) :
    LoaderCall (Calls Image) SharedGroup.Delivery (Option (DecorDescriptionModel Image)) where
  step := (populateDecorDescriptionModel platform getData).deliver.ending fun _ _ => false
  start :=
    if (reply.decodes DecorDescription.initFrom).all fun description =>
        description.imagesURL.all storage.acceptsURL then
      some (getDecorDescription platform getData reply viewModel).1
    else none
  before := viewModel.model
  fetched := (reply.decodes DecorDescription.initFrom).isSome
  issued config := config.calls.flatMap fun call =>
    (outcomes platform getData 0 call.request).map Option.isSome
  completions := reported (getDecorDescription platform getData reply viewModel).2
  published config := config.store.model

variable {storage platform}

/-- Every option with a known service that the call passes on has a picture. -/
def Call.AllPictured (platform : Platform Image) (call : Call)
    (viewModel : ServicesViewModel Image) : Prop :=
  ∀ index option, (call.passed viewModel.serviceOptions)[index]? = some option →
    (Service.ofName? option.service).isSome = true →
    (downloadImage platform (call.getData index)).isSome = true

/-- Every option with a known service that the call passes on has an address that
is accepted. -/
def Call.AllAccepted (storage : Storage Character) (call : Call)
    (viewModel : ServicesViewModel Image) : Prop :=
  ∀ option ∈ call.passed viewModel.serviceOptions,
    (Service.ofName? option.service).isSome = true → storage.acceptsURL option.imageURL = true

theorem issued_services_iff (call : Call) (viewModel : ServicesViewModel Image)
    (config : TaskGroup.Config (ServiceOptions × Nat) Download (Loading Image)) :
    ((servicesLoader storage platform call viewModel).issued config).all id = true ↔
      call.AllPictured platform viewModel := by
  simp only [servicesLoader, List.all_map, List.all_eq_true, TaskGroup.Program.tasks,
    List.mem_filterMap, Call.AllPictured]
  constructor
  · intro hall index option hoption hknown
    obtain ⟨branch, hbranch⟩ := Option.isSome_iff_exists.mp hknown
    exact hall { position := index, service := option, branch }
      ⟨(option, index), List.mk_mem_zipIdx_iff_getElem?.mpr hoption,
        by simp [populateServicesModels, hbranch]⟩
  · rintro hall download ⟨⟨option, index⟩, hmem, hstart⟩
    obtain ⟨branch, hbranch, rfl⟩ := Option.map_eq_some_iff.mp hstart
    exact hall index option (List.mk_mem_zipIdx_iff_getElem?.mp hmem) (by simp [hbranch])

/-- At any point of a run the load has reported success or nothing. -/
theorem servicesLoader_completions {call : Call} {viewModel : ServicesViewModel Image}
    {actions : List TaskGroup.Action}
    {config : TaskGroup.Config (ServiceOptions × Nat) Download (Loading Image)}
    (hrun : (servicesLoader storage platform call viewModel).step.run
      (servicesLoader storage platform call viewModel).start actions = some (some config)) :
    config.store.completions = [] ∨ config.store.completions = [true] := by
  obtain ⟨hplain, -⟩ := Machine.run_of_ending_run hrun
  rw [getServices_eq] at hplain
  obtain ⟨downloads, hinvariant⟩ :=
    (populateServicesModels platform call.getData).invariant_run hplain
  rw [populating_completions platform call.getData hinvariant]
  split
  · exact .inr rfl
  · exact .inl rfl

/-- The catalogue load always reports success if it comes to its end, so its flag
means what it should exactly when it does and everything succeeded. -/
theorem servicesLoader_oneMeaning_iff (call : Call) (viewModel : ServicesViewModel Image) :
    (servicesLoader storage platform call viewModel).OneMeaning ↔
      call.Succeeded ∧ call.AllPictured platform viewModel ∧
        call.AllAccepted storage viewModel := by
  constructor
  · intro hmeaning
    obtain ⟨actions, process, hrun, hhalted⟩ := Machine.exists_run_halted _
      (populatingProcess_measure storage platform call.getData)
      (servicesLoader storage platform call viewModel).start
    obtain ⟨config, rfl, hreported⟩ := hmeaning.meaning actions process hrun hhalted
    have htrue : config.store.completions = [true] := by
      refine (servicesLoader_completions hrun).resolve_left fun hsilent => ?_
      cases hsilent.symm.trans hreported
    have hsucceeded := (List.cons.inj (htrue.symm.trans hreported)).1.symm
    rw [Bool.and_eq_true] at hsucceeded
    have haccepted : ∀ option ∈ call.passed viewModel.serviceOptions,
        storage.rejects option = false := by
      have hcompleted : (populatingProcess storage platform call.getData).run
          (some (viewModel.getServices call.collection call.event)) actions =
            some (some config) := hrun
      rw [getServices_eq] at hcompleted
      exact not_rejected_of_completed hcompleted htrue
    exact ⟨of_decide_eq_true hsucceeded.1, (issued_services_iff call viewModel config).mp
        hsucceeded.2, fun option hmem => Storage.rejects_eq_false_iff.mp (haccepted option hmem)⟩
  · rintro ⟨hsucceeded, hpictured, haccepted⟩
    have haccepted : ∀ option ∈ call.passed viewModel.serviceOptions,
        storage.rejects option = false :=
      fun option hmem => Storage.rejects_eq_false_iff.mpr (haccepted option hmem)
    refine {
      bounded := ⟨_, fun actions process hrun => Nat.le_trans (Nat.le_add_right _ _)
        (Machine.run_length_le _ (populatingProcess_measure storage platform call.getData) hrun)⟩
      atMostOnce := fun actions config hrun => ?_
      meaning := fun actions process hrun hhalted => ?_
      kept := fun actions config hrun hfalse => ?_ }
    · rcases servicesLoader_completions hrun with hnone | htrue
      · exact (congrArg List.length hnone).trans_le (Nat.zero_le 1)
      · exact (congrArg List.length htrue).le
    · have hloading : (populatingProcess storage platform call.getData).run
          (some (viewModel.getServices call.collection call.event)) actions = some process := hrun
      rw [getServices_eq] at hloading
      obtain ⟨config, rfl, hplain, hrests⟩ := populatingProcess_of_accepted haccepted hloading
      obtain ⟨downloads, hinvariant⟩ :=
        (populateServicesModels platform call.getData).invariant_run hplain
      have hcompleted : config.store.completions = [true] := by
        rw [populating_completions platform call.getData hinvariant, if_pos]
        exact (populateServicesModels platform call.getData).finished_of_halted hinvariant
          (hrests hhalted)
      refine ⟨config, rfl, ?_⟩
      rw [(issued_services_iff call viewModel config).mpr hpictured, Bool.and_true]
      exact hcompleted.trans (by simp [servicesLoader, hsucceeded])
    · have hcompletions := servicesLoader_completions hrun
      change false ∈ config.store.completions at hfalse
      rcases hcompletions with hnone | htrue
      · simp [hnone] at hfalse
      · simp [htrue] at hfalse

/-- The outcomes of the only call on the view model. -/
theorem issued_decor_eq {getData : Nat → Nat → GetDataReply} {reply : DescriptionReply}
    {viewModel before : DecorDescriptionViewModel Image} {description : DecorDescription}
    {config : Calls Image} (hone : OneCall platform getData description before config) :
    (decorLoader storage platform getData reply viewModel).issued config =
      (outcomes platform getData 0 description).map Option.isSome := by
  have hissued : (decorLoader storage platform getData reply viewModel).issued config =
      (config.calls.map SharedGroup.Call.request).flatMap fun request =>
        (outcomes platform getData 0 request).map Option.isSome := by
    rw [List.flatMap_map]
    rfl
  rw [hissued, hone.requests]
  simp

theorem all_outcomes_iff (getData : Nat → Nat → GetDataReply) (description : DecorDescription) :
    ((outcomes platform getData 0 description).map Option.isSome).all id = true ↔
      ∀ index < description.imagesURL.length,
        (downloadImage platform (getData 0 index)).isSome = true := by
  simp [outcomes]

/-- With its addresses accepted, the loader runs and comes to rest as the calls of
its view model do. -/
theorem decorLoader_of_accepted {getData : Nat → Nat → GetDataReply} {reply : DescriptionReply}
    {viewModel : DecorDescriptionViewModel Image}
    (haccepted : ∀ description, reply.decodes DecorDescription.initFrom = some description →
      ∀ url ∈ description.imagesURL, storage.acceptsURL url = true)
    {deliveries : List SharedGroup.Delivery} {process : Option (Calls Image)}
    (hrun : (decorLoader storage platform getData reply viewModel).step.run
      (decorLoader storage platform getData reply viewModel).start deliveries = some process) :
    ∃ config, process = some config ∧
      (populateDecorDescriptionModel platform getData).deliver.run
        (getDecorDescription platform getData reply viewModel).1 deliveries = some config ∧
      ((decorLoader storage platform getData reply viewModel).step.Halted process →
        (populateDecorDescriptionModel platform getData).deliver.Halted config) := by
  have hstart : (decorLoader storage platform getData reply viewModel).start =
      some (getDecorDescription platform getData reply viewModel).1 := by
    refine if_pos ?_
    cases hdecodes : reply.decodes DecorDescription.initFrom with
    | none => rfl
    | some description => simpa using haccepted description hdecodes
  rw [hstart] at hrun
  obtain ⟨config, hplain, rfl⟩ := Option.map_eq_some_iff.mp
    ((Machine.run_ending_of_safe (fun _ _ => rfl) _ deliveries).symm.trans hrun)
  exact ⟨config, rfl, hplain, (Machine.ending_halted_iff fun _ => rfl).mp⟩

/-- With a description the loader makes one call, and leaves the report to its
notify block. -/
theorem oneCall_of_decodes {getData : Nat → Nat → GetDataReply} {reply : DescriptionReply}
    {viewModel : DecorDescriptionViewModel Image} {description : DecorDescription}
    (hdecodes : reply.decodes DecorDescription.initFrom = some description)
    {deliveries : List SharedGroup.Delivery} {config : Calls Image}
    (hrun : (populateDecorDescriptionModel platform getData).deliver.run
      (getDecorDescription platform getData reply viewModel).1 deliveries = some config) :
    OneCall platform getData description (fetchDecorDescription reply viewModel).1 config := by
  rw [getDecorDescription_of_decodes hdecodes] at hrun
  exact (oneCall_call platform getData description _).run hrun

theorem decorLoader_completions {getData : Nat → Nat → GetDataReply} {reply : DescriptionReply}
    {viewModel : DecorDescriptionViewModel Image} {description : DecorDescription}
    (hdecodes : reply.decodes DecorDescription.initFrom = some description)
    (config : Calls Image) :
    (decorLoader storage platform getData reply viewModel).completions config =
      reported [] config := by
  simp [decorLoader, getDecorDescription_of_decodes hdecodes]

/-- Without a description the completion is called at once, and nothing runs. -/
theorem decorLoader_oneMeaning_of_not_decodes {getData : Nat → Nat → GetDataReply}
    {reply : DescriptionReply} (viewModel : DecorDescriptionViewModel Image)
    (hdecodes : reply.decodes DecorDescription.initFrom = none) :
    (decorLoader storage platform getData reply viewModel).OneMeaning := by
  have hinitial : ∀ deliveries process,
      (decorLoader storage platform getData reply viewModel).step.run
        (decorLoader storage platform getData reply viewModel).start deliveries = some process →
      deliveries = [] ∧ process = some (SharedGroup.initial
        (fetchDecorDescription reply viewModel).1) := by
    intro deliveries process hrun
    obtain ⟨config, rfl, hplain, -⟩ := decorLoader_of_accepted (by simp [hdecodes]) hrun
    simp only [getDecorDescription_of_not_decodes hdecodes] at hplain
    obtain ⟨rfl, rfl⟩ := deliver_run_initial hplain
    exact ⟨rfl, rfl⟩
  have hreported : ∀ config : Calls Image, config.calls = [] →
      (decorLoader storage platform getData reply viewModel).completions config = [false] := by
    intro config hcalls
    simp [decorLoader, getDecorDescription_of_not_decodes hdecodes, reported, hcalls]
  refine {
    bounded := ⟨0, fun deliveries process hrun => ?_⟩
    atMostOnce := fun deliveries config hrun => ?_
    meaning := fun deliveries process hrun hhalted => ?_
    kept := fun deliveries config hrun hfalse => ?_ }
  · obtain ⟨rfl, -⟩ := hinitial deliveries process hrun
    exact Nat.le_refl 0
  · obtain ⟨-, ⟨rfl⟩⟩ := hinitial deliveries _ hrun
    exact (congrArg List.length (hreported _ rfl)).le
  · obtain ⟨-, rfl⟩ := hinitial deliveries process hrun
    exact ⟨_, rfl, (hreported _ rfl).trans (by simp [decorLoader, hdecodes])⟩
  · obtain ⟨-, ⟨rfl⟩⟩ := hinitial deliveries _ hrun
    exact fetchDescription_model DecorDescription.initFrom reply viewModel

theorem decorLoader_oneMeaning_of_pictured {getData : Nat → Nat → GetDataReply}
    {reply : DescriptionReply} (viewModel : DecorDescriptionViewModel Image)
    {description : DecorDescription}
    (hdecodes : reply.decodes DecorDescription.initFrom = some description)
    (haccepted : ∀ url ∈ description.imagesURL, storage.acceptsURL url = true)
    (hpictured : ∀ index < description.imagesURL.length,
      (downloadImage platform (getData 0 index)).isSome = true) :
    (decorLoader storage platform getData reply viewModel).OneMeaning := by
  have hprocess : ∀ deliveries process,
      (decorLoader storage platform getData reply viewModel).step.run
        (decorLoader storage platform getData reply viewModel).start deliveries = some process →
      ∃ config, process = some config ∧
        (populateDecorDescriptionModel platform getData).deliver.run
          (getDecorDescription platform getData reply viewModel).1 deliveries = some config ∧
        ((decorLoader storage platform getData reply viewModel).step.Halted process →
          (populateDecorDescriptionModel platform getData).deliver.Halted config) := by
    intro deliveries process hrun
    refine decorLoader_of_accepted (fun other hother => ?_) hrun
    obtain rfl := Option.some.inj (hdecodes.symm.trans hother)
    exact haccepted
  refine {
    bounded := ⟨SharedGroup.Program.remaining
      (getDecorDescription platform getData reply viewModel).1, fun deliveries process hrun => ?_⟩
    atMostOnce := fun deliveries config hrun => ?_
    meaning := fun deliveries process hrun hhalted => ?_
    kept := fun deliveries config hrun hfalse => ?_ }
  · obtain ⟨config, -, hplain, -⟩ := hprocess deliveries process hrun
    exact (populateDecorDescriptionModel platform getData).deliver_run_length_le hplain
  · obtain ⟨_, ⟨rfl⟩, hplain, -⟩ := hprocess deliveries _ hrun
    rw [decorLoader_completions hdecodes]
    rcases (oneCall_of_decodes hdecodes hplain).reported with ⟨hnone, -⟩ | ⟨htrue, -⟩
    · simp [hnone]
    · simp [htrue]
  · obtain ⟨config, rfl, hplain, hrests⟩ := hprocess deliveries process hrun
    have hone := oneCall_of_decodes hdecodes hplain
    refine ⟨config, rfl, ?_⟩
    rw [decorLoader_completions hdecodes, issued_decor_eq hone,
      hone.reported_of_halted (hrests hhalted),
      (all_outcomes_iff getData description).mpr hpictured]
    simp [decorLoader, hdecodes]
  · obtain ⟨_, ⟨rfl⟩, hplain, -⟩ := hprocess deliveries _ hrun
    rw [decorLoader_completions hdecodes] at hfalse
    rcases (oneCall_of_decodes hdecodes hplain).reported with ⟨hnone, -⟩ | ⟨htrue, -⟩
    · simp [hnone] at hfalse
    · simp [htrue] at hfalse

/-- The decor loader reports failure exactly when the query gave no description,
so its flag means what it should unless a picture of a description is missing, or
one of its addresses ends the process. -/
theorem decorLoader_oneMeaning_iff (getData : Nat → Nat → GetDataReply) (reply : DescriptionReply)
    (viewModel : DecorDescriptionViewModel Image) :
    (decorLoader storage platform getData reply viewModel).OneMeaning ↔
      ∀ description, reply.decodes DecorDescription.initFrom = some description →
        (∀ url ∈ description.imagesURL, storage.acceptsURL url = true) ∧
        ∀ index < description.imagesURL.length,
          (downloadImage platform (getData 0 index)).isSome = true := by
  constructor
  · intro hmeaning description hdecodes
    have haccepted : ∀ url ∈ description.imagesURL, storage.acceptsURL url = true := by
      by_contra hrejected
      have hstart : (decorLoader storage platform getData reply viewModel).start = none := by
        refine if_neg fun hall => hrejected ?_
        simpa [hdecodes] using hall
      have hended : (decorLoader storage platform getData reply viewModel).step.run
          (decorLoader storage platform getData reply viewModel).start [] = some none := by
        rw [hstart, Machine.run_nil]
      exact LoaderCall.not_oneMeaning_of_ended (fun _ => rfl) hended hmeaning
    have hstart : (decorLoader storage platform getData reply viewModel).start =
        some (getDecorDescription platform getData reply viewModel).1 :=
      if_pos (by simpa [hdecodes] using haccepted)
    refine ⟨haccepted, ?_⟩
    obtain ⟨deliveries, config, hplain, hhalted⟩ :=
      (populateDecorDescriptionModel platform getData).exists_deliver_run_halted
        (getDecorDescription platform getData reply viewModel).1
    have hone := oneCall_of_decodes hdecodes hplain
    have hrun : (decorLoader storage platform getData reply viewModel).step.run
        (decorLoader storage platform getData reply viewModel).start deliveries =
          some (some config) := by
      rw [hstart]
      exact (Machine.run_ending_of_safe (fun _ _ => rfl) _ deliveries).trans (by rw [hplain]; rfl)
    obtain ⟨_, ⟨rfl⟩, hreported⟩ := hmeaning.meaning deliveries _ hrun
      ((Machine.ending_halted_iff fun _ => rfl).mpr hhalted)
    rw [decorLoader_completions hdecodes, hone.reported_of_halted hhalted, issued_decor_eq hone,
      List.cons.injEq, eq_comm, Bool.and_eq_true] at hreported
    exact (all_outcomes_iff getData description).mp hreported.1.2
  · intro hpictured
    cases hdecodes : reply.decodes DecorDescription.initFrom with
    | none => exact decorLoader_oneMeaning_of_not_decodes viewModel hdecodes
    | some description =>
        obtain ⟨haccepted, hpictured⟩ := hpictured description hdecodes
        exact decorLoader_oneMeaning_of_pictured viewModel hdecodes haccepted hpictured

/-- When the flag has its one meaning: for DJ, BAR and FOTO when the addresses
they come to are accepted, for the catalogue when in addition the query and all
downloads succeed, for the decorations when in addition no picture of a
description is missing. -/
theorem loaders_oneMeaning_iff (storage : Storage Character) (platform : Platform Image)
    (getData : Nat → GetDataReply) (decorData : Nat → Nat → GetDataReply)
    (reply : DescriptionReply) (dj : DjDescriptionViewModel Image)
    (bar : BarDescriptionViewModel Image) (foto : FotoDescriptionViewModel Image)
    (decor : DecorDescriptionViewModel Image) (call : Call) (services : ServicesViewModel Image) :
    ((djLoader storage platform getData reply dj).OneMeaning ↔
      ∀ description, reply.decodes DjDescription.initFrom = some description →
        storage.acceptsURL description.backgroundImageURL = true ∧
        ((downloadImage platform (getData 0)).isSome = true →
          storage.acceptsURL description.imageURL = true)) ∧
    ((barLoader storage platform getData reply bar).OneMeaning ↔
      ∀ description, reply.decodes BarDescription.initFrom = some description →
        storage.acceptsURL description.backgroundImageURL = true ∧
        ((downloadImage platform (getData 0)).isSome = true →
          storage.acceptsURL description.imageURL = true)) ∧
    ((fotoLoader storage platform getData reply foto).OneMeaning ↔
      ∀ description, reply.decodes FotoDescription.initFrom = some description →
        storage.acceptsURL description.imageURL = true) ∧
    ((servicesLoader storage platform call services).OneMeaning ↔
      call.Succeeded ∧ call.AllPictured platform services ∧ call.AllAccepted storage services) ∧
    ((decorLoader storage platform decorData reply decor).OneMeaning ↔
      ∀ description, reply.decodes DecorDescription.initFrom = some description →
        (∀ url ∈ description.imagesURL, storage.acceptsURL url = true) ∧
        ∀ index < description.imagesURL.length,
          (downloadImage platform (decorData 0 index)).isSome = true) :=
  ⟨djLoader_oneMeaning_iff getData reply dj, barLoader_oneMeaning_iff getData reply bar,
    fotoLoader_oneMeaning_iff getData reply foto, servicesLoader_oneMeaning_iff call services,
    decorLoader_oneMeaning_iff decorData reply decor⟩

/-- A failed query completes with `true`, at once and without a download. -/
theorem failedQueryCall_reports_success :
    let loader := servicesLoader (Storage.ofBucket "fly") Platform.plain failedQueryCall {}
    (∃ config, loader.step.run loader.start [.register, .notify] = some (some config) ∧
      loader.completions config = [true]) ∧
    ¬ loader.OneMeaning := by
  intro loader
  refine ⟨⟨_, rfl, rfl⟩, ?_⟩
  rw [servicesLoader_oneMeaning_iff]
  rintro ⟨hsucceeded, -⟩
  cases hsucceeded

end FlyEvents
