import FlyEvents.ViewModels.CatalogueLoad
import Mathlib.Algebra.Group.Int.Defs
import Mathlib.Data.String.Basic

/-! # One call of the catalogue load

A call is given by what the backend answers: the reply of its query and the
replies of the downloads it starts. A completed call is a function of these and
of the order in which the downloads end.
-/

namespace FlyEvents

variable {Image : Type}

open ServicesViewModel

/-- One call of `getServices`: the event it asks for, the backend as its query
finds it, and the replies of the downloads it starts. -/
structure Call where
  event : Event
  collection : String → QueryReply
  getData : Nat → GetDataReply

namespace Call

def Succeeded (call : Call) : Prop := (call.collection call.event.rawValue).error = none

instance (call : Call) : Decidable call.Succeeded := by
  unfold Succeeded
  infer_instance

/-- The options the query of the call returned and that decode. -/
def returned (call : Call) : List ServiceOptions :=
  if call.Succeeded then
    ((call.collection call.event.rawValue).snapshot.getD []).filterMap ServiceOptions.initFrom
  else []

/-- The options the call passes on to the loader when the earlier calls have
fetched the listed ones. -/
def passed (call : Call) (fetched : List ServiceOptions) : List ServiceOptions :=
  if call.Succeeded then fetched ++ call.returned else []

/-- The call, begun in one view model, completes in the other. -/
def Completes (platform : Platform Image) (call : Call)
    (before after : ServicesViewModel Image) : Prop :=
  ∃ actions config,
    (populateServicesModels platform call.getData).step.run
      (before.getServices call.collection call.event) actions = some config ∧
    config.phase = .finished ∧ config.store.viewModel = after

end Call

theorem foldl_appendDecoded (documents : List KeyedContainer)
    (viewModel : ServicesViewModel Image) :
    documents.foldl appendDecoded viewModel = { viewModel with
      serviceOptions :=
        viewModel.serviceOptions ++ documents.filterMap ServiceOptions.initFrom } := by
  induction documents generalizing viewModel with
  | nil => simp
  | cons document rest ih =>
      rw [List.foldl_cons, ih]
      cases hdecoded : ServiceOptions.initFrom document <;> simp [appendDecoded, hdecoded]

/-- What the query callback does: it appends the returned options, and passes
all fetched options on unless the query failed. -/
theorem fetchServices_eq (call : Call) (viewModel : ServicesViewModel Image) :
    viewModel.fetchServices call.collection call.event.rawValue =
      ({ viewModel with serviceOptions := viewModel.serviceOptions ++ call.returned },
        call.passed viewModel.serviceOptions) := by
  cases herror : (call.collection call.event.rawValue).error with
  | some error =>
      have hfailed : ¬ call.Succeeded := by simp [Call.Succeeded, herror]
      simp [fetchServices, Call.passed, Call.returned, herror, hfailed]
  | none =>
      have hsucceeded : call.Succeeded := herror
      simp [fetchServices, Call.passed, Call.returned, herror, hsucceeded, foldl_appendDecoded]

theorem getServices_eq (call : Call) (viewModel : ServicesViewModel Image) :
    viewModel.getServices call.collection call.event =
      populating (call.passed viewModel.serviceOptions)
        { viewModel with serviceOptions := viewModel.serviceOptions ++ call.returned } := by
  rw [getServices, fetchServices_eq]

/-- What a call leaves in a view model when its downloads end in the order in
which they were started. -/
def Call.loadedInOrder (platform : Platform Image) (call : Call)
    (viewModel : ServicesViewModel Image) : ServicesViewModel Image :=
  loaded platform call.getData
    { viewModel with serviceOptions := viewModel.serviceOptions ++ call.returned }
    ((populateServicesModels platform call.getData).tasks
      (call.passed viewModel.serviceOptions).zipIdx)

/-- Every call completes in some run. -/
theorem Call.completes_loadedInOrder (platform : Platform Image) (call : Call)
    (viewModel : ServicesViewModel Image) :
    call.Completes platform viewModel (call.loadedInOrder platform viewModel) := by
  obtain ⟨actions, config, hrun, hfinished, hstore⟩ :=
    exists_populating_run platform call.getData (call.passed viewModel.serviceOptions)
      { viewModel with serviceOptions := viewModel.serviceOptions ++ call.returned } _ (.refl _)
  refine ⟨actions, config, (getServices_eq call viewModel).symm ▸ hrun, hfinished, ?_⟩
  rw [hstore]
  rfl

/-- What one call adds: its options to the fetched ones, and to the array of a
service the models of everything it passed on. -/
theorem Call.Completes.spec {platform : Platform Image} {call : Call}
    {before after : ServicesViewModel Image} (hcall : call.Completes platform before after) :
    after.serviceOptions = before.serviceOptions ++ call.returned ∧
    (∀ service, (after.options service).Perm (before.options service ++
      published (platform.image call.getData) service
        (call.passed before.serviceOptions).zipIdx)) ∧
    after.servicesSections = Service.all.map after.options := by
  obtain ⟨actions, config, hrun, hfinished, rfl⟩ := hcall
  rw [getServices_eq] at hrun
  obtain ⟨downloads, hperm, hstore⟩ := populating_finished platform call.getData hrun hfinished
  rw [hstore]
  refine ⟨loaded_serviceOptions .., fun service => ?_, loaded_servicesSections ..⟩
  rw [loaded_options]
  refine (platform.sorting.perm _ _).trans ?_
  have hfiled : (filed platform call.getData service downloads).Perm
      (published (platform.image call.getData) service
        (call.passed before.serviceOptions).zipIdx) := filed_perm platform call.getData hperm
  cases service <;> exact hfiled.append_left _

/-- The published sections are the arrays of the services, and every model is
in the array of its service. -/
structure ServicesViewModel.Catalogued (viewModel : ServicesViewModel Image) : Prop where
  sections : viewModel.servicesSections = Service.all.map viewModel.options
  filed : ∀ service, ∀ option ∈ viewModel.options service, option.service = service.name

/-- What a call leaves in a fresh view model. -/
theorem Call.Completes.fresh_spec {platform : Platform Image} {call : Call}
    {after : ServicesViewModel Image} (hcall : call.Completes platform {} after) :
    after.servicesSections = Service.all.map after.options ∧
    ∀ service, (after.options service).Perm
      (published (platform.image call.getData) service call.returned.zipIdx) := by
  obtain ⟨-, hoptions, hsections⟩ := hcall.spec
  refine ⟨hsections, fun service => ?_⟩
  have hpassed : call.passed [] = call.returned := by
    unfold Call.passed Call.returned
    split <;> rfl
  have hperm := hoptions service
  rw [hpassed] at hperm
  cases service <;> exact hperm

theorem Call.Completes.catalogued {platform : Platform Image} {call : Call}
    {after : ServicesViewModel Image} (hcall : call.Completes platform {} after) :
    after.Catalogued := by
  obtain ⟨hsections, hoptions⟩ := hcall.fresh_spec
  refine ⟨hsections, fun service option hmem => ?_⟩
  exact service_of_mem_published ((hoptions service).mem_iff.mp hmem)

/-- A platform with one image, which any data but empty data is decoded to, whose
sort is insertion sort, whose strings are ordered by their characters, and whose
`Int` has 64 bits. -/
def Platform.plain : Platform Unit where
  uiImage data := if data.size = 0 then none else some ()
  sorting := SortBy.insertion
  titleLess first second := decide (first < second)
  titleLess_strictWeak := StrictWeak.of_key id
  fits value := decide (-2 ^ 63 ≤ value) && decide (value < 2 ^ 63)

/-- A reply that carries the data of an image. -/
def GetDataReply.ofData : GetDataReply where
  data := some ⟨#[1]⟩
  error := none

/-- A wedding catalogue with one option for each service. -/
def fullCatalogueCall : Call where
  event := .wedding
  collection _ :=
    { snapshot := some (Service.all.map fun service =>
        ServiceOptions.encode
          ⟨"Gold", 300, "wedding", service.name, "gs://fly/gold.png", service.name⟩)
      error := none }
  getData _ := GetDataReply.ofData

/-- The view model that a load of the catalogue leaves. -/
def fullCatalogue : ServicesViewModel Unit := fullCatalogueCall.loadedInOrder Platform.plain {}

theorem fullCatalogueCall_completes :
    fullCatalogueCall.Completes Platform.plain {} fullCatalogue :=
  fullCatalogueCall.completes_loadedInOrder Platform.plain {}

/-- A call whose query fails. -/
def failedQueryCall : Call where
  event := .wedding
  collection _ := { snapshot := none, error := some { localizedDescription := "offline" } }
  getData _ := GetDataReply.ofData

end FlyEvents
