import FlyEvents.ViewModels.ServicesViewModel
import Mathlib.Data.Int.Order.Basic

/-! # What a catalogue load publishes

A load is for one thing: to publish, by service, a model of every option whose
image was downloaded. `published` states this for numbered options and the
images of their downloads, without loop, group or order. The results below
connect the loop of the view model to it, for every order of the callbacks.
-/

namespace FlyEvents

variable {Image : Type}

/-- The models of the numbered options that have the service and an image. -/
def published (image : Nat → Option Image) (service : Service)
    (numbered : List (ServiceOptions × Nat)) : List (ServiceOptionModel Image) :=
  numbered.filterMap fun option =>
    if option.1.service = service.name then (image option.2).map option.1.model else none

theorem mem_published_iff {image : Nat → Option Image} {service : Service}
    {numbered : List (ServiceOptions × Nat)} {model : ServiceOptionModel Image} :
    model ∈ published image service numbered ↔
      ∃ option position picture, (option, position) ∈ numbered ∧
        option.service = service.name ∧ image position = some picture ∧
        option.model picture = model := by
  constructor
  · intro hmem
    obtain ⟨⟨option, position⟩, hoption, hmodel⟩ := List.mem_filterMap.mp hmem
    dsimp only at hmodel
    split at hmodel
    next hservice =>
      obtain ⟨picture, hpicture, hmodel⟩ := Option.map_eq_some_iff.mp hmodel
      exact ⟨option, position, picture, hoption, hservice, hpicture, hmodel⟩
    next => cases hmodel
  · rintro ⟨option, position, picture, hoption, hservice, hpicture, rfl⟩
    exact List.mem_filterMap.mpr ⟨(option, position), hoption, by simp [hservice, hpicture]⟩

theorem published_append (image : Nat → Option Image) (service : Service)
    (first second : List (ServiceOptions × Nat)) :
    published image service (first ++ second) =
      published image service first ++ published image service second :=
  List.filterMap_append

/-- A published model carries the service it is filed under. -/
theorem service_of_mem_published {image : Nat → Option Image} {service : Service}
    {numbered : List (ServiceOptions × Nat)} {model : ServiceOptionModel Image}
    (hmem : model ∈ published image service numbered) : model.service = service.name := by
  obtain ⟨option, -, picture, -, hservice, -, rfl⟩ := mem_published_iff.mp hmem
  exact hservice

namespace Service

/-- The services in the order of the sections. -/
def all : List Service := [.dj, .bar, .foto, .decor]

theorem all_getElem? (service : Service) : all[service.sectionIndex]? = some service := by
  cases service <;> rfl

end Service

namespace Platform

/-- The image a numbered download gives. -/
def image (platform : Platform Image) (getData : Nat → GetDataReply) (position : Nat) :
    Option Image :=
  downloadImage platform (getData position)

/-- The predicate the array of a service is sorted by: the title for the
decorations, the price for the others. -/
def less (platform : Platform Image) :
    Service → ServiceOptionModel Image → ServiceOptionModel Image → Bool
  | .decor => fun first second => platform.titleLess first.title second.title
  | _ => fun first second => decide (first.price < second.price)

theorem less_strictWeak (platform : Platform Image) (service : Service) :
    StrictWeak (platform.less service) := by
  cases service with
  | decor => exact platform.titleLess_strictWeak.comap ServiceOptionModel.title
  | _ => exact StrictWeak.of_key ServiceOptionModel.price

end Platform

namespace ServicesViewModel

variable (platform : Platform Image) (getData : Nat → GetDataReply)

theorem publish_options (viewModel : ServicesViewModel Image) (service : Service) :
    (viewModel.publish platform).options service =
      platform.sorting.sort (platform.less service) (viewModel.options service) := by
  cases service <;> rfl

@[simp] theorem publish_serviceOptions (viewModel : ServicesViewModel Image) :
    (viewModel.publish platform).serviceOptions = viewModel.serviceOptions := rfl

/-- The models that the callbacks of the listed downloads file under a
service, in the order of the callbacks. -/
def filed (service : Service) (downloads : List Download) : List (ServiceOptionModel Image) :=
  downloads.filterMap fun download =>
    if download.branch = service then
      (platform.image getData download.position).map download.service.model
    else none

theorem filed_append (service : Service) (first second : List Download) :
    filed platform getData service (first ++ second) =
      filed platform getData service first ++ filed platform getData service second :=
  List.filterMap_append

theorem imageFetched_options (viewModel : ServicesViewModel Image) (download : Download)
    (service : Service) :
    (viewModel.imageFetched platform (getData download.position) download).options service =
      viewModel.options service ++ filed platform getData service [download] := by
  unfold imageFetched filed Platform.image
  cases himage : downloadImage platform (getData download.position) with
  | none => simp [himage]
  | some image =>
      rw [append_options]
      by_cases hbranch : download.branch = service <;> simp [himage, hbranch]

theorem imageFetched_serviceOptions (viewModel : ServicesViewModel Image) (reply : GetDataReply)
    (download : Download) :
    (viewModel.imageFetched platform reply download).serviceOptions =
      viewModel.serviceOptions := by
  unfold imageFetched
  split <;> simp

/-- What the callbacks of the listed downloads leave in the view model. -/
theorem deliver_options (downloads : List Download) (loading : Loading Image)
    (service : Service) :
    ((populateServicesModels platform getData).deliver downloads loading).viewModel.options
        service =
      loading.viewModel.options service ++ filed platform getData service downloads := by
  induction downloads generalizing loading with
  | nil => simp [filed]
  | cons download rest ih =>
      have hcallback : ((populateServicesModels platform getData).callback download
          loading).viewModel.options service =
            loading.viewModel.options service ++ filed platform getData service [download] :=
        imageFetched_options platform getData loading.viewModel download service
      rw [TaskGroup.Program.deliver_cons, ih, hcallback, List.append_assoc, ← filed_append]
      rfl

theorem deliver_serviceOptions (downloads : List Download) (loading : Loading Image) :
    ((populateServicesModels platform getData).deliver downloads
      loading).viewModel.serviceOptions = loading.viewModel.serviceOptions := by
  induction downloads generalizing loading with
  | nil => rfl
  | cons download rest ih => exact (ih _).trans (imageFetched_serviceOptions platform _ _ download)

theorem deliver_completions (downloads : List Download) (loading : Loading Image) :
    ((populateServicesModels platform getData).deliver downloads loading).completions =
      loading.completions := by
  induction downloads generalizing loading with
  | nil => rfl
  | cons download rest ih => exact ih _

/-- The downloads the loop starts file exactly the published models. -/
theorem filed_tasks (service : Service) (numbered : List (ServiceOptions × Nat)) :
    filed platform getData service ((populateServicesModels platform getData).tasks numbered) =
      published (platform.image getData) service numbered := by
  unfold filed published TaskGroup.Program.tasks
  rw [List.filterMap_filterMap]
  congr 1
  funext option
  simp only [populateServicesModels]
  cases hbranch : Service.ofName? option.1.service with
  | none =>
      have hunknown : option.1.service ≠ service.name := by
        intro heq
        simp [heq] at hbranch
      simp [hunknown]
  | some branch =>
      -- The switch files a model under the service that its string names.
      have hname := Service.ofName?_eq_some_iff.mp hbranch
      have hiff : option.1.service = service.name ↔ branch = service := by
        rw [hname]
        exact Service.name_injective.eq_iff
      simp [hiff]

theorem filed_perm {service : Service} {downloads : List Download}
    {numbered : List (ServiceOptions × Nat)}
    (hperm : downloads.Perm ((populateServicesModels platform getData).tasks numbered)) :
    (filed platform getData service downloads).Perm
      (published (platform.image getData) service numbered) := by
  rw [← filed_tasks]
  exact hperm.filterMap _

/-- The view model that a load leaves behind when its downloads end in the
listed order. -/
def loaded (viewModel : ServicesViewModel Image) (downloads : List Download) :
    ServicesViewModel Image :=
  (((populateServicesModels platform getData).deliver downloads
    { viewModel, completions := [] }).viewModel).publish platform

theorem loaded_options (viewModel : ServicesViewModel Image) (downloads : List Download)
    (service : Service) :
    (viewModel.loaded platform getData downloads).options service =
      platform.sorting.sort (platform.less service)
        (viewModel.options service ++ filed platform getData service downloads) := by
  rw [loaded, publish_options, deliver_options]

theorem loaded_fresh_options (downloads : List Download) (service : Service) :
    (({} : ServicesViewModel Image).loaded platform getData downloads).options service =
      platform.sorting.sort (platform.less service)
        (filed platform getData service downloads) := by
  rw [loaded_options]
  cases service <;> rfl

theorem loaded_servicesSections (viewModel : ServicesViewModel Image)
    (downloads : List Download) :
    (viewModel.loaded platform getData downloads).servicesSections =
      Service.all.map (viewModel.loaded platform getData downloads).options := rfl

theorem section_getElem? {viewModel : ServicesViewModel Image}
    (hsections : viewModel.servicesSections = Service.all.map viewModel.options)
    (service : Service) :
    viewModel.servicesSections[service.sectionIndex]? = some (viewModel.options service) := by
  rw [hsections, List.getElem?_map, Service.all_getElem?]
  rfl

theorem loaded_getElem? (viewModel : ServicesViewModel Image) (downloads : List Download)
    (service : Service) :
    (viewModel.loaded platform getData downloads).servicesSections[service.sectionIndex]? =
      some ((viewModel.loaded platform getData downloads).options service) :=
  section_getElem? (loaded_servicesSections ..) service

@[simp] theorem loaded_serviceOptions (viewModel : ServicesViewModel Image)
    (downloads : List Download) :
    (viewModel.loaded platform getData downloads).serviceOptions = viewModel.serviceOptions := by
  rw [loaded, publish_serviceOptions, deliver_serviceOptions]

theorem notify_deliver (viewModel : ServicesViewModel Image) (downloads : List Download) :
    (populateServicesModels platform getData).notify
        ((populateServicesModels platform getData).deliver downloads
          { viewModel, completions := [] }) =
      { viewModel := viewModel.loaded platform getData downloads, completions := [true] } := by
  change Loading.mk _ (Loading.completions _ ++ [true]) = _
  rw [deliver_completions]
  rfl

/-- The completion of a load is called by its notify block, and with `true`. -/
theorem populating_completions {services : List ServiceOptions}
    {viewModel : ServicesViewModel Image} {downloads : List Download}
    {config : TaskGroup.Config (ServiceOptions × Nat) Download (Loading Image)}
    (hinvariant : (populateServicesModels platform getData).Invariant services.zipIdx
      { viewModel, completions := [] } downloads config) :
    config.store.completions = if config.phase = .finished then [true] else [] := by
  rw [hinvariant.store]
  split
  next => rw [notify_deliver]
  next => exact deliver_completions platform getData downloads _

/-- A completed load has delivered every download it started once, and its
outcome is a function of the order of the deliveries. -/
theorem populating_finished {services : List ServiceOptions}
    {viewModel : ServicesViewModel Image} {actions : List TaskGroup.Action}
    {config : TaskGroup.Config (ServiceOptions × Nat) Download (Loading Image)}
    (hrun : (populateServicesModels platform getData).step.run (viewModel.populating services)
      actions = some config)
    (hfinished : config.phase = .finished) :
    ∃ downloads,
      downloads.Perm ((populateServicesModels platform getData).tasks services.zipIdx) ∧
      config.store =
        { viewModel := viewModel.loaded platform getData downloads, completions := [true] } := by
  obtain ⟨downloads, hperm, hstore⟩ :=
    (populateServicesModels platform getData).finished_run hrun hfinished
  exact ⟨downloads, hperm, hstore.trans (notify_deliver platform getData viewModel downloads)⟩

/-- Every order of the started downloads is the order of some completed load. -/
theorem exists_populating_run (services : List ServiceOptions)
    (viewModel : ServicesViewModel Image) (downloads : List Download)
    (hperm : downloads.Perm
      ((populateServicesModels platform getData).tasks services.zipIdx)) :
    ∃ actions config,
      (populateServicesModels platform getData).step.run (viewModel.populating services)
        actions = some config ∧
      config.phase = .finished ∧
      config.store =
        { viewModel := viewModel.loaded platform getData downloads, completions := [true] } := by
  obtain ⟨actions, config, hrun, hfinished, hstore⟩ :=
    (populateServicesModels platform getData).exists_run_of_perm services.zipIdx
      { viewModel, completions := [] } downloads hperm
  exact ⟨actions, config, hrun, hfinished,
    hstore.trans (notify_deliver platform getData viewModel downloads)⟩

end ServicesViewModel

end FlyEvents
