import FlyEvents.Data.ServiceOptions
import FlyEvents.Foundation.SortBy
import FlyEvents.Foundation.TaskGroup

/-! # The catalogue view model

`fetchServices` appends the decoded documents of a query to the fetched
options; `populateServicesModels` downloads an image for each of them, files a
model in the array of its service, and publishes the four sorted arrays when
the dispatch group is empty. The downloads are tasks of a group, so their
callbacks run in any order and at any time, also before the loop has ended.

A call to `downloadImage` is taken to run its callback once; the addresses for
which the storage library ends the process are outside this module.
-/

namespace FlyEvents

/-- An error of the backend, of which the app only shows the description. -/
structure BackendError where
  localizedDescription : String
  deriving DecidableEq

/-- The arguments of the callback of a query. -/
structure QueryReply where
  snapshot : Option (List KeyedContainer)
  error : Option BackendError

/-- The arguments of the callback of a storage download. -/
structure GetDataReply where
  data : Option ByteArray
  error : Option BackendError

/-- What the app takes from its platform: the image decoder, the sort of its
arrays, the order of its strings, and the integers its `Int` holds. -/
structure Platform (Image : Type) where
  uiImage : ByteArray → Option Image
  sorting : SortBy (ServiceOptionModel Image)
  titleLess : String → String → Bool
  titleLess_strictWeak : StrictWeak titleLess
  fits : Int → Bool

variable {Image : Type}

/-- `downloadImage`: what its callback is called with. -/
def downloadImage (platform : Platform Image) (reply : GetDataReply) : Option Image :=
  match reply.error with
  | some _ => none
  | none =>
      match reply.data with
      | some data => platform.uiImage data
      | none => none

structure ServicesViewModel (Image : Type) where
  serviceOptions : List ServiceOptions := []
  serviceOptionsDJ : List (ServiceOptionModel Image) := []
  serviceOptionsBar : List (ServiceOptionModel Image) := []
  serviceOptionsFoto : List (ServiceOptionModel Image) := []
  serviceOptionsDecor : List (ServiceOptionModel Image) := []
  servicesSections : List (List (ServiceOptionModel Image)) := []

/-- The model built from an option and its image. -/
def ServiceOptions.model (option : ServiceOptions) (image : Image) : ServiceOptionModel Image where
  title := option.title
  price := option.price
  event := option.event
  service := option.service
  image := some image
  id := option.id

/-- A started download: the option it is for, the branch of the switch that
started it, and its place in the order of the downloads. -/
structure Download where
  position : Nat
  service : ServiceOptions
  branch : Service
  deriving DecidableEq

/-- A call of `populateServicesModels` in progress: the view model and the
values its completion was called with. -/
structure Loading (Image : Type) where
  viewModel : ServicesViewModel Image
  completions : List Bool

namespace ServicesViewModel

/-- The array that the branch for a service fills. -/
def options (viewModel : ServicesViewModel Image) : Service → List (ServiceOptionModel Image)
  | .dj => viewModel.serviceOptionsDJ
  | .bar => viewModel.serviceOptionsBar
  | .foto => viewModel.serviceOptionsFoto
  | .decor => viewModel.serviceOptionsDecor

def append (viewModel : ServicesViewModel Image) (service : Service)
    (option : ServiceOptionModel Image) : ServicesViewModel Image :=
  match service with
  | .dj => { viewModel with serviceOptionsDJ := viewModel.serviceOptionsDJ ++ [option] }
  | .bar => { viewModel with serviceOptionsBar := viewModel.serviceOptionsBar ++ [option] }
  | .foto => { viewModel with serviceOptionsFoto := viewModel.serviceOptionsFoto ++ [option] }
  | .decor => { viewModel with serviceOptionsDecor := viewModel.serviceOptionsDecor ++ [option] }

@[simp] theorem append_serviceOptions (viewModel : ServicesViewModel Image) (service : Service)
    (option : ServiceOptionModel Image) :
    (viewModel.append service option).serviceOptions = viewModel.serviceOptions := by
  cases service <;> rfl

theorem append_options (viewModel : ServicesViewModel Image) (service other : Service)
    (option : ServiceOptionModel Image) :
    (viewModel.append service option).options other =
      viewModel.options other ++ if service = other then [option] else [] := by
  cases service <;> cases other <;> simp [append, options]

/-- The loop body of `fetchServices` for one document of the snapshot. -/
def appendDecoded (viewModel : ServicesViewModel Image) (document : KeyedContainer) :
    ServicesViewModel Image :=
  match ServiceOptions.initFrom document with
  | some serviceOption =>
      { viewModel with serviceOptions := viewModel.serviceOptions ++ [serviceOption] }
  | none => viewModel

/-- `fetchServices`: the view model after the callback of the query, and the
list its completion is called with. -/
def fetchServices (collection : String → QueryReply) (event : String)
    (viewModel : ServicesViewModel Image) : ServicesViewModel Image × List ServiceOptions :=
  match (collection event).error with
  | some _ => (viewModel, [])
  | none =>
      let fetched := ((collection event).snapshot.getD []).foldl appendDecoded viewModel
      (fetched, fetched.serviceOptions)

/-- The callback of a download started by a branch of the switch. -/
def imageFetched (platform : Platform Image) (reply : GetDataReply) (download : Download)
    (viewModel : ServicesViewModel Image) : ServicesViewModel Image :=
  match downloadImage platform reply with
  | some image => viewModel.append download.branch (download.service.model image)
  | none => viewModel

/-- The notify block: sort the four arrays in place and publish them. -/
def publish (platform : Platform Image) (viewModel : ServicesViewModel Image) :
    ServicesViewModel Image :=
  let serviceOptionsDJ :=
    platform.sorting.sort (fun a b => decide (a.price < b.price)) viewModel.serviceOptionsDJ
  let serviceOptionsBar :=
    platform.sorting.sort (fun a b => decide (a.price < b.price)) viewModel.serviceOptionsBar
  let serviceOptionsFoto :=
    platform.sorting.sort (fun a b => decide (a.price < b.price)) viewModel.serviceOptionsFoto
  let serviceOptionsDecor :=
    platform.sorting.sort (fun a b => platform.titleLess a.title b.title)
      viewModel.serviceOptionsDecor
  { viewModel with
    serviceOptionsDJ, serviceOptionsBar, serviceOptionsFoto, serviceOptionsDecor
    servicesSections :=
      [serviceOptionsDJ, serviceOptionsBar, serviceOptionsFoto, serviceOptionsDecor] }

/-- The loop of `populateServicesModels` over its numbered options. The reply
of the download that an option starts is taken by its number. -/
def populateServicesModels (platform : Platform Image) (getData : Nat → GetDataReply) :
    TaskGroup.Program (ServiceOptions × Nat) Download (Loading Image) where
  start service := (Service.ofName? service.1.service).map fun branch =>
    { position := service.2, service := service.1, branch }
  callback download loading := { loading with
    viewModel := loading.viewModel.imageFetched platform (getData download.position) download }
  notify loading := {
    viewModel := loading.viewModel.publish platform
    completions := loading.completions ++ [true] }

/-- `populateServicesModels` called with a list of services. The group is
empty then: a call that has completed leaves it so. -/
def populating (services : List ServiceOptions) (viewModel : ServicesViewModel Image) :
    TaskGroup.Config (ServiceOptions × Nat) Download (Loading Image) :=
  TaskGroup.initial services.zipIdx { viewModel, completions := [] }

/-- `getServices`, from the callback of its query on. -/
def getServices (collection : String → QueryReply) (event : Event)
    (viewModel : ServicesViewModel Image) :
    TaskGroup.Config (ServiceOptions × Nat) Download (Loading Image) :=
  let fetched := viewModel.fetchServices collection event.rawValue
  populating fetched.2 fetched.1

end ServicesViewModel

end FlyEvents
