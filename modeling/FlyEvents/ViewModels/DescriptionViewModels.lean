import FlyEvents.Data.DescriptionModels
import FlyEvents.ViewModels.ServicesViewModel

/-! # The description view models

The view models of the four services find a description in the same way. Those
of DJ, BAR and FOTO then download one image after another, each download being
started by the callback of the one before it; a missing image ends the call.
-/

namespace FlyEvents

variable {Image : Type}

/-- The arguments of the callback of a query for descriptions. -/
structure DescriptionReply where
  snapshot : Option (List DescriptionContainer)
  error : Option BackendError

/-- The description that was fetched last and the model that was published. -/
structure DescriptionViewModel (Description Model : Type) where
  description : Option Description := none
  model : Option Model := none

/-- The callback of the query: the first document, if there is one and it can
be decoded. -/
def fetchDescription {Description Model : Type}
    (initFrom : DescriptionContainer → Option Description) (reply : DescriptionReply)
    (viewModel : DescriptionViewModel Description Model) :
    DescriptionViewModel Description Model × Option Description :=
  match reply.error with
  | some _ => (viewModel, none)
  | none =>
      match (reply.snapshot.bind List.head?).bind initFrom with
      | some description => ({ viewModel with description := some description }, some description)
      | none => (viewModel, none)

/-- A call between its callbacks: it waits for the download of an image and goes
on with the outcome, or it has called its completion. -/
inductive DownloadChain (Image ViewModel : Type)
  | downloadImage (viewModel : ViewModel) (url : String)
      (callback : Option Image → DownloadChain Image ViewModel)
  | completion (viewModel : ViewModel) (success : Bool)

abbrev DjDescriptionViewModel (Image : Type) :=
  DescriptionViewModel DjDescription (DjDescriptionModel Image)

abbrev BarDescriptionViewModel (Image : Type) :=
  DescriptionViewModel BarDescription (BarDescriptionModel Image)

abbrev FotoDescriptionViewModel (Image : Type) :=
  DescriptionViewModel FotoDescription (FotoDescriptionModel Image)

namespace DescriptionViewModel

def fetchDjDescription (reply : DescriptionReply) (viewModel : DjDescriptionViewModel Image) :
    DjDescriptionViewModel Image × Option DjDescription :=
  fetchDescription DjDescription.initFrom reply viewModel

def fetchBarDescription (reply : DescriptionReply) (viewModel : BarDescriptionViewModel Image) :
    BarDescriptionViewModel Image × Option BarDescription :=
  fetchDescription BarDescription.initFrom reply viewModel

def fetchFotoDescription (reply : DescriptionReply) (viewModel : FotoDescriptionViewModel Image) :
    FotoDescriptionViewModel Image × Option FotoDescription :=
  fetchDescription FotoDescription.initFrom reply viewModel

def populateDjDescriptionModel (description : DjDescription)
    (viewModel : DjDescriptionViewModel Image) :
    DownloadChain Image (DjDescriptionViewModel Image) :=
  .downloadImage viewModel description.backgroundImageURL fun
    | none => .completion viewModel false
    | some backgroundImage => .downloadImage viewModel description.imageURL fun
        | none => .completion viewModel false
        | some image => .completion { viewModel with
            model := some {
              backgroundImage := some backgroundImage
              id := description.id
              image := some image
              numberOfPeople := description.numberOfPeople
              packDescription := description.packDescription
              price := description.price
              title := description.title } } true

def populateBarDescriptionModel (description : BarDescription)
    (viewModel : BarDescriptionViewModel Image) :
    DownloadChain Image (BarDescriptionViewModel Image) :=
  .downloadImage viewModel description.backgroundImageURL fun
    | none => .completion viewModel false
    | some backgroundImage => .downloadImage viewModel description.imageURL fun
        | none => .completion viewModel false
        | some image => .completion { viewModel with
            model := some {
              backgroundImage := some backgroundImage
              id := description.id
              image := some image
              packDescriptionTitle := description.packDescriptionTitle
              packDescription := description.packDescription
              price := description.price
              title := description.title } } true

def populateFotoDescriptionModel (description : FotoDescription)
    (viewModel : FotoDescriptionViewModel Image) :
    DownloadChain Image (FotoDescriptionViewModel Image) :=
  .downloadImage viewModel description.imageURL fun
    | none => .completion viewModel false
    | some image => .completion { viewModel with
        model := some { id := description.id, image := some image } } true

/-- The call after the callback of its query. -/
def getDescription {Description Model : Type}
    (fetched : DescriptionViewModel Description Model × Option Description)
    (populate : Description → DescriptionViewModel Description Model →
      DownloadChain Image (DescriptionViewModel Description Model)) :
    DownloadChain Image (DescriptionViewModel Description Model) :=
  match fetched.2 with
  | some description => populate description fetched.1
  | none => .completion fetched.1 false

def getDjDescription (reply : DescriptionReply) (viewModel : DjDescriptionViewModel Image) :
    DownloadChain Image (DjDescriptionViewModel Image) :=
  getDescription (viewModel.fetchDjDescription reply) populateDjDescriptionModel

def getBarDescription (reply : DescriptionReply) (viewModel : BarDescriptionViewModel Image) :
    DownloadChain Image (BarDescriptionViewModel Image) :=
  getDescription (viewModel.fetchBarDescription reply) populateBarDescriptionModel

def getFotoDescription (reply : DescriptionReply) (viewModel : FotoDescriptionViewModel Image) :
    DownloadChain Image (FotoDescriptionViewModel Image) :=
  getDescription (viewModel.fetchFotoDescription reply) populateFotoDescriptionModel

end DescriptionViewModel

/-- A fetch leaves the published model alone. -/
@[simp] theorem fetchDescription_model {Description Model : Type}
    (initFrom : DescriptionContainer → Option Description) (reply : DescriptionReply)
    (viewModel : DescriptionViewModel Description Model) :
    (fetchDescription initFrom reply viewModel).1.model = viewModel.model := by
  unfold fetchDescription
  split
  next => rfl
  next => split <;> rfl

/-- The query succeeded, and its first document could be decoded. -/
def DescriptionReply.decodes {Description : Type} (reply : DescriptionReply)
    (initFrom : DescriptionContainer → Option Description) : Option Description :=
  match reply.error with
  | some _ => none
  | none => (reply.snapshot.bind List.head?).bind initFrom

@[simp] theorem fetchDescription_description {Description Model : Type}
    (initFrom : DescriptionContainer → Option Description) (reply : DescriptionReply)
    (viewModel : DescriptionViewModel Description Model) :
    (fetchDescription initFrom reply viewModel).2 = reply.decodes initFrom := by
  unfold fetchDescription DescriptionReply.decodes
  cases reply.error with
  | some error => rfl
  | none => cases hdecoded : (reply.snapshot.bind List.head?).bind initFrom <;> simp

end FlyEvents
