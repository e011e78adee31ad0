import FlyEvents.Data.ServiceOptions

/-! # Descriptions and the models shown for them

A description is the document behind one option of the catalogue, found by the
id of the option. Its model has the downloaded images in place of their
addresses.
-/

namespace FlyEvents

/-- The container of a description, which may also hold arrays of strings. -/
structure DescriptionContainer extends KeyedContainer where
  decodeStrings : String → Option (List String)

structure DjDescription where
  backgroundImageURL : String
  id : String
  imageURL : String
  numberOfPeople : String
  packDescription : String
  price : Int
  title : String
  deriving DecidableEq

structure BarDescription where
  backgroundImageURL : String
  id : String
  imageURL : String
  packDescriptionTitle : String
  packDescription : String
  price : Int
  title : String
  deriving DecidableEq

structure FotoDescription where
  id : String
  imageURL : String
  deriving DecidableEq

structure DecorDescription where
  id : String
  imagesURL : List String
  deriving DecidableEq

def DjDescription.initFrom (container : DescriptionContainer) : Option DjDescription := do
  let backgroundImageURL ← container.decodeString "backgroundImageURL"
  let id ← container.decodeString "id"
  let imageURL ← container.decodeString "imageURL"
  let numberOfPeople ← container.decodeString "numberOfPeople"
  let packDescription ← container.decodeString "packDescription"
  let price ← container.decodeInt "price"
  let title ← container.decodeString "title"
  return { backgroundImageURL, id, imageURL, numberOfPeople, packDescription, price, title }

def BarDescription.initFrom (container : DescriptionContainer) : Option BarDescription := do
  let backgroundImageURL ← container.decodeString "backgroundImageURL"
  let id ← container.decodeString "id"
  let imageURL ← container.decodeString "imageURL"
  let packDescriptionTitle ← container.decodeString "packDescriptionTitle"
  let packDescription ← container.decodeString "packDescription"
  let price ← container.decodeInt "price"
  let title ← container.decodeString "title"
  return {
    backgroundImageURL, id, imageURL, packDescriptionTitle, packDescription, price, title }

/-- The synthesized `init(from:)`. -/
def FotoDescription.initFrom (container : DescriptionContainer) : Option FotoDescription := do
  let id ← container.decodeString "id"
  let imageURL ← container.decodeString "imageURL"
  return { id, imageURL }

/-- The synthesized `init(from:)`. -/
def DecorDescription.initFrom (container : DescriptionContainer) : Option DecorDescription := do
  let id ← container.decodeString "id"
  let imagesURL ← container.decodeStrings "imagesURL"
  return { id, imagesURL }

theorem DjDescription.decodeInt_price {container : DescriptionContainer}
    {description : DjDescription} (hdecoded : initFrom container = some description) :
    container.decodeInt "price" = some description.price := by
  simp only [initFrom, Option.bind_eq_bind, Option.bind_eq_some_iff, Option.pure_def,
    Option.some.injEq] at hdecoded
  obtain ⟨_, -, _, -, _, -, _, -, _, -, price, hprice, _, -, rfl⟩ := hdecoded
  exact hprice

theorem BarDescription.decodeInt_price {container : DescriptionContainer}
    {description : BarDescription} (hdecoded : initFrom container = some description) :
    container.decodeInt "price" = some description.price := by
  simp only [initFrom, Option.bind_eq_bind, Option.bind_eq_some_iff, Option.pure_def,
    Option.some.injEq] at hdecoded
  obtain ⟨_, -, _, -, _, -, _, -, _, -, price, hprice, _, -, rfl⟩ := hdecoded
  exact hprice

section Models

variable (Image : Type)

structure DjDescriptionModel where
  backgroundImage : Option Image
  id : String
  image : Option Image
  numberOfPeople : String
  packDescription : String
  price : Int
  title : String

structure BarDescriptionModel where
  backgroundImage : Option Image
  id : String
  image : Option Image
  packDescriptionTitle : String
  packDescription : String
  price : Int
  title : String

structure FotoDescriptionModel where
  id : String
  image : Option Image

structure DecorDescriptionModel where
  id : String
  images : List (Option Image)
  deriving DecidableEq

end Models

variable {Image : Type}

def DjDescriptionModel.priceWithCurrency (model : DjDescriptionModel Image) : String :=
  toString model.price ++ " RON"

def BarDescriptionModel.priceWithCurrency (model : BarDescriptionModel Image) : String :=
  toString model.price ++ " RON / PERSON"

end FlyEvents
