import Mathlib.Data.List.Infix

/-! # Catalogue options and the models shown for them

An option is decoded from a backend document through the keyed container its
decoder offers. The screens show a model of the option: the same fields with
the downloaded image in place of its address.
-/

namespace FlyEvents

/-- The events a catalogue is offered for. -/
inductive Event
  | majorat
  | baptising
  | corporate
  | wedding
  deriving DecidableEq

def Event.rawValue : Event → String
  | .majorat => "majorat"
  | .baptising => "botez"
  | .corporate => "corporate"
  | .wedding => "wedding"

/-- The services a catalogue knows, in the order of its sections. -/
inductive Service
  | dj
  | bar
  | foto
  | decor
  deriving DecidableEq

namespace Service

/-- The string that names the service in an option. -/
def name : Service → String
  | .dj => "DJ"
  | .bar => "BAR"
  | .foto => "FOTO"
  | .decor => "DECOR"

def sectionIndex : Service → Nat
  | .dj => 0
  | .bar => 1
  | .foto => 2
  | .decor => 3

/-- The service a string names. Every other string is an unknown service. -/
def ofName? (text : String) : Option Service :=
  if text = "DJ" then some .dj
  else if text = "BAR" then some .bar
  else if text = "FOTO" then some .foto
  else if text = "DECOR" then some .decor
  else none

theorem ofName?_eq_some_iff {text : String} {service : Service} :
    ofName? text = some service ↔ text = service.name := by
  constructor
  · intro h
    unfold ofName? at h
    split_ifs at h <;> cases h <;> assumption
  · rintro rfl
    cases service <;> rfl

@[simp] theorem ofName?_name (service : Service) : ofName? service.name = some service :=
  ofName?_eq_some_iff.mpr rfl

theorem name_injective : Function.Injective name := by
  intro first second heq
  have := congrArg ofName? heq
  simpa using this

theorem sectionIndex_lt (service : Service) : service.sectionIndex < 4 := by
  cases service <;> decide

end Service

/-- The values of a document by key, as its decoder returns them; `none` where
decoding the key at that type throws. -/
structure KeyedContainer where
  decodeString : String → Option String
  decodeInt : String → Option Int

structure ServiceOptions where
  title : String
  price : Int
  event : String
  service : String
  imageURL : String
  id : String
  deriving DecidableEq

namespace ServiceOptions

/-- `init(from:)`: all six keys must decode. -/
def initFrom (container : KeyedContainer) : Option ServiceOptions := do
  let title ← container.decodeString "title"
  let price ← container.decodeInt "price"
  let event ← container.decodeString "event"
  let service ← container.decodeString "service"
  let imageURL ← container.decodeString "imageURL"
  let id ← container.decodeString "id"
  return { title, price, event, service, imageURL, id }

/-- The container of a document written with the synthesized encoding. -/
def encode (option : ServiceOptions) : KeyedContainer where
  decodeString key :=
    if key = "title" then some option.title
    else if key = "event" then some option.event
    else if key = "service" then some option.service
    else if key = "imageURL" then some option.imageURL
    else if key = "id" then some option.id
    else none
  decodeInt key := if key = "price" then some option.price else none

/-- An encoded option decodes to itself. -/
@[simp] theorem initFrom_encode (option : ServiceOptions) :
    initFrom option.encode = some option := rfl

end ServiceOptions

/-- What the screens show of an option whose image was downloaded. -/
structure ServiceOptionModel (Image : Type) where
  title : String
  price : Int
  event : String
  service : String
  image : Option Image
  id : String
  deriving DecidableEq

namespace ServiceOptionModel

variable {Image : Type}

/-- The price label; a bar is priced for each person. -/
def priceWithCurrency (option : ServiceOptionModel Image) : String :=
  if option.service = "BAR" then
    toString option.price ++ " RON / PERSON"
  else
    toString option.price ++ " RON"

/-- The label says that the price is for each person. -/
def PricedPerPerson (option : ServiceOptionModel Image) : Prop :=
  "/ PERSON".toList <:+ option.priceWithCurrency.toList

instance (option : ServiceOptionModel Image) : Decidable option.PricedPerPerson := by
  unfold PricedPerPerson
  infer_instance

theorem pricedPerPerson_iff (option : ServiceOptionModel Image) :
    option.PricedPerPerson ↔ option.service = "BAR" := by
  unfold PricedPerPerson priceWithCurrency
  split
  next hbar =>
    refine iff_of_true ?_ hbar
    rw [String.toList_append]
    exact (List.suffix_append (toString option.price ++ " RON ").toList "/ PERSON".toList).trans
      (by simp)
  next hother =>
    refine iff_of_false ?_ hother
    intro hsuffix
    have hprefix := List.reverse_prefix.mpr hsuffix
    simp at hprefix

end ServiceOptionModel

end FlyEvents
