import FlyEvents.Data.DescriptionModels
import FlyEvents.ViewModels.DescriptionViewModels
import Mathlib.Logic.Function.Basic

/-! # Prices in the database

An option and its description are two documents with one id, and both have a
price. An administrator changes the two in one step, so at every moment they
agree: the database here has one price for each id, and its documents are
filled in with it when they are read.
-/

namespace FlyEvents

structure Database where
  options : List KeyedContainer
  descriptions : List DescriptionContainer
  price : String → Int

namespace Database

/-- Change the price of the two documents of an id. -/
def setPrice (database : Database) (id : String) (price : Int) : Database :=
  { database with price := Function.update database.price id price }

/-- The document as it is read: its price, if it has one, is that of its id. -/
def priced (database : Database) (container : KeyedContainer) : KeyedContainer :=
  { container with
    decodeInt := fun key =>
      if key = "price" then
        match container.decodeString "id" with
        | some id => (container.decodeInt "price").map fun _ => database.price id
        | none => container.decodeInt "price"
      else container.decodeInt key }

/-- The answer to the query of the catalogue for an event. -/
def optionsOf (database : Database) (error : Option BackendError) (event : String) :
    QueryReply where
  snapshot := some ((database.options.filter fun option =>
    option.decodeString "event" = some event).map database.priced)
  error := error

/-- The answer to the query of a sheet for an id. -/
def descriptionsOf (database : Database) (error : Option BackendError) (id : String) :
    DescriptionReply where
  snapshot := some ((database.descriptions.filter fun description =>
    description.decodeString "id" = some id).map fun description =>
      { description with toKeyedContainer := database.priced description.toKeyedContainer })
  error := error

theorem price_of_priced {database : Database} {container : KeyedContainer} {id : String}
    {price : Int} (hid : container.decodeString "id" = some id)
    (hprice : (database.priced container).decodeInt "price" = some price) :
    price = database.price id := by
  simp only [priced, if_true, hid, Option.map_eq_some_iff] at hprice
  obtain ⟨_, -, hprice⟩ := hprice
  exact hprice.symm

/-- Another id keeps its price. -/
theorem setPrice_price_ne (database : Database) {id other : String} (hne : other ≠ id)
    (price : Int) : (database.setPrice id price).price other = database.price other :=
  Function.update_of_ne hne _ _

end Database

/-- A decoded option has the price of its id. -/
theorem price_of_initFrom {database : Database} {container : KeyedContainer}
    {option : ServiceOptions} (hdecoded : ServiceOptions.initFrom (database.priced container) =
      some option) : option.price = database.price option.id := by
  simp only [ServiceOptions.initFrom, Option.bind_eq_bind, Option.bind_eq_some_iff,
    Option.pure_def, Option.some.injEq] at hdecoded
  obtain ⟨title, -, price, hprice, event, -, service, -, imageURL, -, id, hid, rfl⟩ := hdecoded
  have hid : container.decodeString "id" = some id := hid
  exact Database.price_of_priced hid hprice

/-- The description that a query for an id gives has the price of that id. -/
theorem price_of_decodes {Description : Type} {database : Database}
    {error : Option BackendError} {id : String}
    {initFrom : DescriptionContainer → Option Description} {description : Description}
    {price : Description → Int}
    (hprice : ∀ container description, initFrom container = some description →
      container.decodeInt "price" = some (price description))
    (hdecodes : (database.descriptionsOf error id).decodes initFrom = some description) :
    price description = database.price id := by
  unfold DescriptionReply.decodes at hdecodes
  split at hdecodes
  next => cases hdecodes
  next =>
    obtain ⟨container, hhead, hdecoded⟩ := Option.bind_eq_some_iff.mp hdecodes
    have hread := hprice container description hdecoded
    simp only [Database.descriptionsOf, Option.bind_some, List.head?_map,
      Option.map_eq_some_iff] at hhead
    obtain ⟨document, hdocument, rfl⟩ := hhead
    have hmem := List.mem_filter.mp (List.mem_of_head? hdocument)
    exact Database.price_of_priced (of_decide_eq_true hmem.2) hread

end FlyEvents
