import FlyEvents.Data.Login.AlertManager
import FlyEvents.ViewControllers.CheckoutViewController
import FlyEvents.ViewModels.CatalogueCall

/-! # The catalogue screen

The functions of the screen on its fields, under the names of the source. A
result `none` is a trap: an index out of range, or an arithmetic result that an
`Int` does not hold. The closures handed to the description sheets are given by
the service of the sheet and the index path they captured.
-/

namespace FlyEvents

variable {Image : Type}

structure IndexPath where
  row : Nat
  sectionIndex : Nat
  deriving DecidableEq

/-- `viewModel.servicesSections[indexPath.section][indexPath.row]` -/
def ServicesViewModel.optionAt (viewModel : ServicesViewModel Image) (indexPath : IndexPath) :
    Option (ServiceOptionModel Image) := do
  let options ← viewModel.servicesSections[indexPath.sectionIndex]?
  options[indexPath.row]?

namespace ServicesViewModel

theorem optionAt_isSome_iff {viewModel : ServicesViewModel Image} {row sectionIndex : Nat} :
    (viewModel.optionAt ⟨row, sectionIndex⟩).isSome ↔
      ∃ options, viewModel.servicesSections[sectionIndex]? = some options ∧
        row < options.length := by
  unfold optionAt
  cases viewModel.servicesSections[sectionIndex]? <;> simp

/-- The rows of a catalogue are those of its services, in their sections. -/
theorem Catalogued.exists_service {viewModel : ServicesViewModel Image}
    (hcatalogue : viewModel.Catalogued) {indexPath : IndexPath}
    {option : ServiceOptionModel Image} (hoption : viewModel.optionAt indexPath = some option) :
    ∃ service : Service, service.sectionIndex = indexPath.sectionIndex ∧
      option ∈ viewModel.options service := by
  obtain ⟨options, hsection, hrow⟩ := Option.bind_eq_some_iff.mp hoption
  rw [hcatalogue.sections, List.getElem?_map, Option.map_eq_some_iff] at hsection
  obtain ⟨service, hservice, rfl⟩ := hsection
  refine ⟨service, ?_, List.mem_of_getElem? hrow⟩
  obtain ⟨hlt, -⟩ := List.getElem?_eq_some_iff.mp hservice
  have hself := service.all_getElem?
  exact (List.getElem?_inj hlt (by decide)).mp (hservice.trans hself.symm) |>.symm

end ServicesViewModel

/-- A description sheet of the service: its option, and the index path that its
`addToCart` closure captured. -/
structure DescriptionViewController where
  service : Service
  id : String
  indexPath : IndexPath
  deriving DecidableEq

/-- What a cell of the table shows. -/
structure CardCell (Image : Type) where
  title : String
  price : String
  picture : Option Image

structure ServicesViewController (Image : Type) where
  viewModel : ServicesViewModel Image := {}
  event : Event := .majorat
  totalPrice : Int := 0
  selectedServices : List (ServiceOptionModel Image) := []
  priceLabel : String := ""
  checkoutViewShown : Bool := true
  sectionButtonsEnabled : Bool := true

namespace ServicesViewController

def setupUI (controller : ServicesViewController Image) : ServicesViewController Image :=
  { controller with sectionButtonsEnabled := false }

def enableButtons (controller : ServicesViewController Image) : ServicesViewController Image :=
  { controller with sectionButtonsEnabled := true }

/-- The checkout view is above the bottom edge only for a positive total. -/
def updateCheckoutUI (controller : ServicesViewController Image) :
    ServicesViewController Image :=
  { controller with
    priceLabel := toString controller.totalPrice ++ " RON"
    checkoutViewShown := decide (controller.totalPrice > 0) }

/-- `viewDidLoad`, whose last call starts the load of the catalogue. -/
def viewDidLoad (controller : ServicesViewController Image) : ServicesViewController Image :=
  controller.setupUI.updateCheckoutUI

/-- The screen for an event, before the completion of its load. -/
def opened (event : Event) : ServicesViewController Image :=
  ({ event } : ServicesViewController Image).viewDidLoad

/-- The completion of the load, with the view model as the load left it. -/
def loadAllData (controller : ServicesViewController Image)
    (viewModel : ServicesViewModel Image) : ServicesViewController Image :=
  { controller with viewModel }.enableButtons

def numberOfSections (controller : ServicesViewController Image) : Nat :=
  controller.viewModel.servicesSections.length

def titleForHeaderInSection (controller : ServicesViewController Image) (sectionIndex : Nat) :
    Option String :=
  (controller.viewModel.optionAt ⟨0, sectionIndex⟩).map ServiceOptionModel.service

def numberOfRowsInSection (controller : ServicesViewController Image) (sectionIndex : Nat) :
    Option Nat :=
  controller.viewModel.servicesSections[sectionIndex]?.map List.length

def cellForRowAt (controller : ServicesViewController Image) (indexPath : IndexPath) :
    Option (CardCell Image) :=
  (controller.viewModel.optionAt indexPath).map fun option =>
    { title := option.title, price := option.priceWithCurrency, picture := option.image }

/-- The table scrolls only to a row that exists. -/
def scrollToRow (controller : ServicesViewController Image) (indexPath : IndexPath) :
    Option IndexPath := do
  let rows ← controller.numberOfRowsInSection indexPath.sectionIndex
  if indexPath.row < rows then some indexPath else none

def didTapDJ (controller : ServicesViewController Image) : Option IndexPath :=
  controller.scrollToRow ⟨0, 0⟩

def didTapBar (controller : ServicesViewController Image) : Option IndexPath :=
  controller.scrollToRow ⟨0, 1⟩

def didTapFoto (controller : ServicesViewController Image) : Option IndexPath :=
  controller.scrollToRow ⟨0, 2⟩

def didTapDecor (controller : ServicesViewController Image) : Option IndexPath :=
  controller.scrollToRow ⟨0, 3⟩

def didTapCheckout (controller : ServicesViewController Image) : CheckoutViewController Image where
  selectedServices := controller.selectedServices
  totalPrice := controller.totalPrice

/-- Instantiate the sheet of a service for the option at an index path. -/
def present (controller : ServicesViewController Image) (service : Service)
    (indexPath : IndexPath) : Option DescriptionViewController :=
  (controller.viewModel.optionAt indexPath).map fun option =>
    { service, id := option.id, indexPath }

def goToDjDescritpionViewController (controller : ServicesViewController Image)
    (indexPath : IndexPath) : Option DescriptionViewController :=
  controller.present .dj indexPath

def goToBarDescriptionViewController (controller : ServicesViewController Image)
    (indexPath : IndexPath) : Option DescriptionViewController :=
  controller.present .bar indexPath

def goToFotoDescritpionViewController (controller : ServicesViewController Image)
    (indexPath : IndexPath) : Option DescriptionViewController :=
  controller.present .foto indexPath

def goToDecorDescritpionViewController (controller : ServicesViewController Image)
    (indexPath : IndexPath) : Option DescriptionViewController :=
  controller.present .decor indexPath

/-- The sheet that selecting a row presents; no sheet in any other section.
The last three cases also give the id to a sheet that is never presented. -/
def didSelectRowAt (controller : ServicesViewController Image) (indexPath : IndexPath) :
    Option (Option DescriptionViewController) :=
  match indexPath.sectionIndex with
  | 0 => do
      let sheet ← controller.goToDjDescritpionViewController indexPath
      return some sheet
  | 1 => do
      let _ ← controller.viewModel.optionAt indexPath
      let sheet ← controller.goToBarDescriptionViewController indexPath
      return some sheet
  | 2 => do
      let _ ← controller.viewModel.optionAt indexPath
      let sheet ← controller.goToFotoDescritpionViewController indexPath
      return some sheet
  | 3 => do
      let _ ← controller.viewModel.optionAt indexPath
      let sheet ← controller.goToDecorDescritpionViewController indexPath
      return some sheet
  | _ => some none

/-- In the section of a service, selecting a row presents the sheet of the
service for the option of the row. -/
theorem didSelectRowAt_eq (controller : ServicesViewController Image) {service : Service}
    {indexPath : IndexPath} (hsection : service.sectionIndex = indexPath.sectionIndex) :
    controller.didSelectRowAt indexPath = (controller.viewModel.optionAt indexPath).map
      fun option => some { service, id := option.id, indexPath } := by
  unfold didSelectRowAt
  rw [← hsection]
  cases service <;> cases hoption : controller.viewModel.optionAt indexPath <;>
    simp [Service.sectionIndex, goToDjDescritpionViewController,
      goToBarDescriptionViewController, goToFotoDescritpionViewController,
      goToDecorDescritpionViewController, present, hoption]

/-- The `addToCart` closure of the DJ, FOTO and DECOR sheets. -/
def addToCart (platform : Platform Image) (controller : ServicesViewController Image)
    (indexPath : IndexPath) : Option (ServicesViewController Image) := do
  let option ← controller.viewModel.optionAt indexPath
  let totalPrice ← platform.int (controller.totalPrice + option.price)
  let selectedServices := controller.selectedServices ++ [option]
  return { controller with totalPrice, selectedServices }.updateCheckoutUI

/-- The completion that the `addToCart` closure of the BAR sheet gives to the
head-count alert, with the value it calls its own completion with. -/
def barNumberOfPeople (platform : Platform Image) (controller : ServicesViewController Image)
    (indexPath : IndexPath) (number : Option Int) :
    Option (ServicesViewController Image × Bool) :=
  match number with
  | some number => do
      let option ← controller.viewModel.optionAt indexPath
      -- The product and the sum are two operations: either can trap.
      let result ← platform.int (number * option.price)
      let totalPrice ← platform.int (controller.totalPrice + result)
      let selectedServices := controller.selectedServices ++ [option]
      return ({ controller with totalPrice, selectedServices }.updateCheckoutUI, true)
  | none => some (controller, false)

/-- The controller with an option added to its cart for an amount. -/
def charged (controller : ServicesViewController Image) (option : ServiceOptionModel Image)
    (amount : Int) : ServicesViewController Image :=
  { controller with
    totalPrice := controller.totalPrice + amount
    selectedServices := controller.selectedServices ++ [option] }.updateCheckoutUI

@[simp] theorem charged_viewModel (controller : ServicesViewController Image)
    (option : ServiceOptionModel Image) (amount : Int) :
    (controller.charged option amount).viewModel = controller.viewModel := rfl

@[simp] theorem charged_selectedServices (controller : ServicesViewController Image)
    (option : ServiceOptionModel Image) (amount : Int) :
    (controller.charged option amount).selectedServices =
      controller.selectedServices ++ [option] := rfl

@[simp] theorem charged_totalPrice (controller : ServicesViewController Image)
    (option : ServiceOptionModel Image) (amount : Int) :
    (controller.charged option amount).totalPrice = controller.totalPrice + amount := rfl

@[simp] theorem charged_checkoutViewShown (controller : ServicesViewController Image)
    (option : ServiceOptionModel Image) (amount : Int) :
    (controller.charged option amount).checkoutViewShown =
      decide (controller.totalPrice + amount > 0) := rfl

/-- A confirmed sheet charges the option at its row once. -/
theorem addToCart_eq_some_iff {platform : Platform Image}
    {controller next : ServicesViewController Image} {indexPath : IndexPath} :
    controller.addToCart platform indexPath = some next ↔
      ∃ option, controller.viewModel.optionAt indexPath = some option ∧
        platform.fits (controller.totalPrice + option.price) = true ∧
        controller.charged option option.price = next := by
  unfold addToCart
  cases controller.viewModel.optionAt indexPath with
  | none => simp
  | some option =>
      simp only [Option.bind_eq_bind, Option.bind_some, Option.bind_eq_some_iff,
        Platform.int_eq_some_iff, Option.some.injEq, exists_eq_left']
      constructor
      · rintro ⟨_, ⟨hfits, rfl⟩, hnext⟩
        exact ⟨hfits, Option.some.inj hnext⟩
      · rintro ⟨hfits, rfl⟩
        exact ⟨_, ⟨hfits, rfl⟩, rfl⟩

/-- A number entered in the alert charges the option at the row of the sheet
that many times. -/
theorem barNumberOfPeople_some_eq_some_iff {platform : Platform Image}
    {controller next : ServicesViewController Image} {indexPath : IndexPath} {number : Int}
    {success : Bool} :
    controller.barNumberOfPeople platform indexPath (some number) = some (next, success) ↔
      ∃ option, controller.viewModel.optionAt indexPath = some option ∧
        platform.fits (number * option.price) = true ∧
        platform.fits (controller.totalPrice + number * option.price) = true ∧
        controller.charged option (number * option.price) = next ∧ success = true := by
  unfold barNumberOfPeople
  cases controller.viewModel.optionAt indexPath with
  | none => simp
  | some option =>
      simp only [Option.bind_eq_bind, Option.bind_some, Option.bind_eq_some_iff,
        Platform.int_eq_some_iff, Option.some.injEq, exists_eq_left']
      constructor
      · rintro ⟨_, ⟨hresult, rfl⟩, _, ⟨htotal, rfl⟩, hnext⟩
        cases hnext
        exact ⟨hresult, htotal, rfl, rfl⟩
      · rintro ⟨hresult, htotal, rfl, rfl⟩
        exact ⟨_, ⟨hresult, rfl⟩, _, ⟨htotal, rfl⟩, rfl⟩

@[simp] theorem barNumberOfPeople_none (platform : Platform Image)
    (controller : ServicesViewController Image) (indexPath : IndexPath) :
    controller.barNumberOfPeople platform indexPath none = some (controller, false) := rfl

end ServicesViewController

end FlyEvents
