import FlyEvents.ViewModels.CheckoutViewModel

/-! # The checkout screen

The screen holds copies of the cart, made when it was pushed. Its button sends
them and pushes the screen that says "Order Sent Successfully!" in one step.
-/

namespace FlyEvents

variable {Image : Type}

structure CheckoutViewController (Image : Type) where
  selectedServices : List (ServiceOptionModel Image) := []
  totalPrice : Int := 0

/-- A screen above the catalogue screen. The one that says that the order was
sent covers the others only once it has appeared. -/
inductive PushedScreen (Image : Type)
  | checkout (controller : CheckoutViewController Image)
  | orderProcessed (appeared : Bool)

namespace CheckoutViewController

/-- What the label of the screen shows. -/
def priceLabel (controller : CheckoutViewController Image) : String :=
  toString controller.totalPrice ++ " RON"

def numberOfRowsInSection (controller : CheckoutViewController Image) : Nat :=
  controller.selectedServices.length

/-- The service a row of the table is set up with. -/
def cellForRowAt (controller : CheckoutViewController Image) (row : Nat) :
    Option (ServiceOptionModel Image) :=
  controller.selectedServices[row]?

/-- What the rows of the table are set up with, from the top. -/
def rows (controller : CheckoutViewController Image) : List (Option (ServiceOptionModel Image)) :=
  (List.range controller.numberOfRowsInSection).map controller.cellForRowAt

/-- Every row has a service, and every service its row. -/
theorem rows_eq (controller : CheckoutViewController Image) :
    controller.rows = controller.selectedServices.map some := by
  refine List.ext_getElem (by simp [rows, numberOfRowsInSection]) fun row hrow _ => ?_
  simp [rows, cellForRowAt]

/-- The submission that the button starts, if any, and the screen it pushes. -/
def didTapSubmitOrder (controller : CheckoutViewController Image)
    (currentUser : Option String) : Option (Submission Image) × PushedScreen Image :=
  (submitOrder currentUser controller.selectedServices controller.totalPrice, .orderProcessed false)

end CheckoutViewController

end FlyEvents
