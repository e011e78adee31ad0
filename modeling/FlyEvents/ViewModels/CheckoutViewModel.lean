import FlyEvents.ViewModels.ServicesViewModel

/-! # Submitting an order

`submitOrder` reads the document of the signed-in user and then adds a
document to the orders. Both are requests to the backend: what the call keeps
until its callbacks run is a `Submission`.
-/

namespace FlyEvents

variable {Image : Type}

/-- The fields of a document that are strings, by key. -/
abbrev DocumentData := String → Option String

/-- The result of reading a document; its data is `none` if it does not exist. -/
structure DocumentSnapshot where
  data : Option DocumentData

/-- The arguments of the callback of `getDocument`. -/
structure DocumentReply where
  document : Option DocumentSnapshot
  error : Option BackendError

/-- A document of the orders. -/
structure OrderData where
  fullName : String
  phoneNumber : String
  email : String
  selectedServices : List String
  totalPrice : Int
  deriving DecidableEq

/-- The value of a key as a string, or the empty string. -/
def DocumentSnapshot.stringValue (document : DocumentSnapshot) (key : String) : String :=
  (document.data.bind fun data => data key).getD ""

/-- The order for the listed services, with the contact of the document. -/
def orderData (document : DocumentSnapshot) (selectedServices : List (ServiceOptionModel Image))
    (totalPrice : Int) : OrderData where
  fullName := document.stringValue "fullname"
  phoneNumber := document.stringValue "phoneNumber"
  email := document.stringValue "email"
  selectedServices := selectedServices.map ServiceOptionModel.title
  totalPrice := totalPrice

/-- A call of `submitOrder` past its guard: the user whose document it has
asked for, and the arguments it was called with. -/
structure Submission (Image : Type) where
  userUID : String
  selectedServices : List (ServiceOptionModel Image)
  totalPrice : Int

/-- `submitOrder` up to its first request, which a user must be signed in for. -/
def submitOrder (currentUser : Option String)
    (selectedServices : List (ServiceOptionModel Image)) (totalPrice : Int) :
    Option (Submission Image) :=
  currentUser.map fun userUID => { userUID, selectedServices, totalPrice }

/-- The callback of `getDocument`: the document it adds to the orders. It adds
none when there is no snapshot, or the snapshot is of a missing document. -/
def Submission.documentFetched (submission : Submission Image) (reply : DocumentReply) :
    Option OrderData :=
  match reply.document with
  | some document =>
      if document.data.isSome then
        some (orderData document submission.selectedServices submission.totalPrice)
      else none
  | none => none

theorem Submission.documentFetched_eq_some_iff {submission : Submission Image}
    {reply : DocumentReply} {order : OrderData} :
    submission.documentFetched reply = some order ↔
      ∃ document data, reply.document = some document ∧ document.data = some data ∧
        orderData document submission.selectedServices submission.totalPrice = order := by
  unfold documentFetched
  cases hdocument : reply.document with
  | none => simp
  | some document =>
      cases hdata : document.data with
      | none => simp [hdata]
      | some data => simp [hdata]

end FlyEvents
