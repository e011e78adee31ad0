import FlyEvents.ViewModels.CheckoutViewModel

/-! # Registering a user, and reading one back

`registerUser` creates an account and then writes a document for it. Both are
requests to the backend; the functions here are its two callbacks. `fetchUser`
reads the document of the signed-in user.
-/

namespace FlyEvents

structure RegisterUserRequest where
  fullname : String
  email : String
  phoneNumber : String
  password : String
  deriving DecidableEq

/-- The arguments of the callback of `createUser`; the user is given by its uid. -/
structure AuthReply where
  user : Option String
  error : Option BackendError

/-- What the completion of `registerUser` is called with: `wasRegistered`, and
an error if the backend gave one. -/
structure RegistrationResult where
  wasRegistered : Bool
  error : Option BackendError
  deriving DecidableEq

/-- The data that is written to the document of a registered user. -/
def RegisterUserRequest.userData (request : RegisterUserRequest) : DocumentData := fun key =>
  if key = "fullname" then some request.fullname
  else if key = "phoneNumber" then some request.phoneNumber
  else if key = "email" then some request.email
  else none

/-- The callback of `createUser`: it completes the registration, or writes the
data to the document of the new user. -/
def RegisterUserRequest.userCreated (request : RegisterUserRequest) (reply : AuthReply) :
    Except RegistrationResult (String × DocumentData) :=
  match reply.error with
  | some error => .error { wasRegistered := false, error := some error }
  | none =>
      match reply.user with
      | none => .error { wasRegistered := false, error := none }
      | some userUID => .ok (userUID, request.userData)

/-- The callback of `setData`. -/
def dataSet : Option BackendError → RegistrationResult
  | some error => { wasRegistered := false, error := some error }
  | none => { wasRegistered := true, error := none }

structure User where
  fullname : String
  email : String
  phoneNumber : String
  userUID : String
  deriving DecidableEq

/-- `fetchUser` up to its request, for the document of the signed-in user. With
nobody signed in it returns, and its completion is never called. -/
def fetchUser (currentUser : Option String) : Option String :=
  match currentUser with
  | none => none
  | some userUID => some userUID

/-- The callback of `getDocument` in `fetchUser`: what it calls the completion
with. It does not call it for a missing document, nor for one that lacks one of
the three strings. -/
def userFetched (userUID : String) (reply : DocumentReply) :
    Option (Option User × Option BackendError) :=
  match reply.error with
  | some error => some (none, some error)
  | none => do
      let snapshot ← reply.document
      let snapshotData ← snapshot.data
      let fullname ← snapshotData "fullname"
      let phoneNumber ← snapshotData "phoneNumber"
      let email ← snapshotData "email"
      return (some { fullname, email, phoneNumber, userUID }, none)

end FlyEvents
