import FlyEvents.ViewModels.ServicesViewModel

/-! # Alerts

The head-count alert asks for digits and reads its text with the failable
initializer of `Int`, whose grammar is wider: an optional sign and at least one
ASCII digit, with a value that an `Int` holds.
-/

namespace FlyEvents

variable {Image : Type}

/-- An `Int` with the value; `none` where it has no such value. -/
def Platform.int (platform : Platform Image) (value : Int) : Option Int :=
  if platform.fits value then some value else none

theorem Platform.int_eq_some_iff {platform : Platform Image} {value result : Int} :
    platform.int value = some result ↔ platform.fits value = true ∧ value = result := by
  unfold int
  split <;> simp_all

/-- The value of a nonempty sequence of ASCII digits. -/
def decimalValue (digits : List Char) : Option Nat :=
  if digits ≠ [] ∧ digits.all Char.isDigit then
    some (digits.foldl (fun value digit => 10 * value + (digit.toNat - '0'.toNat)) 0)
  else none

/-- `Int(text)` -/
def Platform.intOfText (platform : Platform Image) (text : String) : Option Int :=
  match text.toList with
  | '+' :: digits => (decimalValue digits).bind fun value => platform.int value
  | '-' :: digits => (decimalValue digits).bind fun value => platform.int (-value)
  | digits => (decimalValue digits).bind fun value => platform.int value

/-- An alert with a Dismiss action. -/
structure BasicAlert where
  title : String
  message : Option String
  deriving DecidableEq

def showBasicAlert (title : String) (message : Option String) : BasicAlert := { title, message }

def showInvalidEmailAlert : BasicAlert :=
  showBasicAlert "Invalid Email" (some "Please enter a valid email.")

def showInvalidPasswordAlert : BasicAlert :=
  showBasicAlert "Invalid Password" (some "Please enter a valid password.")

def showInvalidPhoneNumberAlert : BasicAlert :=
  showBasicAlert "Invalid Phone Number"
    (some "Please enter a 10 digit phone number, starting with 07.")

def showRegistrationErrorAlert : Option BackendError → BasicAlert
  | none => showBasicAlert "Unknown Registration Error" none
  | some error => showBasicAlert "Registration Error" (some error.localizedDescription)

/-- Both alerts have the same title. -/
def showSignInErrorAlert : Option BackendError → BasicAlert
  | none => showBasicAlert "Unknown Error Signing In" none
  | some error => showBasicAlert "Unknown Error Signing In" (some error.localizedDescription)

def showLogoutErrorAlert (error : BackendError) : BasicAlert :=
  showBasicAlert "Log Out Error" (some error.localizedDescription)

def showPasswordResetSent : BasicAlert := showBasicAlert "Password Reset Sent" none

def showErrorSendingPasswordReset (error : BackendError) : BasicAlert :=
  showBasicAlert "Error Sending Password Reset" (some error.localizedDescription)

/-- An alert with a text field, a Cancel and an OK action. -/
structure TextFieldAlert where
  title : String
  message : String
  deriving DecidableEq

def showTextFieldAlert (title : String) : TextFieldAlert where
  title := title
  message := "Please enter only digits"

def barNumberOfPeopleAlert : TextFieldAlert :=
  showTextFieldAlert "Enter the number of people attending:"

/-- What the Cancel action calls the completion of the alert with. -/
def cancelHandler : Option Int := none

/-- What the OK action calls the completion of the alert with. -/
def okHandler (platform : Platform Image) (text : Option String) : Option Int :=
  text.bind platform.intOfText

end FlyEvents
