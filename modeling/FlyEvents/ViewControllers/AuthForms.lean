import FlyEvents.Data.Login.AlertManager
import FlyEvents.Data.Login.AuthService
import FlyEvents.Data.Login.Validator

/-! # The registration, login and forgot-password forms

A tap checks the texts of the fields in turn. The first one that is not valid
is reported in an alert; otherwise the texts are handed over as they were typed.
-/

namespace FlyEvents

open Validator

structure LoginUserRequest where
  email : String
  password : String
  deriving DecidableEq

/-- The texts of the fields, which may be missing. -/
structure RegisterViewController where
  fullnameField : Option String
  emailField : Option String
  phoneNumberField : Option String
  passwordField : Option String

structure LoginViewController where
  emailField : Option String
  passwordField : Option String

structure ForgotPasswordViewController where
  emailField : Option String

/-- What the tap hands over to `registerUser`, or the alert it shows instead. -/
def RegisterViewController.didTapSignUp (digits : DecimalDigits)
    (controller : RegisterViewController) : Except BasicAlert RegisterUserRequest :=
  let registerUserRequest : RegisterUserRequest := {
    fullname := controller.fullnameField.getD ""
    email := controller.emailField.getD ""
    phoneNumber := controller.phoneNumberField.getD ""
    password := controller.passwordField.getD "" }
  if !isValidEmail registerUserRequest.email then
    .error showInvalidEmailAlert
  else if !isValidPhoneNumber digits registerUserRequest.phoneNumber then
    .error showInvalidPhoneNumberAlert
  else if !isValidPassword registerUserRequest.password then
    .error showInvalidPasswordAlert
  else .ok registerUserRequest

/-- What the tap hands over to `signIn`. -/
def LoginViewController.didTapSignIn (controller : LoginViewController) :
    Except BasicAlert LoginUserRequest :=
  let loginRequest : LoginUserRequest := {
    email := controller.emailField.getD ""
    password := controller.passwordField.getD "" }
  if !isValidEmail loginRequest.email then
    .error showInvalidEmailAlert
  else if !isValidPassword loginRequest.password then
    .error showInvalidPasswordAlert
  else .ok loginRequest

/-- The email the tap hands over to `forgotPassword`. -/
def ForgotPasswordViewController.didTapForgotPassword
    (controller : ForgotPasswordViewController) : Except BasicAlert String :=
  let email := controller.emailField.getD ""
  if !isValidEmail email then
    .error showInvalidEmailAlert
  else .ok email

theorem RegisterViewController.didTapSignUp_eq_ok_iff {digits : DecimalDigits}
    {controller : RegisterViewController} {request : RegisterUserRequest} :
    controller.didTapSignUp digits = .ok request ↔
      request = {
        fullname := controller.fullnameField.getD ""
        email := controller.emailField.getD ""
        phoneNumber := controller.phoneNumberField.getD ""
        password := controller.passwordField.getD "" } ∧
      isValidEmail request.email = true ∧
      isValidPhoneNumber digits request.phoneNumber = true ∧
      isValidPassword request.password = true := by
  unfold didTapSignUp
  constructor
  · intro hok
    simp only [Bool.not_eq_eq_eq_not, Bool.not_true] at hok
    split at hok
    next => cases hok
    next hemail =>
      split at hok
      next => cases hok
      next hphone =>
        split at hok
        next => cases hok
        next hpassword =>
          cases hok
          simp_all
  · rintro ⟨rfl, hemail, hphone, hpassword⟩
    simp_all

theorem LoginViewController.didTapSignIn_eq_ok_iff {controller : LoginViewController}
    {request : LoginUserRequest} :
    controller.didTapSignIn = .ok request ↔
      request = {
        email := controller.emailField.getD ""
        password := controller.passwordField.getD "" } ∧
      isValidEmail request.email = true ∧ isValidPassword request.password = true := by
  unfold didTapSignIn
  constructor
  · intro hok
    simp only [Bool.not_eq_eq_eq_not, Bool.not_true] at hok
    split at hok
    next => cases hok
    next hemail =>
      split at hok
      next => cases hok
      next hpassword =>
        cases hok
        simp_all
  · rintro ⟨rfl, hemail, hpassword⟩
    simp_all

theorem ForgotPasswordViewController.didTapForgotPassword_eq_ok_iff
    {controller : ForgotPasswordViewController} {email : String} :
    controller.didTapForgotPassword = .ok email ↔
      email = controller.emailField.getD "" ∧ isValidEmail email = true := by
  unfold didTapForgotPassword
  constructor
  · intro hok
    simp only [Bool.not_eq_eq_eq_not, Bool.not_true] at hok
    split at hok
    next => cases hok
    next hemail =>
      cases hok
      simp_all
  · rintro ⟨rfl, hemail⟩
    simp_all

/-! ## Texts that satisfy the checks as they are -/

/-- The whole text is an email, with nothing around it. -/
def EmailChecked (email : String) : Prop :=
  trimmingCharacters email = email ∧ emailRegEx.FullMatch email.toList

/-- `07` and eight ASCII digits. -/
def PhoneNumberChecked (phoneNumber : String) : Prop :=
  ∃ number, phoneNumber.toList = '0' :: '7' :: number ∧ number.length = 8 ∧
    ∀ digit ∈ number, digit.isDigit = true

/-- The whole text has 6 to 32 characters. -/
def PasswordChecked (password : String) : Prop :=
  6 ≤ password.toList.length ∧ password.toList.length ≤ 32

/-- Trimming leaves the email as it is. -/
def EmailTrimmed (email : String) : Prop := trimmingCharacters email = email

/-- Trimming leaves the number as it is, and it is written in ASCII. -/
def PhoneNumberPlain (phoneNumber : String) : Prop :=
  trimmingCharacters phoneNumber = phoneNumber ∧
    ∀ character ∈ phoneNumber.toList, character.toNat < 128

/-- The text is not too long before it is trimmed. -/
def PasswordShort (password : String) : Prop := password.toList.length ≤ 32

theorem emailChecked_iff {email : String} (hvalid : isValidEmail email = true) :
    EmailChecked email ↔ EmailTrimmed email := by
  unfold isValidEmail at hvalid
  rw [Pattern.fullMatch_iff] at hvalid
  refine ⟨And.left, fun htrimmed => ⟨htrimmed, ?_⟩⟩
  rwa [htrimmed] at hvalid

/-- A match of the expression for a phone number, part by part. -/
theorem fullMatch_phoneNumberRegEx_iff {digits : DecimalDigits} {phoneNumber : List Char} :
    (phoneNumberRegEx digits).FullMatch phoneNumber ↔
      ∃ number, phoneNumber = '0' :: '7' :: number ∧ number.length = 8 ∧
        ∀ digit ∈ number, digits.contains digit = true := by
  simp only [phoneNumberRegEx, Pattern.fullMatch_single_cons_iff, Pattern.fullMatch_piece_iff,
    Piece.matches_exactly_iff, beq_iff_eq]
  constructor
  · rintro ⟨_, _, rfl, rfl, _, number, rfl, rfl, hdigits, hlength⟩
    exact ⟨number, rfl, hlength, hdigits⟩
  · rintro ⟨number, rfl, hlength, hdigits⟩
    exact ⟨_, _, rfl, rfl, _, number, rfl, rfl, hdigits, hlength⟩

theorem toNat_lt_of_isDigit {character : Char} (hdigit : character.isDigit = true) :
    character.toNat < 128 := by
  simp only [Char.isDigit, Bool.and_eq_true, decide_eq_true_eq, UInt32.le_iff_toNat_le] at hdigit
  have hnine : '9'.val.toNat = 57 := rfl
  have hvalue : character.toNat = character.val.toNat := rfl
  omega

theorem not_whitespace_of_isDigit {character : Char} (hdigit : character.isDigit = true) :
    whitespacesAndNewlines character = false := by
  simp only [Char.isDigit, Bool.and_eq_true, decide_eq_true_eq, UInt32.le_iff_toNat_le] at hdigit
  have hzero : '0'.val.toNat = 48 := rfl
  have hnine : '9'.val.toNat = 57 := rfl
  have hvalue : character.toNat = character.val.toNat := rfl
  simp only [whitespacesAndNewlines, List.mem_cons, List.not_mem_nil, or_false,
    Bool.or_eq_false_iff, decide_eq_false_iff_not, Bool.and_eq_false_iff]
  omega

/-- Nothing is trimmed from a word with no character of the set. -/
theorem trimmed_eq_self {set : Char → Bool} {word : List Char}
    (hword : ∀ character ∈ word, set character = false) : trimmed set word = word := by
  have hdrop : word.dropWhile set = word := by
    cases word with
    | nil => rfl
    | cons first rest => simp [hword first List.mem_cons_self]
  rw [trimmed, hdrop, List.rdropWhile_eq_self_iff]
  intro hne
  simp [hword _ (List.getLast_mem hne)]

theorem length_trimmed_le (set : Char → Bool) (word : List Char) :
    (trimmed set word).length ≤ word.length :=
  Nat.le_trans (List.rdropWhile_prefix set _).length_le (List.dropWhile_sublist set).length_le

theorem phoneNumberChecked_iff {digits : DecimalDigits} {phoneNumber : String}
    (hvalid : isValidPhoneNumber digits phoneNumber = true) :
    PhoneNumberChecked phoneNumber ↔ PhoneNumberPlain phoneNumber := by
  unfold isValidPhoneNumber at hvalid
  rw [Pattern.fullMatch_iff, fullMatch_phoneNumberRegEx_iff] at hvalid
  constructor
  · rintro ⟨number, heq, -, hnumber⟩
    have hall : ∀ character ∈ phoneNumber.toList, character.isDigit = true := by
      rw [heq]
      intro character hmem
      rcases List.mem_cons.mp hmem with rfl | hmem
      · rfl
      rcases List.mem_cons.mp hmem with rfl | hmem
      · rfl
      exact hnumber character hmem
    refine ⟨?_, fun character hmem => toNat_lt_of_isDigit (hall character hmem)⟩
    rw [← String.toList_inj, toList_trimmingCharacters]
    exact trimmed_eq_self fun character hmem => not_whitespace_of_isDigit (hall character hmem)
  · rintro ⟨htrimmed, hascii⟩
    rw [htrimmed] at hvalid
    obtain ⟨number, heq, hlength, hdigits⟩ := hvalid
    refine ⟨number, heq, hlength, fun digit hdigit => ?_⟩
    rw [← digits.ascii digit (hascii digit (by simp [heq, hdigit]))]
    exact hdigits digit hdigit

theorem passwordChecked_iff {password : String} (hvalid : isValidPassword password = true) :
    PasswordChecked password ↔ PasswordShort password := by
  unfold isValidPassword at hvalid
  rw [Pattern.fullMatch_iff, passwordRegEx, Pattern.fullMatch_piece_iff,
    Piece.matches_between_iff, toList_trimmingCharacters] at hvalid
  have hlength := length_trimmed_le whitespacesAndNewlines password.toList
  have hlong : 6 ≤ password.toList.length := by omega
  exact ⟨And.right, fun hshort => ⟨hlong, hshort⟩⟩

/-- The texts handed over to `registerUser` satisfy the checks as they are, and
so do the ones it stores for the user and the ones an order copies from there. -/
structure RegisterUserRequest.Checked (request : RegisterUserRequest) : Prop where
  email : EmailChecked request.email
  phoneNumber : PhoneNumberChecked request.phoneNumber
  password : PasswordChecked request.password
  stored : ∀ reply userUID data, request.userCreated reply = .ok (userUID, data) →
    (∃ email, data "email" = some email ∧ EmailChecked email) ∧
      ∃ phoneNumber, data "phoneNumber" = some phoneNumber ∧ PhoneNumberChecked phoneNumber
  ordered : ∀ {Image : Type} reply userUID data document
    (selectedServices : List (ServiceOptionModel Image)) totalPrice,
    request.userCreated reply = .ok (userUID, data) → document.data = some data →
    EmailChecked (orderData document selectedServices totalPrice).email ∧
      PhoneNumberChecked (orderData document selectedServices totalPrice).phoneNumber

theorem RegisterUserRequest.data_eq_of_userCreated {request : RegisterUserRequest}
    {reply : AuthReply} {userUID : String} {data : DocumentData}
    (hcreated : request.userCreated reply = .ok (userUID, data)) : data = request.userData := by
  unfold userCreated at hcreated
  split at hcreated
  next => cases hcreated
  next =>
    split at hcreated
    next => cases hcreated
    next =>
      cases hcreated
      rfl

/-- What is stored and copied are the texts that were handed over. -/
theorem RegisterUserRequest.Checked.of_texts {request : RegisterUserRequest}
    (hemail : EmailChecked request.email) (hphone : PhoneNumberChecked request.phoneNumber)
    (hpassword : PasswordChecked request.password) : request.Checked where
  email := hemail
  phoneNumber := hphone
  password := hpassword
  stored := by
    intro reply userUID data hcreated
    rw [data_eq_of_userCreated hcreated]
    exact ⟨⟨_, rfl, hemail⟩, _, rfl, hphone⟩
  ordered := by
    intro Image reply userUID data document selectedServices totalPrice hcreated hdata
    rw [data_eq_of_userCreated hcreated] at hdata
    simpa [orderData, DocumentSnapshot.stringValue, hdata, userData] using ⟨hemail, hphone⟩

/-- If the texts pass the checks of the form, they are what the checks looked at. -/
def RegisterViewController.Plain (digits : DecimalDigits) (controller : RegisterViewController) :
    Prop :=
  isValidEmail (controller.emailField.getD "") = true →
  isValidPhoneNumber digits (controller.phoneNumberField.getD "") = true →
  isValidPassword (controller.passwordField.getD "") = true →
    EmailTrimmed (controller.emailField.getD "") ∧
      PhoneNumberPlain (controller.phoneNumberField.getD "") ∧
      PasswordShort (controller.passwordField.getD "")

def LoginViewController.Plain (controller : LoginViewController) : Prop :=
  isValidEmail (controller.emailField.getD "") = true →
  isValidPassword (controller.passwordField.getD "") = true →
    EmailTrimmed (controller.emailField.getD "") ∧
      PasswordShort (controller.passwordField.getD "")

def ForgotPasswordViewController.Plain (controller : ForgotPasswordViewController) : Prop :=
  isValidEmail (controller.emailField.getD "") = true →
    EmailTrimmed (controller.emailField.getD "")

theorem RegisterViewController.sends_checked_iff (digits : DecimalDigits)
    (controller : RegisterViewController) :
    (∀ request, controller.didTapSignUp digits = .ok request → request.Checked) ↔
      controller.Plain digits := by
  constructor
  · intro hchecked hemail hphone hpassword
    have hsent := hchecked _ (didTapSignUp_eq_ok_iff.mpr ⟨rfl, hemail, hphone, hpassword⟩)
    exact ⟨(emailChecked_iff hemail).mp hsent.email,
      (phoneNumberChecked_iff hphone).mp hsent.phoneNumber,
      (passwordChecked_iff hpassword).mp hsent.password⟩
  · intro hplain request hsent
    obtain ⟨rfl, hemail, hphone, hpassword⟩ := didTapSignUp_eq_ok_iff.mp hsent
    obtain ⟨htrimmed, hascii, hshort⟩ := hplain hemail hphone hpassword
    exact .of_texts ((emailChecked_iff hemail).mpr htrimmed)
      ((phoneNumberChecked_iff hphone).mpr hascii) ((passwordChecked_iff hpassword).mpr hshort)

theorem LoginViewController.sends_checked_iff (controller : LoginViewController) :
    (∀ request, controller.didTapSignIn = .ok request →
        EmailChecked request.email ∧ PasswordChecked request.password) ↔
      controller.Plain := by
  constructor
  · intro hchecked hemail hpassword
    have hsent := hchecked _ (didTapSignIn_eq_ok_iff.mpr ⟨rfl, hemail, hpassword⟩)
    exact ⟨(emailChecked_iff hemail).mp hsent.1, (passwordChecked_iff hpassword).mp hsent.2⟩
  · intro hplain request hsent
    obtain ⟨rfl, hemail, hpassword⟩ := didTapSignIn_eq_ok_iff.mp hsent
    obtain ⟨htrimmed, hshort⟩ := hplain hemail hpassword
    exact ⟨(emailChecked_iff hemail).mpr htrimmed, (passwordChecked_iff hpassword).mpr hshort⟩

theorem ForgotPasswordViewController.sends_checked_iff
    (controller : ForgotPasswordViewController) :
    (∀ email, controller.didTapForgotPassword = .ok email → EmailChecked email) ↔
      controller.Plain := by
  constructor
  · intro hchecked hemail
    have hsent := hchecked _ (didTapForgotPassword_eq_ok_iff.mpr ⟨rfl, hemail⟩)
    exact (emailChecked_iff hemail).mp hsent
  · intro hplain email hsent
    obtain ⟨rfl, hemail⟩ := didTapForgotPassword_eq_ok_iff.mp hsent
    exact (emailChecked_iff hemail).mpr (hplain hemail)

/-- What the three forms hand over satisfies the checks exactly when the checks
looked at the very texts. -/
theorem forms_send_checked_iff (digits : DecimalDigits) (register : RegisterViewController)
    (login : LoginViewController) (forgotPassword : ForgotPasswordViewController) :
    ((∀ request, register.didTapSignUp digits = .ok request → request.Checked) ↔
      register.Plain digits) ∧
    ((∀ request, login.didTapSignIn = .ok request →
        EmailChecked request.email ∧ PasswordChecked request.password) ↔ login.Plain) ∧
    ((∀ email, forgotPassword.didTapForgotPassword = .ok email → EmailChecked email) ↔
      forgotPassword.Plain) :=
  ⟨register.sends_checked_iff digits, login.sends_checked_iff, forgotPassword.sends_checked_iff⟩

/-- The digits of ASCII and the Arabic-Indic ones. -/
def arabicIndicDigits : DecimalDigits where
  contains character := character.isDigit || (0x660 ≤ character.toNat && character.toNat ≤ 0x669)
  ascii := by
    intro character hascii
    simp only [Bool.or_eq_left_iff_imp, Bool.and_eq_true, decide_eq_true_eq]
    omega

/-- A registration with a space in front of the email, eight Arabic-Indic digits
in the phone number and forty spaces behind the password. -/
def spacedRegistration : RegisterViewController where
  fullnameField := some "Ana Pop"
  emailField := some " ana@fly.ro"
  phoneNumberField := some "07١٢٣٤٥٦٧٨"
  passwordField := some ("secret" ++ String.ofList (List.replicate 40 ' '))

/-- All three texts are sent, and none of them satisfies its check. -/
theorem spacedRegistration_sent :
    ∃ request, spacedRegistration.didTapSignUp arabicIndicDigits = .ok request ∧
      ¬ EmailChecked request.email ∧ ¬ PhoneNumberChecked request.phoneNumber ∧
      ¬ PasswordChecked request.password ∧ ¬ request.Checked := by
  have hemail : isValidEmail " ana@fly.ro" = true := by decide +kernel
  have hphone : isValidPhoneNumber arabicIndicDigits "07١٢٣٤٥٦٧٨" = true := by decide +kernel
  have hpassword :
      isValidPassword ("secret" ++ String.ofList (List.replicate 40 ' ')) = true := by
    decide +kernel
  have hspaced : ¬ EmailChecked " ana@fly.ro" := by
    rw [emailChecked_iff hemail, EmailTrimmed]
    decide +kernel
  have hphoneSent : ¬ PhoneNumberChecked "07١٢٣٤٥٦٧٨" := by
    rw [phoneNumberChecked_iff hphone]
    rintro ⟨-, hascii⟩
    exact absurd (hascii '١' (by decide +kernel)) (by decide)
  have hpasswordSent :
      ¬ PasswordChecked ("secret" ++ String.ofList (List.replicate 40 ' ')) := by
    rw [passwordChecked_iff hpassword, PasswordShort]
    decide +kernel
  exact ⟨_, RegisterViewController.didTapSignUp_eq_ok_iff.mpr ⟨rfl, hemail, hphone, hpassword⟩,
    hspaced, hphoneSent, hpasswordSent, fun hchecked => hspaced hchecked.email⟩

end FlyEvents
