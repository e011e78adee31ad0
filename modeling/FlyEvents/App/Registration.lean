import FlyEvents.Data.Login.AuthService
import FlyEvents.Foundation.Machine
import Mathlib.Logic.Function.Basic

/-! # Registrations and the two stores they write

The accounts and the users collection are written one after the other, and
nothing undoes the first write when the second one fails, or when the app is
killed before it.

Calls of `registerUser` do not overlap here: one starts only when none is in
progress, and the session changes only between them. The screen does not see to
that, and two taps on Sign Up make two calls at once; `AuthScene` has them.
-/

namespace FlyEvents

structure Account where
  uid : String
  email : String
  deriving DecidableEq

/-- What a registration changes: the accounts, the documents of the users, and
the signed-in user, whom the device keeps when the app is killed. -/
structure Backend where
  accounts : List Account
  users : String → Option DocumentData
  currentUser : Option String

/-- How far a call of `registerUser` has got. -/
inductive Stage
  | creating
  | saving (userUID : String) (data : DocumentData)
  | saved (error : Option BackendError)

/-- A call of `registerUser` in progress, with the backend as it was before. -/
structure Registration where
  request : RegisterUserRequest
  before : Backend
  stage : Stage

/-- A completed call: what its completion was called with, and the backend
before the call and at the completion. -/
structure Completed where
  result : RegistrationResult
  before : Backend
  after : Backend

structure AuthSession where
  backend : Backend
  inProgress : Option Registration := none
  /-- The accounts that registrations created, with their requests. -/
  created : List (String × RegisterUserRequest) := []
  completed : List Completed := []

inductive AuthAction
  | registerUser (request : RegisterUserRequest)
  | createUserAnswered (reply : AuthReply)
  | setDataAnswered (error : Option BackendError)
  | setDataDelivered
  | killed
  | authChanged (user : Option String)

/-- The answer of the backend to `createUser`. An account is created under a
new uid, for an email that no account has, and signed in. -/
def Backend.createUser (backend : Backend) (email : String) (reply : AuthReply) :
    Option Backend :=
  match reply.error, reply.user with
  | none, some uid =>
      if backend.accounts.all fun account => account.uid ≠ uid && account.email ≠ email then
        some { backend with
          accounts := backend.accounts ++ [{ uid, email }]
          currentUser := some uid }
      else none
  | _, _ => some backend

/-- The answer of the backend to `setData`. -/
def Backend.setData (backend : Backend) (userUID : String) (data : DocumentData)
    (error : Option BackendError) : Backend :=
  match error with
  | none => { backend with users := Function.update backend.users userUID data }
  | some _ => backend

namespace AuthSession

def launched (backend : Backend) : AuthSession := { backend }

def complete (session : AuthSession) (registration : Registration)
    (result : RegistrationResult) : AuthSession :=
  { session with
    inProgress := none
    completed := session.completed ++
      [{ result, before := registration.before, after := session.backend }] }

def step (session : AuthSession) : AuthAction → Option AuthSession
  | .registerUser request =>
      match session.inProgress with
      | none => some { session with
          inProgress := some { request, before := session.backend, stage := .creating } }
      | some _ => none
  | .createUserAnswered reply =>
      match session.inProgress with
      | some { request, before, stage := .creating } => do
          let backend ← session.backend.createUser request.email reply
          match request.userCreated reply with
          | .error result =>
              some ({ session with backend }.complete { request, before, stage := .creating }
                result)
          | .ok (userUID, data) => some { session with
              backend
              inProgress := some { request, before, stage := .saving userUID data }
              created := session.created ++ [(userUID, request)] }
      | _ => none
  | .setDataAnswered error =>
      match session.inProgress with
      | some { request, before, stage := .saving userUID data } => some { session with
          backend := session.backend.setData userUID data error
          inProgress := some { request, before, stage := .saved error } }
      | _ => none
  | .setDataDelivered =>
      match session.inProgress with
      | some { request, before, stage := .saved error } =>
          some (session.complete { request, before, stage := .saved error } (dataSet error))
      | _ => none
  -- The stores keep what was written; the next launch does not resume the call.
  | .killed => some { session with inProgress := none }
  | .authChanged user =>
      match session.inProgress with
      | none => some { session with backend := { session.backend with currentUser := user } }
      | some _ => none

/-- What a step can do, with what it needs. -/
inductive Stepped (session : AuthSession) : AuthAction → AuthSession → Prop
  | registerUser {request} (hidle : session.inProgress = none) :
      Stepped session (.registerUser request) { session with
        inProgress := some { request, before := session.backend, stage := .creating } }
  | refused {reply request before result}
      (hcreating : session.inProgress = some { request, before, stage := .creating })
      (hresult : result.wasRegistered = false) :
      Stepped session (.createUserAnswered reply)
        (session.complete { request, before, stage := .creating } result)
  | created {reply request before uid}
      (hcreating : session.inProgress = some { request, before, stage := .creating })
      (hfresh : ∀ account ∈ session.backend.accounts, account.uid ≠ uid) :
      Stepped session (.createUserAnswered reply) { session with
        backend := { session.backend with
          accounts := session.backend.accounts ++ [{ uid, email := request.email }]
          currentUser := some uid }
        inProgress := some { request, before, stage := .saving uid request.userData }
        created := session.created ++ [(uid, request)] }
  | setDataAnswered {error request before userUID data}
      (hsaving : session.inProgress = some { request, before, stage := .saving userUID data }) :
      Stepped session (.setDataAnswered error) { session with
        backend := session.backend.setData userUID data error
        inProgress := some { request, before, stage := .saved error } }
  | setDataDelivered {request before error}
      (hsaved : session.inProgress = some { request, before, stage := .saved error }) :
      Stepped session .setDataDelivered
        (session.complete { request, before, stage := .saved error } (dataSet error))
  | killed : Stepped session .killed { session with inProgress := none }
  | authChanged {user} (hidle : session.inProgress = none) :
      Stepped session (.authChanged user)
        { session with backend := { session.backend with currentUser := user } }

theorem step_cases {session next : AuthSession} {action : AuthAction}
    (hstep : session.step action = some next) : Stepped session action next := by
  cases action with
  | registerUser request =>
      simp only [step] at hstep
      split at hstep
      next hidle =>
        cases hstep
        exact .registerUser hidle
      next => cases hstep
  | createUserAnswered reply =>
      simp only [step] at hstep
      split at hstep
      next request before hcreating =>
        obtain ⟨backend, hbackend, hstep⟩ := Option.bind_eq_some_iff.mp hstep
        obtain ⟨user, error⟩ := reply
        cases error with
        | some error =>
            cases hbackend
            cases hstep
            exact .refused hcreating rfl
        | none =>
            cases user with
            | none =>
                cases hbackend
                cases hstep
                exact .refused hcreating rfl
            | some uid =>
                simp only [Backend.createUser] at hbackend
                split at hbackend
                next hfresh =>
                  cases hbackend
                  cases hstep
                  refine .created hcreating fun account hmem => ?_
                  have := List.all_eq_true.mp hfresh account hmem
                  simp only [Bool.and_eq_true, decide_eq_true_eq] at this
                  exact this.1
                next => cases hbackend
      next => cases hstep
  | setDataAnswered error =>
      simp only [step] at hstep
      split at hstep
      next hsaving =>
        cases hstep
        exact .setDataAnswered hsaving
      next => cases hstep
  | setDataDelivered =>
      simp only [step] at hstep
      split at hstep
      next hsaved =>
        cases hstep
        exact .setDataDelivered hsaved
      next => cases hstep
  | killed =>
      cases hstep
      exact .killed
  | authChanged user =>
      simp only [step] at hstep
      split at hstep
      next hidle =>
        cases hstep
        exact .authChanged hidle
      next => cases hstep

end AuthSession

end FlyEvents
