import FlyEvents.Foundation.Machine
import FlyEvents.ViewControllers.AuthForms

/-! # The root screen and the session

The window shows the login screen, with the screens pushed above it, or the event
chooser. A transition to the root screen that fits the session is started by
`checkAuthentication`, and transitions complete in the order they were started.

The session changes when the backend answers a call of `AuthService`. The
controller that made the call hears of it in the callback, which runs later and
holds the controller weakly: once it was popped the callback does nothing, and
while another screen covers it, it has no window.
-/

namespace FlyEvents

inductive AuthScreen
  | register
  | forgotPassword
  deriving DecidableEq

/-- A controller pushed above the login screen. -/
structure AuthController where
  id : Nat
  screen : AuthScreen
  deriving DecidableEq

/-- The root of the window, with what is pushed above the login, topmost first. -/
inductive RootScreen
  | login (id : Nat) (above : List AuthController)
  | chooseEvent (id : Nat)
  deriving DecidableEq

namespace RootScreen

def isChooseEvent : RootScreen → Bool
  | .login _ _ => false
  | .chooseEvent _ => true

/-- The controllers of the root, topmost first. -/
def controllers : RootScreen → List Nat
  | .login id above => above.map AuthController.id ++ [id]
  | .chooseEvent id => [id]

end RootScreen

/-- A call of `AuthService`: a request, or the arguments of the callback that is
to run. A registration makes two requests. -/
inductive AuthCall
  | signIn (request : LoginUserRequest)
  | signedIn (error : Option BackendError)
  | createUser (request : RegisterUserRequest)
  | userCreated (request : RegisterUserRequest) (reply : AuthReply)
  | setData (userUID : String) (data : DocumentData)
  | dataSet (error : Option BackendError)
  | sendPasswordReset (email : String)
  | passwordResetSent (error : Option BackendError)

namespace AuthCall

/-- The call after the backend has answered. -/
def answered (reply : AuthReply) : AuthCall → Option AuthCall
  | .signIn _ => some (.signedIn reply.error)
  | .createUser request => some (.userCreated request reply)
  | .setData _ _ => some (.dataSet reply.error)
  | .sendPasswordReset _ => some (.passwordResetSent reply.error)
  | _ => none

/-- The user whom the answer signs in. -/
def userSignedIn (reply : AuthReply) : AuthCall → Option String
  | .signIn _ | .createUser _ =>
      match reply.error with
      | none => reply.user
      | some _ => none
  | _ => none

/-- The call has got so far that it has signed a user in. -/
def hasSignedIn : AuthCall → Bool
  | .signedIn none => true
  | .userCreated request reply => (request.userCreated reply).isOk
  | .setData _ _ => true
  | .dataSet _ => true
  | _ => false

end AuthCall

/-- The calls carry the controllers that made them. -/
structure AuthScene where
  currentUser : Option String
  root : Option RootScreen := none
  transitions : List RootScreen := []
  calls : List (Nat × AuthCall) := []
  alerts : List (Nat × BasicAlert) := []
  /-- How many controllers were created. -/
  created : Nat := 0

inductive AuthSceneAction
  | didTapSignIn (form : LoginViewController)
  | didTapNewUser
  | didTapForgotPassword
  | didTapBack
  | didTapSignUp (form : RegisterViewController)
  /-- The button "Already have an account? Sign In." -/
  | didTapHaveAccount
  | didTapResetPassword (form : ForgotPasswordViewController)
  | didTapLogout (error : Option BackendError)
  | answered (index : Nat) (reply : AuthReply)
  | delivered (index : Nat)
  | transitionCompleted

/-- The action is one of the user, and no callback. -/
def AuthSceneAction.isTap : AuthSceneAction → Bool
  | .answered _ _ | .delivered _ | .transitionCompleted => false
  | _ => true

namespace AuthScene

/-- The controller has not been deallocated. -/
def alive (scene : AuthScene) (controller : Nat) : Bool :=
  (scene.root.elim [] RootScreen.controllers).contains controller

/-- `view.window` of the controller is not nil. -/
def inWindow (scene : AuthScene) (controller : Nat) : Bool :=
  (scene.root.elim [] RootScreen.controllers).head? = some controller

def goToViewController (scene : AuthScene) (viewController : RootScreen) : AuthScene :=
  { scene with
    transitions := scene.transitions ++ [viewController], created := scene.created + 1 }

def checkAuthentication (scene : AuthScene) : AuthScene :=
  match scene.currentUser with
  | none => scene.goToViewController (.login scene.created [])
  | some _ => scene.goToViewController (.chooseEvent scene.created)

def alert (scene : AuthScene) (controller : Nat) (alert : BasicAlert) : AuthScene :=
  { scene with alerts := scene.alerts ++ [(controller, alert)] }

/-- The request of a form, or its alert. -/
def request (scene : AuthScene) (controller : Nat) : Except BasicAlert AuthCall → AuthScene
  | .ok call => { scene with calls := scene.calls ++ [(controller, call)] }
  | .error alert => scene.alert controller alert

/-- The screen is pushed above the login. -/
def push (scene : AuthScene) (screen : AuthScreen) : Option AuthScene :=
  match scene.root with
  | some (.login id []) => some { scene with
      root := some (.login id [{ id := scene.created, screen }]), created := scene.created + 1 }
  | _ => none

/-- The completion that the login screen gives to `signIn`. -/
def signInCompleted (scene : AuthScene) (controller : Nat) (error : Option BackendError) :
    AuthScene :=
  if scene.alive controller then
    match error with
    | some error => scene.alert controller (showSignInErrorAlert (some error))
    | none =>
        if scene.inWindow controller then scene.checkAuthentication
        else scene.alert controller (showSignInErrorAlert none)
  else scene

/-- The completion that the registration screen gives to `registerUser`. -/
def registrationCompleted (scene : AuthScene) (controller : Nat) (result : RegistrationResult) :
    AuthScene :=
  if scene.alive controller then
    match result.error with
    | some error => scene.alert controller (showRegistrationErrorAlert (some error))
    | none =>
        if result.wasRegistered then
          if scene.inWindow controller then scene.checkAuthentication else scene
        else scene.alert controller (showRegistrationErrorAlert none)
  else scene

/-- The completion that the forgot-password screen gives to `forgotPassword`. -/
def passwordResetCompleted (scene : AuthScene) (controller : Nat) (error : Option BackendError) :
    AuthScene :=
  if scene.alive controller then
    match error with
    | some error => scene.alert controller (showErrorSendingPasswordReset error)
    | none => scene.alert controller showPasswordResetSent
  else scene

/-- The completion that the event chooser gives to `signOut`, which runs at once. -/
def signOutCompleted (scene : AuthScene) (controller : Nat) : Option BackendError → AuthScene
  | some error => scene.alert controller (showLogoutErrorAlert error)
  | none => if scene.inWindow controller then scene.checkAuthentication else scene

/-- The callback of an answered call; that of `createUser` may go on to `setData`. -/
def deliver (scene : AuthScene) (index controller : Nat) : AuthCall → Option AuthScene
  | .signedIn error =>
      some ({ scene with calls := scene.calls.eraseIdx index }.signInCompleted controller error)
  | .userCreated request reply =>
      match request.userCreated reply with
      | .error result => some
          ({ scene with calls := scene.calls.eraseIdx index }.registrationCompleted controller
            result)
      | .ok (userUID, data) => some { scene with
          calls := scene.calls.set index (controller, .setData userUID data) }
  | .dataSet error => some
      ({ scene with calls := scene.calls.eraseIdx index }.registrationCompleted controller
        (dataSet error))
  | .passwordResetSent error => some
      ({ scene with calls := scene.calls.eraseIdx index }.passwordResetCompleted controller error)
  | _ => none

/-- One step. Taps go to the topmost screen, and callbacks run in any order. -/
def step (digits : DecimalDigits) (scene : AuthScene) : AuthSceneAction → Option AuthScene
  | .didTapSignIn form =>
      match scene.root with
      | some (.login id []) => some (scene.request id (form.didTapSignIn.map .signIn))
      | _ => none
  | .didTapNewUser => scene.push .register
  | .didTapForgotPassword => scene.push .forgotPassword
  | .didTapBack =>
      match scene.root with
      | some (.login id (_ :: below)) => some { scene with root := some (.login id below) }
      | _ => none
  | .didTapSignUp form =>
      match scene.root with
      | some (.login _ (⟨id, .register⟩ :: _)) =>
          some (scene.request id ((form.didTapSignUp digits).map .createUser))
      | _ => none
  | .didTapHaveAccount =>
      match scene.root with
      | some (.login id (⟨_, .register⟩ :: _)) => some { scene with root := some (.login id []) }
      | _ => none
  | .didTapResetPassword form =>
      match scene.root with
      | some (.login _ (⟨id, .forgotPassword⟩ :: _)) =>
          some (scene.request id (form.didTapForgotPassword.map .sendPasswordReset))
      | _ => none
  | .didTapLogout error =>
      match scene.root with
      | some (.chooseEvent id) =>
          -- Signing out fails without an effect, or signs the user out.
          some ({ scene with
            currentUser := if error.isSome then scene.currentUser else none }.signOutCompleted id
              error)
      | _ => none
  | .answered index reply => do
      let (controller, call) ← scene.calls[index]?
      let answered ← call.answered reply
      return { scene with
        calls := scene.calls.set index (controller, answered)
        currentUser := (call.userSignedIn reply).or scene.currentUser }
  | .delivered index => do
      let (controller, call) ← scene.calls[index]?
      scene.deliver index controller call
  | .transitionCompleted =>
      match scene.transitions with
      | viewController :: transitions =>
          some { scene with root := some viewController, transitions }
      | [] => none

/-- The scene when it connects to its session. -/
def connected (currentUser : Option String) : AuthScene :=
  { currentUser : AuthScene }.checkAuthentication

/-- No request, callback or transition is pending. -/
def Quiet (scene : AuthScene) : Prop := scene.calls = [] ∧ scene.transitions = []

/-- The root is the event chooser exactly if a user is signed in. -/
def Agrees (scene : AuthScene) : Prop :=
  scene.root.any RootScreen.isChooseEvent = true ↔ scene.currentUser ≠ none

theorem root_checkAuthentication (scene : AuthScene) :
    scene.checkAuthentication.root = scene.root := by
  unfold checkAuthentication
  split <;> rfl

theorem calls_checkAuthentication (scene : AuthScene) :
    scene.checkAuthentication.calls = scene.calls := by
  unfold checkAuthentication
  split <;> rfl

@[simp] theorem currentUser_checkAuthentication (scene : AuthScene) :
    scene.checkAuthentication.currentUser = scene.currentUser := by
  unfold checkAuthentication
  cases hcurrent : scene.currentUser <;> simp [goToViewController, hcurrent]

/-- The completion of `signOut` starts a transition or shows an alert, and leaves
the rest as it is. -/
theorem signOutCompleted_frame (scene : AuthScene) (controller : Nat)
    (error : Option BackendError) :
    (scene.signOutCompleted controller error).root = scene.root ∧
      (scene.signOutCompleted controller error).calls = scene.calls ∧
      (scene.signOutCompleted controller error).currentUser = scene.currentUser := by
  cases error with
  | some error => exact ⟨rfl, rfl, rfl⟩
  | none =>
      simp only [signOutCompleted]
      split
      next =>
        exact ⟨root_checkAuthentication scene, calls_checkAuthentication scene,
          currentUser_checkAuthentication scene⟩
      next => exact ⟨rfl, rfl, rfl⟩

theorem mem_calls_of_erased {scene : AuthScene} {before after : List (Nat × AuthCall)}
    {call other : Nat × AuthCall} (hsplit : scene.calls = before ++ call :: after)
    (hmem : other ∈ before ++ after) : other ∈ scene.calls := by
  rw [hsplit]
  rcases List.mem_append.mp hmem with hmem | hmem
  · exact List.mem_append_left _ hmem
  · exact List.mem_append_right _ (List.mem_cons_of_mem call hmem)

/-! ## What a step can do -/

/-- The root and the alerts change with the taps and the callbacks; what matters
here is which root screen it is, and which calls are made. -/
inductive Stepped (scene : AuthScene) : AuthSceneAction → AuthScene → Prop
  | tapped {action root calls added alerts created} (htap : action.isTap = true)
      (hroot : root.any RootScreen.isChooseEvent = scene.root.any RootScreen.isChooseEvent)
      (hcalls : calls = scene.calls ++ added)
      (hadded : ∀ call ∈ added, call.2.hasSignedIn = false) :
      Stepped scene action { scene with root, calls, alerts, created }
  | loggedOut : Stepped scene (.didTapLogout none)
      { scene with currentUser := none }.checkAuthentication
  | answered {index reply before controller call after answered}
      (hcalls : scene.calls = before ++ (controller, call) :: after)
      (hanswered : call.answered reply = some answered) :
      Stepped scene (.answered index reply) { scene with
        calls := before ++ (controller, answered) :: after
        currentUser := (call.userSignedIn reply).or scene.currentUser }
  | continued {index before controller request reply after userUID data}
      (hindex : scene.calls[index]? = some (controller, .userCreated request reply))
      (hcalls : scene.calls = before ++ (controller, .userCreated request reply) :: after)
      (hcreated : request.userCreated reply = .ok (userUID, data)) :
      Stepped scene (.delivered index) { scene with
        calls := before ++ (controller, .setData userUID data) :: after }
  | refreshed {index before controller call after}
      (hindex : scene.calls[index]? = some (controller, call))
      (hcalls : scene.calls = before ++ (controller, call) :: after)
      (hwindow : scene.inWindow controller = true)
      (hsucceeded : call = .signedIn none ∨ call = .dataSet none) :
      Stepped scene (.delivered index)
        { scene with calls := before ++ after }.checkAuthentication
  | ended {index before controller call after alerts}
      (hindex : scene.calls[index]? = some (controller, call))
      (hcalls : scene.calls = before ++ (controller, call) :: after)
      (herase : scene.calls.eraseIdx index = before ++ after)
      (hcovered : scene.inWindow controller = true →
        call ≠ .signedIn none ∧ call ≠ .dataSet none)
      (hfailed : call.hasSignedIn = true → call = .signedIn none ∨ ∃ error, call = .dataSet error) :
      Stepped scene (.delivered index) { scene with calls := before ++ after, alerts }
  | transitionCompleted {viewController transitions}
      (htransitions : scene.transitions = viewController :: transitions) :
      Stepped scene .transitionCompleted
        { scene with root := some viewController, transitions }

/-- The controller in the window has not been deallocated. -/
theorem alive_of_inWindow {scene : AuthScene} {controller : Nat}
    (hwindow : scene.inWindow controller = true) : scene.alive controller = true := by
  simp only [inWindow, decide_eq_true_eq] at hwindow
  simp [alive, List.mem_of_head? hwindow]

/-- The completion of `signIn` refreshes the root screen, or does no more than
show an alert. -/
theorem signInCompleted_cases (scene : AuthScene) (controller : Nat)
    (error : Option BackendError) :
    (scene.inWindow controller = true ∧ error = none) ∧
        scene.signInCompleted controller error = scene.checkAuthentication ∨
      (scene.inWindow controller = true → error ≠ none) ∧
        ∃ alerts, scene.signInCompleted controller error = { scene with alerts } := by
  unfold signInCompleted
  split
  next =>
    cases error with
    | some error => exact .inr ⟨fun _ => nofun, _, rfl⟩
    | none =>
        by_cases hwindow : scene.inWindow controller = true
        · exact .inl ⟨⟨hwindow, rfl⟩, by simp [hwindow]⟩
        · rw [if_neg hwindow]
          exact .inr ⟨fun h => absurd h hwindow, _, rfl⟩
  next hdead => exact .inr ⟨fun hwindow => absurd (alive_of_inWindow hwindow) hdead, _, rfl⟩

theorem registrationCompleted_cases (scene : AuthScene) (controller : Nat)
    (result : RegistrationResult) :
    (scene.inWindow controller = true ∧ result = dataSet none) ∧
        scene.registrationCompleted controller result = scene.checkAuthentication ∨
      (scene.inWindow controller = true → result ≠ dataSet none) ∧
        ∃ alerts, scene.registrationCompleted controller result = { scene with alerts } := by
  unfold registrationCompleted
  split
  next =>
    obtain ⟨wasRegistered, error⟩ := result
    cases error with
    | some error => exact .inr ⟨fun _ => nofun, _, rfl⟩
    | none =>
        cases wasRegistered with
        | false => exact .inr ⟨fun _ => nofun, _, rfl⟩
        | true =>
            by_cases hwindow : scene.inWindow controller = true
            · exact .inl ⟨⟨hwindow, rfl⟩, by simp [hwindow]⟩
            · refine .inr ⟨fun h => absurd h hwindow, scene.alerts, ?_⟩
              simp [hwindow]
  next hdead => exact .inr ⟨fun hwindow => absurd (alive_of_inWindow hwindow) hdead, _, rfl⟩

theorem exists_passwordResetCompleted (scene : AuthScene) (controller : Nat)
    (error : Option BackendError) :
    ∃ alerts, scene.passwordResetCompleted controller error = { scene with alerts } := by
  unfold passwordResetCompleted
  split
  next => cases error <;> exact ⟨_, rfl⟩
  next => exact ⟨_, rfl⟩

/-- A tap that leaves the calls alone. -/
theorem Stepped.browsed {scene : AuthScene} {action : AuthSceneAction} {root : Option RootScreen}
    {alerts : List (Nat × BasicAlert)} {created : Nat} (htap : action.isTap = true)
    (hroot : root.any RootScreen.isChooseEvent = scene.root.any RootScreen.isChooseEvent) :
    Stepped scene action { scene with root, alerts, created } :=
  .tapped htap hroot (List.append_nil scene.calls).symm (by simp)

/-- A form makes at most one call, which has not signed anyone in. -/
theorem stepped_request {Request : Type} {scene : AuthScene} {action : AuthSceneAction}
    {controller : Nat} {form : Except BasicAlert Request} {call : Request → AuthCall}
    (htap : action.isTap = true) (hcall : ∀ request, (call request).hasSignedIn = false) :
    Stepped scene action (scene.request controller (form.map call)) := by
  cases form with
  | ok request => exact .tapped htap rfl rfl (by simpa using hcall request)
  | error alert => exact .browsed htap rfl

theorem stepped_push {scene next : AuthScene} {action : AuthSceneAction} {screen : AuthScreen}
    (htap : action.isTap = true) (hpush : scene.push screen = some next) :
    Stepped scene action next := by
  unfold push at hpush
  split at hpush
  next hroot =>
    cases hpush
    exact .browsed htap (by simp [hroot, RootScreen.isChooseEvent])
  next => cases hpush

/-- A refused registration is no saved one. -/
theorem userCreated_ne_error_dataSet (request : RegisterUserRequest) (reply : AuthReply) :
    request.userCreated reply ≠ .error (FlyEvents.dataSet none) := by
  obtain ⟨user, error⟩ := reply
  cases error with
  | some error => exact nofun
  | none => cases user <;> exact nofun

/-- The callback at an index ends its call, or goes on with it. -/
theorem stepped_deliver {scene next : AuthScene} {index controller : Nat} {call : AuthCall}
    (hindex : scene.calls[index]? = some (controller, call))
    (hdeliver : scene.deliver index controller call = some next) :
    Stepped scene (.delivered index) next := by
  obtain ⟨before, after, hcalls, hset, herase⟩ := Machine.exists_split_of_getElem? hindex
  cases call with
  | signedIn error =>
      simp only [deliver, herase, Option.some.injEq] at hdeliver
      rcases signInCompleted_cases { scene with calls := before ++ after } controller error with
        ⟨⟨hwindow, rfl⟩, hrefreshed⟩ | ⟨hcovered, alerts, hended⟩
      · rw [hrefreshed] at hdeliver
        cases hdeliver
        exact .refreshed hindex hcalls hwindow (.inl rfl)
      · rw [hended] at hdeliver
        cases hdeliver
        refine .ended hindex hcalls herase ?_ ?_
        · intro hwindow
          have herror := hcovered hwindow
          simp [herror]
        · cases error <;> simp [AuthCall.hasSignedIn]
  | userCreated request reply =>
      simp only [deliver] at hdeliver
      split at hdeliver
      next result hcreated =>
        simp only [herase, Option.some.injEq] at hdeliver
        rcases registrationCompleted_cases { scene with calls := before ++ after } controller
          result with ⟨⟨-, rfl⟩, -⟩ | ⟨-, alerts, hended⟩
        · exact absurd hcreated (userCreated_ne_error_dataSet request reply)
        · rw [hended] at hdeliver
          cases hdeliver
          refine .ended hindex hcalls herase (fun _ => by simp) fun hsigned => ?_
          rw [AuthCall.hasSignedIn, hcreated] at hsigned
          cases hsigned
      next userUID data hcreated =>
        cases hdeliver
        rw [hset]
        exact .continued hindex hcalls hcreated
  | dataSet error =>
      simp only [deliver, herase, Option.some.injEq] at hdeliver
      rcases registrationCompleted_cases { scene with calls := before ++ after } controller
        (FlyEvents.dataSet error) with ⟨⟨hwindow, hsaved⟩, hrefreshed⟩ | ⟨hcovered, alerts, hended⟩
      · rw [hrefreshed] at hdeliver
        cases hdeliver
        refine .refreshed hindex hcalls hwindow (.inr ?_)
        cases error with
        | none => rfl
        | some error => cases hsaved
      · rw [hended] at hdeliver
        cases hdeliver
        refine .ended hindex hcalls herase (fun hwindow => ⟨by simp, ?_⟩) fun _ =>
          .inr ⟨error, rfl⟩
        rintro ⟨rfl⟩
        exact hcovered hwindow rfl
  | passwordResetSent error =>
      simp only [deliver, herase, Option.some.injEq] at hdeliver
      obtain ⟨alerts, hended⟩ :=
        exists_passwordResetCompleted { scene with calls := before ++ after } controller error
      rw [hended] at hdeliver
      cases hdeliver
      refine .ended hindex hcalls herase (fun _ => by simp) fun hsigned => ?_
      cases hsigned
  | signIn request => cases hdeliver
  | createUser request => cases hdeliver
  | setData userUID data => cases hdeliver
  | sendPasswordReset email => cases hdeliver

theorem step_cases {digits : DecimalDigits} {scene next : AuthScene} {action : AuthSceneAction}
    (hstep : scene.step digits action = some next) : Stepped scene action next := by
  cases action with
  | didTapSignIn form =>
      simp only [step] at hstep
      split at hstep
      next =>
        obtain rfl := Option.some.inj hstep
        exact stepped_request rfl fun _ => rfl
      next => cases hstep
  | didTapNewUser => exact stepped_push rfl hstep
  | didTapForgotPassword => exact stepped_push rfl hstep
  | didTapBack =>
      simp only [step] at hstep
      split at hstep
      next hroot =>
        cases hstep
        exact .browsed rfl (by simp [hroot, RootScreen.isChooseEvent])
      next => cases hstep
  | didTapSignUp form =>
      simp only [step] at hstep
      split at hstep
      next =>
        obtain rfl := Option.some.inj hstep
        exact stepped_request rfl fun _ => rfl
      next => cases hstep
  | didTapHaveAccount =>
      simp only [step] at hstep
      split at hstep
      next hroot =>
        cases hstep
        exact .browsed rfl (by simp [hroot, RootScreen.isChooseEvent])
      next => cases hstep
  | didTapResetPassword form =>
      simp only [step] at hstep
      split at hstep
      next =>
        obtain rfl := Option.some.inj hstep
        exact stepped_request rfl fun _ => rfl
      next => cases hstep
  | didTapLogout error =>
      simp only [step] at hstep
      split at hstep
      next id hroot =>
        obtain rfl := Option.some.inj hstep
        cases error with
        | some error => exact .browsed rfl rfl
        | none =>
            -- The chooser is the root, so the screen that was tapped has a window.
            have hwindow : ({ scene with currentUser := none } : AuthScene).inWindow id = true := by
              simp [inWindow, hroot, RootScreen.controllers]
            have hrefreshed : ({ scene with currentUser := none } : AuthScene).signOutCompleted id
                none = ({ scene with currentUser := none } : AuthScene).checkAuthentication :=
              if_pos hwindow
            exact hrefreshed ▸ Stepped.loggedOut
      next => cases hstep
  | answered index reply =>
      obtain ⟨⟨controller, call⟩, hindex, hstep⟩ := Option.bind_eq_some_iff.mp hstep
      obtain ⟨answered, hanswered, hnext⟩ := Option.bind_eq_some_iff.mp hstep
      cases hnext
      obtain ⟨before, after, hcalls, hset, -⟩ := Machine.exists_split_of_getElem? hindex
      rw [hset]
      exact .answered hcalls hanswered
  | delivered index =>
      obtain ⟨⟨controller, call⟩, hindex, hdeliver⟩ := Option.bind_eq_some_iff.mp hstep
      exact stepped_deliver hindex hdeliver
  | transitionCompleted =>
      simp only [step] at hstep
      split at hstep
      next viewController transitions htransitions =>
        cases hstep
        exact .transitionCompleted htransitions
      next => cases hstep

end AuthScene

end FlyEvents
