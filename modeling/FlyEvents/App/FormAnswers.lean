import FlyEvents.App.RootAgreement

/-! # Every form is answered

The user hears of a form that was sent in an alert, or sees the root screen
change. A callback whose controller is gone tells nobody, and neither does a
registration that ends well while another screen covers it. These are all the
ends a form can come to, and it comes to one of them once.

An alert counts here when it is asked for. A controller that another screen
covers has no window to present it in, so the user need not see it.
-/

namespace FlyEvents

/-- The taps that send a form, or sign the user out. -/
def AuthSceneAction.isForm : AuthSceneAction → Bool
  | .didTapSignIn _ | .didTapSignUp _ | .didTapResetPassword _ | .didTapLogout _ => true
  | _ => false

def AuthSceneAction.isTransitionCompleted : AuthSceneAction → Bool
  | .transitionCompleted => true
  | _ => false

namespace AuthScene

/-- The controller in the window. -/
def topmost (scene : AuthScene) : List Nat :=
  (scene.root.elim [] RootScreen.controllers).head?.toList

/-- The callback of the call asks for the root screen that fits the session. -/
def refreshes (scene : AuthScene) (controller : Nat) : AuthCall → Bool
  | .signedIn none | .dataSet none => scene.inWindow controller
  | _ => false

/-- The callback of the call ends it, and tells nobody. -/
def unheard (scene : AuthScene) (controller : Nat) : AuthCall → Bool
  | .signedIn _ | .passwordResetSent _ | .dataSet (some _) => !scene.alive controller
  | .userCreated request reply => !(request.userCreated reply).isOk && !scene.alive controller
  | .dataSet none => !scene.inWindow controller
  | _ => false

/-- The controller whose form the step sends. -/
def sentForms (scene : AuthScene) (action : AuthSceneAction) : List Nat :=
  if action.isForm then scene.topmost else []

/-- The controller, where the condition holds of it. -/
def recorded (condition : Bool) (controller : Nat) : List Nat :=
  if condition then [controller] else []

/-- The controller that asks for the root screen in the step. -/
def refreshedBy (scene : AuthScene) : AuthSceneAction → List Nat
  | .didTapLogout none => scene.topmost
  | .delivered index => scene.calls[index]?.elim [] fun call =>
      recorded (scene.refreshes call.1 call.2) call.1
  | _ => []

/-- The controller that the step fails to tell. -/
def unheardBy (scene : AuthScene) : AuthSceneAction → List Nat
  | .delivered index => scene.calls[index]?.elim [] fun call =>
      recorded (scene.unheard call.1 call.2) call.1
  | _ => []

/-- How often the controller has been shown an alert, or still waits for a callback. -/
def heldFor (scene : AuthScene) (controller : Nat) : Nat :=
  (scene.alerts.map Prod.fst).count controller + (scene.calls.map Prod.fst).count controller

/-- A step from one scene to the next accounts for the forms that were sent. -/
structure Accounts (scene next : AuthScene) (sent refreshed unheard : List Nat)
    (completed : Nat) : Prop where
  forms : ∀ controller, scene.heldFor controller + sent.count controller =
    next.heldFor controller + refreshed.count controller + unheard.count controller
  transitions : scene.transitions.length + refreshed.length =
    next.transitions.length + completed

/-- A step that sends no form and ends none. -/
theorem Accounts.frame {scene next : AuthScene} {completed : Nat}
    (halerts : next.alerts = scene.alerts) (hcalls : next.calls.map Prod.fst =
      scene.calls.map Prod.fst)
    (htransitions : scene.transitions.length = next.transitions.length + completed) :
    Accounts scene next [] [] [] completed where
  forms controller := by simp [heldFor, halerts, hcalls]
  transitions := by simpa using htransitions

theorem accounts_checkAuthentication {scene next : AuthScene} {controller : Nat}
    (hnext : next = scene.checkAuthentication) : Accounts scene next [controller] [controller]
      [] 0 := by
  subst hnext
  unfold checkAuthentication
  split
  all_goals
    exact ⟨fun other => by simp [heldFor, goToViewController], by simp [goToViewController]⟩

theorem accounts_alert (scene : AuthScene) (controller : Nat) (alert : BasicAlert) :
    Accounts scene (scene.alert controller alert) [controller] [] [] 0 where
  forms other := by
    simp only [heldFor, AuthScene.alert, List.map_append, List.map_cons, List.map_nil,
      List.count_append, List.count_nil]
    omega
  transitions := rfl

theorem accounts_request {Request : Type} (scene : AuthScene) (controller : Nat)
    (form : Except BasicAlert Request) (call : Request → AuthCall) :
    Accounts scene (scene.request controller (form.map call)) [controller] [] [] 0 := by
  cases form with
  | error alert => exact accounts_alert scene controller alert
  | ok request =>
      refine ⟨fun other => ?_, rfl⟩
      simp only [Except.map, AuthScene.request, heldFor, List.map_append, List.map_cons,
        List.map_nil, List.count_append, List.count_nil]
      omega

theorem accounts_unheard (scene : AuthScene) (controller : Nat) :
    Accounts scene scene [controller] [] [controller] 0 where
  forms other := by simp
  transitions := rfl

/-- A callback ends the call it was for, which counts as a form sent now. -/
theorem Accounts.of_erased {scene next : AuthScene} {index controller : Nat} {call : AuthCall}
    {refreshed unheard : List Nat} (hindex : scene.calls[index]? = some (controller, call))
    (haccounts : Accounts { scene with calls := scene.calls.eraseIdx index } next [controller]
      refreshed unheard 0) : Accounts scene next [] refreshed unheard 0 where
  forms other := by
    have hforms := haccounts.forms other
    have hcalls := ((Machine.cons_eraseIdx_perm hindex).map Prod.fst).count_eq other
    simp only [heldFor, List.map_cons, List.count_cons, List.count_nil] at hforms hcalls ⊢
    omega
  transitions := haccounts.transitions

theorem not_inWindow_of_not_alive {scene : AuthScene} {controller : Nat}
    (hdead : scene.alive controller = false) : scene.inWindow controller = false := by
  by_contra hwindow
  rw [Bool.not_eq_false] at hwindow
  rw [alive_of_inWindow hwindow] at hdead
  cases hdead

/-! ## What the completions account for -/

theorem accounts_signInCompleted (scene : AuthScene) (controller : Nat)
    (error : Option BackendError) :
    Accounts scene (scene.signInCompleted controller error) [controller]
      (recorded (scene.refreshes controller (.signedIn error)) controller)
      (recorded (scene.unheard controller (.signedIn error)) controller) 0 := by
  cases halive : scene.alive controller with
  | false =>
      have hwindow := not_inWindow_of_not_alive halive
      cases error <;>
        simpa [signInCompleted, recorded, refreshes, unheard, halive, hwindow] using
          accounts_unheard scene controller
  | true =>
      cases error with
      | some error =>
          simpa [signInCompleted, recorded, refreshes, unheard, halive] using
            accounts_alert scene controller (showSignInErrorAlert (some error))
      | none =>
          cases hwindow : scene.inWindow controller with
          | true =>
              simpa [signInCompleted, recorded, refreshes, unheard, halive, hwindow] using
                accounts_checkAuthentication rfl
          | false =>
              simpa [signInCompleted, recorded, refreshes, unheard, halive, hwindow] using
                accounts_alert scene controller (showSignInErrorAlert none)

theorem accounts_passwordResetCompleted (scene : AuthScene) (controller : Nat)
    (error : Option BackendError) :
    Accounts scene (scene.passwordResetCompleted controller error) [controller]
      (recorded (scene.refreshes controller (.passwordResetSent error)) controller)
      (recorded (scene.unheard controller (.passwordResetSent error)) controller) 0 := by
  cases halive : scene.alive controller with
  | false =>
      simpa [passwordResetCompleted, recorded, refreshes, unheard, halive] using
        accounts_unheard scene controller
  | true =>
      cases error with
      | some error =>
          simpa [passwordResetCompleted, recorded, refreshes, unheard, halive] using
            accounts_alert scene controller (showErrorSendingPasswordReset error)
      | none =>
          simpa [passwordResetCompleted, recorded, refreshes, unheard, halive] using
            accounts_alert scene controller showPasswordResetSent

theorem accounts_dataSetCompleted (scene : AuthScene) (controller : Nat)
    (error : Option BackendError) :
    Accounts scene (scene.registrationCompleted controller (FlyEvents.dataSet error)) [controller]
      (recorded (scene.refreshes controller (.dataSet error)) controller)
      (recorded (scene.unheard controller (.dataSet error)) controller) 0 := by
  cases halive : scene.alive controller with
  | false =>
      have hwindow := not_inWindow_of_not_alive halive
      cases error <;>
        simpa [registrationCompleted, recorded, refreshes, unheard, halive, hwindow] using
          accounts_unheard scene controller
  | true =>
      cases error with
      | some error =>
          simpa [registrationCompleted, FlyEvents.dataSet, recorded, refreshes, unheard,
            halive] using
            accounts_alert scene controller (showRegistrationErrorAlert (some error))
      | none =>
          cases hwindow : scene.inWindow controller with
          | true =>
              simpa [registrationCompleted, FlyEvents.dataSet, recorded, refreshes, unheard,
                halive, hwindow] using accounts_checkAuthentication rfl
          | false =>
              -- The user is registered, and the screen that was covered says nothing.
              simpa [registrationCompleted, FlyEvents.dataSet, recorded, refreshes, unheard,
                halive, hwindow] using accounts_unheard scene controller

/-- A refused registration shows an alert, if the screen is still there. -/
theorem accounts_refused {scene : AuthScene} {controller : Nat} {request : RegisterUserRequest}
    {reply : AuthReply} {result : RegistrationResult}
    (hrefused : request.userCreated reply = .error result) :
    Accounts scene (scene.registrationCompleted controller result) [controller]
      (recorded (scene.refreshes controller (.userCreated request reply)) controller)
      (recorded (scene.unheard controller (.userCreated request reply)) controller) 0 := by
  cases halive : scene.alive controller with
  | false =>
      simpa [registrationCompleted, recorded, refreshes, unheard, halive, hrefused,
        Except.isOk, Except.toBool] using accounts_unheard scene controller
  | true =>
      obtain ⟨user, error⟩ := reply
      cases error with
      | some error =>
          cases hrefused
          simpa [registrationCompleted, recorded, refreshes, unheard, halive] using
            accounts_alert scene controller (showRegistrationErrorAlert (some error))
      | none =>
          cases user with
          | none =>
              cases hrefused
              simpa [registrationCompleted, recorded, refreshes, unheard, halive] using
                accounts_alert scene controller (showRegistrationErrorAlert none)
          | some userUID => cases hrefused

theorem accounts_deliver {scene next : AuthScene} {index controller : Nat} {call : AuthCall}
    (hindex : scene.calls[index]? = some (controller, call))
    (hdeliver : scene.deliver index controller call = some next) :
    Accounts scene next [] (recorded (scene.refreshes controller call) controller)
      (recorded (scene.unheard controller call) controller) 0 := by
  cases call with
  | signedIn error =>
      cases hdeliver
      exact .of_erased hindex (accounts_signInCompleted _ controller error)
  | userCreated request reply =>
      simp only [deliver] at hdeliver
      split at hdeliver
      next result hrefused =>
        cases hdeliver
        let erased : AuthScene := { scene with calls := scene.calls.eraseIdx index }
        have hended : Accounts erased (erased.registrationCompleted controller result) [controller]
            (recorded (erased.refreshes controller (.userCreated request reply)) controller)
            (recorded (erased.unheard controller (.userCreated request reply)) controller) 0 :=
          accounts_refused hrefused
        exact .of_erased hindex hended
      next userUID data hcreated =>
        -- The form is still to be answered, by the callback of `setData`.
        cases hdeliver
        have hframe : Accounts scene { scene with
            calls := scene.calls.set index (controller, .setData userUID data) } [] [] [] 0 :=
          .frame rfl (Machine.map_set_of_eq hindex rfl) rfl
        simpa [recorded, refreshes, unheard, hcreated, Except.isOk, Except.toBool] using hframe
  | dataSet error =>
      cases hdeliver
      exact .of_erased hindex (accounts_dataSetCompleted _ controller error)
  | passwordResetSent error =>
      cases hdeliver
      exact .of_erased hindex (accounts_passwordResetCompleted _ controller error)
  | signIn request => cases hdeliver
  | createUser request => cases hdeliver
  | setData userUID data => cases hdeliver
  | sendPasswordReset email => cases hdeliver

theorem accounts_push {scene next : AuthScene} {screen : AuthScreen}
    (hpush : scene.push screen = some next) : Accounts scene next [] [] [] 0 := by
  unfold push at hpush
  split at hpush
  next =>
    cases hpush
    exact .frame rfl rfl rfl
  next => cases hpush

/-! ## Steps and runs -/

/-- A form is sent from the screen on top. -/
theorem sentForms_of_root {scene : AuthScene} {action : AuthSceneAction} {root : RootScreen}
    (hform : action.isForm = true) (hroot : scene.root = some root) :
    scene.sentForms action = root.controllers.head?.toList := by
  rw [sentForms, if_pos hform, topmost, hroot]
  rfl

/-- What a step sends and ends is accounted for. -/
theorem accounts_step {digits : DecimalDigits} {scene next : AuthScene} {action : AuthSceneAction}
    (hstep : scene.step digits action = some next) :
    Accounts scene next (scene.sentForms action) (scene.refreshedBy action)
      (scene.unheardBy action) (if action.isTransitionCompleted then 1 else 0) := by
  cases action with
  | didTapSignIn form =>
      simp only [step] at hstep
      split at hstep
      next id hroot =>
        obtain rfl := Option.some.inj hstep
        rw [sentForms_of_root rfl hroot]
        exact accounts_request scene id form.didTapSignIn .signIn
      next => cases hstep
  | didTapNewUser => exact accounts_push hstep
  | didTapForgotPassword => exact accounts_push hstep
  | didTapBack =>
      simp only [step] at hstep
      split at hstep
      next =>
        cases hstep
        exact .frame rfl rfl rfl
      next => cases hstep
  | didTapSignUp form =>
      simp only [step] at hstep
      split at hstep
      next id _ hroot =>
        obtain rfl := Option.some.inj hstep
        rw [sentForms_of_root rfl hroot]
        exact accounts_request scene id (form.didTapSignUp digits) .createUser
      next => cases hstep
  | didTapHaveAccount =>
      simp only [step] at hstep
      split at hstep
      next =>
        cases hstep
        exact .frame rfl rfl rfl
      next => cases hstep
  | didTapResetPassword form =>
      simp only [step] at hstep
      split at hstep
      next id _ hroot =>
        obtain rfl := Option.some.inj hstep
        rw [sentForms_of_root rfl hroot]
        exact accounts_request scene id form.didTapForgotPassword .sendPasswordReset
      next => cases hstep
  | didTapLogout error =>
      simp only [step] at hstep
      split at hstep
      next id hroot =>
        obtain rfl := Option.some.inj hstep
        rw [sentForms_of_root rfl hroot]
        cases error with
        | some error => exact accounts_alert scene id (showLogoutErrorAlert error)
        | none =>
            -- The chooser is the root, so the screen that was tapped has a window.
            have hwindow : ({ scene with currentUser := none } : AuthScene).inWindow id = true := by
              simp [inWindow, hroot, RootScreen.controllers]
            have htopmost : scene.refreshedBy (.didTapLogout none) = [id] := by
              simp [refreshedBy, topmost, hroot, RootScreen.controllers]
            rw [htopmost]
            have haccounts : Accounts { scene with currentUser := none }
                (({ scene with currentUser := none } : AuthScene).signOutCompleted id none)
                [id] [id] [] 0 :=
              accounts_checkAuthentication (if_pos hwindow)
            exact ⟨haccounts.forms, haccounts.transitions⟩
      next => cases hstep
  | answered index reply =>
      obtain ⟨⟨controller, call⟩, hindex, hstep⟩ := Option.bind_eq_some_iff.mp hstep
      obtain ⟨answered, hanswered, hnext⟩ := Option.bind_eq_some_iff.mp hstep
      cases hnext
      exact .frame rfl (Machine.map_set_of_eq hindex rfl) rfl
  | delivered index =>
      obtain ⟨⟨controller, call⟩, hindex, hdeliver⟩ := Option.bind_eq_some_iff.mp hstep
      simpa [sentForms, AuthSceneAction.isForm, AuthSceneAction.isTransitionCompleted,
        refreshedBy, unheardBy, hindex] using accounts_deliver hindex hdeliver
  | transitionCompleted =>
      simp only [step] at hstep
      split at hstep
      next viewController transitions htransitions =>
        cases hstep
        exact .frame rfl rfl (by simp [htransitions, AuthSceneAction.isTransitionCompleted])
      next => cases hstep

/-- From any scene on, every form is accounted for. -/
theorem accounts_run {digits : DecimalDigits} {start finish : AuthScene}
    {actions : List AuthSceneAction}
    (hrun : Machine.run (step digits) start actions = some finish) :
    Accounts start finish (Machine.outputs (step digits) sentForms start actions)
      (Machine.outputs (step digits) refreshedBy start actions)
      (Machine.outputs (step digits) unheardBy start actions)
      (actions.countP AuthSceneAction.isTransitionCompleted) := by
  induction actions generalizing start with
  | nil =>
      cases hrun
      exact .frame rfl rfl rfl
  | cons action rest ih =>
      obtain ⟨middle, hmiddle, hrest⟩ := Machine.run_cons_eq_some_iff.mp hrun
      have hhead := accounts_step hmiddle
      have htail := ih hrest
      simp only [Machine.outputs_cons hmiddle, List.countP_cons]
      refine ⟨fun controller => ?_, ?_⟩
      · have hforms := hhead.forms controller
        have hlater := htail.forms controller
        simp only [List.count_append]
        omega
      · have htransitions := hhead.transitions
        have hlater := htail.transitions
        simp only [List.length_append]
        omega

end AuthScene

/-- In every run the forms that each controller sent are the alerts it was shown,
the calls it still waits for, the times it asked for the root screen and the
callbacks that came too late; and the root screen changed no more often than it
was asked to. -/
theorem every_form_answered {digits : DecimalDigits} {currentUser : Option String}
    {actions : List AuthSceneAction} {finish : AuthScene}
    (hrun : Machine.run (AuthScene.step digits) (AuthScene.connected currentUser) actions =
      some finish) :
    (Machine.outputs (AuthScene.step digits) AuthScene.sentForms
        (AuthScene.connected currentUser) actions).Perm
      (finish.alerts.map Prod.fst ++ finish.calls.map Prod.fst ++
        Machine.outputs (AuthScene.step digits) AuthScene.refreshedBy
          (AuthScene.connected currentUser) actions ++
        Machine.outputs (AuthScene.step digits) AuthScene.unheardBy
          (AuthScene.connected currentUser) actions) ∧
      actions.countP AuthSceneAction.isTransitionCompleted + finish.transitions.length =
        (Machine.outputs (AuthScene.step digits) AuthScene.refreshedBy
          (AuthScene.connected currentUser) actions).length + 1 := by
  have haccounts := AuthScene.accounts_run hrun
  have hfresh : (AuthScene.connected currentUser).alerts = [] ∧
      (AuthScene.connected currentUser).calls = [] ∧
      (AuthScene.connected currentUser).transitions.length = 1 := by
    cases currentUser <;> exact ⟨rfl, rfl, rfl⟩
  obtain ⟨halerts, hcalls, htransitions⟩ := hfresh
  constructor
  · rw [List.perm_iff_count]
    intro controller
    have hforms := haccounts.forms controller
    simp only [AuthScene.heldFor, halerts, hcalls, List.map_nil, List.count_nil,
      List.count_append] at hforms ⊢
    omega
  · have hchanges := haccounts.transitions
    omega

/-- Signing in twice. The answer to the second form finds the login screen gone. -/
def signingInTwice : List AuthSceneAction :=
  [.transitionCompleted, .didTapSignIn AuthScene.anasForm, .didTapSignIn AuthScene.anasForm,
    .answered 0 AuthScene.accepted, .answered 1 AuthScene.accepted, .delivered 0,
    .transitionCompleted, .delivered 0]

theorem every_form_answered_twice :
    ∃ finish,
      Machine.run (AuthScene.step arabicIndicDigits) (AuthScene.connected none) signingInTwice =
        some finish ∧
      (Machine.outputs (AuthScene.step arabicIndicDigits) AuthScene.sentForms
        (AuthScene.connected none) signingInTwice).Perm
        (finish.alerts.map Prod.fst ++ finish.calls.map Prod.fst ++ [0] ++ [0]) := by
  have hrun : (Machine.run (AuthScene.step arabicIndicDigits) (AuthScene.connected none)
      signingInTwice).isSome = true := by
    decide +kernel
  have hrefreshed : Machine.outputs (AuthScene.step arabicIndicDigits) AuthScene.refreshedBy
      (AuthScene.connected none) signingInTwice = [0] := by
    decide +kernel
  have hunheard : Machine.outputs (AuthScene.step arabicIndicDigits) AuthScene.unheardBy
      (AuthScene.connected none) signingInTwice = [0] := by
    decide +kernel
  obtain ⟨finish, hfinish⟩ := Option.isSome_iff_exists.mp hrun
  have hanswered := (every_form_answered hfinish).1
  rw [hrefreshed, hunheard] at hanswered
  exact ⟨finish, hfinish, hanswered⟩

end FlyEvents
