import FlyEvents.App.RootScreen
import FlyEvents.App.Session
import FlyEvents.Foundation.View

/-! # The app on one device

The window with its sign-in calls and the ordering session under the event
chooser, as one machine. The session is told by the window who is signed in,
which documents its registrations write, and when the root is replaced, which
takes the catalogue screens away. Nothing else signs a user in or out, and
nothing but a registration, here or on another device, writes a user's document.
A catalogue is loaded in one step of the session, and the loaders of the sheets,
which change nothing outside their sheet, are left out.

The machine is seen as that of the window and as that of the session, so what
was shown of their runs holds here.
-/

namespace FlyEvents

variable {Image : Type}

structure Client (Image : Type) where
  scene : AuthScene
  app : App Image

inductive ClientAction
  | window (action : AuthSceneAction)
  | session (action : AppAction)
  | registeredElsewhere (userUID : String) (form : RegisterViewController)

/-- The session takes the action of itself, and is not told of it by the window. -/
def AppAction.isOwn : AppAction → Bool
  | .authChanged _ | .rootReplaced | .userWritten _ _ => false
  | _ => true

/-- The document that the backend writes when it answers. -/
def AuthScene.written (scene : AuthScene) : AuthSceneAction → Option (String × DocumentData)
  | .answered index reply =>
      match scene.calls[index]?, reply.error with
      | some (_, .setData userUID data), none => some (userUID, data)
      | _, _ => none
  | _ => none

/-- What the session is told of a step of the window, after which the given user
is signed in. -/
def AuthScene.told (scene : AuthScene) (action : AuthSceneAction)
    (currentUser : Option String) : List AppAction :=
  (scene.written action).toList.map (fun document => .userWritten document.1 (some document.2)) ++
    (match action with
    | .transitionCompleted => [.rootReplaced]
    | _ => []) ++ [.authChanged currentUser]

namespace App

/-- The event chooser gets taps: nothing happened yet on a screen pushed over it. -/
def choosing (app : App Image) : Bool :=
  app.screens.all fun screen => screen.presented.isNone && screen.above.isEmpty

/-- The session after a step of the window. -/
def follow (app : App Image) (scene : AuthScene) (action : AuthSceneAction)
    (currentUser : Option String) : App Image :=
  { app with
    currentUser
    users := match scene.written action with
      | some (userUID, data) => Function.update app.users userUID (some data)
      | none => app.users
    screens := match action with
      | .transitionCompleted => []
      | _ => app.screens }

theorem run_told (platform : Platform Image) (app : App Image) (scene : AuthScene)
    (action : AuthSceneAction) (currentUser : Option String) :
    Machine.run (App.step platform) app (scene.told action currentUser) =
      some (app.follow scene action currentUser) := by
  cases hwritten : scene.written action <;> cases action <;>
    simp [AuthScene.told, follow, hwritten, Machine.run_cons, App.step]

end App

namespace Client

/-- The buttons of the event chooser need it in front: events are chosen, and
the user is logged out, only from there. -/
def offers (client : Client Image) : ClientAction → Bool
  | .window (.didTapLogout _) => client.app.choosing
  | .session (.didTapEvent _) => client.scene.root.any RootScreen.isChooseEvent
  | .session action => action.isOwn
  | _ => true

def step (digits : DecimalDigits) (platform : Platform Image) :
    Machine (Client Image) ClientAction
  | client, .window action =>
      if client.offers (.window action) then do
        let scene ← client.scene.step digits action
        return { scene, app := client.app.follow client.scene action scene.currentUser }
      else none
  | client, .session action =>
      if client.offers (.session action) then do
        let app ← client.app.step platform action
        return { client with app }
      else none
  | client, .registeredElsewhere userUID form =>
      match form.didTapSignUp digits with
      | .ok request => some { client with
          app := { client.app with
            users := Function.update client.app.users userUID (some request.userData) } }
      | .error _ => none

/-- The app when its window connects, with the given user signed in. -/
def launched (currentUser : Option String) (users : String → Option DocumentData) :
    Client Image where
  scene := AuthScene.connected currentUser
  app := App.launched currentUser users

/-- What a step can do: one case for each part that takes it. -/
inductive Stepped (digits : DecimalDigits) (platform : Platform Image) (client : Client Image) :
    ClientAction → Client Image → Prop
  | window {action scene} (hoffers : client.offers (.window action) = true)
      (hstep : client.scene.step digits action = some scene) :
      Stepped digits platform client (.window action)
        { scene, app := client.app.follow client.scene action scene.currentUser }
  | session {action app} (hoffers : client.offers (.session action) = true)
      (hown : action.isOwn = true) (hstep : client.app.step platform action = some app) :
      Stepped digits platform client (.session action) { client with app }
  | registeredElsewhere {userUID form request} (hform : form.didTapSignUp digits = .ok request) :
      Stepped digits platform client (.registeredElsewhere userUID form) { client with
        app := { client.app with
          users := Function.update client.app.users userUID (some request.userData) } }

theorem isOwn_of_offers {client : Client Image} {action : AppAction}
    (hoffers : client.offers (.session action) = true) : action.isOwn = true := by
  cases action <;> first | exact hoffers | rfl

theorem step_cases {digits : DecimalDigits} {platform : Platform Image}
    {client next : Client Image} {action : ClientAction}
    (hstep : client.step digits platform action = some next) :
    Stepped digits platform client action next := by
  cases action with
  | window action =>
      simp only [step] at hstep
      split at hstep
      next hoffers =>
        obtain ⟨scene, hscene, hnext⟩ := Option.bind_eq_some_iff.mp hstep
        cases hnext
        exact .window hoffers hscene
      next => cases hstep
  | session action =>
      simp only [step] at hstep
      split at hstep
      next hoffers =>
        obtain ⟨app, happ, hnext⟩ := Option.bind_eq_some_iff.mp hstep
        cases hnext
        exact .session hoffers (isOwn_of_offers hoffers) happ
      next => cases hstep
  | registeredElsewhere userUID form =>
      simp only [step] at hstep
      split at hstep
      next request hform =>
        cases hstep
        exact .registeredElsewhere hform
      next => cases hstep

/-- The app as its window shows it. -/
def windowView (digits : DecimalDigits) (platform : Platform Image) :
    Machine.View (Client.step digits platform) (AuthScene.step digits) where
  invariant _ := True
  state := Client.scene
  actions _ action :=
    match action with
    | .window action => [action]
    | _ => []
  kept _ _ _ _ _ := trivial
  matched client action next _ hstep := by
    cases step_cases hstep with
    | window hoffers hscene => rw [Machine.run_singleton, hscene]
    | session hoffers hown happ => rfl
    | registeredElsewhere hform => rfl

/-- The app as the ordering session sees it. -/
def sessionView (digits : DecimalDigits) (platform : Platform Image) :
    Machine.View (Client.step digits platform) (App.step platform) where
  invariant _ := True
  state := Client.app
  actions client action :=
    match action with
    | .window action => (client.scene.step digits action).elim [] fun scene =>
        client.scene.told action scene.currentUser
    | .session action => [action]
    | .registeredElsewhere userUID form =>
        match form.didTapSignUp digits with
        | .ok request => [.userWritten userUID (some request.userData)]
        | .error _ => []
  kept _ _ _ _ _ := trivial
  matched client action next _ hstep := by
    cases step_cases hstep with
    | window hoffers hscene =>
        simp only [hscene, Option.elim_some]
        exact App.run_told platform client.app client.scene _ _
    | session hoffers hown happ => rw [Machine.run_singleton, happ]
    | registeredElsewhere hform =>
        simp only [hform]
        rfl

end Client

def anasRegistration : RegisterViewController where
  fullnameField := some "Ana Pop"
  emailField := some "ana@fly.ro"
  phoneNumberField := some "0712345678"
  passwordField := some "secret1"

/-- An answer without an error, under which a new user is signed in. -/
def acceptedReply : AuthReply := { user := some "uid", error := none }

/-- Signing up on the first launch, up to the event chooser. -/
def signingUp : List ClientAction :=
  [.window .transitionCompleted, .window .didTapNewUser, .window (.didTapSignUp anasRegistration),
    .window (.answered 0 acceptedReply), .window (.delivered 0),
    .window (.answered 0 acceptedReply), .window (.delivered 0), .window .transitionCompleted]

/-- Signing up and ordering the DJ of the full catalogue. -/
def signingUpAndOrdering : List ClientAction :=
  signingUp ++ orderingActions.map .session ++
    [.session (.served 0 none), .session (.delivered 0)]

end FlyEvents
