import FlyEvents.ViewControllers.ServicesScreen
import Mathlib.Logic.Function.Basic

/-! # A session of the app

The catalogue screens above the event chooser, the signed-in user, the users
and orders of the backend, and the requests under way. Callbacks run one at a
time, each at most once, in any order and at any time; a request is answered
by the backend before its callback runs. Taps on Submit are numbered, and a
request and the document it adds carry the number of their tap.

Signing in and out, the replacement of the root screen, and writes to the users
collection are steps that can happen at any point.
-/

namespace FlyEvents

variable {Image : Type}

/-- A request of a submission, before and after the backend has answered it. -/
inductive Request (Image : Type)
  | getDocument (submission : Submission Image)
  | documentRead (submission : Submission Image) (reply : DocumentReply)
  | addDocument (order : OrderData)
  | documentAdded (error : Option BackendError)

structure App (Image : Type) where
  currentUser : Option String := none
  users : String → Option DocumentData := fun _ => none
  orders : List (Nat × OrderData) := []
  screens : List (ServicesScreen Image) := []
  pending : List (Nat × Request Image) := []
  submits : Nat := 0
  /-- The taps on Submit for which the screen "Order Sent Successfully!" was
  pushed. -/
  processed : List Nat := []

inductive AppAction
  | didTapEvent (event : Event)
  | catalogueLoaded (index : Nat) (call : Call) (schedule : List TaskGroup.Action)
  | user (action : UserAction)
  | didTapSubmitOrder
  | orderProcessedAppeared
  | didTapBackToEvents
  | didTapBackFromServices
  | authChanged (user : Option String)
  | rootReplaced
  | userWritten (userUID : String) (data : Option DocumentData)
  | served (index : Nat) (error : Option BackendError)
  | delivered (index : Nat)

/-- The checkout that taps are delivered to. A screen pushed over it gets them
only once it has appeared. -/
def visibleCheckout : List (PushedScreen Image) → Option (CheckoutViewController Image)
  | .checkout controller :: _ => some controller
  | .orderProcessed false :: below => visibleCheckout below
  | _ => none

namespace App

/-- The answer of the backend to a request, given whether it fails, and the
orders after it. A document is read as it is at that moment. -/
def serve (app : App Image) (tag : Nat) (error : Option BackendError) :
    Request Image → Option (Request Image × List (Nat × OrderData))
  | .getDocument submission =>
      match error with
      | none => some (.documentRead submission
          { document := some { data := app.users submission.userUID }, error := none },
          app.orders)
      | some error => some (.documentRead submission { document := none, error := some error },
          app.orders)
  | .addDocument order =>
      match error with
      | none => some (.documentAdded none, app.orders ++ [(tag, order)])
      | some error => some (.documentAdded (some error), app.orders)
  | _ => none

/-- The request that the callback of an answered request makes, if any. -/
def deliver : Request Image → Option (Option (Request Image))
  | .documentRead submission reply => some ((submission.documentFetched reply).map .addDocument)
  | .documentAdded _ => some none
  | _ => none

/-- One step of the session. The user acts on the top screen. A tap on an event
can also be delivered while the screen that an earlier one pushed is coming. -/
def step (platform : Platform Image) (app : App Image) : AppAction → Option (App Image)
  | .didTapEvent event =>
      if app.screens.all fun screen => screen.presented.isNone && screen.above.isEmpty then
        some { app with
          screens := { controller := ServicesViewController.opened event } :: app.screens }
      else none
  | .catalogueLoaded index call schedule => do
      let screen ← app.screens[index]?
      let config ← (ServicesViewModel.populateServicesModels platform call.getData).step.run
        (screen.controller.viewModel.getServices call.collection call.event) schedule
      if screen.controller.sectionButtonsEnabled = false ∧
          screen.controller.event = call.event ∧ config.phase = .finished then
        some { app with
          screens := app.screens.set index { screen with
            controller := screen.controller.loadAllData config.store.viewModel } }
      else none
  | .user action =>
      match app.screens with
      | screen :: below => do
          let next ← screen.step platform action
          return { app with screens := next :: below }
      | [] => none
  | .didTapSubmitOrder =>
      match app.screens with
      | screen :: below => do
          let checkout ← visibleCheckout screen.above
          -- The screen is pushed also where no submission is started.
          let (submission, pushed) := checkout.didTapSubmitOrder app.currentUser
          return { app with
            screens := { screen with above := pushed :: screen.above } :: below
            pending := app.pending ++
              (submission.map fun submission => (app.submits, .getDocument submission)).toList
            submits := app.submits + 1
            processed := app.processed ++ [app.submits] }
      | [] => none
  | .orderProcessedAppeared =>
      match app.screens with
      | screen :: below =>
          match screen.above with
          | .orderProcessed false :: under =>
              some { app with
                screens := { screen with above := .orderProcessed true :: under } :: below }
          | _ => none
      | [] => none
  | .didTapBackToEvents =>
      match app.screens with
      | screen :: _ =>
          match screen.above with
          | .orderProcessed true :: _ => some { app with screens := [] }
          | _ => none
      | [] => none
  | .didTapBackFromServices =>
      match app.screens with
      | screen :: below =>
          if screen.presented.isNone && screen.above.isEmpty then
            some { app with screens := below }
          else none
      | [] => none
  | .authChanged user => some { app with currentUser := user }
  | .rootReplaced => some { app with screens := [] }
  | .userWritten userUID data =>
      some { app with users := Function.update app.users userUID data }
  | .served index error => do
      let (tag, request) ← app.pending[index]?
      let (answered, orders) ← app.serve tag error request
      return { app with pending := app.pending.set index (tag, answered), orders }
  | .delivered index => do
      let (tag, request) ← app.pending[index]?
      let following ← deliver request
      return { app with
        -- The callback of `getDocument` goes on to add the order, under the same number.
        pending := match following with
          | some request => app.pending.set index (tag, request)
          | none => app.pending.eraseIdx index }

/-- The app as it is launched: nothing opened and nothing ordered, with any
user signed in and any users in the backend. -/
def launched (currentUser : Option String) (users : String → Option DocumentData) : App Image :=
  { currentUser, users }

/-- What a step can do. The steps that only take screens away are one case. -/
inductive Stepped (platform : Platform Image) (app : App Image) : AppAction → App Image → Prop
  | didTapEvent {event} :
      Stepped platform app (.didTapEvent event) { app with
        screens := { controller := ServicesViewController.opened event } :: app.screens }
  | catalogueLoaded {index call schedule before screen after viewModel}
      (hscreens : app.screens = before ++ screen :: after)
      (hfirst : screen.controller.sectionButtonsEnabled = false)
      (hcompletes : call.Completes platform screen.controller.viewModel viewModel) :
      Stepped platform app (.catalogueLoaded index call schedule) { app with
        screens := before ++
          { screen with controller := screen.controller.loadAllData viewModel } :: after }
  | user {action screen below next} (hscreens : app.screens = screen :: below)
      (hstep : screen.step platform action = some next) :
      Stepped platform app (.user action) { app with screens := next :: below }
  | didTapSubmitOrder {screen below checkout} (hscreens : app.screens = screen :: below)
      (hcheckout : visibleCheckout screen.above = some checkout) :
      Stepped platform app .didTapSubmitOrder { app with
        screens := { screen with above := .orderProcessed false :: screen.above } :: below
        pending := app.pending ++ ((submitOrder app.currentUser checkout.selectedServices
          checkout.totalPrice).map fun submission =>
            (app.submits, Request.getDocument submission)).toList
        submits := app.submits + 1
        processed := app.processed ++ [app.submits] }
  | orderProcessedAppeared {screen below under} (hscreens : app.screens = screen :: below)
      (habove : screen.above = .orderProcessed false :: under) :
      Stepped platform app .orderProcessedAppeared { app with
        screens := { screen with above := .orderProcessed true :: under } :: below }
  | popped {action screens} (hsuffix : screens <:+ app.screens)
      (haction : action = .didTapBackToEvents ∨ action = .didTapBackFromServices ∨
        action = .rootReplaced) :
      Stepped platform app action { app with screens }
  | authChanged {user} :
      Stepped platform app (.authChanged user) { app with currentUser := user }
  | userWritten {userUID data} :
      Stepped platform app (.userWritten userUID data)
        { app with users := Function.update app.users userUID data }
  | served {index error before tag request after answered orders}
      (hindex : app.pending[index]? = some (tag, request))
      (hpending : app.pending = before ++ (tag, request) :: after)
      (hserve : app.serve tag error request = some (answered, orders)) :
      Stepped platform app (.served index error) { app with
        pending := before ++ (tag, answered) :: after
        orders }
  | delivered {index before tag request after following}
      (hpending : app.pending = before ++ (tag, request) :: after)
      (hdeliver : deliver request = some following) :
      Stepped platform app (.delivered index) { app with
        pending := before ++ ((following.map fun request => (tag, request)).toList ++ after) }

theorem step_cases {platform : Platform Image} {app next : App Image} {action : AppAction}
    (hstep : app.step platform action = some next) : Stepped platform app action next := by
  cases action with
  | didTapEvent event =>
      simp only [step] at hstep
      split at hstep
      next =>
        cases hstep
        exact .didTapEvent
      next => cases hstep
  | catalogueLoaded index call schedule =>
      obtain ⟨screen, hscreen, hstep⟩ := Option.bind_eq_some_iff.mp hstep
      obtain ⟨config, hrun, hstep⟩ := Option.bind_eq_some_iff.mp hstep
      split at hstep
      next hready =>
        cases hstep
        obtain ⟨before, after, hscreens, hset, -⟩ := Machine.exists_split_of_getElem? hscreen
        rw [hset]
        exact .catalogueLoaded hscreens hready.1 ⟨schedule, config, hrun, hready.2.2, rfl⟩
      next => cases hstep
  | user action =>
      simp only [step] at hstep
      split at hstep
      next screen below hscreens =>
        obtain ⟨used, hused, hnext⟩ := Option.bind_eq_some_iff.mp hstep
        cases hnext
        exact .user hscreens hused
      next => cases hstep
  | didTapSubmitOrder =>
      simp only [step] at hstep
      split at hstep
      next screen below hscreens =>
        obtain ⟨checkout, hcheckout, hnext⟩ := Option.bind_eq_some_iff.mp hstep
        cases hnext
        exact .didTapSubmitOrder hscreens hcheckout
      next => cases hstep
  | orderProcessedAppeared =>
      simp only [step] at hstep
      split at hstep
      next screen below hscreens =>
        split at hstep
        next under habove =>
          cases hstep
          exact .orderProcessedAppeared hscreens habove
        next => cases hstep
      next => cases hstep
  | didTapBackToEvents =>
      simp only [step] at hstep
      split at hstep
      next =>
        split at hstep
        next =>
          cases hstep
          exact .popped List.nil_suffix (by simp)
        next => cases hstep
      next => cases hstep
  | didTapBackFromServices =>
      simp only [step] at hstep
      split at hstep
      next screen below hscreens =>
        split at hstep
        next =>
          cases hstep
          exact .popped (hscreens ▸ List.suffix_cons screen below) (by simp)
        next => cases hstep
      next => cases hstep
  | authChanged user =>
      cases hstep
      exact .authChanged
  | rootReplaced =>
      cases hstep
      exact .popped List.nil_suffix (by simp)
  | userWritten userUID data =>
      cases hstep
      exact .userWritten
  | served index error =>
      obtain ⟨⟨tag, request⟩, hindex, hstep⟩ := Option.bind_eq_some_iff.mp hstep
      obtain ⟨⟨answered, orders⟩, hserve, hnext⟩ := Option.bind_eq_some_iff.mp hstep
      cases hnext
      obtain ⟨before, after, hpending, hset, -⟩ := Machine.exists_split_of_getElem? hindex
      simp only [hset]
      exact .served hindex hpending hserve
  | delivered index =>
      obtain ⟨⟨tag, request⟩, hindex, hstep⟩ := Option.bind_eq_some_iff.mp hstep
      obtain ⟨following, hdeliver, hnext⟩ := Option.bind_eq_some_iff.mp hstep
      cases hnext
      obtain ⟨before, after, hpending, hset, herase⟩ := Machine.exists_split_of_getElem? hindex
      have hstepped : Stepped platform app (.delivered index) _ := .delivered hpending hdeliver
      cases following with
      | none => simpa [herase] using hstepped
      | some request => simpa [hset] using hstepped

end App

/-- Ordering the DJ of the full catalogue, up to the answer to the read. -/
def orderingActions : List AppAction :=
  [.didTapEvent .wedding,
    .catalogueLoaded 0 fullCatalogueCall
      (List.replicate 4 .iterate ++ [.register] ++ List.replicate 4 (.callback 0) ++ [.notify]),
    .user (.didSelectRow ⟨0, 0⟩), .user .didTapCartButton, .user .didDismissSheet,
    .user .didTapCheckout, .didTapSubmitOrder, .orderProcessedAppeared, .served 0 none,
    .delivered 0]

end FlyEvents
