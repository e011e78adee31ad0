import FlyEvents.App.Client
import FlyEvents.App.OrderReports
import FlyEvents.App.RootAgreement

/-! # The app left alone

Without taps, what goes on in the app is what was started: requests are answered
and their callbacks run, transitions complete, catalogues load, and a pushed
screen appears. A callback can start something new, but never more than its own
request was worth, so the app comes to rest; and where nobody lost an order on
the way, every tap on Submit then has one.

The loading of a catalogue is one step here, whatever its downloads do, and the
loading of an open sheet is none: how many steps of their own these take is
bounded where they are composed with the downloads.
-/

namespace FlyEvents

variable {Image : Type}

/-! ## What is still to happen -/

/-- A callback that succeeds can start a transition of the root. -/
def AuthCall.remaining : AuthCall → Nat
  | .createUser _ => 5
  | .userCreated _ _ => 4
  | .setData _ _ => 3
  | .dataSet _ => 2
  | .signIn _ => 3
  | .signedIn _ => 2
  | .sendPasswordReset _ => 2
  | .passwordResetSent _ => 1

theorem AuthCall.remaining_pos (call : AuthCall) : 0 < call.remaining := by
  cases call <;> exact Nat.succ_pos _

theorem AuthCall.remaining_answered {call answered : AuthCall} {reply : AuthReply}
    (hanswered : call.answered reply = some answered) : answered.remaining < call.remaining := by
  cases call <;> cases hanswered <;> exact Nat.lt_succ_self _

def AuthScene.remaining (scene : AuthScene) : Nat :=
  (scene.calls.map fun call => call.2.remaining).sum + scene.transitions.length

def Request.remaining : Request Image → Nat
  | .getDocument _ => 4
  | .documentRead _ _ => 3
  | .addDocument _ => 2
  | .documentAdded _ => 1

def PushedScreen.isComing : PushedScreen Image → Bool
  | .orderProcessed appeared => !appeared
  | .checkout _ => false

/-- A catalogue that still loads, and the screens that were pushed and have not
appeared. -/
def ServicesScreen.remaining (screen : ServicesScreen Image) : Nat :=
  (if screen.controller.sectionButtonsEnabled then 0 else 1) +
    screen.above.countP PushedScreen.isComing

def App.remaining (app : App Image) : Nat :=
  (app.pending.map fun request => request.2.remaining).sum +
    (app.screens.map ServicesScreen.remaining).sum

def Client.remaining (client : Client Image) : Nat :=
  client.scene.remaining + client.app.remaining

/-! ## Steps that nobody taps -/

def AppAction.isTap : AppAction → Bool
  | .didTapEvent _ | .user _ | .didTapSubmitOrder | .didTapBackToEvents
  | .didTapBackFromServices => true
  | _ => false

/-- The app takes the action by itself. -/
def ClientAction.goesOn : ClientAction → Bool
  | .window action => !action.isTap
  | .session action => !action.isTap
  | .registeredElsewhere _ _ => false

/-- The app, left alone. -/
def Client.settle (digits : DecimalDigits) (platform : Platform Image) :
    Machine (Client Image) ClientAction :=
  fun client action => if action.goesOn then client.step digits platform action else none

theorem Client.settle_eq_some_iff {digits : DecimalDigits} {platform : Platform Image}
    {client next : Client Image} {action : ClientAction} :
    Client.settle digits platform client action = some next ↔
      action.goesOn = true ∧ client.step digits platform action = some next := by
  unfold settle
  split <;> simp_all

theorem AuthScene.remaining_step {digits : DecimalDigits} {scene next : AuthScene}
    {action : AuthSceneAction} (htap : action.isTap = false)
    (hstep : scene.step digits action = some next) : next.remaining < scene.remaining := by
  cases step_cases hstep with
  | tapped htapped => exact absurd htapped (by simp [htap])
  | loggedOut => cases htap
  | answered hsplit hanswered =>
      have := AuthCall.remaining_answered hanswered
      simp only [remaining, hsplit, List.map_append, List.map_cons, List.sum_append, List.sum_cons]
      omega
  | continued _ hsplit _ =>
      simp only [remaining, hsplit, List.map_append, List.map_cons, List.sum_append, List.sum_cons,
        AuthCall.remaining]
      omega
  | @refreshed _ before controller call after _ hsplit _ hsucceeded =>
      -- The call was worth a transition and its own end.
      have hcall : call.remaining = 2 := by rcases hsucceeded with rfl | rfl <;> rfl
      have htransitions : ({ scene with calls := before ++ after }
          : AuthScene).checkAuthentication.transitions.length = scene.transitions.length + 1 := by
        unfold checkAuthentication
        split <;> simp [goToViewController]
      simp only [remaining, calls_checkAuthentication, htransitions, hsplit, List.map_append,
        List.map_cons, List.sum_append, List.sum_cons, hcall]
      omega
  | @ended _ _ _ call _ _ _ hsplit =>
      have := call.remaining_pos
      simp only [remaining, hsplit, List.map_append, List.map_cons, List.sum_append, List.sum_cons]
      omega
  | transitionCompleted htransitions =>
      simp only [remaining, htransitions, List.length_cons]
      omega

namespace App

theorem remaining_catalogueLoaded {platform : Platform Image} {app next : App Image}
    {index : Nat} {call : Call} {schedule : List TaskGroup.Action}
    (hstep : app.step platform (.catalogueLoaded index call schedule) = some next) :
    next.remaining < app.remaining := by
  obtain ⟨screen, hscreen, hstep⟩ := Option.bind_eq_some_iff.mp hstep
  obtain ⟨config, -, hstep⟩ := Option.bind_eq_some_iff.mp hstep
  split at hstep
  next hloading =>
    cases hstep
    obtain ⟨before, after, hsplit, hset, -⟩ := Machine.exists_split_of_getElem? hscreen
    simp only [remaining]
    rw [hset, hsplit]
    simp [ServicesScreen.remaining, hloading.1, ServicesViewController.loadAllData,
      ServicesViewController.enableButtons]
  next => cases hstep

theorem remaining_served {app : App Image} {tag : Nat} {error : Option BackendError}
    {request answered : Request Image} {orders : List (Nat × OrderData)}
    (hserve : app.serve tag error request = some (answered, orders)) :
    answered.remaining < request.remaining := by
  cases request <;> cases error <;> cases hserve <;> exact Nat.lt_succ_self _

theorem remaining_delivered (tag : Nat) {request : Request Image}
    {following : Option (Request Image)} (hdeliver : deliver request = some following) :
    (((following.map fun request => (tag, request)).toList).map
      fun request => request.2.remaining).sum < request.remaining := by
  cases request with
  | getDocument submission => cases hdeliver
  | documentRead submission reply =>
      cases hdeliver
      cases submission.documentFetched reply <;> simp [Request.remaining]
  | addDocument order => cases hdeliver
  | documentAdded error =>
      cases hdeliver
      simp [Request.remaining]

theorem remaining_step {platform : Platform Image} {app next : App Image} {action : AppAction}
    (htap : action.isTap = false) (hown : action.isOwn = true)
    (hstep : app.step platform action = some next) : next.remaining < app.remaining := by
  cases step_cases hstep with
  | catalogueLoaded => exact remaining_catalogueLoaded hstep
  | orderProcessedAppeared hsplit habove =>
      simp [remaining, hsplit, ServicesScreen.remaining, habove, PushedScreen.isComing]
  | served _ hsplit hserve =>
      have := remaining_served hserve
      simp only [remaining, hsplit, List.map_append, List.map_cons, List.sum_append, List.sum_cons]
      omega
  | @delivered _ _ tag _ _ _ hsplit hdeliver =>
      have := remaining_delivered tag hdeliver
      simp only [remaining, hsplit, List.map_append, List.map_cons, List.sum_append, List.sum_cons]
      omega
  | popped _ haction =>
      rcases haction with rfl | rfl | rfl
      · cases htap
      · cases htap
      · cases hown
  | authChanged => cases hown
  | userWritten => cases hown
  | _ => cases htap

theorem remaining_follow_le (app : App Image) (scene : AuthScene) (action : AuthSceneAction)
    (currentUser : Option String) :
    (app.follow scene action currentUser).remaining ≤ app.remaining := by
  cases action <;> simp [remaining, follow]

end App

namespace Client

/-- Every step that nobody taps brings the app nearer to rest. -/
theorem remaining_settle {digits : DecimalDigits} {platform : Platform Image}
    {client next : Client Image} {action : ClientAction}
    (hstep : settle digits platform client action = some next) :
    next.remaining < client.remaining := by
  obtain ⟨hgoesOn, hstep⟩ := settle_eq_some_iff.mp hstep
  cases step_cases hstep with
  | @window action scene hoffers hscene =>
      have hscene := AuthScene.remaining_step (by simpa [ClientAction.goesOn] using hgoesOn) hscene
      have happ := client.app.remaining_follow_le client.scene action scene.currentUser
      simp only [remaining]
      omega
  | session hoffers hown happ =>
      have := App.remaining_step (by simpa [ClientAction.goesOn] using hgoesOn) hown happ
      simp only [remaining]
      omega
  | registeredElsewhere hform => cases hgoesOn

/-- Nothing is under way: no call, transition or request, no load, and no screen
that has still to appear. -/
structure AtRest (client : Client Image) : Prop where
  window : client.scene.Quiet
  pending : client.app.pending = []
  loaded : ∀ screen ∈ client.app.screens, screen.controller.sectionButtonsEnabled = true
  appeared : ∀ screen below under, client.app.screens = screen :: below →
    screen.above ≠ .orderProcessed false :: under

end Client

/-! ## Where the app can go on -/

theorem AuthScene.exists_step_of_calls {digits : DecimalDigits} {scene : AuthScene}
    (hcalls : scene.calls ≠ []) :
    ∃ action next, action.isTap = false ∧ scene.step digits action = some next := by
  obtain ⟨⟨controller, call⟩, rest, hsplit⟩ := List.exists_cons_of_ne_nil hcalls
  have hfirst : scene.calls[0]? = some (controller, call) := by simp [hsplit]
  cases hanswered : call.answered acceptedReply with
  | some answered =>
      exact ⟨.answered 0 acceptedReply, _, rfl, by simp [step, hfirst, hanswered]; rfl⟩
  | none =>
      obtain ⟨next, hdeliver⟩ : ∃ next, scene.deliver 0 controller call = some next := by
        cases call with
        | userCreated request reply =>
            simp only [deliver]
            split <;> exact ⟨_, rfl⟩
        | signedIn error => exact ⟨_, rfl⟩
        | dataSet error => exact ⟨_, rfl⟩
        | passwordResetSent error => exact ⟨_, rfl⟩
        | _ => cases hanswered
      exact ⟨.delivered 0, next, rfl, by simp [step, hfirst, hdeliver]⟩

theorem AuthScene.exists_step_of_not_quiet {digits : DecimalDigits} {scene : AuthScene}
    (hquiet : ¬ scene.Quiet) :
    ∃ action next, action.isTap = false ∧ scene.step digits action = some next := by
  by_cases hcalls : scene.calls = []
  · have htransitions : scene.transitions ≠ [] := fun hnil => hquiet ⟨hcalls, hnil⟩
    obtain ⟨viewController, rest, hsplit⟩ := List.exists_cons_of_ne_nil htransitions
    exact ⟨.transitionCompleted, _, rfl, by simp [step, hsplit]; rfl⟩
  · exact exists_step_of_calls hcalls

namespace App

theorem exists_step_of_pending {platform : Platform Image} {app : App Image}
    (hpending : app.pending ≠ []) :
    ∃ action next, action.isTap = false ∧ action.isOwn = true ∧
      app.step platform action = some next := by
  obtain ⟨⟨tag, request⟩, rest, hsplit⟩ := List.exists_cons_of_ne_nil hpending
  have hfirst : app.pending[0]? = some (tag, request) := by simp [hsplit]
  cases request with
  | getDocument submission =>
      exact ⟨.served 0 none, _, rfl, rfl, by simp [step, hfirst, serve]; rfl⟩
  | addDocument order =>
      exact ⟨.served 0 none, _, rfl, rfl, by simp [step, hfirst, serve]; rfl⟩
  | documentRead submission reply =>
      exact ⟨.delivered 0, _, rfl, rfl, by simp [step, hfirst, deliver]; rfl⟩
  | documentAdded error =>
      exact ⟨.delivered 0, _, rfl, rfl, by simp [step, hfirst, deliver]; rfl⟩

/-- A catalogue that loads can finish, whatever its query finds. -/
theorem exists_step_of_loading {platform : Platform Image} {app : App Image}
    {screen : ServicesScreen Image} (hscreen : screen ∈ app.screens)
    (hloading : screen.controller.sectionButtonsEnabled = false) :
    ∃ action next, action.isTap = false ∧ action.isOwn = true ∧
      app.step platform action = some next := by
  obtain ⟨index, hindex⟩ := List.mem_iff_getElem?.mp hscreen
  let call : Call := { failedQueryCall with event := screen.controller.event }
  obtain ⟨schedule, config, hrun, hfinished, -⟩ :=
    call.completes_loadedInOrder platform screen.controller.viewModel
  exact ⟨.catalogueLoaded index call schedule, _, rfl, rfl, by
    simp [step, hindex, hrun, hloading, hfinished, call]; rfl⟩

end App

namespace Client

theorem exists_settle_of_window {digits : DecimalDigits} {platform : Platform Image}
    {client : Client Image}
    (hscene : ∃ action next, action.isTap = false ∧ client.scene.step digits action = some next) :
    ∃ action next, settle digits platform client action = some next := by
  obtain ⟨action, next, htap, hstep⟩ := hscene
  have hoffers : client.offers (.window action) = true := by
    cases action <;> first | rfl | cases htap
  refine ⟨.window action, ⟨next, client.app.follow client.scene action next.currentUser⟩, ?_⟩
  refine settle_eq_some_iff.mpr ⟨by simp [ClientAction.goesOn, htap], ?_⟩
  simp [step, hoffers, hstep]

theorem exists_settle_of_session {digits : DecimalDigits} {platform : Platform Image}
    {client : Client Image}
    (happ : ∃ action next, action.isTap = false ∧ action.isOwn = true ∧
      client.app.step platform action = some next) :
    ∃ action next, settle digits platform client action = some next := by
  obtain ⟨action, next, htap, hown, hstep⟩ := happ
  have hoffers : client.offers (.session action) = true := by
    cases action <;> first | exact hown | cases htap
  refine ⟨.session action, { client with app := next }, ?_⟩
  refine settle_eq_some_iff.mpr ⟨by simp [ClientAction.goesOn, htap], ?_⟩
  simp [step, hoffers, hstep]

/-- The app goes on wherever it is not at rest. -/
theorem exists_settle_of_not_atRest {digits : DecimalDigits} {platform : Platform Image}
    {client : Client Image} (hrest : ¬ client.AtRest) :
    ∃ action next, settle digits platform client action = some next := by
  by_contra hhalted
  refine hrest ⟨?_, ?_, ?_, ?_⟩
  · by_contra hquiet
    exact hhalted (exists_settle_of_window (AuthScene.exists_step_of_not_quiet hquiet))
  · by_contra hpending
    exact hhalted (exists_settle_of_session (App.exists_step_of_pending hpending))
  · intro screen hscreen
    by_contra hloading
    exact hhalted (exists_settle_of_session (App.exists_step_of_loading hscreen
      (Bool.not_eq_true _ ▸ hloading)))
  · intro screen below under hscreens habove
    let appeared : ServicesScreen Image := { screen with above := .orderProcessed true :: under }
    exact hhalted (exists_settle_of_session ⟨.orderProcessedAppeared,
      { client.app with screens := appeared :: below }, rfl, rfl, by
        simp only [App.step, hscreens, habove, appeared]⟩)

/-- At rest no step is left but those that somebody taps. -/
theorem AtRest.settle_eq_none {digits : DecimalDigits} {platform : Platform Image}
    {client : Client Image} (hrest : client.AtRest) (action : ClientAction) :
    settle digits platform client action = none := by
  obtain ⟨⟨hcalls, htransitions⟩, hpending, hloaded, happeared⟩ := hrest
  by_contra hsome
  obtain ⟨next, hstep⟩ := Option.ne_none_iff_exists'.mp hsome
  obtain ⟨hgoesOn, hstep⟩ := settle_eq_some_iff.mp hstep
  cases step_cases hstep with
  | window hoffers hscene =>
      have htap := by simpa [ClientAction.goesOn] using hgoesOn
      cases AuthScene.step_cases hscene with
      | tapped htapped => simp [htap] at htapped
      | loggedOut => cases htap
      | answered hsplit => simp [hcalls] at hsplit
      | continued _ hsplit => simp [hcalls] at hsplit
      | refreshed _ hsplit => simp [hcalls] at hsplit
      | ended _ hsplit => simp [hcalls] at hsplit
      | transitionCompleted hsplit => simp [htransitions] at hsplit
  | session hoffers hown happ =>
      have htap := by simpa [ClientAction.goesOn] using hgoesOn
      cases App.step_cases happ with
      | catalogueLoaded =>
          obtain ⟨screen, hscreen, happ⟩ := Option.bind_eq_some_iff.mp happ
          obtain ⟨config, -, happ⟩ := Option.bind_eq_some_iff.mp happ
          split at happ
          next hloading =>
            have := hloaded screen (List.mem_of_getElem? hscreen)
            simp [hloading.1] at this
          next => cases happ
      | orderProcessedAppeared hscreens habove => exact happeared _ _ _ hscreens habove
      | served _ hsplit => simp [hpending] at hsplit
      | delivered hsplit => simp [hpending] at hsplit
      | popped _ haction =>
          rcases haction with rfl | rfl | rfl
          · cases htap
          · cases htap
          · cases hown
      | authChanged => cases hown
      | userWritten => cases hown
      | _ => cases htap
  | registeredElsewhere hform => cases hgoesOn

theorem atRest_of_remaining_eq_zero (digits : DecimalDigits) (platform : Platform Image)
    {client : Client Image} (hremaining : client.remaining = 0) : client.AtRest := by
  by_contra hrest
  obtain ⟨action, next, hstep⟩ : ∃ action next, settle digits platform client action = some next :=
    exists_settle_of_not_atRest hrest
  have := remaining_settle hstep
  omega

/-- The app stops going on exactly where it is at rest. -/
theorem halted_settle_iff {digits : DecimalDigits} {platform : Platform Image}
    {client : Client Image} :
    Machine.Halted (settle digits platform) client ↔ client.AtRest := by
  constructor
  · intro hhalted
    by_contra hrest
    obtain ⟨action, next, hstep⟩ := exists_settle_of_not_atRest hrest
    rw [hhalted action] at hstep
    cases hstep
  · exact fun hrest action => hrest.settle_eq_none action

end Client

/-- Left alone, the app comes to rest: in whatever state and whatever it does
first, it takes a bounded number of steps by itself, can always go on to a state
of rest, and stops nowhere else. -/
theorem client_comes_to_rest (digits : DecimalDigits) (platform : Platform Image)
    (client : Client Image) :
    (∀ actions finish,
      Machine.run (Client.settle digits platform) client actions = some finish →
        actions.length + finish.remaining ≤ client.remaining ∧
        (Machine.Halted (Client.settle digits platform) finish ↔ finish.AtRest)) ∧
    ∃ actions finish,
      Machine.run (Client.settle digits platform) client actions = some finish ∧
      finish.AtRest := by
  refine ⟨fun actions finish hrun => ⟨?_, Client.halted_settle_iff⟩, ?_⟩
  · exact Machine.run_length_le Client.remaining (fun _ _ _ => Client.remaining_settle) hrun
  · obtain ⟨actions, finish, hrun, hhalted⟩ :=
      Machine.exists_run_halted Client.remaining (fun _ _ _ => Client.remaining_settle) client
    exact ⟨actions, finish, hrun, Client.halted_settle_iff.mp hhalted⟩

/-! ## Every order arrives -/

namespace App

/-- The step leaves every tap its order: Submit is tapped by a signed-in user
with a document, documents stay, and the backend refuses nothing. -/
def KeepsOrders (app : App Image) : AppAction → Prop
  | .didTapSubmitOrder => app.currentUser.any (fun userUID => (app.users userUID).isSome) = true
  | .userWritten _ data => data.isSome = true
  | .served _ error => error = none
  | _ => True

instance (app : App Image) (action : AppAction) : Decidable (app.KeepsOrders action) :=
  match action with
  | .didTapSubmitOrder => inferInstanceAs (Decidable (_ = true))
  | .userWritten _ _ => inferInstanceAs (Decidable (_ = true))
  | .served _ error => inferInstanceAs (Decidable (error = none))
  | .didTapEvent _ | .catalogueLoaded _ _ _ | .user _ | .orderProcessedAppeared
  | .didTapBackToEvents | .didTapBackFromServices | .authChanged _ | .rootReplaced
  | .delivered _ => .isTrue trivial

/-- Every tap is live, and a document that is still to be read is there. -/
structure AllLive (app : App Image) : Prop where
  documents : ∀ tag submission, (tag, .getDocument submission) ∈ app.pending →
    (app.users submission.userUID).isSome = true
  live : app.liveTaps.length = app.submits

theorem allLive_launched (currentUser : Option String) (users : String → Option DocumentData) :
    AllLive (launched currentUser users : App Image) where
  documents _ _ hmem := nomatch hmem
  live := rfl

theorem AllLive.losesNothing {app : App Image} {action : AppAction} (hlive : app.AllLive)
    (hkeeps : app.KeepsOrders action) : app.LosesNothing action := by
  cases action with
  | didTapSubmitOrder =>
      obtain ⟨userUID, huser, -⟩ := Option.any_eq_true _ _ |>.mp hkeeps
      simp [LosesNothing, huser]
  | served index error =>
      simp only [LosesNothing]
      split
      next tag submission hindex =>
        exact ⟨hkeeps, hlive.documents tag submission (List.mem_of_getElem? hindex)⟩
      next => exact hkeeps
      next => trivial
  | _ => trivial

/-- Only a tap on Submit asks for a document, and that of the signed-in user. -/
theorem documents_step {platform : Platform Image} {app next : App Image} {action : AppAction}
    (hlive : app.AllLive) (hkeeps : app.KeepsOrders action)
    (hstep : app.step platform action = some next) (tag : Nat) (submission : Submission Image)
    (hmem : (tag, .getDocument submission) ∈ next.pending) :
    (next.users submission.userUID).isSome = true := by
  have hdocuments := hlive.documents tag submission
  cases step_cases hstep with
  | didTapSubmitOrder =>
      obtain ⟨userUID, huser, hdocument⟩ := Option.any_eq_true _ _ |>.mp hkeeps
      simp only [huser, submitOrder, Option.map_some, Option.toList_some, List.mem_append,
        List.mem_singleton] at hmem
      rcases hmem with hmem | hmem
      · exact hdocuments hmem
      · cases hmem
        exact hdocument
  | @userWritten userUID data =>
      by_cases hsame : submission.userUID = userUID
      · simp only [hsame, Function.update_self]
        exact hkeeps
      · simpa [Function.update_of_ne hsame] using hdocuments hmem
  | @served _ error before _ request after answered orders _ hsplit hserve =>
      rw [hsplit] at hdocuments
      rcases List.mem_append.mp hmem with hmem | hmem
      · exact hdocuments (List.mem_append_left _ hmem)
      · rcases List.mem_cons.mp hmem with heq | hmem
        · -- The answer to a request is not a request.
          cases request <;> cases error <;> cases hserve <;> cases heq
        · exact hdocuments (List.mem_append_right _ (List.mem_cons_of_mem _ hmem))
  | @delivered _ before _ request after following hsplit hdeliver =>
      rw [hsplit] at hdocuments
      simp only [List.mem_append] at hmem
      rcases hmem with hmem | hmem | hmem
      · exact hdocuments (List.mem_append_left _ hmem)
      · cases request with
        | documentRead read reply =>
            cases hdeliver
            cases hread : read.documentFetched reply <;> simp [hread] at hmem
        | documentAdded error =>
            cases hdeliver
            simp at hmem
        | _ => cases hdeliver
      · exact hdocuments (List.mem_append_right _ (List.mem_cons_of_mem _ hmem))
  | _ => exact hdocuments hmem

theorem AllLive.step {platform : Platform Image} {app next : App Image} {action : AppAction}
    (hlive : app.AllLive) (hkeeps : app.KeepsOrders action)
    (hstep : app.step platform action = some next) : next.AllLive where
  documents := documents_step hlive hkeeps hstep
  live := (liveStep hstep).length_eq (hlive.losesNothing hkeeps) hlive.live

/-- Where every tap is live and nothing is under way, each has its order. -/
theorem TapsInvariant.orders_perm {app : App Image} (hinvariant : TapsInvariant app)
    (hlive : app.liveTaps.length = app.submits) (hquiet : app.pending = []) :
    (app.orders.map Prod.fst).Perm (List.range app.submits) := by
  have hperm := hinvariant.subperm.perm_of_length_le (by simp [hlive])
  simpa [liveTaps, liveTags, hquiet] using hperm

end App

/-- Submit is tapped by a signed-in user with a document, and the backend
refuses no request of an order. -/
def Client.KeepsOrders (client : Client Image) : ClientAction → Prop
  | .session action => client.app.KeepsOrders action
  | _ => True

instance (client : Client Image) (action : ClientAction) :
    Decidable (client.KeepsOrders action) :=
  match action with
  | .session action => inferInstanceAs (Decidable (client.app.KeepsOrders action))
  | .window _ | .registeredElsewhere _ _ => .isTrue trivial

/-- What the window tells the session takes no document away. -/
theorem Client.keepsOrders_actions {digits : DecimalDigits} {platform : Platform Image}
    {client next : Client Image} {action : ClientAction} (hkeeps : client.KeepsOrders action)
    (hstep : client.step digits platform action = some next) :
    Machine.Along (App.step platform) App.KeepsOrders client.app
      ((sessionView digits platform).actions client action) := by
  cases step_cases hstep with
  | @window action scene hoffers hscene =>
      refine Machine.along_of_forall (fun seen hseen app => ?_) _
      have htold : seen ∈ client.scene.told action scene.currentUser := by
        simpa [sessionView, hscene] using hseen
      simp only [AuthScene.told, List.mem_append, List.mem_map, Option.mem_toList,
        List.mem_singleton] at htold
      rcases htold with (⟨document, -, rfl⟩ | hreplaced) | rfl
      · rfl
      · cases action <;> simp_all [App.KeepsOrders]
      · trivial
  | session hoffers hown happ => exact ⟨hkeeps, fun _ _ => trivial⟩
  | registeredElsewhere hform =>
      simp only [sessionView, hform]
      exact ⟨rfl, fun _ _ => trivial⟩

theorem App.AllLive.client_step {digits : DecimalDigits} {platform : Platform Image}
    {client next : Client Image} {action : ClientAction} (hlive : client.app.AllLive)
    (hkeeps : client.KeepsOrders action) (hstep : client.step digits platform action = some next) :
    next.app.AllLive :=
  Machine.run_invariant_of_along App.AllLive
    (fun _ _ _ hlive hkeeps hstep => hlive.step hkeeps hstep) hlive
    (Client.keepsOrders_actions hkeeps hstep)
    ((Client.sessionView digits platform).matched client action next trivial hstep)

/-- If Submit is only tapped by signed-in users with a document, and the backend
refuses no request of an order, then at rest every tap has exactly one order and
there are no others. -/
theorem every_order_arrives (digits : DecimalDigits) (platform : Platform Image)
    (currentUser : Option String) (users : String → Option DocumentData)
    (actions : List ClientAction) (client : Client Image)
    (hrun : Machine.run (Client.step digits platform) (Client.launched currentUser users)
      actions = some client)
    (hkeeps : Machine.Along (Client.step digits platform) Client.KeepsOrders
      (Client.launched currentUser users) actions)
    (hrest : client.AtRest) :
    (client.app.orders.map Prod.fst).Perm (List.range client.app.submits) := by
  have hsession := (Client.sessionView digits platform).run trivial hrun
  have htaps := App.tapsInvariant_run (App.tapsInvariant_launched currentUser users) hsession
  have hlive : client.app.AllLive :=
    Machine.run_invariant_of_along (fun client => client.app.AllLive)
      (fun _ _ _ hlive hkeeps hstep => hlive.client_step hkeeps hstep)
      (App.allLive_launched currentUser users) hkeeps hrun
  exact htaps.orders_perm hlive.live hrest.pending

theorem every_order_arrives_signingUp :
    ∃ client : Client Unit,
      Machine.run (Client.step arabicIndicDigits Platform.plain)
        (Client.launched none fun _ => none) signingUpAndOrdering = some client ∧
      (client.app.orders.map Prod.fst).Perm (List.range client.app.submits) := by
  have hmap : (Machine.run (Client.step arabicIndicDigits Platform.plain)
      (Client.launched none fun _ => none) signingUpAndOrdering).map Client.remaining = some 0 := by
    decide +kernel
  have hkeeps : Machine.Along (Client.step arabicIndicDigits Platform.plain) Client.KeepsOrders
      (Client.launched none fun _ => none) signingUpAndOrdering := by
    decide +kernel
  obtain ⟨client, hrun, hremaining⟩ := Option.map_eq_some_iff.mp hmap
  exact ⟨client, hrun, every_order_arrives arabicIndicDigits Platform.plain none (fun _ => none) _
    client hrun hkeeps
    (Client.atRest_of_remaining_eq_zero arabicIndicDigits Platform.plain hremaining)⟩

end FlyEvents
