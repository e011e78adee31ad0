import FlyEvents.App.Client
import FlyEvents.App.OneCheckout
import FlyEvents.App.RootAgreement

/-! # For whom a cart is submitted

A submission is made in the name of the user who is signed in at the tap, and
the cart does not remember for whom it was filled. A call that was still
unanswered when an event was chosen can change the user under an open cart. If
there is none, nothing can: the forms are out of reach, and whatever replaces
the root takes the carts away.
-/

namespace FlyEvents

variable {Image : Type}

/-- The answer to the call can sign a user in. -/
def AuthCall.signsIn : AuthCall → Bool
  | .signIn _ | .createUser _ => true
  | _ => false

namespace AuthCall

theorem userSignedIn_of_not_signsIn {call : AuthCall} (hcall : call.signsIn = false)
    (reply : AuthReply) : call.userSignedIn reply = none := by
  cases call <;> first | rfl | cases hcall

theorem signsIn_answered {call answered : AuthCall} {reply : AuthReply}
    (hanswered : call.answered reply = some answered) : answered.signsIn = false := by
  cases call <;> cases hanswered <;> rfl

end AuthCall

theorem RootScreen.exists_chooseEvent {root : Option RootScreen}
    (hroot : root.any RootScreen.isChooseEvent = true) : ∃ id, root = some (.chooseEvent id) := by
  cases root with
  | none => cases hroot
  | some root =>
      cases root with
      | login id above => cases hroot
      | chooseEvent id => exact ⟨id, rfl⟩

namespace AuthScene

/-- The window may be left to the customer: the event chooser is its root, and
no answer that is still to come signs a user in. -/
structure Settled (scene : AuthScene) : Prop where
  root : scene.root.any RootScreen.isChooseEvent = true
  calls : ∀ call ∈ scene.calls, call.2.signsIn = false

/-- The only button of the event chooser that the window knows logs out. -/
theorem eq_didTapLogout_of_isTap {digits : DecimalDigits} {scene next : AuthScene}
    {action : AuthSceneAction} (hroot : scene.root.any RootScreen.isChooseEvent = true)
    (htap : action.isTap = true) (hstep : scene.step digits action = some next) :
    ∃ error, action = .didTapLogout error := by
  obtain ⟨id, hchooser⟩ := RootScreen.exists_chooseEvent hroot
  cases action with
  | didTapLogout error => exact ⟨error, rfl⟩
  | answered index reply => cases htap
  | delivered index => cases htap
  | transitionCompleted => cases htap
  | _ => simp [step, push, hchooser] at hstep

/-- Logging out signs the user out, or does no more than show an alert. -/
theorem logout_cases {digits : DecimalDigits} {scene next : AuthScene}
    {error : Option BackendError} (hstep : scene.step digits (.didTapLogout error) = some next) :
    next.root = scene.root ∧ next.calls = scene.calls ∧
      (next.currentUser = scene.currentUser ∨ next.currentUser = none) := by
  simp only [step] at hstep
  split at hstep
  next id hroot =>
    obtain rfl := Option.some.inj hstep
    obtain ⟨hroot', hcalls, huser⟩ := signOutCompleted_frame
      { scene with currentUser := if error.isSome then scene.currentUser else none } id error
    refine ⟨hroot', hcalls, ?_⟩
    rw [huser]
    cases error with
    | some error => exact .inl rfl
    | none => exact .inr rfl
  next => cases hstep

/-- A settled window stays so until its root is replaced, and signs nobody in. -/
theorem Settled.step {digits : DecimalDigits} {scene next : AuthScene}
    {action : AuthSceneAction} (hsettled : scene.Settled) (hkept : action ≠ .transitionCompleted)
    (hstep : scene.step digits action = some next) :
    next.Settled ∧ (next.currentUser = scene.currentUser ∨ next.currentUser = none) := by
  obtain ⟨hroot, hcalls⟩ := hsettled
  by_cases htap : action.isTap = true
  · obtain ⟨error, rfl⟩ := eq_didTapLogout_of_isTap hroot htap hstep
    obtain ⟨hroot', hcalls', huser⟩ := logout_cases hstep
    exact ⟨⟨hroot' ▸ hroot, hcalls' ▸ hcalls⟩, huser⟩
  · cases step_cases hstep with
    | tapped htapped => exact absurd htapped htap
    | loggedOut => exact absurd rfl htap
    | @answered index reply before controller call after answered hsplit hanswered =>
        have hcall : call.signsIn = false := hcalls (controller, call) (by simp [hsplit])
        refine ⟨⟨hroot, fun other hmem => ?_⟩, .inl ?_⟩
        · rcases List.mem_append.mp hmem with hmem | hmem
          · exact hcalls other (by simp [hsplit, hmem])
          · rcases List.mem_cons.mp hmem with rfl | hmem
            · exact AuthCall.signsIn_answered hanswered
            · exact hcalls other (by simp [hsplit, hmem])
        · rw [AuthCall.userSignedIn_of_not_signsIn hcall, Option.none_or]
    | @continued index before controller request reply after userUID data _ hsplit _ =>
        refine ⟨⟨hroot, fun other hmem => ?_⟩, .inl rfl⟩
        rcases List.mem_append.mp hmem with hmem | hmem
        · exact hcalls other (by simp [hsplit, hmem])
        · rcases List.mem_cons.mp hmem with rfl | hmem
          · rfl
          · exact hcalls other (by simp [hsplit, hmem])
    | @refreshed index before controller call after _ hsplit =>
        refine ⟨⟨?_, ?_⟩, .inl (currentUser_checkAuthentication _)⟩
        · rw [root_checkAuthentication]
          exact hroot
        · rw [calls_checkAuthentication]
          exact fun other hmem => hcalls other (mem_calls_of_erased hsplit hmem)
    | ended _ hsplit =>
        exact ⟨⟨hroot, fun other hmem => hcalls other (mem_calls_of_erased hsplit hmem)⟩,
          .inl rfl⟩
    | transitionCompleted => exact absurd rfl hkept

end AuthScene

theorem App.currentUser_of_isOwn {platform : Platform Image} {app next : App Image}
    {action : AppAction} (hown : action.isOwn = true)
    (hstep : app.step platform action = some next) : next.currentUser = app.currentUser := by
  cases App.step_cases hstep with
  | authChanged => cases hown
  | _ => rfl

/-- The event chooser gets taps exactly if it is in front. -/
theorem App.isSome_step_didTapEvent (app : App Image) (platform : Platform Image) (event : Event) :
    (app.step platform (.didTapEvent event)).isSome = app.choosing := by
  simp only [App.step, App.choosing]
  split <;> simp_all

namespace Client

/-- The session and the window agree on who is signed in. -/
theorem currentUser_run {digits : DecimalDigits} {platform : Platform Image}
    {currentUser : Option String} {users : String → Option DocumentData}
    {actions : List ClientAction} {client : Client Image}
    (hrun : Machine.run (Client.step digits platform) (launched currentUser users) actions =
      some client) :
    client.app.currentUser = client.scene.currentUser := by
  refine Machine.run_invariant (fun client => client.app.currentUser = client.scene.currentUser)
    (fun client action next hsame hstep => ?_) ?_ hrun
  · cases step_cases hstep with
    | window hoffers hscene => rfl
    | session hoffers hown happ => exact (App.currentUser_of_isOwn hown happ).trans hsame
    | registeredElsewhere hform => exact hsame
  · exact (AuthScene.currentUser_checkAuthentication { currentUser }).symm

/-- The window refreshes its root, or need not. -/
def Refreshes (client : Client Image) : ClientAction → Prop
  | .window action => client.scene.Refreshes action
  | _ => True

theorem following_run {digits : DecimalDigits} {platform : Platform Image}
    {currentUser : Option String} {users : String → Option DocumentData}
    {actions : List ClientAction} {client : Client Image}
    (halong : Machine.Along (Client.step digits platform) Refreshes
      (launched currentUser users) actions)
    (hrun : Machine.run (Client.step digits platform) (launched currentUser users) actions =
      some client) : client.scene.Following := by
  have hseen : Machine.Along (AuthScene.step digits) AuthScene.Refreshes
      (AuthScene.connected currentUser)
      ((windowView digits platform).trace (launched currentUser users) actions) := by
    refine (windowView digits platform).along_trace ?_ trivial halong hrun
    intro current action next _ hrefreshes _
    cases action with
    | window action => exact ⟨hrefreshes, fun _ _ => trivial⟩
    | session action => trivial
    | registeredElsewhere userUID form => trivial
  exact AuthScene.following_run hseen ((windowView digits platform).run trivial hrun)

/-- As long as the window refreshes its root, once nothing is pending there, an
event can be chosen exactly if somebody is signed in and no screen is in use
above the event chooser. -/
theorem isSome_step_didTapEvent_iff {digits : DecimalDigits} {platform : Platform Image}
    {currentUser : Option String} {users : String → Option DocumentData}
    {actions : List ClientAction} {client : Client Image}
    (halong : Machine.Along (Client.step digits platform) Refreshes
      (launched currentUser users) actions)
    (hrun : Machine.run (Client.step digits platform) (launched currentUser users) actions =
      some client)
    (hquiet : client.scene.Quiet) (event : Event) :
    (client.step digits platform (.session (.didTapEvent event))).isSome = true ↔
      client.app.currentUser ≠ none ∧ client.app.choosing = true := by
  have hagrees : client.offers (.session (.didTapEvent event)) = true ↔
      client.app.currentUser ≠ none := by
    rw [currentUser_run hrun]
    exact (following_run halong hrun).agrees hquiet
  have hchosen := client.app.isSome_step_didTapEvent platform event
  rw [← hagrees, ← hchosen]
  simp only [step]
  split
  next hoffers =>
    cases client.app.step platform (.didTapEvent event) <;> simp [hoffers]
  next hoffers => simp [hoffers]

/-- The submission that a tap on Submit starts, if any. -/
def submitted (client : Client Image) : ClientAction → List (Submission Image)
  | .session .didTapSubmitOrder =>
      (client.app.frontCheckout.bind fun checkout =>
        submitOrder client.app.currentUser checkout.selectedServices checkout.totalPrice).toList
  | _ => []

/-- What is kept until the root is replaced. -/
structure SameCustomer (customer : Option String) (client : Client Image) : Prop where
  settled : client.scene.Settled
  same : client.app.currentUser = client.scene.currentUser
  customer : client.app.currentUser = customer ∨ client.app.currentUser = none

theorem SameCustomer.step {digits : DecimalDigits} {platform : Platform Image}
    {customer : Option String} {client next : Client Image} {action : ClientAction}
    (hcustomer : SameCustomer customer client) (hkept : action ≠ .window .transitionCompleted)
    (hstep : client.step digits platform action = some next) : SameCustomer customer next := by
  obtain ⟨hsettled, hsame, huser⟩ := hcustomer
  cases step_cases hstep with
  | window hoffers hscene =>
      obtain ⟨hnext, hchanged⟩ := hsettled.step (fun heq => hkept (heq ▸ rfl)) hscene
      refine ⟨hnext, rfl, ?_⟩
      rcases hchanged with hsigned | hnobody
      · exact huser.imp (fun h => hsigned.trans (hsame.symm.trans h))
          (fun h => hsigned.trans (hsame.symm.trans h))
      · exact .inr hnobody
  | session hoffers hown happ =>
      have hkeptUser := App.currentUser_of_isOwn hown happ
      exact ⟨hsettled, hkeptUser.trans hsame, huser.imp hkeptUser.trans hkeptUser.trans⟩
  | registeredElsewhere hform => exact ⟨hsettled, hsame, huser⟩

/-- A submission is made for the customer. -/
theorem SameCustomer.submitted {customer : Option String} {client : Client Image}
    (hcustomer : SameCustomer customer client) {action : ClientAction}
    {submission : Submission Image} (hmem : submission ∈ client.submitted action) :
    some submission.userUID = customer := by
  unfold Client.submitted at hmem
  split at hmem
  next =>
    obtain ⟨checkout, -, hsubmit⟩ := Option.bind_eq_some_iff.mp (Option.mem_toList.mp hmem)
    obtain ⟨user, huser, rfl⟩ := Option.map_eq_some_iff.mp hsubmit
    rcases hcustomer.customer with hsame | hnobody
    · rw [← hsame, huser]
    · rw [huser] at hnobody
      cases hnobody
  next => cases hmem

end Client

/-- If no answer that is still to come can sign a user in when the customer gets
the event chooser, then until the root is replaced every submission is made for
the user who is signed in now, and afterwards nobody else is. -/
theorem one_cart_one_customer (digits : DecimalDigits) (platform : Platform Image)
    (currentUser : Option String) (users : String → Option DocumentData)
    (before during : List ClientAction) (chosen client : Client Image)
    (hbefore : Machine.run (Client.step digits platform) (Client.launched currentUser users)
      before = some chosen)
    (hsettled : chosen.scene.Settled)
    (hduring : Machine.run (Client.step digits platform) chosen during = some client)
    (hkept : .window .transitionCompleted ∉ during) :
    (client.app.currentUser = chosen.app.currentUser ∨ client.app.currentUser = none) ∧
    ∀ submission ∈ Machine.outputs (Client.step digits platform) Client.submitted chosen during,
      some submission.userUID = chosen.app.currentUser := by
  have hstart : Client.SameCustomer chosen.app.currentUser chosen :=
    ⟨hsettled, Client.currentUser_run hbefore, .inl rfl⟩
  have hrun : ∀ taken reached, Machine.run (Client.step digits platform) chosen taken =
      some reached → .window .transitionCompleted ∉ taken →
      Client.SameCustomer chosen.app.currentUser reached := by
    intro taken reached htaken
    refine Machine.run_trace_invariant (fun taken reached =>
      .window .transitionCompleted ∉ taken →
        Client.SameCustomer chosen.app.currentUser reached) ?_ (fun _ => hstart) htaken
    intro taken state action next _ ih hstep hnot
    simp only [List.mem_append, List.mem_singleton, not_or] at hnot
    exact (ih hnot.1).step (Ne.symm hnot.2) hstep
  refine ⟨(hrun during client hduring hkept).customer, fun submission hmem => ?_⟩
  obtain ⟨taken, action, after, state, rfl, htaken, hsubmitted⟩ :=
    Machine.exists_of_mem_outputs hduring hmem
  refine (hrun taken state htaken fun hreplaced => hkept ?_).submitted hsubmitted
  exact List.mem_append_left _ hreplaced

/-- The user who has just signed up orders. -/
theorem one_cart_one_customer_signingUp :
    ∃ chosen client : Client Unit,
      Machine.run (Client.step arabicIndicDigits Platform.plain)
        (Client.launched none fun _ => none) signingUp = some chosen ∧
      Machine.run (Client.step arabicIndicDigits Platform.plain) chosen
        (orderingActions.map .session) = some client ∧
      ∀ submission ∈ Machine.outputs (Client.step arabicIndicDigits Platform.plain)
        Client.submitted chosen (orderingActions.map .session), submission.userUID = "uid" := by
  have hchosen : (Machine.run (Client.step arabicIndicDigits Platform.plain)
      (Client.launched none fun _ => none) signingUp).map (fun chosen =>
        (chosen.scene.calls.length, chosen.scene.root.any RootScreen.isChooseEvent,
          chosen.app.currentUser)) = some (0, true, some "uid") := by
    decide +kernel
  have hordering : (Machine.run (Client.step arabicIndicDigits Platform.plain)
      (Client.launched none fun _ => none)
        (signingUp ++ orderingActions.map .session)).isSome = true := by
    decide +kernel
  obtain ⟨client, hrun⟩ := Option.isSome_iff_exists.mp hordering
  obtain ⟨chosen, hbefore, hduring⟩ := Machine.run_append_eq_some_iff.mp hrun
  rw [hbefore, Option.map_some, Option.some.injEq, Prod.mk.injEq, Prod.mk.injEq,
    List.length_eq_zero_iff] at hchosen
  obtain ⟨hcalls, hroot, huser⟩ := hchosen
  refine ⟨chosen, client, hbefore, hduring, fun submission hmem => ?_⟩
  have hcustomer := (one_cart_one_customer arabicIndicDigits Platform.plain none (fun _ => none) _
    _ chosen client hbefore ⟨hroot, by simp [hcalls]⟩ hduring (by simp)).2 submission hmem
  rw [huser] at hcustomer
  exact Option.some.inj hcustomer

end FlyEvents
