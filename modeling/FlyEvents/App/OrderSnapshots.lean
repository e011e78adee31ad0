import FlyEvents.App.OrderReports
import FlyEvents.App.SessionCarts

/-! # What a stored order is a snapshot of

An order is assembled in a callback that runs after the tap on Submit, maybe
much later. It was captured at two points of the run: the cart and the user at
the tap, and the contact at the read of the user's document. The cart is that of
the sheets that were confirmed on the screen. Nothing that happens to the cart,
the session or the other orders in between enters it.
-/

namespace FlyEvents

variable {Image : Type}

/-- The screens above a catalogue screen hold its cart: as long as one of them
is there, no sheet is presented that could change the cart. -/
structure ServicesScreen.Consistent (screen : ServicesScreen Image) : Prop where
  modal : screen.presented = none ∨ screen.above = []
  copies : ∀ checkout, .checkout checkout ∈ screen.above →
    checkout = screen.controller.didTapCheckout

theorem ServicesScreen.Consistent.step {platform : Platform Image}
    {screen next : ServicesScreen Image} {action : UserAction} (hscreen : screen.Consistent)
    (hstep : screen.step platform action = some next) : next.Consistent := by
  obtain ⟨hmodal, hcopies⟩ := hscreen
  have hempty : ∀ sheet, screen.presented = some sheet → screen.above = [] := by
    intro sheet hpresented
    exact hmodal.resolve_left (by simp [hpresented])
  cases ServicesScreen.step_cases hstep with
  | didSelectRow hpresented habove hoption hselect => exact ⟨Or.inr habove, hcopies⟩
  | didDismissSheet hpresented halert => exact ⟨Or.inl rfl, hcopies⟩
  | didOpenAlert hpresented halert hbar => exact ⟨hmodal, hcopies⟩
  -- A confirmation changes the cart, but no screen is above an open sheet.
  | didConfirm hpresented halert hbar hadd =>
      refine ⟨hmodal, fun checkout hmem => ?_⟩
      rw [hempty _ hpresented] at hmem
      cases hmem
  | didAnswer hanswer halert hpresented hadd =>
      refine ⟨hmodal, fun checkout hmem => ?_⟩
      rw [hempty _ hpresented] at hmem
      cases hmem
  | didTapCheckout hpresented habove =>
      refine ⟨Or.inl hpresented, fun checkout hmem => ?_⟩
      simpa using hmem
  | @didTapBack _ below habove =>
      refine ⟨hmodal.imp_right fun h => ?_, fun other hmem => ?_⟩
      · rw [habove] at h
        cases h
      · exact hcopies other (habove ▸ List.mem_cons_of_mem _ hmem)

theorem mem_of_visibleCheckout {above : List (PushedScreen Image)}
    {checkout : CheckoutViewController Image} (hvisible : visibleCheckout above = some checkout) :
    .checkout checkout ∈ above := by
  induction above with
  | nil => cases hvisible
  | cons screen below ih =>
      cases screen with
      | checkout controller =>
          obtain rfl := Option.some.inj hvisible
          exact List.mem_cons_self
      | orderProcessed appeared =>
          cases appeared with
          | false => exact List.mem_cons_of_mem _ (ih hvisible)
          | true => cases hvisible

namespace App

theorem consistent_step {platform : Platform Image} {app next : App Image} {action : AppAction}
    (hscreens : ∀ screen ∈ app.screens, screen.Consistent)
    (hstep : app.step platform action = some next) :
    ∀ screen ∈ next.screens, screen.Consistent := by
  cases step_cases hstep with
  | didTapEvent =>
      intro screen hmem
      rcases List.mem_cons.mp hmem with rfl | hmem
      · exact ⟨Or.inl rfl, fun _ h => by cases h⟩
      · exact hscreens screen hmem
  | @catalogueLoaded index call schedule before loading after viewModel hsplit _ _ =>
      have hloading : loading.Consistent := hscreens loading (by simp [hsplit])
      intro screen hmem
      rcases List.mem_append.mp hmem with hmem | hmem
      · exact hscreens screen (by simp [hsplit, hmem])
      · rcases List.mem_cons.mp hmem with rfl | hmem
        · exact ⟨hloading.modal, hloading.copies⟩
        · exact hscreens screen (by simp [hsplit, hmem])
  | @user action used below next hsplit hused =>
      intro screen hmem
      rcases List.mem_cons.mp hmem with rfl | hmem
      · exact (hscreens used (by simp [hsplit])).step hused
      · exact hscreens screen (by simp [hsplit, hmem])
  | @didTapSubmitOrder top below checkout hsplit hcheckout =>
      have htop : top.Consistent := hscreens top (by simp [hsplit])
      intro screen hmem
      rcases List.mem_cons.mp hmem with rfl | hmem
      · refine ⟨htop.modal.imp_right fun h => ?_, fun other hother => ?_⟩
        · rw [h] at hcheckout
          cases hcheckout
        · exact htop.copies other (by simpa using hother)
      · exact hscreens screen (by simp [hsplit, hmem])
  | @orderProcessedAppeared top below under hsplit habove =>
      have htop : top.Consistent := hscreens top (by simp [hsplit])
      intro screen hmem
      rcases List.mem_cons.mp hmem with rfl | hmem
      · refine ⟨htop.modal.imp_right fun h => ?_, fun other hother => ?_⟩
        · rw [habove] at h
          cases h
        · refine htop.copies other ?_
          rw [habove]
          simpa using hother
      · exact hscreens screen (by simp [hsplit, hmem])
  | popped hsuffix haction => exact fun screen hmem => hscreens screen (hsuffix.mem hmem)
  | _ => exact hscreens

/-- Every checkout shows the cart of what was confirmed on the catalogue screen
that it was opened from: a row for each confirmation, and their total. -/
theorem checkout_shows_confirmed {platform : Platform Image} {start app : App Image}
    {actions : List AppAction} (hstart : start.screens = [])
    (hrun : Machine.run (App.step platform) start actions = some app)
    {above below : List (ServicesScreen Image)} {screen : ServicesScreen Image}
    (hscreens : app.screens = above ++ screen :: below) {checkout : CheckoutViewController Image}
    (hcheckout : .checkout checkout ∈ screen.above) :
    ∃ (confirmations : List Confirmation) (cart : Cart Image),
      OpenedIn platform start actions below.length confirmations ∧
      List.Forall₂ (LineOf screen.controller.viewModel) confirmations cart ∧
      checkout.rows = cart.options.map some ∧
      checkout.priceLabel = toString cart.total ++ " RON" := by
  have hconsistent : ∀ screen ∈ app.screens, screen.Consistent :=
    Machine.run_invariant (fun app => ∀ screen ∈ app.screens, screen.Consistent)
      (fun _ _ _ hkept hstep => consistent_step hkept hstep) (by simp [hstart]) hrun
  obtain ⟨confirmations, hopened, hused⟩ := cartsKept_run hstart hrun above screen below hscreens
  obtain ⟨cart, hlines, hselected, htotal⟩ := hused.accounts
  obtain rfl := (hconsistent screen (by simp [hscreens])).copies checkout hcheckout
  refine ⟨confirmations, cart, hopened, hlines, ?_, ?_⟩
  · rw [CheckoutViewController.rows_eq, ← hselected]
    rfl
  · rw [← htotal]
    rfl

/-- The number of taps on Submit. -/
def taps (actions : List AppAction) : Nat :=
  (actions.filter fun action =>
    match action with
    | .didTapSubmitOrder => true
    | _ => false).length

theorem taps_append (first second : List AppAction) :
    taps (first ++ second) = taps first + taps second := by
  simp [taps]

/-- The requests are numbered by the taps before theirs. -/
theorem submits_run {platform : Platform Image} {start app : App Image}
    {actions : List AppAction}
    (hrun : Machine.run (App.step platform) start actions = some app) :
    app.submits = start.submits + taps actions := by
  refine Machine.run_trace_invariant
    (fun taken (state : App Image) => state.submits = start.submits + taps taken) ?_ rfl hrun
  intro taken state action next _ htaken hstep
  rw [taps_append, ← Nat.add_assoc, ← htaken]
  cases step_cases hstep with
  | popped hsuffix haction => rcases haction with rfl | rfl | rfl <;> rfl
  | _ => rfl

/-- The submission was made by the tap on Submit that ends the prefix of the
run: for the cart of the catalogue screen on top, from which the checkout was
opened, and by the user who was signed in. The cart has a line for each sheet
that was confirmed on the screen since it was opened. -/
structure TappedAt (platform : Platform Image) (start : App Image) (before : List AppAction)
    (tag : Nat) (submission : Submission Image) (screen : ServicesScreen Image)
    (confirmations : List Confirmation) (cart : Cart Image) : Prop where
  reached : ∃ tapped below, Machine.run (App.step platform) start before = some tapped ∧
    tapped.screens = screen :: below ∧ tapped.currentUser = some submission.userUID ∧
    (∃ next, tapped.step platform .didTapSubmitOrder = some next) ∧
    OpenedIn platform start before below.length confirmations
  tag : tag = taps before
  selectedServices : submission.selectedServices = screen.controller.selectedServices
  totalPrice : submission.totalPrice = screen.controller.totalPrice
  cart : Accounts screen.controller.viewModel screen.controller confirmations cart

/-- The order is that of one tap on Submit: its services and total are those of
the cart at the tap, the titles of the confirmed options in their order and the
sum of what they cost, and its contact is read later in the run from the document
of the user who was signed in at the tap. -/
def Snapshot (platform : Platform Image) (start : App Image) (actions : List AppAction)
    (tag : Nat) (order : OrderData) : Prop :=
  ∃ before middle after submission screen confirmations cart read data,
    actions = before ++ .didTapSubmitOrder :: (middle ++ after) ∧
    TappedAt platform start before tag submission screen confirmations cart ∧
    Machine.run (App.step platform) start (before ++ .didTapSubmitOrder :: middle) = some read ∧
    read.users submission.userUID = some data ∧
    order.selectedServices =
      screen.controller.selectedServices.map ServiceOptionModel.title ∧
    order.totalPrice = screen.controller.totalPrice ∧
    order.selectedServices = cart.options.map ServiceOptionModel.title ∧
    order.totalPrice = cart.total ∧
    order.fullName = (data "fullname").getD "" ∧
    order.phoneNumber = (data "phoneNumber").getD "" ∧
    order.email = (data "email").getD ""

/-- What is known of a request under way. -/
def Captured (platform : Platform Image) (start : App Image) (actions : List AppAction)
    (tag : Nat) : Request Image → Prop
  | .getDocument submission => ∃ before after screen confirmations cart,
      actions = before ++ .didTapSubmitOrder :: after ∧
      TappedAt platform start before tag submission screen confirmations cart
  | .documentRead submission reply => ∃ before middle after screen confirmations cart read,
      actions = before ++ .didTapSubmitOrder :: (middle ++ after) ∧
      TappedAt platform start before tag submission screen confirmations cart ∧
      Machine.run (App.step platform) start (before ++ .didTapSubmitOrder :: middle) = some read ∧
      ∀ document, reply.document = some document →
        document.data = read.users submission.userUID
  | .addDocument order => Snapshot platform start actions tag order
  | .documentAdded _ => True

theorem Snapshot.append {platform : Platform Image} {start : App Image}
    {actions : List AppAction} {tag : Nat} {order : OrderData}
    (hsnapshot : Snapshot platform start actions tag order) (later : List AppAction) :
    Snapshot platform start (actions ++ later) tag order := by
  obtain ⟨before, middle, after, submission, screen, confirmations, cart, read, data, rfl, hrest⟩ :=
    hsnapshot
  exact ⟨before, middle, after ++ later, submission, screen, confirmations, cart, read, data,
    by simp, hrest⟩

theorem Captured.append {platform : Platform Image} {start : App Image}
    {actions : List AppAction} {tag : Nat} {request : Request Image}
    (hcaptured : Captured platform start actions tag request) (later : List AppAction) :
    Captured platform start (actions ++ later) tag request := by
  cases request with
  | getDocument submission =>
      obtain ⟨before, after, screen, confirmations, cart, rfl, htapped⟩ := hcaptured
      exact ⟨before, after ++ later, screen, confirmations, cart, by simp, htapped⟩
  | documentRead submission reply =>
      obtain ⟨before, middle, after, screen, confirmations, cart, read, rfl, hrest⟩ := hcaptured
      exact ⟨before, middle, after ++ later, screen, confirmations, cart, read, by simp, hrest⟩
  | addDocument order => exact Snapshot.append hcaptured later
  | documentAdded error => trivial

/-- The callback of a read makes the order from what was captured. -/
theorem Captured.snapshot {platform : Platform Image} {start : App Image}
    {actions : List AppAction} {tag : Nat} {submission : Submission Image}
    {reply : DocumentReply} {order : OrderData}
    (hcaptured : Captured platform start actions tag (.documentRead submission reply))
    (hfetched : submission.documentFetched reply = some order) :
    Snapshot platform start actions tag order := by
  obtain ⟨before, middle, after, screen, confirmations, cart, read, heq, htapped, hread, hreply⟩ :=
    hcaptured
  obtain ⟨document, data, hdocument, hdata, rfl⟩ :=
    Submission.documentFetched_eq_some_iff.mp hfetched
  obtain ⟨-, hselected, htotal⟩ := htapped.cart
  refine ⟨before, middle, after, submission, screen, confirmations, cart, read, data, heq, htapped,
    hread, ?_, ?_, ?_, ?_, ?_, ?_, ?_, ?_⟩
  · rw [← hreply document hdocument, hdata]
  · rw [← htapped.selectedServices]
    rfl
  · exact htapped.totalPrice
  · rw [← hselected, ← htapped.selectedServices]
    rfl
  · exact htapped.totalPrice.trans htotal
  all_goals simp [orderData, DocumentSnapshot.stringValue, hdata]

/-- What holds at every point of a run, of the requests and of the orders. -/
structure SnapshotInvariant (platform : Platform Image) (start : App Image)
    (actions : List AppAction) (app : App Image) : Prop where
  screens : ∀ screen ∈ app.screens, screen.Consistent
  carts : CartsKept platform start actions app
  submits : app.submits = taps actions
  pending : ∀ tag request, (tag, request) ∈ app.pending →
    Captured platform start actions tag request
  orders : ∀ tag order, (tag, order) ∈ app.orders → Snapshot platform start actions tag order

/-- The request that a tap on Submit makes is for the cart on the top screen,
of which the visible checkout holds a copy. -/
theorem SnapshotInvariant.tapped {platform : Platform Image} {start app : App Image}
    {actions : List AppAction} (hinvariant : SnapshotInvariant platform start actions app)
    (hrun : Machine.run (App.step platform) start actions = some app)
    {screen : ServicesScreen Image} {below : List (ServicesScreen Image)}
    {checkout : CheckoutViewController Image} {submission : Submission Image}
    (hscreens : app.screens = screen :: below)
    (hcheckout : visibleCheckout screen.above = some checkout)
    (hnext : ∃ next, app.step platform .didTapSubmitOrder = some next)
    (hsubmit : submitOrder app.currentUser checkout.selectedServices checkout.totalPrice =
      some submission) :
    ∃ confirmations cart,
      TappedAt platform start actions app.submits submission screen confirmations cart := by
  obtain ⟨user, huser, rfl⟩ := Option.map_eq_some_iff.mp hsubmit
  obtain ⟨confirmations, hopened, hused⟩ := hinvariant.carts [] screen below hscreens
  obtain ⟨cart, haccounts⟩ := hused.accounts
  have hconsistent := hinvariant.screens screen (by simp [hscreens])
  obtain rfl := hconsistent.copies checkout (mem_of_visibleCheckout hcheckout)
  exact ⟨confirmations, cart, ⟨app, below, hrun, hscreens, huser, hnext, hopened⟩,
    hinvariant.submits, rfl, rfl, haccounts⟩

theorem snapshotInvariant_served {platform : Platform Image} {start app : App Image}
    {actions : List AppAction} (hinvariant : SnapshotInvariant platform start actions app)
    (hrun : Machine.run (App.step platform) start actions = some app)
    {tag : Nat} {error : Option BackendError} {request answered : Request Image}
    {orders : List (Nat × OrderData)} (hrequest : (tag, request) ∈ app.pending)
    (hserve : app.serve tag error request = some (answered, orders)) :
    Captured platform start actions tag answered ∧
    ∀ other order, (other, order) ∈ orders → Snapshot platform start actions other order := by
  have hcaptured := hinvariant.pending tag request hrequest
  cases request with
  | getDocument submission =>
      obtain ⟨before, after, screen, confirmations, cart, rfl, htapped⟩ := hcaptured
      cases error with
      | none =>
          cases hserve
          refine ⟨⟨before, after, [], screen, confirmations, cart, app, by simp, htapped, hrun, ?_⟩,
            hinvariant.orders⟩
          rintro document ⟨rfl⟩
          rfl
      | some error =>
          cases hserve
          exact ⟨⟨before, after, [], screen, confirmations, cart, app, by simp, htapped, hrun,
            by simp⟩, hinvariant.orders⟩
  | addDocument order =>
      cases error with
      | none =>
          cases hserve
          refine ⟨trivial, fun other stored hmem => ?_⟩
          rcases List.mem_append.mp hmem with hmem | hmem
          · exact hinvariant.orders other stored hmem
          · obtain ⟨rfl, rfl⟩ := Prod.mk.inj (List.mem_singleton.mp hmem)
            exact hcaptured
      | some error =>
          cases hserve
          exact ⟨trivial, hinvariant.orders⟩
  | documentRead submission reply => cases hserve
  | documentAdded error => cases hserve

theorem captured_delivered {platform : Platform Image} {start : App Image}
    {actions : List AppAction} {tag : Nat} {request following : Request Image}
    (hcaptured : Captured platform start actions tag request)
    (hdeliver : deliver request = some (some following)) :
    Captured platform start actions tag following := by
  cases request with
  | documentRead submission reply =>
      obtain ⟨order, hfetched, rfl⟩ := Option.map_eq_some_iff.mp (Option.some.inj hdeliver)
      exact hcaptured.snapshot hfetched
  | _ => cases hdeliver

/-- One case for each step that touches a request or an order. -/
theorem snapshotInvariant_step {platform : Platform Image} {start app next : App Image}
    {actions : List AppAction} {action : AppAction} (hstart : start.submits = 0)
    (hrun : Machine.run (App.step platform) start actions = some app)
    (hinvariant : SnapshotInvariant platform start actions app)
    (hstep : app.step platform action = some next) :
    SnapshotInvariant platform start (actions ++ [action]) next := by
  have hscreens := consistent_step hinvariant.screens hstep
  have hcarts := cartsKept_step hrun hinvariant.carts hstep
  have hsubmits : next.submits = taps (actions ++ [action]) := by
    have hnumbered := submits_run (Machine.run_append_eq_some_iff.mpr
      ⟨app, hrun, (Machine.run_singleton _ app action).trans hstep⟩)
    rwa [hstart, Nat.zero_add] at hnumbered
  have hpending : ∀ tag request, (tag, request) ∈ app.pending →
      Captured platform start (actions ++ [action]) tag request :=
    fun tag request hmem => (hinvariant.pending tag request hmem).append [action]
  have horders : ∀ tag order, (tag, order) ∈ app.orders →
      Snapshot platform start (actions ++ [action]) tag order :=
    fun tag order hmem => (hinvariant.orders tag order hmem).append [action]
  cases step_cases hstep with
  | @didTapSubmitOrder screen below checkout htop hcheckout =>
      -- The new request, if any, is captured by the run up to this tap.
      refine ⟨hscreens, hcarts, hsubmits, fun tag request hmem => ?_, horders⟩
      rcases List.mem_append.mp hmem with hmem | hmem
      · exact hpending tag request hmem
      · rw [Option.mem_toList, Option.map_eq_some_iff] at hmem
        obtain ⟨submission, hsubmission, heq⟩ := hmem
        obtain ⟨rfl, rfl⟩ := Prod.mk.inj heq
        obtain ⟨confirmations, cart, htapped⟩ :=
          hinvariant.tapped hrun htop hcheckout ⟨_, hstep⟩ hsubmission
        exact ⟨actions, [], screen, confirmations, cart, rfl, htapped⟩
  | @served index error before tag request after answered orders hindex hsplit hserve =>
      have hmem : (tag, request) ∈ app.pending := by simp [hsplit]
      obtain ⟨hanswered, hstored⟩ := snapshotInvariant_served hinvariant hrun hmem hserve
      refine ⟨hscreens, hcarts, hsubmits, fun other later hother => ?_,
        fun other order hother => (hstored other order hother).append _⟩
      rcases List.mem_append.mp hother with hother | hother
      · exact hpending other later (by simp [hsplit, hother])
      · rcases List.mem_cons.mp hother with heq | hother
        · obtain ⟨rfl, rfl⟩ := Prod.mk.inj heq
          exact hanswered.append _
        · exact hpending other later (by simp [hsplit, hother])
  | @delivered index before tag request after following hsplit hdeliver =>
      have hcaptured := hinvariant.pending tag request (by simp [hsplit])
      refine ⟨hscreens, hcarts, hsubmits, fun other later hother => ?_, horders⟩
      rcases List.mem_append.mp hother with hother | hother
      · exact hpending other later (by simp [hsplit, hother])
      · rcases List.mem_append.mp hother with hother | hother
        · rw [Option.mem_toList, Option.map_eq_some_iff] at hother
          obtain ⟨made, rfl, heq⟩ := hother
          obtain ⟨rfl, rfl⟩ := Prod.mk.inj heq
          exact (captured_delivered hcaptured hdeliver).append _
        · exact hpending other later (by simp [hsplit, hother])
  | _ => exact ⟨hscreens, hcarts, hsubmits, hpending, horders⟩

end App

/-- In every run from the launch of the app, each tap on Submit stores at most
one order, and every stored order is the snapshot of its tap. -/
theorem orders_are_snapshots (platform : Platform Image) (currentUser : Option String)
    (users : String → Option DocumentData) (actions : List AppAction) (app : App Image)
    (hrun : Machine.run (App.step platform) (App.launched currentUser users) actions =
      some app) :
    (app.orders.map Prod.fst).Nodup ∧
    ∀ tag order, (tag, order) ∈ app.orders →
      App.Snapshot platform (App.launched currentUser users) actions tag order := by
  have hlive := (App.tapsInvariant_run (App.tapsInvariant_launched currentUser users) hrun).nodup
  have hinvariant : App.SnapshotInvariant platform (App.launched currentUser users) actions app :=
    Machine.run_trace_invariant _
      (fun _ _ _ _ htaken hinvariant hstep =>
        App.snapshotInvariant_step rfl htaken hinvariant hstep)
      ⟨by simp [App.launched], App.cartsKept_run rfl (Machine.run_nil _ _), rfl,
        by simp [App.launched], by simp [App.launched]⟩ hrun
  exact ⟨(List.nodup_append.mp hlive).1, hinvariant.orders⟩

/-- The order of a user who has signed out, with another one signed in, when it
is written. -/
theorem orders_are_snapshots_signedOut :
    ∃ app order, Machine.run (App.step Platform.plain)
        (App.launched (some "uid") fun _ => some fun _ => none)
        (orderingActions ++ [.authChanged (some "other"), .served 0 none, .delivered 0]) =
          some app ∧
      app.currentUser = some "other" ∧
      App.Snapshot Platform.plain (App.launched (some "uid") fun _ => some fun _ => none)
        (orderingActions ++ [.authChanged (some "other"), .served 0 none, .delivered 0])
        0 order := by
  have hmap : (Machine.run (App.step Platform.plain)
      (App.launched (some "uid") fun _ => some fun _ => none)
      (orderingActions ++ [.authChanged (some "other"), .served 0 none, .delivered 0])).map
        (fun app => (app.currentUser, app.orders.map Prod.fst)) = some (some "other", [0]) := by
    decide +kernel
  obtain ⟨app, hrun, heq⟩ := Option.map_eq_some_iff.mp hmap
  obtain ⟨huser, htags⟩ := Prod.mk.inj heq
  have htag : 0 ∈ app.orders.map Prod.fst := by simp [htags]
  obtain ⟨⟨tag, order⟩, hstored, rfl⟩ := List.mem_map.mp htag
  exact ⟨app, order, hrun, huser,
    (orders_are_snapshots Platform.plain _ _ _ app hrun).2 _ order hstored⟩

end FlyEvents
