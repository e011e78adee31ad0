import FlyEvents.App.OrderReports
import FlyEvents.App.OrderSnapshots

/-! # The orders of one checkout

A tap on Submit starts a submission and pushes the success screen, and nothing
is remembered of it on the checkout. Until the pushed screen has appeared, more
taps may be delivered, each of which does the same. The results here count what
becomes of the taps on one checkout, however late their callbacks run.
-/

namespace FlyEvents

variable {Image : Type}

/-- The action leaves the checkout in front: it is a tap on its button, or goes
on elsewhere. -/
def AppAction.atCheckout : AppAction → Bool
  | .didTapSubmitOrder => true
  | .catalogueLoaded _ _ _ => true
  | .authChanged _ => true
  | .userWritten _ _ => true
  | .served _ _ => true
  | .delivered _ => true
  | _ => false

namespace App

/-- The checkout that taps on Submit are delivered to. -/
def frontCheckout (app : App Image) : Option (CheckoutViewController Image) :=
  app.screens.head?.bind fun screen => visibleCheckout screen.above

/-- The orders that were stored for the listed taps. -/
def ordersOf (app : App Image) (tags : List Nat) : List (Nat × OrderData) :=
  app.orders.filter fun order => order.1 ∈ tags

/-- The listed taps for which the success screen was pushed. -/
def processedOf (app : App Image) (tags : List Nat) : List Nat :=
  app.processed.filter fun tag => tag ∈ tags

theorem frontCheckout_step {platform : Platform Image} {app next : App Image}
    {action : AppAction} (hstep : app.step platform action = some next)
    (hfront : action.atCheckout = true) : next.frontCheckout = app.frontCheckout := by
  cases step_cases hstep with
  | @catalogueLoaded index call schedule before screen after viewModel hscreens _ _ =>
      cases before <;> simp [frontCheckout, hscreens]
  | @didTapSubmitOrder screen below checkout hscreens hcheckout =>
      simp [frontCheckout, hscreens, visibleCheckout]
  | popped hsuffix haction => rcases haction with rfl | rfl | rfl <;> cases hfront
  | authChanged => rfl
  | userWritten => rfl
  | served => rfl
  | delivered => rfl
  | _ => cases hfront

/-- Every tap in between is delivered to the same checkout. -/
theorem frontCheckout_run {platform : Platform Image} {opened replaced : App Image}
    {during : List AppAction}
    (hduring : Machine.run (App.step platform) opened during = some replaced)
    (hfront : ∀ action ∈ during, action.atCheckout = true) :
    replaced.frontCheckout = opened.frontCheckout := by
  induction during generalizing opened with
  | nil =>
      cases hduring
      rfl
  | cons action rest ih =>
      obtain ⟨middle, hstep, hrest⟩ := Machine.run_cons_eq_some_iff.mp hduring
      rw [ih hrest fun later hlater => hfront later (List.mem_cons_of_mem action hlater)]
      exact frontCheckout_step hstep (hfront action List.mem_cons_self)

/-- The success screen was pushed once for every tap so far. -/
theorem TapsInvariant.processedOf_perm {app : App Image} (hinvariant : TapsInvariant app)
    {first count : Nat} (hcount : first + count ≤ app.submits) :
    (app.processedOf (List.range' first count)).Perm (List.range' first count) := by
  refine (List.perm_ext_iff_of_nodup ?_ List.nodup_range').mpr fun tag => ?_
  · rw [processedOf, hinvariant.processed]
    exact List.nodup_range.filter _
  · rw [processedOf, hinvariant.processed, List.mem_filter, List.mem_range, decide_eq_true_eq,
      and_iff_right_iff_imp, List.mem_range'_1]
    omega

/-- No tap has two orders. -/
theorem TapsInvariant.ordersOf_nodup {app : App Image} (hinvariant : TapsInvariant app)
    (tags : List Nat) : ((app.ordersOf tags).map Prod.fst).Nodup := by
  have horders : (app.orders.map Prod.fst).Nodup :=
    (List.nodup_append.mp hinvariant.nodup).1
  exact horders.sublist (List.filter_sublist.map Prod.fst)

theorem TapsInvariant.ordersOf_length_le {app : App Image} (hinvariant : TapsInvariant app)
    (tags : List Nat) : (app.ordersOf tags).length ≤ tags.length := by
  have hsubset : (app.ordersOf tags).map Prod.fst ⊆ tags := by
    intro tag htag
    obtain ⟨order, horder, rfl⟩ := List.mem_map.mp htag
    simpa using (List.mem_filter.mp horder).2
  simpa using (List.subperm_of_subset (hinvariant.ordersOf_nodup tags) hsubset).length_le

end App

/-- Whatever happens between and after the taps on one checkout: each of them
pushes the success screen once and stores at most one order, so there is at most
one of both exactly if there was at most one tap. -/
theorem one_checkout (platform : Platform Image) (currentUser : Option String)
    (users : String → Option DocumentData) (before during after : List AppAction)
    (opened replaced app : App Image) (checkout : CheckoutViewController Image)
    (hbefore : Machine.run (App.step platform) (App.launched currentUser users) before =
      some opened)
    (hopened : opened.frontCheckout = some checkout)
    (hduring : Machine.run (App.step platform) opened during = some replaced)
    (hfront : ∀ action ∈ during, action.atCheckout = true)
    (hafter : Machine.run (App.step platform) replaced after = some app) :
    let tags := List.range' opened.submits (App.taps during)
    replaced.frontCheckout = some checkout ∧
    (app.processedOf tags).Perm tags ∧
    ((app.ordersOf tags).map Prod.fst).Nodup ∧
    (app.ordersOf tags).length ≤ App.taps during ∧
    ((app.ordersOf tags).length ≤ 1 ∧ (app.processedOf tags).length ≤ 1 ↔ App.taps during ≤ 1) := by
  intro tags
  have hlaunched : App.TapsInvariant (App.launched currentUser users : App Image) :=
    App.tapsInvariant_launched currentUser users
  have hinvariant : App.TapsInvariant app := by
    apply App.tapsInvariant_run _ hafter
    exact App.tapsInvariant_run (App.tapsInvariant_run hlaunched hbefore) hduring
  have hsubmits : opened.submits + App.taps during ≤ app.submits := by
    rw [App.submits_run hafter, App.submits_run hduring]
    omega
  have hscreens := hinvariant.processedOf_perm hsubmits
  have horders := hinvariant.ordersOf_length_le tags
  rw [List.length_range'] at horders
  refine ⟨(App.frontCheckout_run hduring hfront).trans hopened, hscreens,
    hinvariant.ordersOf_nodup tags, horders, ?_⟩
  rw [hscreens.length_eq, List.length_range']
  omega

/-- Opening a checkout for the DJ of the full catalogue. -/
def checkoutActions : List AppAction := orderingActions.take 6

/-- Two taps on Submit, both delivered before the pushed screen appears, and the
callbacks of both submissions. -/
def doubleTap : List AppAction :=
  [.didTapSubmitOrder, .didTapSubmitOrder, .served 0 none, .served 1 none, .delivered 0,
    .delivered 1, .served 0 none, .served 1 none, .delivered 0, .delivered 0]

/-- What the two taps lead to: both submissions have ended. -/
theorem doubleTap_run :
    ∃ opened checkout app, Machine.run (App.step Platform.plain)
        (App.launched (some "uid") fun _ => some fun _ => none) checkoutActions = some opened ∧
      opened.frontCheckout = some checkout ∧
      Machine.run (App.step Platform.plain) opened doubleTap = some app ∧ app.pending = [] ∧
      opened.submits = 0 ∧ (app.ordersOf [0, 1]).length = 2 ∧
      app.processedOf [0, 1] = [0, 1] := by
  have hbind : ((Machine.run (App.step Platform.plain)
      (App.launched (some "uid") fun _ => some fun _ => none) checkoutActions).bind fun opened =>
        opened.frontCheckout.bind fun _ =>
          (Machine.run (App.step Platform.plain) opened doubleTap).map fun app =>
            (app.pending.length, opened.submits, (app.ordersOf [0, 1]).length,
              app.processedOf [0, 1])) = some (0, 0, 2, [0, 1]) := by
    decide +kernel
  obtain ⟨opened, hopened, hbind⟩ := Option.bind_eq_some_iff.mp hbind
  obtain ⟨checkout, hcheckout, hmap⟩ := Option.bind_eq_some_iff.mp hbind
  obtain ⟨app, happ, heq⟩ := Option.map_eq_some_iff.mp hmap
  simp only [Prod.mk.injEq, List.length_eq_zero_iff] at heq
  exact ⟨opened, checkout, app, hopened, hcheckout, happ, heq⟩

theorem one_checkout_doubleTap :
    ∃ opened app : App Unit, Machine.run (App.step Platform.plain) opened doubleTap = some app ∧
      (app.processedOf (List.range' opened.submits (App.taps doubleTap))).Perm
        (List.range' opened.submits (App.taps doubleTap)) ∧
      (app.ordersOf (List.range' opened.submits (App.taps doubleTap))).length ≤ 2 := by
  obtain ⟨opened, checkout, app, hopened, hcheckout, happ, -⟩ := doubleTap_run
  have hcount := one_checkout Platform.plain _ _ checkoutActions doubleTap [] opened app app
    checkout hopened hcheckout happ (by decide) rfl
  exact ⟨opened, app, happ, hcount.2.1, hcount.2.2.2.1⟩

/-- The two taps on one checkout store two orders and push two screens. -/
theorem doubleTap_orders_twice :
    ∃ opened checkout app, Machine.run (App.step Platform.plain)
        (App.launched (some "uid") fun _ => some fun _ => none) checkoutActions = some opened ∧
      opened.frontCheckout = some checkout ∧
      Machine.run (App.step Platform.plain) opened doubleTap = some app ∧
      (∀ action ∈ doubleTap, action.atCheckout = true) ∧ app.pending = [] ∧
      ¬ (app.ordersOf [0, 1]).length ≤ 1 ∧ ¬ (app.processedOf [0, 1]).length ≤ 1 := by
  obtain ⟨opened, checkout, app, hopened, hcheckout, happ, hpending, -, horders, hprocessed⟩ :=
    doubleTap_run
  refine ⟨opened, checkout, app, hopened, hcheckout, happ, by decide, hpending, ?_, ?_⟩
  · omega
  · simp [hprocessed]

end FlyEvents
