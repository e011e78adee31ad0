import FlyEvents.ViewControllers.CartAccounting

/-! # Quantities and the total of a cart

The head-count alert asks for digits but takes every text that reads as an
integer, also zero and negative ones. The total counts every selected option at
least once exactly when no such number was entered.
-/

namespace FlyEvents

variable {Image : Type}

/-- Every submitted text that reads as a number counts at least one person. -/
def Counted (platform : Platform Image) (actions : List UserAction) : Prop :=
  ∀ text number, UserAction.didTapOK text ∈ actions →
    okHandler platform text = some number → 1 ≤ number

/-- No confirmation of the run makes the order cheaper: each one adds at least
the price of its option, so that the total covers the unit prices, and the
checkout panel is shown exactly when a service is selected. -/
structure NeverCheaper (platform : Platform Image) (start : ServicesScreen Image)
    (actions : List UserAction) (finish : ServicesScreen Image) : Prop where
  raises : ∀ before action after screen next option, actions = before ++ action :: after →
    Machine.run (ServicesScreen.step platform) start before = some screen →
    screen.step platform action = some next →
    next.controller.selectedServices = screen.controller.selectedServices ++ [option] →
    screen.controller.totalPrice + option.price ≤ next.controller.totalPrice
  total : (finish.controller.selectedServices.map ServiceOptionModel.price).sum ≤
    finish.controller.totalPrice
  panel : finish.controller.checkoutViewShown = true ↔ finish.controller.selectedServices ≠ []

/-- Every option of a loaded catalogue has the price of a returned one. -/
theorem Call.Completes.price_pos {platform : Platform Image} {call : Call}
    {viewModel : ServicesViewModel Image} (hload : call.Completes platform {} viewModel)
    (hprices : ∀ option ∈ call.returned, 0 < option.price) {indexPath : IndexPath}
    {option : ServiceOptionModel Image} (hoption : viewModel.optionAt indexPath = some option) :
    0 < option.price := by
  obtain ⟨service, -, hmem⟩ := hload.catalogued.exists_service hoption
  obtain ⟨-, hpublished⟩ := hload.fresh_spec
  obtain ⟨returned, position, picture, hreturned, -, -, rfl⟩ :=
    mem_published_iff.mp ((hpublished service).mem_iff.mp hmem)
  exact hprices returned (List.mem_of_getElem? (List.mem_zipIdx_iff_getElem?.mp hreturned))

/-- A confirmation under the condition is of at least one unit. -/
theorem Counted.one_le_quantity {platform : Platform Image} {actions : List UserAction}
    (hcounted : Counted platform actions) {screen : ServicesScreen Image} {action : UserAction}
    (hmem : action ∈ actions) {confirmation : Confirmation}
    (hconfirmed : confirmation ∈ screen.confirmed platform action) :
    1 ≤ confirmation.quantity := by
  cases action with
  | didTapCartButton =>
      simp only [ServicesScreen.confirmed] at hconfirmed
      split at hconfirmed
      next sheet hpresented =>
        split at hconfirmed
        next => cases hconfirmed
        next =>
          rw [List.mem_singleton] at hconfirmed
          rw [hconfirmed]
      next => cases hconfirmed
  | didTapOK text =>
      simp only [ServicesScreen.confirmed] at hconfirmed
      split at hconfirmed
      next sheet quantity hpresented hok =>
        rw [List.mem_singleton] at hconfirmed
        rw [hconfirmed]
        exact hcounted text quantity hmem hok
      next => cases hconfirmed
  | _ => cases hconfirmed

/-- What a step that selects an option adds to the total: its price, times the
number entered if the step answers the alert. -/
theorem exists_charge_of_step {platform : Platform Image} {screen next : ServicesScreen Image}
    {action : UserAction} {option : ServiceOptionModel Image}
    (hstep : screen.step platform action = some next)
    (hselected : next.controller.selectedServices =
      screen.controller.selectedServices ++ [option]) :
    ∃ confirmation ∈ screen.confirmed platform action,
      screen.controller.viewModel.optionAt confirmation.sheet.indexPath = some option ∧
      next.controller.totalPrice =
        screen.controller.totalPrice + confirmation.quantity * option.price := by
  have hunselected : screen.controller.selectedServices ≠
      screen.controller.selectedServices ++ [option] := by simp
  cases ServicesScreen.step_cases hstep with
  | @didConfirm sheet controller hpresented hnone hbar hadd =>
      obtain ⟨other, hother, -, rfl⟩ := ServicesViewController.addToCart_eq_some_iff.mp hadd
      obtain rfl : other = option := by simpa using hselected
      refine ⟨{ sheet, quantity := 1 }, ?_, hother, ?_⟩
      · simp [ServicesScreen.confirmed, hpresented, hbar]
      · simp
  | @didAnswer _ number alert sheet controller success hanswer hsome hpresented hadd =>
      cases number with
      | none =>
          cases hadd
          exact absurd hselected hunselected
      | some number =>
          obtain ⟨other, hother, -, -, rfl, -⟩ :=
            ServicesViewController.barNumberOfPeople_some_eq_some_iff.mp hadd
          obtain rfl : other = option := by simpa using hselected
          refine ⟨{ sheet, quantity := number }, ?_, hother, rfl⟩
          simp [ServicesScreen.confirmed_of_answer hanswer hpresented]
  | _ => exact absurd hselected hunselected

/-- On a catalogue with positive prices, a step that selects an option raises the
total by at least its price exactly if it confirms at least one unit. -/
theorem exists_raise_of_step {platform : Platform Image} {call : Call}
    {viewModel : ServicesViewModel Image} (hload : call.Completes platform {} viewModel)
    (hprices : ∀ option ∈ call.returned, 0 < option.price) {actions : List UserAction}
    {screen next : ServicesScreen Image} {action : UserAction}
    {option : ServiceOptionModel Image}
    (hrun : Machine.run (ServicesScreen.step platform) (ServicesScreen.loaded call.event viewModel)
      actions = some screen)
    (hstep : screen.step platform action = some next)
    (hselected : next.controller.selectedServices =
      screen.controller.selectedServices ++ [option]) :
    ∃ confirmation ∈ screen.confirmed platform action,
      (screen.controller.totalPrice + option.price ≤ next.controller.totalPrice ↔
        1 ≤ confirmation.quantity) := by
  obtain ⟨confirmation, hconfirmed, hoption, htotal⟩ := exists_charge_of_step hstep hselected
  rw [(cartInvariant_run hload.catalogued hrun).catalogue] at hoption
  let line : CartLine Image := { option, quantity := confirmation.quantity }
  have hcost : option.price ≤ confirmation.quantity * option.price ↔ _ :=
    Cart.price_le_cost_iff (show 0 < line.option.price from hload.price_pos hprices hoption)
  refine ⟨confirmation, hconfirmed, ?_⟩
  rw [htotal, ← hcost]
  omega

/-- Every line of the cart has a positive price. -/
theorem Accounts.price_pos {platform : Platform Image} {call : Call}
    {viewModel : ServicesViewModel Image} (hload : call.Completes platform {} viewModel)
    (hprices : ∀ option ∈ call.returned, 0 < option.price)
    {controller : ServicesViewController Image} {confirmations : List Confirmation}
    {cart : Cart Image} (haccounts : Accounts viewModel controller confirmations cart) :
    ∀ line ∈ cart, 0 < line.option.price := by
  intro line hmem
  obtain ⟨indexPath, hoption⟩ := haccounts.exists_optionAt line hmem
  exact hload.price_pos hprices hoption

/-- Under the condition, every line of the cart counts at least one unit. -/
theorem Counted.one_le_of_mem {platform : Platform Image} {actions : List UserAction}
    (hcounted : Counted platform actions) {viewModel : ServicesViewModel Image}
    {start screen : ServicesScreen Image} {cart : Cart Image}
    (hrun : Machine.run (ServicesScreen.step platform) start actions = some screen)
    (haccounts : Accounts viewModel screen.controller
      (Machine.outputs (ServicesScreen.step platform) (ServicesScreen.confirmed platform) start
        actions) cart) :
    ∀ line ∈ cart, 1 ≤ line.quantity := by
  intro line hmem
  obtain ⟨confirmation, hconfirmation, hline⟩ := haccounts.exists_confirmation hmem
  obtain ⟨before, action, after, state, heq, -, hconfirmed⟩ :=
    Machine.exists_of_mem_outputs hrun hconfirmation
  rw [hline.quantity]
  exact hcounted.one_le_quantity (by simp [heq]) hconfirmed

/-- In every use of a screen whose catalogue has positive prices, no
confirmation makes the order cheaper if and only if every number entered in the
head-count alert is positive. -/
theorem never_cheaper_iff (platform : Platform Image) (call : Call)
    (viewModel : ServicesViewModel Image) (hload : call.Completes platform {} viewModel)
    (hprices : ∀ option ∈ call.returned, 0 < option.price)
    (actions : List UserAction) (screen : ServicesScreen Image)
    (hrun : Machine.run (ServicesScreen.step platform) (ServicesScreen.loaded call.event viewModel)
      actions = some screen) :
    NeverCheaper platform (ServicesScreen.loaded call.event viewModel) actions screen ↔
      Counted platform actions := by
  constructor
  · intro hnever text number hmem hok
    -- The step that submitted the text selected an option, so it raised the total.
    obtain ⟨before, after, state, next, heq, hbefore, hstep, -⟩ :=
      Machine.exists_step_of_mem hrun hmem
    have hreports := reports_of_step hstep
    simp only [Reports, ServicesScreen.answer, hok] at hreports
    obtain ⟨sheet, option, hpresented, -, hselected, -⟩ := hreports
    obtain ⟨confirmation, hconfirmed, hiff⟩ :=
      exists_raise_of_step hload hprices hbefore hstep hselected
    have hraises := hnever.raises before _ after state next option heq hbefore hstep hselected
    simp only [ServicesScreen.confirmed, hpresented, hok, List.mem_singleton] at hconfirmed
    rw [hiff, hconfirmed] at hraises
    exact hraises
  · intro hcounted
    have hinvariant := cartInvariant_run hload.catalogued hrun
    obtain ⟨cart, haccounts⟩ := hinvariant.accounts
    have hprice := haccounts.price_pos hload hprices
    have hcovered := Cart.unitTotal_le_total hprice (hcounted.one_le_of_mem hrun haccounts)
    have hpositive := Cart.unitTotal_pos_iff hprice
    obtain ⟨-, hselected, htotal⟩ := haccounts
    refine ⟨?_, ?_, ?_⟩
    · intro before action after state next option heq hbefore hstep hselected
      obtain ⟨confirmation, hconfirmed, hiff⟩ :=
        exists_raise_of_step hload hprices hbefore hstep hselected
      apply hiff.mpr
      exact hcounted.one_le_quantity (by simp [heq]) hconfirmed
    · rw [hselected, htotal]
      exact hcovered
    · rw [hinvariant.shown, decide_eq_true_eq, hselected, htotal]
      cases cart with
      | nil => simp
      | cons line rest =>
          refine iff_of_true ?_ (by simp)
          have := hpositive.mpr (by simp)
          omega

theorem never_cheaper_barAndDj :
    ∃ screen, Machine.run (ServicesScreen.step Platform.plain)
        (ServicesScreen.loaded .wedding fullCatalogue) barAndDjActions = some screen ∧
      NeverCheaper Platform.plain (ServicesScreen.loaded .wedding fullCatalogue)
        barAndDjActions screen := by
  refine ⟨_, rfl, (never_cheaper_iff Platform.plain fullCatalogueCall fullCatalogue
    fullCatalogueCall_completes ?_ barAndDjActions _ rfl).mpr ?_⟩
  · decide
  · intro text number hmem hok
    have htext : text = some "x" ∨ text = some "12" := by
      simpa [barAndDjActions] using hmem
    rcases htext with rfl | rfl
    · exact absurd hok (by decide +revert)
    · obtain rfl : 12 = number := Option.some.inj hok
      decide

/-- A bar for nobody leaves the total at zero, and the checkout panel hidden
with a service selected. -/
theorem zeroHeadCount_cheaper :
    ∃ screen, Machine.run (ServicesScreen.step Platform.plain)
        (ServicesScreen.loaded .wedding fullCatalogue)
        [.didSelectRow ⟨0, 1⟩, .didTapCartButton, .didTapOK (some "0")] = some screen ∧
      screen.controller.totalPrice = 0 ∧
      screen.controller.selectedServices ≠ [] ∧
      screen.controller.checkoutViewShown = false ∧
      ¬ NeverCheaper Platform.plain (ServicesScreen.loaded .wedding fullCatalogue)
        [.didSelectRow ⟨0, 1⟩, .didTapCartButton, .didTapOK (some "0")] screen := by
  refine ⟨_, rfl, rfl, by decide, rfl, fun hnever => ?_⟩
  exact absurd hnever.total (by decide)

end FlyEvents
