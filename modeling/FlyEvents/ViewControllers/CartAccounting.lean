import FlyEvents.Data.Cart
import FlyEvents.ViewControllers.ServicesScreen

/-! # The cart of a catalogue screen

The selected services and the total are two fields that every confirmation
updates. The results here say which cart they are about: one line for each
confirmed sheet, with the option that the sheet was opened for.
-/

namespace FlyEvents

variable {Image : Type}

/-- The sheet was opened for an option of its service, at its index path. -/
def ServicesViewModel.Opened (viewModel : ServicesViewModel Image)
    (sheet : DescriptionViewController) : Prop :=
  ∃ option, viewModel.optionAt sheet.indexPath = some option ∧ option.id = sheet.id ∧
    option.service = sheet.service.name

/-- The line that a confirmation adds to the cart: the option at the row whose
sheet was confirmed, charged for each person exactly if its label says so. -/
structure LineOf (viewModel : ServicesViewModel Image) (confirmation : Confirmation)
    (line : CartLine Image) : Prop where
  option : viewModel.optionAt confirmation.sheet.indexPath = some line.option
  id : line.option.id = confirmation.sheet.id
  quantity : line.quantity = confirmation.quantity
  perPerson : line.option.PricedPerPerson ↔ confirmation.sheet.service = .bar
  single : ¬ line.option.PricedPerPerson → line.quantity = 1

/-- The two fields of the screen are those of a cart with one line for each
confirmation, in their order. -/
def Accounts (viewModel : ServicesViewModel Image) (controller : ServicesViewController Image)
    (confirmations : List Confirmation) (cart : Cart Image) : Prop :=
  List.Forall₂ (LineOf viewModel) confirmations cart ∧
    controller.selectedServices = cart.options ∧ controller.totalPrice = cart.total

/-- What holds of a screen in use, beside the confirmations given so far. -/
structure CartInvariant (viewModel : ServicesViewModel Image) (screen : ServicesScreen Image)
    (confirmations : List Confirmation) : Prop where
  catalogue : screen.controller.viewModel = viewModel
  opened : ∀ sheet, screen.presented = some sheet → viewModel.Opened sheet
  alert : screen.alert ≠ none → ∃ sheet, screen.presented = some sheet ∧ sheet.service = .bar
  accounts : ∃ cart, Accounts viewModel screen.controller confirmations cart
  shown : screen.controller.checkoutViewShown = decide (screen.controller.totalPrice > 0)

theorem ServicesViewModel.Opened.lineOf {viewModel : ServicesViewModel Image}
    {sheet : DescriptionViewController} {option : ServiceOptionModel Image} {quantity : Int}
    (hopened : viewModel.Opened sheet) (hoption : viewModel.optionAt sheet.indexPath = some option)
    (hsingle : sheet.service ≠ .bar → quantity = 1) :
    LineOf viewModel { sheet, quantity } { option, quantity } := by
  obtain ⟨other, hother, hid, hservice⟩ := hopened
  obtain rfl := Option.some.inj (hother.symm.trans hoption)
  have hperPerson : other.PricedPerPerson ↔ sheet.service = .bar := by
    rw [ServiceOptionModel.pricedPerPerson_iff, hservice]
    exact Service.name_injective.eq_iff (b := Service.bar)
  exact ⟨hoption, hid, rfl, hperPerson, fun hnot => hsingle (mt hperPerson.mpr hnot)⟩

/-- Charging an option adds its line to the cart. -/
theorem Accounts.charged {viewModel : ServicesViewModel Image}
    {controller : ServicesViewController Image} {confirmations : List Confirmation}
    {cart : Cart Image} (haccounts : Accounts viewModel controller confirmations cart)
    {confirmation : Confirmation} {line : CartLine Image}
    (hline : LineOf viewModel confirmation line) :
    Accounts viewModel (controller.charged line.option line.cost) (confirmations ++ [confirmation])
      (cart ++ [line]) := by
  obtain ⟨hlines, hselected, htotal⟩ := haccounts
  refine ⟨List.rel_append hlines (.cons hline .nil), ?_, ?_⟩
  · simp [hselected]
  · simp [htotal]

theorem Accounts.exists_confirmation {viewModel : ServicesViewModel Image}
    {controller : ServicesViewController Image} {confirmations : List Confirmation}
    {cart : Cart Image} (haccounts : Accounts viewModel controller confirmations cart)
    {line : CartLine Image} (hmem : line ∈ cart) :
    ∃ confirmation ∈ confirmations, LineOf viewModel confirmation line := by
  obtain ⟨hlines, -, -⟩ := haccounts
  clear controller
  induction hlines with
  | nil => cases hmem
  | @cons confirmation other _ _ hline _ ih =>
      rcases List.mem_cons.mp hmem with rfl | hmem
      · exact ⟨confirmation, List.mem_cons_self, hline⟩
      · obtain ⟨earlier, hearlier, hother⟩ := ih hmem
        exact ⟨earlier, List.mem_cons_of_mem confirmation hearlier, hother⟩

/-- The options of the cart are rows of the catalogue. -/
theorem Accounts.exists_optionAt {viewModel : ServicesViewModel Image}
    {controller : ServicesViewController Image} {confirmations : List Confirmation}
    {cart : Cart Image} (haccounts : Accounts viewModel controller confirmations cart) :
    ∀ line ∈ cart, ∃ indexPath, viewModel.optionAt indexPath = some line.option := by
  intro line hmem
  obtain ⟨confirmation, -, hline⟩ := haccounts.exists_confirmation hmem
  exact ⟨confirmation.sheet.indexPath, hline.option⟩

theorem cartInvariant_loaded (event : Event) (viewModel : ServicesViewModel Image) :
    CartInvariant viewModel (ServicesScreen.loaded event viewModel) [] where
  catalogue := rfl
  opened _ hpresented := nomatch hpresented
  alert halert := absurd rfl halert
  accounts := ⟨[], .nil, rfl, rfl⟩
  shown := rfl

/-- One case for each action: browsing confirms nothing, and a confirmation
charges the option of the open sheet. -/
theorem cartInvariant_step {platform : Platform Image} {viewModel : ServicesViewModel Image}
    (hcatalogue : viewModel.Catalogued) {screen next : ServicesScreen Image}
    {confirmations : List Confirmation} {action : UserAction}
    (hinvariant : CartInvariant viewModel screen confirmations)
    (hstep : screen.step platform action = some next) :
    CartInvariant viewModel next (confirmations ++ screen.confirmed platform action) := by
  obtain ⟨rfl, hopened, halert, ⟨cart, haccounts⟩, hshown⟩ := hinvariant
  cases ServicesScreen.step_cases hstep with
  | @didSelectRow indexPath option presented hpresented habove hoption hselect =>
      simp only [ServicesScreen.confirmed, List.append_nil]
      obtain ⟨service, hsection, hmem⟩ := hcatalogue.exists_service hoption
      rw [ServicesViewController.didSelectRowAt_eq _ hsection, hoption, Option.map_some,
        Option.some.injEq] at hselect
      subst hselect
      refine ⟨rfl, ?_, fun hopen => ?_, ⟨cart, haccounts⟩, hshown⟩
      · rintro _ ⟨rfl⟩
        exact ⟨option, hoption, rfl, hcatalogue.filed service option hmem⟩
      · obtain ⟨sheet, hsheet, -⟩ := halert hopen
        rw [hpresented] at hsheet
        cases hsheet
  | didDismissSheet hpresented hnone =>
      simp only [ServicesScreen.confirmed, List.append_nil]
      exact ⟨rfl, fun _ h => (by cases h), fun h => absurd hnone h, ⟨cart, haccounts⟩, hshown⟩
  | @didOpenAlert sheet hpresented hnone hbar =>
      have hconfirmed : screen.confirmed platform .didTapCartButton = [] := by
        simp [ServicesScreen.confirmed, hpresented, hbar]
      rw [hconfirmed, List.append_nil]
      exact ⟨rfl, hopened, fun _ => ⟨sheet, hpresented, hbar⟩, ⟨cart, haccounts⟩, hshown⟩
  | @didConfirm sheet controller hpresented hnone hbar hadd =>
      obtain ⟨option, hoption, -, rfl⟩ :=
        ServicesViewController.addToCart_eq_some_iff.mp hadd
      have hconfirmed : screen.confirmed platform .didTapCartButton =
          [{ sheet, quantity := 1 }] := by
        simp [ServicesScreen.confirmed, hpresented, hbar]
      rw [hconfirmed]
      have hline : LineOf _ { sheet, quantity := 1 } { option, quantity := 1 } :=
        (hopened sheet hpresented).lineOf hoption fun _ => rfl
      have hcharged := haccounts.charged hline
      rw [CartLine.cost, one_mul] at hcharged
      exact ⟨rfl, hopened, fun h => absurd hnone h, ⟨_, hcharged⟩, rfl⟩
  | @didAnswer _ number alert sheet controller success hanswer hsome hpresented hadd =>
      rw [ServicesScreen.confirmed_of_answer hanswer hpresented]
      -- The alert is over a BAR sheet, so any number of units may be charged.
      obtain ⟨_, hsheet, hbar⟩ := halert (by simp [hsome])
      obtain rfl := Option.some.inj (hpresented.symm.trans hsheet)
      cases number with
      | none =>
          cases hadd
          simpa using ⟨rfl, hopened, fun h => absurd rfl h, ⟨cart, haccounts⟩, hshown⟩
      | some number =>
          obtain ⟨option, hoption, -, -, rfl, -⟩ :=
            ServicesViewController.barNumberOfPeople_some_eq_some_iff.mp hadd
          have hline : LineOf _ { sheet, quantity := number } { option, quantity := number } :=
            (hopened sheet hpresented).lineOf hoption fun h => absurd hbar h
          exact ⟨rfl, hopened, fun h => absurd rfl h, ⟨_, haccounts.charged hline⟩, rfl⟩
  | didTapCheckout hpresented habove =>
      simp only [ServicesScreen.confirmed, List.append_nil]
      exact ⟨rfl, hopened, halert, ⟨cart, haccounts⟩, hshown⟩
  | didTapBack habove =>
      simp only [ServicesScreen.confirmed, List.append_nil]
      exact ⟨rfl, hopened, halert, ⟨cart, haccounts⟩, hshown⟩

theorem cartInvariant_run {platform : Platform Image} {viewModel : ServicesViewModel Image}
    (hcatalogue : viewModel.Catalogued) {event : Event} {actions : List UserAction}
    {screen : ServicesScreen Image}
    (hrun : Machine.run (ServicesScreen.step platform) (ServicesScreen.loaded event viewModel)
      actions = some screen) :
    CartInvariant viewModel screen (Machine.outputs (ServicesScreen.step platform)
      (ServicesScreen.confirmed platform) (ServicesScreen.loaded event viewModel) actions) :=
  Machine.run_outputs_invariant (CartInvariant viewModel)
    (fun _ _ _ _ hinvariant hstep => cartInvariant_step hcatalogue hinvariant hstep)
    (cartInvariant_loaded event viewModel) hrun

/-! ## A screen from its opening on -/

/-- A screen in use, with what was confirmed on it: it is as it was opened, or it
shows a catalogue with the property, which it has loaded. -/
inductive ServicesScreen.Used (loads : ServicesViewModel Image → Prop)
    (screen : ServicesScreen Image) (confirmations : List Confirmation) : Prop
  | opened (hviewModel : screen.controller.viewModel = {})
      (hpresented : screen.presented = none) (halert : screen.alert = none)
      (hselected : screen.controller.selectedServices = [])
      (htotal : screen.controller.totalPrice = 0)
      (hshown : screen.controller.checkoutViewShown = false) (hnothing : confirmations = [])
  | loaded {viewModel} (hloads : loads viewModel) (hcatalogued : viewModel.Catalogued)
      (hinvariant : CartInvariant viewModel screen confirmations)
      (henabled : screen.controller.sectionButtonsEnabled = true)

namespace ServicesScreen

/-- No action of the user disables the section buttons again. -/
theorem sectionButtonsEnabled_of_step {platform : Platform Image}
    {screen next : ServicesScreen Image} {action : UserAction}
    (hstep : screen.step platform action = some next) :
    next.controller.sectionButtonsEnabled = screen.controller.sectionButtonsEnabled := by
  cases step_cases hstep with
  | didConfirm hpresented halert hbar hadd =>
      obtain ⟨option, -, -, rfl⟩ := ServicesViewController.addToCart_eq_some_iff.mp hadd
      rfl
  | @didAnswer _ number alert sheet controller success hanswer halert hpresented hadd =>
      cases number with
      | none =>
          cases hadd
          rfl
      | some number =>
          obtain ⟨option, -, -, -, rfl, -⟩ :=
            ServicesViewController.barNumberOfPeople_some_eq_some_iff.mp hadd
          rfl
  | _ => rfl

namespace Used

variable {loads : ServicesViewModel Image → Prop} {screen next : ServicesScreen Image}
  {confirmations : List Confirmation}

theorem begun (loads : ServicesViewModel Image → Prop) (event : Event) :
    Used loads { controller := ServicesViewController.opened event } [] :=
  .opened rfl rfl rfl rfl rfl rfl rfl

theorem mono {others : ServicesViewModel Image → Prop}
    (hothers : ∀ viewModel, loads viewModel → others viewModel)
    (hused : screen.Used loads confirmations) : screen.Used others confirmations := by
  cases hused with
  | opened hviewModel hpresented halert hselected htotal hshown hnothing =>
      exact .opened hviewModel hpresented halert hselected htotal hshown hnothing
  | loaded hloads hcatalogued hinvariant henabled =>
      exact .loaded (hothers _ hloads) hcatalogued hinvariant henabled

/-- What is pushed above the screen changes nothing on it. -/
theorem withAbove (hused : screen.Used loads confirmations) (above : List (PushedScreen Image)) :
    ({ screen with above } : ServicesScreen Image).Used loads confirmations := by
  cases hused with
  | opened hviewModel hpresented halert hselected htotal hshown hnothing =>
      exact .opened hviewModel hpresented halert hselected htotal hshown hnothing
  | loaded hloads hcatalogued hinvariant henabled =>
      exact .loaded hloads hcatalogued ⟨hinvariant.catalogue, hinvariant.opened, hinvariant.alert,
        hinvariant.accounts, hinvariant.shown⟩ henabled

theorem step {platform : Platform Image} {action : UserAction}
    (hused : screen.Used loads confirmations) (hstep : screen.step platform action = some next) :
    next.Used loads (confirmations ++ screen.confirmed platform action) := by
  cases hused with
  | loaded hloads hcatalogued hinvariant henabled =>
      refine .loaded hloads hcatalogued (cartInvariant_step hcatalogued hinvariant hstep) ?_
      rw [sectionButtonsEnabled_of_step hstep, henabled]
  | opened hviewModel hpresented halert hselected htotal hshown hnothing =>
      subst hnothing
      -- There is no row to select yet, and without a sheet nothing to confirm.
      cases step_cases hstep with
      | didSelectRow _ _ hoption _ =>
          rw [hviewModel] at hoption
          cases hoption
      | didDismissSheet hsheet _ => exact absurd (hsheet.symm.trans hpresented) (by simp)
      | didOpenAlert hsheet _ _ => exact absurd (hsheet.symm.trans hpresented) (by simp)
      | didConfirm hsheet _ _ _ => exact absurd (hsheet.symm.trans hpresented) (by simp)
      | didAnswer _ _ hsheet _ => exact absurd (hsheet.symm.trans hpresented) (by simp)
      | didTapCheckout _ _ => exact .opened hviewModel hpresented halert hselected htotal hshown rfl
      | didTapBack _ => exact .opened hviewModel hpresented halert hselected htotal hshown rfl

/-- The first load of the screen completes. -/
theorem loadAllData {platform : Platform Image} {call : Call} {viewModel : ServicesViewModel Image}
    (hused : screen.Used loads confirmations)
    (hfirst : screen.controller.sectionButtonsEnabled = false)
    (hcompletes : call.Completes platform screen.controller.viewModel viewModel)
    (hloads : call.Completes platform {} viewModel → loads viewModel) :
    ({ screen with controller := screen.controller.loadAllData viewModel } :
      ServicesScreen Image).Used loads confirmations := by
  cases hused with
  | loaded _ _ _ henabled => exact absurd (hfirst.symm.trans henabled) (by simp)
  | opened hviewModel hpresented halert hselected htotal hshown hnothing =>
      rw [hviewModel] at hcompletes
      have hcart : CartInvariant viewModel { screen with
          controller := screen.controller.loadAllData viewModel } [] := by
        refine ⟨rfl, ?_, fun hopen => absurd halert hopen, ⟨[], .nil, hselected, htotal⟩, ?_⟩
        · intro sheet hsheet
          rw [hpresented] at hsheet
          cases hsheet
        · simp [ServicesViewController.loadAllData, ServicesViewController.enableButtons, htotal,
            hshown]
      exact .loaded (hloads hcompletes) hcompletes.catalogued (hnothing ▸ hcart) rfl

/-- The two fields of the screen are those of the cart of what was confirmed. -/
theorem accounts (hused : screen.Used loads confirmations) :
    ∃ cart, Accounts screen.controller.viewModel screen.controller confirmations cart := by
  cases hused with
  | opened _ _ _ hselected htotal _ hnothing =>
      subst hnothing
      exact ⟨[], .nil, hselected, htotal⟩
  | loaded _ _ hinvariant _ =>
      rw [hinvariant.catalogue]
      exact hinvariant.accounts

end Used

end ServicesScreen

/-! ## What the alert reports -/

/-- What a step that answers the alert reports to the sheet: `true` with both
fields updated, `false` with neither. Other steps report nothing. -/
def Reports (platform : Platform Image) (screen : ServicesScreen Image) (action : UserAction)
    (next : ServicesScreen Image) : Prop :=
  match ServicesScreen.answer platform action with
  | none => next.completions = screen.completions
  | some none =>
      next.controller.selectedServices = screen.controller.selectedServices ∧
      next.controller.totalPrice = screen.controller.totalPrice ∧
      next.completions = screen.completions ++ [false]
  | some (some number) => ∃ sheet option,
      screen.presented = some sheet ∧
      screen.controller.viewModel.optionAt sheet.indexPath = some option ∧
      next.controller.selectedServices = screen.controller.selectedServices ++ [option] ∧
      next.controller.totalPrice = screen.controller.totalPrice + number * option.price ∧
      next.completions = screen.completions ++ [true]

theorem reports_of_step {platform : Platform Image} {screen next : ServicesScreen Image}
    {action : UserAction} (hstep : screen.step platform action = some next) :
    Reports platform screen action next := by
  cases ServicesScreen.step_cases hstep with
  | @didAnswer _ number alert sheet controller success hanswer hsome hpresented hadd =>
      unfold Reports
      rw [hanswer]
      cases number with
      | none =>
          cases hadd
          exact ⟨rfl, rfl, rfl⟩
      | some number =>
          obtain ⟨option, hoption, -, -, rfl, rfl⟩ :=
            ServicesViewController.barNumberOfPeople_some_eq_some_iff.mp hadd
          exact ⟨sheet, option, hpresented, hoption, rfl, rfl, rfl⟩
  | _ => rfl

/-- An alert can always be left without a number. -/
theorem exists_step_of_alert {platform : Platform Image} {screen : ServicesScreen Image}
    {sheet : DescriptionViewController} {action : UserAction}
    (hpresented : screen.presented = some sheet) (halert : screen.alert ≠ none)
    (hanswer : ServicesScreen.answer platform action = some none) :
    ∃ next, screen.step platform action = some next := by
  obtain ⟨alert, halert⟩ := Option.ne_none_iff_exists'.mp halert
  have hcompleted : ∃ next, screen.alertCompleted platform none = some next :=
    ⟨_, ServicesScreen.alertCompleted_eq_some_iff.mpr
      ⟨alert, sheet, _, _, halert, hpresented, rfl, rfl⟩⟩
  cases action with
  | didTapCancel => exact hcompleted
  | didTapOK text =>
      rw [ServicesScreen.answer, Option.some.injEq] at hanswer
      rw [ServicesScreen.step, hanswer]
      exact hcompleted
  | _ => cases hanswer

/-- At every point of every use of a screen after its load, the two fields are
those of the cart of the confirmed sheets, and the alert reports what was done. -/
theorem cart_accounting (platform : Platform Image) (call : Call)
    (viewModel : ServicesViewModel Image) (hload : call.Completes platform {} viewModel)
    (actions : List UserAction) (screen : ServicesScreen Image)
    (hrun : Machine.run (ServicesScreen.step platform) (ServicesScreen.loaded call.event viewModel)
      actions = some screen) :
    (∃ cart, Accounts viewModel screen.controller
      (Machine.outputs (ServicesScreen.step platform) (ServicesScreen.confirmed platform)
        (ServicesScreen.loaded call.event viewModel) actions) cart) ∧
    (∀ action next, screen.step platform action = some next →
      Reports platform screen action next) ∧
    (screen.alert ≠ none → ∀ action, ServicesScreen.answer platform action = some none →
      ∃ next, screen.step platform action = some next) := by
  have hinvariant := cartInvariant_run hload.catalogued hrun
  refine ⟨hinvariant.accounts, fun _ _ hstep => reports_of_step hstep, ?_⟩
  intro halert action hanswer
  obtain ⟨sheet, hpresented, -⟩ := hinvariant.alert halert
  exact exists_step_of_alert hpresented halert hanswer

/-- Opening a bar, a text that is no number, then twelve people; and a DJ. -/
def barAndDjActions : List UserAction :=
  [.didSelectRow ⟨0, 1⟩, .didTapCartButton, .didTapOK (some "x"), .didTapCartButton,
    .didTapOK (some "12"), .didDismissSheet, .didSelectRow ⟨0, 0⟩, .didTapCartButton,
    .didDismissSheet, .didTapCheckout, .didTapBack]

theorem cart_accounting_barAndDj :
    ∃ screen, Machine.run (ServicesScreen.step Platform.plain)
        (ServicesScreen.loaded .wedding fullCatalogue) barAndDjActions = some screen ∧
      screen.controller.totalPrice = 12 * 300 + 300 ∧
      ∃ cart, Accounts fullCatalogue screen.controller
        (Machine.outputs (ServicesScreen.step Platform.plain)
          (ServicesScreen.confirmed Platform.plain)
          (ServicesScreen.loaded .wedding fullCatalogue) barAndDjActions) cart :=
  ⟨_, rfl, rfl, (cart_accounting Platform.plain fullCatalogueCall fullCatalogue
    fullCatalogueCall_completes barAndDjActions _ rfl).1⟩

end FlyEvents
