import FlyEvents.ViewControllers.CartAccounting

/-! # Arithmetic of the cart

The total is the sum of amounts that depend on prices from the backend and on a
number typed by the user, in an `Int` that traps when a result does not fit.
`NeverTraps` asks the screen to turn such entries down; the results below say
along which uses it does.
-/

namespace FlyEvents

variable {Image : Type}

namespace ServicesScreen

/-- The screen lets the user take the action, whatever becomes of it. -/
def offers (screen : ServicesScreen Image) : UserAction → Bool
  | .didSelectRow indexPath =>
      screen.presented.isNone && screen.above.isEmpty &&
        (screen.controller.viewModel.optionAt indexPath).isSome
  | .didDismissSheet => screen.presented.isSome && screen.alert.isNone
  | .didTapCartButton => screen.presented.isSome && screen.alert.isNone
  | .didTapCancel => screen.alert.isSome && screen.presented.isSome
  | .didTapOK _ => screen.alert.isSome && screen.presented.isSome
  | .didTapCheckout => screen.presented.isNone && screen.above.isEmpty
  | .didTapBack =>
      match screen.above with
      | .checkout _ :: _ => true
      | _ => false

end ServicesScreen

/-- The amount of the confirmation, and the total with it, are values of `Int`.
Only a BAR sheet computes the amount, as a product of its own. -/
def AmountFits (platform : Platform Image) (screen : ServicesScreen Image)
    (confirmation : Confirmation) : Prop :=
  ∀ option, screen.controller.viewModel.optionAt confirmation.sheet.indexPath = some option →
    (confirmation.sheet.service = .bar →
      platform.fits (confirmation.quantity * option.price) = true) ∧
    platform.fits (screen.controller.totalPrice + confirmation.quantity * option.price) = true

/-- Whatever the action confirms fits. -/
def AmountsFit (platform : Platform Image) (screen : ServicesScreen Image)
    (action : UserAction) : Prop :=
  ∀ confirmation ∈ screen.confirmed platform action, AmountFits platform screen confirmation

/-- The step does not trap, and an entry that does not fit is reported as a
failure and leaves the cart as it was. -/
def Handled (platform : Platform Image) (screen : ServicesScreen Image)
    (action : UserAction) : Prop :=
  ∃ next, screen.step platform action = some next ∧
    (¬ AmountsFit platform screen action →
      next.completions = screen.completions ++ [false] ∧
      next.controller.selectedServices = screen.controller.selectedServices ∧
      next.controller.totalPrice = screen.controller.totalPrice)

/-- Every action that the screen offers on the way is handled. -/
def NeverTraps (platform : Platform Image) (start : ServicesScreen Image)
    (actions : List UserAction) : Prop :=
  Machine.Along (ServicesScreen.step platform)
    (fun screen action => screen.offers action = true → Handled platform screen action)
    start actions

/-- A step that confirms something fits: otherwise it would trap. -/
theorem amountsFit_of_step {platform : Platform Image} {screen next : ServicesScreen Image}
    {action : UserAction} (hstep : screen.step platform action = some next) :
    AmountsFit platform screen action := by
  intro confirmation hmem
  cases ServicesScreen.step_cases hstep with
  | @didOpenAlert sheet hpresented halert hbar =>
      simp [ServicesScreen.confirmed, hpresented, hbar] at hmem
  | @didConfirm sheet controller hpresented halert hbar hadd =>
      obtain ⟨charged, hcharged, hfits, -⟩ := ServicesViewController.addToCart_eq_some_iff.mp hadd
      simp only [ServicesScreen.confirmed, hpresented, hbar, if_false,
        List.mem_singleton] at hmem
      subst hmem
      intro option hoption
      obtain rfl := Option.some.inj (hcharged.symm.trans hoption)
      exact ⟨fun h => absurd h hbar, by rwa [one_mul]⟩
  | @didAnswer _ number alert sheet controller success hanswer halert hpresented hadd =>
      rw [ServicesScreen.confirmed_of_answer hanswer hpresented] at hmem
      obtain ⟨quantity, rfl, rfl⟩ : ∃ quantity, number = some quantity ∧
          { sheet, quantity } = confirmation := by
        simpa using hmem
      obtain ⟨charged, hcharged, hproduct, hsum, -, -⟩ :=
        ServicesViewController.barNumberOfPeople_some_eq_some_iff.mp hadd
      intro option hoption
      obtain rfl := Option.some.inj (hcharged.symm.trans hoption)
      exact ⟨fun _ => hproduct, hsum⟩
  | _ => cases hmem

/-- An answer of the alert whose amount fits does not trap. -/
theorem exists_step_of_answer {platform : Platform Image} {screen : ServicesScreen Image}
    {action : UserAction} {number : Option Int} {alert : TextFieldAlert}
    {sheet : DescriptionViewController} {option : ServiceOptionModel Image}
    (hanswer : ServicesScreen.answer platform action = some number)
    (halert : screen.alert = some alert) (hpresented : screen.presented = some sheet)
    (hoption : screen.controller.viewModel.optionAt sheet.indexPath = some option)
    (hbar : sheet.service = .bar) (hfits : AmountsFit platform screen action) :
    ∃ next, screen.alertCompleted platform number = some next := by
  have hcompleted : ∃ controller success, screen.controller.barNumberOfPeople platform
      sheet.indexPath number = some (controller, success) := by
    cases number with
    | none => exact ⟨_, _, rfl⟩
    | some quantity =>
        obtain ⟨hproduct, hsum⟩ := hfits { sheet, quantity }
          (by simp [ServicesScreen.confirmed_of_answer hanswer hpresented]) option hoption
        exact ⟨_, _, ServicesViewController.barNumberOfPeople_some_eq_some_iff.mpr
          ⟨option, hoption, hproduct hbar, hsum, rfl, rfl⟩⟩
  obtain ⟨controller, success, hadd⟩ := hcompleted
  exact ⟨_, ServicesScreen.alertCompleted_eq_some_iff.mpr
    ⟨alert, sheet, controller, success, halert, hpresented, hadd, rfl⟩⟩

/-- An offered action whose amounts fit does not trap. -/
theorem exists_step_of_amountsFit {platform : Platform Image} {screen : ServicesScreen Image}
    {confirmations : List Confirmation} {viewModel : ServicesViewModel Image}
    (hcatalogue : viewModel.Catalogued)
    (hinvariant : CartInvariant viewModel screen confirmations) {action : UserAction}
    (hoffers : screen.offers action = true) (hfits : AmountsFit platform screen action) :
    ∃ next, screen.step platform action = some next := by
  obtain ⟨rfl, hopened, hbars, -, -⟩ := hinvariant
  -- The alert is over a BAR sheet, which was opened for an option.
  have hanswered : ∀ number, ServicesScreen.answer platform action = some number →
      (screen.alert.isSome && screen.presented.isSome) = true →
      ∃ next, screen.alertCompleted platform number = some next := by
    intro number hanswer hshown
    rw [Bool.and_eq_true] at hshown
    obtain ⟨alert, halert⟩ := Option.isSome_iff_exists.mp hshown.1
    obtain ⟨sheet, hpresented, hbar⟩ := hbars (by simp [halert])
    obtain ⟨option, hoption, -⟩ := hopened sheet hpresented
    exact exists_step_of_answer hanswer halert hpresented hoption hbar hfits
  cases action with
  | didSelectRow indexPath =>
      simp only [ServicesScreen.offers, Bool.and_eq_true, Option.isNone_iff_eq_none,
        List.isEmpty_iff] at hoffers
      obtain ⟨⟨hpresented, habove⟩, hsome⟩ := hoffers
      obtain ⟨option, hoption⟩ := Option.isSome_iff_exists.mp hsome
      obtain ⟨service, hsection, -⟩ := hcatalogue.exists_service hoption
      simp [ServicesScreen.step, hpresented, habove, hoption,
        ServicesViewController.didSelectRowAt_eq _ hsection]
  | didDismissSheet =>
      simp only [ServicesScreen.offers, Bool.and_eq_true, Option.isNone_iff_eq_none] at hoffers
      obtain ⟨sheet, hpresented⟩ := Option.isSome_iff_exists.mp hoffers.1
      simp [ServicesScreen.step, hpresented, hoffers.2]
  | didTapCartButton =>
      simp only [ServicesScreen.offers, Bool.and_eq_true, Option.isNone_iff_eq_none] at hoffers
      obtain ⟨sheet, hpresented⟩ := Option.isSome_iff_exists.mp hoffers.1
      by_cases hbar : sheet.service = .bar
      · simp [ServicesScreen.step, hpresented, hoffers.2, hbar]
      · obtain ⟨option, hoption, -⟩ := hopened sheet hpresented
        obtain ⟨-, hsum⟩ := hfits { sheet, quantity := 1 }
          (by simp [ServicesScreen.confirmed, hpresented, hbar]) option hoption
        rw [one_mul] at hsum
        have hadd := ServicesViewController.addToCart_eq_some_iff.mpr ⟨option, hoption, hsum, rfl⟩
        simp [ServicesScreen.step, hpresented, hoffers.2, hbar, hadd]
  | didTapCancel => exact hanswered _ rfl hoffers
  | didTapOK text => exact hanswered _ rfl hoffers
  | didTapCheckout =>
      simp only [ServicesScreen.offers, Bool.and_eq_true, Option.isNone_iff_eq_none,
        List.isEmpty_iff] at hoffers
      simp [ServicesScreen.step, hoffers.1, hoffers.2]
  | didTapBack =>
      simp only [ServicesScreen.offers] at hoffers
      split at hoffers
      next checkout below habove =>
        refine ⟨{ screen with above := below }, ?_⟩
        simp only [ServicesScreen.step, habove]
      next => cases hoffers

/-- A use of a loaded screen never traps exactly when all amounts of the
confirmations on its way, and the totals with them, are values of `Int`. -/
theorem neverTraps_iff (platform : Platform Image) (call : Call)
    (viewModel : ServicesViewModel Image) (hload : call.Completes platform {} viewModel)
    (actions : List UserAction) :
    NeverTraps platform (ServicesScreen.loaded call.event viewModel) actions ↔
      Machine.Along (ServicesScreen.step platform)
        (fun screen action => screen.offers action = true → AmountsFit platform screen action)
        (ServicesScreen.loaded call.event viewModel) actions := by
  refine Machine.along_congr (fun screen => ∃ confirmations,
    CartInvariant viewModel screen confirmations) ?_ ?_ ⟨[], cartInvariant_loaded _ _⟩ actions
  · rintro screen action next ⟨confirmations, hinvariant⟩ hstep
    exact ⟨_, cartInvariant_step hload.catalogued hinvariant hstep⟩
  · rintro screen action ⟨confirmations, hinvariant⟩
    refine imp_congr_right fun hoffers => ?_
    constructor
    · rintro ⟨next, hstep, -⟩
      exact amountsFit_of_step hstep
    · intro hfits
      obtain ⟨next, hstep⟩ :=
        exists_step_of_amountsFit hload.catalogued hinvariant hoffers hfits
      exact ⟨next, hstep, fun hnot => absurd hfits hnot⟩

/-- A bar for twelve people. -/
def barForTwelve : List UserAction :=
  [.didSelectRow ⟨0, 1⟩, .didTapCartButton, .didTapOK (some "12")]

theorem barForTwelve_neverTraps :
    NeverTraps Platform.plain (ServicesScreen.loaded .wedding fullCatalogue) barForTwelve := by
  refine (neverTraps_iff Platform.plain fullCatalogueCall fullCatalogue
    fullCatalogueCall_completes barForTwelve).mpr ?_
  refine And.intro (fun _ _ hmem => nomatch hmem) fun _ hselect => ?_
  cases hselect
  refine And.intro (fun _ _ hmem => nomatch hmem) fun _ hopen => ?_
  cases hopen
  refine And.intro (fun _ confirmation hmem option hoption => ?_) fun _ _ => trivial
  obtain rfl : confirmation = _ := List.mem_singleton.mp hmem
  cases hoption
  exact ⟨fun _ => rfl, rfl⟩

/-- A head count that `Int` holds, and its product with the price does not. -/
def greatestHeadCount : List UserAction :=
  [.didSelectRow ⟨0, 1⟩, .didTapCartButton, .didTapOK (some "9223372036854775807")]

/-- The use traps in its last action, which the screen offers. -/
theorem greatestHeadCount_traps :
    (∃ screen, Machine.run (ServicesScreen.step Platform.plain)
        (ServicesScreen.loaded .wedding fullCatalogue) (greatestHeadCount.take 2) = some screen ∧
      screen.offers (.didTapOK (some "9223372036854775807")) = true ∧
      okHandler Platform.plain (some "9223372036854775807") = some 9223372036854775807 ∧
      screen.step Platform.plain (.didTapOK (some "9223372036854775807")) = none) ∧
    ¬ NeverTraps Platform.plain (ServicesScreen.loaded .wedding fullCatalogue)
      greatestHeadCount := by
  refine ⟨⟨_, rfl, rfl, rfl, rfl⟩, fun hnever => ?_⟩
  obtain ⟨next, hstep, -⟩ := ((hnever.2 _ rfl).2 _ rfl).1 rfl
  cases hstep

end FlyEvents
