import FlyEvents.Foundation.Machine
import FlyEvents.ViewControllers.ServicesViewController

/-! # A catalogue screen in use

The catalogue screen with the sheet presented over it, the alert over the
sheet, and the screens pushed above it. A step is one action of the user; a
step that traps ends the process and is not offered. A sheet stays until it is
dismissed, by a gesture or by the animation that a confirmation starts, and
taps on its cart button are delivered until then.
-/

namespace FlyEvents

variable {Image : Type}

structure ServicesScreen (Image : Type) where
  controller : ServicesViewController Image
  presented : Option DescriptionViewController := none
  alert : Option TextFieldAlert := none
  above : List (PushedScreen Image) := []
  /-- What the `addToCart` closure of the BAR sheet called its completion with. -/
  completions : List Bool := []

inductive UserAction
  | didSelectRow (indexPath : IndexPath)
  | didDismissSheet
  | didTapCartButton
  | didTapCancel
  | didTapOK (text : Option String)
  | didTapCheckout
  | didTapBack

/-- A confirmed sheet, and how many units of its option are charged. -/
structure Confirmation where
  sheet : DescriptionViewController
  quantity : Int
  deriving DecidableEq

namespace ServicesScreen

/-- An action of the alert calls its completion with the number, if any. -/
def alertCompleted (platform : Platform Image) (screen : ServicesScreen Image)
    (number : Option Int) : Option (ServicesScreen Image) := do
  let _ ← screen.alert
  let sheet ← screen.presented
  let (controller, success) ← screen.controller.barNumberOfPeople platform sheet.indexPath number
  return { screen with controller, alert := none, completions := screen.completions ++ [success] }

/-- One action of the user. Only rows that exist can be selected; the sheet is
modal over the screen, and the alert over the sheet. -/
def step (platform : Platform Image) (screen : ServicesScreen Image) :
    UserAction → Option (ServicesScreen Image)
  | .didSelectRow indexPath =>
      match screen.presented, screen.above, screen.controller.viewModel.optionAt indexPath with
      | none, [], some _ => do
          let presented ← screen.controller.didSelectRowAt indexPath
          return { screen with presented }
      | _, _, _ => none
  | .didDismissSheet =>
      match screen.presented, screen.alert with
      | some _, none => some { screen with presented := none }
      | _, _ => none
  | .didTapCartButton =>
      match screen.presented, screen.alert with
      | some sheet, none =>
          -- The closure of the BAR sheet charges nothing until the alert is answered.
          if sheet.service = .bar then
            some { screen with alert := some barNumberOfPeopleAlert }
          else do
            let controller ← screen.controller.addToCart platform sheet.indexPath
            return { screen with controller }
      | _, _ => none
  | .didTapCancel => screen.alertCompleted platform cancelHandler
  | .didTapOK text => screen.alertCompleted platform (okHandler platform text)
  | .didTapCheckout =>
      match screen.presented, screen.above with
      | none, [] => some { screen with above := [.checkout screen.controller.didTapCheckout] }
      | _, _ => none
  | .didTapBack =>
      match screen.above with
      | .checkout _ :: below => some { screen with above := below }
      | _ => none

/-- The sheet that an action confirms. The cart button of the BAR sheet only
opens the alert; the number entered there is the quantity. -/
def confirmed (platform : Platform Image) (screen : ServicesScreen Image) :
    UserAction → List Confirmation
  | .didTapCartButton =>
      match screen.presented with
      | some sheet => if sheet.service = .bar then [] else [{ sheet, quantity := 1 }]
      | none => []
  | .didTapOK text =>
      match screen.presented, okHandler platform text with
      | some sheet, some quantity => [{ sheet, quantity }]
      | _, _ => []
  | _ => []

/-- What the action calls the completion of the alert with. -/
def answer (platform : Platform Image) : UserAction → Option (Option Int)
  | .didTapCancel => some cancelHandler
  | .didTapOK text => some (okHandler platform text)
  | _ => none

/-- What a step can do, with all that it checks. -/
inductive Stepped (platform : Platform Image) (screen : ServicesScreen Image) :
    UserAction → ServicesScreen Image → Prop
  | didSelectRow {indexPath option presented} (hpresented : screen.presented = none)
      (habove : screen.above = [])
      (hoption : screen.controller.viewModel.optionAt indexPath = some option)
      (hselect : screen.controller.didSelectRowAt indexPath = some presented) :
      Stepped platform screen (.didSelectRow indexPath) { screen with presented }
  | didDismissSheet {sheet} (hpresented : screen.presented = some sheet)
      (halert : screen.alert = none) :
      Stepped platform screen .didDismissSheet { screen with presented := none }
  | didOpenAlert {sheet} (hpresented : screen.presented = some sheet)
      (halert : screen.alert = none) (hbar : sheet.service = .bar) :
      Stepped platform screen .didTapCartButton
        { screen with alert := some barNumberOfPeopleAlert }
  | didConfirm {sheet controller} (hpresented : screen.presented = some sheet)
      (halert : screen.alert = none) (hbar : sheet.service ≠ .bar)
      (hadd : screen.controller.addToCart platform sheet.indexPath = some controller) :
      Stepped platform screen .didTapCartButton { screen with controller }
  | didAnswer {action number alert sheet controller success}
      (hanswer : answer platform action = some number) (halert : screen.alert = some alert)
      (hpresented : screen.presented = some sheet)
      (hadd : screen.controller.barNumberOfPeople platform sheet.indexPath number =
        some (controller, success)) :
      Stepped platform screen action
        { screen with controller, alert := none, completions := screen.completions ++ [success] }
  | didTapCheckout (hpresented : screen.presented = none) (habove : screen.above = []) :
      Stepped platform screen .didTapCheckout
        { screen with above := [.checkout screen.controller.didTapCheckout] }
  | didTapBack {checkout below} (habove : screen.above = .checkout checkout :: below) :
      Stepped platform screen .didTapBack { screen with above := below }

/-- An answer of the alert confirms the sheet under it if it is a number. -/
theorem confirmed_of_answer {platform : Platform Image} {screen : ServicesScreen Image}
    {action : UserAction} {number : Option Int} {sheet : DescriptionViewController}
    (hanswer : answer platform action = some number)
    (hpresented : screen.presented = some sheet) :
    screen.confirmed platform action =
      (number.map fun quantity => { sheet, quantity : Confirmation }).toList := by
  cases action with
  | didTapCancel =>
      cases hanswer
      rfl
  | didTapOK text =>
      obtain rfl := Option.some.inj hanswer
      simp only [confirmed, hpresented]
      cases okHandler platform text <;> rfl
  | _ => cases hanswer

theorem alertCompleted_eq_some_iff {platform : Platform Image}
    {screen next : ServicesScreen Image} {number : Option Int} :
    screen.alertCompleted platform number = some next ↔
      ∃ alert sheet controller success, screen.alert = some alert ∧
        screen.presented = some sheet ∧
        screen.controller.barNumberOfPeople platform sheet.indexPath number =
          some (controller, success) ∧
        { screen with
          controller, alert := none, completions := screen.completions ++ [success] } = next := by
  unfold alertCompleted
  simp only [Option.bind_eq_bind, Option.bind_eq_some_iff, Option.pure_def, Option.some.injEq]
  constructor
  · rintro ⟨alert, halert, sheet, hsheet, ⟨controller, success⟩, hadd, rfl⟩
    exact ⟨alert, sheet, controller, success, halert, hsheet, hadd, rfl⟩
  · rintro ⟨alert, sheet, controller, success, halert, hsheet, hadd, rfl⟩
    exact ⟨alert, halert, sheet, hsheet, (controller, success), hadd, rfl⟩

theorem step_cases {platform : Platform Image} {screen next : ServicesScreen Image}
    {action : UserAction} (hstep : screen.step platform action = some next) :
    Stepped platform screen action next := by
  have hanswered : ∀ number, answer platform action = some number →
      screen.alertCompleted platform number = some next → Stepped platform screen action next := by
    intro number hanswer hcompleted
    obtain ⟨alert, sheet, controller, success, halert, hsheet, hadd, rfl⟩ :=
      alertCompleted_eq_some_iff.mp hcompleted
    exact .didAnswer hanswer halert hsheet hadd
  cases action with
  | didSelectRow indexPath =>
      simp only [step] at hstep
      split at hstep
      next option hpresented habove hoption =>
        obtain ⟨presented, hselect, hnext⟩ := Option.bind_eq_some_iff.mp hstep
        cases hnext
        exact .didSelectRow hpresented habove hoption hselect
      next => cases hstep
  | didDismissSheet =>
      simp only [step] at hstep
      split at hstep
      next sheet hpresented halert =>
        cases hstep
        exact .didDismissSheet hpresented halert
      next => cases hstep
  | didTapCartButton =>
      simp only [step] at hstep
      split at hstep
      next sheet hpresented halert =>
        split at hstep
        next hbar =>
          cases hstep
          exact .didOpenAlert hpresented halert hbar
        next hother =>
          obtain ⟨controller, hadd, hnext⟩ := Option.bind_eq_some_iff.mp hstep
          cases hnext
          exact .didConfirm hpresented halert hother hadd
      next => cases hstep
  | didTapCancel => exact hanswered _ rfl hstep
  | didTapOK text => exact hanswered _ rfl hstep
  | didTapCheckout =>
      simp only [step] at hstep
      split at hstep
      next hpresented habove =>
        cases hstep
        exact .didTapCheckout hpresented habove
      next => cases hstep
  | didTapBack =>
      simp only [step] at hstep
      split at hstep
      next habove =>
        cases hstep
        exact .didTapBack habove
      next => cases hstep

/-- The screen for an event after the completion of its load. -/
def loaded (event : Event) (viewModel : ServicesViewModel Image) : ServicesScreen Image where
  controller := (ServicesViewController.opened event).loadAllData viewModel

end ServicesScreen

end FlyEvents
