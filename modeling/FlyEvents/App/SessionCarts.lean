import FlyEvents.App.Session
import FlyEvents.Foundation.View
import FlyEvents.ViewControllers.CartAccounting

/-! # The carts of a session

The catalogue screens of a session form a stack, and the user acts on the one on
top. What is confirmed on a screen is confirmed while it is on top, from the tap
that opened it on. Its two fields are those of the cart of these confirmations,
whatever was opened above it, and closed again, in between.
-/

namespace FlyEvents

variable {Image : Type}

namespace App

/-- What the action confirms on the screen that has so many below it. -/
def confirmedAbove (platform : Platform Image) (below : Nat) (app : App Image) :
    AppAction → List Confirmation
  | .user action =>
      match app.screens with
      | screen :: rest => if rest.length = below then screen.confirmed platform action else []
      | [] => []
  | _ => []

/-- The screen that has so many below it was opened in the run and has been there
since, and this was confirmed on it. -/
def OpenedIn (platform : Platform Image) (start : App Image) (actions : List AppAction)
    (below : Nat) (confirmations : List Confirmation) : Prop :=
  ∃ before event since opened, actions = before ++ .didTapEvent event :: since ∧
    Machine.run (App.step platform) start (before ++ [.didTapEvent event]) = some opened ∧
    opened.screens.length = below + 1 ∧
    Machine.Along (App.step platform) (fun app _ => below < app.screens.length) opened since ∧
    confirmations =
      Machine.outputs (App.step platform) (confirmedAbove platform below) opened since

variable {platform : Platform Image} {start app next : App Image} {actions : List AppAction}
  {action : AppAction}

theorem OpenedIn.concat {below : Nat} {confirmations : List Confirmation}
    (hopened : OpenedIn platform start actions below confirmations)
    (hrun : Machine.run (App.step platform) start actions = some app)
    (hbelow : below < app.screens.length) (action : AppAction) :
    OpenedIn platform start (actions ++ [action]) below
      (confirmations ++ app.confirmedAbove platform below action) := by
  obtain ⟨before, event, since, opened, rfl, hopening, hlength, halong, rfl⟩ := hopened
  rw [List.append_cons] at hrun
  obtain ⟨middle, hmiddle, hsince⟩ := Machine.run_append_eq_some_iff.mp hrun
  obtain rfl := Option.some.inj (hopening.symm.trans hmiddle)
  refine ⟨before, event, since ++ [action], opened, by simp, hopening, hlength, ?_, ?_⟩
  · exact (Machine.along_append_iff hsince _).mpr ⟨halong, hbelow, fun _ _ => trivial⟩
  · exact (Machine.outputs_concat hsince action).symm

/-- Every catalogue screen was opened in the run, and has the cart of what was
confirmed on it. -/
def CartsKept (platform : Platform Image) (start : App Image) (actions : List AppAction)
    (app : App Image) : Prop :=
  ∀ above screen below, app.screens = above ++ screen :: below →
    ∃ confirmations, OpenedIn platform start actions below.length confirmations ∧
      screen.Used (fun _ => True) confirmations

namespace CartsKept

variable {above below before after : List (ServicesScreen Image)}
  {screen old new : ServicesScreen Image}

theorem concat (hkept : CartsKept platform start actions app)
    (hrun : Machine.run (App.step platform) start actions = some app)
    (hscreens : app.screens = above ++ screen :: below) (action : AppAction) :
    ∃ confirmations, OpenedIn platform start (actions ++ [action]) below.length
        (confirmations ++ app.confirmedAbove platform below.length action) ∧
      screen.Used (fun _ => True) confirmations := by
  obtain ⟨confirmations, hopened, hused⟩ := hkept above screen below hscreens
  exact ⟨confirmations, hopened.concat hrun (by simp [hscreens]; omega) action, hused⟩

/-- A screen on which nothing is confirmed keeps its cart. -/
theorem concat_of_silent (hkept : CartsKept platform start actions app)
    (hrun : Machine.run (App.step platform) start actions = some app)
    (hscreens : app.screens = above ++ screen :: below)
    (hsilent : app.confirmedAbove platform below.length action = []) :
    ∃ confirmations, OpenedIn platform start (actions ++ [action]) below.length confirmations ∧
      screen.Used (fun _ => True) confirmations := by
  obtain ⟨confirmations, hopened, hused⟩ := hkept.concat hrun hscreens action
  rw [hsilent, List.append_nil] at hopened
  exact ⟨confirmations, hopened, hused⟩

/-- So do all, where one is changed and its cart is not. -/
theorem concat_of_replaced (hkept : CartsKept platform start actions app)
    (hrun : Machine.run (App.step platform) start actions = some app)
    (hscreens : app.screens = before ++ old :: after)
    (hsilent : ∀ below, app.confirmedAbove platform below action = [])
    (hused : ∀ confirmations, old.Used (fun _ => True) confirmations →
      new.Used (fun _ => True) confirmations)
    (hsplit : before ++ new :: after = above ++ screen :: below) :
    ∃ confirmations, OpenedIn platform start (actions ++ [action]) below.length confirmations ∧
      screen.Used (fun _ => True) confirmations := by
  rcases Machine.exists_split_of_replaced old hsplit with ⟨rfl, rfl⟩ |
    ⟨front, back, hfront, hlength, -⟩
  · obtain ⟨confirmations, hopened, hold⟩ := hkept.concat_of_silent hrun hscreens (hsilent _)
    exact ⟨confirmations, hopened, hused confirmations hold⟩
  · rw [← hlength]
    exact hkept.concat_of_silent hrun (hscreens.trans hfront) (hsilent _)

end CartsKept

/-- One case for each step that opens, changes or takes away a screen. -/
theorem cartsKept_step (hrun : Machine.run (App.step platform) start actions = some app)
    (hkept : CartsKept platform start actions app) (hstep : app.step platform action = some next) :
    CartsKept platform start (actions ++ [action]) next := by
  cases step_cases hstep with
  | @didTapEvent event =>
      intro above screen below hsplit
      cases above with
      | nil =>
          obtain ⟨rfl, rfl⟩ := List.cons.inj hsplit
          have hopening : Machine.run (App.step platform) start (actions ++ [.didTapEvent event]) =
              some _ := Machine.run_append_eq_some_iff.mpr
            ⟨app, hrun, (Machine.run_singleton _ app _).trans hstep⟩
          exact ⟨[], ⟨actions, event, [], _, rfl, hopening, rfl, trivial, rfl⟩, .begun _ event⟩
      | cons first above => exact hkept.concat_of_silent hrun (List.cons.inj hsplit).2 rfl
  | catalogueLoaded hscreens hfirst hcompletes =>
      intro above screen below hsplit
      exact hkept.concat_of_replaced hrun hscreens (fun _ => rfl)
        (fun _ hused => hused.loadAllData hfirst hcompletes fun _ => trivial) hsplit
  | @user action used rest next hscreens hused =>
      intro above screen below hsplit
      have hscreens : app.screens = [] ++ used :: rest := hscreens
      have hsplit : [] ++ next :: rest = above ++ screen :: below := hsplit
      rcases Machine.exists_split_of_replaced used hsplit with ⟨rfl, rfl⟩ |
        ⟨front, back, hfront, hlength, hother⟩
      · obtain ⟨confirmations, hopened, hbefore⟩ := hkept.concat hrun hscreens (.user action)
        have hconfirmed : app.confirmedAbove platform rest.length (.user action) =
            used.confirmed platform action := by simp [confirmedAbove, hscreens]
        exact ⟨_, hopened, hconfirmed ▸ hbefore.step hused⟩
      · -- Nothing is confirmed on a screen below the one on top.
        rw [← hlength] at hother ⊢
        refine hkept.concat_of_silent hrun (hscreens.trans hfront) ?_
        simp [confirmedAbove, hscreens, Ne.symm hother]
  | @didTapSubmitOrder top rest checkout hscreens hcheckout =>
      intro above screen below hsplit
      have hscreens : app.screens = [] ++ top :: rest := hscreens
      exact hkept.concat_of_replaced hrun hscreens (fun _ => rfl)
        (fun _ hused => hused.withAbove _) hsplit
  | @orderProcessedAppeared top rest under hscreens habove =>
      intro above screen below hsplit
      have hscreens : app.screens = [] ++ top :: rest := hscreens
      exact hkept.concat_of_replaced hrun hscreens (fun _ => rfl)
        (fun _ hused => hused.withAbove _) hsplit
  | @popped action screens hsuffix haction =>
      intro above screen below hsplit
      have hsplit : screens = above ++ screen :: below := hsplit
      obtain ⟨taken, htaken⟩ := hsuffix
      have hscreens : app.screens = (taken ++ above) ++ screen :: below := by
        rw [← htaken, hsplit, List.append_assoc]
      refine hkept.concat_of_silent hrun hscreens ?_
      rcases haction with rfl | rfl | rfl <;> rfl
  | _ => exact fun above screen below hsplit => hkept.concat_of_silent hrun hsplit rfl

theorem cartsKept_run (hstart : start.screens = [])
    (hrun : Machine.run (App.step platform) start actions = some app) :
    CartsKept platform start actions app := by
  refine Machine.run_trace_invariant (CartsKept platform start)
    (fun _ _ _ _ htaken hkept hstep => cartsKept_step htaken hkept hstep) ?_ hrun
  intro above screen below hsplit
  simp [hstart] at hsplit

end App

end FlyEvents
