import FlyEvents.App.Session
import Mathlib.Data.List.Range
import Mathlib.Data.List.Perm.Subperm

/-! # When the success screen is right

The screen "Order Sent Successfully!" is pushed at the tap, before anything is
known of the order. A tap is live while its order is stored or can still be
added. Every tap is live at first if a user is signed in, and a tap stops being
live only by a read that gives no document or by a write that fails.
-/

namespace FlyEvents

variable {Image : Type}

/-- The request can still add an order. -/
def Request.live : Request Image → Bool
  | .getDocument _ => true
  | .documentRead submission reply => (submission.documentFetched reply).isSome
  | .addDocument _ => true
  | .documentAdded _ => false

/-- The taps of the requests that can still add an order. -/
def liveTags (pending : List (Nat × Request Image)) : List Nat :=
  (pending.filter fun request => request.2.live).map Prod.fst

@[simp] theorem liveTags_append (first second : List (Nat × Request Image)) :
    liveTags (first ++ second) = liveTags first ++ liveTags second := by
  simp [liveTags]

theorem liveTags_cons_live {tag : Nat} {request : Request Image}
    (hlive : request.live = true) (rest : List (Nat × Request Image)) :
    liveTags ((tag, request) :: rest) = tag :: liveTags rest := by
  simp [liveTags, hlive]

theorem liveTags_cons_dead {tag : Nat} {request : Request Image}
    (hdead : request.live = false) (rest : List (Nat × Request Image)) :
    liveTags ((tag, request) :: rest) = liveTags rest := by
  simp [liveTags, hdead]

namespace App

/-- The taps whose order is stored or can still be added. -/
def liveTaps (app : App Image) : List Nat := app.orders.map Prod.fst ++ liveTags app.pending

/-- No tap for which the success screen was pushed is without a stored order. -/
def Truthful (app : App Image) : Prop :=
  ∀ tag ∈ app.processed, ∃ order, (tag, order) ∈ app.orders

/-- The step loses no order: a user is signed in at a tap on Submit, the
document of the user exists when it is read, and no request fails. -/
def LosesNothing (app : App Image) : AppAction → Prop
  | .didTapSubmitOrder => app.currentUser.isSome
  | .served index error =>
      match app.pending[index]? with
      | some (_, .getDocument submission) =>
          error = none ∧ (app.users submission.userUID).isSome
      | some (_, .addDocument _) => error = none
      | _ => True
  | _ => True

/-- How a step changes the live taps: a tap on Submit makes its own number live
if a user is signed in, and an answer of the backend can end one. -/
inductive LiveStep (app : App Image) (action : AppAction) (next : App Image) : Prop
  | kept (hallowed : app.LosesNothing action) (hsubmits : next.submits = app.submits)
      (hprocessed : next.processed = app.processed)
      (hlive : next.liveTaps.Perm app.liveTaps)
  | lost {tag : Nat} (hforbidden : ¬ app.LosesNothing action)
      (hsubmits : next.submits = app.submits) (hprocessed : next.processed = app.processed)
      (hlive : app.liveTaps.Perm (tag :: next.liveTaps))
  | tapped (hallowed : app.LosesNothing action) (hsubmits : next.submits = app.submits + 1)
      (hprocessed : next.processed = app.processed ++ [app.submits])
      (hlive : next.liveTaps.Perm (app.submits :: app.liveTaps))
  | dropped (hforbidden : ¬ app.LosesNothing action) (hsubmits : next.submits = app.submits + 1)
      (hprocessed : next.processed = app.processed ++ [app.submits])
      (hlive : next.liveTaps.Perm app.liveTaps)

/-- A live request that is answered with a live one keeps its tap live. -/
theorem liveTaps_perm_of_live {app : App Image} {tag : Nat} {request answered : Request Image}
    {before after : List (Nat × Request Image)}
    (hpending : app.pending = before ++ (tag, request) :: after) (hlive : request.live = true)
    (hanswered : answered.live = true) :
    (app.orders.map Prod.fst ++ liveTags (before ++ (tag, answered) :: after)).Perm
      app.liveTaps := by
  rw [liveTaps, hpending, liveTags_append, liveTags_append, liveTags_cons_live hlive,
    liveTags_cons_live hanswered]

/-- A live request that is answered with a dead one ends its tap. -/
theorem liveTaps_perm_of_dead {app : App Image} {tag : Nat} {request answered : Request Image}
    {before after : List (Nat × Request Image)}
    (hpending : app.pending = before ++ (tag, request) :: after) (hlive : request.live = true)
    (hanswered : answered.live = false) :
    app.liveTaps.Perm
      (tag :: (app.orders.map Prod.fst ++ liveTags (before ++ (tag, answered) :: after))) := by
  rw [liveTaps, hpending, liveTags_append, liveTags_append, liveTags_cons_live hlive,
    liveTags_cons_dead hanswered, ← List.append_assoc, ← List.append_assoc]
  exact List.perm_middle

/-- An answer of the backend, by the request and its outcome. -/
theorem liveStep_served {app : App Image} {index tag : Nat} {error : Option BackendError}
    {request answered : Request Image} {before after : List (Nat × Request Image)}
    {orders : List (Nat × OrderData)} (hindex : app.pending[index]? = some (tag, request))
    (hpending : app.pending = before ++ (tag, request) :: after)
    (hserve : app.serve tag error request = some (answered, orders)) :
    LiveStep app (.served index error)
      { app with pending := before ++ (tag, answered) :: after, orders } := by
  cases request with
  | getDocument submission =>
      cases error with
      | none =>
          cases hserve
          cases hdata : app.users submission.userUID with
          | none =>
              exact .lost (by simp [LosesNothing, hindex, hdata]) rfl rfl
                (liveTaps_perm_of_dead hpending rfl
                  (by simp [Request.live, Submission.documentFetched]))
          | some data =>
              exact .kept (by simp [LosesNothing, hindex, hdata]) rfl rfl
                (liveTaps_perm_of_live hpending rfl
                  (by simp [Request.live, Submission.documentFetched]))
      | some error =>
          cases hserve
          exact .lost (by simp [LosesNothing, hindex]) rfl rfl
            (liveTaps_perm_of_dead hpending rfl rfl)
  | addDocument order =>
      cases error with
      | none =>
          cases hserve
          refine .kept (by simp [LosesNothing, hindex]) rfl rfl ?_
          -- The tap goes from the live requests to the orders.
          have hmoved := liveTaps_perm_of_dead hpending rfl
            (rfl : (Request.documentAdded none : Request Image).live = false)
          rw [liveTaps, List.map_append, List.append_assoc]
          exact List.perm_middle.trans hmoved.symm
      | some error =>
          cases hserve
          exact .lost (by simp [LosesNothing, hindex]) rfl rfl
            (liveTaps_perm_of_dead hpending rfl rfl)
  | documentRead submission reply => cases hserve
  | documentAdded error => cases hserve

/-- A callback neither makes a tap live nor ends one: what it goes on to request
is what made its own request live. -/
theorem liveTags_delivered {tag : Nat} {request : Request Image}
    {following : Option (Request Image)} (hdeliver : deliver request = some following) :
    liveTags (following.map fun request => (tag, request)).toList =
      liveTags [(tag, request)] := by
  cases request with
  | getDocument submission => cases hdeliver
  | documentRead submission reply =>
      cases hdeliver
      cases hfetched : submission.documentFetched reply with
      | none => simp [liveTags, Request.live, hfetched]
      | some order => simp [liveTags, Request.live, hfetched]
  | addDocument order => cases hdeliver
  | documentAdded error =>
      cases hdeliver
      rfl

theorem liveStep {platform : Platform Image} {app next : App Image} {action : AppAction}
    (hstep : app.step platform action = some next) : LiveStep app action next := by
  cases step_cases hstep with
  | @didTapSubmitOrder screen below checkout hscreens hcheckout =>
      cases huser : app.currentUser with
      | none =>
          -- The guard of `submitOrder` fails: nothing is requested for this tap.
          refine .dropped (by simp [LosesNothing, huser]) rfl rfl ?_
          simp [liveTaps, submitOrder]
      | some user =>
          refine .tapped (by simp [LosesNothing, huser]) rfl rfl ?_
          have hrequest : liveTags [(app.submits, Request.getDocument
              (Submission.mk user checkout.selectedServices checkout.totalPrice))] =
              [app.submits] := rfl
          simp only [liveTaps, submitOrder, Option.map_some, Option.toList_some,
            liveTags_append, hrequest]
          rw [← List.append_assoc]
          exact List.perm_append_singleton _ _
  | served hindex hpending hserve => exact liveStep_served hindex hpending hserve
  | @delivered index before tag request after following hpending hdeliver =>
      refine .kept trivial rfl rfl ?_
      rw [liveTaps, liveTaps, hpending, ← List.singleton_append]
      simp only [liveTags_append, liveTags_delivered hdeliver]
      exact .refl _
  | popped hsuffix haction =>
      rcases haction with rfl | rfl | rfl <;> exact .kept trivial rfl rfl (.refl _)
  | _ => exact .kept trivial rfl rfl (.refl _)

/-- Every tap is reported, in the order of the taps; the live ones are among
them, none twice. -/
structure TapsInvariant (app : App Image) : Prop where
  processed : app.processed = List.range app.submits
  nodup : app.liveTaps.Nodup
  bound : ∀ tag ∈ app.liveTaps, tag < app.submits

theorem tapsInvariant_launched (currentUser : Option String)
    (users : String → Option DocumentData) :
    TapsInvariant (launched currentUser users : App Image) where
  processed := rfl
  nodup := List.nodup_nil
  bound _ hmem := nomatch hmem

theorem TapsInvariant.subperm {app : App Image} (hinvariant : TapsInvariant app) :
    app.liveTaps.Subperm (List.range app.submits) :=
  List.subperm_of_subset hinvariant.nodup fun tag hmem =>
    List.mem_range.mpr (hinvariant.bound tag hmem)

theorem TapsInvariant.length_le {app : App Image} (hinvariant : TapsInvariant app) :
    app.liveTaps.length ≤ app.submits := by
  simpa using hinvariant.subperm.length_le

theorem TapsInvariant.step {app next : App Image} {action : AppAction}
    (hinvariant : TapsInvariant app) (hstep : LiveStep app action next) :
    TapsInvariant next := by
  obtain ⟨hprocessed, hnodup, hbound⟩ := hinvariant
  cases hstep with
  | kept _ hsubmits hkept hlive =>
      refine ⟨by rw [hkept, hsubmits, hprocessed], hlive.nodup_iff.mpr hnodup, fun tag hmem => ?_⟩
      rw [hsubmits]
      exact hbound tag (hlive.mem_iff.mp hmem)
  | lost _ hsubmits hkept hlive =>
      have hcons := hlive.nodup_iff.mp hnodup
      refine ⟨by rw [hkept, hsubmits, hprocessed], (List.nodup_cons.mp hcons).2, fun tag hmem => ?_⟩
      rw [hsubmits]
      exact hbound tag (hlive.mem_iff.mpr (List.mem_cons_of_mem _ hmem))
  | tapped _ hsubmits hadded hlive =>
      have hfresh : app.submits ∉ app.liveTaps := fun hmem => absurd (hbound _ hmem) (by omega)
      refine ⟨by rw [hadded, hsubmits, hprocessed, List.range_succ],
        hlive.nodup_iff.mpr (List.nodup_cons.mpr ⟨hfresh, hnodup⟩), fun tag hmem => ?_⟩
      rw [hsubmits]
      rcases List.mem_cons.mp (hlive.mem_iff.mp hmem) with rfl | hmem
      · omega
      · have := hbound tag hmem
        omega
  | dropped _ hsubmits hadded hlive =>
      refine ⟨by rw [hadded, hsubmits, hprocessed, List.range_succ],
        hlive.nodup_iff.mpr hnodup, fun tag hmem => ?_⟩
      have := hbound tag (hlive.mem_iff.mp hmem)
      omega

theorem tapsInvariant_run {platform : Platform Image} {start app : App Image}
    {actions : List AppAction} (hstart : TapsInvariant start)
    (hrun : Machine.run (App.step platform) start actions = some app) : TapsInvariant app :=
  Machine.run_invariant TapsInvariant
    (fun _ _ _ hinvariant hstep => hinvariant.step (liveStep hstep)) hstart hrun

/-- When no request is under way, the success screens are right exactly if
every tap is live. -/
theorem TapsInvariant.truthful_iff {app : App Image} (hinvariant : TapsInvariant app)
    (hquiet : app.pending = []) : app.Truthful ↔ app.liveTaps.length = app.submits := by
  have hstored : ∀ tag, tag ∈ app.liveTaps ↔ ∃ order, (tag, order) ∈ app.orders := by
    intro tag
    simp [liveTaps, hquiet, liveTags]
  unfold Truthful
  simp only [hinvariant.processed, List.mem_range, ← hstored]
  constructor
  · intro hall
    have hsubperm : (List.range app.submits).Subperm app.liveTaps :=
      List.subperm_of_subset List.nodup_range fun tag hmem => hall tag (List.mem_range.mp hmem)
    have hle := hsubperm.length_le
    rw [List.length_range] at hle
    exact le_antisymm hinvariant.length_le hle
  · intro hlength tag htag
    have hperm := hinvariant.subperm.perm_of_length_le (by simp [hlength])
    exact hperm.mem_iff.mpr (List.mem_range.mpr htag)

/-- Steps that lose nothing keep every tap live. -/
theorem LiveStep.length_eq {app next : App Image} {action : AppAction}
    (hstep : LiveStep app action next) (hallowed : app.LosesNothing action)
    (hlength : app.liveTaps.length = app.submits) : next.liveTaps.length = next.submits := by
  cases hstep with
  | kept _ hsubmits _ hlive => rw [hlive.length_eq, hsubmits, hlength]
  | lost hforbidden => exact absurd hallowed hforbidden
  | tapped _ hsubmits _ hlive => rw [hlive.length_eq, hsubmits, List.length_cons, hlength]
  | dropped hforbidden => exact absurd hallowed hforbidden

/-- A tap that is no longer live never becomes live again. -/
theorem LiveStep.length_lt {app next : App Image} {action : AppAction}
    (hstep : LiveStep app action next) (hlength : app.liveTaps.length < app.submits) :
    next.liveTaps.length < next.submits := by
  cases hstep with
  | kept _ hsubmits _ hlive =>
      have := hlive.length_eq
      omega
  | lost _ hsubmits _ hlive =>
      have := hlive.length_eq
      rw [List.length_cons] at this
      omega
  | tapped _ hsubmits _ hlive =>
      have := hlive.length_eq
      rw [List.length_cons] at this
      omega
  | dropped _ hsubmits _ hlive =>
      have := hlive.length_eq
      omega

/-- A step that loses something ends a live tap, or drops a new one. -/
theorem LiveStep.length_lt_of_not {app next : App Image} {action : AppAction}
    (hstep : LiveStep app action next) (hforbidden : ¬ app.LosesNothing action)
    (hlength : app.liveTaps.length ≤ app.submits) :
    next.liveTaps.length < next.submits := by
  cases hstep with
  | kept hallowed => exact absurd hallowed hforbidden
  | lost _ hsubmits _ hlive =>
      have := hlive.length_eq
      rw [List.length_cons] at this
      omega
  | tapped hallowed => exact absurd hallowed hforbidden
  | dropped _ hsubmits _ hlive =>
      have := hlive.length_eq
      omega

end App

/-- In every run from the launch of the app to a state in which no callback is
outstanding, every success screen was right if and only if no step of the run
lost an order. -/
theorem success_truthful_iff (platform : Platform Image) (currentUser : Option String)
    (users : String → Option DocumentData) (actions : List AppAction) (app : App Image)
    (hrun : Machine.run (App.step platform) (App.launched currentUser users) actions = some app)
    (hquiet : app.pending = []) :
    app.Truthful ↔
      Machine.Along (App.step platform) App.LosesNothing (App.launched currentUser users)
        actions := by
  have hlaunched : App.TapsInvariant (App.launched currentUser users : App Image) :=
    App.tapsInvariant_launched currentUser users
  rw [(App.tapsInvariant_run hlaunched hrun).truthful_iff hquiet]
  constructor
  · intro hlength
    by_contra hnot
    obtain ⟨before, action, after, state, next, -, hbefore, hforbidden, hstep, hafter⟩ :=
      Machine.exists_forbidden_of_not_along hrun hnot
    have hless := (App.liveStep hstep).length_lt_of_not hforbidden
      (App.tapsInvariant_run hlaunched hbefore).length_le
    have hfinal := Machine.run_invariant
      (fun state : App Image => state.liveTaps.length < state.submits)
      (fun _ _ _ hlength hstep => (App.liveStep hstep).length_lt hlength) hless hafter
    omega
  · intro halong
    exact Machine.run_invariant_of_along
      (fun state : App Image => state.liveTaps.length = state.submits)
      (fun _ _ _ hlength hallowed hstep => (App.liveStep hstep).length_eq hallowed hlength)
      rfl halong hrun

theorem success_truthful_iff_ordering :
    ∃ app, Machine.run (App.step Platform.plain)
        (App.launched (some "uid") fun _ => some fun _ => none)
        (orderingActions ++ [.served 0 none, .delivered 0]) = some app ∧
      Machine.Along (App.step Platform.plain) App.LosesNothing
        (App.launched (some "uid") fun _ => some fun _ => none)
        (orderingActions ++ [.served 0 none, .delivered 0]) := by
  have hmap : (Machine.run (App.step Platform.plain)
      (App.launched (some "uid") fun _ => some fun _ => none)
      (orderingActions ++ [.served 0 none, .delivered 0])).map (fun app =>
        (app.pending.length, app.processed, app.orders.map Prod.fst)) = some (0, [0], [0]) := by
    decide +kernel
  obtain ⟨app, hrun, heq⟩ := Option.map_eq_some_iff.mp hmap
  simp only [Prod.mk.injEq, List.length_eq_zero_iff] at heq
  obtain ⟨hquiet, hprocessed, horders⟩ := heq
  refine ⟨app, hrun, (success_truthful_iff Platform.plain _ _ _ app hrun hquiet).mp ?_⟩
  intro tag htag
  rw [hprocessed, ← horders] at htag
  simpa using htag

/-- A user without a document in the users collection, as a half-finished
registration leaves one: the success screen is shown, and no order stored. -/
theorem missingDocument_reported :
    ∃ app, Machine.run (App.step Platform.plain) (App.launched (some "uid") fun _ => none)
        orderingActions = some app ∧
      app.pending = [] ∧ app.processed = [0] ∧ app.orders = [] ∧ ¬ app.Truthful := by
  have hmap : (Machine.run (App.step Platform.plain) (App.launched (some "uid") fun _ => none)
      orderingActions).map (fun app => (app.pending.length, app.processed, app.orders)) =
        some (0, [0], []) := by
    decide +kernel
  obtain ⟨app, hrun, heq⟩ := Option.map_eq_some_iff.mp hmap
  simp only [Prod.mk.injEq, List.length_eq_zero_iff] at heq
  obtain ⟨hquiet, hprocessed, horders⟩ := heq
  refine ⟨app, hrun, hquiet, hprocessed, horders, fun htruthful => ?_⟩
  obtain ⟨order, hstored⟩ := htruthful 0 (by simp [hprocessed])
  simp [horders] at hstored

end FlyEvents
