import FlyEvents.App.RootScreen

/-! # The root screen agrees with the session

The screens refresh the root in the callbacks of their calls, and not where the
session changes. So the root follows the session as long as every callback that
has to refresh it finds its controller in the window. The results here say when
a callback has to, and what becomes of the root when one cannot.
-/

namespace FlyEvents

namespace AuthScene

/-- The root screen is the event chooser once all transitions have completed. -/
def headsForEvents (scene : AuthScene) : Bool :=
  (scene.transitions.getLast?.or scene.root).any RootScreen.isChooseEvent

/-- Without the callback at the index the root screen comes to fit the session:
nobody is signed in, the event chooser is on its way, or the callback of another
call that has signed a user in is still to run. -/
def FitsWithout (scene : AuthScene) (index : Nat) : Prop :=
  scene.currentUser = none ∨ scene.headsForEvents = true ∨
    ∃ call ∈ scene.calls.eraseIdx index, call.2.hasSignedIn = true

/-- A callback that ends a call by which a user was signed in finds its controller
in the window, and the document of a registered user was saved; or the callback
is not needed. -/
def Refreshes (scene : AuthScene) : AuthSceneAction → Prop
  | .delivered index =>
      match scene.calls[index]? with
      | some (controller, .signedIn none) =>
          scene.inWindow controller = true ∨ scene.FitsWithout index
      | some (controller, .dataSet none) =>
          scene.inWindow controller = true ∨ scene.FitsWithout index
      | some (_, .dataSet (some _)) => scene.FitsWithout index
      | _ => True
  | _ => True

instance (scene : AuthScene) (index : Nat) : Decidable (scene.FitsWithout index) :=
  inferInstanceAs (Decidable (_ ∨ _ ∨ _))

instance (scene : AuthScene) (action : AuthSceneAction) : Decidable (scene.Refreshes action) := by
  cases action with
  | delivered index =>
      unfold Refreshes
      dsimp only
      split <;> infer_instance
  | _ => exact .isTrue trivial

/-- Whoever is signed in, the event chooser is on its way or a callback is to
bring it; and it is on its way for nobody else. -/
structure Following (scene : AuthScene) : Prop where
  signedIn : scene.headsForEvents = true → scene.currentUser ≠ none
  brought : scene.currentUser ≠ none → scene.headsForEvents = true ∨
    ∃ call ∈ scene.calls, call.2.hasSignedIn = true

@[simp] theorem headsForEvents_checkAuthentication (scene : AuthScene) :
    scene.checkAuthentication.headsForEvents = scene.currentUser.isSome := by
  unfold checkAuthentication
  cases scene.currentUser <;>
    simp [headsForEvents, goToViewController, RootScreen.isChooseEvent]

/-- `checkAuthentication` puts the session and the root in agreement. -/
theorem following_checkAuthentication (scene : AuthScene) :
    scene.checkAuthentication.Following where
  signedIn hheads := by
    rw [headsForEvents_checkAuthentication] at hheads
    simpa [Option.isSome_iff_ne_none] using hheads
  brought hsome := by
    left
    rw [currentUser_checkAuthentication] at hsome
    simpa [Option.isSome_iff_ne_none] using hsome

/-- Where the calls and the session are as before, only the root matters. -/
theorem headsForEvents_congr {scene next : AuthScene}
    (htransitions : next.transitions = scene.transitions)
    (hroot : next.root.any RootScreen.isChooseEvent =
      scene.root.any RootScreen.isChooseEvent) :
    next.headsForEvents = scene.headsForEvents := by
  unfold headsForEvents
  rw [htransitions]
  cases scene.transitions.getLast? with
  | none => simpa using hroot
  | some viewController => rfl

theorem headsForEvents_transitionCompleted {scene : AuthScene} {viewController : RootScreen}
    {transitions : List RootScreen}
    (htransitions : scene.transitions = viewController :: transitions) :
    ({ scene with root := some viewController, transitions } : AuthScene).headsForEvents =
      scene.headsForEvents := by
  unfold headsForEvents
  rw [htransitions, List.getLast?_cons]
  cases transitions.getLast? <;> rfl

/-- An answer that signs a user in leaves a call that is to bring the chooser. -/
theorem hasSignedIn_answered {reply : AuthReply} {call answered : AuthCall} {user : String}
    (hanswered : call.answered reply = some answered)
    (huser : call.userSignedIn reply = some user) : answered.hasSignedIn = true := by
  obtain ⟨replied, error⟩ := reply
  cases call with
  | signIn request =>
      cases hanswered
      cases error with
      | none => rfl
      | some error => cases huser
  | createUser request =>
      cases hanswered
      cases error with
      | none =>
          cases huser
          rfl
      | some error => cases huser
  | _ => cases huser

/-- A call that has signed a user in has after the answer, too. -/
theorem hasSignedIn_answered_of {reply : AuthReply} {call answered : AuthCall}
    (hanswered : call.answered reply = some answered) (hsigned : call.hasSignedIn = true) :
    answered.hasSignedIn = true := by
  cases call with
  | setData userUID data =>
      cases hanswered
      rfl
  | dataSet error => cases hanswered
  | signedIn error => cases hanswered
  | userCreated request answer => cases hanswered
  | _ => cases hsigned

/-- A step that keeps the session, and where the root is heading, keeps following
it if a callback that is to bring the chooser stays. -/
theorem Following.kept {scene next : AuthScene} (hfollowing : scene.Following)
    (hheads : next.headsForEvents = scene.headsForEvents)
    (huser : next.currentUser = scene.currentUser)
    (hcalls : ∀ call ∈ scene.calls, call.2.hasSignedIn = true →
      ∃ kept ∈ next.calls, kept.2.hasSignedIn = true) : next.Following where
  signedIn := by
    rw [hheads, huser]
    exact hfollowing.signedIn
  brought := by
    rw [hheads, huser]
    intro hsome
    rcases hfollowing.brought hsome with hbrought | ⟨call, hmem, hsigned⟩
    · exact .inl hbrought
    · exact .inr (hcalls call hmem hsigned)

/-- What the end of a call under the condition leaves to the other calls. -/
theorem fitsWithout_of_ended {scene : AuthScene} {index controller : Nat} {call : AuthCall}
    (hrefreshes : scene.Refreshes (.delivered index))
    (hindex : scene.calls[index]? = some (controller, call))
    (hcovered : scene.inWindow controller = true → call ≠ .signedIn none ∧ call ≠ .dataSet none)
    (hended : call = .signedIn none ∨ ∃ error, call = .dataSet error) :
    scene.FitsWithout index := by
  rcases hended with rfl | ⟨error, rfl⟩
  · simp only [Refreshes, hindex] at hrefreshes
    exact hrefreshes.resolve_left fun hwindow => (hcovered hwindow).1 rfl
  · cases error with
    | some error => simpa only [Refreshes, hindex] using hrefreshes
    | none =>
        simp only [Refreshes, hindex] at hrefreshes
        exact hrefreshes.resolve_left fun hwindow => (hcovered hwindow).2 rfl

/-- One case for each kind of step. -/
theorem following_step {digits : DecimalDigits} {scene next : AuthScene}
    {action : AuthSceneAction} (hfollowing : scene.Following) (hrefreshes : scene.Refreshes action)
    (hstep : scene.step digits action = some next) : next.Following := by
  cases step_cases hstep with
  | tapped htap hroot hcalls hadded =>
      refine hfollowing.kept (headsForEvents_congr rfl hroot) rfl fun call hmem hsigned => ?_
      exact ⟨call, by simp [hcalls, hmem], hsigned⟩
  | loggedOut => exact following_checkAuthentication _
  | @answered index reply before controller call after answered hcalls hanswered =>
      cases huser : call.userSignedIn reply with
      | some user =>
          have hsigned := hasSignedIn_answered hanswered huser
          exact {
            signedIn := fun _ => by simp
            brought := fun _ => .inr ⟨(controller, answered), by simp, hsigned⟩ }
      | none =>
          refine hfollowing.kept rfl rfl fun other hmem hsigned => ?_
          rw [hcalls, List.mem_append, List.mem_cons] at hmem
          rcases hmem with hmem | rfl | hmem
          · exact ⟨other, by simp [hmem], hsigned⟩
          · exact ⟨(controller, answered), by simp, hasSignedIn_answered_of hanswered hsigned⟩
          · exact ⟨other, by simp [hmem], hsigned⟩
  | @continued index before controller request reply after userUID data hindex hcalls hcreated =>
      exact hfollowing.kept rfl rfl fun _ _ _ =>
        ⟨(controller, .setData userUID data), by simp, rfl⟩
  | refreshed => exact following_checkAuthentication _
  | @ended index before controller call after alerts hindex hcalls herase hcovered hfailed =>
      refine ⟨hfollowing.signedIn, fun hsome => ?_⟩
      by_cases hsigned : call.hasSignedIn = true
      · -- The call leaves without a refresh, so the session has to fit without it.
        rcases fitsWithout_of_ended hrefreshes hindex hcovered (hfailed hsigned) with
          hnone | hheads | hother
        · exact absurd hnone hsome
        · exact .inl hheads
        · rw [herase] at hother
          exact .inr hother
      · rcases hfollowing.brought hsome with hheads | ⟨other, hmem, hother⟩
        · exact .inl hheads
        · rw [hcalls, List.mem_append, List.mem_cons] at hmem
          rcases hmem with hmem | rfl | hmem
          · exact .inr ⟨other, by simp [hmem], hother⟩
          · exact absurd hother hsigned
          · exact .inr ⟨other, by simp [hmem], hother⟩
  | transitionCompleted htransitions =>
      exact hfollowing.kept (headsForEvents_transitionCompleted htransitions) rfl
        fun call hmem hsigned => ⟨call, hmem, hsigned⟩

/-- Once nothing is pending, a root that follows the session agrees with it. -/
theorem Following.agrees {scene : AuthScene} (hfollowing : scene.Following)
    (hquiet : scene.Quiet) : scene.Agrees := by
  obtain ⟨hcalls, htransitions⟩ := hquiet
  have hheads : scene.headsForEvents = scene.root.any RootScreen.isChooseEvent := by
    simp [headsForEvents, htransitions]
  unfold Agrees
  rw [← hheads]
  refine ⟨hfollowing.signedIn, fun hsome => ?_⟩
  rcases hfollowing.brought hsome with hbrought | ⟨call, hmem, -⟩
  · exact hbrought
  · simp [hcalls] at hmem

theorem following_run {digits : DecimalDigits} {currentUser : Option String}
    {actions : List AuthSceneAction} {scene : AuthScene}
    (halong : Machine.Along (step digits) Refreshes (connected currentUser) actions)
    (hrun : Machine.run (step digits) (connected currentUser) actions = some scene) :
    scene.Following :=
  Machine.run_invariant_of_along Following
    (fun _ _ _ hfollowing hrefreshes hstep => following_step hfollowing hrefreshes hstep)
    (following_checkAuthentication _) halong hrun

/-- In every run whose callbacks all refresh the root, or need not, the root is
the event chooser exactly if a user is signed in, whenever nothing is pending. -/
theorem root_agrees (digits : DecimalDigits) (currentUser : Option String)
    (actions : List AuthSceneAction) (scene : AuthScene)
    (halong : Machine.Along (step digits) Refreshes (connected currentUser) actions)
    (hrun : Machine.run (step digits) (connected currentUser) actions = some scene)
    (hquiet : scene.Quiet) : scene.Agrees :=
  (following_run halong hrun).agrees hquiet

def anasForm : LoginViewController where
  emailField := some "ana@fly.ro"
  passwordField := some "secret1"

def accepted : AuthReply := { user := some "uid", error := none }

/-- Signing in on the login screen, and waiting for the root. -/
def signingIn : List AuthSceneAction :=
  [.transitionCompleted, .didTapSignIn anasForm, .answered 0 accepted, .delivered 0,
    .transitionCompleted]

theorem root_agrees_signingIn :
    ∃ scene, Machine.run (step arabicIndicDigits) (connected none) signingIn = some scene ∧
      scene.Quiet ∧ scene.currentUser = some "uid" ∧ scene.Agrees := by
  have hmap : (Machine.run (step arabicIndicDigits) (connected none) signingIn).map (fun scene =>
      (scene.calls.length, scene.transitions, scene.currentUser)) = some (0, [], some "uid") := by
    decide +kernel
  obtain ⟨scene, hrun, heq⟩ := Option.map_eq_some_iff.mp hmap
  simp only [Prod.mk.injEq, List.length_eq_zero_iff] at heq
  obtain ⟨hcalls, htransitions, huser⟩ := heq
  exact ⟨scene, hrun, ⟨hcalls, htransitions⟩, huser,
    root_agrees arabicIndicDigits none signingIn scene (by decide +kernel) hrun
      ⟨hcalls, htransitions⟩⟩

/-- The registration screen is opened before the answer to the sign-in. -/
def coveredLogin : List AuthSceneAction :=
  [.transitionCompleted, .didTapSignIn anasForm, .didTapNewUser, .answered 0 accepted,
    .delivered 0]

/-- The user is signed in, and the login stays the root. -/
theorem coveredLogin_disagrees :
    ∃ scene, Machine.run (step arabicIndicDigits) (connected none) coveredLogin = some scene ∧
      scene.Quiet ∧ scene.currentUser = some "uid" ∧ ¬ scene.Agrees := by
  have hmap : (Machine.run (step arabicIndicDigits) (connected none) coveredLogin).map
      (fun scene => (scene.calls.length, scene.transitions, scene.currentUser,
        scene.root.any RootScreen.isChooseEvent)) = some (0, [], some "uid", false) := by
    decide +kernel
  obtain ⟨scene, hrun, heq⟩ := Option.map_eq_some_iff.mp hmap
  simp only [Prod.mk.injEq, List.length_eq_zero_iff] at heq
  obtain ⟨hcalls, htransitions, huser, hroot⟩ := heq
  refine ⟨scene, hrun, ⟨hcalls, htransitions⟩, huser, fun hagrees => ?_⟩
  rw [Agrees, hroot, huser] at hagrees
  exact absurd (hagrees.mpr (by simp)) (by simp)

/-! ## What a missing refresh leads to -/

/-- A user is signed in, and nothing is to bring the event chooser. -/
structure Stranded (scene : AuthScene) : Prop where
  signedIn : scene.currentUser ≠ none
  heads : scene.headsForEvents = false
  calls : ∀ call ∈ scene.calls, call.2.hasSignedIn = false

theorem refreshes_of_isTap {scene : AuthScene} {action : AuthSceneAction}
    (htap : action.isTap = true) : scene.Refreshes action := by
  cases action with
  | delivered index => cases htap
  | _ => trivial

theorem refreshes_of_fitsWithout {scene : AuthScene} {index : Nat}
    (hfits : scene.FitsWithout index) : scene.Refreshes (.delivered index) := by
  simp only [Refreshes]
  split
  next => exact .inr hfits
  next => exact .inr hfits
  next => exact hfits
  next => trivial

/-- A callback without the condition strands the user. -/
theorem stranded_of_not_refreshes {digits : DecimalDigits} {scene next : AuthScene}
    {action : AuthSceneAction} (hnot : ¬ scene.Refreshes action)
    (hstep : scene.step digits action = some next) : next.Stranded := by
  cases step_cases hstep with
  | tapped htap hroot hcalls hadded => exact absurd (refreshes_of_isTap htap) hnot
  | loggedOut => exact absurd trivial hnot
  | answered hcalls hanswered => exact absurd trivial hnot
  | continued hindex hcalls hcreated => exact absurd (by simp [Refreshes, hindex]) hnot
  | refreshed hindex hcalls hwindow hsucceeded =>
      refine absurd ?_ hnot
      rcases hsucceeded with rfl | rfl <;> simp [Refreshes, hindex, hwindow]
  | ended hindex hcalls herase hcovered hfailed =>
      have hwithout := mt refreshes_of_fitsWithout hnot
      simp only [FitsWithout, not_or, not_exists, not_and, Bool.not_eq_true, herase] at hwithout
      exact ⟨hwithout.1, hwithout.2.1, hwithout.2.2⟩
  | transitionCompleted htransitions => exact absurd trivial hnot

/-- A stranded user stays so when the callback of the first call runs. -/
theorem Stranded.exists_delivered (digits : DecimalDigits) {scene : AuthScene} {controller : Nat}
    {call : AuthCall} {rest : List (Nat × AuthCall)} (hstranded : scene.Stranded)
    (hcalls : scene.calls = (controller, call) :: rest)
    (hdeliver : ∃ next, scene.deliver 0 controller call = some next) :
    ∃ next, scene.step digits (.delivered 0) = some next ∧ next.Stranded ∧ next.calls = rest := by
  obtain ⟨next, hdeliver⟩ := hdeliver
  have hfirst : scene.calls[0]? = some (controller, call) := by simp [hcalls]
  have hunsigned := hstranded.calls (controller, call) (by simp [hcalls])
  refine ⟨next, by simp [step, hfirst, hdeliver], ?_⟩
  cases stepped_deliver hfirst hdeliver with
  | tapped htap => cases htap
  | continued hindex _ hcreated =>
      rw [hfirst] at hindex
      cases hindex
      simp [AuthCall.hasSignedIn, hcreated, Except.isOk, Except.toBool] at hunsigned
  | refreshed hindex _ _ hsucceeded =>
      rw [hfirst] at hindex
      cases hindex
      rcases hsucceeded with rfl | rfl <;> cases hunsigned
  | ended _ _ herase =>
      rw [hcalls, List.eraseIdx_cons_zero] at herase
      subst herase
      refine ⟨⟨hstranded.signedIn, hstranded.heads, fun other hmem => ?_⟩, rfl⟩
      exact hstranded.calls other (by simp [hcalls, hmem])

/-- The backend refuses. -/
def refusal : AuthReply := { user := none, error := some { localizedDescription := "" } }

/-- A stranded user stays so when the first call is refused. -/
theorem Stranded.exists_refused (digits : DecimalDigits) {scene : AuthScene} {controller : Nat}
    {call answered : AuthCall} {rest : List (Nat × AuthCall)} (hstranded : scene.Stranded)
    (hcalls : scene.calls = (controller, call) :: rest)
    (hanswered : call.answered refusal = some answered) (hrefused : answered.hasSignedIn = false) :
    ∃ next, scene.step digits (.answered 0 refusal) = some next ∧ next.Stranded ∧
      next.calls = (controller, answered) :: rest := by
  have hnobody : call.userSignedIn refusal = none := by cases call <;> rfl
  refine ⟨{ scene with calls := (controller, answered) :: rest }, ?_, ?_, rfl⟩
  · simp [step, hcalls, hanswered, hnobody]
  · refine ⟨hstranded.signedIn, hstranded.heads, fun other hmem => ?_⟩
    rcases List.mem_cons.mp hmem with rfl | hmem
    · exact hrefused
    · exact hstranded.calls other (by simp [hcalls, hmem])

/-- A call that the backend has answered can be delivered. -/
theorem exists_deliver {call : AuthCall} (hanswered : call.answered refusal = none)
    (scene : AuthScene) (index controller : Nat) :
    ∃ next, scene.deliver index controller call = some next := by
  cases call with
  | signedIn error => exact ⟨_, rfl⟩
  | userCreated request reply =>
      simp only [deliver]
      cases request.userCreated reply <;> exact ⟨_, rfl⟩
  | dataSet error => exact ⟨_, rfl⟩
  | passwordResetSent error => exact ⟨_, rfl⟩
  | _ => cases hanswered

/-- A refused call has signed no one in, and is answered. -/
theorem answered_of_refused {call answered : AuthCall}
    (hanswered : call.answered refusal = some answered) (hunsigned : call.hasSignedIn = false) :
    answered.hasSignedIn = false ∧ answered.answered refusal = none := by
  cases call with
  | signIn request =>
      cases hanswered
      exact ⟨rfl, rfl⟩
  | createUser request =>
      cases hanswered
      exact ⟨rfl, rfl⟩
  | setData userUID data => cases hunsigned
  | sendPasswordReset email =>
      cases hanswered
      exact ⟨rfl, rfl⟩
  | _ => cases hanswered

/-- The first call of a stranded user can end without a refresh. -/
theorem Stranded.exists_ended (digits : DecimalDigits) {scene : AuthScene} {controller : Nat}
    {call : AuthCall} {rest : List (Nat × AuthCall)} (hstranded : scene.Stranded)
    (hcalls : scene.calls = (controller, call) :: rest) :
    ∃ actions next, Machine.run (step digits) scene actions = some next ∧ next.Stranded ∧
      next.calls = rest := by
  cases hanswered : call.answered refusal with
  | none =>
      obtain ⟨next, hstep, hnext⟩ := hstranded.exists_delivered digits hcalls
        (exists_deliver hanswered scene 0 controller)
      exact ⟨[.delivered 0], next, by simpa using hstep, hnext⟩
  | some answered =>
      have hunsigned := hstranded.calls (controller, call) (by simp [hcalls])
      obtain ⟨hrefused, hdone⟩ := answered_of_refused hanswered hunsigned
      obtain ⟨middle, hmiddle, hmiddleStranded, hmiddleCalls⟩ :=
        hstranded.exists_refused digits hcalls hanswered hrefused
      obtain ⟨next, hstep, hnext⟩ := hmiddleStranded.exists_delivered digits
        hmiddleCalls (exists_deliver hdone middle 0 controller)
      refine ⟨[.answered 0 refusal, .delivered 0], next, ?_, hnext⟩
      exact Machine.run_cons_eq_some_iff.mpr ⟨middle, hmiddle, by simpa using hstep⟩

theorem Stranded.exists_calls_nil (digits : DecimalDigits) {scene : AuthScene}
    (hstranded : scene.Stranded) :
    ∃ actions next, Machine.run (step digits) scene actions = some next ∧ next.Stranded ∧
      next.calls = [] := by
  induction hcalls : scene.calls generalizing scene with
  | nil => exact ⟨[], scene, rfl, hstranded, hcalls⟩
  | cons first rest ih =>
      obtain ⟨ending, middle, hending, hmiddle, hrest⟩ := hstranded.exists_ended digits hcalls
      obtain ⟨actions, next, hactions, hnext⟩ := ih hmiddle hrest
      exact ⟨ending ++ actions, next,
        Machine.run_append_eq_some_iff.mpr ⟨middle, hending, hactions⟩, hnext⟩

theorem Stranded.exists_quiet (digits : DecimalDigits) {scene : AuthScene}
    (hstranded : scene.Stranded) (hcalls : scene.calls = []) :
    ∃ actions next, Machine.run (step digits) scene actions = some next ∧ next.Stranded ∧
      next.Quiet := by
  induction htransitions : scene.transitions generalizing scene with
  | nil => exact ⟨[], scene, rfl, hstranded, hcalls, htransitions⟩
  | cons viewController transitions ih =>
      let middle : AuthScene := { scene with root := some viewController, transitions }
      have hmiddle : middle.Stranded := by
        refine ⟨hstranded.signedIn, ?_, hstranded.calls⟩
        rw [headsForEvents_transitionCompleted htransitions]
        exact hstranded.heads
      obtain ⟨actions, next, hactions, hnext⟩ := ih hmiddle hcalls rfl
      refine ⟨.transitionCompleted :: actions, next, ?_, hnext⟩
      refine Machine.run_cons_eq_some_iff.mpr ⟨middle, ?_, hactions⟩
      simp [step, htransitions, middle]

/-- The condition is no more than what is needed: a callback that does not meet it
can be followed by a quiet scene in which the root and the session disagree. -/
theorem exists_disagreement {digits : DecimalDigits} {scene next : AuthScene}
    {action : AuthSceneAction} (hnot : ¬ scene.Refreshes action)
    (hstep : scene.step digits action = some next) :
    ∃ actions finish, Machine.run (step digits) next actions = some finish ∧ finish.Quiet ∧
      ¬ finish.Agrees := by
  have hstranded := stranded_of_not_refreshes hnot hstep
  obtain ⟨ending, middle, hending, hmiddle, hcalls⟩ := hstranded.exists_calls_nil digits
  obtain ⟨actions, finish, hactions, hfinish, hquiet⟩ := hmiddle.exists_quiet digits hcalls
  refine ⟨ending ++ actions, finish,
    Machine.run_append_eq_some_iff.mpr ⟨middle, hending, hactions⟩, hquiet, fun hagrees => ?_⟩
  have hchooser := hagrees.mpr hfinish.signedIn
  have hheads := hfinish.heads
  simp [headsForEvents, hquiet.2, hchooser] at hheads

end AuthScene

end FlyEvents
