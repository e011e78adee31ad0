import FlyEvents.App.Registration

/-! # When a registration is all or nothing

An account without a document can come into being at two points only: the
write of the document fails, or the app is killed while it is under way. No
later step gives such an account its document, because a retry creates another
account or fails.
-/

namespace FlyEvents

namespace AuthSession

/-- A registration that completed with `false` has changed nothing; and unless
one is in progress, every account that a registration created has a document
with the data of its request. -/
structure AllOrNothing (session : AuthSession) : Prop where
  unchanged : ∀ completed ∈ session.completed, completed.result.wasRegistered = false →
    completed.after = completed.before
  saved : session.inProgress = none → ∀ uid request, (uid, request) ∈ session.created →
    ∃ data, session.backend.users uid = some data ∧
      data "fullname" = some request.fullname ∧
      data "phoneNumber" = some request.phoneNumber ∧
      data "email" = some request.email

/-- The step does not separate the two writes: the write of a document does not
fail, and the app is not killed before it is done. -/
def KeepsWritesTogether (session : AuthSession) : AuthAction → Prop
  | .setDataAnswered error => error = none
  | .killed => ∀ request before userUID data,
      session.inProgress ≠ some { request, before, stage := .saving userUID data }
  | _ => True

/-- The accounts that registrations created exist, each for one request; the
document under way is that of one of them. -/
structure CreatedInvariant (session : AuthSession) : Prop where
  accounts : ∀ uid request, (uid, request) ∈ session.created →
    { uid, email := request.email } ∈ session.backend.accounts
  unique : ∀ uid first second, (uid, first) ∈ session.created →
    (uid, second) ∈ session.created → first = second
  saving : ∀ request before uid data,
    session.inProgress = some { request, before, stage := .saving uid data } →
    (uid, request) ∈ session.created ∧ data = request.userData

theorem createdInvariant_step {session next : AuthSession} {action : AuthAction}
    (hinvariant : CreatedInvariant session) (hstep : session.step action = some next) :
    CreatedInvariant next := by
  obtain ⟨haccounts, hunique, hsaving⟩ := hinvariant
  cases step_cases hstep with
  | registerUser hidle => exact ⟨haccounts, hunique, fun _ _ _ _ h => (by cases h)⟩
  | refused hcreating hresult => exact ⟨haccounts, hunique, fun _ _ _ _ h => (by cases h)⟩
  | @created reply request before uid hcreating hfresh =>
      have hunused : ∀ other, (uid, other) ∉ session.created := by
        intro other hmem
        exact hfresh _ (haccounts uid other hmem) rfl
      refine ⟨fun other earlier hmem => ?_, fun other first second hfirst hsecond => ?_, ?_⟩
      · rcases List.mem_append.mp hmem with hmem | hmem
        · exact List.mem_append_left _ (haccounts other earlier hmem)
        · obtain ⟨rfl, rfl⟩ := Prod.mk.inj (List.mem_singleton.mp hmem)
          exact List.mem_append_right _ List.mem_cons_self
      · rcases List.mem_append.mp hfirst with holdFirst | hnewFirst
        · rcases List.mem_append.mp hsecond with holdSecond | hnewSecond
          · exact hunique other first second holdFirst holdSecond
          · obtain ⟨rfl, rfl⟩ := Prod.mk.inj (List.mem_singleton.mp hnewSecond)
            exact absurd holdFirst (hunused first)
        · obtain ⟨rfl, rfl⟩ := Prod.mk.inj (List.mem_singleton.mp hnewFirst)
          rcases List.mem_append.mp hsecond with holdSecond | hnewSecond
          · exact absurd holdSecond (hunused second)
          · exact (Prod.mk.inj (List.mem_singleton.mp hnewSecond)).2.symm
      · rintro _ _ _ _ ⟨rfl⟩
        exact ⟨List.mem_append_right _ List.mem_cons_self, rfl⟩
  | @setDataAnswered error request before userUID data hwriting =>
      refine ⟨?_, hunique, fun _ _ _ _ h => (by cases h)⟩
      cases error <;> exact haccounts
  | setDataDelivered hsaved => exact ⟨haccounts, hunique, fun _ _ _ _ h => (by cases h)⟩
  | killed => exact ⟨haccounts, hunique, fun _ _ _ _ h => (by cases h)⟩
  | authChanged hidle => exact ⟨haccounts, hunique, hsaving⟩

theorem createdInvariant_launched (backend : Backend) : CreatedInvariant (launched backend) where
  accounts _ _ hmem := nomatch hmem
  unique _ _ _ hmem := nomatch hmem
  saving _ _ _ _ h := nomatch h

/-- What holds along a run that keeps the two writes together. -/
structure AtomicInvariant (session : AuthSession) : Prop where
  created : CreatedInvariant session
  creating : ∀ request before,
    session.inProgress = some { request, before, stage := .creating } → session.backend = before
  answered : ∀ request before error,
    session.inProgress = some { request, before, stage := .saved error } → error = none
  unchanged : ∀ completed ∈ session.completed, completed.result.wasRegistered = false →
    completed.after = completed.before
  documents : ∀ uid request, (uid, request) ∈ session.created →
    session.backend.users uid = some request.userData ∨
    ∃ before data, session.inProgress = some { request, before, stage := .saving uid data }

theorem unchanged_complete {session : AuthSession} {registration : Registration}
    {result : RegistrationResult}
    (hunchanged : ∀ completed ∈ session.completed, completed.result.wasRegistered = false →
      completed.after = completed.before)
    (hresult : result.wasRegistered = false → session.backend = registration.before) :
    ∀ completed ∈ (session.complete registration result).completed,
      completed.result.wasRegistered = false → completed.after = completed.before := by
  intro completed hmem hfalse
  rcases List.mem_append.mp hmem with hmem | hmem
  · exact hunchanged completed hmem hfalse
  · obtain rfl := List.mem_singleton.mp hmem
    exact hresult hfalse

/-- The documents part of a step: a creation starts the write of the document,
and the write ends with the document there. -/
theorem documents_step {session next : AuthSession} {action : AuthAction}
    (hinvariant : AtomicInvariant session) (hallowed : session.KeepsWritesTogether action)
    (hstep : session.step action = some next) (uid : String) (request : RegisterUserRequest)
    (hmem : (uid, request) ∈ next.created) :
    next.backend.users uid = some request.userData ∨
      ∃ before data, next.inProgress = some { request, before, stage := .saving uid data } := by
  obtain ⟨⟨-, hunique, hsaving⟩, -, -, -, hdocuments⟩ := hinvariant
  -- Outside the write of a document, every created account has one already.
  have hsettled : (∀ request before uid data,
      session.inProgress ≠ some { request, before, stage := .saving uid data }) →
      ∀ uid request, (uid, request) ∈ session.created →
        session.backend.users uid = some request.userData := by
    intro hnone uid request hcreated
    rcases hdocuments uid request hcreated with hdocument | ⟨before, data, hwriting⟩
    · exact hdocument
    · exact absurd hwriting (hnone request before uid data)
  cases step_cases hstep with
  | registerUser hidle => exact Or.inl (hsettled (by simp [hidle]) uid request hmem)
  | refused hstage hresult => exact Or.inl (hsettled (by simp [hstage]) uid request hmem)
  | @created reply creating before other hstage hfresh =>
      rcases List.mem_append.mp hmem with hold | hnew
      · exact Or.inl (hsettled (by simp [hstage]) uid request hold)
      · obtain ⟨rfl, rfl⟩ := Prod.mk.inj (List.mem_singleton.mp hnew)
        exact Or.inr ⟨before, _, rfl⟩
  | @setDataAnswered error writer before userUID data hwriting =>
      obtain rfl : error = none := hallowed
      obtain ⟨hmine, rfl⟩ := hsaving writer before userUID data hwriting
      by_cases huid : uid = userUID
      · -- The write is of the document of the one request that created the account.
        subst huid
        obtain rfl := hunique uid request writer hmem hmine
        exact Or.inl (Function.update_self ..)
      · rcases hdocuments uid request hmem with hdocument | ⟨_, _, hother⟩
        · exact Or.inl ((Function.update_of_ne huid ..).trans hdocument)
        · rw [hwriting] at hother
          cases hother
          exact absurd rfl huid
  | setDataDelivered hstage => exact Or.inl (hsettled (by simp [hstage]) uid request hmem)
  | killed => exact Or.inl (hsettled hallowed uid request hmem)
  | authChanged hidle => exact Or.inl (hsettled (by simp [hidle]) uid request hmem)

theorem atomicInvariant_step {session next : AuthSession} {action : AuthAction}
    (hinvariant : AtomicInvariant session) (hallowed : session.KeepsWritesTogether action)
    (hstep : session.step action = some next) : AtomicInvariant next := by
  have hcreated := createdInvariant_step hinvariant.created hstep
  have hdocuments := documents_step hinvariant hallowed hstep
  obtain ⟨-, hcreating, hanswered, hunchanged, -⟩ := hinvariant
  cases step_cases hstep with
  | registerUser hidle =>
      refine ⟨hcreated, ?_, fun _ _ _ h => (by cases h), hunchanged, hdocuments⟩
      rintro _ _ ⟨rfl⟩
      rfl
  | @refused reply request before result hstage hresult =>
      refine ⟨hcreated, fun _ _ h => (by cases h), fun _ _ _ h => (by cases h), ?_, hdocuments⟩
      exact unchanged_complete hunchanged fun _ => hcreating request before hstage
  | created hstage hfresh =>
      exact ⟨hcreated, fun _ _ h => (by cases h), fun _ _ _ h => (by cases h), hunchanged,
        hdocuments⟩
  | setDataAnswered hwriting =>
      refine ⟨hcreated, fun _ _ h => (by cases h), ?_, hunchanged, hdocuments⟩
      rintro _ _ _ ⟨rfl⟩
      exact hallowed
  | @setDataDelivered request before error hstage =>
      -- The write succeeded, so the completion is called with `true`.
      obtain rfl := hanswered request before error hstage
      refine ⟨hcreated, fun _ _ h => (by cases h), fun _ _ _ h => (by cases h), ?_, hdocuments⟩
      exact unchanged_complete hunchanged fun h => (by cases h)
  | killed =>
      exact ⟨hcreated, fun _ _ h => (by cases h), fun _ _ _ h => (by cases h), hunchanged,
        hdocuments⟩
  | authChanged hidle =>
      refine ⟨hcreated, fun _ _ h => ?_, fun _ _ _ h => ?_, hunchanged, hdocuments⟩
      · rw [hidle] at h
        cases h
      · rw [hidle] at h
        cases h

theorem atomicInvariant_launched (backend : Backend) : AtomicInvariant (launched backend) where
  created := createdInvariant_launched backend
  creating _ _ h := nomatch h
  answered _ _ _ h := nomatch h
  unchanged _ hmem := nomatch hmem
  documents _ _ hmem := nomatch hmem

theorem AtomicInvariant.allOrNothing {session : AuthSession}
    (hinvariant : AtomicInvariant session) : session.AllOrNothing := by
  refine ⟨hinvariant.unchanged, fun hidle uid request hmem => ?_⟩
  rcases hinvariant.documents uid request hmem with hdocument | ⟨before, data, hwriting⟩
  · exact ⟨request.userData, hdocument, rfl, rfl, rfl⟩
  · rw [hidle] at hwriting
    cases hwriting

/-- Users documents belong to accounts. -/
def UsersHaveAccounts (backend : Backend) : Prop :=
  ∀ uid, backend.users uid ≠ none → ∃ account ∈ backend.accounts, account.uid = uid

/-- The document under way is the first one of its account. -/
structure DocumentsInvariant (session : AuthSession) : Prop where
  created : CreatedInvariant session
  accounts : UsersHaveAccounts session.backend
  saving : ∀ request before uid data,
    session.inProgress = some { request, before, stage := .saving uid data } →
    session.backend.users uid = none

theorem documentsInvariant_step {session next : AuthSession} {action : AuthAction}
    (hinvariant : DocumentsInvariant session) (hstep : session.step action = some next) :
    DocumentsInvariant next := by
  have hcreated := createdInvariant_step hinvariant.created hstep
  obtain ⟨⟨hexists, -, hmine⟩, haccounts, hsaving⟩ := hinvariant
  cases step_cases hstep with
  | registerUser hidle => exact ⟨hcreated, haccounts, fun _ _ _ _ h => (by cases h)⟩
  | refused hstage hresult => exact ⟨hcreated, haccounts, fun _ _ _ _ h => (by cases h)⟩
  | @created reply request before uid hstage hfresh =>
      refine ⟨hcreated, fun other hdocument => ?_, ?_⟩
      · obtain ⟨account, hmem, heq⟩ := haccounts other hdocument
        exact ⟨account, List.mem_append_left _ hmem, heq⟩
      · rintro _ _ _ _ ⟨rfl⟩
        by_contra hdocument
        obtain ⟨account, hmem, heq⟩ := haccounts uid hdocument
        exact hfresh account hmem heq
  | @setDataAnswered error request before userUID data hwriting =>
      refine ⟨hcreated, fun uid hdocument => ?_, fun _ _ _ _ h => (by cases h)⟩
      cases error with
      | some error => exact haccounts uid hdocument
      | none =>
          by_cases huid : uid = userUID
          · subst huid
            exact ⟨_, hexists uid request (hmine request before uid data hwriting).1, rfl⟩
          · refine haccounts uid fun hnone => hdocument ?_
            exact (Function.update_of_ne huid ..).trans hnone
  | setDataDelivered hstage => exact ⟨hcreated, haccounts, fun _ _ _ _ h => (by cases h)⟩
  | killed => exact ⟨hcreated, haccounts, fun _ _ _ _ h => (by cases h)⟩
  | authChanged hidle => exact ⟨hcreated, haccounts, hsaving⟩

theorem documentsInvariant_run {backend : Backend} {session : AuthSession}
    {actions : List AuthAction} (haccounts : UsersHaveAccounts backend)
    (hrun : Machine.run step (launched backend) actions = some session) :
    DocumentsInvariant session :=
  Machine.run_invariant DocumentsInvariant
    (fun _ _ _ hinvariant hstep => documentsInvariant_step hinvariant hstep)
    ⟨createdInvariant_launched backend, haccounts, fun _ _ _ _ h => nomatch h⟩ hrun

/-- A registration created the account and does not write its document any
more, but it has none. -/
structure Orphan (session : AuthSession) (uid : String) : Prop where
  created : ∃ request, (uid, request) ∈ session.created
  undocumented : session.backend.users uid = none
  abandoned : ∀ request before data,
    session.inProgress ≠ some { request, before, stage := .saving uid data }

/-- No step gives an orphan its document: a later registration writes that of
the account it created itself. -/
theorem orphan_step {session next : AuthSession} {action : AuthAction} {uid : String}
    (hinvariant : CreatedInvariant session) (horphan : session.Orphan uid)
    (hstep : session.step action = some next) : next.Orphan uid := by
  obtain ⟨⟨owner, hcreated⟩, hundocumented, habandoned⟩ := horphan
  cases step_cases hstep with
  | registerUser hidle => exact ⟨⟨owner, hcreated⟩, hundocumented, fun _ _ _ h => (by cases h)⟩
  | refused hstage hresult =>
      exact ⟨⟨owner, hcreated⟩, hundocumented, fun _ _ _ h => (by cases h)⟩
  | @created reply request before other hstage hfresh =>
      refine ⟨⟨owner, List.mem_append_left _ hcreated⟩, hundocumented, ?_⟩
      rintro _ _ _ ⟨rfl⟩
      exact hfresh _ (hinvariant.accounts uid owner hcreated) rfl
  | @setDataAnswered error request before userUID data hwriting =>
      refine ⟨⟨owner, hcreated⟩, ?_, fun _ _ _ h => (by cases h)⟩
      cases error with
      | some error => exact hundocumented
      | none =>
          have hne : uid ≠ userUID := by
            rintro rfl
            exact habandoned request before data hwriting
          exact (Function.update_of_ne hne ..).trans hundocumented
  | setDataDelivered hstage =>
      exact ⟨⟨owner, hcreated⟩, hundocumented, fun _ _ _ h => (by cases h)⟩
  | killed => exact ⟨⟨owner, hcreated⟩, hundocumented, fun _ _ _ h => (by cases h)⟩
  | authChanged hidle => exact ⟨⟨owner, hcreated⟩, hundocumented, habandoned⟩

/-- Once an orphan, always an orphan. -/
theorem orphan_run {session finish : AuthSession} {actions : List AuthAction} {uid : String}
    (hinvariant : CreatedInvariant session) (horphan : session.Orphan uid)
    (hrun : Machine.run step session actions = some finish) : finish.Orphan uid := by
  have hboth := Machine.run_invariant
    (fun session => CreatedInvariant session ∧ session.Orphan uid)
    (fun _ _ _ h hstep =>
      ⟨createdInvariant_step h.1 hstep, orphan_step h.1 h.2 hstep⟩)
    ⟨hinvariant, horphan⟩ hrun
  exact hboth.2

/-- A step that separates the two writes leaves an orphan. -/
theorem orphan_of_separated {session next : AuthSession} {action : AuthAction}
    (hinvariant : DocumentsInvariant session) (hforbidden : ¬ session.KeepsWritesTogether action)
    (hstep : session.step action = some next) : ∃ uid, next.Orphan uid := by
  obtain ⟨⟨-, -, hmine⟩, -, hsaving⟩ := hinvariant
  cases step_cases hstep with
  | registerUser | refused | created | setDataDelivered | authChanged =>
      exact absurd trivial hforbidden
  | @setDataAnswered error request before userUID data hwriting =>
      cases error with
      | none => exact absurd rfl hforbidden
      | some error =>
          refine ⟨userUID, ⟨request, (hmine request before userUID data hwriting).1⟩,
            hsaving request before userUID data hwriting, fun _ _ _ h => (by cases h)⟩
  | killed =>
      simp only [KeepsWritesTogether, not_forall, not_not] at hforbidden
      obtain ⟨request, before, userUID, data, hwriting⟩ := hforbidden
      exact ⟨userUID, ⟨request, (hmine request before userUID data hwriting).1⟩,
        hsaving request before userUID data hwriting, fun _ _ _ h => (by cases h)⟩

/-- The request cannot be retried: its email has an account already, and no
answer of the backend creates a second one. -/
theorem retry_refused {session : AuthSession} {request : RegisterUserRequest}
    {before : Backend} {reply : AuthReply} {uid other : String}
    (hinvariant : CreatedInvariant session) (hmem : (uid, request) ∈ session.created)
    (hstage : session.inProgress = some { request, before, stage := .creating })
    (huser : reply.user = some other) (herror : reply.error = none) :
    session.step (.createUserAnswered reply) = none := by
  have hrefused : session.backend.createUser request.email reply = none := by
    simp only [Backend.createUser, huser, herror]
    refine if_neg fun hall => ?_
    have hfresh := List.all_eq_true.mp hall _ (hinvariant.accounts uid request hmem)
    simp at hfresh
  simp only [step, hstage]
  rw [hrefused]
  rfl

theorem Orphan.not_allOrNothing {session : AuthSession} {uid : String}
    (horphan : session.Orphan uid) (hidle : session.inProgress = none) :
    ¬ session.AllOrNothing := by
  intro hatomic
  obtain ⟨request, hmem⟩ := horphan.created
  obtain ⟨data, hdocument, -⟩ := hatomic.saved hidle uid request hmem
  rw [horphan.undocumented] at hdocument
  cases hdocument

end AuthSession

/-- A run that keeps the two writes of each registration together leaves it all
or nothing. The converse holds where no registration is in progress: one write
that was separated from the other is enough to break it. -/
theorem registration_allOrNothing (backend : Backend) (actions : List AuthAction)
    (session : AuthSession)
    (hrun : Machine.run AuthSession.step (AuthSession.launched backend) actions =
      some session) :
    (Machine.Along AuthSession.step AuthSession.KeepsWritesTogether
        (AuthSession.launched backend) actions → session.AllOrNothing) ∧
      (AuthSession.UsersHaveAccounts backend → session.inProgress = none →
        session.AllOrNothing →
        Machine.Along AuthSession.step AuthSession.KeepsWritesTogether
          (AuthSession.launched backend) actions) := by
  constructor
  · intro halong
    have hinvariant := Machine.run_invariant_of_along AuthSession.AtomicInvariant
      (fun _ _ _ hinvariant hallowed hstep =>
        AuthSession.atomicInvariant_step hinvariant hallowed hstep)
      (AuthSession.atomicInvariant_launched backend) halong hrun
    exact hinvariant.allOrNothing
  · intro haccounts hidle hatomic
    by_contra hnot
    obtain ⟨before, action, after, state, next, -, hbefore, hforbidden, hstep, hafter⟩ :=
      Machine.exists_forbidden_of_not_along hrun hnot
    have hinvariant := AuthSession.documentsInvariant_run haccounts hbefore
    obtain ⟨uid, horphan⟩ := AuthSession.orphan_of_separated hinvariant hforbidden hstep
    have hfinal := AuthSession.orphan_run
      (AuthSession.createdInvariant_step hinvariant.created hstep) horphan hafter
    exact hfinal.not_allOrNothing hidle hatomic

namespace Backend

/-- No account, no users document, nobody signed in. -/
def empty : Backend := { accounts := [], users := fun _ => none, currentUser := none }

end Backend

/-- A request as the register screen sends it. -/
def janeDoe : RegisterUserRequest where
  fullname := "Jane Doe"
  email := "jane@example.com"
  phoneNumber := "0712345678"
  password := "Passw0rd!"

/-- One registration whose account is created, with the answer to the write of
its document. -/
def registering (request : RegisterUserRequest) (error : Option BackendError) :
    List AuthAction :=
  [.registerUser request, .createUserAnswered { user := some "uid", error := none },
    .setDataAnswered error, .setDataDelivered]

theorem registration_allOrNothing_janeDoe :
    ∃ session, Machine.run AuthSession.step (AuthSession.launched .empty)
        (registering janeDoe none) = some session ∧
      session.completed.map (·.result.wasRegistered) = [true] ∧ session.AllOrNothing := by
  refine ⟨_, rfl, rfl, (registration_allOrNothing .empty (registering janeDoe none) _ rfl).1 ?_⟩
  refine ⟨trivial, ?_⟩
  rintro _ ⟨rfl⟩
  refine ⟨trivial, ?_⟩
  rintro _ ⟨rfl⟩
  refine ⟨rfl, ?_⟩
  rintro _ ⟨rfl⟩
  exact ⟨trivial, fun _ _ => trivial⟩

/-- The account is created and signed in, and the write of its document fails:
the completion gets `false`, but the account and the sign-in stay. -/
theorem failedSetData_leavesAccount :
    ∃ session, Machine.run AuthSession.step (AuthSession.launched .empty)
        (registering janeDoe (some { localizedDescription := "unavailable" })) = some session ∧
      session.inProgress = none ∧
      session.completed.map (·.result.wasRegistered) = [false] ∧
      session.backend.accounts = [{ uid := "uid", email := "jane@example.com" }] ∧
      session.backend.currentUser = some "uid" ∧ session.backend.users "uid" = none ∧
      ¬ session.AllOrNothing := by
  refine ⟨_, rfl, rfl, rfl, rfl, rfl, rfl, fun hatomic => ?_⟩
  obtain ⟨data, hdocument, -⟩ := hatomic.saved rfl "uid" janeDoe List.mem_cons_self
  cases hdocument

end FlyEvents
