import FlyEvents.App.Client

/-! # Whose contact an order carries

The contact of an order is read from a document of the users collection, long
after a registration wrote it there, maybe on another device. A registration
writes what an accepted sign-up form said, and a form is accepted only if its
texts pass the checks. The results here follow the contact from the form to the
order, for every interleaving of registrations and submissions.
-/

namespace FlyEvents

variable {Image : Type}

/-- The contact of the order is that of the data, with the empty string for a
field it lacks. -/
structure OrderData.HasContact (order : OrderData) (data : DocumentData) : Prop where
  fullName : order.fullName = (data "fullname").getD ""
  phoneNumber : order.phoneNumber = (data "phoneNumber").getD ""
  email : order.email = (data "email").getD ""

/-- What is known of a request if all documents are known to be so. -/
def Request.Known (known : DocumentData → Prop) : Request Image → Prop
  | .documentRead _ reply =>
      ∀ document data, reply.document = some document → document.data = some data → known data
  | .addDocument order => ∃ data, known data ∧ order.HasContact data
  | _ => True

namespace App

/-- The documents that are written are known to be so. -/
def WritesKnown (known : DocumentData → Prop) (_ : App Image) : AppAction → Prop
  | .userWritten _ (some data) => known data
  | _ => True

structure ContactInvariant (known : DocumentData → Prop) (app : App Image) : Prop where
  users : ∀ userUID data, app.users userUID = some data → known data
  pending : ∀ tag request, (tag, request) ∈ app.pending → request.Known known
  orders : ∀ tag order, (tag, order) ∈ app.orders → ∃ data, known data ∧ order.HasContact data

theorem contactInvariant_launched {known : DocumentData → Prop} (currentUser : Option String)
    {users : String → Option DocumentData}
    (husers : ∀ userUID data, users userUID = some data → known data) :
    ContactInvariant known (launched currentUser users : App Image) where
  users := husers
  pending _ _ hmem := nomatch hmem
  orders _ _ hmem := nomatch hmem

theorem known_update {known : DocumentData → Prop} {users : String → Option DocumentData}
    {written : String} {document : Option DocumentData}
    (husers : ∀ userUID data, users userUID = some data → known data)
    (hdocument : ∀ data, document = some data → known data) :
    ∀ userUID data, Function.update users written document userUID = some data → known data := by
  intro userUID data hdata
  by_cases hsame : userUID = written
  · subst hsame
    exact hdocument data (by simpa using hdata)
  · rw [Function.update_of_ne hsame] at hdata
    exact husers userUID data hdata

/-- The document in the answer is one of the users collection. -/
theorem ContactInvariant.served {known : DocumentData → Prop} {app : App Image}
    (hinvariant : ContactInvariant known app) {tag : Nat} {error : Option BackendError}
    {request answered : Request Image} {orders : List (Nat × OrderData)}
    (hrequest : request.Known known)
    (hserve : app.serve tag error request = some (answered, orders)) :
    answered.Known known ∧
      ∀ other order, (other, order) ∈ orders → ∃ data, known data ∧ order.HasContact data := by
  cases request with
  | getDocument submission =>
      cases error with
      | none =>
          cases hserve
          refine ⟨fun document data hdocument hdata => ?_, hinvariant.orders⟩
          obtain rfl := Option.some.inj hdocument
          exact hinvariant.users submission.userUID data hdata
      | some error =>
          cases hserve
          exact ⟨fun _ _ hdocument => (nomatch hdocument), hinvariant.orders⟩
  | addDocument order =>
      cases error with
      | none =>
          cases hserve
          refine ⟨trivial, fun other stored hmem => ?_⟩
          rcases List.mem_append.mp hmem with hmem | hmem
          · exact hinvariant.orders other stored hmem
          · obtain ⟨rfl, rfl⟩ := Prod.mk.inj (List.mem_singleton.mp hmem)
            exact hrequest
      | some error =>
          cases hserve
          exact ⟨trivial, hinvariant.orders⟩
  | documentRead submission reply => cases hserve
  | documentAdded error => cases hserve

/-- The order that a callback goes on to add has the contact of the document
that was read. -/
theorem known_delivered {known : DocumentData → Prop} {request following : Request Image}
    (hrequest : request.Known known) (hdeliver : deliver request = some (some following)) :
    following.Known known := by
  cases request with
  | documentRead submission reply =>
      obtain ⟨order, hfetched, rfl⟩ := Option.map_eq_some_iff.mp (Option.some.inj hdeliver)
      obtain ⟨document, data, hdocument, hdata, rfl⟩ :=
        Submission.documentFetched_eq_some_iff.mp hfetched
      refine ⟨data, hrequest document data hdocument hdata, ?_⟩
      constructor <;> simp [orderData, DocumentSnapshot.stringValue, hdata]
  | _ => cases hdeliver

theorem contactInvariant_step {known : DocumentData → Prop} {platform : Platform Image}
    {app next : App Image} {action : AppAction} (hinvariant : ContactInvariant known app)
    (hwrites : WritesKnown known app action) (hstep : app.step platform action = some next) :
    ContactInvariant known next := by
  obtain ⟨husers, hpending, horders⟩ := hinvariant
  cases step_cases hstep with
  | didTapSubmitOrder hscreens hcheckout =>
      refine ⟨husers, fun tag request hmem => ?_, horders⟩
      rcases List.mem_append.mp hmem with hmem | hmem
      · exact hpending tag request hmem
      · rw [Option.mem_toList, Option.map_eq_some_iff] at hmem
        obtain ⟨submission, -, heq⟩ := hmem
        obtain ⟨rfl, rfl⟩ := Prod.mk.inj heq
        trivial
  | @userWritten written document =>
      refine ⟨known_update husers fun data hdata => ?_, hpending, horders⟩
      subst hdata
      exact hwrites
  | @served index error before tag request after answered orders hindex hsplit hserve =>
      obtain ⟨hanswered, hstored⟩ := ContactInvariant.served ⟨husers, hpending, horders⟩
        (hpending tag request (by simp [hsplit])) hserve
      refine ⟨husers, fun other later hmem => ?_, hstored⟩
      rcases List.mem_append.mp hmem with hmem | hmem
      · exact hpending other later (by simp [hsplit, hmem])
      · rcases List.mem_cons.mp hmem with heq | hmem
        · obtain ⟨rfl, rfl⟩ := Prod.mk.inj heq
          exact hanswered
        · exact hpending other later (by simp [hsplit, hmem])
  | @delivered index before tag request after following hsplit hdeliver =>
      have hrequest := hpending tag request (by simp [hsplit])
      refine ⟨husers, fun other later hmem => ?_, horders⟩
      rcases List.mem_append.mp hmem with hmem | hmem
      · exact hpending other later (by simp [hsplit, hmem])
      · rcases List.mem_append.mp hmem with hmem | hmem
        · rw [Option.mem_toList, Option.map_eq_some_iff] at hmem
          obtain ⟨made, rfl, heq⟩ := hmem
          obtain ⟨rfl, rfl⟩ := Prod.mk.inj heq
          exact known_delivered hrequest hdeliver
        · exact hpending other later (by simp [hsplit, hmem])
  | _ => exact ⟨husers, hpending, horders⟩

end App

/-! ## What the calls of the window carry -/

/-- The form was accepted, with the request. -/
def RegisterUserRequest.Accepted (digits : DecimalDigits) (request : RegisterUserRequest) :
    Prop :=
  ∃ form : RegisterViewController, form.didTapSignUp digits = .ok request

/-- The data that a registration writes for an accepted form. -/
def Registered (digits : DecimalDigits) (data : DocumentData) : Prop :=
  ∃ request : RegisterUserRequest, request.Accepted digits ∧ data = request.userData

/-- The call is part of the registration of an accepted form, if of any. -/
def AuthCall.Accepted (digits : DecimalDigits) : AuthCall → Prop
  | .createUser request | .userCreated request _ => request.Accepted digits
  | .setData _ data => Registered digits data
  | _ => True

namespace AuthScene

theorem accepted_answered {digits : DecimalDigits} {reply : AuthReply} {call answered : AuthCall}
    (hcall : call.Accepted digits) (hanswered : call.answered reply = some answered) :
    answered.Accepted digits := by
  cases call <;> cases hanswered
  case createUser request => exact hcall
  all_goals trivial

theorem accepted_request {digits : DecimalDigits} {Request : Type} {scene : AuthScene}
    {controller : Nat} {form : Except BasicAlert Request} {make : Request → AuthCall}
    (hcalls : ∀ call ∈ scene.calls, call.2.Accepted digits)
    (hmake : ∀ request, form = .ok request → (make request).Accepted digits) :
    ∀ call ∈ (scene.request controller (form.map make)).calls, call.2.Accepted digits := by
  cases form with
  | error alert => exact hcalls
  | ok request =>
      intro call hmem
      rcases List.mem_append.mp hmem with hmem | hmem
      · exact hcalls call hmem
      · rw [List.mem_singleton.mp hmem]
        exact hmake request rfl

theorem calls_push {scene next : AuthScene} {screen : AuthScreen}
    (hpush : scene.push screen = some next) : next.calls = scene.calls := by
  unfold push at hpush
  split at hpush
  next =>
    cases hpush
    rfl
  next => cases hpush

/-- A tap makes no registration but that of an accepted form. -/
theorem accepted_tapped {digits : DecimalDigits} {scene next : AuthScene}
    {action : AuthSceneAction} (hcalls : ∀ call ∈ scene.calls, call.2.Accepted digits)
    (htap : action.isTap = true) (hstep : scene.step digits action = some next) :
    ∀ call ∈ next.calls, call.2.Accepted digits := by
  cases action with
  | didTapSignIn form =>
      simp only [step] at hstep
      split at hstep
      next =>
        obtain rfl := Option.some.inj hstep
        exact accepted_request hcalls fun _ _ => trivial
      next => cases hstep
  | didTapSignUp form =>
      simp only [step] at hstep
      split at hstep
      next =>
        obtain rfl := Option.some.inj hstep
        exact accepted_request hcalls fun request hform => ⟨form, hform⟩
      next => cases hstep
  | didTapResetPassword form =>
      simp only [step] at hstep
      split at hstep
      next =>
        obtain rfl := Option.some.inj hstep
        exact accepted_request hcalls fun _ _ => trivial
      next => cases hstep
  | didTapNewUser => exact calls_push hstep ▸ hcalls
  | didTapForgotPassword => exact calls_push hstep ▸ hcalls
  | didTapBack =>
      simp only [step] at hstep
      split at hstep
      next =>
        cases hstep
        exact hcalls
      next => cases hstep
  | didTapHaveAccount =>
      simp only [step] at hstep
      split at hstep
      next =>
        cases hstep
        exact hcalls
      next => cases hstep
  | didTapLogout error =>
      simp only [step] at hstep
      split at hstep
      next id hroot =>
        obtain rfl := Option.some.inj hstep
        rw [(signOutCompleted_frame _ id error).2.1]
        exact hcalls
      next => cases hstep
  | _ => cases htap

/-- The calls go on as they were made. -/
theorem accepted_step {digits : DecimalDigits} {scene next : AuthScene}
    {action : AuthSceneAction} (hcalls : ∀ call ∈ scene.calls, call.2.Accepted digits)
    (hstep : scene.step digits action = some next) :
    ∀ call ∈ next.calls, call.2.Accepted digits := by
  by_cases htap : action.isTap = true
  · exact accepted_tapped hcalls htap hstep
  · cases step_cases hstep with
    | tapped htapped => exact absurd htapped htap
    | loggedOut => exact absurd rfl htap
    | @answered index reply before controller call after answered hsplit hanswered =>
        intro other hmem
        rcases List.mem_append.mp hmem with hmem | hmem
        · exact hcalls other (by simp [hsplit, hmem])
        · rcases List.mem_cons.mp hmem with rfl | hmem
          · exact accepted_answered (hcalls (controller, call) (by simp [hsplit])) hanswered
          · exact hcalls other (by simp [hsplit, hmem])
    | @continued index before controller request reply after userUID data _ hsplit hcreated =>
        have hrequest : request.Accepted digits :=
          hcalls (controller, .userCreated request reply) (by simp [hsplit])
        intro other hmem
        rcases List.mem_append.mp hmem with hmem | hmem
        · exact hcalls other (by simp [hsplit, hmem])
        · rcases List.mem_cons.mp hmem with rfl | hmem
          · exact ⟨request, hrequest, RegisterUserRequest.data_eq_of_userCreated hcreated⟩
          · exact hcalls other (by simp [hsplit, hmem])
    | refreshed _ hsplit =>
        rw [calls_checkAuthentication]
        exact fun other hmem => hcalls other (mem_calls_of_erased hsplit hmem)
    | ended _ hsplit => exact fun other hmem => hcalls other (mem_calls_of_erased hsplit hmem)
    | transitionCompleted => exact hcalls

/-- The document that the backend writes is that of an accepted form. -/
theorem registered_written {digits : DecimalDigits} {scene : AuthScene}
    {action : AuthSceneAction} {userUID : String} {data : DocumentData}
    (hcalls : ∀ call ∈ scene.calls, call.2.Accepted digits)
    (hwritten : scene.written action = some (userUID, data)) : Registered digits data := by
  cases action with
  | answered index reply =>
      simp only [written] at hwritten
      split at hwritten
      next controller uid document hcall _ =>
        obtain ⟨rfl, rfl⟩ := Prod.mk.inj (Option.some.inj hwritten)
        exact hcalls _ (List.mem_of_getElem? hcall)
      next => cases hwritten
  | _ => cases hwritten

end AuthScene

namespace Client

/-- The app as the session sees it, as long as the calls of the window are those
of accepted forms. -/
def contactView (digits : DecimalDigits) (platform : Platform Image) :
    Machine.View (Client.step digits platform) (App.step platform) where
  invariant client := ∀ call ∈ client.scene.calls, call.2.Accepted digits
  state := (sessionView digits platform).state
  actions := (sessionView digits platform).actions
  kept client action next hcalls hstep := by
    cases step_cases hstep with
    | window hoffers hscene => exact AuthScene.accepted_step hcalls hscene
    | session hoffers hown happ => exact hcalls
    | registeredElsewhere hform => exact hcalls
  matched client action next _ hstep :=
    (sessionView digits platform).matched client action next trivial hstep

/-- Whoever writes a document, it is that of an accepted form. -/
theorem writesKnown_actions {digits : DecimalDigits} {platform : Platform Image}
    {client next : Client Image} {action : ClientAction}
    (hcalls : ∀ call ∈ client.scene.calls, call.2.Accepted digits)
    (hstep : client.step digits platform action = some next) (seen : AppAction)
    (hseen : seen ∈ (contactView digits platform).actions client action) (app : App Image) :
    App.WritesKnown (Registered digits) app seen := by
  cases step_cases hstep with
  | @window action scene hoffers hscene =>
      have htold : seen ∈ client.scene.told action scene.currentUser := by
        simpa [contactView, sessionView, hscene] using hseen
      simp only [AuthScene.told, List.mem_append, List.mem_map, Option.mem_toList,
        List.mem_singleton] at htold
      rcases htold with (⟨⟨userUID, data⟩, hwritten, rfl⟩ | hreplaced) | rfl
      · exact AuthScene.registered_written hcalls hwritten
      · cases action <;> simp_all [App.WritesKnown]
      · trivial
  | @session action app hoffers hown happ =>
      obtain rfl := List.mem_singleton.mp hseen
      cases seen <;> trivial
  | @registeredElsewhere userUID form request hform =>
      have hwritten : seen = .userWritten userUID (some request.userData) := by
        simpa [contactView, sessionView, hform] using hseen
      rw [hwritten]
      exact ⟨request, ⟨form, hform⟩, rfl⟩

theorem accepted_launched (digits : DecimalDigits) (currentUser : Option String)
    (users : String → Option DocumentData) :
    ∀ call ∈ (launched currentUser users : Client Image).scene.calls,
      call.2.Accepted digits := by
  intro call hmem
  simp [launched, AuthScene.connected, AuthScene.calls_checkAuthentication] at hmem

theorem contactInvariant_run {digits : DecimalDigits} {platform : Platform Image}
    {currentUser : Option String} {users : String → Option DocumentData}
    (husers : ∀ userUID data, users userUID = some data → Registered digits data)
    {actions : List ClientAction} {client : Client Image}
    (hrun : Machine.run (Client.step digits platform) (launched currentUser users) actions =
      some client) :
    App.ContactInvariant (Registered digits) client.app := by
  have hcalls : ∀ call ∈ (launched currentUser users : Client Image).scene.calls,
      call.2.Accepted digits := accepted_launched digits currentUser users
  have hany : Machine.Along (Client.step digits platform) (fun _ _ => True)
      (launched currentUser users) actions :=
    Machine.along_of_forall (fun _ _ _ => trivial) _
  have halong : Machine.Along (App.step platform) (App.WritesKnown (Registered digits))
      (App.launched currentUser users)
      ((contactView digits platform).trace (launched currentUser users) actions) :=
    (contactView digits platform).along_trace
      (fun current action next hinvariant _ hstep =>
        Machine.along_of_forall (writesKnown_actions hinvariant hstep) _) hcalls hany hrun
  exact Machine.run_invariant_of_along (App.ContactInvariant (Registered digits))
    (fun _ _ _ hinvariant hwrites hstep => App.contactInvariant_step hinvariant hwrites hstep)
    (App.contactInvariant_launched currentUser husers) halong
    ((contactView digits platform).run hcalls hrun)

end Client

theorem OrderData.HasContact.of_userData {order : OrderData} {request : RegisterUserRequest}
    (hcontact : order.HasContact request.userData) :
    order.fullName = request.fullname ∧ order.phoneNumber = request.phoneNumber ∧
      order.email = request.email := by
  obtain ⟨hname, hphone, hemail⟩ := hcontact
  exact ⟨hname, hphone, hemail⟩

/-- If the users collection was filled by accepted forms, every order carries
the contact of an accepted form, which has passed the checks. -/
theorem orders_carry_checked_contacts (digits : DecimalDigits) (platform : Platform Image)
    (currentUser : Option String) (users : String → Option DocumentData)
    (husers : ∀ userUID data, users userUID = some data → Registered digits data)
    (actions : List ClientAction) (client : Client Image)
    (hrun : Machine.run (Client.step digits platform) (Client.launched currentUser users)
      actions = some client) :
    ∀ tag order, (tag, order) ∈ client.app.orders →
      ∃ (form : RegisterViewController) (request : RegisterUserRequest),
        form.didTapSignUp digits = .ok request ∧
        order.fullName = request.fullname ∧ order.phoneNumber = request.phoneNumber ∧
        order.email = request.email ∧
        Validator.isValidEmail order.email = true ∧
        Validator.isValidPhoneNumber digits order.phoneNumber = true := by
  intro tag order hmem
  obtain ⟨_, ⟨request, ⟨form, hform⟩, rfl⟩, hcontact⟩ :=
    (Client.contactInvariant_run husers hrun).orders tag order hmem
  obtain ⟨-, hvalidEmail, hvalidPhone, -⟩ := RegisterViewController.didTapSignUp_eq_ok_iff.mp hform
  obtain ⟨hname, hphone, hemail⟩ := hcontact.of_userData
  exact ⟨form, request, hform, hname, hphone, hemail, hemail ▸ hvalidEmail, hphone ▸ hvalidPhone⟩

theorem orders_carry_checked_contacts_signingUp :
    ∃ (client : Client Unit) (order : OrderData),
      Machine.run (Client.step arabicIndicDigits Platform.plain)
        (Client.launched none fun _ => none) signingUpAndOrdering = some client ∧
      (0, order) ∈ client.app.orders ∧
      Validator.isValidPhoneNumber arabicIndicDigits order.phoneNumber = true := by
  have hmap : (Machine.run (Client.step arabicIndicDigits Platform.plain)
      (Client.launched none fun _ => none) signingUpAndOrdering).map
        (fun client => client.app.orders.map Prod.fst) = some [0] := by
    decide +kernel
  obtain ⟨client, hrun, htags⟩ := Option.map_eq_some_iff.mp hmap
  have htag : 0 ∈ client.app.orders.map Prod.fst := by simp [htags]
  obtain ⟨⟨tag, order⟩, hstored, rfl⟩ := List.mem_map.mp htag
  obtain ⟨_, _, -, -, -, -, -, hphone⟩ := orders_carry_checked_contacts arabicIndicDigits
    Platform.plain none (fun _ => none) (by simp) _ client hrun _ order hstored
  exact ⟨client, order, hrun, hstored, hphone⟩

/-- The two readers of a user's document agree in every state that is reached.
Both ask for that of the signed-in user. For a registered user `fetchUser` finds
the texts of the form, and `submitOrder` copies them; for any other user neither
gets anything. -/
theorem readers_agree (digits : DecimalDigits) (platform : Platform Image)
    (currentUser : Option String) (users : String → Option DocumentData)
    (husers : ∀ userUID data, users userUID = some data → Registered digits data)
    (actions : List ClientAction) (client : Client Image)
    (hrun : Machine.run (Client.step digits platform) (Client.launched currentUser users)
      actions = some client) (submission : Submission Image) :
    fetchUser client.app.currentUser = (submitOrder client.app.currentUser
      submission.selectedServices submission.totalPrice).map Submission.userUID ∧
    let reply : DocumentReply :=
      { document := some { data := client.app.users submission.userUID }, error := none }
    (userFetched submission.userUID reply = none ∧ submission.documentFetched reply = none) ∨
    ∃ (form : RegisterViewController) (request : RegisterUserRequest) (order : OrderData),
      form.didTapSignUp digits = .ok request ∧
      userFetched submission.userUID reply = some (some {
        fullname := request.fullname
        email := request.email
        phoneNumber := request.phoneNumber
        userUID := submission.userUID }, none) ∧
      submission.documentFetched reply = some order ∧
      order.fullName = request.fullname ∧ order.phoneNumber = request.phoneNumber ∧
      order.email = request.email := by
  have hasked : fetchUser client.app.currentUser = (submitOrder client.app.currentUser
      submission.selectedServices submission.totalPrice).map Submission.userUID := by
    cases client.app.currentUser <;> rfl
  refine ⟨hasked, ?_⟩
  intro reply
  have hknown := (Client.contactInvariant_run husers hrun).users submission.userUID
  cases hdata : client.app.users submission.userUID with
  | none =>
      left
      simp [reply, hdata, userFetched, Submission.documentFetched]
  | some data =>
      obtain ⟨request, ⟨form, hform⟩, rfl⟩ := hknown data hdata
      refine .inr ⟨form, request, orderData { data := some request.userData }
        submission.selectedServices submission.totalPrice, hform, ?_, ?_, rfl, rfl, rfl⟩
      · simp only [reply, hdata, userFetched]
        rfl
      · simp [reply, hdata, Submission.documentFetched]

theorem readers_agree_signingUp :
    ∃ (client : Client Unit) (request : RegisterUserRequest),
      Machine.run (Client.step arabicIndicDigits Platform.plain)
        (Client.launched none fun _ => none) signingUp = some client ∧
      fetchUser client.app.currentUser = some "uid" ∧
      userFetched "uid" { document := some { data := client.app.users "uid" }, error := none } =
        some (some {
          fullname := request.fullname
          email := request.email
          phoneNumber := request.phoneNumber
          userUID := "uid" }, none) := by
  have hmap : (Machine.run (Client.step arabicIndicDigits Platform.plain)
      (Client.launched none fun _ => none) signingUp).map
        (fun client => (client.app.currentUser, (client.app.users "uid").isSome)) =
          some (some "uid", true) := by
    decide +kernel
  obtain ⟨client, hrun, heq⟩ := Option.map_eq_some_iff.mp hmap
  obtain ⟨huser, hdocument⟩ := Prod.mk.inj heq
  obtain ⟨hasked, hreaders⟩ := readers_agree arabicIndicDigits Platform.plain none (fun _ => none)
    (by simp) _ client hrun { userUID := "uid", selectedServices := [], totalPrice := 0 }
  have hrequest : fetchUser client.app.currentUser = some "uid" := by
    rw [hasked, huser]
    rfl
  rcases hreaders with ⟨-, hnothing⟩ | ⟨_, request, _, -, hfetched, -⟩
  · obtain ⟨data, hdata⟩ := Option.isSome_iff_exists.mp hdocument
    simp [Submission.documentFetched, hdata] at hnothing
  · exact ⟨client, request, hrun, hrequest, hfetched⟩

end FlyEvents
