import FlyEvents.ViewControllers.CartPrices

/-! # What an order document says about the cart

The document of an order lists the titles of the selected services and the
total. The head counts are stored nowhere, neither in the cart fields nor in
the document: they only enter the total. The document therefore determines the
options and the sum of the lines that are priced for each person.
-/

namespace FlyEvents

variable {Image : Type}

/-- The order that is added for the cart of a screen, when the checkout pushed
for it is submitted by the user, whose document is read with the data. -/
def ServicesViewController.orderDocument (controller : ServicesViewController Image)
    (user : String) (data : DocumentData) : Option OrderData := do
  let submission ← (controller.didTapCheckout.didTapSubmitOrder (some user)).1
  submission.documentFetched { document := some { data }, error := none }

theorem ServicesViewController.orderDocument_eq (controller : ServicesViewController Image)
    (user : String) (data : DocumentData) :
    controller.orderDocument user data =
      some (orderData { data } controller.selectedServices controller.totalPrice) := rfl

/-- With pairwise distinct titles, the rows of a loaded catalogue are told
apart by their titles. -/
theorem Call.Completes.eq_of_title {platform : Platform Image} {call : Call}
    {viewModel : ServicesViewModel Image} (hload : call.Completes platform {} viewModel)
    (htitles : (call.returned.map ServiceOptions.title).Nodup) {firstPath secondPath : IndexPath}
    {first second : ServiceOptionModel Image}
    (hfirst : viewModel.optionAt firstPath = some first)
    (hsecond : viewModel.optionAt secondPath = some second) (heq : first.title = second.title) :
    first = second := by
  obtain ⟨-, hpublished⟩ := hload.fresh_spec
  obtain ⟨service, -, hmem⟩ := hload.catalogued.exists_service hfirst
  obtain ⟨other, -, hother⟩ := hload.catalogued.exists_service hsecond
  obtain ⟨option, position, picture, hoption, -, hpicture, rfl⟩ :=
    mem_published_iff.mp ((hpublished service).mem_iff.mp hmem)
  obtain ⟨option', position', picture', hoption', -, hpicture', rfl⟩ :=
    mem_published_iff.mp ((hpublished other).mem_iff.mp hother)
  rw [List.mem_zipIdx_iff_getElem?] at hoption hoption'
  -- Equal titles stand at one place of the query, so the downloads are the same.
  have hposition : position = position' := by
    have hlt : position < (call.returned.map ServiceOptions.title).length := by
      simpa using (List.getElem?_eq_some_iff.mp hoption).1
    apply (List.getElem?_inj hlt htitles).mp
    rw [List.getElem?_map, List.getElem?_map, hoption, hoption']
    exact congrArg some heq
  subst hposition
  obtain rfl : option = option' := Option.some.inj (hoption.symm.trans hoption')
  obtain rfl : picture = picture' := Option.some.inj (hpicture.symm.trans hpicture')
  rfl

theorem Accounts.charged_cart {viewModel : ServicesViewModel Image}
    {controller : ServicesViewController Image} {confirmations : List Confirmation}
    {cart : Cart Image} (haccounts : Accounts viewModel controller confirmations cart) :
    cart.Charged := by
  intro line hline hsingle
  obtain ⟨confirmation, -, hof⟩ := haccounts.exists_confirmation hline
  exact hof.single hsingle

/-- The quantities of a cart are those of its confirmations. -/
theorem Accounts.quantities {viewModel : ServicesViewModel Image}
    {controller : ServicesViewController Image} {confirmations : List Confirmation}
    {cart : Cart Image} (haccounts : Accounts viewModel controller confirmations cart) :
    cart.map CartLine.quantity = confirmations.map Confirmation.quantity := by
  obtain ⟨hlines, -, -⟩ := haccounts
  clear controller
  induction hlines with
  | nil => rfl
  | cons hline _ ih => rw [List.map_cons, List.map_cons, hline.quantity, ih]

/-- Carts of a catalogue with distinct titles are told apart by the titles of
their options. -/
theorem options_eq_of_titles {platform : Platform Image} {call : Call}
    {viewModel : ServicesViewModel Image} (hload : call.Completes platform {} viewModel)
    (htitles : (call.returned.map ServiceOptions.title).Nodup) {first second : Cart Image}
    (hfirst : ∀ line ∈ first, ∃ indexPath, viewModel.optionAt indexPath = some line.option)
    (hsecond : ∀ line ∈ second, ∃ indexPath, viewModel.optionAt indexPath = some line.option)
    (heq : first.options.map ServiceOptionModel.title =
      second.options.map ServiceOptionModel.title) :
    first.options = second.options := by
  induction first generalizing second with
  | nil =>
      cases second with
      | nil => rfl
      | cons line rest => cases heq
  | cons line rest ih =>
      cases second with
      | nil => cases heq
      | cons other later =>
          simp only [Cart.options_cons, List.map_cons, List.cons.injEq] at heq
          obtain ⟨firstPath, hline⟩ := hfirst line List.mem_cons_self
          obtain ⟨secondPath, hother⟩ := hsecond other List.mem_cons_self
          have htail := ih (fun line hline => hfirst line (List.mem_cons_of_mem _ hline))
            (fun line hline => hsecond line (List.mem_cons_of_mem _ hline)) heq.2
          rw [Cart.options_cons, Cart.options_cons,
            hload.eq_of_title htitles hline hother heq.1, htail]

/-- Two uses of a catalogue with distinct titles and positive prices lead to
the same order document if and only if their carts have the same options in the
same order and the same sum over the lines priced for each person. With at most
one such line, the document determines the cart. -/
theorem order_document_eq_iff (platform : Platform Image) (call : Call)
    (viewModel : ServicesViewModel Image) (hload : call.Completes platform {} viewModel)
    (htitles : (call.returned.map ServiceOptions.title).Nodup)
    (hprices : ∀ option ∈ call.returned, 0 < option.price)
    (firstActions secondActions : List UserAction) (first second : ServicesScreen Image)
    (hfirst : Machine.run (ServicesScreen.step platform)
      (ServicesScreen.loaded call.event viewModel) firstActions = some first)
    (hsecond : Machine.run (ServicesScreen.step platform)
      (ServicesScreen.loaded call.event viewModel) secondActions = some second)
    (user : String) (data : DocumentData) :
    ∃ firstCart secondCart,
      Accounts viewModel first.controller (Machine.outputs (ServicesScreen.step platform)
        (ServicesScreen.confirmed platform) (ServicesScreen.loaded call.event viewModel)
        firstActions) firstCart ∧
      Accounts viewModel second.controller (Machine.outputs (ServicesScreen.step platform)
        (ServicesScreen.confirmed platform) (ServicesScreen.loaded call.event viewModel)
        secondActions) secondCart ∧
      (first.controller.orderDocument user data = second.controller.orderDocument user data ↔
        firstCart.options = secondCart.options ∧
        firstCart.perPerson.total = secondCart.perPerson.total) ∧
      (first.controller.orderDocument user data = second.controller.orderDocument user data →
        firstCart.perPerson.length ≤ 1 → firstCart = secondCart) := by
  obtain ⟨firstCart, haccounts⟩ := (cartInvariant_run hload.catalogued hfirst).accounts
  obtain ⟨secondCart, haccounts'⟩ := (cartInvariant_run hload.catalogued hsecond).accounts
  have hdocuments : first.controller.orderDocument user data =
      second.controller.orderDocument user data ↔
      firstCart.options = secondCart.options ∧
      firstCart.perPerson.total = secondCart.perPerson.total := by
    rw [ServicesViewController.orderDocument_eq, ServicesViewController.orderDocument_eq,
      Option.some.injEq]
    simp only [orderData, haccounts.2.1, haccounts.2.2, haccounts'.2.1, haccounts'.2.2,
      OrderData.mk.injEq, true_and]
    constructor
    · rintro ⟨htitle, htotal⟩
      have hoptions : firstCart.options = secondCart.options :=
        options_eq_of_titles hload htitles haccounts.exists_optionAt haccounts'.exists_optionAt
          htitle
      exact ⟨hoptions, (haccounts.charged_cart.total_eq_iff haccounts'.charged_cart
        hoptions).mp htotal⟩
    · rintro ⟨hoptions, htotal⟩
      exact ⟨by rw [hoptions], (haccounts.charged_cart.total_eq_iff haccounts'.charged_cart
        hoptions).mpr htotal⟩
  refine ⟨firstCart, secondCart, haccounts, haccounts', hdocuments, fun heq hone => ?_⟩
  obtain ⟨hoptions, htotal⟩ := hdocuments.mp heq
  exact haccounts.charged_cart.eq_of_perPerson haccounts'.charged_cart hoptions
    (haccounts.price_pos hload hprices) hone htotal

/-- A catalogue with two bars, at ten and at twenty for each person. -/
def twoBarsCall : Call where
  event := .wedding
  collection _ :=
    { snapshot := some [
        ServiceOptions.encode ⟨"Soft", 10, "wedding", "BAR", "gs://fly/bar/1.png", "1"⟩,
        ServiceOptions.encode ⟨"Open", 20, "wedding", "BAR", "gs://fly/bar/2.png", "2"⟩]
      error := none }
  getData _ := GetDataReply.ofData

/-- The view model that a load of the catalogue leaves. -/
def twoBars : ServicesViewModel Unit := twoBarsCall.loadedInOrder Platform.plain {}

theorem twoBarsCall_completes : twoBarsCall.Completes Platform.plain {} twoBars :=
  twoBarsCall.completes_loadedInOrder Platform.plain {}

/-- Confirming both bars, each for its own number of people. -/
def bothBarsFor (soft spirits : String) : List UserAction :=
  [.didSelectRow ⟨0, 1⟩, .didTapCartButton, .didTapOK (some soft), .didDismissSheet,
    .didSelectRow ⟨1, 1⟩, .didTapCartButton, .didTapOK (some spirits), .didDismissSheet]

theorem order_document_eq_iff_twoBars :
    ∃ first second, Machine.run (ServicesScreen.step Platform.plain)
        (ServicesScreen.loaded .wedding twoBars) (bothBarsFor "3" "1") = some first ∧
      Machine.run (ServicesScreen.step Platform.plain)
        (ServicesScreen.loaded .wedding twoBars) (bothBarsFor "1" "2") = some second ∧
      ∃ firstCart secondCart : Cart Unit, firstCart.options = secondCart.options ∧
        firstCart.perPerson.total = secondCart.perPerson.total := by
  refine ⟨_, _, rfl, rfl, ?_⟩
  obtain ⟨firstCart, secondCart, -, -, hiff, -⟩ :=
    order_document_eq_iff Platform.plain twoBarsCall twoBars twoBarsCall_completes (by decide)
      (by decide) (bothBarsFor "3" "1") (bothBarsFor "1" "2") _ _ rfl rfl "uid" fun _ => none
  exact ⟨firstCart, secondCart, hiff.mp rfl⟩

/-- Three people at ten and one at twenty, or one at ten and two at twenty: the
carts differ, and every user's order documents for them are the same. -/
theorem twoBars_same_document :
    ∃ first second firstCart secondCart,
      Machine.run (ServicesScreen.step Platform.plain)
        (ServicesScreen.loaded .wedding twoBars) (bothBarsFor "3" "1") = some first ∧
      Machine.run (ServicesScreen.step Platform.plain)
        (ServicesScreen.loaded .wedding twoBars) (bothBarsFor "1" "2") = some second ∧
      Accounts twoBars first.controller (Machine.outputs (ServicesScreen.step Platform.plain)
        (ServicesScreen.confirmed Platform.plain) (ServicesScreen.loaded .wedding twoBars)
        (bothBarsFor "3" "1")) firstCart ∧
      Accounts twoBars second.controller (Machine.outputs (ServicesScreen.step Platform.plain)
        (ServicesScreen.confirmed Platform.plain) (ServicesScreen.loaded .wedding twoBars)
        (bothBarsFor "1" "2")) secondCart ∧
      (∀ user data, first.controller.orderDocument user data =
        second.controller.orderDocument user data) ∧
      firstCart ≠ secondCart := by
  have haccounts : ∀ actions screen, Machine.run (ServicesScreen.step Platform.plain)
      (ServicesScreen.loaded .wedding twoBars) actions = some screen →
      ∃ cart, Accounts twoBars screen.controller _ cart :=
    fun _ _ hrun => (cartInvariant_run twoBarsCall_completes.catalogued hrun).accounts
  obtain ⟨firstCart, hfirst⟩ := haccounts (bothBarsFor "3" "1") _ rfl
  obtain ⟨secondCart, hsecond⟩ := haccounts (bothBarsFor "1" "2") _ rfl
  refine ⟨_, _, firstCart, secondCart, rfl, rfl, hfirst, hsecond, fun _ _ => rfl, ?_⟩
  rintro rfl
  have hquantities := hfirst.quantities.symm.trans hsecond.quantities
  exact absurd hquantities (by decide)

end FlyEvents
