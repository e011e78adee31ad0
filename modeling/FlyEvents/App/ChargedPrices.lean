import FlyEvents.App.ShownPrices

/-! # Prices and the moments they were read

A confirmation charges the price of the moment when the query of the catalogue
was answered, and its sheet shows the price of the moment when the query of the
sheet was answered. The results here follow both prices to these moments.
-/

namespace FlyEvents

variable {Image : Type}

/-- Among the actions taken, the query of the catalogue was answered from this
database; the later actions are `since`. -/
def CatalogueRead (platform : Platform Image) (start : Shop Image) (taken : List ShopAction)
    (found : Database) (since : List ShopAction) : Prop :=
  ∃ before error shop, taken = before ++ .servicesFetched error :: since ∧
    Machine.run (Shop.step platform) start before = some shop ∧ shop.database = found

/-- Among the actions taken, the last query of a sheet was answered from the
second database, and before it, with the actions `between` in the meantime, the
query of the catalogue from the first. -/
def SheetRead (platform : Platform Image) (start : Shop Image) (taken : List ShopAction)
    (first second : Database) (between : List ShopAction) : Prop :=
  ∃ before error after shop, taken = before ++ .descriptionFetched error :: after ∧
    (∀ later, .descriptionFetched later ∉ after) ∧
    CatalogueRead platform start before first between ∧
    Machine.run (Shop.step platform) start before = some shop ∧ shop.database = second

section Reads

variable {platform : Platform Image} {start : Shop Image} {taken : List ShopAction}

theorem CatalogueRead.append {found : Database} {since : List ShopAction}
    (hread : CatalogueRead platform start taken found since) (action : ShopAction) :
    CatalogueRead platform start (taken ++ [action]) found (since ++ [action]) := by
  obtain ⟨before, error, shop, rfl, hrun, hfound⟩ := hread
  exact ⟨before, error, shop, by simp, hrun, hfound⟩

theorem SheetRead.append {first second : Database} {between : List ShopAction}
    (hread : SheetRead platform start taken first second between) {action : ShopAction}
    (hother : ∀ error, action ≠ .descriptionFetched error) :
    SheetRead platform start (taken ++ [action]) first second between := by
  obtain ⟨before, error, after, shop, rfl, hlast, hcatalogue, hrun, hsecond⟩ := hread
  refine ⟨before, error, after ++ [action], shop, by simp, ?_, hcatalogue, hrun, hsecond⟩
  intro later hmem
  rcases List.mem_append.mp hmem with hmem | hmem
  · exact hlast later hmem
  · exact hother later (List.mem_singleton.mp hmem).symm

/-- Only an update of an id changes the price of the id. -/
theorem price_of_step {shop next : Shop Image} {action : ShopAction} {id : String}
    (hstep : shop.step platform action = some next)
    (hother : ∀ price, action ≠ .priceUpdated id price) :
    next.database.price id = shop.database.price id := by
  cases Shop.step_cases hstep with
  | @priceUpdated updated price =>
      refine Database.setPrice_price_ne shop.database ?_ price
      rintro rfl
      exact hother price rfl
  | _ => rfl

theorem price_of_run {id : String} {finish : Shop Image}
    (hrun : Machine.run (Shop.step platform) start taken = some finish)
    (hother : ∀ price, .priceUpdated id price ∉ taken) :
    finish.database.price id = start.database.price id := by
  refine Machine.run_trace_invariant
    (fun taken shop => (∀ price, .priceUpdated id price ∉ taken) →
      shop.database.price id = start.database.price id) ?_ (fun _ => rfl) hrun hother
  intro taken shop action next _ ih hstep hother
  simp only [List.mem_append, List.mem_singleton, not_or] at hother
  have hlast := price_of_step hstep fun price heq => (hother price).2 heq.symm
  rw [hlast]
  exact ih fun price => (hother price).1

/-- Without an update of the id in the meantime both queries found one price. -/
theorem SheetRead.price_eq {first second : Database} {between : List ShopAction} {id : String}
    (hread : SheetRead platform start taken first second between)
    (hother : ∀ price, .priceUpdated id price ∉ between) :
    first.price id = second.price id := by
  obtain ⟨_, _, _, shop, -, -, ⟨before, error, earlier, rfl, hbefore, rfl⟩, hrun, rfl⟩ := hread
  obtain ⟨middle, hmiddle, hrest⟩ := Machine.run_append_eq_some_iff.mp hrun
  obtain rfl := Option.some.inj (hbefore.symm.trans hmiddle)
  refine (price_of_run hrest ?_).symm
  simpa using hother

end Reads

/-- Every row of the catalogue has the price that the database has for its id. -/
def ServicesViewModel.PricedBy (viewModel : ServicesViewModel Image) (database : Database) :
    Prop :=
  ∀ indexPath option, viewModel.optionAt indexPath = some option →
    option.price = database.price option.id

theorem Shop.pricedBy_of_completes {platform : Platform Image} {shop : Shop Image}
    {found : Database × Option BackendError} {getData : Nat → GetDataReply}
    {viewModel : ServicesViewModel Image}
    (hload : (shop.call found getData).Completes platform {} viewModel) :
    viewModel.PricedBy found.1 := by
  intro indexPath option hoption
  obtain ⟨service, -, hmem⟩ := hload.catalogued.exists_service hoption
  obtain ⟨-, hpublished⟩ := hload.fresh_spec
  obtain ⟨returned, position, picture, hreturned, -, -, rfl⟩ :=
    mem_published_iff.mp ((hpublished service).mem_iff.mp hmem)
  have hreturned : returned ∈ (shop.call found getData).returned :=
    List.mem_of_getElem? (List.mem_zipIdx_iff_getElem?.mp hreturned)
  unfold Call.returned at hreturned
  split at hreturned
  next =>
    obtain ⟨container, hcontainer, hdecoded⟩ := List.mem_filterMap.mp hreturned
    obtain ⟨document, -, rfl⟩ := List.mem_map.mp hcontainer
    exact price_of_initFrom hdecoded
  next => cases hreturned

/-- The screen is as it was opened, or shows the catalogue with the prices of the
answer to its query. -/
def CatalogueShown (catalogue : Option (Database × Option BackendError))
    (screen : ServicesScreen Image) : Prop :=
  ∃ confirmations, screen.Used
    (fun viewModel => ∃ found, catalogue = some found ∧ viewModel.PricedBy found.1) confirmations

theorem CatalogueShown.user {platform : Platform Image}
    {catalogue : Option (Database × Option BackendError)} {screen next : ServicesScreen Image}
    {action : UserAction} (hshows : CatalogueShown catalogue screen)
    (hstep : screen.step platform action = some next) : CatalogueShown catalogue next := by
  obtain ⟨confirmations, hused⟩ := hshows
  exact ⟨_, hused.step hstep⟩

theorem CatalogueShown.catalogueLoaded {platform : Platform Image} {shop : Shop Image}
    {found : Database × Option BackendError} {getData : Nat → GetDataReply}
    {viewModel : ServicesViewModel Image} (hshows : CatalogueShown (some found) shop.screen)
    (hfirst : shop.screen.controller.sectionButtonsEnabled = false)
    (hload : (shop.call found getData).Completes platform shop.screen.controller.viewModel
      viewModel) :
    CatalogueShown (some found) { shop.screen with
      controller := shop.screen.controller.loadAllData viewModel } := by
  obtain ⟨confirmations, hused⟩ := hshows
  exact ⟨confirmations, hused.loadAllData hfirst hload fun hcompletes =>
    ⟨found, rfl, Shop.pricedBy_of_completes hcompletes⟩⟩

/-- Where a sheet is presented the catalogue was read, and the option at the row of
the sheet has the price that the answer has for the id of the sheet. -/
theorem CatalogueShown.exists_price {catalogue : Option (Database × Option BackendError)}
    {screen : ServicesScreen Image} {sheet : DescriptionViewController}
    (hshows : CatalogueShown catalogue screen) (hpresented : screen.presented = some sheet) :
    ∃ found, catalogue = some found ∧ ∀ option,
      screen.controller.viewModel.optionAt sheet.indexPath = some option →
        option.price = found.1.price sheet.id := by
  obtain ⟨confirmations, hused⟩ := hshows
  cases hused with
  | opened _ hclosed => exact absurd (hclosed.symm.trans hpresented) (by simp)
  | loaded hloads _ hcart _ =>
      obtain ⟨found, hfound, hpriced⟩ := hloads
      refine ⟨found, hfound, fun option hoption => ?_⟩
      obtain ⟨opened, hopened, hid, -⟩ := hcart.opened sheet hpresented
      rw [hcart.catalogue] at hoption
      obtain rfl := Option.some.inj (hopened.symm.trans hoption)
      rw [hpriced _ _ hoption, hid]

/-- What holds of a shop after the actions taken: which answers its catalogue
and its sheet come from. -/
structure ReadInvariant (platform : Platform Image) (start : Shop Image)
    (taken : List ShopAction) (shop : Shop Image) : Prop where
  screen : CatalogueShown shop.catalogue shop.screen
  catalogue : ∀ found error, shop.catalogue = some (found, error) →
    ∃ since, CatalogueRead platform start taken found since
  load : ∀ second load, shop.load = some (second, load) → ∃ sheet first error between,
    shop.screen.presented = some sheet ∧ shop.catalogue = some (first, error) ∧
    SheetRead platform start taken first second between ∧ load.Shows (second.price sheet.id)

namespace ReadInvariant

variable {platform : Platform Image} {start shop : Shop Image} {taken : List ShopAction}

theorem catalogue_append (hinvariant : ReadInvariant platform start taken shop)
    (action : ShopAction) (found : Database) (error : Option BackendError)
    (hcatalogue : shop.catalogue = some (found, error)) :
    ∃ since, CatalogueRead platform start (taken ++ [action]) found since := by
  obtain ⟨since, hread⟩ := hinvariant.catalogue found error hcatalogue
  exact ⟨since ++ [action], hread.append action⟩

theorem load_append {next : Shop Image} {action : ShopAction}
    (hinvariant : ReadInvariant platform start taken shop)
    (hstep : shop.step platform action = some next) (second : Database) (load : SheetLoad Image)
    (hload : shop.load = some (second, load)) :
    ∃ sheet first error between, shop.screen.presented = some sheet ∧
      shop.catalogue = some (first, error) ∧
      SheetRead platform start (taken ++ [action]) first second between ∧
      load.Shows (second.price sheet.id) := by
  obtain ⟨sheet, first, error, between, hpresented, hcatalogue, hread, hshows⟩ :=
    hinvariant.load second load hload
  have hother : ∀ error, action ≠ .descriptionFetched error := by
    rintro error rfl
    cases Shop.step_cases hstep with
    | descriptionFetched _ hnone _ => exact absurd (hnone.symm.trans hload) (by simp)
  exact ⟨sheet, first, error, between, hpresented, hcatalogue, hread.append hother, hshows⟩

theorem step {next : Shop Image} {action : ShopAction}
    (hrun : Machine.run (Shop.step platform) start taken = some shop)
    (hinvariant : ReadInvariant platform start taken shop)
    (hstep : shop.step platform action = some next) :
    ReadInvariant platform start (taken ++ [action]) next := by
  have hcatalogues := hinvariant.catalogue_append action
  have hloads := hinvariant.load_append hstep
  obtain ⟨hscreen, hread, hload⟩ := hinvariant
  cases Shop.step_cases hstep with
  | priceUpdated => exact ⟨hscreen, hcatalogues, hloads⟩
  | @servicesFetched error hnone =>
      refine ⟨?_, ?_, ?_⟩
      · obtain ⟨confirmations, hused⟩ := hscreen
        refine ⟨confirmations, hused.mono ?_⟩
        rintro viewModel ⟨found, hfound, -⟩
        exact absurd (hnone.symm.trans hfound) (by simp)
      · rintro _ _ ⟨⟩
        exact ⟨[], taken, error, shop, rfl, hrun, rfl⟩
      · intro second load hsome
        obtain ⟨_, _, _, _, -, hcatalogue, -⟩ := hload second load hsome
        exact absurd (hnone.symm.trans hcatalogue) (by simp)
  | catalogueLoaded hcatalogue hfirst hcompletes =>
      rw [hcatalogue] at hscreen
      exact ⟨hcatalogue ▸ hscreen.catalogueLoaded hfirst hcompletes, hcatalogues, hloads⟩
  | user huser =>
      refine ⟨hscreen.user huser, hcatalogues, ?_⟩
      intro second load hsome
      split at hsome
      next hsame =>
        obtain ⟨sheet, first, error, between, hpresented, hrest⟩ := hloads second load hsome
        exact ⟨sheet, first, error, between, hsame.trans hpresented, hrest⟩
      next => cases hsome
  | @descriptionFetched error sheet load hpresented hnone hfetched =>
      refine ⟨hscreen, hcatalogues, ?_⟩
      rintro _ _ ⟨⟩
      -- A sheet is presented, so the query of the catalogue was answered before.
      obtain ⟨found, hcatalogue, -⟩ := hscreen.exists_price hpresented
      obtain ⟨since, hfound⟩ := hread found.1 found.2 hcatalogue
      exact ⟨sheet, found.1, found.2, since, hpresented, hcatalogue,
        ⟨taken, error, [], shop, rfl, by simp, hfound, hrun, rfl⟩,
        SheetLoad.shows_fetched hfetched⟩
  | imageDownloaded hsome hresume =>
      refine ⟨hscreen, hcatalogues, ?_⟩
      rintro _ _ ⟨⟩
      obtain ⟨sheet, first, error, between, hpresented, hcatalogue, hread, hshows⟩ :=
        hloads _ _ hsome
      exact ⟨sheet, first, error, between, hpresented, hcatalogue, hread, hshows.resume hresume⟩

end ReadInvariant

/-- A confirmation charges the option at the row of the presented sheet. -/
theorem ServicesScreen.exists_charge_of_confirmed {platform : Platform Image}
    {screen next : ServicesScreen Image} {action : UserAction} {confirmation : Confirmation}
    (hstep : screen.step platform action = some next)
    (hconfirmed : confirmation ∈ screen.confirmed platform action) :
    screen.presented = some confirmation.sheet ∧ ∃ option,
      screen.controller.viewModel.optionAt confirmation.sheet.indexPath = some option ∧
      next.controller.totalPrice =
        screen.controller.totalPrice + confirmation.quantity * option.price := by
  cases ServicesScreen.step_cases hstep with
  | @didConfirm sheet controller hpresented hnone hbar hadd =>
      obtain ⟨option, hoption, -, rfl⟩ := ServicesViewController.addToCart_eq_some_iff.mp hadd
      obtain rfl : confirmation = { sheet, quantity := 1 } := by
        simpa [confirmed, hpresented, hbar] using hconfirmed
      exact ⟨hpresented, option, hoption, by simp⟩
  | @didAnswer _ number alert sheet controller success hanswer hsome hpresented hadd =>
      rw [confirmed_of_answer hanswer hpresented] at hconfirmed
      cases number with
      | none => cases hconfirmed
      | some number =>
          obtain ⟨option, hoption, -, -, rfl, -⟩ :=
            ServicesViewController.barNumberOfPeople_some_eq_some_iff.mp hadd
          obtain rfl : confirmation = { sheet, quantity := number } := by
            simpa using hconfirmed
          exact ⟨hpresented, option, hoption, rfl⟩
  | @didOpenAlert sheet hpresented hnone hbar => simp [confirmed, hpresented, hbar] at hconfirmed
  | _ => cases hconfirmed

/-- In every run, a confirmation charges each unit at the price that the query of
the catalogue found for the id of the sheet. If the sheet shows a price, it is the
one that the later query of the sheet found for the same id, and the two are equal
if no update of the id came between the queries. -/
theorem charged_as_read (platform : Platform Image) (database : Database) (event : Event)
    (actions : List ShopAction) (shop next : Shop Image) (action : UserAction)
    (confirmation : Confirmation)
    (hrun : Machine.run (Shop.step platform) (Shop.opened database event) actions = some shop)
    (hstep : shop.step platform (.user action) = some next)
    (hconfirmed : confirmation ∈ shop.screen.confirmed platform action) :
    ∃ charged first since,
      next.screen.controller.totalPrice =
        shop.screen.controller.totalPrice + confirmation.quantity * charged ∧
      CatalogueRead platform (Shop.opened database event) actions first since ∧
      charged = first.price confirmation.sheet.id ∧
      ∀ shown, shop.shownPrice = some shown → ∃ second between,
        SheetRead platform (Shop.opened database event) actions first second between ∧
        shown = second.price confirmation.sheet.id ∧
        ((∀ price, .priceUpdated confirmation.sheet.id price ∉ between) → charged = shown) := by
  have hstart : ReadInvariant platform (Shop.opened database event) []
      (Shop.opened database event : Shop Image) :=
    { screen := ⟨[], .begun _ event⟩
      catalogue := fun _ _ hnone => (by cases hnone)
      load := fun _ _ hnone => (by cases hnone) }
  have hinvariant := Machine.run_trace_invariant
    (ReadInvariant platform (Shop.opened database event))
    (fun _ _ _ _ hrun hinvariant hstep => hinvariant.step hrun hstep) hstart hrun
  cases Shop.step_cases hstep with
  | user huser =>
      obtain ⟨hsheet, option, hoption, htotal⟩ :=
        ServicesScreen.exists_charge_of_confirmed huser hconfirmed
      obtain ⟨⟨first, error⟩, hcatalogue, hprice⟩ := hinvariant.screen.exists_price hsheet
      have hcharged : option.price = first.price confirmation.sheet.id := hprice option hoption
      obtain ⟨since, hread⟩ := hinvariant.catalogue first error hcatalogue
      refine ⟨option.price, first, since, htotal, hread, hcharged, fun shown hshown => ?_⟩
      obtain ⟨⟨second, load⟩, hload, hshown⟩ := Option.bind_eq_some_iff.mp hshown
      obtain ⟨sheet, found, _, between, hpresented, hfound, hsheetRead, hshows⟩ :=
        hinvariant.load second load hload
      obtain rfl := Option.some.inj (hpresented.symm.trans hsheet)
      cases hcatalogue.symm.trans hfound
      have hseen := hshows.eq_of_shownPrice hshown
      refine ⟨second, between, hsheetRead, hseen, fun hother => ?_⟩
      rw [hcharged, hseen, hsheetRead.price_eq hother]

/-- The documents of one DJ: an option, and a description with its id. -/
def mixedDatabase : Database where
  options := [ServiceOptions.encode ⟨"Mixed", 300, "wedding", "DJ", "gs://fly/dj/1.png", "1"⟩]
  descriptions :=
    [{ decodeString := fun key =>
         if key = "id" then some "1"
         else if key = "backgroundImageURL" then some "gs://fly/dj/background.png"
         else if key = "imageURL" then some "gs://fly/dj/mixed.png"
         else some "Mixed"
       decodeInt := fun key => if key = "price" then some 300 else none
       decodeStrings := fun _ => none }]
  price _ := 300

def mixedCatalogueLoaded : List ShopAction :=
  [.servicesFetched none,
    .catalogueLoaded (fun _ => GetDataReply.ofData) [.iterate, .register, .callback 0, .notify]]

def mixedSheetLoaded : List ShopAction :=
  [.user (.didSelectRow ⟨0, 0⟩), .descriptionFetched none, .imageDownloaded GetDataReply.ofData,
    .imageDownloaded GetDataReply.ofData]

/-- The price of the DJ is changed before its catalogue is loaded. -/
def dearerBefore : List ShopAction :=
  .priceUpdated "1" 500 :: mixedCatalogueLoaded ++ mixedSheetLoaded

theorem charged_as_read_mixed :
    ∃ shop next : Shop Unit, Machine.run (Shop.step Platform.plain)
        (Shop.opened mixedDatabase .wedding) dearerBefore = some shop ∧
      shop.step Platform.plain (.user .didTapCartButton) = some next ∧
      ∃ charged first second between, next.screen.controller.totalPrice =
          shop.screen.controller.totalPrice + 1 * charged ∧
        SheetRead Platform.plain (Shop.opened mixedDatabase .wedding) dearerBefore first second
          between ∧
        charged = first.price "1" ∧ 500 = second.price "1" ∧
        ((∀ price, .priceUpdated "1" price ∉ between) → charged = 500) := by
  obtain ⟨shop, next, hrun, hstep, hconfirmed, hshown⟩ :
      ∃ shop next : Shop Unit, Machine.run (Shop.step Platform.plain)
          (Shop.opened mixedDatabase .wedding) dearerBefore = some shop ∧
        shop.step Platform.plain (.user .didTapCartButton) = some next ∧
        shop.screen.confirmed Platform.plain .didTapCartButton =
          [{ sheet := ⟨.dj, "1", ⟨0, 0⟩⟩, quantity := 1 }] ∧
        shop.shownPrice = some 500 := ⟨_, _, rfl, rfl, rfl, rfl⟩
  obtain ⟨charged, first, since, htotal, -, hcharged, hsheet⟩ := charged_as_read Platform.plain
    mixedDatabase .wedding dearerBefore shop next .didTapCartButton
    { sheet := ⟨.dj, "1", ⟨0, 0⟩⟩, quantity := 1 } hrun hstep (by simp [hconfirmed])
  obtain ⟨second, between, hread, hprice, hequal⟩ := hsheet 500 hshown
  exact ⟨shop, next, hrun, hstep, charged, first, second, between, htotal, hread, hcharged,
    hprice, hequal⟩

/-- The DJ becomes dearer while its row is on the screen: its sheet shows the new
price, and the old one is charged. -/
theorem mixed_charged_less :
    ∃ shop next : Shop Unit, Machine.run (Shop.step Platform.plain)
        (Shop.opened mixedDatabase .wedding)
        (mixedCatalogueLoaded ++ .priceUpdated "1" 500 :: mixedSheetLoaded) = some shop ∧
      shop.step Platform.plain (.user .didTapCartButton) = some next ∧
      shop.shownPrice = some 500 ∧
      next.screen.controller.totalPrice = shop.screen.controller.totalPrice + 300 :=
  ⟨_, _, rfl, rfl, rfl, rfl⟩

end FlyEvents
