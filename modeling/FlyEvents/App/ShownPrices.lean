import FlyEvents.Backend.PriceDatabase
import FlyEvents.ViewControllers.CartAccounting

/-! # The price shown and the price charged

A sheet shows the price of its description, and a confirmation charges the price
of its option. The two come from two queries, which are answered at different
moments, while an administrator may change prices at any time.
-/

namespace FlyEvents

variable {Image : Type}

/-- The call of the loader behind a DJ or a BAR sheet. -/
inductive SheetLoad (Image : Type)
  | dj (chain : DownloadChain Image (DjDescriptionViewModel Image))
  | bar (chain : DownloadChain Image (BarDescriptionViewModel Image))

/-- The callback of the download that the chain waits for. -/
def DownloadChain.resume {ViewModel : Type} (image : Option Image) :
    DownloadChain Image ViewModel → Option (DownloadChain Image ViewModel)
  | .downloadImage _ _ callback => some (callback image)
  | .completion _ _ => none

namespace SheetLoad

/-- The load of a sheet whose query was answered; only two sheets show a price. -/
def fetched (service : Service) (reply : DescriptionReply) : Option (SheetLoad Image) :=
  match service with
  | .dj => some (.dj (({} : DjDescriptionViewModel Image).getDjDescription reply))
  | .bar => some (.bar (({} : BarDescriptionViewModel Image).getBarDescription reply))
  | _ => none

def resume (image : Option Image) : SheetLoad Image → Option (SheetLoad Image)
  | .dj chain => (chain.resume image).map .dj
  | .bar chain => (chain.resume image).map .bar

/-- The price whose label `updateUI` shows once the load has reported success. -/
def shownPrice : SheetLoad Image → Option Int
  | .dj (.completion viewModel true) => viewModel.model.map DjDescriptionModel.price
  | .bar (.completion viewModel true) => viewModel.model.map BarDescriptionModel.price
  | _ => none

end SheetLoad

/-- A customer and an administrator: the database, the catalogue screen, the
database as the query of the catalogue found it, and the load of the presented
sheet with the database as its query found it. -/
structure Shop (Image : Type) where
  database : Database
  screen : ServicesScreen Image
  catalogue : Option (Database × Option BackendError) := none
  load : Option (Database × SheetLoad Image) := none

inductive ShopAction
  | priceUpdated (id : String) (price : Int)
  | servicesFetched (error : Option BackendError)
  | catalogueLoaded (getData : Nat → GetDataReply) (schedule : List TaskGroup.Action)
  | user (action : UserAction)
  | descriptionFetched (error : Option BackendError)
  | imageDownloaded (reply : GetDataReply)

namespace Shop

/-- The call of the catalogue load whose query found the given database. -/
def call (shop : Shop Image) (found : Database × Option BackendError)
    (getData : Nat → GetDataReply) : Call where
  event := shop.screen.controller.event
  collection event := found.1.optionsOf found.2 event
  getData := getData

/-- One step. A sheet starts its load when it is presented, and the load is
forgotten with the sheet. -/
def step (platform : Platform Image) : Machine (Shop Image) ShopAction
  | shop, .priceUpdated id price => some { shop with database := shop.database.setPrice id price }
  | shop, .servicesFetched error =>
      match shop.catalogue with
      | none => some { shop with catalogue := some (shop.database, error) }
      | some _ => none
  | shop, .catalogueLoaded getData schedule => do
      let found ← shop.catalogue
      let call := shop.call found getData
      let config ← (ServicesViewModel.populateServicesModels platform getData).step.run
        (shop.screen.controller.viewModel.getServices call.collection call.event) schedule
      if shop.screen.controller.sectionButtonsEnabled = false ∧ config.phase = .finished then
        some { shop with
          screen := { shop.screen with
            controller := shop.screen.controller.loadAllData config.store.viewModel } }
      else none
  | shop, .user action => do
      let screen ← shop.screen.step platform action
      return { shop with
        screen, load := if screen.presented = shop.screen.presented then shop.load else none }
  | shop, .descriptionFetched error =>
      match shop.screen.presented, shop.load with
      | some sheet, none => do
          let load ← SheetLoad.fetched sheet.service (shop.database.descriptionsOf error sheet.id)
          return { shop with load := some (shop.database, load) }
      | _, _ => none
  | shop, .imageDownloaded reply => do
      let (found, load) ← shop.load
      let load ← load.resume (downloadImage platform reply)
      return { shop with load := some (found, load) }

/-- The price that the presented sheet shows. -/
def shownPrice (shop : Shop Image) : Option Int := shop.load.bind fun load => load.2.shownPrice

/-- The screen for an event, as it is opened. -/
def opened (database : Database) (event : Event) : Shop Image where
  database := database
  screen := { controller := ServicesViewController.opened event }

/-- What a step can do. -/
inductive Stepped (platform : Platform Image) (shop : Shop Image) :
    ShopAction → Shop Image → Prop
  | priceUpdated {id price} : Stepped platform shop (.priceUpdated id price)
      { shop with database := shop.database.setPrice id price }
  | servicesFetched {error} (hcatalogue : shop.catalogue = none) :
      Stepped platform shop (.servicesFetched error)
        { shop with catalogue := some (shop.database, error) }
  | catalogueLoaded {getData schedule found viewModel} (hcatalogue : shop.catalogue = some found)
      (hfirst : shop.screen.controller.sectionButtonsEnabled = false)
      (hcompletes : (shop.call found getData).Completes platform
        shop.screen.controller.viewModel viewModel) :
      Stepped platform shop (.catalogueLoaded getData schedule) { shop with
        screen := { shop.screen with
          controller := shop.screen.controller.loadAllData viewModel } }
  | user {action screen} (hstep : shop.screen.step platform action = some screen) :
      Stepped platform shop (.user action) { shop with
        screen, load := if screen.presented = shop.screen.presented then shop.load else none }
  | descriptionFetched {error sheet load} (hpresented : shop.screen.presented = some sheet)
      (hload : shop.load = none)
      (hfetched : SheetLoad.fetched sheet.service
        (shop.database.descriptionsOf error sheet.id) = some load) :
      Stepped platform shop (.descriptionFetched error)
        { shop with load := some (shop.database, load) }
  | imageDownloaded {reply found load next} (hload : shop.load = some (found, load))
      (hresume : load.resume (downloadImage platform reply) = some next) :
      Stepped platform shop (.imageDownloaded reply) { shop with load := some (found, next) }

theorem step_cases {platform : Platform Image} {shop next : Shop Image} {action : ShopAction}
    (hstep : shop.step platform action = some next) : Stepped platform shop action next := by
  cases action with
  | priceUpdated id price =>
      cases hstep
      exact .priceUpdated
  | servicesFetched error =>
      simp only [step] at hstep
      split at hstep
      next hcatalogue =>
        cases hstep
        exact .servicesFetched hcatalogue
      next => cases hstep
  | catalogueLoaded getData schedule =>
      obtain ⟨found, hcatalogue, hstep⟩ := Option.bind_eq_some_iff.mp hstep
      obtain ⟨config, hrun, hstep⟩ := Option.bind_eq_some_iff.mp hstep
      split at hstep
      next hready =>
        cases hstep
        exact .catalogueLoaded hcatalogue hready.1 ⟨schedule, config, hrun, hready.2, rfl⟩
      next => cases hstep
  | user action =>
      obtain ⟨screen, hscreen, hnext⟩ := Option.bind_eq_some_iff.mp hstep
      cases hnext
      exact .user hscreen
  | descriptionFetched error =>
      simp only [step] at hstep
      split at hstep
      next sheet hpresented hload =>
        obtain ⟨load, hfetched, hnext⟩ := Option.bind_eq_some_iff.mp hstep
        cases hnext
        exact .descriptionFetched hpresented hload hfetched
      next => cases hstep
  | imageDownloaded reply =>
      obtain ⟨⟨found, load⟩, hload, hstep⟩ := Option.bind_eq_some_iff.mp hstep
      obtain ⟨next, hresume, hnext⟩ := Option.bind_eq_some_iff.mp hstep
      cases hnext
      exact .imageDownloaded hload hresume

end Shop

/-! ## What a load shows -/

/-- Whatever its downloads give, a chain that reports success leaves a view model
with the property. -/
def DownloadChain.Publishes {ViewModel : Type} (good : ViewModel → Prop) :
    DownloadChain Image ViewModel → Prop
  | .completion viewModel success => success = true → good viewModel
  | .downloadImage _ _ callback => ∀ image, Publishes good (callback image)

theorem DownloadChain.Publishes.resume {ViewModel : Type} {good : ViewModel → Prop}
    {chain next : DownloadChain Image ViewModel} {image : Option Image}
    (hpublishes : chain.Publishes good) (hresume : chain.resume image = some next) :
    next.Publishes good := by
  cases chain with
  | completion viewModel success => cases hresume
  | downloadImage viewModel url callback =>
      cases hresume
      exact hpublishes image

/-- Both downloads have to succeed before a model is published. -/
theorem DownloadChain.publishes_twoDownloads {ViewModel : Type} {good : ViewModel → Prop}
    {viewModel : ViewModel} {backgroundImageURL imageURL : String}
    {published : Image → Image → ViewModel}
    (hgood : ∀ backgroundImage image, good (published backgroundImage image)) :
    Publishes good (.downloadImage viewModel backgroundImageURL fun
      | none => .completion viewModel false
      | some backgroundImage => .downloadImage viewModel imageURL fun
          | none => .completion viewModel false
          | some image => .completion (published backgroundImage image) true) := by
  intro backgroundImage
  cases backgroundImage with
  | none => exact fun hsuccess => nomatch hsuccess
  | some backgroundImage =>
      intro image
      cases image with
      | none => exact fun hsuccess => nomatch hsuccess
      | some image => exact fun _ => hgood backgroundImage image

/-- A call that finds no description publishes nothing. -/
theorem DownloadChain.publishes_getDescription {Description Model : Type}
    {good : DescriptionViewModel Description Model → Prop}
    {initFrom : DescriptionContainer → Option Description} {reply : DescriptionReply}
    {viewModel : DescriptionViewModel Description Model}
    {populate : Description → DescriptionViewModel Description Model →
      DownloadChain Image (DescriptionViewModel Description Model)}
    (hgood : ∀ description, reply.decodes initFrom = some description →
      ∀ viewModel, (populate description viewModel).Publishes good) :
    (DescriptionViewModel.getDescription (fetchDescription initFrom reply viewModel)
      populate).Publishes good := by
  unfold DescriptionViewModel.getDescription
  rw [fetchDescription_description]
  cases hdecodes : reply.decodes initFrom with
  | none => exact fun hsuccess => nomatch hsuccess
  | some description => exact hgood description hdecodes _

/-- The load shows no other price than this one. -/
def SheetLoad.Shows (price : Int) : SheetLoad Image → Prop
  | .dj chain => chain.Publishes fun viewModel =>
      viewModel.model.map DjDescriptionModel.price = some price
  | .bar chain => chain.Publishes fun viewModel =>
      viewModel.model.map BarDescriptionModel.price = some price

namespace SheetLoad

theorem Shows.eq_of_shownPrice {price shown : Int} {load : SheetLoad Image}
    (hshows : load.Shows price) (hshown : load.shownPrice = some shown) : shown = price := by
  cases load with
  | dj chain =>
      cases chain with
      | downloadImage viewModel url callback => cases hshown
      | completion viewModel success =>
          cases success with
          | false => cases hshown
          | true => exact Option.some.inj (hshown.symm.trans (hshows rfl))
  | bar chain =>
      cases chain with
      | downloadImage viewModel url callback => cases hshown
      | completion viewModel success =>
          cases success with
          | false => cases hshown
          | true => exact Option.some.inj (hshown.symm.trans (hshows rfl))

theorem Shows.resume {price : Int} {load next : SheetLoad Image} {image : Option Image}
    (hshows : load.Shows price) (hresume : load.resume image = some next) : next.Shows price := by
  cases load with
  | dj chain =>
      obtain ⟨chain, hchain, rfl⟩ := Option.map_eq_some_iff.mp hresume
      exact DownloadChain.Publishes.resume hshows hchain
  | bar chain =>
      obtain ⟨chain, hchain, rfl⟩ := Option.map_eq_some_iff.mp hresume
      exact DownloadChain.Publishes.resume hshows hchain

theorem shows_dj {database : Database} {error : Option BackendError} {id : String} :
    (dj (({} : DjDescriptionViewModel Image).getDjDescription
      (database.descriptionsOf error id))).Shows (database.price id) := by
  refine DownloadChain.publishes_getDescription fun description hdecodes viewModel => ?_
  have hprice := price_of_decodes (fun _ _ => DjDescription.decodeInt_price) hdecodes
  exact DownloadChain.publishes_twoDownloads fun _ _ => congrArg some hprice

theorem shows_bar {database : Database} {error : Option BackendError} {id : String} :
    (bar (({} : BarDescriptionViewModel Image).getBarDescription
      (database.descriptionsOf error id))).Shows (database.price id) := by
  refine DownloadChain.publishes_getDescription fun description hdecodes viewModel => ?_
  have hprice := price_of_decodes (fun _ _ => BarDescription.decodeInt_price) hdecodes
  exact DownloadChain.publishes_twoDownloads fun _ _ => congrArg some hprice

/-- A sheet shows the price that its query found for its id. -/
theorem shows_fetched {service : Service} {database : Database} {error : Option BackendError}
    {id : String} {load : SheetLoad Image}
    (hfetched : fetched service (database.descriptionsOf error id) = some load) :
    load.Shows (database.price id) := by
  cases service with
  | dj =>
      cases hfetched
      exact shows_dj
  | bar =>
      cases hfetched
      exact shows_bar
  | foto => cases hfetched
  | decor => cases hfetched

end SheetLoad

end FlyEvents
