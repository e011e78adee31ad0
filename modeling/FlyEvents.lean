import FlyEvents.Foundation.Machine
import FlyEvents.Foundation.SortBy
import FlyEvents.Foundation.TaskGroup
import FlyEvents.Data.ServiceOptions
import FlyEvents.Data.Cart
import FlyEvents.Data.Login.AlertManager
import FlyEvents.ViewModels.ServicesViewModel
import FlyEvents.ViewModels.CatalogueLoad
import FlyEvents.ViewModels.CatalogueCall
import FlyEvents.ViewModels.CatalogueRuns
import FlyEvents.ViewModels.CatalogueTiming
import FlyEvents.ViewModels.CatalogueReload
import FlyEvents.ViewModels.CheckoutViewModel
import FlyEvents.ViewControllers.CheckoutViewController
import FlyEvents.ViewControllers.ServicesViewController
import FlyEvents.ViewControllers.TableSafety
import FlyEvents.ViewControllers.ServicesScreen
import FlyEvents.ViewControllers.CartAccounting
import FlyEvents.ViewControllers.CartPrices
import FlyEvents.ViewControllers.OrderDocuments
import FlyEvents.App.Session
import FlyEvents.App.OrderReports
import FlyEvents.App.SessionCarts
import FlyEvents.App.OrderSnapshots
import FlyEvents.App.Registration
import FlyEvents.App.RegistrationAtomicity
import FlyEvents.App.ChargedPrices
import FlyEvents.App.OneCheckout
import FlyEvents.App.RootAgreement
import FlyEvents.Backend.StorageReference
import FlyEvents.Foundation.SharedGroup
import FlyEvents.ViewControllers.CartOverflow
import FlyEvents.ViewControllers.DecorDescriptionViewController
import FlyEvents.ViewModels.CatalogueAddresses
import FlyEvents.ViewModels.DescriptionLoaders
import FlyEvents.ViewModels.LoaderContract
import FlyEvents.App.CheckedContacts
import FlyEvents.App.OneCustomer
import FlyEvents.App.AtRest
import FlyEvents.Backend.StoragePath
import FlyEvents.Backend.DownloadProgress
import FlyEvents.Backend.DownloadLimit
import FlyEvents.ViewModels.CatalogueDownloads
import FlyEvents.ViewControllers.DescriptionSheets
import FlyEvents.App.FormAnswers
import FlyEvents.ViewControllers.DecorSheet
