import InventoryApp.Lib.Run
import InventoryApp.Data.Repository.UserRepository
import InventoryApp.Data.RoundTrip
import InventoryApp.Data.WellStored
import InventoryApp.Data.Ownership
import InventoryApp.Data.Identity
import InventoryApp.Data.Updates
import InventoryApp.Data.Atomicity
import InventoryApp.Data.ProductOrder
import InventoryApp.Data.StoreInventory
import InventoryApp.Data.Durability
import InventoryApp.Data.Isolation
import InventoryApp.Inventory.Card.CardViewModel
import InventoryApp.Inventory.Card.StorableNumbers
import InventoryApp.Inventory.Section.SectionViewModel
import InventoryApp.Inventory.Section.SharedSection
import InventoryApp.Inventory.Section.SectionViewController
import InventoryApp.Inventory.Storage.StorageCollectionViewController
import InventoryApp.Inventory.Storage.CustomHorizontalLayout
import InventoryApp.Inventory.Section.SharedProducts
import InventoryApp.Inventory.Storage.StorageGrid
import InventoryApp.Inventory.InventoryViewController
import InventoryApp.MainViewController
import InventoryApp.UserMetadata
import InventoryApp.Login.PhoneLogin
import InventoryApp.Login.VerificationID
import InventoryApp.Login.NextButton
import InventoryApp.Login.PhoneNumberViewController
import InventoryApp.Login.PhoneScreens
import InventoryApp.Login.ResendTimer
import InventoryApp.Login.CodeBuffer
import InventoryApp.Login.SubmitButton
import InventoryApp.Login.CodeBorders
import InventoryApp.AppDelegate
import InventoryApp.Onboarding
import InventoryApp.Login.Logout
