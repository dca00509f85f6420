import Mathlib.Logic.Function.Basic
import InventoryApp.Inventory.Card.CardViewModel

/-!
# `ProductCardViewController`

A card has a front and a back, each with a controller and a view of its own, and
one view model that all three controllers share.  The view model tells one
observer about a change, the closure in `onProductUpdated`.  Front and back put a
closure of theirs there when their views load, which configures that face only,
and later; the card puts one there which configures both.  So what is on screen
after a change depends on who wrote last, and that on when each view loads: the
card touches its children's views four times, and a view loads the first time.

A `CardScreen` has these controllers and view models as objects with identities,
because a cell makes a new card for each product and drops the old one.  A
closure holds its controller weakly: it does nothing once that is gone.
-/

namespace InventoryApp

open Lib

abbrev ControllerID := Nat

abbrev CardViewModelID := Nat

/-! ### The two views -/

/-- A label and the colour behind it. -/
structure CircleLabel where
  text : Option String := none
  backgroundColor : UIColor := .systemGreen
  deriving DecidableEq, Repr

namespace CardViewModel

variable (product : Product)

def productName : String := product.title

def productImageName : String := product.picture

def remainingDays : String := toString product.remainingDays ++ "d"

def quantity : String := "x" ++ toString product.quantity

def remainingDaysInNumber : Int := product.remainingDays

end CardViewModel

/-- The image and the labels of the front; a plain label is its text. -/
structure FrontCardView (Image : Type) where
  productImageView : Option Image := none
  daysCircleLabel : CircleLabel := {}
  quantityCircleLabel : Option String := none
  productNameLabel : Option String := none
  deriving DecidableEq, Repr

structure BackCardView where
  daysCircleLabel : CircleLabel := {}
  quantityCircleLabel : Option String := none
  deriving DecidableEq, Repr

variable {Image : Type} (imageNamed : String → Option Image)

/-- `imageNamed` is `UIImage(named:)`. -/
def FrontCardView.configure (product : Product) (view : FrontCardView Image) :
    FrontCardView Image :=
  { view with
    productImageView := imageNamed (CardViewModel.productImageName product)
    daysCircleLabel :=
      { text := some (CardViewModel.remainingDays product)
        backgroundColor :=
          if CardViewModel.remainingDaysInNumber product > 6 then .systemGreen
          else if CardViewModel.remainingDaysInNumber product > 0 then .systemOrange
          else .systemRed }
    quantityCircleLabel := some (CardViewModel.quantity product)
    productNameLabel := some (CardViewModel.productName product) }

def BackCardView.configure (product : Product) (view : BackCardView) : BackCardView :=
  { view with
    daysCircleLabel :=
      { text := some (CardViewModel.remainingDays product)
        backgroundColor :=
          if CardViewModel.remainingDaysInNumber product > 6 then .systemGreen
          else if CardViewModel.remainingDaysInNumber product > 0 then .systemOrange
          else .systemRed }
    quantityCircleLabel := some (CardViewModel.quantity product) }

/-! ### The controllers -/

/-- The view is there once it has loaded. -/
structure FrontCardViewController (Image : Type) where
  viewModel : CardViewModelID
  frontCardView : Option (FrontCardView Image) := none

structure BackCardViewController where
  viewModel : CardViewModelID
  backCardView : Option BackCardView := none

structure ProductCardViewController where
  cardViewModel : CardViewModelID
  frontCardViewController : Option ControllerID := none
  backCardViewController : Option ControllerID := none
  isViewLoaded : Bool := false

/-- The controller of a face. -/
inductive Face
  | front (controller : ControllerID)
  | back (controller : ControllerID)
  deriving DecidableEq

/-- A closure that observes a product, by what it does when it is called:
configure one face, in a later turn of the main queue, or update a card. -/
inductive Closure
  | configureLater (face : Face)
  | updateUI (card : ControllerID)
  deriving DecidableEq

/-- The objects behind the cards on screen.  Identities from `next` on are unused. -/
structure CardScreen (Image : Type) where
  objects : ProductRef → Product
  coreDataStack : CoreDataStack
  cardViewModels : CardViewModelID → CardViewModel
  closures : Observer → Option Closure
  fronts : ControllerID → Option (FrontCardViewController Image)
  backs : ControllerID → Option BackCardViewController
  cards : ControllerID → Option ProductCardViewController
  mainQueue : List Face := []
  next : Nat := 0

abbrev UI (Image : Type) := EStateM Trap (CardScreen Image)

namespace CardScreen

variable (w : CardScreen Image)

/-- The product of a view model. -/
def product (viewModel : CardViewModelID) : Product :=
  w.objects (w.cardViewModels viewModel).product

/-! Assigning properties of a controller. -/

def modifyFront (controller : ControllerID)
    (f : FrontCardViewController Image → FrontCardViewController Image) : CardScreen Image :=
  { w with fronts := Function.update w.fronts controller ((w.fronts controller).map f) }

def modifyBack (controller : ControllerID) (f : BackCardViewController → BackCardViewController) :
    CardScreen Image :=
  { w with backs := Function.update w.backs controller ((w.backs controller).map f) }

def modifyCard (controller : ControllerID)
    (f : ProductCardViewController → ProductCardViewController) : CardScreen Image :=
  { w with cards := Function.update w.cards controller ((w.cards controller).map f) }

variable {w} {controller : ControllerID}

theorem fronts_modifyFront {vc : FrontCardViewController Image} (h : w.fronts controller = some vc)
    (f) : (w.modifyFront controller f).fronts controller = some (f vc) := by
  simp only [modifyFront, Function.update_self, h, Option.map_some]

theorem fronts_modifyFront_of_ne {other : ControllerID} (h : other ≠ controller) (f) :
    (w.modifyFront controller f).fronts other = w.fronts other :=
  Function.update_of_ne h _ _

theorem backs_modifyBack {vc : BackCardViewController} (h : w.backs controller = some vc) (f) :
    (w.modifyBack controller f).backs controller = some (f vc) := by
  simp only [modifyBack, Function.update_self, h, Option.map_some]

theorem backs_modifyBack_of_ne {other : ControllerID} (h : other ≠ controller) (f) :
    (w.modifyBack controller f).backs other = w.backs other :=
  Function.update_of_ne h _ _

theorem cards_modifyCard {vc : ProductCardViewController} (h : w.cards controller = some vc) (f) :
    (w.modifyCard controller f).cards controller = some (f vc) := by
  simp only [modifyCard, Function.update_self, h, Option.map_some]

end CardScreen

/-- `viewModel.onProductUpdated = closure`. -/
def CardViewModel.setOnProductUpdated (viewModel : CardViewModelID) (closure : Closure) :
    UI Image Unit :=
  modify fun w =>
    { w with
      closures := Function.update w.closures w.next (some closure)
      cardViewModels := Function.update w.cardViewModels viewModel
        { w.cardViewModels viewModel with onProductUpdated := some w.next }
      next := w.next + 1 }

namespace FrontCardViewController

variable (self : ControllerID)

def init (viewModel : CardViewModelID) : UI Image ControllerID :=
  modifyGet fun w => (w.next,
    { w with
      fronts := Function.update w.fronts w.next (some { viewModel })
      next := w.next + 1 })

def loadView : UI Image Unit :=
  modify fun w => w.modifyFront self fun vc => { vc with frontCardView := some {} }

def configure (viewModel : CardViewModelID) : UI Image Unit :=
  modify fun w => w.modifyFront self fun vc =>
    { vc with
      frontCardView := vc.frontCardView.map (·.configure imageNamed (w.product viewModel)) }

def viewDidLoad : UI Image Unit := do
  let some vc := (← get).fronts self | return
  CardViewModel.setOnProductUpdated vc.viewModel (.configureLater (.front self))
  configure imageNamed self vc.viewModel

/-- `view`, which loads the first time. -/
def view : UI Image Unit := do
  let some vc := (← get).fronts self | return
  if vc.frontCardView.isNone then
    loadView self
    viewDidLoad imageNamed self

end FrontCardViewController

namespace BackCardViewController

variable (self : ControllerID)

def init (viewModel : CardViewModelID) : UI Image ControllerID :=
  modifyGet fun w => (w.next,
    { w with
      backs := Function.update w.backs w.next (some { viewModel })
      next := w.next + 1 })

def loadView : UI Image Unit :=
  modify fun w => w.modifyBack self fun vc => { vc with backCardView := some {} }

def configure (viewModel : CardViewModelID) : UI Image Unit :=
  modify fun w => w.modifyBack self fun vc =>
    { vc with backCardView := vc.backCardView.map (·.configure (w.product viewModel)) }

def viewDidLoad : UI Image Unit := do
  let some vc := (← get).backs self | return
  configure self vc.viewModel
  CardViewModel.setOnProductUpdated vc.viewModel (.configureLater (.back self))

def view : UI Image Unit := do
  let some vc := (← get).backs self | return
  if vc.backCardView.isNone then
    loadView self
    viewDidLoad self

end BackCardViewController

namespace Face

def view : Face → UI Image Unit
  | front controller => FrontCardViewController.view imageNamed controller
  | back controller => BackCardViewController.view controller

/-- `self?.configure(with: self?.viewModel ...)`. -/
def configure : Face → UI Image Unit
  | front controller => do
    let some vc := (← get).fronts controller | return
    FrontCardViewController.configure imageNamed controller vc.viewModel
  | back controller => do
    let some vc := (← get).backs controller | return
    BackCardViewController.configure controller vc.viewModel

end Face

namespace ProductCardViewController

variable (self : ControllerID)

def init (cardViewModel : CardViewModelID) : UI Image ControllerID :=
  modifyGet fun w => (w.next,
    { w with
      cards := Function.update w.cards w.next (some { cardViewModel })
      next := w.next + 1 })

/-- The child's view is added to a container, and then given its frame. -/
def setupChildViewController (childController : Face) : UI Image Unit := do
  childController.view imageNamed
  childController.view imageNamed

def viewDidLoad : UI Image Unit := do
  let some vc := (← get).cards self | return
  let front ← FrontCardViewController.init vc.cardViewModel
  modify fun w => w.modifyCard self fun vc => { vc with frontCardViewController := some front }
  let back ← BackCardViewController.init vc.cardViewModel
  modify fun w => w.modifyCard self fun vc => { vc with backCardViewController := some back }
  setupChildViewController imageNamed (.front front)
  setupChildViewController imageNamed (.back back)
  -- `backCardViewController.view.isHidden = true`
  Face.view imageNamed (.back back)
  CardViewModel.setOnProductUpdated vc.cardViewModel (.updateUI self)
  setupChildViewController imageNamed (.front front)
  setupChildViewController imageNamed (.back back)
  Face.view imageNamed (.back back)

def view : UI Image Unit := do
  let some vc := (← get).cards self | return
  if !vc.isViewLoaded then
    modify fun w => w.modifyCard self fun vc => { vc with isViewLoaded := true }
    viewDidLoad imageNamed self

/-- `self?.updateUI(with:)`. -/
def updateUI : UI Image Unit := do
  let some vc := (← get).cards self | return
  let front ← forceUnwrap vc.frontCardViewController
  FrontCardViewController.configure imageNamed front vc.cardViewModel
  let back ← forceUnwrap vc.backCardViewController
  BackCardViewController.configure back vc.cardViewModel

end ProductCardViewController

/-! ### Operations and the main queue -/

def Closure.call : Closure → UI Image Unit
  | configureLater face => modify fun w => { w with mainQueue := w.mainQueue ++ [face] }
  | updateUI card => ProductCardViewController.updateUI imageNamed card

/-- `onProductUpdated?(product)`; no closure looks at the product it is given. -/
def callObserver (observer : Observer) : UI Image Unit := do
  let some closure := (← get).closures observer | return
  closure.call imageNamed

namespace CardScreen

variable (w : CardScreen Image) (viewModel : CardViewModelID)

/-- What an operation of a view model works on. -/
def cardWorld : CardWorld where
  objects := w.objects
  viewModel := w.cardViewModels viewModel
  coreDataStack := w.coreDataStack

def withCardWorld (card : CardWorld) : CardScreen Image :=
  { w with
    objects := card.objects
    coreDataStack := card.coreDataStack
    cardViewModels := Function.update w.cardViewModels viewModel card.viewModel }

end CardScreen

/-- An operation of a view model on screen.  It notifies last, so its observer is
called when the rest is done. -/
def CardOp.execOn (viewModel : CardViewModelID) (op : CardOp) : UI Image Unit := do
  let w ← get
  match op.exec.run (w.cardWorld viewModel) with
  | .ok _ card =>
    set (w.withCardWorld viewModel card)
    forM card.notified fun (observer, _) => callObserver imageNamed observer
  | .error trap card =>
    set (w.withCardWorld viewModel card)
    throw trap

/-- The next turn of the main queue. -/
def runMainQueue : UI Image Unit := do
  let face :: rest := (← get).mainQueue | return
  modify fun w => { w with mainQueue := rest }
  face.configure imageNamed

/-- What happens to a card on screen. -/
inductive CardEvent
  | operation (op : CardOp)
  | mainQueue

def CardEvent.exec (viewModel : CardViewModelID) : CardEvent → UI Image Unit
  | operation op => op.execOn imageNamed viewModel
  | mainQueue => runMainQueue imageNamed

/-- An event that returns. -/
def CardEventStep (viewModel : CardViewModelID) (w : CardScreen Image) (event : CardEvent)
    (w' : CardScreen Image) : Prop :=
  (event.exec imageNamed viewModel).run w = .ok () w'

end InventoryApp
