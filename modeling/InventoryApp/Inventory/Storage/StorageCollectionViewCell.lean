import InventoryApp.Inventory.Card.CardFaces

/-!
# `StorageCollectionViewCell`

A cell owns the card of its product.  Assigning `cardViewModel` builds a card, and
so does `updateProductCardViewController` when it is called again: the first card
goes, and a second one on the same view model takes its place and its observer.

A cell comes to this code new or from the reuse pool, so nothing is assumed of it:
`run_updateProductCardViewController` starts from any screen and any cell.
-/

namespace InventoryApp

open Lib

structure StorageCollectionViewCell where
  productCardViewController : Option ControllerID := none
  cardViewModel : Option CardViewModelID := none

variable {Image : Type} (imageNamed : String → Option Image)

/-- `CardViewModel(product:)`. -/
def CardViewModel.init (product : ProductRef) : UI Image CardViewModelID :=
  modifyGet fun w => (w.next,
    { w with
      cardViewModels := Function.update w.cardViewModels w.next { product }
      next := w.next + 1 })

/-- The last reference to a card goes, and with the card its two children. -/
def ProductCardViewController.deinit (self : ControllerID) : UI Image Unit := do
  let some vc := (← get).cards self | return
  modify fun w =>
    { w with
      cards := Function.update w.cards self none
      fronts := fun k => if vc.frontCardViewController = some k then none else w.fronts k
      backs := fun k => if vc.backCardViewController = some k then none else w.backs k }

namespace StorageCollectionViewCell

variable (cell : StorageCollectionViewCell)

/-- Removes the existing card, if there is one. -/
def removeProductCardViewController : UI Image StorageCollectionViewCell := do
  let some old := cell.productCardViewController | return cell
  -- `productCardViewController?.view.removeFromSuperview()`
  ProductCardViewController.view imageNamed old
  ProductCardViewController.deinit old
  return { cell with productCardViewController := none }

def updateProductCardViewController : UI Image StorageCollectionViewCell := do
  let cell ← removeProductCardViewController imageNamed cell
  let some cardViewModel := cell.cardViewModel | return cell
  let newVC ← ProductCardViewController.init cardViewModel
  -- `contentView.addSubview(newVC.view)`, and then its frame
  ProductCardViewController.view imageNamed newVC
  ProductCardViewController.view imageNamed newVC
  return { cell with productCardViewController := some newVC }

/-- `cell.cardViewModel = cardViewModel`, which its observer follows. -/
def setCardViewModel (cardViewModel : CardViewModelID) : UI Image StorageCollectionViewCell :=
  updateProductCardViewController imageNamed { cell with cardViewModel := some cardViewModel }

end StorageCollectionViewCell

/-! ### What a cell shows after it is configured -/

section Cells

variable (w : CardScreen Image) (cell : StorageCollectionViewCell)

/-- A card whose view has loaded is not loaded again. -/
theorem run_view_of_bound {w : CardScreen Image} {card front back : ControllerID}
    {viewModel : CardViewModelID} (h : w.Bound card viewModel front back) :
    (ProductCardViewController.view imageNamed card).run w = .ok () w := by
  rw [ProductCardViewController.view, run_bind_ok (EStateM.run_get w), h.cards]
  rfl

theorem keeps_deinit (old : ControllerID) :
    Keeps w.SameProducts (ProductCardViewController.deinit old : UI Image Unit) := by
  refine .bind .get fun s => ?_
  cases s.cards old with
  | none => exact .pure _
  | some vc => exact keeps_modify _ fun _ => ⟨rfl, rfl, fun _ => rfl⟩

/-- Whatever card there is, it can be removed, and no product changes. -/
theorem run_removeProductCardViewController :
    ∃ w', (cell.removeProductCardViewController imageNamed).run w =
        .ok { cell with productCardViewController := none } w' ∧ w.SameProducts w' := by
  have hsame : w.SameProducts w := ⟨rfl, rfl, fun _ => rfl⟩
  obtain ⟨card, cardViewModel⟩ := cell
  cases card with
  | none => exact ⟨w, rfl, hsame⟩
  | some old =>
    have hkeeps : Keeps w.SameProducts (ProductCardViewController.view imageNamed old) :=
      keeps_view imageNamed
    obtain ⟨_, w₁, hview, hsame₁⟩ := hkeeps w hsame
    obtain ⟨_, w₂, hdeinit, hsame₂⟩ := keeps_deinit w old w₁ hsame₁
    exact ⟨w₂, (run_bind_ok hview).trans (run_bind_ok hdeinit), hsame₂⟩

/-- **A new card replaces the existing one and is bound to the cell's view model.** -/
theorem run_updateProductCardViewController {viewModel : CardViewModelID}
    (h : cell.cardViewModel = some viewModel) :
    ∃ w' card front back, (cell.updateProductCardViewController imageNamed).run w =
        .ok ⟨some card, some viewModel⟩ w' ∧
      w'.Bound card viewModel front back ∧ w.SameProducts w' := by
  obtain ⟨w₁, hremove, hsame₁⟩ := run_removeProductCardViewController imageNamed w cell
  let card := w₁.next
  let w₂ : CardScreen Image :=
    { w₁ with
      cards := Function.update w₁.cards card (some { cardViewModel := viewModel })
      next := card + 1 }
  have hcard : w₂.cards card = some { cardViewModel := viewModel } := Function.update_self ..
  obtain ⟨w₃, front, back, hview, hbound, hsame₃⟩ := run_view_newCard imageNamed hcard
  refine ⟨w₃, card, front, back, ?_, hbound, hsame₁.trans
    ⟨hsame₃.objects, hsame₃.coreDataStack, hsame₃.products⟩⟩
  refine (run_bind_ok hremove).trans ?_
  simp only [h]
  refine (run_bind_ok (t := w₂) rfl).trans ?_
  exact (run_bind_ok hview).trans (run_bind_ok (run_view_of_bound imageNamed hbound))

end Cells

end InventoryApp
