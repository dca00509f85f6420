import InventoryApp.Lib.Simulation
import InventoryApp.Inventory.Card.CardLoading
import InventoryApp.Inventory.Section.SharedProducts

/-!
# The cells of the grid

A collection view makes a cell for an item when the item comes on screen, and takes
one that left the screen where it can: the cell is then prepared for reuse and
configured for its new item.  A sort reloads the collection, so all cells leave
their items and come back in any order.  A cell without an item still has its card,
and so has a view model of a product that may be edited on another card meanwhile.

A `StorageGrid` has the section with its objects, and all cells that were made, each
with the item it is on screen for.  `StorageGrid.Laid` is what every event keeps:
each cell owns its card, the two faces and the view model, no two cells own the same,
and the cards on screen show their products.

With the faces left out, the grid is a section and its cards (`SectionOnScreen`):
`simulation_grid` matches each event by at most one of those.
-/

namespace InventoryApp

open Lib SectionRepository StorageCollectionViewController

variable {Image : Type} (imageNamed : String → Option Image)

namespace StorageCollectionViewCell

/-- Removes the card, like `updateProductCardViewController`. -/
def prepareForReuse (cell : StorageCollectionViewCell) : UI Image StorageCollectionViewCell :=
  removeProductCardViewController imageNamed cell

end StorageCollectionViewCell

/-- A cell and the item it is on screen for, if it is. -/
structure GridCell where
  cell : StorageCollectionViewCell
  row : Option Nat := none

/-- References to products from `nextProduct` on are unused. -/
structure StorageGrid (Image : Type) where
  screen : CardScreen Image
  nextProduct : ProductRef
  «section» : SectionObject
  cells : List GridCell := []

namespace StorageGrid

variable (env : Environment) (w : StorageGrid Image)

/-- The section and its cards, without faces. -/
def withCards (cards : List CardViewModel) : SectionOnScreen where
  objects := w.screen.objects
  next := w.nextProduct
  «section» := w.section
  cards := cards
  coreDataStack := w.screen.coreDataStack

/-- The section is `s`'s, and the collection is reloaded. -/
def reload (s : SectionOnScreen) : StorageGrid Image where
  screen := { w.screen with objects := s.objects, coreDataStack := s.coreDataStack }
  nextProduct := s.next
  «section» := s.section
  cells := w.cells.map fun c => { c with row := none }

/-- A grid that has just loaded its section. -/
def opened (st : CoreDataStack) (sec : Section) : StorageGrid Image where
  screen :=
    { objects := (SectionOnScreen.opened st sec).objects
      coreDataStack := st
      cardViewModels := fun _ => ⟨0, none⟩
      closures := fun _ => none
      fronts := fun _ => none
      backs := fun _ => none
      cards := fun _ => none }
  nextProduct := (SectionOnScreen.opened st sec).next
  «section» := (SectionOnScreen.opened st sec).section

end StorageGrid

/-- An item comes on screen, in the cell `reuse` or in a new one; a cell leaves the
screen; the card of a cell is operated; the main queue runs; a sort button is tapped. -/
inductive StorageEvent
  | display (row : Nat) (reuse : Option Nat)
  | endDisplaying (cell : Nat)
  | operation (cell : Nat) (op : CardOp)
  | mainQueue
  | sort (tap : SortTap)

/-- An event whose handlers return. -/
inductive StorageStep (env : Environment) :
    StorageGrid Image → StorageEvent → StorageGrid Image → Prop
  | newCell {w : StorageGrid Image} {row : Nat} {cell : StorageCollectionViewCell}
      {screen' : CardScreen Image}
      (hrow : row < numberOfItems w.section.products) (hnew : ∀ c ∈ w.cells, c.row ≠ some row)
      (hrun : (cellForItemAt imageNamed w.section.products row {}).run w.screen =
        .ok (some cell) screen') :
      StorageStep env w (.display row none)
        { w with screen := screen', cells := w.cells ++ [⟨cell, some row⟩] }
  | reuse {w : StorageGrid Image} {row i : Nat} {old cell : StorageCollectionViewCell}
      {screen' : CardScreen Image}
      (hrow : row < numberOfItems w.section.products) (hnew : ∀ c ∈ w.cells, c.row ≠ some row)
      (hold : w.cells[i]? = some ⟨old, none⟩)
      (hrun : (do
        let cell ← old.prepareForReuse imageNamed
        cellForItemAt imageNamed w.section.products row cell).run w.screen =
          .ok (some cell) screen') :
      StorageStep env w (.display row (some i))
        { w with screen := screen', cells := w.cells.set i ⟨cell, some row⟩ }
  | showMore {w : StorageGrid Image} {row : Nat} {reuse : Option Nat}
      (hrow : row < numberOfItems w.section.products)
      (hcell : cellForItem w.section.products row = .showMore) :
      StorageStep env w (.display row reuse) w
  | endDisplaying {w : StorageGrid Image} {i row : Nat} {cell : StorageCollectionViewCell}
      (hcell : w.cells[i]? = some ⟨cell, some row⟩) :
      StorageStep env w (.endDisplaying i) { w with cells := w.cells.set i ⟨cell, none⟩ }
  | operation {w : StorageGrid Image} {i row : Nat} {cell : StorageCollectionViewCell}
      {viewModel : CardViewModelID} {op : CardOp} {screen' : CardScreen Image}
      (hcell : w.cells[i]? = some ⟨cell, some row⟩) (hmodel : cell.cardViewModel = some viewModel)
      (hrun : (op.execOn imageNamed viewModel).run w.screen = .ok () screen') :
      StorageStep env w (.operation i op) { w with screen := screen' }
  | mainQueue {w : StorageGrid Image} {screen' : CardScreen Image}
      (hrun : (runMainQueue imageNamed).run w.screen = .ok () screen') :
      StorageStep env w .mainQueue { w with screen := screen' }
  | sort {w : StorageGrid Image} {tap : SortTap} {st' : CoreDataStack}
      (hrun : (setSectionSortingRule env w.section.id (tap.rule w.section.sortingRule)).run
        w.screen.coreDataStack = .ok () st') :
      StorageStep env w (.sort tap)
        (w.reload (SectionOnScreen.fetchUpdatedSection env
          { w.withCards [] with coreDataStack := st' } tap.sets))

/-! ### Cells and what they own -/

/-- The identities that belong to a cell. -/
structure Footprint where
  card : ControllerID
  viewModel : CardViewModelID
  front : ControllerID
  back : ControllerID

/-- Two cells own nothing together. -/
structure Footprint.Apart (f f' : Footprint) : Prop where
  card : f.card ≠ f'.card
  viewModel : f.viewModel ≠ f'.viewModel
  front : f.front ≠ f'.front
  back : f.back ≠ f'.back

theorem Footprint.Apart.symm {f f' : Footprint} (h : f.Apart f') : f'.Apart f :=
  ⟨h.card.symm, h.viewModel.symm, h.front.symm, h.back.symm⟩

namespace CardScreen

/-- The cell has a card whose view has loaded, and all of it is in use. -/
structure Owned (w : CardScreen Image) (cell : StorageCollectionViewCell) (f : Footprint) :
    Prop where
  card : cell.productCardViewController = some f.card
  viewModel : cell.cardViewModel = some f.viewModel
  linked : w.Linked f.card f.viewModel f.front f.back
  card_lt : f.card < w.next
  viewModel_lt : f.viewModel < w.next
  front_lt : f.front < w.next
  back_lt : f.back < w.next
  observer_lt : ∀ o, (w.cardViewModels f.viewModel).onProductUpdated = some o → o < w.next

/-- What a cell owns is as it was. -/
structure SameFor (w s : CardScreen Image) (f : Footprint) : Prop where
  next : w.next ≤ s.next
  cards : s.cards f.card = w.cards f.card
  fronts : s.fronts f.front = w.fronts f.front
  backs : s.backs f.back = w.backs f.back
  viewModels : s.cardViewModels f.viewModel = w.cardViewModels f.viewModel
  closures : ∀ k < w.next, s.closures k = w.closures k

variable {w s : CardScreen Image} {cell : StorageCollectionViewCell} {f : Footprint}

theorem SameFor.trans {t : CardScreen Image} (h : w.SameFor s f) (h' : s.SameFor t f) :
    w.SameFor t f where
  next := h.next.trans h'.next
  cards := h'.cards.trans h.cards
  fronts := h'.fronts.trans h.fronts
  backs := h'.backs.trans h.backs
  viewModels := h'.viewModels.trans h.viewModels
  closures k hk := (h'.closures k (Nat.lt_of_lt_of_le hk h.next)).trans (h.closures k hk)

/-- What is made anew leaves a cell as it was. -/
theorem Owned.sameFor_grown {viewModel : CardViewModelID} (h : w.Owned cell f)
    (hgrown : w.Grown viewModel s) : w.SameFor s f where
  next := hgrown.le
  cards := hgrown.oldCards _ h.card_lt
  fronts := hgrown.oldFronts _ h.front_lt
  backs := hgrown.oldBacks _ h.back_lt
  viewModels := hgrown.oldViewModels _ h.viewModel_lt
  closures := hgrown.oldClosures

theorem Owned.congr (h : w.Owned cell f) (hsame : w.SameFor s f) : s.Owned cell f where
  card := h.card
  viewModel := h.viewModel
  linked := by
    obtain ⟨hcards, hfronts, hbacks, o, ho, hclosure⟩ := h.linked
    refine ⟨hsame.cards ▸ hcards, hsame.fronts ▸ hfronts, hsame.backs ▸ hbacks, o, ?_, ?_⟩
    · rw [hsame.viewModels]
      exact ho
    · rw [hsame.closures o (h.observer_lt o ho)]
      exact hclosure
  card_lt := Nat.lt_of_lt_of_le h.card_lt hsame.next
  viewModel_lt := Nat.lt_of_lt_of_le h.viewModel_lt hsame.next
  front_lt := Nat.lt_of_lt_of_le h.front_lt hsame.next
  back_lt := Nat.lt_of_lt_of_le h.back_lt hsame.next
  observer_lt o ho := by
    rw [hsame.viewModels] at ho
    exact Nat.lt_of_lt_of_le (h.observer_lt o ho) hsame.next

/-- Both faces of the card show the product of its view model. -/
def Shows (w : CardScreen Image) (f : Footprint) : Prop :=
  w.FrontShows f.front f.viewModel ∧ w.BackShows f.back f.viewModel

/-- What was made anew is in use, and was not before. -/
theorem Grown.owned {viewModel : CardViewModelID} {card front back : ControllerID}
    (hgrown : w.Grown viewModel s) (hbound : s.Bound card viewModel front back)
    (hcard : w.next ≤ card) :
    s.Owned ⟨some card, some viewModel⟩ ⟨card, viewModel, front, back⟩ ∧
      w.next ≤ front ∧ w.next ≤ back := by
  obtain ⟨hcard_lt, _, hfront, hback⟩ := hgrown.cards card _ hcard hbound.cards
  obtain ⟨_, hfronts⟩ := hbound.fronts
  obtain ⟨_, hbacks⟩ := hbound.backs
  have hobserver : ∀ o, (s.cardViewModels viewModel).onProductUpdated = some o → o < s.next := by
    intro o ho
    obtain ⟨o', ho', hclosure⟩ := hbound.observer
    obtain rfl := Option.some.inj (ho.symm.trans ho')
    by_cases hnew : w.next ≤ o
    · exact hgrown.closures o _ hnew hclosure
    · exact Nat.lt_of_lt_of_le (Nat.lt_of_not_le hnew) hgrown.le
  exact ⟨⟨rfl, rfl, hbound.toLinked, hcard_lt, hgrown.viewModel_lt,
    (hgrown.fronts front _ (hfront front rfl) hfronts).1,
    (hgrown.backs back _ (hback back rfl) hbacks).1, hobserver⟩, hfront front rfl, hback back rfl⟩

/-- A card whose product is as it was still shows it. -/
theorem Shows.congr (h : w.Shows f) (hsame : w.SameFor s f)
    (hproduct : s.objects (w.cardViewModels f.viewModel).product =
      w.objects (w.cardViewModels f.viewModel).product) : s.Shows f := by
  have heq : s.product f.viewModel = w.product f.viewModel := by
    rw [CardScreen.product, hsame.viewModels, hproduct]
    rfl
  refine ⟨?_, ?_⟩
  · intro vc view hvc hview
    rw [heq]
    exact h.1 vc view (hsame.fronts.symm.trans hvc) hview
  · intro vc view hvc hview
    rw [heq]
    exact h.2 vc view (hsame.backs.symm.trans hvc) hview

end CardScreen

/-! ### Reuse -/

/-- **A cell that is prepared for reuse drops its card, and no other cell notices.** -/
theorem run_prepareForReuse {w : CardScreen Image} {cell : StorageCollectionViewCell}
    {f : Footprint} (h : w.Owned cell f) :
    ∃ w', (cell.prepareForReuse imageNamed).run w =
        .ok { cell with productCardViewController := none } w' ∧
      w'.objects = w.objects ∧ w'.coreDataStack = w.coreDataStack ∧
      w'.mainQueue = w.mainQueue ∧ w'.next = w.next ∧ (w.Unused → w'.Unused) ∧
      ∀ f', f.Apart f' → w.SameFor w' f' := by
  obtain ⟨card, cardViewModel⟩ := cell
  obtain rfl : card = some f.card := h.card
  have hview : (ProductCardViewController.view imageNamed f.card).run w = .ok () w := by
    rw [ProductCardViewController.view, run_bind_ok (EStateM.run_get w), h.linked.cards]
    rfl
  let w' : CardScreen Image :=
    { w with
      cards := Function.update w.cards f.card none
      fronts := fun k => if some f.front = some k then none else w.fronts k
      backs := fun k => if some f.back = some k then none else w.backs k }
  have hdeinit : (ProductCardViewController.deinit f.card).run w = .ok () w' := by
    rw [ProductCardViewController.deinit, run_bind_ok (EStateM.run_get w), h.linked.cards]
    rfl
  refine ⟨w', (run_bind_ok hview).trans (run_bind_ok hdeinit), rfl, rfl, rfl, rfl, ?_, ?_⟩
  · intro hunused
    refine ⟨?_, ?_, ?_, hunused.closures⟩
    · intro k hk
      have hne : k ≠ f.card := Nat.ne_of_gt (Nat.lt_of_lt_of_le h.card_lt hk)
      exact (Function.update_of_ne hne _ _).trans (hunused.cards k hk)
    · intro k hk
      have hne : some f.front ≠ some k :=
        fun heq => Nat.ne_of_lt (Nat.lt_of_lt_of_le h.front_lt hk) (Option.some.inj heq)
      exact (if_neg hne).trans (hunused.fronts k hk)
    · intro k hk
      have hne : some f.back ≠ some k :=
        fun heq => Nat.ne_of_lt (Nat.lt_of_lt_of_le h.back_lt hk) (Option.some.inj heq)
      exact (if_neg hne).trans (hunused.backs k hk)
  · intro f' hapart
    refine ⟨Nat.le_refl _, Function.update_of_ne hapart.card.symm _ _, ?_, ?_, rfl,
      fun _ _ => rfl⟩
    · exact if_neg fun heq => hapart.front (Option.some.inj heq)
    · exact if_neg fun heq => hapart.back (Option.some.inj heq)

/-! ### Operations -/

section Operations

variable {w : CardScreen Image} {card front back : ControllerID} {viewModel : CardViewModelID}

/-- The card's closure works on its two faces only. -/
theorem run_updateUI_modify (h : w.Linked card viewModel front back) :
    ∃ f g, (ProductCardViewController.updateUI imageNamed card).run w =
      .ok () ((w.modifyFront front f).modifyBack back g) := by
  let f (vc : FrontCardViewController Image) : FrontCardViewController Image :=
    { vc with
      frontCardView := vc.frontCardView.map (·.configure imageNamed (w.product viewModel)) }
  let g (vc : BackCardViewController) : BackCardViewController :=
    { vc with
      backCardView :=
        vc.backCardView.map (·.configure ((w.modifyFront front f).product viewModel)) }
  refine ⟨f, g, ?_⟩
  rw [ProductCardViewController.updateUI, run_bind_ok (EStateM.run_get w)]
  simp only [h.cards]
  exact (run_bind_ok rfl).trans ((run_bind_ok rfl).trans ((run_bind_ok rfl).trans rfl))

/-- The object of a view model has become `p`. -/
def CardScreen.withProduct (w : CardScreen Image) (viewModel : CardViewModelID) (p : Product) :
    CardScreen Image :=
  { w with objects := ((w.cardWorld viewModel).withProduct p).objects }

/-- **What an operation on a linked card does**: it edits the product, and configures
the two faces. -/
theorem run_execOn (h : w.Linked card viewModel front back) {op : CardOp}
    (hop : op.NoOverflow (w.product viewModel)) :
    ∃ f g, (op.execOn imageNamed viewModel).run w = .ok ()
      (((w.withProduct viewModel (op.edit (w.product viewModel))).modifyFront front f).modifyBack
        back g) := by
  obtain ⟨o, ho, hclosure⟩ := h.observer
  let edited := (w.cardWorld viewModel).withProduct (op.edit (w.product viewModel))
  let w₁ := w.withProduct viewModel (op.edit (w.product viewModel))
  have hexec : op.exec.run (w.cardWorld viewModel) = .ok () edited.afterNotify :=
    CardOp.run_exec_ok hop
  have hnotified : edited.afterNotify.notified = [(o, edited.product)] :=
    CardWorld.notified_afterNotify (w := edited) ho
  have hedited : w.withCardWorld viewModel edited.afterNotify = w₁ := by
    have hobjects : edited.afterNotify.objects = edited.objects := by
      unfold CardWorld.afterNotify
      split <;> rfl
    have hmodel : edited.afterNotify.viewModel = w.cardViewModels viewModel :=
      CardWorld.viewModel_afterNotify edited
    rw [CardScreen.withCardWorld, hobjects, hmodel, Function.update_eq_self,
      CardWorld.coreDataStack_afterNotify]
    rfl
  have hlinked : w₁.Linked card viewModel front back :=
    ⟨h.cards, h.fronts, h.backs, o, ho, hclosure⟩
  obtain ⟨f, g, hupdate⟩ := run_updateUI_modify imageNamed hlinked
  refine ⟨f, g, ?_⟩
  rw [CardOp.execOn, run_bind_ok (EStateM.run_get w), hexec]
  simp only [hedited, hnotified]
  refine (run_bind_ok (t := w₁) rfl).trans ?_
  rw [List.forM_cons, List.forM_nil]
  have hobserver : (callObserver imageNamed o).run w₁ =
      .ok () ((w₁.modifyFront front f).modifyBack back g) := by
    rw [callObserver, run_bind_ok (EStateM.run_get w₁), show w₁.closures o = _ from hclosure]
    exact hupdate
  exact (run_bind_ok hobserver).trans rfl

/-- What an operation changes: an object, and what the card owns. -/
structure CardScreen.OperatedOn (w : CardScreen Image) (f : Footprint) (op : CardOp)
    (w' : CardScreen Image) : Prop where
  objects : w'.objects = fun ref =>
    if ref = (w.cardViewModels f.viewModel).product then op.edit (w.product f.viewModel)
    else w.objects ref
  coreDataStack : w'.coreDataStack = w.coreDataStack
  cardViewModels : w'.cardViewModels = w.cardViewModels
  mainQueue : w'.mainQueue = w.mainQueue
  unused : w.Unused → w'.Unused
  own : ∀ cell, w.Owned cell f → w'.Owned cell f
  others : ∀ f', f.Apart f' → w.SameFor w' f'

/-- **An operation on a card returns, is shown on both of its faces, and is noticed by
no other cell.** -/
theorem run_execOn_bound {f : Footprint} (h : w.Bound f.card f.viewModel f.front f.back)
    {op : CardOp} (hop : op.NoOverflow (w.product f.viewModel)) :
    ∃ w', (op.execOn imageNamed f.viewModel).run w = .ok () w' ∧ w.OperatedOn f op w' ∧
      w'.Shows f := by
  obtain ⟨w', hrun, hbound, _⟩ := bound_operation imageNamed h hop
  obtain ⟨_, _, hrun'⟩ := run_execOn imageNamed h.toLinked hop
  obtain ⟨_, rfl⟩ := run_ok_inj hrun hrun'
  refine ⟨_, hrun, ⟨rfl, rfl, rfl, rfl, ?_, ?_, ?_⟩, hbound.frontShows, hbound.backShows⟩
  · intro hunused
    refine ⟨hunused.cards, ?_, ?_, hunused.closures⟩
    · intro k hk
      by_cases hne : k = f.front
      · subst hne
        obtain ⟨view, hview⟩ := h.fronts
        exact absurd ((hunused.fronts _ hk).symm.trans hview) (Option.some_ne_none _).symm
      · exact (CardScreen.fronts_modifyFront_of_ne hne _).trans (hunused.fronts k hk)
    · intro k hk
      by_cases hne : k = f.back
      · subst hne
        obtain ⟨view, hview⟩ := h.backs
        exact absurd ((hunused.backs _ hk).symm.trans hview) (Option.some_ne_none _).symm
      · exact (CardScreen.backs_modifyBack_of_ne hne _).trans (hunused.backs k hk)
  · intro cell howned
    exact { howned with linked := hbound.toLinked }
  · intro f' hapart
    exact ⟨Nat.le_refl _, rfl, CardScreen.fronts_modifyFront_of_ne hapart.front.symm _,
      CardScreen.backs_modifyBack_of_ne hapart.back.symm _, rfl, fun _ _ => rfl⟩

end Operations

/-! ### What every event keeps -/

/-- The places of a list after one more was added. -/
theorem getElem?_append_singleton_cases {α : Type} {l : List α} {a b : α} {j : Nat}
    (h : (l ++ [a])[j]? = some b) : j = l.length ∧ b = a ∨ j ≠ l.length ∧ l[j]? = some b := by
  by_cases hj : j = l.length
  · rw [hj, List.getElem?_concat_length] at h
    exact Or.inl ⟨hj, (Option.some.inj h).symm⟩
  · obtain ⟨hlt, _⟩ := List.getElem?_eq_some_iff.mp h
    rw [List.length_append, List.length_singleton] at hlt
    rw [List.getElem?_append_left (by omega)] at h
    exact Or.inr ⟨hj, h⟩

theorem getElem?_set_cases {α : Type} {l : List α} {a b : α} {i j : Nat}
    (h : (l.set i a)[j]? = some b) : j = i ∧ b = a ∨ j ≠ i ∧ l[j]? = some b := by
  by_cases hj : j = i
  · obtain ⟨_, hget⟩ := List.getElem?_eq_some_iff.mp h
    subst hj
    rw [List.getElem_set_self] at hget
    exact Or.inl ⟨rfl, hget.symm⟩
  · rw [List.getElem?_set_ne (Ne.symm hj)] at h
    exact Or.inr ⟨hj, h⟩

namespace StorageGrid

/-- Each cell owns its card, alone, and the cards on screen are for different items and
show the products of these. -/
structure Laid (w : StorageGrid Image) (foot : Nat → Footprint) : Prop where
  unused : w.screen.Unused
  mainQueue : w.screen.mainQueue = []
  owned : ∀ (i : Nat) c, w.cells[i]? = some c → w.screen.Owned c.cell (foot i)
  apart : ∀ (i j : Nat) c c', w.cells[i]? = some c → w.cells[j]? = some c' → i ≠ j →
    (foot i).Apart (foot j)
  item : ∀ (i : Nat) cell row, w.cells[i]? = some ⟨cell, some row⟩ →
    cellForItem w.section.products row =
      .storage (some (w.screen.cardViewModels (foot i).viewModel).product)
  shows : ∀ (i : Nat) cell row, w.cells[i]? = some ⟨cell, some row⟩ → w.screen.Shows (foot i)
  rows : ∀ (i j : Nat) cell cell' row, w.cells[i]? = some ⟨cell, some row⟩ →
    w.cells[j]? = some ⟨cell', some row⟩ → i = j

variable {w : StorageGrid Image} {foot : Nat → Footprint}

/-- The cell `i` has no card, and the others are as they were. -/
structure Ready (w : StorageGrid Image) (foot : Nat → Footprint) (i : Nat)
    (s : CardScreen Image) : Prop where
  unused : s.Unused
  mainQueue : s.mainQueue = []
  objects : s.objects = w.screen.objects
  coreDataStack : s.coreDataStack = w.screen.coreDataStack
  next : s.next = w.screen.next
  others : ∀ (j : Nat) c, j ≠ i → w.cells[j]? = some c → w.screen.SameFor s (foot j)

theorem Laid.ready_new (h : w.Laid foot) : w.Ready foot w.cells.length w.screen :=
  ⟨h.unused, h.mainQueue, rfl, rfl, rfl,
    fun _ _ _ _ => ⟨Nat.le_refl _, rfl, rfl, rfl, rfl, fun _ _ => rfl⟩⟩

theorem Laid.ready_reuse (h : w.Laid foot) {i : Nat} {c : GridCell} (hc : w.cells[i]? = some c) :
    ∃ s, (c.cell.prepareForReuse imageNamed).run w.screen =
        .ok { c.cell with productCardViewController := none } s ∧ w.Ready foot i s := by
  obtain ⟨s, hrun, hobjects, hstack, hqueue, hnext, hunused, hsame⟩ :=
    run_prepareForReuse imageNamed (h.owned i c hc)
  exact ⟨s, hrun, hunused h.unused, hqueue.trans h.mainQueue, hobjects, hstack, hnext,
    fun j c' hj hc' => hsame (foot j) (h.apart i j c c' hc hc' (Ne.symm hj))⟩

/-- **A cell that comes on screen is configured for its item.**  The cells are then
those of `w`, but for the cell `i`. -/
theorem Laid.display (h : w.Laid foot) {i : Nat} {s : CardScreen Image} (hs : w.Ready foot i s)
    {row : Nat} {product : ProductRef}
    (hitem : cellForItem w.section.products row = .storage (some product))
    (hnew : ∀ c ∈ w.cells, c.row ≠ some row) (old : StorageCollectionViewCell)
    (hold : old.productCardViewController = none) :
    ∃ cell screen' f, (cellForItemAt imageNamed w.section.products row old).run s =
        .ok (some cell) screen' ∧
      screen'.objects = w.screen.objects ∧ screen'.coreDataStack = w.screen.coreDataStack ∧
      ∀ cells' : List GridCell, (∀ j c, cells'[j]? = some c → j = i ∧ c = ⟨cell, some row⟩ ∨
          j ≠ i ∧ w.cells[j]? = some c) →
        Laid { w with screen := screen', cells := cells' } (Function.update foot i f) := by
  obtain ⟨screen', viewModel, card, front, back, hrun, hgrown, hbound, hproduct, hcard⟩ :=
    run_cellForItemAt_grown imageNamed hs.unused hitem hold
  obtain ⟨howned, hfront, hback⟩ := hgrown.owned hbound hcard
  let f : Footprint := ⟨card, viewModel, front, back⟩
  refine ⟨_, screen', f, hrun, hgrown.objects.trans hs.objects,
    hgrown.coreDataStack.trans hs.coreDataStack, ?_⟩
  intro cells' hcells
  have hsame : ∀ j c, j ≠ i → w.cells[j]? = some c → w.screen.SameFor screen' (foot j) :=
    fun j c hj hc => (hs.others j c hj hc).trans
      (((h.owned j c hc).congr (hs.others j c hj hc)).sameFor_grown hgrown)
  have hapart : ∀ j c, w.cells[j]? = some c → (foot j).Apart f := by
    intro j c hc
    obtain ⟨_, _, _, hcard', hmodel', hfront', hback', _⟩ := h.owned j c hc
    rw [← hs.next] at hcard' hmodel' hfront' hback'
    exact ⟨Nat.ne_of_lt (Nat.lt_of_lt_of_le hcard' hcard),
      Nat.ne_of_lt (Nat.lt_of_lt_of_le hmodel' hgrown.viewModel_ge),
      Nat.ne_of_lt (Nat.lt_of_lt_of_le hfront' hfront),
      Nat.ne_of_lt (Nat.lt_of_lt_of_le hback' hback)⟩
  refine ⟨hgrown.unused, hgrown.mainQueue.trans hs.mainQueue, ?_, ?_, ?_, ?_, ?_⟩
  · intro j c hc
    rcases hcells j c hc with ⟨rfl, rfl⟩ | ⟨hj, hc⟩
    · rw [Function.update_self]
      exact howned
    · rw [Function.update_of_ne hj]
      exact (h.owned j c hc).congr (hsame j c hj hc)
  · intro j k c c' hc hc' hjk
    rcases hcells j c hc with ⟨rfl, _⟩ | ⟨hj, hc⟩
    · rcases hcells k c' hc' with ⟨rfl, _⟩ | ⟨hk, hc'⟩
      · exact absurd rfl hjk
      · rw [Function.update_self, Function.update_of_ne hk]
        exact (hapart k c' hc').symm
    · rcases hcells k c' hc' with ⟨rfl, _⟩ | ⟨hk, hc'⟩
      · rw [Function.update_self, Function.update_of_ne hj]
        exact hapart j c hc
      · rw [Function.update_of_ne hj, Function.update_of_ne hk]
        exact h.apart j k c c' hc hc' hjk
  · intro j cell' row' hc
    rcases hcells j _ hc with ⟨rfl, heq⟩ | ⟨hj, hc⟩
    · cases heq
      rw [Function.update_self]
      exact hitem.trans (by rw [hproduct])
    · rw [Function.update_of_ne hj, (hsame j _ hj hc).viewModels]
      exact h.item j cell' row' hc
  · intro j cell' row' hc
    rcases hcells j _ hc with ⟨rfl, _⟩ | ⟨hj, hc⟩
    · rw [Function.update_self]
      exact ⟨hbound.frontShows, hbound.backShows⟩
    · rw [Function.update_of_ne hj]
      exact (h.shows j cell' row' hc).congr (hsame j _ hj hc)
        (congrFun (hgrown.objects.trans hs.objects) _)
  · intro j k cell' cell'' row' hc hc'
    rcases hcells j _ hc with ⟨rfl, heq⟩ | ⟨hj, hc⟩
    · cases heq
      rcases hcells k _ hc' with ⟨rfl, _⟩ | ⟨hk, hc'⟩
      · rfl
      · exact absurd rfl (hnew _ (List.mem_of_getElem? hc'))
    · rcases hcells k _ hc' with ⟨rfl, heq⟩ | ⟨hk, hc'⟩
      · cases heq
        exact absurd rfl (hnew _ (List.mem_of_getElem? hc))
      · exact h.rows j k cell' cell'' row' hc hc'

/-- The card of a cell on screen shows its product. -/
theorem Laid.bound (h : w.Laid foot) {i row : Nat} {cell : StorageCollectionViewCell}
    (hc : w.cells[i]? = some ⟨cell, some row⟩) :
    w.screen.Bound (foot i).card (foot i).viewModel (foot i).front (foot i).back := by
  obtain ⟨hfront, hback⟩ := h.shows i cell row hc
  exact ⟨(h.owned i _ hc).linked, hfront, hback⟩

/-- **An operation on a cell is shown there, and on no other cell.** -/
theorem Laid.operation (h : w.Laid foot) (hnodup : w.section.products.Nodup) {i row : Nat}
    {cell : StorageCollectionViewCell} (hc : w.cells[i]? = some ⟨cell, some row⟩) {op : CardOp}
    (hop : op.NoOverflow (w.screen.product (foot i).viewModel)) :
    ∃ screen', (op.execOn imageNamed (foot i).viewModel).run w.screen = .ok () screen' ∧
      w.screen.OperatedOn (foot i) op screen' ∧ Laid { w with screen := screen' } foot := by
  obtain ⟨screen', hrun, hdone, hshows⟩ := run_execOn_bound imageNamed (h.bound hc) hop
  have hsame : ∀ j c, j ≠ i → w.cells[j]? = some c → w.screen.SameFor screen' (foot j) :=
    fun j c hj hc' => hdone.others (foot j) (h.apart i j _ c hc hc' (Ne.symm hj))
  refine ⟨screen', hrun, hdone, hdone.unused h.unused, hdone.mainQueue.trans h.mainQueue, ?_,
    h.apart, ?_, ?_, h.rows⟩
  · intro j c hc'
    by_cases hj : j = i
    · subst hj
      exact hdone.own c.cell (h.owned j c hc')
    · exact (h.owned j c hc').congr (hsame j c hj hc')
  · intro j cell' row' hc'
    rw [hdone.cardViewModels]
    exact h.item j cell' row' hc'
  · intro j cell' row' hc'
    by_cases hj : j = i
    · subst hj
      exact hshows
    · refine (h.shows j cell' row' hc').congr (hsame j _ hj hc') ?_
      rw [hdone.objects]
      refine if_neg fun heq => hj ?_
      -- one product is not at two places
      have hi := getElem?_of_cellForItem (h.item i cell row hc)
      have hj' := getElem?_of_cellForItem (h.item j cell' row' hc')
      rw [heq] at hj'
      have hlt : row' < w.section.products.length := (List.getElem?_eq_some_iff.mp hj').1
      obtain rfl := (List.getElem?_inj hlt hnodup).mp (hj'.trans hi.symm)
      exact h.rows j i cell' cell row' hc' hc

/-- Cells that leave the screen keep their cards. -/
theorem Laid.leave (h : w.Laid foot) {cells' : List GridCell}
    (hcells : ∀ (j : Nat) c, cells'[j]? = some c →
      ∃ c', w.cells[j]? = some c' ∧ c.cell = c'.cell ∧ (c.row = none ∨ c = c')) :
    Laid { w with cells := cells' } foot := by
  have hshown : ∀ (j : Nat) cell row, cells'[j]? = some ⟨cell, some row⟩ →
      w.cells[j]? = some ⟨cell, some row⟩ := by
    intro j cell row hc
    obtain ⟨c', hc', _, hnone | rfl⟩ := hcells j _ hc
    · cases hnone
    · exact hc'
  refine ⟨h.unused, h.mainQueue, ?_, ?_, ?_, ?_, ?_⟩
  · intro j c hc
    obtain ⟨c', hc', hcell, _⟩ := hcells j c hc
    rw [hcell]
    exact h.owned j c' hc'
  · intro j k c c' hc hc'
    obtain ⟨d, hd, _⟩ := hcells j c hc
    obtain ⟨d', hd', _⟩ := hcells k c' hc'
    exact h.apart j k d d' hd hd'
  · exact fun j cell row hc => h.item j cell row (hshown j cell row hc)
  · exact fun j cell row hc => h.shows j cell row (hshown j cell row hc)
  · exact fun j k cell cell' row hc hc' =>
      h.rows j k cell cell' row (hshown j cell row hc) (hshown k cell' row hc')

theorem Laid.endDisplaying (h : w.Laid foot) {i row : Nat} {cell : StorageCollectionViewCell}
    (hc : w.cells[i]? = some ⟨cell, some row⟩) :
    Laid { w with cells := w.cells.set i ⟨cell, none⟩ } foot := by
  refine h.leave fun j c hc' => ?_
  rcases getElem?_set_cases hc' with ⟨rfl, rfl⟩ | ⟨_, hc'⟩
  · exact ⟨_, hc, rfl, Or.inl rfl⟩
  · exact ⟨c, hc', rfl, Or.inr rfl⟩

/-- After a reload no cell has an item, so none shows an object of before. -/
theorem Laid.reload (h : w.Laid foot) (s : SectionOnScreen) : (w.reload s).Laid foot := by
  have hleft : Laid { w with cells := w.cells.map fun c => { c with row := none } } foot := by
    refine h.leave fun j c hc => ?_
    rw [List.getElem?_map] at hc
    obtain ⟨c', hc', rfl⟩ := Option.map_eq_some_iff.mp hc
    exact ⟨c', hc', rfl, Or.inl rfl⟩
  have hnone : ∀ (j : Nat) cell row,
      (w.cells.map fun c => { c with row := none })[j]? ≠ some ⟨cell, some row⟩ := by
    intro j cell row hc
    rw [List.getElem?_map] at hc
    obtain ⟨c', _, heq⟩ := Option.map_eq_some_iff.mp hc
    cases heq
  refine ⟨⟨hleft.unused.cards, hleft.unused.fronts, hleft.unused.backs, hleft.unused.closures⟩,
    hleft.mainQueue, ?_, hleft.apart, ?_, ?_, hleft.rows⟩
  · intro j c hc
    have howned := hleft.owned j c hc
    obtain ⟨hcards, hfronts, hbacks, hobserver⟩ := howned.linked
    exact ⟨howned.card, howned.viewModel, ⟨hcards, hfronts, hbacks, hobserver⟩, howned.card_lt,
      howned.viewModel_lt, howned.front_lt, howned.back_lt, howned.observer_lt⟩
  · exact fun j cell row hc => absurd hc (hnone j cell row)
  · exact fun j cell row hc => absurd hc (hnone j cell row)

theorem Laid.opened (st : CoreDataStack) (sec : Section) (foot : Nat → Footprint) :
    (StorageGrid.opened st sec : StorageGrid Image).Laid foot where
  unused := ⟨fun _ _ => rfl, fun _ _ => rfl, fun _ _ => rfl, fun _ _ => rfl⟩
  mainQueue := rfl
  owned _ _ hc := by cases hc
  apart _ _ _ _ hc := by cases hc
  item _ _ _ hc := by cases hc
  shows _ _ _ hc := by cases hc
  rows _ _ _ _ _ hc := by cases hc

end StorageGrid

/-! ### The grid is a section and its cards -/

/-- The events of a section and its cards that an event of the grid is. -/
def StorageEvent.Matches : StorageEvent → List GridEvent → Prop
  | display row _, evs => evs = [.cellForItem row]
  | operation _ op, evs => ∃ card, evs = [.card card op]
  | sort tap, evs => evs = [.sort tap]
  | endDisplaying _, evs => evs = []
  | mainQueue, evs => evs = []

/-- The cards of the cells on screen are among the cards that were made. -/
def StorageGrid.Carded (w : StorageGrid Image) (cards : List CardViewModel) : Prop :=
  ∀ c ∈ w.cells, ∀ row product, c.row = some row →
    cellForItem w.section.products row = .storage (some product) →
    (⟨product, none⟩ : CardViewModel) ∈ cards

/-- A grid that is laid out, and the section with its cards when faces are left out. -/
structure StorageGrid.StandsFor (env : Environment) (k : ObjectID) (g : Graph) (v : SectionView)
    (w : StorageGrid Image) (s : SectionOnScreen) : Prop where
  eq : s = w.withCards s.cards
  laid : ∃ foot, w.Laid foot
  carded : w.Carded s.cards
  opened : s.Opened env k g v

section Refinement

variable {env : Environment} {k : ObjectID} {g : Graph} {v : SectionView}

/-- A sort reads the same section, whatever cards there are. -/
theorem withCards_reload (w : StorageGrid Image) (cards : List CardViewModel)
    (st' : CoreDataStack) (sets : Arrangement) :
    (w.reload (SectionOnScreen.fetchUpdatedSection env
        { w.withCards [] with coreDataStack := st' } sets)).withCards cards =
      SectionOnScreen.fetchUpdatedSection env
        { w.withCards cards with coreDataStack := st' } sets := by
  simp only [SectionOnScreen.fetchUpdatedSection, StorageGrid.withCards]
  split <;> rfl

/-- A cell that comes on screen is one more card. -/
theorem StorageGrid.StandsFor.display {w w' : StorageGrid Image} {s : SectionOnScreen}
    (h : w.StandsFor env k g v s) {row : Nat} {product : ProductRef}
    (hitem : cellForItem w.section.products row = .storage (some product))
    (hw' : w'.withCards [] = w.withCards []) (hlaid : ∃ foot, w'.Laid foot)
    (hcells : ∀ c ∈ w'.cells, c ∈ w.cells ∨ c.row = some row) :
    ∃ s', Run (GridStep env) s [.cellForItem row] s' ∧ w'.StandsFor env k g v s' := by
  obtain ⟨cards, rfl⟩ : ∃ cards, s = w.withCards cards := ⟨_, h.eq⟩
  have hsection : w'.section = w.section := congrArg SectionOnScreen.section hw'
  let cards' := cards ++ [(⟨product, none⟩ : CardViewModel)]
  have hstep : GridStep env (w.withCards cards) (.cellForItem row) (w.withCards cards') :=
    .storage hitem
  have heq : w'.withCards cards' = w.withCards cards' :=
    congrArg (fun t : SectionOnScreen => { t with cards := cards' }) hw'
  refine ⟨_, .cons hstep (.nil _), heq.symm, hlaid, ?_, h.opened.step hstep⟩
  intro c hc row' product' hrow hitem'
  rw [hsection] at hitem'
  rcases hcells c hc with hold | hnew
  · exact List.mem_append_left _ (h.carded c hold row' product' hrow hitem')
  · obtain rfl := Option.some.inj (hnew.symm.trans hrow)
    cases hitem.symm.trans hitem'
    exact List.mem_append_right _ (List.mem_singleton.mpr rfl)

/-- **An operation on a cell is that operation on one of its product's cards.** -/
theorem StorageGrid.StandsFor.operation {w : StorageGrid Image} {s : SectionOnScreen}
    (h : w.StandsFor env k g v s) {i row : Nat} {cell : StorageCollectionViewCell}
    {viewModel : CardViewModelID} {op : CardOp} {screen' : CardScreen Image}
    (hc : w.cells[i]? = some ⟨cell, some row⟩) (hmodel : cell.cardViewModel = some viewModel)
    (hrun : (op.execOn imageNamed viewModel).run w.screen = .ok () screen') :
    ∃ card s', Run (GridStep env) s [.card card op] s' ∧
      StorageGrid.StandsFor env k g v { w with screen := screen' } s' := by
  obtain ⟨cards, rfl⟩ : ∃ cards, s = w.withCards cards := ⟨_, h.eq⟩
  obtain ⟨foot, hlaid⟩ := h.laid
  have howned := hlaid.owned i _ hc
  obtain rfl := Option.some.inj (howned.viewModel.symm.trans hmodel)
  have hitem := hlaid.item i cell row hc
  -- an operation that overflows does not return
  by_cases hop : op.NoOverflow (w.screen.product (foot i).viewModel)
  · obtain ⟨screen₁, hrun₁, hdone, hlaid'⟩ :=
      hlaid.operation imageNamed h.opened.nodup hc hop
    obtain ⟨_, rfl⟩ := run_ok_inj hrun hrun₁
    obtain ⟨card, hcard⟩ :=
      List.mem_iff_getElem?.mp (h.carded _ (List.mem_of_getElem? hc) row _ rfl hitem)
    have hstep : GridStep env (w.withCards cards) (.card card op)
        (StorageGrid.withCards { w with screen := screen' } cards) := by
      simp only [StorageGrid.withCards, hdone.objects, hdone.coreDataStack]
      exact .card hcard (CardOp.run_exec_ok hop)
    exact ⟨card, _, .cons hstep (.nil _), rfl, ⟨foot, hlaid'⟩, h.carded, h.opened.step hstep⟩
  · obtain ⟨_, htrap⟩ := run_execOn_trap imageNamed hop
    have := hrun.symm.trans htrap
    cases this

/-- A cell is returned for a product. -/
theorem exists_of_run_cellForItemAt {products : List ProductRef} {row : Nat}
    (hrow : row < numberOfItems products) {old cell : StorageCollectionViewCell}
    {w w' : CardScreen Image}
    (hrun : (cellForItemAt imageNamed products row old).run w = .ok (some cell) w') :
    ∃ product, cellForItem products row = .storage (some product) := by
  rcases cellForItem_cases hrow with hmore | hitem
  · rw [cellForItemAt, hmore] at hrun
    cases hrun
  · exact hitem

/-- **With the faces left out, every event of the grid is one of the section and its
cards**, or none. -/
theorem simulation_grid : Simulation (StorageStep imageNamed env) (GridStep env)
    (StorageGrid.StandsFor env k g v) StorageEvent.Matches := by
  intro w s ev w' h hstep
  obtain ⟨foot, hlaid⟩ := h.laid
  cases hstep with
  | @newCell row cell screen' hrow hnew hrun =>
    obtain ⟨product, hitem⟩ := exists_of_run_cellForItemAt imageNamed hrow hrun
    obtain ⟨_, _, f, hrun₁, hobjects, hstack, hput⟩ :=
      hlaid.display imageNamed hlaid.ready_new hitem hnew {} rfl
    obtain ⟨hcell, rfl⟩ := run_ok_inj hrun hrun₁
    obtain rfl := Option.some.inj hcell
    refine ⟨[.cellForItem row], Exists.imp (fun _ hs' => ⟨rfl, hs'⟩) (h.display hitem ?_ ?_ ?_)⟩
    · simp only [StorageGrid.withCards, hobjects, hstack]
    · exact ⟨_, hput _ fun j c hc => getElem?_append_singleton_cases hc⟩
    · intro c hc
      rcases List.mem_append.mp hc with hold | hlast
      · exact Or.inl hold
      · rw [List.mem_singleton.mp hlast]
        exact Or.inr rfl
  | @reuse row i old cell screen' hrow hnew hold hrun =>
    obtain ⟨s₁, hprepare, hready⟩ := hlaid.ready_reuse imageNamed hold
    have hrun' := (run_bind_ok hprepare).symm.trans hrun
    obtain ⟨product, hitem⟩ := exists_of_run_cellForItemAt imageNamed hrow hrun'
    obtain ⟨_, _, f, hrun₁, hobjects, hstack, hput⟩ :=
      hlaid.display imageNamed hready hitem hnew { old with productCardViewController := none } rfl
    obtain ⟨hcell, rfl⟩ := run_ok_inj hrun' hrun₁
    obtain rfl := Option.some.inj hcell
    refine ⟨[.cellForItem row], Exists.imp (fun _ hs' => ⟨rfl, hs'⟩) (h.display hitem ?_ ?_ ?_)⟩
    · simp only [StorageGrid.withCards, hobjects, hstack]
    · exact ⟨_, hput _ fun j c hc => getElem?_set_cases hc⟩
    · intro c hc
      rcases List.mem_or_eq_of_mem_set hc with hold | rfl
      · exact Or.inl hold
      · exact Or.inr rfl
  | @showMore row reuse hrow hcell =>
    obtain ⟨cards, rfl⟩ : ∃ cards, s = w.withCards cards := ⟨_, h.eq⟩
    exact ⟨_, _, rfl, .cons (.showMore hcell) (.nil _), h⟩
  | @endDisplaying i row cell hcell =>
    refine ⟨[], s, rfl, .nil s, h.eq, ⟨foot, hlaid.endDisplaying hcell⟩, ?_, h.opened⟩
    intro c hc row' product hrow' hitem
    rcases List.mem_or_eq_of_mem_set hc with hold | rfl
    · exact h.carded c hold row' product hrow' hitem
    · cases hrow'
  | @operation i row cell viewModel op screen' hcell hmodel hrun =>
    obtain ⟨card, s', hrun', hs'⟩ := h.operation imageNamed hcell hmodel hrun
    exact ⟨_, s', ⟨card, rfl⟩, hrun', hs'⟩
  | @mainQueue screen' hrun =>
    have hidle : (runMainQueue imageNamed).run w.screen = .ok () w.screen := by
      rw [runMainQueue, run_bind_ok (EStateM.run_get w.screen), hlaid.mainQueue]
      rfl
    obtain ⟨_, rfl⟩ := run_ok_inj hrun hidle
    exact ⟨[], s, rfl, .nil s, h⟩
  | @sort tap st' hrun =>
    obtain ⟨cards, rfl⟩ : ∃ cards, s = w.withCards cards := ⟨_, h.eq⟩
    have hstep : GridStep env (w.withCards cards) (.sort tap) _ := .sort hrun
    rw [← withCards_reload w cards st' tap.sets] at hstep
    refine ⟨_, _, rfl, .cons hstep (.nil _), rfl, ⟨foot, hlaid.reload _⟩, ?_, h.opened.step hstep⟩
    intro c hc row product hrow
    obtain ⟨c', _, rfl⟩ := List.mem_map.mp hc
    cases hrow

/-! ### Every run -/

/-- An item that is not on screen can come there, in a new cell or in any without an item. -/
theorem StorageGrid.Laid.exists_display {w : StorageGrid Image} {foot : Nat → Footprint}
    (h : w.Laid foot) {row : Nat} (hrow : row < numberOfItems w.section.products)
    (hnew : ∀ c ∈ w.cells, c.row ≠ some row) {reuse : Option Nat}
    (hreuse : ∀ i, reuse = some i → ∃ old, w.cells[i]? = some ⟨old, none⟩) :
    ∃ w', StorageStep imageNamed env w (.display row reuse) w' ∧ w'.section = w.section ∧
      w'.screen.objects = w.screen.objects ∧
      (cellForItem w.section.products row = .showMore ∨ ∃ c ∈ w'.cells, c.row = some row) := by
  rcases cellForItem_cases hrow with hmore | ⟨product, hitem⟩
  · exact ⟨w, .showMore hrow hmore, rfl, rfl, Or.inl hmore⟩
  · cases reuse with
    | none =>
      obtain ⟨cell, _, _, hrun, hobjects, _⟩ :=
        h.display imageNamed h.ready_new hitem hnew {} rfl
      refine ⟨_, .newCell hrow hnew hrun, rfl, hobjects, Or.inr ⟨⟨cell, some row⟩, ?_, rfl⟩⟩
      exact List.mem_append_right _ (List.mem_singleton.mpr rfl)
    | some i =>
      obtain ⟨old, hold⟩ := hreuse i rfl
      obtain ⟨s, hprepare, hready⟩ := h.ready_reuse imageNamed hold
      obtain ⟨cell, _, _, hrun, hobjects, _⟩ := h.display imageNamed hready hitem hnew
        { old with productCardViewController := none } rfl
      refine ⟨_, .reuse hrow hnew hold ((run_bind_ok hprepare).trans hrun), rfl, hobjects,
        Or.inr ⟨⟨cell, some row⟩, ?_, rfl⟩⟩
      exact List.mem_set (List.getElem?_eq_some_iff.mp hold).1 _

/-- **Every cell of the grid shows its own product.**  A stored section is loaded;
items come on screen and leave it, in new cells or in any that are free, cards are
operated, the main queue runs and sort buttons are tapped, in any order.  Then the
grid without its faces is a run of the section and its cards.  Both faces of each cell
on screen show the product of its item as it is now, and different cells are for
different items.  Each operation on a cell on screen returns unless it overflows, and
edits the product of that cell only; each item can come on screen; and each sort
returns. -/
theorem grid_cells_show {st : CoreDataStack} {sets : Arrangement} {id : UUID} {found : Section}
    (hfetch : fetchSectionById env st.context sets id = some found) {evs : List StorageEvent}
    {w : StorageGrid Image} (hrun : Run (StorageStep imageNamed env) (.opened st found) evs w) :
    (∃ evss cards, List.Forall₂ StorageEvent.Matches evs evss ∧
      Run (GridStep env) (.opened st found) evss.flatten (w.withCards cards)) ∧
    (∀ (i : Nat) cell row, w.cells[i]? = some ⟨cell, some row⟩ → ∃ card product,
      cell.productCardViewController = some card ∧
      cellForItem w.section.products row = .storage (some product) ∧
      w.screen.FacesShow card (w.screen.objects product) ∧
      ∀ op : CardOp, op.NoOverflow (w.screen.objects product) →
        ∃ w', StorageStep imageNamed env w (.operation i op) w' ∧ w'.cells = w.cells ∧
          w'.section = w.section ∧ w'.screen.objects = fun ref =>
            if ref = product then op.edit (w.screen.objects product) else w.screen.objects ref) ∧
    (∀ (i j : Nat) cell cell' row, w.cells[i]? = some ⟨cell, some row⟩ →
      w.cells[j]? = some ⟨cell', some row⟩ → i = j) ∧
    (∀ row < numberOfItems w.section.products, (∀ c ∈ w.cells, c.row ≠ some row) → ∀ reuse,
      (∀ i, reuse = some i → ∃ old, w.cells[i]? = some ⟨old, none⟩) →
        ∃ w', StorageStep imageNamed env w (.display row reuse) w' ∧ w'.section = w.section ∧
          w'.screen.objects = w.screen.objects ∧
          (cellForItem w.section.products row = .showMore ∨ ∃ c ∈ w'.cells, c.row = some row)) ∧
    ∀ tap, ∃ w', StorageStep imageNamed env w (.sort tap) w' := by
  obtain ⟨_, k, hopened⟩ := SectionOnScreen.exists_opened hfetch
  have hinit : StorageGrid.StandsFor env k st.context found.view
      (.opened st found : StorageGrid Image) (.opened st found) :=
    ⟨rfl, ⟨fun _ => ⟨0, 0, 0, 0⟩, .opened st found _⟩, fun _ hc => absurd hc List.not_mem_nil,
      hopened⟩
  obtain ⟨evss, s, hevss, hrun', hs⟩ := (simulation_grid imageNamed).run hrun hinit
  obtain ⟨cards, rfl⟩ : ∃ cards, s = w.withCards cards := ⟨_, hs.eq⟩
  obtain ⟨foot, hlaid⟩ := hs.laid
  refine ⟨⟨evss, cards, hevss, hrun'⟩, ?_, hlaid.rows, ?_, ?_⟩
  · intro i cell row hc
    have howned := hlaid.owned i _ hc
    refine ⟨(foot i).card, _, howned.card, hlaid.item i cell row hc, (hlaid.bound hc).facesShow, ?_⟩
    intro op hop
    obtain ⟨screen', hexec, hdone, _⟩ := hlaid.operation imageNamed hs.opened.nodup hc hop
    exact ⟨_, .operation hc howned.viewModel hexec, rfl, rfl, hdone.objects⟩
  · exact fun row hrow hnew reuse hreuse => hlaid.exists_display imageNamed hrow hnew hreuse
  · intro tap
    obtain ⟨_, _, hset, _⟩ := hs.opened.sort tap
    exact ⟨_, .sort hset⟩

/-- A card is edited, its cell is used again, and both faces show the edit. -/
theorem grid_cells_show_reusedCell :
    let egg : Product := ⟨1, "egg", "egg", 2, 11⟩
    let fridge : Section := ⟨9, "fridge", 30, .oldestToNewest, [egg]⟩
    let st := final (execAll default [.createUser 7 "Ray", .createSection 7 fridge])
      (.launch .empty)
    ∃ (w : StorageGrid String) (i j : Nat) (cell : StorageCollectionViewCell)
      (card : ControllerID),
      Run (StorageStep some default) (.opened st fridge) [.display 0 none,
        .operation i .increaseQuantity, .endDisplaying i, .display 0 (some i)] w ∧
      w.cells[j]? = some ⟨cell, some 0⟩ ∧ cell.productCardViewController = some card ∧
      w.screen.FacesShow card ⟨1, "egg", "egg", 3, 11⟩ := by
  intro egg fridge st
  have hfetch : fetchSectionById default st.context .inOrder 9 = some fridge := by decide
  have hitem : cellForItem [0] 0 = .storage (some 0) := by decide
  let w₀ : StorageGrid String := .opened st fridge
  -- the item comes on screen in a new cell
  obtain ⟨_, _, _, hdisplay₀, _⟩ := grid_cells_show some hfetch (.nil w₀)
  obtain ⟨w₁, hstep₁, hsection₁, hobjects₁, hshown₁⟩ :=
    hdisplay₀ 0 (by decide) (fun _ hc => absurd hc List.not_mem_nil) none
      (fun _ h => absurd h.symm (Option.some_ne_none _))
  obtain ⟨⟨cell₁, _⟩, hc₁, rfl⟩ := hshown₁.resolve_left (by decide)
  obtain ⟨i, hi⟩ := List.mem_iff_getElem?.mp hc₁
  have hrun₁ := Run.cons hstep₁ (.nil w₁)
  -- its card is operated
  obtain ⟨_, hcells₁, hrows₁, _⟩ := grid_cells_show some hfetch hrun₁
  obtain ⟨_, product₁, _, hitem₁, _, hop₁⟩ := hcells₁ i cell₁ 0 hi
  rw [hsection₁] at hitem₁
  cases hitem.symm.trans hitem₁
  have hegg : w₁.screen.objects 0 = egg := congrFun hobjects₁ 0
  rw [hegg] at hop₁
  obtain ⟨w₂, hstep₂, hcells₂, hsection₂, hobjects₂⟩ :=
    hop₁ .increaseQuantity (CardOp.noOverflow_of_fits (by decide) _)
  -- it leaves the screen
  have hi₂ : w₂.cells[i]? = some ⟨cell₁, some 0⟩ := by rw [hcells₂, hi]
  let w₃ : StorageGrid String := { w₂ with cells := w₂.cells.set i ⟨cell₁, none⟩ }
  have hfree : w₃.cells[i]? = some ⟨cell₁, none⟩ :=
    List.getElem?_set_self (List.getElem?_eq_some_iff.mp hi₂).1
  have hrun₃ := hrun₁.append (.cons hstep₂ (.cons (.endDisplaying hi₂) (.nil w₃)))
  have hnone : ∀ c ∈ w₃.cells, c.row ≠ some 0 := by
    intro ⟨cell, row⟩ hc hrow
    obtain rfl : row = some 0 := hrow
    obtain ⟨j, hj⟩ := List.mem_iff_getElem?.mp hc
    rcases getElem?_set_cases hj with ⟨_, heq⟩ | ⟨hne, hj⟩
    · cases heq
    · exact hne (hrows₁ j i cell cell₁ 0 (hcells₂ ▸ hj) hi)
  -- and is used again
  obtain ⟨_, _, _, hdisplay₃, _⟩ := grid_cells_show some hfetch hrun₃
  have hsection₃ : w₃.section = w₀.section := hsection₂.trans hsection₁
  obtain ⟨w₄, hstep₄, hsection₄, hobjects₄, hshown₄⟩ := hdisplay₃ 0
    (by rw [hsection₃]; decide) hnone (some i) (fun _ h => by cases h; exact ⟨cell₁, hfree⟩)
  obtain ⟨⟨cell, _⟩, hc₄, rfl⟩ := hshown₄.resolve_left (by rw [hsection₃]; decide)
  obtain ⟨j, hj⟩ := List.mem_iff_getElem?.mp hc₄
  have hrun₄ := hrun₃.append (.cons hstep₄ (.nil w₄))
  obtain ⟨_, hcells₄, _⟩ := grid_cells_show some hfetch hrun₄
  obtain ⟨card, product, hcard, hitem₄, hshow, _⟩ := hcells₄ j cell 0 hj
  rw [hsection₄, hsection₃] at hitem₄
  cases hitem.symm.trans hitem₄
  rw [hobjects₄, show w₃.screen.objects 0 = ⟨1, "egg", "egg", 3, 11⟩ by
    rw [show w₃.screen.objects = w₂.screen.objects from rfl, hobjects₂]; rfl] at hshow
  exact ⟨w₄, i, j, cell, card, hrun₄, hj, hcard, hshow⟩

end Refinement

end InventoryApp
