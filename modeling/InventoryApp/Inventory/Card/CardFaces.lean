import InventoryApp.Inventory.Card.ProductCardViewController

/-!
# Both faces show the product

A card whose view has loaded is *linked*: its view model's observer is the card's
own closure, not one of its faces' (`CardScreen.Linked`).  The views of both faces
have loaded by then, so nothing overwrites the observer any more, and it configures
both of them.  That is what `run_viewDidLoad` shows of the order in which the
views load, and `linked_updateUI` of the closure.

`CardScreen.Bound` adds what the faces show.  An operation of the view model is
one change of the product and one call of the observer (`cardStep_cases`), after
which both faces show the product again: `bound_step`.
-/

namespace InventoryApp

open Lib

variable {Image : Type} (imageNamed : String → Option Image)

/-! ### What both faces should show -/

/-- The colour for a number of remaining days. -/
def dayColor (days : Int) : UIColor :=
  if days ≤ 0 then .systemRed else if days ≤ 6 then .systemOrange else .systemGreen

/-- The badge for a number of remaining days. -/
def dayBadge (days : Int) : CircleLabel := ⟨some (toString days ++ "d"), dayColor days⟩

def FrontCardView.Shows (product : Product) (view : FrontCardView Image) : Prop :=
  view.daysCircleLabel = dayBadge product.remainingDays ∧
    view.quantityCircleLabel = some ("x" ++ toString product.quantity)

def BackCardView.Shows (product : Product) (view : BackCardView) : Prop :=
  view.daysCircleLabel = dayBadge product.remainingDays ∧
    view.quantityCircleLabel = some ("x" ++ toString product.quantity)

/-- Both faces of a card have loaded and show a product. -/
def CardScreen.FacesShow (w : CardScreen Image) (card : ControllerID) (product : Product) : Prop :=
  ∃ vc front back frontVC backVC frontView backView,
    w.cards card = some vc ∧
    vc.frontCardViewController = some front ∧ w.fronts front = some frontVC ∧
    frontVC.frontCardView = some frontView ∧ frontView.Shows product ∧
    vc.backCardViewController = some back ∧ w.backs back = some backVC ∧
    backVC.backCardView = some backView ∧ backView.Shows product

theorem dayBadge_eq (days : Int) : dayBadge days =
    { text := some (toString days ++ "d")
      backgroundColor :=
        if days > 6 then .systemGreen else if days > 0 then .systemOrange else .systemRed } := by
  unfold dayBadge dayColor
  congr 1
  split_ifs <;> first | rfl | omega

theorem FrontCardView.shows_configure (product : Product) (view : FrontCardView Image) :
    (view.configure imageNamed product).Shows product :=
  ⟨(dayBadge_eq product.remainingDays).symm, rfl⟩

theorem BackCardView.shows_configure (product : Product) (view : BackCardView) :
    (view.configure product).Shows product :=
  ⟨(dayBadge_eq product.remainingDays).symm, rfl⟩

/-! ### Linked and bound cards -/

/-- A card whose view has loaded: the three controllers share the view model,
both faces have their views, and the observer is the card. -/
structure CardScreen.Linked (w : CardScreen Image) (card : ControllerID)
    (viewModel : CardViewModelID) (front back : ControllerID) : Prop where
  cards : w.cards card = some ⟨viewModel, some front, some back, true⟩
  fronts : ∃ view, w.fronts front = some ⟨viewModel, some view⟩
  backs : ∃ view, w.backs back = some ⟨viewModel, some view⟩
  observer : ∃ o, (w.cardViewModels viewModel).onProductUpdated = some o ∧
    w.closures o = some (.updateUI card)

/-- The view of a front, if it has loaded, shows the product of a view model. -/
def CardScreen.FrontShows (w : CardScreen Image) (front : ControllerID)
    (viewModel : CardViewModelID) : Prop :=
  ∀ vc view, w.fronts front = some vc → vc.frontCardView = some view →
    view.Shows (w.product viewModel)

def CardScreen.BackShows (w : CardScreen Image) (back : ControllerID)
    (viewModel : CardViewModelID) : Prop :=
  ∀ vc view, w.backs back = some vc → vc.backCardView = some view →
    view.Shows (w.product viewModel)

/-- A linked card whose faces show the product. -/
structure CardScreen.Bound (w : CardScreen Image) (card : ControllerID)
    (viewModel : CardViewModelID) (front back : ControllerID) : Prop
    extends w.Linked card viewModel front back where
  frontShows : w.FrontShows front viewModel
  backShows : w.BackShows back viewModel

theorem CardScreen.Bound.facesShow {w : CardScreen Image} {card front back : ControllerID}
    {viewModel : CardViewModelID} (h : w.Bound card viewModel front back) :
    w.FacesShow card (w.product viewModel) := by
  obtain ⟨frontView, hfront⟩ := h.fronts
  obtain ⟨backView, hback⟩ := h.backs
  exact ⟨_, front, back, _, _, frontView, backView, h.cards, rfl, hfront, rfl,
    h.frontShows _ _ hfront rfl, rfl, hback, rfl, h.backShows _ _ hback rfl⟩

section Updates

variable {w : CardScreen Image} {card front back self : ControllerID}
  {viewModel : CardViewModelID}

/-- A front that is configured with its own view model shows that one's product,
and other cards are as before. -/
theorem linked_configureFront {vc : FrontCardViewController Image}
    (h : w.Linked card viewModel front back) (hvc : w.fronts self = some vc) :
    ∃ w', (FrontCardViewController.configure imageNamed self vc.viewModel).run w = .ok () w' ∧
      w'.Linked card viewModel front back ∧
      (self = front ∨ w.FrontShows front viewModel → w'.FrontShows front viewModel) ∧
      (w.BackShows back viewModel → w'.BackShows back viewModel) ∧
      w'.objects = w.objects ∧ w'.cardViewModels = w.cardViewModels := by
  obtain ⟨frontView, hfront⟩ := h.fronts
  refine ⟨_, rfl, ⟨h.cards, ?_, h.backs, h.observer⟩, ?_, id, rfl, rfl⟩
  · by_cases hself : front = self
    · subst hself
      exact ⟨_, CardScreen.fronts_modifyFront hfront _⟩
    · rw [CardScreen.fronts_modifyFront_of_ne hself]
      exact h.fronts
  · intro hshows vc' view hvc' hview
    by_cases hself : front = self
    · subst hself
      obtain rfl := Option.some.inj (hfront.symm.trans hvc)
      obtain rfl := Option.some.inj ((CardScreen.fronts_modifyFront hfront _).symm.trans hvc')
      obtain rfl := Option.some.inj hview
      exact FrontCardView.shows_configure imageNamed _ _
    · exact (hshows.resolve_left (Ne.symm hself)) vc' view
        ((CardScreen.fronts_modifyFront_of_ne hself _).symm.trans hvc') hview

theorem linked_configureBack {vc : BackCardViewController}
    (h : w.Linked card viewModel front back) (hvc : w.backs self = some vc) :
    ∃ w', (BackCardViewController.configure self vc.viewModel).run w = .ok () w' ∧
      w'.Linked card viewModel front back ∧
      (self = back ∨ w.BackShows back viewModel → w'.BackShows back viewModel) ∧
      (w.FrontShows front viewModel → w'.FrontShows front viewModel) ∧
      w'.objects = w.objects ∧ w'.cardViewModels = w.cardViewModels := by
  obtain ⟨backView, hback⟩ := h.backs
  refine ⟨_, rfl, ⟨h.cards, h.fronts, ?_, h.observer⟩, ?_, id, rfl, rfl⟩
  · by_cases hself : back = self
    · subst hself
      exact ⟨_, CardScreen.backs_modifyBack hback _⟩
    · rw [CardScreen.backs_modifyBack_of_ne hself]
      exact h.backs
  · intro hshows vc' view hvc' hview
    by_cases hself : back = self
    · subst hself
      obtain rfl := Option.some.inj (hback.symm.trans hvc)
      obtain rfl := Option.some.inj ((CardScreen.backs_modifyBack hback _).symm.trans hvc')
      obtain rfl := Option.some.inj hview
      exact BackCardView.shows_configure _ _
    · exact (hshows.resolve_left (Ne.symm hself)) vc' view
        ((CardScreen.backs_modifyBack_of_ne hself _).symm.trans hvc') hview

/-- **The card's closure configures both faces.** -/
theorem linked_updateUI (h : w.Linked card viewModel front back) :
    ∃ w', (ProductCardViewController.updateUI imageNamed card).run w = .ok () w' ∧
      w'.Bound card viewModel front back ∧ w'.objects = w.objects ∧
      w'.cardViewModels = w.cardViewModels := by
  obtain ⟨_, hfront⟩ := h.fronts
  obtain ⟨w₁, hrun₁, h₁, hshows₁, _, hobjects₁, hmodels₁⟩ :=
    linked_configureFront imageNamed h hfront
  obtain ⟨_, hback⟩ := h₁.backs
  obtain ⟨w₂, hrun₂, h₂, hshows₂, hkeep₂, hobjects₂, hmodels₂⟩ := linked_configureBack h₁ hback
  refine ⟨w₂, ?_, ⟨h₂, hkeep₂ (hshows₁ (Or.inl rfl)), hshows₂ (Or.inl rfl)⟩,
    hobjects₂.trans hobjects₁, hmodels₂.trans hmodels₁⟩
  rw [ProductCardViewController.updateUI, run_bind_ok (EStateM.run_get w)]
  simp only [h.cards]
  exact (run_bind_ok rfl).trans ((run_bind_ok hrun₁).trans ((run_bind_ok rfl).trans hrun₂))

/-- A turn of the main queue configures a face with its own view model. -/
theorem bound_configure (h : w.Bound card viewModel front back) (face : Face) :
    ∃ w', (face.configure imageNamed).run w = .ok () w' ∧ w'.Bound card viewModel front back ∧
      w'.cardViewModels = w.cardViewModels := by
  cases face with
  | front self =>
    cases hvc : w.fronts self with
    | none =>
      refine ⟨w, ?_, h, rfl⟩
      rw [Face.configure, run_bind_ok (EStateM.run_get w), hvc]
      rfl
    | some vc =>
      obtain ⟨w', hrun, h', hfront, hback, _, hmodels⟩ :=
        linked_configureFront imageNamed h.toLinked hvc
      refine ⟨w', ?_, ⟨h', hfront (Or.inr h.frontShows), hback h.backShows⟩, hmodels⟩
      rw [Face.configure, run_bind_ok (EStateM.run_get w), hvc]
      exact hrun
  | back self =>
    cases hvc : w.backs self with
    | none =>
      refine ⟨w, ?_, h, rfl⟩
      rw [Face.configure, run_bind_ok (EStateM.run_get w), hvc]
      rfl
    | some vc =>
      obtain ⟨w', hrun, h', hback, hfront, _, hmodels⟩ := linked_configureBack h.toLinked hvc
      refine ⟨w', ?_, ⟨h', hfront h.frontShows, hback (Or.inr h.backShows)⟩, hmodels⟩
      rw [Face.configure, run_bind_ok (EStateM.run_get w), hvc]
      exact hrun

end Updates

/-! ### Loading -/

/-- What loading views leaves alone. -/
structure CardScreen.SameProducts (w w' : CardScreen Image) : Prop where
  objects : w'.objects = w.objects
  coreDataStack : w'.coreDataStack = w.coreDataStack
  products : ∀ viewModel,
    (w'.cardViewModels viewModel).product = (w.cardViewModels viewModel).product

theorem CardScreen.SameProducts.trans {w w' w'' : CardScreen Image} (h : w.SameProducts w')
    (h' : w'.SameProducts w'') : w.SameProducts w'' where
  objects := h'.objects.trans h.objects
  coreDataStack := h'.coreDataStack.trans h.coreDataStack
  products viewModel := (h'.products viewModel).trans (h.products viewModel)

theorem CardScreen.SameProducts.product_eq {w w' : CardScreen Image} (h : w.SameProducts w')
    (viewModel : CardViewModelID) : w'.product viewModel = w.product viewModel := by
  rw [CardScreen.product, h.objects, h.products]
  rfl

/-- What `setOnProductUpdated` makes of the screen. -/
theorem run_setOnProductUpdated (w : CardScreen Image) (viewModel : CardViewModelID)
    (closure : Closure) :
    ∃ w', (CardViewModel.setOnProductUpdated viewModel closure).run w = .ok () w' ∧
      w.SameProducts w' ∧ w'.fronts = w.fronts ∧ w'.backs = w.backs ∧ w'.cards = w.cards ∧
      ∃ o, (w'.cardViewModels viewModel).onProductUpdated = some o ∧
        w'.closures o = some closure := by
  refine ⟨_, rfl, ⟨rfl, rfl, ?_⟩, rfl, rfl, rfl, w.next, ?_, Function.update_self ..⟩
  · intro other
    by_cases h : other = viewModel
    · subst h
      simp only [Function.update_self]
    · simp only [Function.update_of_ne h]
  · simp only [Function.update_self]

section Loading

variable {w : CardScreen Image} {self : ControllerID} {viewModel : CardViewModelID}

/-- The view of a face is there. -/
def Face.Loaded (w : CardScreen Image) : Face → Prop
  | front controller => ∃ vc view, w.fronts controller = some vc ∧ vc.frontCardView = some view
  | back controller => ∃ vc view, w.backs controller = some vc ∧ vc.backCardView = some view

/-- **A view that is there is not loaded again.** -/
theorem Face.run_view_of_loaded {face : Face} (h : face.Loaded w) :
    (face.view imageNamed).run w = .ok () w := by
  cases face with
  | front controller =>
    obtain ⟨vc, view, hvc, hview⟩ := h
    rw [Face.view, FrontCardViewController.view, run_bind_ok (EStateM.run_get w), hvc]
    simp only [hview, Option.isNone_some]
    rfl
  | back controller =>
    obtain ⟨vc, view, hvc, hview⟩ := h
    rw [Face.view, BackCardViewController.view, run_bind_ok (EStateM.run_get w), hvc]
    simp only [hview, Option.isNone_some]
    rfl

theorem run_setupChildViewController_of_loaded {face : Face} (h : face.Loaded w) :
    (ProductCardViewController.setupChildViewController imageNamed face).run w = .ok () w :=
  (run_bind_ok (Face.run_view_of_loaded imageNamed h)).trans (Face.run_view_of_loaded imageNamed h)

/-- A front that is touched for the first time takes the observer and shows the product. -/
theorem run_view_newFront (h : w.fronts self = some { viewModel }) :
    ∃ w' view, (FrontCardViewController.view imageNamed self).run w = .ok () w' ∧
      w'.fronts self = some ⟨viewModel, some view⟩ ∧ view.Shows (w.product viewModel) ∧
      w.SameProducts w' ∧ w'.backs = w.backs ∧ w'.cards = w.cards := by
  let w₁ := w.modifyFront self fun vc => { vc with frontCardView := some {} }
  have h₁ : w₁.fronts self = some ⟨viewModel, some {}⟩ := CardScreen.fronts_modifyFront h _
  obtain ⟨w₂, hrun, hsame, hfronts, hbacks, hcards, _⟩ :=
    run_setOnProductUpdated w₁ viewModel (.configureLater (.front self))
  let w₃ := w₂.modifyFront self fun vc =>
    { vc with
      frontCardView := vc.frontCardView.map (·.configure imageNamed (w₂.product viewModel)) }
  have h₃ : w₃.fronts self =
      some ⟨viewModel, some (FrontCardView.configure imageNamed (w₂.product viewModel) {})⟩ :=
    CardScreen.fronts_modifyFront (hfronts ▸ h₁) _
  refine ⟨w₃, _, ?_, h₃, ?_, ⟨hsame.objects, hsame.coreDataStack, hsame.products⟩, hbacks, hcards⟩
  · rw [FrontCardViewController.view, run_bind_ok (EStateM.run_get w), h]
    refine (run_bind_ok (t := w₁) rfl).trans ?_
    rw [FrontCardViewController.viewDidLoad, run_bind_ok (EStateM.run_get w₁), h₁]
    exact run_bind_ok hrun
  · rw [← show w₂.product viewModel = w.product viewModel from hsame.product_eq viewModel]
    exact FrontCardView.shows_configure imageNamed _ _

/-- So does a back, in the other order. -/
theorem run_view_newBack (h : w.backs self = some { viewModel }) :
    ∃ w' view, (BackCardViewController.view self).run w = .ok () w' ∧
      w'.backs self = some ⟨viewModel, some view⟩ ∧ view.Shows (w.product viewModel) ∧
      w.SameProducts w' ∧ w'.fronts = w.fronts ∧ w'.cards = w.cards := by
  let w₁ := w.modifyBack self fun vc => { vc with backCardView := some {} }
  have h₁ : w₁.backs self = some ⟨viewModel, some {}⟩ := CardScreen.backs_modifyBack h _
  let w₂ := w₁.modifyBack self fun vc =>
    { vc with backCardView := vc.backCardView.map (·.configure (w₁.product viewModel)) }
  have h₂ : w₂.backs self =
      some ⟨viewModel, some (BackCardView.configure (w.product viewModel) {})⟩ :=
    CardScreen.backs_modifyBack h₁ _
  obtain ⟨w₃, hrun, hsame, hfronts, hbacks, hcards, _⟩ :=
    run_setOnProductUpdated w₂ viewModel (.configureLater (.back self))
  refine ⟨w₃, _, ?_, hbacks ▸ h₂, BackCardView.shows_configure _ _, ⟨hsame.objects,
    hsame.coreDataStack, hsame.products⟩, hfronts, hcards⟩
  rw [BackCardViewController.view, run_bind_ok (EStateM.run_get w), h]
  refine (run_bind_ok (t := w₁) rfl).trans ?_
  rw [BackCardViewController.viewDidLoad, run_bind_ok (EStateM.run_get w₁), h₁]
  exact (run_bind_ok (t := w₂) rfl).trans hrun

/-- **The children's views load when the card touches them first**, the front before the back. -/
theorem run_loadFaces {front back : ControllerID} (hfront : w.fronts front = some { viewModel })
    (hback : w.backs back = some { viewModel }) :
    ∃ w' frontView backView,
      (∀ rest : UI Image Unit, (do
        ProductCardViewController.setupChildViewController imageNamed (.front front)
        ProductCardViewController.setupChildViewController imageNamed (.back back)
        Face.view imageNamed (.back back)
        rest).run w = rest.run w') ∧
      w'.fronts front = some ⟨viewModel, some frontView⟩ ∧ frontView.Shows (w.product viewModel) ∧
      w'.backs back = some ⟨viewModel, some backView⟩ ∧ backView.Shows (w.product viewModel) ∧
      w.SameProducts w' ∧ w'.cards = w.cards := by
  obtain ⟨w₁, frontView, hrun₁, hfront₁, hshows₁, hsame₁, hbacks₁, hcards₁⟩ :=
    run_view_newFront imageNamed hfront
  obtain ⟨w₂, backView, hrun₂, hback₂, hshows₂, hsame₂, hfronts₂, hcards₂⟩ :=
    run_view_newBack (w := w₁) (hbacks₁ ▸ hback)
  refine ⟨w₂, frontView, backView, ?_, hfronts₂ ▸ hfront₁, hshows₁, hback₂,
    hsame₁.product_eq viewModel ▸ hshows₂, hsame₁.trans hsame₂, hcards₂.trans hcards₁⟩
  intro rest
  have hfrontLoaded : Face.Loaded w₁ (.front front) := ⟨_, _, hfront₁, rfl⟩
  have hbackLoaded : Face.Loaded w₂ (.back back) := ⟨_, _, hback₂, rfl⟩
  have hsetupFront : (ProductCardViewController.setupChildViewController imageNamed
      (.front front)).run w = .ok () w₁ :=
    (run_bind_ok hrun₁).trans (Face.run_view_of_loaded imageNamed hfrontLoaded)
  have hsetupBack : (ProductCardViewController.setupChildViewController imageNamed
      (.back back)).run w₁ = .ok () w₂ :=
    (run_bind_ok hrun₂).trans (Face.run_view_of_loaded imageNamed hbackLoaded)
  refine (run_bind_ok hsetupFront).trans ((run_bind_ok hsetupBack).trans ?_)
  exact run_bind_ok (Face.run_view_of_loaded imageNamed hbackLoaded)

/-- A card that observes its view model, with faces that have loaded and show the product. -/
theorem CardScreen.Bound.of_loaded {front back : ControllerID} {frontView : FrontCardView Image}
    {backView : BackCardView} {o : Observer}
    (hcard : w.cards self = some ⟨viewModel, some front, some back, true⟩)
    (hfront : w.fronts front = some ⟨viewModel, some frontView⟩)
    (hback : w.backs back = some ⟨viewModel, some backView⟩)
    (ho : (w.cardViewModels viewModel).onProductUpdated = some o)
    (hclosure : w.closures o = some (.updateUI self))
    (hfrontShows : frontView.Shows (w.product viewModel))
    (hbackShows : backView.Shows (w.product viewModel)) : w.Bound self viewModel front back := by
  refine ⟨⟨hcard, ⟨_, hfront⟩, ⟨_, hback⟩, o, ho, hclosure⟩, ?_, ?_⟩
  · intro vc view hvc hview
    obtain rfl := Option.some.inj (hfront.symm.trans hvc)
    obtain rfl := Option.some.inj hview
    exact hfrontShows
  · intro vc view hvc hview
    obtain rfl := Option.some.inj (hback.symm.trans hvc)
    obtain rfl := Option.some.inj hview
    exact hbackShows

/-- **A card that loads ends up as the observer of its view model**, after both
its faces have been, and both faces show the product. -/
theorem run_view_newCard (h : w.cards self = some { cardViewModel := viewModel }) :
    ∃ w' front back, (ProductCardViewController.view imageNamed self).run w = .ok () w' ∧
      w'.Bound self viewModel front back ∧ w.SameProducts w' := by
  let front := w.next
  let back := w.next + 1
  -- the children are there, and their views are not
  let w₀ := w.modifyCard self fun vc => { vc with isViewLoaded := true }
  let w₁ : CardScreen Image :=
    { w₀ with fronts := Function.update w₀.fronts front (some { viewModel }), next := front + 1 }
  let w₂ := w₁.modifyCard self fun vc => { vc with frontCardViewController := some front }
  let w₃ : CardScreen Image :=
    { w₂ with backs := Function.update w₂.backs back (some { viewModel }), next := back + 1 }
  let w₄ := w₃.modifyCard self fun vc => { vc with backCardViewController := some back }
  have hcards₀ : w₀.cards self = some ⟨viewModel, none, none, true⟩ :=
    CardScreen.cards_modifyCard h _
  have hcards₂ : w₂.cards self = some ⟨viewModel, some front, none, true⟩ :=
    CardScreen.cards_modifyCard (w := w₁) hcards₀ _
  have hcards₄ : w₄.cards self = some ⟨viewModel, some front, some back, true⟩ :=
    CardScreen.cards_modifyCard (w := w₃) hcards₂ _
  have hfront₄ : w₄.fronts front = some { viewModel } := Function.update_self ..
  have hback₄ : w₄.backs back = some { viewModel } := Function.update_self ..
  -- both views load, and then the card takes the observer
  obtain ⟨w₅, frontView, backView, hrun₅, hfront₅, hfrontShows, hback₅, hbackShows, hsame₅,
    hcards₅⟩ := run_loadFaces imageNamed hfront₄ hback₄
  obtain ⟨w₆, hrun₆, hsame₆, hfronts₆, hbacks₆, hcards₆, o, ho, hclosure⟩ :=
    run_setOnProductUpdated w₅ viewModel (.updateUI self)
  have hsame : w₄.SameProducts w₆ := hsame₅.trans hsame₆
  have hfront₆ : w₆.fronts front = some ⟨viewModel, some frontView⟩ := hfronts₆ ▸ hfront₅
  have hback₆ : w₆.backs back = some ⟨viewModel, some backView⟩ := hbacks₆ ▸ hback₅
  have hcard₆ : w₆.cards self = some ⟨viewModel, some front, some back, true⟩ := by
    rw [hcards₆, hcards₅, hcards₄]
  have hproduct : w₆.product viewModel = w₄.product viewModel := hsame.product_eq viewModel
  refine ⟨w₆, front, back, ?_, .of_loaded hcard₆ hfront₆ hback₆ ho hclosure
    (hproduct ▸ hfrontShows) (hproduct ▸ hbackShows),
    ⟨hsame.objects, hsame.coreDataStack, hsame.products⟩⟩
  have hfrontLoaded : Face.Loaded w₆ (.front front) := ⟨_, _, hfront₆, rfl⟩
  have hbackLoaded : Face.Loaded w₆ (.back back) := ⟨_, _, hback₆, rfl⟩
  rw [ProductCardViewController.view, run_bind_ok (EStateM.run_get w), h]
  refine (run_bind_ok (t := w₀) rfl).trans ?_
  rw [ProductCardViewController.viewDidLoad, run_bind_ok (EStateM.run_get w₀), hcards₀]
  refine (run_bind_ok (t := w₁) rfl).trans ?_
  refine (run_bind_ok (t := w₂) rfl).trans ?_
  refine (run_bind_ok (t := w₃) rfl).trans ?_
  refine (run_bind_ok (t := w₄) rfl).trans ?_
  refine (hrun₅ _).trans ((run_bind_ok hrun₆).trans ?_)
  -- from here on nothing loads
  refine (run_bind_ok (run_setupChildViewController_of_loaded imageNamed hfrontLoaded)).trans ?_
  refine (run_bind_ok (run_setupChildViewController_of_loaded imageNamed hbackLoaded)).trans ?_
  exact Face.run_view_of_loaded imageNamed hbackLoaded

/-! A card in any state loads, and no product changes. -/

theorem keeps_modify (f : CardScreen Image → CardScreen Image)
    (hf : ∀ s : CardScreen Image, s.SameProducts (f s)) :
    Keeps w.SameProducts (modify f : UI Image Unit) :=
  fun s hs => ⟨(), f s, rfl, hs.trans (hf s)⟩

theorem keeps_setOnProductUpdated (closure : Closure) :
    Keeps w.SameProducts (CardViewModel.setOnProductUpdated viewModel closure : UI Image Unit) := by
  intro s hs
  obtain ⟨t, hrun, hsame, _⟩ := run_setOnProductUpdated s viewModel closure
  exact ⟨(), t, hrun, hs.trans hsame⟩

theorem keeps_viewFace (face : Face) : Keeps w.SameProducts (face.view imageNamed) := by
  cases face with
  | front controller =>
    refine .bind .get fun s => ?_
    cases s.fronts controller with
    | none => exact .pure _
    | some vc =>
      by_cases hview : vc.frontCardView.isNone
      · simp only [if_pos hview]
        refine .bind (keeps_modify _ fun _ => ⟨rfl, rfl, fun _ => rfl⟩) fun _ => ?_
        refine .bind .get fun s' => ?_
        cases s'.fronts controller with
        | none => exact .pure _
        | some vc' =>
          exact .bind (keeps_setOnProductUpdated _) fun _ =>
            keeps_modify _ fun _ => ⟨rfl, rfl, fun _ => rfl⟩
      · simp only [if_neg hview]
        exact .pure _
  | back controller =>
    refine .bind .get fun s => ?_
    cases s.backs controller with
    | none => exact .pure _
    | some vc =>
      by_cases hview : vc.backCardView.isNone
      · simp only [if_pos hview]
        refine .bind (keeps_modify _ fun _ => ⟨rfl, rfl, fun _ => rfl⟩) fun _ => ?_
        refine .bind .get fun s' => ?_
        cases s'.backs controller with
        | none => exact .pure _
        | some vc' =>
          refine .bind (keeps_modify _ fun _ => ⟨rfl, rfl, fun _ => rfl⟩) fun _ => ?_
          exact keeps_setOnProductUpdated _
      · simp only [if_neg hview]
        exact .pure _

theorem keeps_viewDidLoad : Keeps w.SameProducts
    (ProductCardViewController.viewDidLoad imageNamed self) := by
  have keeps_setup : ∀ face : Face, Keeps w.SameProducts
      (ProductCardViewController.setupChildViewController imageNamed face) :=
    fun face => .bind (keeps_viewFace imageNamed face) fun _ => keeps_viewFace imageNamed face
  refine .bind .get fun s => ?_
  cases s.cards self with
  | none => exact .pure _
  | some vc =>
    refine .bind (fun s hs => ⟨_, _, rfl, hs.trans ⟨rfl, rfl, fun _ => rfl⟩⟩) fun front => ?_
    refine .bind (keeps_modify _ fun _ => ⟨rfl, rfl, fun _ => rfl⟩) fun _ => ?_
    refine .bind (fun s hs => ⟨_, _, rfl, hs.trans ⟨rfl, rfl, fun _ => rfl⟩⟩) fun back => ?_
    refine .bind (keeps_modify _ fun _ => ⟨rfl, rfl, fun _ => rfl⟩) fun _ => ?_
    refine .bind (keeps_setup (.front front)) fun _ => .bind (keeps_setup (.back back)) fun _ => ?_
    refine .bind (keeps_viewFace imageNamed (.back back)) fun _ => ?_
    refine .bind (keeps_setOnProductUpdated _) fun _ => ?_
    refine .bind (keeps_setup (.front front)) fun _ => .bind (keeps_setup (.back back)) fun _ => ?_
    exact keeps_viewFace imageNamed (.back back)

theorem keeps_view : Keeps w.SameProducts (ProductCardViewController.view imageNamed self) := by
  refine .bind .get fun s => ?_
  cases s.cards self with
  | none => exact .pure _
  | some vc =>
    by_cases hview : (!vc.isViewLoaded) = true
    · simp only [if_pos hview]
      refine .bind (keeps_modify _ fun _ => ⟨rfl, rfl, fun _ => rfl⟩) fun _ => ?_
      exact keeps_viewDidLoad imageNamed
    · simp only [if_neg hview]
      exact .pure _

end Loading

/-! ### Operations -/

section Operations

variable {w : CardScreen Image} {card front back : ControllerID}
  {viewModel : CardViewModelID}

/-- **An operation that returns has been shown.**  It changes the product, and
then its one notification configures both faces. -/
theorem bound_operation (h : w.Bound card viewModel front back) {op : CardOp}
    (hop : op.NoOverflow (w.product viewModel)) :
    ∃ w', (op.execOn imageNamed viewModel).run w = .ok () w' ∧
      w'.Bound card viewModel front back ∧
      (w'.cardViewModels viewModel).product = (w.cardViewModels viewModel).product ∧
      w'.product viewModel = op.edit (w.product viewModel) := by
  obtain ⟨o, ho, hclosure⟩ := h.observer
  let done := ((w.cardWorld viewModel).withProduct (op.edit (w.product viewModel))).afterNotify
  have hexec : op.exec.run (w.cardWorld viewModel) = .ok () done := CardOp.run_exec_ok hop
  have hviewModel : done.viewModel = w.cardViewModels viewModel := CardWorld.viewModel_afterNotify _
  have hnotified : done.notified = [(o, done.product)] := by
    rw [CardWorld.notified_afterNotify ho, CardWorld.product_afterNotify]
    rfl
  -- the view models are as before, and so is the link
  let w₁ := w.withCardWorld viewModel done
  have hmodels : w₁.cardViewModels = w.cardViewModels := by
    show Function.update w.cardViewModels viewModel done.viewModel = w.cardViewModels
    rw [hviewModel, Function.update_eq_self]
  have hproduct : w₁.product viewModel = op.edit (w.product viewModel) := by
    have hdone : done.product = op.edit (w.product viewModel) := by
      rw [CardWorld.product_afterNotify, CardWorld.product_withProduct]
    rw [← hdone, CardScreen.product, hmodels, ← hviewModel]
    rfl
  have hlinked : w₁.Linked card viewModel front back :=
    ⟨h.cards, h.fronts, h.backs, o, hmodels ▸ ho, hclosure⟩
  obtain ⟨w₂, hupdate, hbound, hobjects, hmodels₂⟩ := linked_updateUI imageNamed hlinked
  refine ⟨w₂, ?_, hbound, ?_, ?_⟩
  · rw [CardOp.execOn, run_bind_ok (EStateM.run_get w), hexec]
    refine (run_bind_ok (t := w₁) rfl).trans ?_
    rw [hnotified, List.forM_cons, List.forM_nil]
    have hobserver : (callObserver imageNamed o).run w₁ = .ok () w₂ := by
      rw [callObserver, run_bind_ok (EStateM.run_get w₁), show w₁.closures o = _ from hclosure]
      exact hupdate
    exact (run_bind_ok hobserver).trans rfl
  · rw [hmodels₂, hmodels]
  · rw [← hproduct, CardScreen.product, hobjects, hmodels₂]
    rfl

/-- An operation that overflows ends the process. -/
theorem run_execOn_trap {op : CardOp} (hop : ¬ op.NoOverflow (w.product viewModel)) :
    ∃ w', (op.execOn imageNamed viewModel).run w = .error .intOverflow w' := by
  have hexec : op.exec.run (w.cardWorld viewModel) = .error .intOverflow (w.cardWorld viewModel) :=
    CardOp.run_exec_trap hop
  refine ⟨w.withCardWorld viewModel (w.cardWorld viewModel), ?_⟩
  rw [CardOp.execOn, run_bind_ok (EStateM.run_get w), hexec]
  rfl

/-- **One event keeps a card bound to its view model.** -/
theorem bound_step {w' : CardScreen Image} {event : CardEvent}
    (h : w.Bound card viewModel front back)
    (hstep : CardEventStep imageNamed viewModel w event w') :
    w'.Bound card viewModel front back ∧
      (w'.cardViewModels viewModel).product = (w.cardViewModels viewModel).product := by
  cases event with
  | operation op =>
    by_cases hop : op.NoOverflow (w.product viewModel)
    · obtain ⟨w₁, hrun, hbound, hproduct, _⟩ := bound_operation imageNamed h hop
      obtain ⟨_, rfl⟩ := run_ok_inj hrun hstep
      exact ⟨hbound, hproduct⟩
    · obtain ⟨w₁, hrun⟩ := run_execOn_trap imageNamed hop
      have := hstep.symm.trans hrun
      cases this
  | mainQueue =>
    rw [CardEventStep, CardEvent.exec, runMainQueue, run_bind_ok (EStateM.run_get w)] at hstep
    cases hqueue : w.mainQueue with
    | nil =>
      rw [hqueue] at hstep
      obtain ⟨_, rfl⟩ := run_ok_inj (show (pure () : UI Image Unit).run w = .ok () w from rfl) hstep
      exact ⟨h, rfl⟩
    | cons face rest =>
      rw [hqueue] at hstep
      let w₁ : CardScreen Image := { w with mainQueue := rest }
      have h₁ : w₁.Bound card viewModel front back :=
        ⟨⟨h.cards, h.fronts, h.backs, h.observer⟩, h.frontShows, h.backShows⟩
      obtain ⟨w₂, hrun, hbound, hmodels⟩ := bound_configure imageNamed h₁ face
      obtain ⟨_, rfl⟩ := run_ok_inj ((run_bind_ok (t := w₁) rfl).trans hrun) hstep
      exact ⟨hbound, by rw [hmodels]⟩

end Operations

end InventoryApp
