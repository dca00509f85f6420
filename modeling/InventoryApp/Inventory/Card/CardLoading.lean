import InventoryApp.Inventory.Storage.StorageCollectionViewController

/-!
# What a new card is made of

Controllers, view models and closures have identities from one counter, so what is
made after a screen `w` has identities from `w.next` on.  `CardScreen.Grown w vm s`
says that `s` has come from `w` by making things for the view model `vm`: what `w`
has is as it was, and every controller that was added belongs to `vm`.

Everything that a cell does with its card on the way to a new one keeps this, as
far as it starts from a cell without a card: it loads views, sets closures and drops
cards, each time of its own.  So a cell that is configured leaves the cards of all
other cells alone (`run_cellForItemAt_grown`).
-/

namespace InventoryApp

open Lib StorageCollectionViewController

/-! ### Maps that change under one key -/

/-- What a map has under a key after one key was given a value. -/
theorem eq_some_of_update {α : Type} {g : Nat → Option α} {i j : Nat} {a b : α}
    (h : Function.update g i (some a) j = some b) : (j = i ∧ b = a) ∨ g j = some b := by
  by_cases hij : j = i
  · subst hij
    rw [Function.update_self] at h
    exact Or.inl ⟨rfl, (Option.some.inj h).symm⟩
  · rw [Function.update_of_ne hij] at h
    exact Or.inr h

/-- What a map has under a key after the value of one key was changed. -/
theorem eq_some_of_update_map {α : Type} {g : Nat → Option α} {f : α → α} {i j : Nat} {b : α}
    (h : Function.update g i ((g i).map f) j = some b) :
    ∃ a, g j = some a ∧ (b = a ∨ b = f a) := by
  by_cases hij : j = i
  · subst hij
    rw [Function.update_self] at h
    obtain ⟨a, ha, rfl⟩ := Option.map_eq_some_iff.mp h
    exact ⟨a, ha, Or.inr rfl⟩
  · rw [Function.update_of_ne hij] at h
    exact ⟨b, h, Or.inl rfl⟩

theorem eq_some_of_update_none {α : Type} {g : Nat → Option α} {i j : Nat} {a : α}
    (h : Function.update g i none j = some a) : g j = some a := by
  by_cases hij : j = i
  · subst hij
    rw [Function.update_self] at h
    cases h
  · rwa [Function.update_of_ne hij] at h

theorem eq_some_of_ite_none {α : Type} {p : Prop} [Decidable p] {o : Option α} {a : α}
    (h : (if p then none else o) = some a) : o = some a := by
  by_cases hp : p
  · rw [if_pos hp] at h
    cases h
  · rwa [if_neg hp] at h

/-! ### Growing -/

variable {Image : Type} (imageNamed : String → Option Image)

/-- There is nothing under an identity that is not in use. -/
structure CardScreen.Unused (w : CardScreen Image) : Prop where
  cards : ∀ k, w.next ≤ k → w.cards k = none
  fronts : ∀ k, w.next ≤ k → w.fronts k = none
  backs : ∀ k, w.next ≤ k → w.backs k = none
  closures : ∀ k, w.next ≤ k → w.closures k = none

/-- What `w` has is as it was, and what was added belongs to the view model. -/
structure CardScreen.Grown (w : CardScreen Image) (viewModel : CardViewModelID)
    (s : CardScreen Image) : Prop where
  viewModel_ge : w.next ≤ viewModel
  viewModel_lt : viewModel < s.next
  objects : s.objects = w.objects
  coreDataStack : s.coreDataStack = w.coreDataStack
  mainQueue : s.mainQueue = w.mainQueue
  oldCards : ∀ k < w.next, s.cards k = w.cards k
  oldFronts : ∀ k < w.next, s.fronts k = w.fronts k
  oldBacks : ∀ k < w.next, s.backs k = w.backs k
  oldViewModels : ∀ k < w.next, s.cardViewModels k = w.cardViewModels k
  oldClosures : ∀ k < w.next, s.closures k = w.closures k
  cards : ∀ k vc, w.next ≤ k → s.cards k = some vc → k < s.next ∧
    vc.cardViewModel = viewModel ∧
    (∀ face, vc.frontCardViewController = some face → w.next ≤ face) ∧
    ∀ face, vc.backCardViewController = some face → w.next ≤ face
  fronts : ∀ k vc, w.next ≤ k → s.fronts k = some vc → k < s.next ∧ vc.viewModel = viewModel
  backs : ∀ k vc, w.next ≤ k → s.backs k = some vc → k < s.next ∧ vc.viewModel = viewModel
  closures : ∀ k closure, w.next ≤ k → s.closures k = some closure → k < s.next

namespace CardScreen.Grown

variable {w s : CardScreen Image} {viewModel : CardViewModelID} {self : ControllerID}

theorem le (h : w.Grown viewModel s) : w.next ≤ s.next :=
  Nat.le_of_lt (Nat.lt_of_le_of_lt h.viewModel_ge h.viewModel_lt)

/-- An identity more is in use. -/
theorem bump (h : w.Grown viewModel s) : w.Grown viewModel { s with next := s.next + 1 } where
  __ := h
  viewModel_lt := Nat.lt_succ_of_lt h.viewModel_lt
  cards k vc hk hvc := (h.cards k vc hk hvc).imp_left Nat.lt_succ_of_lt
  fronts k vc hk hvc := (h.fronts k vc hk hvc).imp_left Nat.lt_succ_of_lt
  backs k vc hk hvc := (h.backs k vc hk hvc).imp_left Nat.lt_succ_of_lt
  closures k closure hk hclosure := Nat.lt_succ_of_lt (h.closures k closure hk hclosure)

theorem modifyFront (h : w.Grown viewModel s) (hself : w.next ≤ self)
    {f : FrontCardViewController Image → FrontCardViewController Image}
    (hf : ∀ vc, (f vc).viewModel = vc.viewModel) : w.Grown viewModel (s.modifyFront self f) where
  __ := h
  oldFronts k hk :=
    (CardScreen.fronts_modifyFront_of_ne (Nat.ne_of_lt (Nat.lt_of_lt_of_le hk hself)) f).trans
      (h.oldFronts k hk)
  fronts k vc hk hvc := by
    obtain ⟨vc', hvc', rfl | rfl⟩ := eq_some_of_update_map hvc
    · exact h.fronts k vc hk hvc'
    · rw [hf]
      exact h.fronts k vc' hk hvc'

theorem modifyBack (h : w.Grown viewModel s) (hself : w.next ≤ self)
    {f : BackCardViewController → BackCardViewController}
    (hf : ∀ vc, (f vc).viewModel = vc.viewModel) : w.Grown viewModel (s.modifyBack self f) where
  __ := h
  oldBacks k hk :=
    (CardScreen.backs_modifyBack_of_ne (Nat.ne_of_lt (Nat.lt_of_lt_of_le hk hself)) f).trans
      (h.oldBacks k hk)
  backs k vc hk hvc := by
    obtain ⟨vc', hvc', rfl | rfl⟩ := eq_some_of_update_map hvc
    · exact h.backs k vc hk hvc'
    · rw [hf]
      exact h.backs k vc' hk hvc'

/-- A card keeps its view model, and its children are its own. -/
theorem modifyCard (h : w.Grown viewModel s) (hself : w.next ≤ self)
    {f : ProductCardViewController → ProductCardViewController}
    (hf : ∀ vc, (f vc).cardViewModel = vc.cardViewModel ∧
      (∀ face, (f vc).frontCardViewController = some face →
        vc.frontCardViewController = some face ∨ w.next ≤ face) ∧
      ∀ face, (f vc).backCardViewController = some face →
        vc.backCardViewController = some face ∨ w.next ≤ face) :
    w.Grown viewModel (s.modifyCard self f) where
  __ := h
  oldCards k hk :=
    (Function.update_of_ne (Nat.ne_of_lt (Nat.lt_of_lt_of_le hk hself)) _ _).trans
      (h.oldCards k hk)
  cards k vc hk hvc := by
    obtain ⟨vc', hvc', rfl | rfl⟩ := eq_some_of_update_map hvc
    · exact h.cards k vc hk hvc'
    · obtain ⟨hlt, hmodel, hfront, hback⟩ := h.cards k vc' hk hvc'
      obtain ⟨hmodel', hfront', hback'⟩ := hf vc'
      exact ⟨hlt, hmodel'.trans hmodel,
        fun face hface => (hfront' face hface).elim (hfront face) id,
        fun face hface => (hback' face hface).elim (hback face) id⟩

end CardScreen.Grown

/-! ### What a cell does with its own cards -/

section Returns

variable {w : CardScreen Image} {viewModel : CardViewModelID} {self : ControllerID}

theorem returns_setOnProductUpdated (closure : Closure) :
    Returns (w.Grown viewModel) (fun _ => True)
      (CardViewModel.setOnProductUpdated viewModel closure : UI Image Unit) := by
  refine .modify fun s hs => { hs.bump with
    oldViewModels := ?_
    oldClosures := ?_
    closures := ?_ }
  · intro k hk
    exact (Function.update_of_ne (Nat.ne_of_lt (Nat.lt_of_lt_of_le hk hs.viewModel_ge)) _ _).trans
      (hs.oldViewModels k hk)
  · intro k hk
    exact (Function.update_of_ne (Nat.ne_of_lt (Nat.lt_of_lt_of_le hk hs.le)) _ _).trans
      (hs.oldClosures k hk)
  · intro k closure' hk hclosure'
    rcases eq_some_of_update hclosure' with ⟨rfl, _⟩ | hold
    · exact Nat.lt_succ_self _
    · exact hs.bump.closures k closure' hk hold

/-! New controllers are new. -/

theorem returns_initFront : Returns (w.Grown viewModel) (w.next ≤ ·)
    (FrontCardViewController.init viewModel : UI Image ControllerID) := by
  intro s hs
  refine ⟨s.next, _, rfl, { hs.bump with oldFronts := ?_, fronts := ?_ }, hs.le⟩
  · intro k hk
    exact (Function.update_of_ne (Nat.ne_of_lt (Nat.lt_of_lt_of_le hk hs.le)) _ _).trans
      (hs.oldFronts k hk)
  · intro k vc hk hvc
    rcases eq_some_of_update hvc with ⟨rfl, rfl⟩ | hold
    · exact ⟨Nat.lt_succ_self _, rfl⟩
    · exact hs.bump.fronts k vc hk hold

theorem returns_initBack : Returns (w.Grown viewModel) (w.next ≤ ·)
    (BackCardViewController.init viewModel : UI Image ControllerID) := by
  intro s hs
  refine ⟨s.next, _, rfl, { hs.bump with oldBacks := ?_, backs := ?_ }, hs.le⟩
  · intro k hk
    exact (Function.update_of_ne (Nat.ne_of_lt (Nat.lt_of_lt_of_le hk hs.le)) _ _).trans
      (hs.oldBacks k hk)
  · intro k vc hk hvc
    rcases eq_some_of_update hvc with ⟨rfl, rfl⟩ | hold
    · exact ⟨Nat.lt_succ_self _, rfl⟩
    · exact hs.bump.backs k vc hk hold

theorem returns_initCard : Returns (w.Grown viewModel) (w.next ≤ ·)
    (ProductCardViewController.init viewModel : UI Image ControllerID) := by
  intro s hs
  refine ⟨s.next, _, rfl, { hs.bump with oldCards := ?_, cards := ?_ }, hs.le⟩
  · intro k hk
    exact (Function.update_of_ne (Nat.ne_of_lt (Nat.lt_of_lt_of_le hk hs.le)) _ _).trans
      (hs.oldCards k hk)
  · intro k vc hk hvc
    rcases eq_some_of_update hvc with ⟨rfl, rfl⟩ | hold
    · refine ⟨Nat.lt_succ_self _, rfl, ?_, ?_⟩
      · intro face hface
        cases hface
      · intro face hface
        cases hface
    · exact hs.bump.cards k vc hk hold

/-! Loading. -/

/-- The controller of a face. -/
def Face.controller : Face → ControllerID
  | front controller => controller
  | back controller => controller

theorem returns_viewFace {face : Face} (hface : w.next ≤ face.controller) :
    Returns (w.Grown viewModel) (fun _ => True) (face.view imageNamed) := by
  cases face with
  | front controller =>
    refine .bind .get fun s hs => ?_
    cases hvc : s.fronts controller with
    | none => exact .pure trivial
    | some vc =>
      by_cases hview : vc.frontCardView.isNone
      · simp only [if_pos hview]
        refine .bind (.modify fun t ht => ht.modifyFront hface fun _ => rfl) fun _ _ => ?_
        refine .bind .get fun t ht => ?_
        cases hvc' : t.fronts controller with
        | none => exact .pure trivial
        | some vc' =>
          obtain ⟨_, hmodel⟩ := ht.fronts controller vc' hface hvc'
          simp only [hmodel]
          refine .bind (returns_setOnProductUpdated _) fun _ _ => ?_
          exact .modify fun u hu => hu.modifyFront hface fun _ => rfl
      · simp only [if_neg hview]
        exact .pure trivial
  | back controller =>
    refine .bind .get fun s hs => ?_
    cases hvc : s.backs controller with
    | none => exact .pure trivial
    | some vc =>
      by_cases hview : vc.backCardView.isNone
      · simp only [if_pos hview]
        refine .bind (.modify fun t ht => ht.modifyBack hface fun _ => rfl) fun _ _ => ?_
        refine .bind .get fun t ht => ?_
        cases hvc' : t.backs controller with
        | none => exact .pure trivial
        | some vc' =>
          obtain ⟨_, hmodel⟩ := ht.backs controller vc' hface hvc'
          simp only [hmodel]
          refine .bind (.modify fun u hu => hu.modifyBack hface fun _ => rfl) fun _ _ => ?_
          exact returns_setOnProductUpdated _
      · simp only [if_neg hview]
        exact .pure trivial

theorem returns_setupChildViewController {face : Face} (hface : w.next ≤ face.controller) :
    Returns (w.Grown viewModel) (fun _ => True)
      (ProductCardViewController.setupChildViewController imageNamed face) :=
  .bind (returns_viewFace imageNamed hface) fun _ _ => returns_viewFace imageNamed hface

theorem returns_viewDidLoad (hself : w.next ≤ self) : Returns (w.Grown viewModel) (fun _ => True)
    (ProductCardViewController.viewDidLoad imageNamed self) := by
  refine .bind .get fun s hs => ?_
  cases hvc : s.cards self with
  | none => exact .pure trivial
  | some vc =>
    obtain ⟨_, hmodel, _⟩ := hs.cards self vc hself hvc
    simp only [hmodel]
    refine .bind returns_initFront fun front hfront => ?_
    refine .bind (.modify fun t ht => ht.modifyCard hself fun vc' => ⟨rfl, ?_, ?_⟩) fun _ _ => ?_
    · exact fun face hface => Or.inr (Option.some.inj hface ▸ hfront)
    · exact fun face hface => Or.inl hface
    refine .bind returns_initBack fun back hback => ?_
    refine .bind (.modify fun t ht => ht.modifyCard hself fun vc' => ⟨rfl, ?_, ?_⟩) fun _ _ => ?_
    · exact fun face hface => Or.inl hface
    · exact fun face hface => Or.inr (Option.some.inj hface ▸ hback)
    have hsetupFront : Returns (w.Grown viewModel) (fun _ => True)
        (ProductCardViewController.setupChildViewController imageNamed (.front front)) :=
      returns_setupChildViewController imageNamed hfront
    have hsetupBack : Returns (w.Grown viewModel) (fun _ => True)
        (ProductCardViewController.setupChildViewController imageNamed (.back back)) :=
      returns_setupChildViewController imageNamed hback
    have hviewBack : Returns (w.Grown viewModel) (fun _ => True)
        (Face.view imageNamed (.back back)) := returns_viewFace imageNamed hback
    refine .bind hsetupFront fun _ _ => .bind hsetupBack fun _ _ => ?_
    refine .bind hviewBack fun _ _ => .bind (returns_setOnProductUpdated _) fun _ _ => ?_
    exact .bind hsetupFront fun _ _ => .bind hsetupBack fun _ _ => hviewBack

theorem returns_view (hself : w.next ≤ self) : Returns (w.Grown viewModel) (fun _ => True)
    (ProductCardViewController.view imageNamed self) := by
  refine .bind .get fun s hs => ?_
  cases hvc : s.cards self with
  | none => exact .pure trivial
  | some vc =>
    by_cases hview : (!vc.isViewLoaded) = true
    · simp only [if_pos hview]
      refine .bind (.modify fun t ht => ht.modifyCard hself fun vc' => ⟨rfl, ?_, ?_⟩) fun _ _ => ?_
      · exact fun face hface => Or.inl hface
      · exact fun face hface => Or.inl hface
      · exact returns_viewDidLoad imageNamed hself
    · simp only [if_neg hview]
      exact .pure trivial

/-! Replacing. -/

theorem returns_deinit (hself : w.next ≤ self) : Returns (w.Grown viewModel) (fun _ => True)
    (ProductCardViewController.deinit self : UI Image Unit) := by
  refine .bind .get fun s hs => ?_
  cases hvc : s.cards self with
  | none => exact .pure trivial
  | some vc =>
    obtain ⟨_, _, hfront, hback⟩ := hs.cards self vc hself hvc
    refine .modify fun t ht => { ht with
      oldCards := ?_
      oldFronts := ?_
      oldBacks := ?_
      cards := ?_
      fronts := ?_
      backs := ?_ }
    · intro k hk
      exact (Function.update_of_ne (Nat.ne_of_lt (Nat.lt_of_lt_of_le hk hself)) _ _).trans
        (ht.oldCards k hk)
    · intro k hk
      exact (if_neg fun hface => Nat.not_lt.mpr (hfront k hface) hk).trans (ht.oldFronts k hk)
    · intro k hk
      exact (if_neg fun hface => Nat.not_lt.mpr (hback k hface) hk).trans (ht.oldBacks k hk)
    · intro k vc' hk hvc'
      exact ht.cards k vc' hk (eq_some_of_update_none hvc')
    · intro k vc' hk hvc'
      exact ht.fronts k vc' hk (eq_some_of_ite_none hvc')
    · intro k vc' hk hvc'
      exact ht.backs k vc' hk (eq_some_of_ite_none hvc')

/-- The card of a cell, if there is one, is new. -/
def StorageCollectionViewCell.IsNew (w : CardScreen Image) (cell : StorageCollectionViewCell) :
    Prop :=
  ∀ card, cell.productCardViewController = some card → w.next ≤ card

theorem returns_removeProductCardViewController {cell : StorageCollectionViewCell}
    (hcell : cell.IsNew w) : Returns (w.Grown viewModel)
      (· = { cell with productCardViewController := none })
      (cell.removeProductCardViewController imageNamed) := by
  obtain ⟨card, cardViewModel⟩ := cell
  cases card with
  | none => exact .pure rfl
  | some old =>
    have hold : w.next ≤ old := hcell old rfl
    refine .bind (returns_view imageNamed hold) fun _ _ => ?_
    exact .bind (returns_deinit hold) fun _ _ => .pure rfl

/-- **A cell without a foreign card ends up with a new one.** -/
theorem returns_updateProductCardViewController {cell : StorageCollectionViewCell}
    (hcell : cell.IsNew w) (hmodel : cell.cardViewModel = some viewModel) :
    Returns (w.Grown viewModel) (fun cell' => cell'.cardViewModel = some viewModel ∧ cell'.IsNew w)
      (cell.updateProductCardViewController imageNamed) := by
  refine .bind (returns_removeProductCardViewController imageNamed hcell) fun cell' hcell' => ?_
  subst hcell'
  simp only [hmodel]
  refine .bind returns_initCard fun card hcard => ?_
  refine .bind (returns_view imageNamed hcard) fun _ _ => ?_
  refine .bind (returns_view imageNamed hcard) fun _ _ => .pure ⟨rfl, ?_⟩
  exact fun other hother => Option.some.inj hother ▸ hcard

end Returns

/-! ### Configuring a cell -/

section Configuring

variable {w : CardScreen Image}

/-- A view model more, with nothing that belongs to it yet. -/
theorem CardScreen.Unused.grown (h : w.Unused) (product : ProductRef) :
    w.Grown w.next
      { w with
        cardViewModels := Function.update w.cardViewModels w.next { product }
        next := w.next + 1 } where
  viewModel_ge := Nat.le_refl _
  viewModel_lt := Nat.lt_succ_self _
  objects := rfl
  coreDataStack := rfl
  mainQueue := rfl
  oldCards _ _ := rfl
  oldFronts _ _ := rfl
  oldBacks _ _ := rfl
  oldViewModels _ hk := Function.update_of_ne (Nat.ne_of_lt hk) _ _
  oldClosures _ _ := rfl
  cards k vc hk hvc := absurd ((h.cards k hk).symm.trans hvc) (Option.some_ne_none vc).symm
  fronts k vc hk hvc := absurd ((h.fronts k hk).symm.trans hvc) (Option.some_ne_none vc).symm
  backs k vc hk hvc := absurd ((h.backs k hk).symm.trans hvc) (Option.some_ne_none vc).symm
  closures k c hk hc := absurd ((h.closures k hk).symm.trans hc) (Option.some_ne_none c).symm

theorem CardScreen.Grown.unused {s : CardScreen Image} {viewModel : CardViewModelID}
    (h : w.Grown viewModel s) : s.Unused where
  cards k hk := by
    cases hvc : s.cards k with
    | none => rfl
    | some vc => exact absurd (h.cards k vc (h.le.trans hk) hvc).1 (Nat.not_lt.mpr hk)
  fronts k hk := by
    cases hvc : s.fronts k with
    | none => rfl
    | some vc => exact absurd (h.fronts k vc (h.le.trans hk) hvc).1 (Nat.not_lt.mpr hk)
  backs k hk := by
    cases hvc : s.backs k with
    | none => rfl
    | some vc => exact absurd (h.backs k vc (h.le.trans hk) hvc).1 (Nat.not_lt.mpr hk)
  closures k hk := by
    cases hclosure : s.closures k with
    | none => rfl
    | some closure =>
      exact absurd (h.closures k closure (h.le.trans hk) hclosure) (Nat.not_lt.mpr hk)

/-- **A cell that is configured leaves what there is alone.**  It gets a new card on
a new view model, and both faces show the product. -/
theorem run_cellForItemAt_grown (hunused : w.Unused) {products : List ProductRef} {row : Nat}
    {product : ProductRef} (hitem : cellForItem products row = .storage (some product))
    {cell : StorageCollectionViewCell} (hcell : cell.productCardViewController = none) :
    ∃ w' viewModel card front back,
      (cellForItemAt imageNamed products row cell).run w =
        .ok (some ⟨some card, some viewModel⟩) w' ∧
      w.Grown viewModel w' ∧ w'.Bound card viewModel front back ∧
      (w'.cardViewModels viewModel).product = product ∧ w.next ≤ card := by
  obtain ⟨cell', w', viewModel, card, front, back, hrun, hmodel, hcard, hbound, _, hproduct⟩ :=
    run_cellForItemAt imageNamed hitem cell w
  let w₀ : CardScreen Image :=
    { w with
      cardViewModels := Function.update w.cardViewModels w.next { product }
      next := w.next + 1 }
  have hgrown : w.Grown w.next w₀ := hunused.grown product
  have hnew : StorageCollectionViewCell.IsNew w { cell with cardViewModel := some w.next } :=
    fun card hcard => absurd (hcell.symm.trans hcard) (Option.some_ne_none card).symm
  obtain ⟨cell₁, w₁, hset, hgrown₁, hmodel₁, hnew₁⟩ :=
    returns_updateProductCardViewController imageNamed hnew rfl _ hgrown
  obtain ⟨cell₂, w₂, hupdate, hgrown₂, hmodel₂, hnew₂⟩ :=
    returns_updateProductCardViewController imageNamed hnew₁ hmodel₁ _ hgrown₁
  have hrun₂ : (cellForItemAt imageNamed products row cell).run w = .ok (some cell₂) w₂ := by
    rw [cellForItemAt, hitem]
    refine (run_bind_ok (t := w₀) rfl).trans ?_
    exact (run_bind_ok hset).trans (run_bind_ok hupdate)
  obtain ⟨hcells, rfl⟩ := run_ok_inj hrun hrun₂
  obtain rfl := Option.some.inj hcells
  obtain rfl := Option.some.inj (hmodel.symm.trans hmodel₂)
  obtain ⟨_, _⟩ := cell'
  cases hcard
  cases hmodel
  exact ⟨w', w.next, card, front, back, hrun, hgrown₂, hbound, hproduct, hnew₂ card rfl⟩

end Configuring

end InventoryApp
