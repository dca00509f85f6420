import InventoryApp.Data.Atomicity
import InventoryApp.Inventory.Card.CardViewModel

/-!
# Which card edits can be stored

The numbers of a card are Swift `Int`s, and `updateProduct` narrows them to the
16 bits of the store, where a conversion out of range ends the process.  Of the
seven operations `decreaseQuantity` looks at the number before it changes it; the
others write what comes out, or what they are given.

A product that was read fits (`Product.ReadFrom.fits`), and with a quantity that is
not negative it is `Storable`.  `storable_edit_iff` says which operations keep it
so: the ones that are `InRange`, by the product before and their arguments.  From
there `staysStorable_iff` goes to all sequences.
-/

namespace InventoryApp

open Lib

variable (env : Environment)

/-- A product that one of the reads gives. -/
inductive Product.ReadFrom (g : Graph) (p : Product) : Prop
  | fetchSectionById {sets : Arrangement} {id : UUID} {sec : Section}
      (hsec : SectionRepository.fetchSectionById env g sets id = some sec) (hp : p ∈ sec.products)
  | fetchSections {sets : Arrangement} {userId : UUID} {sec : Section}
      (hsec : sec ∈ SectionRepository.fetchSections env g sets userId) (hp : p ∈ sec.products)
  | fetchProducts {sets : Arrangement} {sectionId : UUID}
      (hp : p ∈ ProductRepository.fetchProducts env g sets sectionId)

/-- A quantity from zero up, and both numbers in the range of the store. -/
structure Product.Storable (p : Product) : Prop where
  quantity : 0 ≤ p.quantity ∧ p.quantity ≤ 32767
  remainingDays : FitsInt16 p.remainingDays

/-- `ProductRepository.updateProduct(getProduct())`. -/
def storeProduct : Card Unit := do
  CardViewModel.call (ProductRepository.updateProduct env (← CardViewModel.getProduct))

/-- The card's numbers are in range, and storing them returns, whatever the store holds. -/
def CanStore (w : CardWorld) : Prop :=
  w.product.Storable ∧ ∀ st, ∃ w', (storeProduct env).run { w with coreDataStack := st } = .ok () w'

/-- The operation leaves numbers in range, by the product before and its arguments. -/
def CardOp.InRange (p : Product) : CardOp → Prop
  | updateProduct remainingDay quantity =>
    FitsInt16 remainingDay ∧ 0 ≤ quantity ∧ quantity ≤ 32767
  | decreaseDays => -32768 < p.remainingDays
  | increaseDays => p.remainingDays < 32767
  | decreaseQuantity => True
  | increaseQuantity => p.quantity < 32767
  | updateRemainingDays days => FitsInt16 days
  | updateQuantity quantity => 0 ≤ quantity ∧ quantity ≤ 32767

instance (p : Product) : (op : CardOp) → Decidable (op.InRange p)
  | .updateProduct remainingDay quantity =>
    inferInstanceAs (Decidable (FitsInt16 remainingDay ∧ 0 ≤ quantity ∧ quantity ≤ 32767))
  | .decreaseDays => inferInstanceAs (Decidable (-32768 < p.remainingDays))
  | .increaseDays => inferInstanceAs (Decidable (p.remainingDays < 32767))
  | .decreaseQuantity => isTrue trivial
  | .increaseQuantity => inferInstanceAs (Decidable (p.quantity < 32767))
  | .updateRemainingDays days => inferInstanceAs (Decidable (FitsInt16 days))
  | .updateQuantity quantity => inferInstanceAs (Decidable (0 ≤ quantity ∧ quantity ≤ 32767))

/-! ### What is read fits -/

theorem fits_readProduct (r : ObjectID × CDProduct) : (readProduct env r).Fits :=
  ⟨fitsInt16_toInt r.2.quantity, fitsInt16_toInt r.2.remainingDays⟩

theorem fits_of_mapCDSectionToSection {g : Graph} {sets : Arrangement} {r : ObjectID × CDSection}
    {sec : Section} {p : Product}
    (h : SectionRepository.mapCDSectionToSection env g sets (some r) = some sec)
    (hp : p ∈ sec.products) : p.Fits := by
  obtain ⟨_, _, _, _, hproducts⟩ := (mapCDSectionToSection_eq_some env g).mp h
  rw [hproducts, (perm_sorted _ _).mem_iff] at hp
  obtain ⟨q, _, rfl⟩ := List.mem_map.mp hp
  exact fits_readProduct env q

theorem fits_of_mapCDProductToProduct {r : CDProduct} {p : Product}
    (h : ProductRepository.mapCDProductToProduct (some r) = some p) : p.Fits := by
  simp only [ProductRepository.mapCDProductToProduct, Option.bind_eq_bind, Option.bind_some,
    Option.bind_eq_some_iff, Option.pure_def, Option.some.injEq] at h
  obtain ⟨_, _, _, _, _, _, rfl⟩ := h
  exact ⟨fitsInt16_toInt r.quantity, fitsInt16_toInt r.remainingDays⟩

/-- **Every read gives products in range.** -/
theorem Product.ReadFrom.fits {g : Graph} {p : Product} (h : p.ReadFrom env g) : p.Fits := by
  cases h with
  | fetchSectionById hsec hp =>
    rw [fetchSectionById_eq, Option.bind_eq_some_iff] at hsec
    obtain ⟨k, _, hsec⟩ := hsec
    obtain ⟨s, _, hm⟩ := Option.bind_eq_some_iff.mp hsec
    exact fits_of_mapCDSectionToSection env hm hp
  | @fetchSections sets userId sec hsec hp =>
    unfold SectionRepository.fetchSections at hsec
    cases hu : SectionRepository.fetchCDUserById env g userId with
    | none =>
      rw [hu] at hsec
      cases hsec
    | some user =>
      rw [hu] at hsec
      obtain ⟨r, _, hm⟩ := List.mem_filterMap.mp hsec
      exact fits_of_mapCDSectionToSection env hm hp
  | @fetchProducts sets sectionId hp =>
    unfold ProductRepository.fetchProducts at hp
    cases hs : ProductRepository.fetchCDSectionById env g sectionId with
    | none =>
      rw [hs] at hp
      cases hp
    | some cdSection =>
      rw [hs] at hp
      obtain ⟨r, _, hm⟩ := List.mem_filterMap.mp hp
      exact fits_of_mapCDProductToProduct hm

/-! ### One operation -/

theorem Product.Storable.fits {p : Product} (h : p.Storable) : p.Fits :=
  ⟨⟨by have := h.quantity; omega, h.quantity.2⟩, h.remainingDays⟩

/-- **The operations in range are the ones after which the numbers can be stored.** -/
theorem storable_edit_iff {p : Product} (h : p.Storable) (op : CardOp) :
    (op.edit p).Storable ↔ op.InRange p := by
  obtain ⟨⟨hq, hq'⟩, hd, hd'⟩ := h
  have hmk (q : Product) : q.Storable ↔
      (0 ≤ q.quantity ∧ q.quantity ≤ 32767) ∧ FitsInt16 q.remainingDays :=
    ⟨fun hs => ⟨hs.1, hs.2⟩, fun hs => ⟨hs.1, hs.2⟩⟩
  rw [hmk]
  cases op with
  | decreaseQuantity =>
    rw [CardOp.edit]
    split <;> simp only [CardOp.InRange, FitsInt16, iff_true] <;> omega
  | _ =>
    simp only [CardOp.edit, CardOp.InRange, FitsInt16]
    omega

/-- Storing a product in range returns. -/
theorem run_storeProduct {w : CardWorld} (h : w.product.Fits) :
    ∃ w', (storeProduct env).run w = .ok () w' := by
  have hstore : ∃ st', (ProductRepository.updateProduct env w.product).run w.coreDataStack
      = .ok () st' := by
    cases hk : ProductRepository.fetchCDProductById env w.coreDataStack.context w.product.id with
    | none => exact ⟨_, ProductRepository.run_updateProduct_of_none env hk⟩
    | some k =>
      obtain ⟨g, hr, _⟩ := ProductRepository.run_updateProduct env hk h
      exact ⟨_, hr⟩
  obtain ⟨st', hr⟩ := hstore
  rw [storeProduct, run_bind_ok (CardViewModel.run_getProduct w)]
  exact ⟨_, CardViewModel.run_call_ok hr⟩

/-- Storing a stored product out of range ends the process. -/
theorem run_storeProduct_trap {w : CardWorld} (hsaved : w.coreDataStack.Saved)
    (hstored : Stored w.coreDataStack.context.products CDProduct.id w.product.id)
    (h : ¬ w.product.Fits) : ∃ w', (storeProduct env).run w = .error .int16Conversion w' := by
  have hwrite := allOrNothing_updateProduct env w.coreDataStack hsaved w.product
  unfold AllOrNothing at hwrite
  cases hr : (ProductRepository.updateProduct env w.product).run w.coreDataStack with
  | ok a st' =>
    rw [hr] at hwrite
    exact absurd ⟨hstored, h⟩ hwrite.1
  | error trap st' =>
    rw [hr] at hwrite
    obtain ⟨_, rfl, _⟩ := hwrite
    rw [storeProduct, run_bind_ok (CardViewModel.run_getProduct w)]
    exact ⟨_, CardViewModel.run_call_error hr⟩

theorem canStore_iff (w : CardWorld) : CanStore env w ↔ w.product.Storable := by
  refine ⟨And.left, fun h => ⟨h, fun st => ?_⟩⟩
  exact run_storeProduct env (w := { w with coreDataStack := st }) h.fits

/-! ### All sequences -/

/-- **A card stays storable as long as its operations are in range.**  From a
product that was read, with a quantity that is not negative, every operation of a
sequence returns and leaves numbers that can be stored exactly if each one is in
range for the product it finds. -/
theorem staysStorable_iff {g : Graph} {w : CardWorld} (hread : w.product.ReadFrom env g)
    (hquantity : 0 ≤ w.product.quantity) (ops : List CardOp) :
    Succeeds CardStep (fun _ _ v => CanStore env v) w ops ↔
      Always CardStep (fun v op _ => op.InRange v.product) w ops := by
  have hfits := hread.fits
  have hstart : w.product.Storable := ⟨⟨hquantity, hfits.1.2⟩, hfits.2⟩
  have hafter (v : CardWorld) (op : CardOp) (v' : CardWorld) (h : CardStep v op v') :
      v'.product = op.edit v.product := by
    rw [cardStep_cases h, CardWorld.product_afterNotify, CardWorld.product_withProduct]
  refine (succeeds_iff_always (fun v => v.product.Storable) ?_ ?_ hstart ops).trans
    (always_iff_always (fun v => v.product.Storable) ?_ ?_ hstart ops)
  · intro v op hv
    exact ⟨_, CardOp.run_exec_ok (CardOp.noOverflow_of_fits hv.fits op)⟩
  · intro v op v' _ _ hcan
    exact hcan.1
  · intro v op v' hv hstep
    rw [canStore_iff, hafter v op v' hstep]
    exact storable_edit_iff hv op
  · intro v op v' hv hstep hrange
    rw [hafter v op v' hstep]
    exact (storable_edit_iff hv op).mpr hrange

/-- One egg more, other days, and one egg less. -/
theorem staysStorable_egg :
    let egg : Product := ⟨1, "egg", "egg", 2, 11⟩
    let w : CardWorld :=
      { objects := fun _ => egg
        viewModel := ⟨0, none⟩
        coreDataStack := final (execAll default [.createUser 7 "Ray",
          .createSection 7 ⟨9, "fridge", 30, .oldestToNewest, [egg]⟩]) (.launch .empty) }
    Succeeds CardStep (fun _ _ v => CanStore default v) w
      [.increaseQuantity, .updateRemainingDays (-3), .decreaseQuantity] := by
  intro egg w
  have hsec : SectionRepository.fetchSectionById default w.coreDataStack.context .inOrder 9 =
      some ⟨9, "fridge", 30, .oldestToNewest, [egg]⟩ := by decide
  refine (staysStorable_iff default (.fetchSectionById hsec (by decide)) (by decide) _).mpr ?_
  have hmore : CardOp.increaseQuantity.InRange w.product := by decide
  have hdays : FitsInt16 (-3) := by decide
  exact fun _ _ => ⟨hmore, fun _ _ => ⟨hdays, fun _ _ => ⟨trivial, trivial⟩⟩⟩

/-- One egg more than 32767: the card has 32768, and storing it ends the process.  A
quantity below zero is written as well. -/
theorem increaseQuantity_not_storable :
    let egg : Product := ⟨1, "egg", "egg", 32767, 11⟩
    let w : CardWorld :=
      { objects := fun _ => egg
        viewModel := ⟨0, none⟩
        coreDataStack := final (execAll default [.createUser 7 "Ray",
          .createSection 7 ⟨9, "fridge", 30, .oldestToNewest, [egg]⟩]) (.launch .empty) }
    w.product.ReadFrom default w.coreDataStack.context ∧ 0 ≤ w.product.quantity ∧
      ¬ Succeeds CardStep (fun _ _ v => CanStore default v) w [.increaseQuantity] ∧
      ¬ Succeeds CardStep (fun _ _ v => CanStore default v) w [.updateQuantity (-1)] ∧
      ∃ v, CardStep w .increaseQuantity v ∧ v.product.quantity = 32768 ∧
        ∃ v', (storeProduct default).run v = .error .int16Conversion v' := by
  intro egg w
  have hsec : SectionRepository.fetchSectionById default w.coreDataStack.context .inOrder 9 =
      some ⟨9, "fridge", 30, .oldestToNewest, [egg]⟩ := by decide
  have hrun (op : CardOp) : CardStep w op (w.withProduct (op.edit egg)).afterNotify :=
    CardOp.run_exec_ok (CardOp.noOverflow_of_fits (show w.product.Fits by decide) op)
  refine ⟨.fetchSectionById hsec (by decide), by decide, ?_, ?_, _, hrun .increaseQuantity, rfl, ?_⟩
  · intro h
    have hbound : (32768 : Int) ≤ 32767 := (h.2 _ (hrun .increaseQuantity)).1.1.quantity.2
    exact absurd hbound (by decide)
  · intro h
    have hbound : (0 : Int) ≤ -1 := (h.2 _ (hrun (.updateQuantity (-1)))).1.1.quantity.1
    exact absurd hbound (by decide)
  · exact run_storeProduct_trap default rfl ⟨0, _, rfl, rfl⟩ (by decide)

end InventoryApp
