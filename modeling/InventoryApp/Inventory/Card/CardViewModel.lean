import InventoryApp.Data.Reads
import InventoryApp.Data.Operations

/-!
# `CardViewModel`

`Product` is a class, so a card holds a reference, and the fields are in an
object that the view model shares with others.  A `CardWorld` has the objects,
the card, what its callback was called with, and the Core Data stack.

The property `product` has an observer, `didSet`, which is the only code of the
card that writes to the store.  It runs when the reference is assigned
(`setProduct`).  None of the seven operations assigns it: each writes through it
to a field, and notifies.  `run_exec_ok` says so for all of them at once, and
`edits_persisted_iff` what follows: the record agrees with the card after every
operation exactly as long as no operation changes a number.
-/

namespace InventoryApp

open Lib

abbrev ProductRef := Nat

/-- What `onProductUpdated` was set to. -/
abbrev Observer := Nat

structure CardViewModel where
  product : ProductRef
  onProductUpdated : Option Observer := none

structure CardWorld where
  objects : ProductRef → Product
  viewModel : CardViewModel
  notified : List (Observer × Product) := []
  coreDataStack : CoreDataStack

/-- The object the card's reference leads to. -/
def CardWorld.product (w : CardWorld) : Product := w.objects w.viewModel.product

namespace CardWorld

/-- The object the card refers to has become `p`. -/
def withProduct (w : CardWorld) (p : Product) : CardWorld :=
  { w with objects := fun ref => if ref = w.viewModel.product then p else w.objects ref }

/-- The callback, if there is one, has been called with the product. -/
def afterNotify (w : CardWorld) : CardWorld :=
  match w.viewModel.onProductUpdated with
  | none => w
  | some observer => { w with notified := w.notified ++ [(observer, w.product)] }

@[simp] theorem product_withProduct (w : CardWorld) (p : Product) :
    (w.withProduct p).product = p := if_pos rfl

@[simp] theorem withProduct_withProduct (w : CardWorld) (p q : Product) :
    (w.withProduct p).withProduct q = w.withProduct q := by
  unfold withProduct
  congr 1
  funext ref
  by_cases h : ref = w.viewModel.product <;> simp [h]

@[simp] theorem withProduct_product (w : CardWorld) : w.withProduct w.product = w := by
  unfold withProduct
  congr 1
  funext ref
  by_cases h : ref = w.viewModel.product
  · rw [if_pos h, h]; rfl
  · rw [if_neg h]

@[simp] theorem product_afterNotify (w : CardWorld) : w.afterNotify.product = w.product := by
  unfold afterNotify; split <;> rfl

@[simp] theorem viewModel_afterNotify (w : CardWorld) : w.afterNotify.viewModel = w.viewModel := by
  unfold afterNotify; split <;> rfl

theorem notified_afterNotify {w : CardWorld} {observer : Observer}
    (h : w.viewModel.onProductUpdated = some observer) :
    w.afterNotify.notified = w.notified ++ [(observer, w.product)] := by
  rw [afterNotify, h]

@[simp] theorem coreDataStack_withProduct (w : CardWorld) (p : Product) :
    (w.withProduct p).coreDataStack = w.coreDataStack := rfl

@[simp] theorem coreDataStack_afterNotify (w : CardWorld) :
    w.afterNotify.coreDataStack = w.coreDataStack := by
  unfold afterNotify; split <;> rfl

end CardWorld

abbrev Card := EStateM Trap CardWorld

namespace CardViewModel

variable (env : Environment)

def getProduct : Card Product := do return (← get).product

/-- Assigns fields of the object that `product` refers to. -/
def modifyProduct (f : Product → Product) : Card Unit :=
  modify fun w => w.withProduct (f w.product)

/-- `onProductUpdated?(product)`. -/
def notify : Card Unit := modify CardWorld.afterNotify

/-- A call of the card's repository. -/
def call {α : Type} (x : Repo α) : Card α := fun w =>
  match x.run w.coreDataStack with
  | .ok a st => .ok a { w with coreDataStack := st }
  | .error e st => .error e { w with coreDataStack := st }

/-- The observer of `product`. -/
def didSet : Card Unit := do
  call (ProductRepository.updateProduct env (← getProduct))
  notify

/-- `product = ref`, which the observer follows. -/
def setProduct (ref : ProductRef) : Card Unit := do
  modify fun w => { w with viewModel := { w.viewModel with product := ref } }
  didSet env

def updateProduct (remainingDay quantity : Int) : Card Unit := do
  modifyProduct (fun p => { p with remainingDays := remainingDay })
  modifyProduct (fun p => { p with quantity := quantity })
  notify

def decreaseDays : Card Unit := do
  let remainingDays ← int64 ((← getProduct).remainingDays - 1)
  modifyProduct (fun p => { p with remainingDays := remainingDays })
  notify

def increaseDays : Card Unit := do
  let remainingDays ← int64 ((← getProduct).remainingDays + 1)
  modifyProduct (fun p => { p with remainingDays := remainingDays })
  notify

def decreaseQuantity : Card Unit := do
  if (← getProduct).quantity > 0 then
    let quantity ← int64 ((← getProduct).quantity - 1)
    modifyProduct (fun p => { p with quantity := quantity })
  notify

def increaseQuantity : Card Unit := do
  let quantity ← int64 ((← getProduct).quantity + 1)
  modifyProduct (fun p => { p with quantity := quantity })
  notify

def updateRemainingDays (days : Int) : Card Unit := do
  modifyProduct (fun p => { p with remainingDays := days })
  notify

def updateQuantity (quantity : Int) : Card Unit := do
  modifyProduct (fun p => { p with quantity := quantity })
  notify

@[simp] theorem run_getProduct (w : CardWorld) : getProduct.run w = .ok w.product w := rfl

@[simp] theorem run_modifyProduct (f : Product → Product) (w : CardWorld) :
    (modifyProduct f).run w = .ok () (w.withProduct (f w.product)) := rfl

@[simp] theorem run_notify (w : CardWorld) : notify.run w = .ok () w.afterNotify := rfl

theorem run_call_ok {α : Type} {x : Repo α} {w : CardWorld} {a : α} {st : CoreDataStack}
    (h : x.run w.coreDataStack = .ok a st) :
    (call x).run w = .ok a { w with coreDataStack := st } := by
  show call x w = _
  rw [call, h]

theorem run_call_error {α : Type} {x : Repo α} {w : CardWorld} {e : Trap} {st : CoreDataStack}
    (h : x.run w.coreDataStack = .error e st) :
    (call x).run w = .error e { w with coreDataStack := st } := by
  show call x w = _
  rw [call, h]

end CardViewModel

/-! ### The seven operations -/

inductive CardOp
  | updateProduct (remainingDay quantity : Int)
  | decreaseDays
  | increaseDays
  | decreaseQuantity
  | increaseQuantity
  | updateRemainingDays (days : Int)
  | updateQuantity (quantity : Int)
  deriving DecidableEq, Repr

namespace CardOp

def exec : CardOp → Card Unit
  | updateProduct remainingDay quantity => CardViewModel.updateProduct remainingDay quantity
  | decreaseDays => CardViewModel.decreaseDays
  | increaseDays => CardViewModel.increaseDays
  | decreaseQuantity => CardViewModel.decreaseQuantity
  | increaseQuantity => CardViewModel.increaseQuantity
  | updateRemainingDays days => CardViewModel.updateRemainingDays days
  | updateQuantity quantity => CardViewModel.updateQuantity quantity

/-- What an operation makes of the product. -/
def edit : CardOp → Product → Product
  | updateProduct remainingDay quantity, p =>
    { p with remainingDays := remainingDay, quantity := quantity }
  | decreaseDays, p => { p with remainingDays := p.remainingDays - 1 }
  | increaseDays, p => { p with remainingDays := p.remainingDays + 1 }
  | decreaseQuantity, p => if p.quantity > 0 then { p with quantity := p.quantity - 1 } else p
  | increaseQuantity, p => { p with quantity := p.quantity + 1 }
  | updateRemainingDays days, p => { p with remainingDays := days }
  | updateQuantity quantity, p => { p with quantity := quantity }

/-- The operation asks for the numbers the product has. -/
def Idle (p : Product) : CardOp → Prop
  | updateProduct remainingDay quantity => remainingDay = p.remainingDays ∧ quantity = p.quantity
  | decreaseDays => False
  | increaseDays => False
  | decreaseQuantity => p.quantity ≤ 0
  | increaseQuantity => False
  | updateRemainingDays days => days = p.remainingDays
  | updateQuantity quantity => quantity = p.quantity

instance (p : Product) : (op : CardOp) → Decidable (op.Idle p)
  | updateProduct remainingDay quantity =>
    inferInstanceAs (Decidable (remainingDay = p.remainingDays ∧ quantity = p.quantity))
  | decreaseDays => isFalse id
  | increaseDays => isFalse id
  | decreaseQuantity => inferInstanceAs (Decidable (p.quantity ≤ 0))
  | increaseQuantity => isFalse id
  | updateRemainingDays days => inferInstanceAs (Decidable (days = p.remainingDays))
  | updateQuantity quantity => inferInstanceAs (Decidable (quantity = p.quantity))

/-- The operation's arithmetic stays within `Int`. -/
def NoOverflow (p : Product) : CardOp → Prop
  | decreaseDays => FitsInt64 (p.remainingDays - 1)
  | increaseDays => FitsInt64 (p.remainingDays + 1)
  | decreaseQuantity => p.quantity > 0 → FitsInt64 (p.quantity - 1)
  | increaseQuantity => FitsInt64 (p.quantity + 1)
  | _ => True

/-- **An operation writes to the object and notifies, and does nothing else.** -/
theorem run_exec_ok {op : CardOp} {w : CardWorld} (h : op.NoOverflow w.product) :
    op.exec.run w = .ok () (w.withProduct (op.edit w.product)).afterNotify := by
  cases op with
  | updateProduct remainingDay quantity =>
    simp only [exec, CardViewModel.updateProduct, EStateM.run_bind,
      CardViewModel.run_modifyProduct, CardViewModel.run_notify, CardWorld.product_withProduct,
      CardWorld.withProduct_withProduct, edit]
  | decreaseDays =>
    rw [exec, CardViewModel.decreaseDays, run_bind_ok (CardViewModel.run_getProduct w),
      run_bind_ok (run_int64_ok h w), run_bind_ok (CardViewModel.run_modifyProduct _ w)]
    rfl
  | increaseDays =>
    rw [exec, CardViewModel.increaseDays, run_bind_ok (CardViewModel.run_getProduct w),
      run_bind_ok (run_int64_ok h w), run_bind_ok (CardViewModel.run_modifyProduct _ w)]
    rfl
  | decreaseQuantity =>
    rw [exec, CardViewModel.decreaseQuantity, run_bind_ok (CardViewModel.run_getProduct w), edit]
    by_cases hq : w.product.quantity > 0
    · simp only [if_pos hq, EStateM.run_bind, CardViewModel.run_getProduct, run_int64_ok (h hq),
        CardViewModel.run_modifyProduct, CardViewModel.run_notify]
    · simp only [if_neg hq, CardWorld.withProduct_product]
      rfl
  | increaseQuantity =>
    rw [exec, CardViewModel.increaseQuantity, run_bind_ok (CardViewModel.run_getProduct w),
      run_bind_ok (run_int64_ok h w), run_bind_ok (CardViewModel.run_modifyProduct _ w)]
    rfl
  | updateRemainingDays days => rfl
  | updateQuantity quantity => rfl

/-- An overflow ends the process before anything is written. -/
theorem run_exec_trap {op : CardOp} {w : CardWorld} (h : ¬ op.NoOverflow w.product) :
    op.exec.run w = .error .intOverflow w := by
  cases op with
  | updateProduct remainingDay quantity => exact absurd trivial h
  | decreaseDays =>
    rw [exec, CardViewModel.decreaseDays, run_bind_ok (CardViewModel.run_getProduct w),
      run_bind_error (run_int64_error h w)]
  | increaseDays =>
    rw [exec, CardViewModel.increaseDays, run_bind_ok (CardViewModel.run_getProduct w),
      run_bind_error (run_int64_error h w)]
  | decreaseQuantity =>
    obtain ⟨hq, hfit⟩ := Classical.not_imp.mp h
    rw [exec, CardViewModel.decreaseQuantity, run_bind_ok (CardViewModel.run_getProduct w)]
    simp only [if_pos hq, EStateM.run_bind, CardViewModel.run_getProduct, run_int64_error hfit]
  | increaseQuantity =>
    rw [exec, CardViewModel.increaseQuantity, run_bind_ok (CardViewModel.run_getProduct w),
      run_bind_error (run_int64_error h w)]
  | updateRemainingDays days => exact absurd trivial h
  | updateQuantity quantity => exact absurd trivial h

theorem id_edit (op : CardOp) (p : Product) : (op.edit p).id = p.id := by
  cases op with
  | decreaseQuantity =>
    rw [edit]
    split <;> rfl
  | _ => rfl

/-- The operations that change no number are the idle ones. -/
theorem edit_iff_idle {op : CardOp} {p : Product} :
    (op.edit p).quantity = p.quantity ∧ (op.edit p).remainingDays = p.remainingDays ↔
      op.Idle p := by
  cases op with
  | updateProduct remainingDay quantity => exact And.comm
  | decreaseDays =>
    refine ⟨?_, False.elim⟩
    intro h
    have : p.remainingDays - 1 = p.remainingDays := h.2
    omega
  | increaseDays =>
    refine ⟨?_, False.elim⟩
    intro h
    have : p.remainingDays + 1 = p.remainingDays := h.2
    omega
  | decreaseQuantity =>
    simp only [edit, Idle]
    by_cases hq : p.quantity > 0
    · rw [if_pos hq]; simp only; omega
    · rw [if_neg hq]; simp only [and_self, true_iff]; omega
  | increaseQuantity =>
    refine ⟨?_, False.elim⟩
    intro h
    have : p.quantity + 1 = p.quantity := h.1
    omega
  | updateRemainingDays days => simp only [edit, Idle, true_and]
  | updateQuantity quantity => simp only [edit, Idle, and_true]

theorem edit_of_idle {op : CardOp} {p : Product} (h : op.Idle p) : op.edit p = p := by
  cases op with
  | updateProduct remainingDay quantity => simp only [edit, h.1, h.2]
  | decreaseDays => exact absurd h id
  | increaseDays => exact absurd h id
  | decreaseQuantity => exact if_neg (Int.not_lt.mpr h)
  | increaseQuantity => exact absurd h id
  | updateRemainingDays days => simp only [edit, show days = p.remainingDays from h]
  | updateQuantity quantity => simp only [edit, show quantity = p.quantity from h]

/-- Numbers that fit in `Int16` are far from overflowing. -/
theorem noOverflow_of_fits {p : Product} (h : p.Fits) (op : CardOp) : op.NoOverflow p := by
  obtain ⟨⟨hq, hq'⟩, hd, hd'⟩ := h
  cases op <;> simp only [NoOverflow, FitsInt64] <;> omega

end CardOp

/-! ### Cards and the store -/

/-- An operation that returns. -/
def CardStep (w : CardWorld) (op : CardOp) (w' : CardWorld) : Prop := op.exec.run w = .ok () w'

theorem cardStep_cases {w w' : CardWorld} {op : CardOp} (h : CardStep w op w') :
    w' = (w.withProduct (op.edit w.product)).afterNotify := by
  by_cases hop : op.NoOverflow w.product
  · obtain ⟨_, hw'⟩ := run_ok_inj h (CardOp.run_exec_ok hop)
    exact hw'
  · have := h.symm.trans (CardOp.run_exec_trap hop)
    cases this

variable (env : Environment)

/-- The record with the product's id has the card's numbers, and reading its
section gives them. -/
def Persisted (w : CardWorld) : Prop :=
  ∃ k r, ProductRepository.fetchCDProductById env w.coreDataStack.context w.product.id = some k ∧
    w.coreDataStack.context.products.get? k = some r ∧
    r.quantity.toInt = w.product.quantity ∧ r.remainingDays.toInt = w.product.remainingDays ∧
    ∀ i id, r.«section» = some i →
      SectionRepository.fetchCDSectionById env w.coreDataStack.context id = some i →
      ∀ sets sec,
        SectionRepository.fetchSectionById env w.coreDataStack.context sets id = some sec →
        ∃ q ∈ sec.products, q.id = w.product.id ∧ q.quantity = w.product.quantity ∧
          q.remainingDays = w.product.remainingDays

/-- A section's read has the numbers of each of its product records. -/
theorem exists_mem_of_record {g : Graph} {k i : ObjectID} {r : CDProduct} {id : UUID} {p : UUID}
    (hr : g.products.get? k = some r) (hp : r.id = some p) (hi : r.«section» = some i)
    (hfetch : SectionRepository.fetchCDSectionById env g id = some i) {sets : Arrangement}
    {sec : Section} (hsec : SectionRepository.fetchSectionById env g sets id = some sec) :
    ∃ q ∈ sec.products, q.id = p ∧ q.quantity = r.quantity.toInt ∧
      q.remainingDays = r.remainingDays.toInt := by
  rw [fetchSectionById_eq, hfetch, Option.bind_some, Option.bind_eq_some_iff] at hsec
  obtain ⟨s, _, hm⟩ := hsec
  obtain ⟨_, _, _, _, hproducts⟩ := (mapCDSectionToSection_eq_some env g).mp hm
  refine ⟨readProduct env (k, r), ?_, by rw [readProduct, hp]; rfl, rfl, rfl⟩
  rw [hproducts, (perm_sorted _ _).mem_iff]
  refine List.mem_map_of_mem ?_
  exact g.products.mem_enumerate.mpr ⟨g.products.get?_eq_some.mp hr, by simp [hi]⟩

/-- With unique ids, a card agrees with the store when the record has its numbers. -/
theorem persisted_iff {w : CardWorld} {k : ObjectID} {r : CDProduct}
    (hk : ProductRepository.fetchCDProductById env w.coreDataStack.context w.product.id = some k)
    (hr : w.coreDataStack.context.products.get? k = some r) :
    Persisted env w ↔
      w.product.quantity = r.quantity.toInt ∧ w.product.remainingDays = r.remainingDays.toInt := by
  constructor
  · rintro ⟨k', r', hk', hr', hq, hd, _⟩
    obtain rfl := Option.some.inj (hk.symm.trans hk')
    obtain rfl := Option.some.inj (hr.symm.trans hr')
    exact ⟨hq.symm, hd.symm⟩
  · rintro ⟨hq, hd⟩
    obtain ⟨r', hr', hid⟩ := fetchById_eq_some hk
    obtain rfl := Option.some.inj (hr.symm.trans hr')
    refine ⟨k, r, hk, hr, hq.symm, hd.symm, ?_⟩
    intro i id hi hfetch sets sec hsec
    rw [hq, hd]
    exact exists_mem_of_record env hr hid hi hfetch hsec

/-- **Assigning the reference persists.**  This is the path the operations do not take. -/
theorem setProduct_persists {w : CardWorld} {ref : ProductRef} {k : ObjectID}
    (hk : ProductRepository.fetchCDProductById env w.coreDataStack.context (w.objects ref).id
      = some k) (hfit : (w.objects ref).Fits) :
    ∃ w', (CardViewModel.setProduct env ref).run w = .ok () w' ∧
      w'.product = w.objects ref ∧ Persisted env w' := by
  let w₁ : CardWorld := { w with viewModel := { w.viewModel with product := ref } }
  have hp : w₁.product = w.objects ref := rfl
  obtain ⟨g, hrun, hg⟩ := ProductRepository.run_updateProduct env hk hfit
  obtain ⟨_, _, hproducts⟩ := Tables.mk.inj hg
  obtain ⟨r, hr, _⟩ := fetchById_eq_some hk
  let w₂ : CardWorld := { w₁ with coreDataStack := w.coreDataStack.commit g }
  have hp₂ : w₂.afterNotify.product = w.objects ref := w₂.product_afterNotify
  have hctx : w₂.afterNotify.coreDataStack.context = g := by
    rw [w₂.coreDataStack_afterNotify]; exact CoreDataStack.context_commit _ _
  refine ⟨w₂.afterNotify, ?_, hp₂, ?_⟩
  · show (CardViewModel.didSet env).run w₁ = _
    rw [CardViewModel.didSet, run_bind_ok (CardViewModel.run_getProduct w₁), hp,
      run_bind_ok (CardViewModel.run_call_ok (w := w₁) hrun), CardViewModel.run_notify]
  · have hk' : ProductRepository.fetchCDProductById env g (w.objects ref).id = some k := by
      rw [ProductRepository.fetchCDProductById, hproducts, Table.modify,
        fetchById_mapRows env _ (fun i q => by split <;> rfl)]
      exact hk
    have hr' : g.products.get? k = some (ProductRepository.assign (w.objects ref) r) := by
      rw [hproducts, Table.get?_modify_self _ hr]
    refine (persisted_iff env (by rw [hctx, hp₂]; exact hk') (by rw [hctx]; exact hr')).mpr ?_
    rw [hp₂]
    exact ⟨(toInt_ofInt hfit.1).symm, (toInt_ofInt hfit.2).symm⟩

/-- **Card edits reach the store exactly when they change nothing.**  For a stored
product with a unique id, loaded into a card, the record and the reads agree with
the card after every operation of a sequence if and only if each operation asks
for the numbers the product has. -/
theorem edits_persisted_iff {w : CardWorld} {k : ObjectID} {r : CDProduct}
    (hr : w.coreDataStack.context.products.get? k = some r)
    (hunique : ∀ k' r', w.coreDataStack.context.products.get? k' = some r' →
      r'.id = some w.product.id → k' = k)
    (hstored : w.product.StoredAs r) (ops : List CardOp) :
    Always CardStep (fun _ _ w' => Persisted env w') w ops ↔ ∀ op ∈ ops, op.Idle w.product := by
  obtain ⟨hid, _, _, hq, hd⟩ := hstored
  have hk : ProductRepository.fetchCDProductById env w.coreDataStack.context w.product.id
      = some k := fetchById_of_unique hr hid hunique
  have hfit : w.product.Fits := ⟨hq ▸ fitsInt16_toInt _, hd ▸ fitsInt16_toInt _⟩
  -- along idle operations the card keeps the loaded product and the store is not touched
  refine always_iff_forall
    (fun v => v.product = w.product ∧ v.coreDataStack = w.coreDataStack) ?_ ?_ ?_ ⟨rfl, rfl⟩ ops
  · rintro v op ⟨hv, _⟩
    exact ⟨_, CardOp.run_exec_ok (hv ▸ CardOp.noOverflow_of_fits hfit op)⟩
  · rintro v op v' ⟨hv, hst⟩ hstep
    obtain rfl := cardStep_cases hstep
    have hprod : (v.withProduct (op.edit v.product)).afterNotify.product = op.edit w.product := by
      rw [CardWorld.product_afterNotify, CardWorld.product_withProduct, hv]
    have hst' : (v.withProduct (op.edit v.product)).afterNotify.coreDataStack
        = w.coreDataStack := by
      rw [CardWorld.coreDataStack_afterNotify, CardWorld.coreDataStack_withProduct, hst]
    rw [persisted_iff env (k := k) (r := r) (by rw [hst', hprod, CardOp.id_edit]; exact hk)
      (by rw [hst']; exact hr), hprod, hq, hd]
    exact CardOp.edit_iff_idle
  · rintro v op v' ⟨hv, hst⟩ hstep hidle
    obtain rfl := cardStep_cases hstep
    rw [CardWorld.product_afterNotify, CardWorld.product_withProduct,
      CardWorld.coreDataStack_afterNotify, CardWorld.coreDataStack_withProduct, hv]
    exact ⟨CardOp.edit_of_idle hidle, hst⟩

/-- A card with no eggs left stays as stored when one more is taken off. -/
theorem edits_persisted_noEggs :
    let egg : Product := ⟨1, "egg", "egg", 0, 11⟩
    let w : CardWorld :=
      { objects := fun _ => egg
        viewModel := ⟨0, none⟩
        coreDataStack := final (execAll default [.createUser 7 "Ray",
          .createSection 7 ⟨9, "fridge", 30, .oldestToNewest, [egg]⟩]) (.launch .empty) }
    Always CardStep (fun _ _ w' => Persisted default w') w
      [.decreaseQuantity, .updateRemainingDays 11, .decreaseQuantity] := by
  intro egg w
  have hrows : w.coreDataStack.context.products.rows =
      [(0, ⟨some 1, some "egg", 0, 11, some "egg", some 0⟩)] := by decide
  refine (edits_persisted_iff default (w := w) (k := 0)
    (r := ⟨some 1, some "egg", 0, 11, some "egg", some 0⟩) (by decide) ?_ (by decide) _).mpr
    (by decide)
  intro k r hr _
  have hmem := (Table.get?_eq_some _).mp hr
  rw [hrows, List.mem_singleton] at hmem
  exact (Prod.mk.inj hmem).1

/-- One egg more on the card: the record and the read of its section keep the old number. -/
theorem increaseQuantity_not_persisted :
    let egg : Product := ⟨1, "egg", "egg", 2, 11⟩
    let w : CardWorld :=
      { objects := fun _ => egg
        viewModel := ⟨0, none⟩
        coreDataStack := final (execAll default [.createUser 7 "Ray",
          .createSection 7 ⟨9, "fridge", 30, .oldestToNewest, [egg]⟩]) (.launch .empty) }
    ∃ w', CardStep w .increaseQuantity w' ∧ w'.product = { egg with quantity := 3 } ∧
      w'.coreDataStack.context.products.get? 0 =
        some ⟨some 1, some "egg", 2, 11, some "egg", some 0⟩ ∧
      SectionRepository.fetchSectionById default w'.coreDataStack.context .inOrder 9 =
        some ⟨9, "fridge", 30, .oldestToNewest, [egg]⟩ ∧
      ¬ Persisted default w' := by
  intro egg w
  have hrun := CardOp.run_exec_ok (CardOp.noOverflow_of_fits (show w.product.Fits by decide)
    .increaseQuantity)
  refine ⟨_, hrun, rfl, by decide, by decide, ?_⟩
  rw [persisted_iff default (k := 0) (r := ⟨some 1, some "egg", 2, 11, some "egg", some 0⟩)
    (by decide) (by decide)]
  decide

end InventoryApp
