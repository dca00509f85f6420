import InventoryApp.Data.CoreDataStack

/-!
# `ProductRepository`

A look-up by id is a fetch with the predicate `id == %@` of which the first
answer is taken; `fetchById` is that look-up, and each repository has its own
under the source's name.  `fetchProducts` drops a product with a missing field,
by `mapCDProductToProduct`; it is a read of the context, so a function of it.

`insertCDProduct` is the block that `createProduct` and the section repository's
`mapProductsToCDProducts` share: a new object, its five attributes, two of them
narrowed, and its section.
-/

namespace InventoryApp

open Lib Repo

/-- The first answer of a fetch with the predicate `id == %@`. -/
def fetchById {ρ : Type} (env : Environment) (table : Table ρ) (idOf : ρ → Option UUID)
    (id : UUID) : Option ObjectID :=
  (table.fetch env.fetchOrder (fun r => idOf r = some id)).head?

/-- Some row has this id. -/
def Stored {ρ : Type} (table : Table ρ) (idOf : ρ → Option UUID) (id : UUID) : Prop :=
  ∃ k r, table.get? k = some r ∧ idOf r = some id

instance {ρ : Type} (table : Table ρ) (idOf : ρ → Option UUID) (id : UUID) :
    Decidable (Stored table idOf id) :=
  decidable_of_iff (∃ r ∈ table.rows, idOf r.2 = some id) (by simp [Stored, Table.get?_eq_some])

/-- What a product is stored as. -/
def Product.toCD (p : Product) (cdSection : ObjectID) : CDProduct where
  id := some p.id
  picture := some p.picture
  quantity := Int16.ofInt p.quantity
  remainingDays := Int16.ofInt p.remainingDays
  title := some p.title
  «section» := some cdSection

def insertCDProduct (product : Product) (cdSection : ObjectID) : Repo Unit := do
  let cdProduct ← newCDProduct
  modifyContext (·.modifyProduct cdProduct (fun p => { p with id := some product.id }))
  modifyContext (·.modifyProduct cdProduct (fun p => { p with title := some product.title }))
  modifyContext (·.modifyProduct cdProduct (fun p => { p with picture := some product.picture }))
  let quantity ← int16 product.quantity
  modifyContext (·.modifyProduct cdProduct (fun p => { p with quantity := quantity }))
  let remainingDays ← int16 product.remainingDays
  modifyContext (·.modifyProduct cdProduct (fun p => { p with remainingDays := remainingDays }))
  modifyContext (·.addToProducts cdSection cdProduct)

namespace ProductRepository

variable (env : Environment)

def fetchCDSectionById (g : Graph) (id : UUID) : Option ObjectID :=
  fetchById env g.sections CDSection.id id

def fetchCDProductById (g : Graph) (id : UUID) : Option ObjectID :=
  fetchById env g.products CDProduct.id id

def createProduct (sectionId : UUID) (product : Product) : Repo Unit := do
  let some cdSection := fetchCDSectionById env (← context) sectionId | return
  insertCDProduct product cdSection
  saveContext

def mapCDProductToProduct (cdProduct : Option CDProduct) : Option Product := do
  let cdProduct ← cdProduct
  let id ← cdProduct.id
  let title ← cdProduct.title
  let picture ← cdProduct.picture
  let quantity := cdProduct.quantity.toInt
  let remainingDays := cdProduct.remainingDays.toInt
  return { id, title, picture, quantity, remainingDays }

def fetchProducts (g : Graph) (sets : Arrangement) (sectionId : UUID) : List Product :=
  match fetchCDSectionById env g sectionId with
  | none => []
  | some cdSection =>
    (g.productsOfSection sets cdSection).filterMap (fun r => mapCDProductToProduct (some r.2))

def updateProduct (product : Product) : Repo Unit := do
  let some cdProduct := fetchCDProductById env (← context) product.id | return
  modifyContext (·.modifyProduct cdProduct (fun p => { p with title := some product.title }))
  modifyContext (·.modifyProduct cdProduct (fun p => { p with picture := some product.picture }))
  let quantity ← int16 product.quantity
  modifyContext (·.modifyProduct cdProduct (fun p => { p with quantity := quantity }))
  let remainingDays ← int16 product.remainingDays
  modifyContext (·.modifyProduct cdProduct (fun p => { p with remainingDays := remainingDays }))
  saveContext

end ProductRepository

/-! ### What each operation does -/

theorem fetchById_eq_some {ρ : Type} {env : Environment} {table : Table ρ}
    {idOf : ρ → Option UUID} {id : UUID} {k : ObjectID}
    (h : fetchById env table idOf id = some k) :
    ∃ r, table.get? k = some r ∧ idOf r = some id := by
  obtain ⟨r, hr, hp⟩ := table.get?_of_head?_fetch h
  exact ⟨r, hr, by simpa using hp⟩

theorem stored_of_fetchById {ρ : Type} {env : Environment} {table : Table ρ}
    {idOf : ρ → Option UUID} {id : UUID} {k : ObjectID}
    (h : fetchById env table idOf id = some k) : Stored table idOf id :=
  ⟨k, fetchById_eq_some h⟩

theorem fetchById_eq_none {ρ : Type} {env : Environment} {table : Table ρ}
    {idOf : ρ → Option UUID} {id : UUID} :
    fetchById env table idOf id = none ↔ ¬ Stored table idOf id := by
  rw [fetchById, Table.head?_fetch_eq_none]
  simp [Stored]

theorem exists_fetchById {ρ : Type} (env : Environment) {table : Table ρ}
    {idOf : ρ → Option UUID} {id : UUID} (h : Stored table idOf id) :
    ∃ k, fetchById env table idOf id = some k := by
  rw [← Option.isSome_iff_exists, Option.isSome_iff_ne_none, ne_eq, fetchById_eq_none, not_not]
  exact h

theorem fetchById_of_unique {ρ : Type} {env : Environment} {table : Table ρ}
    {idOf : ρ → Option UUID} {id : UUID} {k : ObjectID} {r : ρ}
    (hr : table.get? k = some r) (hid : idOf r = some id)
    (hu : ∀ k' r', table.get? k' = some r' → idOf r' = some id → k' = k) :
    fetchById env table idOf id = some k :=
  table.head?_fetch_of_unique hr (by simpa using hid)
    (fun k' r' hr' hp => hu k' r' hr' (by simpa using hp))

/-- Changes that keep the ids keep every look-up. -/
theorem fetchById_mapRows {ρ : Type} (env : Environment) (table : Table ρ)
    {idOf : ρ → Option UUID} {f : ObjectID → ρ → ρ} (hf : ∀ k r, idOf (f k r) = idOf r)
    (id : UUID) : fetchById env (table.mapRows f) idOf id = fetchById env table idOf id := by
  unfold fetchById
  rw [Table.fetch_congr]
  exact table.select_keys_mapRows (fun r _ => by rw [hf])

/-- **A product in range is stored as one new row.** -/
theorem run_insertCDProduct {product : Product} (hfit : product.Fits) (st : CoreDataStack)
    {cdSection : ObjectID} (hs : cdSection ∈ st.context.sections.keys) :
    ∃ g, (insertCDProduct product cdSection).run st = .ok () { st with context := g } ∧
      g.tables = ⟨st.context.users, st.context.sections,
        st.context.products.insert (product.toCD cdSection)⟩ := by
  refine ⟨?g, ?run, ?tables⟩
  case run =>
    simp only [insertCDProduct, EStateM.run_bind, run_newCDProduct, run_modifyContext,
      run_int16_ok hfit.1, run_int16_ok hfit.2]
    rfl
  case tables =>
    rw [Graph.tables, Graph.products_addToProducts _ (by simpa using hs)]
    simp [Product.toCD]

namespace ProductRepository

variable (env : Environment)

theorem run_createProduct_of_none {sectionId : UUID} {product : Product} {st : CoreDataStack}
    (h : fetchCDSectionById env st.context sectionId = none) :
    (createProduct env sectionId product).run st = .ok () st := by
  rw [createProduct, run_bind_ok (run_context st)]
  simp only [h]
  rfl

theorem run_createProduct {sectionId : UUID} {product : Product} {st : CoreDataStack}
    {cdSection : ObjectID} (h : fetchCDSectionById env st.context sectionId = some cdSection)
    (hfit : product.Fits) :
    ∃ g, (createProduct env sectionId product).run st = .ok () (st.commit g) ∧
      g.tables = ⟨st.context.users, st.context.sections,
        st.context.products.insert (product.toCD cdSection)⟩ := by
  obtain ⟨s, hs, _⟩ := fetchById_eq_some h
  obtain ⟨g, hr, hg⟩ := run_insertCDProduct hfit st
    (st.context.sections.mem_keys_iff_get?.mpr ⟨s, hs⟩)
  refine ⟨g, ?_, hg⟩
  rw [createProduct, run_bind_ok (run_context st)]
  simp only [h]
  rw [run_bind_ok hr, run_saveContext, commit_context]

/-- The attributes `updateProduct` writes. -/
def assign (product : Product) (p : CDProduct) : CDProduct :=
  { p with
    title := some product.title
    picture := some product.picture
    quantity := Int16.ofInt product.quantity
    remainingDays := Int16.ofInt product.remainingDays }

theorem run_updateProduct_of_none {product : Product} {st : CoreDataStack}
    (h : fetchCDProductById env st.context product.id = none) :
    (updateProduct env product).run st = .ok () st := by
  rw [updateProduct, run_bind_ok (run_context st)]
  simp only [h]
  rfl

theorem run_updateProduct {product : Product} {st : CoreDataStack} {cdProduct : ObjectID}
    (h : fetchCDProductById env st.context product.id = some cdProduct) (hfit : product.Fits) :
    ∃ g, (updateProduct env product).run st = .ok () (st.commit g) ∧
      g.tables = ⟨st.context.users, st.context.sections,
        st.context.products.modify cdProduct (assign product)⟩ := by
  refine ⟨?g, ?run, ?tables⟩
  case run =>
    rw [updateProduct, run_bind_ok (run_context st)]
    simp only [h, EStateM.run_bind, run_modifyContext, run_int16_ok hfit.1, run_int16_ok hfit.2,
      run_saveContext, commit_context]
    rfl
  case tables =>
    simp only [Graph.tables, Graph.users_modifyProduct, Graph.sections_modifyProduct,
      Graph.products_modifyProduct, Table.modify_modify]
    rfl

end ProductRepository

end InventoryApp
