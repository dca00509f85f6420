import InventoryApp.Lib.Table
import InventoryApp.Model

/-!
# The object graph of the data model

`AppDataModel` declares three entities.  A relationship and its inverse are one
fact, so it is kept on the to-one side only: a `CDSection` names its user, a
`CDProduct` its section, and `user.sections` and `section.products` are read off
these.  All attributes are optional in the model file, scalar ones default to
`0`, and a new object has the defaults.

A `Graph` is what a managed object context holds.  Its proof fields say that a
relationship never names an object that is not there, and deletion keeps them
because every delete rule of the model file is Nullify: deleting a user
(`deleteUser`) clears the `user` of its sections.
-/

namespace InventoryApp

open Lib

abbrev ObjectID := Nat

structure CDUser where
  id : Option UUID := none
  name : Option String := none
  deriving DecidableEq, Repr

structure CDSection where
  id : Option UUID := none
  rule : Int16 := 0
  sortingRule : Int16 := 0
  title : Option String := none
  user : Option ObjectID := none
  deriving DecidableEq, Repr

structure CDProduct where
  id : Option UUID := none
  picture : Option String := none
  quantity : Int16 := 0
  remainingDays : Int16 := 0
  title : Option String := none
  «section» : Option ObjectID := none
  deriving DecidableEq, Repr

/-- A section whose user is being deleted, by the Nullify rule of `sections`. -/
def CDSection.nullify (user : ObjectID) (s : CDSection) : CDSection :=
  if s.user = some user then { s with user := none } else s

theorem CDSection.nullify_user_eq_some {user u : ObjectID} {s : CDSection} :
    (CDSection.nullify user s).user = some u ↔ s.user = some u ∧ u ≠ user := by
  unfold CDSection.nullify
  split
  · rename_i h
    simp only [h, Option.some.injEq, reduceCtorEq, false_iff, not_and, not_not]
    exact fun h => h.symm
  · rename_i h
    refine ⟨fun hs => ⟨hs, ?_⟩, fun hs => hs.1⟩
    rintro rfl
    exact h hs

@[simp] theorem CDSection.id_nullify (user : ObjectID) (s : CDSection) :
    (CDSection.nullify user s).id = s.id := by
  unfold CDSection.nullify; split <;> rfl

/-- What the three entities of a context hold. -/
structure Tables where
  users : Table CDUser
  sections : Table CDSection
  products : Table CDProduct
  deriving DecidableEq

/-- The objects of a context, with no relationship to a missing object. -/
@[ext] structure Graph where
  users : Table CDUser
  sections : Table CDSection
  products : Table CDProduct
  user_live : ∀ r ∈ sections.rows, ∀ u, r.2.user = some u → u ∈ users.keys
  section_live : ∀ r ∈ products.rows, ∀ s, r.2.«section» = some s → s ∈ sections.keys
  deriving DecidableEq

namespace Graph

def empty : Graph := ⟨.empty, .empty, .empty, by simp, by simp⟩

variable (g : Graph)

/-! ### Reading relationships -/

/-- `user.sections`, in the order the set enumerates. -/
def sectionsOfUser (sets : Arrangement) (user : ObjectID) : List (ObjectID × CDSection) :=
  g.sections.enumerate sets (fun s => s.user = some user)

/-- `section.products`, in the order the set enumerates. -/
def productsOfSection (sets : Arrangement) (cdSection : ObjectID) : List (ObjectID × CDProduct) :=
  g.products.enumerate sets (fun p => p.«section» = some cdSection)

/-! ### The tables -/

/-- The three tables, without what makes them a graph. -/
def tables : Tables := ⟨g.users, g.sections, g.products⟩

theorem tables_inj {g g' : Graph} : g.tables = g'.tables ↔ g = g' := by
  refine ⟨?_, fun h => h ▸ rfl⟩
  intro h
  injection h with hu hs hp
  exact Graph.ext hu hs hp

/-! ### Inserting -/

/-- `CDUser(context:)`. -/
def insertUser : Graph where
  users := g.users.insert {}
  sections := g.sections
  products := g.products
  user_live := by
    intro r hr u hu
    rw [Table.keys_insert]
    exact List.mem_append_left _ (g.user_live r hr u hu)
  section_live := g.section_live

/-- `CDSection(context:)`. -/
def insertSection : Graph where
  users := g.users
  sections := g.sections.insert {}
  products := g.products
  user_live := by
    intro r hr u hu
    rcases List.mem_append.mp hr with hr | hr
    · exact g.user_live r hr u hu
    · rw [List.mem_singleton.mp hr] at hu; cases hu
  section_live := by
    intro r hr s hs
    rw [Table.keys_insert]
    exact List.mem_append_left _ (g.section_live r hr s hs)

/-- `CDProduct(context:)`. -/
def insertProduct : Graph where
  users := g.users
  sections := g.sections
  products := g.products.insert {}
  user_live := g.user_live
  section_live := by
    intro r hr s hs
    rcases List.mem_append.mp hr with hr | hr
    · exact g.section_live r hr s hs
    · rw [List.mem_singleton.mp hr] at hs; cases hs

/-! ### Assigning attributes -/

/-- Assigns attributes of a user. -/
def modifyUser (user : ObjectID) (f : CDUser → CDUser) : Graph where
  users := g.users.modify user f
  sections := g.sections
  products := g.products
  user_live := by simpa using g.user_live
  section_live := g.section_live

/-- Assigns attributes of a section; its relationships stay. -/
def modifySection (cdSection : ObjectID) (f : CDSection → CDSection)
    (hf : ∀ s, (f s).user = s.user := by intro _; rfl) : Graph where
  users := g.users
  sections := g.sections.modify cdSection f
  products := g.products
  user_live := by
    intro r hr u hu
    obtain ⟨r', hr', rfl⟩ := g.sections.mem_rows_modify.mp hr
    refine g.user_live r' hr' u (hu ▸ ?_)
    simp only
    split <;> simp [hf]
  section_live := by simpa using g.section_live

/-- Assigns attributes of a product; its relationship stays. -/
def modifyProduct (cdProduct : ObjectID) (f : CDProduct → CDProduct)
    (hf : ∀ p, (f p).«section» = p.«section» := by intro _; rfl) : Graph where
  users := g.users
  sections := g.sections
  products := g.products.modify cdProduct f
  user_live := g.user_live
  section_live := by
    intro r hr s hs
    obtain ⟨r', hr', rfl⟩ := g.products.mem_rows_modify.mp hr
    refine g.section_live r' hr' s (hs ▸ ?_)
    simp only
    split <;> simp [hf]

/-! ### Relating and deleting -/

/-- `user.addToSections(cdSection)`. -/
def addToSections (user cdSection : ObjectID) : Graph :=
  if hu : user ∈ g.users.keys then
    { users := g.users
      sections := g.sections.modify cdSection (fun s => { s with user := some user })
      products := g.products
      user_live := by
        intro r hr u h
        obtain ⟨r', hr', rfl⟩ := g.sections.mem_rows_modify.mp hr
        simp only at h
        split at h
        · obtain rfl := Option.some.inj h; exact hu
        · exact g.user_live r' hr' u h
      section_live := by simpa using g.section_live }
  else g

/-- `cdSection.addToProducts(cdProduct)`. -/
def addToProducts (cdSection cdProduct : ObjectID) : Graph :=
  if hs : cdSection ∈ g.sections.keys then
    { users := g.users
      sections := g.sections
      products := g.products.modify cdProduct (fun p => { p with «section» := some cdSection })
      user_live := g.user_live
      section_live := by
        intro r hr s h
        obtain ⟨r', hr', rfl⟩ := g.products.mem_rows_modify.mp hr
        simp only at h
        split at h
        · obtain rfl := Option.some.inj h; exact hs
        · exact g.section_live r' hr' s h }
  else g

/-- `context.delete(user)`. -/
def deleteUser (user : ObjectID) : Graph where
  users := g.users.erase user
  sections := g.sections.mapRows (fun _ => CDSection.nullify user)
  products := g.products
  user_live := by
    intro r hr u hu
    rw [Table.rows_mapRows, List.mem_map] at hr
    obtain ⟨r', hr', rfl⟩ := hr
    obtain ⟨hs, hne⟩ := CDSection.nullify_user_eq_some.mp hu
    exact g.users.mem_keys_erase.mpr ⟨g.user_live r' hr' u hs, hne⟩
  section_live := by simpa using g.section_live

/-! ### The tables after each change -/

@[simp] theorem users_insertUser : g.insertUser.users = g.users.insert {} := rfl
@[simp] theorem sections_insertUser : g.insertUser.sections = g.sections := rfl
@[simp] theorem products_insertUser : g.insertUser.products = g.products := rfl
@[simp] theorem users_insertSection : g.insertSection.users = g.users := rfl
@[simp] theorem sections_insertSection : g.insertSection.sections = g.sections.insert {} := rfl
@[simp] theorem products_insertSection : g.insertSection.products = g.products := rfl
@[simp] theorem users_insertProduct : g.insertProduct.users = g.users := rfl
@[simp] theorem sections_insertProduct : g.insertProduct.sections = g.sections := rfl
@[simp] theorem products_insertProduct : g.insertProduct.products = g.products.insert {} := rfl

@[simp] theorem users_modifyUser (k : ObjectID) (f) :
    (g.modifyUser k f).users = g.users.modify k f := rfl
@[simp] theorem sections_modifyUser (k : ObjectID) (f) : (g.modifyUser k f).sections = g.sections :=
  rfl
@[simp] theorem products_modifyUser (k : ObjectID) (f) : (g.modifyUser k f).products = g.products :=
  rfl

@[simp] theorem users_modifySection (k : ObjectID) (f) (hf) :
    (g.modifySection k f hf).users = g.users := rfl
@[simp] theorem sections_modifySection (k : ObjectID) (f) (hf) :
    (g.modifySection k f hf).sections = g.sections.modify k f := rfl
@[simp] theorem products_modifySection (k : ObjectID) (f) (hf) :
    (g.modifySection k f hf).products = g.products := rfl

@[simp] theorem users_modifyProduct (k : ObjectID) (f) (hf) :
    (g.modifyProduct k f hf).users = g.users := rfl
@[simp] theorem sections_modifyProduct (k : ObjectID) (f) (hf) :
    (g.modifyProduct k f hf).sections = g.sections := rfl
@[simp] theorem products_modifyProduct (k : ObjectID) (f) (hf) :
    (g.modifyProduct k f hf).products = g.products.modify k f := rfl

@[simp] theorem users_addToSections (u k : ObjectID) : (g.addToSections u k).users = g.users := by
  unfold addToSections; split <;> rfl
@[simp] theorem products_addToSections (u k : ObjectID) :
    (g.addToSections u k).products = g.products := by
  unfold addToSections; split <;> rfl
theorem sections_addToSections {u : ObjectID} (hu : u ∈ g.users.keys) (k : ObjectID) :
    (g.addToSections u k).sections
      = g.sections.modify k (fun s => { s with user := some u }) := by
  unfold addToSections; rw [dif_pos hu]

@[simp] theorem users_addToProducts (s k : ObjectID) : (g.addToProducts s k).users = g.users := by
  unfold addToProducts; split <;> rfl
@[simp] theorem sections_addToProducts (s k : ObjectID) :
    (g.addToProducts s k).sections = g.sections := by
  unfold addToProducts; split <;> rfl
theorem products_addToProducts {s : ObjectID} (hs : s ∈ g.sections.keys) (k : ObjectID) :
    (g.addToProducts s k).products
      = g.products.modify k (fun p => { p with «section» := some s }) := by
  unfold addToProducts; rw [dif_pos hs]

@[simp] theorem users_deleteUser (u : ObjectID) : (g.deleteUser u).users = g.users.erase u := rfl
@[simp] theorem sections_deleteUser (u : ObjectID) :
    (g.deleteUser u).sections = g.sections.mapRows (fun _ => CDSection.nullify u) := rfl
@[simp] theorem products_deleteUser (u : ObjectID) : (g.deleteUser u).products = g.products := rfl

/-- No section belongs to an object that is not a user yet. -/
theorem select_next_sections :
    g.products.select (fun p => p.«section» = some g.sections.next) = [] := by
  refine List.filter_eq_nil_iff.mpr fun r hr h => ?_
  exact g.sections.next_notMem_keys (g.section_live r hr _ (by simpa using h))

end Graph

end InventoryApp
