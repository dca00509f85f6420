import Mathlib.Data.Multiset.MapFold
import InventoryApp.Model

/-!
# What the repositories are for

An `Inventory` is what a user of the repositories may think of: names of users
under their ids, and sections under theirs.  A section has an owner, if its user
is still there, and a multiset of products.  There are no objects, no tables and
no orders.

A `Call` names everything by id.  `Call.onUsers` and `Call.onSection` say what it
makes of the users and of the section under one id; a section is never touched by
what the others hold, so two calls about sections commute as soon as they commute
at every id.  `Call.Independent` is when they do: they are about different sections
and different products, or both put a product in a section.
-/

namespace InventoryApp

/-- A section without its id. -/
@[ext] structure StoredSection where
  owner : Option UUID
  title : String
  rule : Int
  sortingRule : SortingRule
  products : Multiset Product

/-- Users and sections under their ids. -/
@[ext] structure Inventory where
  users : UUID → Option String
  sections : UUID → Option StoredSection

namespace Inventory

def empty : Inventory := ⟨fun _ => none, fun _ => none⟩

inductive Call
  | createUser (id : UUID) (name : String)
  | fetchUser (id : UUID)
  | updateUser (id : UUID) (name : String)
  | deleteUser (id : UUID)
  | removeAllUsers
  | createSection (userId : UUID) (sec : Section)
  | updateSection (sec : Section)
  | setSectionSortingRule (id : UUID) (rule : SortingRule)
  | createProduct (sectionId : UUID) (product : Product)
  | updateProduct (product : Product)

namespace Call

/-- The users after a call. -/
noncomputable def onUsers (users : UUID → Option String) : Call → UUID → Option String
  | createUser id name => Function.update users id (some name)
  | fetchUser id =>
    -- the ids are too many for a search
    haveI := Classical.propDecidable (∀ i, users i = none)
    if ∀ i, users i = none then Function.update users id (some "Ray") else users
  | updateUser id name => Function.update users id ((users id).map fun _ => name)
  | deleteUser id => Function.update users id none
  | removeAllUsers => fun _ => none
  | _ => users

/-- The section under `id` after a call. -/
def onSection (users : UUID → Option String) (id : UUID) (s : Option StoredSection) :
    Call → Option StoredSection
  | deleteUser userId =>
    s.map fun s => if s.owner = some userId then { s with owner := none } else s
  | removeAllUsers => s.map fun s => { s with owner := none }
  | createSection userId sec =>
    if sec.id = id ∧ users userId ≠ none then
      some ⟨some userId, sec.title, sec.rule, sec.sortingRule, sec.products⟩
    else s
  | updateSection sec =>
    if sec.id = id then
      s.map fun s => { s with title := sec.title, rule := sec.rule, sortingRule := sec.sortingRule }
    else s
  | setSectionSortingRule sectionId rule =>
    if sectionId = id then s.map fun s => { s with sortingRule := rule } else s
  | createProduct sectionId product =>
    if sectionId = id then s.map fun s => { s with products := product ::ₘ s.products } else s
  | updateProduct product => s.map fun s => { s with products := s.products.map product.replace }
  | _ => s

end Call

/-- The inventory after a call. -/
noncomputable def apply (inv : Inventory) (c : Call) : Inventory where
  users := c.onUsers inv.users
  sections id := c.onSection inv.users id (inv.sections id)

/-! ### Calls that commute -/

namespace Call

/-- The section a call names. -/
def sectionId : Call → Option UUID
  | createSection _ sec => some sec.id
  | updateSection sec => some sec.id
  | setSectionSortingRule id _ => some id
  | createProduct id _ => some id
  | _ => none

/-- The products a call writes. -/
def productIds : Call → List UUID
  | createSection _ sec => sec.products.map Product.id
  | createProduct _ product => [product.id]
  | updateProduct product => [product.id]
  | _ => []

/-- The call is about sections and products. -/
def OnSections : Call → Prop
  | createSection _ _ => True
  | updateSection _ => True
  | setSectionSortingRule _ _ => True
  | createProduct _ _ => True
  | updateProduct _ => True
  | _ => False

/-- The calls name different sections, or both put a product in one. -/
def ApartInSections : Call → Call → Prop
  | createProduct _ _, createProduct _ _ => True
  | c, d => ∀ id, c.sectionId = some id → d.sectionId ≠ some id

/-- Two calls about sections and products that are not about the same ones. -/
structure Independent (c d : Call) : Prop where
  left : c.OnSections
  right : d.OnSections
  apart : ApartInSections c d
  products : ∀ id ∈ c.productIds, id ∉ d.productIds

theorem onUsers_of_onSections {c : Call} (h : c.OnSections) (users : UUID → Option String) :
    c.onUsers users = users := by
  cases c with
  | createUser id name => exact h.elim
  | fetchUser id => exact h.elim
  | updateUser id name => exact h.elim
  | deleteUser id => exact h.elim
  | removeAllUsers => exact h.elim
  | _ => rfl

/-- A call leaves a section that it does not name, unless it updates a product. -/
theorem onSection_of_ne {c : Call} {sectionId id : UUID} (hc : c.sectionId = some sectionId)
    (hne : sectionId ≠ id) (users : UUID → Option String) (s : Option StoredSection) :
    c.onSection users id s = s := by
  cases c <;> cases hc
  · exact if_neg fun h => hne h.1
  · exact if_neg hne
  · exact if_neg hne
  · exact if_neg hne

theorem map_replace_of_notMem {p : Product} {l : List Product} (h : p.id ∉ l.map Product.id) :
    (l : Multiset Product).map p.replace = l := by
  rw [Multiset.map_coe]
  refine congrArg _ ((List.map_congr_left fun q hq => ?_).trans (List.map_id l))
  refine if_neg fun he => h ?_
  rw [← he]
  exact List.mem_map_of_mem hq

theorem replace_comm {p q : Product} (h : p.id ≠ q.id) (r : Product) :
    p.replace (q.replace r) = q.replace (p.replace r) := by
  unfold Product.replace
  by_cases hp : r.id = p.id
  · rw [if_neg (fun hq => h (hp.symm.trans hq)), if_pos hp, if_neg h]
  · by_cases hq : r.id = q.id
    · rw [if_pos hq, if_neg h.symm, if_neg hp, if_pos hq]
    · rw [if_neg hq, if_neg hp, if_neg hq]

/-- An update of a product commutes with a call that does not write it. -/
theorem onSection_updateProduct_comm {p : Product} {d : Call} (hd : d.OnSections)
    (hp : p.id ∉ d.productIds) (users : UUID → Option String) (id : UUID)
    (s : Option StoredSection) :
    (updateProduct p).onSection users id (d.onSection users id s) =
      d.onSection users id ((updateProduct p).onSection users id s) := by
  cases d with
  | createSection userId sec =>
    simp only [onSection]
    by_cases h : sec.id = id ∧ users userId ≠ none
    · rw [if_pos h, if_pos h, Option.map_some, map_replace_of_notMem hp]
    · rw [if_neg h, if_neg h]
  | updateSection sec =>
    simp only [onSection]
    by_cases h : sec.id = id
    · rw [if_pos h, if_pos h, Option.map_map, Option.map_map]; rfl
    · rw [if_neg h, if_neg h]
  | setSectionSortingRule sectionId rule =>
    simp only [onSection]
    by_cases h : sectionId = id
    · rw [if_pos h, if_pos h, Option.map_map, Option.map_map]; rfl
    · rw [if_neg h, if_neg h]
  | createProduct sectionId q =>
    have hq : p.replace q = q := if_neg fun he => hp (List.mem_singleton.mpr he.symm)
    simp only [onSection]
    by_cases h : sectionId = id
    · rw [if_pos h, if_pos h, Option.map_map, Option.map_map]
      refine congrArg (s.map ·) (funext fun s => ?_)
      simp only [Function.comp_apply, Multiset.map_cons, hq]
    · rw [if_neg h, if_neg h]
  | updateProduct q =>
    have hne : p.id ≠ q.id := fun he => hp (List.mem_singleton.mpr he)
    simp only [onSection, Option.map_map]
    refine congrArg (s.map ·) (funext fun s => ?_)
    simp only [Function.comp_apply, Multiset.map_map, replace_comm hne]
  | _ => exact hd.elim

/-- Calls that name one section and are apart put products in it. -/
theorem ApartInSections.createProducts {c d : Call} {id : UUID} (h : ApartInSections c d)
    (hc : c.sectionId = some id) (hd : d.sectionId = some id) :
    ∃ p q, c = createProduct id p ∧ d = createProduct id q := by
  cases c with
  | createProduct i p =>
    cases d with
    | createProduct j q =>
      cases hc
      cases hd
      exact ⟨p, q, rfl, rfl⟩
    | _ => exact absurd hd (h id hc)
  | _ => exact absurd hd (h id hc)

/-- Two calls that name a section and are apart commute. -/
theorem onSection_comm_of_apart {c d : Call} {i j : UUID} (hc : c.sectionId = some i)
    (hd : d.sectionId = some j) (h : ApartInSections c d) (users : UUID → Option String) (id : UUID)
    (s : Option StoredSection) :
    c.onSection users id (d.onSection users id s) =
      d.onSection users id (c.onSection users id s) := by
  by_cases hi : i = id
  · by_cases hj : j = id
    · subst hi
      subst hj
      obtain ⟨p, q, rfl, rfl⟩ := h.createProducts hc hd
      simp only [onSection, if_true, Option.map_map]
      refine congrArg (s.map ·) (funext fun s => ?_)
      simp only [Function.comp_apply, Multiset.cons_swap]
    · rw [onSection_of_ne hd hj, onSection_of_ne hd hj]
  · rw [onSection_of_ne hc hi, onSection_of_ne hc hi]

theorem sectionId_or_updateProduct {c : Call} (h : c.OnSections) :
    (∃ id, c.sectionId = some id) ∨ ∃ p, c = updateProduct p := by
  cases c with
  | createSection userId sec => exact Or.inl ⟨_, rfl⟩
  | updateSection sec => exact Or.inl ⟨_, rfl⟩
  | setSectionSortingRule id rule => exact Or.inl ⟨_, rfl⟩
  | createProduct id p => exact Or.inl ⟨_, rfl⟩
  | updateProduct p => exact Or.inr ⟨p, rfl⟩
  | _ => exact h.elim

/-- **Independent calls commute on every section.** -/
theorem Independent.onSection_comm {c d : Call} (h : Independent c d)
    (users : UUID → Option String) (id : UUID) (s : Option StoredSection) :
    c.onSection users id (d.onSection users id s) =
      d.onSection users id (c.onSection users id s) := by
  obtain ⟨hc, hd, hapart, hproducts⟩ := h
  rcases sectionId_or_updateProduct hc with ⟨i, hi⟩ | ⟨p, rfl⟩
  · rcases sectionId_or_updateProduct hd with ⟨j, hj⟩ | ⟨q, rfl⟩
    · exact onSection_comm_of_apart hi hj hapart users id s
    · exact (onSection_updateProduct_comm hc
        (fun hq => hproducts _ hq (List.mem_singleton.mpr rfl)) users id s).symm
  · exact onSection_updateProduct_comm hd (hproducts _ (List.mem_singleton.mpr rfl)) users id s

end Call

/-- **Independent calls commute.** -/
theorem apply_comm {c d : Call} (h : c.Independent d) (inv : Inventory) :
    (inv.apply c).apply d = (inv.apply d).apply c := by
  simp only [apply, Call.onUsers_of_onSections h.left, Call.onUsers_of_onSections h.right]
  exact congrArg (Inventory.mk inv.users) (funext fun id => (h.onSection_comm _ id _).symm)

end Inventory

end InventoryApp
