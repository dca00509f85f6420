import Mathlib.Data.Multiset.Filter
import InventoryApp.Data.Repository.SectionRepository

/-!
# What a read says, set order aside

A read enumerates to-many sets, whose order is nobody's choice, and sorts by one
field, which leaves ties.  So a read is compared as a `SectionView`: the scalar
fields of a section and the multiset of its products.  `readSection` computes
the view of a record from the tables with no order in sight, and the lemmas
`fetchSectionById_view`, `fetchSections_view` and `fetchProducts_coe` say that
this is what the repositories' reads answer, under every order of enumeration.
What the order leaves of a read is `fetchSectionById_ordered`: the products come
in the order the section's rule names.

`StoredAs` is the relation between an object and the record that stores it with
no default filled in.
-/

namespace InventoryApp

open Lib SectionRepository ProductRepository

/-- A section up to the order of its products. -/
structure SectionView where
  id : UUID
  title : String
  rule : Int
  sortingRule : SortingRule
  products : Multiset Product
  deriving DecidableEq

def Section.view (s : Section) : SectionView :=
  ⟨s.id, s.title, s.rule, s.sortingRule, s.products⟩

/-- Equal views are the same section with its products rearranged. -/
theorem Section.view_eq_iff {s s' : Section} : s.view = s'.view ↔ s.id = s'.id ∧
    s.title = s'.title ∧ s.rule = s'.rule ∧ s.sortingRule = s'.sortingRule ∧
    s.products.Perm s'.products := by
  simp [Section.view]

variable (env : Environment) (g : Graph)

/-- What `mapCDProductsToProducts` makes of one product. -/
def readProduct (r : ObjectID × CDProduct) : Product where
  id := r.2.id.getD (env.uuid r.1)
  title := r.2.title.getD "Unknown"
  picture := r.2.picture.getD "default_image"
  quantity := r.2.quantity.toInt
  remainingDays := r.2.remainingDays.toInt

/-- The product records of a section record. -/
def productRows (k : ObjectID) : List (ObjectID × CDProduct) :=
  g.products.select (fun p => p.«section» = some k)

/-- The section records of a user record. -/
def sectionRows (u : ObjectID) : List (ObjectID × CDSection) :=
  g.sections.select (fun s => s.user = some u)

/-- The view of a section record, or none where the mapping drops it. -/
def readSection (r : ObjectID × CDSection) : Option SectionView := do
  let id ← r.2.id
  let title ← r.2.title
  let sortingRule ← SortingRule.ofRawValue r.2.sortingRule
  return ⟨id, title, r.2.rule.toInt, sortingRule, (productRows g r.1).map (readProduct env)⟩

/-- The view under an id. -/
def readById (id : UUID) : Option SectionView :=
  (SectionRepository.fetchCDSectionById env g id).bind fun k =>
    (g.sections.get? k).bind fun s => readSection env g (k, s)

/-- The views of a user's sections. -/
def readByUser (userId : UUID) : Multiset SectionView :=
  match fetchCDUserById env g userId with
  | none => 0
  | some user => ((sectionRows g user).filterMap (readSection env g) : List SectionView)

theorem mapCDProductsToProducts_eq (rs : List (ObjectID × CDProduct)) :
    mapCDProductsToProducts env rs = rs.map (readProduct env) := rfl

theorem productsOfSection_perm (sets : Arrangement) (k : ObjectID) :
    (g.productsOfSection sets k).Perm (productRows g k) :=
  g.products.enumerate_perm sets _

theorem sectionsOfUser_perm (sets : Arrangement) (u : ObjectID) :
    (g.sectionsOfUser sets u).Perm (sectionRows g u) :=
  g.sections.enumerate_perm sets _

/-! ### Reading one record -/

theorem mapCDSectionToSection_eq_some {sets : Arrangement} {r : ObjectID × CDSection}
    {sec : Section} :
    mapCDSectionToSection env g sets (some r) = some sec ↔
      r.2.id = some sec.id ∧ r.2.title = some sec.title ∧ r.2.rule.toInt = sec.rule ∧
      SortingRule.ofRawValue r.2.sortingRule = some sec.sortingRule ∧
      sec.products = sorted sec.sortingRule.areInIncreasingOrder
        ((g.productsOfSection sets r.1).map (readProduct env)) := by
  obtain ⟨k, s⟩ := r
  simp only [mapCDSectionToSection, Option.bind_eq_bind, Option.bind_some, Int16.ofInt_toInt,
    Option.bind_eq_some_iff, Option.pure_def, Option.some.injEq, mapCDProductsToProducts_eq]
  constructor
  · rintro ⟨id, hid, title, ht, rule, hr, rfl⟩
    exact ⟨hid, ht, rfl, hr, rfl⟩
  · rintro ⟨hid, ht, hrule, hr, hp⟩
    refine ⟨sec.id, hid, sec.title, ht, sec.sortingRule, hr, ?_⟩
    rw [hrule, ← hp]

/-- **The view of a mapped section does not depend on the order of the sets.** -/
theorem mapCDSectionToSection_view (sets : Arrangement) (r : ObjectID × CDSection) :
    (mapCDSectionToSection env g sets (some r)).map Section.view = readSection env g r := by
  ext v
  rw [Option.map_eq_some_iff]
  simp only [mapCDSectionToSection_eq_some, readSection, Option.bind_eq_bind,
    Option.bind_eq_some_iff, Option.pure_def, Option.some.injEq]
  constructor
  · rintro ⟨sec, ⟨hid, ht, hrule, hr, hp⟩, rfl⟩
    refine ⟨sec.id, hid, sec.title, ht, sec.sortingRule, hr, ?_⟩
    have hperm := (perm_sorted sec.sortingRule.areInIncreasingOrder _).trans
      ((productsOfSection_perm g sets r.1).map (readProduct env))
    rw [Section.view, hrule, hp, Multiset.coe_eq_coe.mpr hperm]
  · rintro ⟨id, hid, title, ht, rule, hr, rfl⟩
    have hperm := (perm_sorted rule.areInIncreasingOrder _).trans
      ((productsOfSection_perm g sets r.1).map (readProduct env))
    refine ⟨⟨id, title, r.2.rule.toInt, rule, sorted rule.areInIncreasingOrder
      ((g.productsOfSection sets r.1).map (readProduct env))⟩, ⟨hid, ht, rfl, hr, rfl⟩, ?_⟩
    rw [Section.view, Multiset.coe_eq_coe.mpr hperm]

/-- A section record is read from its own products only. -/
theorem readSection_congr {g g' : Graph} {k : ObjectID} (s : CDSection)
    (h : (productRows g' k).map (readProduct env) = (productRows g k).map (readProduct env)) :
    readSection env g' (k, s) = readSection env g (k, s) := by
  rw [readSection, readSection, h]

theorem readSection_eq_some {k : ObjectID} {s : CDSection} {v : SectionView} :
    readSection env g (k, s) = some v ↔ s.id = some v.id ∧ s.title = some v.title ∧
      SortingRule.ofRawValue s.sortingRule = some v.sortingRule ∧ s.rule.toInt = v.rule ∧
      ((productRows g k).map (readProduct env) : Multiset Product) = v.products := by
  simp only [readSection, Option.bind_eq_bind, Option.bind_eq_some_iff, Option.pure_def,
    Option.some.injEq]
  constructor
  · rintro ⟨id, hid, title, ht, rule, hr, rfl⟩
    exact ⟨hid, ht, hr, rfl, rfl⟩
  · rintro ⟨hid, ht, hr, hrule, hp⟩
    refine ⟨v.id, hid, v.title, ht, v.sortingRule, hr, ?_⟩
    rw [hrule, hp]

theorem SortingRule.rawValue_injective {r r' : SortingRule} (h : r.rawValue = r'.rawValue) :
    r = r' := by
  have := congrArg SortingRule.ofRawValue h
  simpa using this

/-- Only the raw value of a rule decodes to it. -/
theorem SortingRule.ofRawValue_eq_some {raw : Int16} {rule : SortingRule} :
    SortingRule.ofRawValue raw = some rule ↔ raw = rule.rawValue := by
  constructor
  · intro h
    unfold SortingRule.ofRawValue at h
    split_ifs at h with h₀ h₁ h₂ h₃ <;> obtain rfl := Option.some.inj h
    · exact h₀
    · exact h₁
    · exact h₂
    · exact h₃
  · rintro rfl
    exact SortingRule.ofRawValue_rawValue rule

/-- What assigning `updateSection`'s attributes makes of a record's view. -/
theorem readSection_assign {k : ObjectID} {s : CDSection} {v : SectionView} {sec : Section}
    (h : readSection env g (k, s) = some v) (hfit : FitsInt16 sec.rule) :
    readSection env g (k, SectionRepository.assign sec s) = some { v with
      title := sec.title, rule := sec.rule, sortingRule := sec.sortingRule } := by
  obtain ⟨hid, _, _, _, hp⟩ := (readSection_eq_some env g).mp h
  rw [readSection_eq_some]
  exact ⟨hid, rfl, SortingRule.ofRawValue_rawValue _, toInt_ofInt hfit, hp⟩

/-- What assigning a sorting rule makes of a record's view. -/
theorem readSection_sortingRule {k : ObjectID} {s : CDSection} {v : SectionView}
    (h : readSection env g (k, s) = some v) (rule : SortingRule) :
    readSection env g (k, { s with sortingRule := rule.rawValue }) =
      some { v with sortingRule := rule } := by
  obtain ⟨hid, ht, _, hrule, hp⟩ := (readSection_eq_some env g).mp h
  rw [readSection_eq_some]
  exact ⟨hid, ht, SortingRule.ofRawValue_rawValue _, hrule, hp⟩

theorem mapCDSectionToSection_ordered {sets : Arrangement} {r : ObjectID × CDSection}
    {sec : Section} (h : mapCDSectionToSection env g sets (some r) = some sec) :
    sec.sortingRule.Ordered sec.products := by
  obtain ⟨_, _, _, _, hp⟩ := (mapCDSectionToSection_eq_some env g).mp h
  rw [hp]
  exact sec.sortingRule.ordered_sorted _

/-! ### The three reads -/

theorem fetchSectionById_eq (sets : Arrangement) (id : UUID) :
    fetchSectionById env g sets id =
      (SectionRepository.fetchCDSectionById env g id).bind fun k =>
        (g.sections.get? k).bind fun s => mapCDSectionToSection env g sets (some (k, s)) := by
  unfold fetchSectionById
  cases h : SectionRepository.fetchCDSectionById env g id with
  | none => rfl
  | some k =>
    simp only [Option.bind_some]
    cases g.sections.get? k <;> rfl

theorem fetchSectionById_view (sets : Arrangement) (id : UUID) :
    (fetchSectionById env g sets id).map Section.view = readById env g id := by
  simp only [fetchSectionById_eq, readById, Option.map_bind, Function.comp_def,
    mapCDSectionToSection_view]

theorem fetchSectionById_ordered {sets : Arrangement} {id : UUID} {sec : Section}
    (h : fetchSectionById env g sets id = some sec) : sec.sortingRule.Ordered sec.products := by
  rw [fetchSectionById_eq] at h
  simp only [Option.bind_eq_some_iff] at h
  obtain ⟨k, _, s, _, hm⟩ := h
  exact mapCDSectionToSection_ordered env g hm

theorem readById_eq_some {id : UUID} {v : SectionView} : readById env g id = some v ↔
    ∃ k s, SectionRepository.fetchCDSectionById env g id = some k ∧
      g.sections.get? k = some s ∧ readSection env g (k, s) = some v := by
  simp only [readById, Option.bind_eq_some_iff]
  constructor
  · rintro ⟨k, hk, s, hs, hr⟩; exact ⟨k, s, hk, hs, hr⟩
  · rintro ⟨k, s, hk, hs, hr⟩; exact ⟨k, hk, s, hs, hr⟩

theorem id_of_readById {id : UUID} {v : SectionView} (h : readById env g id = some v) :
    v.id = id := by
  obtain ⟨k, s, hk, hs, hr⟩ := (readById_eq_some env g).mp h
  obtain ⟨s', hs', hid⟩ := fetchById_eq_some hk
  obtain rfl := Option.some.inj (hs.symm.trans hs')
  exact Option.some.inj (((readSection_eq_some env g).mp hr).1.symm.trans hid)

/-- The rule a read gives was stored in 16 bits. -/
theorem fits_of_readById {id : UUID} {v : SectionView} (h : readById env g id = some v) :
    FitsInt16 v.rule := by
  obtain ⟨k, s, _, _, hr⟩ := (readById_eq_some env g).mp h
  obtain ⟨_, _, _, hrule, _⟩ := (readSection_eq_some env g).mp hr
  rw [← hrule]
  exact fitsInt16_toInt s.rule

/-- A change of a section record that keeps its id leads no id elsewhere. -/
theorem fetchCDSectionById_modify {g g' : Graph} {k : ObjectID} {f : CDSection → CDSection}
    (hsec : g'.sections = g.sections.modify k f) (hf : ∀ s, (f s).id = s.id) (id : UUID) :
    SectionRepository.fetchCDSectionById env g' id =
      SectionRepository.fetchCDSectionById env g id := by
  rw [SectionRepository.fetchCDSectionById, hsec]
  refine fetchById_mapRows env g.sections (fun i r => ?_) id
  split
  · exact hf r
  · rfl

/-- The view under an id after the section record it resolves to was changed. -/
theorem readById_modify {g g' : Graph} {id : UUID} {k : ObjectID} {s : CDSection}
    {f : CDSection → CDSection}
    (htab : g'.tables = ⟨g.users, g.sections.modify k f, g.products⟩)
    (hf : ∀ s, (f s).id = s.id) (hk : SectionRepository.fetchCDSectionById env g id = some k)
    (hs : g.sections.get? k = some s) :
    readById env g' id = readSection env g (k, f s) := by
  obtain ⟨_, hsec, hp⟩ := Tables.mk.inj htab
  rw [readById, fetchCDSectionById_modify env hsec hf, hk, Option.bind_some, hsec,
    Table.get?_modify_self _ hs, Option.bind_some]
  exact readSection_congr env _ (by rw [productRows, hp]; rfl)

/-- The raw sorting rule in the record under an id. -/
def storedSortingRule (id : UUID) : Option Int16 :=
  (SectionRepository.fetchCDSectionById env g id).bind fun k =>
    (g.sections.get? k).map (·.sortingRule)

theorem storedSortingRule_of_readById {id : UUID} {v : SectionView}
    (h : readById env g id = some v) :
    storedSortingRule env g id = some v.sortingRule.rawValue := by
  obtain ⟨k, s, hk, hs, hr⟩ := (readById_eq_some env g).mp h
  obtain ⟨_, _, hrule, _⟩ := (readSection_eq_some env g).mp hr
  rw [storedSortingRule, hk, Option.bind_some, hs, Option.map_some,
    SortingRule.ofRawValue_eq_some.mp hrule]

/-- What is fetched under one order of enumeration is the view under the id. -/
theorem readById_of_fetch {sets : Arrangement} {id : UUID} {sec : Section}
    (h : fetchSectionById env g sets id = some sec) : readById env g id = some sec.view := by
  rw [← fetchSectionById_view env g sets, h, Option.map_some]

/-- A view under an id is read under every order of enumeration. -/
theorem exists_of_readById {id : UUID} {v : SectionView} (h : readById env g id = some v)
    (sets : Arrangement) : ∃ sec, fetchSectionById env g sets id = some sec ∧ sec.view = v ∧
      sec.sortingRule.Ordered sec.products := by
  rw [← fetchSectionById_view env g sets, Option.map_eq_some_iff] at h
  obtain ⟨sec, hf, hv⟩ := h
  exact ⟨sec, hf, hv, fetchSectionById_ordered env g hf⟩

theorem fetchSections_view (sets : Arrangement) (userId : UUID) :
    ((fetchSections env g sets userId).map Section.view : Multiset SectionView)
      = readByUser env g userId := by
  unfold fetchSections readByUser
  cases fetchCDUserById env g userId with
  | none => rfl
  | some user =>
    simp only [List.map_filterMap, mapCDSectionToSection_view]
    exact Multiset.coe_eq_coe.mpr ((sectionsOfUser_perm g sets user).filterMap _)

theorem fetchProducts_coe (sets : Arrangement) (sectionId : UUID) :
    (fetchProducts env g sets sectionId : Multiset Product) =
      match ProductRepository.fetchCDSectionById env g sectionId with
      | none => 0
      | some k => ((productRows g k).filterMap (fun r => mapCDProductToProduct (some r.2)) :
          List Product) := by
  unfold fetchProducts
  cases ProductRepository.fetchCDSectionById env g sectionId with
  | none => rfl
  | some k => exact Multiset.coe_eq_coe.mpr ((productsOfSection_perm g sets k).filterMap _)

/-! ### Records without a missing field -/

/-- The record stores exactly this product. -/
def Product.StoredAs (p : Product) (r : CDProduct) : Prop :=
  r.id = some p.id ∧ r.title = some p.title ∧ r.picture = some p.picture ∧
    r.quantity.toInt = p.quantity ∧ r.remainingDays.toInt = p.remainingDays

instance (p : Product) (r : CDProduct) : Decidable (p.StoredAs r) :=
  inferInstanceAs (Decidable (_ ∧ _ ∧ _ ∧ _ ∧ _))

/-- The record stores exactly the scalar fields of this section. -/
def Section.StoredAs (s : Section) (r : CDSection) : Prop :=
  r.id = some s.id ∧ r.title = some s.title ∧ r.rule.toInt = s.rule ∧
    r.sortingRule = s.sortingRule.rawValue

theorem Product.StoredAs.readProduct_eq {p : Product} {r : ObjectID × CDProduct}
    (h : p.StoredAs r.2) : readProduct env r = p := by
  obtain ⟨hid, ht, hpic, hq, hd⟩ := h
  rw [readProduct, hid, ht, hpic, hq, hd]
  rfl

theorem Product.StoredAs.mapCDProductToProduct_eq {p : Product} {r : CDProduct}
    (h : p.StoredAs r) : mapCDProductToProduct (some r) = some p := by
  obtain ⟨hid, ht, hpic, hq, hd⟩ := h
  simp [mapCDProductToProduct, hid, ht, hpic, hq, hd]

theorem Product.storedAs_toCD {p : Product} (h : p.Fits) (k : ObjectID) : p.StoredAs (p.toCD k) :=
  ⟨rfl, rfl, rfl, toInt_ofInt h.1, toInt_ofInt h.2⟩

end InventoryApp
