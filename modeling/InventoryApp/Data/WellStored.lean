import InventoryApp.Data.Reads
import InventoryApp.Data.Operations

/-!
# Nothing stored is ever dropped

The two ways to read the products of a section treat a record with a missing
field differently: `fetchProducts` drops it and `fetchSectionById` fills in a
default, with a random id.  A section record with a sorting rule out of range is
dropped without a trace.  None of this happens on a store that the operations
made, because they keep `WellStored`: every record has the fields that reading
it asks for.

`reads_agree` is what follows.  `fetchSections` gives one section for each
section record of the user, and both product reads give exactly the stored
products.
-/

namespace InventoryApp

open Lib SectionRepository ProductRepository

/-- A section record that `mapCDSectionToSection` does not drop. -/
def CDSection.WellStored (s : CDSection) : Prop :=
  (∃ id, s.id = some id) ∧ (∃ title, s.title = some title) ∧
    ∃ rule : SortingRule, s.sortingRule = rule.rawValue

/-- A product record that needs no default and is not dropped. -/
def CDProduct.WellStored (p : CDProduct) : Prop :=
  (∃ id, p.id = some id) ∧ (∃ title, p.title = some title) ∧ ∃ picture, p.picture = some picture

/-- Every record of the store has the fields its readers ask for. -/
structure WellStored (t : Tables) : Prop where
  users : t.users.All (fun u => ∃ id, u.id = some id)
  sections : t.sections.All CDSection.WellStored
  products : t.products.All CDProduct.WellStored

theorem Section.wellStored_toCD (s : Section) (user : ObjectID) : (s.toCD user).WellStored :=
  ⟨⟨_, rfl⟩, ⟨_, rfl⟩, _, rfl⟩

theorem Product.wellStored_toCD (p : Product) (k : ObjectID) : (p.toCD k).WellStored :=
  ⟨⟨_, rfl⟩, ⟨_, rfl⟩, _, rfl⟩

namespace WellStored

variable {g : Graph}

theorem empty : WellStored Graph.empty.tables := ⟨.empty, .empty, .empty⟩

theorem deleteUser (h : WellStored g.tables) (user : ObjectID) :
    WellStored (g.deleteUser user).tables := by
  refine ⟨h.users.erase user, h.sections.mapRows fun _ s hs => ?_, h.products⟩
  unfold CDSection.nullify
  split
  · exact hs
  · exact hs

theorem deleteUsers (h : WellStored g.tables) (users : List ObjectID) :
    WellStored (users.foldl Graph.deleteUser g).tables := by
  induction users generalizing g with
  | nil => exact h
  | cons user users ih => exact ih (h.deleteUser user)

/-- **Every operation keeps the records readable.** -/
theorem effect (env : Environment) (h : WellStored g.tables) (op : Op) :
    WellStored (op.effect env g) := by
  cases op with
  | createUser id name => exact ⟨h.users.insert ⟨_, rfl⟩, h.sections, h.products⟩
  | fetchUser uuid =>
    simp only [Op.effect]
    split
    · exact h
    · exact ⟨h.users.insert ⟨_, rfl⟩, h.sections, h.products⟩
  | updateUser user name => exact ⟨h.users.modify fun _ hu => hu, h.sections, h.products⟩
  | deleteUser user => exact h.deleteUser user
  | removeAllUsers => exact h.deleteUsers _
  | createSection userId sec =>
    simp only [Op.effect]
    split
    · exact h
    · refine ⟨h.users, h.sections.insert (sec.wellStored_toCD _), h.products.insertAll ?_⟩
      intro r hr
      obtain ⟨p, _, rfl⟩ := List.mem_map.mp hr
      exact p.wellStored_toCD _
  | updateSection sec =>
    simp only [Op.effect]
    split
    · exact h
    · exact ⟨h.users, h.sections.modify fun _ hs => ⟨hs.1, ⟨_, rfl⟩, _, rfl⟩, h.products⟩
  | setSectionSortingRule id rule =>
    simp only [Op.effect]
    split
    · exact h
    · exact ⟨h.users, h.sections.modify fun _ hs => ⟨hs.1, hs.2.1, _, rfl⟩, h.products⟩
  | createProduct id product =>
    simp only [Op.effect]
    split
    · exact h
    · exact ⟨h.users, h.sections, h.products.insert (product.wellStored_toCD _)⟩
  | updateProduct product =>
    simp only [Op.effect]
    split
    · exact h
    · exact ⟨h.users, h.sections, h.products.modify fun _ hp => ⟨hp.1, ⟨_, rfl⟩, _, rfl⟩⟩

end WellStored

theorem StoreReachable.wellStored {env : Environment} {st : CoreDataStack}
    (h : StoreReachable env st) : WellStored st.context.tables :=
  (h.invariant env WellStored .empty fun _ op hg => hg.effect env op).2

theorem StoreReachable.saved {env : Environment} {st : CoreDataStack}
    (h : StoreReachable env st) : st.Saved :=
  (h.invariant env WellStored .empty fun _ op hg => hg.effect env op).1

/-! ### Reading well stored records -/

variable (env : Environment) {g : Graph}

theorem storedAs_readProduct {r : ObjectID × CDProduct} (h : r.2.WellStored) :
    (readProduct env r).StoredAs r.2 := by
  obtain ⟨⟨id, hid⟩, ⟨title, ht⟩, picture, hp⟩ := h
  simp [Product.StoredAs, readProduct, hid, ht, hp]

theorem exists_mapCDSectionToSection (sets : Arrangement) {r : ObjectID × CDSection}
    (h : r.2.WellStored) :
    ∃ sec, mapCDSectionToSection env g sets (some r) = some sec ∧ sec.StoredAs r.2 := by
  obtain ⟨⟨id, hid⟩, ⟨title, ht⟩, rule, hrule⟩ := h
  refine ⟨⟨id, title, r.2.rule.toInt, rule, sorted rule.areInIncreasingOrder
    ((g.productsOfSection sets r.1).map (readProduct env))⟩, ?_, hid, ht, rfl, hrule⟩
  rw [mapCDSectionToSection_eq_some]
  exact ⟨hid, ht, rfl, by rw [hrule, SortingRule.ofRawValue_rawValue], rfl⟩

/-- Mapping well stored section records loses none of them. -/
theorem forall₂_filterMap_sections (sets : Arrangement) {rs : List (ObjectID × CDSection)}
    (h : ∀ r ∈ rs, r.2.WellStored) :
    List.Forall₂ (fun (sec : Section) r => sec.StoredAs r.2)
      (rs.filterMap (fun r => mapCDSectionToSection env g sets (some r))) rs := by
  induction rs with
  | nil => exact .nil
  | cons r rs ih =>
    obtain ⟨sec, hm, hs⟩ := exists_mapCDSectionToSection env (g := g) sets (h r List.mem_cons_self)
    simp only [List.filterMap_cons, hm]
    exact .cons hs (ih fun r' hr' => h r' (List.mem_cons_of_mem _ hr'))

theorem forall₂_map_readProduct {rs : List (ObjectID × CDProduct)}
    (h : ∀ r ∈ rs, r.2.WellStored) :
    List.Forall₂ (fun (p : Product) r => p.StoredAs r.2) (rs.map (readProduct env)) rs := by
  induction rs with
  | nil => exact .nil
  | cons r rs ih =>
    exact .cons (storedAs_readProduct env (h r List.mem_cons_self))
      (ih fun r' hr' => h r' (List.mem_cons_of_mem _ hr'))

/-- On well stored products the mapping that drops and the one that fills in agree. -/
theorem filterMap_mapCDProductToProduct {rs : List (ObjectID × CDProduct)}
    (h : ∀ r ∈ rs, r.2.WellStored) :
    rs.filterMap (fun r => mapCDProductToProduct (some r.2)) = rs.map (readProduct env) := by
  rw [← List.filterMap_eq_map]
  refine List.filterMap_congr fun r hr => ?_
  rw [(storedAs_readProduct env (h r hr)).mapCDProductToProduct_eq]
  rfl

theorem WellStored.productRows (h : WellStored g.tables) (k : ObjectID) :
    ∀ r ∈ productRows g k, r.2.WellStored := fun r hr =>
  h.products r.1 r.2 (g.products.get?_eq_some.mpr (g.products.mem_select.mp hr).1)

/-! ### Reading a well stored section -/

section Reads

variable {env}

/-- A stored id is read, as the fields of the record it resolves to. -/
theorem readById_of_wellStored (hw : WellStored g.tables) {k : ObjectID} {s : CDSection} {id : UUID}
    (hk : SectionRepository.fetchCDSectionById env g id = some k)
    (hs : g.sections.get? k = some s) :
    ∃ title rule, s.title = some title ∧ s.sortingRule = SortingRule.rawValue rule ∧
      readById env g id = some ⟨id, title, s.rule.toInt, rule,
        ((productRows g k).map (readProduct env) : List Product)⟩ := by
  obtain ⟨_, ⟨title, ht⟩, rule, hr⟩ := hw.sections k s hs
  obtain ⟨s', hs', hid⟩ := fetchById_eq_some hk
  rw [hs] at hs'
  obtain rfl := Option.some.inj hs'
  refine ⟨title, rule, ht, hr, ?_⟩
  rw [readById, hk, Option.bind_some, hs, Option.bind_some, readSection_eq_some]
  exact ⟨hid, ht, by rw [hr, SortingRule.ofRawValue_rawValue], rfl, rfl⟩

theorem fetchProducts_of_wellStored (hw : WellStored g.tables) {k : ObjectID} {id : UUID}
    (hk : SectionRepository.fetchCDSectionById env g id = some k) (sets : Arrangement) :
    (fetchProducts env g sets id : Multiset Product) =
      ((productRows g k).map (readProduct env) : List Product) := by
  have hk' : ProductRepository.fetchCDSectionById env g id = some k := hk
  rw [fetchProducts_coe, hk']
  exact congrArg _ (filterMap_mapCDProductToProduct env (hw.productRows k))

end Reads

/-! ### The two read paths -/

/-- **The two read paths agree and drop nothing on any reachable store.**
`fetchSections` answers with one section for each section record of the user,
and both reads of a stored section's products answer with the stored products. -/
theorem reads_agree {st : CoreDataStack} (h : StoreReachable env st) :
    (∀ userId sets,
      match fetchCDUserById env st.context userId with
      | none => fetchSections env st.context sets userId = []
      | some user => ∃ rows, rows.Perm (sectionRows st.context user) ∧
          List.Forall₂ (fun (sec : Section) r => sec.StoredAs r.2)
            (fetchSections env st.context sets userId) rows) ∧
    ∀ id, Stored st.context.sections CDSection.id id →
      ∃ k products, SectionRepository.fetchCDSectionById env st.context id = some k ∧
        List.Forall₂ (fun (p : Product) r => p.StoredAs r.2) products (productRows st.context k) ∧
        ∀ sets sets', (fetchProducts env st.context sets id).Perm products ∧
          ∃ sec, fetchSectionById env st.context sets' id = some sec ∧
            sec.products.Perm products := by
  have hw := h.wellStored
  refine ⟨?_, ?_⟩
  · intro userId sets
    unfold fetchSections
    cases fetchCDUserById env st.context userId with
    | none => rfl
    | some user =>
      refine ⟨st.context.sectionsOfUser sets user, sectionsOfUser_perm _ sets user,
        forall₂_filterMap_sections env sets fun r hr => ?_⟩
      have hm := (st.context.sections.mem_enumerate.mp hr).1
      exact hw.sections r.1 r.2 (st.context.sections.get?_eq_some.mpr hm)
  · intro id hid
    obtain ⟨k, hk⟩ := exists_fetchById env hid
    obtain ⟨s, hs, _⟩ := fetchById_eq_some hk
    obtain ⟨_, _, _, _, hread⟩ := readById_of_wellStored hw hk hs
    refine ⟨k, (productRows st.context k).map (readProduct env), hk,
      forall₂_map_readProduct env (hw.productRows k), fun sets sets' => ⟨?_, ?_⟩⟩
    · exact Multiset.coe_eq_coe.mp (fetchProducts_of_wellStored hw hk sets)
    · obtain ⟨sec, hsec, hview, _⟩ := exists_of_readById env st.context hread sets'
      exact ⟨sec, hsec, Multiset.coe_eq_coe.mp (congrArg SectionView.products hview)⟩

/-- Two users and their sections, after the first user was deleted. -/
theorem reads_agree_afterDelete :
    let ops : List Op := [.createUser 7 "Ray", .createUser 8 "May",
      .createSection 7 ⟨9, "fridge", 30, .oldestToNewest, [⟨1, "egg", "egg", 2, 11⟩]⟩,
      .createSection 8 ⟨10, "freezer", 90, .quantityLowToHigh, [⟨2, "peas", "peas", 3, 40⟩]⟩,
      .createSection 8 ⟨11, "pantry", 60, .newestToOldest, []⟩,
      .createProduct 9 ⟨3, "milk", "milk", 1, 3⟩, .deleteUser 0]
    ∃ st, Run (Step default) (.launch .empty) ops st ∧
      (∀ sets, fetchSections default st.context sets 7 = [] ∧
        (fetchSections default st.context sets 8).length = 2 ∧
        ∃ rows, rows.Perm (sectionRows st.context 1) ∧
          List.Forall₂ (fun (sec : Section) r => sec.StoredAs r.2)
            (fetchSections default st.context sets 8) rows) ∧
      ∃ products, ∀ sets sets', (fetchProducts default st.context sets 9).Perm products ∧
        ∃ sec, fetchSectionById default st.context sets' 9 = some sec ∧
          sec.products.Perm products := by
  intro ops
  let st := final (execAll default ops) (.launch .empty)
  have hrun : Run (Step default) (.launch .empty) ops st := run_final default (by decide) rfl
  obtain ⟨husers, hsections⟩ := reads_agree default ⟨ops, hrun⟩
  have hstored : Stored st.context.sections CDSection.id 9 := by decide +kernel
  have hgone : fetchCDUserById default st.context 7 = none := by decide +kernel
  have huser : fetchCDUserById default st.context 8 = some 1 := by decide +kernel
  have hlength : (sectionRows st.context 1).length = 2 := by decide +kernel
  clear_value st
  refine ⟨st, hrun, ?_, ?_⟩
  · intro sets
    have hnone := husers 7 sets
    have hsome := husers 8 sets
    rw [hgone] at hnone
    rw [huser] at hsome
    obtain ⟨rows, hperm, hreads⟩ := hsome
    refine ⟨hnone, ?_, rows, hperm, hreads⟩
    rw [hreads.length_eq, hperm.length_eq, hlength]
  · obtain ⟨_, products, _, _, hreads⟩ := hsections 9 hstored
    exact ⟨products, hreads⟩

end InventoryApp
