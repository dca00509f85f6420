import InventoryApp.Data.Identity
import InventoryApp.Data.Ownership

/-!
# What an update changes, and what it leaves

The three updates write one record each, which they find by its id.  What a
caller sees of that is said in terms of the reads: `ReadsBecome id change` is the
read of the section `id`, before and after, and `UnchangedBut id change` is every
other read, of which only those of its user list the section, with the same change.
Both are derived from one fact about the tables, `ChangesOnly k`: outside the
section record `k` and its products nothing moved.

`updates_frame` is the theorem about the three calls.  It is about stores whose
records were created under new ids: there a look-up by id finds the one record
that has it, so the write lands in the section it was meant for.
-/

namespace InventoryApp

open Lib SectionRepository ProductRepository

/-- The product with this id is a product of the section with that id. -/
def StoredIn (g : Graph) (productId sectionId : UUID) : Prop :=
  ∃ k p i s, g.products.get? k = some p ∧ p.id = some productId ∧ p.«section» = some i ∧
    g.sections.get? i = some s ∧ s.id = some sectionId

variable (env : Environment)

/-- The section `id` is read as before with `change` applied, its products in order. -/
def ReadsBecome (id : UUID) (change : SectionView → SectionView) (g g' : Graph) : Prop :=
  ∀ sets, ∃ old, fetchSectionById env g sets id = some old ∧ ∀ sets',
    (∃ new, fetchSectionById env g' sets' id = some new ∧ new.view = change old.view ∧
      new.sortingRule.Ordered new.products) ∧
    (fetchProducts env g' sets' id : Multiset Product) = (change old.view).products

/-- Every other read is as before, or lists the section `id` with `change` applied. -/
structure UnchangedBut (id : UUID) (change : SectionView → SectionView) (g g' : Graph) : Prop where
  sectionById : ∀ other, other ≠ id → ∀ sets sets',
    (fetchSectionById env g' sets' other).map Section.view =
      (fetchSectionById env g sets other).map Section.view
  products : ∀ other, other ≠ id → ∀ sets sets',
    (fetchProducts env g' sets' other).Perm (fetchProducts env g sets other)
  sections : ∀ userId sets sets',
    ((fetchSections env g' sets' userId).map Section.view : Multiset SectionView) =
      ((fetchSections env g sets userId).map Section.view : Multiset SectionView).map
        (fun v => if v.id = id then change v else v)

/-- The reads show one change, and it is `change` of the section `id`. -/
def ShowsChange (id : UUID) (change : SectionView → SectionView) (g g' : Graph) : Prop :=
  ReadsBecome env id change g g' ∧ UnchangedBut env id change g g'

/-- Nothing moved but the attributes of the section record `k` and its products. -/
structure ChangesOnly (k : ObjectID) (g g' : Graph) : Prop where
  users : g'.users = g.users
  sections : ∃ f, g'.sections = g.sections.modify k f ∧
    ∀ s, (f s).id = s.id ∧ (f s).user = s.user
  products : ∀ i, i ≠ k → productRows g' i = productRows g i

namespace ChangesOnly

variable {env} {k : ObjectID} {g g' : Graph} (h : ChangesOnly k g g')

include h

theorem fetchCDSectionById_eq (id : UUID) :
    SectionRepository.fetchCDSectionById env g' id =
      SectionRepository.fetchCDSectionById env g id := by
  obtain ⟨f, hs, hf⟩ := h.sections
  unfold SectionRepository.fetchCDSectionById
  rw [hs]
  refine fetchById_mapRows env g.sections (fun i s => ?_) id
  split
  · exact (hf s).1
  · rfl

theorem get?_sections_of_ne {i : ObjectID} (hi : i ≠ k) :
    g'.sections.get? i = g.sections.get? i := by
  obtain ⟨f, hs, _⟩ := h.sections
  rw [hs, Table.get?_modify_of_ne _ hi]

theorem readSection_of_ne {i : ObjectID} (hi : i ≠ k) (s : CDSection) :
    readSection env g' (i, s) = readSection env g (i, s) :=
  readSection_congr env s (by rw [h.products i hi])

variable {s : CDSection} {id : UUID} (hs : g.sections.get? k = some s) (hid : s.id = some id)

include hs hid

/-- Another id does not resolve to the record that changed. -/
theorem ne_of_fetch {other : UUID} (hother : other ≠ id) {i : ObjectID}
    (hi : SectionRepository.fetchCDSectionById env g other = some i) : i ≠ k := by
  rintro rfl
  obtain ⟨r, hr, hrid⟩ := fetchById_eq_some hi
  rw [hs] at hr
  obtain rfl := Option.some.inj hr
  exact hother (Option.some.inj (hrid.symm.trans hid))

theorem readById_other {other : UUID} (hother : other ≠ id) :
    readById env g' other = readById env g other := by
  rw [readById, readById, h.fetchCDSectionById_eq]
  refine Option.bind_congr fun i hi => ?_
  have hne := h.ne_of_fetch hs hid hother hi
  rw [h.get?_sections_of_ne hne]
  exact Option.bind_congr fun r _ => h.readSection_of_ne hne r

variable (hsections : g.sections.Distinct CDSection.id) {change : SectionView → SectionView}
  (hread : readById env g' id = (readById env g id).map change)

include hsections hread

/-- A user's read lists the section of the record with the change, and the others as before. -/
theorem readByUser_eq (userId : UUID) :
    readByUser env g' userId =
      (readByUser env g userId).map (fun v => if v.id = id then change v else v) := by
  obtain ⟨f, hsec, hf⟩ := h.sections
  have hk : SectionRepository.fetchCDSectionById env g id = some k :=
    fetchById_of_distinct hsections hs hid
  have hself : readSection env g' (k, f s) = (readSection env g (k, s)).map change := by
    rw [readById, readById, h.fetchCDSectionById_eq, hk, Option.bind_some, Option.bind_some, hsec,
      Table.get?_modify_self _ hs, hs, Option.bind_some, Option.bind_some] at hread
    exact hread
  have hfetch : fetchCDUserById env g' userId = fetchCDUserById env g userId := by
    rw [fetchCDUserById, h.users]; rfl
  unfold readByUser
  rw [hfetch]
  cases fetchCDUserById env g userId with
  | none => rfl
  | some user =>
    have hrows : sectionRows g' user =
        (sectionRows g user).map (fun r => (r.1, if r.1 = k then f r.2 else r.2)) := by
      rw [sectionRows, hsec]
      refine g.sections.select_mapRows fun r _ => ?_
      split
      · rw [(hf r.2).2]
      · rfl
    simp only [hrows, List.filterMap_map, Multiset.map_coe, List.map_filterMap]
    refine congrArg _ (List.filterMap_congr fun row hr => ?_)
    obtain ⟨i, r⟩ := row
    have hget := g.sections.get?_eq_some.mpr (g.sections.mem_select.mp hr).1
    simp only [Function.comp_apply]
    by_cases hi : i = k
    · subst hi
      obtain rfl := Option.some.inj (hs.symm.trans hget)
      rw [if_pos rfl, hself]
      refine Option.map_congr fun v hv => (if_pos ?_).symm
      exact Option.some.inj (((readSection_eq_some env g).mp hv).1.symm.trans hid)
    · rw [if_neg hi, h.readSection_of_ne hi]
      refine Option.map_id'.symm.trans
        (Option.map_congr fun v hv => (if_neg fun hvid => hi ?_).symm)
      -- another record with the id would be the one that changed
      exact hsections i r k s id hget hs (hvid ▸ ((readSection_eq_some env g).mp hv).1) hid

/-- **Nothing but the section `id` is read differently.** -/
theorem unchangedBut : UnchangedBut env id change g g' where
  sectionById other hother sets sets' := by
    rw [fetchSectionById_view, fetchSectionById_view, h.readById_other hs hid hother]
  products other hother sets sets' := by
    refine Multiset.coe_eq_coe.mp ?_
    rw [fetchProducts_coe, fetchProducts_coe]
    have hfetch : ProductRepository.fetchCDSectionById env g' other =
        ProductRepository.fetchCDSectionById env g other := h.fetchCDSectionById_eq other
    rw [hfetch]
    cases hi : ProductRepository.fetchCDSectionById env g other with
    | none => rfl
    | some i => simp only [h.products i (h.ne_of_fetch hs hid hother hi)]
  sections userId sets sets' := by
    rw [fetchSections_view, fetchSections_view, h.readByUser_eq hs hid hsections hread]

end ChangesOnly

variable {env} {g g' : Graph}

/-! ### What the reads become -/

/-- What the read becomes follows from the record and its products before and after. -/
theorem readsBecome_of_rows (hw : WellStored g.tables) (hw' : WellStored g'.tables) {k : ObjectID}
    {id : UUID} {change : SectionView → SectionView}
    (hk : SectionRepository.fetchCDSectionById env g id = some k)
    (hk' : SectionRepository.fetchCDSectionById env g' id = some k)
    (hread : readById env g' id = (readById env g id).map change) :
    ReadsBecome env id change g g' := by
  intro sets
  obtain ⟨s, hs, _⟩ := fetchById_eq_some hk
  obtain ⟨s', hs', _⟩ := fetchById_eq_some hk'
  obtain ⟨_, _, _, _, hv⟩ := readById_of_wellStored hw hk hs
  obtain ⟨_, _, _, _, hv'⟩ := readById_of_wellStored hw' hk' hs'
  obtain ⟨old, hold, holdview, _⟩ := exists_of_readById env g hv sets
  rw [hv, hv', Option.map_some] at hread
  refine ⟨old, hold, fun sets' => ⟨?_, ?_⟩⟩
  · obtain ⟨new, hnew, hnewview, hord⟩ := exists_of_readById env g' hv' sets'
    exact ⟨new, hnew, by rw [hnewview, holdview]; exact Option.some.inj hread, hord⟩
  · rw [fetchProducts_of_wellStored hw' hk', holdview, ← Option.some.inj hread]

/-! ### Writing a section record -/

/-- Assigning attributes of a section record changes the read of that section only. -/
theorem section_update {k : ObjectID} {id : UUID} {f : CDSection → CDSection}
    {change : SectionView → SectionView} (hw : WellStored g.tables) (hw' : WellStored g'.tables)
    (hsections : g.sections.Distinct CDSection.id)
    (hk : SectionRepository.fetchCDSectionById env g id = some k)
    (htab : g'.tables = ⟨g.users, g.sections.modify k f, g.products⟩)
    (hf : ∀ s, (f s).id = s.id ∧ (f s).user = s.user)
    (hchange : ∀ s v, readSection env g (k, s) = some v →
      readSection env g (k, f s) = some (change v)) : ShowsChange env id change g g' := by
  obtain ⟨hu, hsec, hp⟩ := Tables.mk.inj htab
  obtain ⟨s, hs, hid⟩ := fetchById_eq_some hk
  have honly : ChangesOnly k g g' :=
    ⟨hu, ⟨f, hsec, hf⟩, fun i _ => by rw [productRows, hp]; rfl⟩
  have hk' : SectionRepository.fetchCDSectionById env g' id = some k := by
    rw [honly.fetchCDSectionById_eq, hk]
  obtain ⟨_, _, _, _, hv⟩ := readById_of_wellStored hw hk hs
  obtain ⟨k', s', hk₂, hs₂, hread⟩ := (readById_eq_some env g).mp hv
  obtain rfl := Option.some.inj (hk.symm.trans hk₂)
  obtain rfl := Option.some.inj (hs.symm.trans hs₂)
  have hbecome : readById env g' id = (readById env g id).map change := by
    rw [readById_modify env htab (fun s => (hf s).1) hk hs, hchange s _ hread, hv, Option.map_some]
  exact ⟨readsBecome_of_rows hw hw' hk hk' hbecome,
    honly.unchangedBut hs hid hsections hbecome⟩

/-! ### Writing a product record -/

/-- A row of a section with a product's object id is the row of that product. -/
theorem eq_of_mem_productRows {k j : ObjectID} {r : CDProduct} (hr : g.products.get? k = some r)
    {q : ObjectID × CDProduct} (hq : q ∈ productRows g j) (hqk : q.1 = k) : q = (k, r) := by
  have hget := g.products.get?_eq_some.mpr (g.products.mem_select.mp hq).1
  rw [hqk, hr] at hget
  exact Prod.ext hqk (Option.some.inj hget).symm

section ProductWrite

variable {p : Product} {k : ObjectID}

/-- The written product stays in its section. -/
theorem productRows_write
    (hp : g'.products = g.products.modify k (ProductRepository.assign p)) (j : ObjectID) :
    productRows g' j = (productRows g j).map (fun q =>
      (q.1, if q.1 = k then ProductRepository.assign p q.2 else q.2)) := by
  rw [productRows, hp]
  refine g.products.select_mapRows fun q _ => ?_
  split <;> rfl

variable {i : ObjectID} {r : CDProduct} (hr : g.products.get? k = some r)

include hr

theorem changesOnly_write (hri : r.«section» = some i)
    (htab : g'.tables = ⟨g.users, g.sections, g.products.modify k (ProductRepository.assign p)⟩) :
    ChangesOnly i g g' := by
  obtain ⟨hu, hsec, hp⟩ := Tables.mk.inj htab
  refine ⟨hu, ⟨fun s => s, by rw [hsec, Table.modify_id], fun s => ⟨rfl, rfl⟩⟩, ?_⟩
  intro j hj
  rw [productRows_write hp j]
  refine (List.map_congr_left fun q hq => ?_).trans (List.map_id _)
  have hqk : q.1 ≠ k := by
    intro hqk
    have hsel := (g.products.mem_select.mp hq).2
    rw [eq_of_mem_productRows hr hq hqk] at hsel
    simp only [hri, Option.some.injEq, decide_eq_true_eq] at hsel
    exact hj hsel.symm
  rw [if_neg hqk]
  rfl

/-- The written record reads as the product, and every other one has another id. -/
theorem readProduct_write (hfit : p.Fits) (hw : WellStored g.tables)
    (hproducts : g.products.Distinct CDProduct.id) (hrid : r.id = some p.id)
    {q : ObjectID × CDProduct} (hq : q ∈ productRows g i) :
    readProduct env (q.1, if q.1 = k then ProductRepository.assign p q.2 else q.2) =
      p.replace (readProduct env q) := by
  have hqid := (storedAs_readProduct env (hw.productRows i q hq)).1
  by_cases hqk : q.1 = k
  · have hq' := eq_of_mem_productRows hr hq hqk
    rw [if_pos hqk, Product.replace, if_pos]
    · exact Product.StoredAs.readProduct_eq env ⟨by rw [hq']; exact hrid, rfl, rfl,
        toInt_ofInt hfit.1, toInt_ofInt hfit.2⟩
    · rw [hq', hrid] at hqid
      rw [hq']
      exact (Option.some.inj hqid).symm
  · rw [if_neg hqk, Product.replace, if_neg]
    intro he
    rw [he] at hqid
    exact hqk (hproducts q.1 q.2 k r p.id
      (g.products.get?_eq_some.mpr (g.products.mem_select.mp hq).1) hr hqid hrid)

/-- Writing the product of an id replaces it in its section's read. -/
theorem product_update {s : CDSection} {id : UUID} (hfit : p.Fits) (hw : WellStored g.tables)
    (hw' : WellStored g'.tables) (hsections : g.sections.Distinct CDSection.id)
    (hproducts : g.products.Distinct CDProduct.id) (hrid : r.id = some p.id)
    (hri : r.«section» = some i) (hs : g.sections.get? i = some s) (hid : s.id = some id)
    (htab : g'.tables = ⟨g.users, g.sections, g.products.modify k (ProductRepository.assign p)⟩) :
    ShowsChange env id (fun v => { v with products := v.products.map p.replace }) g g' := by
  obtain ⟨_, hsec, hp⟩ := Tables.mk.inj htab
  have honly : ChangesOnly i g g' := changesOnly_write hr hri htab
  have hk : SectionRepository.fetchCDSectionById env g id = some i :=
    fetchById_of_distinct hsections hs hid
  have hk' : SectionRepository.fetchCDSectionById env g' id = some i := by
    rw [honly.fetchCDSectionById_eq, hk]
  obtain ⟨title, rule, ht, hrule, hv⟩ := readById_of_wellStored hw hk hs
  obtain ⟨title', rule', ht', hrule', hv'⟩ :=
    readById_of_wellStored hw' hk' (by rw [hsec, hs])
  rw [ht] at ht'
  rw [hrule] at hrule'
  obtain rfl := Option.some.inj ht'
  obtain rfl := SortingRule.rawValue_injective hrule'
  have hbecome : readById env g' id = (readById env g id).map
      (fun v => { v with products := v.products.map p.replace }) := by
    rw [hv, hv', productRows_write hp, Option.map_some, Multiset.map_coe, List.map_map,
      List.map_map]
    refine congrArg (fun l : List Product => some (SectionView.mk id title s.rule.toInt rule l))
      (List.map_congr_left fun q hq => ?_)
    exact readProduct_write hr hfit hw hproducts hrid hq
  exact ⟨readsBecome_of_rows hw hw' hk hk' hbecome,
    honly.unchangedBut hs hid hsections hbecome⟩

end ProductWrite

/-- A section's read lists a product of it once. -/
theorem countP_readProduct {k i : ObjectID} {r : CDProduct} {id : UUID} (hw : WellStored g.tables)
    (hproducts : g.products.Distinct CDProduct.id) (hr : g.products.get? k = some r)
    (hrid : r.id = some id) (hri : r.«section» = some i) :
    ((productRows g i).map (readProduct env)).countP (·.id = id) = 1 := by
  have hkey : ∀ q ∈ productRows g i, (readProduct env q).id = id ↔ q.1 = k := by
    intro q hq
    have hget := g.products.get?_eq_some.mpr (g.products.mem_select.mp hq).1
    have hqid := (storedAs_readProduct env (hw.productRows i q hq)).1
    constructor
    · intro he
      rw [he] at hqid
      exact hproducts q.1 q.2 k r id hget hr hqid hrid
    · intro hqk
      rw [hqk, hr] at hget
      rw [← Option.some.inj hget, hrid] at hqid
      exact (Option.some.inj hqid).symm
  have hmem : k ∈ (productRows g i).map Prod.fst :=
    List.mem_map.mpr ⟨(k, r), g.products.mem_select.mpr
      ⟨g.products.get?_eq_some.mp hr, by simp [hri]⟩, rfl⟩
  calc ((productRows g i).map (readProduct env)).countP (·.id = id)
      = (productRows g i).countP (fun q => q.1 == k) := by
        rw [List.countP_map]
        refine List.countP_congr fun q hq => ?_
        simpa using hkey q hq
    _ = ((productRows g i).map Prod.fst).count k := by rw [List.count, List.countP_map]; rfl
    _ = 1 := List.count_eq_one_of_mem (g.products.nodup_select_keys _) hmem

/-! ### The three updates -/

/-- A call in range commits its effect, on a store that stays readable; one without
an effect changes nothing. -/
theorem exists_commit {st : CoreDataStack} (h : StoreReachable env st) {op : Op} (hfit : op.Fits) :
    ∃ g', (exec env op).run st = .ok () (st.commit g') ∧
      g'.tables = op.effect env st.context ∧ WellStored g'.tables ∧
      (op.effect env st.context = st.context.tables → st.commit g' = st) := by
  obtain ⟨g', hrun, htab⟩ := exec_ok env (hfit.returns _) h.saved
  refine ⟨g', hrun, htab, htab ▸ h.wellStored.effect env op, ?_⟩
  intro hsame
  rw [Graph.tables_inj.mp (htab.trans hsame), CoreDataStack.commit_self h.saved]

theorem updateProduct_spec {st : CoreDataStack} (h : FreshReachable env st) {p : Product}
    (hfit : p.Fits) : ∃ st', (updateProduct env p).run st = .ok () st' ∧
      (¬ Stored st.context.products CDProduct.id p.id → st' = st) ∧
      ∀ id, StoredIn st.context p.id id →
        (∀ sets old, fetchSectionById env st.context sets id = some old →
          old.products.countP (·.id = p.id) = 1) ∧
        ShowsChange env id (fun v => { v with products := v.products.map p.replace })
          st.context st'.context := by
  obtain ⟨hsections, hproducts⟩ := h.distinct
  have hw := h.storeReachable.wellStored
  obtain ⟨g', hrun, htab, hw', hsame⟩ :=
    exists_commit h.storeReachable (show (Op.updateProduct p).Fits from hfit)
  refine ⟨st.commit g', hrun, fun hnot => hsame ?_, ?_⟩
  · have hnone : ProductRepository.fetchCDProductById env st.context p.id = none :=
      fetchById_eq_none.mpr hnot
    simp only [Op.effect, hnone]
  · rintro id ⟨k, r, i, s, hr, hrid, hri, hs, hid⟩
    have hk : ProductRepository.fetchCDProductById env st.context p.id = some k :=
      fetchById_of_distinct hproducts hr hrid
    simp only [Op.effect, hk] at htab
    rw [CoreDataStack.context_commit]
    refine ⟨?_,
      product_update hr hfit hw hw' hsections hproducts hrid hri hs hid htab⟩
    intro sets old hold
    obtain ⟨_, _, _, _, hv⟩ :=
      readById_of_wellStored hw (fetchById_of_distinct hsections hs hid) hs
    have hview := readById_of_fetch env st.context hold
    rw [hv] at hview
    have hperm : old.products.Perm ((productRows st.context i).map (readProduct env)) :=
      Multiset.coe_eq_coe.mp (congrArg SectionView.products (Option.some.inj hview).symm)
    rw [hperm.countP_eq, countP_readProduct hw hproducts hr hrid hri]

/-- A call that assigns attributes of the section record with an id. -/
theorem sectionWrite_spec {st : CoreDataStack} (h : FreshReachable env st) {op : Op}
    (hfit : op.Fits) {id : UUID} {f : CDSection → CDSection} {change : SectionView → SectionView}
    (heffect : op.effect env st.context =
      match SectionRepository.fetchCDSectionById env st.context id with
      | none => st.context.tables
      | some k => ⟨st.context.users, st.context.sections.modify k f, st.context.products⟩)
    (hf : ∀ s, (f s).id = s.id ∧ (f s).user = s.user)
    (hchange : ∀ k s v, readSection env st.context (k, s) = some v →
      readSection env st.context (k, f s) = some (change v)) :
    ∃ st', (exec env op).run st = .ok () st' ∧
      (¬ Stored st.context.sections CDSection.id id → st' = st) ∧
      (Stored st.context.sections CDSection.id id →
        ShowsChange env id change st.context st'.context) := by
  have hreach := h.storeReachable
  obtain ⟨g', hrun, htab, hw', hsame⟩ := exists_commit hreach hfit
  refine ⟨st.commit g', hrun, fun hnot => hsame ?_, ?_⟩
  · have hnone : SectionRepository.fetchCDSectionById env st.context id = none :=
      fetchById_eq_none.mpr hnot
    simp only [heffect, hnone]
  · intro hstored
    obtain ⟨k, hk⟩ := exists_fetchById env hstored
    have hk' : SectionRepository.fetchCDSectionById env st.context id = some k := hk
    simp only [heffect, hk'] at htab
    rw [CoreDataStack.context_commit]
    exact section_update hreach.wellStored hw' h.distinct.1 hk' htab hf (hchange k)

theorem updateSection_spec {st : CoreDataStack} (h : FreshReachable env st) {sec : Section}
    (hfit : FitsInt16 sec.rule) : ∃ st', (updateSection env sec).run st = .ok () st' ∧
      (¬ Stored st.context.sections CDSection.id sec.id → st' = st) ∧
      (Stored st.context.sections CDSection.id sec.id →
        ShowsChange env sec.id (fun v => { v with
          title := sec.title, rule := sec.rule, sortingRule := sec.sortingRule })
          st.context st'.context) :=
  sectionWrite_spec h (show (Op.updateSection sec).Fits from hfit) rfl (fun _ => ⟨rfl, rfl⟩)
    fun _ _ _ hread => readSection_assign env _ hread hfit

theorem setSectionSortingRule_spec {st : CoreDataStack} (h : FreshReachable env st) (id : UUID)
    (rule : SortingRule) : ∃ st', (setSectionSortingRule env id rule).run st = .ok () st' ∧
      (¬ Stored st.context.sections CDSection.id id → st' = st) ∧
      (Stored st.context.sections CDSection.id id →
        ShowsChange env id (fun v => { v with sortingRule := rule }) st.context st'.context) :=
  sectionWrite_spec h (show (Op.setSectionSortingRule id rule).Fits from trivial) rfl
    (fun _ => ⟨rfl, rfl⟩) fun _ _ _ hread => readSection_sortingRule env _ hread rule

/-- **Updates are read back and touch nothing else.**  In a store whose sections
and products were created under new ids, ids are unique.  `updateProduct`
replaces the one product with the id in the read of its section, `updateSection`
and `setSectionSortingRule` change the scalar fields they write and the order,
each leaves every other read as it was, and an id that is not stored changes
nothing. -/
theorem updates_frame {st : CoreDataStack} (h : FreshReachable env st) :
    (st.context.sections.Distinct CDSection.id ∧ st.context.products.Distinct CDProduct.id ∧
      (Reachable (fun s op s' => op.FreshUser s.context ∧ Step env s op s')
        (.launch .empty) st → st.context.users.Distinct CDUser.id)) ∧
    (∀ p : Product, p.Fits → ∃ st', (updateProduct env p).run st = .ok () st' ∧
      (¬ Stored st.context.products CDProduct.id p.id → st' = st) ∧
      (Stored st.context.products CDProduct.id p.id → ∃ id, StoredIn st.context p.id id) ∧
      ∀ id, StoredIn st.context p.id id →
        (∀ sets old, fetchSectionById env st.context sets id = some old →
          old.products.countP (·.id = p.id) = 1) ∧
        ShowsChange env id (fun v => { v with products := v.products.map p.replace })
          st.context st'.context) ∧
    (∀ sec : Section, FitsInt16 sec.rule → ∃ st', (updateSection env sec).run st = .ok () st' ∧
      (¬ Stored st.context.sections CDSection.id sec.id → st' = st) ∧
      (Stored st.context.sections CDSection.id sec.id →
        ShowsChange env sec.id (fun v => { v with
          title := sec.title, rule := sec.rule, sortingRule := sec.sortingRule })
          st.context st'.context)) ∧
    ∀ id rule, ∃ st', (setSectionSortingRule env id rule).run st = .ok () st' ∧
      (¬ Stored st.context.sections CDSection.id id → st' = st) ∧
      (Stored st.context.sections CDSection.id id →
        ShowsChange env id (fun v => { v with sortingRule := rule }) st.context st'.context) := by
  have hreach := h.storeReachable
  obtain ⟨hsections, hproducts⟩ := h.distinct
  refine ⟨⟨hsections, hproducts, distinct_users⟩, ?_,
    fun sec hfit => updateSection_spec h hfit, setSectionSortingRule_spec h⟩
  intro p hfit
  obtain ⟨st', hrun, hnot, hspec⟩ := updateProduct_spec h hfit
  refine ⟨st', hrun, hnot, ?_, hspec⟩
  rintro ⟨k, r, hr, hrid⟩
  obtain ⟨i, hi⟩ := hreach.products_owned k r hr
  obtain ⟨s, hs⟩ := st.context.sections.mem_keys_iff_get?.mp
    (st.context.section_live _ (st.context.products.get?_eq_some.mp hr) i hi)
  obtain ⟨⟨id, hid⟩, _⟩ := hreach.wellStored.sections i s hs
  exact ⟨id, k, r, i, s, hr, hrid, hi, hs, hid⟩

/-- Two sections, one of which has the product that is updated. -/
theorem updates_frame_moreEggs :
    let eggs : Product := ⟨1, "egg", "egg", 5, 11⟩
    let ops : List Op := [.createUser 7 "Ray",
      .createSection 7 ⟨9, "fridge", 30, .oldestToNewest, [{ eggs with quantity := 2 }]⟩,
      .createSection 7 ⟨10, "freezer", 90, .quantityLowToHigh, [⟨2, "milk", "milk", 1, 3⟩]⟩]
    ∃ st st', Run (FreshStep default) (.launch .empty) ops st ∧
      (updateProduct default eggs).run st = .ok () st' ∧
      ShowsChange default 9 (fun v => { v with products := v.products.map eggs.replace })
        st.context st'.context := by
  intro eggs ops
  let st₀ := CoreDataStack.launch .empty
  let st₁ := final (exec default (ops.get 0)) st₀
  let st₂ := final (exec default (ops.get 1)) st₁
  let st₃ := final (exec default (ops.get 2)) st₂
  have saved₀ : st₀.Saved := rfl
  have h₁ : Step default st₀ (ops.get 0) st₁ := step_final default (by decide) saved₀
  have saved₁ := (step_cases default saved₀ h₁).1
  have h₂ : Step default st₁ (ops.get 1) st₂ := step_final default (by decide) saved₁
  have saved₂ := (step_cases default saved₁ h₂).1
  have h₃ : Step default st₂ (ops.get 2) st₃ := step_final default (by decide) saved₂
  have hrun : Run (FreshStep default) st₀ ops st₃ :=
    .cons ⟨by decide, h₁⟩ (.cons ⟨by decide, h₂⟩ (.cons ⟨by decide, h₃⟩ (.nil st₃)))
  obtain ⟨_, hupdate, _⟩ := updates_frame ⟨ops, hrun⟩
  obtain ⟨st', hst', _, _, hspec⟩ := hupdate eggs (by decide)
  obtain ⟨_, hshows⟩ := hspec 9 ⟨0, ⟨some 1, some "egg", 2, 11, some "egg", some 0⟩, 0,
    ⟨some 9, 30, 1, some "fridge", some 0⟩, by decide, rfl, rfl, by decide, rfl⟩
  exact ⟨st₃, st', hrun, hst', hshows⟩

end InventoryApp
