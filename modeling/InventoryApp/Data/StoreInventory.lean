import InventoryApp.Data.Ownership
import InventoryApp.Data.Refinement

/-!
# Runs of the store are runs of the inventory

`NewIdStep` is a call that returns and creates every record, users included, under
a new id, and such calls keep a context `Coherent`.  So `inventory_of_step` holds
at every step of a run, and what a read answers is read off the inventory: this is
`store_refines_inventory`.

The inventory has no objects and no orders, so it does not show in which order two
independent calls were made, and then no read shows it either
(`rearranged_run`), although the objects of the two stores differ.
-/

namespace InventoryApp

open Lib SectionRepository ProductRepository Inventory

variable (env : Environment)

/-- A call that returns and creates records under new ids only. -/
def NewIdStep (st : CoreDataStack) (op : Op) (st' : CoreDataStack) : Prop :=
  op.Fresh st.context ∧ op.FreshUser st.context ∧ Step env st op st'

instance (g : Graph) : (op : Op) → Decidable (op.FreshUser g)
  | .createUser id _ => inferInstanceAs (Decidable (¬ Stored g.users CDUser.id id))
  | .fetchUser uuid => inferInstanceAs (Decidable (¬ Stored g.users CDUser.id uuid))
  | .updateUser _ _ => isTrue trivial
  | .deleteUser _ => isTrue trivial
  | .removeAllUsers => isTrue trivial
  | .createSection _ _ => isTrue trivial
  | .updateSection _ => isTrue trivial
  | .setSectionSortingRule _ _ => isTrue trivial
  | .createProduct _ _ => isTrue trivial
  | .updateProduct _ => isTrue trivial

/-- The stacks that such calls make of the empty store. -/
def NewIdReachable (st : CoreDataStack) : Prop :=
  Reachable (NewIdStep env) (CoreDataStack.launch .empty) st

variable {env}

/-! ### Reachable stores are coherent -/

/-- Every user has a name. -/
theorem StoreReachable.named {st : CoreDataStack} (h : StoreReachable env st) :
    st.context.users.All (fun u => ∃ name, u.name = some name) := by
  have deleted : ∀ (us : List ObjectID) (g : Graph),
      g.users.All (fun u => ∃ name, u.name = some name) →
      (us.foldl Graph.deleteUser g).users.All (fun u => ∃ name, u.name = some name) := by
    intro us
    induction us with
    | nil => exact fun _ h => h
    | cons u us ih => exact fun g h => ih _ (h.erase u)
  refine (h.invariant env (fun t => t.users.All fun u => ∃ name, u.name = some name) .empty
    fun g op hg => ?_).2
  cases op with
  | createUser id name => exact Table.All.insert hg ⟨name, rfl⟩
  | fetchUser uuid =>
    simp only [Op.effect]
    split
    · exact hg
    · exact Table.All.insert hg ⟨"Ray", rfl⟩
  | updateUser user name => exact Table.All.modify hg fun _ _ => ⟨name, rfl⟩
  | deleteUser user => exact Table.All.erase hg user
  | removeAllUsers => exact deleted _ g hg
  | createSection userId sec => simp only [Op.effect]; split <;> exact hg
  | updateSection sec => simp only [Op.effect]; split <;> exact hg
  | setSectionSortingRule id rule => simp only [Op.effect]; split <;> exact hg
  | createProduct id product => simp only [Op.effect]; split <;> exact hg
  | updateProduct product => simp only [Op.effect]; split <;> exact hg

theorem NewIdReachable.freshReachable {st : CoreDataStack} (h : NewIdReachable env st) :
    FreshReachable env st := by
  obtain ⟨ops, hrun⟩ := h
  exact ⟨ops, hrun.mono fun _ _ _ hs => ⟨hs.1, hs.2.2⟩⟩

theorem NewIdReachable.storeReachable {st : CoreDataStack} (h : NewIdReachable env st) :
    StoreReachable env st :=
  h.freshReachable.storeReachable

/-- **Calls that create under new ids keep a store coherent.** -/
theorem NewIdReachable.coherent {st : CoreDataStack} (h : NewIdReachable env st) :
    Coherent st.context := by
  obtain ⟨hsections, hproducts⟩ := h.freshReachable.distinct
  obtain ⟨ops, hrun⟩ := h
  have husers := distinct_users ⟨ops, hrun.mono fun _ _ _ hs => hs.2⟩
  have hreach : StoreReachable env st := ⟨ops, hrun.mono fun _ _ _ hs => hs.2.2⟩
  exact ⟨hreach.wellStored, hreach.named, hreach.products_owned, husers, hsections, hproducts⟩

theorem NewIdReachable.step {st st' : CoreDataStack} {op : Op} (h : NewIdReachable env st)
    (hstep : NewIdStep env st op st') : NewIdReachable env st' := by
  obtain ⟨ops, hrun⟩ := h
  exact ⟨ops ++ [op], hrun.append (.cons hstep (.nil st'))⟩

/-- **One step of the store is one call of the inventory.** -/
theorem inventory_of_step {st st' : CoreDataStack} {op : Op} (h : NewIdReachable env st)
    (hstep : NewIdStep env st op st') : inventory env st'.context =
      (op.call st.context).elim (inventory env st.context) (inventory env st.context).apply := by
  obtain ⟨hfresh, hfreshUser, hstep⟩ := hstep
  have hsaved := h.storeReachable.saved
  exact inventory_effect h.coherent ((step_iff env hsaved).mp hstep).1 hfresh hfreshUser
    (step_cases env hsaved hstep).2

/-! ### Reads -/

/-- A section of the inventory, with its id. -/
def StoredSection.view (id : UUID) (s : StoredSection) : SectionView :=
  ⟨id, s.title, s.rule, s.sortingRule, s.products⟩

theorem readSection_eq_storedSection {g : Graph} {k : ObjectID} {s : CDSection} {id : UUID}
    (hid : s.id = some id) :
    readSection env g (k, s) = (storedSection env g (k, s)).map (·.view id) := by
  simp only [readSection, storedSection, hid]
  cases s.title with
  | none => rfl
  | some title => cases SortingRule.ofRawValue s.sortingRule <;> rfl

theorem readById_inventory {g : Graph} (h : Coherent g) (id : UUID) :
    readById env g id = ((inventory env g).sections id).map (·.view id) := by
  rw [readById, h.fetchCDSectionById_eq]
  simp only [inventory]
  cases hl : g.sections.lookup CDSection.id id with
  | none => rfl
  | some r =>
    obtain ⟨hr, hid⟩ := Table.get?_of_lookup hl
    rw [Option.map_some, Option.bind_some, Option.bind_some, hr, Option.bind_some,
      readSection_eq_storedSection hid]

theorem mem_readByUser_inventory {g : Graph} (h : Coherent g) {userId : UUID} {v : SectionView} :
    v ∈ readByUser env g userId ↔ ∃ s, (inventory env g).sections v.id = some s ∧
      s.owner = some userId ∧ s.view v.id = v := by
  have hread : v ∈ readByUser env g userId ↔ ∃ u k s,
      fetchCDUserById env g userId = some u ∧ g.sections.get? k = some s ∧ s.user = some u ∧
        readSection env g (k, s) = some v := by
    unfold readByUser
    cases fetchCDUserById env g userId with
    | none => simp
    | some u =>
      simp only [Multiset.mem_coe, List.mem_filterMap, sectionRows, Table.mem_select,
        decide_eq_true_eq, Option.some.injEq, Prod.exists, Table.get?_eq_some, and_assoc]
      constructor
      · rintro ⟨k, s, hs⟩; exact ⟨u, k, s, rfl, hs⟩
      · rintro ⟨_, k, s, rfl, hs⟩; exact ⟨k, s, hs⟩
  rw [hread]
  constructor
  · rintro ⟨u, k, s, hfetch, hs, hu, hv⟩
    have hid := ((readSection_eq_some env g).mp hv).1
    rw [readSection_eq_storedSection hid, Option.map_eq_some_iff] at hv
    obtain ⟨w, hw, hwv⟩ := hv
    obtain ⟨r, hr, hrid⟩ := fetchById_eq_some hfetch
    refine ⟨w, ?_, ?_, hwv⟩
    · simp only [inventory]
      rw [(Table.lookup_eq_some h.sections).mpr ⟨hs, hid⟩, Option.bind_some, hw]
    · rw [← (storedSection_eq_some.mp hw).2.2.1, ownerId, hu, Option.bind_some, hr,
        Option.bind_some, hrid]
  · rintro ⟨w, hw, ho, hwv⟩
    obtain ⟨⟨k, s⟩, hl, hw⟩ := Option.bind_eq_some_iff.mp hw
    obtain ⟨hs, hid⟩ := Table.get?_of_lookup hl
    rw [← (storedSection_eq_some.mp hw).2.2.1] at ho
    obtain ⟨u, hu, ho⟩ := Option.bind_eq_some_iff.mp ho
    obtain ⟨r, hr, hrid⟩ := Option.bind_eq_some_iff.mp ho
    refine ⟨u, k, s, fetchById_of_distinct h.users hr hrid, hs, hu, ?_⟩
    rw [readSection_eq_storedSection hid, hw, Option.map_some, hwv]

/-- A user's sections are read once each. -/
theorem nodup_readByUser {g : Graph} (h : Coherent g) (userId : UUID) :
    (readByUser env g userId).Nodup := by
  unfold readByUser
  cases fetchCDUserById env g userId with
  | none => exact Multiset.nodup_zero
  | some u =>
    rw [Multiset.coe_nodup, List.Nodup, List.pairwise_filterMap]
    have hrows : (sectionRows g u).Pairwise (· ≠ ·) :=
      (g.sections.nodup_select_keys (fun s => s.user = some u)).of_map Prod.fst
    refine hrows.imp_of_mem fun {a b} ha hb hne v hv w hw hvw => ?_
    -- two records that read alike have one id, so they are one record
    subst hvw
    have hget := g.sections.get?_eq_some.mpr (g.sections.mem_select.mp ha).1
    have hget' := g.sections.get?_eq_some.mpr (g.sections.mem_select.mp hb).1
    have hk := h.sections a.1 a.2 b.1 b.2 v.id hget hget'
      ((readSection_eq_some env g).mp hv).1 ((readSection_eq_some env g).mp hw).1
    rw [← hk, hget] at hget'
    exact hne (Prod.ext hk (Option.some.inj hget'))

theorem fetchProducts_inventory {g : Graph} (h : Coherent g) (sets : Arrangement) (id : UUID) :
    (fetchProducts env g sets id : Multiset Product) =
      ((inventory env g).sections id).elim 0 StoredSection.products := by
  simp only [inventory]
  cases hl : g.sections.lookup CDSection.id id with
  | none =>
    have hnone : ProductRepository.fetchCDSectionById env g id = none :=
      (h.fetchCDSectionById_eq id).trans (by rw [hl]; rfl)
    rw [fetchProducts_coe, hnone]
    rfl
  | some r =>
    obtain ⟨v, hv⟩ := h.exists_storedSection env (Table.get?_of_lookup hl).1
    have hk : SectionRepository.fetchCDSectionById env g id = some r.1 :=
      (h.fetchCDSectionById_eq id).trans (by rw [hl]; rfl)
    rw [fetchProducts_of_wellStored h.wellStored hk, Option.bind_some, hv, Option.elim_some]
    exact (storedSection_eq_some.mp hv).2.2.2.2

/-! ### The refinement -/

/-- The calls an operation may be: one, or none where its user object is gone. -/
def Op.Means (op : Op) (calls : List Call) : Prop := ∃ g, calls = (op.call g).toList

/-- One call after the other, on the inventory. -/
def CallStep (inv : Inventory) (c : Call) (inv' : Inventory) : Prop := inv' = inv.apply c

theorem foldl_of_run {inv inv' : Inventory} {calls : List Call} (h : Run CallStep inv calls inv') :
    inv' = calls.foldl Inventory.apply inv := by
  induction h with
  | nil => rfl
  | cons hstep _ ih => rw [ih, hstep, List.foldl_cons]

/-- **The store simulates the inventory.** -/
theorem simulation_inventory : Simulation (NewIdStep env) CallStep
    (fun st inv => NewIdReachable env st ∧ inv = inventory env st.context) Op.Means := by
  rintro st inv op st' ⟨hreach, rfl⟩ hstep
  have hinv := inventory_of_step hreach hstep
  refine ⟨(op.call st.context).toList, inventory env st'.context, ⟨st.context, rfl⟩, ?_,
    hreach.step hstep, rfl⟩
  cases hc : op.call st.context with
  | none =>
    rw [hinv, hc]
    exact .nil _
  | some c =>
    rw [hinv, hc]
    exact .cons rfl (.nil _)

/-- **The store is an inventory.**  Over any run of calls that create under new
ids, whatever the answers' orders, what the store holds is what the calls make of
the empty inventory, one after the other; one more operation is one more call on
it, or none if its user object is gone; and every read answers what the inventory
has: a section under its id, all of a user's sections once each, and the products
of a section. -/
theorem store_refines_inventory {ops : List Op} {st : CoreDataStack}
    (h : Run (NewIdStep env) (.launch .empty) ops st) :
    (∃ calls, List.Forall₂ Op.Means ops calls ∧
      inventory env st.context = calls.flatten.foldl Inventory.apply .empty) ∧
    (∀ op st', NewIdStep env st op st' → inventory env st'.context =
      (op.call st.context).elim (inventory env st.context) (inventory env st.context).apply) ∧
    (∀ id sets, (fetchSectionById env st.context sets id).map Section.view =
      ((inventory env st.context).sections id).map (·.view id)) ∧
    (∀ userId sets, ((fetchSections env st.context sets userId).map Section.view).Nodup ∧
      ∀ v, v ∈ (fetchSections env st.context sets userId).map Section.view ↔
        ∃ s, (inventory env st.context).sections v.id = some s ∧ s.owner = some userId ∧
          s.view v.id = v) ∧
    ∀ id sets, (fetchProducts env st.context sets id : Multiset Product) =
      ((inventory env st.context).sections id).elim 0 StoredSection.products := by
  have hreach : NewIdReachable env st := ⟨ops, h⟩
  have hc := hreach.coherent
  refine ⟨?_, fun op st' hstep => inventory_of_step hreach hstep, fun id sets => ?_,
    fun userId sets => ?_, fun id sets => fetchProducts_inventory hc sets id⟩
  · obtain ⟨calls, _, hmeans, hrun, _, rfl⟩ :=
      simulation_inventory.run h ⟨⟨[], .nil _⟩, rfl⟩
    exact ⟨calls, hmeans, foldl_of_run hrun⟩
  · rw [fetchSectionById_view, readById_inventory hc]
  · rw [← Multiset.coe_nodup, fetchSections_view]
    refine ⟨nodup_readByUser hc userId, fun v => ?_⟩
    rw [← Multiset.mem_coe, fetchSections_view, mem_readByUser_inventory hc]

/-- A call in range that creates under new ids only is a step. -/
theorem newIdStep_final (env : Environment) (st : CoreDataStack) (op : Op) (hsaved : st.Saved)
    (hfit : op.Fits) (hfresh : op.Fresh st.context) (hfreshUser : op.FreshUser st.context) :
    NewIdStep env st op (final (exec env op) st) ∧ (final (exec env op) st).Saved :=
  have hstep := step_final env hfit hsaved
  ⟨⟨hfresh, hfreshUser, hstep⟩, (step_cases env hsaved hstep).1⟩

/-- A user with a section is renamed, and then deleted. -/
theorem store_refines_inventory_deleteUser :
    let fridge : Section := ⟨9, "fridge", 30, .oldestToNewest, [⟨1, "egg", "egg", 2, 11⟩]⟩
    let ops : List Op :=
      [.createUser 7 "Ray", .createSection 7 fridge, .updateUser 0 "Dajun Xian", .deleteUser 0]
    ∃ st, Run (NewIdStep default) (.launch .empty) ops st ∧
      ∃ calls, List.Forall₂ Op.Means ops calls ∧
        inventory default st.context = calls.flatten.foldl Inventory.apply .empty := by
  intro fridge ops
  let st₀ := CoreDataStack.launch .empty
  let st₁ := final (exec default (ops.get 0)) st₀
  let st₂ := final (exec default (ops.get 1)) st₁
  let st₃ := final (exec default (ops.get 2)) st₂
  obtain ⟨h₁, saved₁⟩ := newIdStep_final default st₀ (ops.get 0) rfl (by decide) (by decide)
    (by decide)
  obtain ⟨h₂, saved₂⟩ := newIdStep_final default st₁ (ops.get 1) saved₁ (by decide) (by decide)
    (by decide)
  obtain ⟨h₃, saved₃⟩ := newIdStep_final default st₂ (ops.get 2) saved₂ (by decide) (by decide)
    (by decide)
  obtain ⟨h₄, _⟩ := newIdStep_final default st₃ (ops.get 3) saved₃ (by decide) (by decide)
    (by decide)
  have hrun : Run (NewIdStep default) st₀ ops _ :=
    .cons h₁ (.cons h₂ (.cons h₃ (.cons h₄ (.nil _))))
  exact ⟨_, hrun, (store_refines_inventory hrun).1⟩

/-! ### Independent operations -/

/-- Two operations that are independent calls in every context. -/
def Op.Independent (a b : Op) : Prop :=
  ∃ c d, (∀ g, a.call g = some c) ∧ (∀ g, b.call g = some d) ∧ c.Independent d

theorem Op.call_newSection {op : Op} {g : Graph} {c : Call} (h : op.call g = some c)
    {sec : Section} (hsec : op.newSection = some sec) :
    ∃ userId, c = .createSection userId sec := by
  cases op with
  | createSection userId sec' =>
    cases h
    cases hsec
    exact ⟨userId, rfl⟩
  | _ => cases hsec

theorem Op.call_newProducts {op : Op} {g : Graph} {c : Call} (h : op.call g = some c) {p : Product}
    (hp : p ∈ op.newProducts) : p.id ∈ c.productIds := by
  cases op with
  | createSection userId sec =>
    cases h
    exact List.mem_map_of_mem hp
  | createProduct id product =>
    cases h
    exact List.mem_singleton.mpr (congrArg Product.id (List.mem_singleton.mp hp))
  | _ => cases hp

/-- Operations about sections make no users, and leave them. -/
theorem Op.users_of_onSections (env : Environment) {op : Op} {g : Graph} {c : Call}
    (h : op.call g = some c) (hc : c.OnSections) (g' : Graph) :
    op.FreshUser g' ∧ (op.effect env g').users = g'.users := by
  have aboutUser : ∀ {i : Option UUID} {f : UUID → Call}, i.map f = some c →
      (∀ i, ¬ (f i).OnSections) → False := by
    intro i f he hf
    obtain ⟨i, _, rfl⟩ := Option.map_eq_some_iff.mp he
    exact hf i hc
  cases op with
  | createUser id name => cases h; exact hc.elim
  | fetchUser uuid => cases h; exact hc.elim
  | updateUser user name => exact (aboutUser h fun _ h => h).elim
  | deleteUser user => exact (aboutUser h fun _ h => h).elim
  | removeAllUsers => cases h; exact hc.elim
  | createSection userId sec => refine ⟨trivial, ?_⟩; simp only [Op.effect]; split <;> rfl
  | updateSection sec => refine ⟨trivial, ?_⟩; simp only [Op.effect]; split <;> rfl
  | setSectionSortingRule id rule => refine ⟨trivial, ?_⟩; simp only [Op.effect]; split <;> rfl
  | createProduct id p => refine ⟨trivial, ?_⟩; simp only [Op.effect]; split <;> rfl
  | updateProduct p => refine ⟨trivial, ?_⟩; simp only [Op.effect]; split <;> rfl

/-- The section ids after an operation: those before, and that of a section it creates. -/
theorem stored_sections_effect (g : Graph) (op : Op) (id : UUID) :
    (Stored g.sections CDSection.id id → Stored (op.effect env g).sections CDSection.id id) ∧
      (Stored (op.effect env g).sections CDSection.id id → Stored g.sections CDSection.id id ∨
        ∃ sec, op.newSection = some sec ∧ sec.id = id) := by
  rcases effect_sections env g op with ⟨f, he, hf⟩ | ⟨sec, user, hnew, _, he⟩
  · rw [he]
    refine ⟨?_, ?_⟩
    · rintro ⟨k, s, hs, hid⟩
      exact ⟨k, f k s, by rw [Table.get?_mapRows, hs]; rfl, (hf k s hs).1.trans hid⟩
    · rintro ⟨k, s, hs, hid⟩
      rw [Table.get?_mapRows, Option.map_eq_some_iff] at hs
      obtain ⟨s₀, hs₀, rfl⟩ := hs
      exact Or.inl ⟨k, s₀, hs₀, (hf k s₀ hs₀).1.symm.trans hid⟩
  · rw [he]
    refine ⟨?_, ?_⟩
    · rintro ⟨k, s, hs, hid⟩
      exact ⟨k, s, g.sections.get?_insert.mpr (Or.inl hs), hid⟩
    · rintro ⟨k, s, hs, hid⟩
      rcases g.sections.get?_insert.mp hs with hs | ⟨_, rfl⟩
      · exact Or.inl ⟨k, s, hs, hid⟩
      · exact Or.inr ⟨sec, hnew, Option.some.inj hid⟩

theorem stored_products_effect (g : Graph) (op : Op) (id : UUID) :
    (Stored g.products CDProduct.id id → Stored (op.effect env g).products CDProduct.id id) ∧
      (Stored (op.effect env g).products CDProduct.id id → Stored g.products CDProduct.id id ∨
        ∃ p ∈ op.newProducts, p.id = id) := by
  rcases effect_products env g op with ⟨f, he, hf⟩ | ⟨j, he⟩
  · rw [he]
    refine ⟨?_, ?_⟩
    · rintro ⟨k, p, hp, hid⟩
      exact ⟨k, f k p, by rw [Table.get?_mapRows, hp]; rfl, (hf k p).1.trans hid⟩
    · rintro ⟨k, p, hp, hid⟩
      rw [Table.get?_mapRows, Option.map_eq_some_iff] at hp
      obtain ⟨p₀, hp₀, rfl⟩ := hp
      exact Or.inl ⟨k, p₀, hp₀, (hf k p₀).1.symm.trans hid⟩
  · rw [he]
    refine ⟨?_, ?_⟩
    · rintro ⟨k, p, hp, hid⟩
      exact ⟨k, p, g.products.get?_insertAll_of_some hp, hid⟩
    · rintro ⟨k, p, hp, hid⟩
      rcases g.products.get?_insertAll hp with hp | ⟨_, hp⟩
      · exact Or.inl ⟨k, p, hp, hid⟩
      · obtain ⟨q, hq, rfl⟩ := List.mem_map.mp hp
        exact Or.inr ⟨q, hq, Option.some.inj hid⟩

/-- What is fresh after an operation was fresh before it. -/
theorem Op.Fresh.before {a b : Op} {g g' : Graph} (h : b.Fresh g')
    (htab : g'.tables = a.effect env g) : b.Fresh g := by
  obtain ⟨_, hs, hp⟩ := Tables.mk.inj htab
  obtain ⟨hsec, hnodup, hprod⟩ := h
  refine ⟨fun sec hm hst => hsec sec hm ?_, hnodup, fun p hm hst => hprod p hm ?_⟩
  · rw [hs]; exact (stored_sections_effect g a sec.id).1 hst
  · rw [hp]; exact (stored_products_effect g a p.id).1 hst

/-- A section id that an operation does not create was stored before it. -/
theorem stored_section_before {b : Op} {g g' : Graph} {d : Call} (hd : b.call g = some d)
    (htab : g'.tables = b.effect env g) {id : UUID}
    (hne : ∀ userId sec, d = .createSection userId sec → sec.id ≠ id)
    (hst : Stored g'.sections CDSection.id id) : Stored g.sections CDSection.id id := by
  obtain ⟨_, hs, _⟩ := Tables.mk.inj htab
  rw [hs] at hst
  rcases (stored_sections_effect g b id).2 hst with hst | ⟨sec, hnew, hid⟩
  · exact hst
  · obtain ⟨userId, rfl⟩ := Op.call_newSection hd hnew
    exact absurd hid (hne userId sec rfl)

/-- A product id that an operation is not about was stored before it. -/
theorem stored_product_before {b : Op} {g g' : Graph} {d : Call} (hd : b.call g = some d)
    (htab : g'.tables = b.effect env g) {id : UUID} (hne : id ∉ d.productIds)
    (hst : Stored g'.products CDProduct.id id) : Stored g.products CDProduct.id id := by
  obtain ⟨_, _, hp⟩ := Tables.mk.inj htab
  rw [hp] at hst
  rcases (stored_products_effect g b id).2 hst with hst | ⟨q, hq, rfl⟩
  · exact hst
  · exact absurd (Op.call_newProducts hd hq) hne

/-- What is fresh stays fresh when an independent operation comes first. -/
theorem Op.Fresh.after {a b : Op} {g g' : Graph} (h : a.Fresh g) (hI : a.Independent b)
    (htab : g'.tables = b.effect env g) : a.Fresh g' := by
  obtain ⟨c, d, hc, hd, hcd⟩ := hI
  obtain ⟨hsec, hnodup, hprod⟩ := h
  refine ⟨fun sec hm hst => hsec sec hm ?_, hnodup, fun p hm hst => hprod p hm ?_⟩
  · obtain ⟨u, rfl⟩ := call_newSection (hc g) hm
    refine stored_section_before (hd g) htab ?_ hst
    rintro u' sec' rfl hid
    exact hcd.apart sec.id rfl (congrArg some hid)
  · exact stored_product_before (hd g) htab (hcd.products p.id (call_newProducts (hc g) hm)) hst

/-- What an operation finds depends on which ids are stored. -/
theorem Op.Finds.imp {op : Op} {g g' : Graph} (h : op.Finds g)
    (hu : ∀ id, Stored g.users CDUser.id id → Stored g'.users CDUser.id id)
    (hs : ∀ id, Stored g.sections CDSection.id id → Stored g'.sections CDSection.id id)
    (hp : ∀ id, Stored g.products CDProduct.id id → Stored g'.products CDProduct.id id) :
    op.Finds g' := by
  cases op with
  | createSection userId sec => exact hu userId h
  | updateSection sec => exact hs sec.id h
  | createProduct id p => exact hs id h
  | updateProduct p => exact hp p.id h
  | _ => exact trivial

/-- What an operation finds it finds after another one that leaves the users. -/
theorem Op.Finds.after {a b : Op} {g g' : Graph} (h : b.Finds g) (hu : g'.users = g.users)
    (htab : g'.tables = a.effect env g) : b.Finds g' := by
  obtain ⟨_, hs, hp⟩ := Tables.mk.inj htab
  refine h.imp (fun id hst => ?_) (fun id hst => ?_) (fun id hst => ?_)
  · rwa [hu]
  · rw [hs]; exact (stored_sections_effect g a id).1 hst
  · rw [hp]; exact (stored_products_effect g a id).1 hst

/-- What an operation finds after an independent one it found before. -/
theorem Op.Finds.of_after {a b : Op} {g g' : Graph} (h : a.Finds g') (hI : a.Independent b)
    (htab : g'.tables = b.effect env g) : a.Finds g := by
  obtain ⟨c, d, hc, hd, hcd⟩ := hI
  cases a with
  | createSection userId sec =>
    have husers : g'.users = g.users :=
      (congrArg Tables.users htab).trans (users_of_onSections env (hd g) hcd.right g).2
    rw [Op.Finds, husers] at h
    exact h
  | updateSection sec =>
    obtain rfl := Option.some.inj (hc g)
    refine stored_section_before (hd g) htab ?_ h
    rintro u s rfl hid
    exact hcd.apart sec.id rfl (congrArg some hid)
  | createProduct id p =>
    obtain rfl := Option.some.inj (hc g)
    refine stored_section_before (hd g) htab ?_ h
    rintro u s rfl hid
    exact hcd.apart id rfl (congrArg some hid)
  | updateProduct p =>
    obtain rfl := Option.some.inj (hc g)
    exact stored_product_before (hd g) htab
      (hcd.products p.id (List.mem_singleton.mpr rfl)) h
  | _ => exact trivial

/-! ### Order of independent operations -/

/-- The two stacks have the same user records and the same inventory. -/
structure SameInventory (env : Environment) (st st' : CoreDataStack) : Prop where
  left : NewIdReachable env st
  right : NewIdReachable env st'
  users : st'.context.users = st.context.users
  inventory : inventory env st'.context = inventory env st.context

theorem Op.call_congr {g g' : Graph} (hu : g'.users = g.users) (op : Op) :
    op.call g' = op.call g := by
  cases op with
  | updateUser user name => simp only [Op.call, hu]
  | deleteUser user => simp only [Op.call, hu]
  | _ => rfl

theorem users_deleteUsers (us : List ObjectID) (g : Graph) :
    (us.foldl Graph.deleteUser g).users = us.foldl Table.erase g.users := by
  induction us generalizing g with
  | nil => rfl
  | cons u us ih => rw [List.foldl_cons, ih, Graph.users_deleteUser, List.foldl_cons]

/-- What an operation makes of the users depends on the users only. -/
theorem users_effect_congr {g g' : Graph} (hu : g'.users = g.users) (op : Op) :
    (op.effect env g').users = (op.effect env g).users := by
  have ofSection : ∀ {op : Op} {c : Call}, op.call g = some c → c.OnSections →
      (op.effect env g').users = (op.effect env g).users := fun h hc =>
    (Op.users_of_onSections env h hc g').2.trans
      (hu.trans (Op.users_of_onSections env h hc g).2.symm)
  cases op with
  | createUser id name => simp only [Op.effect, hu]
  | fetchUser uuid =>
    simp only [Op.effect, hu]
    cases (g.users.fetch env.fetchOrder (fun _ => true)).head? with
    | none => rfl
    | some user => exact hu
  | updateUser user name => simp only [Op.effect, hu]
  | deleteUser user =>
    show g'.users.erase user = g.users.erase user
    rw [hu]
  | removeAllUsers =>
    show (_ : Graph).users = (_ : Graph).users
    rw [users_deleteUsers, users_deleteUsers, hu]
  | createSection userId sec => exact ofSection rfl trivial
  | updateSection sec => exact ofSection rfl trivial
  | setSectionSortingRule id rule => exact ofSection rfl trivial
  | createProduct id p => exact ofSection rfl trivial
  | updateProduct p => exact ofSection rfl trivial

/-- A section id is stored when the inventory has a section under it. -/
theorem stored_section_iff (env : Environment) {g : Graph} (h : Coherent g) {id : UUID} :
    Stored g.sections CDSection.id id ↔ (inventory env g).sections id ≠ none := by
  simp only [inventory]
  constructor
  · rintro ⟨k, s, hs, hid⟩
    obtain ⟨v, hv⟩ := h.exists_storedSection env hs
    rw [(Table.lookup_eq_some h.sections).mpr ⟨hs, hid⟩, Option.bind_some, hv]
    exact Option.some_ne_none v
  · intro hne
    cases hl : g.sections.lookup CDSection.id id with
    | none => rw [hl] at hne; exact absurd rfl hne
    | some r => exact ⟨r.1, r.2, Table.get?_of_lookup hl⟩

/-- A product id is stored when a section of the inventory has a product with it. -/
theorem stored_product_iff (env : Environment) {g : Graph} (h : Coherent g) {id : UUID} :
    Stored g.products CDProduct.id id ↔
      ∃ i s, (inventory env g).sections i = some s ∧ ∃ p ∈ s.products, p.id = id := by
  constructor
  · rintro ⟨k, r, hr, hid⟩
    obtain ⟨j, hj⟩ := h.owned k r hr
    obtain ⟨s, hs⟩ := g.sections.mem_keys_iff_get?.mp
      (g.section_live _ (g.products.get?_eq_some.mp hr) j hj)
    obtain ⟨⟨i, hi⟩, _⟩ := h.wellStored.sections j s hs
    obtain ⟨v, hv⟩ := h.exists_storedSection env hs
    have hmem : (k, r) ∈ productRows g j :=
      g.products.mem_select.mpr ⟨g.products.get?_eq_some.mp hr, decide_eq_true hj⟩
    refine ⟨i, v, ?_, readProduct env (k, r), ?_, ?_⟩
    · simp only [inventory]
      rw [(Table.lookup_eq_some h.sections).mpr ⟨hs, hi⟩, Option.bind_some, hv]
    · rw [← (storedSection_eq_some.mp hv).2.2.2.2]
      exact Multiset.mem_coe.mpr (List.mem_map_of_mem hmem)
    · have hread := (storedAs_readProduct env (h.wellStored.productRows j _ hmem)).1
      exact Option.some.inj (hread.symm.trans hid)
  · rintro ⟨i, s, hs, p, hp, hid⟩
    obtain ⟨⟨j, r⟩, _, hv⟩ := Option.bind_eq_some_iff.mp hs
    rw [← (storedSection_eq_some.mp hv).2.2.2.2] at hp
    obtain ⟨q, hq, rfl⟩ := List.mem_map.mp (Multiset.mem_coe.mp hp)
    refine ⟨q.1, q.2, g.products.get?_eq_some.mpr (g.products.mem_select.mp hq).1, ?_⟩
    rw [← hid]
    exact (storedAs_readProduct env (h.wellStored.productRows j q hq)).1

/-- Which ids are new is read off the inventory. -/
theorem fresh_congr {g g' : Graph} (h : Coherent g) (h' : Coherent g')
    (hinv : inventory env g' = inventory env g) {op : Op} (hf : op.Fresh g) : op.Fresh g' := by
  refine ⟨fun sec hm hst => hf.1 sec hm ?_, hf.2.1, fun p hm hst => hf.2.2 p hm ?_⟩
  · rwa [stored_section_iff env h, ← hinv, ← stored_section_iff env h']
  · rwa [stored_product_iff env h, ← hinv, ← stored_product_iff env h']

theorem freshUser_congr {g g' : Graph} (hu : g'.users = g.users) {op : Op} (hf : op.FreshUser g) :
    op.FreshUser g' := by
  cases op with
  | createUser id name => simpa only [Op.FreshUser, hu] using hf
  | fetchUser uuid => simpa only [Op.FreshUser, hu] using hf
  | _ => exact hf

/-- What an operation finds is read off the users and the inventory. -/
theorem finds_congr {g g' : Graph} (h : Coherent g) (h' : Coherent g') (hu : g'.users = g.users)
    (hinv : inventory env g' = inventory env g) {op : Op} (hf : op.Finds g') : op.Finds g := by
  refine hf.imp (fun id hst => ?_) (fun id hst => ?_) (fun id hst => ?_)
  · rwa [← hu]
  · rwa [stored_section_iff env h, ← hinv, ← stored_section_iff env h']
  · rwa [stored_product_iff env h, ← hinv, ← stored_product_iff env h']

/-- **Stores with the same inventory are stepped alike.** -/
theorem stepsAlike_sameInventory : StepsAlike (NewIdStep env) (SameInventory env) := by
  rintro st st' op t ⟨hl, hr, hu, hinv⟩ ⟨hfresh, hfreshUser, hstep⟩
  have hret := ((step_iff env hl.storeReachable.saved).mp hstep).1
  have hstep' : NewIdStep env st' op (final (exec env op) st') :=
    ⟨fresh_congr hl.coherent hr.coherent hinv hfresh, freshUser_congr hu hfreshUser,
      step_of_returns env (fun hf => hret (finds_congr hl.coherent hr.coherent hu hinv hf))
        hr.storeReachable.saved⟩
  refine ⟨_, hstep', hl.step ⟨hfresh, hfreshUser, hstep⟩, hr.step hstep', ?_, ?_⟩
  · have htab := (step_cases env hl.storeReachable.saved hstep).2
    have htab' := (step_cases env hr.storeReachable.saved hstep'.2.2).2
    exact (congrArg Tables.users htab').trans
      ((users_effect_congr hu op).trans (congrArg Tables.users htab).symm)
  · rw [inventory_of_step hr hstep', inventory_of_step hl ⟨hfresh, hfreshUser, hstep⟩,
      op.call_congr hu, hinv]

/-- **Two independent operations may change places.** -/
theorem swap_independent {st t : CoreDataStack} {a b : Op} (h : NewIdReachable env st)
    (hI : a.Independent b) (hrun : Run (NewIdStep env) st [a, b] t) :
    ∃ t', Run (NewIdStep env) st [b, a] t' ∧ SameInventory env t t' := by
  obtain ⟨m, ha, hrest⟩ := Run.cons_iff.mp hrun
  obtain ⟨t₀, hb, hnil⟩ := Run.cons_iff.mp hrest
  obtain rfl := Run.nil_iff.mp hnil
  obtain ⟨c, d, hc, hd, hcd⟩ := id hI
  have users_kept : ∀ {s s' : CoreDataStack} {op : Op} {e : Call}, NewIdReachable env s →
      op.call s.context = some e → e.OnSections → NewIdStep env s op s' →
      s'.context.users = s.context.users := by
    intro s s' op e hs he hon hstep
    have htab := (step_cases env hs.storeReachable.saved hstep.2.2).2
    exact (congrArg Tables.users htab).trans (Op.users_of_onSections env he hon s.context).2
  have hm := h.step ha
  have hsaved := h.storeReachable.saved
  have htabm := (step_cases env hsaved ha.2.2).2
  have hreta := ((step_iff env hsaved).mp ha.2.2).1
  have hretb := ((step_iff env hm.storeReachable.saved).mp hb.2.2).1
  -- `b` first: what is new after `a` was new before it, and what is there is there after it
  have hb' : NewIdStep env st b (final (exec env b) st) :=
    ⟨hb.1.before htabm, (Op.users_of_onSections env (hd st.context) hcd.right _).1,
      step_of_returns env
        (fun hf => hretb (hf.after (users_kept h (hc _) hcd.left ha) htabm)) hsaved⟩
  have hn := h.step hb'
  have htabn := (step_cases env hsaved hb'.2.2).2
  -- then `a`: what is new in `a`, or what it looks for, is not made by `b`
  have ha' : NewIdStep env (final (exec env b) st) a
      (final (exec env a) (final (exec env b) st)) :=
    ⟨ha.1.after hI htabn, (Op.users_of_onSections env (hc st.context) hcd.left _).1,
      step_of_returns env (fun hf => hreta (hf.of_after hI htabn)) hn.storeReachable.saved⟩
  refine ⟨_, .cons hb' (.cons ha' (.nil _)), hm.step hb, hn.step ha', ?_, ?_⟩
  · rw [users_kept hn (hc _) hcd.left ha', users_kept h (hd _) hcd.right hb',
      users_kept hm (hd _) hcd.right hb, users_kept h (hc _) hcd.left ha]
  · rw [inventory_of_step hn ha', inventory_of_step h hb', inventory_of_step hm hb,
      inventory_of_step h ha, hc, hd, hc, hd]
    exact (Inventory.apply_comm hcd _).symm

/-- **The order of independent operations cannot be read off the store.**  Where
neighbours that are about different sections and different products change places,
or put products in one section, any number of times, the run is a run again; and
whatever the answers' orders, every read gives the same section, the same sections
of a user and the same products. -/
theorem rearranged_run {ops ops' : List Op} {st : CoreDataStack}
    (h : Run (NewIdStep env) (.launch .empty) ops st) (hr : Rearranges Op.Independent ops ops') :
    ∃ st', Run (NewIdStep env) (.launch .empty) ops' st' ∧
      st'.context.users = st.context.users ∧
      (∀ id sets sets', (fetchSectionById env st'.context sets' id).map Section.view =
        (fetchSectionById env st.context sets id).map Section.view) ∧
      (∀ userId sets sets', ((fetchSections env st'.context sets' userId).map Section.view).Perm
        ((fetchSections env st.context sets userId).map Section.view)) ∧
      ∀ id sets sets', (fetchProducts env st'.context sets' id).Perm
        (fetchProducts env st.context sets id) := by
  have hnil : NewIdReachable env (.launch .empty) := ⟨[], .nil _⟩
  obtain ⟨st', hrun', hsame⟩ := Run.rearrange (E := SameInventory env)
    (fun _ _ _ hs hstep => NewIdReachable.step hs hstep) (fun s hs => ⟨hs, hs, rfl, rfl⟩)
    (fun _ _ _ h₁ h₂ => ⟨h₁.left, h₂.right, h₂.users.trans h₁.users,
      h₂.inventory.trans h₁.inventory⟩)
    stepsAlike_sameInventory (fun _ _ _ _ hs hI hab => swap_independent hs hI hab) hnil hr h
  have hc := hsame.left.coherent
  have hc' := hsame.right.coherent
  refine ⟨st', hrun', hsame.users, fun id sets sets' => ?_, fun userId sets sets' => ?_,
    fun id sets sets' => ?_⟩
  · rw [fetchSectionById_view, fetchSectionById_view, readById_inventory hc,
      readById_inventory hc', hsame.inventory]
  · rw [← Multiset.coe_eq_coe, fetchSections_view, fetchSections_view,
      Multiset.Nodup.ext (nodup_readByUser hc' userId) (nodup_readByUser hc userId)]
    intro v
    rw [mem_readByUser_inventory hc, mem_readByUser_inventory hc', hsame.inventory]
  · rw [← Multiset.coe_eq_coe, fetchProducts_inventory hc, fetchProducts_inventory hc',
      hsame.inventory]

/-- Two products of a section, stored in either order. -/
theorem rearranged_run_twoProducts :
    let fridge : Section := ⟨9, "fridge", 30, .oldestToNewest, []⟩
    let egg : Op := .createProduct 9 ⟨1, "egg", "egg", 2, 11⟩
    let milk : Op := .createProduct 9 ⟨2, "milk", "milk", 1, 3⟩
    let pre : List Op := [.createUser 7 "Ray", .createSection 7 fridge]
    ∃ st st', Run (NewIdStep default) (.launch .empty) (pre ++ [egg, milk]) st ∧
      Run (NewIdStep default) (.launch .empty) (pre ++ [milk, egg]) st' ∧
      ∀ sets sets', (fetchProducts default st'.context sets' 9).Perm
        (fetchProducts default st.context sets 9) := by
  intro fridge egg milk pre
  let st₀ := CoreDataStack.launch .empty
  let st₁ := final (exec default (pre.get 0)) st₀
  let st₂ := final (exec default (pre.get 1)) st₁
  let st₃ := final (exec default egg) st₂
  obtain ⟨h₁, saved₁⟩ := newIdStep_final default st₀ (pre.get 0) rfl (by decide) (by decide)
    (by decide)
  obtain ⟨h₂, saved₂⟩ := newIdStep_final default st₁ (pre.get 1) saved₁ (by decide) (by decide)
    (by decide)
  obtain ⟨h₃, saved₃⟩ := newIdStep_final default st₂ egg saved₂ (by decide) (by decide)
    (by decide)
  obtain ⟨h₄, _⟩ := newIdStep_final default st₃ milk saved₃ (by decide) (by decide) (by decide)
  have hrun : Run (NewIdStep default) st₀ (pre ++ [egg, milk]) _ :=
    .cons h₁ (.cons h₂ (.cons h₃ (.cons h₄ (.nil _))))
  have hI : egg.Independent milk :=
    ⟨_, _, fun _ => rfl, fun _ => rfl, trivial, trivial, trivial, by simp [Call.productIds]⟩
  have hswap : Rearranges Op.Independent (pre ++ [egg, milk]) (pre ++ [milk, egg]) :=
    .swap .refl hI
  obtain ⟨st', hrun', _, _, _, hproducts⟩ := rearranged_run hrun hswap
  exact ⟨_, st', hrun, hrun', hproducts 9⟩

end InventoryApp
