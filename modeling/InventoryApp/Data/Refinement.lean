import InventoryApp.Lib.Lookup
import InventoryApp.Lib.Simulation
import InventoryApp.Data.Inventory
import InventoryApp.Data.RoundTrip
import InventoryApp.Data.Updates

/-!
# The store is an inventory

`inventory` reads an inventory off a context, and `Op.call` says which call an
operation is: the two that are given a user object become calls about its id, and
are no call when the object is gone.

The lemmas `inventory_createUser`, `inventory_deleteUser` and so on follow one
operation each through the tables, under `Coherent`: ids are unique and nothing is
missing.  `inventory_effect` puts them together, and `inventory_of_step` is the
refinement: one step of the store is one call of the inventory.
-/

namespace InventoryApp

open Lib SectionRepository ProductRepository Inventory

variable (env : Environment) (g : Graph)

/-! ### The inventory of a context -/

/-- The id of the user of a section record. -/
def ownerId (s : CDSection) : Option UUID := s.user.bind fun u => (g.users.get? u).bind CDUser.id

/-- The products of a section record. -/
def storedProducts (k : ObjectID) : Multiset Product :=
  ((productRows g k).map (readProduct env) : List Product)

/-- What a section record stores. -/
def storedSection (r : ObjectID × CDSection) : Option StoredSection := do
  let title ← r.2.title
  let sortingRule ← SortingRule.ofRawValue r.2.sortingRule
  return ⟨ownerId g r.2, title, r.2.rule.toInt, sortingRule, storedProducts env g r.1⟩

/-- What a context stores under its ids. -/
def inventory : Inventory where
  users id := (g.users.lookup CDUser.id id).bind fun r => r.2.name
  sections id := (g.sections.lookup CDSection.id id).bind (storedSection env g)

/-- The call an operation is. -/
def Op.call : Op → Option Call
  | .createUser id name => some (.createUser id name)
  | .fetchUser uuid => some (.fetchUser uuid)
  | .updateUser user name => ((g.users.get? user).bind CDUser.id).map (.updateUser · name)
  | .deleteUser user => ((g.users.get? user).bind CDUser.id).map .deleteUser
  | .removeAllUsers => some .removeAllUsers
  | .createSection userId sec => some (.createSection userId sec)
  | .updateSection sec => some (.updateSection sec)
  | .setSectionSortingRule id rule => some (.setSectionSortingRule id rule)
  | .createProduct id product => some (.createProduct id product)
  | .updateProduct product => some (.updateProduct product)

/-- Every record has what its readers ask for, and ids are unique. -/
structure Coherent : Prop where
  wellStored : WellStored g.tables
  named : g.users.All (fun u => ∃ name, u.name = some name)
  owned : g.products.All (fun p => ∃ k, p.«section» = some k)
  users : g.users.Distinct CDUser.id
  sections : g.sections.Distinct CDSection.id
  products : g.products.Distinct CDProduct.id

variable {env g}

theorem storedSection_eq_some {k : ObjectID} {s : CDSection} {v : StoredSection} :
    storedSection env g (k, s) = some v ↔ s.title = some v.title ∧
      SortingRule.ofRawValue s.sortingRule = some v.sortingRule ∧ ownerId g s = v.owner ∧
      s.rule.toInt = v.rule ∧ storedProducts env g k = v.products := by
  simp only [storedSection, Option.bind_eq_bind, Option.bind_eq_some_iff, Option.pure_def,
    Option.some.injEq]
  constructor
  · rintro ⟨title, ht, rule, hr, rfl⟩
    exact ⟨ht, hr, rfl, rfl, rfl⟩
  · rintro ⟨ht, hr, ho, hrule, hp⟩
    exact ⟨v.title, ht, v.sortingRule, hr, by rw [ho, hrule, hp]⟩

/-- A section record is stored as itself, its user's id and its products. -/
theorem storedSection_congr {g' : Graph} {k : ObjectID} {s s' : CDSection}
    (ht : s'.title = s.title) (hrule : s'.rule = s.rule) (hr : s'.sortingRule = s.sortingRule)
    (ho : ownerId g' s' = ownerId g s) (hp : storedProducts env g' k = storedProducts env g k) :
    storedSection env g' (k, s') = storedSection env g (k, s) := by
  simp only [storedSection, ht, hrule, hr, ho, hp]

/-- A user object that is stored has an id and a name. -/
theorem Coherent.user (h : Coherent g) {u : ObjectID} {r : CDUser} (hr : g.users.get? u = some r) :
    ∃ id name, r.id = some id ∧ r.name = some name ∧ g.users.lookup CDUser.id id = some (u, r) := by
  obtain ⟨id, hid⟩ := h.wellStored.users u r hr
  obtain ⟨name, hname⟩ := h.named u r hr
  exact ⟨id, name, hid, hname, (Table.lookup_eq_some h.users).mpr ⟨hr, hid⟩⟩

/-- A user is in the inventory when its record is found. -/
theorem Coherent.users_ne_none (h : Coherent g) {id : UUID} :
    (inventory env g).users id ≠ none ↔ ∃ k, fetchCDUserById env g id = some k := by
  have hfetch : fetchCDUserById env g id = (g.users.lookup CDUser.id id).map Prod.fst :=
    Table.fetch_of_distinct h.users _ _
  rw [hfetch]
  simp only [inventory]
  cases hl : g.users.lookup CDUser.id id with
  | none => simp
  | some r =>
    obtain ⟨name, hname⟩ := h.named _ _ (Table.get?_of_lookup hl).1
    simp [hname]

theorem Coherent.fetchCDSectionById_eq (h : Coherent g) (id : UUID) :
    SectionRepository.fetchCDSectionById env g id =
      (g.sections.lookup CDSection.id id).map Prod.fst :=
  Table.fetch_of_distinct h.sections _ _

/-- The user of a stored section is stored. -/
theorem exists_user {k u : ObjectID} {s : CDSection} (hs : g.sections.get? k = some s)
    (hu : s.user = some u) : ∃ r, g.users.get? u = some r :=
  g.users.mem_keys_iff_get?.mp (g.user_live _ (g.sections.get?_eq_some.mp hs) u hu)

/-! ### Calls about users -/

section Users

variable {g' : Graph}

theorem storedProducts_congr (hp : g'.products = g.products) (k : ObjectID) :
    storedProducts env g' k = storedProducts env g k := by
  rw [storedProducts, productRows, hp]
  rfl

/-- Sections are stored as before when users keep their ids. -/
theorem sections_of_users (hs : g'.sections = g.sections) (hp : g'.products = g.products)
    (hu : ∀ u r, g.users.get? u = some r → ∃ r', g'.users.get? u = some r' ∧ r'.id = r.id) :
    (inventory env g').sections = (inventory env g).sections := by
  funext id
  simp only [inventory, hs]
  refine Option.bind_congr fun r hr => ?_
  refine storedSection_congr rfl rfl rfl (Option.bind_congr fun u hru => ?_)
    (storedProducts_congr hp _)
  obtain ⟨r₁, hr₁⟩ := exists_user (Table.get?_of_lookup hr).1 hru
  obtain ⟨r₂, hr₂, hid⟩ := hu u r₁ hr₁
  rw [hr₁, hr₂, Option.bind_some, Option.bind_some, hid]

theorem inventory_createUser {id : UUID} {name : String} (hnew : ¬ Stored g.users CDUser.id id)
    (htab : g'.tables = ⟨g.users.insert ⟨some id, some name⟩, g.sections, g.products⟩) :
    inventory env g' = (inventory env g).apply (.createUser id name) := by
  obtain ⟨hu, hs, hp⟩ := Tables.mk.inj htab
  refine Inventory.ext (funext fun i => ?_) (sections_of_users hs hp fun u r hr => ⟨r, ?_, rfl⟩)
  · simp only [inventory, apply, Call.onUsers, hu]
    by_cases hi : i = id
    · subst hi
      have hl : (g.users.insert ⟨some i, some name⟩).lookup CDUser.id i =
          some (g.users.next, ⟨some i, some name⟩) :=
        Table.lookup_insert_self rfl (Table.lookup_eq_none.mpr (not_stored.mp hnew))
      rw [hl, Function.update_self]
      rfl
    · rw [Table.lookup_insert_of_ne (by simpa using Ne.symm hi), Function.update_of_ne hi]
  · rw [hu]
    exact g.users.get?_insert.mpr (Or.inl hr)

/-- `fetchUser` looks for any user at all. -/
theorem inventory_fetchUser (h : Coherent g) {id : UUID} (hnew : ¬ Stored g.users CDUser.id id)
    (htab : g'.tables = (Op.fetchUser id).effect env g) :
    inventory env g' = (inventory env g).apply (.fetchUser id) := by
  simp only [Op.effect] at htab
  cases hf : (g.users.fetch env.fetchOrder (fun _ => true)).head? with
  | some k =>
    obtain ⟨r, hr, _⟩ := g.users.get?_of_head?_fetch hf
    obtain ⟨i, name, _, hname, hl⟩ := h.user hr
    have hsome : ¬ ∀ i, (inventory env g).users i = none := by
      intro hnone
      have hi := hnone i
      simp only [inventory, hl, Option.bind_some, hname] at hi
      cases hi
    simp only [hf, Graph.tables_inj] at htab
    simp only [apply, Call.onUsers, if_neg hsome, Call.onSection, htab]
  | none =>
    have hnone : ∀ i, (inventory env g).users i = none := by
      intro i
      have hrows := g.users.head?_fetch_eq_none.mp hf
      have hl : g.users.lookup CDUser.id i = none :=
        Table.lookup_eq_none.mpr fun k r hk => absurd (hrows k r hk) (by simp)
      simp only [inventory, hl, Option.bind_none]
    simp only [hf] at htab
    rw [inventory_createUser hnew htab]
    simp only [apply, Call.onUsers, if_pos hnone, Call.onSection]

theorem inventory_updateUser (h : Coherent g) {user : ObjectID} {name : String}
    (htab : g'.tables = ⟨g.users.modify user (fun u => { u with name := some name }),
      g.sections, g.products⟩) :
    inventory env g' =
      ((Op.updateUser user name).call g).elim (inventory env g) (inventory env g).apply := by
  obtain ⟨hu, hs, hp⟩ := Tables.mk.inj htab
  have hsections : (inventory env g').sections = (inventory env g).sections := by
    refine sections_of_users hs hp fun u r hr => ?_
    rw [hu, Table.get?_modify, hr]
    refine ⟨_, rfl, ?_⟩
    split <;> rfl
  have husers : ∀ i, (inventory env g').users i = (g.users.lookup CDUser.id i).bind fun r =>
      if r.1 = user then some name else r.2.name := by
    intro i
    simp only [inventory, hu]
    rw [Table.lookup_modify (by intro _; rfl), Option.bind_map]
    refine Option.bind_congr fun r _ => ?_
    simp only [Function.comp_apply]
    split <;> rfl
  simp only [Op.call]
  cases hr : g.users.get? user with
  | none =>
    refine Inventory.ext (funext fun i => ?_) hsections
    rw [husers i]
    simp only [inventory]
    refine Option.bind_congr fun r hl => ?_
    have hne : r.1 ≠ user := by
      rintro rfl
      rw [(Table.get?_of_lookup hl).1] at hr
      cases hr
    rw [if_neg hne]
  | some r =>
    obtain ⟨id, old, hid, hold, hl⟩ := h.user hr
    simp only [Option.bind_some, hid, Option.map_some, Option.elim_some]
    refine Inventory.ext (funext fun i => ?_) hsections
    rw [husers i]
    simp only [inventory, apply, Call.onUsers]
    by_cases hi : i = id
    · subst hi
      rw [Function.update_self, hl, Option.bind_some, Option.bind_some, if_pos rfl, hold]
      rfl
    · rw [Function.update_of_ne hi]
      refine Option.bind_congr fun r' hl' => ?_
      obtain ⟨hr', hid'⟩ := Table.get?_of_lookup hl'
      have hne : r'.1 ≠ user := by
        rintro he
        rw [he, hr] at hr'
        rw [← Option.some.inj hr', hid] at hid'
        exact hi (Option.some.inj hid').symm
      rw [if_neg hne]

/-! ### Deleting users -/

/-- The users in a list are gone, and their sections have no user. -/
structure Removes (us : List ObjectID) (g g' : Graph) : Prop where
  users : ∀ u r, g'.users.get? u = some r ↔ g.users.get? u = some r ∧ u ∉ us
  sections : ∃ f : ObjectID → CDSection → CDSection, g'.sections = g.sections.mapRows f ∧
    ∀ k s, f k s = { s with user := (f k s).user } ∧
      ∀ u, (f k s).user = some u ↔ s.user = some u ∧ u ∉ us
  products : g'.products = g.products

theorem foldl_nullify_eq (us : List ObjectID) (s : CDSection) :
    us.foldl (fun s u => CDSection.nullify u s) s =
      { s with user := (us.foldl (fun s u => CDSection.nullify u s) s).user } := by
  induction us generalizing s with
  | nil => rfl
  | cons u us ih =>
    rw [List.foldl_cons, ih]
    unfold CDSection.nullify
    split <;> rfl

theorem get?_deleteUsers (us : List ObjectID) (g : Graph) (u : ObjectID) (r : CDUser) :
    (us.foldl Graph.deleteUser g).users.get? u = some r ↔ g.users.get? u = some r ∧ u ∉ us := by
  induction us generalizing g with
  | nil => simp
  | cons u' us ih =>
    rw [List.foldl_cons, ih, Graph.users_deleteUser, Table.get?_erase, List.mem_cons, not_or,
      and_assoc]

theorem removes_deleteUsers (us : List ObjectID)
    (htab : g'.tables = (us.foldl Graph.deleteUser g).tables) : Removes us g g' := by
  obtain rfl := Graph.tables_inj.mp htab
  exact ⟨get?_deleteUsers us g, ⟨_, sections_deleteUsers us g,
    fun k s => ⟨foldl_nullify_eq us s, fun u => user_foldl_nullify⟩⟩, products_deleteUsers us g⟩

namespace Removes

variable {us : List ObjectID} (h : Removes us g g') (hg : Coherent g)

include h hg

theorem users_eq (i : UUID) : (inventory env g').users i =
    (g.users.lookup CDUser.id i).bind fun r => if r.1 ∈ us then none else r.2.name := by
  have hd : g'.users.Distinct CDUser.id := fun u r u' r' x hu hu' =>
    hg.users u r u' r' x ((h.users u r).mp hu).1 ((h.users u' r').mp hu').1
  have hl : g'.users.lookup CDUser.id i =
      (g.users.lookup CDUser.id i).filter fun r => r.1 ∉ us := by
    ext ⟨u, r⟩
    rw [Table.lookup_eq_some hd, Option.filter_eq_some_iff, Table.lookup_eq_some hg.users, h.users]
    simp only [decide_eq_true_eq]
    tauto
  simp only [inventory, hl]
  cases g.users.lookup CDUser.id i with
  | none => rfl
  | some r => by_cases hr : r.1 ∈ us <;> simp [Option.filter, hr]

omit hg in
/-- A section loses its owner when its user is gone. -/
theorem ownerId_eq {k : ObjectID} {s s' : CDSection} (hk : g.sections.get? k = some s)
    (huser : ∀ u, s'.user = some u ↔ s.user = some u ∧ u ∉ us) :
    ownerId g' s' = if ∃ u ∈ us, s.user = some u then none else ownerId g s := by
  unfold ownerId
  by_cases hex : ∃ u ∈ us, s.user = some u
  · obtain ⟨u, hmem, hu⟩ := hex
    have hnone : s'.user = none := Option.eq_none_iff_forall_ne_some.mpr fun u' hu' => by
      obtain ⟨he, hnot⟩ := (huser u').mp hu'
      rw [hu] at he
      exact hnot (Option.some.inj he ▸ hmem)
    rw [if_pos ⟨u, hmem, hu⟩, hnone]
    rfl
  · have hsame : s'.user = s.user := by
      ext u
      rw [huser u]
      exact ⟨And.left, fun hu => ⟨hu, fun hmem => hex ⟨u, hmem, hu⟩⟩⟩
    rw [if_neg hex, hsame]
    refine Option.bind_congr fun u hu => ?_
    obtain ⟨r, hr⟩ := exists_user hk hu
    rw [hr, (h.users u r).mpr ⟨hr, fun hmem => hex ⟨u, hmem, hu⟩⟩]

omit hg in
/-- A section is stored as before, without an owner if its user is gone. -/
theorem sections_eq (i : UUID) : (inventory env g').sections i =
    (g.sections.lookup CDSection.id i).bind fun r => (storedSection env g r).map fun v =>
      if ∃ u ∈ us, r.2.user = some u then { v with owner := none } else v := by
  obtain ⟨f, hs, hf⟩ := h.sections
  simp only [inventory, hs]
  rw [Table.lookup_mapRows (fun r _ => by rw [(hf r.1 r.2).1]), Option.bind_map]
  refine Option.bind_congr fun ⟨k, s⟩ hr => ?_
  obtain ⟨hfields, huser⟩ := hf k s
  have ht : (f k s).title = s.title := by rw [hfields]
  have hrule : (f k s).rule = s.rule := by rw [hfields]
  have hsort : (f k s).sortingRule = s.sortingRule := by rw [hfields]
  have howner := h.ownerId_eq (Table.get?_of_lookup hr).1 huser
  simp only [Function.comp_apply, storedSection, ht, hrule, hsort, howner,
    storedProducts_congr h.products]
  cases s.title with
  | none => rfl
  | some title =>
    cases SortingRule.ofRawValue s.sortingRule with
    | none => rfl
    | some rule =>
      by_cases hex : ∃ u ∈ us, s.user = some u
      · simp only [if_pos hex]; rfl
      · simp only [if_neg hex]; rfl

end Removes

theorem inventory_deleteUser (h : Coherent g) {user : ObjectID}
    (htab : g'.tables = (g.deleteUser user).tables) :
    inventory env g' =
      ((Op.deleteUser user).call g).elim (inventory env g) (inventory env g).apply := by
  have hrem : Removes [user] g g' := removes_deleteUsers [user] htab
  simp only [Op.call]
  cases hr : g.users.get? user with
  | none =>
    -- no record has this object id, so nobody goes and no section had it as its user
    refine Inventory.ext (funext fun i => ?_) (funext fun i => ?_)
    · rw [hrem.users_eq h]
      refine Option.bind_congr fun r hl => if_neg fun hmem => ?_
      have hget := (Table.get?_of_lookup hl).1
      rw [List.mem_singleton.mp hmem, hr] at hget
      cases hget
    · rw [hrem.sections_eq]
      refine Option.bind_congr fun r hl => ?_
      have hex : ¬ ∃ u ∈ [user], r.2.user = some u := by
        rintro ⟨u, hmem, hu⟩
        obtain ⟨r', hr'⟩ := exists_user (Table.get?_of_lookup hl).1 hu
        rw [List.mem_singleton.mp hmem, hr] at hr'
        cases hr'
      simp only [if_neg hex, Option.map_id']
  | some r =>
    obtain ⟨id, old, hid, hold, hl⟩ := h.user hr
    simp only [Option.bind_some, hid, Option.map_some, Option.elim_some]
    refine Inventory.ext (funext fun i => ?_) (funext fun i => ?_)
    · rw [hrem.users_eq h]
      simp only [apply, Call.onUsers]
      by_cases hi : i = id
      · rw [hi, Function.update_self, hl, Option.bind_some, if_pos (List.mem_singleton.mpr rfl)]
      · rw [Function.update_of_ne hi]
        refine Option.bind_congr fun r' hl' => if_neg fun hmem => ?_
        obtain ⟨hr', hid'⟩ := Table.get?_of_lookup hl'
        rw [List.mem_singleton.mp hmem, hr] at hr'
        rw [← Option.some.inj hr', hid] at hid'
        exact hi (Option.some.inj hid').symm
    · rw [hrem.sections_eq]
      simp only [apply, Call.onSection, inventory, Option.map_bind]
      refine Option.bind_congr fun p hl' => ?_
      refine Option.map_congr fun v hv => ?_
      -- the section's user is the deleted one exactly if its owner is
      have howner := ((storedSection_eq_some).mp hv).2.2.1
      have hiff : (∃ u ∈ [user], p.2.user = some u) ↔ v.owner = some id := by
        rw [← howner]
        constructor
        · rintro ⟨u, hmem, hu⟩
          rw [ownerId, hu, Option.bind_some, List.mem_singleton.mp hmem, hr, Option.bind_some, hid]
        · intro ho
          obtain ⟨u, hu, ho⟩ := Option.bind_eq_some_iff.mp ho
          obtain ⟨r', hr', hid'⟩ := Option.bind_eq_some_iff.mp ho
          exact ⟨u, List.mem_singleton.mpr (h.users u r' user r id hr' hr hid' hid), hu⟩
      simp only [hiff]

theorem inventory_removeAllUsers (h : Coherent g)
    (htab : g'.tables =
      ((g.users.fetch env.fetchOrder (fun _ => true)).foldl Graph.deleteUser g).tables) :
    inventory env g' = (inventory env g).apply .removeAllUsers := by
  have hrem : Removes _ g g' := removes_deleteUsers _ htab
  have hall : ∀ u r, g.users.get? u = some r →
      u ∈ g.users.fetch env.fetchOrder (fun _ => true) :=
    fun u r hr => g.users.mem_fetch.mpr ⟨r, hr, rfl⟩
  refine Inventory.ext (funext fun i => ?_) (funext fun i => ?_)
  · rw [hrem.users_eq h]
    simp only [apply, Call.onUsers]
    rw [Option.bind_eq_none_iff]
    exact fun r hl => if_pos (hall _ _ (Table.get?_of_lookup hl).1)
  · rw [hrem.sections_eq]
    simp only [apply, Call.onSection, inventory, Option.map_bind]
    refine Option.bind_congr fun p hl => ?_
    refine Option.map_congr fun v hv => ?_
    have howner := ((storedSection_eq_some).mp hv).2.2.1
    by_cases hex : ∃ u ∈ g.users.fetch env.fetchOrder (fun _ => true), p.2.user = some u
    · rw [if_pos hex]
    · rw [if_neg hex]
      have hnone : p.2.user = none := Option.eq_none_iff_forall_ne_some.mpr fun u hu => by
        obtain ⟨r, hr⟩ := exists_user (Table.get?_of_lookup hl).1 hu
        exact hex ⟨u, hall u r hr, hu⟩
      rw [ownerId, hnone] at howner
      exact StoredSection.ext howner.symm rfl rfl rfl rfl

end Users

/-! ### Calls about sections and products -/

section Sections

variable {g' : Graph}

theorem Coherent.exists_storedSection (env : Environment) (h : Coherent g) {k : ObjectID}
    {s : CDSection} (hs : g.sections.get? k = some s) :
    ∃ v, storedSection env g (k, s) = some v := by
  obtain ⟨_, ⟨title, ht⟩, rule, hr⟩ := h.wellStored.sections k s hs
  refine ⟨⟨ownerId g s, title, s.rule.toInt, rule, storedProducts env g k⟩, ?_⟩
  rw [storedSection_eq_some]
  exact ⟨ht, by rw [hr, SortingRule.ofRawValue_rawValue], rfl, rfl, rfl⟩

theorem users_of_eq (hu : g'.users = g.users) :
    (inventory env g').users = (inventory env g).users := by
  simp only [inventory, hu]

theorem ownerId_of_eq (hu : g'.users = g.users) (s : CDSection) : ownerId g' s = ownerId g s := by
  rw [ownerId, hu]
  rfl

theorem inventory_createSection (h : Coherent g) {userId : UUID} {sec : Section}
    (hret : (Op.createSection userId sec).Returns g)
    (hnew : ¬ Stored g.sections CDSection.id sec.id)
    (htab : g'.tables = (Op.createSection userId sec).effect env g) :
    inventory env g' = (inventory env g).apply (.createSection userId sec) := by
  simp only [Op.effect] at htab
  cases hfetch : fetchCDUserById env g userId with
  | none =>
    have hnone : ¬ (inventory env g).users userId ≠ none := by
      rw [h.users_ne_none]
      rintro ⟨k, hk⟩
      rw [hfetch] at hk
      cases hk
    simp only [hfetch, Graph.tables_inj] at htab
    rw [htab]
    refine Inventory.ext rfl (funext fun i => (if_neg fun hi => hnone hi.2).symm)
  | some user =>
    simp only [hfetch] at htab
    obtain ⟨hu, hs, _⟩ := Tables.mk.inj htab
    obtain ⟨r, hr, hid⟩ := fetchById_eq_some hfetch
    have hfit : sec.Fits := hret (stored_of_fetchById hfetch)
    have hsome : (inventory env g).users userId ≠ none := h.users_ne_none.mpr ⟨user, hfetch⟩
    refine Inventory.ext (users_of_eq hu) (funext fun i => ?_)
    simp only [apply, Call.onSection]
    by_cases hi : sec.id = i
    · subst hi
      have hl : (g.sections.insert (sec.toCD user)).lookup CDSection.id sec.id =
          some (g.sections.next, sec.toCD user) :=
        Table.lookup_insert_self rfl (Table.lookup_eq_none.mpr (not_stored.mp hnew))
      rw [if_pos ⟨rfl, hsome⟩]
      simp only [inventory, hs, hl, Option.bind_some]
      rw [storedSection_eq_some]
      refine ⟨rfl, SortingRule.ofRawValue_rawValue _, ?_, toInt_ofInt hfit.1, ?_⟩
      · rw [ownerId_of_eq hu, ownerId, Section.user_toCD, Option.bind_some, hr, Option.bind_some,
          hid]
      · exact congrArg _ (map_readProduct_of_toCD env hfit.2 (productRows_next htab))
    · rw [if_neg fun hc => hi hc.1]
      simp only [inventory, hs]
      rw [Table.lookup_insert_of_ne (by simpa [Section.toCD] using hi)]
      refine Option.bind_congr fun r hr => storedSection_congr rfl rfl rfl (ownerId_of_eq hu _) ?_
      have hk := Nat.ne_of_lt (g.sections.lt_next_of_get? (Table.get?_of_lookup hr).1)
      rw [storedProducts, productRows_of_ne htab hk, storedProducts]

/-- A change of one section record changes the section under its id. -/
theorem inventory_modifySection (h : Coherent g) {id : UUID} {f : CDSection → CDSection}
    (change : StoredSection → StoredSection)
    (htab : g'.tables = match SectionRepository.fetchCDSectionById env g id with
      | none => g.tables
      | some k => ⟨g.users, g.sections.modify k f, g.products⟩)
    (hf : ∀ s, (f s).id = s.id)
    (hchange : Stored g.sections CDSection.id id → ∀ k s v, storedSection env g (k, s) = some v →
      storedSection env g (k, f s) = some (change v)) :
    (inventory env g').users = (inventory env g).users ∧ ∀ i, (inventory env g').sections i =
      if id = i then ((inventory env g).sections i).map change
      else (inventory env g).sections i := by
  rw [h.fetchCDSectionById_eq] at htab
  cases hl : g.sections.lookup CDSection.id id with
  | none =>
    simp only [hl, Option.map_none, Graph.tables_inj] at htab
    rw [htab]
    refine ⟨rfl, fun i => ?_⟩
    by_cases hi : id = i
    · subst hi
      rw [if_pos rfl]
      simp only [inventory, hl]
      rfl
    · rw [if_neg hi]
  | some r =>
    simp only [hl, Option.map_some] at htab
    obtain ⟨hu, hs, hp⟩ := Tables.mk.inj htab
    obtain ⟨hr, hid⟩ := Table.get?_of_lookup hl
    have hsame : ∀ q, storedSection env g' q = storedSection env g q := fun q =>
      storedSection_congr rfl rfl rfl (ownerId_of_eq hu _) (storedProducts_congr hp _)
    refine ⟨users_of_eq hu, fun i => ?_⟩
    simp only [inventory, hs]
    rw [Table.lookup_modify hf, Option.bind_map]
    by_cases hi : id = i
    · subst hi
      obtain ⟨v, hv⟩ := h.exists_storedSection env hr
      rw [if_pos rfl, hl, Option.bind_some, Option.bind_some, Function.comp_apply, if_pos rfl,
        hsame, hv, hchange ⟨r.1, r.2, hr, hid⟩ r.1 r.2 v hv]
      rfl
    · rw [if_neg hi]
      refine Option.bind_congr fun q hq => ?_
      obtain ⟨hqget, hqid⟩ := Table.get?_of_lookup hq
      have hne : q.1 ≠ r.1 := by
        intro he
        rw [he, hr] at hqget
        rw [← Option.some.inj hqget, hid] at hqid
        exact hi (Option.some.inj hqid)
      rw [Function.comp_apply, if_neg hne, hsame]

/-- A change of products changes what the sections store of them. -/
theorem inventory_modifyProducts (change : ObjectID → Multiset Product → Multiset Product)
    (hu : g'.users = g.users) (hs : g'.sections = g.sections)
    (hchange : ∀ k s, g.sections.get? k = some s →
      storedProducts env g' k = change k (storedProducts env g k)) :
    (inventory env g').users = (inventory env g).users ∧ ∀ i, (inventory env g').sections i =
      (g.sections.lookup CDSection.id i).bind fun r => (storedSection env g r).map fun v =>
        { v with products := change r.1 v.products } := by
  refine ⟨users_of_eq hu, fun i => ?_⟩
  simp only [inventory, hs]
  refine Option.bind_congr fun ⟨k, s⟩ hl => ?_
  have hp := hchange k s (Table.get?_of_lookup hl).1
  ext v
  simp only [Option.map_eq_some_iff, storedSection_eq_some, ownerId_of_eq hu, hp]
  constructor
  · rintro ⟨ht, hr, ho, hrule, hv⟩
    exact ⟨{ v with products := storedProducts env g k }, ⟨ht, hr, ho, hrule, rfl⟩,
      StoredSection.ext rfl rfl rfl rfl hv⟩
  · rintro ⟨w, ⟨ht, hr, ho, hrule, hw⟩, rfl⟩
    exact ⟨ht, hr, ho, hrule, by rw [hw]⟩

theorem inventory_createProduct (h : Coherent g) {id : UUID} {p : Product}
    (hret : (Op.createProduct id p).Returns g)
    (htab : g'.tables = (Op.createProduct id p).effect env g) :
    inventory env g' = (inventory env g).apply (.createProduct id p) := by
  have hfetch : ProductRepository.fetchCDSectionById env g id =
      (g.sections.lookup CDSection.id id).map Prod.fst := h.fetchCDSectionById_eq id
  simp only [Op.effect, hfetch] at htab
  cases hl : g.sections.lookup CDSection.id id with
  | none =>
    simp only [hl, Option.map_none, Graph.tables_inj] at htab
    rw [htab]
    refine Inventory.ext rfl (funext fun i => ?_)
    simp only [apply, Call.onSection]
    by_cases hi : id = i
    · subst hi
      rw [if_pos rfl]
      simp only [inventory, hl]
      rfl
    · rw [if_neg hi]
  | some r =>
    simp only [hl, Option.map_some] at htab
    obtain ⟨hu, hs, hp⟩ := Tables.mk.inj htab
    obtain ⟨hr, hid⟩ := Table.get?_of_lookup hl
    have hfit : p.Fits := hret ⟨r.1, r.2, hr, hid⟩
    have hproducts : ∀ k, storedProducts env g' k =
        if k = r.1 then p ::ₘ storedProducts env g k else storedProducts env g k := by
      intro k
      rw [storedProducts, productRows, hp, Table.select_insert, List.map_append, storedProducts,
        productRows]
      by_cases hk : k = r.1
      · have hnew : readProduct env (g.products.next, p.toCD r.1) = p :=
          (p.storedAs_toCD hfit r.1).readProduct_eq env
        rw [if_pos hk, if_pos (by simp [Product.toCD, hk]), List.map_singleton, hnew,
          ← Multiset.coe_add, Multiset.coe_singleton, Multiset.add_comm, Multiset.singleton_add]
      · rw [if_neg hk, if_neg (by simpa [Product.toCD] using Ne.symm hk), List.map_nil,
          List.append_nil]
    obtain ⟨husers, hsections⟩ := inventory_modifyProducts
      (fun k m => if k = r.1 then p ::ₘ m else m) hu hs fun k _ _ => hproducts k
    refine Inventory.ext husers (funext fun i => ?_)
    rw [hsections i]
    simp only [apply, Call.onSection, inventory]
    by_cases hi : id = i
    · subst hi
      rw [if_pos rfl, hl, Option.bind_some, Option.bind_some]
      simp only [if_true]
    · rw [if_neg hi]
      refine Option.bind_congr fun q hq => ?_
      obtain ⟨hqget, hqid⟩ := Table.get?_of_lookup hq
      have hne : q.1 ≠ r.1 := by
        intro he
        rw [he, hr] at hqget
        rw [← Option.some.inj hqget, hid] at hqid
        exact hi (Option.some.inj hqid)
      simp only [if_neg hne, Option.map_id']

theorem inventory_updateProduct (h : Coherent g) {p : Product}
    (hret : (Op.updateProduct p).Returns g)
    (htab : g'.tables = (Op.updateProduct p).effect env g) :
    inventory env g' = (inventory env g).apply (.updateProduct p) := by
  -- in every section the product with the id is replaced, if there is one
  have hproducts : g'.users = g.users ∧ g'.sections = g.sections ∧
      ∀ k, storedProducts env g' k = (storedProducts env g k).map p.replace := by
    simp only [Op.effect] at htab
    cases hfetch : ProductRepository.fetchCDProductById env g p.id with
    | none =>
      simp only [hfetch, Graph.tables_inj] at htab
      rw [htab]
      refine ⟨rfl, rfl, fun k => (Call.map_replace_of_notMem fun hmem => ?_).symm⟩
      obtain ⟨q, hq, hqid⟩ := List.mem_map.mp hmem
      obtain ⟨r, hr, rfl⟩ := List.mem_map.mp hq
      refine fetchById_eq_none.mp hfetch ⟨r.1, r.2,
        g.products.get?_eq_some.mpr (g.products.mem_select.mp hr).1, ?_⟩
      rw [← hqid]
      exact (storedAs_readProduct env (h.wellStored.productRows k r hr)).1
    | some k =>
      simp only [hfetch] at htab
      obtain ⟨hu, hs, hp⟩ := Tables.mk.inj htab
      obtain ⟨r, hr, hid⟩ := fetchById_eq_some hfetch
      refine ⟨hu, hs, fun j => ?_⟩
      rw [storedProducts, productRows_write hp, storedProducts, Multiset.map_coe, List.map_map,
        List.map_map]
      exact congrArg _ (List.map_congr_left fun q hq =>
        readProduct_write hr (hret ⟨k, r, hr, hid⟩) h.wellStored h.products hid hq)
  obtain ⟨hu, hs, hproducts⟩ := hproducts
  obtain ⟨husers, hsections⟩ := inventory_modifyProducts
    (fun _ m => m.map p.replace) hu hs fun k _ _ => hproducts k
  refine Inventory.ext husers (funext fun i => ?_)
  rw [hsections i]
  simp only [apply, Call.onSection, inventory, Option.map_bind]
  rfl

end Sections

/-! ### Every call -/

/-- **An operation's effect is its call.** -/
theorem inventory_effect (h : Coherent g) {op : Op} (hret : op.Returns g) (hfresh : op.Fresh g)
    (hfreshUser : op.FreshUser g) {g' : Graph} (htab : g'.tables = op.effect env g) :
    inventory env g' = (op.call g).elim (inventory env g) (inventory env g).apply := by
  cases op with
  | createUser id name => exact inventory_createUser hfreshUser htab
  | fetchUser uuid => exact inventory_fetchUser h hfreshUser htab
  | updateUser user name => exact inventory_updateUser h htab
  | deleteUser user => exact inventory_deleteUser h htab
  | removeAllUsers => exact inventory_removeAllUsers h htab
  | createSection userId sec => exact inventory_createSection h hret (hfresh.1 sec rfl) htab
  | updateSection sec =>
    obtain ⟨hu, hs⟩ := inventory_modifySection h (fun v => { v with
      title := sec.title, rule := sec.rule, sortingRule := sec.sortingRule }) htab (fun _ => rfl)
      fun hstored k s v hv => by
        obtain ⟨_, _, ho, _, hp⟩ := storedSection_eq_some.mp hv
        rw [storedSection_eq_some]
        exact ⟨rfl, SortingRule.ofRawValue_rawValue _, ho, toInt_ofInt (hret hstored), hp⟩
    exact Inventory.ext hu (funext hs)
  | setSectionSortingRule id rule =>
    obtain ⟨hu, hs⟩ := inventory_modifySection h (fun v => { v with sortingRule := rule })
      htab (fun _ => rfl) fun _ k s v hv => by
        obtain ⟨ht, _, ho, hrule, hp⟩ := storedSection_eq_some.mp hv
        rw [storedSection_eq_some]
        exact ⟨ht, SortingRule.ofRawValue_rawValue _, ho, hrule, hp⟩
    exact Inventory.ext hu (funext hs)
  | createProduct id p => exact inventory_createProduct h hret htab
  | updateProduct p => exact inventory_updateProduct h hret htab

end InventoryApp
