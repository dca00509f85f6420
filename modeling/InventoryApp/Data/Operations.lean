import InventoryApp.Lib.Run
import InventoryApp.Data.Atomicity
import InventoryApp.Data.Repository.UserRepository

/-!
# Runs of repository operations

`Op` lists the ten operations that a repository user can call, with their
arguments, and `exec` calls one.  `Step` is a call that returns, and the stores
of the app are the ones its runs reach from the empty store.

A call returns exactly if its integers fit in `Int16`, or it finds no record to
write them to (`step_iff`).  `effect` says what each operation makes of the three
tables, on one page and with no monad: this is the specification that every
invariant of a run is read off.  `exec_ok` is the refinement, once for all ten: a
call that returns commits a graph with exactly these tables, and leaves nothing
unsaved.
-/

namespace InventoryApp

open Lib

inductive Op
  | createUser (id : UUID) (name : String)
  | fetchUser (uuid : UUID)
  | updateUser (user : ObjectID) (name : String)
  | deleteUser (user : ObjectID)
  | removeAllUsers
  | createSection (userId : UUID) (sec : Section)
  | updateSection (sec : Section)
  | setSectionSortingRule (sectionId : UUID) (rule : SortingRule)
  | createProduct (sectionId : UUID) (product : Product)
  | updateProduct (product : Product)
  deriving DecidableEq

variable (env : Environment)

/-- Calls an operation and drops its result. -/
def exec : Op → Repo Unit
  | .createUser id name => do let _ ← UserRepository.createUser id name
  | .fetchUser uuid => do let _ ← UserRepository.fetchUser env uuid
  | .updateUser user name => UserRepository.updateUser user name
  | .deleteUser user => UserRepository.deleteUser user
  | .removeAllUsers => UserRepository.removeAllUsers env
  | .createSection userId sec => SectionRepository.createSection env userId sec
  | .updateSection sec => SectionRepository.updateSection env sec
  | .setSectionSortingRule id rule => SectionRepository.setSectionSortingRule env id rule
  | .createProduct id product => ProductRepository.createProduct env id product
  | .updateProduct product => ProductRepository.updateProduct env product

/-- The integers an operation narrows fit in `Int16`. -/
def Op.Fits : Op → Prop
  | .createSection _ sec => sec.Fits
  | .updateSection sec => FitsInt16 sec.rule
  | .createProduct _ product => product.Fits
  | .updateProduct product => product.Fits
  | _ => True

instance : (op : Op) → Decidable op.Fits
  | .createSection _ sec => inferInstanceAs (Decidable sec.Fits)
  | .updateSection sec => inferInstanceAs (Decidable (FitsInt16 sec.rule))
  | .createProduct _ product => inferInstanceAs (Decidable product.Fits)
  | .updateProduct product => inferInstanceAs (Decidable product.Fits)
  | .createUser _ _ => isTrue trivial
  | .fetchUser _ => isTrue trivial
  | .updateUser _ _ => isTrue trivial
  | .deleteUser _ => isTrue trivial
  | .removeAllUsers => isTrue trivial
  | .setSectionSortingRule _ _ => isTrue trivial

/-- The record that an operation looks up before it narrows is stored. -/
def Op.Finds (g : Graph) : Op → Prop
  | .createSection userId _ => Stored g.users CDUser.id userId
  | .updateSection sec => Stored g.sections CDSection.id sec.id
  | .createProduct id _ => Stored g.sections CDSection.id id
  | .updateProduct product => Stored g.products CDProduct.id product.id
  | _ => True

/-- No conversion of the call traps: it is in range, or it does not get there. -/
def Op.Returns (g : Graph) (op : Op) : Prop := op.Finds g → op.Fits

theorem Op.Fits.returns {op : Op} (h : op.Fits) (g : Graph) : op.Returns g := fun _ => h

/-- A call that returns. -/
def Step (st : CoreDataStack) (op : Op) (st' : CoreDataStack) : Prop :=
  (exec env op).run st = .ok () st'

/-- The stacks that runs of the ten operations reach from the empty store. -/
def StoreReachable (st : CoreDataStack) : Prop :=
  Reachable (Step env) (CoreDataStack.launch .empty) st

/-! ### The effect of an operation -/

/-- What an operation makes of the tables. -/
def Op.effect (g : Graph) : Op → Tables
  | .createUser id name => ⟨g.users.insert ⟨some id, some name⟩, g.sections, g.products⟩
  | .fetchUser uuid =>
    match (g.users.fetch env.fetchOrder (fun _ => true)).head? with
    | some _ => g.tables
    | none => ⟨g.users.insert ⟨some uuid, some "Ray"⟩, g.sections, g.products⟩
  | .updateUser user name =>
    ⟨g.users.modify user (fun u => { u with name := some name }), g.sections, g.products⟩
  | .deleteUser user => (g.deleteUser user).tables
  | .removeAllUsers =>
    ((g.users.fetch env.fetchOrder (fun _ => true)).foldl Graph.deleteUser g).tables
  | .createSection userId sec =>
    match SectionRepository.fetchCDUserById env g userId with
    | none => g.tables
    | some user => ⟨g.users, g.sections.insert (sec.toCD user),
        g.products.insertAll (sec.products.map (·.toCD g.sections.next))⟩
  | .updateSection sec =>
    match SectionRepository.fetchCDSectionById env g sec.id with
    | none => g.tables
    | some k => ⟨g.users, g.sections.modify k (SectionRepository.assign sec), g.products⟩
  | .setSectionSortingRule id rule =>
    match SectionRepository.fetchCDSectionById env g id with
    | none => g.tables
    | some k => ⟨g.users, g.sections.modify k (fun s => { s with sortingRule := rule.rawValue }),
        g.products⟩
  | .createProduct id product =>
    match ProductRepository.fetchCDSectionById env g id with
    | none => g.tables
    | some k => ⟨g.users, g.sections, g.products.insert (product.toCD k)⟩
  | .updateProduct product =>
    match ProductRepository.fetchCDProductById env g product.id with
    | none => g.tables
    | some k => ⟨g.users, g.sections, g.products.modify k (ProductRepository.assign product)⟩

/-! ### What an effect does to sections and products -/

/-- The call deletes this user record. -/
def Op.Deletes (u : ObjectID) : Op → Prop
  | .deleteUser user => user = u
  | .removeAllUsers => True
  | _ => False

/-- The section a call creates. -/
def Op.newSection : Op → Option Section
  | .createSection _ sec => some sec
  | _ => none

/-- The products a call creates. -/
def Op.newProducts : Op → List Product
  | .createSection _ sec => sec.products
  | .createProduct _ product => [product]
  | _ => []

theorem sections_deleteUsers (users : List ObjectID) (g : Graph) :
    (users.foldl Graph.deleteUser g).sections =
      g.sections.mapRows (fun _ s => users.foldl (fun s u => CDSection.nullify u s) s) := by
  induction users generalizing g with
  | nil => exact g.sections.mapRows_id.symm
  | cons u users ih =>
    rw [List.foldl_cons, ih, Graph.sections_deleteUser, Table.mapRows_mapRows]
    rfl

theorem products_deleteUsers (users : List ObjectID) (g : Graph) :
    (users.foldl Graph.deleteUser g).products = g.products := by
  induction users generalizing g with
  | nil => rfl
  | cons u users ih => rw [List.foldl_cons, ih, Graph.products_deleteUser]

theorem id_foldl_nullify (users : List ObjectID) (s : CDSection) :
    (users.foldl (fun s u => CDSection.nullify u s) s).id = s.id := by
  induction users generalizing s with
  | nil => rfl
  | cons u users ih => rw [List.foldl_cons, ih, CDSection.id_nullify]

theorem user_foldl_nullify {users : List ObjectID} {s : CDSection} {v : ObjectID} :
    (users.foldl (fun s u => CDSection.nullify u s) s).user = some v ↔
      s.user = some v ∧ v ∉ users := by
  induction users generalizing s with
  | nil => simp
  | cons u users ih =>
    rw [List.foldl_cons, ih, CDSection.nullify_user_eq_some, List.mem_cons]
    tauto

/-- A change of section rows that an operation can make: ids stay, and a section
keeps its user unless the call deletes that user. -/
def KeepsSections (g : Graph) (op : Op) (f : ObjectID → CDSection → CDSection) : Prop :=
  ∀ k s, g.sections.get? k = some s → (f k s).id = s.id ∧
    ∀ u, (f k s).user = some u ↔ s.user = some u ∧ ¬ op.Deletes u

theorem keepsSections_modify (g : Graph) (op : Op) (hop : ∀ u, ¬ op.Deletes u) (i : ObjectID)
    (f : CDSection → CDSection) (hf : ∀ s, (f s).id = s.id ∧ (f s).user = s.user) :
    ∃ f', g.sections.modify i f = g.sections.mapRows f' ∧ KeepsSections g op f' := by
  refine ⟨_, rfl, fun k s _ => ?_⟩
  by_cases hk : k = i
  · rw [if_pos hk]
    exact ⟨(hf s).1, fun u => by rw [(hf s).2]; exact (and_iff_left (hop u)).symm⟩
  · rw [if_neg hk]
    exact ⟨rfl, fun u => (and_iff_left (hop u)).symm⟩

/-- **Sections are changed in place or one is added.** -/
theorem effect_sections (g : Graph) (op : Op) :
    (∃ f, (op.effect env g).sections = g.sections.mapRows f ∧ KeepsSections g op f) ∨
      ∃ sec user, op.newSection = some sec ∧ user ∈ g.users.keys ∧
        (op.effect env g).sections = g.sections.insert (sec.toCD user) := by
  have same : (∀ u, ¬ op.Deletes u) →
      ∃ f, g.sections = g.sections.mapRows f ∧ KeepsSections g op f := fun hop =>
    ⟨_, g.sections.mapRows_id.symm, fun _ _ _ => ⟨rfl, fun u => (and_iff_left (hop u)).symm⟩⟩
  cases op with
  | createUser id name => exact Or.inl (same fun _ h => h)
  | fetchUser uuid =>
    simp only [Op.effect]
    split <;> exact Or.inl (same fun _ h => h)
  | updateUser user name => exact Or.inl (same fun _ h => h)
  | deleteUser user =>
    refine Or.inl ⟨_, Graph.sections_deleteUser g user, fun k s _ =>
      ⟨CDSection.id_nullify user s, fun u => ?_⟩⟩
    rw [CDSection.nullify_user_eq_some, Op.Deletes]
    exact and_congr_right fun _ => ne_comm
  | removeAllUsers =>
    refine Or.inl ⟨_, sections_deleteUsers _ g, fun k s hs => ⟨id_foldl_nullify _ s, fun u => ?_⟩⟩
    rw [user_foldl_nullify, Op.Deletes]
    refine and_congr_right fun hu => ?_
    -- the user of a section is stored, so the fetch lists it
    have hlive := g.user_live _ (g.sections.get?_eq_some.mp hs) u hu
    obtain ⟨r, hr⟩ := g.users.mem_keys_iff_get?.mp hlive
    simp only [not_true_eq_false, iff_false, not_not]
    exact g.users.mem_fetch.mpr ⟨r, hr, rfl⟩
  | createSection userId sec =>
    simp only [Op.effect]
    split
    · exact Or.inl (same fun _ h => h)
    · rename_i user hfetch
      obtain ⟨r, hr, _⟩ := fetchById_eq_some hfetch
      exact Or.inr ⟨sec, user, rfl, g.users.mem_keys_iff_get?.mpr ⟨r, hr⟩, rfl⟩
  | updateSection sec =>
    simp only [Op.effect]
    split
    · exact Or.inl (same fun _ h => h)
    · exact Or.inl (keepsSections_modify g (.updateSection sec) (fun _ h => h) _
        (SectionRepository.assign sec) fun _ => ⟨rfl, rfl⟩)
  | setSectionSortingRule id rule =>
    simp only [Op.effect]
    split
    · exact Or.inl (same fun _ h => h)
    · exact Or.inl (keepsSections_modify g (.setSectionSortingRule id rule) (fun _ h => h) _
        (fun s => { s with sortingRule := rule.rawValue }) fun _ => ⟨rfl, rfl⟩)
  | createProduct id product =>
    simp only [Op.effect]
    split <;> exact Or.inl (same fun _ h => h)
  | updateProduct product =>
    simp only [Op.effect]
    split <;> exact Or.inl (same fun _ h => h)

/-- **Products are changed in place, under their ids and sections, or some are added.** -/
theorem effect_products (g : Graph) (op : Op) :
    (∃ f, (op.effect env g).products = g.products.mapRows f ∧
        ∀ k p, (f k p).id = p.id ∧ (f k p).«section» = p.«section») ∨
      ∃ k, (op.effect env g).products = g.products.insertAll (op.newProducts.map (·.toCD k)) := by
  have same : ∃ f, g.products = g.products.mapRows f ∧
      ∀ k p, (f k p).id = p.id ∧ (f k p).«section» = p.«section» :=
    ⟨_, g.products.mapRows_id.symm, fun _ _ => ⟨rfl, rfl⟩⟩
  cases op with
  | createSection userId sec =>
    simp only [Op.effect]
    split
    · exact Or.inl same
    · exact Or.inr ⟨_, rfl⟩
  | createProduct id product =>
    simp only [Op.effect]
    split
    · exact Or.inl same
    · exact Or.inr ⟨_, rfl⟩
  | updateProduct product =>
    simp only [Op.effect]
    split
    · exact Or.inl same
    · rename_i i _
      refine Or.inl ⟨fun k p => if k = i then ProductRepository.assign product p else p, rfl,
        fun k p => ?_⟩
      by_cases hk : k = i
      · simp only [if_pos hk]; exact ⟨rfl, rfl⟩
      · simp only [if_neg hk, and_self]
  | removeAllUsers => exact Or.inl (products_deleteUsers _ g ▸ same)
  | createUser id name => exact Or.inl same
  | fetchUser uuid =>
    simp only [Op.effect]
    split <;> exact Or.inl same
  | updateUser user name => exact Or.inl same
  | deleteUser user => exact Or.inl same
  | updateSection sec =>
    simp only [Op.effect]
    split <;> exact Or.inl same
  | setSectionSortingRule id rule =>
    simp only [Op.effect]
    split <;> exact Or.inl same

/-! ### Calls and their effects -/

/-- **A call that no conversion stops returns with the operation's effect, all of it saved.** -/
theorem exec_ok {op : Op} {st : CoreDataStack} (hret : op.Returns st.context) (hsaved : st.Saved) :
    ∃ g, (exec env op).run st = .ok () (st.commit g) ∧
      g.tables = op.effect env st.context := by
  have same : st = st.commit st.context := (CoreDataStack.commit_self hsaved).symm
  cases op with
  | createUser id name =>
    obtain ⟨g, hr, hg⟩ := UserRepository.run_createUser id name st
    exact ⟨g, run_bind_ok hr, hg⟩
  | fetchUser uuid =>
    cases h : (st.context.users.fetch env.fetchOrder (fun _ => true)).head? with
    | some user =>
      refine ⟨st.context, ?_, by simp [Op.effect, h]⟩
      rw [← same]
      exact run_bind_ok (UserRepository.run_fetchUser_of_some env h)
    | none =>
      obtain ⟨g, hr, hg⟩ := UserRepository.run_fetchUser_of_none env uuid h
      exact ⟨g, run_bind_ok hr, by simp only [Op.effect, h, hg]⟩
  | updateUser user name => exact ⟨_, UserRepository.run_updateUser user name st, rfl⟩
  | deleteUser user => exact ⟨_, UserRepository.run_deleteUser user st, rfl⟩
  | removeAllUsers => exact ⟨_, UserRepository.run_removeAllUsers env st, rfl⟩
  | createSection userId sec =>
    cases h : SectionRepository.fetchCDUserById env st.context userId with
    | none =>
      exact ⟨st.context, same ▸ SectionRepository.run_createSection_of_none env h,
        by simp only [Op.effect, h]⟩
    | some user =>
      obtain ⟨g, hr, hg⟩ := SectionRepository.run_createSection env h (hret (stored_of_fetchById h))
      exact ⟨g, hr, by simp only [Op.effect, h, hg]⟩
  | updateSection sec =>
    cases h : SectionRepository.fetchCDSectionById env st.context sec.id with
    | none =>
      exact ⟨st.context, same ▸ SectionRepository.run_updateSection_of_none env h,
        by simp only [Op.effect, h]⟩
    | some k =>
      obtain ⟨g, hr, hg⟩ := SectionRepository.run_updateSection env h (hret (stored_of_fetchById h))
      exact ⟨g, hr, by simp only [Op.effect, h, hg]⟩
  | setSectionSortingRule id rule =>
    cases h : SectionRepository.fetchCDSectionById env st.context id with
    | none =>
      exact ⟨st.context, same ▸ SectionRepository.run_setSectionSortingRule_of_none env h,
        by simp only [Op.effect, h]⟩
    | some k =>
      exact ⟨_, SectionRepository.run_setSectionSortingRule env h, by simp only [Op.effect, h]; rfl⟩
  | createProduct id product =>
    cases h : ProductRepository.fetchCDSectionById env st.context id with
    | none =>
      exact ⟨st.context, same ▸ ProductRepository.run_createProduct_of_none env h,
        by simp only [Op.effect, h]⟩
    | some k =>
      obtain ⟨g, hr, hg⟩ := ProductRepository.run_createProduct env h (hret (stored_of_fetchById h))
      exact ⟨g, hr, by simp only [Op.effect, h, hg]⟩
  | updateProduct product =>
    cases h : ProductRepository.fetchCDProductById env st.context product.id with
    | none =>
      exact ⟨st.context, same ▸ ProductRepository.run_updateProduct_of_none env h,
        by simp only [Op.effect, h]⟩
    | some k =>
      obtain ⟨g, hr, hg⟩ := ProductRepository.run_updateProduct env h (hret (stored_of_fetchById h))
      exact ⟨g, hr, by simp only [Op.effect, h, hg]⟩

/-- A call that finds no record has no effect. -/
theorem effect_of_not_finds {g : Graph} {op : Op} (h : ¬ op.Finds g) :
    op.effect env g = g.tables := by
  cases op with
  | createSection userId sec =>
    have hnone : SectionRepository.fetchCDUserById env g userId = none := fetchById_eq_none.mpr h
    simp only [Op.effect, hnone]
  | updateSection sec =>
    have hnone : SectionRepository.fetchCDSectionById env g sec.id = none :=
      fetchById_eq_none.mpr h
    simp only [Op.effect, hnone]
  | createProduct id product =>
    have hnone : ProductRepository.fetchCDSectionById env g id = none := fetchById_eq_none.mpr h
    simp only [Op.effect, hnone]
  | updateProduct product =>
    have hnone : ProductRepository.fetchCDProductById env g product.id = none :=
      fetchById_eq_none.mpr h
    simp only [Op.effect, hnone]
  | _ => exact absurd trivial h

/-- **Every operation is all or nothing**: it traps exactly if it finds a record and
is out of range, and then the disk is as it was. -/
theorem exec_allOrNothing {st : CoreDataStack} (hsaved : st.Saved) (op : Op) :
    AllOrNothing (exec env op) st (op.Finds st.context ∧ ¬ op.Fits) := by
  have inRange : op.Fits → AllOrNothing (exec env op) st (op.Finds st.context ∧ ¬ op.Fits) := by
    intro hfit
    obtain ⟨g, hr, _⟩ := exec_ok env (hfit.returns _) hsaved
    unfold AllOrNothing
    rw [hr]
    exact ⟨fun h => h.2 hfit, st.saved_commit g⟩
  cases op with
  | createSection userId sec => exact allOrNothing_createSection env st hsaved userId sec
  | updateSection sec => exact allOrNothing_updateSection env st hsaved sec
  | createProduct id product => exact allOrNothing_createProduct env st hsaved id product
  | updateProduct product => exact allOrNothing_updateProduct env st hsaved product
  | createUser id name => exact inRange trivial
  | fetchUser uuid => exact inRange trivial
  | updateUser user name => exact inRange trivial
  | deleteUser user => exact inRange trivial
  | removeAllUsers => exact inRange trivial
  | setSectionSortingRule id rule => exact inRange trivial

/-- **A call returns exactly if no conversion of it traps.** -/
theorem step_iff {op : Op} {st st' : CoreDataStack} (hsaved : st.Saved) :
    Step env st op st' ↔ op.Returns st.context ∧ st' = final (exec env op) st := by
  constructor
  · intro h
    have hall := exec_allOrNothing env hsaved op
    rw [AllOrNothing, show (exec env op).run st = .ok () st' from h] at hall
    refine ⟨fun hfinds => by_contra fun hfit => hall.1 ⟨hfinds, hfit⟩, ?_⟩
    rw [final, show (exec env op).run st = .ok () st' from h]
  · rintro ⟨hret, rfl⟩
    obtain ⟨g, hr, _⟩ := exec_ok env hret hsaved
    rw [Step, final, hr]

/-- **What one step can do**: it has the operation's effect and leaves nothing unsaved. -/
theorem step_cases {st st' : CoreDataStack} {op : Op} (hsaved : st.Saved)
    (h : Step env st op st') :
    st'.Saved ∧ st'.context.tables = op.effect env st.context := by
  obtain ⟨g, hr, hg⟩ := exec_ok env ((step_iff env hsaved).mp h).1 hsaved
  obtain ⟨_, hst'⟩ := run_ok_inj h hr
  rw [hst', CoreDataStack.context_commit]
  exact ⟨st.saved_commit g, hg⟩

/-- A call that no conversion stops steps to the stack it leaves. -/
theorem step_of_returns {op : Op} {st : CoreDataStack} (hret : op.Returns st.context)
    (hsaved : st.Saved) : Step env st op (final (exec env op) st) :=
  (step_iff env hsaved).mpr ⟨hret, rfl⟩

/-- So does a call in range. -/
theorem step_final {op : Op} (hfit : op.Fits) {st : CoreDataStack} (hsaved : st.Saved) :
    Step env st op (final (exec env op) st) :=
  step_of_returns env (hfit.returns _) hsaved

theorem Step.deterministic (st : CoreDataStack) (op : Op) (t t' : CoreDataStack)
    (h : Step env st op t) (h' : Step env st op t') : t = t' := by
  obtain ⟨_, ht⟩ := run_ok_inj h h'
  exact ht

/-- Calls operations one after the other. -/
def execAll (ops : List Op) : Repo Unit := forM ops (exec env)

/-- **A run is the calls of its schedule made in order.** -/
theorem run_iff_execAll {st st' : CoreDataStack} {ops : List Op} :
    Run (Step env) st ops st' ↔ (execAll env ops).run st = .ok () st' := by
  induction ops generalizing st with
  | nil =>
    rw [Run.nil_iff]
    constructor
    · rintro rfl; rfl
    · intro h; cases h; rfl
  | cons op ops ih =>
    rw [Run.cons_iff, execAll, List.forM_cons, run_bind_eq_ok]
    constructor
    · rintro ⟨t, ht, hr⟩; exact ⟨(), t, ht, ih.mp hr⟩
    · rintro ⟨_, t, ht, hr⟩; exact ⟨t, ht, ih.mpr hr⟩

/-- Calls in range run, one after the other. -/
theorem exists_run {ops : List Op} (hfits : ∀ op ∈ ops, op.Fits) {st : CoreDataStack}
    (hsaved : st.Saved) : ∃ st', Run (Step env) st ops st' := by
  induction ops generalizing st with
  | nil => exact ⟨st, .nil st⟩
  | cons op ops ih =>
    obtain ⟨hop, hops⟩ := List.forall_mem_cons.mp hfits
    have hstep := step_final env hop hsaved
    obtain ⟨st', hrun⟩ := ih hops (step_cases env hsaved hstep).1
    exact ⟨st', .cons hstep hrun⟩

/-- They run to the stack that the chain of them leaves. -/
theorem run_final {ops : List Op} (hfits : ∀ op ∈ ops, op.Fits) {st : CoreDataStack}
    (hsaved : st.Saved) : Run (Step env) st ops (final (execAll env ops) st) := by
  obtain ⟨st', hrun⟩ := exists_run env hfits hsaved
  rw [final, (run_iff_execAll env).mp hrun]
  exact hrun

/-- **The invariant rule for the store.**  A property of the tables that holds of
the empty store and that every effect keeps holds of every reachable store. -/
theorem StoreReachable.invariant (Inv : Tables → Prop) (h0 : Inv Graph.empty.tables)
    (hstep : ∀ (g : Graph) (op : Op), Inv g.tables → Inv (op.effect env g))
    {st : CoreDataStack} (h : StoreReachable env st) :
    st.Saved ∧ Inv st.context.tables := by
  obtain ⟨ops, hrun⟩ := h
  refine hrun.invariant (fun st => st.Saved ∧ Inv st.context.tables) ?_ ⟨rfl, h0⟩
  rintro s op s' ⟨hs, hi⟩ hst
  obtain ⟨hs', he⟩ := step_cases env hs hst
  exact ⟨hs', he ▸ hstep s.context op hi⟩

end InventoryApp
