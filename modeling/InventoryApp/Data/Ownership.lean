import Mathlib.Data.List.Induction
import InventoryApp.Data.WellStored

/-!
# Who owns a record

A section is created under a user and a product under a section, and no
operation moves either.  Nothing deletes sections or products, so a product
keeps its section for good.  A user can be deleted, and the model file's rule
for `sections` is Nullify: the sections stay, under no user, and no read that
starts at a user finds them again (`deleteUser_orphans_section`).

`ownership` says that this is the only way.  Over any run the sections without a
user are the ones whose user a later call deleted (`UserDeleted`), and every
other stored section is read, with its products, under its user's id.
-/

namespace InventoryApp

open Lib SectionRepository

variable (env : Environment)

/-- At some call of the schedule the section had a user, and the call deleted that user. -/
def UserDeleted (ops : List Op) (k : ObjectID) : Prop :=
  ∃ pre op post mid s u, ops = pre ++ op :: post ∧ Run (Step env) (.launch .empty) pre mid ∧
    mid.context.sections.get? k = some s ∧ s.user = some u ∧ op.Deletes u

variable {env}

/-! ### One step -/

section Step

variable {st st' : CoreDataStack} {op : Op} (hsaved : st.Saved) (h : Step env st op st')
  {k : ObjectID}

include hsaved h

/-- **A stored section stays stored, and keeps its user until that user is deleted.** -/
theorem user_of_step {s : CDSection} (hs : st.context.sections.get? k = some s) :
    ∃ s', st'.context.sections.get? k = some s' ∧
      ∀ u, s'.user = some u ↔ s.user = some u ∧ ¬ op.Deletes u := by
  obtain ⟨_, htab⟩ := step_cases env hsaved h
  have hsec : st'.context.sections = (op.effect env st.context).sections := by rw [← htab]; rfl
  rcases effect_sections env st.context op with ⟨f, he, hf⟩ | ⟨sec, user, hnew, _, he⟩
  · refine ⟨f k s, ?_, (hf k s hs).2⟩
    rw [hsec, he, Table.get?_mapRows, hs, Option.map_some]
  · refine ⟨s, by rw [hsec, he]; exact Table.get?_insert _ |>.mpr (Or.inl hs), fun u => ?_⟩
    have hop : ¬ op.Deletes u := by
      cases op <;> simp_all [Op.newSection, Op.Deletes]
    exact (and_iff_left hop).symm

/-- A section that a step creates has a user. -/
theorem user_of_step_new {s' : CDSection} (hs' : st'.context.sections.get? k = some s')
    (hk : st.context.sections.get? k = none) : ∃ u, s'.user = some u := by
  obtain ⟨_, htab⟩ := step_cases env hsaved h
  have hsec : st'.context.sections = (op.effect env st.context).sections := by rw [← htab]; rfl
  rw [hsec] at hs'
  rcases effect_sections env st.context op with ⟨f, he, _⟩ | ⟨sec, user, _, _, he⟩
  · rw [he, Table.get?_mapRows, hk] at hs'
    cases hs'
  · rw [he, Table.get?_insert, hk] at hs'
    rcases hs' with hs' | ⟨_, rfl⟩
    · cases hs'
    · exact ⟨user, rfl⟩

end Step

/-! ### A run -/

/-- A section without a user stays without one. -/
theorem user_none_of_run {st st' : CoreDataStack} {ops : List Op} (h : Run (Step env) st ops st')
    (hsaved : st.Saved) {k : ObjectID} {s s' : CDSection}
    (hs : st.context.sections.get? k = some s) (hnone : s.user = none)
    (hs' : st'.context.sections.get? k = some s') : s'.user = none := by
  induction h generalizing s with
  | nil =>
    rw [hs] at hs'
    exact Option.some.inj hs' ▸ hnone
  | cons hstep _ ih =>
    obtain ⟨m, hm, hu⟩ := user_of_step hsaved hstep hs
    refine ih (step_cases env hsaved hstep).1 hm ?_ hs'
    rw [Option.eq_none_iff_forall_ne_some]
    intro u hmu
    rw [((hu u).mp hmu).1] at hnone
    cases hnone

theorem userDeleted_of_user_none {ops : List Op} {st : CoreDataStack}
    (h : Run (Step env) (.launch .empty) ops st) {k : ObjectID} {s : CDSection}
    (hs : st.context.sections.get? k = some s) (hnone : s.user = none) :
    UserDeleted env ops k := by
  induction ops using List.reverseRecOn generalizing st s with
  | nil =>
    obtain rfl := Run.nil_iff.mp h
    cases hs
  | append_singleton ops op ih =>
    obtain ⟨mid, hpre, hlast⟩ := Run.append_iff.mp h
    obtain ⟨t, hstep, ht⟩ := Run.cons_iff.mp hlast
    obtain rfl := Run.nil_iff.mp ht
    have hsaved : mid.Saved := StoreReachable.saved ⟨ops, hpre⟩
    cases hmid : mid.context.sections.get? k with
    | none =>
      obtain ⟨u, hu⟩ := user_of_step_new hsaved hstep hs hmid
      rw [hu] at hnone
      cases hnone
    | some s₀ =>
      cases hu : s₀.user with
      | none =>
        obtain ⟨pre, op', post, mid', s', u, rfl, hrun⟩ := ih hpre hmid hu
        exact ⟨pre, op', post ++ [op], mid', s', u, by simp, hrun⟩
      | some u =>
        refine ⟨ops, op, [], mid, s₀, u, rfl, hpre, hmid, hu, ?_⟩
        obtain ⟨s', hs', hiff⟩ := user_of_step hsaved hstep hmid
        rw [hs] at hs'
        obtain rfl := Option.some.inj hs'
        by_contra hdel
        rw [(hiff u).mpr ⟨hu, hdel⟩] at hnone
        cases hnone

theorem user_none_of_userDeleted {ops : List Op} {st : CoreDataStack}
    (h : Run (Step env) (.launch .empty) ops st) {k : ObjectID} {s : CDSection}
    (hs : st.context.sections.get? k = some s) (hdel : UserDeleted env ops k) : s.user = none := by
  obtain ⟨pre, op, post, mid, s₀, u, rfl, hpre, hmid, hu, hop⟩ := hdel
  obtain ⟨mid', hpre', hrest⟩ := Run.append_iff.mp h
  obtain rfl := hpre.deterministic (Step.deterministic env) hpre'
  obtain ⟨t, hstep, hpost⟩ := Run.cons_iff.mp hrest
  have hsaved : mid.Saved := StoreReachable.saved ⟨pre, hpre⟩
  obtain ⟨s₁, hs₁, hiff⟩ := user_of_step hsaved hstep hmid
  refine user_none_of_run hpost (step_cases env hsaved hstep).1 hs₁ ?_ hs
  rw [Option.eq_none_iff_forall_ne_some]
  intro v hv
  obtain ⟨hv₀, hnot⟩ := (hiff v).mp hv
  rw [hu] at hv₀
  obtain rfl := Option.some.inj hv₀
  exact hnot hop

/-- Every product has a section. -/
theorem StoreReachable.products_owned {st : CoreDataStack} (h : StoreReachable env st) :
    st.context.products.All (fun p => ∃ k, p.«section» = some k) := by
  refine (h.invariant env (fun t => t.products.All fun p => ∃ k, p.«section» = some k) .empty
    fun g op hg => ?_).2
  rcases effect_products env g op with ⟨f, he, hf⟩ | ⟨k, he⟩
  · rw [he]
    exact Table.All.mapRows hg fun k p ⟨i, hp⟩ => ⟨i, by rw [(hf k p).2, hp]⟩
  · rw [he]
    refine Table.All.insertAll hg fun r hr => ?_
    obtain ⟨p, _, rfl⟩ := List.mem_map.mp hr
    exact ⟨k, rfl⟩

/-! ### Ownership -/

/-- A section of a user is read under an id that names the user. -/
theorem exists_mem_fetchSections {g : Graph} (hw : WellStored g.tables) {k u : ObjectID}
    {s : CDSection} (hs : g.sections.get? k = some s) (hu : s.user = some u) {id : UUID}
    (hid : fetchCDUserById env g id = some u) (sets : Arrangement) :
    ∃ sec products, sec ∈ fetchSections env g sets id ∧ sec.StoredAs s ∧
      sec.products.Perm products ∧
      List.Forall₂ (fun (p : Product) r => p.StoredAs r.2) products (productRows g k) := by
  obtain ⟨sec, hm, hstored⟩ := exists_mapCDSectionToSection env (g := g) sets (r := (k, s))
    (hw.sections k s hs)
  refine ⟨sec, (productRows g k).map (readProduct env), ?_, hstored, ?_,
    forall₂_map_readProduct env (hw.productRows k)⟩
  · unfold fetchSections
    simp only [hid]
    refine List.mem_filterMap.mpr ⟨(k, s), ?_, hm⟩
    exact g.sections.mem_enumerate.mpr ⟨g.sections.get?_eq_some.mp hs, by simp [hu]⟩
  · obtain ⟨_, _, _, _, hp⟩ := (mapCDSectionToSection_eq_some env g).mp hm
    rw [hp]
    exact (perm_sorted _ _).trans ((productsOfSection_perm g sets k).map _)

/-- **Products are never orphaned, and sections exactly by deleting their user.**
Every stored product belongs to a stored section.  A stored section has no user
exactly when a call of the run deleted the user it had.  The user of any other
section is stored, and reading under its id gives the section with its
products, if no other user has that id. -/
theorem ownership {ops : List Op} {st : CoreDataStack}
    (h : Run (Step env) (.launch .empty) ops st) :
    (∀ k p, st.context.products.get? k = some p →
      ∃ i s, p.«section» = some i ∧ st.context.sections.get? i = some s) ∧
    (∀ k s, st.context.sections.get? k = some s → (s.user = none ↔ UserDeleted env ops k)) ∧
    ∀ k s u, st.context.sections.get? k = some s → s.user = some u →
      ∃ user id, st.context.users.get? u = some user ∧ user.id = some id ∧
        ((∀ i r, st.context.users.get? i = some r → r.id = some id → i = u) →
          ∀ sets, ∃ sec products, sec ∈ fetchSections env st.context sets id ∧ sec.StoredAs s ∧
            sec.products.Perm products ∧
            List.Forall₂ (fun (p : Product) r => p.StoredAs r.2) products
              (productRows st.context k)) := by
  have hreach : StoreReachable env st := ⟨ops, h⟩
  have hw := hreach.wellStored
  refine ⟨?_, fun k s hs => ⟨userDeleted_of_user_none h hs,
    user_none_of_userDeleted h hs⟩, ?_⟩
  · intro k p hp
    obtain ⟨i, hi⟩ := hreach.products_owned k p hp
    have hlive := st.context.section_live _ (st.context.products.get?_eq_some.mp hp) i hi
    obtain ⟨s, hs⟩ := st.context.sections.mem_keys_iff_get?.mp hlive
    exact ⟨i, s, hi, hs⟩
  · intro k s u hs hu
    have hlive := st.context.user_live _ (st.context.sections.get?_eq_some.mp hs) u hu
    obtain ⟨user, huser⟩ := st.context.users.mem_keys_iff_get?.mp hlive
    obtain ⟨id, hid⟩ := hw.users u user huser
    exact ⟨user, id, huser, hid, fun hunique sets =>
      exists_mem_fetchSections hw hs hu (fetchById_of_unique huser hid hunique) sets⟩

/-- Two users, of which the first is deleted after a section was created under each. -/
theorem ownership_twoUsers :
    let ops : List Op := [.createUser 7 "Ray", .createUser 8 "Dajun Xian",
      .createSection 7 ⟨9, "fridge", 30, .oldestToNewest, []⟩,
      .createSection 8 ⟨10, "freezer", 90, .quantityLowToHigh, []⟩, .deleteUser 0]
    ∃ st, Run (Step default) (.launch .empty) ops st ∧
      UserDeleted default ops 0 ∧ ¬ UserDeleted default ops 1 := by
  intro ops
  let st := final (execAll default ops) (.launch .empty)
  have hrun : Run (Step default) (.launch .empty) ops st := run_final default (by decide) rfl
  obtain ⟨_, horphan, _⟩ := ownership hrun
  refine ⟨st, hrun, (horphan 0 ⟨some 9, 30, 1, some "fridge", none⟩ (by decide)).mp rfl, ?_⟩
  intro hdel
  have := (horphan 1 ⟨some 10, 90, 2, some "freezer", some 1⟩ (by decide)).mpr hdel
  cases this

/-- After a user was deleted its section is still stored, with its product, and
no user's read returns it. -/
theorem deleteUser_orphans_section :
    let ops : List Op := [.createUser 7 "Ray",
      .createSection 7 ⟨9, "fridge", 30, .oldestToNewest, [⟨1, "egg", "egg", 2, 11⟩]⟩,
      .deleteUser 0]
    ∃ st, Run (Step default) (.launch .empty) ops st ∧
      st.context.sections.get? 0 = some ⟨some 9, 30, 1, some "fridge", none⟩ ∧
      st.context.products.get? 0 = some ⟨some 1, some "egg", 2, 11, some "egg", some 0⟩ ∧
      st.context.users.keys = [] ∧
      ∀ id sets, fetchSections default st.context sets id = [] := by
  intro ops
  let st := final (execAll default ops) (.launch .empty)
  have hkeys : st.context.users.keys = [] := by decide
  refine ⟨st, run_final default (by decide) rfl, by decide, by decide, hkeys, ?_⟩
  intro id sets
  have hnone : fetchCDUserById default st.context id = none := by
    refine fetchById_eq_none.mpr ?_
    rintro ⟨k, r, hr, _⟩
    have hk := st.context.users.mem_keys_iff_get?.mpr ⟨r, hr⟩
    rw [hkeys] at hk
    cases hk
  simp only [fetchSections, hnone]

end InventoryApp
