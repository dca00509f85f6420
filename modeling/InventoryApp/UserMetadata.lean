import InventoryApp.Lib.Run
import InventoryApp.Data.RoundTrip
import InventoryApp.Data.Repository.UserRepository

/-!
# First-launch seeding

`UserMetadata.init` runs when the main screen is set up.  On a store without a
user it creates one and stores two starter sections under it, in three saves;
on a store with a user it does nothing.  A launch either runs it to the end or
is killed in it, and then the store on disk is what the saves completed so far
had made of it (`LaunchEvent`, `LaunchStep`).

The check is for a user only, so a launch that is killed after its first or its
second save leaves a store that no later launch completes.  `seeded_iff` says
that this is the one way seeding fails.
-/

namespace InventoryApp

open Lib

namespace UserMetadata

/-- The calls of `UUID()` give `uuid 0`, `uuid 1` and so on, in the order they are made. -/
def createOneSection1 (uuid : Nat → UUID) : Section :=
  let products :=
    [⟨uuid 0, "鸡蛋", "鸡蛋", 1, 11⟩,
     ⟨uuid 1, "USDA Choice  有机西冷牛排", "USDA Choice  有机西冷牛排", 1, 10⟩,
     ⟨uuid 2, "好时巧克力", "好时巧克力", 2, 9⟩,
     ⟨uuid 3, "新鲜香蕉", "新鲜香蕉", 3, 8⟩,
     ⟨uuid 4, "鸡蛋", "鸡蛋", 4, 7⟩,
     ⟨uuid 5, "USDA Choice  有机西冷牛排", "USDA Choice  有机西冷牛排", 13, 6⟩,
     ⟨uuid 6, "好时巧克力", "好时巧克力", 5, 5⟩,
     ⟨uuid 7, "新鲜香蕉", "新鲜香蕉", 6, 4⟩,
     ⟨uuid 8, "新鲜香蕉", "新鲜香蕉", 7, 3⟩,
     ⟨uuid 9, "鸡蛋", "鸡蛋", 8, 2⟩,
     ⟨uuid 10, "USDA Choice  有机西冷牛排", "USDA Choice  有机西冷牛排", 9, 1⟩]
  let sortingRule := SortingRule.quantityHighToLow
  ⟨uuid 11, "保鲜区", 30, sortingRule, products⟩

def createOneSection2 (uuid : Nat → UUID) : Section :=
  let products :=
    [⟨uuid 0, "鸡蛋", "鸡蛋", 1, 11⟩,
     ⟨uuid 1, "USDA Choice  有机西冷牛排", "USDA Choice  有机西冷牛排", 2, 10⟩,
     ⟨uuid 2, "墨西哥面卷", "墨西哥面卷", 3, 9⟩,
     ⟨uuid 3, "Healthy Choice速冻菠菜番茄拌面", "Healthy Choice速冻菠菜番茄拌面", 13, 8⟩,
     ⟨uuid 4, "墨西哥面卷", "墨西哥面卷", 4, 7⟩,
     ⟨uuid 5, "鸡蛋", "鸡蛋", 5, 6⟩,
     ⟨uuid 6, "USDA Choice  有机西冷牛排", "USDA Choice  有机西冷牛排", 6, 5⟩,
     ⟨uuid 7, "墨西哥面卷", "墨西哥面卷", 7, 5⟩,
     ⟨uuid 8, "Healthy Choice速冻菠菜番茄拌面", "Healthy Choice速冻菠菜番茄拌面", 8, 4⟩,
     ⟨uuid 9, "墨西哥面卷", "墨西哥面卷", 9, 3⟩,
     ⟨uuid 10, "鸡蛋", "鸡蛋", 10, 3⟩,
     ⟨uuid 11, "USDA Choice  有机西冷牛排", "USDA Choice  有机西冷牛排", 13, 2⟩,
     ⟨uuid 12, "墨西哥面卷", "墨西哥面卷", 11, 2⟩,
     ⟨uuid 13, "Healthy Choice速冻菠菜番茄拌面", "Healthy Choice速冻菠菜番茄拌面", 13, 10⟩,
     ⟨uuid 14, "墨西哥面卷", "墨西哥面卷", 12, 1⟩]
  let sortingRule := SortingRule.newestToOldest
  ⟨uuid 15, "冷冻区", 180, sortingRule, products⟩

variable (env : Environment)

/-- `UserMetadata()`. -/
def init (uuid : Nat → UUID) : Repo Unit := do
  if ← UserRepository.userExists then
    return
  else
    let user ← UserRepository.createUser (uuid 0) "Dajun Xian"
    let section1 := createOneSection1 (fun i => uuid (1 + i))
    let section2 := createOneSection2 (fun i => uuid (13 + i))
    let id ← forceUnwrap (((← Repo.context).users.get? user).bind CDUser.id)
    SectionRepository.createSection env id section1
    let id ← forceUnwrap (((← Repo.context).users.get? user).bind CDUser.id)
    SectionRepository.createSection env id section2

end UserMetadata

/-- How a launch ends: the main screen is set up, or the process is killed when
`saves` of the saves of this launch were completed. -/
inductive LaunchEvent
  | complete (uuid : Nat → UUID)
  | killed (uuid : Nat → UUID) (saves : Nat)

namespace LaunchEvent

def uuid : LaunchEvent → Nat → UUID
  | complete uuid => uuid
  | killed uuid _ => uuid

/-- The process is killed between the first save of the seeding and the last. -/
def Interrupts : LaunchEvent → Prop
  | complete _ => False
  | killed _ saves => saves = 1 ∨ saves = 2

/-- What is on disk afterwards. -/
def Leaves (store : Graph) (st : CoreDataStack) (store' : Graph) : LaunchEvent → Prop
  | complete _ => store' = st.persisted
  | killed _ saves => (store :: st.saves)[saves]? = some store'

end LaunchEvent

/-- A launch on a store. -/
def LaunchStep (env : Environment) (store : Graph) (ev : LaunchEvent) (store' : Graph) : Prop :=
  ∃ st, (UserMetadata.init env ev.uuid).run (.launch store) = .ok () st ∧ ev.Leaves store st store'

/-- One user, with exactly the two starter sections. -/
def Seeded (env : Environment) (store : Graph) : Prop :=
  ∃ id ids₁ ids₂, store.users.rows.map Prod.snd = [⟨some id, some "Dajun Xian"⟩] ∧
    store.sections.rows.length = 2 ∧ store.products.rows.length = 26 ∧
    ∀ sets, ((SectionRepository.fetchSections env store sets id).map Section.view :
        Multiset SectionView) =
      {(UserMetadata.createOneSection1 ids₁).view, (UserMetadata.createOneSection2 ids₂).view}

/-! ### One launch -/

namespace UserMetadata

theorem fits_createOneSection1 (uuid : Nat → UUID) : (createOneSection1 uuid).Fits := by
  simp [createOneSection1, Section.Fits, Product.Fits, FitsInt16]

theorem fits_createOneSection2 (uuid : Nat → UUID) : (createOneSection2 uuid).Fits := by
  simp [createOneSection2, Section.Fits, Product.Fits, FitsInt16]

variable (env : Environment)

/-- The user that was inserted into an empty table is object 0, and its id resolves to it. -/
theorem resolves_of_insert {g : Graph} {user : CDUser} {id : UUID}
    (hg : g.users = Table.empty.insert user) (hid : user.id = some id) :
    g.users.get? 0 = some user ∧ SectionRepository.fetchCDUserById env g id = some 0 := by
  have hget : g.users.get? 0 = some user := by rw [hg]; rfl
  refine ⟨hget, fetchById_of_unique hget hid fun k r hk _ => ?_⟩
  rw [hg, Table.get?_insert, Table.get?_empty] at hk
  rcases hk with hk | ⟨hk, _⟩
  · cases hk
  · exact hk

/-- On a store with a user there is nothing to do. -/
theorem run_init_of_exists {store : Graph} (h : store.users.rows ≠ []) (uuid : Nat → UUID) :
    (init env uuid).run (.launch store) = .ok () (.launch store) := by
  rw [init, run_bind_ok (UserRepository.run_userExists _)]
  have hd : decide ((CoreDataStack.launch store).context.users.rows ≠ []) = true :=
    decide_eq_true h
  rw [hd]
  rfl

/-- **Seeding the empty store takes three saves**: the user, and the sections one by one. -/
theorem run_init_of_empty (uuid : Nat → UUID) :
    ∃ g₁ g₂ g₃, (init env uuid).run (.launch .empty) = .ok () ⟨g₃, g₃, [g₁, g₂, g₃]⟩ ∧
      g₁.tables = ⟨Table.empty.insert ⟨some (uuid 0), some "Dajun Xian"⟩, .empty, .empty⟩ ∧
      g₂.tables = ⟨g₁.users,
        g₁.sections.insert ((createOneSection1 (fun i => uuid (1 + i))).toCD 0),
        g₁.products.insertAll ((createOneSection1 (fun i => uuid (1 + i))).products.map
          (·.toCD g₁.sections.next))⟩ ∧
      g₃.tables = ⟨g₂.users,
        g₂.sections.insert ((createOneSection2 (fun i => uuid (13 + i))).toCD 0),
        g₂.products.insertAll ((createOneSection2 (fun i => uuid (13 + i))).products.map
          (·.toCD g₂.sections.next))⟩ := by
  have unwrapped : ∀ st : CoreDataStack,
      st.context.users = Table.empty.insert ⟨some (uuid 0), some "Dajun Xian"⟩ →
      (forceUnwrap ((st.context.users.get? 0).bind CDUser.id)).run st = .ok (uuid 0) st := by
    intro st hst
    rw [(resolves_of_insert env hst rfl).1]
    rfl
  -- the first save: the user
  obtain ⟨g₁, hrun₁, htab₁⟩ :=
    UserRepository.run_createUser (uuid 0) "Dajun Xian" (.launch .empty)
  obtain ⟨hu₁, hs₁, _⟩ := Tables.mk.inj htab₁
  rw [CoreDataStack.commit_of_ne fun he => Table.insert_ne _ _ (by rw [← hu₁, he]; rfl)] at hrun₁
  change _ = EStateM.Result.ok 0 (CoreDataStack.mk g₁ g₁ [g₁]) at hrun₁
  -- the second save: the first section
  have hfetch₁ : SectionRepository.fetchCDUserById env (CoreDataStack.mk g₁ g₁ [g₁]).context
      (uuid 0) = some 0 := (resolves_of_insert env hu₁ rfl).2
  obtain ⟨g₂, hrun₂, htab₂⟩ := SectionRepository.run_createSection env hfetch₁
    (fits_createOneSection1 (fun i => uuid (1 + i)))
  obtain ⟨hu₂, hs₂, _⟩ := Tables.mk.inj htab₂
  rw [CoreDataStack.commit_of_ne fun he => Table.insert_ne _ _ (by rw [← hs₂, he])] at hrun₂
  change _ = EStateM.Result.ok () (CoreDataStack.mk g₂ g₂ [g₁, g₂]) at hrun₂
  -- the third save: the second section
  have hfetch₂ : SectionRepository.fetchCDUserById env (CoreDataStack.mk g₂ g₂ [g₁, g₂]).context
      (uuid 0) = some 0 := (resolves_of_insert env (hu₂.trans hu₁) rfl).2
  obtain ⟨g₃, hrun₃, htab₃⟩ := SectionRepository.run_createSection env hfetch₂
    (fits_createOneSection2 (fun i => uuid (13 + i)))
  obtain ⟨_, hs₃, _⟩ := Tables.mk.inj htab₃
  rw [CoreDataStack.commit_of_ne fun he => Table.insert_ne _ _ (by rw [← hs₃, he])] at hrun₃
  refine ⟨g₁, g₂, g₃, ?_, htab₁, htab₂, htab₃⟩
  rw [init, run_bind_ok (UserRepository.run_userExists _)]
  show (UserRepository.createUser (uuid 0) "Dajun Xian" >>= _).run _ = _
  rw [run_bind_ok hrun₁, run_bind_ok (Repo.run_context _), run_bind_ok (unwrapped _ hu₁),
    run_bind_ok hrun₂, run_bind_ok (Repo.run_context _), run_bind_ok (unwrapped _ (hu₂.trans hu₁))]
  exact hrun₃

end UserMetadata

open UserMetadata

variable {env : Environment}

/-- The store that the third save writes is seeded. -/
theorem seeded_of_tables {uuid : Nat → UUID} {g₁ g₂ g₃ : Graph}
    (htab₁ : g₁.tables = ⟨Table.empty.insert ⟨some (uuid 0), some "Dajun Xian"⟩, .empty, .empty⟩)
    (htab₂ : g₂.tables = ⟨g₁.users,
      g₁.sections.insert ((createOneSection1 (fun i => uuid (1 + i))).toCD 0),
      g₁.products.insertAll ((createOneSection1 (fun i => uuid (1 + i))).products.map
        (·.toCD g₁.sections.next))⟩)
    (htab₃ : g₃.tables = ⟨g₂.users,
      g₂.sections.insert ((createOneSection2 (fun i => uuid (13 + i))).toCD 0),
      g₂.products.insertAll ((createOneSection2 (fun i => uuid (13 + i))).products.map
        (·.toCD g₂.sections.next))⟩) : Seeded env g₃ := by
  obtain ⟨hu₁, hs₁, hp₁⟩ := Tables.mk.inj htab₁
  obtain ⟨hu₂, hs₂, hp₂⟩ := Tables.mk.inj htab₂
  obtain ⟨hu₃, hs₃, hp₃⟩ := Tables.mk.inj htab₃
  have hu : g₃.users = Table.empty.insert ⟨some (uuid 0), some "Dajun Xian"⟩ :=
    hu₃.trans (hu₂.trans hu₁)
  refine ⟨uuid 0, fun i => uuid (1 + i), fun i => uuid (13 + i), by rw [hu]; rfl, ?_, ?_, ?_⟩
  · rw [hs₃, hs₂, hs₁]; rfl
  · rw [hp₃, hp₂, hp₁, Table.length_insertAll, Table.length_insertAll]; rfl
  · intro sets
    have hfetch₁ := (resolves_of_insert env hu₁ rfl).2
    have hfetch₂ := (resolves_of_insert env (hu₂.trans hu₁) rfl).2
    have hnone : readByUser env g₁ (uuid 0) = 0 := by
      simp only [readByUser, hfetch₁, sectionRows, hs₁]; rfl
    rw [fetchSections_view, readByUser_new env htab₃ (fits_createOneSection2 _) hfetch₂,
      readByUser_new env htab₂ (fits_createOneSection1 _) hfetch₁, hnone]
    exact Multiset.cons_swap _ _ 0

/-- A launch finds a user and leaves the store as it is. -/
theorem launch_of_exists {store store' : Graph} {ev : LaunchEvent} (h : store.users.rows ≠ [])
    (hstep : LaunchStep env store ev store') : store' = store ∧ ¬ ev.Interrupts := by
  obtain ⟨st, hrun, hleaves⟩ := hstep
  obtain ⟨_, rfl⟩ := run_ok_inj hrun (run_init_of_exists env h ev.uuid)
  cases ev with
  | complete uuid => exact ⟨hleaves, id⟩
  | killed uuid saves =>
    cases saves with
    | zero => exact ⟨(Option.some.inj hleaves).symm, by rintro (h | h) <;> omega⟩
    | succ n => cases hleaves

/-- Seeding was begun and will not be finished: there is a user, and a section is missing. -/
def HalfSeeded (store : Graph) : Prop :=
  store.users.rows ≠ [] ∧ store.sections.rows.length < 2

/-- **What a launch on the empty store can leave.** -/
theorem launch_of_empty {store' : Graph} {ev : LaunchEvent}
    (hstep : LaunchStep env .empty ev store') :
    (store' = .empty ∧ ∃ uuid, ev = .killed uuid 0) ∨ (Seeded env store' ∧ ¬ ev.Interrupts) ∨
      (HalfSeeded store' ∧ ev.Interrupts) := by
  obtain ⟨st, hrun, hleaves⟩ := hstep
  obtain ⟨g₁, g₂, g₃, hrun', htab₁, htab₂, htab₃⟩ := run_init_of_empty env ev.uuid
  obtain ⟨_, rfl⟩ := run_ok_inj hrun hrun'
  have hseeded : Seeded env g₃ := seeded_of_tables htab₁ htab₂ htab₃
  obtain ⟨hu₁, hs₁, _⟩ := Tables.mk.inj htab₁
  obtain ⟨hu₂, hs₂, _⟩ := Tables.mk.inj htab₂
  cases ev with
  | complete uuid =>
    obtain rfl : store' = g₃ := hleaves
    exact Or.inr (Or.inl ⟨hseeded, id⟩)
  | killed uuid saves =>
    match saves, hleaves with
    | 0, hleaves => exact Or.inl ⟨(Option.some.inj hleaves).symm, uuid, rfl⟩
    | 1, hleaves =>
      obtain rfl := Option.some.inj hleaves
      exact Or.inr (Or.inr ⟨⟨by rw [hu₁]; simp, by rw [hs₁]; decide⟩, Or.inl rfl⟩)
    | 2, hleaves =>
      obtain rfl := Option.some.inj hleaves
      refine Or.inr (Or.inr ⟨⟨by rw [hu₂, hu₁]; simp, ?_⟩, Or.inr rfl⟩)
      rw [hs₂, hs₁]
      exact Nat.lt_succ_self 1
    | 3, hleaves =>
      obtain rfl := Option.some.inj hleaves
      exact Or.inr (Or.inl ⟨hseeded, by rintro (h | h) <;> omega⟩)
    | n + 4, hleaves => cases hleaves

/-! ### Every run of launches -/

theorem run_of_exists {store store' : Graph} {evs : List LaunchEvent}
    (h : Run (LaunchStep env) store evs store') (hstore : store.users.rows ≠ []) :
    store' = store ∧ ∀ ev ∈ evs, ¬ ev.Interrupts := by
  induction h with
  | nil => exact ⟨rfl, by simp⟩
  | cons hstep _ ih =>
    obtain ⟨rfl, hev⟩ := launch_of_exists hstore hstep
    obtain ⟨rfl, hevs⟩ := ih hstore
    exact ⟨rfl, List.forall_mem_cons.mpr ⟨hev, hevs⟩⟩

/-- **What a run of launches from the empty store can leave.** -/
theorem run_of_empty {store : Graph} {evs : List LaunchEvent}
    (h : Run (LaunchStep env) .empty evs store) :
    (store = .empty ∧ ∀ ev ∈ evs, ∃ uuid, ev = .killed uuid 0) ∨
      (Seeded env store ∧ ∀ ev ∈ evs, ¬ ev.Interrupts) ∨
      (HalfSeeded store ∧ ∃ ev ∈ evs, ev.Interrupts) := by
  induction evs with
  | nil =>
    obtain rfl := Run.nil_iff.mp h
    exact Or.inl ⟨rfl, by simp⟩
  | cons ev evs ih =>
    obtain ⟨mid, hstep, hrest⟩ := Run.cons_iff.mp h
    rcases launch_of_empty hstep with ⟨rfl, hev⟩ | ⟨hseeded, hev⟩ | ⟨hhalf, hev⟩
    · -- nothing was saved: the launches that follow start from the empty store again
      obtain ⟨uuid, rfl⟩ := hev
      rcases ih hrest with ⟨rfl, hevs⟩ | ⟨hs, hevs⟩ | ⟨hs, ev, hmem, hevs⟩
      · exact Or.inl ⟨rfl, List.forall_mem_cons.mpr ⟨⟨uuid, rfl⟩, hevs⟩⟩
      · exact Or.inr (Or.inl ⟨hs, List.forall_mem_cons.mpr ⟨by rintro (h | h) <;> omega, hevs⟩⟩)
      · exact Or.inr (Or.inr ⟨hs, ev, List.mem_cons_of_mem _ hmem, hevs⟩)
    · have husers : mid.users.rows ≠ [] := by
        obtain ⟨_, _, _, hrows, _⟩ := hseeded
        intro hnil
        rw [hnil] at hrows
        cases hrows
      obtain ⟨rfl, hevs⟩ := run_of_exists hrest husers
      exact Or.inr (Or.inl ⟨hseeded, List.forall_mem_cons.mpr ⟨hev, hevs⟩⟩)
    · obtain ⟨rfl, _⟩ := run_of_exists hrest hhalf.1
      exact Or.inr (Or.inr ⟨hhalf, ev, List.mem_cons_self, hev⟩)

/-- A launch that is not killed runs to the end, on every store that launches make. -/
theorem exists_complete {store : Graph} {evs : List LaunchEvent}
    (h : Run (LaunchStep env) .empty evs store) (uuid : Nat → UUID) :
    ∃ store', LaunchStep env store (.complete uuid) store' := by
  by_cases hstore : store.users.rows = []
  · rcases run_of_empty h with ⟨rfl, _⟩ | ⟨⟨_, _, _, hrows, _⟩, _⟩ | ⟨hhalf, _⟩
    · obtain ⟨_, _, g₃, hrun, _⟩ := run_init_of_empty env uuid
      exact ⟨g₃, _, hrun, rfl⟩
    · rw [hstore] at hrows
      cases hrows
    · exact absurd hstore hhalf.1
  · exact ⟨store, _, run_init_of_exists env hstore uuid, rfl⟩

/-- **When seeding completes exactly once.**  From the empty store a launch that
is not killed always runs to the end.  Over any run of launches the store is
seeded from the first complete launch on, if and only if no launch was killed
between its first and its third save, or none was complete. -/
theorem seeded_iff {store : Graph} {evs : List LaunchEvent}
    (h : Run (LaunchStep env) .empty evs store) :
    (∀ uuid, ∃ store', LaunchStep env store (.complete uuid) store') ∧
    ((∀ pre post mid, evs = pre ++ post → Run (LaunchStep env) .empty pre mid →
        (∃ uuid, .complete uuid ∈ pre) → Seeded env mid) ↔
      ((∃ uuid, .complete uuid ∈ evs) → ∀ ev ∈ evs, ¬ ev.Interrupts)) := by
  have later : ∀ {evs : List LaunchEvent} {store : Graph}, (∃ uuid, .complete uuid ∈ evs) →
      Run (LaunchStep env) .empty evs store →
      (Seeded env store ∧ ∀ ev ∈ evs, ¬ ev.Interrupts) ∨
        (HalfSeeded store ∧ ∃ ev ∈ evs, ev.Interrupts) := by
    rintro evs store ⟨uuid, hmem⟩ hrun
    rcases run_of_empty hrun with ⟨_, hevs⟩ | hs | hs
    · obtain ⟨_, he⟩ := hevs _ hmem
      cases he
    · exact Or.inl hs
    · exact Or.inr hs
  refine ⟨exists_complete h, ?_, ?_⟩
  · intro hall hcomplete
    rcases later hcomplete h with ⟨_, hevs⟩ | ⟨hhalf, _⟩
    · exact hevs
    · obtain ⟨_, _, _, _, hlen, _⟩ := hall evs [] store (List.append_nil _).symm h hcomplete
      have := hhalf.2
      omega
  · intro hcond pre post mid he hrun hcomplete
    rcases later hcomplete hrun with ⟨hs, _⟩ | ⟨_, ev, hmem, hev⟩
    · exact hs
    · obtain ⟨uuid, hc⟩ := hcomplete
      subst he
      exact absurd hev (hcond ⟨uuid, List.mem_append_left _ hc⟩ ev (List.mem_append_left _ hmem))

/-- A launch that is killed before its first save does no harm. -/
theorem seeded_iff_killedFirst :
    let uuid : Nat → UUID := fun i => BitVec.ofNat 128 i
    ∃ store, Run (LaunchStep default) .empty [.killed uuid 0, .complete uuid] store ∧
      Seeded default store := by
  intro uuid
  obtain ⟨g₁, g₂, g₃, hrun, _⟩ := run_init_of_empty default uuid
  have h : Run (LaunchStep default) .empty [.killed uuid 0, .complete uuid] g₃ :=
    .cons ⟨_, hrun, rfl⟩ (.cons ⟨_, hrun, rfl⟩ (.nil g₃))
  refine ⟨g₃, h, (seeded_iff h).2.mpr ?_ _ [] g₃ (List.append_nil _).symm h ⟨uuid, by simp⟩⟩
  intro _ ev hev
  rcases List.mem_cons.mp hev with rfl | hev
  · rintro (h | h) <;> omega
  · rcases List.mem_cons.mp hev with rfl | hev
    · exact id
    · cases hev

/-- The first launch is killed when the user was saved; the second runs to the
end, and leaves a user without sections. -/
theorem killed_after_user_not_seeded :
    let uuid : Nat → UUID := fun i => BitVec.ofNat 128 i
    ∃ store, Run (LaunchStep default) .empty [.killed uuid 1, .complete uuid] store ∧
      store.users.rows.length = 1 ∧ store.sections.rows = [] ∧ ¬ Seeded default store := by
  intro uuid
  obtain ⟨g₁, g₂, g₃, hrun, htab₁, _⟩ := run_init_of_empty default uuid
  obtain ⟨hu₁, hs₁, _⟩ := Tables.mk.inj htab₁
  have hsections : g₁.sections.rows = [] := by rw [hs₁]; rfl
  refine ⟨g₁, .cons ⟨_, hrun, rfl⟩ (.cons ⟨_, run_init_of_exists default ?_ uuid, rfl⟩ (.nil g₁)),
    by rw [hu₁]; rfl, hsections, ?_⟩
  · rw [hu₁]; simp
  · rintro ⟨_, _, _, _, hlen, _⟩
    rw [hsections] at hlen
    cases hlen

end InventoryApp
