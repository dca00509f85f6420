import InventoryApp.Inventory.InventoryViewController

/-!
# The main screen, from a fresh install

The first main screen that is set up seeds the store, and every one reads it.  An
`InstallEvent` is an event of the screens, or a kill: while a main screen is set up or
while a sort button is handled, when some of the saves are complete.

Nothing in the app but the seeding creates or edits a record, the sorting rules aside,
so what the first saves stored is what there is for good: `HasStarter` says this of the
store, and `StarterScreens` of the screens on it.  How many of the two sections there
are depends on when the first process that saved was killed, if it was.
-/

namespace InventoryApp

open Lib SectionRepository UserMetadata

variable {Image : Type} (imageNamed : String → Option Image) (env : Environment)

/-! ### Contents -/

/-- What a section has, whatever its order. -/
def SectionView.contents (v : SectionView) : UUID × String × Int × Multiset Product :=
  (v.id, v.title, v.rule, v.products)

/-- The sections that `UserMetadata.init` stores, in the order it does. -/
def UserMetadata.starterSections (uuid : Nat → UUID) : List Section :=
  [createOneSection1 fun i => uuid (1 + i), createOneSection2 fun i => uuid (13 + i)]

/-- The contents of the first `n` of them. -/
def UserMetadata.starterContents (uuid : Nat → UUID) (n : Nat) :
    Multiset (UUID × String × Int × Multiset Product) :=
  ((starterSections uuid).take n).map (·.view.contents)

/-- The contents of a screen's sections. -/
def InventoryViewController.contents (vc : InventoryViewController Image) :
    Multiset (UUID × String × Int × Multiset Product) :=
  vc.sectionViewControllers.map (·.section.view.contents)

/-- The calls of `UUID()` in `UserMetadata.init` give different values. -/
def UserMetadata.Distinct (uuid : Nat → UUID) : Prop :=
  ∀ i < 29, ∀ j < 29, uuid i = uuid j → i = j

/-- The user and the first `n` starter sections are stored. -/
structure HasStarter (env : Environment) (uuid : Nat → UUID) (n : Nat) (g : Graph) : Prop where
  user : g.users.rows.map Prod.snd = [⟨some (uuid 0), some "Dajun Xian"⟩]
  sections : (readByUser env g (uuid 0)).map SectionView.contents = starterContents uuid n

variable {env}

/-- A user's sections have the same contents when one of them gets another rule. -/
theorem contents_readByUser_of_sort {g g' : Graph} (hw : WellStored g.tables) {k : ObjectID}
    {rule : SortingRule} (htab : g'.tables = ⟨g.users,
      g.sections.modify k (fun s => { s with sortingRule := rule.rawValue }), g.products⟩)
    (userId : UUID) : (readByUser env g' userId).map SectionView.contents =
      (readByUser env g userId).map SectionView.contents := by
  obtain ⟨hu, hs, hp⟩ := Tables.mk.inj htab
  have hfetch : fetchCDUserById env g' userId = fetchCDUserById env g userId := by
    rw [fetchCDUserById, hu]; rfl
  unfold readByUser
  rw [hfetch]
  cases fetchCDUserById env g userId with
  | none => rfl
  | some user =>
    have hrows : sectionRows g' user = (sectionRows g user).map (fun r =>
        (r.1, if r.1 = k then { r.2 with sortingRule := rule.rawValue } else r.2)) := by
      rw [sectionRows, hs]
      refine g.sections.select_mapRows fun r _ => ?_
      split <;> rfl
    have hread : ∀ r, readSection env g' r = readSection env g r := fun r =>
      readSection_congr env r.2 (by rw [productRows, hp]; rfl)
    simp only [hrows, Multiset.map_coe, List.filterMap_map, List.map_filterMap]
    refine congrArg _ (List.filterMap_congr fun r hr => ?_)
    rw [Function.comp_apply, hread]
    by_cases hk : r.1 = k
    · obtain ⟨v, hv⟩ : ∃ v, readSection env g r = some v := by
        obtain ⟨⟨id, hid⟩, ⟨title, ht⟩, rule', hrule⟩ :=
          hw.sections r.1 r.2 (g.sections.get?_eq_some.mpr (g.sections.mem_select.mp hr).1)
        exact ⟨⟨id, title, r.2.rule.toInt, rule', (productRows g r.1).map (readProduct env)⟩,
          (readSection_eq_some env g).mpr
            ⟨hid, ht, by rw [hrule, SortingRule.ofRawValue_rawValue], rfl, rfl⟩⟩
      rw [if_pos hk, readSection_sortingRule env g hv, hv]
      rfl
    · rw [if_neg hk]

/-- **A sort leaves what is stored.** -/
theorem HasStarter.sort {uuid : Nat → UUID} {n : Nat} {st st' : CoreDataStack}
    (h : HasStarter env uuid n st.context) (hreach : NewIdReachable env st) {id : UUID}
    {rule : SortingRule} (hstep : NewIdStep env st (.setSectionSortingRule id rule) st') :
    HasStarter env uuid n st'.context := by
  obtain ⟨_, htab⟩ := step_cases env hreach.storeReachable.saved hstep.2.2
  simp only [Op.effect] at htab
  split at htab
  · rwa [Graph.tables_inj.mp htab]
  · obtain ⟨hu, _⟩ := Tables.mk.inj htab
    refine ⟨?_, ?_⟩
    · rw [hu]
      exact h.user
    · rw [contents_readByUser_of_sort hreach.coherent.wellStored htab]
      exact h.sections

/-! ### Seeding -/

/-- Ids that are not stored before a call, and not created by it, are not stored after it. -/
theorem not_stored_of_step {st st' : CoreDataStack} {op : Op} (hsaved : st.Saved)
    (hstep : Step env st op st') (id : UUID) :
    (¬ Stored st.context.sections CDSection.id id →
      (∀ sec, op.newSection = some sec → sec.id ≠ id) →
        ¬ Stored st'.context.sections CDSection.id id) ∧
    (¬ Stored st.context.products CDProduct.id id → (∀ p ∈ op.newProducts, p.id ≠ id) →
      ¬ Stored st'.context.products CDProduct.id id) := by
  obtain ⟨_, hs, hp⟩ := Tables.mk.inj (step_cases env hsaved hstep).2
  refine ⟨fun hnot hnew hst => ?_, fun hnot hnew hst => ?_⟩
  · rw [hs] at hst
    rcases (stored_sections_effect _ op id).2 hst with hst | ⟨sec, hsec, hid⟩
    · exact hnot hst
    · exact hnew sec hsec hid
  · rw [hp] at hst
    rcases (stored_products_effect _ op id).2 hst with hst | ⟨p, hmem, hid⟩
    · exact hnot hst
    · exact hnew p hmem hid

/-- A section is created by a call that creates under new ids only. -/
theorem newIdStep_createSection {r : CoreDataStack} (hsaved : r.Saved) {userId : UUID}
    {user : ObjectID} {sec : Section} {g' : Graph}
    (hfetch : fetchCDUserById env r.context userId = some user)
    (htab : g'.tables = ⟨r.context.users, r.context.sections.insert (sec.toCD user),
      r.context.products.insertAll (sec.products.map (·.toCD r.context.sections.next))⟩)
    (hfit : sec.Fits) (hfresh : (Op.createSection userId sec).Fresh r.context) :
    ∃ r', NewIdStep env r (.createSection userId sec) r' ∧ r'.Saved ∧ r'.context = g' := by
  obtain ⟨hstep, hsaved'⟩ :=
    newIdStep_final env r (.createSection userId sec) hsaved hfit hfresh trivial
  refine ⟨_, hstep, hsaved', Graph.tables_inj.mp ?_⟩
  rw [(step_cases env hsaved hstep.2.2).2, htab]
  simp only [Op.effect, hfetch]

section Seeding

variable {uuid : Nat → UUID} (h : UserMetadata.Distinct uuid)

include h

/-- Products whose ids are places of `UUID()` calls have different ids. -/
theorem nodup_ids {places : List Nat} (hplaces : ∀ i ∈ places, i < 29) (hnodup : places.Nodup) :
    (places.map uuid).Nodup :=
  hnodup.map_on fun i hi j hj => h i (hplaces i hi) j (hplaces j hj)

/-- The ids of two places differ. -/
theorem ids_ne {places : List Nat} (hplaces : ∀ i ∈ places, i < 29) {products : List Product}
    (hids : products.map Product.id = places.map uuid) {i : Nat} (hi : i < 29)
    (hnot : i ∉ places) : ∀ p ∈ products, p.id ≠ uuid i := by
  intro p hp heq
  have hmem : p.id ∈ places.map uuid := hids ▸ List.mem_map_of_mem hp
  obtain ⟨j, hj, hid⟩ := List.mem_map.mp hmem
  obtain rfl := h j (hplaces j hj) i hi (hid.trans heq)
  exact hnot hj

variable (env) in
/-- **The stores that the three saves of seeding leave.**  Each is reached by calls that
create under new ids, and has the user and the sections so far. -/
theorem exists_seeding :
    ∃ g₁ g₂ g₃, (UserMetadata.init env uuid).run (.launch .empty) =
        .ok () ⟨g₃, g₃, [g₁, g₂, g₃]⟩ ∧
      ∀ n g, [g₁, g₂, g₃][n]? = some g → HasStarter env uuid n g ∧
        ∃ r, NewIdReachable env r ∧ r.Saved ∧ r.context = g := by
  obtain ⟨g₁, g₂, g₃, hrun, htab₁, htab₂, htab₃⟩ := run_init_of_empty env uuid
  obtain ⟨hu₁, hs₁, hp₁⟩ := Tables.mk.inj htab₁
  obtain ⟨hu₂, hs₂, hp₂⟩ := Tables.mk.inj htab₂
  obtain ⟨hu₃, _, _⟩ := Tables.mk.inj htab₃
  have hfetch₁ := (resolves_of_insert env hu₁ rfl).2
  have hfetch₂ := (resolves_of_insert env (hu₂.trans hu₁) rfl).2
  -- the calls
  have hempty : CoreDataStack.Saved (.launch .empty) := rfl
  obtain ⟨hstep₁, hsaved₁⟩ := newIdStep_final env (.launch .empty)
    (.createUser (uuid 0) "Dajun Xian") hempty trivial
    ⟨fun _ hsec => absurd hsec (Option.not_mem_none _), List.nodup_nil,
      fun _ hp => absurd hp List.not_mem_nil⟩ (by rintro ⟨k, r, hr, _⟩; cases hr)
  obtain ⟨r₁, hr₁⟩ : ∃ r₁, r₁ = final (exec env (.createUser (uuid 0) "Dajun Xian"))
    (.launch .empty) := ⟨_, rfl⟩
  rw [← hr₁] at hstep₁ hsaved₁
  have hcontext₁ : r₁.context = g₁ :=
    Graph.tables_inj.mp ((step_cases env hempty hstep₁.2.2).2.trans htab₁.symm)
  subst hcontext₁
  have hsec₁ : ∀ id, ¬ Stored r₁.context.sections CDSection.id id := by
    rw [hs₁]
    rintro id ⟨k, r, hr, _⟩
    cases hr
  have hprod₁ : ∀ id, ¬ Stored r₁.context.products CDProduct.id id := by
    rw [hp₁]
    rintro id ⟨k, r, hr, _⟩
    cases hr
  have hplaces₁ : ∀ i ∈ List.range' 1 11, i < 29 := by decide
  obtain ⟨r₂, hstep₂, hsaved₂, rfl⟩ := newIdStep_createSection hsaved₁ hfetch₁ htab₂
    (fits_createOneSection1 _)
    ⟨fun _ _ => hsec₁ _, nodup_ids h hplaces₁ (by decide), fun _ _ => hprod₁ _⟩
  have hplaces₂ : ∀ i ∈ List.range' 13 15, i < 29 := by decide
  have hnew := not_stored_of_step hsaved₁ hstep₂.2.2
  have hsec₂ : ¬ Stored r₂.context.sections CDSection.id (uuid 28) := by
    refine (hnew _).1 (hsec₁ _) fun sec hsec hid => ?_
    cases hsec
    exact absurd (h 12 (by decide) 28 (by decide) hid) (by decide)
  have hprod₂ : ∀ p ∈ (createOneSection2 fun i => uuid (13 + i)).products,
      ¬ Stored r₂.context.products CDProduct.id p.id := by
    intro p hp
    have hmem : p.id ∈ (List.range' 13 15).map uuid := List.mem_map_of_mem (f := Product.id) hp
    obtain ⟨i, hi, hid⟩ := List.mem_map.mp hmem
    rw [← hid]
    refine (hnew _).2 (hprod₁ _) (ids_ne h hplaces₁ rfl (hplaces₂ i hi) fun hi' => ?_)
    rw [List.mem_range'_1] at hi hi'
    omega
  obtain ⟨r₃, hstep₃, hsaved₃, rfl⟩ := newIdStep_createSection hsaved₂ hfetch₂ htab₃
    (fits_createOneSection2 _)
    ⟨fun sec hsec => by cases hsec; exact hsec₂, nodup_ids h hplaces₂ (by decide), hprod₂⟩
  have hreach₁ : NewIdReachable env r₁ := ⟨_, .cons hstep₁ (.nil _)⟩
  have hreach₂ := hreach₁.step hstep₂
  -- the reads
  have husers₁ : r₁.context.users.rows.map Prod.snd = [⟨some (uuid 0), some "Dajun Xian"⟩] := by
    rw [hu₁]; rfl
  have hnone : readByUser env r₁.context (uuid 0) = 0 := by
    simp only [readByUser, hfetch₁, sectionRows, hs₁]; rfl
  have hread₂ := readByUser_new env htab₂ (fits_createOneSection1 _) hfetch₁
  have hread₃ := readByUser_new env htab₃ (fits_createOneSection2 _) hfetch₂
  rw [hnone] at hread₂
  rw [hread₂] at hread₃
  refine ⟨r₁.context, r₂.context, r₃.context, hrun, ?_⟩
  intro n g hg
  rcases n with _ | _ | _ | n
  · obtain rfl := Option.some.inj hg
    exact ⟨⟨husers₁, by rw [hnone]; rfl⟩, r₁, hreach₁, hsaved₁, rfl⟩
  · obtain rfl := Option.some.inj hg
    exact ⟨⟨by rw [hu₂, husers₁], by rw [hread₂]; rfl⟩, r₂, hreach₂, hsaved₂, rfl⟩
  · obtain rfl := Option.some.inj hg
    refine ⟨⟨by rw [hu₃, hu₂, husers₁], ?_⟩, r₃, hreach₂.step hstep₃, hsaved₃, rfl⟩
    rw [hread₃]
    exact Multiset.cons_swap _ _ 0
  · cases hg

end Seeding

/-! ### Events -/

/-- An event of the screens, or a kill inside one when `saves` of its saves are complete. -/
inductive InstallEvent
  | screen (ev : ScreenEvent)
  | killed (ev : ScreenEvent) (saves : Nat)

/-- The store on disk when `saves` of the saves on the way from `st` to `st'` are complete. -/
def CoreDataStack.DiskAfter (st st' : CoreDataStack) (saves : Nat) (disk : Graph) : Prop :=
  (st.persisted :: st'.saves.drop st.saves.length)[saves]? = some disk

variable (env) in
/-- An event whose handler returns, or would have returned; after a kill a new process
is launched on the disk. -/
inductive InstallStep : Screens Image → InstallEvent → Screens Image → Prop
  | screen {w w' : Screens Image} {ev : ScreenEvent} (hstep : ScreenStep imageNamed env w ev w') :
      InstallStep w (.screen ev) w'
  | killed {w w' : Screens Image} {ev : ScreenEvent} {saves : Nat} {disk : Graph}
      (hstep : ScreenStep imageNamed env w ev w')
      (hdisk : w.coreDataStack.DiskAfter w'.coreDataStack saves disk) :
      InstallStep w (.killed ev saves) ⟨[], .launch disk⟩

/-- On the empty store, the event saves the user and `n` starter sections. -/
def InstallEvent.Seeds (uuid : Nat → UUID) (n : Nat) : InstallEvent → Prop
  | screen (.setUp uuid' _ _ _) => uuid' = uuid ∧ n = 2
  | killed (.setUp uuid' _ _ _) saves => uuid' = uuid ∧ saves = n + 1
  | _ => False

variable {imageNamed}

/-- On a store with the user and `n` starter sections, every screen has just these. -/
structure StarterScreens (imageNamed : String → Option Image) (env : Environment)
    (uuid : Nat → UUID) (n : Nat) (w : Screens Image) (r : CoreDataStack) : Prop where
  on : ScreensOn imageNamed env w r
  starter : HasStarter env uuid n r.context
  screens : ∀ vc ∈ w.screens, vc.contents = starterContents uuid n

theorem HasStarter.users {uuid : Nat → UUID} {n : Nat} {g : Graph}
    (h : HasStarter env uuid n g) : g.users.rows ≠ [] := by
  intro hnil
  have huser := h.user
  rw [hnil] at huser
  cases huser

/-- A new process has no screens. -/
theorem HasStarter.launch {uuid : Nat → UUID} {n : Nat} {r : CoreDataStack}
    (h : HasStarter env uuid n r.context) (hreach : NewIdReachable env r) (hsaved : r.Saved) :
    StarterScreens imageNamed env uuid n ⟨[], .launch r.context⟩ r where
  on := ⟨⟨rfl, hsaved, rfl⟩, hreach, h.users, fun _ _ _ hpanel => by cases hpanel⟩
  starter := h
  screens _ hvc := absurd hvc List.not_mem_nil

/-- Another panel with the same contents changes no screen's contents. -/
theorem contents_setPanel {w : Screens Image} {i j : Nat} {panel panel' : SectionPanel Image}
    (hpanel : w.panel? i j = some panel)
    (hcontents : panel'.section.view.contents = panel.section.view.contents)
    {vc' : InventoryViewController Image} (hvc' : vc' ∈ (w.setPanel i j panel').screens) :
    ∃ vc ∈ w.screens, vc'.contents = vc.contents := by
  obtain ⟨k, hk⟩ := List.mem_iff_getElem?.mp hvc'
  rw [Screens.setPanel, List.getElem?_modify] at hk
  obtain ⟨vc, hvc, hmod⟩ := Option.map_eq_some_iff.mp hk
  refine ⟨vc, List.mem_of_getElem? hvc, ?_⟩
  by_cases hi : i = k
  · rw [if_pos hi] at hmod
    obtain ⟨vc₁, hvc₁, hj⟩ := Screens.panel?_eq_some.mp hpanel
    rw [hi] at hvc₁
    obtain rfl := Option.some.inj (hvc₁.symm.trans hvc)
    obtain ⟨hlt, _⟩ := List.getElem?_eq_some_iff.mp hj
    rw [← hmod, InventoryViewController.contents, List.map_set, hcontents]
    refine congrArg _ (List.ext_getElem? fun l => ?_)
    rw [List.getElem?_set, List.length_map]
    by_cases hl : j = l
    · rw [if_pos hl, ← hl, if_pos hlt, List.getElem?_map, hj]
      rfl
    · rw [if_neg hl]
  · rw [if_neg hi] at hmod
    rw [← hmod]

/-! ### What every event keeps -/

section Kept

variable {uuid : Nat → UUID} {n : Nat} {w : Screens Image} {r : CoreDataStack}
  (h : StarterScreens imageNamed env uuid n w r)

include h

/-- A screen that is set up shows the starter sections, and nothing is written. -/
theorem StarterScreens.setUp (uuid' : Nat → UUID) (fetched unknown : UUID) (reads : ScreenReads) :
    ∃ vc, (setupViews imageNamed env uuid' fetched unknown reads).run w.coreDataStack =
        .ok vc w.coreDataStack ∧ vc.contents = starterContents uuid n := by
  obtain ⟨vc, userId, hrun, hid, hviews, _⟩ := h.on.run_setupViews uuid' fetched unknown reads
  refine ⟨vc, hrun, ?_⟩
  -- the only user there is
  obtain rfl : userId = uuid 0 := by
    obtain ⟨u, _, hu⟩ := Option.bind_eq_some_iff.mp hid
    obtain ⟨row, hrow, hrowId⟩ := Option.bind_eq_some_iff.mp hu
    rw [← h.on.stands.context, Table.get?_eq_some] at hrow
    have hmem : row ∈ r.context.users.rows.map Prod.snd :=
      List.mem_map_of_mem (f := Prod.snd) hrow
    rw [h.starter.user, List.mem_singleton] at hmem
    rw [hmem] at hrowId
    exact (Option.some.inj hrowId).symm
  have hread := fetchSections_view env w.coreDataStack.context reads.listed (uuid 0)
  rw [← hviews, ← h.on.stands.context] at hread
  rw [← h.starter.sections, ← hread, Multiset.map_coe, List.map_map]
  rfl

/-- A tap rearranges a section, and saves at most once. -/
theorem StarterScreens.tap {i j : Nat} {panel : SectionPanel Image} {tap : SortTap}
    {vc' : SectionViewController Image} {st' : CoreDataStack} (hpanel : w.panel? i j = some panel)
    (hrun : (tap.handle imageNamed env panel.viewController).run w.coreDataStack = .ok vc' st') :
    ∃ r', StarterScreens imageNamed env uuid n
        { w.setPanel i j { panel with viewController := vc' } with coreDataStack := st' } r' ∧
      ∀ disk ∈ st'.saves.drop w.coreDataStack.saves.length, disk = r'.context := by
  obtain ⟨vc₁, st₁, r', hrun₁, hstep, hon, _, hread⟩ := h.on.tap hpanel tap
  obtain ⟨rfl, rfl⟩ := run_ok_inj hrun hrun₁
  have hshows := h.on.panels i j panel hpanel
  refine ⟨r', ⟨hon, h.starter.sort h.on.reach hstep, ?_⟩, ?_⟩
  · obtain ⟨v, hv, hview, _⟩ := hshows.stored
    rw [← hon.stands.context, readById_of_sort h.on.reach hstep, if_pos rfl, hv] at hread
    let panel' : SectionPanel Image := { panel with viewController := vc' }
    have hcontents : panel'.section.view.contents = panel.section.view.contents := by
      have hview' : panel'.section.view = { v with sortingRule := _ } :=
        (Option.some.inj hread).symm
      rw [hview', hview]
      rfl
    intro vc hvc
    obtain ⟨vc₀, hvc₀, heq⟩ := contents_setPanel hpanel hcontents hvc
    exact heq.trans (h.screens vc₀ hvc₀)
  · rw [h.on.stands.context] at hshows
    obtain ⟨_, st₂, hrun₂, hexec, _⟩ := hshows.tap tap
    obtain ⟨_, rfl⟩ := run_ok_inj hrun hrun₂
    obtain ⟨g, hcommit, _, hsaves⟩ := savedBy_of_fits env h.on.stands.saved
      (show (Op.setSectionSortingRule panel.section.id
        (tap.rule panel.section.sortingRule)).Fits from trivial)
    obtain ⟨_, rfl⟩ := run_ok_inj hexec hcommit
    intro disk hdisk
    rw [hon.stands.context, CoreDataStack.context_commit]
    refine (hsaves disk ?_).2
    rw [savedBy, final, hcommit]
    exact hdisk

/-- **Every event keeps the starter sections**, and what it saves on the way is what
it leaves. -/
theorem StarterScreens.screenStep {w' : Screens Image} {ev : ScreenEvent}
    (hstep : ScreenStep imageNamed env w ev w') :
    ∃ r', StarterScreens imageNamed env uuid n w' r' ∧
      ∀ disk ∈ w'.coreDataStack.saves.drop w.coreDataStack.saves.length, disk = r'.context := by
  have nothing : ∀ disk ∈ w.coreDataStack.saves.drop w.coreDataStack.saves.length,
      disk = r.context := by
    rw [List.drop_length]
    exact fun disk hdisk => absurd hdisk List.not_mem_nil
  obtain ⟨ops, r', hmakes, hcalls, hon⟩ := simulation_screens w r ev w' h.on hstep
  cases hstep with
  | @setUp uuid' fetched unknown reads vc st' hrun =>
    obtain ⟨vc₁, hrun₁, hcontents⟩ := h.setUp uuid' fetched unknown reads
    obtain ⟨rfl, rfl⟩ := run_ok_inj hrun hrun₁
    obtain rfl : ops = [] := hmakes
    obtain rfl := Run.nil_iff.mp hcalls
    refine ⟨r', ⟨hon, h.starter, fun vc' hvc' => ?_⟩, nothing⟩
    rcases List.mem_append.mp hvc' with hold | hnew
    · exact h.screens vc' hold
    · rw [List.mem_singleton.mp hnew]
      exact hcontents
  | @tap i j panel tap vc' st' hpanel hrun => exact h.tap hpanel hrun
  | @appear i j panel hpanel =>
    obtain rfl : ops = [] := hmakes
    obtain rfl := Run.nil_iff.mp hcalls
    refine ⟨r', ⟨hon, h.starter, fun vc' hvc' => ?_⟩, nothing⟩
    rw [(h.on.panels i j panel hpanel).viewDidAppear] at hvc'
    obtain ⟨vc, hvc, heq⟩ := contents_setPanel hpanel rfl hvc'
    exact heq.trans (h.screens vc hvc)
  | quit =>
    obtain rfl : ops = [] := hmakes
    obtain rfl := Run.nil_iff.mp hcalls
    refine ⟨r', ⟨hon, h.starter, fun _ hvc => absurd hvc List.not_mem_nil⟩, fun disk hdisk => ?_⟩
    rw [show CoreDataStack.saves (.launch w.coreDataStack.persisted) = [] from rfl,
      List.drop_nil] at hdisk
    cases hdisk

/-- **Every event of the install does.** -/
theorem StarterScreens.step {w' : Screens Image} {ev : InstallEvent}
    (hstep : InstallStep imageNamed env w ev w') :
    ∃ r', StarterScreens imageNamed env uuid n w' r' := by
  cases hstep with
  | screen hstep =>
    obtain ⟨r', h', _⟩ := h.screenStep hstep
    exact ⟨r', h'⟩
  | @killed w₁ ev saves disk hstep hdisk =>
    rcases List.mem_cons.mp (List.mem_of_getElem? hdisk) with rfl | hmem
    · -- killed before its first save
      have hcontext : w.coreDataStack.persisted = r.context :=
        h.on.stands.saved.trans h.on.stands.context.symm
      rw [hcontext]
      exact ⟨r, h.starter.launch h.on.reach h.on.stands.saved'⟩
    · obtain ⟨r', h', hsaves⟩ := h.screenStep hstep
      rw [hsaves disk hmem]
      exact ⟨r', h'.starter.launch h'.on.reach h'.on.stands.saved'⟩

end Kept

/-! ### The first event that saves -/

/-- On the empty store a main screen is set up as on the seeded one. -/
theorem run_setupViews_empty {uuid : Nat → UUID} (h : UserMetadata.Distinct uuid)
    (fetched unknown : UUID) (reads : ScreenReads) :
    ∃ vc g₁ g₂ g₃, (setupViews imageNamed env uuid fetched unknown reads).run (.launch .empty) =
        .ok vc ⟨g₃, g₃, [g₁, g₂, g₃]⟩ ∧
      (∃ r, StarterScreens imageNamed env uuid 2 ⟨[vc], ⟨g₃, g₃, [g₁, g₂, g₃]⟩⟩ r) ∧
      ∀ n disk, [g₁, g₂, g₃][n]? = some disk →
        ∃ r, StarterScreens imageNamed env uuid n ⟨[], .launch disk⟩ r := by
  obtain ⟨g₁, g₂, g₃, hinit, hstores⟩ := exists_seeding env h
  obtain ⟨hstarter, r, hreach, hsaved, rfl⟩ := hstores 2 g₃ rfl
  let seeded : Screens Image := ⟨[], ⟨r.context, r.context, [g₁, g₂, r.context]⟩⟩
  have hseeded : StarterScreens imageNamed env uuid 2 seeded r :=
    ⟨⟨⟨rfl, hsaved, rfl⟩, hreach, hstarter.users, fun _ _ _ hpanel => by cases hpanel⟩, hstarter,
      fun _ hvc => absurd hvc List.not_mem_nil⟩
  obtain ⟨vc, hrun, _⟩ := hseeded.setUp uuid fetched unknown reads
  obtain ⟨r', hr', _⟩ := hseeded.screenStep (.setUp hrun)
  refine ⟨vc, g₁, g₂, r.context, ?_, ⟨r', hr'⟩, ?_⟩
  · have husers : seeded.coreDataStack.context.users.rows ≠ [] := hstarter.users
    exact (run_bind_ok hinit).trans
      ((run_bind_ok (run_init_of_users husers uuid)).symm.trans hrun)
  · intro n disk hdisk
    obtain ⟨hstarter', r₁, hreach₁, hsaved₁, rfl⟩ := hstores n disk hdisk
    exact ⟨r₁, hstarter'.launch hreach₁ hsaved₁⟩

/-- What the first event on the empty store leaves. -/
theorem first_step {w : Screens Image} {ev : InstallEvent}
    (hstep : InstallStep imageNamed env ⟨[], .launch .empty⟩ ev w)
    (huuid : ∀ uuid n, ev.Seeds uuid n → UserMetadata.Distinct uuid) :
    w = ⟨[], .launch .empty⟩ ∧ (∀ uuid n, ¬ ev.Seeds uuid n) ∨
      ∃ uuid n r, ev.Seeds uuid n ∧ StarterScreens imageNamed env uuid n w r := by
  cases hstep with
  | @screen _ ev hstep =>
    cases hstep with
    | @setUp uuid fetched unknown reads vc st' hrun =>
      obtain ⟨_, _, _, _, hrun', ⟨r, hr⟩, _⟩ :=
        run_setupViews_empty (huuid uuid 2 ⟨rfl, rfl⟩) fetched unknown reads
      obtain ⟨rfl, rfl⟩ := run_ok_inj hrun hrun'
      exact Or.inr ⟨uuid, 2, r, ⟨rfl, rfl⟩, hr⟩
    | tap hpanel => cases hpanel
    | appear hpanel => cases hpanel
    | quit => exact Or.inl ⟨rfl, fun _ _ h => h⟩
  | @killed w₁ ev saves disk hstep hdisk =>
    cases hstep with
    | @setUp uuid fetched unknown reads vc st' hrun =>
      cases saves with
      | zero =>
        obtain rfl := Option.some.inj hdisk
        exact Or.inl ⟨rfl, fun _ n h => absurd h.2.symm (Nat.succ_ne_zero n)⟩
      | succ n =>
        obtain ⟨_, _, _, _, hrun', _, hstores⟩ :=
          run_setupViews_empty (huuid uuid n ⟨rfl, rfl⟩) fetched unknown reads
        obtain ⟨_, rfl⟩ := run_ok_inj hrun hrun'
        obtain ⟨r, hr⟩ := hstores n disk hdisk
        exact Or.inr ⟨uuid, n, r, ⟨rfl, rfl⟩, hr⟩
    | tap hpanel => cases hpanel
    | appear hpanel => cases hpanel
    | quit =>
      cases saves with
      | zero =>
        obtain rfl := Option.some.inj hdisk
        exact Or.inl ⟨rfl, fun _ _ h => h⟩
      | succ n => cases hdisk

/-! ### Every run -/

/-- **The starter inventory is there for good.**  The app is installed; main screens are
set up, sections are sorted on any of them and appear again, processes end, and are
killed at any save, in any order.  Until an event saves there is no screen and the
store is empty.  From then on the user and the sections that it saved are stored, both
starter sections if it was not killed between the saves: there is no other user, each
screen shows just these sections with the contents they were created with, in the
order of a rule, and a main screen can always be set up without a write. -/
theorem starter_inventory {evs : List InstallEvent} {w : Screens Image}
    (hrun : Run (InstallStep imageNamed env) ⟨[], .launch .empty⟩ evs w)
    (huuid : ∀ ev ∈ evs, ∀ uuid n, ev.Seeds uuid n → UserMetadata.Distinct uuid) :
    w = ⟨[], .launch .empty⟩ ∧ (∀ ev ∈ evs, ∀ uuid n, ¬ ev.Seeds uuid n) ∧
      (∀ uuid, UserMetadata.Distinct uuid → ∀ fetched unknown reads, ∃ w',
        ScreenStep imageNamed env w (.setUp uuid fetched unknown reads) w') ∨
    ∃ pre ev post uuid n, evs = pre ++ ev :: post ∧
      (∀ ev' ∈ pre, ∀ uuid' n', ¬ ev'.Seeds uuid' n') ∧ ev.Seeds uuid n ∧
      w.coreDataStack.Saved ∧ HasStarter env uuid n w.coreDataStack.context ∧
      (∀ vc ∈ w.screens, vc.contents = starterContents uuid n ∧
        ∀ panel ∈ vc.sectionViewControllers,
          panel.Shows imageNamed env w.coreDataStack.context) ∧
      ∀ uuid' fetched unknown reads, ∃ vc, ScreenStep imageNamed env w
        (.setUp uuid' fetched unknown reads) ⟨w.screens ++ [vc], w.coreDataStack⟩ := by
  induction evs with
  | nil =>
    obtain rfl := Run.nil_iff.mp hrun
    refine Or.inl ⟨rfl, fun _ hev => absurd hev List.not_mem_nil, ?_⟩
    intro uuid huuid fetched unknown reads
    obtain ⟨_, _, _, _, hsetUp, _⟩ := run_setupViews_empty huuid fetched unknown reads
    exact ⟨_, .setUp hsetUp⟩
  | cons ev evs ih =>
    obtain ⟨mid, hstep, hrest⟩ := Run.cons_iff.mp hrun
    rcases first_step hstep (huuid ev List.mem_cons_self) with ⟨rfl, hev⟩ | ⟨uuid, n, r, hev, hr⟩
    · -- nothing was saved, so what follows starts on the empty store again
      rcases ih hrest (fun ev' hev' => huuid ev' (List.mem_cons_of_mem _ hev')) with
        ⟨hw, hevs, hsetUp⟩ | ⟨pre, ev', post, uuid, n, rfl, hpre, hrest⟩
      · exact Or.inl ⟨hw, List.forall_mem_cons.mpr ⟨hev, hevs⟩, hsetUp⟩
      · exact Or.inr ⟨ev :: pre, ev', post, uuid, n, rfl, List.forall_mem_cons.mpr ⟨hev, hpre⟩,
          hrest⟩
    · obtain ⟨r', h⟩ := hrest.invariant (fun w => ∃ r, StarterScreens imageNamed env uuid n w r)
        (fun _ _ _ ⟨_, h⟩ hstep => h.step hstep) ⟨r, hr⟩
      refine Or.inr ⟨[], ev, evs, uuid, n, rfl, fun _ hpre => absurd hpre List.not_mem_nil, hev,
        h.on.stands.saved, ?_, fun vc hvc => ⟨h.screens vc hvc, ?_⟩, ?_⟩
      · rw [← h.on.stands.context]
        exact h.starter
      · intro panel hpanel
        obtain ⟨i, hi⟩ := List.mem_iff_getElem?.mp hvc
        obtain ⟨j, hj⟩ := List.mem_iff_getElem?.mp hpanel
        rw [← h.on.stands.context]
        exact h.on.panels i j panel (Screens.panel?_eq_some.mpr ⟨vc, hi, hj⟩)
      · intro uuid' fetched unknown reads
        obtain ⟨vc, hsetUp, _⟩ := h.setUp uuid' fetched unknown reads
        exact ⟨vc, .setUp hsetUp⟩

/-- The first process is killed before it saves the second section: the next one shows
the first section alone. -/
theorem starter_inventory_oneSection :
    let reads : ScreenReads := ⟨.inOrder, .inOrder, fun _ => .inOrder⟩
    let uuid : Nat → UUID := BitVec.ofNat 128
    let setUp : ScreenEvent := .setUp uuid 0 0 reads
    ∃ w, Run (InstallStep (fun _ : String => (none : Option Unit)) default) ⟨[], .launch .empty⟩
        [.killed setUp 2, .screen setUp] w ∧
      ∃ vc ∈ w.screens, vc.contents = starterContents uuid 1 := by
  intro reads uuid setUp
  have huuid : UserMetadata.Distinct uuid := by
    intro i hi j hj h
    have hmod : i % 2 ^ 128 = j % 2 ^ 128 := congrArg BitVec.toNat h
    omega
  have hseeds : ∀ ev ∈ [InstallEvent.killed setUp 2, .screen setUp], ∀ uuid' n,
      ev.Seeds uuid' n → UserMetadata.Distinct uuid' := by
    intro ev hev uuid' n h
    rcases List.mem_cons.mp hev with rfl | hev
    · exact h.1 ▸ huuid
    · obtain rfl := List.mem_singleton.mp hev
      exact h.1 ▸ huuid
  obtain ⟨_, _, g₂, _, hsetUp, _⟩ :=
    @run_setupViews_empty Unit (fun _ => none) default uuid huuid 0 0 reads
  have hkilled : Run (InstallStep (fun _ : String => (none : Option Unit)) default)
      ⟨[], .launch .empty⟩ [.killed setUp 2] ⟨[], .launch g₂⟩ :=
    .cons (.killed (.setUp hsetUp) rfl) (.nil _)
  -- the second process sets up a screen
  rcases starter_inventory hkilled
      fun ev hev => hseeds ev (List.mem_cons.mpr (Or.inl (List.mem_singleton.mp hev))) with
    ⟨_, hnot, _⟩ | ⟨_, _, _, _, _, _, _, _, _, _, _, hsetUp'⟩
  · exact absurd ⟨rfl, rfl⟩ (hnot _ (List.mem_singleton.mpr rfl) uuid 1)
  · obtain ⟨vc', hstep'⟩ := hsetUp' uuid 0 0 reads
    have hrun := hkilled.append (.cons (.screen hstep') (.nil _))
    refine ⟨_, hrun, vc', List.mem_append_right _ (List.mem_singleton.mpr rfl), ?_⟩
    rcases starter_inventory hrun hseeds with
      ⟨_, hnot, _⟩ | ⟨pre, ev, _, uuid', n, hevs, hpre, hev, _, _, hscreens, _⟩
    · exact absurd ⟨rfl, rfl⟩ (hnot _ List.mem_cons_self uuid 1)
    · cases pre with
      | nil =>
        cases hevs
        obtain ⟨rfl, hn⟩ := hev
        obtain rfl : n = 1 := (Nat.succ.inj hn).symm
        exact (hscreens vc' (List.mem_append_right _ (List.mem_singleton.mpr rfl))).1
      | cons ev' pre =>
        obtain ⟨rfl, _⟩ := List.cons.inj hevs
        exact absurd ⟨rfl, rfl⟩ (hpre _ List.mem_cons_self uuid 1)

end InventoryApp
