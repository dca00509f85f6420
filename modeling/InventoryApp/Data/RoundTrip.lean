import InventoryApp.Data.Reads

/-!
# Writing a section and reading it back

`createSection` stores one section row and a row for each product
(`run_createSection`), and here the reads are taken over those rows.  The new
section has exactly the new products, because no product named its key before
(`productRows_next`); every other section keeps its products, because no new
product names it (`productRows_of_ne`).  `createSection_roundTrip` puts the two
together with what they mean for the reads of every user.
-/

namespace InventoryApp

open Lib SectionRepository

variable (env : Environment) {g g' : Graph}

/-- Rows that store products in range are read as those products. -/
theorem map_readProduct_of_toCD {products : List Product} (hfit : ∀ p ∈ products, p.Fits)
    {k : ObjectID} {rows : List (ObjectID × CDProduct)}
    (h : rows.map Prod.snd = products.map (·.toCD k)) :
    rows.map (readProduct env) = products := by
  induction products generalizing rows with
  | nil =>
    rw [List.map_nil, List.map_eq_nil_iff] at h
    rw [h, List.map_nil]
  | cons p products ih =>
    obtain ⟨r, rows', rfl, hr, hrows⟩ := List.map_eq_cons_iff.mp h
    rw [List.map_cons, ih (fun q hq => hfit q (List.mem_cons_of_mem _ hq)) hrows]
    have hs : p.StoredAs r.2 := hr ▸ p.storedAs_toCD (hfit p List.mem_cons_self) k
    rw [hs.readProduct_eq env]

section Created

/-! ### The rows after `createSection` -/

variable {sec : Section} {user : ObjectID}
  (htab : g'.tables = ⟨g.users, g.sections.insert (sec.toCD user),
    g.products.insertAll (sec.products.map (·.toCD g.sections.next))⟩)

include htab

theorem productRows_of_ne {k : ObjectID} (hk : k ≠ g.sections.next) :
    productRows g' k = productRows g k := by
  obtain ⟨_, _, hp⟩ := Tables.mk.inj htab
  rw [productRows, hp]
  refine Table.select_insertAll_of_false _ fun r hr => ?_
  obtain ⟨p, _, rfl⟩ := List.mem_map.mp hr
  simpa [Product.toCD] using hk.symm

theorem productRows_next :
    (productRows g' g.sections.next).map Prod.snd = sec.products.map (·.toCD g.sections.next) := by
  obtain ⟨_, _, hp⟩ := Tables.mk.inj htab
  rw [productRows, hp, Table.select_insertAll, g.select_next_sections, List.map_nil,
    List.nil_append, List.filter_eq_self.mpr]
  intro r hr
  obtain ⟨p, _, rfl⟩ := List.mem_map.mp hr
  simp [Product.toCD]

/-- The new record is read as the section it was made from. -/
theorem readSection_new (hfit : sec.Fits) :
    readSection env g' (g.sections.next, sec.toCD user) = some sec.view := by
  rw [readSection_eq_some]
  refine ⟨rfl, rfl, SortingRule.ofRawValue_rawValue _, toInt_ofInt hfit.1, ?_⟩
  rw [map_readProduct_of_toCD env hfit.2 (productRows_next htab)]
  rfl

/-- An old record is read as before. -/
theorem readSection_old {r : ObjectID × CDSection} (hr : r ∈ g.sections.rows) :
    readSection env g' r = readSection env g r :=
  readSection_congr env r.2
    (by rw [productRows_of_ne htab (Nat.ne_of_lt (g.sections.fresh r hr))])

theorem readById_new (hfit : sec.Fits) (hnew : ¬ Stored g.sections CDSection.id sec.id) :
    readById env g' sec.id = some sec.view := by
  obtain ⟨_, hs, _⟩ := Tables.mk.inj htab
  have hget : g'.sections.get? g.sections.next = some (sec.toCD user) := by
    rw [hs]
    exact g.sections.get?_insert.mpr (Or.inr ⟨rfl, rfl⟩)
  have hfetch : SectionRepository.fetchCDSectionById env g' sec.id = some g.sections.next := by
    refine fetchById_of_unique hget rfl fun k' r' hk' hid => ?_
    rw [hs, Table.get?_insert] at hk'
    rcases hk' with hk' | ⟨rfl, _⟩
    · exact absurd ⟨k', r', hk', hid⟩ hnew
    · rfl
  rw [readById, hfetch, Option.bind_some, hget, Option.bind_some, readSection_new env htab hfit]

theorem readById_old {id : UUID} (hid : id ≠ sec.id) : readById env g' id = readById env g id := by
  obtain ⟨_, hs, _⟩ := Tables.mk.inj htab
  have hfetch : SectionRepository.fetchCDSectionById env g' id
      = SectionRepository.fetchCDSectionById env g id := by
    refine congrArg List.head? (Table.fetch_congr env.fetchOrder ?_)
    rw [hs, Table.select_insert, if_neg (by simpa [Section.toCD] using hid.symm), List.append_nil]
  rw [readById, readById, hfetch]
  refine Option.bind_congr fun k hk => ?_
  obtain ⟨s, hg, _⟩ := fetchById_eq_some hk
  have hg' : g'.sections.get? k = some s := by
    rw [hs]
    exact g.sections.get?_insert.mpr (Or.inl hg)
  rw [hg, hg', Option.bind_some, Option.bind_some,
    readSection_old env htab (g.sections.get?_eq_some.mp hg)]

/-- The section rows of a user after the write. -/
theorem filterMap_sectionRows (hfit : sec.Fits) (u : ObjectID) :
    (sectionRows g' u).filterMap (readSection env g') =
      (sectionRows g u).filterMap (readSection env g) ++ if u = user then [sec.view] else [] := by
  obtain ⟨_, hs, _⟩ := Tables.mk.inj htab
  have hold : (sectionRows g u).filterMap (readSection env g')
      = (sectionRows g u).filterMap (readSection env g) :=
    List.filterMap_congr fun r hr => readSection_old env htab (g.sections.mem_select.mp hr).1
  rw [sectionRows, hs, Table.select_insert, List.filterMap_append]
  refine congrArg₂ (· ++ ·) hold ?_
  by_cases hu : u = user
  · simp [hu, readSection_new env htab hfit]
  · simp [hu, Ne.symm hu]

/-- The user's read gains exactly the section. -/
theorem readByUser_new (hfit : sec.Fits) {userId : UUID}
    (hfetch : fetchCDUserById env g userId = some user) :
    readByUser env g' userId = sec.view ::ₘ readByUser env g userId := by
  obtain ⟨hu, _, _⟩ := Tables.mk.inj htab
  have hfetch' : fetchCDUserById env g' userId = some user := by
    rw [fetchCDUserById, hu]; exact hfetch
  simp only [readByUser, hfetch, hfetch', filterMap_sectionRows env htab hfit, if_pos]
  rw [← Multiset.coe_add, Multiset.coe_singleton, Multiset.add_comm, Multiset.singleton_add]

/-- The read of another user id is as before. -/
theorem readByUser_other (hfit : sec.Fits) {userId other : UUID}
    (hfetch : fetchCDUserById env g userId = some user) (hne : other ≠ userId) :
    readByUser env g' other = readByUser env g other := by
  obtain ⟨hu, _, _⟩ := Tables.mk.inj htab
  have hsame : fetchCDUserById env g' other = fetchCDUserById env g other := by
    rw [fetchCDUserById, hu]; rfl
  unfold readByUser
  rw [hsame]
  cases hother : fetchCDUserById env g other with
  | none => rfl
  | some k =>
    -- the two ids differ, so they resolve to different records
    have hk : k ≠ user := by
      rintro rfl
      obtain ⟨r, hr, hid⟩ := fetchById_eq_some hother
      obtain ⟨r', hr', hid'⟩ := fetchById_eq_some hfetch
      rw [hr] at hr'
      obtain rfl := Option.some.inj hr'
      exact hne (Option.some.inj (hid.symm.trans hid'))
    simp only [filterMap_sectionRows env htab hfit, if_neg hk, List.append_nil]

end Created

/-! ### The round trip -/

/-- **Writing a section and reading it back loses nothing.**  The section comes
back under its id with its products rearranged into its order; its user's reads
gain exactly this section; the reads of every other user id and of every other
section id, and every record there was with its products, stay as they were. -/
theorem createSection_roundTrip {st : CoreDataStack} (userId : UUID) (sec : Section)
    (huser : Stored st.context.users CDUser.id userId)
    (hnew : ¬ Stored st.context.sections CDSection.id sec.id) (hfit : sec.Fits) :
    ∃ st', (createSection env userId sec).run st = .ok () st' ∧ st'.Saved ∧
      (∀ sets, ∃ sec', fetchSectionById env st'.context sets sec.id = some sec' ∧
        sec'.id = sec.id ∧ sec'.title = sec.title ∧ sec'.rule = sec.rule ∧
        sec'.sortingRule = sec.sortingRule ∧ sec'.products.Perm sec.products ∧
        sec.sortingRule.Ordered sec'.products) ∧
      (∀ sets sets', ((fetchSections env st'.context sets' userId).map Section.view :
          Multiset SectionView) =
        sec.view ::ₘ ((fetchSections env st.context sets userId).map Section.view :
          Multiset SectionView)) ∧
      (∀ otherId, otherId ≠ userId → ∀ sets sets',
        ((fetchSections env st'.context sets' otherId).map Section.view : Multiset SectionView) =
          ((fetchSections env st.context sets otherId).map Section.view :
            Multiset SectionView)) ∧
      (∀ otherId, otherId ≠ sec.id → ∀ sets sets',
        (fetchSectionById env st'.context sets' otherId).map Section.view =
          (fetchSectionById env st.context sets otherId).map Section.view) ∧
      st'.context.users = st.context.users ∧
      (∀ k s, st.context.sections.get? k = some s → st'.context.sections.get? k = some s ∧
        ∀ sets sets', (st'.context.productsOfSection sets' k).Perm
          (st.context.productsOfSection sets k)) ∧
      (∀ k p, st.context.products.get? k = some p → st'.context.products.get? k = some p) := by
  obtain ⟨user, hfetch⟩ := exists_fetchById env huser
  obtain ⟨g', hrun, htab⟩ := run_createSection env hfetch hfit
  obtain ⟨hu, hs, hp⟩ := Tables.mk.inj htab
  refine ⟨st.commit g', hrun, st.saved_commit g', ?_⟩
  simp only [CoreDataStack.context_commit, fetchSections_view, fetchSectionById_view]
  refine ⟨fun sets => ?_, fun _ _ => readByUser_new env htab hfit hfetch,
    fun _ hne _ _ => readByUser_other env htab hfit hfetch hne,
    fun _ hne _ _ => readById_old env htab hne, hu, fun k s h => ⟨?_, fun sets sets' => ?_⟩,
    fun k p h => ?_⟩
  · obtain ⟨sec', hread, hview, hord⟩ :=
      exists_of_readById env g' (readById_new env htab hfit hnew) sets
    obtain ⟨hid, ht, hrule, hr, hperm⟩ := Section.view_eq_iff.mp hview
    exact ⟨sec', hread, hid, ht, hrule, hr, hperm, hr ▸ hord⟩
  · rw [hs]; exact st.context.sections.get?_insert.mpr (Or.inl h)
  · have hk := Nat.ne_of_lt (st.context.sections.lt_next_of_get? h)
    refine (productsOfSection_perm g' sets' k).trans ?_
    rw [productRows_of_ne htab hk]
    exact (productsOfSection_perm st.context sets k).symm
  · rw [hp]; exact st.context.products.get?_insertAll_of_some h

/-- Two products with equal fields, stored for the one user of a new store. -/
theorem createSection_roundTrip_twoEggs :
    let egg : Product := ⟨1, "egg", "egg", 2, 11⟩
    let sec : Section := ⟨9, "fridge", 30, .oldestToNewest, [egg, egg]⟩
    let store := Graph.empty.insertUser.modifyUser 0 (fun u => { u with id := some 7 })
    ∃ st', (createSection default 7 sec).run (.launch store) = .ok () st' ∧
      ∀ sets, ∃ sec', fetchSectionById default st'.context sets 9 = some sec' ∧
        sec'.products.Perm [egg, egg] := by
  intro egg sec store
  have huser : Stored (CoreDataStack.launch store).context.users CDUser.id 7 :=
    ⟨0, ⟨some 7, none⟩, by decide, rfl⟩
  have hnew : ¬ Stored (CoreDataStack.launch store).context.sections CDSection.id sec.id := by
    rintro ⟨k, r, hr, _⟩
    cases hr
  obtain ⟨st', hrun, _, hread, _⟩ := createSection_roundTrip default 7 sec huser hnew (by decide)
  refine ⟨st', hrun, ?_⟩
  intro sets
  obtain ⟨sec', hf, _, _, _, _, hperm, _⟩ := hread sets
  exact ⟨sec', hf, hperm⟩

end InventoryApp
