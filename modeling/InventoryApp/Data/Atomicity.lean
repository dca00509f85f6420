import InventoryApp.Data.Repository.SectionRepository

/-!
# All-or-nothing writes

A write inserts, assigns and narrows in turn, so an `Int16` conversion can trap
when half of the change stands in the context already: after any attribute of
any product of a list.  Only `saveContext` reaches the disk, and each write
calls it last.  So a trap finds the store unwritten (`Unwritten`), and
`AllOrNothing` says this together with the exact condition of the trap.

Everything before the save is a chain of `Checks` that keeps `Unwritten`.
`checks_insertCDProduct` is its one link with two conversions, the loop of
`createSection` makes that check at every product, and `allOrNothing_of_checks`
closes the chain with the save.
-/

namespace InventoryApp

open Lib Repo

/-- Nothing was saved between the two stacks. -/
def Unwritten (st st' : CoreDataStack) : Prop :=
  st'.persisted = st.persisted ∧ st'.saves = st.saves

/-- A write that traps exactly if `fails`: a trap leaves the disk as it was, and
without one nothing is left unsaved. -/
def AllOrNothing (write : Repo Unit) (st : CoreDataStack) (fails : Prop) : Prop :=
  match write.run st with
  | .ok _ st' => ¬ fails ∧ st'.Saved
  | .error trap st' => fails ∧ trap = .int16Conversion ∧ Unwritten st st'

/-- A program that works on the context and traps, before it saves, unless `C`. -/
abbrev Drafts {α : Type} (st : CoreDataStack) (C : Prop) (x : Repo α) : Prop :=
  Checks (Unwritten st) .int16Conversion C (Unwritten st) x

variable (env : Environment) (st : CoreDataStack)

/-! ### The links of the chain -/

theorem drafts_int16 (x : Int) : Drafts st (FitsInt16 x) (int16 x) := by
  intro s hs
  by_cases h : FitsInt16 x
  · exact Or.inl ⟨h, _, s, run_int16_ok h s, hs⟩
  · exact Or.inr ⟨h, s, run_int16_error h s, hs⟩

theorem keeps_modifyContext (f : Graph → Graph) : Keeps (Unwritten st) (modifyContext f) :=
  fun s hs => ⟨(), _, run_modifyContext f s, hs⟩

theorem keeps_newCDProduct : Keeps (Unwritten st) newCDProduct :=
  fun s hs => ⟨_, _, run_newCDProduct s, hs⟩

theorem keeps_newCDSection : Keeps (Unwritten st) newCDSection :=
  fun s hs => ⟨_, _, run_newCDSection s, hs⟩

/-- **A product is narrowed twice, between changes of the context.** -/
theorem drafts_insertCDProduct (product : Product) (cdSection : ObjectID) :
    Drafts st product.Fits (insertCDProduct product cdSection) := by
  refine .step (keeps_newCDProduct st) fun cdProduct => ?_
  refine .step (keeps_modifyContext st _) fun _ => ?_
  refine .step (keeps_modifyContext st _) fun _ => ?_
  refine .step (keeps_modifyContext st _) fun _ => ?_
  refine .bind (drafts_int16 st product.quantity) fun quantity => ?_
  refine .step (keeps_modifyContext st _) fun _ => ?_
  refine (Checks.bind (drafts_int16 st product.remainingDays) fun remainingDays => ?_).congr
    (iff_of_eq (and_true _))
  refine .step (keeps_modifyContext st _) fun _ => ?_
  exact .of_run (keeps_modifyContext st _)

/-- The loop narrows every product of the list. -/
theorem drafts_mapProductsToCDProducts (products : List Product) (cdSection : ObjectID) :
    Drafts st (∀ p ∈ products, p.Fits)
      (SectionRepository.mapProductsToCDProducts products cdSection) :=
  .forM (fun product => drafts_insertCDProduct st product cdSection) products

/-- **A chain that ends in the save is all or nothing.** -/
theorem allOrNothing_of_checks {write : Repo Unit} {C : Prop}
    (h : Checks (Unwritten st) .int16Conversion C CoreDataStack.Saved write) :
    AllOrNothing write st (¬ C) := by
  unfold AllOrNothing
  rcases h st ⟨rfl, rfl⟩ with ⟨hc, a, t, hr, hs⟩ | ⟨hc, t, hr, hs⟩
  · rw [hr]
    exact ⟨not_not.mpr hc, hs⟩
  · rw [hr]
    exact ⟨hc, rfl, hs⟩

theorem checks_saveContext :
    Checks (Unwritten st) .int16Conversion True CoreDataStack.Saved saveContext :=
  .of_run fun s _ => ⟨(), _, run_saveContext s, s.saved_commit _⟩

/-- A write that looks up its object first, and returns when there is none. -/
theorem allOrNothing_of_lookUp {ρ : Type} {table : Table ρ} {idOf : ρ → Option UUID} {id : UUID}
    {write : Repo Unit} {C : Prop} (hsaved : st.Saved)
    (hnone : fetchById env table idOf id = none → write.run st = .ok () st)
    (hfound : ∀ k, fetchById env table idOf id = some k → AllOrNothing write st (¬ C)) :
    AllOrNothing write st (Stored table idOf id ∧ ¬ C) := by
  by_cases h : Stored table idOf id
  · obtain ⟨k, hk⟩ := exists_fetchById env h
    rw [and_iff_right h]
    exact hfound k hk
  · unfold AllOrNothing
    rw [hnone (fetchById_eq_none.mpr h)]
    exact ⟨fun hf => h hf.1, hsaved⟩

/-! ### The four writes -/

theorem allOrNothing_createProduct (hsaved : st.Saved) (sectionId : UUID) (product : Product) :
    AllOrNothing (ProductRepository.createProduct env sectionId product) st
      (Stored st.context.sections CDSection.id sectionId ∧ ¬ product.Fits) := by
  refine allOrNothing_of_lookUp env st hsaved (ProductRepository.run_createProduct_of_none env) ?_
  intro cdSection
    (hk : ProductRepository.fetchCDSectionById env st.context sectionId = some cdSection)
  unfold AllOrNothing
  rw [ProductRepository.createProduct, run_bind_ok (run_context st)]
  simp only [hk]
  refine allOrNothing_of_checks st ((Checks.bind
    (drafts_insertCDProduct st product cdSection) fun _ => ?_).congr (iff_of_eq (and_true _)))
  exact checks_saveContext st

theorem allOrNothing_updateProduct (hsaved : st.Saved) (product : Product) :
    AllOrNothing (ProductRepository.updateProduct env product) st
      (Stored st.context.products CDProduct.id product.id ∧ ¬ product.Fits) := by
  refine allOrNothing_of_lookUp env st hsaved (ProductRepository.run_updateProduct_of_none env) ?_
  intro cdProduct
    (hk : ProductRepository.fetchCDProductById env st.context product.id = some cdProduct)
  unfold AllOrNothing
  rw [ProductRepository.updateProduct, run_bind_ok (run_context st)]
  simp only [hk]
  refine allOrNothing_of_checks st ?_
  refine .step (keeps_modifyContext st _) fun _ => ?_
  refine .step (keeps_modifyContext st _) fun _ => ?_
  refine .bind (drafts_int16 st product.quantity) fun quantity => ?_
  refine .step (keeps_modifyContext st _) fun _ => ?_
  refine (Checks.bind (drafts_int16 st product.remainingDays) fun remainingDays => ?_).congr
    (iff_of_eq (and_true _))
  refine .step (keeps_modifyContext st _) fun _ => ?_
  exact checks_saveContext st

/-- The rule is narrowed before the products, and the user is related after them. -/
theorem allOrNothing_createSection (hsaved : st.Saved) (userId : UUID) (sec : Section) :
    AllOrNothing (SectionRepository.createSection env userId sec) st
      (Stored st.context.users CDUser.id userId ∧ ¬ sec.Fits) := by
  refine allOrNothing_of_lookUp env st hsaved (SectionRepository.run_createSection_of_none env) ?_
  intro user (hk : SectionRepository.fetchCDUserById env st.context userId = some user)
  unfold AllOrNothing
  rw [SectionRepository.createSection, run_bind_ok (run_context st)]
  simp only [hk]
  refine allOrNothing_of_checks st ?_
  refine .step (keeps_newCDSection st) fun cdSection => ?_
  refine .step (keeps_modifyContext st _) fun _ => ?_
  refine .step (keeps_modifyContext st _) fun _ => ?_
  refine .bind (drafts_int16 st sec.rule) fun rule => ?_
  refine .step (keeps_modifyContext st _) fun _ => ?_
  refine .step (keeps_modifyContext st _) fun _ => ?_
  refine (Checks.bind (drafts_mapProductsToCDProducts st sec.products cdSection)
    fun _ => ?_).congr (iff_of_eq (and_true _))
  refine .step (keeps_modifyContext st _) fun _ => ?_
  exact checks_saveContext st

theorem allOrNothing_updateSection (hsaved : st.Saved) (sec : Section) :
    AllOrNothing (SectionRepository.updateSection env sec) st
      (Stored st.context.sections CDSection.id sec.id ∧ ¬ FitsInt16 sec.rule) := by
  refine allOrNothing_of_lookUp env st hsaved (SectionRepository.run_updateSection_of_none env) ?_
  intro cdSection (hk : SectionRepository.fetchCDSectionById env st.context sec.id = some cdSection)
  unfold AllOrNothing
  rw [SectionRepository.updateSection, run_bind_ok (run_context st)]
  simp only [hk]
  refine allOrNothing_of_checks st ?_
  refine .step (keeps_modifyContext st _) fun _ => ?_
  refine (Checks.bind (drafts_int16 st sec.rule) fun rule => ?_).congr (iff_of_eq (and_true _))
  refine .step (keeps_modifyContext st _) fun _ => ?_
  refine .step (keeps_modifyContext st _) fun _ => ?_
  exact checks_saveContext st

/-- **Failing writes are all-or-nothing.**  On a stack with nothing unsaved, each
of the four writes either leaves nothing unsaved or traps in a narrowing with the
disk as it was, and it traps exactly if the object it looks up is stored and a
value it narrows is out of range. -/
theorem writes_allOrNothing (hsaved : st.Saved) :
    (∀ sectionId product, AllOrNothing (ProductRepository.createProduct env sectionId product) st
      (Stored st.context.sections CDSection.id sectionId ∧
        (¬ FitsInt16 product.quantity ∨ ¬ FitsInt16 product.remainingDays))) ∧
    (∀ product, AllOrNothing (ProductRepository.updateProduct env product) st
      (Stored st.context.products CDProduct.id product.id ∧
        (¬ FitsInt16 product.quantity ∨ ¬ FitsInt16 product.remainingDays))) ∧
    (∀ userId sec, AllOrNothing (SectionRepository.createSection env userId sec) st
      (Stored st.context.users CDUser.id userId ∧ (¬ FitsInt16 sec.rule ∨
        ∃ p ∈ sec.products, ¬ FitsInt16 p.quantity ∨ ¬ FitsInt16 p.remainingDays))) ∧
    (∀ sec, AllOrNothing (SectionRepository.updateSection env sec) st
      (Stored st.context.sections CDSection.id sec.id ∧ ¬ FitsInt16 sec.rule)) := by
  have product_fits (p : Product) : (¬ FitsInt16 p.quantity ∨ ¬ FitsInt16 p.remainingDays) =
      ¬ p.Fits := propext not_and_or.symm
  have section_fits (sec : Section) : (¬ FitsInt16 sec.rule ∨ ∃ p ∈ sec.products, ¬ p.Fits) =
      ¬ sec.Fits := by
    simp only [Section.Fits, not_and_or, not_forall, exists_prop]
  simp only [product_fits, section_fits]
  exact ⟨allOrNothing_createProduct env st hsaved, allOrNothing_updateProduct env st hsaved,
    allOrNothing_createSection env st hsaved, allOrNothing_updateSection env st hsaved⟩

/-- A new section whose second product is out of range: the store stays as it was. -/
theorem writes_allOrNothing_overflow :
    let sec : Section :=
      ⟨9, "fridge", 30, .newestToOldest, [⟨1, "egg", "egg", 2, 11⟩, ⟨2, "milk", "milk", 40000, 3⟩]⟩
    let store := Graph.empty.insertUser.modifyUser 0 (fun u => { u with id := some 7 })
    ∃ st', (SectionRepository.createSection default 7 sec).run (.launch store)
        = .error .int16Conversion st' ∧ st'.persisted = store := by
  intro sec store
  have huser : Stored (CoreDataStack.launch store).context.users CDUser.id 7 :=
    ⟨0, ⟨some 7, none⟩, by decide, rfl⟩
  have hmilk : ∃ p ∈ sec.products, ¬ FitsInt16 p.quantity ∨ ¬ FitsInt16 p.remainingDays := by
    decide
  have h := (writes_allOrNothing default (.launch store) rfl).2.2.1 7 sec
  unfold AllOrNothing at h
  cases hr : (SectionRepository.createSection default 7 sec).run (.launch store) with
  | ok a st' =>
    rw [hr] at h
    exact absurd ⟨huser, Or.inr hmilk⟩ h.1
  | error trap st' =>
    rw [hr] at h
    obtain ⟨_, rfl, hdisk, _⟩ := h
    exact ⟨st', rfl, hdisk⟩

end InventoryApp
