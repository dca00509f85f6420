import InventoryApp.Data.Repository.ProductRepository

/-!
# `SectionRepository`

`createSection` stores a section with its products under a user, and
`fetchSections` and `fetchSectionById` read sections back: through the order
`sets` in which the to-many sets enumerate, the decoding of the sorting rule and
the sort it names.  A section without id or title, or with an unknown sorting
rule, is dropped (`mapCDSectionToSection`), while a product with a missing field
is given a default (`mapCDProductsToProducts`).
-/

namespace InventoryApp

open Lib Repo

/-- What a section of a user is stored as. -/
def Section.toCD (s : Section) (user : ObjectID) : CDSection where
  id := some s.id
  rule := Int16.ofInt s.rule
  sortingRule := s.sortingRule.rawValue
  title := some s.title
  user := some user

@[simp] theorem Section.user_toCD (s : Section) (user : ObjectID) :
    (s.toCD user).user = some user := rfl

namespace SectionRepository

variable (env : Environment)

def fetchCDUserById (g : Graph) (id : UUID) : Option ObjectID :=
  fetchById env g.users CDUser.id id

def fetchCDSectionById (g : Graph) (id : UUID) : Option ObjectID :=
  fetchById env g.sections CDSection.id id

def mapProductsToCDProducts (products : List Product) (cdSection : ObjectID) : Repo Unit :=
  forM products fun product => insertCDProduct product cdSection

def createSection (userId : UUID) (sec : Section) : Repo Unit := do
  let some user := fetchCDUserById env (← context) userId | return
  let cdSection ← newCDSection
  modifyContext (·.modifySection cdSection (fun s => { s with id := some sec.id }))
  modifyContext (·.modifySection cdSection (fun s => { s with title := some sec.title }))
  let rule ← int16 sec.rule
  modifyContext (·.modifySection cdSection (fun s => { s with rule := rule }))
  modifyContext (·.modifySection cdSection
    (fun s => { s with sortingRule := sec.sortingRule.rawValue }))
  mapProductsToCDProducts sec.products cdSection
  modifyContext (·.addToSections user cdSection)
  saveContext

def mapCDProductsToProducts (cdProducts : List (ObjectID × CDProduct)) : List Product :=
  cdProducts.map fun (k, cdProduct) =>
    { id := cdProduct.id.getD (env.uuid k)
      title := cdProduct.title.getD "Unknown"
      picture := cdProduct.picture.getD "default_image"
      quantity := cdProduct.quantity.toInt
      remainingDays := cdProduct.remainingDays.toInt }

def mapCDSectionToSection (g : Graph) (sets : Arrangement)
    (cdSection : Option (ObjectID × CDSection)) : Option Section := do
  let (k, cdSection) ← cdSection
  let id ← cdSection.id
  let title ← cdSection.title
  let rule := cdSection.rule.toInt
  let sortingRuleValue := cdSection.sortingRule.toInt
  let sortingRule ← SortingRule.ofRawValue (Int16.ofInt sortingRuleValue)
  let products := sorted sortingRule.areInIncreasingOrder
    (mapCDProductsToProducts env (g.productsOfSection sets k))
  return { id, title, rule, sortingRule, products }

def fetchSections (g : Graph) (sets : Arrangement) (userId : UUID) : List Section :=
  match fetchCDUserById env g userId with
  | none => []
  | some user =>
    (g.sectionsOfUser sets user).filterMap (fun r => mapCDSectionToSection env g sets (some r))

def updateSection (sec : Section) : Repo Unit := do
  let some cdSection := fetchCDSectionById env (← context) sec.id | return
  modifyContext (·.modifySection cdSection (fun s => { s with title := some sec.title }))
  let rule ← int16 sec.rule
  modifyContext (·.modifySection cdSection (fun s => { s with rule := rule }))
  modifyContext (·.modifySection cdSection
    (fun s => { s with sortingRule := sec.sortingRule.rawValue }))
  saveContext

def fetchSectionById (g : Graph) (sets : Arrangement) (id : UUID) : Option Section :=
  match fetchCDSectionById env g id with
  | none => none
  | some cdSection =>
    mapCDSectionToSection env g sets ((g.sections.get? cdSection).map (fun s => (cdSection, s)))

def setSectionSortingRule (sectionId : UUID) (rule : SortingRule) : Repo Unit := do
  let some cdSection := fetchCDSectionById env (← context) sectionId | return
  modifyContext (·.modifySection cdSection (fun s => { s with sortingRule := rule.rawValue }))
  saveContext

/-! ### What each operation does -/

theorem run_mapProductsToCDProducts {products : List Product} (hfit : ∀ p ∈ products, p.Fits)
    (cdSection : ObjectID) (st : CoreDataStack) (hs : cdSection ∈ st.context.sections.keys) :
    ∃ g, (mapProductsToCDProducts products cdSection).run st = .ok () { st with context := g } ∧
      g.tables = ⟨st.context.users, st.context.sections,
        st.context.products.insertAll (products.map (·.toCD cdSection))⟩ := by
  induction products generalizing st with
  | nil => exact ⟨st.context, rfl, rfl⟩
  | cons product products ih =>
    obtain ⟨g, hr, hg⟩ := run_insertCDProduct (hfit product List.mem_cons_self) st hs
    obtain ⟨hu, hsec, hp⟩ := Tables.mk.inj hg
    obtain ⟨g', hr', hg'⟩ := ih (fun p hp => hfit p (List.mem_cons_of_mem _ hp))
      { st with context := g } (by simpa [hsec] using hs)
    refine ⟨g', ?_, ?_⟩
    · rw [mapProductsToCDProducts, List.forM_cons, run_bind_ok hr]
      exact hr'
    · rw [hg', hu, hsec, hp]
      rfl

theorem run_createSection_of_none {userId : UUID} {sec : Section} {st : CoreDataStack}
    (h : fetchCDUserById env st.context userId = none) :
    (createSection env userId sec).run st = .ok () st := by
  rw [createSection, run_bind_ok (run_context st)]
  simp only [h]
  rfl

/-- **A section in range is stored as one new row under its user, and each of
its products as one new row under the section.** -/
theorem run_createSection {userId : UUID} {sec : Section} {st : CoreDataStack} {user : ObjectID}
    (h : fetchCDUserById env st.context userId = some user) (hfit : sec.Fits) :
    ∃ g, (createSection env userId sec).run st = .ok () (st.commit g) ∧
      g.tables = ⟨st.context.users, st.context.sections.insert (sec.toCD user),
        st.context.products.insertAll (sec.products.map (·.toCD st.context.sections.next))⟩ := by
  obtain ⟨u, hu, _⟩ := fetchById_eq_some h
  have hlive := st.context.users.mem_keys_iff_get?.mpr ⟨u, hu⟩
  -- the context when the loop over the products starts: the section without its user
  let g₁ := (((st.context.insertSection.modifySection st.context.sections.next
    (fun s => { s with id := some sec.id })).modifySection st.context.sections.next
    (fun s => { s with title := some sec.title })).modifySection st.context.sections.next
    (fun s => { s with rule := Int16.ofInt sec.rule })).modifySection st.context.sections.next
    (fun s => { s with sortingRule := sec.sortingRule.rawValue })
  have hsec₁ : g₁.sections = st.context.sections.insert { sec.toCD user with user := none } := by
    simp [g₁, Section.toCD]
  obtain ⟨g, hr, hg⟩ := run_mapProductsToCDProducts hfit.2 st.context.sections.next
    { st with context := g₁ } (by simp [hsec₁])
  obtain ⟨hu, hsec, hp⟩ := Tables.mk.inj hg
  refine ⟨g.addToSections user st.context.sections.next, ?_, ?_⟩
  · rw [createSection, run_bind_ok (run_context st)]
    simp only [h]
    rw [run_bind_ok (run_newCDSection st), run_bind_ok (run_modifyContext _ _),
      run_bind_ok (run_modifyContext _ _), run_bind_ok (run_int16_ok hfit.1 _),
      run_bind_ok (run_modifyContext _ _), run_bind_ok (run_modifyContext _ _), run_bind_ok hr,
      run_bind_ok (run_modifyContext _ _), run_saveContext, commit_context]
    rfl
  · have hulive : user ∈ g.users.keys := by rw [hu]; exact hlive
    rw [Graph.tables, Graph.users_addToSections, Graph.products_addToSections,
      Graph.sections_addToSections _ hulive, hu, hsec, hp]
    simp only [hsec₁, Table.modify_insert_next]
    rfl

theorem run_updateSection_of_none {sec : Section} {st : CoreDataStack}
    (h : fetchCDSectionById env st.context sec.id = none) :
    (updateSection env sec).run st = .ok () st := by
  rw [updateSection, run_bind_ok (run_context st)]
  simp only [h]
  rfl

/-- The attributes `updateSection` writes. -/
def assign (sec : Section) (s : CDSection) : CDSection :=
  { s with
    title := some sec.title
    rule := Int16.ofInt sec.rule
    sortingRule := sec.sortingRule.rawValue }

theorem run_updateSection {sec : Section} {st : CoreDataStack} {cdSection : ObjectID}
    (h : fetchCDSectionById env st.context sec.id = some cdSection) (hfit : FitsInt16 sec.rule) :
    ∃ g, (updateSection env sec).run st = .ok () (st.commit g) ∧
      g.tables = ⟨st.context.users, st.context.sections.modify cdSection (assign sec),
        st.context.products⟩ := by
  refine ⟨?g, ?run, ?tables⟩
  case run =>
    rw [updateSection, run_bind_ok (run_context st)]
    simp only [h, EStateM.run_bind, run_modifyContext, run_int16_ok hfit, run_saveContext,
      commit_context]
    rfl
  case tables =>
    simp only [Graph.tables, Graph.users_modifySection, Graph.sections_modifySection,
      Graph.products_modifySection, Table.modify_modify]
    rfl

theorem run_setSectionSortingRule_of_none {sectionId : UUID} {rule : SortingRule}
    {st : CoreDataStack} (h : fetchCDSectionById env st.context sectionId = none) :
    (setSectionSortingRule env sectionId rule).run st = .ok () st := by
  rw [setSectionSortingRule, run_bind_ok (run_context st)]
  simp only [h]
  rfl

theorem run_setSectionSortingRule {sectionId : UUID} {rule : SortingRule} {st : CoreDataStack}
    {cdSection : ObjectID} (h : fetchCDSectionById env st.context sectionId = some cdSection) :
    (setSectionSortingRule env sectionId rule).run st = .ok () (st.commit
      (st.context.modifySection cdSection (fun s => { s with sortingRule := rule.rawValue }))) := by
  rw [setSectionSortingRule, run_bind_ok (run_context st)]
  simp only [h]
  rw [run_bind_ok (run_modifyContext _ st), run_saveContext, commit_context]

end SectionRepository

end InventoryApp
