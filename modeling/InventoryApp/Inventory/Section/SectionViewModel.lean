import InventoryApp.Data.WellStored

/-!
# `SectionViewModel`

A section view model keeps a section that it read from the store, and each of
its operations changes that section and writes to the store, or the other way
round: `addProduct` and `updateProduct` change the list of products and call
`updateSection`, which stores title, rule and sorting rule and no products;
`sortProducts` stores the sorting rule and reads the whole section again.

`Faithful` says that the view model has what a read of its section gives at that
moment.  Its sorting and its scalar writes keep that (`keeps_faithful`), a change
of the list breaks it, because the products never reach the store, and
`faithful_iff` puts the two together over all runs of the four operations.
-/

namespace InventoryApp

open Lib SectionRepository

structure SectionViewModel where
  «section» : Section
  deriving DecidableEq

namespace SectionViewModel

/-! The two getters read the products of the section, which are values here and
references on the screen. -/

def getNumberOfProducts {α : Type} (products : List α) : Nat := products.length

def getProduct {α : Type} (products : List α) (index : Int) : Option α :=
  if index ≥ 0 ∧ index < products.length then products[index.toNat]? else none

variable (env : Environment) (vm : SectionViewModel)

def sortingRule : SortingRule := vm.section.sortingRule

def fetchUpdatedSection (sets : Arrangement) : Repo SectionViewModel := do
  match fetchSectionById env (← Repo.context) sets vm.section.id with
  | some updatedSection => return { vm with «section» := updatedSection }
  | none => return vm

/-- `SectionViewModel(section:)`. -/
def init (sets : Arrangement) (sec : Section) : Repo SectionViewModel :=
  fetchUpdatedSection env { «section» := sec } sets

def updateSection : Repo SectionViewModel := do
  SectionRepository.updateSection env vm.section
  return vm

def addProduct (product : Product) : Repo SectionViewModel :=
  updateSection env { vm with
    «section» := { vm.section with products := vm.section.products ++ [product] } }

def updateProduct (index : Int) (product : Product) : Repo SectionViewModel :=
  if index ≥ 0 ∧ index < vm.section.products.length then
    updateSection env { vm with
      «section» := { vm.section with products := vm.section.products.set index.toNat product } }
  else return vm

def sortProducts (sets : Arrangement) (rule : SortingRule) : Repo SectionViewModel := do
  setSectionSortingRule env vm.section.id rule
  fetchUpdatedSection env vm sets

end SectionViewModel

/-- A call of the view model; a call that reads the store enumerates its sets in some order. -/
inductive SectionOp
  | addProduct (product : Product)
  | updateProduct (index : Int) (product : Product)
  | updateSection
  | sortProducts (sets : Arrangement) (rule : SortingRule)

variable (env : Environment)

def SectionOp.exec (vm : SectionViewModel) : SectionOp → Repo SectionViewModel
  | addProduct product => vm.addProduct env product
  | updateProduct index product => vm.updateProduct env index product
  | updateSection => vm.updateSection env
  | sortProducts sets rule => vm.sortProducts env sets rule

/-- The call does not change the list of products in memory. -/
def SectionOp.KeepsProducts (products : List Product) : SectionOp → Prop
  | addProduct _ => False
  | updateProduct index product =>
    0 ≤ index → index < products.length → products[index.toNat]? = some product
  | updateSection => True
  | sortProducts _ _ => True

/-- A view model and the store it works on. -/
structure SectionWorld where
  viewModel : SectionViewModel
  coreDataStack : CoreDataStack

/-- A call that returns. -/
def SectionStep (w : SectionWorld) (op : SectionOp) (w' : SectionWorld) : Prop :=
  (op.exec env w.viewModel).run w.coreDataStack = .ok w'.viewModel w'.coreDataStack

/-- The view model has what reading its section gives, in the order its rule names. -/
def Faithful (w : SectionWorld) : Prop :=
  (∀ sets, ∃ sec,
    fetchSectionById env w.coreDataStack.context sets w.viewModel.section.id = some sec ∧
      w.viewModel.section.title = sec.title ∧ w.viewModel.section.rule = sec.rule ∧
      w.viewModel.section.sortingRule = sec.sortingRule ∧
      w.viewModel.section.products.Perm sec.products) ∧
    w.viewModel.section.sortingRule.Ordered w.viewModel.section.products

/-! ### The store under a call -/

/-- A re-read puts what it finds in place of the section in memory. -/
theorem run_fetchUpdatedSection_of_some {env : Environment} {vm : SectionViewModel}
    {sets : Arrangement} {st : CoreDataStack} {sec : Section}
    (h : fetchSectionById env st.context sets vm.section.id = some sec) :
    (vm.fetchUpdatedSection env sets).run st = .ok { vm with «section» := sec } st := by
  rw [SectionViewModel.fetchUpdatedSection, run_bind_ok (Repo.run_context st), h]
  rfl

theorem run_fetchUpdatedSection_of_none {env : Environment} {vm : SectionViewModel}
    {sets : Arrangement} {st : CoreDataStack}
    (h : fetchSectionById env st.context sets vm.section.id = none) :
    (vm.fetchUpdatedSection env sets).run st = .ok vm st := by
  rw [SectionViewModel.fetchUpdatedSection, run_bind_ok (Repo.run_context st), h]
  rfl

section Calls

variable {env} (vm : SectionViewModel) {st : CoreDataStack} {v : SectionView}
  (hread : readById env st.context vm.section.id = some v)

include hread

/-- `updateSection` stores the scalars of the view model and no products. -/
theorem run_updateSection_viewModel (hfit : FitsInt16 vm.section.rule) :
    ∃ st', (vm.updateSection env).run st = .ok vm st' ∧
      readById env st'.context vm.section.id = some { v with
        title := vm.section.title
        rule := vm.section.rule
        sortingRule := vm.section.sortingRule } := by
  obtain ⟨k, s, hk, hs, hr⟩ := (readById_eq_some env st.context).mp hread
  obtain ⟨g, hrun, htab⟩ := run_updateSection env hk hfit
  refine ⟨st.commit g, run_bind_ok hrun, ?_⟩
  rw [CoreDataStack.context_commit, readById_modify env htab (fun _ => rfl) hk hs,
    readSection_assign env st.context hr hfit]

/-- A re-read of a section that is in the store finds it. -/
theorem run_fetchUpdatedSection (sets : Arrangement) :
    ∃ sec, (vm.fetchUpdatedSection env sets).run st = .ok { vm with «section» := sec } st ∧
      sec.view = v ∧ sec.sortingRule.Ordered sec.products := by
  obtain ⟨sec, hfetch, hview, hord⟩ := exists_of_readById env st.context hread sets
  exact ⟨sec, run_fetchUpdatedSection_of_some hfetch, hview, hord⟩

theorem run_sortProducts (sets : Arrangement) (rule : SortingRule) :
    ∃ sec st', (vm.sortProducts env sets rule).run st = .ok { vm with «section» := sec } st' ∧
      readById env st'.context vm.section.id = some { v with sortingRule := rule } ∧
      sec.view = { v with sortingRule := rule } ∧ sec.sortingRule.Ordered sec.products := by
  obtain ⟨k, s, hk, hs, hr⟩ := (readById_eq_some env st.context).mp hread
  have hrun : (setSectionSortingRule env vm.section.id rule).run st = .ok () _ :=
    run_setSectionSortingRule env hk
  have hread' : readById env (st.commit (st.context.modifySection k
      (fun s => { s with sortingRule := rule.rawValue }))).context vm.section.id =
      some { v with sortingRule := rule } := by
    rw [CoreDataStack.context_commit,
      readById_modify env (f := fun s => { s with sortingRule := rule.rawValue }) rfl
        (fun _ => rfl) hk hs,
      readSection_sortingRule env st.context hr]
  obtain ⟨sec, hfetch, hview, hord⟩ := run_fetchUpdatedSection vm hread' sets
  exact ⟨sec, _, (run_bind_ok hrun).trans hfetch, hread', hview, hord⟩

end Calls

/-- A re-read leaves the store alone, whether it finds the section or not. -/
theorem exists_run_fetch (vm : SectionViewModel) (sets : Arrangement) (st : CoreDataStack) :
    ∃ vm', (vm.fetchUpdatedSection env sets).run st = .ok vm' st := by
  cases h : fetchSectionById env st.context sets vm.section.id with
  | none => exact ⟨vm, run_fetchUpdatedSection_of_none h⟩
  | some sec => exact ⟨{ vm with «section» := sec }, run_fetchUpdatedSection_of_some h⟩

/-- A sort writes to the record that the id resolves to, and saves. -/
theorem run_sortProducts_commit {vm : SectionViewModel} {st : CoreDataStack} {k : ObjectID}
    (hk : SectionRepository.fetchCDSectionById env st.context vm.section.id = some k)
    (sets : Arrangement) (rule : SortingRule) :
    ∃ vm' g, (vm.sortProducts env sets rule).run st = .ok vm' (st.commit g) ∧
      g.tables = ⟨st.context.users,
        st.context.sections.modify k (fun s => { s with sortingRule := rule.rawValue }),
        st.context.products⟩ := by
  obtain ⟨vm', hrun⟩ := exists_run_fetch env vm sets (st.commit
    (st.context.modifySection k (fun s => { s with sortingRule := rule.rawValue })))
  exact ⟨vm', _, (run_bind_ok (run_setSectionSortingRule env hk)).trans hrun, rfl⟩

/-! ### Faithful view models -/

variable {env}

/-- Faithfulness as one equation between views. -/
theorem faithful_iff_view {w : SectionWorld} : Faithful env w ↔
    readById env w.coreDataStack.context w.viewModel.section.id = some w.viewModel.section.view ∧
      w.viewModel.section.sortingRule.Ordered w.viewModel.section.products := by
  refine and_congr_left fun _ => ⟨fun h => ?_, fun h sets => ?_⟩
  · obtain ⟨sec, hfetch, ht, hrule, hr, hp⟩ := h .inOrder
    have hview := readById_of_fetch env _ hfetch
    have hid := id_of_readById env _ hview
    rw [hview, Option.some.injEq, Section.view_eq_iff]
    exact ⟨hid, ht.symm, hrule.symm, hr.symm, hp.symm⟩
  · obtain ⟨sec, hfetch, hview, _⟩ := exists_of_readById env _ h sets
    obtain ⟨_, ht, hrule, hr, hp⟩ := Section.view_eq_iff.mp hview
    exact ⟨sec, hfetch, ht.symm, hrule.symm, hr.symm, hp.symm⟩

/-- Replacing an element gives a rearrangement only if it replaces it by itself. -/
theorem perm_set_iff {l : List Product} {i : Nat} (hi : i < l.length) {p : Product} :
    (l.set i p).Perm l ↔ l[i]? = some p := by
  obtain ⟨l₁, l₂, hl, -, hset⟩ : ∃ l₁ l₂, l = l₁ ++ l[i] :: l₂ ∧ l₁.length = i ∧
      l.set i p = l₁ ++ p :: l₂ := List.exists_of_set hi
  rw [List.getElem?_eq_getElem hi, Option.some.injEq, hset]
  constructor
  · intro h
    rw [hl] at h
    have hperm : (p :: (l₁ ++ l₂)).Perm (l[i] :: (l₁ ++ l₂)) :=
      List.perm_middle.symm.trans (h.trans List.perm_middle)
    have hcons : p ::ₘ (↑(l₁ ++ l₂) : Multiset Product) = l[i] ::ₘ ↑(l₁ ++ l₂) :=
      Multiset.coe_eq_coe.mpr hperm
    exact ((Multiset.cons_inj_left _).mp hcons).symm
  · intro h
    rw [← h, ← hl]

/-- After a write of the view model's own scalars, it is faithful when its list
is the one in the store, in order. -/
theorem updateSection_faithful_iff {vm : SectionViewModel} {products : List Product}
    {st : CoreDataStack} {w' : SectionWorld}
    (hread : readById env st.context vm.section.id = some vm.section.view)
    (hstep : (SectionViewModel.updateSection env { vm with
      «section» := { vm.section with products := products } }).run st =
        .ok w'.viewModel w'.coreDataStack) :
    Faithful env w' ↔
      products.Perm vm.section.products ∧ vm.section.sortingRule.Ordered products := by
  obtain ⟨st', hrun, hread'⟩ := run_updateSection_viewModel
    { vm with «section» := { vm.section with products := products } } hread
    (fits_of_readById env _ hread)
  obtain ⟨hvm, hst⟩ := run_ok_inj hstep hrun
  rw [faithful_iff_view, hvm, hst, hread', Option.some.injEq]
  refine and_congr_left fun _ => ?_
  constructor
  · intro h
    exact (Multiset.coe_eq_coe.mp (congrArg SectionView.products h)).symm
  · intro h
    simp only [Section.view, SectionView.mk.injEq, true_and]
    exact Multiset.coe_eq_coe.mpr h.symm

/-- **A faithful view model stays faithful exactly under the calls that do not
change its list.** -/
theorem keeps_faithful {w w' : SectionWorld} {op : SectionOp} (h : Faithful env w)
    (hstep : SectionStep env w op w') :
    Faithful env w' ↔ op.KeepsProducts w.viewModel.section.products := by
  obtain ⟨hread, hord⟩ := faithful_iff_view.mp h
  cases op with
  | addProduct product =>
    rw [updateSection_faithful_iff hread hstep]
    refine iff_of_false (fun hw => ?_) id
    have := hw.1.length_eq
    rw [List.length_append, List.length_singleton] at this
    omega
  | updateProduct index product =>
    by_cases hi : index ≥ 0 ∧ index < w.viewModel.section.products.length
    · have hi' : index.toNat < w.viewModel.section.products.length := by omega
      rw [SectionStep, SectionOp.exec, SectionViewModel.updateProduct, if_pos hi] at hstep
      rw [updateSection_faithful_iff hread hstep, perm_set_iff hi', SectionOp.KeepsProducts]
      constructor
      · rintro ⟨hp, _⟩ _ _; exact hp
      · intro hk
        have hp := hk hi.1 hi.2
        obtain ⟨_, rfl⟩ := List.getElem?_eq_some_iff.mp hp
        exact ⟨hp, by rw [List.set_getElem_self]; exact hord⟩
    · rw [SectionStep, SectionOp.exec, SectionViewModel.updateProduct, if_neg hi] at hstep
      injection hstep with hvm hst
      refine iff_of_true ?_ fun h₀ hlt => absurd ⟨h₀, hlt⟩ hi
      rw [faithful_iff_view, ← hvm, ← hst]
      exact ⟨hread, hord⟩
  | updateSection =>
    rw [updateSection_faithful_iff hread hstep]
    exact iff_of_true ⟨.rfl, hord⟩ trivial
  | sortProducts sets rule =>
    obtain ⟨sec, st', hrun, hread', hview, hord'⟩ := run_sortProducts _ hread sets rule
    obtain ⟨hvm, hst⟩ := run_ok_inj hstep hrun
    refine iff_of_true ?_ trivial
    have hid : sec.id = w.viewModel.section.id := congrArg SectionView.id hview
    rw [faithful_iff_view, hvm, hst]
    simp only [hid]
    exact ⟨by rw [hread', hview], hord'⟩

/-! ### No call traps -/

theorem SectionStep.deterministic {w t t' : SectionWorld} {op : SectionOp}
    (h : SectionStep env w op t) (h' : SectionStep env w op t') : t = t' := by
  obtain ⟨hvm, hst⟩ := run_ok_inj h h'
  cases t
  cases t'
  simp_all

/-- Storing a section whose rule fits returns, whether it is found or not. -/
theorem exists_run_updateSection (env : Environment) (sec : Section) (hfit : FitsInt16 sec.rule)
    (st : CoreDataStack) :
    ∃ st', (SectionRepository.updateSection env sec).run st = .ok () st' := by
  cases hk : SectionRepository.fetchCDSectionById env st.context sec.id with
  | none => exact ⟨st, run_updateSection_of_none env hk⟩
  | some k =>
    obtain ⟨g, hrun, _⟩ := run_updateSection env hk hfit
    exact ⟨_, hrun⟩

/-- A re-read keeps the rule in range. -/
theorem exists_run_fetchUpdatedSection (env : Environment) {vm : SectionViewModel}
    (hfit : FitsInt16 vm.section.rule) (sets : Arrangement) (st : CoreDataStack) :
    ∃ vm', (vm.fetchUpdatedSection env sets).run st = .ok vm' st ∧ FitsInt16 vm'.section.rule := by
  cases hread : readById env st.context vm.section.id with
  | none =>
    have hfetch := fetchSectionById_view env st.context sets vm.section.id
    rw [hread, Option.map_eq_none_iff] at hfetch
    exact ⟨vm, run_fetchUpdatedSection_of_none hfetch, hfit⟩
  | some v =>
    obtain ⟨sec, hrun, hview, _⟩ := run_fetchUpdatedSection _ hread sets
    refine ⟨_, hrun, ?_⟩
    rw [← show v.rule = sec.rule by rw [← hview]; rfl]
    exact fits_of_readById env _ hread

/-- **Every call returns**, and the rule stays in range. -/
theorem exists_sectionStep (env : Environment) {w : SectionWorld}
    (hfit : FitsInt16 w.viewModel.section.rule) (op : SectionOp) :
    ∃ w', SectionStep env w op w' ∧ FitsInt16 w'.viewModel.section.rule := by
  have stored : ∀ products, ∃ w' : SectionWorld,
      (SectionViewModel.updateSection env { w.viewModel with
        «section» := { w.viewModel.section with products := products } }).run w.coreDataStack =
        .ok w'.viewModel w'.coreDataStack ∧ FitsInt16 w'.viewModel.section.rule := by
    intro products
    obtain ⟨st', hrun⟩ := exists_run_updateSection env
      { w.viewModel.section with products := products } hfit w.coreDataStack
    exact ⟨⟨{ w.viewModel with «section» := { w.viewModel.section with products := products } },
      st'⟩, run_bind_ok hrun, hfit⟩
  cases op with
  | addProduct product => exact stored _
  | updateProduct index product =>
    by_cases hi : index ≥ 0 ∧ index < w.viewModel.section.products.length
    · obtain ⟨w', hw', hfit'⟩ := stored (w.viewModel.section.products.set index.toNat product)
      refine ⟨w', ?_, hfit'⟩
      rw [SectionStep, SectionOp.exec, SectionViewModel.updateProduct, if_pos hi]
      exact hw'
    · refine ⟨w, ?_, hfit⟩
      rw [SectionStep, SectionOp.exec, SectionViewModel.updateProduct, if_neg hi]
      rfl
  | updateSection => exact stored w.viewModel.section.products
  | sortProducts sets rule =>
    have hset : ∃ st', (setSectionSortingRule env w.viewModel.section.id rule).run
        w.coreDataStack = .ok () st' := by
      cases hk : SectionRepository.fetchCDSectionById env w.coreDataStack.context
        w.viewModel.section.id with
      | none => exact ⟨_, run_setSectionSortingRule_of_none env hk⟩
      | some k => exact ⟨_, run_setSectionSortingRule env hk⟩
    obtain ⟨st', hst⟩ := hset
    obtain ⟨vm', hrun, hfit'⟩ := exists_run_fetchUpdatedSection env hfit sets st'
    exact ⟨⟨vm', st'⟩, (run_bind_ok hst).trans hrun, hfit'⟩

/-- A view model that has loaded its section is faithful, and on that section. -/
theorem faithful_init {st : CoreDataStack} {sec found : Section} {sets : Arrangement}
    (hread : fetchSectionById env st.context sets sec.id = some found) {w : SectionWorld}
    (hinit : (SectionViewModel.init env sets sec).run st = .ok w.viewModel w.coreDataStack) :
    Faithful env w ∧ w.viewModel.section.id = sec.id := by
  have hview := readById_of_fetch env st.context hread
  obtain ⟨loaded, hrun, hloaded, hord⟩ :=
    run_fetchUpdatedSection { «section» := sec } hview sets
  obtain ⟨hvm, hst⟩ := run_ok_inj hinit hrun
  have hid : loaded.id = sec.id := by
    have hfound : found.id = sec.id := id_of_readById env _ hview
    rw [← hfound]
    exact congrArg SectionView.id hloaded
  rw [faithful_iff_view, hvm, hst]
  exact ⟨⟨by rw [hid, hview, hloaded], hord⟩, hid⟩

/-- **When a section view model is a faithful cache.**  It is one when it has
loaded its section.  Along any sequence of calls, none of which traps, it is one
after every call if and only if no call changes the list in memory: none is an
`addProduct`, and an `updateProduct` within range puts back the product that is
there. -/
theorem faithful_iff {st : CoreDataStack} {sec found : Section} {sets : Arrangement}
    (hread : fetchSectionById env st.context sets sec.id = some found) {w : SectionWorld}
    (hinit : (SectionViewModel.init env sets sec).run st = .ok w.viewModel w.coreDataStack) :
    Faithful env w ∧
    (∀ ops w', Run (SectionStep env) w ops w' → ∀ op, ∃ w'', SectionStep env w' op w'') ∧
    ∀ ops, Always (SectionStep env) (fun _ _ w' => Faithful env w') w ops ↔
      Always (SectionStep env)
        (fun w op _ => op.KeepsProducts w.viewModel.section.products) w ops := by
  obtain ⟨hfaithful, _⟩ := faithful_init hread hinit
  refine ⟨hfaithful, ?_, ?_⟩
  · intro ops w' hrun op
    have hfit : FitsInt16 w'.viewModel.section.rule := by
      refine hrun.invariant (fun w => FitsInt16 w.viewModel.section.rule) ?_
        (fits_of_readById env _ (faithful_iff_view.mp hfaithful).1)
      intro s a t hs hst
      obtain ⟨t', ht', hfit⟩ := exists_sectionStep env hs a
      rwa [hst.deterministic ht']
    obtain ⟨w'', hstep, _⟩ := exists_sectionStep env hfit op
    exact ⟨w'', hstep⟩
  · intro ops
    refine always_iff_always (Faithful env) (fun s a t hs ht => keeps_faithful hs ht) ?_
      hfaithful ops
    intro s a t hs ht hkeeps
    exact (keeps_faithful hs ht).mpr hkeeps

/-- A section is loaded, has a product put back where it is, and is sorted twice. -/
theorem faithful_iff_twoSorts :
    let egg : Product := ⟨1, "egg", "egg", 2, 11⟩
    let milk : Product := ⟨2, "milk", "milk", 1, 3⟩
    let rice : Product := ⟨3, "rice", "rice", 4, 90⟩
    let fridge : Section := ⟨9, "fridge", 30, .oldestToNewest, [milk, egg, rice]⟩
    let st := final (execAll default [.createUser 7 "Ray", .createSection 7 fridge])
      (.launch .empty)
    Faithful default ⟨⟨fridge⟩, st⟩ ∧
      Always (SectionStep default) (fun _ _ w' => Faithful default w') ⟨⟨fridge⟩, st⟩
        [.updateProduct 1 egg, .sortProducts .inOrder .quantityHighToLow, .updateSection,
          .sortProducts .inOrder .newestToOldest] := by
  intro egg milk rice fridge st
  have hread : fetchSectionById default st.context .inOrder fridge.id = some fridge := by
    decide +kernel
  clear_value st
  have hinit : (SectionViewModel.init default .inOrder fridge).run st = .ok ⟨fridge⟩ st :=
    run_fetchUpdatedSection_of_some hread
  obtain ⟨hfaithful, _, hiff⟩ := faithful_iff hread (w := ⟨⟨fridge⟩, st⟩) hinit
  refine ⟨hfaithful, (hiff _).mpr fun _ _ => ⟨fun _ _ => rfl, ?_⟩⟩
  exact fun _ _ => ⟨trivial, fun _ _ => ⟨trivial, fun _ _ => ⟨trivial, trivial⟩⟩⟩

/-- A product is added and the section sorted: after the first call the store reads
one product where the view model has two, and after the second the view model
has lost it. -/
theorem addProduct_not_faithful :
    let egg : Product := ⟨1, "egg", "egg", 2, 11⟩
    let milk : Product := ⟨2, "milk", "milk", 1, 3⟩
    let fridge : Section := ⟨9, "fridge", 30, .oldestToNewest, [egg]⟩
    let w : SectionWorld := ⟨⟨fridge⟩, final (execAll default [.createUser 7 "Ray",
      .createSection 7 fridge]) (.launch .empty)⟩
    ∃ w' w'', Faithful default w ∧ SectionStep default w (.addProduct milk) w' ∧
      w'.viewModel.section.products = [egg, milk] ∧ ¬ Faithful default w' ∧
      SectionStep default w' (.sortProducts .inOrder .oldestToNewest) w'' ∧
      w''.viewModel.section.products = [egg] := by
  intro egg milk fridge w
  have hread : readById default w.coreDataStack.context 9 = some fridge.view := by decide
  have hfaithful : Faithful default w := faithful_iff_view.mpr ⟨hread, by decide⟩
  obtain ⟨st', hadd, hread'⟩ := run_updateSection_viewModel
    ⟨{ fridge with products := [egg, milk] }⟩ hread (by decide)
  obtain ⟨sec, st'', hsort, _, hview, _⟩ := run_sortProducts _ hread' .inOrder .oldestToNewest
  have hadd' : SectionStep default w (.addProduct milk)
    ⟨⟨{ fridge with products := [egg, milk] }⟩, st'⟩ := hadd
  refine ⟨_, ⟨⟨sec⟩, st''⟩, hfaithful, hadd', rfl, (keeps_faithful hfaithful hadd').not.mpr id,
    hsort, ?_⟩
  have hproducts : (sec.products : Multiset Product) = [egg] := congrArg SectionView.products hview
  exact List.perm_singleton.mp (Multiset.coe_eq_coe.mp hproducts)

end InventoryApp
