import InventoryApp.UserMetadata
import InventoryApp.Data.Durability
import InventoryApp.Inventory.Section.SectionViewController

/-!
# `InventoryViewController` and `UserViewModel`

The inventory screen fetches the user and the user's sections, gives each section
a view model and a view controller, and puts their views in a column.  The view
model reads its section a second time, by id, when it is created.  The labels of a
section are set when its view loads, and never again.

A process may set up the main screen any number of times, and its screens stay, on
one store: `ScreenEvent` is the setting up of one, a tap on a sort button of any
section of any screen, a section that appears again, and the end of the process
with a new one after it.  `ScreenStep` is one event.  A screen does not hear of the
taps on another one.
-/

namespace InventoryApp

open Lib SectionRepository

variable {Image : Type} (imageNamed : String → Option Image) (env : Environment)

/-! ### The user's view model -/

structure UserViewModel where
  user : Option ObjectID := none
  sections : List Section := []

namespace UserViewModel

variable (vm : UserViewModel)

/-- `user?.id`. -/
def userId (g : Graph) : Option UUID := vm.user.bind fun u => (g.users.get? u).bind CDUser.id

/-- `fetchUserAndSections`; `unknown` is the `UUID()` for a user without an id. -/
def fetchUserAndSections (uuid unknown : UUID) (sets : Arrangement) :
    Repo (UserViewModel × Bool) := do
  match ← UserRepository.fetchUser env uuid with
  | none => return (vm, false)
  | some fetchedUser =>
    let vm := { vm with user := some fetchedUser }
    let userId := (vm.userId (← Repo.context)).getD unknown
    return ({ vm with sections := fetchSections env (← Repo.context) sets userId }, true)

end UserViewModel

/-! ### The screen -/

def SectionViewModel.getSectionTitle (vm : SectionViewModel) : String := vm.section.title

def SectionViewModel.getSectionRule (vm : SectionViewModel) : Int := vm.section.rule

/-- A section's view controller with its view loaded: the texts of the two labels. -/
structure SectionPanel (Image : Type) where
  viewController : SectionViewController Image
  titleLabel : String
  sectionRuleLabel : String

namespace SectionPanel

/-- The section in memory. -/
def «section» (panel : SectionPanel Image) : Section :=
  panel.viewController.sectionViewModel.section

/-- `style` and `updateButtonAppearanceAndSymbols`, of `viewDidLoad`. -/
def viewDidLoad (vc : SectionViewController Image) : SectionPanel Image where
  viewController := vc.updateButtonAppearanceAndSymbols imageNamed
  titleLabel := vc.sectionViewModel.getSectionTitle
  sectionRuleLabel := "放入起" ++ toString vc.sectionViewModel.getSectionRule ++ "日提醒"

/-- `viewDidAppear`. -/
def viewDidAppear (panel : SectionPanel Image) : SectionPanel Image :=
  { panel with viewController := panel.viewController.updateButtonAppearanceAndSymbols imageNamed }

end SectionPanel

structure InventoryViewController (Image : Type) where
  userViewModel : UserViewModel
  sectionViewControllers : List (SectionPanel Image) := []

/-- The orders in which the reads of a screen enumerate their sets. -/
structure ScreenReads where
  fetched : Arrangement
  listed : Arrangement
  loaded : Section → Arrangement

namespace InventoryViewController

/-- `setupSectionViewControllers`, and the views that `addSectionViewControllers` loads. -/
def setupSectionViewControllers (vc : InventoryViewController Image) (reads : ScreenReads) :
    Repo (InventoryViewController Image) := do
  match vc.userViewModel.userId (← Repo.context) with
  | none => return vc
  | some userId =>
    let sections := fetchSections env (← Repo.context) reads.listed userId
    let panels ← sections.mapM fun sec => do
      let sectionViewModel ← SectionViewModel.init env (reads.loaded sec) sec
      return SectionPanel.viewDidLoad imageNamed { sectionViewModel }
    return { vc with sectionViewControllers := panels }

/-- `fetchUserDataAndSetupSections`, of `viewDidLoad`. -/
def fetchUserDataAndSetupSections (vc : InventoryViewController Image) (uuid unknown : UUID)
    (reads : ScreenReads) : Repo (InventoryViewController Image) := do
  let (userViewModel, success) ←
    vc.userViewModel.fetchUserAndSections env uuid unknown reads.fetched
  let vc := { vc with userViewModel }
  if success then vc.setupSectionViewControllers imageNamed env reads else return vc

end InventoryViewController

/-- `MainViewController.setupViews`, with the view of its first tab loaded. -/
def setupViews (uuid : Nat → UUID) (fetched unknown : UUID) (reads : ScreenReads) :
    Repo (InventoryViewController Image) := do
  UserMetadata.init env uuid
  let vc : InventoryViewController Image := { userViewModel := {} }
  vc.fetchUserDataAndSetupSections imageNamed env fetched unknown reads

/-! ### Screens on one store -/

/-- The screens of a process, and the store they share. -/
structure Screens (Image : Type) where
  screens : List (InventoryViewController Image) := []
  coreDataStack : CoreDataStack

/-- The panel at a place. -/
def Screens.panel? (w : Screens Image) (i j : Nat) : Option (SectionPanel Image) :=
  w.screens[i]?.bind fun vc => vc.sectionViewControllers[j]?

/-- The screens with another panel at a place. -/
def Screens.setPanel (w : Screens Image) (i j : Nat) (panel : SectionPanel Image) :
    Screens Image :=
  { w with screens := w.screens.modify i fun vc =>
      { vc with sectionViewControllers := vc.sectionViewControllers.set j panel } }

inductive ScreenEvent
  | setUp (uuid : Nat → UUID) (fetched unknown : UUID) (reads : ScreenReads)
  | tap (screen panel : Nat) (tap : SortTap)
  | appear (screen panel : Nat)
  | quit

/-- An event whose handler returns. -/
inductive ScreenStep : Screens Image → ScreenEvent → Screens Image → Prop
  | setUp {w : Screens Image} {uuid : Nat → UUID} {fetched unknown : UUID} {reads : ScreenReads}
      {vc : InventoryViewController Image} {st' : CoreDataStack}
      (hrun : (setupViews imageNamed env uuid fetched unknown reads).run w.coreDataStack =
        .ok vc st') :
      ScreenStep w (.setUp uuid fetched unknown reads) ⟨w.screens ++ [vc], st'⟩
  | tap {w : Screens Image} {i j : Nat} {panel : SectionPanel Image} {tap : SortTap}
      {vc' : SectionViewController Image} {st' : CoreDataStack} (hpanel : w.panel? i j = some panel)
      (hrun : (tap.handle imageNamed env panel.viewController).run w.coreDataStack = .ok vc' st') :
      ScreenStep w (.tap i j tap)
        { w.setPanel i j { panel with viewController := vc' } with coreDataStack := st' }
  | appear {w : Screens Image} {i j : Nat} {panel : SectionPanel Image}
      (hpanel : w.panel? i j = some panel) :
      ScreenStep w (.appear i j) (w.setPanel i j (panel.viewDidAppear imageNamed))
  | quit {w : Screens Image} :
      ScreenStep w .quit ⟨[], .launch w.coreDataStack.persisted⟩

/-! ### What a panel shows -/

/-- A loaded view is a view of its section. -/
theorem SectionPanel.section_viewDidLoad (vc : SectionViewController Image) :
    (SectionPanel.viewDidLoad imageNamed vc).section = vc.sectionViewModel.section :=
  congrArg SectionViewModel.section
    (sectionViewModel_updateButtonAppearanceAndSymbols imageNamed vc)

variable {imageNamed env}

/-- A panel of a stored section: the labels and the products are the stored ones,
in the order of the panel's own rule, which the buttons show. -/
structure SectionPanel.Shows (imageNamed : String → Option Image) (env : Environment)
    (panel : SectionPanel Image) (g : Graph) : Prop where
  stored : ∃ v, readById env g panel.section.id = some v ∧
    panel.section.view = { v with sortingRule := panel.section.sortingRule } ∧
    panel.titleLabel = v.title ∧
    panel.sectionRuleLabel = "放入起" ++ toString v.rule ++ "日提醒"
  ordered : panel.section.sortingRule.Ordered panel.section.products
  appearance :
    panel.viewController.updateButtonAppearanceAndSymbols imageNamed = panel.viewController

/-- **A panel that loads a section as it is stored shows it.** -/
theorem SectionPanel.shows_viewDidLoad {g : Graph} {vc : SectionViewController Image}
    (hread : readById env g vc.sectionViewModel.section.id =
      some vc.sectionViewModel.section.view)
    (hord : vc.sectionViewModel.section.sortingRule.Ordered vc.sectionViewModel.section.products) :
    (SectionPanel.viewDidLoad imageNamed vc).Shows imageNamed env g where
  stored := by
    rw [section_viewDidLoad]
    exact ⟨_, hread, rfl, rfl, rfl⟩
  ordered := by
    rw [section_viewDidLoad]
    exact hord
  appearance := updateButtonAppearanceAndSymbols_idem imageNamed vc

/-- Appearing again changes nothing on a panel that shows its section. -/
theorem SectionPanel.Shows.viewDidAppear {panel : SectionPanel Image} {g : Graph}
    (h : panel.Shows imageNamed env g) : panel.viewDidAppear imageNamed = panel := by
  rw [SectionPanel.viewDidAppear, h.appearance]

/-! ### Setting up a screen -/

/-- A view model is created with the section under its id, where there is one. -/
theorem run_init_getD (sets : Arrangement) (sec : Section) (st : CoreDataStack) :
    (SectionViewModel.init env sets sec).run st =
      .ok ⟨(fetchSectionById env st.context sets sec.id).getD sec⟩ st := by
  cases h : fetchSectionById env st.context sets sec.id with
  | none => exact run_fetchUpdatedSection_of_none h
  | some found => exact run_fetchUpdatedSection_of_some h

/-- A section that a user's read gives is read again, under its id. -/
theorem readById_of_mem_fetchSections {g : Graph} (h : Coherent g) {sets : Arrangement}
    {userId : UUID} {sec : Section} (hsec : sec ∈ fetchSections env g sets userId) :
    readById env g sec.id = some sec.view := by
  have hmem : sec.view ∈ readByUser env g userId := by
    rw [← fetchSections_view env g sets]
    exact Multiset.mem_coe.mpr (List.mem_map_of_mem hsec)
  obtain ⟨s, hs, _, hview⟩ := (mem_readByUser_inventory h).mp hmem
  have hs' : (inventory env g).sections sec.id = some s := hs
  rw [readById_inventory h, hs']
  exact congrArg some hview

/-- What a view model of that section reads. -/
theorem getD_fetchSectionById {g : Graph} {sec : Section}
    (hread : readById env g sec.id = some sec.view) (sets : Arrangement) :
    ((fetchSectionById env g sets sec.id).getD sec).view = sec.view ∧
      ((fetchSectionById env g sets sec.id).getD sec).sortingRule.Ordered
        ((fetchSectionById env g sets sec.id).getD sec).products := by
  obtain ⟨found, hfetch, hview, hord⟩ := exists_of_readById env g hread sets
  rw [hfetch]
  exact ⟨hview, hord⟩

theorem run_init_of_users {st : CoreDataStack} (h : st.context.users.rows ≠ [])
    (uuid : Nat → UUID) : (UserMetadata.init env uuid).run st = .ok () st := by
  rw [UserMetadata.init, run_bind_ok (UserRepository.run_userExists st), decide_eq_true h]
  rfl

theorem UserViewModel.userId_of_get? {g : Graph} {user : ObjectID} {r : CDUser} {userId : UUID}
    (hr : g.users.get? user = some r) (hid : r.id = some userId) (sections : List Section) :
    (⟨some user, sections⟩ : UserViewModel).userId g = some userId := by
  rw [UserViewModel.userId, Option.bind_some, hr, Option.bind_some, hid]

/-- The user's sections are read under the user's id. -/
theorem run_fetchUserAndSections {st : CoreDataStack} {user : ObjectID} {r : CDUser} {userId : UUID}
    (huser : (st.context.users.fetch env.fetchOrder (fun _ => true)).head? = some user)
    (hr : st.context.users.get? user = some r) (hid : r.id = some userId) (vm : UserViewModel)
    (uuid unknown : UUID) (sets : Arrangement) :
    (vm.fetchUserAndSections env uuid unknown sets).run st =
      .ok (⟨some user, fetchSections env st.context sets userId⟩, true) st := by
  have huserId := UserViewModel.userId_of_get? hr hid vm.sections
  rw [UserViewModel.fetchUserAndSections,
    run_bind_ok (UserRepository.run_fetchUser_of_some env huser)]
  refine (run_bind_ok (Repo.run_context st)).trans ?_
  refine (run_bind_ok (Repo.run_context st)).trans ?_
  rw [huserId]
  rfl

/-- The screen that is set up on a store with a user: nothing is written, and each
of the user's sections has a panel. -/
theorem run_setupViews {st : CoreDataStack} (h : Coherent st.context)
    (husers : st.context.users.rows ≠ []) (uuid : Nat → UUID) (fetched unknown : UUID)
    (reads : ScreenReads) :
    ∃ vc userId, (setupViews imageNamed env uuid fetched unknown reads).run st = .ok vc st ∧
      vc.userViewModel.userId st.context = some userId ∧
      vc.sectionViewControllers.map (·.section.view) =
        (fetchSections env st.context reads.listed userId).map Section.view ∧
      ∀ panel ∈ vc.sectionViewControllers, panel.Shows imageNamed env st.context ∧
        readById env st.context panel.section.id = some panel.section.view := by
  obtain ⟨user, huser⟩ : ∃ user,
      (st.context.users.fetch env.fetchOrder (fun _ => true)).head? = some user := by
    rw [← Option.isSome_iff_exists, Option.isSome_iff_ne_none]
    intro hnone
    obtain ⟨r, hr⟩ := List.exists_mem_of_ne_nil _ husers
    exact absurd (st.context.users.head?_fetch_eq_none.mp hnone r.1 r.2
      (st.context.users.get?_eq_some.mpr hr)) (by simp)
  obtain ⟨r, hr, _⟩ := st.context.users.get?_of_head?_fetch huser
  obtain ⟨userId, hid⟩ := h.wellStored.users user r hr
  let found (sec : Section) : SectionViewController Image :=
    { sectionViewModel :=
        ⟨(fetchSectionById env st.context (reads.loaded sec) sec.id).getD sec⟩ }
  let panel (sec : Section) : SectionPanel Image := SectionPanel.viewDidLoad imageNamed (found sec)
  let sections := fetchSections env st.context reads.listed userId
  have hpanels : ∀ sec ∈ sections, (panel sec).section.view = sec.view ∧
      (panel sec).Shows imageNamed env st.context ∧
      readById env st.context (panel sec).section.id = some (panel sec).section.view := by
    intro sec hsec
    have hread := readById_of_mem_fetchSections h hsec
    obtain ⟨hview, hord⟩ := getD_fetchSectionById hread (reads.loaded sec)
    have hsame := SectionPanel.section_viewDidLoad imageNamed (found sec)
    have hread' : readById env st.context (found sec).sectionViewModel.section.id =
        some (found sec).sectionViewModel.section.view := by
      have hid' : (found sec).sectionViewModel.section.id = sec.id :=
        congrArg SectionView.id hview
      rw [hid', hread]
      exact congrArg some hview.symm
    refine ⟨(congrArg Section.view hsame).trans hview,
      SectionPanel.shows_viewDidLoad hread' hord, ?_⟩
    rw [hsame]
    exact hread'
  have hmap : (sections.mapM fun sec => do
      let sectionViewModel ← SectionViewModel.init env (reads.loaded sec) sec
      return SectionPanel.viewDidLoad imageNamed { sectionViewModel }).run st =
        .ok (sections.map panel) st :=
    run_mapM_ok fun sec _ => run_bind_ok (run_init_getD (reads.loaded sec) sec st)
  let vm : UserViewModel := ⟨some user, fetchSections env st.context reads.fetched userId⟩
  have huserId : vm.userId st.context = some userId := UserViewModel.userId_of_get? hr hid _
  have hpanelled : (InventoryViewController.setupSectionViewControllers imageNamed env ⟨vm, []⟩
      reads).run st = .ok ⟨vm, sections.map panel⟩ st := by
    refine (run_bind_ok (Repo.run_context st)).trans ?_
    rw [huserId]
    refine (run_bind_ok (Repo.run_context st)).trans ?_
    exact run_bind_ok hmap
  refine ⟨⟨vm, sections.map panel⟩, userId, ?_, huserId, ?_, ?_⟩
  · refine (run_bind_ok (run_init_of_users husers uuid)).trans ?_
    refine (run_bind_ok (run_fetchUserAndSections huser hr hid _ fetched unknown
      reads.fetched)).trans ?_
    exact hpanelled
  · rw [List.map_map]
    exact List.map_congr_left fun sec hsec => (hpanels sec hsec).1
  · intro p hp
    obtain ⟨sec, hsec, rfl⟩ := List.mem_map.mp hp
    exact (hpanels sec hsec).2

/-! ### Places -/

theorem Screens.panel?_eq_some {w : Screens Image} {i j : Nat} {panel : SectionPanel Image} :
    w.panel? i j = some panel ↔
      ∃ vc, w.screens[i]? = some vc ∧ vc.sectionViewControllers[j]? = some panel :=
  Option.bind_eq_some_iff

theorem Screens.panel?_setPanel {w : Screens Image} {i j : Nat} {old : SectionPanel Image}
    (h : w.panel? i j = some old) (panel : SectionPanel Image) :
    (w.setPanel i j panel).panel? i j = some panel := by
  obtain ⟨vc, hvc, hj⟩ := Screens.panel?_eq_some.mp h
  obtain ⟨hlt, -⟩ := List.getElem?_eq_some_iff.mp hj
  have hset : (vc.sectionViewControllers.set j panel)[j]? = some panel :=
    List.getElem?_set_self hlt
  refine Screens.panel?_eq_some.mpr
    ⟨{ vc with sectionViewControllers := vc.sectionViewControllers.set j panel }, ?_, hset⟩
  rw [Screens.setPanel, List.getElem?_modify_eq, hvc]
  rfl

/-- What stands at a place is the panel that was put somewhere, or was there before. -/
theorem Screens.eq_or_panel? {w : Screens Image} {i j i' j' : Nat}
    {panel panel' : SectionPanel Image} (h : (w.setPanel i j panel).panel? i' j' = some panel') :
    panel' = panel ∨ w.panel? i' j' = some panel' := by
  obtain ⟨vc', hvc', hj'⟩ := Screens.panel?_eq_some.mp h
  rw [Screens.setPanel, List.getElem?_modify] at hvc'
  obtain ⟨vc, hvc, hmod⟩ := Option.map_eq_some_iff.mp hvc'
  by_cases hi : i = i'
  · rw [if_pos hi] at hmod
    subst hmod
    by_cases hj : j = j'
    · subst hj
      obtain ⟨_, _, rfl⟩ :=
        Option.map_eq_some_iff.mp (List.getElem?_set_self'.symm.trans hj')
      exact Or.inl rfl
    · have hold := (List.getElem?_set_ne hj).symm.trans hj'
      exact Or.inr (Screens.panel?_eq_some.mpr ⟨vc, hvc, hold⟩)
  · rw [if_neg hi] at hmod
    subst hmod
    exact Or.inr (Screens.panel?_eq_some.mpr ⟨vc, hvc, hj'⟩)

/-! ### A tap -/

/-- A sort of one section leaves what is read under every other id. -/
theorem readById_of_sort {st st' : CoreDataStack} (h : NewIdReachable env st) {id : UUID}
    {rule : SortingRule} (hstep : NewIdStep env st (.setSectionSortingRule id rule) st')
    (i : UUID) : readById env st'.context i =
      if id = i then (readById env st.context i).map ({ · with sortingRule := rule })
      else readById env st.context i := by
  have hinv := inventory_of_step h hstep
  rw [Op.call, Option.elim_some] at hinv
  rw [readById_inventory (h.step hstep).coherent, readById_inventory h.coherent, hinv,
    Inventory.apply]
  simp only [Inventory.Call.onSection]
  by_cases hid : id = i
  · rw [if_pos hid, if_pos hid, Option.map_map, Option.map_map]
    rfl
  · rw [if_neg hid, if_neg hid]

/-- A panel still shows its section after a sort, its own or another. -/
theorem SectionPanel.Shows.sort {panel : SectionPanel Image} {st st' : CoreDataStack}
    (hshows : panel.Shows imageNamed env st.context) (h : NewIdReachable env st) {id : UUID}
    {rule : SortingRule} (hstep : NewIdStep env st (.setSectionSortingRule id rule) st') :
    panel.Shows imageNamed env st'.context := by
  obtain ⟨⟨v, hread, hview, htitle, hrule⟩, hord, happ⟩ := hshows
  refine ⟨?_, hord, happ⟩
  rw [readById_of_sort h hstep, hread]
  by_cases hid : id = panel.section.id
  · rw [if_pos hid]
    exact ⟨_, rfl, hview, htitle, hrule⟩
  · rw [if_neg hid]
    exact ⟨v, rfl, hview, htitle, hrule⟩

/-- **What a tap does to its panel**: the handler returns, it makes one call that
stores the rule, and the panel has that rule and shows its section. -/
theorem SectionPanel.Shows.tap {panel : SectionPanel Image} {st : CoreDataStack}
    (hshows : panel.Shows imageNamed env st.context) (tap : SortTap) :
    ∃ vc' st', (tap.handle imageNamed env panel.viewController).run st = .ok vc' st' ∧
      (exec env (.setSectionSortingRule panel.section.id
        (tap.rule panel.section.sortingRule))).run st = .ok () st' ∧
      { panel with viewController := vc' }.Shows imageNamed env st'.context ∧
      vc'.sectionViewModel.section.sortingRule = tap.rule panel.section.sortingRule ∧
      readById env st'.context panel.section.id = some vc'.sectionViewModel.section.view := by
  obtain ⟨⟨v, hread, _, htitle, hrule⟩, _, _⟩ := hshows
  obtain ⟨sec, st', hrun, hread', hview, hord⟩ := run_sortProducts
    panel.viewController.sectionViewModel hread tap.sets (tap.rule panel.section.sortingRule)
  have hexec : (exec env (.setSectionSortingRule panel.section.id
      (tap.rule panel.section.sortingRule))).run st = .ok () st' := by
    obtain ⟨_, t, hset, hfetch⟩ := run_bind_eq_ok.mp hrun
    obtain ⟨vm, hfetch'⟩ := exists_run_fetch env panel.viewController.sectionViewModel tap.sets t
    obtain ⟨_, rfl⟩ := run_ok_inj hfetch hfetch'
    exact hset
  have hsorted : sec.sortingRule = tap.rule panel.section.sortingRule :=
    congrArg SectionView.sortingRule hview
  have hid : sec.id = panel.section.id :=
    (congrArg SectionView.id hview :).trans (id_of_readById env _ hread')
  let vc : SectionViewController Image := { panel.viewController with sectionViewModel := ⟨sec⟩ }
  have hsec : (vc.updateButtonAppearanceAndSymbols imageNamed).sectionViewModel = ⟨sec⟩ :=
    sectionViewModel_updateButtonAppearanceAndSymbols imageNamed vc
  refine ⟨vc.updateButtonAppearanceAndSymbols imageNamed, st',
    SortTap.run_handle imageNamed env hrun hsorted, hexec, ⟨?_, ?_, ?_⟩, ?_, ?_⟩
  · rw [SectionPanel.section, hsec, hid]
    exact ⟨_, hread', by rw [hview, hsorted], htitle, hrule⟩
  · rw [SectionPanel.section, hsec]
    exact hord
  · exact updateButtonAppearanceAndSymbols_idem imageNamed vc
  · rw [hsec]
    exact hsorted
  · rw [hsec]
    exact hread'.trans (congrArg some hview.symm)

/-! ### Every run of the screens -/

/-- The calls on the store that an event makes. -/
def ScreenEvent.Makes : ScreenEvent → List Op → Prop
  | tap _ _ _, ops => ∃ id rule, ops = [.setSectionSortingRule id rule]
  | _, ops => ops = []

/-- Screens on a store that `r` stands for: it has a user, and every panel shows its section. -/
structure ScreensOn (imageNamed : String → Option Image) (env : Environment) (w : Screens Image)
    (r : CoreDataStack) : Prop where
  stands : StandsFor w.coreDataStack r
  reach : NewIdReachable env r
  users : r.context.users.rows ≠ []
  panels : ∀ i j panel, w.panel? i j = some panel → panel.Shows imageNamed env r.context

/-- What is set up on such a store. -/
theorem ScreensOn.run_setupViews {w : Screens Image} {r : CoreDataStack}
    (h : ScreensOn imageNamed env w r) (uuid : Nat → UUID) (fetched unknown : UUID)
    (reads : ScreenReads) :
    ∃ vc userId, (setupViews imageNamed env uuid fetched unknown reads).run w.coreDataStack =
        .ok vc w.coreDataStack ∧
      vc.userViewModel.userId w.coreDataStack.context = some userId ∧
      vc.sectionViewControllers.map (·.section.view) =
        (fetchSections env w.coreDataStack.context reads.listed userId).map Section.view ∧
      ∀ panel ∈ vc.sectionViewControllers,
        panel.Shows imageNamed env w.coreDataStack.context ∧
        readById env w.coreDataStack.context panel.section.id = some panel.section.view := by
  have hcontext := h.stands.context
  exact InventoryApp.run_setupViews (hcontext ▸ h.reach.coherent) (hcontext ▸ h.users) uuid fetched
    unknown reads

/-- The call of a tap, and the one that stands for it: both leave the same store. -/
theorem StandsFor.sort {st st' r : CoreDataStack} (h : StandsFor st r) {id : UUID}
    {rule : SortingRule}
    (hexec : (exec env (.setSectionSortingRule id rule)).run st = .ok () st') :
    ∃ r', NewIdStep env r (.setSectionSortingRule id rule) r' ∧ StandsFor st' r' ∧
      r'.context.users = r.context.users := by
  obtain ⟨hsaved, htables⟩ := step_cases env h.saved hexec
  have hnew : NewIds st.context (.setSectionSortingRule id rule) :=
    ⟨⟨by simp [Op.newSection], by simp [Op.newProducts], by simp [Op.newProducts]⟩, trivial⟩
  obtain ⟨r', ⟨hnew', _, hstep⟩, hsaved', hcontext⟩ := h.step hnew trivial htables
  refine ⟨r', ⟨hnew'.1, hnew'.2, hstep⟩, ⟨hsaved, hsaved', hcontext⟩, ?_⟩
  have husers : r'.context.tables.users = r.context.users := by
    rw [(step_cases env h.saved' hstep).2, Op.effect]
    split <;> rfl
  exact husers

/-- A tap on a panel returns, and all panels show their sections afterwards. -/
theorem ScreensOn.tap {w : Screens Image} {r : CoreDataStack} (h : ScreensOn imageNamed env w r)
    {i j : Nat} {panel : SectionPanel Image} (hpanel : w.panel? i j = some panel) (tap : SortTap) :
    ∃ vc' st' r', (tap.handle imageNamed env panel.viewController).run w.coreDataStack =
        .ok vc' st' ∧
      NewIdStep env r (.setSectionSortingRule panel.section.id
        (tap.rule panel.section.sortingRule)) r' ∧
      ScreensOn imageNamed env
        { w.setPanel i j { panel with viewController := vc' } with coreDataStack := st' } r' ∧
      vc'.sectionViewModel.section.sortingRule = tap.rule panel.section.sortingRule ∧
      readById env st'.context panel.section.id = some vc'.sectionViewModel.section.view := by
  have hshows := h.panels i j panel hpanel
  rw [h.stands.context] at hshows
  obtain ⟨vc', st', hrun, hexec, hshows', hrule, hread⟩ := hshows.tap tap
  obtain ⟨r', hstep, hstands, husers⟩ := h.stands.sort hexec
  refine ⟨vc', st', r', hrun, hstep, ⟨hstands, h.reach.step hstep, ?_, ?_⟩, hrule, hread⟩
  · rw [husers]
    exact h.users
  · intro i' j' panel' hpanel'
    rcases Screens.eq_or_panel? hpanel' with rfl | hold
    · rw [hstands.context]
      exact hshows'
    · exact (h.panels i' j' panel' hold).sort h.reach hstep

/-- **Each event of the screens is matched by the calls it makes.** -/
theorem simulation_screens : Simulation (ScreenStep imageNamed env) (NewIdStep env)
    (ScreensOn imageNamed env) ScreenEvent.Makes := by
  intro w r ev w' h hstep
  cases hstep with
  | @setUp uuid fetched unknown reads vc st' hrun =>
    obtain ⟨vc', userId, hrun', _, _, hshows⟩ := h.run_setupViews uuid fetched unknown reads
    obtain ⟨rfl, rfl⟩ := run_ok_inj hrun hrun'
    refine ⟨[], r, rfl, .nil r, ⟨h.stands, h.reach, h.users, ?_⟩⟩
    intro i j panel hpanel
    obtain ⟨vc', hvc', hj⟩ := Screens.panel?_eq_some.mp hpanel
    rcases List.mem_append.mp (List.mem_of_getElem? hvc') with hmem | hmem
    · obtain ⟨k, hk⟩ := List.getElem?_of_mem hmem
      exact h.panels k j panel (Screens.panel?_eq_some.mpr ⟨vc', hk, hj⟩)
    · obtain rfl := List.mem_singleton.mp hmem
      rw [h.stands.context]
      exact (hshows panel (List.mem_of_getElem? hj)).1
  | @tap i j panel tap vc' st' hpanel hrun =>
    obtain ⟨vc₁, st₁, r', hrun₁, hstep, hon, _, _⟩ := h.tap hpanel tap
    obtain ⟨rfl, rfl⟩ := run_ok_inj hrun hrun₁
    exact ⟨_, r', ⟨_, _, rfl⟩, .cons hstep (.nil r'), hon⟩
  | @appear i j panel hpanel =>
    have hshows := h.panels i j panel hpanel
    refine ⟨[], r, rfl, .nil r, ⟨h.stands, h.reach, h.users, ?_⟩⟩
    intro i' j' panel' hpanel'
    rcases Screens.eq_or_panel? hpanel' with rfl | hold
    · rw [hshows.viewDidAppear]
      exact hshows
    · exact h.panels i' j' panel' hold
  | quit =>
    refine ⟨[], r, rfl, .nil r, ⟨⟨rfl, h.stands.saved', ?_⟩, h.reach, h.users, ?_⟩⟩
    · exact h.stands.context.trans h.stands.saved.symm
    · intro i j panel hpanel
      cases hpanel

/-- **Every screen shows the store.**  On a stored user's store, screens are set up,
sections are sorted on any of them, sections appear again, and the process ends and
is launched again, in any order.  The only calls on the store are those that store
a sorting rule, one a tap, and nothing is ever unsaved.  Every panel of every screen
shows its section as it is stored, but for the rule: that is the one it was last
read with, and its products and buttons are in that order.  A screen that is set up
has all the user's sections; a tap always returns, gives its panel the rule that it
asks for and stores it, and changes no other section. -/
theorem screens_show_store {st₀ : CoreDataStack} (h : NewIdReachable env st₀)
    (husers : st₀.context.users.rows ≠ []) {evs : List ScreenEvent} {w : Screens Image}
    (hrun : Run (ScreenStep imageNamed env) ⟨[], .launch st₀.persisted⟩ evs w) :
    w.coreDataStack.Saved ∧
    (∃ opss st, List.Forall₂ ScreenEvent.Makes evs opss ∧
      Run (NewIdStep env) st₀ opss.flatten st ∧ w.coreDataStack.context = st.context) ∧
    (∀ i j panel, w.panel? i j = some panel →
      panel.Shows imageNamed env w.coreDataStack.context) ∧
    (∀ uuid fetched unknown reads, ∃ vc userId,
      ScreenStep imageNamed env w (.setUp uuid fetched unknown reads)
        ⟨w.screens ++ [vc], w.coreDataStack⟩ ∧
      vc.userViewModel.userId w.coreDataStack.context = some userId ∧
      (vc.sectionViewControllers.map (·.section.view) : Multiset SectionView) =
        readByUser env w.coreDataStack.context userId) ∧
    ∀ i j panel tap, w.panel? i j = some panel → ∃ panel' w',
      ScreenStep imageNamed env w (.tap i j tap) w' ∧ w'.panel? i j = some panel' ∧
      panel'.section.sortingRule = tap.rule panel.section.sortingRule ∧
      readById env w'.coreDataStack.context panel.section.id = some panel'.section.view ∧
      ∀ id, id ≠ panel.section.id →
        readById env w'.coreDataStack.context id = readById env w.coreDataStack.context id := by
  have hsaved : st₀.persisted = st₀.context := h.storeReachable.saved
  obtain ⟨opss, r, hmakes, hcalls, hon⟩ := simulation_screens.run hrun
    (r := st₀) ⟨⟨rfl, hsaved, hsaved.symm⟩, h, husers, fun i j panel hp => by cases hp⟩
  refine ⟨hon.stands.saved, ⟨opss, r, hmakes, hcalls, hon.stands.context.symm⟩, ?_, ?_, ?_⟩
  · rw [← hon.stands.context]
    exact hon.panels
  · intro uuid fetched unknown reads
    obtain ⟨vc, userId, hsetup, hid, hviews, _⟩ := hon.run_setupViews uuid fetched unknown reads
    refine ⟨vc, userId, .setUp hsetup, hid, ?_⟩
    rw [hviews, fetchSections_view]
  · intro i j panel tap hpanel
    obtain ⟨vc', st', r', htap, hstep, hon', hrule, hread⟩ := hon.tap hpanel tap
    refine ⟨{ panel with viewController := vc' }, _, .tap hpanel htap,
      Screens.panel?_setPanel hpanel _, hrule, hread, ?_⟩
    intro id hid
    have hother := readById_of_sort hon.reach hstep id
    rwa [if_neg hid.symm, hon.stands.context, hon'.stands.context] at hother

/-- A section is sorted on one of two screens: the other one keeps its order. -/
theorem screens_show_store_twoScreens :
    let reads : ScreenReads := ⟨.inOrder, .inOrder, fun _ => .inOrder⟩
    let uuid : Nat → UUID := BitVec.ofNat 128
    ∃ st₀ w, NewIdReachable default st₀ ∧
      Run (ScreenStep (fun _ : String => (none : Option Unit)) default) ⟨[], .launch st₀.persisted⟩
        [.setUp uuid 0 0 reads, .tap 0 0 (.quantity .inOrder), .setUp uuid 0 0 reads] w ∧
      ∀ i j panel, w.panel? i j = some panel →
        panel.Shows (fun _ => none) default w.coreDataStack.context := by
  intro reads uuid
  let fridge : Section := ⟨9, "fridge", 30, .oldestToNewest, [⟨1, "egg", "egg", 2, 11⟩]⟩
  let ops : List Op := [.createUser 7 "Ray", .createSection 7 fridge]
  let st := final (exec default (ops.get 0)) (.launch .empty)
  let st₀ := final (exec default (ops.get 1)) st
  obtain ⟨h₁, saved₁⟩ := newIdStep_final default (.launch .empty) (ops.get 0) rfl (by decide)
    (by decide) (by decide)
  obtain ⟨h₂, _⟩ := newIdStep_final default st (ops.get 1) saved₁ (by decide) (by decide)
    (by decide)
  have hreach : NewIdReachable default st₀ := ⟨ops, .cons h₁ (.cons h₂ (.nil _))⟩
  have husers : st₀.context.users.rows ≠ [] := by decide
  have hnil : Run (ScreenStep (fun _ : String => (none : Option Unit)) default)
      ⟨[], .launch st₀.persisted⟩ [] _ := .nil _
  obtain ⟨_, _, _, hsetUp, _⟩ := screens_show_store hreach husers hnil
  obtain ⟨vc, userId, hstep, hid, hviews⟩ := hsetUp uuid 0 0 reads
  obtain rfl : userId = 7 := by
    obtain ⟨u, _, hu⟩ := Option.bind_eq_some_iff.mp hid
    obtain ⟨r, hr, hru⟩ := Option.bind_eq_some_iff.mp hu
    have hrows : st₀.context.users.rows = [(0, ⟨some 7, some "Ray"⟩)] := by decide
    have hmem := st₀.context.users.get?_eq_some.mp hr
    rw [hrows, List.mem_singleton] at hmem
    cases hmem
    exact (Option.some.inj hru).symm
  have hread : readByUser default st₀.context 7 = {fridge.view} := by decide
  obtain ⟨panel, hpanels, _⟩ : ∃ panel, vc.sectionViewControllers = [panel] ∧
      panel.section.view = fridge.view := by
    rw [← List.map_eq_singleton_iff]
    exact Multiset.coe_eq_singleton.mp (hviews.trans hread)
  have hpanel : Screens.panel? ⟨[] ++ [vc], .launch st₀.persisted⟩ 0 0 = some panel :=
    Screens.panel?_eq_some.mpr ⟨vc, rfl, by rw [hpanels]; rfl⟩
  obtain ⟨_, _, _, _, htap⟩ := screens_show_store hreach husers (.cons hstep (.nil _))
  obtain ⟨_, w, htapped, _⟩ := htap 0 0 panel (.quantity .inOrder) hpanel
  obtain ⟨_, _, _, hsetUp', _⟩ :=
    screens_show_store hreach husers (.cons hstep (.cons htapped (.nil _)))
  obtain ⟨vc', _, hstep', _⟩ := hsetUp' uuid 0 0 reads
  have hrun : Run _ _ _ _ := .cons hstep (.cons htapped (.cons hstep' (.nil _)))
  exact ⟨st₀, _, hreach, hrun, (screens_show_store hreach husers hrun).2.2.1⟩

end InventoryApp
