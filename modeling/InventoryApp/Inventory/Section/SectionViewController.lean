import InventoryApp.Inventory.Section.SectionViewModel

/-!
# `SectionViewController`

The header of a section has two sort buttons.  A tap stores a sorting rule,
reads the section again and restyles both buttons; `updateButtonAppearanceAndSymbols`
restyles them as well, from the view model's rule, when the screen appears.  The
handlers and that routine name the images and colours separately.

Three things should then agree after every tap: the rule in the store, the rule
and the list of the view model, and the look of the buttons.  `InStep` says so,
with what a tap may change in the store: the sorting rule of this one record.
`tap_step` shows it for one tap and `taps_inStep` for every sequence.

Images come from the asset catalogue through `UIImage(named:)`, which may have
none; a button then keeps the image it has.  The collection of the section reads
the view model when it reloads, and has no state of its own here.
-/

namespace InventoryApp

open Lib SectionRepository

/-- The image, tint and title colour of a button in its normal state. -/
structure UIButton (Image : Type) where
  image : Option Image := none
  tintColor : UIColor := .black
  titleColor : UIColor := .black
  deriving DecidableEq, Repr

structure SectionViewController (Image : Type) where
  sectionViewModel : SectionViewModel
  sortDateButton : UIButton Image := {}
  sortQuantityButton : UIButton Image := {}

variable {Image : Type} (imageNamed : String → Option Image) (env : Environment)

/-- `imageNamed` is `UIImage(named:)?.withRenderingMode(.alwaysOriginal)`. -/
def UIButton.setActiveAppearance (button : UIButton Image) (isActive : Bool) (imageName : String) :
    UIButton Image where
  image :=
    match imageNamed imageName with
    | some image => some image
    | none => button.image
  tintColor := if isActive then .black else .gray
  titleColor := if isActive then .black else .gray

namespace SectionViewController

variable (vc : SectionViewController Image)

def updateButtonAppearanceAndSymbols : SectionViewController Image :=
  match vc.sectionViewModel.sortingRule with
  | .newestToOldest | .oldestToNewest =>
    { vc with
      sortDateButton := vc.sortDateButton.setActiveAppearance imageNamed true
        (if vc.sectionViewModel.sortingRule = .newestToOldest then "upArrow" else "downArrow")
      sortQuantityButton :=
        vc.sortQuantityButton.setActiveAppearance imageNamed false "grayArrow" }
  | .quantityLowToHigh | .quantityHighToLow =>
    { vc with
      sortDateButton := vc.sortDateButton.setActiveAppearance imageNamed false "grayArrow"
      sortQuantityButton := vc.sortQuantityButton.setActiveAppearance imageNamed true
        (if vc.sectionViewModel.sortingRule = .quantityLowToHigh then "upArrow"
          else "downArrow") }

def sortDateButtonTapped (sets : Arrangement) : Repo (SectionViewController Image) := do
  let sectionViewModel ← vc.sectionViewModel.sortProducts env sets
    (if vc.sectionViewModel.sortingRule = .newestToOldest then .oldestToNewest
      else .newestToOldest)
  return {
    sectionViewModel
    sortDateButton := vc.sortDateButton.setActiveAppearance imageNamed true
      (if sectionViewModel.sortingRule = .newestToOldest then "upArrow" else "downArrow")
    sortQuantityButton :=
      vc.sortQuantityButton.setActiveAppearance imageNamed false "grayArrow" }

def sortQuantityButtonTapped (sets : Arrangement) : Repo (SectionViewController Image) := do
  let sectionViewModel ← vc.sectionViewModel.sortProducts env sets
    (if vc.sectionViewModel.sortingRule = .quantityLowToHigh then .quantityHighToLow
      else .quantityLowToHigh)
  return {
    sectionViewModel
    sortQuantityButton := vc.sortQuantityButton.setActiveAppearance imageNamed true
      (if sectionViewModel.sortingRule = .quantityLowToHigh then "upArrow" else "downArrow")
    sortDateButton := vc.sortDateButton.setActiveAppearance imageNamed false "grayArrow" }

end SectionViewController

/-- A tap on a sort button; its read enumerates the products in some order. -/
inductive SortTap
  | date (sets : Arrangement)
  | quantity (sets : Arrangement)

namespace SortTap

def handle (vc : SectionViewController Image) : SortTap → Repo (SectionViewController Image)
  | date sets => vc.sortDateButtonTapped imageNamed env sets
  | quantity sets => vc.sortQuantityButtonTapped imageNamed env sets

def sets : SortTap → Arrangement
  | date sets => sets
  | quantity sets => sets

/-- The rule a tap asks for. -/
def rule (current : SortingRule) : SortTap → SortingRule
  | date _ => if current = .newestToOldest then .oldestToNewest else .newestToOldest
  | quantity _ => if current = .quantityLowToHigh then .quantityHighToLow else .quantityLowToHigh

end SortTap

/-- The screen of a section and the store it works on. -/
structure SectionScreen (Image : Type) where
  viewController : SectionViewController Image
  coreDataStack : CoreDataStack

/-- A tap whose handler returns. -/
def TapStep (w : SectionScreen Image) (tap : SortTap) (w' : SectionScreen Image) : Prop :=
  (tap.handle imageNamed env w.viewController).run w.coreDataStack =
    .ok w'.viewController w'.coreDataStack

/-! ### What a tap may change -/

/-- Two stores that differ in the sorting rule of the section record `k` at most. -/
structure OnlySortingRule (k : ObjectID) (g g' : Graph) : Prop where
  users : g'.users = g.users
  products : g'.products = g.products
  others : ∀ i, i ≠ k → g'.sections.get? i = g.sections.get? i
  own : ∀ s, g.sections.get? k = some s →
    ∃ raw, g'.sections.get? k = some { s with sortingRule := raw }

theorem OnlySortingRule.refl (k : ObjectID) (g : Graph) : OnlySortingRule k g g :=
  ⟨rfl, rfl, fun _ _ => rfl, fun s hs => ⟨s.sortingRule, hs⟩⟩

theorem OnlySortingRule.trans {k : ObjectID} {g g' g'' : Graph} (h : OnlySortingRule k g g')
    (h' : OnlySortingRule k g' g'') : OnlySortingRule k g g'' where
  users := h'.users.trans h.users
  products := h'.products.trans h.products
  others i hi := (h'.others i hi).trans (h.others i hi)
  own s hs := by
    obtain ⟨_, hs'⟩ := h.own s hs
    obtain ⟨raw, hs''⟩ := h'.own _ hs'
    exact ⟨raw, hs''⟩

/-- The view model has the rule and the products of the section record `k`, in
order, and all of it is on disk. -/
structure SectionViewModel.Mirrors (k : ObjectID) (vm : SectionViewModel) (st : CoreDataStack) :
    Prop where
  found : SectionRepository.fetchCDSectionById env st.context vm.section.id = some k
  stored : (st.context.sections.get? k).map (·.sortingRule) = some vm.sortingRule.rawValue
  products : vm.section.products.Perm ((productRows st.context k).map (readProduct env))
  ordered : vm.sortingRule.Ordered vm.section.products
  saved : st.Saved

/-- View model, buttons and store agree, and the store has changed since `g` in
the sorting rule of `k` at most. -/
structure InStep (k : ObjectID) (g : Graph) (w : SectionScreen Image) : Prop where
  mirrors : w.viewController.sectionViewModel.Mirrors env k w.coreDataStack
  appearance : w.viewController.updateButtonAppearanceAndSymbols imageNamed = w.viewController
  frame : OnlySortingRule k g w.coreDataStack.context

/-! ### The buttons -/

@[simp] theorem UIButton.setActiveAppearance_setActiveAppearance (button : UIButton Image)
    (isActive : Bool) (imageName : String) :
    (button.setActiveAppearance imageNamed isActive imageName).setActiveAppearance imageNamed
      isActive imageName = button.setActiveAppearance imageNamed isActive imageName := by
  unfold UIButton.setActiveAppearance
  cases imageNamed imageName <;> rfl

/-- Restyling the buttons does not touch the view model. -/
theorem sectionViewModel_updateButtonAppearanceAndSymbols (vc : SectionViewController Image) :
    (vc.updateButtonAppearanceAndSymbols imageNamed).sectionViewModel = vc.sectionViewModel := by
  unfold SectionViewController.updateButtonAppearanceAndSymbols
  split <;> rfl

/-- Restyling buttons that are in style changes nothing. -/
theorem updateButtonAppearanceAndSymbols_idem (vc : SectionViewController Image) :
    (vc.updateButtonAppearanceAndSymbols imageNamed).updateButtonAppearanceAndSymbols imageNamed =
      vc.updateButtonAppearanceAndSymbols imageNamed := by
  cases hrule : vc.sectionViewModel.sortingRule <;>
    simp only [SectionViewController.updateButtonAppearanceAndSymbols, hrule,
      UIButton.setActiveAppearance_setActiveAppearance]

/-- **A handler restyles the buttons as `updateButtonAppearanceAndSymbols` does**,
once the view model has the rule that was asked for. -/
theorem SortTap.run_handle {vc : SectionViewController Image} {tap : SortTap}
    {st st' : CoreDataStack} {vm' : SectionViewModel}
    (hrun : (vc.sectionViewModel.sortProducts env tap.sets
      (tap.rule vc.sectionViewModel.sortingRule)).run st = .ok vm' st')
    (hrule : vm'.sortingRule = tap.rule vc.sectionViewModel.sortingRule) :
    (tap.handle imageNamed env vc).run st =
      .ok ({ vc with sectionViewModel := vm' }.updateButtonAppearanceAndSymbols imageNamed)
        st' := by
  cases tap with
  | date sets =>
    refine (run_bind_ok hrun).trans ?_
    by_cases h : vc.sectionViewModel.sortingRule = .newestToOldest
    · have hrule' : vm'.sortingRule = .oldestToNewest := by rw [hrule, SortTap.rule, if_pos h]
      simp only [SectionViewController.updateButtonAppearanceAndSymbols, hrule']
      rfl
    · have hrule' : vm'.sortingRule = .newestToOldest := by rw [hrule, SortTap.rule, if_neg h]
      simp only [SectionViewController.updateButtonAppearanceAndSymbols, hrule']
      rfl
  | quantity sets =>
    refine (run_bind_ok hrun).trans ?_
    by_cases h : vc.sectionViewModel.sortingRule = .quantityLowToHigh
    · have hrule' : vm'.sortingRule = .quantityHighToLow := by rw [hrule, SortTap.rule, if_pos h]
      simp only [SectionViewController.updateButtonAppearanceAndSymbols, hrule']
      rfl
    · have hrule' : vm'.sortingRule = .quantityLowToHigh := by rw [hrule, SortTap.rule, if_neg h]
      simp only [SectionViewController.updateButtonAppearanceAndSymbols, hrule']
      rfl

/-! ### Taps -/

section Taps

variable {env} {k : ObjectID}

/-- A store whose tables differ in one sorting rule. -/
theorem onlySortingRule_of_tables {g g' : Graph} {raw : Int16}
    (h : g'.tables = ⟨g.users, g.sections.modify k (fun s => { s with sortingRule := raw }),
      g.products⟩) : OnlySortingRule k g g' := by
  obtain ⟨hu, hsec, hp⟩ := Tables.mk.inj h
  refine ⟨hu, hp, fun i hi => ?_, fun s hs => ⟨raw, ?_⟩⟩
  · rw [hsec, Table.get?_modify_of_ne _ hi]
  · rw [hsec, Table.get?_modify_self _ hs]

/-- **A sort makes the view model mirror the record it wrote to.** -/
theorem sortProducts_mirrors {vm : SectionViewModel} {st : CoreDataStack} {v : SectionView}
    (hk : SectionRepository.fetchCDSectionById env st.context vm.section.id = some k)
    (hread : readById env st.context vm.section.id = some v) (sets : Arrangement)
    (rule : SortingRule) :
    ∃ vm' st', (vm.sortProducts env sets rule).run st = .ok vm' st' ∧ vm'.sortingRule = rule ∧
      readById env st'.context vm'.section.id = some vm'.section.view ∧
      vm'.Mirrors env k st' ∧ OnlySortingRule k st.context st'.context := by
  obtain ⟨sec, st', hrun, hread', hview, hord⟩ := run_sortProducts vm hread sets rule
  obtain ⟨_, g, hcommit, hg⟩ := run_sortProducts_commit env hk sets rule
  obtain ⟨_, rfl⟩ := run_ok_inj hrun hcommit
  rw [CoreDataStack.context_commit] at hread'
  obtain ⟨_, hsec, _⟩ := Tables.mk.inj hg
  have hid : sec.id = vm.section.id :=
    (congrArg SectionView.id hview :).trans (id_of_readById env g hread')
  -- the id still leads to `k`, whose record is the one that was read
  have hfound : SectionRepository.fetchCDSectionById env g vm.section.id = some k := by
    rw [fetchCDSectionById_modify env hsec (fun _ => rfl)]
    exact hk
  obtain ⟨k', s, hk', hs, hr⟩ := (readById_eq_some env g).mp hread'
  obtain rfl := Option.some.inj (hfound.symm.trans hk')
  obtain ⟨_, _, hraw, _, hproducts⟩ := (readSection_eq_some env g).mp hr
  refine ⟨_, _, hrun, congrArg SectionView.sortingRule hview, ?_, ⟨?_, ?_, ?_, hord, ?_⟩, ?_⟩
  · rw [CoreDataStack.context_commit, hid, hread', hview]
  · rw [CoreDataStack.context_commit, hid]
    exact hfound
  · rw [CoreDataStack.context_commit, hs, Option.map_some,
      SortingRule.ofRawValue_eq_some.mp hraw]
    exact congrArg (fun v => some v.sortingRule.rawValue) hview.symm
  · rw [CoreDataStack.context_commit]
    refine Multiset.coe_eq_coe.mp (Eq.trans ?_ hproducts.symm)
    exact congrArg SectionView.products hview
  · exact st.saved_commit g
  · rw [CoreDataStack.context_commit]
    exact onlySortingRule_of_tables hg

/-- The view model's id leads to `k`, and its section can be read. -/
structure SectionScreen.Shows (env : Environment) (k : ObjectID) (w : SectionScreen Image) :
    Prop where
  found : SectionRepository.fetchCDSectionById env w.coreDataStack.context
    w.viewController.sectionViewModel.section.id = some k
  read : ∃ v, readById env w.coreDataStack.context
    w.viewController.sectionViewModel.section.id = some v

/-- **What one tap does.**  Its handler returns, the rule is the one it asks for,
the buttons are restyled for that rule, and the screen is in step. -/
theorem tap_step {w : SectionScreen Image} (h : w.Shows env k) (tap : SortTap) :
    ∃ w', TapStep imageNamed env w tap w' ∧ w'.Shows env k ∧
      w'.viewController.sectionViewModel.sortingRule =
        tap.rule w.viewController.sectionViewModel.sortingRule ∧
      w'.viewController = SectionViewController.updateButtonAppearanceAndSymbols imageNamed
        { w.viewController with sectionViewModel := w'.viewController.sectionViewModel } ∧
      InStep imageNamed env k w.coreDataStack.context w' := by
  obtain ⟨⟨vm, date, quantity⟩, st⟩ := w
  obtain ⟨hk, v, hread⟩ := h
  obtain ⟨vm', st', hrun, hrule, hread', hmirrors, hframe⟩ :=
    sortProducts_mirrors hk hread tap.sets (tap.rule vm.sortingRule)
  have hhandle : (tap.handle imageNamed env ⟨vm, date, quantity⟩).run st =
      .ok (SectionViewController.updateButtonAppearanceAndSymbols imageNamed
        ⟨vm', date, quantity⟩) st' := SortTap.run_handle imageNamed env hrun hrule
  have hvm := sectionViewModel_updateButtonAppearanceAndSymbols imageNamed ⟨vm', date, quantity⟩
  generalize hvc : SectionViewController.updateButtonAppearanceAndSymbols imageNamed
    ⟨vm', date, quantity⟩ = vc' at hhandle hvm
  obtain rfl : vc'.sectionViewModel = vm' := hvm
  refine ⟨⟨vc', st'⟩, hhandle, ⟨hmirrors.found, _, hread'⟩, hrule, hvc.symm, hmirrors, ?_, hframe⟩
  show vc'.updateButtonAppearanceAndSymbols imageNamed = vc'
  rw [← hvc]
  exact updateButtonAppearanceAndSymbols_idem imageNamed _

theorem TapStep.deterministic {w t t' : SectionScreen Image} {tap : SortTap}
    (h : TapStep imageNamed env w tap t) (h' : TapStep imageNamed env w tap t') : t = t' := by
  obtain ⟨hvc, hst⟩ := run_ok_inj h h'
  cases t
  cases t'
  simp_all

/-- **Buttons, view model and store stay in step.**  A section is read from the
store into a view model with two buttons in any state.  However often and in
whatever order the buttons have been tapped, the handler of the next tap returns;
it gives both buttons the appearance that `updateButtonAppearanceAndSymbols` gives
them for the new rule; and then view model and store have the same rule and the
same products, in the order of that rule, and the store is the one from the start
up to this record's sorting rule. -/
theorem taps_inStep {st st₀ : CoreDataStack} {sec found : Section} {sets : Arrangement}
    {vm : SectionViewModel} (hread : fetchSectionById env st.context sets sec.id = some found)
    (hinit : (SectionViewModel.init env sets sec).run st = .ok vm st₀)
    (date quantity : UIButton Image) :
    ∃ k, SectionRepository.fetchCDSectionById env st.context sec.id = some k ∧
      ∀ taps w, Run (TapStep imageNamed env) ⟨⟨vm, date, quantity⟩, st₀⟩ taps w → ∀ tap,
        (∃ w', TapStep imageNamed env w tap w') ∧
        ∀ w', TapStep imageNamed env w tap w' →
          w'.viewController = SectionViewController.updateButtonAppearanceAndSymbols imageNamed
            { w.viewController with sectionViewModel := w'.viewController.sectionViewModel } ∧
          InStep imageNamed env k st.context w' := by
  have hview := readById_of_fetch env st.context hread
  obtain ⟨k, _, hk, _⟩ := (readById_eq_some env st.context).mp hview
  refine ⟨k, hk, ?_⟩
  intro taps w hrun tap
  obtain ⟨loaded, hload, hloaded, _⟩ :=
    run_fetchUpdatedSection { «section» := sec } hview sets
  obtain ⟨rfl, rfl⟩ := run_ok_inj hload hinit
  have hid : loaded.id = sec.id :=
    (congrArg SectionView.id hloaded :).trans (id_of_readById env st.context hview)
  -- what every run of taps keeps
  have hkeep : w.Shows env k ∧ OnlySortingRule k st.context w.coreDataStack.context := by
    refine hrun.invariant
      (fun w => w.Shows env k ∧ OnlySortingRule k st.context w.coreDataStack.context) ?_
      ⟨⟨?_, found.view, ?_⟩, .refl k st.context⟩
    · intro s a t hs hstep
      obtain ⟨t', hstep', hshows, _, _, hin⟩ := tap_step imageNamed hs.1 a
      obtain rfl := hstep.deterministic imageNamed hstep'
      exact ⟨hshows, hs.2.trans hin.frame⟩
    · rw [hid]; exact hk
    · rw [hid]; exact hview
  obtain ⟨w', hstep, _, _, hbuttons, hin⟩ := tap_step imageNamed hkeep.1 tap
  refine ⟨⟨w', hstep⟩, ?_⟩
  intro w'' hstep'
  obtain rfl := hstep'.deterministic imageNamed hstep
  exact ⟨hbuttons, hin.mirrors, hin.appearance, hkeep.2.trans hin.frame⟩

/-- The quantity button of one of two sections is tapped, and then its date button. -/
theorem taps_inStep_twoTaps :
    let egg : Product := ⟨1, "egg", "egg", 2, 11⟩
    let milk : Product := ⟨2, "milk", "milk", 1, 3⟩
    let rice : Product := ⟨3, "rice", "rice", 4, 90⟩
    let fridge : Section := ⟨9, "fridge", 30, .oldestToNewest, [milk, egg, rice]⟩
    let freezer : Section := ⟨10, "freezer", 90, .quantityLowToHigh, [⟨4, "peas", "peas", 3, 40⟩]⟩
    let st := final (execAll default [.createUser 7 "Ray", .createSection 7 fridge,
      .createSection 7 freezer]) (.launch .empty)
    ∃ w w' : SectionScreen String,
      Run (TapStep some default) ⟨⟨⟨fridge⟩, {}, {}⟩, st⟩ [.quantity .inOrder] w ∧
      TapStep some default w (.date .inOrder) w' ∧
      w'.viewController.sectionViewModel.sortingRule = .newestToOldest ∧
      w'.viewController.sectionViewModel.section.products.Perm [rice, egg, milk] ∧
      w'.viewController.sortDateButton = ⟨some "upArrow", .black, .black⟩ ∧
      w'.viewController.sortQuantityButton = ⟨some "grayArrow", .gray, .gray⟩ ∧
      w'.coreDataStack.context.sections.get? 1 = some ⟨some 10, 90, 2, some "freezer", some 0⟩ ∧
      InStep some default 0 st.context w' := by
  intro egg milk rice fridge freezer st
  have hread : fetchSectionById default st.context .inOrder fridge.id = some fridge := by
    decide +kernel
  have hview : readById default st.context fridge.id = some fridge.view :=
    readById_of_fetch default st.context hread
  have hk : SectionRepository.fetchCDSectionById default st.context fridge.id = some 0 := by
    decide +kernel
  have hother : st.context.sections.get? 1 = some ⟨some 10, 90, 2, some "freezer", some 0⟩ := by
    decide +kernel
  have hrows : (productRows st.context 0).map (readProduct default) = [milk, egg, rice] := by
    decide +kernel
  clear_value st
  have hinit : (SectionViewModel.init default .inOrder fridge).run st = .ok ⟨fridge⟩ st :=
    run_fetchUpdatedSection_of_some hread
  have hshows : (⟨⟨⟨fridge⟩, {}, {}⟩, st⟩ : SectionScreen String).Shows default 0 :=
    ⟨hk, fridge.view, hview⟩
  obtain ⟨w, hstep, hshows', hrule, _⟩ := tap_step some hshows (.quantity .inOrder)
  obtain ⟨w', hstep', _, hrule', _⟩ := tap_step some hshows' (.date .inOrder)
  obtain ⟨k, hk', hin⟩ := taps_inStep some hread hinit {} {}
  obtain rfl : 0 = k := Option.some.inj (hk.symm.trans hk')
  have hrun := Run.cons hstep (.nil w)
  obtain ⟨hbuttons, hinStep⟩ := (hin _ w hrun (.date .inOrder)).2 w' hstep'
  have hnew : w'.viewController.sectionViewModel.sortingRule = .newestToOldest := by
    rw [hrule', hrule]
    rfl
  refine ⟨w, w', hrun, hstep', hnew, ?_, ?_, ?_, ?_, hinStep⟩
  · refine hinStep.mirrors.products.trans ?_
    rw [productRows, hinStep.frame.products, ← productRows, hrows]
    decide
  · rw [hbuttons]
    simp only [SectionViewController.updateButtonAppearanceAndSymbols, hnew]
    rfl
  · rw [hbuttons]
    simp only [SectionViewController.updateButtonAppearanceAndSymbols, hnew]
    rfl
  · rw [hinStep.frame.others 1 (by decide), hother]

end Taps

end InventoryApp
