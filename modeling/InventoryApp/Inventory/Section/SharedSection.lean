import InventoryApp.Inventory.Section.SectionViewModel

/-!
# Several view models on one section

A second `MainViewController`, which a phone sign-in creates, loads view models of
its own for sections that are already on screen.  Each keeps its own copy of the
section, and only `sortProducts` reads the store again, so copies grow old.

A `SharedSection` is the store with the view models of one section, and `chosen`
is the rule of the most recent `sortProducts` call.  The store should hold that
rule.  But `addProduct` and `updateProduct` store title, rule and sorting rule as
their own view model remembers them, and `storesChosen_iff` says when that does
no harm: the rule it remembers is the chosen one.
-/

namespace InventoryApp

open Lib SectionRepository

/-- `chosen` is a history: the initial rule until the first `sortProducts`. -/
structure SharedSection where
  viewModels : List SectionViewModel := []
  coreDataStack : CoreDataStack
  chosen : SortingRule

/-- A view model is created, or the one at a position is called. -/
inductive SharedEvent
  | load (sets : Arrangement) (sec : Section)
  | call (viewModel : Nat) (op : SectionOp)

/-- The rule chosen last, after a call. -/
def SectionOp.choose (chosen : SortingRule) : SectionOp → SortingRule
  | sortProducts _ rule => rule
  | _ => chosen

variable (env : Environment)

/-- An event on the section `id`; a call that does not return is no step. -/
inductive SharedStep (id : UUID) : SharedSection → SharedEvent → SharedSection → Prop
  | load {w : SharedSection} {sets : Arrangement} {sec : Section} {vm : SectionViewModel}
      {st' : CoreDataStack} (hid : sec.id = id)
      (hrun : (SectionViewModel.init env sets sec).run w.coreDataStack = .ok vm st') :
      SharedStep id w (.load sets sec)
        { w with viewModels := w.viewModels ++ [vm], coreDataStack := st' }
  | call {w : SharedSection} {i : Nat} {op : SectionOp} {vm vm' : SectionViewModel}
      {st' : CoreDataStack} (hvm : w.viewModels[i]? = some vm)
      (hrun : (op.exec env vm).run w.coreDataStack = .ok vm' st') :
      SharedStep id w (.call i op) ⟨w.viewModels.set i vm', st', op.choose w.chosen⟩

/-- The event is one of the section `id`, and of a view model that is there. -/
def SharedEvent.Enabled (id : UUID) (w : SharedSection) : SharedEvent → Prop
  | load _ sec => sec.id = id
  | call i _ => i < w.viewModels.length

/-- The store holds the rule chosen last. -/
def SharedSection.StoresChosen (id : UUID) (w : SharedSection) : Prop :=
  storedSortingRule env w.coreDataStack.context id = some w.chosen.rawValue

/-- The call stores the sorting rule that the view model remembers. -/
def SectionOp.WritesBack (vm : SectionViewModel) : SectionOp → Prop
  | addProduct _ => True
  | updateProduct index _ => index ≥ 0 ∧ index < vm.section.products.length
  | updateSection => True
  | sortProducts _ _ => False

/-- A call that writes back is made through a view model that remembers the chosen rule. -/
def SharedEvent.KnowsChosen (w : SharedSection) : SharedEvent → Prop
  | load _ _ => True
  | call i op => ∀ vm, w.viewModels[i]? = some vm → op.WritesBack vm →
      vm.section.sortingRule = w.chosen

/-! ### One call -/

section Calls

variable {env} {vm : SectionViewModel} {st : CoreDataStack} {v : SectionView}

/-- A view model of a stored section. -/
structure SectionViewModel.Opened (id : UUID) (vm : SectionViewModel) : Prop where
  id : vm.section.id = id
  fits : FitsInt16 vm.section.rule

/-- **Every call returns; what writes back leaves the remembered rule in the store,
and what does not leaves the chosen one.** -/
theorem exec_sortingRule {id : UUID} (hvm : vm.Opened id)
    (hread : readById env st.context id = some v) (op : SectionOp) :
    ∃ vm' st' v', (op.exec env vm).run st = .ok vm' st' ∧ vm'.Opened id ∧
      vm'.section.sortingRule = op.choose vm.section.sortingRule ∧
      readById env st'.context id = some v' ∧
      (op.WritesBack vm → v'.sortingRule = vm.section.sortingRule ∧
        op.choose v.sortingRule = v.sortingRule) ∧
      (¬ op.WritesBack vm → v'.sortingRule = op.choose v.sortingRule) := by
  obtain ⟨rfl, hfit⟩ := hvm
  have stored : ∀ products, ∃ vm' st' v', (SectionViewModel.updateSection env { vm with
        «section» := { vm.section with products := products } }).run st = .ok vm' st' ∧
      vm'.Opened vm.section.id ∧ vm'.section.sortingRule = vm.section.sortingRule ∧
      readById env st'.context vm.section.id = some v' ∧
      v'.sortingRule = vm.section.sortingRule := by
    intro products
    obtain ⟨st', hrun, hread'⟩ := run_updateSection_viewModel
      { vm with «section» := { vm.section with products := products } } hread hfit
    exact ⟨_, st', _, hrun, ⟨rfl, hfit⟩, rfl, hread', rfl⟩
  cases op with
  | addProduct product =>
    obtain ⟨vm', st', v', hrun, hvm', hsame, hread', hrule⟩ :=
      stored (vm.section.products ++ [product])
    exact ⟨vm', st', v', hrun, hvm', hsame, hread', fun _ => ⟨hrule, rfl⟩,
      fun h => absurd trivial h⟩
  | updateProduct index product =>
    rw [SectionOp.exec, SectionViewModel.updateProduct]
    by_cases hi : index ≥ 0 ∧ index < vm.section.products.length
    · obtain ⟨vm', st', v', hrun, hvm', hsame, hread', hrule⟩ :=
        stored (vm.section.products.set index.toNat product)
      rw [if_pos hi]
      exact ⟨vm', st', v', hrun, hvm', hsame, hread', fun _ => ⟨hrule, rfl⟩,
        fun h => absurd hi h⟩
    · rw [if_neg hi]
      exact ⟨vm, st, v, rfl, ⟨rfl, hfit⟩, rfl, hread, fun h => absurd h hi, fun _ => rfl⟩
  | updateSection =>
    obtain ⟨vm', st', v', hrun, hvm', hsame, hread', hrule⟩ := stored vm.section.products
    exact ⟨vm', st', v', hrun, hvm', hsame, hread', fun _ => ⟨hrule, rfl⟩,
      fun h => absurd trivial h⟩
  | sortProducts sets rule =>
    obtain ⟨sec, st', hrun, hread', hview, _⟩ := run_sortProducts vm hread sets rule
    have hid : sec.id = v.id := congrArg SectionView.id hview
    have hrule : sec.rule = v.rule := congrArg SectionView.rule hview
    refine ⟨_, st', _, hrun, ⟨hid.trans (id_of_readById env st.context hread), ?_⟩,
      congrArg SectionView.sortingRule hview, hread', fun h => absurd h id, fun _ => rfl⟩
    show FitsInt16 sec.rule
    rw [hrule]
    exact fits_of_readById env st.context hread

/-- A new view model reads the section and changes nothing. -/
theorem run_init_sortingRule {id : UUID} (hread : readById env st.context id = some v)
    (sec : Section) (hid : sec.id = id) (sets : Arrangement) :
    ∃ vm', (SectionViewModel.init env sets sec).run st = .ok vm' st ∧ vm'.Opened id ∧
      vm'.section.sortingRule = v.sortingRule := by
  obtain rfl := hid
  obtain ⟨found, hrun, hview, _⟩ := run_fetchUpdatedSection { «section» := sec } hread sets
  have hid : found.id = v.id := congrArg SectionView.id hview
  have hrule : found.rule = v.rule := congrArg SectionView.rule hview
  refine ⟨_, hrun, ⟨hid.trans (id_of_readById env st.context hread), ?_⟩,
    congrArg SectionView.sortingRule hview⟩
  show FitsInt16 found.rule
  rw [hrule]
  exact fits_of_readById env st.context hread

end Calls

/-! ### All schedules -/

/-- The section can be read, and every view model is one of it. -/
structure SharedSection.Opened (id : UUID) (w : SharedSection) : Prop where
  stored : ∃ v, readById env w.coreDataStack.context id = some v
  viewModels : ∀ vm ∈ w.viewModels, vm.Opened id

variable {env} {id : UUID} {w w' : SharedSection} {ev : SharedEvent}

/-- Every event that is enabled has an outcome. -/
theorem SharedSection.Opened.exists_step (h : w.Opened env id) (hev : ev.Enabled id w) :
    ∃ w', SharedStep env id w ev w' := by
  obtain ⟨v, hread⟩ := h.stored
  cases ev with
  | load sets sec =>
    obtain ⟨vm', hrun, _⟩ := run_init_sortingRule hread sec hev sets
    exact ⟨_, .load hev hrun⟩
  | call i op =>
    have hvm : w.viewModels[i]? = some w.viewModels[i] := List.getElem?_eq_getElem hev
    obtain ⟨vm', st', _, hrun, _⟩ :=
      exec_sortingRule (h.viewModels _ (List.mem_of_getElem? hvm)) hread op
    exact ⟨_, .call hvm hrun⟩

/-- **What one event does to view models that are opened**: they stay so, and the
store holds the chosen rule if what is written back is the chosen rule. -/
theorem SharedSection.Opened.step (h : w.Opened env id) (hstep : SharedStep env id w ev w') :
    w'.Opened env id ∧
      (w.StoresChosen env id → (w'.StoresChosen env id ↔ ev.KnowsChosen w)) := by
  obtain ⟨v, hread⟩ := h.stored
  have hstored := storedSortingRule_of_readById env _ hread
  cases hstep with
  | @load sets sec vm st' hid hrun =>
    obtain ⟨vm', hrun', hvm', _⟩ := run_init_sortingRule hread sec hid sets
    obtain ⟨rfl, rfl⟩ := run_ok_inj hrun hrun'
    refine ⟨⟨⟨v, hread⟩, ?_⟩, fun hw => iff_of_true hw trivial⟩
    intro m hm
    rcases List.mem_append.mp hm with hm | hm
    · exact h.viewModels m hm
    · obtain rfl := List.mem_singleton.mp hm
      exact hvm'
  | @call i op vm vm₁ st₁ hvm hrun =>
    obtain ⟨vm', st', v', hrun', hvm', _, hread', hback, hkept⟩ :=
      exec_sortingRule (h.viewModels vm (List.mem_of_getElem? hvm)) hread op
    obtain ⟨rfl, rfl⟩ := run_ok_inj hrun hrun'
    refine ⟨⟨⟨v', hread'⟩, ?_⟩, ?_⟩
    · intro m hm
      rcases List.mem_or_eq_of_mem_set hm with hm | rfl
      · exact h.viewModels m hm
      · exact hvm'
    · intro hw
      have hchosen : v.sortingRule = w.chosen := by
        refine SortingRule.rawValue_injective ?_
        exact Option.some.inj (hstored.symm.trans hw)
      unfold SharedSection.StoresChosen SharedEvent.KnowsChosen
      rw [storedSortingRule_of_readById env _ hread', Option.some.injEq, ← hchosen]
      by_cases hwb : op.WritesBack vm
      · obtain ⟨hv', hc⟩ := hback hwb
        rw [hv', hc]
        constructor
        · intro heq m hm _
          obtain rfl := Option.some.inj (hvm.symm.trans hm)
          exact SortingRule.rawValue_injective heq
        · intro hall
          rw [hall vm hvm hwb]
      · rw [hkept hwb]
        refine iff_of_true rfl ?_
        intro m hm hm'
        obtain rfl := Option.some.inj (hvm.symm.trans hm)
        exact absurd hm' hwb

/-- The view model at a position remembers the chosen rule. -/
def SharedSection.Remembers (i : Nat) (w : SharedSection) : Prop :=
  ∀ vm, w.viewModels[i]? = some vm → vm.section.sortingRule = w.chosen

/-- A view model that has sorted remembers the chosen rule, and it does so as long as
no other one sorts. -/
theorem SharedSection.Opened.remembers (h : w.Opened env id) {i : Nat} {op : SectionOp}
    (hstep : SharedStep env id w (.call i op) w')
    (hi : w.Remembers i ∨ ∃ sets rule, op = .sortProducts sets rule) : w'.Remembers i := by
  obtain ⟨v, hread⟩ := h.stored
  cases hstep with
  | @call _ _ vm vm' st' hvm hrun =>
    obtain ⟨vm₁, st₁, _, hrun₁, _, hsame, _⟩ :=
      exec_sortingRule (h.viewModels vm (List.mem_of_getElem? hvm)) hread op
    obtain ⟨rfl, rfl⟩ := run_ok_inj hrun hrun₁
    intro m hm
    obtain ⟨hlt, _⟩ := List.getElem?_eq_some_iff.mp hvm
    obtain rfl : vm' = m := by
      rw [List.getElem?_set_self hlt] at hm
      exact Option.some.inj hm
    rw [hsame]
    rcases hi with hi | ⟨sets, rule, rfl⟩
    · rw [hi vm hvm]
    · rfl

/-- So no choice is lost while one view model, which remembers the rule, is called alone. -/
theorem knowsChosen_of_alone (h : w.Opened env id) {i : Nat} (hi : w.Remembers i)
    (ops : List SectionOp) :
    Always (SharedStep env id) (fun w ev _ => ev.KnowsChosen w) w (ops.map (.call i)) := by
  induction ops generalizing w with
  | nil => trivial
  | cons op ops ih =>
    intro w' hstep
    exact ⟨fun vm hvm _ => hi vm hvm, ih (h.step hstep).1 (h.remembers hstep (Or.inl hi))⟩

/-- **When no sorting choice is lost.**  On a stored section, any number of view
models are created and called in any order, and no call traps.  The store holds
the rule of the most recent `sortProducts` after every event if and only if each
call that stores the rule its view model remembers is made through one that
remembers that rule. -/
theorem storesChosen_iff {st : CoreDataStack} {sets : Arrangement} {sec : Section}
    (hread : fetchSectionById env st.context sets id = some sec) :
    (∀ evs w, Run (SharedStep env id) ⟨[], st, sec.sortingRule⟩ evs w →
      ∀ ev, ev.Enabled id w → ∃ w', SharedStep env id w ev w') ∧
    ∀ evs, Always (SharedStep env id) (fun _ _ w' => w'.StoresChosen env id)
        ⟨[], st, sec.sortingRule⟩ evs ↔
      Always (SharedStep env id) (fun w ev _ => ev.KnowsChosen w)
        ⟨[], st, sec.sortingRule⟩ evs := by
  have hview := readById_of_fetch env st.context hread
  have hopened : (⟨[], st, sec.sortingRule⟩ : SharedSection).Opened env id :=
    ⟨⟨sec.view, hview⟩, fun vm hvm => absurd hvm List.not_mem_nil⟩
  refine ⟨?_, ?_⟩
  · intro evs w hrun ev hev
    refine SharedSection.Opened.exists_step ?_ hev
    exact hrun.invariant (SharedSection.Opened env id) (fun _ _ _ h hstep => (h.step hstep).1)
      hopened
  · intro evs
    refine always_iff_always (fun w => w.Opened env id ∧ w.StoresChosen env id) ?_ ?_
      ⟨hopened, storedSortingRule_of_readById env _ hview⟩ evs
    · intro s ev t hs hstep
      exact (hs.1.step hstep).2 hs.2
    · intro s ev t hs hstep hknows
      obtain ⟨ht, hiff⟩ := hs.1.step hstep
      exact ⟨ht, (hiff hs.2).mpr hknows⟩

/-- Two view models take turns: each sorts before it adds its product. -/
theorem storesChosen_iff_turns :
    let egg : Product := ⟨1, "egg", "egg", 2, 11⟩
    let milk : Product := ⟨2, "milk", "milk", 1, 3⟩
    let fridge : Section := ⟨9, "fridge", 30, .oldestToNewest, [egg]⟩
    let st := final (execAll default [.createUser 7 "Ray", .createSection 7 fridge])
      (.launch .empty)
    Always (SharedStep default 9) (fun _ _ w' => w'.StoresChosen default 9)
      ⟨[], st, .oldestToNewest⟩
      [.load .inOrder fridge, .load .inOrder fridge,
        .call 0 (.sortProducts .inOrder .quantityLowToHigh), .call 0 (.addProduct milk),
        .call 1 (.sortProducts .inOrder .newestToOldest), .call 1 (.addProduct milk),
        .call 1 .updateSection] := by
  intro egg milk fridge st
  have hread : fetchSectionById default st.context .inOrder 9 = some fridge := by decide
  have hview : readById default st.context 9 = some fridge.view := by decide
  have hopened : (⟨[], st, .oldestToNewest⟩ : SharedSection).Opened default 9 :=
    ⟨⟨_, hview⟩, fun vm hvm => absurd hvm List.not_mem_nil⟩
  refine ((storesChosen_iff hread).2 _).mpr ?_
  intro w₁ h₁
  have ho₁ := (hopened.step h₁).1
  refine ⟨trivial, ?_⟩
  intro w₂ h₂
  have ho₂ := (ho₁.step h₂).1
  refine ⟨trivial, ?_⟩
  -- the first view model sorts, and remembers the rule when it adds the milk
  intro w₃ h₃
  have ho₃ := (ho₂.step h₃).1
  have hfirst := ho₂.remembers h₃ (Or.inr ⟨_, _, rfl⟩)
  refine ⟨fun _ _ hwrites => hwrites.elim, ?_⟩
  intro w₄ h₄
  have ho₄ := (ho₃.step h₄).1
  refine ⟨fun vm hvm _ => hfirst vm hvm, ?_⟩
  -- then the second one
  intro w₅ h₅
  have hsecond := ho₄.remembers h₅ (Or.inr ⟨_, _, rfl⟩)
  exact ⟨fun _ _ hwrites => hwrites.elim,
    knowsChosen_of_alone (ho₄.step h₅).1 hsecond [.addProduct milk, .updateSection]⟩

/-- Two view models are created, the first sorts, and the second adds a product:
the store is back at the rule from before the sort. -/
theorem addProduct_overwrites_chosen :
    let egg : Product := ⟨1, "egg", "egg", 2, 11⟩
    let milk : Product := ⟨2, "milk", "milk", 1, 3⟩
    let fridge : Section := ⟨9, "fridge", 30, .oldestToNewest, [egg]⟩
    let st := final (execAll default [.createUser 7 "Ray", .createSection 7 fridge])
      (.launch .empty)
    let evs : List SharedEvent := [.load .inOrder fridge, .load .inOrder fridge,
      .call 0 (.sortProducts .inOrder .quantityLowToHigh), .call 1 (.addProduct milk)]
    fetchSectionById default st.context .inOrder 9 = some fridge ∧
    ∃ w, Run (SharedStep default 9) ⟨[], st, .oldestToNewest⟩ evs w ∧
      w.chosen = .quantityLowToHigh ∧
      storedSortingRule default w.coreDataStack.context 9 =
        some SortingRule.oldestToNewest.rawValue ∧
      ¬ w.StoresChosen default 9 := by
  intro egg milk fridge st evs
  have hread : readById default st.context 9 = some fridge.view := by decide
  obtain ⟨vm, hload, hvm, hrule⟩ := run_init_sortingRule hread fridge rfl .inOrder
  obtain ⟨a, st₁, v₁, hsort, _, _, hread₁, _⟩ :=
    exec_sortingRule hvm hread (.sortProducts .inOrder .quantityLowToHigh)
  obtain ⟨b, st₂, v₂, hadd, _, _, hread₂, hback, _⟩ :=
    exec_sortingRule hvm hread₁ (.addProduct milk)
  have hstored : storedSortingRule default st₂.context 9 =
      some SortingRule.oldestToNewest.rawValue := by
    rw [storedSortingRule_of_readById default _ hread₂, (hback trivial).1, hrule]
    rfl
  refine ⟨by decide, ⟨[a, b], st₂, .quantityLowToHigh⟩, ?_, rfl, hstored, ?_⟩
  · exact .cons (.load rfl hload) (.cons (.load rfl hload)
      (.cons (.call (i := 0) rfl hsort) (.cons (.call (i := 1) rfl hadd) (.nil _))))
  · unfold SharedSection.StoresChosen
    rw [hstored]
    show ¬ some SortingRule.oldestToNewest.rawValue = some SortingRule.quantityLowToHigh.rawValue
    decide

end InventoryApp
