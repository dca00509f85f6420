import InventoryApp.Inventory.Section.SectionViewController
import InventoryApp.Inventory.Storage.StorageCollectionViewController

/-!
# A section and its cards

The products of a section are objects, and a card refers to the object that the
section has: what a card edits is edited in the section too, and in the other cards
of that product.  A read makes new objects.  So after a sort, which reads the
section again, the cards from before are cards of objects that the section no longer
has.

A `SectionOnScreen` has the objects, the section with its references, the view
models of all cards that were made and the store; a view model's callback restyles
faces only and is left out.  `SectionOnScreen.Opened` is what every event keeps.
`edits` are the operations on one object, whichever card they were made on, and
`objects_of_run` says that they are all that happens to it, as long as the section is
not read again.
-/

namespace InventoryApp

open Lib SectionRepository StorageCollectionViewController

/-- A `Section` object; its products are references. -/
structure SectionObject where
  id : UUID
  title : String
  rule : Int
  sortingRule : SortingRule
  products : List ProductRef

/-- References from `next` on are unused. -/
structure SectionOnScreen where
  objects : ProductRef → Product
  next : ProductRef
  «section» : SectionObject
  cards : List CardViewModel
  coreDataStack : CoreDataStack

namespace SectionOnScreen

variable (env : Environment) (w : SectionOnScreen)

/-- The section as the screen sees it. -/
def value : Section where
  id := w.section.id
  title := w.section.title
  rule := w.section.rule
  sortingRule := w.section.sortingRule
  products := w.section.products.map w.objects

/-- A section that was read, with new objects for its products. -/
def load (sec : Section) : SectionOnScreen :=
  { w with
    objects := fun ref =>
      if ref < w.next then w.objects ref
      else (sec.products[ref - w.next]?).getD (w.objects ref)
    next := w.next + sec.products.length
    «section» :=
      ⟨sec.id, sec.title, sec.rule, sec.sortingRule, List.range' w.next sec.products.length⟩ }

/-- A view model that has just loaded its section, with no card yet. -/
def opened (st : CoreDataStack) (sec : Section) : SectionOnScreen :=
  load ⟨fun _ => ⟨0, "", "", 0, 0⟩, 0, ⟨0, "", 0, .newestToOldest, []⟩, [], st⟩ sec

/-- `SectionViewModel.fetchUpdatedSection`. -/
def fetchUpdatedSection (sets : Arrangement) : SectionOnScreen :=
  match fetchSectionById env w.coreDataStack.context sets w.section.id with
  | some updatedSection => w.load updatedSection
  | none => w

/-- The world of one of the cards. -/
def cardWorld (vm : CardViewModel) : CardWorld := ⟨w.objects, vm, [], w.coreDataStack⟩

end SectionOnScreen

/-- The grid asks for a cell, a card is operated, or a sort button is tapped. -/
inductive GridEvent
  | cellForItem (row : Nat)
  | card (card : Nat) (op : CardOp)
  | sort (tap : SortTap)

/-- An event whose handler returns. -/
inductive GridStep (env : Environment) : SectionOnScreen → GridEvent → SectionOnScreen → Prop
  | storage {w : SectionOnScreen} {row : Nat} {product : ProductRef}
      (hcell : cellForItem w.section.products row = .storage (some product)) :
      GridStep env w (.cellForItem row) { w with cards := w.cards ++ [{ product }] }
  | showMore {w : SectionOnScreen} {row : Nat}
      (hcell : cellForItem w.section.products row = .showMore) :
      GridStep env w (.cellForItem row) w
  | card {w : SectionOnScreen} {i : Nat} {vm : CardViewModel} {op : CardOp} {w' : CardWorld}
      (hvm : w.cards[i]? = some vm) (hrun : op.exec.run (w.cardWorld vm) = .ok () w') :
      GridStep env w (.card i op)
        { w with objects := w'.objects, coreDataStack := w'.coreDataStack }
  | sort {w : SectionOnScreen} {tap : SortTap} {st' : CoreDataStack}
      (hrun : (setSectionSortingRule env w.section.id (tap.rule w.section.sortingRule)).run
        w.coreDataStack = .ok () st') :
      GridStep env w (.sort tap)
        (SectionOnScreen.fetchUpdatedSection env { w with coreDataStack := st' } tap.sets)

/-- The operation of an event, if it is one on that object. -/
def GridEvent.edit? (cards : List CardViewModel) (product : ProductRef) :
    GridEvent → Option CardOp
  | card i op => if (cards[i]?).any (·.product = product) then some op else none
  | _ => none

/-- The operations on an object, through whichever card. -/
def edits (cards : List CardViewModel) (product : ProductRef) (evs : List GridEvent) :
    List CardOp :=
  evs.filterMap (GridEvent.edit? cards product)

/-- The section was just read: at first, or by a sort. -/
def JustRead (evs : List GridEvent) : Prop := evs = [] ∨ ∃ pre tap, evs = pre ++ [.sort tap]

/-! ### Objects of a read -/

namespace SectionOnScreen

variable {env : Environment} {w : SectionOnScreen}

/-- **A section that was read has the values that were read.** -/
theorem value_load (w : SectionOnScreen) (sec : Section) : (w.load sec).value = sec := by
  have hproducts : (List.range' w.next sec.products.length).map (w.load sec).objects =
      sec.products := by
    refine List.ext_getElem (by simp) fun i hi hi' => ?_
    rw [List.getElem_map, List.getElem_range', Nat.one_mul]
    show (if w.next + i < w.next then _ else _) = _
    rw [if_neg (Nat.not_lt.mpr (Nat.le_add_right _ i)), Nat.add_sub_cancel_left,
      List.getElem?_eq_getElem hi', Option.getD_some]
  rw [value]
  exact congrArg (Section.mk sec.id sec.title sec.rule sec.sortingRule) hproducts

theorem mem_products_load {sec : Section} {ref : ProductRef}
    (h : ref ∈ (w.load sec).section.products) : w.next ≤ ref ∧ ref < (w.load sec).next := by
  obtain ⟨i, hi, rfl⟩ := List.mem_range'.mp h
  refine ⟨Nat.le_add_right _ _, ?_⟩
  rw [Nat.one_mul]
  exact Nat.add_lt_add_left hi _

/-- What every event keeps of a screen of the section record `k`: the section is
stored as `v`, but for the sorting rule, its references lead to different objects,
and no reference is unused. -/
structure Opened (env : Environment) (k : ObjectID) (g : Graph) (v : SectionView)
    (w : SectionOnScreen) : Prop where
  scalars : w.section.id = v.id ∧ w.section.title = v.title ∧ w.section.rule = v.rule
  found : SectionRepository.fetchCDSectionById env w.coreDataStack.context v.id = some k
  read : readById env w.coreDataStack.context v.id =
    some { v with sortingRule := w.section.sortingRule }
  frame : OnlySortingRule k g w.coreDataStack.context
  nodup : w.section.products.Nodup
  products : ∀ ref ∈ w.section.products, ref < w.next
  cards : ∀ vm ∈ w.cards, vm.product < w.next ∧ vm.onProductUpdated = none

variable {k : ObjectID} {g : Graph} {v : SectionView}

/-- A read keeps a screen opened, and the section is the one that was read. -/
theorem opened_load {sec : Section} (hview : sec.view = { v with sortingRule := sec.sortingRule })
    (hfound : SectionRepository.fetchCDSectionById env w.coreDataStack.context v.id = some k)
    (hread : readById env w.coreDataStack.context v.id = some sec.view)
    (hframe : OnlySortingRule k g w.coreDataStack.context)
    (hcards : ∀ vm ∈ w.cards, vm.product < w.next ∧ vm.onProductUpdated = none) :
    (w.load sec).Opened env k g v where
  scalars := ⟨congrArg SectionView.id hview, congrArg SectionView.title hview,
    congrArg SectionView.rule hview⟩
  found := hfound
  read := hread.trans (congrArg some hview)
  frame := hframe
  nodup := List.nodup_range'
  products _ href := (mem_products_load href).2
  cards vm hvm :=
    ⟨Nat.lt_of_lt_of_le (hcards vm hvm).1 (Nat.le_add_right _ _), (hcards vm hvm).2⟩

/-- **What a sort does**: it returns, and the section has new objects with the values
that are stored, in the order of the rule that was asked for. -/
theorem Opened.sort (h : w.Opened env k g v) (tap : SortTap) :
    ∃ w' st', (setSectionSortingRule env w.section.id (tap.rule w.section.sortingRule)).run
        w.coreDataStack = .ok () st' ∧
      fetchUpdatedSection env { w with coreDataStack := st' } tap.sets = w' ∧
      w'.Opened env k g v ∧ w'.cards = w.cards ∧
      w'.section.sortingRule = tap.rule w.section.sortingRule ∧
      w'.value.view = { v with sortingRule := w'.section.sortingRule } ∧
      w'.section.sortingRule.Ordered w'.value.products ∧
      ∀ ref ∈ w'.section.products, w.next ≤ ref := by
  let rule := tap.rule w.section.sortingRule
  obtain ⟨k', s, hk, hs, hr⟩ := (readById_eq_some env _).mp h.read
  obtain rfl := Option.some.inj (h.found.symm.trans hk)
  let f (s : CDSection) : CDSection := { s with sortingRule := rule.rawValue }
  let g' := w.coreDataStack.context.modifySection k f
  let w₁ : SectionOnScreen := { w with coreDataStack := w.coreDataStack.commit g' }
  have hcontext : w₁.coreDataStack.context = g' := CoreDataStack.context_commit _ _
  have hrun : (setSectionSortingRule env w.section.id rule).run w.coreDataStack =
      .ok () w₁.coreDataStack :=
    run_setSectionSortingRule env (h.scalars.1 ▸ h.found)
  have hsections : g'.sections = w.coreDataStack.context.sections.modify k f := rfl
  have htables : g'.tables = ⟨w.coreDataStack.context.users,
    w.coreDataStack.context.sections.modify k f, w.coreDataStack.context.products⟩ := rfl
  have hfound : SectionRepository.fetchCDSectionById env g' v.id = some k := by
    rw [fetchCDSectionById_modify env hsections (fun _ => rfl)]
    exact h.found
  have hread : readById env g' v.id = some { v with sortingRule := rule } := by
    rw [readById_modify env (f := f) htables (fun _ => rfl) h.found hs]
    exact readSection_sortingRule env w.coreDataStack.context hr rule
  have hframe : OnlySortingRule k g g' := h.frame.trans (onlySortingRule_of_tables rfl)
  obtain ⟨sec, hfetch, hview, hord⟩ := exists_of_readById env g' hread tap.sets
  have hrule : sec.sortingRule = rule := congrArg SectionView.sortingRule hview
  have hload : fetchUpdatedSection env w₁ tap.sets = w₁.load sec := by
    rw [fetchUpdatedSection, hcontext, show w₁.section.id = v.id from h.scalars.1, hfetch]
  have hvalue : (w₁.load sec).value = sec := value_load w₁ sec
  refine ⟨w₁.load sec, w₁.coreDataStack, hrun, hload, ?_, rfl, hrule, ?_, ?_, ?_⟩
  · rw [← hcontext] at hfound hread hframe
    exact opened_load (hview.trans (by rw [hrule])) hfound (hread.trans (by rw [hview])) hframe
      h.cards
  · rw [hvalue]
    exact hview.trans (congrArg (fun r => { v with sortingRule := r }) hrule.symm)
  · rw [hvalue]
    exact hord
  · exact fun ref href => (mem_products_load href).1

/-- What an operation on a card does: it edits the object, and nothing else. -/
theorem run_card {vm : CardViewModel} (hnone : vm.onProductUpdated = none) {op : CardOp}
    {w' : CardWorld} (hrun : op.exec.run (w.cardWorld vm) = .ok () w') :
    w'.coreDataStack = w.coreDataStack ∧
      ∀ ref, w'.objects ref = if ref = vm.product then op.edit (w.objects ref)
        else w.objects ref := by
  by_cases hop : op.NoOverflow (w.cardWorld vm).product
  · have hok := CardOp.run_exec_ok hop
    rw [CardWorld.afterNotify] at hok
    simp only [CardWorld.withProduct, cardWorld, hnone] at hok
    obtain ⟨_, rfl⟩ := run_ok_inj hrun hok
    refine ⟨rfl, ?_⟩
    intro ref
    by_cases href : ref = vm.product
    · subst href
      simp [CardWorld.product]
    · simp [href]
  · rw [CardOp.run_exec_trap hop] at hrun
    cases hrun

/-- **Every event keeps a screen opened.** -/
theorem Opened.step (h : w.Opened env k g v) {ev : GridEvent} {w' : SectionOnScreen}
    (hstep : GridStep env w ev w') : w'.Opened env k g v := by
  cases hstep with
  | @storage row product hcell =>
    have hproduct := List.mem_of_getElem? (getElem?_of_cellForItem hcell)
    refine { h with cards := ?_ }
    intro vm hvm
    rcases List.mem_append.mp hvm with hvm | hvm
    · exact h.cards vm hvm
    · obtain rfl := List.mem_singleton.mp hvm
      exact ⟨h.products product hproduct, rfl⟩
  | showMore hcell => exact h
  | @card i vm op w' hvm hrun =>
    obtain ⟨hstack, _⟩ := run_card (h.cards vm (List.mem_of_getElem? hvm)).2 hrun
    rw [hstack]
    exact ⟨h.scalars, h.found, h.read, h.frame, h.nodup, h.products, h.cards⟩
  | @sort tap st' hrun =>
    obtain ⟨w', st₁, hrun₁, hfetch, hopened, _⟩ := h.sort tap
    obtain ⟨_, rfl⟩ := run_ok_inj hrun hrun₁
    rw [hfetch]
    exact hopened

/-! ### Between two reads -/

theorem edits_append (cards : List CardViewModel) (ref : ProductRef) (evs : List GridEvent)
    (ev : GridEvent) :
    edits cards ref (evs ++ [ev]) = edits cards ref evs ++ (ev.edit? cards ref).toList := by
  rw [edits, List.filterMap_append]
  cases h : ev.edit? cards ref <;> simp [edits, h]

/-- A card that is made later is not the one of an operation so far. -/
theorem edits_of_le {cards : List CardViewModel} {evs : List GridEvent}
    (h : ∀ i op, .card i op ∈ evs → i < cards.length) (vm : CardViewModel) (ref : ProductRef) :
    edits (cards ++ [vm]) ref evs = edits cards ref evs := by
  refine List.filterMap_congr fun ev hev => ?_
  cases ev with
  | card i op => simp only [GridEvent.edit?, List.getElem?_append_left (h i op hev)]
  | _ => rfl

/-- What happened to the objects of `m` since then, if the section was not read again. -/
structure EditedSince (m : SectionOnScreen) (evs : List GridEvent) (w : SectionOnScreen) :
    Prop where
  «section» : w.section = m.section
  cards : ∀ i op, .card i op ∈ evs → i < w.cards.length
  objects : ∀ ref, w.objects ref =
    (edits w.cards ref evs).foldl (fun p op => op.edit p) (m.objects ref)

/-- One more event is one more operation, on the object of its card. -/
theorem EditedSince.step {m : SectionOnScreen} {evs : List GridEvent}
    (h : EditedSince m evs w) (hopened : w.Opened env k g v) {ev : GridEvent}
    {w' : SectionOnScreen} (hstep : GridStep env w ev w') (hsort : ∀ tap, ev ≠ .sort tap) :
    EditedSince m (evs ++ [ev]) w' := by
  cases hstep with
  | @storage row product hcell =>
    refine ⟨h.section, ?_, ?_⟩
    · intro i op hmem
      rcases List.mem_append.mp hmem with hmem | hmem
      · exact Nat.lt_of_lt_of_le (h.cards i op hmem) (by simp)
      · cases List.mem_singleton.mp hmem
    · intro ref
      rw [edits_append, edits_of_le h.cards]
      exact (h.objects ref).trans (by simp [GridEvent.edit?])
  | showMore hcell =>
    refine ⟨h.section, ?_, ?_⟩
    · intro i op hmem
      rcases List.mem_append.mp hmem with hmem | hmem
      · exact h.cards i op hmem
      · cases List.mem_singleton.mp hmem
    · intro ref
      rw [edits_append]
      exact (h.objects ref).trans (by simp [GridEvent.edit?])
  | @card i vm op w₁ hvm hrun =>
    obtain ⟨_, hobjects⟩ := run_card (hopened.cards vm (List.mem_of_getElem? hvm)).2 hrun
    refine ⟨h.section, ?_, ?_⟩
    · intro j op' hmem
      rcases List.mem_append.mp hmem with hmem | hmem
      · exact h.cards j op' hmem
      · cases List.mem_singleton.mp hmem
        exact (List.getElem?_eq_some_iff.mp hvm).1
    · intro ref
      rw [edits_append, List.foldl_append, ← h.objects ref]
      refine (hobjects ref).trans ?_
      simp only [GridEvent.edit?, hvm, Option.any_some, decide_eq_true_eq]
      by_cases href : vm.product = ref
      · rw [if_pos href, if_pos href.symm]
        rfl
      · rw [if_neg href, if_neg (Ne.symm href)]
        rfl
  | @sort tap st' hrun => exact absurd rfl (hsort tap)

/-- **Since a read, an object has had exactly the operations on its cards.** -/
theorem objects_of_run {m : SectionOnScreen} (hopened : m.Opened env k g v)
    {evs : List GridEvent} (hrun : Run (GridStep env) m evs w)
    (hsort : ∀ ev ∈ evs, ∀ tap, ev ≠ .sort tap) : EditedSince m evs w := by
  have hhistory := hrun.history
    (fun evs w => w.Opened env k g v ∧ ((∀ ev ∈ evs, ∀ tap, ev ≠ .sort tap) → EditedSince m evs w))
    (fun evs w ev w' hw hstep => by
      refine ⟨hw.1.step hstep, ?_⟩
      intro hall
      obtain ⟨hevs, hev⟩ := List.forall_mem_append.mp hall
      exact (hw.2 hevs).step hw.1 hstep (hev ev (List.mem_singleton.mpr rfl)))
    ⟨hopened, fun _ => ⟨rfl, fun _ _ h => absurd h List.not_mem_nil, fun _ => rfl⟩⟩
  exact hhistory.2 hsort

/-! ### Every run -/

/-- A view model that has loaded a stored section is opened. -/
theorem exists_opened {st : CoreDataStack} {sets : Arrangement} {id : UUID} {found : Section}
    (hfetch : fetchSectionById env st.context sets id = some found) :
    found.id = id ∧ ∃ k, (opened st found).Opened env k st.context found.view := by
  have hread := readById_of_fetch env st.context hfetch
  have hid : found.id = id := id_of_readById env st.context hread
  obtain ⟨k, _, hk, _⟩ := (readById_eq_some env st.context).mp hread
  subst hid
  refine ⟨rfl, k, opened_load rfl hk hread (.refl k st.context) ?_⟩
  intro vm hvm
  cases hvm

/-- The section is the stored one, and no card is one of its objects yet. -/
structure Reread (v : SectionView) (m : SectionOnScreen) : Prop where
  value : m.value.view = { v with sortingRule := m.section.sortingRule }
  ordered : m.section.sortingRule.Ordered m.value.products
  cards : ∀ vm ∈ m.cards, vm.product ∉ m.section.products

/-- **After a sort nothing is left of what the cards had edited.** -/
theorem reread_of_run {st : CoreDataStack} {sets : Arrangement} {id : UUID} {found : Section}
    (hfetch : fetchSectionById env st.context sets id = some found) {evs : List GridEvent}
    {m : SectionOnScreen} (hrun : Run (GridStep env) (opened st found) evs m)
    (hread : JustRead evs) : m.Reread found.view := by
  obtain ⟨_, k, hopened⟩ := exists_opened hfetch
  rcases hread with rfl | ⟨pre, tap, rfl⟩
  · obtain rfl := Run.nil_iff.mp hrun
    have hvalue : (opened st found).value = found := value_load _ found
    refine ⟨?_, ?_, ?_⟩
    · rw [hvalue]
      rfl
    · rw [hvalue]
      exact fetchSectionById_ordered env st.context hfetch
    · intro vm hvm
      cases hvm
  · obtain ⟨m', hpre, hlast⟩ := Run.append_iff.mp hrun
    obtain ⟨_, hstep, hnil⟩ := Run.cons_iff.mp hlast
    obtain rfl := Run.nil_iff.mp hnil
    have hm' := hpre.invariant (Opened env k st.context found.view)
      (fun _ _ _ h hstep => h.step hstep) hopened
    obtain ⟨m, st₁, hset, hfetched, _, hcards, _, hvalue, hord, hnew⟩ := hm'.sort tap
    cases hstep with
    | sort hset' =>
      obtain ⟨_, rfl⟩ := run_ok_inj hset' hset
      rw [hfetched]
      refine ⟨hvalue, hord, ?_⟩
      intro vm hvm hmem
      rw [hcards] at hvm
      exact absurd (hm'.cards vm hvm).1 (Nat.not_lt.mpr (hnew _ hmem))

/-- **What a card edits is in the section until the next sort, and then gone.**  A
stored section is loaded, cells are asked for, cards are operated and sort buttons
are tapped in any order, and `m` is the screen right after the loading or after one
of the sorts.  Then `m` has the products as they are stored, in the order of its rule,
as different objects that no earlier card refers to.  Until the next sort the section
keeps these objects, and each of them has had exactly the operations on its cards,
in their order, whichever cards these were made on.  The store has the section as it
was in the beginning but for the sorting rule, and all products unchanged.  Every
sort returns, and every operation that does not overflow. -/
theorem edits_until_sort {st : CoreDataStack} {sets : Arrangement} {id : UUID} {found : Section}
    (hfetch : fetchSectionById env st.context sets id = some found)
    {pre post : List GridEvent} {m w : SectionOnScreen}
    (hpre : Run (GridStep env) (opened st found) pre m) (hread : JustRead pre)
    (hpost : Run (GridStep env) m post w) (hsort : ∀ ev ∈ post, ∀ tap, ev ≠ .sort tap) :
    m.Reread found.view ∧ m.section.products.Nodup ∧
    w.section = m.section ∧
    (∀ ref, w.objects ref =
      (edits w.cards ref post).foldl (fun p op => op.edit p) (m.objects ref)) ∧
    readById env w.coreDataStack.context id =
      some { found.view with sortingRule := w.section.sortingRule } ∧
    w.coreDataStack.context.products = st.context.products ∧
    (∀ tap, ∃ w', GridStep env w (.sort tap) w') ∧
    ∀ i vm op, w.cards[i]? = some vm → op.NoOverflow (w.objects vm.product) →
      ∃ w', GridStep env w (.card i op) w' := by
  obtain ⟨hid, k, hopened⟩ := exists_opened hfetch
  have hm := hpre.invariant (Opened env k st.context found.view)
    (fun _ _ _ h hstep => h.step hstep) hopened
  have hw := hpost.invariant (Opened env k st.context found.view)
    (fun _ _ _ h hstep => h.step hstep) hm
  have hedited := objects_of_run hm hpost hsort
  refine ⟨reread_of_run hfetch hpre hread, hm.nodup, hedited.section, hedited.objects, ?_,
    hw.frame.products, ?_, ?_⟩
  · rw [← hid]
    exact hw.read
  · intro tap
    obtain ⟨_, _, hset, _⟩ := hw.sort tap
    exact ⟨_, .sort hset⟩
  · intro i vm op hvm hop
    exact ⟨_, .card hvm (CardOp.run_exec_ok hop)⟩

/-- An egg is added on a card, and the section is sorted: the egg is not there any more. -/
theorem edits_until_sort_oneEgg :
    let egg : Product := ⟨1, "egg", "egg", 2, 11⟩
    let fridge : Section := ⟨9, "fridge", 30, .oldestToNewest, [egg]⟩
    let st := final (execAll default [.createUser 7 "Ray", .createSection 7 fridge])
      (.launch .empty)
    ∃ w m, Run (GridStep default) (opened st fridge)
        [.cellForItem 0, .card 0 .increaseQuantity] w ∧
      w.value.products = [⟨1, "egg", "egg", 3, 11⟩] ∧
      GridStep default w (.sort (.date .inOrder)) m ∧ m.value.products = [egg] := by
  intro egg fridge st
  have hfetch : fetchSectionById default st.context .inOrder 9 = some fridge := by decide
  let w₀ := opened st fridge
  let w₁ : SectionOnScreen := { w₀ with cards := [{ product := 0 }] }
  have h₁ : GridStep default w₀ (.cellForItem 0) w₁ := .storage rfl
  have hfits : CardOp.increaseQuantity.NoOverflow (w₁.cardWorld { product := 0 }).product :=
    CardOp.noOverflow_of_fits (by decide) _
  have h₂ : GridStep default w₁ (.card 0 .increaseQuantity) _ :=
    .card rfl (CardOp.run_exec_ok hfits)
  have hrun := Run.cons h₁ (.cons h₂ (.nil _))
  have hnosort : ∀ ev ∈ [GridEvent.cellForItem 0, .card 0 .increaseQuantity], ∀ tap,
      ev ≠ .sort tap := by simp
  obtain ⟨_, _, hsection, hobjects, _, _, hsorts, _⟩ :=
    edits_until_sort hfetch (.nil _) (Or.inl rfl) hrun hnosort
  obtain ⟨m, hsort⟩ := hsorts (.date .inOrder)
  have hall := hrun.append (.cons hsort (.nil m))
  obtain ⟨hreread, _⟩ := edits_until_sort hfetch hall (Or.inr ⟨_, _, rfl⟩) (.nil m)
    (fun _ h => absurd h List.not_mem_nil)
  refine ⟨_, m, hrun, ?_, hsort, ?_⟩
  · rw [value, hsection]
    show [_] = _
    rw [hobjects 0]
    decide
  · exact Multiset.coe_eq_singleton.mp (congrArg SectionView.products hreread.value)

end SectionOnScreen

end InventoryApp
