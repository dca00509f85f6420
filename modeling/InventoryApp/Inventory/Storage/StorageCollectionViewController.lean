import InventoryApp.Inventory.Section.SectionViewModel
import InventoryApp.Inventory.Storage.StorageCollectionViewCell

/-!
# `StorageCollectionViewController`

The grid of a section shows its first products, eight at most, and a Show More
cell after them.  The number of items, the kind of a cell and the handler of a tap
each work out where that cell is (`numberOfItems`, `cellForItem`, `didSelectItem`);
a data source asks for the items below `numberOfItems` only.

Two results meet here.  `cellForItemAt` builds the card of a cell twice, and
`faces_show` says that the one on screen shows the product on both faces, then and
after everything that happens to the card later.  `grid_previews` says which
products the cells show: the first ones of the section in its order.
-/

namespace InventoryApp

open Lib

/-- The cell for an item, with the product it is configured for. -/
inductive GridItem (α : Type)
  | showMore
  | storage (product : Option α)
  deriving DecidableEq

def GridItem.map {α β : Type} (f : α → β) : GridItem α → GridItem β
  | showMore => .showMore
  | storage product => .storage (product.map f)

namespace StorageCollectionViewController

variable {Image α : Type} (imageNamed : String → Option Image) (products : List α)

def numberOfItems : Nat :=
  let productCount := SectionViewModel.getNumberOfProducts products
  if productCount > 8 then 9 else productCount + 1

def cellForItem (row : Nat) : GridItem α :=
  let productCount := SectionViewModel.getNumberOfProducts products
  if (productCount > 8 ∧ row = 8) ∨ (productCount ≤ 8 ∧ row = productCount) then .showMore
  else .storage (SectionViewModel.getProduct products row)

/-- Whether the handler takes the Show More branch, in which there is nothing yet. -/
def didSelectItem (row : Nat) : Bool :=
  let productCount := SectionViewModel.getNumberOfProducts products
  (productCount > 8 ∧ row = 8) ∨ (productCount ≤ 8 ∧ row = productCount)

/-- `cellForItemAt` with the cell it has dequeued; no cell stands for a Show More cell. -/
def cellForItemAt (products : List ProductRef) (row : Nat) (cell : StorageCollectionViewCell) :
    UI Image (Option StorageCollectionViewCell) :=
  match cellForItem products row with
  | .showMore => return none
  | .storage none => return some cell
  | .storage (some product) => do
    let cardViewModel ← CardViewModel.init product
    let cell ← cell.setCardViewModel imageNamed cardViewModel
    let cell ← cell.updateProductCardViewController imageNamed
    return some cell

end StorageCollectionViewController

open StorageCollectionViewController

/-! ### The cards of the grid -/

section Cards

variable {Image : Type} (imageNamed : String → Option Image)

/-- **The second card of a cell is bound like the first.**  The cell may come with
any card and any view model, and the screen with any others. -/
theorem run_cellForItemAt {products : List ProductRef} {row : Nat} {product : ProductRef}
    (hitem : cellForItem products row = .storage (some product))
    (cell : StorageCollectionViewCell) (w : CardScreen Image) :
    ∃ cell' w' viewModel card front back,
      (cellForItemAt imageNamed products row cell).run w = .ok (some cell') w' ∧
      cell'.cardViewModel = some viewModel ∧ cell'.productCardViewController = some card ∧
      w'.Bound card viewModel front back ∧ w'.objects = w.objects ∧
      (w'.cardViewModels viewModel).product = product := by
  let viewModel := w.next
  let w₁ : CardScreen Image :=
    { w with
      cardViewModels := Function.update w.cardViewModels viewModel { product }
      next := viewModel + 1 }
  obtain ⟨w₂, card₂, _, _, hset, _, hsame₂⟩ := run_updateProductCardViewController imageNamed w₁
    { cell with cardViewModel := some viewModel } rfl
  obtain ⟨w₃, card₃, front, back, hupdate, hbound, hsame₃⟩ :=
    run_updateProductCardViewController imageNamed w₂ ⟨some card₂, some viewModel⟩ rfl
  have hsame := hsame₂.trans hsame₃
  refine ⟨⟨some card₃, some viewModel⟩, w₃, viewModel, card₃, front, back, ?_, rfl, rfl, hbound,
    hsame.objects, ?_⟩
  · rw [cellForItemAt, hitem]
    refine (run_bind_ok (t := w₁) rfl).trans ?_
    exact (run_bind_ok hset).trans (run_bind_ok hupdate)
  · rw [hsame.products, show w₁.cardViewModels viewModel = _ from Function.update_self ..]

/-- **Both faces of a card always show the product.**  Whatever is on screen and
whatever cell is dequeued, `cellForItemAt` returns for an item of a product, with
a card and a view model of that product in the cell.  After any sequence of
operations of this view model, with turns of the main queue in between, both faces
of that card show its product; and each operation returns unless it overflows. -/
theorem faces_show {products : List ProductRef} {row : Nat} {product : ProductRef}
    (hitem : cellForItem products row = .storage (some product))
    (cell : StorageCollectionViewCell) (w : CardScreen Image) :
    ∃ cell' w' viewModel card,
      (cellForItemAt imageNamed products row cell).run w = .ok (some cell') w' ∧
      cell'.cardViewModel = some viewModel ∧ cell'.productCardViewController = some card ∧
      w'.objects = w.objects ∧
      ∀ events w'', Run (CardEventStep imageNamed viewModel) w' events w'' →
        (w''.cardViewModels viewModel).product = product ∧
        w''.FacesShow card (w''.objects product) ∧
        ∀ op : CardOp, op.NoOverflow (w''.objects product) →
          ∃ t, CardEventStep imageNamed viewModel w'' (.operation op) t ∧
            t.objects product = op.edit (w''.objects product) := by
  obtain ⟨cell', w', viewModel, card, front, back, hrun, hviewModel, hcard, hbound, hobjects,
    hproduct⟩ := run_cellForItemAt imageNamed hitem cell w
  refine ⟨cell', w', viewModel, card, hrun, hviewModel, hcard, hobjects, ?_⟩
  intro events w'' hevents
  -- every event keeps the card bound, and the view model on its product
  obtain ⟨hbound'', hproduct''⟩ := hevents.invariant
    (fun s => s.Bound card viewModel front back ∧ (s.cardViewModels viewModel).product = product)
    (fun s event t hs hstep => by
      obtain ⟨hbound, hsame⟩ := bound_step imageNamed hs.1 hstep
      exact ⟨hbound, hsame.trans hs.2⟩) ⟨hbound, hproduct⟩
  have hcurrent : w''.product viewModel = w''.objects product := by
    rw [CardScreen.product, hproduct'']
  refine ⟨hproduct'', hcurrent ▸ hbound''.facesShow, ?_⟩
  intro op hop
  rw [← hcurrent] at hop
  obtain ⟨t, hstep, _, hsame, hedit⟩ := bound_operation imageNamed hbound'' hop
  refine ⟨t, hstep, ?_⟩
  rw [← hcurrent, ← hedit, CardScreen.product, hsame, hproduct'']

/-- An egg more and a day less: both faces show both. -/
theorem faces_show_twoTaps :
    let egg : Product := ⟨1, "egg", "egg", 2, 11⟩
    let w : CardScreen String :=
      { objects := fun _ => egg
        coreDataStack := .launch .empty
        cardViewModels := fun _ => ⟨0, none⟩
        closures := fun _ => none
        fronts := fun _ => none
        backs := fun _ => none
        cards := fun _ => none }
    ∃ cell' w' viewModel card w'',
      (cellForItemAt some [0] 0 {}).run w = .ok (some cell') w' ∧
      cell'.productCardViewController = some card ∧
      Run (CardEventStep some viewModel) w'
        [.operation .increaseQuantity, .operation .decreaseDays] w'' ∧
      w''.FacesShow card ⟨1, "egg", "egg", 3, 10⟩ := by
  intro egg w
  obtain ⟨cell', w', viewModel, card, hrun, _, hcard, hobjects, hshow⟩ :=
    faces_show some (show cellForItem [0] 0 = .storage (some 0) by decide) {} w
  have hegg : w'.objects 0 = egg := by rw [hobjects]
  obtain ⟨t, hstep, ht⟩ := (hshow [] w' (.nil w')).2.2 .increaseQuantity
    (CardOp.noOverflow_of_fits (by rw [hegg]; decide) _)
  have hrun₁ := Run.cons hstep (.nil t)
  rw [hegg] at ht
  obtain ⟨t', hstep', ht'⟩ := (hshow _ t hrun₁).2.2 .decreaseDays
    (CardOp.noOverflow_of_fits (by rw [ht]; decide) _)
  have hrun₂ := Run.cons hstep (Run.cons hstep' (.nil t'))
  rw [ht] at ht'
  refine ⟨cell', w', viewModel, card, t', hrun, hcard, hrun₂, ?_⟩
  have hfaces := (hshow _ t' hrun₂).2.1
  rwa [ht'] at hfaces

end Cards

/-! ### The products of the grid -/

section Preview

variable {Image : Type} (imageNamed : String → Option Image) (env : Environment)

/-- `cellForItemAt` returns the Show More cell for this item of a list of products,
and leaves the screen as it is, whatever is on it. -/
def ShowsMore (products : List Product) (row : Nat) : Prop :=
  ∀ (refs : List ProductRef) (cell : StorageCollectionViewCell) (w : CardScreen Image),
    refs.map w.objects = products →
    (cellForItemAt imageNamed refs row cell).run w = .ok none w

/-- `cellForItemAt` returns a cell for this item of a list of products whose card
shows this product on both faces, whatever is on screen and whatever cell is dequeued. -/
def ShowsProduct (products : List Product) (row : Nat) (product : Product) : Prop :=
  ∀ (refs : List ProductRef) (cell : StorageCollectionViewCell) (w : CardScreen Image),
    refs.map w.objects = products →
    ∃ cell' w' viewModel card,
      (cellForItemAt imageNamed refs row cell).run w = .ok (some cell') w' ∧
      cell'.cardViewModel = some viewModel ∧ cell'.productCardViewController = some card ∧
      w'.product viewModel = product ∧ w'.FacesShow card product

/-- The grid of a list of products shows the first of the `stored` ones under a rule. -/
structure GridPreviews (products : List Product) (rule : SortingRule)
    (stored : List (ObjectID × CDProduct)) : Prop where
  items : numberOfItems products = min stored.length 8 + 1
  showMore : ∀ row < numberOfItems products,
    cellForItem products row = .showMore ↔ row + 1 = numberOfItems products
  select : ∀ row < numberOfItems products,
    didSelectItem products row = true ↔ row + 1 = numberOfItems products
  more : ∀ row, row + 1 = numberOfItems products → ShowsMore imageNamed products row
  preview : ∃ shown leftOut : List (ObjectID × CDProduct),
    (shown ++ leftOut).Perm stored ∧ (shown.map Prod.fst).Nodup ∧
    shown.length + 1 = numberOfItems products ∧
    (∀ row, row + 1 < numberOfItems products → ∃ r, shown[row]? = some r ∧
      cellForItem products row = .storage (some (readProduct env r)) ∧
      ShowsProduct imageNamed products row (readProduct env r)) ∧
    ∀ r ∈ leftOut, ∀ s ∈ shown,
      rule.key (readProduct env s) ≤ rule.key (readProduct env r)

theorem numberOfItems_eq {α : Type} (products : List α) :
    numberOfItems products = min products.length 8 + 1 := by
  have hcount : SectionViewModel.getNumberOfProducts products = products.length := rfl
  simp only [numberOfItems]
  split <;> omega

/-- Both tests for the Show More cell find the last item. -/
theorem isShowMore_iff {α : Type} {products : List α} {row : Nat}
    (hrow : row < numberOfItems products) :
    (SectionViewModel.getNumberOfProducts products > 8 ∧ row = 8) ∨
        (SectionViewModel.getNumberOfProducts products ≤ 8 ∧
          row = SectionViewModel.getNumberOfProducts products) ↔
      row + 1 = numberOfItems products := by
  rw [numberOfItems_eq] at hrow ⊢
  rw [SectionViewModel.getNumberOfProducts]
  omega

theorem cellForItem_of_lt {α : Type} {products : List α} {row : Nat}
    (hrow : row + 1 < numberOfItems products) :
    cellForItem products row = .storage products[row]? := by
  have hnot := (isShowMore_iff (Nat.lt_of_succ_lt hrow)).not.mpr (Nat.ne_of_lt hrow)
  rw [numberOfItems_eq] at hrow
  simp only [cellForItem]
  rw [if_neg hnot, SectionViewModel.getProduct, if_pos (by omega), Int.toNat_natCast]

/-- An item is for a product, or it is the Show More cell. -/
theorem cellForItem_cases {α : Type} {products : List α} {row : Nat}
    (hrow : row < numberOfItems products) :
    cellForItem products row = .showMore ∨
      ∃ product, cellForItem products row = .storage (some product) := by
  by_cases hlast : row + 1 = numberOfItems products
  · left
    simp only [cellForItem]
    rw [if_pos ((isShowMore_iff hrow).mpr hlast)]
  · right
    have hlt : row + 1 < numberOfItems products := Nat.lt_of_le_of_ne hrow hlast
    have hlength : row < products.length := by
      rw [numberOfItems_eq] at hlt
      omega
    exact ⟨products[row], by rw [cellForItem_of_lt hlt, List.getElem?_eq_getElem hlength]⟩

/-- The product of an item is the one at its place. -/
theorem getElem?_of_cellForItem {α : Type} {products : List α} {row : Nat} {product : α}
    (h : cellForItem products row = .storage (some product)) :
    products[row]? = some product := by
  simp only [cellForItem] at h
  split at h
  · cases h
  · have hget : SectionViewModel.getProduct products row = some product := GridItem.storage.inj h
    rw [SectionViewModel.getProduct] at hget
    split at hget
    · exact hget
    · cases hget

/-- What an item is for depends on the number of products and on the one at its place. -/
theorem cellForItem_map {α β : Type} (f : α → β) (products : List α) (row : Nat) :
    cellForItem (products.map f) row = (cellForItem products row).map f := by
  have hproduct : SectionViewModel.getProduct (products.map f) row =
      (SectionViewModel.getProduct products row).map f := by
    simp only [SectionViewModel.getProduct, List.length_map, List.getElem?_map]
    split <;> rfl
  have hcount : SectionViewModel.getNumberOfProducts (products.map f) =
      SectionViewModel.getNumberOfProducts products := List.length_map _
  simp only [cellForItem, hcount, hproduct]
  split <;> rfl

theorem showsMore_of_cellForItem {products : List Product} {row : Nat}
    (h : cellForItem products row = .showMore) : ShowsMore imageNamed products row := by
  rintro refs cell w rfl
  rw [cellForItem_map] at h
  rw [cellForItemAt]
  cases hitem : cellForItem refs row with
  | showMore => rfl
  | storage product =>
    rw [hitem] at h
    cases h

/-- **A cell for an item of a product shows it**, the value that its reference has on screen. -/
theorem showsProduct_of_cellForItem {products : List Product} {row : Nat} {product : Product}
    (h : cellForItem products row = .storage (some product)) :
    ShowsProduct imageNamed products row product := by
  rintro refs cell w rfl
  rw [cellForItem_map] at h
  obtain ⟨ref, hitem, rfl⟩ : ∃ ref, cellForItem refs row = .storage (some ref) ∧
      w.objects ref = product := by
    cases hitem : cellForItem refs row with
    | showMore => rw [hitem] at h; cases h
    | storage ref =>
      rw [hitem] at h
      obtain ⟨ref, rfl, hproduct⟩ := Option.map_eq_some_iff.mp (GridItem.storage.inj h)
      exact ⟨ref, rfl, hproduct⟩
  obtain ⟨cell', w', viewModel, card, front, back, hrun, hviewModel, hcard, hbound, hobjects,
    href⟩ := run_cellForItemAt imageNamed hitem cell w
  have hproduct : w'.product viewModel = w.objects ref := by
    rw [CardScreen.product, href, hobjects]
  exact ⟨cell', w', viewModel, card, hrun, hviewModel, hcard, hproduct,
    hproduct ▸ hbound.facesShow⟩

/-- A rearrangement of read records is read off a rearrangement of the records. -/
theorem exists_rows_of_perm {products : List Product} {stored : List (ObjectID × CDProduct)}
    (h : products.Perm (stored.map (readProduct env))) :
    ∃ rows : List (ObjectID × CDProduct),
      products = rows.map (readProduct env) ∧ rows.Perm stored := by
  have hcomp : Relation.Comp (· = List.map (readProduct env) ·) List.Perm products stored := by
    rw [List.eq_map_comp_perm]
    exact h
  exact hcomp

/-- **The first items of an ordered list are its top.** -/
theorem gridPreviews_of_ordered {products : List Product} {rule : SortingRule}
    {stored : List (ObjectID × CDProduct)} (hkeys : (stored.map Prod.fst).Nodup)
    (hperm : products.Perm (stored.map (readProduct env))) (hord : rule.Ordered products) :
    GridPreviews imageNamed env products rule stored := by
  obtain ⟨rows, rfl, hrows⟩ := exists_rows_of_perm env hperm
  have hlength : (rows.map (readProduct env)).length = rows.length := List.length_map _
  have hmore (row : Nat) (hrow : row < numberOfItems (rows.map (readProduct env))) :
      cellForItem (rows.map (readProduct env)) row = .showMore ↔
        row + 1 = numberOfItems (rows.map (readProduct env)) := by
    rw [← isShowMore_iff hrow]
    simp only [cellForItem]
    split <;> simp_all
  refine ⟨?_, hmore, ?_, ?_, rows.take 8, rows.drop 8, ?_, ?_, ?_, ?_, ?_⟩
  · rw [numberOfItems_eq, hlength, hrows.length_eq]
  · intro row hrow
    rw [← isShowMore_iff hrow]
    simp only [didSelectItem, decide_eq_true_iff]
  · intro row hlast
    exact showsMore_of_cellForItem imageNamed ((hmore row (by omega)).mpr hlast)
  · rw [List.take_append_drop]
    exact hrows
  · exact ((rows.take_sublist 8).map Prod.fst).nodup ((hrows.map Prod.fst).nodup_iff.mpr hkeys)
  · rw [numberOfItems_eq, hlength, List.length_take, Nat.min_comm]
  · intro row hrow
    have hitem := cellForItem_of_lt hrow
    rw [numberOfItems_eq, hlength] at hrow
    have hlt : row < rows.length := by omega
    rw [List.getElem?_map, List.getElem?_eq_getElem hlt, Option.map_some] at hitem
    refine ⟨rows[row], ?_, hitem, showsProduct_of_cellForItem imageNamed hitem⟩
    rw [List.getElem?_take_of_lt (by omega), List.getElem?_eq_getElem hlt]
  · intro r hr s hs
    have hsplit : (rows.take 8 ++ rows.drop 8).Pairwise (fun a b =>
        rule.key (readProduct env a) ≤ rule.key (readProduct env b)) := by
      rw [List.take_append_drop]
      rw [SortingRule.Ordered, List.pairwise_map] at hord
      exact hord
    exact (List.pairwise_append.mp hsplit).2.2 s hs r hr

variable {env}

/-- A call of `sortProducts` that returns; the label is what it takes. -/
def ResortStep (env : Environment) (w : SectionWorld) (sort : Arrangement × SortingRule)
    (w' : SectionWorld) : Prop :=
  SectionStep env w (.sortProducts sort.1 sort.2) w'

/-- A faithful view model is one of a record, and lists its products in the stored order. -/
theorem gridPreviews_of_faithful {w : SectionWorld} (h : Faithful env w) :
    ∃ k s rule,
      SectionRepository.fetchCDSectionById env w.coreDataStack.context w.viewModel.section.id
        = some k ∧
      w.coreDataStack.context.sections.get? k = some s ∧
      SortingRule.ofRawValue s.sortingRule = some rule ∧
      GridPreviews imageNamed env w.viewModel.section.products rule
        (productRows w.coreDataStack.context k) := by
  obtain ⟨hread, hord⟩ := faithful_iff_view.mp h
  obtain ⟨k, s, hk, hs, hr⟩ := (readById_eq_some env _).mp hread
  obtain ⟨_, _, hrule, _, hproducts⟩ := (readSection_eq_some env _).mp hr
  refine ⟨k, s, _, hk, hs, hrule, gridPreviews_of_ordered imageNamed env ?_ ?_ hord⟩
  · exact w.coreDataStack.context.products.nodup_select_keys _
  · exact Multiset.coe_eq_coe.mp hproducts.symm

/-- A sort keeps a view model faithful, and on its section. -/
theorem resort_faithful {w w' : SectionWorld} {sort : Arrangement × SortingRule}
    (h : Faithful env w) (hstep : ResortStep env w sort w') :
    Faithful env w' ∧ w'.viewModel.section.id = w.viewModel.section.id := by
  refine ⟨(keeps_faithful h hstep).mpr trivial, ?_⟩
  obtain ⟨hread, _⟩ := faithful_iff_view.mp h
  obtain ⟨sec, st', hrun, _, hview, _⟩ := run_sortProducts _ hread sort.1 sort.2
  obtain ⟨hvm, _⟩ := run_ok_inj hstep hrun
  rw [hvm]
  exact congrArg SectionView.id hview

/-- **The grid previews the top of the sorted section.**  A section view model has
been loaded from the store and sorted any number of times.  Then the section is in
the store under a sorting rule, and the grid of the view model shows the first of
its stored products under this rule, with the Show More cell after them.  Every
further sort returns. -/
theorem grid_previews {st st₀ : CoreDataStack} {sec found : Section} {sets : Arrangement}
    {vm : SectionViewModel}
    (hread : SectionRepository.fetchSectionById env st.context sets sec.id = some found)
    (hinit : (SectionViewModel.init env sets sec).run st = .ok vm st₀)
    {sorts : List (Arrangement × SortingRule)} {w : SectionWorld}
    (hrun : Run (ResortStep env) ⟨vm, st₀⟩ sorts w) :
    (∀ sort, ∃ w', ResortStep env w sort w') ∧
    ∃ k s rule,
      SectionRepository.fetchCDSectionById env w.coreDataStack.context sec.id = some k ∧
      w.coreDataStack.context.sections.get? k = some s ∧
      SortingRule.ofRawValue s.sortingRule = some rule ∧
      GridPreviews imageNamed env w.viewModel.section.products rule
        (productRows w.coreDataStack.context k) := by
  obtain ⟨hfaithful, hid⟩ := hrun.invariant
    (fun w => Faithful env w ∧ w.viewModel.section.id = sec.id)
    (fun s sort t hs hstep => by
      obtain ⟨hfaithful, hid⟩ := resort_faithful hs.1 hstep
      exact ⟨hfaithful, hid.trans hs.2⟩) (faithful_init hread hinit)
  refine ⟨?_, ?_⟩
  · intro sort
    obtain ⟨w', hstep, _⟩ := exists_sectionStep env
      (fits_of_readById env _ (faithful_iff_view.mp hfaithful).1) (.sortProducts sort.1 sort.2)
    exact ⟨w', hstep⟩
  · rw [← hid]
    exact gridPreviews_of_faithful imageNamed hfaithful

/-- Nine jars, sorted by what is left in them: the grid leaves the fullest one out. -/
theorem grid_previews_nineJars :
    let jar (id : UUID) (quantity remainingDays : Int) : Product :=
      ⟨id, "jar", "jar", quantity, remainingDays⟩
    let pantry : Section := ⟨9, "pantry", 30, .oldestToNewest, [jar 1 5 1, jar 2 3 2, jar 3 9 3,
      jar 4 1 4, jar 5 7 5, jar 6 2 6, jar 7 8 7, jar 8 4 8, jar 9 6 9]⟩
    let byQuantity : List Product := [jar 4 1 4, jar 6 2 6, jar 2 3 2, jar 8 4 8, jar 1 5 1,
      jar 9 6 9, jar 5 7 5, jar 7 8 7, jar 3 9 3]
    let st := final (execAll default [.createUser 7 "Ray", .createSection 7 pantry])
      (.launch .empty)
    ∃ w rows, Run (ResortStep default) ⟨⟨pantry⟩, st⟩ [(.inOrder, .quantityLowToHigh)] w ∧
      w.viewModel.section.products = byQuantity ∧
      GridPreviews some default byQuantity .quantityLowToHigh rows ∧ rows.length = 9 ∧
      ShowsProduct some byQuantity 0 (jar 4 1 4) ∧ ShowsProduct some byQuantity 7 (jar 7 8 7) ∧
      ShowsMore some byQuantity 8 := by
  intro jar pantry byQuantity st
  have hread : SectionRepository.fetchSectionById default st.context .inOrder pantry.id =
      some pantry := by decide +kernel
  have hinit : (SectionViewModel.init default .inOrder pantry).run st = .ok ⟨pantry⟩ st :=
    run_fetchUpdatedSection_of_some hread
  have hk : SectionRepository.fetchCDSectionById default st.context 9 = some 0 := by
    decide +kernel
  let st' := st.commit (st.context.modifySection 0
    (fun s => { s with sortingRule := SortingRule.quantityLowToHigh.rawValue }))
  have hread' : SectionRepository.fetchSectionById default st'.context .inOrder 9 =
      some { pantry with sortingRule := .quantityLowToHigh, products := byQuantity } := by
    decide +kernel
  have hk' : SectionRepository.fetchCDSectionById default st'.context 9 = some 0 := by
    decide +kernel
  have hrule : (st'.context.sections.get? 0).map CDSection.sortingRule =
      some SortingRule.quantityLowToHigh.rawValue := by decide +kernel
  have hlength : (productRows st'.context 0).length = 9 := by decide +kernel
  clear_value st
  have hstep : ResortStep default ⟨⟨pantry⟩, st⟩ (.inOrder, .quantityLowToHigh) ⟨⟨_⟩, st'⟩ :=
    (run_bind_ok (SectionRepository.run_setSectionSortingRule default hk)).trans
      (run_fetchUpdatedSection_of_some hread')
  have hrun := Run.cons hstep (.nil _)
  obtain ⟨_, k, s, rule, hfetch, hs, hofRaw, hgrid⟩ := grid_previews some hread hinit hrun
  obtain rfl : 0 = k := Option.some.inj (hk'.symm.trans hfetch)
  have hs' : s.sortingRule = SortingRule.quantityLowToHigh.rawValue := by
    rw [show st'.context.sections.get? 0 = some s from hs] at hrule
    exact Option.some.inj hrule
  obtain rfl : .quantityLowToHigh = rule := by
    rw [hs'] at hofRaw
    exact Option.some.inj hofRaw
  obtain ⟨_, _, _, _, _, hshown, _⟩ := hgrid.preview
  have hshows : ∀ row product, row + 1 < numberOfItems byQuantity →
      cellForItem byQuantity row = .storage (some product) →
      ShowsProduct some byQuantity row product := by
    intro row product hrow hproduct
    obtain ⟨r, _, hitem, hshows⟩ := hshown row hrow
    obtain rfl := Option.some.inj (GridItem.storage.inj (hitem.symm.trans hproduct))
    exact hshows
  exact ⟨_, _, hrun, rfl, hgrid, hlength, hshows 0 _ (by decide) rfl, hshows 7 _ (by decide) rfl,
    hgrid.more 8 rfl⟩

end Preview

end InventoryApp
