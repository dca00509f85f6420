import InventoryApp.Lib.Run
import InventoryApp.Lib.Effect
import Mathlib.Algebra.BigOperators.Group.List.Basic
import Mathlib.Algebra.Order.Field.Rat
import Mathlib.Tactic.Linarith
import Mathlib.Tactic.Ring

/-!
# `CustomHorizontalLayout`

`prepare` lays the items out in two columns.  The loop carries the column, the
vertical offset and, in the layout itself, the content width; after the second
column it goes back to the first one and to offset zero, and adds one column to
the content width.  The list of horizontal offsets is made before the loop and does
not move with the groups, so every pair of items is put where the first pair is; and
`prepare` clears the frames but not the content width, which goes on from what the
last call left.

`prepare_eq` says where the items go and how wide the content gets.  By it
`wellFormed_iff` tells when frames are disjoint, within the content, and the same
after one more call: never with two items, and with one item only if calls before
left the content a column wide.
-/

namespace InventoryApp

open Lib

structure CGSize where
  width : ℚ
  height : ℚ
  deriving DecidableEq

structure CGRect where
  x : ℚ
  y : ℚ
  width : ℚ
  height : ℚ
  deriving DecidableEq

/-- The rectangles have a point inside both. -/
def CGRect.Overlaps (a b : CGRect) : Prop :=
  a.x < b.x + b.width ∧ b.x < a.x + a.width ∧ a.y < b.y + b.height ∧ b.y < a.y + a.height

/-- The bounds of the view, and the items of its one section. -/
structure UICollectionView where
  bounds : CGRect
  numberOfItems : Nat

/-- The attributes of an item; the section of every index path is `0`. -/
structure UICollectionViewLayoutAttributes where
  item : Nat
  frame : CGRect
  deriving DecidableEq

structure CustomHorizontalLayout where
  cache : List UICollectionViewLayoutAttributes := []
  contentWidth : ℚ := 0
  deriving DecidableEq

namespace CustomHorizontalLayout

variable (layout : CustomHorizontalLayout)

def numberOfColumns : Nat := 2

def collectionViewContentSize (collectionView : Option UICollectionView) : CGSize :=
  ⟨layout.contentWidth, (collectionView.map (·.bounds.height)).getD 0⟩

/-- What the loop of `prepare` works on. -/
structure Loop where
  layout : CustomHorizontalLayout
  column : Nat := 0
  yOffset : ℚ := 0

/-- The loop's body.  A column without an offset is an index out of range. -/
def Loop.place (columnWidth : ℚ) (xOffset : List ℚ) (s : Loop) (item : Nat) : Option Loop := do
  let height := columnWidth + 30
  let frame : CGRect := ⟨← xOffset[s.column]?, s.yOffset, columnWidth, height⟩
  let layout := { s.layout with cache := s.layout.cache ++ [⟨item, frame⟩] }
  let yOffset := s.yOffset + height
  if s.column ≥ numberOfColumns - 1 then
    return {
      layout := { layout with contentWidth := layout.contentWidth + columnWidth }
      column := 0
      yOffset := 0 }
  else
    return { layout, column := s.column + 1, yOffset }

def prepare (collectionView : Option UICollectionView) : Option CustomHorizontalLayout := do
  let some collectionView := collectionView | return layout
  -- only the frames are cleared, and the loop adds to the content width of the last call
  let layout := { layout with cache := [] }
  let columnWidth := collectionView.bounds.width / numberOfColumns
  let xOffset := (List.range numberOfColumns).map fun (column : Nat) => column * columnWidth
  let s ← (List.range collectionView.numberOfItems).foldlM (Loop.place columnWidth xOffset)
    { layout }
  return s.layout

/-- `intersects` is `CGRect.intersects`. -/
def layoutAttributesForElements (intersects : CGRect → CGRect → Bool) (rect : CGRect) :
    List UICollectionViewLayoutAttributes :=
  layout.cache.filter fun attributes => intersects rect attributes.frame

def layoutAttributesForItem (item : Nat) : Option UICollectionViewLayoutAttributes :=
  layout.cache.find? (·.item = item)

/-! ### Where the items go -/

/-- The attributes of an item: it is put by its column alone. -/
def attributesAt (columnWidth : ℚ) (item : Nat) : UICollectionViewLayoutAttributes :=
  let column : ℚ := (item % 2 : Nat)
  ⟨item, ⟨column * columnWidth, column * (columnWidth + 30), columnWidth, columnWidth + 30⟩⟩

/-- The loop after `n` items. -/
def Loop.after (columnWidth : ℚ) (n : Nat) : Loop where
  layout.cache := layout.cache ++ (List.range n).map (attributesAt columnWidth)
  layout.contentWidth := layout.contentWidth + (n / 2 : Nat) * columnWidth
  column := n % 2
  yOffset := (n % 2 : Nat) * (columnWidth + 30)

theorem attributesAt_left (columnWidth : ℚ) {item : Nat} (h : item % 2 = 0) :
    attributesAt columnWidth item = ⟨item, ⟨0, 0, columnWidth, columnWidth + 30⟩⟩ := by
  simp [attributesAt, h]

theorem attributesAt_right (columnWidth : ℚ) {item : Nat} (h : item % 2 = 1) :
    attributesAt columnWidth item =
      ⟨item, ⟨columnWidth, columnWidth + 30, columnWidth, columnWidth + 30⟩⟩ := by
  simp [attributesAt, h]

/-- **One turn of the loop.** -/
theorem Loop.place_after (columnWidth : ℚ) (i : Nat) :
    Loop.place columnWidth [0, columnWidth] (Loop.after layout columnWidth i) i =
      some (Loop.after layout columnWidth (i + 1)) := by
  have hcache : (layout.cache ++ (List.range i).map (attributesAt columnWidth)) ++
        [attributesAt columnWidth i] =
      layout.cache ++ (List.range (i + 1)).map (attributesAt columnWidth) := by
    rw [List.range_succ, List.map_append, List.map_singleton, List.append_assoc]
  -- only an item of the second column finishes a pair
  rcases Nat.mod_two_eq_zero_or_one i with hi | hi
  · have hnext : (i + 1) % 2 = 1 := by omega
    have hpairs : (i + 1) / 2 = i / 2 := by omega
    rw [attributesAt_left columnWidth hi] at hcache
    simp [Loop.place, Loop.after, hi, hnext, hpairs, numberOfColumns, ← hcache]
  · have hnext : (i + 1) % 2 = 0 := by omega
    have hpairs : (i + 1) / 2 = i / 2 + 1 := by omega
    rw [attributesAt_right columnWidth hi] at hcache
    simp [Loop.place, Loop.after, hi, hnext, hpairs, numberOfColumns, ← hcache]
    ring

def columnWidth (collectionView : UICollectionView) : ℚ :=
  collectionView.bounds.width / numberOfColumns

/-- The content width that a call adds: one column for every two items. -/
def addedWidth (collectionView : UICollectionView) : ℚ :=
  (collectionView.numberOfItems / 2 : Nat) * columnWidth collectionView

/-- What `prepare` makes of the layout. -/
def prepared (collectionView : UICollectionView) : CustomHorizontalLayout where
  cache := (List.range collectionView.numberOfItems).map (attributesAt (columnWidth collectionView))
  contentWidth := layout.contentWidth + addedWidth collectionView

variable (collectionView : UICollectionView)

/-- **What `prepare` computes**: all pairs of items in one place, and a content
width that goes on from the last call's. -/
theorem prepare_eq :
    layout.prepare (some collectionView) = some (layout.prepared collectionView) := by
  let width := columnWidth collectionView
  let xOffset := (List.range numberOfColumns).map fun (column : Nat) => column * width
  let cleared : CustomHorizontalLayout := { layout with cache := [] }
  have hoffsets : xOffset = [0, width] := by
    simp [xOffset, numberOfColumns, List.range_succ]
  have hstart : Loop.after cleared width 0 = { layout := cleared } := by
    simp [Loop.after, cleared]
  have hloop := foldlM_range (Loop.place_after cleared width) collectionView.numberOfItems
  have hprepare : layout.prepare (some collectionView) =
      ((List.range collectionView.numberOfItems).foldlM (Loop.place width xOffset)
        { layout := cleared }).bind fun s => some s.layout := rfl
  rw [hprepare, hoffsets, ← hstart, hloop]
  rfl

/-- Each item of the collection has its attributes, and no other item has any. -/
theorem layoutAttributesForItem_prepared (item : Nat) :
    (layout.prepared collectionView).layoutAttributesForItem item =
      if item < collectionView.numberOfItems then
        some (attributesAt (columnWidth collectionView) item)
      else none := by
  have hfind : (layout.prepared collectionView).layoutAttributesForItem item =
      ((List.range collectionView.numberOfItems).find? (· = item)).map
        (attributesAt (columnWidth collectionView)) := List.find?_map
  rw [hfind]
  by_cases h : item < collectionView.numberOfItems
  · have hsome : (List.range collectionView.numberOfItems).find? (· = item) = some item := by
      rw [List.find?_range_eq_some]
      exact ⟨by simp, List.mem_range.mpr h, fun j hj => by simp [Nat.ne_of_lt hj]⟩
    rw [if_pos h, hsome, Option.map_some]
  · have hnone : (List.range collectionView.numberOfItems).find? (· = item) = none := by
      rw [List.find?_range_eq_none]
      intro j hj
      simp only [Bool.not_eq_eq_eq_not, Bool.not_true, decide_eq_false_iff_not]
      omega
    rw [if_neg h, hnone, Option.map_none]

/-- Items of one column are put in one place. -/
theorem frame_attributesAt_mod (width : ℚ) (item : Nat) :
    (attributesAt width (item % 2)).frame = (attributesAt width item).frame := by
  simp only [attributesAt, Nat.mod_mod]

/-- **A rectangle has whole columns**: which items it gets depends on their column
alone, and it gets them in order, each once. -/
theorem layoutAttributesForElements_prepared (intersects : CGRect → CGRect → Bool)
    (rect : CGRect) :
    (layout.prepared collectionView).layoutAttributesForElements intersects rect =
      ((List.range collectionView.numberOfItems).filter fun item =>
          intersects rect (attributesAt (columnWidth collectionView) (item % 2)).frame).map
        (attributesAt (columnWidth collectionView)) := by
  simp only [frame_attributesAt_mod]
  exact List.filter_map

/-! ### Well-formed layouts -/

/-- The frames of different items do not overlap. -/
def FramesDisjoint : Prop :=
  ∀ a ∈ layout.cache, ∀ b ∈ layout.cache, a.item ≠ b.item → ¬ a.frame.Overlaps b.frame

/-- Every frame is within the width of the content. -/
def FramesWithin : Prop :=
  ∀ a ∈ layout.cache, 0 ≤ a.frame.x ∧
    a.frame.x + a.frame.width ≤ (layout.collectionViewContentSize (some collectionView)).width

/-- The three together: one more call, too, leaves frames and content width as they are. -/
structure WellFormed : Prop where
  disjoint : layout.FramesDisjoint
  within : layout.FramesWithin collectionView
  stable : layout.prepare (some collectionView) = some layout

variable {layout collectionView}

theorem mem_cache_prepared {a : UICollectionViewLayoutAttributes} :
    a ∈ (layout.prepared collectionView).cache ↔
      ∃ i < collectionView.numberOfItems, attributesAt (columnWidth collectionView) i = a := by
  simp only [prepared, List.mem_map, List.mem_range]

theorem columnWidth_pos (h : 0 < collectionView.bounds.width) : 0 < columnWidth collectionView :=
  div_pos h (by norm_num [numberOfColumns])

/-- Two items overlap when they have the same column. -/
theorem overlaps_attributesAt {width : ℚ} (h : 0 < width) (i j : Nat) :
    (attributesAt width i).frame.Overlaps (attributesAt width j).frame ↔ i % 2 = j % 2 := by
  rcases Nat.mod_two_eq_zero_or_one i with hi | hi <;>
    rcases Nat.mod_two_eq_zero_or_one j with hj | hj
  · rw [attributesAt_left width hi, attributesAt_left width hj]
    refine iff_of_true ?_ (hi.trans hj.symm)
    refine ⟨?_, ?_, ?_, ?_⟩ <;> show (0 : ℚ) < _ <;> linarith
  · rw [attributesAt_left width hi, attributesAt_right width hj]
    refine iff_of_false ?_ (by omega)
    rintro ⟨_, hx : width < 0 + width, _⟩
    linarith
  · rw [attributesAt_right width hi, attributesAt_left width hj]
    refine iff_of_false ?_ (by omega)
    rintro ⟨hx : width < 0 + width, _⟩
    linarith
  · rw [attributesAt_right width hi, attributesAt_right width hj]
    refine iff_of_true ?_ (hi.trans hj.symm)
    refine ⟨?_, ?_, ?_, ?_⟩ <;> show _ < _ + (_ : ℚ) <;> linarith

theorem framesDisjoint_prepared (h : 0 < collectionView.bounds.width) :
    (layout.prepared collectionView).FramesDisjoint ↔ collectionView.numberOfItems ≤ 2 := by
  have hw := columnWidth_pos h
  constructor
  · intro hdisjoint
    refine Nat.le_of_not_lt fun hthree => ?_
    -- the third item is put on the first one
    refine hdisjoint _ (mem_cache_prepared.mpr ⟨0, by omega, rfl⟩) _
      (mem_cache_prepared.mpr ⟨2, hthree, rfl⟩) (show 0 ≠ 2 by decide) ?_
    exact (overlaps_attributesAt hw 0 2).mpr rfl
  · intro htwo a ha b hb hne
    obtain ⟨i, hi, rfl⟩ := mem_cache_prepared.mp ha
    obtain ⟨j, hj, rfl⟩ := mem_cache_prepared.mp hb
    rw [overlaps_attributesAt hw]
    have hij : i ≠ j := hne
    omega

theorem right_attributesAt (width : ℚ) (i : Nat) :
    (attributesAt width i).frame.x + (attributesAt width i).frame.width =
      (i % 2 + 1 : Nat) * width := by
  simp only [attributesAt]
  push_cast
  ring

/-- The frames are as wide as the columns that have items. -/
theorem framesWithin_prepared (h : 0 < collectionView.bounds.width) :
    (layout.prepared collectionView).FramesWithin collectionView ↔
      (0 < collectionView.numberOfItems →
        (min collectionView.numberOfItems 2 : Nat) * columnWidth collectionView ≤
          layout.contentWidth + addedWidth collectionView) := by
  have hw := columnWidth_pos h
  constructor
  · intro hwithin hpos
    -- the last item of the first pair
    have hlast := (hwithin _ (mem_cache_prepared.mpr
      ⟨min collectionView.numberOfItems 2 - 1, by omega, rfl⟩)).2
    have hcolumns : (min collectionView.numberOfItems 2 - 1) % 2 + 1 =
        min collectionView.numberOfItems 2 := by omega
    rwa [right_attributesAt, hcolumns] at hlast
  · intro hwide a ha
    obtain ⟨i, hi, rfl⟩ := mem_cache_prepared.mp ha
    have hcolumn : i % 2 + 1 ≤ min collectionView.numberOfItems 2 := by omega
    refine ⟨mul_nonneg (Nat.cast_nonneg _) hw.le, ?_⟩
    rw [right_attributesAt]
    calc ((i % 2 + 1 : Nat) : ℚ) * columnWidth collectionView
        ≤ (min collectionView.numberOfItems 2 : Nat) * columnWidth collectionView :=
          mul_le_mul_of_nonneg_right (Nat.cast_le.mpr hcolumn) hw.le
      _ ≤ layout.contentWidth + addedWidth collectionView := hwide (by omega)

theorem stable_prepared (h : 0 < collectionView.bounds.width) :
    (layout.prepared collectionView).prepare (some collectionView) =
      some (layout.prepared collectionView) ↔ collectionView.numberOfItems ≤ 1 := by
  have hw := columnWidth_pos h
  have hsame : ((layout.prepared collectionView).prepared collectionView =
      layout.prepared collectionView) ↔ addedWidth collectionView = 0 := by
    simp [prepared]
  rw [prepare_eq, Option.some_inj, hsame, addedWidth, mul_eq_zero, or_iff_left hw.ne',
    Nat.cast_eq_zero]
  omega

/-- **A prepared layout is well formed with no items**, or with one for which the
content was wide enough before. -/
theorem wellFormed_prepared (h : 0 < collectionView.bounds.width) :
    (layout.prepared collectionView).WellFormed collectionView ↔
      collectionView.numberOfItems = 0 ∨
      collectionView.numberOfItems = 1 ∧ columnWidth collectionView ≤ layout.contentWidth := by
  have hparts : (layout.prepared collectionView).WellFormed collectionView ↔
      (layout.prepared collectionView).FramesDisjoint ∧
      (layout.prepared collectionView).FramesWithin collectionView ∧
      (layout.prepared collectionView).prepare (some collectionView) =
        some (layout.prepared collectionView) :=
    ⟨fun hw => ⟨hw.disjoint, hw.within, hw.stable⟩, fun hw => ⟨hw.1, hw.2.1, hw.2.2⟩⟩
  rw [hparts, framesDisjoint_prepared h, framesWithin_prepared h, stable_prepared h]
  have hone (hn : collectionView.numberOfItems = 1) :
      (min collectionView.numberOfItems 2 : Nat) * columnWidth collectionView ≤
          layout.contentWidth + addedWidth collectionView ↔
        columnWidth collectionView ≤ layout.contentWidth := by
    simp [addedWidth, hn]
  constructor
  · rintro ⟨_, hwide, hle⟩
    rcases Nat.le_one_iff_eq_zero_or_eq_one.mp hle with hn | hn
    · exact Or.inl hn
    · exact Or.inr ⟨hn, (hone hn).mp (hwide (by omega))⟩
  · rintro (hn | ⟨hn, hwide⟩)
    · exact ⟨by omega, fun hpos => absurd hn hpos.ne', by omega⟩
    · exact ⟨by omega, fun _ => (hone hn).mpr hwide, by omega⟩

end CustomHorizontalLayout

/-! ### All calls -/

/-- One call of `prepare`, for the collection view as it is then. -/
def PrepareStep (layout : CustomHorizontalLayout) (collectionView : UICollectionView)
    (layout' : CustomHorizontalLayout) : Prop :=
  layout.prepare (some collectionView) = some layout'

open CustomHorizontalLayout

theorem prepareStep_iff {layout layout' : CustomHorizontalLayout}
    {collectionView : UICollectionView} :
    PrepareStep layout collectionView layout' ↔ layout' = layout.prepared collectionView := by
  rw [PrepareStep, prepare_eq, Option.some_inj, eq_comm]

/-- The content width is what all the calls have added. -/
theorem contentWidth_run {layout : CustomHorizontalLayout}
    {collectionViews : List UICollectionView} (hrun : Run PrepareStep {} collectionViews layout) :
    layout.contentWidth = (collectionViews.map addedWidth).sum := by
  refine hrun.history (fun collectionViews layout =>
    layout.contentWidth = (collectionViews.map addedWidth).sum) ?_ rfl
  intro collectionViews layout collectionView layout' h hstep
  rw [prepareStep_iff.mp hstep, List.map_append, List.sum_append, List.map_singleton,
    List.sum_singleton, ← h]
  rfl

theorem wellFormed_run {layout : CustomHorizontalLayout}
    {collectionViews : List UICollectionView} {collectionView : UICollectionView}
    (hwidth : 0 < collectionView.bounds.width)
    (hrun : Run PrepareStep {} (collectionViews ++ [collectionView]) layout) :
    layout.WellFormed collectionView ↔
      collectionView.numberOfItems = 0 ∨
      collectionView.numberOfItems = 1 ∧
        columnWidth collectionView ≤ (collectionViews.map addedWidth).sum := by
  obtain ⟨before, hbefore, hlast⟩ := Run.append_iff.mp hrun
  obtain ⟨_, hstep, hnil⟩ := Run.cons_iff.mp hlast
  obtain rfl := Run.nil_iff.mp hnil
  obtain rfl := prepareStep_iff.mp hstep
  rw [← contentWidth_run hbefore]
  exact wellFormed_prepared hwidth

/-- **When a grid is well formed.**  Any calls of `prepare` succeed.  Afterwards
frames are disjoint, within the content, and the same after one more call, exactly
if the last collection has no items, or has one and the calls before it left the
content at least a column wide. -/
theorem wellFormed_iff {collectionViews : List UICollectionView}
    {collectionView : UICollectionView} (hwidth : 0 < collectionView.bounds.width) :
    (∃ layout, Run PrepareStep {} (collectionViews ++ [collectionView]) layout) ∧
    ∀ layout, Run PrepareStep {} (collectionViews ++ [collectionView]) layout →
      (layout.WellFormed collectionView ↔
        collectionView.numberOfItems = 0 ∨
        collectionView.numberOfItems = 1 ∧
          columnWidth collectionView ≤ (collectionViews.map addedWidth).sum) := by
  refine ⟨⟨_, Run.of_foldl (fun _ _ => prepareStep_iff.mpr rfl) _ _⟩, ?_⟩
  intro layout hrun
  exact wellFormed_run hwidth hrun

/-- Three items, and later one in columns that are narrower. -/
theorem wellFormed_threeThenOne :
    let three : UICollectionView := ⟨⟨0, 0, 300, 600⟩, 3⟩
    let one : UICollectionView := ⟨⟨0, 0, 200, 600⟩, 1⟩
    ∃ layout, Run PrepareStep {} [three, one] layout ∧ layout.WellFormed one := by
  intro three one
  obtain ⟨⟨layout, hrun⟩, hiff⟩ := @wellFormed_iff [three] one (by norm_num [one])
  refine ⟨layout, hrun, (hiff layout hrun).mpr (Or.inr ⟨rfl, ?_⟩)⟩
  norm_num [columnWidth, addedWidth, numberOfColumns, three, one]

/-- Three items: the third is put on the first, the second is outside of the
content, and one more call makes the content twice as wide. -/
theorem threeItems_not_wellFormed :
    let three : UICollectionView := ⟨⟨0, 0, 300, 600⟩, 3⟩
    ∃ layout, Run PrepareStep {} [three] layout ∧
      layout.cache = [⟨0, 0, 0, 150, 180⟩, ⟨1, 150, 180, 150, 180⟩, ⟨2, 0, 0, 150, 180⟩] ∧
      layout.contentWidth = 150 ∧
      (layout.prepare (some three)).map (·.contentWidth) = some 300 ∧
      ¬ layout.WellFormed three := by
  intro three
  have hwidth : 0 < three.bounds.width := by norm_num [three]
  refine ⟨_, .cons (prepareStep_iff.mpr rfl) (.nil _), ?_, ?_, ?_, ?_⟩
  · decide +kernel
  · decide +kernel
  · decide +kernel
  · intro h
    exact absurd ((framesDisjoint_prepared hwidth).mp h.disjoint) (by decide)

/-- With the same collection at every call only an empty one is well formed. -/
theorem wellFormed_replicate {layout : CustomHorizontalLayout} {collectionView : UICollectionView}
    (hwidth : 0 < collectionView.bounds.width) {n : Nat}
    (hrun : Run PrepareStep {} (List.replicate (n + 1) collectionView) layout) :
    layout.WellFormed collectionView ↔ collectionView.numberOfItems = 0 := by
  rw [List.replicate_succ'] at hrun
  rw [wellFormed_run hwidth hrun]
  refine or_iff_left ?_
  rintro ⟨hone, hwide⟩
  have hadded : addedWidth collectionView = 0 := by
    simp [addedWidth, hone]
  rw [List.map_replicate, hadded, List.sum_replicate, nsmul_zero] at hwide
  exact absurd hwide (not_le.mpr (columnWidth_pos hwidth))

end InventoryApp
