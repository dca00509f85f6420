import InventoryApp.Lib.Effect
import InventoryApp.Lib.Sorted

/-!
# The model classes

`Product` and `Section` are the objects the view models hold; `SortingRule` is
the enumeration whose raw value the store keeps.  Their integer fields are Swift
`Int`s and the store keeps 16 bits of them: `Int16(x)` traps outside
`-32768...32767`, and `int16` is that conversion as a program.  A field is an
unbounded integer here, and arithmetic goes through `int64`, which traps where
Swift's does.

`FitsInt16` is the range in which it returns, and `Product.Fits` and
`Section.Fits` say that every field a write narrows is in it.
-/

namespace InventoryApp

abbrev UUID := BitVec 128

/-- What ends the process: a narrowing conversion, an arithmetic overflow, or `!` on nil. -/
inductive Trap
  | int16Conversion
  | intOverflow
  | nilUnwrap
  deriving DecidableEq, Repr

/-! ### Sorting rules -/

inductive SortingRule
  | newestToOldest
  | oldestToNewest
  | quantityLowToHigh
  | quantityHighToLow
  deriving DecidableEq, Repr

namespace SortingRule

def rawValue : SortingRule → Int16
  | newestToOldest => 0
  | oldestToNewest => 1
  | quantityLowToHigh => 2
  | quantityHighToLow => 3

/-- `SortingRule(rawValue:)`. -/
def ofRawValue (raw : Int16) : Option SortingRule :=
  if raw = 0 then some newestToOldest
  else if raw = 1 then some oldestToNewest
  else if raw = 2 then some quantityLowToHigh
  else if raw = 3 then some quantityHighToLow
  else none

@[simp] theorem ofRawValue_rawValue (rule : SortingRule) :
    ofRawValue rule.rawValue = some rule := by
  cases rule <;> rfl

end SortingRule

/-! ### Products and sections -/

structure Product where
  id : UUID
  title : String
  picture : String
  quantity : Int
  remainingDays : Int
  deriving DecidableEq, Repr

/-- `p` in place of the product with its id. -/
def Product.replace (p q : Product) : Product := if q.id = p.id then p else q

structure Section where
  id : UUID
  title : String
  rule : Int
  sortingRule : SortingRule
  products : List Product
  deriving DecidableEq, Repr

namespace SortingRule

/-- The comparison `mapCDSectionToSection` sorts by: `a` comes strictly before `b`. -/
def areInIncreasingOrder (rule : SortingRule) (a b : Product) : Bool :=
  match rule with
  | newestToOldest => a.remainingDays > b.remainingDays
  | oldestToNewest => a.remainingDays < b.remainingDays
  | quantityLowToHigh => a.quantity < b.quantity
  | quantityHighToLow => a.quantity > b.quantity

/-- The integer a rule sorts upwards by. -/
def key (rule : SortingRule) (p : Product) : Int :=
  match rule with
  | newestToOldest => -p.remainingDays
  | oldestToNewest => p.remainingDays
  | quantityLowToHigh => p.quantity
  | quantityHighToLow => -p.quantity

theorem areInIncreasingOrder_iff (rule : SortingRule) (a b : Product) :
    rule.areInIncreasingOrder a b = true ↔ rule.key a < rule.key b := by
  cases rule <;> simp [areInIncreasingOrder, key]

/-- A list respects a rule when its keys do not decrease. -/
def Ordered (rule : SortingRule) (products : List Product) : Prop :=
  products.Pairwise (fun a b => rule.key a ≤ rule.key b)

instance (rule : SortingRule) (products : List Product) : Decidable (rule.Ordered products) :=
  inferInstanceAs (Decidable (products.Pairwise _))

theorem ordered_sorted (rule : SortingRule) (products : List Product) :
    rule.Ordered (Lib.sorted rule.areInIncreasingOrder products) :=
  Lib.pairwise_sorted rule.key rule.areInIncreasingOrder_iff products

end SortingRule

/-- The colours the screens set. -/
inductive UIColor
  | black
  | gray
  | systemGray
  | systemGreen
  | systemOrange
  | systemRed
  deriving DecidableEq, Repr

/-! ### Narrowing to 16 bits -/

/-- The range of `Int16`. -/
def FitsInt16 (x : Int) : Prop := -32768 ≤ x ∧ x ≤ 32767

instance (x : Int) : Decidable (FitsInt16 x) := inferInstanceAs (Decidable (_ ∧ _))

/-- `Int16(x)`. -/
def int16 {σ : Type} (x : Int) : EStateM Trap σ Int16 :=
  if FitsInt16 x then pure (Int16.ofInt x) else throw .int16Conversion

theorem run_int16_ok {σ : Type} {x : Int} (h : FitsInt16 x) (s : σ) :
    (int16 x).run s = .ok (Int16.ofInt x) s := by
  rw [int16, if_pos h]; rfl

theorem run_int16_error {σ : Type} {x : Int} (h : ¬ FitsInt16 x) (s : σ) :
    (int16 x).run s = .error .int16Conversion s := by
  rw [int16, if_neg h]; rfl

theorem toInt_ofInt {x : Int} (h : FitsInt16 x) : (Int16.ofInt x).toInt = x :=
  Int16.toInt_ofInt_of_le h.1 (by have := h.2; omega)

theorem fitsInt16_toInt (x : Int16) : FitsInt16 x.toInt :=
  ⟨x.le_toInt, Int.le_of_lt_add_one x.toInt_lt⟩

/-- The range of `Int`. -/
def FitsInt64 (x : Int) : Prop := -9223372036854775808 ≤ x ∧ x ≤ 9223372036854775807

instance (x : Int) : Decidable (FitsInt64 x) := inferInstanceAs (Decidable (_ ∧ _))

/-- The result of an `Int` operation, which traps on overflow. -/
def int64 {σ : Type} (x : Int) : EStateM Trap σ Int :=
  if FitsInt64 x then pure x else throw .intOverflow

theorem run_int64_ok {σ : Type} {x : Int} (h : FitsInt64 x) (s : σ) :
    (int64 x).run s = .ok x s := by
  rw [int64, if_pos h]; rfl

theorem run_int64_error {σ : Type} {x : Int} (h : ¬ FitsInt64 x) (s : σ) :
    (int64 x).run s = .error .intOverflow s := by
  rw [int64, if_neg h]; rfl

/-- `x!`. -/
def forceUnwrap {σ α : Type} : Option α → EStateM Trap σ α
  | some a => pure a
  | none => throw .nilUnwrap

/-- Every field that storing a product narrows is in range. -/
def Product.Fits (p : Product) : Prop := FitsInt16 p.quantity ∧ FitsInt16 p.remainingDays

instance (p : Product) : Decidable p.Fits := inferInstanceAs (Decidable (_ ∧ _))

/-- Every field that storing a section with its products narrows is in range. -/
def Section.Fits (s : Section) : Prop := FitsInt16 s.rule ∧ ∀ p ∈ s.products, p.Fits

instance (s : Section) : Decidable s.Fits := inferInstanceAs (Decidable (_ ∧ _))

end InventoryApp
