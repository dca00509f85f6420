import Mathlib.Data.Option.Basic
import InventoryApp.Lib.Table

/-!
# A table as a map

Where no two rows share an attribute, a table is a map from the values of that
attribute to rows, and `lookup attr x` is the row under `x`.  The lemmas say what
each change of the table makes of the map: an insertion with a new value defines
it there, and a change of rows that keeps the attribute changes the row in place.
`fetch_of_distinct` connects this to a fetch, whose first answer is the row of the
map under every order.
-/

namespace Lib.Table

variable {ρ κ : Type} [DecidableEq κ] (t : Table ρ) {attr : ρ → Option κ}

/-- The row with a value of the attribute, the oldest one where there are several. -/
def lookup (attr : ρ → Option κ) (x : κ) : Option (Nat × ρ) :=
  (t.select (fun r => attr r = some x)).head?

variable {t}

/-- What is looked up is stored, with the value. -/
theorem get?_of_lookup {x : κ} {r : Nat × ρ} (h : t.lookup attr x = some r) :
    t.get? r.1 = some r.2 ∧ attr r.2 = some x := by
  obtain ⟨hr, hx⟩ := t.mem_select.mp (List.mem_of_head? h)
  exact ⟨t.get?_eq_some.mpr hr, of_decide_eq_true hx⟩

theorem lookup_eq_none {x : κ} :
    t.lookup attr x = none ↔ ∀ k r, t.get? k = some r → attr r ≠ some x := by
  rw [lookup, List.head?_eq_none_iff, List.eq_nil_iff_forall_not_mem]
  constructor
  · intro h k r hk hx
    exact h (k, r) (t.mem_select.mpr ⟨t.get?_eq_some.mp hk, decide_eq_true hx⟩)
  · intro h r hr
    obtain ⟨hr, hx⟩ := t.mem_select.mp hr
    exact h r.1 r.2 (t.get?_eq_some.mpr hr) (of_decide_eq_true hx)

/-- **Where values are distinct, a row is looked up under its value.** -/
theorem lookup_eq_some (hd : t.Distinct attr) {x : κ} {k : Nat} {r : ρ} :
    t.lookup attr x = some (k, r) ↔ t.get? k = some r ∧ attr r = some x := by
  refine ⟨get?_of_lookup, ?_⟩
  rintro ⟨hk, hx⟩
  cases hl : t.lookup attr x with
  | none => exact absurd hx (lookup_eq_none.mp hl k r hk)
  | some r' =>
    obtain ⟨hk', hx'⟩ := get?_of_lookup hl
    obtain rfl := hd k r r'.1 r'.2 x hk hk' hx hx'
    rw [hk] at hk'
    rw [Option.some.inj hk']

/-- Where values are distinct, the first answer of a fetch is the row that is looked up. -/
theorem fetch_of_distinct (hd : t.Distinct attr) (o : Arrangement) (x : κ) :
    (t.fetch o (fun r => attr r = some x)).head? = (t.lookup attr x).map Prod.fst := by
  cases hl : t.lookup attr x with
  | none =>
    rw [Option.map_none, head?_fetch_eq_none]
    exact fun k r hk => decide_eq_false (lookup_eq_none.mp hl k r hk)
  | some r =>
    obtain ⟨hk, hx⟩ := get?_of_lookup hl
    refine t.head?_fetch_of_unique hk (decide_eq_true hx) fun k' r' hk' hx' => ?_
    exact hd k' r' r.1 r.2 x hk' hk (of_decide_eq_true hx') hx

/-! ### What the changes make of the map -/

/-- A new value is defined. -/
theorem lookup_insert_self {r : ρ} {x : κ} (hr : attr r = some x) (hnew : t.lookup attr x = none) :
    (t.insert r).lookup attr x = some (t.next, r) := by
  rw [lookup, List.head?_eq_none_iff] at hnew
  rw [lookup, select_insert, hnew, if_pos (decide_eq_true hr), List.nil_append, List.head?_cons]

theorem lookup_insert_of_ne {r : ρ} {x : κ} (hr : attr r ≠ some x) :
    (t.insert r).lookup attr x = t.lookup attr x := by
  rw [lookup, select_insert, if_neg (by simpa using hr), List.append_nil, lookup]

/-- A change of rows that keeps the attribute. -/
theorem lookup_mapRows {f : Nat → ρ → ρ} (hf : ∀ r ∈ t.rows, attr (f r.1 r.2) = attr r.2) (x : κ) :
    (t.mapRows f).lookup attr x = (t.lookup attr x).map (fun r => (r.1, f r.1 r.2)) := by
  rw [lookup, t.select_mapRows fun r hr => by rw [hf r hr], List.head?_map, lookup]

/-- A change of one row that keeps the attribute. -/
theorem lookup_modify {k : Nat} {f : ρ → ρ} (hf : ∀ r, attr (f r) = attr r) (x : κ) :
    (t.modify k f).lookup attr x =
      (t.lookup attr x).map (fun r => (r.1, if r.1 = k then f r.2 else r.2)) := by
  refine lookup_mapRows (fun r _ => ?_) x
  split
  · exact hf r.2
  · rfl

end Lib.Table
