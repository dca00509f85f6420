import Mathlib.Algebra.GroupWithZero.Nat
import Mathlib.Data.List.Basic

/-!
# Texts and their Characters

A text is a list of Unicode scalars.  What a reader counts are Characters, runs
of scalars that belong together, and where one starts is Unicode's choice: it
depends on the scalars before a place and on the next one.  That choice is the
parameter `breaks`, so nothing here is tied to a version of its tables.

`starts breaks left t` counts the Characters that start in `t` when `t` comes
after `left`, and `characterCount` is the count of a text on its own.  Joining
texts adds the counts only when no text combines with what is before it, which
`Apart` says for one seam and `characterCount_flatten` uses for all.

Ranges of a text come in UTF-16 units.  `rangeIn` finds the scalars such a range
is made of, and answers nothing for one that is out of bounds or cuts a Character.
-/

namespace Lib

abbrev Text := List Char

/-- Whether a Character starts at the next scalar, given the scalars before it. -/
abbrev Breaks := Text → Char → Bool

variable (breaks : Breaks)

/-- A Character starts at `next` when `left` is before it. -/
def startsAt (left : Text) (next : Char) : Bool := left.isEmpty || breaks left next

/-- The number of Characters that start in a text that comes after `left`. -/
def starts (left : Text) : Text → Nat
  | [] => 0
  | c :: cs => (startsAt breaks left c).toNat + starts (left ++ [c]) cs

/-- The number of Characters of a text. -/
def characterCount (t : Text) : Nat := starts breaks [] t

theorem starts_append (left s t : Text) :
    starts breaks left (s ++ t) = starts breaks left s + starts breaks (left ++ s) t := by
  induction s generalizing left with
  | nil => rw [List.nil_append, List.append_nil, starts, Nat.zero_add]
  | cons c s ih =>
    rw [List.cons_append, starts, starts, ih, List.append_assoc, List.singleton_append,
      Nat.add_assoc]

/-- Only the empty text has no Character. -/
theorem characterCount_eq_zero {t : Text} : characterCount breaks t = 0 ↔ t = [] := by
  cases t with
  | nil => exact iff_of_true rfl rfl
  | cons c t =>
    refine iff_of_false ?_ (List.cons_ne_nil c t)
    show (startsAt breaks [] c).toNat + _ ≠ 0
    have : (startsAt breaks [] c).toNat = 1 := rfl
    omega

/-- A Character, as a text of one. -/
structure Character where
  scalars : Text
  single : characterCount breaks scalars = 1

theorem Character.scalars_ne_nil {breaks : Breaks} (c : Character breaks) : c.scalars ≠ [] := by
  intro h
  have := c.single
  rw [h] at this
  cases this

/-- `t` has the Characters after `left` that it has on its own. -/
def Apart (left t : Text) : Prop :=
  ∀ pre c post, t = pre ++ c :: post →
    startsAt breaks (left ++ pre) c = startsAt breaks pre c

/-- A text of scalars that always start a Character combines with nothing. -/
theorem apart_of_breaks {left t : Text} (h : ∀ c ∈ t, ∀ left, breaks left c = true) :
    Apart breaks left t := by
  intro pre c post ht
  have hc : ∀ left, breaks left c = true := h c (by rw [ht]; simp)
  rw [startsAt, startsAt, hc, hc, Bool.or_true, Bool.or_true]

theorem starts_of_apart {left t : Text} (h : Apart breaks left t) :
    starts breaks left t = characterCount breaks t := by
  -- by induction on what is left of `t`, with `pre` in front of it
  suffices ∀ post pre, t = pre ++ post →
      starts breaks (left ++ pre) post = starts breaks pre post by
    have h₀ := this t [] rfl
    rwa [List.append_nil] at h₀
  intro post
  induction post with
  | nil => exact fun _ _ => rfl
  | cons c post ih =>
    intro pre hpre
    rw [starts, starts, h pre c post hpre, List.append_assoc]
    rw [ih (pre ++ [c]) (by rw [hpre, List.append_assoc, List.singleton_append])]

/-- **Texts that stay apart add up.** -/
theorem characterCount_flatten {ts : List Text}
    (h : ∀ pre t post, ts = pre ++ t :: post → Apart breaks pre.flatten t) :
    characterCount breaks ts.flatten = (ts.map (characterCount breaks)).sum := by
  suffices ∀ post pre, ts = pre ++ post →
      starts breaks pre.flatten post.flatten = (post.map (characterCount breaks)).sum from
    this ts [] rfl
  intro post
  induction post with
  | nil => exact fun _ _ => rfl
  | cons t post ih =>
    intro pre hpre
    have hrest := ih (pre ++ [t]) (by rw [hpre, List.append_assoc, List.singleton_append])
    rw [List.flatten_append, List.flatten_singleton] at hrest
    rw [List.flatten_cons, starts_append, hrest, starts_of_apart breaks (h pre t post hpre),
      List.map_cons, List.sum_cons]

/-! ### Ranges -/

/-- The number of UTF-16 units of a scalar. -/
def utf16Size (c : Char) : Nat := if c.toNat ≤ 0xFFFF then 1 else 2

def utf16Length (t : Text) : Nat := (t.map utf16Size).sum

/-- The number of scalars before a UTF-16 offset, if it is at a scalar. -/
def indexAt : Text → Nat → Option Nat
  | _, 0 => some 0
  | [], _ + 1 => none
  | c :: cs, n + 1 =>
    if utf16Size c ≤ n + 1 then (indexAt cs (n + 1 - utf16Size c)).map (· + 1) else none

/-- A range in UTF-16 units. -/
structure NSRange where
  location : Nat
  length : Nat
  deriving DecidableEq, Repr

/-- A Character of the text starts or ends before the scalar at `i`. -/
def isBoundary (t : Text) (i : Nat) : Bool :=
  match t.drop i with
  | [] => true
  | c :: _ => startsAt breaks (t.take i) c

/-- The scalars a range is made of, if it is made of whole Characters. -/
def rangeIn (t : Text) (range : NSRange) : Option (Nat × Nat) := do
  let lower ← indexAt t range.location
  let upper ← indexAt t (range.location + range.length)
  if isBoundary breaks t lower && isBoundary breaks t upper then return (lower, upper) else none

/-- The text with the scalars from `bounds.1` up to `bounds.2` replaced. -/
def replacing (t : Text) (bounds : Nat × Nat) (string : Text) : Text :=
  t.take bounds.1 ++ string ++ t.drop bounds.2

/-- Nothing can be replaced in the empty text but all of it. -/
theorem rangeIn_nil_zero : rangeIn breaks [] ⟨0, 0⟩ = some (0, 0) := rfl

@[simp] theorem replacing_nil (bounds : Nat × Nat) (string : Text) :
    replacing [] bounds string = string := by
  simp [replacing]

theorem utf16Length_append (s t : Text) :
    utf16Length (s ++ t) = utf16Length s + utf16Length t := by
  rw [utf16Length, List.map_append, List.sum_append]
  rfl

/-- An offset is the length of what is before it. -/
theorem utf16Length_take_of_indexAt {t : Text} {n i : Nat} (h : indexAt t n = some i) :
    utf16Length (t.take i) = n := by
  induction t generalizing n i with
  | nil =>
    cases n with
    | zero =>
      rw [List.take_nil]
      rfl
    | succ n => cases h
  | cons c t ih =>
    cases n with
    | zero =>
      obtain rfl := Option.some.inj h
      rfl
    | succ n =>
      rw [indexAt] at h
      by_cases hc : utf16Size c ≤ n + 1
      · rw [if_pos hc] at h
        obtain ⟨j, hj, rfl⟩ := Option.map_eq_some_iff.mp h
        have hrest := ih hj
        rw [List.take_succ_cons, utf16Length, List.map_cons, List.sum_cons]
        rw [utf16Length] at hrest
        omega
      · rw [if_neg hc] at h
        cases h

/-- **A change of a text changes its length by what goes and what comes.** -/
theorem utf16Length_replacing {t : Text} {range : NSRange} {bounds : Nat × Nat}
    (h : rangeIn breaks t range = some bounds) (string : Text) :
    utf16Length (replacing t bounds string) + range.length =
      utf16Length t + utf16Length string := by
  obtain ⟨lower, hlower, h⟩ := Option.bind_eq_some_iff.mp h
  obtain ⟨upper, hupper, h⟩ := Option.bind_eq_some_iff.mp h
  obtain rfl : (lower, upper) = bounds := by
    split at h
    · exact Option.some.inj h
    · cases h
  have hbefore := utf16Length_take_of_indexAt hlower
  have hupto := utf16Length_take_of_indexAt hupper
  have htotal : utf16Length (t.take upper) + utf16Length (t.drop upper) = utf16Length t := by
    rw [← utf16Length_append, List.take_append_drop]
  show utf16Length (t.take lower ++ string ++ t.drop upper) + _ = _
  rw [utf16Length_append, utf16Length_append]
  omega

end Lib
