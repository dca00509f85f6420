import Mathlib.Data.List.Sort

/-!
# Sorting by a strict comparison

`sorted lt l` sorts a list by a comparison `lt a b`, "`a` comes strictly before
`b`", and keeps the order of elements that the comparison does not separate.  A
stable sort by a strict weak order is determined by its input, so insertion sort
stands for any other one.

`perm_sorted` holds for every comparison.  The others are for a comparison by a
key into a linear order: in the result the keys do not decrease
(`pairwise_sorted`), elements with one key stand in the order they came in
(`filter_sorted`), and so the result depends on that order only when different
elements have one key (`sorted_eq_of_perm`).
-/

namespace Lib

variable {α : Type}

/-- The stable sort of a list by a strict comparison. -/
def sorted (lt : α → α → Bool) (l : List α) : List α :=
  l.insertionSort (fun a b => lt b a = false)

theorem perm_sorted (lt : α → α → Bool) (l : List α) : (sorted lt l).Perm l :=
  List.perm_insertionSort _ l

section Key

variable {κ : Type} [LinearOrder κ] {lt : α → α → Bool} (key : α → κ)
  (h : ∀ a b, lt a b = true ↔ key a < key b)

include h

/-- **The result is in order**: the keys do not decrease. -/
theorem pairwise_sorted (l : List α) : (sorted lt l).Pairwise (fun a b => key a ≤ key b) := by
  have hle : ∀ a b, lt b a = false ↔ key a ≤ key b := by
    intro a b
    rw [← Bool.not_eq_true, h, not_lt]
  have : Std.Total (fun a b => lt b a = false) :=
    ⟨fun a b => by rw [hle, hle]; exact le_total (key a) (key b)⟩
  have : IsTrans α (fun a b => lt b a = false) :=
    ⟨fun a b c => by rw [hle, hle, hle]; exact le_trans⟩
  exact (List.pairwise_insertionSort _ l).imp fun {a b} => (hle a b).mp

/-- **The sort is stable**: elements with one key stay in the order they came in. -/
theorem filter_sorted (l : List α) (c : κ) :
    (sorted lt l).filter (fun a => key a = c) = l.filter (fun a => key a = c) := by
  have htie : (l.filter (fun a => key a = c)).Pairwise (fun a b => lt b a = false) := by
    refine List.pairwise_of_forall_mem_list fun a ha b hb => ?_
    have hkey : key a = key b := by
      rw [of_decide_eq_true (List.mem_filter.mp ha).2, of_decide_eq_true (List.mem_filter.mp hb).2]
    rw [← Bool.not_eq_true, h, hkey]
    exact lt_irrefl _
  have hsub : (l.filter (fun a => key a = c)).Sublist (sorted lt l) :=
    List.sublist_insertionSort htie List.filter_sublist
  have hsub' := hsub.filter (fun a => key a = c)
  simp only [List.filter_filter, Bool.and_self] at hsub'
  exact (hsub'.eq_of_length ((perm_sorted lt l).filter _).length_eq.symm).symm

/-- Where different elements have different keys, only the elements matter. -/
theorem sorted_eq_of_perm {l l' : List α} (hperm : l.Perm l')
    (hkey : ∀ a ∈ l, ∀ b ∈ l, key a = key b → a = b) : sorted lt l = sorted lt l' := by
  refine List.Perm.eq_of_pairwise ?_ (pairwise_sorted key h l) (pairwise_sorted key h l')
    ((perm_sorted lt l).trans (hperm.trans (perm_sorted lt l').symm))
  intro a b ha hb hab hba
  exact hkey a ((perm_sorted lt l).mem_iff.mp ha) b
    (hperm.mem_iff.mpr ((perm_sorted lt l').mem_iff.mp hb)) (le_antisymm hab hba)

end Key

end Lib
