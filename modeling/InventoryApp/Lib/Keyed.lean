import Mathlib.Data.List.Nodup

/-!
# Lists with distinct keys

The elements of a list have keys.  `distinctKeys` finds out that no two have the
same one, with a bit for each key that was met, so that it can be run on long lists.

Where keys are distinct, a place is found by its key (`eq_of_getElem?_of_key`), and
a loop that acts on the elements with one key acts at most once (`foldl_of_mem`).
-/

namespace Lib

variable {α σ κ : Type*}

/-- No key is in `seen`, and no two are equal. -/
def distinctKeys (key : α → Nat) : List α → Nat → Bool
  | [], _ => true
  | a :: l, seen => !seen.testBit (key a) && distinctKeys key l (seen ||| 1 <<< key a)

/-- **What `distinctKeys` finds out.** -/
theorem nodup_of_distinctKeys {key : α → Nat} {l : List α} {seen : Nat}
    (h : distinctKeys key l seen = true) :
    (l.map key).Nodup ∧ ∀ a ∈ l, seen.testBit (key a) = false := by
  induction l generalizing seen with
  | nil => exact ⟨List.nodup_nil, fun _ ha => absurd ha List.not_mem_nil⟩
  | cons a l ih =>
    rw [distinctKeys, Bool.and_eq_true, Bool.not_eq_true'] at h
    obtain ⟨hnodup, hfresh⟩ := ih h.2
    have hrest : ∀ b ∈ l, seen.testBit (key b) = false ∧ key a ≠ key b := by
      intro b hb
      have hbit := hfresh b hb
      rw [Nat.testBit_or, Nat.one_shiftLeft, Nat.testBit_two_pow, Bool.or_eq_false_iff,
        decide_eq_false_iff_not] at hbit
      exact hbit
    rw [List.map_cons, List.nodup_cons, List.forall_mem_cons]
    refine ⟨⟨?_, hnodup⟩, h.1, fun b hb => (hrest b hb).1⟩
    intro hmem
    obtain ⟨b, hb, hkey⟩ := List.mem_map.mp hmem
    exact (hrest b hb).2 hkey.symm

variable {key : α → κ} {l : List α}

/-- A place is found by its key. -/
theorem eq_of_getElem?_of_key (h : (l.map key).Nodup) {i j : Nat} {a b : α}
    (ha : l[i]? = some a) (hb : l[j]? = some b) (hkey : key a = key b) : i = j := by
  have hi : i < (l.map key).length := by
    rw [List.length_map]
    exact (List.getElem?_eq_some_iff.mp ha).1
  refine (List.getElem?_inj hi h).mp ?_
  rw [List.getElem?_map, List.getElem?_map, ha, hb, Option.map_some, Option.map_some, hkey]

variable [DecidableEq κ] {k : κ} {f : σ → α → σ}

/-- A loop that acts on one key does nothing where nobody has it. -/
theorem foldl_of_forall_ne (h : ∀ a ∈ l, key a ≠ k) (s : σ) :
    l.foldl (fun s a => if key a = k then f s a else s) s = s := by
  induction l generalizing s with
  | nil => rfl
  | cons a l ih =>
    rw [List.foldl_cons, if_neg (h a List.mem_cons_self)]
    exact ih (fun b hb => h b (List.mem_cons_of_mem a hb)) s

/-- **A loop that acts on one key acts once**, where keys are distinct. -/
theorem foldl_of_mem (h : (l.map key).Nodup) {a : α} (ha : a ∈ l) (hkey : key a = k) (s : σ) :
    l.foldl (fun s a => if key a = k then f s a else s) s = f s a := by
  induction l generalizing s with
  | nil => cases ha
  | cons b l ih =>
    obtain ⟨hb, hl⟩ := List.nodup_cons.mp h
    rw [List.foldl_cons]
    rcases List.mem_cons.mp ha with rfl | ha
    · rw [if_pos hkey]
      refine foldl_of_forall_ne (fun c hc he => hb ?_) _
      rw [hkey, ← he]
      exact List.mem_map_of_mem hc
    · have hne : key b ≠ k := by
        intro he
        rw [he, ← hkey] at hb
        exact hb (List.mem_map_of_mem ha)
      rw [if_neg hne]
      exact ih hl ha s

end Lib
