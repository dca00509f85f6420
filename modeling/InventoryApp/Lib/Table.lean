import Mathlib.Data.List.Nodup
import Mathlib.Data.List.Perm.Basic

/-!
# Tables of keyed rows

A `Table` is what one entity of an object store holds: rows under keys that the
table hands out itself.  Its two proof fields say that no key is used twice and
that the next key is new, so a table with a clash cannot be built; keys are
never handed out again, also after their row is gone.

`get?` reads one row, `select` the rows with a property, in the order they were
inserted.  What a store promises about the order of an answer is less than that,
so the two reads a program sees go through an `Arrangement`, any choice of an
order that depends on the answer only: `fetch` gives the keys of the selected
rows and `enumerate` the rows themselves.  `enumerate_perm` says that nothing is
lost or added by the choice.

Every change of rows is an `insert`, a `mapRows` or an `erase`, and `modify` is
the `mapRows` that changes one row.  `All P` and `Distinct attr`, that every row
has a property and that no two rows share an attribute, come with what each
change asks for to keep them.
-/

namespace Lib

/-- An order of enumeration: what a list of keys is answered with. -/
structure Arrangement where
  arrange : List Nat → List Nat
  perm : ∀ ks, (arrange ks).Perm ks

/-- The order of insertion. -/
def Arrangement.inOrder : Arrangement := ⟨id, fun _ => .rfl⟩

instance : Inhabited Arrangement := ⟨.inOrder⟩

/-- A key comes first, if it is there. -/
def Arrangement.first (k : Nat) : Arrangement where
  arrange ks := if k ∈ ks then k :: ks.erase k else ks
  perm ks := by
    by_cases h : k ∈ ks
    · rw [if_pos h]
      exact (List.perm_cons_erase h).symm
    · rw [if_neg h]

/-- Rows under distinct keys, with the next key to hand out. -/
@[ext] structure Table (ρ : Type) where
  rows : List (Nat × ρ)
  next : Nat
  fresh : ∀ r ∈ rows, r.1 < next
  nodup : (rows.map Prod.fst).Nodup
  deriving DecidableEq

namespace Table

variable {ρ : Type} (t : Table ρ)

/-! ### Reading -/

def keys : List Nat := t.rows.map Prod.fst

/-- The row under a key. -/
def get? (k : Nat) : Option ρ := (t.rows.find? (fun r => r.1 == k)).map Prod.snd

/-- The rows with a property, oldest first. -/
def select (p : ρ → Bool) : List (Nat × ρ) := t.rows.filter (fun r => p r.2)

/-- The keys of the rows with a property, in the order of the answer. -/
def fetch (o : Arrangement) (p : ρ → Bool) : List Nat := o.arrange ((t.select p).map Prod.fst)

/-- The rows with a property, in the order of the answer. -/
def enumerate (o : Arrangement) (p : ρ → Bool) : List (Nat × ρ) :=
  (t.fetch o p).filterMap (fun k => (t.get? k).map (fun r => (k, r)))

theorem mem_keys {k : Nat} : k ∈ t.keys ↔ ∃ r, (k, r) ∈ t.rows := by
  simp [keys]

theorem mem_select {p : ρ → Bool} {r : Nat × ρ} : r ∈ t.select p ↔ r ∈ t.rows ∧ p r.2 = true := by
  simp [select]

/-- Two rows under one key are one row. -/
theorem eq_of_mem_of_key {r r' : Nat × ρ} (h : r ∈ t.rows) (h' : r' ∈ t.rows)
    (hk : r.1 = r'.1) : r = r' :=
  List.inj_on_of_nodup_map t.nodup h h' hk

theorem get?_eq_some {k : Nat} {r : ρ} : t.get? k = some r ↔ (k, r) ∈ t.rows := by
  unfold get?
  constructor
  · intro h
    obtain ⟨⟨k', r'⟩, hf, rfl⟩ := Option.map_eq_some_iff.mp h
    have hk : k' = k := by simpa using List.find?_some hf
    subst hk
    exact List.mem_of_find?_eq_some hf
  · intro h
    cases hf : t.rows.find? (fun r => r.1 == k) with
    | none => exact absurd (List.find?_eq_none.mp hf _ h) (by simp)
    | some r' =>
      have hk : r'.1 = k := by simpa using List.find?_some hf
      rw [t.eq_of_mem_of_key (List.mem_of_find?_eq_some hf) h hk]
      rfl

theorem mem_keys_iff_get? {k : Nat} : k ∈ t.keys ↔ ∃ r, t.get? k = some r := by
  simp only [mem_keys, get?_eq_some]

theorem lt_next_of_get? {k : Nat} {r : ρ} (h : t.get? k = some r) : k < t.next :=
  t.fresh _ (t.get?_eq_some.mp h)

theorem nodup_select_keys (p : ρ → Bool) : ((t.select p).map Prod.fst).Nodup :=
  (List.Sublist.map Prod.fst List.filter_sublist).nodup t.nodup

theorem mem_fetch {o : Arrangement} {p : ρ → Bool} {k : Nat} :
    k ∈ t.fetch o p ↔ ∃ r, t.get? k = some r ∧ p r = true := by
  rw [fetch, (o.perm _).mem_iff, List.mem_map]
  constructor
  · rintro ⟨⟨k, r⟩, h, rfl⟩
    obtain ⟨hm, hp⟩ := t.mem_select.mp h
    exact ⟨r, t.get?_eq_some.mpr hm, hp⟩
  · rintro ⟨r, hg, hp⟩
    exact ⟨(k, r), t.mem_select.mpr ⟨t.get?_eq_some.mp hg, hp⟩, rfl⟩

/-- **The first answer of a fetch has the property.** -/
theorem get?_of_head?_fetch {o : Arrangement} {p : ρ → Bool} {k : Nat}
    (h : (t.fetch o p).head? = some k) : ∃ r, t.get? k = some r ∧ p r = true :=
  t.mem_fetch.mp (List.mem_of_head? h)

theorem head?_fetch_eq_none {o : Arrangement} {p : ρ → Bool} :
    (t.fetch o p).head? = none ↔ ∀ k r, t.get? k = some r → p r = false := by
  rw [List.head?_eq_none_iff, List.eq_nil_iff_forall_not_mem]
  constructor
  · intro h k r hg
    by_contra hp
    exact h k (t.mem_fetch.mpr ⟨r, hg, by simpa using hp⟩)
  · intro h k hk
    obtain ⟨r, hg, hp⟩ := t.mem_fetch.mp hk
    simp [h k r hg] at hp

/-- When one row has the property, that row is the first answer, in every order. -/
theorem head?_fetch_of_unique {o : Arrangement} {p : ρ → Bool} {k : Nat} {r : ρ}
    (hg : t.get? k = some r) (hp : p r = true)
    (hu : ∀ k' r', t.get? k' = some r' → p r' = true → k' = k) :
    (t.fetch o p).head? = some k := by
  cases h : (t.fetch o p).head? with
  | none => simp [t.head?_fetch_eq_none.mp h k r hg] at hp
  | some k' =>
    obtain ⟨r', hg', hp'⟩ := t.get?_of_head?_fetch h
    rw [hu k' r' hg' hp']

/-- The answer of a fetch depends on the keys that match only. -/
theorem fetch_congr {ρ' : Type} {t : Table ρ} {t' : Table ρ'} (o : Arrangement)
    {p : ρ → Bool} {p' : ρ' → Bool}
    (h : (t.select p).map Prod.fst = (t'.select p').map Prod.fst) :
    t.fetch o p = t'.fetch o p' := by
  rw [fetch, fetch, h]

/-- **An enumeration lists exactly the selected rows**, in some order. -/
theorem enumerate_perm (o : Arrangement) (p : ρ → Bool) :
    (t.enumerate o p).Perm (t.select p) := by
  have hsel : ((t.select p).map Prod.fst).filterMap
      (fun k => (t.get? k).map (fun r => (k, r))) = t.select p := by
    rw [List.filterMap_map]
    refine (List.filterMap_congr fun r hr => ?_).trans List.filterMap_some
    have hg := t.get?_eq_some.mpr (t.mem_select.mp hr).1
    simp only [Function.comp_apply, hg, Option.map_some]
  have hperm := (o.perm ((t.select p).map Prod.fst)).filterMap
    (fun k => (t.get? k).map (fun r => (k, r)))
  rw [hsel] at hperm
  exact hperm

theorem mem_enumerate {o : Arrangement} {p : ρ → Bool} {r : Nat × ρ} :
    r ∈ t.enumerate o p ↔ r ∈ t.rows ∧ p r.2 = true := by
  rw [(t.enumerate_perm o p).mem_iff, mem_select]

/-- A selected row can come first. -/
theorem exists_enumerate_first {p : ρ → Bool} {r : Nat × ρ} (h : r ∈ t.select p) :
    ∃ rest, t.enumerate (.first r.1) p = r :: rest := by
  have hkey : r.1 ∈ (t.select p).map Prod.fst := List.mem_map_of_mem h
  have hget := t.get?_eq_some.mpr (t.mem_select.mp h).1
  rw [enumerate, fetch, Arrangement.first]
  simp only [if_pos hkey]
  rw [List.filterMap_cons, hget]
  exact ⟨_, rfl⟩

/-! ### Changing -/

def empty : Table ρ := ⟨[], 0, by simp, by simp⟩

/-- Adds a row under the next key. -/
def insert (r : ρ) : Table ρ where
  rows := t.rows ++ [(t.next, r)]
  next := t.next + 1
  fresh := by
    intro r' h
    rcases List.mem_append.mp h with h | h
    · exact Nat.lt_succ_of_lt (t.fresh r' h)
    · rw [List.mem_singleton.mp h]; exact Nat.lt_succ_self _
  nodup := by
    rw [List.map_append, List.nodup_append]
    refine ⟨t.nodup, by simp, ?_⟩
    intro k hk k' hk'
    obtain ⟨r', hr', rfl⟩ := List.mem_map.mp hk
    have := t.fresh r' hr'
    simp only [List.map_cons, List.map_nil, List.mem_singleton] at hk'
    omega

/-- Changes every row as `f` says, under its key. -/
def mapRows (f : Nat → ρ → ρ) : Table ρ where
  rows := t.rows.map (fun r => (r.1, f r.1 r.2))
  next := t.next
  fresh := by
    intro r h
    obtain ⟨r', hr', rfl⟩ := List.mem_map.mp h
    exact t.fresh r' hr'
  nodup := by
    rw [List.map_map]
    exact t.nodup

/-- Changes the row under one key. -/
def modify (k : Nat) (f : ρ → ρ) : Table ρ := t.mapRows (fun i r => if i = k then f r else r)

/-- Drops the row under one key. -/
def erase (k : Nat) : Table ρ where
  rows := t.rows.filter (fun r => r.1 != k)
  next := t.next
  fresh := fun r h => t.fresh r (List.mem_filter.mp h).1
  nodup := (List.Sublist.map Prod.fst List.filter_sublist).nodup t.nodup

/-- Adds rows one after the other. -/
def insertAll (rs : List ρ) : Table ρ := rs.foldl insert t

@[simp] theorem rows_empty : (empty : Table ρ).rows = [] := rfl
@[simp] theorem rows_insert (r : ρ) : (t.insert r).rows = t.rows ++ [(t.next, r)] := rfl
@[simp] theorem next_insert (r : ρ) : (t.insert r).next = t.next + 1 := rfl
@[simp] theorem rows_mapRows (f : Nat → ρ → ρ) :
    (t.mapRows f).rows = t.rows.map (fun r => (r.1, f r.1 r.2)) := rfl
@[simp] theorem next_mapRows (f : Nat → ρ → ρ) : (t.mapRows f).next = t.next := rfl
@[simp] theorem next_modify (k : Nat) (f : ρ → ρ) : (t.modify k f).next = t.next := rfl
@[simp] theorem rows_erase (k : Nat) : (t.erase k).rows = t.rows.filter (fun r => r.1 != k) := rfl

@[simp] theorem keys_mapRows (f : Nat → ρ → ρ) : (t.mapRows f).keys = t.keys := by
  rw [keys, keys, rows_mapRows, List.map_map]; rfl

@[simp] theorem keys_modify (k : Nat) (f : ρ → ρ) : (t.modify k f).keys = t.keys :=
  t.keys_mapRows _

@[simp] theorem keys_insert (r : ρ) : (t.insert r).keys = t.keys ++ [t.next] := by
  simp [keys]

theorem mem_keys_erase {k k' : Nat} : k' ∈ (t.erase k).keys ↔ k' ∈ t.keys ∧ k' ≠ k := by
  simp [keys]

theorem next_notMem_keys : t.next ∉ t.keys := by
  intro h
  obtain ⟨r, hr⟩ := t.mem_keys.mp h
  exact absurd (t.fresh _ hr) (Nat.lt_irrefl _)

theorem mem_rows_modify {k : Nat} {f : ρ → ρ} {r : Nat × ρ} :
    r ∈ (t.modify k f).rows ↔ ∃ r' ∈ t.rows, r = (r'.1, if r'.1 = k then f r'.2 else r'.2) := by
  simp [modify, eq_comm]

theorem insert_ne (r : ρ) : t.insert r ≠ t := by
  intro h
  have : t.next + 1 = t.next := congrArg Table.next h
  omega

theorem get?_empty (k : Nat) : (empty : Table ρ).get? k = none := rfl

theorem get?_insert {k : Nat} {r r' : ρ} :
    (t.insert r).get? k = some r' ↔ t.get? k = some r' ∨ (k = t.next ∧ r' = r) := by
  simp [get?_eq_some]

theorem get?_mapRows (k : Nat) (f : Nat → ρ → ρ) :
    (t.mapRows f).get? k = (t.get? k).map (f k) := by
  ext r
  rw [get?_eq_some, rows_mapRows, List.mem_map, Option.map_eq_some_iff]
  constructor
  · rintro ⟨⟨k', r'⟩, h, he⟩
    obtain ⟨rfl, rfl⟩ := Prod.mk.inj he
    exact ⟨r', t.get?_eq_some.mpr h, rfl⟩
  · rintro ⟨r', h, rfl⟩
    exact ⟨(k, r'), t.get?_eq_some.mp h, rfl⟩

theorem get?_modify (k i : Nat) (f : ρ → ρ) :
    (t.modify k f).get? i = (t.get? i).map (fun r => if i = k then f r else r) :=
  t.get?_mapRows i _

theorem get?_modify_self {k : Nat} {f : ρ → ρ} {r : ρ} (h : t.get? k = some r) :
    (t.modify k f).get? k = some (f r) := by
  rw [get?_modify, h, Option.map_some, if_pos rfl]

theorem get?_modify_of_ne {k i : Nat} {f : ρ → ρ} (h : i ≠ k) :
    (t.modify k f).get? i = t.get? i := by
  rw [get?_modify]
  simp only [if_neg h, Option.map_id']

theorem get?_erase {k i : Nat} {r : ρ} :
    (t.erase k).get? i = some r ↔ t.get? i = some r ∧ i ≠ k := by
  simp [get?_eq_some]

/-! ### How the changes compose -/

/-- Changing the row just inserted is inserting the changed row. -/
@[simp] theorem modify_insert_next (r : ρ) (f : ρ → ρ) :
    (t.insert r).modify t.next f = t.insert (f r) := by
  refine Table.ext ?_ rfl
  simp only [modify, rows_mapRows, rows_insert, List.map_append, List.map_cons, List.map_nil,
    if_pos]
  congr 1
  refine (List.map_congr_left fun r' h => ?_).trans (List.map_id _)
  rw [if_neg (Nat.ne_of_lt (t.fresh r' h))]; rfl

@[simp] theorem modify_modify (k : Nat) (f g : ρ → ρ) :
    (t.modify k f).modify k g = t.modify k (fun r => g (f r)) := by
  refine Table.ext ?_ rfl
  simp only [modify, rows_mapRows, List.map_map]
  refine List.map_congr_left fun r _ => ?_
  by_cases h : r.1 = k <;> simp [h]

theorem mapRows_id : t.mapRows (fun _ r => r) = t := Table.ext (List.map_id _) rfl

theorem modify_id (k : Nat) : t.modify k (fun r => r) = t := by
  simp only [modify, ite_self, mapRows_id]

theorem mapRows_mapRows (f g : Nat → ρ → ρ) :
    (t.mapRows f).mapRows g = t.mapRows (fun k r => g k (f k r)) := by
  refine Table.ext ?_ rfl
  simp only [rows_mapRows, List.map_map]
  rfl

theorem select_insert (r : ρ) (p : ρ → Bool) :
    (t.insert r).select p = t.select p ++ if p r then [(t.next, r)] else [] := by
  rw [select, rows_insert, List.filter_append]
  congr 1
  by_cases h : p r = true <;> simp [h]

/-- What inserting several rows adds to a selection, keys aside. -/
theorem select_insertAll (rs : List ρ) (p : ρ → Bool) :
    ((t.insertAll rs).select p).map Prod.snd = (t.select p).map Prod.snd ++ rs.filter p := by
  induction rs generalizing t with
  | nil => simp [insertAll]
  | cons r rs ih =>
    rw [insertAll, List.foldl_cons, ← insertAll, ih, select_insert, List.map_append,
      List.append_assoc, List.filter_cons]
    by_cases h : p r = true <;> simp [h]

theorem select_insertAll_of_false {rs : List ρ} {p : ρ → Bool} (h : ∀ r ∈ rs, p r = false) :
    (t.insertAll rs).select p = t.select p := by
  induction rs generalizing t with
  | nil => rfl
  | cons r rs ih =>
    rw [insertAll, List.foldl_cons, ← insertAll,
      ih _ (fun r' hr' => h r' (List.mem_cons_of_mem _ hr')), select_insert,
      h r List.mem_cons_self]
    simp

theorem length_insertAll (rs : List ρ) :
    (t.insertAll rs).rows.length = t.rows.length + rs.length := by
  induction rs generalizing t with
  | nil => rfl
  | cons r rs ih =>
    rw [insertAll, List.foldl_cons, ← insertAll, ih, rows_insert, List.length_append,
      List.length_cons, List.length_cons, List.length_nil]
    omega

/-- Inserting rows leaves the earlier ones. -/
theorem get?_insertAll_of_some {rs : List ρ} {k : Nat} {r : ρ} (h : t.get? k = some r) :
    (t.insertAll rs).get? k = some r := by
  induction rs generalizing t with
  | nil => exact h
  | cons r' rs ih => exact ih (t.insert r') (t.get?_insert.mpr (Or.inl h))

/-- A row after several insertions is an earlier one or one of the inserted. -/
theorem get?_insertAll {rs : List ρ} {k : Nat} {r : ρ} (h : (t.insertAll rs).get? k = some r) :
    t.get? k = some r ∨ (t.next ≤ k ∧ r ∈ rs) := by
  induction rs generalizing t with
  | nil => exact Or.inl h
  | cons r' rs ih =>
    rcases ih (t.insert r') h with h | ⟨hk, hm⟩
    · rcases t.get?_insert.mp h with h | ⟨rfl, rfl⟩
      · exact Or.inl h
      · exact Or.inr ⟨Nat.le_refl _, List.mem_cons_self⟩
    · exact Or.inr ⟨Nat.le_of_succ_le hk, List.mem_cons_of_mem _ hm⟩

/-- Changing rows without changing whether they are selected changes the
selected rows in place. -/
theorem select_mapRows {f : Nat → ρ → ρ} {p : ρ → Bool}
    (h : ∀ r ∈ t.rows, p (f r.1 r.2) = p r.2) :
    (t.mapRows f).select p = (t.select p).map (fun r => (r.1, f r.1 r.2)) := by
  rw [select, rows_mapRows, List.filter_map]
  congr 1
  exact List.filter_congr fun r hr => h r hr

theorem select_keys_mapRows {f : Nat → ρ → ρ} {p : ρ → Bool}
    (h : ∀ r ∈ t.rows, p (f r.1 r.2) = p r.2) :
    ((t.mapRows f).select p).map Prod.fst = (t.select p).map Prod.fst := by
  rw [t.select_mapRows h, List.map_map]
  rfl

/-! ### Properties of all rows -/

/-- Every row has the property. -/
def All (P : ρ → Prop) (t : Table ρ) : Prop := ∀ k r, t.get? k = some r → P r

section All

variable {P : ρ → Prop} {t}

theorem All.empty : All P (empty : Table ρ) := by
  intro k r h
  rw [get?_empty] at h
  cases h

theorem All.insert (h : All P t) {r : ρ} (hr : P r) : All P (t.insert r) := by
  intro k r' hk
  rcases t.get?_insert.mp hk with hk | ⟨_, rfl⟩
  · exact h k r' hk
  · exact hr

theorem All.insertAll (h : All P t) {rs : List ρ} (hr : ∀ r ∈ rs, P r) :
    All P (t.insertAll rs) := by
  intro k r hk
  rcases t.get?_insertAll hk with hk | ⟨_, hm⟩
  · exact h k r hk
  · exact hr r hm

theorem All.mapRows (h : All P t) {f : Nat → ρ → ρ} (hf : ∀ k r, P r → P (f k r)) :
    All P (t.mapRows f) := by
  intro k r hk
  rw [get?_mapRows, Option.map_eq_some_iff] at hk
  obtain ⟨r', hk', rfl⟩ := hk
  exact hf k r' (h k r' hk')

theorem All.modify (h : All P t) {k : Nat} {f : ρ → ρ} (hf : ∀ r, P r → P (f r)) :
    All P (t.modify k f) :=
  h.mapRows fun i r hr => by split <;> [exact hf r hr; exact hr]

theorem All.erase (h : All P t) (k : Nat) : All P (t.erase k) :=
  fun i r hi => h i r (t.get?_erase.mp hi).1

end All

/-! ### Attributes that no two rows share -/

/-- No two rows have the same value of the attribute, where they have one. -/
def Distinct {κ : Type} (attr : ρ → Option κ) (t : Table ρ) : Prop :=
  ∀ k r k' r' x, t.get? k = some r → t.get? k' = some r' →
    attr r = some x → attr r' = some x → k = k'

section Distinct

variable {κ : Type} {attr : ρ → Option κ} {t}

theorem Distinct.empty : Distinct attr (empty : Table ρ) := by
  intro k r k' r' x h
  rw [get?_empty] at h
  cases h

/-- A row with a new value of the attribute keeps them distinct. -/
theorem Distinct.insert (h : Distinct attr t) {r : ρ}
    (hr : ∀ x, attr r = some x → ∀ k r', t.get? k = some r' → attr r' ≠ some x) :
    Distinct attr (t.insert r) := by
  intro k a k' a' x hk hk' ha ha'
  rcases t.get?_insert.mp hk with hold | ⟨hnext, rfl⟩ <;>
    rcases t.get?_insert.mp hk' with hold' | ⟨hnext', rfl⟩
  · exact h k a k' a' x hold hold' ha ha'
  · exact absurd ha (hr x ha' k a hold)
  · exact absurd ha' (hr x ha k' a' hold')
  · exact hnext.trans hnext'.symm

theorem Distinct.insertAll (h : Distinct attr t) {rs : List ρ} (hn : (rs.map attr).Nodup)
    (hr : ∀ r ∈ rs, ∀ x, attr r = some x → ∀ k r', t.get? k = some r' → attr r' ≠ some x) :
    Distinct attr (t.insertAll rs) := by
  induction rs generalizing t with
  | nil => exact h
  | cons r rs ih =>
    obtain ⟨hnot, hn⟩ := List.nodup_cons.mp hn
    refine ih (h.insert (hr r List.mem_cons_self)) hn fun r' hr' x hx k a hk => ?_
    rcases t.get?_insert.mp hk with hk | ⟨_, rfl⟩
    · exact hr r' (List.mem_cons_of_mem _ hr') x hx k a hk
    · intro ha
      exact hnot (List.mem_map.mpr ⟨r', hr', hx.trans ha.symm⟩)

theorem Distinct.mapRows (h : Distinct attr t) {f : Nat → ρ → ρ}
    (hf : ∀ k r, t.get? k = some r → attr (f k r) = attr r) : Distinct attr (t.mapRows f) := by
  intro k a k' a' x hk hk' ha ha'
  rw [get?_mapRows, Option.map_eq_some_iff] at hk hk'
  obtain ⟨r, hr, rfl⟩ := hk
  obtain ⟨r', hr', rfl⟩ := hk'
  exact h k r k' r' x hr hr' (hf k r hr ▸ ha) (hf k' r' hr' ▸ ha')

theorem Distinct.erase (h : Distinct attr t) (k : Nat) : Distinct attr (t.erase k) :=
  fun i r i' r' x hi hi' =>
    h i r i' r' x (t.get?_erase.mp hi).1 (t.get?_erase.mp hi').1

end Distinct

end Table

end Lib
