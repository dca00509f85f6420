import Mathlib.Data.List.Forall2
import InventoryApp.Lib.Run

/-!
# Simulations of runs

A system simulates another when each of its steps is matched by steps of the
other, under a relation `R` of their states.  `Matches a bs` says which labels may
stand for a label, so that one step can be matched by none, by one or by several,
and `Simulation.run` gives the run that matches a run, label by label.

`Rearranges I as bs` is for one system and two schedules: `bs` is `as` with
neighbours that are independent (`I`) changing places, any number of times.
`Run.rearrange` says when this cannot be seen: if two independent steps lead to
states that look the same in both orders, and states that look the same are
stepped from alike, then a rearranged schedule is a run again and leads to a state
that looks the same.

`Run.filter` is for one system and one party among its users: if a label of
another leaves what the party sees, and the party's own labels can be taken from
wherever it sees the same, then the run without the others' labels shows it the
same.
-/

namespace Lib

variable {σ τ α β : Type*} {step : σ → α → σ → Prop} {step' : τ → β → τ → Prop}

/-- Every step from related states is matched, by labels that may stand for its label. -/
def Simulation (step : σ → α → σ → Prop) (step' : τ → β → τ → Prop) (R : σ → τ → Prop)
    (Matches : α → List β → Prop) : Prop :=
  ∀ s r a t, R s r → step s a t → ∃ bs r', Matches a bs ∧ Run step' r bs r' ∧ R t r'

/-- **The simulation rule.**  Every run is matched by a run, label by label. -/
theorem Simulation.run {R : σ → τ → Prop} {Matches : α → List β → Prop}
    (h : Simulation step step' R Matches) {s t : σ} {r : τ} {as : List α}
    (hrun : Run step s as t) (hR : R s r) :
    ∃ bss r', List.Forall₂ Matches as bss ∧ Run step' r bss.flatten r' ∧ R t r' := by
  induction hrun generalizing r with
  | nil => exact ⟨[], r, .nil, .nil r, hR⟩
  | cons hstep _ ih =>
    obtain ⟨bs, m, hbs, hm, hRm⟩ := h _ _ _ _ hR hstep
    obtain ⟨bss, r', hbss, hr', hRr'⟩ := ih hRm
    exact ⟨bs :: bss, r', .cons hbs hbss, hm.append hr', hRr'⟩

/-! ### Labels of one party -/

/-- **The labels of others can be left out.**  `E` is what the party sees. -/
theorem Run.filter {step' : τ → α → τ → Prop} {E : σ → τ → Prop} {own : α → Prop}
    [DecidablePred own]
    (hown : ∀ s r a t, E s r → own a → step s a t → ∃ r', step' r a r' ∧ E t r')
    (hother : ∀ s r a t, E s r → ¬ own a → step s a t → E t r)
    {s t : σ} {r : τ} {as : List α} (hE : E s r) (hrun : Run step s as t) :
    ∃ r', Run step' r (as.filter own) r' ∧ E t r' := by
  induction hrun generalizing r with
  | nil => exact ⟨r, .nil r, hE⟩
  | @cons s m t a as hstep _ ih =>
    by_cases ha : own a
    · obtain ⟨r₁, hr₁, hE₁⟩ := hown s r a m hE ha hstep
      obtain ⟨r', hr', hE'⟩ := ih hE₁
      rw [List.filter_cons, if_pos (decide_eq_true ha)]
      exact ⟨r', .cons hr₁ hr', hE'⟩
    · rw [List.filter_cons, if_neg (by simpa using ha)]
      exact ih (hother s r a m hE ha hstep)

/-! ### Independent labels -/

/-- `bs` is `as` with independent neighbours changing places. -/
inductive Rearranges (I : α → α → Prop) (as : List α) : List α → Prop
  | refl : Rearranges I as as
  | swap {pre post : List α} {a b : α} :
      Rearranges I as (pre ++ a :: b :: post) → I a b → Rearranges I as (pre ++ b :: a :: post)

/-- From states that look the same, the same steps lead to states that look the same. -/
def StepsAlike (step : σ → α → σ → Prop) (E : σ → σ → Prop) : Prop :=
  ∀ s s' a t, E s s' → step s a t → ∃ t', step s' a t' ∧ E t t'

theorem StepsAlike.run {E : σ → σ → Prop} (h : StepsAlike step E) {s s' t : σ} {as : List α}
    (hE : E s s') (hrun : Run step s as t) : ∃ t', Run step s' as t' ∧ E t t' := by
  induction hrun generalizing s' with
  | nil => exact ⟨s', .nil s', hE⟩
  | cons hstep _ ih =>
    obtain ⟨m, hm, hEm⟩ := h _ _ _ _ hE hstep
    obtain ⟨t', ht', hEt⟩ := ih hEm
    exact ⟨t', .cons hm ht', hEt⟩

/-- **Independent steps may change places.**  `E` is what is seen of a state. -/
theorem Run.rearrange {I : α → α → Prop} {E : σ → σ → Prop} {Inv : σ → Prop}
    (hinv : ∀ s a t, Inv s → step s a t → Inv t) (hrefl : ∀ s, Inv s → E s s)
    (htrans : ∀ s t u, E s t → E t u → E s u) (halike : StepsAlike step E)
    (hswap : ∀ s a b t, Inv s → I a b → Run step s [a, b] t → ∃ t', Run step s [b, a] t' ∧ E t t')
    {s t : σ} {as bs : List α} (hs : Inv s) (h : Rearranges I as bs) (hrun : Run step s as t) :
    ∃ t', Run step s bs t' ∧ E t t' := by
  induction h with
  | refl => exact ⟨t, hrun, hrefl t (hrun.invariant Inv hinv hs)⟩
  | @swap pre post a b _ hI ih =>
    obtain ⟨t₁, hrun₁, hE₁⟩ := ih
    obtain ⟨m, hpre, hrest⟩ := Run.append_iff.mp hrun₁
    obtain ⟨n, hab, hpost⟩ := Run.append_iff.mp (show Run step m ([a, b] ++ post) t₁ from hrest)
    obtain ⟨n', hba, hE⟩ := hswap m a b n (hpre.invariant Inv hinv hs) hI hab
    obtain ⟨t', hpost', hE'⟩ := halike.run hE hpost
    exact ⟨t', hpre.append (hba.append hpost'), htrans _ _ _ hE₁ hE'⟩

end Lib
