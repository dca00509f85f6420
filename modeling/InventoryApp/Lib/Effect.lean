import Mathlib.Tactic.Basic

/-!
# Programs with a state and traps

A program is an `EStateM τ σ α`: it runs on a state and either returns a value
or traps, and in both cases there is a state left behind.  That the trapping
outcome carries its state is the point: what a process had already saved when it
died is part of it.

The lemmas take a program apart at its first step.  `run_bind_ok` goes forward
when the outcome of the first step is known, `run_bind_eq_ok` goes backward from
an outcome of the whole, and `run_forM_ok` turns a loop whose body always
returns into a fold over the states; `foldlM_range` is for a loop that counts, in
any monad.  `final` is the state left behind, so that
a program can be run on a given state.

Three predicates follow an invariant `I` of the state through a program.
`Keeps I x` is for a program that always returns, and `Returns I Q x` says what
value it returns as well.  `Checks I e C Q x` is for one that checks its input
while it already works on the state: it says exactly when the program returns, and
that a trap leaves the invariant of the unfinished work.  Their rules compose them
through a sequence and a loop, so that the conditions of all the checks are
collected wherever they stand.
-/

namespace Lib

variable {τ σ α β : Type}

/-- The state a program leaves behind, returned or trapped. -/
def final (x : EStateM τ σ α) (s : σ) : σ :=
  match x.run s with
  | .ok _ t => t
  | .error _ t => t

theorem run_bind_ok {x : EStateM τ σ α} {f : α → EStateM τ σ β} {s t : σ} {a : α}
    (h : x.run s = .ok a t) : (x >>= f).run s = (f a).run t := by
  rw [EStateM.run_bind, h]

theorem run_bind_error {x : EStateM τ σ α} {f : α → EStateM τ σ β} {s t : σ} {e : τ}
    (h : x.run s = .error e t) : (x >>= f).run s = .error e t := by
  rw [EStateM.run_bind, h]

/-- A program has one outcome on a state. -/
theorem run_ok_inj {x : EStateM τ σ α} {s t t' : σ} {a a' : α} (h : x.run s = .ok a t)
    (h' : x.run s = .ok a' t') : a = a' ∧ t = t' := by
  have := h.symm.trans h'
  injection this with ha ht
  exact ⟨ha, ht⟩

/-- A sequence returns when its first step does and the rest then does. -/
theorem run_bind_eq_ok {x : EStateM τ σ α} {f : α → EStateM τ σ β} {s u : σ} {b : β} :
    (x >>= f).run s = .ok b u ↔ ∃ a t, x.run s = .ok a t ∧ (f a).run t = .ok b u := by
  cases h : x.run s with
  | ok a t =>
    rw [run_bind_ok h]
    constructor
    · intro hf; exact ⟨a, t, rfl, hf⟩
    · rintro ⟨a', t', he, hf⟩; cases he; exact hf
  | error e t =>
    rw [run_bind_error h]
    simp

/-- **A loop whose body always returns is a fold over the states.** -/
theorem run_forM_ok {f : β → EStateM τ σ PUnit} {g : σ → β → σ} {l : List β}
    (h : ∀ x ∈ l, ∀ s, (f x).run s = .ok ⟨⟩ (g s x)) (s : σ) :
    (forM l f).run s = .ok ⟨⟩ (l.foldl g s) := by
  induction l generalizing s with
  | nil => rfl
  | cons x l ih =>
    rw [List.forM_cons, run_bind_ok (h x List.mem_cons_self s), List.foldl_cons]
    exact ih (fun y hy => h y (List.mem_cons_of_mem x hy)) (g s x)

/-- A traversal that leaves the state as it is maps its list. -/
theorem run_mapM_ok {f : β → EStateM τ σ α} {g : β → α} {l : List β} {s : σ}
    (h : ∀ x ∈ l, (f x).run s = .ok (g x) s) : (l.mapM f).run s = .ok (l.map g) s := by
  induction l with
  | nil => rfl
  | cons x l ih =>
    rw [List.mapM_cons, run_bind_ok (h x List.mem_cons_self),
      run_bind_ok (ih fun y hy => h y (List.mem_cons_of_mem x hy))]
    rfl

/-- **A counting loop ends in the state that its body leads to** from each state to the next. -/
theorem foldlM_range {m : Type → Type} [Monad m] [LawfulMonad m] {f : σ → Nat → m σ}
    {state : Nat → σ} (h : ∀ i, f (state i) i = pure (state (i + 1))) (n : Nat) :
    (List.range n).foldlM f (state 0) = pure (state n) := by
  induction n with
  | zero => rfl
  | succ n ih =>
    rw [List.range_succ, List.foldlM_append, ih, pure_bind, List.foldlM_cons, h, pure_bind,
      List.foldlM_nil]

/-! ### Keeping an invariant -/

/-- From `I` the program returns, with `I` again. -/
def Keeps (I : σ → Prop) (x : EStateM τ σ α) : Prop :=
  ∀ s, I s → ∃ a t, x.run s = .ok a t ∧ I t

namespace Keeps

variable {I : σ → Prop}

theorem pure (a : α) : Keeps I (pure a : EStateM τ σ α) := fun s hs => ⟨a, s, rfl, hs⟩

theorem get : Keeps I (get : EStateM τ σ σ) := fun s hs => ⟨s, s, rfl, hs⟩

theorem bind {x : EStateM τ σ α} {f : α → EStateM τ σ β} (hx : Keeps I x)
    (hf : ∀ a, Keeps I (f a)) : Keeps I (x >>= f) := by
  intro s hs
  obtain ⟨a, t, hr, ht⟩ := hx s hs
  rw [run_bind_ok hr]
  exact hf a t ht

end Keeps

/-- From `I` the program returns a value in `Q`, with `I` again. -/
def Returns (I : σ → Prop) (Q : α → Prop) (x : EStateM τ σ α) : Prop :=
  ∀ s, I s → ∃ a t, x.run s = .ok a t ∧ I t ∧ Q a

namespace Returns

variable {I : σ → Prop} {Q Q' : α → Prop} {R : β → Prop}

theorem pure {a : α} (ha : Q a) : Returns I Q (pure a : EStateM τ σ α) :=
  fun s hs => ⟨a, s, rfl, hs, ha⟩

/-- The state that is read has the invariant. -/
theorem get : Returns I I (get : EStateM τ σ σ) := fun s hs => ⟨s, s, rfl, hs, hs⟩

theorem modify {f : σ → σ} (hf : ∀ s, I s → I (f s)) :
    Returns I (fun _ => True) (modify f : EStateM τ σ PUnit) :=
  fun s hs => ⟨⟨⟩, f s, rfl, hf s hs, trivial⟩

theorem bind {x : EStateM τ σ α} {f : α → EStateM τ σ β} (hx : Returns I Q x)
    (hf : ∀ a, Q a → Returns I R (f a)) : Returns I R (x >>= f) := by
  intro s hs
  obtain ⟨a, t, hr, ht, ha⟩ := hx s hs
  rw [run_bind_ok hr]
  exact hf a ha t ht

end Returns

/-! ### Checks on the way -/

/-- From `I` the program returns exactly if `C`, with `Q`; otherwise it traps with `e` under `I`. -/
def Checks (I : σ → Prop) (e : τ) (C : Prop) (Q : σ → Prop) (x : EStateM τ σ α) : Prop :=
  ∀ s, I s → (C ∧ ∃ a t, x.run s = .ok a t ∧ Q t) ∨ (¬ C ∧ ∃ t, x.run s = .error e t ∧ I t)

namespace Checks

variable {I Q : σ → Prop} {e : τ} {C D : Prop}

/-- A program that always returns checks nothing. -/
theorem of_run {x : EStateM τ σ α} (h : ∀ s, I s → ∃ a t, x.run s = .ok a t ∧ Q t) :
    Checks I e True Q x := fun s hs => Or.inl ⟨trivial, h s hs⟩

theorem congr {x : EStateM τ σ α} (h : Checks I e C Q x) (hiff : C ↔ D) : Checks I e D Q x :=
  propext hiff ▸ h

/-- **A sequence makes the checks of both its parts.** -/
theorem bind {x : EStateM τ σ α} {f : α → EStateM τ σ β} (hx : Checks I e C I x)
    (hf : ∀ a, Checks I e D Q (f a)) : Checks I e (C ∧ D) Q (x >>= f) := by
  intro s hs
  rcases hx s hs with ⟨hc, a, t, hr, ht⟩ | ⟨hc, t, hr, ht⟩
  · rw [run_bind_ok hr]
    rcases hf a t ht with ⟨hd, hok⟩ | ⟨hd, herror⟩
    · exact Or.inl ⟨⟨hc, hd⟩, hok⟩
    · exact Or.inr ⟨fun h => hd h.2, herror⟩
  · exact Or.inr ⟨fun h => hc h.1, t, run_bind_error hr, ht⟩

/-- A first step that always returns adds no check. -/
theorem step {x : EStateM τ σ α} {f : α → EStateM τ σ β} (hx : Keeps I x)
    (hf : ∀ a, Checks I e D Q (f a)) : Checks I e D Q (x >>= f) :=
  (bind (of_run hx) hf).congr (iff_of_eq (true_and D))

/-- **A loop makes the check of its body at every element.** -/
theorem forM {c : β → Prop} {f : β → EStateM τ σ PUnit} (hf : ∀ y, Checks I e (c y) I (f y))
    (l : List β) : Checks I e (∀ y ∈ l, c y) I (forM l f) := by
  induction l with
  | nil => exact (of_run fun s hs => ⟨⟨⟩, s, rfl, hs⟩).congr (by simp)
  | cons y l ih =>
    rw [List.forM_cons]
    exact (bind (hf y) fun _ => ih).congr List.forall_mem_cons.symm

end Checks

end Lib
