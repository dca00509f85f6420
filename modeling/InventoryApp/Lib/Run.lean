import Mathlib.Tactic.TypeStar

/-!
# Runs of a step relation

A system is a type of states and a relation `step s a t`: from `s` the label
`a` can lead to `t`.  A label is whatever the outside chooses at one step, an
operation with its arguments or an event with its outcome, so a list of labels
is a schedule and `Run step s as t` says the schedule `as` can take `s` to `t`.

Two rules carry the inductions.  `Run.invariant` is the rule for states: what
one step keeps, every run keeps; `Run.history` is the same with the labels so far.
`Always step P s as` is the rule for steps: `P` holds of every step that any run
along `as` takes.  `always_iff_always` compares two step properties along one
schedule: if under an invariant they say the same of one step, and the second one
keeps the invariant, they say the same of every schedule; `always_iff_forall` is
the case where the second property is a condition on the label.  `Succeeds` adds
to `Always` that no step is stuck.
-/

namespace Lib

variable {σ α : Type*} {step : σ → α → σ → Prop}

/-- `Run step s as t`: the labels `as`, taken in order, can lead from `s` to `t`. -/
inductive Run (step : σ → α → σ → Prop) : σ → List α → σ → Prop
  | nil (s : σ) : Run step s [] s
  | cons {s t u : σ} {a : α} {as : List α} :
      step s a t → Run step t as u → Run step s (a :: as) u

/-- The states some schedule leads to. -/
def Reachable (step : σ → α → σ → Prop) (init s : σ) : Prop := ∃ as, Run step init as s

namespace Run

theorem append {s t u : σ} {as bs : List α} (h : Run step s as t) (g : Run step t bs u) :
    Run step s (as ++ bs) u := by
  induction h with
  | nil => exact g
  | cons hs _ ih => exact .cons hs (ih g)

theorem nil_iff {s t : σ} : Run step s [] t ↔ t = s := by
  constructor
  · intro h; cases h; rfl
  · rintro rfl; exact .nil _

theorem cons_iff {s u : σ} {a : α} {as : List α} :
    Run step s (a :: as) u ↔ ∃ t, step s a t ∧ Run step t as u := by
  constructor
  · intro h; cases h with | cons hs hr => exact ⟨_, hs, hr⟩
  · rintro ⟨t, hs, hr⟩; exact .cons hs hr

/-- A run along a concatenation passes through a middle state. -/
theorem append_iff {s u : σ} {as bs : List α} :
    Run step s (as ++ bs) u ↔ ∃ t, Run step s as t ∧ Run step t bs u := by
  constructor
  · induction as generalizing s with
    | nil => intro h; exact ⟨s, .nil s, h⟩
    | cons a as ih =>
      intro h
      obtain ⟨t, hs, hr⟩ := cons_iff.mp h
      obtain ⟨m, h1, h2⟩ := ih hr
      exact ⟨m, .cons hs h1, h2⟩
  · rintro ⟨t, h1, h2⟩; exact h1.append h2

/-- A relation that allows fewer steps has fewer runs. -/
theorem mono {step' : σ → α → σ → Prop} (hstep : ∀ s a t, step s a t → step' s a t)
    {s t : σ} {as : List α} (h : Run step s as t) : Run step' s as t := by
  induction h with
  | nil => exact .nil _
  | cons hs _ ih => exact .cons (hstep _ _ _ hs) ih

/-- What is known of the labels is known at each step. -/
theorem and_label {P : α → Prop} {s t : σ} {as : List α} (h : Run step s as t)
    (hP : ∀ a ∈ as, P a) : Run (fun s a t => P a ∧ step s a t) s as t := by
  induction h with
  | nil => exact .nil _
  | cons hs _ ih =>
    rw [List.forall_mem_cons] at hP
    exact .cons ⟨hP.1, hs⟩ (ih hP.2)

/-- A step that is a function runs along every list. -/
theorem of_foldl {f : σ → α → σ} (hstep : ∀ s a, step s a (f s a)) (s : σ) (as : List α) :
    Run step s as (as.foldl f s) := by
  induction as generalizing s with
  | nil => exact .nil s
  | cons a as ih => exact .cons (hstep s a) (ih (f s a))

/-- When each step has one outcome, each run has. -/
theorem deterministic (hdet : ∀ s a t t', step s a t → step s a t' → t = t')
    {s t t' : σ} {as : List α} (h : Run step s as t) (h' : Run step s as t') : t = t' := by
  induction h with
  | nil => exact (nil_iff.mp h').symm
  | cons hs _ ih =>
    obtain ⟨m, hm, hr⟩ := cons_iff.mp h'
    obtain rfl := hdet _ _ _ _ hs hm
    exact ih hr

/-- **The invariant rule.**  What every step keeps, every run keeps. -/
theorem invariant (Inv : σ → Prop) (hstep : ∀ s a t, Inv s → step s a t → Inv t)
    {s t : σ} {as : List α} (h : Run step s as t) (hs : Inv s) : Inv t := by
  induction h with
  | nil => exact hs
  | cons hst _ ih => exact ih (hstep _ _ _ hs hst)

/-- **The invariant rule with a history.**  What every step keeps of the state and
the labels so far, every run keeps. -/
theorem history (Inv : List α → σ → Prop)
    (hstep : ∀ as s a t, Inv as s → step s a t → Inv (as ++ [a]) t)
    {s t : σ} {as : List α} (h : Run step s as t) (hs : Inv [] s) : Inv as t := by
  suffices ∀ {s t as} pre, Run step s as t → Inv pre s → Inv (pre ++ as) t from this [] h hs
  intro s t as pre h hs
  induction h generalizing pre with
  | nil => rwa [List.append_nil]
  | @cons s m t a as hst _ ih =>
    have hrest := ih (pre ++ [a]) (hstep pre s a m hs hst)
    rwa [List.append_assoc, List.singleton_append] at hrest

end Run

/-- `P` holds of every step that a run along `as` can take from `s`. -/
def Always (step : σ → α → σ → Prop) (P : σ → α → σ → Prop) : σ → List α → Prop
  | _, [] => True
  | s, a :: as => ∀ t, step s a t → P s a t ∧ Always step P t as

/-- **Two step properties that agree under an invariant agree along every
schedule**, when the second one is what keeps the invariant. -/
theorem always_iff_always {P C : σ → α → σ → Prop} (Inv : σ → Prop)
    (hiff : ∀ s a t, Inv s → step s a t → (P s a t ↔ C s a t))
    (hkeep : ∀ s a t, Inv s → step s a t → C s a t → Inv t) {s : σ} (hs : Inv s) (as : List α) :
    Always step P s as ↔ Always step C s as := by
  induction as generalizing s with
  | nil => exact Iff.rfl
  | cons a as ih =>
    constructor
    · intro h t ht
      obtain ⟨hp, hr⟩ := h t ht
      have hc := (hiff s a t hs ht).mp hp
      exact ⟨hc, (ih (hkeep s a t hs ht hc)).mp hr⟩
    · intro h t ht
      obtain ⟨hc, hr⟩ := h t ht
      exact ⟨(hiff s a t hs ht).mpr hc, (ih (hkeep s a t hs ht hc)).mpr hr⟩

/-- **A step property that is a condition on the label alone holds along a
schedule exactly when every label meets it**, where steps exist and the condition
keeps the invariant. -/
theorem always_iff_forall {P : σ → α → σ → Prop} {D : α → Prop} (Inv : σ → Prop)
    (hstep : ∀ s a, Inv s → ∃ t, step s a t)
    (hiff : ∀ s a t, Inv s → step s a t → (P s a t ↔ D a))
    (hkeep : ∀ s a t, Inv s → step s a t → D a → Inv t) {s : σ} (hs : Inv s) (as : List α) :
    Always step P s as ↔ ∀ a ∈ as, D a := by
  induction as generalizing s with
  | nil => simp [Always]
  | cons a as ih =>
    rw [List.forall_mem_cons]
    constructor
    · intro h
      obtain ⟨t, ht⟩ := hstep s a hs
      obtain ⟨hp, hr⟩ := h t ht
      have hd := (hiff s a t hs ht).mp hp
      exact ⟨hd, (ih (hkeep s a t hs ht hd)).mp hr⟩
    · rintro ⟨hd, hr⟩ t ht
      exact ⟨(hiff s a t hs ht).mpr hd, (ih (hkeep s a t hs ht hd)).mpr hr⟩

/-- Along `as` every step can be taken, and `P` holds of each that is. -/
def Succeeds (step : σ → α → σ → Prop) (P : σ → α → σ → Prop) : σ → List α → Prop
  | _, [] => True
  | s, a :: as => (∃ t, step s a t) ∧ ∀ t, step s a t → P s a t ∧ Succeeds step P t as

/-- **A schedule succeeds when `P` always holds**, where `P` keeps an invariant
under which steps exist. -/
theorem succeeds_iff_always {P : σ → α → σ → Prop} (Inv : σ → Prop)
    (hstep : ∀ s a, Inv s → ∃ t, step s a t)
    (hkeep : ∀ s a t, Inv s → step s a t → P s a t → Inv t) {s : σ} (hs : Inv s) (as : List α) :
    Succeeds step P s as ↔ Always step P s as := by
  induction as generalizing s with
  | nil => exact Iff.rfl
  | cons a as ih =>
    constructor
    · rintro ⟨_, h⟩ t ht
      obtain ⟨hp, hr⟩ := h t ht
      exact ⟨hp, (ih (hkeep s a t hs ht hp)).mp hr⟩
    · intro h
      refine ⟨hstep s a hs, ?_⟩
      intro t ht
      obtain ⟨hp, hr⟩ := h t ht
      exact ⟨hp, (ih (hkeep s a t hs ht hp)).mpr hr⟩

end Lib
