import Mathlib.Data.List.TakeWhile

/-!
# Two runs side by side

A deterministic system is a function `next` from a state and a label to a state,
and what is seen of it is a function `view` of the state.  `views next view s as`
is what is seen on the way when the labels `as` are taken from `s`.  Two states
that cannot be told apart have the same views along every list of labels.

`Bisimulation.views_eq` proves that from a relation which the steps keep.
`views_eq_iff` is for states that can be told apart, but only for a while: as
long as no label *settles* the difference, a label either shows it or keeps it.
Then the views agree exactly along the lists in which no label shows the
difference before one settles it.
-/

namespace Lib

variable {σ α ω : Type*} {next : σ → α → σ} {view : σ → ω}

/-- What is seen of `s` and of each state after it. -/
def views (next : σ → α → σ) (view : σ → ω) : σ → List α → List ω
  | s, [] => [view s]
  | s, a :: as => view s :: views next view (next s a) as

/-- Related states look the same, and stay related. -/
structure Bisimulation (next : σ → α → σ) (view : σ → ω) (R : σ → σ → Prop) : Prop where
  view_eq : ∀ {s t}, R s t → view s = view t
  step : ∀ {s t} a, R s t → R (next s a) (next t a)

theorem Bisimulation.views_eq {R : σ → σ → Prop} (hR : Bisimulation next view R) {s t : σ}
    (h : R s t) (as : List α) : views next view s as = views next view t as := by
  induction as generalizing s t with
  | nil => rw [views, views, hR.view_eq h]
  | cons a as ih => rw [views, views, hR.view_eq h, ih (hR.step a h)]

theorem head?_views (s : σ) (as : List α) : (views next view s as).head? = some (view s) := by
  cases as <;> rfl

/-- Views that agree begin with the same view. -/
theorem view_eq_of_views_eq {s t : σ} {as : List α}
    (h : views next view s as = views next view t as) : view s = view t := by
  have hhead := congrArg List.head? h
  rw [head?_views, head?_views] at hhead
  exact Option.some.inj hhead

/-- **A difference that shows unless it is settled first.** -/
theorem views_eq_iff {E R : σ → σ → Prop} {settles : α → Bool} {shows : α → Prop}
    (hE : Bisimulation next view E) (hview : ∀ {s t}, R s t → view s = view t)
    (hsettles : ∀ {s t} a, R s t → settles a = true → E (next s a) (next t a))
    (hshows : ∀ {s t} a, R s t → settles a = false → shows a →
      view (next s a) ≠ view (next t a))
    (hkeeps : ∀ {s t} a, R s t → settles a = false → ¬ shows a → R (next s a) (next t a))
    {s t : σ} (h : R s t) (as : List α) :
    views next view s as = views next view t as ↔
      ∀ a ∈ as.takeWhile (fun a => !settles a), ¬ shows a := by
  induction as generalizing s t with
  | nil => simp [views, hview h]
  | cons a as ih =>
    rw [views, views, hview h, List.cons_inj_right]
    cases ha : settles a with
    | true => simp [ha, hE.views_eq (hsettles a h ha) as]
    | false =>
      rw [List.takeWhile_cons_of_pos (by simp [ha]), List.forall_mem_cons]
      by_cases hs : shows a
      · refine iff_of_false (fun hv => ?_) (fun hall => hall.1 hs)
        exact hshows a h ha hs (view_eq_of_views_eq hv)
      · rw [ih (hkeeps a h ha hs), and_iff_right hs]

end Lib
