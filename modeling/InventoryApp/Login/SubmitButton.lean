import InventoryApp.Login.VerificationCode

/-!
# The Submit button

Submit should be there exactly for a complete code.  The delegate brings the
button up to date before UIKit makes the change, so it may be wrong by one change,
and the refresh it schedules puts that right some time later; a backspace in an
empty box changes another one and schedules a refresh only.

`Settling` is what every action keeps: boxes with one Character at most, and a
button that is right unless a refresh is still to come.  It does not matter which
refresh fires first, since each looks at all boxes.

A complete code has six boxes of one Character each.  How many Characters it has
itself is another question, since joining the boxes can join Characters; it has
six where no box combines with the boxes before it.
-/

namespace InventoryApp

open Lib VerificationCodeViewController

variable {breaks : Breaks} (s : VerificationCodeViewController)

/-- One action on the verification screen. -/
def CodeStep (breaks : Breaks) (s : VerificationCodeViewController) (ev : CodeEvent)
    (s' : VerificationCodeViewController) : Prop :=
  s' = ev.handle breaks s

theorem codeStep_handle (breaks : Breaks) (s : VerificationCodeViewController) (ev : CodeEvent) :
    CodeStep breaks s ev (ev.handle breaks s) := rfl

/-- The code up to a box. -/
def VerificationCodeViewController.codeBefore (i : Fin 6) : Text :=
  (((List.finRange 6).map s.text).take i).flatten

theorem foldl_and (l : List Bool) (b : Bool) :
    l.foldl (· && ·) b = true ↔ b = true ∧ ∀ x ∈ l, x = true := by
  induction l generalizing b with
  | nil => simp
  | cons x l ih => rw [List.foldl_cons, ih, Bool.and_eq_true, List.forall_mem_cons, and_assoc]

theorem allFieldsFilled_iff : s.allFieldsFilled = true ↔ ∀ i, s.text i ≠ [] := by
  rw [allFieldsFilled, foldl_and]
  simp [List.isEmpty_iff]

/-- Boxes with one Character at most, and a button that is right or will be. -/
structure Settling (breaks : Breaks) (s : VerificationCodeViewController) : Prop where
  single : ∀ i, characterCount breaks (s.text i) ≤ 1
  button : ∃ item, s.rightBarButtonItem = some item ∧
    (item.isEnabled = s.allFieldsFilled ∨ s.pending ≠ [])

variable {s}

theorem settling_viewDidLoad : Settling breaks (viewDidLoad {}) where
  single _ := Nat.zero_le 1
  button := ⟨⟨"Submit", false⟩, rfl, Or.inl rfl⟩

/-- Bringing the button up to date settles it. -/
theorem Settling.update {s' : VerificationCodeViewController} (h : Settling breaks s)
    (htext : s'.text = s.text) (hitem : s'.rightBarButtonItem = s.rightBarButtonItem) :
    Settling breaks s'.updateRightBarButtonStatus where
  single i := by
    show characterCount breaks (s'.text i) ≤ 1
    rw [htext]
    exact h.single i
  button := by
    obtain ⟨item, hsome, _⟩ := h.button
    refine ⟨{ item with isEnabled := s'.allFieldsFilled }, ?_, Or.inl rfl⟩
    simp only [updateRightBarButtonStatus, hitem, hsome, Option.map_some]

/-- A change of a box leaves a refresh behind. -/
theorem settling_of_pending {s' : VerificationCodeViewController} {i : Fin 6} {u : Text}
    (h : Settling breaks s) (htext : s'.text = Function.update s.text i u)
    (hu : characterCount breaks u ≤ 1) (hpending : s'.pending ≠ [])
    (hitem : s'.rightBarButtonItem.isSome = s.rightBarButtonItem.isSome) : Settling breaks s' where
  single j := by
    rw [htext]
    by_cases hj : j = i
    · rw [hj, Function.update_self]
      exact hu
    · rw [Function.update_of_ne hj]
      exact h.single j
  button := by
    obtain ⟨item, hsome, _⟩ := h.button
    rw [hsome] at hitem
    obtain ⟨item', hsome'⟩ := Option.isSome_iff_exists.mp hitem
    exact ⟨item', hsome', Or.inr hpending⟩

theorem settling_changeCharacters (h : Settling breaks s) {i : Fin 6}
    (hfocus : s.firstResponder = some i) (range : NSRange) (string : Text) :
    Settling breaks (s.changeCharacters breaks i range string) := by
  cases hu : updatedText breaks (s.text i) range string with
  | none =>
    rw [changeCharacters_of_none s hu]
    exact h
  | some u =>
    by_cases hcount : characterCount breaks u > 1
    · rw [changeCharacters_refused s hu hcount]
      exact h.update rfl rfl
    · have hfields := fields_changeCharacters s hfocus hu hcount
      rw [fields, Prod.mk.injEq, Prod.mk.injEq] at hfields
      obtain ⟨htext, _, hpending⟩ := hfields
      refine settling_of_pending h htext (by omega) ?_ ?_
      · rw [hpending]
        exact List.append_ne_nil_of_right_ne_nil _ (List.cons_ne_nil i [])
      · exact isSome_rightBarButtonItem_changeCharacters s i range string

theorem settling_deleteBackward (h : Settling breaks s) {i : Fin 6}
    (hfocus : s.firstResponder = some i) (range : NSRange) :
    Settling breaks (s.deleteBackward breaks i range) := by
  by_cases hempty : s.text i = []
  · rw [deleteBackward_of_empty s hempty]
    cases viewWithTag i with
    | none => exact h
    | some j =>
      refine settling_of_pending h (text_setText s j []) (Nat.zero_le 1) ?_ rfl
      exact List.append_ne_nil_of_right_ne_nil _ (List.cons_ne_nil j [])
  · rw [deleteBackward_of_ne s hempty]
    exact settling_changeCharacters h hfocus range []

/-- **Every action keeps the screen settling.** -/
theorem Settling.step {s' : VerificationCodeViewController} {ev : CodeEvent}
    (h : Settling breaks s) (hstep : CodeStep breaks s ev s') : Settling breaks s' := by
  obtain rfl := hstep
  cases ev with
  | tap i => exact ⟨h.single, h.button⟩
  | change range string =>
    cases hfocus : s.firstResponder with
    | none => simpa only [CodeEvent.handle, hfocus] using h
    | some i =>
      simp only [CodeEvent.handle, hfocus]
      exact settling_changeCharacters h hfocus range string
  | backspace range =>
    cases hfocus : s.firstResponder with
    | none => simpa only [CodeEvent.handle, hfocus] using h
    | some i =>
      simp only [CodeEvent.handle, hfocus]
      exact settling_deleteBackward h hfocus range
  | refresh n =>
    cases hn : s.pending[n]? with
    | none => simpa only [CodeEvent.handle, refresh, hn] using h
    | some i =>
      simp only [CodeEvent.handle, refresh, hn]
      exact h.update (text_updateBorderColor _ i) rfl

/-! ### Complete codes -/

/-- Six boxes of one Character that do not combine make six Characters. -/
theorem characterCount_fullVerificationCode (hone : ∀ i, characterCount breaks (s.text i) = 1)
    (happart : ∀ i, Apart breaks (s.codeBefore i) (s.text i)) :
    characterCount breaks s.fullVerificationCode = 6 := by
  have hsum : (((List.finRange 6).map s.text).map (characterCount breaks)).sum = 6 := by
    rw [List.map_map, show characterCount breaks ∘ s.text = fun _ => 1 from funext hone]
    rfl
  rw [← hsum]
  refine characterCount_flatten breaks ?_
  intro pre t post hsplit
  -- the box at the seam is the one whose number is the number of boxes before it
  have hlt : pre.length < 6 := by
    have := congrArg List.length hsplit
    simp only [List.length_map, List.length_finRange, List.length_append, List.length_cons] at this
    omega
  have hpre : s.codeBefore ⟨pre.length, hlt⟩ = pre.flatten := by
    rw [codeBefore, hsplit, List.take_left]
  have htext : s.text ⟨pre.length, hlt⟩ = t := by
    have hget : ((List.finRange 6).map s.text)[pre.length]? = some t := by
      rw [hsplit, List.getElem?_append_right (Nat.le_refl _), Nat.sub_self]
      rfl
    rw [List.getElem?_map, List.getElem?_eq_getElem (by simpa using hlt), Option.map_some,
      List.getElem_finRange] at hget
    exact Option.some.inj hget
  rw [← hpre, ← htext]
  exact happart ⟨pre.length, hlt⟩

/-- **Submit is offered exactly for complete codes, once the screen is quiet.**
Along every sequence of actions and in whatever order the delayed refreshes fire,
each box has one Character at most; when no refresh is to come, the button is
enabled if and only if no box is empty; and then each box has exactly one
Character, and the code, their concatenation, has six where no box combines with
the boxes before it. -/
theorem submit_iff_filled {evs : List CodeEvent}
    (hrun : Run (CodeStep breaks) (viewDidLoad {}) evs s) :
    (∀ i, characterCount breaks (s.text i) ≤ 1) ∧
    (s.pending = [] → ∃ item, s.rightBarButtonItem = some item ∧
      (item.isEnabled = true ↔ ∀ i, s.text i ≠ [])) ∧
    ((∀ i, s.text i ≠ []) → (∀ i, characterCount breaks (s.text i) = 1) ∧
      ((∀ i, Apart breaks (s.codeBefore i) (s.text i)) →
        characterCount breaks s.fullVerificationCode = 6)) := by
  have h : Settling breaks s := hrun.invariant (Settling breaks)
    (fun _ _ _ hs hstep => hs.step hstep) settling_viewDidLoad
  refine ⟨h.single, ?_, ?_⟩
  · intro hquiet
    obtain ⟨item, hitem, hbutton⟩ := h.button
    refine ⟨item, hitem, ?_⟩
    rw [hbutton.resolve_right (not_not.mpr hquiet)]
    exact allFieldsFilled_iff s
  · intro hfilled
    have hone : ∀ i, characterCount breaks (s.text i) = 1 := by
      intro i
      have hle := h.single i
      have hne := mt (characterCount_eq_zero breaks).mp (hfilled i)
      omega
    exact ⟨hone, characterCount_fullVerificationCode hone⟩

/-- A mark above the digit before it: the boundaries of digits and combining marks. -/
def markBreaks (_ : Text) (next : Char) : Bool := !(0x300 ≤ next.toNat && next.toNat ≤ 0x36F)

/-- Six digits are typed, and the refreshes fire, the last one first. -/
theorem submit_iff_filled_digits :
    let evs : List CodeEvent := [.change ⟨0, 0⟩ ['1'], .change ⟨0, 0⟩ ['2'], .change ⟨0, 0⟩ ['3'],
      .change ⟨0, 0⟩ ['4'], .change ⟨0, 0⟩ ['5'], .change ⟨0, 0⟩ ['6'], .refresh 5, .refresh 0,
      .refresh 0, .refresh 0, .refresh 0, .refresh 0]
    let s := evs.foldl (CodeEvent.handle markBreaks) (viewDidLoad {})
    (∃ item, s.rightBarButtonItem = some item ∧ item.isEnabled = true) ∧
      characterCount markBreaks s.fullVerificationCode = 6 := by
  intro evs s
  have hfilled : ∀ i, s.text i ≠ [] := by decide
  have hrun : Run (CodeStep markBreaks) (viewDidLoad {}) evs s :=
    Run.of_foldl (codeStep_handle markBreaks) (viewDidLoad {}) evs
  obtain ⟨_, hbutton, hcode⟩ := submit_iff_filled hrun
  obtain ⟨item, hitem, henabled⟩ := hbutton (by decide)
  refine ⟨⟨item, hitem, henabled.mpr hfilled⟩, (hcode hfilled).2 fun i => ?_⟩
  refine apart_of_breaks markBreaks ?_
  have hdigits : ∀ i, (s.text i).all (markBreaks []) = true := by decide
  exact fun c hc _ => List.all_eq_true.mp (hdigits i) c hc

/-- A digit and a mark in the box after it: Submit is enabled, no box is empty, and
the code has five Characters. -/
theorem filled_not_six :
    let mark : Text := [Char.ofNat 0x301]
    let evs : List CodeEvent := [.change ⟨0, 0⟩ ['1'], .change ⟨0, 0⟩ mark, .change ⟨0, 0⟩ ['3'],
      .change ⟨0, 0⟩ ['4'], .change ⟨0, 0⟩ ['5'], .change ⟨0, 0⟩ ['6'], .refresh 0, .refresh 0,
      .refresh 0, .refresh 0, .refresh 0, .refresh 0]
    (∃ s, Run (CodeStep markBreaks) (viewDidLoad {}) evs s ∧ s.pending = [] ∧
      s.rightBarButtonItem = some ⟨"Submit", true⟩ ∧ (∀ i, s.text i ≠ []) ∧
      characterCount markBreaks s.fullVerificationCode = 5) ∧
    ¬ ∀ evs s, Run (CodeStep markBreaks) (viewDidLoad {}) evs s → s.pending = [] →
      (∀ i, s.text i ≠ []) → characterCount markBreaks s.fullVerificationCode = 6 := by
  intro mark evs
  have hrun : Run (CodeStep markBreaks) (viewDidLoad {}) evs
      (evs.foldl (CodeEvent.handle markBreaks) (viewDidLoad {})) :=
    Run.of_foldl (codeStep_handle markBreaks) (viewDidLoad {}) evs
  refine ⟨⟨_, hrun, by decide, by decide, by decide, by decide⟩, ?_⟩
  intro hall
  exact absurd (hall evs _ hrun (by decide) (by decide)) (by decide)

end InventoryApp
