import InventoryApp.Login.SubmitButton

/-!
# The borders of the boxes

The border of a box should be green when the box is filled.  UIKit reports a change
that it makes itself, and the border follows at once; but a backspace in an empty box
clears the box before it without a report, and only the refresh that is scheduled
then puts that border right.

`Bordered` is what every action keeps: a border is right, or a refresh of its own box
is still to come.  A refresh changes nothing that it does not put right, so all
screens on the way of the refreshes have one `settled` screen (`settled_refresh`), and
in whatever order they fire, this is where they lead.
-/

namespace InventoryApp

open Lib VerificationCodeViewController

variable {breaks : Breaks}

namespace VerificationCodeViewController

variable (s : VerificationCodeViewController)

def borderColor (i : Fin 6) : UIColor := (s.codeTextFields i).borderColor

/-- The colour of a border around a text. -/
def colorOf (text : Text) : UIColor := if text.isEmpty then .systemGray else .systemGreen

/-- The screen when no refresh is to come. -/
def settled : VerificationCodeViewController where
  codeTextFields i := ⟨s.text i, colorOf (s.text i)⟩
  firstResponder := s.firstResponder
  rightBarButtonItem :=
    s.rightBarButtonItem.map (fun item => { item with isEnabled := s.allFieldsFilled })

/-- A border is right, or will be. -/
def Bordered : Prop := ∀ i, s.borderColor i = colorOf (s.text i) ∨ i ∈ s.pending

variable {s}

/-! ### What each part of an action makes of the borders -/

@[simp] theorem borderColor_setText (i : Fin 6) (t : Text) :
    (s.setText i t).borderColor = s.borderColor := by
  funext j
  refine (Function.apply_update (fun _ field => field.borderColor) s.codeTextFields i _ j).trans ?_
  exact congrFun (Function.update_eq_self i s.borderColor) j

theorem borderColor_updateBorderColor (i : Fin 6) :
    (s.updateBorderColor i).borderColor =
      Function.update s.borderColor i (colorOf (s.text i)) := by
  funext j
  exact Function.apply_update (fun _ field => field.borderColor) s.codeTextFields i _ j

/-- The border of a box that UIKit changes follows. -/
theorem borderColor_changeCharacters {i : Fin 6} {range : NSRange} {string u : Text}
    (h : updatedText breaks (s.text i) range string = some u)
    (hcount : ¬ characterCount breaks u > 1) :
    (s.changeCharacters breaks i range string).borderColor =
      Function.update s.borderColor i (colorOf u) := by
  simp only [changeCharacters, shouldChangeCharactersIn, h, if_neg hcount, textFieldDidChange]
  rw [borderColor_updateBorderColor, borderColor_setText, text_setText, Function.update_self]
  refine congrArg (fun color : Fin 6 → UIColor => Function.update color i (colorOf u)) ?_
  show borderColor (if _ then _ else s) = _
  by_cases hstring : (!string.isEmpty) = true
  · rw [if_pos hstring]
    by_cases htag : tag i = 6
    · rw [if_pos htag, resignFirstResponder]
      split <;> exact borderColor_setText i string
    · rw [if_neg htag]
      split <;> exact borderColor_setText i string
  · rw [if_neg hstring]

/-! ### Actions -/

theorem bordered_viewDidLoad : (viewDidLoad {}).Bordered := fun _ => Or.inl rfl

theorem Bordered.changeCharacters (h : s.Bordered) {i : Fin 6} (hfocus : s.firstResponder = some i)
    (range : NSRange) (string : Text) : (s.changeCharacters breaks i range string).Bordered := by
  cases hu : updatedText breaks (s.text i) range string with
  | none =>
    rw [changeCharacters_of_none s hu]
    exact h
  | some u =>
    by_cases hcount : characterCount breaks u > 1
    · rw [changeCharacters_refused s hu hcount]
      exact h
    · have hfields := fields_changeCharacters s hfocus hu hcount
      rw [fields, Prod.mk.injEq, Prod.mk.injEq] at hfields
      obtain ⟨htext, _, hpending⟩ := hfields
      intro j
      rw [borderColor_changeCharacters hu hcount, htext, hpending]
      by_cases hj : j = i
      · rw [hj, Function.update_self, Function.update_self]
        exact Or.inl rfl
      · rw [Function.update_of_ne hj, Function.update_of_ne hj]
        exact (h j).imp_right (List.mem_append_left [i])

theorem Bordered.deleteBackward (h : s.Bordered) {i : Fin 6} (hfocus : s.firstResponder = some i)
    (range : NSRange) : (s.deleteBackward breaks i range).Bordered := by
  by_cases hempty : s.text i = []
  · rw [deleteBackward_of_empty s hempty]
    cases viewWithTag i with
    | none => exact h
    | some j =>
      -- the box before is cleared, and its border waits for the refresh
      show Bordered ((s.setText j []).asyncAfter j)
      intro k
      show (s.setText j []).borderColor k = colorOf ((s.setText j []).text k) ∨
        k ∈ s.pending ++ [j]
      by_cases hk : k = j
      · exact Or.inr (hk ▸ List.mem_append_right s.pending (List.mem_singleton_self k))
      · rw [borderColor_setText, text_setText, Function.update_of_ne hk]
        exact (h k).imp_right (List.mem_append_left [j])
  · rw [deleteBackward_of_ne s hempty]
    exact h.changeCharacters hfocus range []

theorem Bordered.refresh (h : s.Bordered) (n : Nat) : (s.refresh n).Bordered := by
  cases hn : s.pending[n]? with
  | none => simpa only [VerificationCodeViewController.refresh, hn] using h
  | some i =>
    simp only [VerificationCodeViewController.refresh, hn]
    let s₀ : VerificationCodeViewController := { s with pending := s.pending.eraseIdx n }
    intro j
    show (s₀.updateBorderColor i).borderColor j = colorOf ((s₀.updateBorderColor i).text j) ∨
      j ∈ s.pending.eraseIdx n
    rw [borderColor_updateBorderColor, text_updateBorderColor]
    by_cases hj : j = i
    · rw [hj, Function.update_self]
      exact Or.inl rfl
    · rw [Function.update_of_ne hj]
      refine (h j).imp_right fun hmem => ?_
      -- what fires is not the refresh of this box
      obtain ⟨m, hm⟩ := List.mem_iff_getElem?.mp hmem
      refine List.mem_eraseIdx_iff_getElem?.mpr ⟨m, fun he => ?_, hm⟩
      rw [he, hn] at hm
      exact hj (Option.some.inj hm).symm

/-- **Every action keeps the borders right**, or a refresh to come. -/
theorem Bordered.step {s' : VerificationCodeViewController} {ev : CodeEvent} (h : s.Bordered)
    (hstep : CodeStep breaks s ev s') : s'.Bordered := by
  obtain rfl := hstep
  cases ev with
  | tap i => exact h
  | change range string =>
    cases hfocus : s.firstResponder with
    | none => simpa only [CodeEvent.handle, hfocus] using h
    | some i =>
      simp only [CodeEvent.handle, hfocus]
      exact h.changeCharacters hfocus range string
  | backspace range =>
    cases hfocus : s.firstResponder with
    | none => simpa only [CodeEvent.handle, hfocus] using h
    | some i =>
      simp only [CodeEvent.handle, hfocus]
      exact h.deleteBackward hfocus range
  | refresh n => exact h.refresh n

/-! ### Refreshes -/

/-- **A refresh leaves where the screen settles.** -/
theorem settled_refresh (s : VerificationCodeViewController) (n : Nat) :
    (s.refresh n).settled = s.settled := by
  obtain ⟨htext, hfocus⟩ := fields_refresh_text s n
  have hfilled : (s.refresh n).allFieldsFilled = s.allFieldsFilled := by
    rw [allFieldsFilled, htext, allFieldsFilled]
  have hitem : (s.refresh n).settled.rightBarButtonItem = s.settled.rightBarButtonItem := by
    show (s.refresh n).rightBarButtonItem.map _ = s.rightBarButtonItem.map _
    rw [hfilled]
    unfold refresh
    cases s.pending[n]? with
    | none => rfl
    | some i => exact Option.map_map _ _ _
  rw [settled, htext, hfocus]
  exact congrArg (VerificationCodeViewController.mk _ _ · []) hitem

theorem settled_run {ns : List Nat} {s' : VerificationCodeViewController}
    (h : Run (CodeStep breaks) s (ns.map .refresh) s') : s'.settled = s.settled := by
  induction ns generalizing s with
  | nil => rw [Run.nil_iff.mp h]
  | cons n ns ih =>
    obtain ⟨m, rfl, hrest⟩ := Run.cons_iff.mp h
    exact (ih hrest).trans (settled_refresh s n)

/-- A screen without refreshes to come is settled. -/
theorem settled_of_quiet (h : Settling breaks s) (hborders : s.Bordered) (hquiet : s.pending = []) :
    s.settled = s := by
  have hfields : s.settled.codeTextFields = s.codeTextFields := by
    funext i
    have hcolor : s.borderColor i = colorOf (s.text i) := by
      refine (hborders i).resolve_right ?_
      rw [hquiet]
      exact List.not_mem_nil
    exact congrArg (CodeTextField.mk (s.text i)) hcolor.symm
  have hitem : s.settled.rightBarButtonItem = s.rightBarButtonItem := by
    obtain ⟨item, hsome, hbutton⟩ := h.button
    show s.rightBarButtonItem.map _ = _
    rw [hsome, Option.map_some, ← hbutton.resolve_right (not_not.mpr hquiet)]
  calc s.settled
      = ⟨s.settled.codeTextFields, s.firstResponder, s.settled.rightBarButtonItem, []⟩ := rfl
    _ = s := by rw [hfields, hitem, ← hquiet]

/-- As many refreshes as there are to come leave none. -/
theorem pending_refreshes {ns : List Nat} (hlength : ns.length = s.pending.length)
    (hfires : ∀ k (hk : k < ns.length), ns[k] < s.pending.length - k) :
    (ns.foldl VerificationCodeViewController.refresh s).pending = [] := by
  induction ns generalizing s with
  | nil => exact List.length_eq_zero_iff.mp hlength.symm
  | cons n ns ih =>
    have hn : n < s.pending.length := hfires 0 (Nat.succ_pos _)
    have hpending : (s.refresh n).pending = s.pending.eraseIdx n := by
      simp only [VerificationCodeViewController.refresh, List.getElem?_eq_getElem hn]
      rfl
    have hleft : (s.refresh n).pending.length = s.pending.length - 1 := by
      rw [hpending, List.length_eraseIdx_of_lt hn]
    rw [List.length_cons] at hlength
    refine ih (by omega) fun k hk => ?_
    have hnext : ns[k] < s.pending.length - (k + 1) := hfires (k + 1) (Nat.succ_lt_succ hk)
    omega

end VerificationCodeViewController

/-- **In whatever order the refreshes fire, the screen comes to rest the same.**
Along every sequence of actions and refreshes, a border that is not the colour of its
box has a refresh of that box to come, and so has a Submit button that is wrong: a
screen with none to come is settled.  When those to come fire, each once and in any
order, the screen is the settled one, with the texts and the focus as they were. -/
theorem borders_settle {evs : List CodeEvent} {s : VerificationCodeViewController}
    (hrun : Run (CodeStep breaks) (viewDidLoad {}) evs s) :
    (∀ i, s.borderColor i ≠ colorOf (s.text i) → i ∈ s.pending) ∧
    (s.pending = [] → s = s.settled) ∧
    ∀ ns : List Nat, ns.length = s.pending.length →
      (∀ k (hk : k < ns.length), ns[k] < s.pending.length - k) →
      Run (CodeStep breaks) s (ns.map .refresh) s.settled := by
  have hstep : ∀ s ev s', (Settling breaks s ∧ s.Bordered) → CodeStep breaks s ev s' →
      Settling breaks s' ∧ s'.Bordered :=
    fun _ _ _ h hstep => ⟨h.1.step hstep, h.2.step hstep⟩
  have hinit : Settling breaks (viewDidLoad {}) ∧ (viewDidLoad {}).Bordered :=
    ⟨settling_viewDidLoad, bordered_viewDidLoad⟩
  obtain ⟨hsettling, hborders⟩ := hrun.invariant _ hstep hinit
  refine ⟨fun i hi => (hborders i).resolve_left hi,
    fun hquiet => (settled_of_quiet hsettling hborders hquiet).symm, ?_⟩
  intro ns hlength hfires
  have hrefreshes : Run (CodeStep breaks) s (ns.map .refresh)
      ((ns.map .refresh).foldl (CodeEvent.handle breaks) s) :=
    Run.of_foldl (codeStep_handle breaks) s _
  have hquiet := pending_refreshes hlength hfires
  have hend := hrefreshes.invariant _ hstep ⟨hsettling, hborders⟩
  rw [List.foldl_map] at hrefreshes hend
  have hrest := settled_of_quiet hend.1 hend.2 hquiet
  rw [settled_run hrefreshes] at hrest
  rw [hrest]
  exact hrefreshes

/-- Two digits and two backspaces, and the refreshes fire, the last one first. -/
theorem borders_settle_backspaces :
    let evs : List CodeEvent := [.change ⟨0, 0⟩ ['1'], .change ⟨0, 0⟩ ['2'], .backspace ⟨0, 1⟩,
      .backspace ⟨0, 1⟩]
    let s := evs.foldl (CodeEvent.handle markBreaks) (viewDidLoad {})
    s.borderColor 0 = .systemGreen ∧ s.text 0 = [] ∧
      Run (CodeStep markBreaks) s [.refresh 3, .refresh 2, .refresh 1, .refresh 0] s.settled ∧
      s.settled.borderColor 0 = .systemGray := by
  intro evs s
  have hrun : Run (CodeStep markBreaks) (viewDidLoad {}) evs s :=
    Run.of_foldl (codeStep_handle markBreaks) (viewDidLoad {}) evs
  obtain ⟨_, _, hsettle⟩ := borders_settle hrun
  refine ⟨by decide, by decide, ?_, by decide⟩
  exact hsettle [3, 2, 1, 0] (by decide) (by decide)

end InventoryApp
