import InventoryApp.Model
import InventoryApp.Lib.Run
import InventoryApp.Lib.Text

/-!
# The six code boxes

A `VerificationCodeViewController` has six text fields with tags 1 to 6 and a
Submit button in its navigation bar.  UIKit asks its delegate before it changes
the text of a field; the delegate refuses a change that leaves more than one
Character, moves the focus on when something was typed, and brings the button up
to date, before the change is made.  So it schedules a second update, and these
delayed refreshes are `pending`.  A backspace in an empty field is passed on as
well, and empties the field before.

What UIKit adds is in `changeCharacters` and `deleteBackward`: a change that the
delegate allows gives the field `updatedText`, one that it refuses leaves the
field alone, and a backspace in an empty field changes no text by itself.  Where
a Character starts is `breaks`.
-/

namespace InventoryApp

open Lib

structure CodeTextField where
  text : Text := []
  borderColor : UIColor := .systemGray
  deriving DecidableEq, Repr

structure UIBarButtonItem where
  title : String
  isEnabled : Bool
  deriving DecidableEq, Repr

/-- `pending` names the field of each scheduled refresh, oldest first. -/
structure VerificationCodeViewController where
  codeTextFields : Fin 6 → CodeTextField := fun _ => {}
  firstResponder : Option (Fin 6) := none
  rightBarButtonItem : Option UIBarButtonItem := none
  pending : List (Fin 6) := []

namespace VerificationCodeViewController

variable (breaks : Breaks) (s : VerificationCodeViewController)

def text (textField : Fin 6) : Text := (s.codeTextFields textField).text

def tag (textField : Fin 6) : Nat := textField + 1

def viewWithTag (tag : Nat) : Option (Fin 6) :=
  if h : 1 ≤ tag ∧ tag ≤ 6 then some ⟨tag - 1, by omega⟩ else none

def setText (textField : Fin 6) (text : Text) : VerificationCodeViewController :=
  { s with
    codeTextFields := Function.update s.codeTextFields textField
      { s.codeTextFields textField with text := text } }

def becomeFirstResponder (textField : Fin 6) : VerificationCodeViewController :=
  { s with firstResponder := some textField }

def resignFirstResponder (textField : Fin 6) : VerificationCodeViewController :=
  if s.firstResponder = some textField then { s with firstResponder := none } else s

/-! ### `VerificationViewContainer` -/

def fullVerificationCode : Text := ((List.finRange 6).map s.text).flatten

def updateBorderColor (textField : Fin 6) : VerificationCodeViewController :=
  { s with
    codeTextFields := Function.update s.codeTextFields textField
      { s.codeTextFields textField with
        borderColor := if (s.text textField).isEmpty then .systemGray else .systemGreen } }

def textFieldDidChange (textField : Fin 6) : VerificationCodeViewController :=
  s.updateBorderColor textField

/-! ### The controller -/

def allFieldsFilled : Bool :=
  ((List.finRange 6).map (fun textField => !(s.text textField).isEmpty)).foldl (· && ·) true

def updateRightBarButtonStatus : VerificationCodeViewController :=
  { s with
    rightBarButtonItem :=
      s.rightBarButtonItem.map (fun item => { item with isEnabled := s.allFieldsFilled }) }

def setRightBarButton (title : String) : VerificationCodeViewController :=
  { s with rightBarButtonItem := some { title, isEnabled := false } }

/-- `viewDidLoad` of the base class: the first field, and a button that is not there yet. -/
def baseViewDidLoad : VerificationCodeViewController :=
  (s.becomeFirstResponder 0).updateRightBarButtonStatus

/-- `VerificationController.viewDidLoad`. -/
def viewDidLoad : VerificationCodeViewController :=
  s.baseViewDidLoad.setRightBarButton "Submit"

/-- `DispatchQueue.main.asyncAfter` with the refresh of a field. -/
def asyncAfter (textField : Fin 6) : VerificationCodeViewController :=
  { s with pending := s.pending ++ [textField] }

/-- The text a change would leave, if its range is one of the text. -/
def updatedText (currentText : Text) (range : NSRange) (string : Text) : Option Text :=
  (rangeIn breaks currentText range).map (replacing currentText · string)

/-- `textField(_:shouldChangeCharactersIn:replacementString:)`, with the answer. -/
def shouldChangeCharactersIn (textField : Fin 6) (range : NSRange) (string : Text) :
    Bool × VerificationCodeViewController :=
  match updatedText breaks (s.text textField) range string with
  | none => (false, s)
  | some updatedText =>
    if characterCount breaks updatedText > 1 then (false, s.updateRightBarButtonStatus)
    else
      let s :=
        if !string.isEmpty then
          let s := s.setText textField string
          if tag textField = 6 then s.resignFirstResponder textField
          else
            match viewWithTag (tag textField + 1) with
            | some nextField => s.becomeFirstResponder nextField
            | none => s
        else s
      (true, (s.asyncAfter textField).updateRightBarButtonStatus)

def textFieldDidDeleteBackward (textField : Fin 6) : VerificationCodeViewController :=
  if tag textField > 1 ∧ (s.text textField).isEmpty then
    match viewWithTag (tag textField - 1) with
    | some previousField =>
      ((s.setText previousField []).asyncAfter previousField).becomeFirstResponder previousField
    | none => s
  else s

/-- A scheduled refresh fires. -/
def refresh (scheduled : Nat) : VerificationCodeViewController :=
  match s.pending[scheduled]? with
  | some textField =>
    ({ s with pending := s.pending.eraseIdx scheduled }.updateBorderColor
      textField).updateRightBarButtonStatus
  | none => s

/-! ### UIKit -/

/-- A field is asked to replace a range of its text. -/
def changeCharacters (textField : Fin 6) (range : NSRange) (string : Text) :
    VerificationCodeViewController :=
  match s.shouldChangeCharactersIn breaks textField range string,
      updatedText breaks (s.text textField) range string with
  | (true, s'), some updatedText => (s'.setText textField updatedText).textFieldDidChange textField
  | (_, s'), _ => s'

/-- `CustomTextField.deleteBackward`; `range` is what a backspace takes from a
field that is not empty. -/
def deleteBackward (textField : Fin 6) (range : NSRange) : VerificationCodeViewController :=
  let s := if (s.text textField).isEmpty then s.textFieldDidDeleteBackward textField else s
  if (s.text textField).isEmpty then s else s.changeCharacters breaks textField range []

end VerificationCodeViewController

/-! ### Actions -/

/-- The user taps a field, changes a range of the focused field by typing, pasting
or deleting, or types a backspace there; or a scheduled refresh fires. -/
inductive CodeEvent
  | tap (textField : Fin 6)
  | change (range : NSRange) (string : Text)
  | backspace (range : NSRange)
  | refresh (scheduled : Nat)
  deriving DecidableEq, Repr

/-- Keys go to the first responder only. -/
def CodeEvent.handle (breaks : Breaks) (s : VerificationCodeViewController) :
    CodeEvent → VerificationCodeViewController
  | tap textField => s.becomeFirstResponder textField
  | change range string =>
    match s.firstResponder with
    | some textField => s.changeCharacters breaks textField range string
    | none => s
  | backspace range =>
    match s.firstResponder with
    | some textField => s.deleteBackward breaks textField range
    | none => s
  | refresh scheduled => s.refresh scheduled

namespace VerificationCodeViewController

variable {breaks : Breaks} (s : VerificationCodeViewController)

/-! ### What each part of an action touches -/

@[simp] theorem text_setText (i : Fin 6) (t : Text) :
    (s.setText i t).text = Function.update s.text i t := by
  funext j
  exact Function.apply_update (fun _ field => field.text) s.codeTextFields i _ j

@[simp] theorem text_updateBorderColor (i : Fin 6) : (s.updateBorderColor i).text = s.text := by
  funext j
  refine (Function.apply_update (fun _ field => field.text) s.codeTextFields i _ j).trans ?_
  exact congrFun (Function.update_eq_self i s.text) j

/-- The text fields, the focus and the refreshes to come. -/
def fields : (Fin 6 → Text) × Option (Fin 6) × List (Fin 6) :=
  (s.text, s.firstResponder, s.pending)

@[simp] theorem fields_updateRightBarButtonStatus :
    s.updateRightBarButtonStatus.fields = s.fields := rfl

@[simp] theorem fields_setText (i : Fin 6) (t : Text) :
    (s.setText i t).fields = (Function.update s.text i t, s.firstResponder, s.pending) := by
  rw [fields, text_setText]
  rfl

@[simp] theorem fields_updateBorderColor (i : Fin 6) :
    (s.updateBorderColor i).fields = s.fields := by
  rw [fields, text_updateBorderColor]
  rfl

theorem viewWithTag_succ (n : Nat) (h : n < 6) : viewWithTag (n + 1) = some ⟨n, h⟩ := by
  rw [viewWithTag, dif_pos ⟨by omega, by omega⟩]
  rfl

/-- A change that is not of whole Characters does nothing. -/
theorem changeCharacters_of_none {i : Fin 6} {range : NSRange} {string : Text}
    (h : updatedText breaks (s.text i) range string = none) :
    s.changeCharacters breaks i range string = s := by
  simp only [changeCharacters, shouldChangeCharactersIn, h]

/-- A change to more than one Character is refused. -/
theorem changeCharacters_refused {i : Fin 6} {range : NSRange} {string u : Text}
    (h : updatedText breaks (s.text i) range string = some u)
    (hcount : characterCount breaks u > 1) :
    s.changeCharacters breaks i range string = s.updateRightBarButtonStatus := by
  simp only [changeCharacters, shouldChangeCharactersIn, h, if_pos hcount]

/-- **A change that is allowed**: the field has the new text, a refresh of it is
scheduled, and the focus moves on when something was typed. -/
theorem fields_changeCharacters {i : Fin 6} {range : NSRange} {string u : Text}
    (hfocus : s.firstResponder = some i)
    (h : updatedText breaks (s.text i) range string = some u)
    (hcount : ¬ characterCount breaks u > 1) :
    (s.changeCharacters breaks i range string).fields =
      (Function.update s.text i u,
        if string = [] then some i else viewWithTag (tag i + 1), s.pending ++ [i]) := by
  -- the text the delegate assigns is overwritten by UIKit
  have htext : Function.update (s.setText i string).text i u = Function.update s.text i u := by
    rw [text_setText, Function.update_idem]
  simp only [changeCharacters, shouldChangeCharactersIn, h, if_neg hcount, textFieldDidChange,
    fields_updateBorderColor, fields_setText]
  cases string with
  | nil =>
    rw [if_pos rfl, ← hfocus]
    rfl
  | cons c string =>
    rw [if_neg (List.cons_ne_nil c string), ← htext]
    simp only [List.isEmpty_cons, Bool.not_false, if_true]
    by_cases htag : tag i = 6
    · rw [if_pos htag, htag, resignFirstResponder,
        if_pos (show (s.setText i (c :: string)).firstResponder = some i from hfocus)]
      rfl
    · have hi : (i : Nat) + 1 < 6 := by
        have : (i : Nat) + 1 ≠ 6 := htag
        omega
      have hnext : viewWithTag (tag i + 1) = some ⟨i + 1, hi⟩ := viewWithTag_succ (i + 1) hi
      rw [if_neg htag, hnext]
      rfl

/-- A change keeps the button where it is. -/
theorem isSome_rightBarButtonItem_changeCharacters (i : Fin 6) (range : NSRange) (string : Text) :
    (s.changeCharacters breaks i range string).rightBarButtonItem.isSome =
      s.rightBarButtonItem.isSome := by
  cases hu : updatedText breaks (s.text i) range string with
  | none => rw [changeCharacters_of_none s hu]
  | some u =>
    by_cases hcount : characterCount breaks u > 1
    · rw [changeCharacters_refused s hu hcount]
      exact Option.isSome_map
    · simp only [changeCharacters, shouldChangeCharactersIn, hu, if_neg hcount]
      refine Option.isSome_map.trans (congrArg Option.isSome ?_)
      show VerificationCodeViewController.rightBarButtonItem (if _ then _ else s) = _
      by_cases hstring : (!string.isEmpty) = true
      · rw [if_pos hstring]
        by_cases htag : tag i = 6
        · rw [if_pos htag, resignFirstResponder]
          split <;> rfl
        · rw [if_neg htag]
          split <;> rfl
      · rw [if_neg hstring]

/-- The field before an empty one, if there is one, is emptied and focused. -/
theorem textFieldDidDeleteBackward_of_empty {i : Fin 6} (hempty : s.text i = []) :
    s.textFieldDidDeleteBackward i =
      match viewWithTag i with
      | some j => ((s.setText j []).asyncAfter j).becomeFirstResponder j
      | none => s := by
  obtain ⟨i, hi⟩ := i
  cases i with
  | zero => rfl
  | succ i =>
    have hcond : tag ⟨i + 1, hi⟩ > 1 ∧ (s.text ⟨i + 1, hi⟩).isEmpty :=
      ⟨by simp [tag], List.isEmpty_iff.mpr hempty⟩
    rw [textFieldDidDeleteBackward, if_pos hcond]
    rfl

/-- **A backspace in an empty field** empties the field before and goes there. -/
theorem deleteBackward_of_empty {i : Fin 6} (hempty : s.text i = []) (range : NSRange) :
    s.deleteBackward breaks i range =
      match viewWithTag i with
      | some j => ((s.setText j []).asyncAfter j).becomeFirstResponder j
      | none => s := by
  have hstill : (s.textFieldDidDeleteBackward i).text i = [] := by
    rw [textFieldDidDeleteBackward_of_empty s hempty]
    cases viewWithTag i with
    | none => exact hempty
    | some j =>
      show (s.setText j []).text i = []
      rw [text_setText]
      by_cases hij : i = j
      · rw [hij, Function.update_self]
      · rw [Function.update_of_ne hij]
        exact hempty
  simp only [deleteBackward, hempty, List.isEmpty_nil, if_true, hstill]
  exact textFieldDidDeleteBackward_of_empty s hempty

theorem fields_deleteBackward {i : Fin 6} (hempty : s.text i = []) (range : NSRange) :
    (s.deleteBackward breaks i range).fields =
      match viewWithTag i with
      | some j => (Function.update s.text j [], some j, s.pending ++ [j])
      | none => s.fields := by
  rw [deleteBackward_of_empty s hempty]
  cases viewWithTag i with
  | none => rfl
  | some j =>
    show ((s.setText j []).text, some j, s.pending ++ [j]) = _
    rw [text_setText]

/-- A backspace in a field that has a text is a change of it. -/
theorem deleteBackward_of_ne {i : Fin 6} (h : s.text i ≠ []) (range : NSRange) :
    s.deleteBackward breaks i range = s.changeCharacters breaks i range [] := by
  have : ¬ (s.text i).isEmpty = true := fun he => h (List.isEmpty_iff.mp he)
  simp only [deleteBackward, if_neg this]

@[simp] theorem fields_refresh_text (n : Nat) :
    (s.refresh n).text = s.text ∧ (s.refresh n).firstResponder = s.firstResponder := by
  unfold refresh
  cases s.pending[n]? with
  | none => exact ⟨rfl, rfl⟩
  | some i => exact ⟨text_updateBorderColor _ i, rfl⟩

end VerificationCodeViewController

end InventoryApp
