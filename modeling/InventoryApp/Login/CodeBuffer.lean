import InventoryApp.Login.VerificationCode

/-!
# The boxes as one buffer

The code is spread over six fields and a focus that the code itself moves.  For a
user who only types and takes back, with the caret at the end of the focused
field, it should be a buffer of at most six Characters: typing appends, a
backspace drops the last one.  A full buffer takes no more keys, since the last
field gives its focus up.

`Represents` relates the screen to such a buffer: box by box the Characters, and
the focus on the first empty box.  `represents_press` keeps it along one key, with
delayed refreshes firing at any time, and `code_eq_buffer` along every sequence.
-/

namespace InventoryApp

open Lib VerificationCodeViewController

variable {breaks : Breaks}

/-- A key press, or a scheduled refresh that fires. -/
inductive Key (breaks : Breaks)
  | character (c : Character breaks)
  | backspace
  | refresh (scheduled : Nat)

namespace Key

/-- What a key does: it types at the end of the focused field, and a backspace takes
back all of a field, which has one Character at most. -/
def event (s : VerificationCodeViewController) : Key breaks → CodeEvent
  | character c =>
    .change ⟨(s.firstResponder.map (fun i => utf16Length (s.text i))).getD 0, 0⟩ c.scalars
  | backspace =>
    .backspace ⟨0, (s.firstResponder.map (fun i => utf16Length (s.text i))).getD 0⟩
  | refresh scheduled => .refresh scheduled

def press (s : VerificationCodeViewController) (key : Key breaks) :
    VerificationCodeViewController :=
  (key.event s).handle breaks s

/-- The buffer the boxes stand for. -/
def pressBuffer (b : List (Character breaks)) : Key breaks → List (Character breaks)
  | character c => if b.length < 6 then b ++ [c] else b
  | backspace => if 1 ≤ b.length ∧ b.length ≤ 5 then b.dropLast else b
  | refresh _ => b

end Key

/-- The content of box `i` when the boxes hold `b`. -/
def boxText (b : List (Character breaks)) (i : Nat) : Text := (b[i]?.map (·.scalars)).getD []

/-- The first boxes hold the buffer, and the focus is on the box after them. -/
structure Represents (s : VerificationCodeViewController) (b : List (Character breaks)) :
    Prop where
  length_le : b.length ≤ 6
  text : ∀ i : Fin 6, s.text i = boxText b i
  focus : s.firstResponder = viewWithTag (b.length + 1)

theorem boxText_of_le {b : List (Character breaks)} {i : Nat} (h : b.length ≤ i) :
    boxText b i = [] := by
  rw [boxText, List.getElem?_eq_none h]
  rfl

theorem boxText_append (b : List (Character breaks)) (c : Character breaks) (i : Nat) :
    boxText (b ++ [c]) i = if i = b.length then c.scalars else boxText b i := by
  by_cases hi : i = b.length
  · rw [if_pos hi, hi, boxText, List.getElem?_concat_length]
    rfl
  · rw [if_neg hi]
    by_cases hlt : i < b.length
    · rw [boxText, boxText, List.getElem?_append_left hlt]
    · rw [boxText_of_le (by rw [List.length_append, List.length_singleton]; omega),
        boxText_of_le (by omega)]

theorem boxText_dropLast (b : List (Character breaks)) (i : Nat) :
    boxText b.dropLast i = if i = b.length - 1 then [] else boxText b i := by
  by_cases hi : i < b.length - 1
  · rw [if_neg (by omega), boxText, boxText, List.getElem?_dropLast, if_pos hi]
  · rw [boxText_of_le (by rw [List.length_dropLast]; omega)]
    by_cases hi' : i = b.length - 1
    · rw [if_pos hi']
    · rw [if_neg hi', boxText_of_le (by omega)]

/-- A box is filled when it is one of the first. -/
theorem boxText_ne_nil {b : List (Character breaks)} {i : Nat} :
    boxText b i ≠ [] ↔ i < b.length := by
  constructor
  · intro h
    by_contra hle
    exact h (boxText_of_le (by omega))
  · intro h
    rw [boxText, List.getElem?_eq_getElem h]
    exact (b[i]).scalars_ne_nil

variable {s : VerificationCodeViewController} {b : List (Character breaks)}

/-- A fresh screen is an empty buffer. -/
theorem represents_viewDidLoad : Represents (viewDidLoad {}) ([] : List (Character breaks)) where
  length_le := Nat.zero_le 6
  text _ := rfl
  focus := rfl

/-- While the buffer is not full, the focus is on an empty box. -/
theorem Represents.focused (h : Represents s b) (hlt : b.length < 6) :
    s.firstResponder = some ⟨b.length, hlt⟩ ∧ s.text ⟨b.length, hlt⟩ = [] := by
  refine ⟨?_, ?_⟩
  · rw [h.focus, viewWithTag_succ b.length hlt]
  · rw [h.text, boxText_of_le (Nat.le_refl _)]

/-- When the buffer is full there is no focus. -/
theorem Represents.unfocused (h : Represents s b) (hfull : b.length = 6) :
    s.firstResponder = none := by
  rw [h.focus, hfull]
  rfl

theorem Represents.of_fields {s' : VerificationCodeViewController} (h : Represents s b)
    (htext : s'.text = s.text) (hfocus : s'.firstResponder = s.firstResponder) :
    Represents s' b where
  length_le := h.length_le
  text i := by rw [htext, h.text]
  focus := by rw [hfocus, h.focus]

/-- Typing fills the focused box and moves the focus on. -/
theorem represents_character (h : Represents s b) (c : Character breaks) :
    Represents ((Key.character c).press s) ((Key.character c).pressBuffer b) := by
  by_cases hlt : b.length < 6
  · obtain ⟨hfocus, hempty⟩ := h.focused hlt
    have hpress : (Key.character c).press s =
        s.changeCharacters breaks ⟨b.length, hlt⟩ ⟨0, 0⟩ c.scalars := by
      simp only [Key.press, Key.event, CodeEvent.handle, hfocus, Option.map_some, hempty]
      rfl
    have hupdated : updatedText breaks (s.text ⟨b.length, hlt⟩) ⟨0, 0⟩ c.scalars =
        some c.scalars := by
      rw [hempty, updatedText, rangeIn_nil_zero, Option.map_some, replacing_nil]
    have hfields := fields_changeCharacters s hfocus hupdated (by rw [c.single]; omega)
    rw [← hpress, fields, if_neg c.scalars_ne_nil, Prod.mk.injEq, Prod.mk.injEq] at hfields
    obtain ⟨htext, hnext, _⟩ := hfields
    rw [Key.pressBuffer, if_pos hlt]
    refine ⟨?_, ?_, ?_⟩
    · rw [List.length_append, List.length_singleton]
      omega
    · intro i
      rw [htext, boxText_append]
      by_cases hi : (i : Nat) = b.length
      · obtain rfl : i = ⟨b.length, hlt⟩ := Fin.ext hi
        rw [Function.update_self, if_pos rfl]
      · rw [Function.update_of_ne (fun h => hi (congrArg Fin.val h)), if_neg hi, h.text]
    · rw [hnext, List.length_append, List.length_singleton]
      rfl
  · have hfull : b.length = 6 := by
      have := h.length_le
      omega
    rw [Key.pressBuffer, if_neg hlt]
    simp only [Key.press, Key.event, CodeEvent.handle, h.unfocused hfull]
    exact h

/-- A backspace in the focused box, which is empty, takes from the box before. -/
theorem represents_backspace (h : Represents s b) :
    Represents ((Key.backspace : Key breaks).press s) (Key.backspace.pressBuffer b) := by
  by_cases hlt : b.length < 6
  · obtain ⟨hfocus, hempty⟩ := h.focused hlt
    have hpress : (Key.backspace : Key breaks).press s =
        s.deleteBackward breaks ⟨b.length, hlt⟩ ⟨0, 0⟩ := by
      simp only [Key.press, Key.event, CodeEvent.handle, hfocus, Option.map_some, hempty]
      rfl
    have hfields := congrArg fields hpress
    rw [fields_deleteBackward s hempty] at hfields
    by_cases hzero : b.length = 0
    · -- the first box passes nothing on
      rw [Key.pressBuffer, if_neg (by omega)]
      rw [show viewWithTag b.length = none by rw [hzero]; rfl, fields, fields, Prod.mk.injEq,
        Prod.mk.injEq] at hfields
      exact h.of_fields hfields.1 hfields.2.1
    · obtain ⟨k, hk⟩ : ∃ k, b.length = k + 1 := ⟨b.length - 1, by omega⟩
      have hk6 : k < 6 := by omega
      have htag : viewWithTag b.length = some ⟨k, hk6⟩ := by
        rw [hk]
        exact viewWithTag_succ k hk6
      rw [htag, fields, Prod.mk.injEq, Prod.mk.injEq] at hfields
      obtain ⟨htext, hprevious, _⟩ := hfields
      rw [Key.pressBuffer, if_pos ⟨by omega, by omega⟩]
      refine ⟨?_, ?_, ?_⟩
      · rw [List.length_dropLast]
        omega
      · intro i
        rw [htext, boxText_dropLast, hk, Nat.add_sub_cancel]
        by_cases hi : (i : Nat) = k
        · have hi' : i = ⟨k, hk6⟩ := Fin.ext hi
          rw [hi', Function.update_self, if_pos rfl]
        · rw [Function.update_of_ne (fun h => hi (congrArg Fin.val h)), if_neg hi, h.text]
      · rw [hprevious, List.length_dropLast, hk, Nat.add_sub_cancel]
        exact (viewWithTag_succ k hk6).symm
  · have hfull : b.length = 6 := by
      have := h.length_le
      omega
    rw [Key.pressBuffer, if_neg (by omega)]
    simp only [Key.press, Key.event, CodeEvent.handle, h.unfocused hfull]
    exact h

/-- **One key keeps boxes and buffer together.** -/
theorem represents_press (h : Represents s b) (key : Key breaks) :
    Represents (key.press s) (key.pressBuffer b) := by
  cases key with
  | character c => exact represents_character h c
  | backspace => exact represents_backspace h
  | refresh scheduled =>
    obtain ⟨htext, hfocus⟩ := fields_refresh_text s scheduled
    exact h.of_fields htext hfocus

/-- Boxes that hold a buffer, read in order, are the buffer. -/
theorem flatten_boxText {n : Nat} (h : b.length ≤ n) :
    ((List.finRange n).map (fun i : Fin n => boxText b i)).flatten =
      (b.map (·.scalars)).flatten := by
  induction n generalizing b with
  | zero =>
    obtain rfl := List.length_eq_zero_iff.mp (Nat.le_zero.mp h)
    rfl
  | succ n ih =>
    rw [List.finRange_succ, List.map_cons, List.map_map, List.flatten_cons]
    cases b with
    | nil => exact ih (b := []) (Nat.zero_le n)
    | cons c b =>
      have hb : b.length ≤ n := by
        rw [List.length_cons] at h
        omega
      exact congrArg (c.scalars ++ ·) (ih hb)

/-- **The six boxes are one buffer.**  Along every sequence of keys from a fresh
screen, with delayed refreshes firing anywhere in it, the code is what the buffer
holds, the filled boxes are the first ones, and the focus is on the first empty
box, or nowhere when there is none. -/
theorem code_eq_buffer (keys : List (Key breaks)) :
    let s := keys.foldl Key.press (viewDidLoad {})
    let b := keys.foldl Key.pressBuffer []
    s.fullVerificationCode = (b.map (·.scalars)).flatten ∧ b.length ≤ 6 ∧
      (∀ i : Fin 6, s.text i ≠ [] ↔ (i : Nat) < b.length) ∧
      (∀ h : b.length < 6, s.firstResponder = some ⟨b.length, h⟩) ∧
      (b.length = 6 → s.firstResponder = none) := by
  intro s b
  have h : Represents s b := List.foldl_rel represents_viewDidLoad
    (fun key _ _ _ hs => represents_press hs key)
  refine ⟨?_, h.length_le, ?_, fun hlt => (h.focused hlt).1, h.unfocused⟩
  · rw [fullVerificationCode, ← flatten_boxText h.length_le]
    exact congrArg (fun f => ((List.finRange 6).map f).flatten) (funext h.text)
  · intro i
    rw [h.text]
    exact boxText_ne_nil

end InventoryApp
