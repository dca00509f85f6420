import InventoryApp.Login.PhoneLogin

/-!
# The Next button

The screen for a phone number sends an SMS when Next is tapped, and pushes a
verification screen when Firebase says that it was sent.  There should be one
screen for each SMS, none without a network, and no second SMS on the same screen
after one has come through: `isVerificationSent` is there to see to that.

But nothing assigns `isVerificationSent`, and the override of the handler in
`PhoneNumberController` goes on after `super`, also when that returned early, and
pushes a screen of its own.  `pushed_eq_taps_add_successes` counts what happens: a
screen for each tap and one more for each success.  So the two counts agree along
a run exactly when it has no tap (`onePerSMS_iff`).
-/

namespace InventoryApp

open Lib

/-- A tap on Next, an answer to one of the controller's requests, or a way back
from a verification screen. -/
inductive NextEvent
  | next (countryCode phoneNumber : String) (reachable : Bool)
  | callback (request : Nat) (outcome : Option VerificationID)
  | back
  deriving DecidableEq, Repr

namespace NextEvent

/-- The event on the screen at a position of the stack. -/
def toPhoneEvent (screen : Nat) : NextEvent → PhoneEvent
  | next countryCode phoneNumber reachable => .next screen countryCode phoneNumber reachable
  | callback request outcome => .callback request outcome
  | back => .back

def Enabled (controller : PhoneNumberController) (s : PhoneLogin) : NextEvent → Prop
  | next _ _ _ => True
  | callback request _ => ∃ number, s.outstanding[request]? = some (.startAuth number controller)
  | back => ∃ v, s.navigation.getLast? = some (.verification v)

def isNext : NextEvent → Bool
  | next _ _ _ => true
  | _ => false

end NextEvent

/-- One event of the controller that is at a position of the stack. -/
def NextStep (screen : Nat) (controller : PhoneNumberController) (s : PhoneLogin) (ev : NextEvent)
    (s' : PhoneLogin) : Prop :=
  ev.Enabled controller s ∧ s' = (ev.toPhoneEvent screen).handle s

/-- The number of verification screens pushed since `s₀`. -/
def pushedSince (s₀ s : PhoneLogin) : Nat := s.nextRef - s₀.nextRef

/-- The number of successful callbacks since `s₀`. -/
def successesSince (s₀ s : PhoneLogin) : Nat := s.answers.length - s₀.answers.length

/-- As many screens as successes, and a tap after a success sends nothing. -/
def OnePerSMS (s₀ s : PhoneLogin) (ev : NextEvent) (s' : PhoneLogin) : Prop :=
  pushedSince s₀ s' = successesSince s₀ s' ∧
    (ev.isNext = true → 0 < successesSince s₀ s → s'.outstanding = s.outstanding)

/-! ### One event -/

variable {screen : Nat} {controller : PhoneNumberController} {s₀ s s' : PhoneLogin}
  {ev : NextEvent}

/-- A tap pushes a screen, with a network or without. -/
theorem nextRef_rightBarButtonDidTap (s : PhoneLogin) (c : PhoneNumberController)
    (number : PhoneNumber) (reachable : Bool) :
    (s.rightBarButtonDidTap c number reachable).nextRef = s.nextRef + 1 ∧
    (s.rightBarButtonDidTap c number reachable).answers = s.answers ∧
    ∃ v, (s.rightBarButtonDidTap c number reachable).navigation =
      s.navigation ++ [.verification v] := by
  unfold PhoneLogin.rightBarButtonDidTap PhoneLogin.baseRightBarButtonDidTap
  cases reachable with
  | false => exact ⟨rfl, rfl, _, rfl⟩
  | true =>
    cases hsent : c.isVerificationSent with
    | false => exact ⟨rfl, rfl, _, rfl⟩
    | true => exact ⟨rfl, rfl, _, rfl⟩

/-- Going back takes the last screen away, and pushes and answers nothing. -/
theorem popViewController_spec (s : PhoneLogin) :
    s.popViewController.nextRef = s.nextRef ∧ s.popViewController.answers = s.answers ∧
    ∀ i, i ≠ s.navigation.length - 1 → s.popViewController.navigation[i]? = s.navigation[i]? := by
  unfold PhoneLogin.popViewController
  split
  · refine ⟨rfl, rfl, ?_⟩
    intro i hi
    show s.navigation.dropLast[i]? = _
    rw [List.getElem?_dropLast]
    split
    · rfl
    · rw [List.getElem?_eq_none]
      omega
  · exact ⟨rfl, rfl, fun _ _ => rfl⟩

/-- **What an event adds**: a tap a screen, a success a screen and an answer; and the
controller stays where it is. -/
theorem nextStep_counts (hscreen : s.navigation[screen]? = some (.phoneNumber controller))
    (hstep : NextStep screen controller s ev s') :
    s'.navigation[screen]? = some (.phoneNumber controller) ∧
    ∃ successes, s'.answers.length = s.answers.length + successes ∧
      s'.nextRef = s.nextRef + ev.isNext.toNat + successes := by
  obtain ⟨henabled, rfl⟩ := hstep
  obtain ⟨hlt, _⟩ := List.getElem?_eq_some_iff.mp hscreen
  cases ev with
  | next countryCode phoneNumber reachable =>
    obtain ⟨href, hans, v, hnav⟩ :=
      nextRef_rightBarButtonDidTap s controller (countryCode ++ phoneNumber) reachable
    simp only [NextEvent.toPhoneEvent, PhoneEvent.handle, hscreen]
    refine ⟨?_, 0, ?_, href⟩
    · rw [hnav, List.getElem?_append_left hlt]
      exact hscreen
    · rw [hans, Nat.add_zero]
  | callback request outcome =>
    obtain ⟨number, hr⟩ := henabled
    simp only [NextEvent.toPhoneEvent, PhoneEvent.handle, PhoneLogin.answer, hr]
    cases outcome with
    | none => exact ⟨hscreen, 0, rfl, rfl⟩
    | some id =>
      -- the controller is still on the stack, so it pushes
      have hmem : Screen.phoneNumber controller ∈ s.navigation := List.mem_of_getElem? hscreen
      simp only [PhoneLogin.succeed, PhoneLogin.startAuthCompletion]
      rw [if_pos hmem]
      refine ⟨?_, 1, ?_, rfl⟩
      · show (s.navigation ++ [_])[screen]? = _
        rw [List.getElem?_append_left hlt]
        exact hscreen
      · show (s.answers ++ [_]).length = _
        rw [List.length_append, List.length_singleton]
  | back =>
    -- the screen that goes is a verification screen, so it is not the controller's
    obtain ⟨v, hv⟩ := henabled
    have hne : screen ≠ s.navigation.length - 1 := by
      intro heq
      rw [List.getLast?_eq_getElem?, ← heq, hscreen] at hv
      cases hv
    obtain ⟨href, hans, hnav⟩ := popViewController_spec s
    refine ⟨?_, 0, congrArg List.length hans, href⟩
    show s.popViewController.navigation[screen]? = _
    rw [hnav screen hne]
    exact hscreen

/-! ### All runs -/

/-- A tap is the only event that sets the counts apart. -/
structure Counted (screen : Nat) (controller : PhoneNumberController) (s₀ : PhoneLogin)
    (taps : Nat) (s : PhoneLogin) : Prop where
  stays : s.navigation[screen]? = some (.phoneNumber controller)
  counts : ∃ successes, s.answers.length = s₀.answers.length + successes ∧
    s.nextRef = s₀.nextRef + taps + successes

theorem Counted.step {taps : Nat} (h : Counted screen controller s₀ taps s)
    (hstep : NextStep screen controller s ev s') :
    Counted screen controller s₀ (taps + ev.isNext.toNat) s' := by
  obtain ⟨hstays, n, hans, href⟩ := nextStep_counts h.stays hstep
  obtain ⟨m, hans₀, href₀⟩ := h.counts
  exact ⟨hstays, m + n, by omega, by omega⟩

theorem Counted.pushedSince_eq {taps : Nat} (h : Counted screen controller s₀ taps s) :
    pushedSince s₀ s = taps + successesSince s₀ s := by
  obtain ⟨n, hans, href⟩ := h.counts
  unfold pushedSince successesSince
  omega

/-- **A screen for each tap and one more for each success.** -/
theorem pushed_eq_taps_add_successes
    (hscreen : s₀.navigation[screen]? = some (.phoneNumber controller)) {evs : List NextEvent}
    (hrun : Run (NextStep screen controller) s₀ evs s) :
    pushedSince s₀ s = evs.countP NextEvent.isNext + successesSince s₀ s := by
  have h := hrun.history
    (fun evs s => Counted screen controller s₀ (evs.countP NextEvent.isNext) s) ?_
    ⟨hscreen, 0, rfl, rfl⟩
  · exact h.pushedSince_eq
  · intro evs s ev s' hs hstep
    have hadd : (evs ++ [ev]).countP NextEvent.isNext =
        evs.countP NextEvent.isNext + ev.isNext.toNat := by
      rw [List.countP_append]
      cases hev : ev.isNext <;> simp [hev]
    rw [hadd]
    exact hs.step hstep

/-- **When there is one verification screen for each SMS.**  For a controller on the
stack, however many requests of it are outstanding already, and along every
sequence of taps, answers and ways back: the screens pushed are as many as the
successes, and nothing is sent after a success, if and only if Next is not tapped. -/
theorem onePerSMS_iff (hscreen : s₀.navigation[screen]? = some (.phoneNumber controller))
    (evs : List NextEvent) :
    Always (NextStep screen controller) (OnePerSMS s₀) s₀ evs ↔
      Always (NextStep screen controller) (fun _ ev _ => ev.isNext = false) s₀ evs := by
  refine always_iff_always (Counted screen controller s₀ 0) ?_ ?_ ⟨hscreen, 0, rfl, rfl⟩ evs
  · intro s ev s' hs hstep
    have hcount := (hs.step hstep).pushedSince_eq
    constructor
    · intro hone
      cases hev : ev.isNext with
      | false => rfl
      | true =>
        rw [hev, hone.1] at hcount
        exact absurd hcount (by simp)
    · intro hev
      rw [hev] at hcount
      refine ⟨by simpa using hcount, ?_⟩
      intro htap
      rw [hev] at htap
      cases htap
  · intro s ev s' hs hstep hev
    have hs' := hs.step hstep
    rwa [hev] at hs'

/-- A request that is outstanding is answered, and the user goes back. -/
theorem onePerSMS_iff_answer :
    let c : PhoneNumberController := { ref := 0 }
    let s₀ : PhoneLogin :=
      { navigation := [.login, .phoneNumber c]
        nextRef := 1
        outstanding := [.startAuth "+15550100001" c] }
    Always (NextStep 1 c) (OnePerSMS s₀) s₀ [.callback 0 (some "id"), .back] := by
  intro c s₀
  refine (onePerSMS_iff rfl _).mpr ?_
  exact fun _ _ => ⟨rfl, fun _ _ => ⟨rfl, trivial⟩⟩

/-- A tap without a network pushes a screen with nothing sent; and after a tap, a
success and a way back, the next tap sends a second request. -/
theorem tap_pushes_and_sends_again :
    let c : PhoneNumberController := { ref := 0 }
    let s₀ : PhoneLogin := { navigation := [.login, .phoneNumber c], nextRef := 1 }
    let tap : NextEvent := .next "+1" "5550100001" true
    (∃ s, Run (NextStep 1 c) s₀ [.next "+1" "5550100001" false] s ∧ pushedSince s₀ s = 1 ∧
      successesSince s₀ s = 0 ∧ s.outstanding = []) ∧
    (∃ s s', Run (NextStep 1 c) s₀ [tap, .callback 0 (some "id"), .back, .back] s ∧
      NextStep 1 c s tap s' ∧ successesSince s₀ s = 1 ∧ s.outstanding = [] ∧
      s'.outstanding = [.startAuth "+15550100001" c]) ∧
    ¬ ∀ evs s, Run (NextStep 1 c) s₀ evs s → pushedSince s₀ s = successesSince s₀ s := by
  intro c s₀ tap
  have hrun : Run (NextStep 1 c) s₀ [.next "+1" "5550100001" false] _ :=
    .cons ⟨trivial, rfl⟩ (.nil _)
  refine ⟨⟨_, hrun, rfl, rfl, rfl⟩, ?_, fun hall => absurd (hall _ _ hrun) (by decide)⟩
  exact ⟨_, _, .cons ⟨trivial, rfl⟩ (.cons ⟨⟨_, rfl⟩, rfl⟩ (.cons ⟨⟨_, rfl⟩, rfl⟩
    (.cons ⟨⟨_, rfl⟩, rfl⟩ (.nil _)))), ⟨trivial, rfl⟩, rfl, rfl, rfl⟩

end InventoryApp
