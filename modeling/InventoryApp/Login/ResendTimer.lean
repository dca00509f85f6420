import InventoryApp.Login.PhoneLogin

/-!
# The resend countdown

A resend disables its button and schedules a timer that repeats every second;
each tick takes one from `seconds`, and the tick that finds none left invalidates
the timer and enables the button again.  `runTimer` overwrites the only reference
to a timer without invalidating what it referred to, so a second call while a
timer is live would leave one that nobody can stop.  What rules that out is the
button: it is disabled while a timer is live, and a disabled button has no taps.

`Countdown` puts button, counter and timers together with the ticks each timer has
made.  `Countdown.step` keeps it along one tap or tick, and `one_countdown` reads
off every run that there is one countdown at a time, of sixteen ticks.  This is what
limits the requests: by `resend_limit` the ticks made and to go are sixteen for each.

A `ResendScreen` is the part of a verification screen that counts, with the timers
of the run loop and the `PhoneLogin` that the requests go to; `run_phone` says that
a run here is a run of the Resend taps there.
-/

namespace InventoryApp

open Lib

abbrev TimerID := Nat

structure ResendButton where
  title : String := "重新发送"
  isEnabled : Bool := true
  deriving DecidableEq, Repr

/-- `timer` is empty for the `Timer()` that is never scheduled.  `scheduledTimers`
are the timers that are scheduled and not invalidated, of those before `nextTimer`. -/
structure ResendScreen where
  resend : ResendButton := {}
  seconds : Int := 15
  timer : Option TimerID := none
  scheduledTimers : List TimerID := []
  nextTimer : TimerID := 0
  phone : PhoneLogin := {}
  deriving DecidableEq, Repr

namespace ResendScreen

variable (s : ResendScreen)

/-! ### Timers of the run loop -/

/-- `Timer.scheduledTimer`, repeating, and the reference to it. -/
def scheduledTimer : ResendScreen × TimerID :=
  ({ s with
      scheduledTimers := s.scheduledTimers ++ [s.nextTimer]
      nextTimer := s.nextTimer + 1 }, s.nextTimer)

def invalidate (timer : Option TimerID) : ResendScreen :=
  { s with scheduledTimers := s.scheduledTimers.filter (fun t => some t ≠ timer) }

/-! ### `VerificationViewContainer` -/

def setEnabled (isEnabled : Bool) : ResendScreen :=
  { s with resend := { s.resend with isEnabled } }

def setTitle (title : String) : ResendScreen :=
  { s with resend := { s.resend with title } }

def runTimer : ResendScreen :=
  let (s, timer) := (s.setEnabled false).scheduledTimer
  { s with timer := some timer }

/-- `String(format: "%02i", n)`. -/
def format02i (n : Int) : String :=
  let digits := toString n
  if digits.length < 2 then "0" ++ digits else digits

def timeString (time : Int) : String :=
  let minutes := (time.tdiv 60).tmod 60
  let seconds := time.tmod 60
  format02i minutes ++ ":" ++ format02i seconds

def resetTimer : ResendScreen :=
  { s.invalidate s.timer with seconds := 15 }.setTitle "重新发送"

/-- `seconds - 1` is of a positive number, so it does not overflow. -/
def updateTimer : ResendScreen :=
  if s.seconds < 1 then s.resetTimer.setEnabled true
  else
    let seconds := s.seconds - 1
    { s with seconds }.setTitle ("重新发送（" ++ timeString seconds ++ "）")

/-! ### `VerificationCodeViewController` -/

def sendSMSConfirmation (controller : VerificationController) (reachable : Bool) : ResendScreen :=
  if !reachable then s
  else
    let s := (s.setEnabled false).runTimer
    { s with phone := s.phone.verifyPhoneNumber (.resend controller.titleNumber) }

end ResendScreen

/-- A tap on Resend, or a tick of a timer. -/
inductive ResendEvent
  | tap (reachable : Bool)
  | tick (timer : TimerID)
  deriving DecidableEq, Repr

namespace ResendEvent

/-- A disabled button has no taps, and a timer ticks until it is invalidated. -/
def Enabled (s : ResendScreen) : ResendEvent → Prop
  | tap _ => s.resend.isEnabled = true
  | tick timer => timer ∈ s.scheduledTimers

instance (s : ResendScreen) : (ev : ResendEvent) → Decidable (ev.Enabled s)
  | tap _ => inferInstanceAs (Decidable (s.resend.isEnabled = true))
  | tick timer => inferInstanceAs (Decidable (timer ∈ s.scheduledTimers))

def handle (controller : VerificationController) (s : ResendScreen) : ResendEvent → ResendScreen
  | tap reachable => s.sendSMSConfirmation controller reachable
  | tick _ => s.updateTimer

end ResendEvent

/-- One tap or tick. -/
def ResendStep (controller : VerificationController) (s : ResendScreen) (ev : ResendEvent)
    (s' : ResendScreen) : Prop :=
  ev.Enabled s ∧ s' = ev.handle controller s

/-! ### One countdown -/

variable {controller : VerificationController} {s s' : ResendScreen} {evs : List ResendEvent}
  {ev : ResendEvent}

/-- The title for a number of seconds: the plain one when none has passed. -/
def titleFor (seconds : Int) : String :=
  if seconds = 15 then "重新发送" else "重新发送（" ++ ResendScreen.timeString seconds ++ "）"

/-- No timer is live. -/
structure ResendScreen.Idle (s : ResendScreen) : Prop where
  scheduled : s.scheduledTimers = []
  enabled : s.resend.isEnabled = true
  seconds : s.seconds = 15
  title : s.resend.title = titleFor 15

/-- One timer is live, it is the one referred to, and it has made `ticks` ticks. -/
structure ResendScreen.CountsDown (s : ResendScreen) (timer : TimerID) (ticks : Nat) : Prop where
  scheduled : s.scheduledTimers = [timer]
  reference : s.timer = some timer
  disabled : s.resend.isEnabled = false
  seconds : s.seconds = 15 - ticks
  ticks_le : ticks ≤ 15
  title : s.resend.title = titleFor (15 - ticks)

/-- The countdown after a history of taps and ticks.  Timers that are not live any
more have made sixteen ticks, and timers to come none. -/
structure Countdown (evs : List ResendEvent) (s : ResendScreen) : Prop where
  phase : s.Idle ∨ ∃ timer, s.CountsDown timer (evs.count (.tick timer))
  live : ∀ timer ∈ s.scheduledTimers, timer < s.nextTimer
  ended : ∀ timer < s.nextTimer, timer ∉ s.scheduledTimers → evs.count (.tick timer) = 16
  toCome : ∀ timer, s.nextTimer ≤ timer → evs.count (.tick timer) = 0

theorem ResendScreen.CountsDown.live {timer : TimerID} {ticks : Nat}
    (h : s.CountsDown timer ticks) : timer ∈ s.scheduledTimers := by
  rw [h.scheduled]
  exact List.mem_singleton_self timer

theorem countdown_init (phone : PhoneLogin) : Countdown [] { phone } where
  phase := Or.inl ⟨rfl, rfl, rfl, rfl⟩
  live _ h := absurd h List.not_mem_nil
  ended _ h := absurd h (Nat.not_lt_zero _)
  toCome _ _ := rfl

/-- A tap is no tick. -/
theorem count_concat_tap (timer : TimerID) (reachable : Bool) :
    (evs ++ [ResendEvent.tap reachable]).count (.tick timer) = evs.count (.tick timer) := by
  rw [List.count_append, List.count_singleton, if_neg (by simp), Nat.add_zero]

theorem count_concat_tick (timer timer' : TimerID) :
    (evs ++ [ResendEvent.tick timer']).count (.tick timer) =
      evs.count (.tick timer) + if timer' = timer then 1 else 0 := by
  rw [List.count_append, List.count_singleton]
  simp

/-- A tap with a network starts a countdown. -/
theorem countsDown_sendSMSConfirmation (h : s.Idle) :
    (s.sendSMSConfirmation controller true).CountsDown s.nextTimer 0 where
  scheduled := by
    show s.scheduledTimers ++ [s.nextTimer] = _
    rw [h.scheduled, List.nil_append]
  reference := rfl
  disabled := rfl
  seconds := h.seconds
  ticks_le := Nat.zero_le 15
  title := h.title

/-- A tick while there are seconds left takes one. -/
theorem countsDown_updateTimer {timer : TimerID} {ticks : Nat} (h : s.CountsDown timer ticks)
    (hlt : ticks < 15) : s.updateTimer.CountsDown timer (ticks + 1) := by
  have hseconds := h.seconds
  have hleft : ¬ s.seconds < 1 := by omega
  have hnext : s.seconds - 1 = 15 - ((ticks + 1 : Nat) : Int) := by omega
  rw [ResendScreen.updateTimer, if_neg hleft]
  refine ⟨h.scheduled, h.reference, h.disabled, hnext, hlt, ?_⟩
  show "重新发送（" ++ ResendScreen.timeString (s.seconds - 1) ++ "）" = _
  rw [hnext, titleFor, if_neg (by omega)]

/-- The sixteenth tick ends the countdown. -/
theorem idle_updateTimer {timer : TimerID} (h : s.CountsDown timer 15) : s.updateTimer.Idle := by
  have hseconds := h.seconds
  rw [ResendScreen.updateTimer, if_pos (by omega)]
  refine ⟨?_, rfl, rfl, rfl⟩
  show s.scheduledTimers.filter (fun t => some t ≠ s.timer) = []
  rw [h.scheduled, h.reference]
  simp

/-- A tick schedules nothing. -/
theorem nextTimer_updateTimer (s : ResendScreen) : s.updateTimer.nextTimer = s.nextTimer := by
  unfold ResendScreen.updateTimer
  split <;> rfl

/-- While the button is enabled, no timer is live. -/
theorem Countdown.idle (h : Countdown evs s) (henabled : s.resend.isEnabled = true) : s.Idle := by
  refine h.phase.resolve_right ?_
  rintro ⟨timer, hcounts⟩
  have := henabled.symm.trans hcounts.disabled
  cases this

/-- A timer that ticks is the live one. -/
theorem Countdown.countsDown (h : Countdown evs s) {timer : TimerID}
    (hlive : timer ∈ s.scheduledTimers) : s.CountsDown timer (evs.count (.tick timer)) := by
  obtain ⟨live, hcounts⟩ : ∃ timer, s.CountsDown timer (evs.count (.tick timer)) := by
    refine h.phase.resolve_left ?_
    intro hidle
    rw [hidle.scheduled] at hlive
    exact List.not_mem_nil hlive
  rw [hcounts.scheduled] at hlive
  obtain rfl := List.mem_singleton.mp hlive
  exact hcounts

theorem Countdown.tap (h : Countdown evs s) (henabled : s.resend.isEnabled = true)
    (reachable : Bool) :
    Countdown (evs ++ [.tap reachable]) (s.sendSMSConfirmation controller reachable) := by
  have hidle := h.idle henabled
  cases reachable with
  | false =>
    refine ⟨Or.inl hidle, h.live, ?_, ?_⟩
    · intro t ht hlive
      rw [count_concat_tap]
      exact h.ended t ht hlive
    · intro t ht
      rw [count_concat_tap]
      exact h.toCome t ht
  | true =>
    have hcounts : (s.sendSMSConfirmation controller true).CountsDown s.nextTimer 0 :=
      countsDown_sendSMSConfirmation hidle
    have hnew : (evs ++ [ResendEvent.tap true]).count (.tick s.nextTimer) = 0 := by
      rw [count_concat_tap]
      exact h.toCome _ (Nat.le_refl _)
    refine ⟨Or.inr ⟨s.nextTimer, by rw [hnew]; exact hcounts⟩, ?_, ?_, ?_⟩
    · intro t ht
      rw [hcounts.scheduled, List.mem_singleton] at ht
      exact ht ▸ Nat.lt_succ_self _
    · intro t ht hlive
      rw [hcounts.scheduled, List.mem_singleton] at hlive
      have hlt : t < s.nextTimer := Nat.lt_of_le_of_ne (Nat.le_of_lt_succ ht) hlive
      rw [count_concat_tap]
      exact h.ended t hlt (by rw [hidle.scheduled]; exact List.not_mem_nil)
    · intro t ht
      rw [count_concat_tap]
      exact h.toCome t (Nat.le_of_succ_le ht)

theorem Countdown.tick (h : Countdown evs s) {timer : TimerID}
    (hlive : timer ∈ s.scheduledTimers) : Countdown (evs ++ [.tick timer]) s.updateTimer := by
  have hcounts := h.countsDown hlive
  have hlt := h.live timer hlive
  have hcount : (evs ++ [ResendEvent.tick timer]).count (.tick timer) =
      evs.count (.tick timer) + 1 := by
    rw [count_concat_tick, if_pos rfl]
  have hothers : ∀ t, t ≠ timer →
      (evs ++ [ResendEvent.tick timer]).count (.tick t) = evs.count (.tick t) := by
    intro t ht
    rw [count_concat_tick, if_neg (Ne.symm ht), Nat.add_zero]
  have htoCome : ∀ t, s.updateTimer.nextTimer ≤ t →
      (evs ++ [ResendEvent.tick timer]).count (.tick t) = 0 := by
    intro t ht
    rw [nextTimer_updateTimer] at ht
    rw [hothers t (Nat.ne_of_gt (Nat.lt_of_lt_of_le hlt ht))]
    exact h.toCome t ht
  -- a timer that has ended before is none that ticks
  have hended : ∀ t < s.nextTimer, t ≠ timer →
      (evs ++ [ResendEvent.tick timer]).count (.tick t) = 16 := by
    intro t ht hne
    rw [hothers t hne]
    refine h.ended t ht ?_
    rw [hcounts.scheduled, List.mem_singleton]
    exact hne
  by_cases hticks : evs.count (.tick timer) < 15
  · have hnext := countsDown_updateTimer hcounts hticks
    refine ⟨Or.inr ⟨timer, by rw [hcount]; exact hnext⟩, ?_, ?_, htoCome⟩
    · intro t ht
      rw [hnext.scheduled, List.mem_singleton] at ht
      rw [nextTimer_updateTimer, ht]
      exact hlt
    · intro t ht hnot
      rw [nextTimer_updateTimer] at ht
      rw [hnext.scheduled, List.mem_singleton] at hnot
      exact hended t ht hnot
  · have hlast : evs.count (.tick timer) = 15 := by
      have := hcounts.ticks_le
      omega
    have hidle := idle_updateTimer (hlast ▸ hcounts)
    refine ⟨Or.inl hidle, ?_, ?_, htoCome⟩
    · intro t ht
      rw [hidle.scheduled] at ht
      exact absurd ht List.not_mem_nil
    · intro t ht _
      rw [nextTimer_updateTimer] at ht
      by_cases hne : t = timer
      · rw [hne, hcount, hlast]
      · exact hended t ht hne

/-- **One tap or tick keeps the countdown.** -/
theorem Countdown.step (h : Countdown evs s) (hstep : ResendStep controller s ev s') :
    Countdown (evs ++ [ev]) s' := by
  obtain ⟨henabled, rfl⟩ := hstep
  cases ev with
  | tap reachable => exact h.tap henabled reachable
  | tick timer => exact h.tick henabled

/-- Every run from a fresh screen has its countdown. -/
theorem countdown_run {phone : PhoneLogin} (hrun : Run (ResendStep controller) { phone } evs s) :
    Countdown evs s :=
  hrun.history Countdown (fun _ _ _ _ hs hstep => hs.step hstep) (countdown_init phone)

/-- **A countdown ends** when the live timer has made the ticks that are left. -/
theorem countdown_ends {timer : TimerID} {ticks : Nat} (h : s.CountsDown timer ticks) :
    ∃ s', Run (ResendStep controller) s (List.replicate (16 - ticks) (.tick timer)) s' ∧
      s'.Idle := by
  obtain ⟨left, hleft⟩ : ∃ left, 15 - ticks = left := ⟨_, rfl⟩
  induction left generalizing s ticks with
  | zero =>
    have hlast : ticks = 15 := by
      have := h.ticks_le
      omega
    subst hlast
    exact ⟨s.updateTimer, .cons ⟨h.live, rfl⟩ (.nil _), idle_updateTimer h⟩
  | succ left ih =>
    obtain ⟨s', hrun, hidle⟩ := ih (countsDown_updateTimer h (by omega)) (by omega)
    have hticks : 16 - ticks = 16 - (ticks + 1) + 1 := by omega
    rw [hticks, List.replicate_succ]
    exact ⟨s', .cons ⟨h.live, rfl⟩ hrun, hidle⟩

/-- **One resend countdown at a time.**  After every run of taps and ticks from a
fresh screen at most one timer is live, the button is disabled exactly while one
is, the counter is in `0...15` and at fifteen whenever the button is enabled; and a
timer that was scheduled is live until its sixteenth tick, which it can make, and no
longer. -/
theorem one_countdown {phone : PhoneLogin} (hrun : Run (ResendStep controller) { phone } evs s) :
    s.scheduledTimers.length ≤ 1 ∧
    (s.resend.isEnabled = false ↔ s.scheduledTimers ≠ []) ∧
    (0 ≤ s.seconds ∧ s.seconds ≤ 15) ∧ (s.resend.isEnabled = true → s.seconds = 15) ∧
    ∀ timer < s.nextTimer,
      (timer ∈ s.scheduledTimers ∧ evs.count (.tick timer) < 16 ∧
        ∃ s', Run (ResendStep controller) s
            (List.replicate (16 - evs.count (.tick timer)) (.tick timer)) s' ∧
          s'.scheduledTimers = [] ∧ s'.resend.isEnabled = true) ∨
      (timer ∉ s.scheduledTimers ∧ evs.count (.tick timer) = 16) := by
  have h := countdown_run hrun
  rcases h.phase with hidle | ⟨live, hcounts⟩
  · rw [hidle.scheduled, hidle.enabled, hidle.seconds]
    refine ⟨Nat.zero_le 1, by simp, by omega, fun _ => rfl, ?_⟩
    intro timer ht
    have hnot : timer ∉ s.scheduledTimers := by
      rw [hidle.scheduled]
      exact List.not_mem_nil
    exact Or.inr ⟨List.not_mem_nil, h.ended timer ht hnot⟩
  · have hticks := hcounts.ticks_le
    have hended := h.ended
    rw [hcounts.scheduled] at hended ⊢
    rw [hcounts.disabled, hcounts.seconds]
    refine ⟨Nat.le_refl 1, by simp, by omega, fun hfalse => absurd hfalse Bool.false_ne_true, ?_⟩
    intro timer ht
    by_cases htimer : timer = live
    · subst htimer
      obtain ⟨s', hleft, hidle⟩ : ∃ s', Run (ResendStep controller) s
          (List.replicate (16 - evs.count (.tick timer)) (.tick timer)) s' ∧ s'.Idle :=
        countdown_ends hcounts
      exact Or.inl ⟨List.mem_singleton_self timer, by omega,
        s', hleft, hidle.scheduled, hidle.enabled⟩
    · have hnot : timer ∉ [live] := fun hmem => htimer (List.mem_singleton.mp hmem)
      exact Or.inr ⟨hnot, hended timer ht hnot⟩

/-- A resend without a network, one with a network, and its countdown. -/
theorem one_countdown_once :
    let controller : VerificationController := ⟨0, "+15550100001"⟩
    ∃ s, Run (ResendStep controller) {}
        ([.tap false, .tap true] ++ List.replicate 16 (.tick 0)) s ∧
      s.scheduledTimers = [] ∧ s.resend.isEnabled = true ∧ s.seconds = 15 := by
  intro controller
  have hidle : ResendScreen.Idle {} := ⟨rfl, rfl, rfl, rfl⟩
  have hcounts : (ResendScreen.sendSMSConfirmation {} controller true).CountsDown 0 0 :=
    countsDown_sendSMSConfirmation hidle
  obtain ⟨s, hticks, hend⟩ := countdown_ends hcounts
  have hrun : Run (ResendStep controller) {}
      ([.tap false, .tap true] ++ List.replicate 16 (.tick 0)) s :=
    .cons ⟨rfl, rfl⟩ (.cons ⟨rfl, rfl⟩ hticks)
  obtain ⟨_, hbutton, _, hseconds, _⟩ := one_countdown hrun
  refine ⟨s, hrun, ?_, hend.enabled, hseconds hend.enabled⟩
  rw [hend.enabled] at hbutton
  have hnot : ¬ s.scheduledTimers ≠ [] :=
    fun hlive => Bool.false_ne_true (hbutton.mpr hlive).symm
  exact Decidable.not_not.mp hnot

/-- The title of the button shows the counter. -/
theorem title_shows {phone : PhoneLogin} (hrun : Run (ResendStep controller) { phone } evs s) :
    s.resend.title = titleFor s.seconds := by
  have h := countdown_run hrun
  rcases h.phase with hidle | ⟨_, hcounts⟩
  · rw [hidle.title, hidle.seconds]
  · rw [hcounts.title, hcounts.seconds]

/-! ### The requests -/

/-- What a tap is on the screen at a position of the stack. -/
def ResendEvent.toPhoneEvent (screen : Nat) : ResendEvent → Option PhoneEvent
  | tap reachable => some (.resend screen reachable)
  | tick _ => none

theorem phone_sendSMSConfirmation (s : ResendScreen) (controller : VerificationController)
    (reachable : Bool) : (s.sendSMSConfirmation controller reachable).phone =
      s.phone.resendSMSConfirmation controller reachable := by
  cases reachable <;> rfl

theorem phone_updateTimer (s : ResendScreen) : s.updateTimer.phone = s.phone := by
  unfold ResendScreen.updateTimer
  split <;> rfl

/-- **A run of taps and ticks is a run of the Resend taps of the phone login.** -/
theorem run_phone {issuedFor : VerificationID → PhoneNumber} {screen : Nat}
    (hscreen : s.phone.navigation[screen]? = some (.verification controller))
    (hrun : Run (ResendStep controller) s evs s') :
    Run (PhoneStep issuedFor) s.phone (evs.filterMap (ResendEvent.toPhoneEvent screen))
      s'.phone := by
  induction hrun with
  | nil s => exact .nil _
  | @cons s t u ev evs hstep _ ih =>
    obtain ⟨_, rfl⟩ := hstep
    cases ev with
    | tap reachable =>
      have hphone := phone_sendSMSConfirmation s controller reachable
      have hstep : PhoneStep issuedFor s.phone (.resend screen reachable)
          (s.sendSMSConfirmation controller reachable).phone := by
        refine ⟨⟨controller, hscreen⟩, ?_⟩
        simp only [PhoneEvent.handle, hscreen]
        exact hphone
      refine .cons hstep (ih ?_)
      show (s.sendSMSConfirmation controller reachable).phone.navigation[screen]? = _
      rw [hphone]
      cases reachable <;> exact hscreen
    | tick timer =>
      have hphone := phone_updateTimer s
      have hrest := ih (by rw [← hscreen]; exact congrArg (·.navigation[screen]?) hphone)
      rw [← hphone]
      exact hrest

/-- **Each request has its countdown**: as many are sent as timers are scheduled. -/
theorem requests_eq {phone : PhoneLogin} (hrun : Run (ResendStep controller) { phone } evs s) :
    s.phone.outstanding =
      phone.outstanding ++ List.replicate s.nextTimer (.resend controller.titleNumber) := by
  refine hrun.invariant (fun s => s.phone.outstanding = phone.outstanding ++
    List.replicate s.nextTimer (.resend controller.titleNumber)) ?_ (List.append_nil _).symm
  rintro s ev s' hs ⟨_, rfl⟩
  cases ev with
  | tap reachable =>
    cases reachable with
    | false => exact hs
    | true =>
      show s.phone.outstanding ++ [_] = _ ++ List.replicate (s.nextTimer + 1) _
      rw [hs, List.append_assoc, List.replicate_succ']
  | tick timer =>
    show s.updateTimer.phone.outstanding = _ ++ List.replicate s.updateTimer.nextTimer _
    rw [phone_updateTimer, nextTimer_updateTimer]
    exact hs

/-! ### The limit on requests -/

def ResendEvent.isTick : ResendEvent → Bool
  | tap _ => false
  | tick _ => true

/-- The ticks until the button is enabled. -/
def ResendScreen.toGo (s : ResendScreen) : Int := if s.resend.isEnabled then 0 else s.seconds + 1

theorem ResendScreen.Idle.toGo (h : s.Idle) : s.toGo = 0 := if_pos h.enabled

theorem ResendScreen.CountsDown.toGo {timer : TimerID} {ticks : Nat}
    (h : s.CountsDown timer ticks) : s.toGo = 16 - ticks := by
  have hseconds := h.seconds
  rw [ResendScreen.toGo, h.disabled, if_neg Bool.false_ne_true]
  omega

/-- A tick brings the end of the countdown one tick nearer. -/
theorem toGo_updateTimer {timer : TimerID} {ticks : Nat} (h : s.CountsDown timer ticks) :
    s.updateTimer.toGo + 1 = s.toGo := by
  rw [h.toGo]
  by_cases hticks : ticks < 15
  · rw [(countsDown_updateTimer h hticks).toGo]
    omega
  · obtain rfl : ticks = 15 := by
      have := h.ticks_le
      omega
    rw [(idle_updateTimer h).toGo]
    rfl

/-- **The ticks made and to go are sixteen for each timer.** -/
theorem ticks_add_toGo {phone : PhoneLogin} (hrun : Run (ResendStep controller) { phone } evs s) :
    (evs.countP ResendEvent.isTick : Int) + s.toGo = 16 * s.nextTimer := by
  refine (hrun.history (fun evs s => Countdown evs s ∧
    (evs.countP ResendEvent.isTick : Int) + s.toGo = 16 * s.nextTimer) ?_
    ⟨countdown_init phone, rfl⟩).2
  rintro evs s ev s' ⟨h, hlaw⟩ hstep
  refine ⟨h.step hstep, ?_⟩
  obtain ⟨henabled, rfl⟩ := hstep
  rw [List.countP_append]
  cases ev with
  | tap reachable =>
    have hidle := h.idle henabled
    cases reachable with
    | false => exact hlaw
    | true =>
      have hstart : (s.sendSMSConfirmation controller true).toGo = 16 :=
        (countsDown_sendSMSConfirmation hidle).toGo
      rw [hidle.toGo] at hlaw
      show ((evs.countP ResendEvent.isTick + 0 : Nat) : Int) +
        (s.sendSMSConfirmation controller true).toGo = 16 * (s.nextTimer + 1 : Nat)
      omega
  | tick timer =>
    have hnext := toGo_updateTimer (h.countsDown henabled)
    show ((evs.countP ResendEvent.isTick + 1 : Nat) : Int) + s.updateTimer.toGo =
      16 * s.updateTimer.nextTimer
    rw [nextTimer_updateTimer]
    omega

/-- **One request in sixteen ticks.**  After every run of taps and ticks from a fresh
screen, the requests sent are all for the number on the screen; the ticks made, with
those still to go until the button is enabled, are sixteen for each request, so at
least sixteen ticks have passed for every request but the last; and the title shows
what is left. -/
theorem resend_limit {phone : PhoneLogin} (hrun : Run (ResendStep controller) { phone } evs s) :
    ∃ requests : Nat, s.phone.outstanding =
        phone.outstanding ++ List.replicate requests (.resend controller.titleNumber) ∧
      (evs.countP ResendEvent.isTick : Int) + s.toGo = 16 * requests ∧
      16 * (requests - 1) ≤ evs.countP ResendEvent.isTick ∧
      s.resend.title = titleFor s.seconds := by
  have hlaw := ticks_add_toGo hrun
  have htoGo : s.toGo ≤ 16 := by
    rcases (countdown_run hrun).phase with hidle | ⟨_, hcounts⟩
    · rw [hidle.toGo]
      decide
    · rw [hcounts.toGo]
      omega
  exact ⟨s.nextTimer, requests_eq hrun, hlaw, by omega, title_shows hrun⟩

/-- A request, two ticks, and a tick more. -/
theorem resend_limit_threeTicks :
    let controller : VerificationController := ⟨0, "+15550100001"⟩
    ∃ s, Run (ResendStep controller) {} [.tap true, .tick 0, .tick 0, .tick 0] s ∧
      s.phone.outstanding = [.resend "+15550100001"] ∧ s.toGo = 13 ∧
      s.resend.title = titleFor 12 := by
  intro controller
  let s : ResendScreen :=
    (ResendScreen.sendSMSConfirmation {} controller true).updateTimer.updateTimer.updateTimer
  have hrun : Run (ResendStep controller) {} [.tap true, .tick 0, .tick 0, .tick 0] s :=
    .cons ⟨rfl, rfl⟩ (.cons ⟨by decide, rfl⟩ (.cons ⟨by decide, rfl⟩ (.cons ⟨by decide, rfl⟩
      (.nil _))))
  obtain ⟨requests, hrequests, hlaw, _, htitle⟩ := resend_limit hrun
  have htoGo : s.toGo = 13 := rfl
  have hticks : (3 : Int) + s.toGo = 16 * requests := hlaw
  obtain rfl : requests = 1 := by omega
  exact ⟨s, hrun, hrequests, htoGo, htitle⟩

end InventoryApp
