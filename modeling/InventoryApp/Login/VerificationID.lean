import InventoryApp.Login.PhoneLogin
import Mathlib.Data.List.Nodup

/-!
# Which verification id a code is checked with

`AuthManager` has one slot for the id, and a `startAuth` callback overwrites it.
So the slot always holds the id of the newest answer to a Next request
(`Consistent`), whatever the screens show.  Two laws one would like depend on
more than that.

A Submit on a screen should use an id issued for the number of that screen
(`CheckedAgainstScreen`).  It does exactly when the newest answer to a Next
request was for that number; a screen that is pushed before its request was
answered, or that was left and a newer one answered, breaks it.

A Submit should use the newest id there is (`UsesNewestID`), also after a resend.
The Resend button calls Firebase itself and drops the id, so it does exactly
when the newest answer was to a Next request.
-/

namespace InventoryApp

open Lib

def Request.isStartAuth : Request → Bool
  | startAuth _ _ => true
  | resend _ => false

/-- The newest answer to a Next request. -/
def PhoneLogin.lastStarted (s : PhoneLogin) : Option Answer :=
  (s.answers.filter (·.request.isStartAuth)).getLast?

/-- The slot holds the id of the newest answer to a Next request, and every
answer was issued for the number that was asked for. -/
structure Consistent (issuedFor : VerificationID → PhoneNumber) (s : PhoneLogin) : Prop where
  slot : s.verificationId = s.lastStarted.map Answer.verificationID
  issued : ∀ a ∈ s.answers, issuedFor a.verificationID = a.request.phoneNumber

variable {issuedFor : VerificationID → PhoneNumber} {s s' : PhoneLogin} {ev : PhoneEvent}

theorem PhoneLogin.mem_of_lastStarted {a : Answer} (h : s.lastStarted = some a) :
    a ∈ s.answers ∧ a.request.isStartAuth = true := by
  have := List.mem_of_getLast? h
  exact List.mem_filter.mp this

theorem Consistent.init : Consistent issuedFor {} := ⟨rfl, by simp⟩

theorem Consistent.congr (h : Consistent issuedFor s) (hslot : s'.verificationId = s.verificationId)
    (hans : s'.answers = s.answers) : Consistent issuedFor s' := by
  refine ⟨?_, hans ▸ h.issued⟩
  rw [hslot, h.slot, PhoneLogin.lastStarted, PhoneLogin.lastStarted, hans]

/-- **Every step keeps the slot in line with the answers.** -/
theorem Consistent.step (h : Consistent issuedFor s) (hstep : PhoneStep issuedFor s ev s') :
    Consistent issuedFor s' := by
  rcases phoneStep_cases hstep with he | ⟨_, r, id, _, _, hid, he⟩ | ⟨_, _, _, _, _, _, _, he⟩
  · obtain ⟨hslot, he⟩ := Prod.mk.inj he
    exact h.congr hslot (Prod.mk.inj he).1
  · obtain ⟨hslot, he⟩ := Prod.mk.inj he
    obtain ⟨hans, _⟩ := Prod.mk.inj he
    refine ⟨?_, ?_⟩
    · rw [hslot, PhoneLogin.lastStarted, hans, List.filter_append]
      cases r with
      | startAuth n c => simp [Request.isStartAuth]
      | resend n =>
        rw [show [Answer.mk (.resend n) id].filter (·.request.isStartAuth) = [] from rfl,
          List.append_nil]
        exact h.slot
    · intro a ha
      rw [hans] at ha
      rcases List.mem_append.mp ha with ha | ha
      · exact h.issued a ha
      · rw [List.mem_singleton.mp ha]; exact hid
  · obtain ⟨hslot, he⟩ := Prod.mk.inj he
    exact h.congr hslot (Prod.mk.inj he).1

/-- A Submit with a connection builds a credential with the newest id that answered a
Next request, if there is one. -/
theorem signIns_of_submit {screen : Nat} {smsCode : String} {controller : VerificationController}
    (h : Consistent issuedFor s) (hstep : PhoneStep issuedFor s (.submit screen smsCode true) s')
    (hscreen : s.navigation[screen]? = some (.verification controller)) :
    s'.signIns = s.signIns ++
      (s.lastStarted.map fun a => SignIn.mk controller a.verificationID smsCode).toList := by
  obtain ⟨_, rfl⟩ := hstep
  have hslot := h.slot
  simp only [PhoneEvent.handle, hscreen, PhoneLogin.authenticate, Bool.not_true,
    Bool.false_eq_true, if_false, PhoneLogin.verifyCode, hslot]
  cases s.lastStarted with
  | none => exact (List.append_nil _).symm
  | some a => rfl

theorem added_of_submit {screen : Nat} {smsCode : String} {controller : VerificationController}
    {signIn : SignIn} (h : Consistent issuedFor s)
    (hstep : PhoneStep issuedFor s (.submit screen smsCode true) s')
    (hscreen : s.navigation[screen]? = some (.verification controller))
    (hadded : s'.signIns = s.signIns ++ [signIn]) :
    ∃ a, s.lastStarted = some a ∧ signIn = ⟨controller, a.verificationID, smsCode⟩ := by
  have hnew := List.append_cancel_left ((signIns_of_submit h hstep hscreen).symm.trans hadded)
  cases ha : s.lastStarted with
  | none => rw [ha] at hnew; cases hnew
  | some a =>
    rw [ha] at hnew
    exact ⟨a, rfl, (List.singleton_inj.mp hnew).symm⟩

/-! ### The number on screen -/

/-- A credential built on a screen has an id issued for the screen's number, and
there is none before an id was delivered for it. -/
def CheckedAgainstScreen (issuedFor : VerificationID → PhoneNumber) (s : PhoneLogin)
    (ev : PhoneEvent) (s' : PhoneLogin) : Prop :=
  ∀ screen smsCode controller, ev = .submit screen smsCode true →
    s.navigation[screen]? = some (.verification controller) →
    (∀ signIn, s'.signIns = s.signIns ++ [signIn] →
      issuedFor signIn.withVerificationID = controller.titleNumber) ∧
    ((∀ a ∈ s.answers, a.request.phoneNumber ≠ controller.titleNumber) → s'.signIns = s.signIns)

/-- The newest answer to a Next request, if there is one, was for the screen's number. -/
def NewestIsForScreen (s : PhoneLogin) (ev : PhoneEvent) : Prop :=
  ∀ screen smsCode controller, ev = .submit screen smsCode true →
    s.navigation[screen]? = some (.verification controller) →
    ∀ a, s.lastStarted = some a → a.request.phoneNumber = controller.titleNumber

theorem checkedAgainstScreen_step (h : Consistent issuedFor s)
    (hstep : PhoneStep issuedFor s ev s') :
    CheckedAgainstScreen issuedFor s ev s' ↔ NewestIsForScreen s ev := by
  constructor
  · rintro hc screen smsCode controller rfl hscreen a ha
    have hsignIns := signIns_of_submit h hstep hscreen
    rw [ha] at hsignIns
    have hnumber := (hc screen smsCode controller rfl hscreen).1 _ hsignIns
    rw [← hnumber]
    exact (h.issued a (PhoneLogin.mem_of_lastStarted ha).1).symm
  · rintro hn screen smsCode controller rfl hscreen
    refine ⟨?_, ?_⟩
    · intro signIn hadded
      obtain ⟨a, ha, rfl⟩ := added_of_submit h hstep hscreen hadded
      rw [← hn screen smsCode controller rfl hscreen a ha]
      exact h.issued a (PhoneLogin.mem_of_lastStarted ha).1
    · intro hnone
      rw [signIns_of_submit h hstep hscreen]
      cases ha : s.lastStarted with
      | none => exact List.append_nil _
      | some a =>
        have hnumber := hn screen smsCode controller rfl hscreen a ha
        exact absurd hnumber (hnone a (PhoneLogin.mem_of_lastStarted ha).1)

/-- **When codes are checked against the number on screen.**  Over all schedules
of taps and callbacks, every Submit is checked against its screen's number if and
only if at every Submit the newest answer to a Next request was for that number. -/
theorem checkedAgainstScreen_iff (issuedFor : VerificationID → PhoneNumber)
    (evs : List PhoneEvent) :
    Always (PhoneStep issuedFor) (CheckedAgainstScreen issuedFor) {} evs ↔
      Always (PhoneStep issuedFor) (fun s ev _ => NewestIsForScreen s ev) {} evs :=
  always_iff_always (Consistent issuedFor) (fun _ _ _ h hstep => checkedAgainstScreen_step h hstep)
    (fun _ _ _ h hstep _ => h.step hstep) Consistent.init evs

/-- A code for a first number is answered, the user goes back and asks for a
second number, and submits on the new screen before that request is answered. -/
theorem submit_not_checkedAgainstScreen :
    let issuedFor : VerificationID → PhoneNumber :=
      fun id => if id = "id1" then "+15550100001" else "+15550100002"
    let evs : List PhoneEvent := [.phoneButtonTapped, .next 1 "+1" "5550100001" true,
      .callback 0 (some "id1"), .back, .back, .next 1 "+1" "5550100002" true]
    ∃ s s' controller, Run (PhoneStep issuedFor) {} evs s ∧
      s.navigation[2]? = some (.verification controller) ∧
      controller.titleNumber = "+15550100002" ∧
      PhoneStep issuedFor s (.submit 2 "123456" true) s' ∧
      s'.signIns = [⟨controller, "id1", "123456"⟩] ∧
      ¬ CheckedAgainstScreen issuedFor s (.submit 2 "123456" true) s' := by
  intro issuedFor evs
  let s := evs.foldl PhoneEvent.handle {}
  have hscreen : s.navigation[2]? = some (.verification ⟨3, "+15550100002"⟩) := by decide
  have hrun : Run (PhoneStep issuedFor) {} evs s :=
    .cons ⟨rfl, rfl⟩ <| .cons ⟨⟨_, rfl⟩, rfl⟩ <|
    .cons ⟨⟨_, rfl, fun _ h => by cases h; rfl⟩, rfl⟩ <|
    .cons ⟨show 1 < _ by decide, rfl⟩ <| .cons ⟨show 1 < _ by decide, rfl⟩ <|
    .cons ⟨⟨_, rfl⟩, rfl⟩ <| .nil s
  refine ⟨s, _, _, hrun, hscreen, rfl, ⟨⟨_, hscreen⟩, rfl⟩, by decide, ?_⟩
  intro hc
  have := (hc 2 "123456" _ rfl hscreen).1 ⟨⟨3, "+15550100002"⟩, "id1", "123456"⟩ (by decide)
  exact absurd this (by decide)

/-! ### The newest id -/

/-- A step in which an id that answers a request is a new one. -/
def NewIDStep (issuedFor : VerificationID → PhoneNumber) (s : PhoneLogin) (ev : PhoneEvent)
    (s' : PhoneLogin) : Prop :=
  PhoneStep issuedFor s ev s' ∧ ∀ request id, ev = .callback request (some id) →
    ∀ a ∈ s.answers, a.verificationID ≠ id

/-- With no request outstanding, a Submit uses the id of the newest answer. -/
def UsesNewestID (s : PhoneLogin) (ev : PhoneEvent) (s' : PhoneLogin) : Prop :=
  ∀ screen smsCode controller, ev = .submit screen smsCode true →
    s.navigation[screen]? = some (.verification controller) → s.outstanding = [] →
    ∀ a, s.answers.getLast? = some a →
      s'.signIns = s.signIns ++ [⟨controller, a.verificationID, smsCode⟩]

/-- With no request outstanding, the newest answer was to a Next request. -/
def NewestIsStarted (s : PhoneLogin) (ev : PhoneEvent) : Prop :=
  ∀ screen smsCode controller, ev = .submit screen smsCode true →
    s.navigation[screen]? = some (.verification controller) → s.outstanding = [] →
    ∀ a, s.answers.getLast? = some a → a.request.isStartAuth = true

/-- No two answers have one id. -/
def DistinctIDs (s : PhoneLogin) : Prop := (s.answers.map Answer.verificationID).Nodup

theorem DistinctIDs.step (h : DistinctIDs s) (hstep : NewIDStep issuedFor s ev s') :
    DistinctIDs s' := by
  obtain ⟨hstep, hnew⟩ := hstep
  unfold DistinctIDs
  rcases phoneStep_cases hstep with he | ⟨request, r, id, rfl, _, _, he⟩ |
    ⟨_, _, _, _, _, _, _, he⟩
  · rw [(Prod.mk.inj (Prod.mk.inj he).2).1]; exact h
  · rw [(Prod.mk.inj (Prod.mk.inj he).2).1, List.map_append, List.nodup_append]
    refine ⟨h, by simp, ?_⟩
    intro x hx y hy
    obtain ⟨a, ha, rfl⟩ := List.mem_map.mp hx
    rw [List.map_singleton, List.mem_singleton] at hy
    rw [hy]
    exact hnew request id rfl a ha
  · rw [(Prod.mk.inj (Prod.mk.inj he).2).1]; exact h

/-- When the newest answer is to a Next request, it is the newest such answer. -/
theorem lastStarted_of_getLast? {a : Answer} (h : s.answers.getLast? = some a)
    (ha : a.request.isStartAuth = true) : s.lastStarted = some a := by
  obtain ⟨pre, hpre⟩ := List.getLast?_eq_some_iff.mp h
  have hlast : [a].filter (·.request.isStartAuth) = [a] := List.filter_eq_self.mpr fun b hb => by
    rw [List.mem_singleton.mp hb]; exact ha
  rw [PhoneLogin.lastStarted, hpre, List.filter_append, hlast]
  exact List.getLast?_concat

theorem usesNewestID_step (h : Consistent issuedFor s) (hd : DistinctIDs s)
    (hstep : PhoneStep issuedFor s ev s') : UsesNewestID s ev s' ↔ NewestIsStarted s ev := by
  constructor
  · rintro hu screen smsCode controller rfl hscreen hout a ha
    have hadded := hu screen smsCode controller rfl hscreen hout a ha
    obtain ⟨b, hb, hused⟩ := added_of_submit h hstep hscreen hadded
    -- both answers have the id that was used, so they are one answer
    have hid : a.verificationID = b.verificationID := congrArg SignIn.withVerificationID hused
    obtain ⟨hmem, hstarted⟩ := PhoneLogin.mem_of_lastStarted hb
    rw [List.inj_on_of_nodup_map hd (List.mem_of_getLast? ha) hmem hid]
    exact hstarted
  · rintro hn screen smsCode controller rfl hscreen hout a ha
    have hstarted := hn screen smsCode controller rfl hscreen hout a ha
    rw [signIns_of_submit h hstep hscreen, lastStarted_of_getLast? ha hstarted]
    rfl

/-- **When a resent code is the one that is verified.**  Over all schedules in
which every answer is a new id, every Submit made with no request outstanding
uses the newest id if and only if at every such Submit the newest answer was to a
Next request and not to a Resend. -/
theorem usesNewestID_iff (issuedFor : VerificationID → PhoneNumber) (evs : List PhoneEvent) :
    Always (NewIDStep issuedFor) UsesNewestID {} evs ↔
      Always (NewIDStep issuedFor) (fun s ev _ => NewestIsStarted s ev) {} evs := by
  refine always_iff_always (fun s => Consistent issuedFor s ∧ DistinctIDs s) ?_ ?_
    ⟨Consistent.init, List.nodup_nil⟩ evs
  · rintro s ev s' ⟨h, hd⟩ ⟨hstep, _⟩
    exact usesNewestID_step h hd hstep
  · rintro s ev s' ⟨h, hd⟩ hstep _
    exact ⟨h.step hstep.1, hd.step hstep⟩

/-- A code is sent and sent again, and the newer one is submitted with the id of the older. -/
theorem resend_not_usesNewestID :
    let issuedFor : VerificationID → PhoneNumber := fun _ => "+15550100001"
    let evs : List PhoneEvent := [.phoneButtonTapped, .next 1 "+1" "5550100001" true,
      .callback 0 (some "id1"), .resend 3 true, .callback 0 (some "id2")]
    ∃ s s' controller, Run (NewIDStep issuedFor) {} evs s ∧ s.outstanding = [] ∧
      s.navigation[3]? = some (.verification controller) ∧
      s.answers.map Answer.verificationID = ["id1", "id2"] ∧
      NewIDStep issuedFor s (.submit 3 "123456" true) s' ∧
      s'.signIns = [⟨controller, "id1", "123456"⟩] ∧
      ¬ UsesNewestID s (.submit 3 "123456" true) s' := by
  intro issuedFor evs
  let s := evs.foldl PhoneEvent.handle {}
  have hscreen : s.navigation[3]? = some (.verification ⟨2, "+15550100001"⟩) := by decide
  have hrun : Run (NewIDStep issuedFor) {} evs s :=
    .cons ⟨⟨rfl, rfl⟩, by rintro _ _ ⟨⟩⟩ <| .cons ⟨⟨⟨_, rfl⟩, rfl⟩, by rintro _ _ ⟨⟩⟩ <|
    .cons ⟨⟨⟨_, rfl, fun _ _ => rfl⟩, rfl⟩, by rintro _ _ ⟨⟩; decide⟩ <|
    .cons ⟨⟨⟨_, rfl⟩, rfl⟩, by rintro _ _ ⟨⟩⟩ <|
    .cons ⟨⟨⟨_, rfl, fun _ _ => rfl⟩, rfl⟩, by rintro _ _ ⟨⟩; decide⟩ <| .nil s
  refine ⟨s, _, _, hrun, rfl, hscreen, by decide, ⟨⟨⟨_, hscreen⟩, rfl⟩, by rintro _ _ ⟨⟩⟩,
    by decide, ?_⟩
  intro hu
  have := hu 3 "123456" _ rfl hscreen rfl _ rfl
  exact absurd this (by decide)

end InventoryApp
