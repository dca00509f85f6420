import InventoryApp.Login.PhoneLogin
import InventoryApp.Login.PhoneNumberViewController

/-!
# The screens of a phone sign-in

`PhoneEntry` is the phone screen with its list of countries, and `PhoneLogin` the
stack of screens with what was asked of Firebase.  Here they are put together: a
`PhoneScreens` has both, a tap on Next sends what the phone screen shows, and a
step back goes to the screen that is on top, where the list lies on the phone
screen.  The verification screens lie over both.

`PhoneScreensStep` makes each event an event of the one, of the other or of both,
so each half runs as it does alone (`PhoneScreensStep.entry` and `.login`).  Two
facts about `PhoneLogin` are proved alone: how the stack looks (`Stacked`), and that
a property of what is typed in is one of every number it deals with (`NumbersAre`).
-/

namespace InventoryApp

open Lib

/-! ### What a step does to the stack and to the requests -/

section Login

variable {issuedFor : VerificationID → PhoneNumber} {s s' : PhoneLogin} {ev : PhoneEvent}
  {P : PhoneNumber → Prop}

/-- A tap on Next pushes a screen for the number, whatever else it does. -/
theorem PhoneLogin.navigation_rightBarButtonDidTap (s : PhoneLogin) (c : PhoneNumberController)
    (n : PhoneNumber) (reachable : Bool) : ∃ v : VerificationController, v.titleNumber = n ∧
      (s.rightBarButtonDidTap c n reachable).navigation = s.navigation ++ [.verification v] := by
  refine ⟨⟨(s.baseRightBarButtonDidTap c n reachable).nextRef, n⟩, rfl, ?_⟩
  have hbase : (s.baseRightBarButtonDidTap c n reachable).navigation = s.navigation := by
    unfold PhoneLogin.baseRightBarButtonDidTap
    split
    · rfl
    · split <;> rfl
  exact congrArg (· ++ _) hbase

/-- The number of a screen that was pushed: it was typed in, or a request for it was answered. -/
def Pushed (s : PhoneLogin) (ev : PhoneEvent) (number : PhoneNumber) : Prop :=
  (∃ screen countryCode phoneNumber reachable,
    ev = .next screen countryCode phoneNumber reachable ∧ number = countryCode ++ phoneNumber) ∨
  ∃ r ∈ s.outstanding, number = r.phoneNumber

/-- **A step leaves the stack, pushes the phone screen on the login screen, pushes a
verification screen over a phone screen, or pops.** -/
theorem navigation_cases (h : PhoneStep issuedFor s ev s') :
    s'.navigation = s.navigation ∨
    (ev = .phoneButtonTapped ∧ s.navigation.getLast? = some .login ∧
      ∃ c, s'.navigation = s.navigation ++ [.phoneNumber c]) ∨
    (∃ c v, .phoneNumber c ∈ s.navigation ∧ Pushed s ev v.titleNumber ∧
      s'.navigation = s.navigation ++ [.verification v]) ∨
    (ev = .back ∧ 1 < s.navigation.length ∧ s'.navigation = s.navigation.dropLast) := by
  obtain ⟨henabled, rfl⟩ := h
  cases ev with
  | phoneButtonTapped => exact Or.inr (Or.inl ⟨rfl, henabled, _, rfl⟩)
  | back =>
    have hlength : 1 < s.navigation.length := henabled
    refine Or.inr (Or.inr (Or.inr ⟨rfl, hlength, ?_⟩))
    rw [PhoneEvent.handle, PhoneLogin.popViewController, if_pos hlength]
  | next screen countryCode phoneNumber reachable =>
    obtain ⟨c, hc⟩ := henabled
    obtain ⟨v, hv, heq⟩ :=
      s.navigation_rightBarButtonDidTap c (countryCode ++ phoneNumber) reachable
    refine Or.inr (Or.inr (Or.inl ⟨c, v, List.mem_of_getElem? hc, ?_, ?_⟩))
    · exact Or.inl ⟨screen, countryCode, phoneNumber, reachable, rfl, hv⟩
    · simp only [PhoneEvent.handle, hc]
      exact heq
  | resend screen reachable =>
    obtain ⟨c, hc⟩ := henabled
    left
    simp only [PhoneEvent.handle, hc, PhoneLogin.resendSMSConfirmation]
    split <;> rfl
  | submit screen smsCode reachable =>
    obtain ⟨c, hc⟩ := henabled
    left
    simp only [PhoneEvent.handle, hc, PhoneLogin.authenticate, PhoneLogin.verifyCode]
    split
    · rfl
    · split <;> rfl
  | callback request outcome =>
    obtain ⟨r, hr, _⟩ := henabled
    simp only [PhoneEvent.handle, PhoneLogin.answer, hr]
    cases outcome with
    | none => exact Or.inl rfl
    | some id =>
      cases r with
      | resend n => exact Or.inl rfl
      | startAuth n c =>
        by_cases hc : Screen.phoneNumber c ∈ s.navigation
        · refine Or.inr (Or.inr (Or.inl ⟨c, ⟨s.nextRef, n⟩, hc,
            Or.inr ⟨_, List.mem_of_getElem? hr, rfl⟩, ?_⟩))
          simp only [PhoneLogin.succeed, PhoneLogin.startAuthCompletion, if_pos hc]
          rfl
        · left
          simp only [PhoneLogin.succeed, PhoneLogin.startAuthCompletion, if_neg hc]

/-- A request is for a number that was typed in or that a screen shows. -/
theorem outstanding_cases (h : PhoneStep issuedFor s ev s') {r : Request}
    (hr : r ∈ s'.outstanding) :
    r ∈ s.outstanding ∨ Pushed s ev r.phoneNumber ∨
      ∃ c, .verification c ∈ s.navigation ∧ r.phoneNumber = c.titleNumber := by
  obtain ⟨henabled, rfl⟩ := h
  cases ev with
  | phoneButtonTapped => exact Or.inl hr
  | back =>
    left
    rw [PhoneEvent.handle, PhoneLogin.popViewController] at hr
    split at hr <;> exact hr
  | next screen countryCode phoneNumber reachable =>
    obtain ⟨c, hc⟩ := henabled
    simp only [PhoneEvent.handle, hc, PhoneLogin.rightBarButtonDidTap,
      PhoneLogin.baseRightBarButtonDidTap] at hr
    split at hr
    · exact Or.inl hr
    · split at hr
      · rcases List.mem_append.mp hr with hold | hnew
        · exact Or.inl hold
        · rw [List.mem_singleton.mp hnew]
          exact Or.inr (Or.inl (Or.inl ⟨_, _, _, _, rfl, rfl⟩))
      · exact Or.inl hr
  | resend screen reachable =>
    obtain ⟨c, hc⟩ := henabled
    simp only [PhoneEvent.handle, hc, PhoneLogin.resendSMSConfirmation] at hr
    split at hr
    · exact Or.inl hr
    · rcases List.mem_append.mp hr with hold | hnew
      · exact Or.inl hold
      · rw [List.mem_singleton.mp hnew]
        exact Or.inr (Or.inr ⟨c, List.mem_of_getElem? hc, rfl⟩)
  | submit screen smsCode reachable =>
    obtain ⟨c, hc⟩ := henabled
    left
    simp only [PhoneEvent.handle, hc, PhoneLogin.authenticate, PhoneLogin.verifyCode] at hr
    split at hr
    · exact hr
    · split at hr <;> exact hr
  | callback request outcome =>
    obtain ⟨r', hr', _⟩ := henabled
    left
    refine List.mem_of_mem_eraseIdx (i := request) ?_
    simp only [PhoneEvent.handle, PhoneLogin.answer, hr'] at hr
    cases outcome with
    | none => exact hr
    | some id =>
      cases r' with
      | resend n => exact hr
      | startAuth n c =>
        simp only [PhoneLogin.succeed, PhoneLogin.startAuthCompletion] at hr
        split at hr <;> exact hr

/-- The login screen, and over it the phone screen, and over it verification screens. -/
def PhoneLogin.Stacked (s : PhoneLogin) : Prop :=
  s.navigation = [.login] ∨
    ∃ c vs, s.navigation = .login :: .phoneNumber c :: List.map Screen.verification vs

theorem PhoneLogin.Stacked.one_lt_length (h : s.Stacked) {c : PhoneNumberController}
    (hc : .phoneNumber c ∈ s.navigation) : 1 < s.navigation.length := by
  rcases h with hroot | ⟨_, vs, hstack⟩
  · rw [hroot, List.mem_singleton] at hc
    cases hc
  · rw [hstack]
    simp

/-- What is on top tells what is below. -/
theorem PhoneLogin.Stacked.of_getLast? (h : s.Stacked) {screen : Screen}
    (hlast : s.navigation.getLast? = some screen) :
    (screen = .login ∧ s.navigation = [.login]) ∨
    (∃ c, screen = .phoneNumber c ∧ s.navigation = [.login, .phoneNumber c]) ∨
    ∃ v, screen = .verification v ∧ 2 < s.navigation.length := by
  rcases h with hroot | ⟨c, vs, hstack⟩
  · rw [hroot] at hlast
    exact Or.inl ⟨(Option.some.inj hlast).symm, hroot⟩
  · rw [hstack] at hlast
    rcases List.eq_nil_or_concat' vs with rfl | ⟨vs, v, rfl⟩
    · exact Or.inr (Or.inl ⟨c, (Option.some.inj hlast).symm, hstack⟩)
    · rw [List.map_append, ← List.cons_append, ← List.cons_append, List.map_singleton,
        List.getLast?_concat] at hlast
      refine Or.inr (Or.inr ⟨v, (Option.some.inj hlast).symm, ?_⟩)
      rw [hstack]
      simp

/-- **Every step keeps the stack in order.** -/
theorem PhoneLogin.Stacked.step (h : s.Stacked) (hstep : PhoneStep issuedFor s ev s') :
    s'.Stacked := by
  rcases navigation_cases hstep with heq | ⟨_, hlast, c, heq⟩ | ⟨c, v, hc, _, heq⟩ |
    ⟨_, hlength, heq⟩
  · rwa [PhoneLogin.Stacked, heq]
  · rcases h.of_getLast? hlast with ⟨_, hroot⟩ | ⟨_, hscreen, _⟩ | ⟨_, hscreen, _⟩
    · exact Or.inr ⟨c, [], by rw [heq, hroot]; rfl⟩
    · cases hscreen
    · cases hscreen
  · rcases h with hroot | ⟨c', vs, hstack⟩
    · rw [hroot] at hc
      exact absurd hc (by simp)
    · exact Or.inr ⟨c', vs ++ [v], by rw [heq, hstack, List.map_append]; rfl⟩
  · rcases h with hroot | ⟨c, vs, hstack⟩
    · rw [hroot] at hlength
      exact absurd hlength (Nat.lt_irrefl 1)
    · rw [PhoneLogin.Stacked, heq, hstack]
      rcases List.eq_nil_or_concat' vs with rfl | ⟨vs, v, rfl⟩
      · exact Or.inl rfl
      · refine Or.inr ⟨c, vs, ?_⟩
        rw [List.map_append, ← List.cons_append, ← List.cons_append]
        exact List.dropLast_concat

/-- Every number the login deals with has `P`, also the numbers its ids were issued for. -/
structure PhoneLogin.NumbersAre (issuedFor : VerificationID → PhoneNumber)
    (P : PhoneNumber → Prop) (s : PhoneLogin) : Prop where
  screens : ∀ c, .verification c ∈ s.navigation → P c.titleNumber
  outstanding : ∀ r ∈ s.outstanding, P r.phoneNumber
  verificationId : ∀ id, s.verificationId = some id → P (issuedFor id)
  signIns : ∀ signIn ∈ s.signIns,
    P signIn.controller.titleNumber ∧ P (issuedFor signIn.withVerificationID)

/-- An id comes from a request, and a credential from the id and a screen. -/
theorem PhoneLogin.NumbersAre.ids (h : s.NumbersAre issuedFor P)
    (hstep : PhoneStep issuedFor s ev s') :
    (∀ id, s'.verificationId = some id → P (issuedFor id)) ∧
      ∀ signIn ∈ s'.signIns,
        P signIn.controller.titleNumber ∧ P (issuedFor signIn.withVerificationID) := by
  rcases phoneStep_cases hstep with he | ⟨_, r, id, _, hr, hid, he⟩ | ⟨_, _, c, id, _, hc, hid, he⟩
  · obtain ⟨hslot, he⟩ := Prod.mk.inj he
    obtain ⟨_, hsignIns⟩ := Prod.mk.inj he
    exact ⟨hslot ▸ h.verificationId, hsignIns ▸ h.signIns⟩
  · obtain ⟨hslot, he⟩ := Prod.mk.inj he
    obtain ⟨_, hsignIns⟩ := Prod.mk.inj he
    refine ⟨?_, hsignIns ▸ h.signIns⟩
    intro id' hid'
    rw [hslot] at hid'
    cases r with
    | startAuth n c =>
      obtain rfl := Option.some.inj hid'
      rw [hid]
      exact h.outstanding _ (List.mem_of_getElem? hr)
    | resend n => exact h.verificationId id' hid'
  · obtain ⟨hslot, he⟩ := Prod.mk.inj he
    obtain ⟨_, hsignIns⟩ := Prod.mk.inj he
    rw [hslot, hsignIns, List.forall_mem_append, List.forall_mem_singleton]
    exact ⟨h.verificationId, h.signIns, h.screens c (List.mem_of_getElem? hc),
      h.verificationId id hid⟩

/-- **If what is typed in has `P`, every number has.** -/
theorem PhoneLogin.NumbersAre.step (h : s.NumbersAre issuedFor P)
    (hstep : PhoneStep issuedFor s ev s')
    (hnext : ∀ screen countryCode phoneNumber reachable,
      ev = .next screen countryCode phoneNumber reachable → P (countryCode ++ phoneNumber)) :
    s'.NumbersAre issuedFor P := by
  have hpushed : ∀ number, Pushed s ev number → P number := by
    rintro number (⟨screen, countryCode, phoneNumber, reachable, hev, rfl⟩ | ⟨r, hr, rfl⟩)
    · exact hnext _ _ _ _ hev
    · exact h.outstanding r hr
  obtain ⟨hslot, hsignIns⟩ := h.ids hstep
  refine ⟨?_, ?_, hslot, hsignIns⟩
  · intro v hv
    rcases navigation_cases hstep with heq | ⟨_, _, _, heq⟩ | ⟨_, v', _, hv', heq⟩ |
      ⟨_, _, heq⟩
    · rw [heq] at hv
      exact h.screens v hv
    · rw [heq, List.mem_append, List.mem_singleton] at hv
      rcases hv with hv | hv
      · exact h.screens v hv
      · cases hv
    · rw [heq, List.mem_append, List.mem_singleton] at hv
      rcases hv with hv | hv
      · exact h.screens v hv
      · cases hv
        exact hpushed _ hv'
    · rw [heq] at hv
      exact h.screens v ((List.dropLast_subset _) hv)
  · intro r hr
    rcases outstanding_cases hstep hr with hold | hnew | ⟨c, hc, heq⟩
    · exact h.outstanding r hold
    · exact hpushed _ hnew
    · rw [heq]
      exact h.screens c hc

theorem PhoneLogin.NumbersAre.run {evs : List PhoneEvent} (h : s.NumbersAre issuedFor P)
    (hrun : Run (PhoneStep issuedFor) s evs s')
    (hnext : ∀ ev ∈ evs, ∀ screen countryCode phoneNumber reachable,
      ev = .next screen countryCode phoneNumber reachable → P (countryCode ++ phoneNumber)) :
    s'.NumbersAre issuedFor P := by
  induction hrun with
  | nil => exact h
  | cons hstep _ ih =>
    rw [List.forall_mem_cons] at hnext
    exact ih (h.step hstep hnext.1) hnext.2

end Login

/-! ### The two halves together -/

structure PhoneScreens where
  entry : PhoneEntry
  login : PhoneLogin := {}

/-- An event of the phone screen and its list, of the stack and of Firebase, or of both. -/
inductive PhoneScreensEvent
  | phoneButtonTapped
  | onEntry (ev : EntryEvent)
  | next (reachable : Bool)
  | onLogin (ev : PhoneEvent)
  | back

/-- No screen comes or goes, and Next is not tapped. -/
def EntryEvent.IsOwn : EntryEvent → Prop
  | phoneButtonTapped | next _ | back => False
  | _ => True

/-- Resend and Submit, and the callbacks. -/
def PhoneEvent.IsOwn : PhoneEvent → Prop
  | resend _ _ | submit _ _ _ | callback _ _ => True
  | _ => False

namespace PhoneScreensEvent

/-- What an event is for the phone screen and its list. -/
def forEntry (s : PhoneScreens) : PhoneScreensEvent → List EntryEvent
  | phoneButtonTapped => [.phoneButtonTapped]
  | onEntry ev => [ev]
  | next reachable => [.next reachable]
  | onLogin _ => []
  | back =>
    match s.login.navigation.getLast? with
    | some (.phoneNumber _) => [.back]
    | _ => []

/-- What an event is for the stack and Firebase. -/
def forLogin (s : PhoneScreens) : PhoneScreensEvent → List PhoneEvent
  | phoneButtonTapped => [.phoneButtonTapped]
  | onEntry _ => []
  | next reachable =>
    match s.entry.phoneNumberViewController with
    | some vc => [.next (s.login.navigation.length - 1) vc.countryCode
        (String.ofList vc.phoneNumber) reachable]
    | none => []
  | onLogin ev => [ev]
  | back =>
    match s.login.navigation.getLast?, s.entry.picker with
    | some (.phoneNumber _), some _ => []
    | _, _ => [.back]

def handle (rules : UnicodeRules) (s : PhoneScreens) (ev : PhoneScreensEvent) : PhoneScreens where
  entry := (ev.forEntry s).foldl (EntryEvent.handle rules) s.entry
  login := (ev.forLogin s).foldl PhoneEvent.handle s.login

/-- The screen of a tap is on top, and what Firebase does is possible. -/
def Enabled (issuedFor : VerificationID → PhoneNumber) (s : PhoneScreens) :
    PhoneScreensEvent → Prop
  | phoneButtonTapped => s.login.navigation.getLast? = some .login
  | onEntry ev => ev.IsOwn
  | next _ => (∃ c, s.login.navigation.getLast? = some (.phoneNumber c)) ∧
      s.entry.picker = none ∧ ∃ vc, s.entry.phoneNumberViewController = some vc ∧
        vc.rightBarButtonItem.any (·.isEnabled) = true
  | onLogin ev => ev.IsOwn ∧ ev.Enabled issuedFor s.login
  | back => 1 < s.login.navigation.length

theorem enabled_next {issuedFor : VerificationID → PhoneNumber} {s : PhoneScreens}
    {c : PhoneNumberController} {reachable : Bool}
    (htop : s.login.navigation.getLast? = some (.phoneNumber c))
    (hpicker : s.entry.picker.isNone = true)
    (hnext : s.entry.phoneNumberViewController.any
      (fun vc => vc.rightBarButtonItem.any (·.isEnabled)) = true) :
    Enabled issuedFor s (.next reachable) := by
  obtain ⟨vc, hvc, henabled⟩ := (Option.any_eq_true _ _).mp hnext
  exact ⟨⟨c, htop⟩, Option.isNone_iff_eq_none.mp hpicker, vc, hvc, henabled⟩

end PhoneScreensEvent

/-- One event. -/
def PhoneScreensStep (rules : UnicodeRules) (issuedFor : VerificationID → PhoneNumber)
    (s : PhoneScreens) (ev : PhoneScreensEvent) (s' : PhoneScreens) : Prop :=
  ev.Enabled issuedFor s ∧ s' = ev.handle rules s

/-! ### Which screens are there -/

section Entry

variable {rules : UnicodeRules} {s : PhoneEntry}

theorem PhoneEntry.phoneNumberViewController_onPicker
    (f : CountryCodeViewController → CountryCodeViewController) :
    (s.onPicker f).phoneNumberViewController = s.phoneNumberViewController := by
  rw [PhoneEntry.onPicker]
  split
  · split <;> rfl
  · rfl

theorem PhoneEntry.isSome_picker_onPicker
    (f : CountryCodeViewController → CountryCodeViewController) :
    (s.onPicker f).picker.isSome = s.picker.isSome := by
  rw [PhoneEntry.onPicker]
  cases hpicker : s.picker with
  | none => simp only [hpicker]
  | some picker =>
    by_cases hpopped : picker.isPopped = true
    · simp only [if_pos hpopped, hpicker]
    · simp only [if_neg hpopped, Option.isSome_some]

/-- A selection changes what the screen and the list show, and leaves both where they are. -/
theorem PhoneEntry.isSome_select (row : Nat) :
    (s.select rules row).phoneNumberViewController.isSome =
        s.phoneNumberViewController.isSome ∧
      (s.select rules row).picker.isSome = s.picker.isSome := by
  cases hpicker : s.picker with
  | none => simp only [PhoneEntry.select, hpicker, and_self]
  | some picker =>
    cases hrow : picker.filteredCountries[row]? with
    | none => simp only [PhoneEntry.select, hpicker, hrow, and_self]
    | some country =>
      by_cases hpopped : picker.isPopped = true
      · simp only [PhoneEntry.select, hpicker, hrow, if_pos hpopped, and_self]
      · simp only [PhoneEntry.select, hpicker, hrow, if_neg hpopped, Option.isSome_map,
          Option.isSome_some, and_self]

/-- An event of its own leaves the phone screen there, and opens a list over it only. -/
theorem EntryEvent.isSome_handle {ev : EntryEvent} (hown : ev.IsOwn) :
    (ev.handle rules s).phoneNumberViewController.isSome = s.phoneNumberViewController.isSome ∧
      ((ev.handle rules s).picker.isSome = true →
        s.picker.isSome = true ∨ s.phoneNumberViewController.isSome = true) := by
  cases ev with
  | phoneButtonTapped => exact hown.elim
  | next reachable => exact hown.elim
  | back => exact hown.elim
  | change range string =>
    cases hvc : s.phoneNumberViewController with
    | none => simp only [EntryEvent.handle, hvc, true_and]; exact Or.inl
    | some vc =>
      cases hpicker : s.picker with
      | none => simp [EntryEvent.handle, hvc, hpicker]
      | some picker => simp [EntryEvent.handle, hvc, hpicker]
  | openCountryCodesList visible =>
    cases hvc : s.phoneNumberViewController with
    | none => simp only [EntryEvent.handle, hvc, true_and]; exact Or.inl
    | some vc =>
      cases hpicker : s.picker with
      | none => simp [EntryEvent.handle, hvc, hpicker]
      | some picker => simp [EntryEvent.handle, hvc, hpicker]
  | select row =>
    obtain ⟨hscreen, hpicker⟩ := s.isSome_select row
    exact ⟨hscreen, fun h => Or.inl (hpicker ▸ h)⟩
  | display row =>
    exact ⟨congrArg _ (s.phoneNumberViewController_onPicker _),
      fun h => Or.inl ((s.isSome_picker_onPicker _) ▸ h)⟩
  | endDisplaying row =>
    exact ⟨congrArg _ (s.phoneNumberViewController_onPicker _),
      fun h => Or.inl ((s.isSome_picker_onPicker _) ▸ h)⟩
  | search searchText visible =>
    exact ⟨congrArg _ (s.phoneNumberViewController_onPicker _),
      fun h => Or.inl ((s.isSome_picker_onPicker _) ▸ h)⟩

end Entry

section Screens

variable {rules : UnicodeRules} {issuedFor : VerificationID → PhoneNumber}
  {s s' : PhoneScreens} {ev : PhoneScreensEvent}

theorem PhoneScreensStep.entry (h : PhoneScreensStep rules issuedFor s ev s') :
    Run (EntryStep rules) s.entry (ev.forEntry s) s'.entry := by
  obtain ⟨_, rfl⟩ := h
  exact Run.of_foldl (entryStep_handle rules) s.entry _

theorem PhoneScreensStep.login (h : PhoneScreensStep rules issuedFor s ev s') :
    Run (PhoneStep issuedFor) s.login (ev.forLogin s) s'.login := by
  obtain ⟨henabled, rfl⟩ := h
  cases ev with
  | phoneButtonTapped => exact .cons ⟨henabled, rfl⟩ (.nil _)
  | onEntry ev => exact .nil _
  | next reachable =>
    obtain ⟨⟨c, hc⟩, _, vc, hvc, _⟩ := henabled
    rw [List.getLast?_eq_getElem?] at hc
    simp only [PhoneScreensEvent.handle, PhoneScreensEvent.forLogin, hvc]
    exact .cons ⟨⟨c, hc⟩, rfl⟩ (.nil _)
  | onLogin ev => exact .cons ⟨henabled.2, rfl⟩ (.nil _)
  | back =>
    simp only [PhoneScreensEvent.handle, PhoneScreensEvent.forLogin]
    split
    · exact .nil _
    · exact .cons ⟨henabled, rfl⟩ (.nil _)

/-! ### Every run -/

/-- The screens are in order, each half is right, and every number can be dialled. -/
structure PhoneScreens.InStep (rules : UnicodeRules) (issuedFor : VerificationID → PhoneNumber)
    (s : PhoneScreens) : Prop where
  entry : s.entry.InStep rules
  stacked : s.login.Stacked
  numbers : s.login.NumbersAre issuedFor (Dialable rules)
  shown : s.entry.phoneNumberViewController.isSome = true ↔ 1 < s.login.navigation.length
  picker : s.entry.picker.isSome = true → s.entry.phoneNumberViewController.isSome = true

namespace PhoneScreens.InStep

/-- Next sends the number of the phone screen. -/
theorem forLogin (h : s.InStep rules issuedFor) (henabled : ev.Enabled issuedFor s) :
    ∀ e ∈ ev.forLogin s, ∀ screen countryCode phoneNumber reachable,
      e = .next screen countryCode phoneNumber reachable →
        Dialable rules (countryCode ++ phoneNumber) := by
  intro e he screen countryCode phoneNumber reachable hnext
  subst hnext
  cases ev with
  | phoneButtonTapped => simp [PhoneScreensEvent.forLogin] at he
  | onEntry ev => cases he
  | next reachable =>
    obtain ⟨_, _, vc, hvc, hitem⟩ := henabled
    simp only [PhoneScreensEvent.forLogin, hvc, List.mem_singleton, PhoneEvent.next.injEq] at he
    obtain ⟨_, rfl, rfl, _⟩ := he
    exact (h.entry.screen vc hvc).dialable hitem
  | onLogin ev =>
    rw [PhoneScreensEvent.forLogin, List.mem_singleton] at he
    subst he
    exact henabled.1.elim
  | back =>
    rw [PhoneScreensEvent.forLogin] at he
    split at he
    · cases he
    · simp at he

/-- The phone screen is on the stack when its fields are there, and the list is over it. -/
theorem screens (h : s.InStep rules issuedFor) (hstep : PhoneScreensStep rules issuedFor s ev s') :
    (s'.entry.phoneNumberViewController.isSome = true ↔ 1 < s'.login.navigation.length) ∧
      (s'.entry.picker.isSome = true →
        s'.entry.phoneNumberViewController.isSome = true) := by
  have hlogin := hstep.login
  obtain ⟨henabled, rfl⟩ := hstep
  cases ev with
  | phoneButtonTapped =>
    rcases h.stacked.of_getLast? henabled with ⟨_, hroot⟩ | ⟨_, hc, _⟩ | ⟨_, hc, _⟩
    · have hnone : s.entry.phoneNumberViewController = none := by
        rw [← Option.not_isSome_iff_eq_none, h.shown, hroot]
        exact Nat.lt_irrefl 1
      simp [PhoneScreensEvent.handle, PhoneScreensEvent.forEntry, PhoneScreensEvent.forLogin,
        EntryEvent.handle, hnone, PhoneEvent.handle, PhoneLogin.phoneButtonTapped,
        PhoneLogin.pushViewController, hroot]
    · cases hc
    · cases hc
  | onEntry ev =>
    have hev : (ev.handle rules s.entry).phoneNumberViewController.isSome =
        s.entry.phoneNumberViewController.isSome ∧
        ((ev.handle rules s.entry).picker.isSome = true → s.entry.picker.isSome = true ∨
          s.entry.phoneNumberViewController.isSome = true) := EntryEvent.isSome_handle henabled
    obtain ⟨hscreen, hpicker⟩ := hev
    show ((ev.handle rules s.entry).phoneNumberViewController.isSome = true ↔
        1 < s.login.navigation.length) ∧
      ((ev.handle rules s.entry).picker.isSome = true →
        (ev.handle rules s.entry).phoneNumberViewController.isSome = true)
    rw [hscreen]
    exact ⟨h.shown, fun hp => (hpicker hp).elim h.picker id⟩
  | next reachable =>
    obtain ⟨⟨c, hc⟩, hpicker, vc, hvc, hitem⟩ := henabled
    have hlength := h.shown.mp (by rw [hvc]; rfl)
    rw [List.getLast?_eq_getElem?] at hc
    obtain ⟨v, _, hnav⟩ := s.login.navigation_rightBarButtonDidTap c
      (vc.countryCode ++ String.ofList vc.phoneNumber) reachable
    simp only [PhoneScreensEvent.handle, PhoneScreensEvent.forEntry, PhoneScreensEvent.forLogin,
      List.foldl_cons, List.foldl_nil, EntryEvent.handle, hvc, hpicker, hitem, if_true,
      PhoneEvent.handle, hc, hnav, List.length_append, List.length_singleton]
    exact ⟨iff_of_true rfl (Nat.lt_succ_of_lt hlength), fun _ => rfl⟩
  | onLogin ev =>
    obtain ⟨t, hstep, ht⟩ := Run.cons_iff.mp hlogin
    rw [Run.nil_iff] at ht
    rw [ht]
    refine ⟨?_, h.picker⟩
    rw [show ((PhoneScreensEvent.onLogin ev).handle rules s).entry = s.entry from rfl, h.shown]
    rcases navigation_cases hstep with heq | ⟨rfl, _⟩ | ⟨c, v, hc, _, heq⟩ | ⟨rfl, _⟩
    · rw [heq]
    · exact henabled.1.elim
    · have hlength := h.stacked.one_lt_length hc
      rw [heq, List.length_append]
      exact iff_of_true hlength (Nat.lt_add_right _ hlength)
    · exact henabled.1.elim
  | back =>
    have hlength : 1 < s.login.navigation.length := henabled
    have hsome := h.shown.mpr hlength
    cases hlast : s.login.navigation.getLast? with
    | none =>
      rw [List.getLast?_eq_none_iff.mp hlast] at hlength
      cases hlength
    | some screen =>
      rcases h.stacked.of_getLast? hlast with ⟨rfl, hroot⟩ | ⟨c, rfl, hstack⟩ | ⟨v, rfl, htwo⟩
      · rw [hroot] at hlength
        exact absurd hlength (Nat.lt_irrefl 1)
      · cases hpicker : s.entry.picker with
        | some picker =>
          have hscreen := h.shown
          simp only [PhoneScreensEvent.handle, PhoneScreensEvent.forEntry,
            PhoneScreensEvent.forLogin, hlast, hpicker, List.foldl_cons, List.foldl_nil,
            EntryEvent.handle]
          exact ⟨hscreen, fun hp => absurd hp Bool.false_ne_true⟩
        | none =>
          simp [PhoneScreensEvent.handle, PhoneScreensEvent.forEntry, PhoneScreensEvent.forLogin,
            hpicker, EntryEvent.handle, PhoneEvent.handle, PhoneLogin.popViewController, hstack]
      · have hthree : 1 < s.login.navigation.length - 1 := Nat.lt_sub_of_add_lt htwo
        simp [PhoneScreensEvent.handle, PhoneScreensEvent.forEntry, PhoneScreensEvent.forLogin,
          hlast, PhoneEvent.handle, PhoneLogin.popViewController, hlength, hsome, hthree]

/-- **Every event keeps both halves right, and together.** -/
theorem step (h : s.InStep rules issuedFor) (hstep : PhoneScreensStep rules issuedFor s ev s') :
    s'.InStep rules issuedFor := by
  obtain ⟨hshown, hpicker⟩ := h.screens hstep
  refine ⟨?_, ?_, ?_, hshown, hpicker⟩
  · exact hstep.entry.invariant (PhoneEntry.InStep rules) (fun _ _ _ hs hev => hs.step hev) h.entry
  · exact hstep.login.invariant PhoneLogin.Stacked (fun _ _ _ hs hev => hs.step hev) h.stacked
  · exact h.numbers.run hstep.login (h.forLogin hstep.1)

theorem init (region : String) :
    PhoneScreens.InStep rules issuedFor { entry := { countryCode := region } } where
  entry := .init region
  stacked := Or.inl rfl
  numbers :=
    { screens := fun _ h => nomatch List.mem_singleton.mp h
      outstanding := fun _ h => absurd h List.not_mem_nil
      verificationId := fun _ h => nomatch h
      signIns := fun _ h => absurd h List.not_mem_nil }
  shown := iff_of_false Bool.false_ne_true (Nat.lt_irrefl 1)
  picker h := nomatch h

end PhoneScreens.InStep

/-- **A code is only asked for, sent again and entered for a number that can be
dialled.**  However the user goes back and forth between the screens, whatever is
typed and selected, and whenever and in whatever order Firebase answers: every
number a code is asked for, every number a verification screen shows and asks
again for, and the number that the id of `AuthManager` and of every credential was
issued for is the dial code of a country of the list with nine Characters or more
after it.  The stack is the login screen, then at most one phone screen, then
verification screens; the fields are those of the phone screen on the stack, and the
list is never there without it. -/
theorem phoneScreens_inStep {region : String} {evs : List PhoneScreensEvent}
    (hrun : Run (PhoneScreensStep rules issuedFor) { entry := { countryCode := region } } evs s) :
    s.InStep rules issuedFor :=
  hrun.invariant (PhoneScreens.InStep rules issuedFor) (fun _ _ _ h hstep => h.step hstep)
    (.init region)

/-- A country is searched for, a number is typed and sent, its id comes, and the code is entered. -/
theorem phoneScreens_inStep_signIn :
    let evs : List PhoneScreensEvent := [.phoneButtonTapped, .onEntry (.openCountryCodesList [0]),
      .onEntry (.search "ALB" [0]), .onEntry (.select 0), .back,
      .onEntry (.change ⟨0, 0⟩ "123456789".toList), .next true, .onLogin (.callback 0 (some "id")),
      .onLogin (.submit 2 "123456" true)]
    ∃ s, Run (PhoneScreensStep .ascii fun _ => "+355123456789")
      { entry := { countryCode := "AX" } } evs s ∧
      s.InStep .ascii (fun _ => "+355123456789") ∧
      s.login.signIns = [⟨⟨1, "+355123456789"⟩, "id", "123456"⟩] := by
  intro evs
  let s₀ : PhoneScreens := { entry := { countryCode := "AX" } }
  let s₄ := (evs.take 4).foldl (PhoneScreensEvent.handle .ascii) s₀
  let s₆ := (evs.take 6).foldl (PhoneScreensEvent.handle .ascii) s₀
  let s₇ := PhoneScreensEvent.handle .ascii s₆ (.next true)
  let s₈ := PhoneScreensEvent.handle .ascii s₇ (.onLogin (.callback 0 (some "id")))
  have hback : 1 < s₄.login.navigation.length := by decide +kernel
  have hnext : PhoneScreensEvent.Enabled (fun _ => "+355123456789") s₆ (.next true) :=
    PhoneScreensEvent.enabled_next (c := ⟨0, false⟩) (by decide +kernel) (by decide +kernel)
      (by decide +kernel)
  have hcallback : s₇.login.outstanding[0]? = some (.startAuth "+355123456789" ⟨0, false⟩) := by
    decide +kernel
  have hsubmit : s₈.login.navigation[2]? = some (.verification ⟨1, "+355123456789"⟩) := by
    decide +kernel
  have hrun : Run (PhoneScreensStep .ascii fun _ => "+355123456789") s₀ evs _ :=
    .cons ⟨rfl, rfl⟩ <| .cons ⟨trivial, rfl⟩ <| .cons ⟨trivial, rfl⟩ <| .cons ⟨trivial, rfl⟩ <|
      .cons ⟨hback, rfl⟩ <| .cons ⟨trivial, rfl⟩ <| .cons ⟨hnext, rfl⟩ <|
      .cons ⟨⟨trivial, _, hcallback, fun _ _ => rfl⟩, rfl⟩ <|
      .cons ⟨⟨trivial, _, hsubmit⟩, rfl⟩ <| .nil _
  exact ⟨_, hrun, phoneScreens_inStep hrun, by decide +kernel⟩

end Screens

end InventoryApp
