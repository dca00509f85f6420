import InventoryApp.Lib.Run

/-!
# Signing in by phone

Three parties take part: the user, who taps on the screens of a navigation
stack; the app, whose `AuthManager` keeps one verification id for all of them;
and Firebase, which answers each `verifyPhoneNumber` call after some time, in
any order, with an id or an error.

A `PhoneLogin` is the state of all three.  What the app does is a function of it
under the source's name, and `PhoneEvent.handle` is the handler of an event.
`PhoneStep` adds what the others can do: a tap needs its screen to be on the
stack, a callback needs its request to be outstanding, and an id that answers a
request for a number is one that Firebase issued for that number (`issuedFor`).
Alerts, timers and the text fields of a screen are left out: a Next tap comes
with the number that is typed in, a Submit tap with the code.
-/

namespace InventoryApp

open Lib

abbrev PhoneNumber := String
abbrev VerificationID := String

structure PhoneNumberController where
  ref : Nat
  isVerificationSent : Bool := false
  deriving DecidableEq, Repr

structure VerificationController where
  ref : Nat
  titleNumber : PhoneNumber
  deriving DecidableEq, Repr

inductive Screen
  | login
  | phoneNumber (controller : PhoneNumberController)
  | verification (controller : VerificationController)
  deriving DecidableEq, Repr

/-- An outstanding `verifyPhoneNumber` call. -/
inductive Request
  | startAuth (phoneNumber : PhoneNumber) (controller : PhoneNumberController)
  | resend (phoneNumber : PhoneNumber)
  deriving DecidableEq, Repr

def Request.phoneNumber : Request → PhoneNumber
  | startAuth phoneNumber _ => phoneNumber
  | resend phoneNumber => phoneNumber

/-- A request that was answered with an id. -/
structure Answer where
  request : Request
  verificationID : VerificationID
  deriving DecidableEq, Repr

/-- A credential that was built, and the screen it was built from. -/
structure SignIn where
  controller : VerificationController
  withVerificationID : VerificationID
  verificationCode : String
  deriving DecidableEq, Repr

/-- `verificationId` is `AuthManager.shared`'s, `navigation` the screens of the
stack, root first; `answers` and `signIns` are histories, oldest first. -/
structure PhoneLogin where
  verificationId : Option VerificationID := none
  navigation : List Screen := [.login]
  nextRef : Nat := 0
  signIns : List SignIn := []
  outstanding : List Request := []
  answers : List Answer := []
  deriving DecidableEq, Repr

namespace PhoneLogin

def pushViewController (s : PhoneLogin) (screen : Screen) : PhoneLogin :=
  { s with navigation := s.navigation ++ [screen] }

/-- The root of the stack is not popped. -/
def popViewController (s : PhoneLogin) : PhoneLogin :=
  if 1 < s.navigation.length then { s with navigation := s.navigation.dropLast } else s

/-- `PhoneAuthProvider.provider().verifyPhoneNumber`. -/
def verifyPhoneNumber (s : PhoneLogin) (request : Request) : PhoneLogin :=
  { s with outstanding := s.outstanding ++ [request] }

/-! ### `AuthManager` -/

def startAuth (s : PhoneLogin) (phoneNumber : PhoneNumber) (controller : PhoneNumberController) :
    PhoneLogin :=
  s.verifyPhoneNumber (.startAuth phoneNumber controller)

/-- The credential `verifyCode` signs in with, if it comes to that. -/
def verifyCode (s : PhoneLogin) (controller : VerificationController) (smsCode : String) :
    PhoneLogin :=
  match s.verificationId with
  | none => s
  | some verificationId =>
    { s with signIns := s.signIns ++ [⟨controller, verificationId, smsCode⟩] }

/-! ### The screens -/

/-- `LoginViewController.phoneButtonTapped`. -/
def phoneButtonTapped (s : PhoneLogin) : PhoneLogin :=
  { s.pushViewController (.phoneNumber { ref := s.nextRef }) with nextRef := s.nextRef + 1 }

/-- A new `VerificationController` with the number in its title is pushed. -/
def pushVerification (s : PhoneLogin) (number : PhoneNumber) : PhoneLogin :=
  { s.pushViewController (.verification ⟨s.nextRef, number⟩) with nextRef := s.nextRef + 1 }

/-- `PhoneNumberViewController.sendSMSConfirmation`. -/
def sendSMSConfirmation (s : PhoneLogin) (controller : PhoneNumberController)
    (number : PhoneNumber) : PhoneLogin :=
  s.startAuth number controller

/-- The completion of `sendSMSConfirmation`: a controller that left the stack is gone. -/
def startAuthCompletion (s : PhoneLogin) (controller : PhoneNumberController)
    (number : PhoneNumber) : PhoneLogin :=
  if .phoneNumber controller ∈ s.navigation then s.pushVerification number else s

/-- `rightBarButtonDidTap` of the base class. -/
def baseRightBarButtonDidTap (s : PhoneLogin) (controller : PhoneNumberController)
    (number : PhoneNumber) (reachable : Bool) : PhoneLogin :=
  if !reachable then s
  else if !controller.isVerificationSent then s.sendSMSConfirmation controller number
  else s

/-- `PhoneNumberController.rightBarButtonDidTap`, which continues after `super`. -/
def rightBarButtonDidTap (s : PhoneLogin) (controller : PhoneNumberController)
    (number : PhoneNumber) (reachable : Bool) : PhoneLogin :=
  (s.baseRightBarButtonDidTap controller number reachable).pushVerification number

/-- `VerificationCodeViewController.sendSMSConfirmation`, of the Resend button. -/
def resendSMSConfirmation (s : PhoneLogin) (controller : VerificationController)
    (reachable : Bool) : PhoneLogin :=
  if !reachable then s else s.verifyPhoneNumber (.resend controller.titleNumber)

/-- `VerificationCodeViewController.authenticate`. -/
def authenticate (s : PhoneLogin) (controller : VerificationController) (smsCode : String)
    (reachable : Bool) : PhoneLogin :=
  if !reachable then s else s.verifyCode controller smsCode

/-! ### The callbacks -/

/-- What the app does when a request is answered with an id. -/
def succeed (s : PhoneLogin) (verificationID : VerificationID) : Request → PhoneLogin
  | .startAuth phoneNumber controller =>
    { s with verificationId := some verificationID }.startAuthCompletion controller phoneNumber
  | .resend _ => s

/-- Firebase answers a request. -/
def answer (s : PhoneLogin) (request : Nat) (outcome : Option VerificationID) : PhoneLogin :=
  match s.outstanding[request]? with
  | none => s
  | some r =>
    let s : PhoneLogin := { s with outstanding := s.outstanding.eraseIdx request }
    match outcome with
    | none => s
    | some verificationID =>
      let s : PhoneLogin := { s with answers := s.answers ++ [⟨r, verificationID⟩] }
      s.succeed verificationID r

end PhoneLogin

/-! ### Events -/

/-- A tap names the position of its screen in the stack, a callback the position
of its request among the outstanding ones. -/
inductive PhoneEvent
  | phoneButtonTapped
  | back
  | next (screen : Nat) (countryCode phoneNumber : String) (reachable : Bool)
  | resend (screen : Nat) (reachable : Bool)
  | submit (screen : Nat) (smsCode : String) (reachable : Bool)
  | callback (request : Nat) (outcome : Option VerificationID)
  deriving DecidableEq, Repr

namespace PhoneEvent

def handle (s : PhoneLogin) : PhoneEvent → PhoneLogin
  | phoneButtonTapped => s.phoneButtonTapped
  | back => s.popViewController
  | next screen countryCode phoneNumber reachable =>
    match s.navigation[screen]? with
    | some (.phoneNumber controller) =>
      s.rightBarButtonDidTap controller (countryCode ++ phoneNumber) reachable
    | _ => s
  | resend screen reachable =>
    match s.navigation[screen]? with
    | some (.verification controller) => s.resendSMSConfirmation controller reachable
    | _ => s
  | submit screen smsCode reachable =>
    match s.navigation[screen]? with
    | some (.verification controller) => s.authenticate controller smsCode reachable
    | _ => s
  | callback request outcome => s.answer request outcome

/-- The event can happen: its screen is there, its request is outstanding, and
its id was issued for the number that was asked for. -/
def Enabled (issuedFor : VerificationID → PhoneNumber) (s : PhoneLogin) : PhoneEvent → Prop
  | phoneButtonTapped => s.navigation.getLast? = some .login
  | back => 1 < s.navigation.length
  | next screen _ _ _ => ∃ controller, s.navigation[screen]? = some (.phoneNumber controller)
  | resend screen _ => ∃ controller, s.navigation[screen]? = some (.verification controller)
  | submit screen _ _ => ∃ controller, s.navigation[screen]? = some (.verification controller)
  | callback request outcome => ∃ r, s.outstanding[request]? = some r ∧
      ∀ verificationID, outcome = some verificationID → issuedFor verificationID = r.phoneNumber

end PhoneEvent

/-- One event. -/
def PhoneStep (issuedFor : VerificationID → PhoneNumber) (s : PhoneLogin) (ev : PhoneEvent)
    (s' : PhoneLogin) : Prop :=
  ev.Enabled issuedFor s ∧ s' = ev.handle s

/-! ### What a step can do to the verification id -/

/-- The id, the answers and the credentials. -/
def PhoneLogin.ids (s : PhoneLogin) : Option VerificationID × List Answer × List SignIn :=
  (s.verificationId, s.answers, s.signIns)

@[simp] theorem PhoneLogin.ids_startAuthCompletion (s : PhoneLogin) (c : PhoneNumberController)
    (n : PhoneNumber) : (s.startAuthCompletion c n).ids = s.ids := by
  unfold PhoneLogin.startAuthCompletion
  split <;> rfl

@[simp] theorem PhoneLogin.ids_rightBarButtonDidTap (s : PhoneLogin) (c : PhoneNumberController)
    (n : PhoneNumber) (reachable : Bool) : (s.rightBarButtonDidTap c n reachable).ids = s.ids := by
  unfold PhoneLogin.rightBarButtonDidTap PhoneLogin.baseRightBarButtonDidTap
  split
  · rfl
  · split <;> rfl

/-- **Only a `startAuth` callback changes the id, only a successful callback adds
an answer, and only a Submit adds a credential.** -/
theorem phoneStep_cases {issuedFor : VerificationID → PhoneNumber} {s s' : PhoneLogin}
    {ev : PhoneEvent} (h : PhoneStep issuedFor s ev s') :
    s'.ids = s.ids ∨
    (∃ request r id, ev = .callback request (some id) ∧ s.outstanding[request]? = some r ∧
      issuedFor id = r.phoneNumber ∧
      s'.ids = (match r with
        | .startAuth _ _ => some id
        | .resend _ => s.verificationId, s.answers ++ [⟨r, id⟩], s.signIns)) ∨
    (∃ screen smsCode controller id, ev = .submit screen smsCode true ∧
      s.navigation[screen]? = some (.verification controller) ∧ s.verificationId = some id ∧
      s'.ids = (s.verificationId, s.answers, s.signIns ++ [⟨controller, id, smsCode⟩])) := by
  obtain ⟨henabled, rfl⟩ := h
  cases ev with
  | phoneButtonTapped => exact Or.inl rfl
  | back =>
    left
    simp only [PhoneEvent.handle, PhoneLogin.popViewController]
    split <;> rfl
  | next screen countryCode phoneNumber reachable =>
    obtain ⟨c, hc⟩ := henabled
    left
    simp only [PhoneEvent.handle, hc, PhoneLogin.ids_rightBarButtonDidTap]
  | resend screen reachable =>
    obtain ⟨n, hn⟩ := henabled
    left
    simp only [PhoneEvent.handle, hn, PhoneLogin.resendSMSConfirmation]
    split <;> rfl
  | submit screen smsCode reachable =>
    obtain ⟨n, hn⟩ := henabled
    simp only [PhoneEvent.handle, hn, PhoneLogin.authenticate]
    cases reachable with
    | false => exact Or.inl rfl
    | true =>
      cases hid : s.verificationId with
      | none =>
        left
        simp only [Bool.not_true, Bool.false_eq_true, if_false, PhoneLogin.verifyCode, hid]
      | some id =>
        right; right
        refine ⟨screen, smsCode, n, id, rfl, hn, rfl, ?_⟩
        simp only [Bool.not_true, Bool.false_eq_true, if_false, PhoneLogin.verifyCode, hid]
        rfl
  | callback request outcome =>
    obtain ⟨r, hr, hid⟩ := henabled
    simp only [PhoneEvent.handle, PhoneLogin.answer, hr]
    cases outcome with
    | none => exact Or.inl rfl
    | some id =>
      right; left
      refine ⟨request, r, id, rfl, hr, hid id rfl, ?_⟩
      cases r with
      | startAuth n c => simp only [PhoneLogin.succeed, PhoneLogin.ids_startAuthCompletion]; rfl
      | resend n => rfl

end InventoryApp
