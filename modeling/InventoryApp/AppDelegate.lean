import InventoryApp.Login.PhoneLogin

/-!
# The window of the app

`AppDelegate` decides which view controller is the root of the window: at a
launch, when a sign-in succeeds, when onboarding is closed and at a logout.  The
login screen is the root of a navigation controller after a launch without a
user; that controller is referred to by the window alone, so it and its stack are
gone when the window gets another root.  The verification screen goes around
`AppDelegate` and presents a main screen of its own over the stack.

An `App` is the window with what decides it: the two facts that are on disk, the
Firebase session (`currentUser`) and `LocalState.hasOnboarded`, and the state of
the phone login.  Events come in any order, and one that meets no screen or
request of its own does nothing.  `FirebaseApp` is taken to be configured.
-/

namespace InventoryApp

open Lib

inductive RootViewController
  | navigationController
  | loginViewController
  | onboardingViewController
  | mainViewController
  deriving DecidableEq, Repr

/-- `phone.navigation` is the stack of the navigation controller, empty when it is
gone, and `presented` tells that a main screen is presented from it. -/
structure App where
  currentUser : Bool
  hasOnboarded : Bool
  rootViewController : RootViewController
  phone : PhoneLogin := {}
  presented : Bool := false
  deriving DecidableEq, Repr

/-- What the user sees of a screen. -/
inductive Shown
  | login
  | phoneNumber
  | verification (titleNumber : PhoneNumber)
  | onboarding
  | main
  deriving DecidableEq, Repr

def Screen.shown : Screen → Shown
  | login => .login
  | phoneNumber _ => .phoneNumber
  | verification controller => .verification controller.titleNumber

namespace App

/-- The screen on top. -/
def shown (s : App) : Shown :=
  match s.rootViewController with
  | .navigationController =>
    if s.presented then .main else (s.phone.navigation.getLastD .login).shown
  | .loginViewController => .login
  | .onboardingViewController => .onboarding
  | .mainViewController => .main

/-! ### `AppDelegate` -/

/-- The stack that was in the window goes, and with it what was presented from it. -/
def setRootViewController (s : App) (vc : RootViewController) : App :=
  { s with
    rootViewController := vc
    phone := { s.phone with navigation := [] }
    presented := false }

/-- `application(_:didFinishLaunchingWithOptions:)`, in a new process. -/
def launch (currentUser hasOnboarded : Bool) : App :=
  let s : App := { currentUser, hasOnboarded, rootViewController := .navigationController }
  if !currentUser then s else s.setRootViewController .mainViewController

def didLogin (s : App) : App :=
  if s.hasOnboarded then s.setRootViewController .mainViewController
  else s.setRootViewController .onboardingViewController

def didFinishOnboarding (s : App) : App :=
  { s with hasOnboarded := true }.setRootViewController .mainViewController

def didLogout (s : App) : App := s.setRootViewController .loginViewController

/-! ### The screens -/

/-- `LoginViewController.phoneButtonTapped`: a push on `navigationController?`. -/
def phoneButtonTapped (s : App) : App :=
  if s.rootViewController = .navigationController then { s with phone := s.phone.phoneButtonTapped }
  else s

/-- The end of `googleSignInButtonTapped`. -/
def googleSignIn (s : App) (success : Bool) : App :=
  if success then { s with currentUser := true }.didLogin else s

/-- The end of `authenticate`: the controller presents, if it is still there. -/
def verifyCodeCompletion (s : App) (controller : VerificationController) (success : Bool) : App :=
  if success then
    { s with
      currentUser := true
      presented := s.presented || decide (.verification controller ∈ s.phone.navigation) }
  else s

/-- An event of the phone login: a tap needs the stack to be in front, a callback comes anyway. -/
def phoneEvent (s : App) : PhoneEvent → App
  | .phoneButtonTapped => if s.shown = .login then s.phoneButtonTapped else s
  | .callback request outcome => { s with phone := s.phone.answer request outcome }
  | ev =>
    if s.rootViewController = .navigationController ∧ s.presented = false then
      { s with phone := ev.handle s.phone }
    else s

end App

/-! ### Events -/

/-- `phoneSignIn` names the position of the credential that was used, `relaunch`
is the end of the process and a launch. -/
inductive AppEvent
  | phone (ev : PhoneEvent)
  | googleSignIn (success : Bool)
  | phoneSignIn (signIn : Nat) (success : Bool)
  | closeTapped
  | logoutTapped
  | relaunch
  deriving DecidableEq, Repr

namespace AppEvent

def handle (s : App) : AppEvent → App
  | phone ev => s.phoneEvent ev
  | googleSignIn success => s.googleSignIn success
  | phoneSignIn signIn success =>
    match s.phone.signIns[signIn]? with
    | some r => s.verifyCodeCompletion r.controller success
    | none => s
  | closeTapped => if s.shown = .onboarding then s.didFinishOnboarding else s
  | logoutTapped => if s.shown = .main then s.didLogout else s
  | relaunch => .launch s.currentUser s.hasOnboarded

end AppEvent

/-- One event. -/
def AppStep (s : App) (ev : AppEvent) (s' : App) : Prop := s' = ev.handle s

/-! ### What the events keep -/

/-- The session, the flag and the root of the window. -/
def App.window (s : App) : Bool × Bool × RootViewController × Bool :=
  (s.currentUser, s.hasOnboarded, s.rootViewController, s.presented)

/-- The phone login itself changes nothing of the window but the stack. -/
@[simp] theorem App.window_phoneEvent (s : App) (ev : PhoneEvent) :
    (s.phoneEvent ev).window = s.window := by
  cases ev with
  | phoneButtonTapped =>
    simp only [App.phoneEvent, App.phoneButtonTapped]
    split
    · split <;> rfl
    · rfl
  | callback request outcome => rfl
  | back => simp only [App.phoneEvent]; split <;> rfl
  | next screen countryCode phoneNumber reachable => simp only [App.phoneEvent]; split <;> rfl
  | resend screen reachable => simp only [App.phoneEvent]; split <;> rfl
  | submit screen smsCode reachable => simp only [App.phoneEvent]; split <;> rfl

/-- A phone event leaves the session, the flag, the root and what is presented as they are. -/
theorem App.phoneEvent_frame (s : App) (ev : PhoneEvent) :
    (s.phoneEvent ev).currentUser = s.currentUser ∧
    (s.phoneEvent ev).hasOnboarded = s.hasOnboarded ∧
    (s.phoneEvent ev).rootViewController = s.rootViewController ∧
    (s.phoneEvent ev).presented = s.presented := by
  simpa [App.window] using s.window_phoneEvent ev

/-- Whoever is past the login screen is signed in. -/
def App.SignedInInside (s : App) : Prop :=
  s.rootViewController ≠ .navigationController ∨ s.presented = true → s.currentUser = true

theorem App.signedInInside_launch (currentUser hasOnboarded : Bool) :
    (App.launch currentUser hasOnboarded).SignedInInside := by
  cases currentUser with
  | true => exact fun _ => rfl
  | false =>
    intro h
    rcases h with h | h
    · exact absurd rfl h
    · cases h

/-- The stack has no main screen and no onboarding of its own. -/
theorem Screen.shown_ne (screen : Screen) :
    screen.shown ≠ .main ∧ screen.shown ≠ .onboarding := by
  cases screen <;> exact ⟨nofun, nofun⟩

theorem App.currentUser_didLogin (s : App) : s.didLogin.currentUser = s.currentUser := by
  unfold App.didLogin
  split <;> rfl

/-- A main or an onboarding screen is never in front of the login screen alone. -/
theorem App.SignedInInside.of_shown {s : App} (h : s.SignedInInside)
    (hshown : s.shown = .main ∨ s.shown = .onboarding) : s.currentUser = true := by
  apply h
  by_cases hroot : s.rootViewController = .navigationController
  · right
    cases hpres : s.presented with
    | true => rfl
    | false =>
      simp only [App.shown, hroot, hpres, Bool.false_eq_true, if_false] at hshown
      obtain ⟨hmain, honboarding⟩ := (s.phone.navigation.getLastD .login).shown_ne
      rcases hshown with hshown | hshown
      · exact absurd hshown hmain
      · exact absurd hshown honboarding
  · exact Or.inl hroot

/-- **Nobody gets past the login screen without a session.** -/
theorem App.SignedInInside.step {s s' : App} {ev : AppEvent} (h : s.SignedInInside)
    (hstep : AppStep s ev s') : s'.SignedInInside := by
  obtain rfl := hstep
  cases ev with
  | phone ev =>
    obtain ⟨hu, _, hr, hp⟩ := s.phoneEvent_frame ev
    unfold App.SignedInInside AppEvent.handle
    rw [hu, hr, hp]
    exact h
  | googleSignIn success =>
    cases success with
    | false => exact h
    | true => exact fun _ => App.currentUser_didLogin _
  | phoneSignIn signIn success =>
    cases hr : s.phone.signIns[signIn]? with
    | none => simpa only [AppEvent.handle, hr] using h
    | some r =>
      simp only [AppEvent.handle, hr]
      cases success with
      | false => exact h
      | true => exact fun _ => rfl
  | closeTapped =>
    unfold AppEvent.handle
    by_cases hs : s.shown = .onboarding
    · rw [if_pos hs]
      exact fun _ => h.of_shown (Or.inr hs)
    · rw [if_neg hs]
      exact h
  | logoutTapped =>
    unfold AppEvent.handle
    by_cases hs : s.shown = .main
    · rw [if_pos hs]
      exact fun _ => h.of_shown (Or.inl hs)
    · rw [if_neg hs]
      exact h
  | relaunch => exact App.signedInInside_launch s.currentUser s.hasOnboarded

theorem App.signedInInside_of_reachable {s : App}
    (h : Reachable AppStep (App.launch false false) s) : s.SignedInInside := by
  obtain ⟨evs, hrun⟩ := h
  exact hrun.invariant App.SignedInInside (fun _ _ _ hs hstep => hs.step hstep)
    (App.signedInInside_launch false false)

end InventoryApp
