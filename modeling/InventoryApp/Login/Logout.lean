import InventoryApp.AppDelegate
import InventoryApp.Lib.View

/-!
# What a logout leaves behind

A logout should be the same as never having signed in: from then on the user
sees what a user sees who launches the app without a session.  `didLogout` shows
the login screen, but not inside a navigation controller as a launch does, so the
phone button has nothing to push on; and it does not sign out, so the next launch
goes straight to the inventory.

Both differences are gone once a Google sign-in succeeds, since that replaces the
root and the session in either run.  `logout_iff` says that the two runs look the
same exactly along the events that neither tap the phone button nor relaunch the
app before that.
-/

namespace InventoryApp

open Lib

/-- What is on screen along the events. -/
def screensShown : App → List AppEvent → List Shown :=
  views (fun s ev => ev.handle s) App.shown

/-- Two runs in which the user is signed in, and that show the same root. -/
structure SameSession (s t : App) : Prop where
  user : s.currentUser = true
  user' : t.currentUser = true
  flag : s.hasOnboarded = t.hasOnboarded
  root : s.rootViewController = t.rootViewController
  inside : s.rootViewController ≠ .navigationController

variable {s t : App}

/-- Outside the navigation controller the root is what is shown. -/
theorem App.shown_eq_of_root (h : s.rootViewController ≠ .navigationController)
    (hst : s.rootViewController = t.rootViewController) : s.shown = t.shown := by
  unfold App.shown
  rw [← hst]
  cases hroot : s.rootViewController with
  | navigationController => exact absurd hroot h
  | loginViewController => rfl
  | onboardingViewController => rfl
  | mainViewController => rfl

/-- A new root on both sides. -/
theorem sameSession_setRootViewController (hs : s.currentUser = true) (ht : t.currentUser = true)
    (hflag : s.hasOnboarded = t.hasOnboarded) {vc : RootViewController}
    (hvc : vc ≠ .navigationController) :
    SameSession (s.setRootViewController vc) (t.setRootViewController vc) :=
  ⟨hs, ht, hflag, rfl, hvc⟩

theorem sameSession_didLogin (hs : s.currentUser = true) (ht : t.currentUser = true)
    (hflag : s.hasOnboarded = t.hasOnboarded) : SameSession s.didLogin t.didLogin := by
  unfold App.didLogin
  rw [← hflag]
  split
  · exact sameSession_setRootViewController hs ht hflag (by decide)
  · exact sameSession_setRootViewController hs ht hflag (by decide)

/-- A step that leaves the window alone, on both sides. -/
theorem SameSession.of_frame {s' t' : App} (h : SameSession s t)
    (hs : s'.currentUser = true ∧ s'.hasOnboarded = s.hasOnboarded ∧
      s'.rootViewController = s.rootViewController)
    (ht : t'.currentUser = true ∧ t'.hasOnboarded = t.hasOnboarded ∧
      t'.rootViewController = t.rootViewController) : SameSession s' t' := by
  refine ⟨hs.1, ht.1, ?_, ?_, ?_⟩
  · rw [hs.2.1, ht.2.1, h.flag]
  · rw [hs.2.2, ht.2.2, h.root]
  · rw [hs.2.2]; exact h.inside

/-- The answer to a phone sign-in leaves the root and the flag, and a session stays one. -/
theorem handle_phoneSignIn_frame (signIn : Nat) (success : Bool) (hu : s.currentUser = true) :
    ((AppEvent.phoneSignIn signIn success).handle s).currentUser = true ∧
    ((AppEvent.phoneSignIn signIn success).handle s).hasOnboarded = s.hasOnboarded ∧
    ((AppEvent.phoneSignIn signIn success).handle s).rootViewController =
      s.rootViewController := by
  cases hr : s.phone.signIns[signIn]? with
  | none => simp only [AppEvent.handle, hr, hu, and_self]
  | some r =>
    simp only [AppEvent.handle, hr]
    cases success with
    | false => exact ⟨hu, rfl, rfl⟩
    | true => exact ⟨rfl, rfl, rfl⟩

theorem main_ne_navigation :
    RootViewController.mainViewController ≠ .navigationController := by decide

/-- **Once both are signed in, nothing tells two runs apart.** -/
theorem sameSession_bisimulation :
    Bisimulation (fun s (ev : AppEvent) => ev.handle s) App.shown SameSession where
  view_eq h := App.shown_eq_of_root h.inside h.root
  step := by
    intro s t ev h
    have hshown := App.shown_eq_of_root h.inside h.root
    cases ev with
    | phone ev =>
      obtain ⟨hu, hf, hr, _⟩ := s.phoneEvent_frame ev
      obtain ⟨hu', hf', hr', _⟩ := t.phoneEvent_frame ev
      exact h.of_frame ⟨hu.trans h.user, hf, hr⟩ ⟨hu'.trans h.user', hf', hr'⟩
    | googleSignIn success =>
      cases success with
      | false => exact h
      | true => exact sameSession_didLogin rfl rfl h.flag
    | phoneSignIn signIn success =>
      exact h.of_frame (handle_phoneSignIn_frame signIn success h.user)
        (handle_phoneSignIn_frame signIn success h.user')
    | closeTapped =>
      simp only [AppEvent.handle, ← hshown]
      split
      · exact ⟨h.user, h.user', rfl, rfl, main_ne_navigation⟩
      · exact h
    | logoutTapped =>
      simp only [AppEvent.handle, ← hshown]
      split
      · exact sameSession_setRootViewController h.user h.user' h.flag (by decide)
      · exact h
    | relaunch =>
      simp only [AppEvent.handle, h.user, h.user', h.flag]
      exact ⟨rfl, rfl, rfl, rfl, main_ne_navigation⟩

/-! ### Before the difference is settled -/

/-- A run after a logout, and one after a launch without a session. -/
structure LoggedOut (s t : App) : Prop where
  user : s.currentUser = true
  root : s.rootViewController = .loginViewController
  launched : t = .launch false s.hasOnboarded

theorem LoggedOut.shown (h : LoggedOut s t) : s.shown = .login ∧ t.shown = .login := by
  refine ⟨?_, ?_⟩
  · simp only [App.shown, h.root]
  · rw [h.launched]; rfl

/-- A Google sign-in that succeeds. -/
def AppEvent.isGoogleSignIn : AppEvent → Bool
  | googleSignIn success => success
  | _ => false

/-- The two events a logout has left something to. -/
def AppEvent.MeetsLeftover (ev : AppEvent) : Prop :=
  ev = .phone .phoneButtonTapped ∨ ev = .relaunch

/-- On a stack that has only the login screen, the phone login waits for its button. -/
theorem handle_fresh {ev : PhoneEvent} (hev : ev ≠ .phoneButtonTapped) :
    ev.handle {} = ({} : PhoneLogin) := by
  cases ev with
  | phoneButtonTapped => exact absurd rfl hev
  | back => rfl
  | next screen countryCode phoneNumber reachable => cases screen <;> rfl
  | resend screen reachable => cases screen <;> rfl
  | submit screen smsCode reachable => cases screen <;> rfl
  | callback request outcome => rfl

theorem phoneEvent_launch {ev : PhoneEvent} (hev : ev ≠ .phoneButtonTapped) (hasOnboarded : Bool) :
    (App.launch false hasOnboarded).phoneEvent ev = .launch false hasOnboarded := by
  have hfresh := handle_fresh hev
  cases ev with
  | phoneButtonTapped => exact absurd rfl hev
  | back => rfl
  | next screen countryCode phoneNumber reachable => exact congrArg (App.mk _ _ _ · _) hfresh
  | resend screen reachable => exact congrArg (App.mk _ _ _ · _) hfresh
  | submit screen smsCode reachable => exact congrArg (App.mk _ _ _ · _) hfresh
  | callback request outcome => rfl

/-- A Google sign-in that succeeds leads both runs to one root. -/
theorem LoggedOut.settles (h : LoggedOut s t) {ev : AppEvent} (hev : ev.isGoogleSignIn = true) :
    SameSession (ev.handle s) (ev.handle t) := by
  obtain ⟨_, rfl⟩ : ∃ success, ev = .googleSignIn success := by
    cases ev <;> first | exact ⟨_, rfl⟩ | cases hev
  obtain rfl : _ = true := hev
  rw [h.launched]
  exact sameSession_didLogin rfl rfl rfl

/-- The phone button opens a screen in one run only, and so does a launch. -/
theorem LoggedOut.shows (h : LoggedOut s t) {ev : AppEvent} (hev : ev.MeetsLeftover) :
    (ev.handle s).shown ≠ (ev.handle t).shown := by
  rcases hev with rfl | rfl
  · have hs : (AppEvent.phone .phoneButtonTapped).handle s = s := by
      simp only [AppEvent.handle, App.phoneEvent, App.phoneButtonTapped, h.root,
        reduceCtorEq, if_false, ite_self]
    rw [hs, h.shown.1, h.launched]
    show Shown.login ≠ Shown.phoneNumber
    decide
  · simp only [AppEvent.handle, h.user, h.launched]
    show Shown.main ≠ Shown.login
    decide

/-- Every other event leaves both runs where they are. -/
theorem LoggedOut.keeps (h : LoggedOut s t) {ev : AppEvent} (hgoogle : ev.isGoogleSignIn = false)
    (hev : ¬ ev.MeetsLeftover) : LoggedOut (ev.handle s) (ev.handle t) := by
  obtain ⟨hs, ht⟩ := h.shown
  cases ev with
  | phone ev =>
    obtain ⟨hu, hf, hr, _⟩ := s.phoneEvent_frame ev
    refine ⟨hu.trans h.user, hr.trans h.root, ?_⟩
    rw [show (AppEvent.phone ev).handle s = s.phoneEvent ev from rfl, hf]
    rw [show (AppEvent.phone ev).handle t = t.phoneEvent ev from rfl, h.launched]
    exact phoneEvent_launch (fun he => hev (Or.inl (by rw [he]))) s.hasOnboarded
  | googleSignIn success =>
    obtain rfl : success = false := hgoogle
    exact h
  | phoneSignIn signIn success =>
    obtain ⟨hu, hf, hr⟩ := handle_phoneSignIn_frame signIn success h.user
    refine ⟨hu, hr.trans h.root, ?_⟩
    rw [hf, h.launched]
    rfl
  | closeTapped =>
    simp only [AppEvent.handle, hs, ht, reduceCtorEq, if_false]
    exact h
  | logoutTapped =>
    simp only [AppEvent.handle, hs, ht, reduceCtorEq, if_false]
    exact h
  | relaunch => exact absurd (Or.inr rfl) hev

/-- **When a logout returns the app to the signed-out state.**  From every
reachable state in which the user can log out, and along every list of events,
the screens after the logout are those after a launch without a session, if and
only if the phone button is not tapped and the app is not relaunched before the
first Google sign-in that succeeds. -/
theorem logout_iff (h : Reachable AppStep (App.launch false false) s) (hmain : s.shown = .main)
    (evs : List AppEvent) :
    screensShown s.didLogout evs = screensShown (App.launch false s.hasOnboarded) evs ↔
      ∀ ev ∈ evs.takeWhile (fun ev => !ev.isGoogleSignIn),
        ev ≠ .phone .phoneButtonTapped ∧ ev ≠ .relaunch := by
  have hstart : LoggedOut s.didLogout (App.launch false s.hasOnboarded) :=
    ⟨(App.signedInInside_of_reachable h).of_shown (Or.inl hmain), rfl, rfl⟩
  have hviews := views_eq_iff sameSession_bisimulation
    (fun h => h.shown.1.trans h.shown.2.symm) (fun _ h => h.settles) (fun _ h _ => h.shows)
    (fun _ h => h.keeps) hstart evs
  refine hviews.trans (forall₂_congr fun ev _ => ?_)
  exact not_or

/-- A user who has onboarded logs out, is refused once and signs in again. -/
theorem logout_iff_signInAgain :
    let s : App := ⟨true, true, .mainViewController, {navigation := []}, false⟩
    let evs : List AppEvent := [.googleSignIn false, .googleSignIn true, .relaunch]
    screensShown s.didLogout evs = screensShown (App.launch false true) evs ∧
      screensShown s.didLogout evs = [.login, .login, .main, .main] := by
  intro s evs
  have hreach : Reachable AppStep (App.launch false false) s :=
    ⟨[.googleSignIn true, .closeTapped], .cons rfl (.cons rfl (.nil _))⟩
  refine ⟨(logout_iff hreach rfl evs).mpr ?_, rfl⟩
  decide

/-- After a logout the phone button does nothing, and a relaunch needs no login. -/
theorem logout_leaves_stack_and_session :
    let s : App := ⟨true, true, .mainViewController, {navigation := []}, false⟩
    let tap : List AppEvent := [.phone .phoneButtonTapped]
    Reachable AppStep (App.launch false false) s ∧ s.shown = .main ∧
      screensShown s.didLogout tap = [.login, .login] ∧
      screensShown (App.launch false s.hasOnboarded) tap = [.login, .phoneNumber] ∧
      screensShown s.didLogout [.relaunch] = [.login, .main] ∧
      screensShown (App.launch false s.hasOnboarded) [.relaunch] = [.login, .login] ∧
      ¬ ∀ evs, screensShown s.didLogout evs =
        screensShown (App.launch false s.hasOnboarded) evs := by
  intro s tap
  refine ⟨⟨[.googleSignIn true, .closeTapped], .cons rfl (.cons rfl (.nil _))⟩,
    rfl, rfl, rfl, rfl, rfl, ?_⟩
  intro hall
  exact absurd (hall tap) (by decide)

end InventoryApp
