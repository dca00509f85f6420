import InventoryApp.AppDelegate

/-!
# Onboarding before the inventory

A user should meet the onboarding screens before the inventory.  Three places put
a main screen up: the launch with a session, `didLogin` and the completion of
`authenticate`.  Only `didLogin` asks `LocalState.hasOnboarded`, so a process that
ends between the sign-in and the end of onboarding skips it at the next launch,
and a phone sign-in never comes to it at all.

`onboarded_iff` names the two events that go past the flag, in terms of the state
they meet: a launch with a session, and a phone sign-in whose controller is still
on the stack.
-/

namespace InventoryApp

open Lib

/-- A main screen is the root of the window or presented from it. -/
def App.MainInstalled (s : App) : Prop :=
  s.rootViewController = .mainViewController ∨ s.presented = true

/-- Whoever has reached a main screen has onboarded. -/
def App.Onboarded (s : App) : Prop := s.MainInstalled → s.hasOnboarded = true

/-- The event does not put up a main screen of its own, or onboarding is over. -/
def AppEvent.MeetsOnboarded (s : App) (ev : AppEvent) : Prop :=
  s.hasOnboarded = true ∨
    match ev with
    | relaunch => s.currentUser = false
    | phoneSignIn signIn true =>
      ∀ r, s.phone.signIns[signIn]? = some r → .verification r.controller ∉ s.phone.navigation
    | _ => True

variable {s : App}

theorem navigation_ne_main :
    RootViewController.navigationController ≠ .mainViewController := by decide

theorem App.onboarded_of_flag (h : s.hasOnboarded = true) : s.Onboarded := fun _ => h

/-- With a root other than the main screen and nothing presented there is nothing to ask for. -/
theorem App.onboarded_setRootViewController {vc : RootViewController}
    (hvc : vc ≠ .mainViewController) : (s.setRootViewController vc).Onboarded := by
  intro h
  rcases h with h | h
  · exact absurd h hvc
  · cases h

/-- A launch asks for the session alone. -/
theorem App.onboarded_launch_iff (currentUser hasOnboarded : Bool) :
    (App.launch currentUser hasOnboarded).Onboarded ↔
      hasOnboarded = true ∨ currentUser = false := by
  cases currentUser with
  | true =>
    constructor
    · intro h
      exact Or.inl (h (Or.inl rfl))
    · intro h
      exact App.onboarded_of_flag (h.resolve_right (by decide))
  | false =>
    refine iff_of_true ?_ (Or.inr rfl)
    intro h
    rcases h with h | h
    · exact absurd h navigation_ne_main
    · cases h

/-- `didLogin` asks for the flag. -/
theorem App.onboarded_didLogin (s : App) : s.didLogin.Onboarded := by
  unfold App.didLogin
  by_cases h : s.hasOnboarded = true
  · rw [if_pos h]
    exact App.onboarded_of_flag h
  · rw [if_neg h]
    exact App.onboarded_setRootViewController (by decide)

/-- The completion of `authenticate` asks for its controller alone. -/
theorem App.onboarded_verifyCodeCompletion_iff (h : s.Onboarded)
    (controller : VerificationController) :
    (s.verifyCodeCompletion controller true).Onboarded ↔
      s.hasOnboarded = true ∨ .verification controller ∉ s.phone.navigation := by
  constructor
  · intro hs
    by_cases hmem : Screen.verification controller ∈ s.phone.navigation
    · left
      apply hs
      right
      show (s.presented || decide (Screen.verification controller ∈ s.phone.navigation)) = true
      rw [decide_eq_true hmem, Bool.or_true]
    · exact Or.inr hmem
  · intro hcond hmain
    rcases hcond with hflag | hmem
    · exact hflag
    · apply h
      rcases hmain with hroot | hpresented
      · exact Or.inl hroot
      · right
        change (s.presented || decide (Screen.verification controller ∈ s.phone.navigation)) = true
          at hpresented
        rwa [decide_eq_false hmem, Bool.or_false] at hpresented

/-- **What one event does to a state in which the law holds.** -/
theorem App.onboarded_handle_iff (h : s.Onboarded) (ev : AppEvent) :
    (ev.handle s).Onboarded ↔ ev.MeetsOnboarded s := by
  cases ev with
  | phone ev =>
    obtain ⟨_, hf, hr, hp⟩ := s.phoneEvent_frame ev
    refine iff_of_true ?_ (Or.inr trivial)
    unfold App.Onboarded App.MainInstalled AppEvent.handle
    rw [hf, hr, hp]
    exact h
  | googleSignIn success =>
    refine iff_of_true ?_ (Or.inr trivial)
    cases success with
    | false => exact h
    | true => exact App.onboarded_didLogin _
  | phoneSignIn signIn success =>
    cases hr : s.phone.signIns[signIn]? with
    | none =>
      cases success <;> simpa [AppEvent.handle, AppEvent.MeetsOnboarded, hr] using h
    | some r =>
      simp only [AppEvent.handle, AppEvent.MeetsOnboarded, hr]
      cases success with
      | false => exact iff_of_true h (Or.inr trivial)
      | true =>
        rw [App.onboarded_verifyCodeCompletion_iff h]
        refine or_congr_right ⟨fun hmem r' hr' => ?_, fun hall => hall r hr⟩
        obtain rfl := Option.some.inj (hr.symm.trans hr')
        exact hmem
  | closeTapped =>
    refine iff_of_true ?_ (Or.inr trivial)
    unfold AppEvent.handle
    by_cases hs : s.shown = .onboarding
    · rw [if_pos hs]
      exact App.onboarded_of_flag rfl
    · rw [if_neg hs]
      exact h
  | logoutTapped =>
    refine iff_of_true ?_ (Or.inr trivial)
    unfold AppEvent.handle
    by_cases hs : s.shown = .main
    · rw [if_pos hs]
      exact App.onboarded_setRootViewController (by decide)
    · rw [if_neg hs]
      exact h
  | relaunch => exact App.onboarded_launch_iff s.currentUser s.hasOnboarded

/-- **When nobody reaches the inventory without onboarding.**  Along every list of
events from a fresh install, the flag is set in each state with a main screen, if
and only if, as long as it is not set, no relaunch meets a session and no phone
sign-in succeeds whose verification screen is still on the stack. -/
theorem onboarded_iff (evs : List AppEvent) :
    Always AppStep (fun _ _ s' => s'.Onboarded) (App.launch false false) evs ↔
      Always AppStep (fun s ev _ => ev.MeetsOnboarded s) (App.launch false false) evs := by
  refine always_iff_always App.Onboarded ?_ ?_ ((App.onboarded_launch_iff _ _).mpr (Or.inr rfl)) evs
  · intro s ev s' hs hstep
    obtain rfl := hstep
    exact App.onboarded_handle_iff hs ev
  · intro s ev s' hs hstep hcond
    obtain rfl := hstep
    exact (App.onboarded_handle_iff hs ev).mpr hcond

/-- A process that ends during onboarding, and a phone sign-in, both reach the inventory. -/
theorem main_before_onboarding :
    (∃ s, Run AppStep (App.launch false false) [.googleSignIn true, .relaunch] s ∧
      s.rootViewController = .mainViewController ∧ s.hasOnboarded = false) ∧
    (∃ s, Run AppStep (App.launch false false)
      [.phone .phoneButtonTapped, .phone (.next 1 "+1" "5550100001" true),
        .phone (.callback 0 (some "id")), .phone (.submit 3 "123456" true), .phoneSignIn 0 true] s ∧
      s.presented = true ∧ s.hasOnboarded = false) ∧
    ¬ ∀ evs s, Run AppStep (App.launch false false) evs s → s.Onboarded := by
  have hkilled : Run AppStep (App.launch false false) [.googleSignIn true, .relaunch]
      (App.launch true false) := .cons rfl (.cons rfl (.nil _))
  refine ⟨⟨_, hkilled, rfl, rfl⟩, ?_, ?_⟩
  · exact ⟨_, .cons rfl (.cons rfl (.cons rfl (.cons rfl (.cons rfl (.nil _))))),
      by decide, by decide⟩
  · intro hall
    exact absurd (hall _ _ hkilled (Or.inl rfl)) (by decide)

end InventoryApp
