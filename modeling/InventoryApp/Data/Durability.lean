import InventoryApp.Data.StoreInventory

/-!
# What survives the process

A process makes its calls on the store it was launched on, until it quits, a call
traps, or it is killed; then the next one is launched on what is on disk.  It can
be killed inside a call, when some of the call's saves are complete
(`ProcessEvent`, `ProcessStep`).

Every call saves once and last, and a call that traps never saves
(`exec_of_not_fits`), so a call that did not return has happened or not, and
nothing in between.  `durability` is that for every history of processes: the
store is one that calls make of the empty store, each of them run to its end.  A
`guard` stands for whatever the callers keep to, such as new ids (`NewIds`).
-/

namespace InventoryApp

open Lib Inventory

/-- What happens to a process: a call that returns or traps, a kill inside a call
when some of its saves are complete, or an end between two calls. -/
inductive ProcessEvent
  | call (op : Op)
  | killed (op : Op) (saves : Nat)
  | quit

/-- The stores a call saves, oldest first. -/
def savedBy (env : Environment) (op : Op) (st : CoreDataStack) : List Graph :=
  (final (exec env op) st).saves.drop st.saves.length

/-- One event; where it ends the process, the next one is launched on the disk. -/
inductive ProcessStep (env : Environment) (guard : Graph → Op → Prop) :
    CoreDataStack → ProcessEvent → CoreDataStack → Prop
  | returns {st st' : CoreDataStack} {op : Op} : guard st.context op →
      (exec env op).run st = .ok () st' → ProcessStep env guard st (.call op) st'
  | traps {st t : CoreDataStack} {op : Op} {trap : Trap} : guard st.context op →
      (exec env op).run st = .error trap t →
      ProcessStep env guard st (.call op) (.launch t.persisted)
  | killed {st : CoreDataStack} {op : Op} {saves : Nat} {disk : Graph} : guard st.context op →
      (st.persisted :: savedBy env op st)[saves]? = some disk →
      ProcessStep env guard st (.killed op saves) (.launch disk)
  | quit {st : CoreDataStack} : ProcessStep env guard st .quit (.launch st.persisted)

/-- The calls that an event completes: a call that returns, and a killed one that
had saved.  A call out of range has no effect, returned or trapped. -/
def ProcessEvent.Completes : ProcessEvent → List Op → Prop
  | call op, ops => ops = if op.Fits then [op] else []
  | killed op saves, ops => ops = if saves = 0 then [] else [op]
  | quit, ops => ops = []

/-- A call in range that returns, from callers that keep to a guard. -/
def GuardedStep (env : Environment) (guard : Graph → Op → Prop) (st : CoreDataStack) (op : Op)
    (st' : CoreDataStack) : Prop :=
  guard st.context op ∧ op.Fits ∧ Step env st op st'

/-- Callers that create every record under a new id. -/
def NewIds (g : Graph) (op : Op) : Prop := op.Fresh g ∧ op.FreshUser g

variable {env : Environment}

/-! ### Calls out of range -/

/-- **A call out of range does nothing, or traps unsaved.** -/
theorem exec_of_not_fits (env : Environment) {st : CoreDataStack} (hsaved : st.Saved) {op : Op}
    (hfit : ¬ op.Fits) :
    (exec env op).run st = .ok () st ∨
      ∃ trap t, (exec env op).run st = .error trap t ∧ Unwritten st t := by
  by_cases hfinds : op.Finds st.context
  · have hall := exec_allOrNothing env hsaved op
    unfold AllOrNothing at hall
    cases hr : (exec env op).run st with
    | ok _ st' => rw [hr] at hall; exact absurd ⟨hfinds, hfit⟩ hall.1
    | error trap t => rw [hr] at hall; exact Or.inr ⟨trap, t, rfl, hall.2.2⟩
  · obtain ⟨g, hr, hg⟩ := exec_ok env (fun h => absurd h hfinds) hsaved
    rw [effect_of_not_finds env hfinds, Graph.tables_inj] at hg
    rw [hg, CoreDataStack.commit_self hsaved] at hr
    exact Or.inl hr

/-- A call out of range saves nothing. -/
theorem savedBy_of_not_fits {st : CoreDataStack} (hsaved : st.Saved) {op : Op}
    (hfit : ¬ op.Fits) : savedBy env op st = [] := by
  have hsaves : (final (exec env op) st).saves = st.saves := by
    rcases exec_of_not_fits env hsaved hfit with hr | ⟨trap, t, hr, _, hs⟩
    · rw [final, hr]
    · rw [final, hr]
      exact hs
  rw [savedBy, hsaves, List.drop_length]

/-- A call in range saves once, and what it saves is its effect, or has no effect. -/
theorem savedBy_of_fits (env : Environment) {st : CoreDataStack} (hsaved : st.Saved) {op : Op}
    (hfit : op.Fits) :
    ∃ g, (exec env op).run st = .ok () (st.commit g) ∧ g.tables = op.effect env st.context ∧
      ∀ disk ∈ savedBy env op st, savedBy env op st = [g] ∧ disk = g := by
  obtain ⟨g, hr, hg⟩ := exec_ok env (hfit.returns _) hsaved
  refine ⟨g, hr, hg, ?_⟩
  by_cases hne : g = st.persisted
  · have hnone : savedBy env op st = [] := by
      rw [savedBy, final, hr, CoreDataStack.commit, if_neg (not_not.mpr hne)]
      exact List.drop_length
    rw [hnone]
    intro disk hd
    cases hd
  · have hone : savedBy env op st = [g] := by
      rw [savedBy, final, hr, CoreDataStack.commit_of_ne hne]
      exact List.drop_left
    rw [hone]
    exact fun disk hd => ⟨rfl, List.mem_singleton.mp hd⟩

/-- A call that changes the store saves what it leaves. -/
theorem savedBy_of_ne (env : Environment) {st : CoreDataStack} (hsaved : st.Saved) {op : Op}
    (hfit : op.Fits) (hne : op.effect env st.context ≠ st.context.tables) :
    savedBy env op st = [(final (exec env op) st).persisted] := by
  obtain ⟨g, hr, hg⟩ := exec_ok env (hfit.returns _) hsaved
  have hstore : g ≠ st.persisted := by
    rintro rfl
    rw [hsaved] at hg
    exact hne hg.symm
  rw [savedBy, final, hr, CoreDataStack.commit_of_ne hstore]
  exact List.drop_left

/-! ### Every history of processes -/

/-- A process that a crash-free run stands for: nothing is unsaved, and the contexts agree. -/
structure StandsFor (st r : CoreDataStack) : Prop where
  saved : st.Saved
  saved' : r.Saved
  context : r.context = st.context

/-- A call in range has the same effect in the run. -/
theorem StandsFor.step {guard : Graph → Op → Prop} {st r : CoreDataStack} (h : StandsFor st r)
    {op : Op} (hguard : guard st.context op) (hfit : op.Fits) {g : Graph}
    (hg : g.tables = op.effect env st.context) :
    ∃ r', GuardedStep env guard r op r' ∧ r'.Saved ∧ r'.context = g := by
  obtain ⟨g', hr, hg'⟩ := exec_ok env (hfit.returns _) h.saved'
  refine ⟨r.commit g', ⟨h.context ▸ hguard, hfit, hr⟩, r.saved_commit g', ?_⟩
  rw [CoreDataStack.context_commit]
  rw [h.context, ← hg, Graph.tables_inj] at hg'
  exact hg'

/-- **Each event is matched by the calls it completes.** -/
theorem simulation_process (guard : Graph → Op → Prop) :
    Simulation (ProcessStep env guard) (GuardedStep env guard) StandsFor
      ProcessEvent.Completes := by
  intro st r ev st' h hstep
  have same : ∀ {disk : Graph}, disk = st.context → StandsFor (.launch disk) r :=
    fun hd => ⟨rfl, h.saved', h.context.trans hd.symm⟩
  cases ev with
  | call op =>
    by_cases hfit : op.Fits
    · obtain ⟨g, hr, hg⟩ := exec_ok env (hfit.returns _) h.saved
      cases hstep with
      | returns hguard hrun =>
        obtain ⟨_, rfl⟩ := run_ok_inj hrun hr
        obtain ⟨r', hr', hsaved', hcontext⟩ := h.step hguard hfit hg
        refine ⟨[op], r', (if_pos hfit).symm, .cons hr' (.nil r'), st.saved_commit g, hsaved', ?_⟩
        rw [hcontext, CoreDataStack.context_commit]
      | traps _ hrun =>
        rw [hr] at hrun
        cases hrun
    · refine ⟨[], r, (if_neg hfit).symm, .nil r, ?_⟩
      rcases exec_of_not_fits env h.saved hfit with hr | ⟨trap, t, hr, hdisk, _⟩
      · cases hstep with
        | returns _ hrun =>
          obtain ⟨_, rfl⟩ := run_ok_inj hrun hr
          exact h
        | traps _ hrun =>
          rw [hr] at hrun
          cases hrun
      · cases hstep with
        | returns _ hrun =>
          rw [hr] at hrun
          cases hrun
        | traps _ hrun =>
          rw [hr] at hrun
          cases hrun
          exact same (hdisk.trans h.saved)
  | killed op saves =>
    cases hstep with
    | @killed _ _ disk hguard hdisk =>
      cases saves with
      | zero =>
        obtain rfl := Option.some.inj hdisk
        exact ⟨[], r, (if_pos rfl).symm, .nil r, same h.saved⟩
      | succ n =>
        have hmem : disk ∈ savedBy env op st := List.mem_of_getElem? hdisk
        by_cases hfit : op.Fits
        · obtain ⟨g, _, hg, hsaves⟩ := savedBy_of_fits env h.saved hfit
          obtain ⟨_, rfl⟩ := hsaves disk hmem
          obtain ⟨r', hr', hsaved', hcontext⟩ := h.step hguard hfit hg
          exact ⟨[op], r', (if_neg (Nat.succ_ne_zero n)).symm, .cons hr' (.nil r'), rfl, hsaved',
            hcontext⟩
        · rw [savedBy_of_not_fits h.saved hfit] at hmem
          cases hmem
  | quit =>
    cases hstep with
    | quit => exact ⟨[], r, rfl, .nil r, same h.saved⟩

/-- **Every call is durable or has not happened.**  Over any history of processes
on one store, with calls that return or trap, kills inside calls after any number
of their saves, and ends between calls, nothing is ever unsaved outside a call, and
the store on disk is what a run without an interruption makes of the empty store:
of the calls that returned, in their order, and of the killed ones exactly those
that had saved. -/
theorem durability {guard : Graph → Op → Prop} {evs : List ProcessEvent} {st : CoreDataStack}
    (h : Run (ProcessStep env guard) (.launch .empty) evs st) :
    ∃ opss st₀, List.Forall₂ ProcessEvent.Completes evs opss ∧
      Run (GuardedStep env guard) (.launch .empty) opss.flatten st₀ ∧
      st.Saved ∧ st.persisted = st₀.persisted := by
  obtain ⟨opss, st₀, hcompletes, hrun, hstands⟩ :=
    (simulation_process guard).run h (r := .launch .empty) ⟨rfl, rfl, rfl⟩
  refine ⟨opss, st₀, hcompletes, hrun, hstands.saved, ?_⟩
  rw [hstands.saved, hstands.saved', hstands.context]

/-- A section is stored in a second attempt, and its new order in a call that does not return. -/
theorem durability_killedTwice :
    let fridge : Section := ⟨9, "fridge", 30, .oldestToNewest, [⟨1, "egg", "egg", 2, 11⟩]⟩
    let evs : List ProcessEvent :=
      [.call (.createUser 7 "Ray"), .killed (.createSection 7 fridge) 0,
        .call (.createSection 7 fridge), .killed (.setSectionSortingRule 9 .newestToOldest) 1]
    ∃ st, Run (ProcessStep default fun _ _ => True) (.launch .empty) evs st ∧
      ∃ opss st₀, List.Forall₂ ProcessEvent.Completes evs opss ∧
        Run (GuardedStep default fun _ _ => True) (.launch .empty) opss.flatten st₀ ∧
        st.persisted = st₀.persisted := by
  intro fridge evs
  let st₀ := CoreDataStack.launch .empty
  let st₁ := final (exec default (.createUser 7 "Ray")) st₀
  let st₂ := CoreDataStack.launch st₁.persisted
  let st₃ := final (exec default (.createSection 7 fridge)) st₂
  let st₄ := final (exec default (.setSectionSortingRule 9 .newestToOldest)) st₃
  have h₁ : Step default st₀ (.createUser 7 "Ray") st₁ := step_final default (by decide) rfl
  have saved₂ : st₂.Saved := rfl
  have h₃ : Step default st₂ (.createSection 7 fridge) st₃ :=
    step_final default (by decide) saved₂
  have hsaves : savedBy default (.setSectionSortingRule 9 .newestToOldest) st₃ = [st₄.persisted] :=
    savedBy_of_ne default (step_cases default saved₂ h₃).1 (by decide) (by decide)
  have h₄ : (st₃.persisted :: savedBy default (.setSectionSortingRule 9 .newestToOldest) st₃)[1]? =
      some st₄.persisted := by rw [hsaves]; rfl
  have hrun : Run (ProcessStep default fun _ _ => True) st₀ evs (.launch st₄.persisted) :=
    .cons (.returns trivial h₁) (.cons (.killed trivial rfl) (.cons (.returns trivial h₃)
      (.cons (.killed trivial h₄) (.nil _))))
  obtain ⟨opss, r, hcompletes, hops, _, hdisk⟩ := durability hrun
  exact ⟨_, hrun, opss, r, hcompletes, hops, hdisk⟩

end InventoryApp
