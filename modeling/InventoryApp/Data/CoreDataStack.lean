import InventoryApp.Lib.Effect
import InventoryApp.Data.Graph

/-!
# The Core Data stack

The repositories share one context, which reads and writes see at once, and one
store on disk, which only `saveContext` changes.  `saves` lists the stores that
the saves of this process wrote, oldest first: a process that dies at some point
leaves the last one it had written by then.

What the code leaves to the outside is an `Environment`: the order in which a
fetch without sort descriptors answers, which depends on the objects that match
only, and the values `UUID()` gives for the products that have no id.  The order
in which a to-many set enumerates is not fixed by the environment; every read
takes its own.
-/

namespace InventoryApp

open Lib

structure Environment where
  fetchOrder : Arrangement
  uuid : ObjectID → UUID

/-- The order of creation, and a constant in place of `UUID()`. -/
instance : Inhabited Environment := ⟨⟨.inOrder, fun _ => 0⟩⟩

/-- The shared context, the store on disk, and what the saves wrote. -/
structure CoreDataStack where
  context : Graph
  persisted : Graph
  saves : List Graph := []
  deriving DecidableEq

namespace CoreDataStack

/-- A process that starts on a store. -/
def launch (store : Graph) : CoreDataStack := ⟨store, store, []⟩

/-- `context.hasChanges`. -/
def hasChanges (st : CoreDataStack) : Bool := st.context ≠ st.persisted

theorem hasChanges_iff {st : CoreDataStack} :
    st.hasChanges = true ↔ st.context ≠ st.persisted :=
  decide_eq_true_iff

/-- No unsaved change is left. -/
def Saved (st : CoreDataStack) : Prop := st.persisted = st.context

/-- What saving a context `g` makes of the stack. -/
def commit (st : CoreDataStack) (g : Graph) : CoreDataStack :=
  if g ≠ st.persisted then { context := g, persisted := g, saves := st.saves ++ [g] }
  else { st with context := g }

@[simp] theorem context_commit (st : CoreDataStack) (g : Graph) : (st.commit g).context = g := by
  unfold commit; split <;> rfl

@[simp] theorem persisted_commit (st : CoreDataStack) (g : Graph) :
    (st.commit g).persisted = g := by
  unfold commit; split
  · rfl
  · rename_i h; exact (not_not.mp h).symm

theorem saved_commit (st : CoreDataStack) (g : Graph) : (st.commit g).Saved := by
  simp [Saved]

/-- A save that has something to save adds to the list of saves. -/
theorem commit_of_ne {st : CoreDataStack} {g : Graph} (h : g ≠ st.persisted) :
    st.commit g = { context := g, persisted := g, saves := st.saves ++ [g] } := by
  rw [commit, if_pos h]

theorem commit_self {st : CoreDataStack} (h : st.Saved) : st.commit st.context = st := by
  rw [commit, if_neg (by rw [h]; simp)]

end CoreDataStack

/-- A repository call. -/
abbrev Repo := EStateM Trap CoreDataStack

namespace Repo

open CoreDataStack

/-- `coreDataStack.context`. -/
def context : Repo Graph := do return (← get).context

/-- Changes objects of the context. -/
def modifyContext (f : Graph → Graph) : Repo Unit :=
  modify fun st => { st with context := f st.context }

/-- `coreDataStack.saveContext()`; saving succeeds. -/
def saveContext : Repo Unit := do
  if (← get).hasChanges then
    modify fun st => { st with persisted := st.context, saves := st.saves ++ [st.context] }

/-- `CDUser(context:)`, a new object of the context. -/
def newCDUser : Repo ObjectID := do
  let g ← context
  modifyContext (·.insertUser)
  return g.users.next

/-- `CDSection(context:)`. -/
def newCDSection : Repo ObjectID := do
  let g ← context
  modifyContext (·.insertSection)
  return g.sections.next

/-- `CDProduct(context:)`. -/
def newCDProduct : Repo ObjectID := do
  let g ← context
  modifyContext (·.insertProduct)
  return g.products.next

@[simp] theorem run_context (st : CoreDataStack) : context.run st = .ok st.context st := rfl

@[simp] theorem run_modifyContext (f : Graph → Graph) (st : CoreDataStack) :
    (modifyContext f).run st = .ok () { st with context := f st.context } := rfl

@[simp] theorem run_newCDUser (st : CoreDataStack) :
    newCDUser.run st = .ok st.context.users.next { st with context := st.context.insertUser } :=
  rfl

@[simp] theorem run_newCDSection (st : CoreDataStack) :
    newCDSection.run st
      = .ok st.context.sections.next { st with context := st.context.insertSection } := rfl

@[simp] theorem run_newCDProduct (st : CoreDataStack) :
    newCDProduct.run st
      = .ok st.context.products.next { st with context := st.context.insertProduct } := rfl

@[simp] theorem run_saveContext (st : CoreDataStack) :
    saveContext.run st = .ok () (st.commit st.context) := by
  simp only [saveContext, EStateM.run_bind, EStateM.run_get]
  by_cases h : st.context = st.persisted
  · rw [commit, if_neg (not_not.mpr h), if_neg (fun hc => hasChanges_iff.mp hc h)]; rfl
  · rw [commit, if_pos h, if_pos (hasChanges_iff.mpr h)]; rfl

@[simp] theorem commit_context (st : CoreDataStack) (g g' : Graph) :
    ({ st with context := g } : CoreDataStack).commit g' = st.commit g' := by
  unfold CoreDataStack.commit; rfl

end Repo

end InventoryApp
