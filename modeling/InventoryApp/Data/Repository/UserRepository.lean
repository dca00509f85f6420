import InventoryApp.Data.CoreDataStack

/-!
# `UserRepository`

A `CDUser` argument or result is an object reference, so it is an `ObjectID`
here; a reference to an object that was deleted changes nothing when it is
written through.  Fetches do not fail, so the `catch` branches are not reached.
`fetchUser` creates a user when there is none, under a `UUID()` that the caller
of the model names.

Each operation has one lemma, `run_` and its name, which says what it returns
and what it commits.
-/

namespace InventoryApp.UserRepository

open Lib Repo

variable (env : Environment)

def userExists : Repo Bool := do
  let count := ((← context).users.select (fun _ => true)).length
  return count > 0

def createUser (id : UUID) (name : String) : Repo ObjectID := do
  let newUser ← newCDUser
  modifyContext (·.modifyUser newUser (fun u => { u with id := some id }))
  modifyContext (·.modifyUser newUser (fun u => { u with name := some name }))
  saveContext
  return newUser

def fetchUser (uuid : UUID) : Repo (Option ObjectID) := do
  let users := (← context).users.fetch env.fetchOrder (fun _ => true)
  match users.head? with
  | some user => return some user
  | none => return some (← createUser uuid "Ray")

def updateUser (user : ObjectID) (name : String) : Repo Unit := do
  modifyContext (·.modifyUser user (fun u => { u with name := some name }))
  saveContext

def deleteUser (user : ObjectID) : Repo Unit := do
  modifyContext (·.deleteUser user)
  saveContext

def removeAllUsers : Repo Unit := do
  let users := (← context).users.fetch env.fetchOrder (fun _ => true)
  forM users fun user => modifyContext (·.deleteUser user)
  saveContext

/-! ### What each operation does -/

theorem run_userExists (st : CoreDataStack) :
    userExists.run st = .ok (decide (st.context.users.rows ≠ [])) st := by
  have h : decide ((st.context.users.select (fun _ => true)).length > 0)
      = decide (st.context.users.rows ≠ []) := by
    simp [Table.select, List.length_pos_iff]
  rw [← h]
  rfl

theorem run_createUser (id : UUID) (name : String) (st : CoreDataStack) :
    ∃ g, (createUser id name).run st = .ok st.context.users.next (st.commit g) ∧
      g.tables = ⟨st.context.users.insert ⟨some id, some name⟩,
        st.context.sections, st.context.products⟩ := by
  refine ⟨(st.context.insertUser.modifyUser st.context.users.next
      (fun u => { u with id := some id })).modifyUser st.context.users.next
      (fun u => { u with name := some name }), ?_, ?_⟩
  · simp only [createUser, EStateM.run_bind, run_newCDUser, run_modifyContext, run_saveContext,
      EStateM.run_pure, commit_context]
  · simp [Graph.tables]

theorem run_fetchUser_of_some {uuid : UUID} {st : CoreDataStack} {user : ObjectID}
    (h : (st.context.users.fetch env.fetchOrder (fun _ => true)).head? = some user) :
    (fetchUser env uuid).run st = .ok (some user) st := by
  rw [fetchUser, run_bind_ok (run_context st)]
  simp only [h]
  rfl

theorem run_fetchUser_of_none (uuid : UUID) {st : CoreDataStack}
    (h : (st.context.users.fetch env.fetchOrder (fun _ => true)).head? = none) :
    ∃ g, (fetchUser env uuid).run st = .ok (some st.context.users.next) (st.commit g) ∧
      g.tables = ⟨st.context.users.insert ⟨some uuid, some "Ray"⟩,
        st.context.sections, st.context.products⟩ := by
  obtain ⟨g, hr, hg⟩ := run_createUser uuid "Ray" st
  refine ⟨g, ?_, hg⟩
  rw [fetchUser, run_bind_ok (run_context st)]
  simp only [h]
  rw [run_bind_ok hr]
  rfl

theorem run_updateUser (user : ObjectID) (name : String) (st : CoreDataStack) :
    (updateUser user name).run st = .ok () (st.commit
      (st.context.modifyUser user (fun u => { u with name := some name }))) := by
  rw [updateUser, run_bind_ok (run_modifyContext _ st), run_saveContext, commit_context]

theorem run_deleteUser (user : ObjectID) (st : CoreDataStack) :
    (deleteUser user).run st = .ok () (st.commit (st.context.deleteUser user)) := by
  rw [deleteUser, run_bind_ok (run_modifyContext _ st), run_saveContext, commit_context]

theorem run_removeAllUsers (st : CoreDataStack) :
    (removeAllUsers env).run st = .ok () (st.commit
      ((st.context.users.fetch env.fetchOrder (fun _ => true)).foldl
        Graph.deleteUser st.context)) := by
  have hloop : ∀ (users : List ObjectID) (st : CoreDataStack),
      users.foldl (fun (st : CoreDataStack) user =>
        { st with context := st.context.deleteUser user }) st
        = { st with context := users.foldl Graph.deleteUser st.context } := by
    intro users
    induction users with
    | nil => intro st; rfl
    | cons user users ih => intro st; rw [List.foldl_cons, ih, List.foldl_cons]
  rw [removeAllUsers, run_bind_ok (run_context st),
    run_bind_ok (run_forM_ok (fun user _ st => run_modifyContext (·.deleteUser user) st) st),
    run_saveContext, hloop, commit_context]

end InventoryApp.UserRepository
