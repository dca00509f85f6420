import InventoryApp.Data.Operations

/-!
# Unique ids

Every update looks its record up by id and takes the first answer, so it depends
on ids being unique.  Nothing in the store enforces that; the callers do, by
creating each section and product under a new `UUID()`.  `Op.Fresh` is that
discipline, `FreshStep` a call that follows it, and `FreshReachable` the stores
such calls make: there ids are unique, for sections and for products, and for
users too if they are created under new ids (`FreshUser`).
-/

namespace InventoryApp

open Lib

/-- The ids of the sections and products a call creates are distinct and not stored. -/
def Op.Fresh (g : Graph) (op : Op) : Prop :=
  (∀ sec ∈ op.newSection, ¬ Stored g.sections CDSection.id sec.id) ∧
    (op.newProducts.map Product.id).Nodup ∧
    ∀ p ∈ op.newProducts, ¬ Stored g.products CDProduct.id p.id

instance (g : Graph) (op : Op) : Decidable (op.Fresh g) := inferInstanceAs (Decidable (_ ∧ _ ∧ _))

/-- The id of the user a call creates is not stored. -/
def Op.FreshUser (g : Graph) : Op → Prop
  | .createUser id _ => ¬ Stored g.users CDUser.id id
  | .fetchUser uuid => ¬ Stored g.users CDUser.id uuid
  | _ => True

variable (env : Environment)

/-- A call that returns and creates records under new ids only. -/
def FreshStep (st : CoreDataStack) (op : Op) (st' : CoreDataStack) : Prop :=
  op.Fresh st.context ∧ Step env st op st'

/-- The stacks that such calls make of the empty store. -/
def FreshReachable (st : CoreDataStack) : Prop :=
  Reachable (FreshStep env) (CoreDataStack.launch .empty) st

variable {env}

theorem FreshReachable.storeReachable {st : CoreDataStack} (h : FreshReachable env st) :
    StoreReachable env st := by
  obtain ⟨ops, h⟩ := h
  exact ⟨ops, h.mono fun _ _ _ hs => hs.2⟩

theorem not_stored {ρ : Type} {t : Table ρ} {idOf : ρ → Option UUID} {id : UUID} :
    ¬ Stored t idOf id ↔ ∀ k r, t.get? k = some r → idOf r ≠ some id := by
  simp [Stored]

/-- Where ids are unique, a look-up finds the record with the id. -/
theorem fetchById_of_distinct {ρ : Type} {t : Table ρ} {idOf : ρ → Option UUID}
    (h : t.Distinct idOf) {k : ObjectID} {r : ρ} {id : UUID} (hk : t.get? k = some r)
    (hid : idOf r = some id) : fetchById env t idOf id = some k :=
  fetchById_of_unique hk hid fun k' r' hk' hid' => h k' r' k r id hk' hk hid' hid

/-! ### One call -/

theorem distinct_sections_effect {g : Graph} {op : Op} (hfresh : op.Fresh g)
    (h : g.sections.Distinct CDSection.id) :
    (op.effect env g).sections.Distinct CDSection.id := by
  rcases effect_sections env g op with ⟨f, he, hf⟩ | ⟨sec, user, hnew, _, he⟩
  · rw [he]
    exact h.mapRows fun k s hs => (hf k s hs).1
  · rw [he]
    refine h.insert fun id hid => ?_
    obtain rfl := Option.some.inj hid
    exact not_stored.mp (hfresh.1 sec hnew)

theorem distinct_products_effect {g : Graph} {op : Op} (hfresh : op.Fresh g)
    (h : g.products.Distinct CDProduct.id) :
    (op.effect env g).products.Distinct CDProduct.id := by
  obtain ⟨_, hnodup, hnew⟩ := hfresh
  rcases effect_products env g op with ⟨f, he, hf⟩ | ⟨k, he⟩
  · rw [he]
    exact h.mapRows fun k p _ => (hf k p).1
  · rw [he]
    refine h.insertAll ?_ fun r hr id hid => ?_
    · rw [List.map_map]
      have hsome := hnodup.map (Option.some_injective UUID)
      rwa [List.map_map] at hsome
    · obtain ⟨p, hp, rfl⟩ := List.mem_map.mp hr
      obtain rfl := Option.some.inj hid
      exact not_stored.mp (hnew p hp)

theorem distinct_users_effect {g : Graph} {op : Op} (hfresh : op.FreshUser g)
    (h : g.users.Distinct CDUser.id) : (op.effect env g).users.Distinct CDUser.id := by
  have created : ∀ id name, ¬ Stored g.users CDUser.id id →
      (g.users.insert ⟨some id, name⟩).Distinct CDUser.id := by
    intro id name hnew
    refine h.insert fun x hx => ?_
    obtain rfl := Option.some.inj hx
    exact not_stored.mp hnew
  have deleted : ∀ (users : List ObjectID) (g : Graph), g.users.Distinct CDUser.id →
      (users.foldl Graph.deleteUser g).users.Distinct CDUser.id := by
    intro users
    induction users with
    | nil => exact fun _ h => h
    | cons u users ih => exact fun g h => ih _ (h.erase u)
  cases op with
  | createUser id name => exact created id (some name) hfresh
  | fetchUser uuid =>
    simp only [Op.effect]
    split
    · exact h
    · exact created uuid (some "Ray") hfresh
  | updateUser user name =>
    refine h.mapRows fun k u _ => ?_
    split <;> rfl
  | deleteUser user => exact h.erase user
  | removeAllUsers => exact deleted _ g h
  | createSection userId sec => simp only [Op.effect]; split <;> exact h
  | updateSection sec => simp only [Op.effect]; split <;> exact h
  | setSectionSortingRule id rule => simp only [Op.effect]; split <;> exact h
  | createProduct id product => simp only [Op.effect]; split <;> exact h
  | updateProduct product => simp only [Op.effect]; split <;> exact h

/-! ### Every run -/

/-- **Ids stay unique for sections and products** while calls create under new ids. -/
theorem FreshReachable.distinct {st : CoreDataStack} (h : FreshReachable env st) :
    st.context.sections.Distinct CDSection.id ∧ st.context.products.Distinct CDProduct.id := by
  obtain ⟨ops, hrun⟩ := h
  refine (hrun.invariant (fun st => st.Saved ∧ st.context.sections.Distinct CDSection.id ∧
    st.context.products.Distinct CDProduct.id) ?_ ⟨rfl, .empty, .empty⟩).2
  rintro s op s' ⟨hsaved, hsec, hprod⟩ ⟨hfresh, hstep⟩
  obtain ⟨hsaved', htab⟩ := step_cases env hsaved hstep
  obtain ⟨_, hs, hp⟩ := Tables.mk.inj htab
  refine ⟨hsaved', ?_, ?_⟩
  · rw [hs]; exact distinct_sections_effect hfresh hsec
  · rw [hp]; exact distinct_products_effect hfresh hprod

theorem distinct_users {st : CoreDataStack}
    (h : Reachable (fun s op s' => op.FreshUser s.context ∧ Step env s op s') (.launch .empty) st) :
    st.context.users.Distinct CDUser.id := by
  obtain ⟨ops, hrun⟩ := h
  refine (hrun.invariant (fun st => st.Saved ∧ st.context.users.Distinct CDUser.id) ?_
    ⟨rfl, .empty⟩).2
  rintro s op s' ⟨hsaved, hu⟩ ⟨hfresh, hstep⟩
  obtain ⟨hsaved', htab⟩ := step_cases env hsaved hstep
  obtain ⟨hu', _, _⟩ := Tables.mk.inj htab
  exact ⟨hsaved', by rw [hu']; exact distinct_users_effect hfresh hu⟩

end InventoryApp
