import InventoryApp.Data.StoreInventory

/-!
# Users do not meet

One store has the sections of all users.  A party is a set of ids, of its users,
sections and products, and `Call.Within ids` says that a call is about these only.
`Separated` is what the calls of the party and those of the others keep: a section
of the party has an owner and products of the party, and another section has none
of these.  So a call of the others touches nothing of the party's
(`Separated.sameOn_other`), and a call of the party makes the same of the party's
records whatever the others have (`SameOn.apply`).

`users_isolated` says so for the store: without the calls of the others the calls of
the party return as well, and every read under an id of the party answers the same.
Two calls are of nobody: `removeAllUsers` is about all users, and `fetchUser`, which
makes a user when there is none at all, tells a party whether there are others.
-/

namespace InventoryApp

open Lib SectionRepository ProductRepository Inventory

namespace Inventory

namespace Call

/-- The call is about users, sections and products with these ids only. -/
def Within (ids : Set UUID) : Call → Prop
  | createUser id _ => id ∈ ids
  | fetchUser _ => False
  | updateUser id _ => id ∈ ids
  | deleteUser id => id ∈ ids
  | removeAllUsers => False
  | createSection userId sec => userId ∈ ids ∧ sec.id ∈ ids ∧ ∀ p ∈ sec.products, p.id ∈ ids
  | updateSection sec => sec.id ∈ ids
  | setSectionSortingRule id _ => id ∈ ids
  | createProduct sectionId product => sectionId ∈ ids ∧ product.id ∈ ids
  | updateProduct product => product.id ∈ ids

instance (ids : Set UUID) [DecidablePred (· ∈ ids)] : (c : Call) → Decidable (c.Within ids)
  | createUser id _ => inferInstanceAs (Decidable (id ∈ ids))
  | fetchUser _ => isFalse id
  | updateUser id _ => inferInstanceAs (Decidable (id ∈ ids))
  | deleteUser id => inferInstanceAs (Decidable (id ∈ ids))
  | removeAllUsers => isFalse id
  | createSection userId sec =>
    inferInstanceAs (Decidable (userId ∈ ids ∧ sec.id ∈ ids ∧ ∀ p ∈ sec.products, p.id ∈ ids))
  | updateSection sec => inferInstanceAs (Decidable (sec.id ∈ ids))
  | setSectionSortingRule id _ => inferInstanceAs (Decidable (id ∈ ids))
  | createProduct sectionId product =>
    inferInstanceAs (Decidable (sectionId ∈ ids ∧ product.id ∈ ids))
  | updateProduct product => inferInstanceAs (Decidable (product.id ∈ ids))

variable {ids : Set UUID} {c : Call}

theorem Within.sectionId (h : c.Within ids) {id : UUID} (hc : c.sectionId = some id) :
    id ∈ ids := by
  cases c with
  | createSection userId sec => cases hc; exact h.2.1
  | updateSection sec => cases hc; exact h
  | setSectionSortingRule i rule => cases hc; exact h
  | createProduct i p => cases hc; exact h.1
  | _ => cases hc

theorem Within.productIds (h : c.Within ids) {id : UUID} (hid : id ∈ c.productIds) :
    id ∈ ids := by
  cases c with
  | createSection userId sec =>
    obtain ⟨p, hp, rfl⟩ := List.mem_map.mp hid
    exact h.2.2 p hp
  | createProduct i p => exact List.mem_singleton.mp hid ▸ h.2
  | updateProduct p => exact List.mem_singleton.mp hid ▸ h
  | _ => cases hid

end Call

/-! ### Sections of a party -/

/-- A section under `id` has an owner and products on the side of `id`. -/
structure OnSideOf (ids : Set UUID) (id : UUID) (s : StoredSection) : Prop where
  owner : ∀ o, s.owner = some o → (o ∈ ids ↔ id ∈ ids)
  products : ∀ p ∈ s.products, (p.id ∈ ids ↔ id ∈ ids)

/-- Every section has owner and products on its side. -/
def Separated (ids : Set UUID) (inv : Inventory) : Prop :=
  ∀ id s, inv.sections id = some s → OnSideOf ids id s

/-- The users and the sections under these ids are the same. -/
structure SameOn (ids : Set UUID) (inv inv' : Inventory) : Prop where
  users : ∀ id ∈ ids, inv'.users id = inv.users id
  sections : ∀ id ∈ ids, inv'.sections id = inv.sections id

variable {ids : Set UUID} {inv inv' : Inventory} {c : Call}

theorem Separated.empty : Separated ids .empty := by
  intro _ _ hs
  cases hs

theorem id_replace (p q : Product) : (p.replace q).id = q.id := by
  unfold Product.replace
  by_cases h : q.id = p.id
  · rw [if_pos h, h]
  · rw [if_neg h]

/-- A section that is changed where it is stays on its side. -/
theorem OnSideOf.of_map {id : UUID} {f : StoredSection → StoredSection} {o : Option StoredSection}
    {s : StoredSection} (ho : ∀ s, o = some s → OnSideOf ids id s) (hs : o.map f = some s)
    (hf : ∀ s, OnSideOf ids id s → OnSideOf ids id (f s)) : OnSideOf ids id s := by
  obtain ⟨s₀, hs₀, rfl⟩ := Option.map_eq_some_iff.mp hs
  exact hf s₀ (ho s₀ hs₀)

/-- Both sides of a call are known when one is. -/
theorem mem_iff_mem {ids : Set UUID} {a b : UUID}
    (h : (a ∈ ids ∧ b ∈ ids) ∨ (a ∈ idsᶜ ∧ b ∈ idsᶜ)) : a ∈ ids ↔ b ∈ ids := by
  rcases h with ⟨ha, hb⟩ | ⟨ha, hb⟩
  · exact iff_of_true ha hb
  · exact iff_of_false ha hb

/-- **Calls of either side keep the sides apart.** -/
theorem Separated.apply (h : Separated ids inv) (hc : c.Within ids ∨ c.Within idsᶜ) :
    Separated ids (inv.apply c) := by
  intro id s hs
  simp only [Inventory.apply] at hs
  cases c with
  | createUser i name => exact h id s hs
  | fetchUser i => exact h id s hs
  | updateUser i name => exact h id s hs
  | deleteUser i =>
    refine OnSideOf.of_map (h id) hs fun s₀ h₀ => ?_
    split
    · refine ⟨fun o ho => ?_, h₀.products⟩
      cases ho
    · exact h₀
  | removeAllUsers => rcases hc with hc | hc <;> exact hc.elim
  | createSection userId sec =>
    simp only [Call.onSection] at hs
    by_cases hnew : sec.id = id ∧ inv.users userId ≠ none
    · rw [if_pos hnew] at hs
      obtain rfl := Option.some.inj hs
      obtain ⟨rfl, _⟩ := hnew
      refine ⟨fun o ho => ?_, fun p hp => mem_iff_mem ?_⟩
      · obtain rfl := Option.some.inj ho
        exact mem_iff_mem (hc.imp (fun hc => ⟨hc.1, hc.2.1⟩) fun hc => ⟨hc.1, hc.2.1⟩)
      · have hp : p ∈ sec.products := Multiset.mem_coe.mp hp
        exact hc.imp (fun hc => ⟨hc.2.2 p hp, hc.2.1⟩) fun hc => ⟨hc.2.2 p hp, hc.2.1⟩
    · rw [if_neg hnew] at hs
      exact h id s hs
  | updateSection sec =>
    simp only [Call.onSection] at hs
    by_cases hid : sec.id = id
    · rw [if_pos hid] at hs
      exact OnSideOf.of_map (h id) hs fun s₀ h₀ => ⟨h₀.owner, h₀.products⟩
    · rw [if_neg hid] at hs
      exact h id s hs
  | setSectionSortingRule i rule =>
    simp only [Call.onSection] at hs
    by_cases hid : i = id
    · rw [if_pos hid] at hs
      exact OnSideOf.of_map (h id) hs fun s₀ h₀ => ⟨h₀.owner, h₀.products⟩
    · rw [if_neg hid] at hs
      exact h id s hs
  | createProduct i p =>
    simp only [Call.onSection] at hs
    by_cases hid : i = id
    · subst hid
      rw [if_pos rfl] at hs
      refine OnSideOf.of_map (h i) hs fun s₀ h₀ => ⟨h₀.owner, fun q hq => ?_⟩
      rcases Multiset.mem_cons.mp hq with rfl | hq
      · exact mem_iff_mem (hc.imp And.symm And.symm)
      · exact h₀.products q hq
    · rw [if_neg hid] at hs
      exact h id s hs
  | updateProduct p =>
    refine OnSideOf.of_map (h id) hs fun s₀ h₀ => ⟨h₀.owner, fun q hq => ?_⟩
    obtain ⟨q₀, hq₀, rfl⟩ := Multiset.mem_map.mp hq
    rw [id_replace]
    exact h₀.products q₀ hq₀

/-- **A call of the others leaves the party's users and sections.** -/
theorem Separated.sameOn_other (h : Separated ids inv) (hc : c.Within idsᶜ) :
    SameOn ids inv (inv.apply c) where
  users id hid := by
    simp only [Inventory.apply]
    cases c with
    | createUser i name => exact Function.update_of_ne (ne_of_mem_of_not_mem hid hc) _ _
    | fetchUser i => exact hc.elim
    | updateUser i name => exact Function.update_of_ne (ne_of_mem_of_not_mem hid hc) _ _
    | deleteUser i => exact Function.update_of_ne (ne_of_mem_of_not_mem hid hc) _ _
    | removeAllUsers => exact hc.elim
    | _ => rfl
  sections id hid := by
    have named : ∀ i, c.sectionId = some i →
        c.onSection inv.users id (inv.sections id) = inv.sections id := fun i hi =>
      Call.onSection_of_ne hi (ne_of_mem_of_not_mem hid (hc.sectionId hi)).symm _ _
    simp only [Inventory.apply]
    cases c with
    | deleteUser i =>
      simp only [Call.onSection]
      cases hs : inv.sections id with
      | none => rfl
      | some s =>
        refine congrArg some (if_neg fun ho => ?_)
        exact hc (((h id s hs).owner i ho).mpr hid)
    | removeAllUsers => exact hc.elim
    | createSection userId sec => exact named _ rfl
    | updateSection sec => exact named _ rfl
    | setSectionSortingRule i rule => exact named _ rfl
    | createProduct i p => exact named _ rfl
    | updateProduct p =>
      simp only [Call.onSection]
      cases hs : inv.sections id with
      | none => rfl
      | some s =>
        have hproducts : s.products.map p.replace = s.products := by
          refine (Multiset.map_congr rfl fun q hq => if_neg fun he => ?_).trans (Multiset.map_id _)
          exact hc (he ▸ ((h id s hs).products q hq).mpr hid)
        rw [Option.map_some, hproducts]
    | _ => rfl

/-- **A call of the party makes the same of its users and sections.** -/
theorem SameOn.apply (h : SameOn ids inv inv') (hc : c.Within ids) :
    SameOn ids (inv.apply c) (inv'.apply c) where
  users id hid := by
    have same := h.users id hid
    simp only [Inventory.apply]
    cases c with
    | createUser i name =>
      simp only [Call.onUsers, Function.update_apply, same]
    | fetchUser i => exact hc.elim
    | updateUser i name =>
      simp only [Call.onUsers, Function.update_apply, same, h.users i hc]
    | deleteUser i =>
      simp only [Call.onUsers, Function.update_apply, same]
    | removeAllUsers => exact hc.elim
    | _ => exact same
  sections id hid := by
    simp only [Inventory.apply, h.sections id hid]
    cases c with
    | createSection userId sec => simp only [Call.onSection, h.users userId hc.1]
    | _ => rfl

end Inventory

/-! ### The store -/

variable {env : Environment} {ids : Set UUID}

/-- A call that returns and creates records under new ids only.  A call about a user
is made with an object of the id. -/
def CallMade (env : Environment) (st : CoreDataStack) (c : Call) (st' : CoreDataStack) : Prop :=
  ∃ op : Op, op.call st.context = some c ∧ NewIdStep env st op st'

/-- `st'` has the party's users and sections of `st`, and both keep the sides apart. -/
structure SeenAlike (env : Environment) (ids : Set UUID) (st st' : CoreDataStack) : Prop where
  left : NewIdReachable env st
  right : NewIdReachable env st'
  separatedLeft : Separated ids (inventory env st.context)
  separatedRight : Separated ids (inventory env st'.context)
  same : SameOn ids (inventory env st.context) (inventory env st'.context)

theorem inventory_of_callMade {st t : CoreDataStack} {c : Call} (h : NewIdReachable env st)
    (hmade : CallMade env st c t) :
    NewIdReachable env t ∧ inventory env t.context = (inventory env st.context).apply c := by
  obtain ⟨op, hcall, hstep⟩ := hmade
  refine ⟨h.step hstep, ?_⟩
  rw [inventory_of_step h hstep, hcall, Option.elim_some]

/-- A user id is stored when the inventory has a user under it. -/
theorem stored_user_iff (env : Environment) {g : Graph} (h : Coherent g) {id : UUID} :
    Stored g.users CDUser.id id ↔ (inventory env g).users id ≠ none := by
  rw [h.users_ne_none]
  constructor
  · rintro ⟨k, r, hr, hid⟩
    exact ⟨k, fetchById_of_distinct h.users hr hid⟩
  · rintro ⟨k, hk⟩
    exact ⟨k, fetchById_eq_some hk⟩

namespace SeenAlike

variable {st st' t : CoreDataStack} {c : Call}

theorem stored_user (h : SeenAlike env ids st st') {id : UUID} (hid : id ∈ ids) :
    Stored st'.context.users CDUser.id id ↔ Stored st.context.users CDUser.id id := by
  rw [stored_user_iff env h.right.coherent, stored_user_iff env h.left.coherent,
    h.same.users id hid]

theorem stored_section (h : SeenAlike env ids st st') {id : UUID} (hid : id ∈ ids) :
    Stored st'.context.sections CDSection.id id ↔ Stored st.context.sections CDSection.id id := by
  rw [stored_section_iff env h.right.coherent, stored_section_iff env h.left.coherent,
    h.same.sections id hid]

/-- A product of the party is in the one store if it is in the other. -/
theorem stored_product (h : SeenAlike env ids st st') {id : UUID} (hid : id ∈ ids) :
    Stored st'.context.products CDProduct.id id ↔ Stored st.context.products CDProduct.id id := by
  rw [stored_product_iff env h.right.coherent, stored_product_iff env h.left.coherent]
  constructor
  -- the section is the party's, as the product is
  · rintro ⟨i, s, hs, q, hq, rfl⟩
    have hi : i ∈ ids := ((h.separatedRight i s hs).products q hq).mp hid
    exact ⟨i, s, (h.same.sections i hi).symm.trans hs, q, hq, rfl⟩
  · rintro ⟨i, s, hs, q, hq, rfl⟩
    have hi : i ∈ ids := ((h.separatedLeft i s hs).products q hq).mp hid
    exact ⟨i, s, (h.same.sections i hi).trans hs, q, hq, rfl⟩

/-- What is new for the party in one store is new in the other. -/
theorem fresh (h : SeenAlike env ids st st') (hc : c.Within ids) {op : Op} {g : Graph}
    (hcall : op.call g = some c) (hfresh : op.Fresh st.context) : op.Fresh st'.context := by
  obtain ⟨hsec, hnodup, hprod⟩ := hfresh
  refine ⟨fun sec hm hst => hsec sec hm ?_, hnodup, fun p hm hst => hprod p hm ?_⟩
  · obtain ⟨userId, rfl⟩ := Op.call_newSection hcall hm
    exact (h.stored_section hc.2.1).mp hst
  · exact (h.stored_product (hc.productIds (Op.call_newProducts hcall hm))).mp hst

/-- The id of a user object of the party is that of an object in the other store. -/
theorem exists_user (h : SeenAlike env ids st st') {u : ObjectID} {id : UUID} (hid : id ∈ ids)
    (hu : (st.context.users.get? u).bind CDUser.id = some id) :
    ∃ u', (st'.context.users.get? u').bind CDUser.id = some id := by
  obtain ⟨r, hr, hrid⟩ := Option.bind_eq_some_iff.mp hu
  obtain ⟨u', r', hr', hrid'⟩ := (h.stored_user hid).mpr ⟨u, r, hr, hrid⟩
  exact ⟨u', by rw [hr', Option.bind_some, hrid']⟩

/-- What the party finds in one store is there in the other. -/
theorem finds (h : SeenAlike env ids st st') {op : Op} {g : Graph} (hcall : op.call g = some c)
    (hc : c.Within ids) (hf : op.Finds st'.context) : op.Finds st.context := by
  cases op with
  | createSection userId sec => cases hcall; exact (h.stored_user hc.1).mp hf
  | updateSection sec => cases hcall; exact (h.stored_section hc).mp hf
  | createProduct id p => cases hcall; exact (h.stored_section hc.1).mp hf
  | updateProduct p => cases hcall; exact (h.stored_product hc).mp hf
  | _ => exact trivial

/-- **A call of the party can be made in the other store.** -/
theorem exists_op (h : SeenAlike env ids st st') (hc : c.Within ids) (hmade : CallMade env st c t) :
    ∃ op : Op, op.call st'.context = some c ∧ op.Returns st'.context ∧ op.Fresh st'.context ∧
      op.FreshUser st'.context := by
  obtain ⟨op, hcall, hfresh, hfreshUser, hstep⟩ := hmade
  have hfresh' := h.fresh hc hcall hfresh
  have hret : op.Returns st'.context := fun hf =>
    ((step_iff env h.left.storeReachable.saved).mp hstep).1 (h.finds hcall hc hf)
  clear hstep
  cases op with
  | createUser id name =>
    cases hcall
    exact ⟨.createUser id name, rfl, hret, hfresh', (h.stored_user hc).not.mpr hfreshUser⟩
  | fetchUser id => cases hcall; exact hc.elim
  | updateUser user name =>
    obtain ⟨id, hid, rfl⟩ := Option.map_eq_some_iff.mp hcall
    obtain ⟨user', huser'⟩ := h.exists_user hc hid
    exact ⟨.updateUser user' name, by rw [Op.call, huser', Option.map_some], hret, hfresh',
      trivial⟩
  | deleteUser user =>
    obtain ⟨id, hid, rfl⟩ := Option.map_eq_some_iff.mp hcall
    obtain ⟨user', huser'⟩ := h.exists_user hc hid
    exact ⟨.deleteUser user', by rw [Op.call, huser', Option.map_some], hret, hfresh', trivial⟩
  | removeAllUsers => cases hcall; exact hc.elim
  | createSection userId sec => exact ⟨.createSection userId sec, hcall, hret, hfresh', trivial⟩
  | updateSection sec => exact ⟨.updateSection sec, hcall, hret, hfresh', trivial⟩
  | setSectionSortingRule id rule =>
    exact ⟨.setSectionSortingRule id rule, hcall, hret, hfresh', trivial⟩
  | createProduct id p => exact ⟨.createProduct id p, hcall, hret, hfresh', trivial⟩
  | updateProduct p => exact ⟨.updateProduct p, hcall, hret, hfresh', trivial⟩

/-- **A call of the party is seen alike.** -/
theorem own (h : SeenAlike env ids st st') (hc : c.Within ids) (hmade : CallMade env st c t) :
    ∃ t', CallMade env st' c t' ∧ SeenAlike env ids t t' := by
  obtain ⟨op, hcall, hret, hfresh, hfreshUser⟩ := h.exists_op hc hmade
  have hmade' : CallMade env st' c (final (exec env op) st') :=
    ⟨op, hcall, hfresh, hfreshUser, step_of_returns env hret h.right.storeReachable.saved⟩
  obtain ⟨hleft, hinv⟩ := inventory_of_callMade h.left hmade
  obtain ⟨hright, hinv'⟩ := inventory_of_callMade h.right hmade'
  refine ⟨_, hmade', hleft, hright, ?_, ?_, ?_⟩
  · rw [hinv]
    exact h.separatedLeft.apply (Or.inl hc)
  · rw [hinv']
    exact h.separatedRight.apply (Or.inl hc)
  · rw [hinv, hinv']
    exact h.same.apply hc

/-- **A call of the others is not seen.** -/
theorem other (h : SeenAlike env ids st st') (hc : c.Within idsᶜ) (hmade : CallMade env st c t) :
    SeenAlike env ids t st' := by
  obtain ⟨hleft, hinv⟩ := inventory_of_callMade h.left hmade
  have hsame := h.separatedLeft.sameOn_other hc
  refine ⟨hleft, h.right, ?_, h.separatedRight, ?_⟩
  · rw [hinv]
    exact h.separatedLeft.apply (Or.inr hc)
  · rw [hinv]
    exact ⟨fun id hid => (h.same.users id hid).trans (hsame.users id hid).symm,
      fun id hid => (h.same.sections id hid).trans (hsame.sections id hid).symm⟩

theorem refl_of_empty : SeenAlike env ids (.launch .empty) (.launch .empty) := by
  have hempty : Separated ids (inventory env (CoreDataStack.launch .empty).context) :=
    Separated.empty
  exact ⟨⟨[], .nil _⟩, ⟨[], .nil _⟩, hempty, hempty, fun _ _ => rfl, fun _ _ => rfl⟩

end SeenAlike

/-- **Users do not meet.**  Let every call of a run be about ids of one party only, or
about others only, in any interleaving.  Then the calls of the party alone return
too, and afterwards every read under an id of the party answers the same: a user's
name, a section, the sections of a user and the products of a section, whatever the
answers' orders. -/
theorem users_isolated [DecidablePred (· ∈ ids)] {calls : List Call} {st : CoreDataStack}
    (h : Run (CallMade env) (.launch .empty) calls st)
    (hparty : ∀ c ∈ calls, c.Within ids ∨ c.Within idsᶜ) :
    ∃ st', Run (CallMade env) (.launch .empty) (calls.filter (Call.Within ids)) st' ∧
      ∀ id ∈ ids, (inventory env st'.context).users id = (inventory env st.context).users id ∧
        (∀ sets sets', (fetchSectionById env st'.context sets' id).map Section.view =
          (fetchSectionById env st.context sets id).map Section.view) ∧
        (∀ sets sets', ((fetchSections env st'.context sets' id).map Section.view).Perm
          ((fetchSections env st.context sets id).map Section.view)) ∧
        ∀ sets sets', (fetchProducts env st'.context sets' id).Perm
          (fetchProducts env st.context sets id) := by
  have hown : ∀ st r (c : Call) t, SeenAlike env ids st r → c.Within ids →
      (c.Within ids ∨ c.Within idsᶜ) ∧ CallMade env st c t →
      ∃ r', CallMade env r c r' ∧ SeenAlike env ids t r' :=
    fun _ _ _ _ hE hc hstep => hE.own hc hstep.2
  obtain ⟨st', hrun, hseen⟩ := Run.filter hown
    (fun _ _ _ _ hE hc hstep => hE.other (hstep.1.resolve_left hc) hstep.2)
    SeenAlike.refl_of_empty (h.and_label hparty)
  have hl := hseen.left.coherent
  have hr := hseen.right.coherent
  refine ⟨st', hrun, fun id hid => ⟨hseen.same.users id hid, fun sets sets' => ?_,
    fun sets sets' => ?_, fun sets sets' => ?_⟩⟩
  · rw [fetchSectionById_view, fetchSectionById_view, readById_inventory hr,
      readById_inventory hl, hseen.same.sections id hid]
  · rw [← Multiset.coe_eq_coe, fetchSections_view, fetchSections_view,
      Multiset.Nodup.ext (nodup_readByUser hr id) (nodup_readByUser hl id)]
    intro v
    rw [mem_readByUser_inventory hr, mem_readByUser_inventory hl]
    -- a section of the user is under an id of the party, in both stores
    constructor
    · rintro ⟨s, hs, ho, hv⟩
      have hvid := ((hseen.separatedRight v.id s hs).owner id ho).mp hid
      rw [hseen.same.sections v.id hvid] at hs
      exact ⟨s, hs, ho, hv⟩
    · rintro ⟨s, hs, ho, hv⟩
      have hvid := ((hseen.separatedLeft v.id s hs).owner id ho).mp hid
      rw [← hseen.same.sections v.id hvid] at hs
      exact ⟨s, hs, ho, hv⟩
  · rw [← Multiset.coe_eq_coe, fetchProducts_inventory hr, fetchProducts_inventory hl,
      hseen.same.sections id hid]

/-- A call in range that creates under new ids only is made. -/
theorem callMade_final (env : Environment) (st : CoreDataStack) (op : Op) (c : Call)
    (hcall : op.call st.context = some c) (hsaved : st.Saved) (hfit : op.Fits)
    (hfresh : op.Fresh st.context) (hfreshUser : op.FreshUser st.context) :
    CallMade env st c (final (exec env op) st) ∧ (final (exec env op) st).Saved :=
  have hstep := newIdStep_final env st op hsaved hfit hfresh hfreshUser
  ⟨⟨op, hcall, hstep.1⟩, hstep.2⟩

theorem Op.call_deleteUser {g : Graph} {u : ObjectID} {id : UUID}
    (h : (g.users.get? u).bind CDUser.id = some id) :
    (Op.deleteUser u).call g = some (.deleteUser id) := by
  rw [Op.call, h, Option.map_some]

/-- Two users store a section each, and one of them is deleted. -/
theorem users_isolated_twoUsers :
    let fridge : Section := ⟨9, "fridge", 30, .oldestToNewest, [⟨1, "egg", "egg", 2, 11⟩]⟩
    let shelf : Section := ⟨8, "shelf", 30, .newestToOldest, [⟨2, "rice", "rice", 1, 90⟩]⟩
    let calls : List Call := [.createUser 7 "Ray", .createUser 6 "guest", .createSection 6 shelf,
      .createSection 7 fridge, .deleteUser 6]
    ∃ st st', Run (CallMade default) (.launch .empty) calls st ∧
      Run (CallMade default) (.launch .empty) [.createUser 7 "Ray", .createSection 7 fridge] st' ∧
      ∀ sets sets', ((fetchSections default st'.context sets' 7).map Section.view).Perm
        ((fetchSections default st.context sets 7).map Section.view) := by
  intro fridge shelf calls
  let st₀ := CoreDataStack.launch .empty
  let st₁ := final (exec default (.createUser 7 "Ray")) st₀
  let st₂ := final (exec default (.createUser 6 "guest")) st₁
  let st₃ := final (exec default (.createSection 6 shelf)) st₂
  let st₄ := final (exec default (.createSection 7 fridge)) st₃
  obtain ⟨h₁, saved₁⟩ := callMade_final default st₀ (.createUser 7 "Ray") _ rfl rfl (by decide)
    (by decide) (by decide)
  obtain ⟨h₂, saved₂⟩ := callMade_final default st₁ (.createUser 6 "guest") _ rfl saved₁
    (by decide) (by decide) (by decide)
  obtain ⟨h₃, saved₃⟩ := callMade_final default st₂ (.createSection 6 shelf) _ rfl saved₂
    (by decide) (by decide) (by decide)
  obtain ⟨h₄, saved₄⟩ := callMade_final default st₃ (.createSection 7 fridge) _ rfl saved₃
    (by decide) (by decide) (by decide)
  -- the user object that is deleted is the second one
  have hid : (st₄.context.users.get? 1).bind CDUser.id = some 6 := by decide
  obtain ⟨h₅, _⟩ := callMade_final default st₄ (.deleteUser 1) (.deleteUser 6)
    (Op.call_deleteUser hid) saved₄ (by decide) (by decide) (by decide)
  have hrun : Run (CallMade default) st₀ calls _ :=
    .cons h₁ (.cons h₂ (.cons h₃ (.cons h₄ (.cons h₅ (.nil _)))))
  -- the ids of the first user are odd, those of the second even
  have hparty : ∀ c ∈ calls, c.Within {id | id.toNat % 2 = 1} ∨
      c.Within {id : UUID | id.toNat % 2 = 1}ᶜ := by decide
  have hfilter : calls.filter (Call.Within {id | id.toNat % 2 = 1}) =
      [.createUser 7 "Ray", .createSection 7 fridge] := by
    simp [calls, fridge, shelf, Call.Within]
  obtain ⟨st', hown, hreads⟩ := users_isolated hrun hparty
  rw [hfilter] at hown
  exact ⟨_, st', hrun, hown, (hreads 7 rfl).2.2.1⟩

end InventoryApp
