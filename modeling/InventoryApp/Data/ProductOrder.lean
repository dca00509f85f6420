import InventoryApp.Data.Operations
import InventoryApp.Data.Reads

/-!
# The order of the products

`section.products` is a set, and every read enumerates it anew, in any order.  A
read then sorts by the key its section's rule names, and by nothing else.  The
sort is stable: products with one key come in the order of the enumeration.

`products_determined_iff` says what is left to the enumeration.  Two reads of a
section always list the same products, both in order; and they list them alike,
whatever the enumerations, exactly when no two different products tie.
-/

namespace InventoryApp

open Lib SectionRepository

/-- A rule gives the two products one key. -/
def SortingRule.Ties (rule : SortingRule) (p q : Product) : Prop := rule.key p = rule.key q

instance (rule : SortingRule) (p q : Product) : Decidable (rule.Ties p q) :=
  inferInstanceAs (Decidable (_ = _))

variable {env : Environment} {g : Graph} {id : UUID}

/-- Every read of a section lists the products of one record, enumerated and sorted. -/
theorem fetchSectionById_sorted {sets : Arrangement} {sec : Section}
    (hread : fetchSectionById env g sets id = some sec) :
    ∃ k, ∀ sets', fetchSectionById env g sets' id = some
      { sec with
        products := sorted sec.sortingRule.areInIncreasingOrder
          ((g.productsOfSection sets' k).map (readProduct env)) } := by
  rw [fetchSectionById_eq, Option.bind_eq_some_iff] at hread
  obtain ⟨k, hk, hread⟩ := hread
  rw [Option.bind_eq_some_iff] at hread
  obtain ⟨s, hs, hm⟩ := hread
  obtain ⟨hid, ht, hrule, hr, _⟩ := (mapCDSectionToSection_eq_some env g).mp hm
  refine ⟨k, ?_⟩
  intro sets'
  rw [fetchSectionById_eq, hk, Option.bind_some, hs, Option.bind_some]
  exact (mapCDSectionToSection_eq_some env g).mpr ⟨hid, ht, hrule, hr, rfl⟩

/-- Any product of a record can be the first of those with its key. -/
theorem exists_head_filter (env : Environment) (rule : SortingRule) {k : ObjectID}
    {r : ObjectID × CDProduct} (hr : r ∈ productRows g k) :
    ∃ sets rest, (sorted rule.areInIncreasingOrder
        ((g.productsOfSection sets k).map (readProduct env))).filter
        (fun p => rule.key p = rule.key (readProduct env r)) = readProduct env r :: rest := by
  obtain ⟨rest, hfirst⟩ := g.products.exists_enumerate_first hr
  refine ⟨.first r.1, (rest.map (readProduct env)).filter
    (fun p => rule.key p = rule.key (readProduct env r)), ?_⟩
  rw [filter_sorted rule.key rule.areInIncreasingOrder_iff, Graph.productsOfSection, hfirst,
    List.map_cons]
  exact List.filter_cons_of_pos (by simp)

/-- **What the enumeration decides about the order of a section's products.**  All
reads of a section list the same products, each in the order of its rule.  Any two
of them list the products alike, whatever the enumerations, if and only if no two
different products of the section tie. -/
theorem products_determined_iff {sets : Arrangement} {sec : Section}
    (hread : fetchSectionById env g sets id = some sec) :
    (∀ sets', ∃ sec', fetchSectionById env g sets' id = some sec' ∧
      sec'.sortingRule = sec.sortingRule ∧ sec'.products.Perm sec.products ∧
      sec.sortingRule.Ordered sec'.products) ∧
    ((∀ sets₁ sets₂ sec₁ sec₂, fetchSectionById env g sets₁ id = some sec₁ →
        fetchSectionById env g sets₂ id = some sec₂ → sec₁.products = sec₂.products) ↔
      ∀ p ∈ sec.products, ∀ q ∈ sec.products, sec.sortingRule.Ties p q → p = q) := by
  obtain ⟨k, hsorted⟩ := fetchSectionById_sorted hread
  have hsec := hread.symm.trans (hsorted sets)
  have hproducts : sec.products.Perm ((productRows g k).map (readProduct env)) := by
    rw [congrArg Section.products (Option.some.inj hsec)]
    exact (perm_sorted _ _).trans ((productsOfSection_perm g sets k).map _)
  refine ⟨fun sets' => ⟨_, hsorted sets', rfl, ?_, SortingRule.ordered_sorted _ _⟩, ?_, ?_⟩
  · refine (perm_sorted _ _).trans (List.Perm.trans ?_ hproducts.symm)
    exact (productsOfSection_perm g sets' k).map _
  · intro hsame p hp q hq htie
    obtain ⟨r, hr, rfl⟩ := List.mem_map.mp (hproducts.mem_iff.mp hp)
    obtain ⟨r', hr', rfl⟩ := List.mem_map.mp (hproducts.mem_iff.mp hq)
    -- each of the two can be the first with their common key
    obtain ⟨sets₁, rest₁, h₁⟩ := exists_head_filter env sec.sortingRule hr
    obtain ⟨sets₂, rest₂, h₂⟩ := exists_head_filter env sec.sortingRule hr'
    have hlists := hsame sets₁ sets₂ _ _ (hsorted sets₁) (hsorted sets₂)
    simp only at hlists
    rw [hlists, show sec.sortingRule.key _ = _ from htie, h₂] at h₁
    exact ((List.cons.inj h₁).1).symm
  · intro hties sets₁ sets₂ sec₁ sec₂ hread₁ hread₂
    obtain rfl := Option.some.inj ((hsorted sets₁).symm.trans hread₁)
    obtain rfl := Option.some.inj ((hsorted sets₂).symm.trans hread₂)
    refine sorted_eq_of_perm sec.sortingRule.key sec.sortingRule.areInIncreasingOrder_iff ?_ ?_
    · refine ((productsOfSection_perm g sets₁ k).trans ?_).map _
      exact (productsOfSection_perm g sets₂ k).symm
    · have hmem : ∀ p ∈ (g.productsOfSection sets₁ k).map (readProduct env), p ∈ sec.products :=
        fun p hp => hproducts.mem_iff.mpr
          (((productsOfSection_perm g sets₁ k).map _).mem_iff.mp hp)
      intro p hp q hq hkey
      exact hties p (hmem p hp) q (hmem q hq) hkey

/-- Eggs and milk of which there are not as many: the milk, enumerated first, is listed last. -/
theorem products_determined_iff_quantities :
    let egg : Product := ⟨1, "egg", "egg", 2, 11⟩
    let milk : Product := ⟨2, "milk", "milk", 4, 11⟩
    let st := final (execAll default [.createUser 7 "Ray",
      .createSection 7 ⟨9, "fridge", 30, .quantityLowToHigh, [egg, milk]⟩]) (.launch .empty)
    ∃ sec, fetchSectionById default st.context (.first 1) 9 = some sec ∧
      sec.products = [egg, milk] := by
  intro egg milk st
  have hread : fetchSectionById default st.context .inOrder 9 =
      some ⟨9, "fridge", 30, .quantityLowToHigh, [egg, milk]⟩ := by decide
  obtain ⟨hreads, hiff⟩ := products_determined_iff hread
  obtain ⟨sec, hsec, _⟩ := hreads (.first 1)
  refine ⟨sec, hsec, hiff.mpr ?_ (.first 1) .inOrder sec _ hsec hread⟩
  intro p hp q hq htie
  simp only [List.mem_cons, List.not_mem_nil, or_false] at hp hq
  rcases hp with rfl | rfl <;> rcases hq with rfl | rfl
  · rfl
  · exact absurd htie (by decide)
  · exact absurd htie (by decide)
  · rfl

/-- Eggs and milk with as many days left: the enumeration decides which are listed first. -/
theorem products_reshuffled :
    let egg : Product := ⟨1, "egg", "egg", 2, 11⟩
    let milk : Product := ⟨2, "milk", "milk", 4, 11⟩
    let st := final (execAll default [.createUser 7 "Ray",
      .createSection 7 ⟨9, "fridge", 30, .newestToOldest, [egg, milk]⟩]) (.launch .empty)
    fetchSectionById default st.context (.first 0) 9
        = some ⟨9, "fridge", 30, .newestToOldest, [egg, milk]⟩ ∧
      fetchSectionById default st.context (.first 1) 9
        = some ⟨9, "fridge", 30, .newestToOldest, [milk, egg]⟩ := by
  decide

end InventoryApp
