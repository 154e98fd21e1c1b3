import Mathlib.Data.List.Basic
import Mathlib.Data.List.Nodup

/-!
# Association lists

What is looked up in a list of keys and values is the first value under the key. The list may be
what a partial function makes of the items of another list, and then the first item with a result
under the key decides.

## Main results

* `mem_of_lookup`, `lookup_of_nodup` — what is found is in the list, and without repeated keys
  everything in it is found
* `lookup_filterMap_eq_some_iff`, `lookup_filterMap_eq_none_iff` — looking up a result
-/

set_option autoImplicit false

namespace Lookups

variable {α β γ : Type} [DecidableEq β]

theorem mem_of_lookup {pairs : List (β × γ)} {key : β} {value : γ}
    (h : pairs.lookup key = some value) : (key, value) ∈ pairs := by
  obtain ⟨before, after, rfl, -⟩ := List.lookup_eq_some_iff.mp h
  exact List.mem_append_right _ List.mem_cons_self

/-- An association list without repeated keys finds each of its values. -/
theorem lookup_of_nodup {pairs : List (β × γ)} {key : β} {value : γ}
    (hnodup : (pairs.map Prod.fst).Nodup) (hmem : (key, value) ∈ pairs) :
    pairs.lookup key = some value := by
  obtain ⟨before, after, rfl⟩ := List.append_of_mem hmem
  refine List.lookup_eq_some_iff.mpr ⟨before, after, rfl, fun pair hpair => ?_⟩
  -- a pair in front with the same key would repeat it
  rw [List.map_append, List.map_cons, List.nodup_append] at hnodup
  have hne := hnodup.2.2 pair.1 (List.mem_map_of_mem hpair) key List.mem_cons_self
  exact bne_iff_ne.mpr hne.symm

section Results

variable {f : α → Option (β × γ)} {key : β}

/-- A result under another key, or none, is passed over. -/
theorem lookup_filterMap_cons_of_ne {item : α} {later : List α}
    (h : ∀ value, f item ≠ some (key, value)) :
    ((item :: later).filterMap f).lookup key = (later.filterMap f).lookup key := by
  cases hitem : f item with
  | none => rw [List.filterMap_cons_none hitem]
  | some result =>
    obtain ⟨key', value'⟩ := result
    have hne : key ≠ key' := by
      rintro rfl
      exact h value' hitem
    rw [List.filterMap_cons_some hitem, List.lookup_cons, beq_eq_false_iff_ne.mpr hne]

/-- What is looked up among the results of a partial function is the first result under its
key. -/
theorem lookup_filterMap_eq_some_iff {items : List α} {value : γ} :
    (items.filterMap f).lookup key = some value ↔
      ∃ before item after, items = before ++ item :: after ∧ f item = some (key, value) ∧
        ∀ earlier ∈ before, ∀ value', f earlier ≠ some (key, value') := by
  induction items with
  | nil => simp
  | cons item later ih =>
    by_cases hitem : ∃ value', f item = some (key, value')
    · obtain ⟨value', hvalue'⟩ := hitem
      rw [List.filterMap_cons_some hvalue', List.lookup_cons_self, Option.some_inj]
      constructor
      · rintro rfl
        exact ⟨[], item, later, rfl, hvalue', nofun⟩
      · rintro ⟨before, item', after, heq, hvalue, hbefore⟩
        cases before with
        | nil =>
          cases heq
          rw [hvalue'] at hvalue
          cases hvalue
          rfl
        | cons first before =>
          cases heq
          exact absurd hvalue' (hbefore item List.mem_cons_self value')
    · rw [not_exists] at hitem
      rw [lookup_filterMap_cons_of_ne hitem, ih]
      constructor
      · rintro ⟨before, item', after, rfl, hvalue, hbefore⟩
        refine ⟨item :: before, item', after, rfl, hvalue, fun earlier hearlier => ?_⟩
        rcases List.mem_cons.mp hearlier with rfl | hearlier
        · exact hitem
        · exact hbefore earlier hearlier
      · rintro ⟨before, item', after, heq, hvalue, hbefore⟩
        cases before with
        | nil =>
          cases heq
          exact absurd hvalue (hitem value)
        | cons first before =>
          cases heq
          exact ⟨before, item', after, rfl, hvalue, fun earlier hearlier =>
            hbefore earlier (List.mem_cons_of_mem _ hearlier)⟩

theorem lookup_filterMap_eq_none_iff {items : List α} :
    (items.filterMap f).lookup key = none ↔
      ∀ item ∈ items, ∀ value, f item ≠ some (key, value) := by
  rw [List.lookup_eq_none_iff]
  constructor
  · intro h item hitem value hvalue
    simpa using h (key, value) (List.mem_filterMap.mpr ⟨item, hitem, hvalue⟩)
  · rintro h ⟨key', value⟩ hresult
    obtain ⟨item, hitem, hvalue⟩ := List.mem_filterMap.mp hresult
    rw [bne_iff_ne]
    rintro rfl
    exact h item hitem value hvalue

end Results

end Lookups
