import Mathlib.Data.List.Dedup
import Mathlib.Data.List.Forall2
import Mathlib.Algebra.BigOperators.Group.List.Lemmas
import Mathlib.Algebra.GroupWithZero.Nat

/-!
# Selections from a table

What a database answers to a query: the rows that meet a condition, in ascending order of a key, and
the rows of a table group by group. The order of rows of one key and that of the groups are left
open, as a query leaves them.

## Main definitions

* `Sorter`, `select` — a way to put rows in order, and the rows of a query
* `Shuffle`, `groups` — a way to list groups, and the groups of a table

## Main results

* `mapM_eq_some_iff`, `pairwise_of_mapM` — what is read from rows
* `mem_select`, `select_ascends` — the rows of a query
* `mapM_select_isSome_iff` — reading the rows of a query
* `sum_length_groups` — every row is in one group
-/

set_option autoImplicit false

namespace Selection

variable {α β κ : Type}

/-! ## Reading rows -/

section Reading

variable {read : α → Option β} {as : List α} {bs : List β}

/-- A partial traversal that goes through has read each item. -/
theorem mapM_eq_some_iff :
    as.mapM read = some bs ↔ List.Forall₂ (fun a b => read a = some b) as bs := by
  induction as generalizing bs with
  | nil =>
    rw [List.forall₂_nil_left_iff]
    exact ⟨fun h => by cases h; rfl, fun h => by rw [h]; rfl⟩
  | cons a later ih =>
    rw [List.mapM_cons, List.forall₂_cons_left_iff]
    cases ha : read a with
    | none =>
      refine iff_of_false nofun ?_
      rintro ⟨b, bs', hb, -, -⟩
      cases hb
    | some b =>
      cases hlater : later.mapM read with
      | none =>
        refine iff_of_false nofun ?_
        rintro ⟨b', bs', -, hbs', -⟩
        rw [ih.mpr hbs'] at hlater
        cases hlater
      | some bs' =>
        constructor
        · intro h
          cases h
          exact ⟨b, bs', rfl, ih.mp hlater, rfl⟩
        · rintro ⟨b', bs'', hb', hbs'', rfl⟩
          cases hb'
          rw [ih.mpr hbs''] at hlater
          cases hlater
          rfl

theorem mapM_isSome_iff : (as.mapM read).isSome ↔ ∀ a ∈ as, (read a).isSome := by
  induction as with
  | nil => simp
  | cons a later ih =>
    rw [List.mapM_cons, List.forall_mem_cons, ← ih]
    cases read a with
    | none => simp
    | some b => cases later.mapM read <;> simp

/-- What is collected from a list is read from its items. -/
theorem mem_of_mapM (h : as.mapM read = some bs) {b : β} :
    b ∈ bs ↔ ∃ a ∈ as, read a = some b := by
  have hread := mapM_eq_some_iff.mp h
  clear h
  induction hread with
  | nil => simp
  | @cons a b' as bs ha _ ih =>
    have hfirst : b = b' ↔ read a = some b := by rw [ha, Option.some_inj, eq_comm]
    rw [List.mem_cons, List.exists_mem_cons_iff, hfirst]
    exact or_congr Iff.rfl ih

/-- What is read from rows in order is in order. -/
theorem pairwise_of_mapM {R : α → α → Prop} {S : β → β → Prop} (h : as.mapM read = some bs)
    (has : as.Pairwise R)
    (hRS : ∀ a a' b b', R a a' → read a = some b → read a' = some b' → S b b') :
    bs.Pairwise S := by
  have hread := mapM_eq_some_iff.mp h
  clear h
  induction hread with
  | nil => exact List.Pairwise.nil
  | @cons a b as bs ha hlater ih =>
    rw [List.pairwise_cons] at has ⊢
    refine ⟨fun b' hb' => ?_, ih has.2⟩
    obtain ⟨a', ha', hb''⟩ := (mem_of_mapM (mapM_eq_some_iff.mpr hlater)).mp hb'
    exact hRS a a' b b' (has.1 a' ha') ha hb''

theorem filterMap_of_mapM (h : as.mapM read = some bs) : as.filterMap read = bs := by
  have hread := mapM_eq_some_iff.mp h
  clear h
  induction hread with
  | nil => rfl
  | cons ha _ ih => rw [List.filterMap_cons_some ha, ih]

end Reading

/-! ## Rows in order -/

/-- A way to put rows in ascending order of a key; rows of one key may come in any order. -/
structure Sorter (key : α → κ) [LE κ] where
  sort : List α → List α
  perm : ∀ rows, (sort rows).Perm rows
  ascends : ∀ rows, (sort rows).Pairwise fun a b => key a ≤ key b

/-- Rows of one key stay in the order they are stored in. -/
def Sorter.stable [LE κ] [DecidableLE κ] (key : α → κ)
    (htrans : ∀ k k' k'' : κ, k ≤ k' → k' ≤ k'' → k ≤ k'') (htotal : ∀ k k' : κ, k ≤ k' ∨ k' ≤ k) :
    Sorter key where
  sort rows := rows.mergeSort fun a b => decide (key a ≤ key b)
  perm rows := List.mergeSort_perm rows _
  ascends rows := by
    refine (List.pairwise_mergeSort (fun a b c hab hbc => ?_) (fun a b => ?_) rows).imp
      of_decide_eq_true
    · exact decide_eq_true (htrans _ _ _ (of_decide_eq_true hab) (of_decide_eq_true hbc))
    · rw [Bool.or_eq_true, decide_eq_true_eq, decide_eq_true_eq]
      exact htotal _ _

section Select

variable [LE κ] {key : α → κ} (sorter : Sorter key) (p : α → Bool) (rows : List α)

/-- The rows that meet a condition, in ascending order. -/
def select : List α := sorter.sort (rows.filter p)

variable {sorter p rows}

theorem select_perm : (select sorter p rows).Perm (rows.filter p) := sorter.perm _

@[simp] theorem mem_select {a : α} : a ∈ select sorter p rows ↔ a ∈ rows ∧ p a = true := by
  rw [select_perm.mem_iff, List.mem_filter]

/-- A single row that meets the condition is selected. -/
theorem select_eq_singleton {a : α} (h : rows.filter p = [a]) : select sorter p rows = [a] :=
  List.perm_singleton.mp (h ▸ select_perm)

theorem select_ascends : (select sorter p rows).Pairwise fun a b => key a ≤ key b :=
  sorter.ascends _

/-- The rows of a query are read when each of them is; other rows do not matter. -/
theorem mapM_select_isSome_iff {read : α → Option β} :
    ((select sorter p rows).mapM read).isSome ↔ ∀ a ∈ rows, p a = true → (read a).isSome := by
  rw [mapM_isSome_iff]
  constructor
  · exact fun h a hrow hp => h a (mem_select.mpr ⟨hrow, hp⟩)
  · intro h a ha
    obtain ⟨hrow, hp⟩ := mem_select.mp ha
    exact h a hrow hp

end Select

/-! ## Groups -/

/-- A way to list some values; they may come in any order. -/
structure Shuffle (κ : Type) where
  order : List κ → List κ
  perm : ∀ keys, (order keys).Perm keys

section Groups

variable [DecidableEq κ] (shuffle : Shuffle κ) (key : α → κ) (rows : List α)

/-- The groups of a table, each with its rows. -/
def groups : List (κ × List α) :=
  (shuffle.order (rows.map key).dedup).map fun k => (k, rows.filter fun a => key a = k)

variable {shuffle key rows}

theorem mem_groups {k : κ} {group : List α} :
    (k, group) ∈ groups shuffle key rows ↔
      (∃ a ∈ rows, key a = k) ∧ group = rows.filter fun a => key a = k := by
  rw [groups, List.mem_map]
  constructor
  · rintro ⟨k', hk', heq⟩
    cases heq
    rw [(shuffle.perm _).mem_iff, List.mem_dedup, List.mem_map] at hk'
    exact ⟨hk', rfl⟩
  · rintro ⟨hkey, rfl⟩
    refine ⟨k, ?_, rfl⟩
    rw [(shuffle.perm _).mem_iff, List.mem_dedup, List.mem_map]
    exact hkey

/-- No two groups have the same key. -/
theorem keys_groups_nodup : ((groups shuffle key rows).map Prod.fst).Nodup := by
  have hkeys : (groups shuffle key rows).map Prod.fst = shuffle.order (rows.map key).dedup := by
    rw [groups, List.map_map]
    exact List.map_id _
  rw [hkeys, (shuffle.perm _).nodup_iff]
  exact List.nodup_dedup _

/-- **Every row is in one group.** -/
theorem sum_length_groups :
    ((groups shuffle key rows).map fun entry => entry.2.length).sum = rows.length := by
  have hlength (k : κ) : (rows.filter fun a => key a = k).length = (rows.map key).count k := by
    rw [List.count, List.countP_map, List.countP_eq_length_filter]
    rfl
  have hsum : ((groups shuffle key rows).map fun entry => entry.2.length).sum =
      ((shuffle.order (rows.map key).dedup).map fun k => (rows.map key).count k).sum := by
    rw [groups, List.map_map]
    exact congrArg List.sum (List.map_congr_left fun k _ => hlength k)
  rw [hsum, ((shuffle.perm _).map _).sum_eq, List.sum_map_count_dedup_eq_length, List.length_map]

end Groups

end Selection
