import Mathlib.Data.List.Perm.Basic
import Mathlib.Data.List.Nodup

/-!
# Batches of a list by key

The elements of a list regrouped by a key: for each key of a given order, the elements with
that key in their old order. When the order has no duplicates and every key occurs in it,
nothing is lost and nothing is duplicated.

## Main definitions

* `batch`, `batches` — the elements of one key, and of all keys in order

## Main results

* `batch_eq_singleton` — the batch of a key that one element has
* `batches_perm` — the batches are a permutation of the list
-/

set_option autoImplicit false

namespace Batching

variable {α κ : Type*} [DecidableEq κ] {key : α → κ} {order : List κ} {xs : List α}

/-- The elements with the key, in their order. -/
def batch (key : α → κ) (xs : List α) (k : κ) : List α := xs.filter fun x => key x == k

/-- The batches of all keys, one after the other. -/
def batches (key : α → κ) (order : List κ) (xs : List α) : List α :=
  order.flatMap (batch key xs)

@[simp] theorem mem_batch {k : κ} {x : α} : x ∈ batch key xs k ↔ x ∈ xs ∧ key x = k := by
  simp [batch]

/-- With distinct keys, the batch of a key is the one element that has it. -/
theorem batch_eq_singleton {k : κ} {x : α} (hnodup : (xs.map key).Nodup)
    (hfind : xs.find? (key · == k) = some x) : batch key xs k = [x] := by
  induction xs with
  | nil => cases hfind
  | cons y ys ih =>
    obtain ⟨hy, hnodup⟩ := List.nodup_cons.mp hnodup
    by_cases hkey : key y = k
    · obtain rfl : y = x := by simpa [hkey] using hfind
      -- no later element has the key again
      have hnone : batch key ys k = [] := by
        refine List.eq_nil_iff_forall_not_mem.mpr fun z hz => hy ?_
        obtain ⟨hz, hzk⟩ := mem_batch.mp hz
        rw [hkey, ← hzk]
        exact List.mem_map_of_mem hz
      rw [batch, List.filter_cons_of_pos (by simp [hkey])]
      exact congrArg (y :: ·) hnone
    · have hfind' : ys.find? (key · == k) = some x := by simpa [hkey] using hfind
      rw [batch, List.filter_cons_of_neg (by simp [hkey])]
      exact ih hnodup hfind'

/-- A fold in which only one key of the order does anything. -/
theorem foldl_eq_of_single {σ : Type*} {f : σ → κ → σ} {k : κ} (hnodup : order.Nodup)
    (hk : k ∈ order) (hother : ∀ s, ∀ k' ≠ k, f s k' = s) (s : σ) :
    order.foldl f s = f s k := by
  induction order generalizing s with
  | nil => cases hk
  | cons next order ih =>
    obtain ⟨hnext, hnodup⟩ := List.nodup_cons.mp hnodup
    rw [List.foldl_cons]
    by_cases heq : next = k
    · -- the rest of the order does nothing
      subst heq
      exact List.foldlRecOn order f (motive := fun t => t = f s next) rfl fun t ht k' hk' => by
        rw [ht, hother _ k' (fun h => hnext (h ▸ hk'))]
    · rw [hother s next heq]
      exact ih hnodup ((List.mem_cons.mp hk).resolve_left fun h => heq h.symm) s

/-- A key that is not in the order makes no difference to the batches. -/
theorem batches_filter_ne {k : κ} (hk : k ∉ order) :
    batches key order (xs.filter fun x => !(key x == k)) = batches key order xs := by
  induction order with
  | nil => rfl
  | cons next order ih =>
    have hne : next ≠ k := fun h => hk (h ▸ List.mem_cons_self)
    have hbatch : batch key (xs.filter fun x => !(key x == k)) next = batch key xs next := by
      rw [batch, batch, List.filter_filter]
      refine List.filter_congr fun x _ => ?_
      by_cases hx : key x = next
      · simp [hx, hne]
      · simp [hx]
    have hrest := ih fun h => hk (List.mem_cons_of_mem _ h)
    simp only [batches, List.flatMap_cons] at hrest ⊢
    rw [hbatch, hrest]

/-- **No loss, no duplication.** -/
theorem batches_perm (hnodup : order.Nodup) (hcover : ∀ x ∈ xs, key x ∈ order) :
    (batches key order xs).Perm xs := by
  induction order generalizing xs with
  | nil =>
    obtain rfl : xs = [] := List.eq_nil_iff_forall_not_mem.mpr fun x hx => by
      simpa using hcover x hx
    exact .refl _
  | cons k order ih =>
    obtain ⟨hk, hnodup⟩ := List.nodup_cons.mp hnodup
    -- the later batches are those of the elements without the first key
    have hrest : (batches key order xs).Perm (xs.filter fun x => !(key x == k)) := by
      rw [← batches_filter_ne hk]
      refine ih hnodup fun x hx => ?_
      obtain ⟨hx, hne⟩ := List.mem_filter.mp hx
      rcases List.mem_cons.mp (hcover x hx) with heq | hmem
      · simp [heq] at hne
      · exact hmem
    calc (batches key (k :: order) xs)
        = batch key xs k ++ batches key order xs := rfl
      _ |>.Perm (batch key xs k ++ xs.filter fun x => !(key x == k)) := hrest.append_left _
      _ |>.Perm xs := List.filter_append_perm _ _

end Batching
