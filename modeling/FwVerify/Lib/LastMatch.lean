import Mathlib.Data.List.Basic

/-!
# The last match of a list

In a list whose later elements rank higher, the element that decides is the last one that
meets a test. It is found with its position, the first position being 1.

## Main definitions

* `lastMatch` — the last element that meets a test, with its position

## Main results

* `lastMatch_map`, `lastMatch_congr` — the search under a map and under an equal test
* `lastMatch_of_getElem?` — the match after which there is none is found
* `find?_reverse_of_last` — the same for a search from the end
* `forall_not_or_exists_last` — there is no match, or a last one
-/

set_option autoImplicit false

namespace LastMatch

variable {α β : Type*}

/-- The search in a list whose first element has position `n`. -/
def lastMatchFrom (p : α → Bool) : Nat → List α → Option (Nat × α)
  | _, [] => none
  | n, x :: later =>
    -- a match further on wins over one here
    match lastMatchFrom p (n + 1) later with
    | some found => some found
    | none => if p x then some (n, x) else none

/-- The last element that meets the test, with its position. -/
def lastMatch (p : α → Bool) (xs : List α) : Option (Nat × α) := lastMatchFrom p 1 xs

theorem lastMatchFrom_map (p : β → Bool) (f : α → β) (n : Nat) (xs : List α) :
    lastMatchFrom p n (xs.map f) =
      (lastMatchFrom (p ∘ f) n xs).map fun found => (found.1, f found.2) := by
  induction xs generalizing n with
  | nil => rfl
  | cons x later ih =>
    rw [List.map_cons, lastMatchFrom, lastMatchFrom, ih]
    cases lastMatchFrom (p ∘ f) (n + 1) later with
    | some found => rfl
    | none => by_cases hx : p (f x) <;> simp [hx]

/-- A mapped list is searched through the map. -/
theorem lastMatch_map (p : β → Bool) (f : α → β) (xs : List α) :
    lastMatch p (xs.map f) = (lastMatch (p ∘ f) xs).map fun found => (found.1, f found.2) :=
  lastMatchFrom_map p f 1 xs

theorem lastMatchFrom_congr {p q : α → Bool} {xs : List α} (h : ∀ x ∈ xs, p x = q x) (n : Nat) :
    lastMatchFrom p n xs = lastMatchFrom q n xs := by
  induction xs generalizing n with
  | nil => rfl
  | cons x later ih =>
    rw [lastMatchFrom, lastMatchFrom, ih (fun y hy => h y (List.mem_cons_of_mem _ hy)),
      h x List.mem_cons_self]

/-- Tests that agree on the list find the same. -/
theorem lastMatch_congr {p q : α → Bool} {xs : List α} (h : ∀ x ∈ xs, p x = q x) :
    lastMatch p xs = lastMatch q xs :=
  lastMatchFrom_congr h 1

theorem lastMatchFrom_eq_none {p : α → Bool} {xs : List α} (h : ∀ x ∈ xs, p x = false) (n : Nat) :
    lastMatchFrom p n xs = none := by
  induction xs generalizing n with
  | nil => rfl
  | cons x later ih =>
    rw [lastMatchFrom, ih fun y hy => h y (List.mem_cons_of_mem _ hy)]
    simp [h x List.mem_cons_self]

theorem lastMatchFrom_of_getElem? {p : α → Bool} {xs : List α} {k : Nat} {x : α}
    (hat : xs[k]? = some x) (hx : p x = true)
    (hlater : ∀ m y, k < m → xs[m]? = some y → p y = false) (n : Nat) :
    lastMatchFrom p n xs = some (n + k, x) := by
  induction xs generalizing n k with
  | nil => simp at hat
  | cons first later ih =>
    cases k with
    | zero =>
      obtain rfl : first = x := by simpa using hat
      have hnone : lastMatchFrom p (n + 1) later = none := by
        refine lastMatchFrom_eq_none (fun y hy => ?_) _
        obtain ⟨m, hm⟩ := List.mem_iff_getElem?.mp hy
        exact hlater (m + 1) y m.succ_pos (by simpa using hm)
      rw [lastMatchFrom, hnone]
      simp [hx]
    | succ k =>
      have hrest : lastMatchFrom p (n + 1) later = some (n + 1 + k, x) := by
        refine ih (by simpa using hat) (fun m y hm hy => ?_) _
        exact hlater (m + 1) y (by omega) (by simpa using hy)
      rw [lastMatchFrom, hrest, Nat.add_assoc, Nat.add_comm 1 k]

/-- A match after which there is none is the one that is found; positions start at 1. -/
theorem lastMatch_of_getElem? {p : α → Bool} {xs : List α} {k : Nat} {x : α}
    (hat : xs[k]? = some x) (hx : p x = true)
    (hlater : ∀ m y, k < m → xs[m]? = some y → p y = false) :
    lastMatch p xs = some (k + 1, x) := by
  rw [lastMatch, lastMatchFrom_of_getElem? hat hx hlater 1, Nat.add_comm]

/-- A search from the end finds the match after which there is none. -/
theorem find?_reverse_of_last {p : α → Bool} {before after : List α} {x : α} (hx : p x = true)
    (hafter : ∀ y ∈ after, p y = false) : (before ++ x :: after).reverse.find? p = some x := by
  have hnone : after.reverse.find? p = none := by
    rw [List.find?_eq_none]
    intro y hy
    rw [hafter y (List.mem_reverse.mp hy)]
    exact Bool.false_ne_true
  rw [List.reverse_append, List.reverse_cons, List.append_assoc, List.find?_append, hnone,
    Option.none_or, List.singleton_append, List.find?_cons_of_pos hx]

/-- A list has no match, or a last one. -/
theorem forall_not_or_exists_last (p : α → Prop) (xs : List α) :
    (∀ x ∈ xs, ¬ p x) ∨
      ∃ before x after, xs = before ++ x :: after ∧ p x ∧ ∀ y ∈ after, ¬ p y := by
  induction xs with
  | nil => exact .inl nofun
  | cons x later ih =>
    rcases ih with hlater | ⟨before, y, after, rfl, hy, hafter⟩
    · by_cases hx : p x
      · exact .inr ⟨[], x, later, rfl, hx, hlater⟩
      · refine .inl fun y hy => ?_
        rcases List.mem_cons.mp hy with rfl | hy
        · exact hx
        · exact hlater y hy
    · exact .inr ⟨x :: before, y, after, rfl, hy, hafter⟩

end LastMatch
