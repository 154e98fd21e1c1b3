import Mathlib.Data.List.Basic

/-!
# Checked operations

Slices, differences and shifts as a language computes them that refuses what is out of range:
`none` is the refusal. An operation inside its range is the plain one.

## Main definitions

* `sliceFrom` — the end of a list from a position
* `sub`, `shl` — a difference of unsigned numbers, and a shift of a word to the left
-/

set_option autoImplicit false

namespace Checked

/-- The end of a list from a position, which must not lie behind it. -/
def sliceFrom {α : Type} (xs : List α) (start : Nat) : Option (List α) :=
  if start ≤ xs.length then some (xs.drop start) else none

/-- A difference of unsigned numbers, which must not be negative. -/
def sub (a b : Nat) : Option Nat := if b ≤ a then some (a - b) else none

/-- A shift to the left by less than the width. -/
def shl {w : Nat} (bits : BitVec w) (shift : Nat) : Option (BitVec w) :=
  if shift < w then some (bits <<< shift) else none

theorem sliceFrom_of_le {α : Type} {xs : List α} {start : Nat} (h : start ≤ xs.length) :
    sliceFrom xs start = some (xs.drop start) := if_pos h

theorem sub_of_le {a b : Nat} (h : b ≤ a) : sub a b = some (a - b) := if_pos h

end Checked
