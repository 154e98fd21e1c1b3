import Mathlib.Data.BitVec

/-!
# Prefixes of words

The first bits of a word, the most significant one first. A mask of ones and zeros keeps a prefix
and clears what is behind it, so that masked words are equal exactly when the words agree on the
prefix.

## Main definitions

* `Agree` — two words have the same first bits
* `IsMask` — ones for the first bits, zeros behind them

## Main results

* `isMask_shiftLeft`, `isMask_zero` — the masks that shifts make
* `and_mask_eq_iff` — what a mask keeps
* `and_mask_eq_shift` — masking is shifting down and up again
-/

set_option autoImplicit false

namespace BitPrefix

variable {w : Nat} {p : Nat} {x y mask : BitVec w}

/-- The words have the same first `p` bits. -/
def Agree (p : Nat) (x y : BitVec w) : Prop := ∀ i < p, x.getMsbD i = y.getMsbD i

/-- The first `p` bits are ones, the others are zeros. -/
def IsMask (p : Nat) (mask : BitVec w) : Prop := ∀ i < w, mask.getMsbD i = decide (i < p)

/-- All ones, shifted up past the bits that are not kept. -/
theorem isMask_shiftLeft (h : p ≤ w) : IsMask p (BitVec.allOnes w <<< (w - p)) := by
  intro i hi
  rw [BitVec.getMsbD_shiftLeft, BitVec.getMsbD_allOnes, decide_eq_decide]
  omega

theorem isMask_zero : IsMask 0 (0 : BitVec w) := by
  intro i _
  rw [BitVec.ofNat_eq_ofNat, BitVec.getMsbD_zero, decide_eq_false (Nat.not_lt_zero i)]

section Mask

variable (h : IsMask p mask)
include h

theorem getMsbD_and_mask (x : BitVec w) (i : Nat) :
    (x &&& mask).getMsbD i = (x.getMsbD i && decide (i < p)) := by
  rw [BitVec.getMsbD_and]
  by_cases hi : i < w
  · rw [h i hi]
  · rw [BitVec.getMsbD_of_ge x i (Nat.le_of_not_lt hi), Bool.false_and, Bool.false_and]

/-- Behind the prefix a masked word is zero. -/
theorem getMsbD_and_mask_of_le (x : BitVec w) {i : Nat} (hi : p ≤ i) :
    (x &&& mask).getMsbD i = false := by
  rw [getMsbD_and_mask h, decide_eq_false (Nat.not_lt_of_le hi), Bool.and_false]

theorem agree_and_mask (x : BitVec w) : Agree p (x &&& mask) x := by
  intro i hi
  rw [getMsbD_and_mask h, decide_eq_true hi, Bool.and_true]

/-- **Masked words are equal** exactly when the words agree on what the mask keeps. -/
theorem and_mask_eq_iff : x &&& mask = y &&& mask ↔ Agree p x y := by
  constructor
  · intro heq i hi
    rw [← agree_and_mask h x i hi, heq, agree_and_mask h y i hi]
  · intro hagree
    apply BitVec.eq_of_getMsbD_eq
    intro i _
    rw [getMsbD_and_mask h, getMsbD_and_mask h]
    by_cases hi : i < p
    · rw [hagree i hi]
    · rw [decide_eq_false hi, Bool.and_false, Bool.and_false]

/-- A mask clears what two shifts push out. -/
theorem and_mask_eq_shift (hle : p ≤ w) (x : BitVec w) :
    x &&& mask = x >>> (w - p) <<< (w - p) := by
  apply BitVec.eq_of_getMsbD_eq
  intro i _
  have hkept : i + (w - p) < w ↔ i < p := by omega
  have hbehind : ¬ i + (w - p) < w - p := by omega
  rw [getMsbD_and_mask h, BitVec.getMsbD_shiftLeft, BitVec.getMsbD_ushiftRight,
    decide_eq_decide.mpr hkept, decide_eq_false hbehind, Nat.add_sub_cancel, Bool.not_false,
    Bool.true_and, Bool.and_comm]

end Mask

end BitPrefix
