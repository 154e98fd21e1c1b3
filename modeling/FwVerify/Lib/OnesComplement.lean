import Mathlib.Algebra.BigOperators.Group.List.Basic
import Mathlib.Algebra.GroupWithZero.Nat
import Mathlib.Algebra.Order.BigOperators.Group.List
import Mathlib.Algebra.Order.Group.Nat

/-!
# One's-complement sums

Addition of words with the carry brought back in at the low end. Words go up to `m`, which
stands for all ones; `0` and `m` are the two zeros. The sum of a list in this arithmetic is
the representative of the plain sum: `0` stands only for a sum of zeros, every other
multiple of `m` is written as `m`.

## Main definitions

* `add m a b` — addition with end-around carry
* `sum m words` — the sum of a list of words
* `rep m n` — the word that stands for a natural number
* `complement m a` — all bits flipped
* `internetChecksum` — the checksum of a byte sequence over 16-bit words

## Main results

* `sum_eq_rep` — a one's-complement sum is the representative of the plain sum
* `rep_fold` — folding the carries into the low word keeps the representative
* `rep_add_complement` — a sum and its complement give all ones
-/

set_option autoImplicit false

namespace OnesComplement

variable {m : ℕ}

/-- Add two words and bring the carry back in. -/
def add (m a b : ℕ) : ℕ := if a + b ≤ m then a + b else a + b - m

/-- The one's-complement sum of a list of words. -/
def sum (m : ℕ) (words : List ℕ) : ℕ := words.foldl (add m) 0

/-- The word that stands for `n`: zero only for zero. -/
def rep (m n : ℕ) : ℕ := if n = 0 then 0 else (n - 1) % m + 1

/-- Every bit flipped. -/
def complement (m a : ℕ) : ℕ := m - a

theorem complement_le (m a : ℕ) : complement m a ≤ m := Nat.sub_le m a

@[simp] theorem rep_zero : rep m 0 = 0 := rfl

theorem rep_succ (m n : ℕ) : rep m (n + 1) = n % m + 1 := rfl

theorem rep_le (hm : 0 < m) (n : ℕ) : rep m n ≤ m := by
  cases n with
  | zero => exact m.zero_le
  | succ n => exact Nat.mod_lt n hm

/-- A word stands for itself. -/
theorem rep_of_le {n : ℕ} (hn : n ≤ m) : rep m n = n := by
  cases n with
  | zero => rfl
  | succ n => rw [rep_succ, Nat.mod_eq_of_lt hn]

/-- A nonzero number and the same plus `m` have one representative. -/
theorem rep_add_self {n : ℕ} (hn : 0 < n) : rep m (n + m) = rep m n := by
  obtain ⟨k, rfl⟩ := Nat.exists_eq_succ_of_ne_zero hn.ne'
  rw [Nat.succ_eq_add_one, Nat.add_right_comm, rep_succ, rep_succ, Nat.add_mod_right]

theorem rep_add_mul {n : ℕ} (hn : 0 < n) (k : ℕ) : rep m (n + k * m) = rep m n := by
  induction k with
  | zero => rw [Nat.zero_mul, Nat.add_zero]
  | succ k ih =>
    rw [Nat.succ_mul, ← Nat.add_assoc, rep_add_self (by omega), ih]

/-- Adding a word to a number adds it to the representative. -/
theorem rep_add (hm : 0 < m) (n : ℕ) {w : ℕ} (hw : w ≤ m) :
    rep m (n + w) = add m (rep m n) w := by
  cases n with
  | zero =>
    rw [Nat.zero_add, rep_of_le hw, rep_zero, add, Nat.zero_add, if_pos hw]
  | succ n =>
    have hlow := Nat.mod_lt n hm
    -- the part of the sum below the carry decides which way the addition goes
    have hsplit : rep m (n + 1 + w) = rep m (n % m + 1 + w) := by
      have hdiv : n + 1 + w = n % m + 1 + w + n / m * m := by
        have := Nat.mod_add_div' n m
        omega
      rw [hdiv, rep_add_mul (by omega)]
    rw [hsplit, rep_succ, add]
    by_cases hcarry : n % m + 1 + w ≤ m
    · rw [if_pos hcarry, rep_of_le hcarry]
    · rw [if_neg hcarry]
      have hover : n % m + 1 + w = n % m + 1 + w - m + m := by omega
      rw [hover, rep_add_self (by omega), rep_of_le (by omega)]
      omega

/-- A one's-complement sum is the representative of the plain sum. -/
theorem sum_eq_rep (hm : 0 < m) {words : List ℕ} (hwords : ∀ w ∈ words, w ≤ m) :
    sum m words = rep m words.sum := by
  have hfrom : ∀ n, words.foldl (add m) (rep m n) = rep m (n + words.sum) := by
    induction words with
    | nil => intro n; rfl
    | cons w later ih =>
      intro n
      have hw := hwords w List.mem_cons_self
      rw [List.foldl_cons, ← rep_add hm n hw,
        ih (fun w' hw' => hwords w' (List.mem_cons_of_mem _ hw')), List.sum_cons,
        Nat.add_assoc]
  simpa [sum] using hfrom 0

/-- Bringing the high part of a number down to its low word keeps the representative. -/
theorem rep_fold (m n : ℕ) : rep m (n % (m + 1) + n / (m + 1)) = rep m n := by
  have hdiv := Nat.mod_add_div' n (m + 1)
  rw [Nat.mul_succ] at hdiv
  generalize n % (m + 1) = low at hdiv ⊢
  generalize n / (m + 1) = high at hdiv ⊢
  have hn : n = low + high + high * m := by omega
  by_cases hpos : 0 < low + high
  · rw [hn, rep_add_mul hpos]
  · have hlow : low = 0 := by omega
    have hhigh : high = 0 := by omega
    rw [hn, hlow, hhigh, Nat.zero_mul]

/-- Adding the complement of a sum's representative gives all ones. -/
theorem rep_add_complement (hm : 0 < m) (n : ℕ) :
    rep m (n + complement m (rep m n)) = m := by
  have hle := rep_le hm n
  have hall : rep m n + complement m (rep m n) = m := Nat.add_sub_of_le hle
  rw [rep_add hm n (complement_le m _), add, hall, if_pos le_rfl]

/-- Words of at most `m` sum to at most `m` times their number. -/
theorem sum_le_mul {words : List ℕ} (hwords : ∀ w ∈ words, w ≤ m) :
    words.sum ≤ words.length * m :=
  List.sum_le_card_nsmul words m hwords

/-! ## The Internet checksum -/

/-- The big-endian 16-bit words of a byte sequence; an odd last byte is padded with zero. -/
def beWords : List UInt8 → List ℕ
  | first :: second :: later => (first.toNat * 256 + second.toNat) :: beWords later
  | [last] => [last.toNat * 256]
  | [] => []

/-- The complement of the one's-complement sum of the 16-bit words. -/
def internetChecksum (bytes : List UInt8) : ℕ := complement 0xffff (sum 0xffff (beWords bytes))

end OnesComplement
