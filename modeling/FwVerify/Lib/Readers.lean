import FwVerify.Lib.Text

/-!
# Readers

Reading values off the front of a text, the way a hand-written recursive-descent parser does:
a reader gives the value and the text behind it, or fails and takes nothing.

## Main definitions

* `Reader` — a reader of values
* `readGiven`, `readSeparator`, `readNumber` — a given character, a value behind a separator, a
  number in a radix
* `readWhole` — reading a text to its end

## Main results

* `readNumber_toDigits` — reading a number undoes printing it
-/

set_option autoImplicit false

namespace Text

/-- A reader takes a value off the front of a text, or fails. -/
abbrev Reader (α : Type) := List Char → Option (α × List Char)

variable {α : Type}

/-- Read one given character. -/
def readGiven (c : Char) : Reader Unit
  | first :: rest => if first = c then some ((), rest) else none
  | [] => none

/-- Read a value, behind a separator unless it is the first one. -/
def readSeparator (sep : Char) (index : Nat) (inner : Reader α) : Reader α := fun chars =>
  if 0 < index then (readGiven sep chars).bind fun (_, rest) => inner rest else inner chars

/-- The value of a digit in a radix, letters of either case. -/
def digitValue (radix : Nat) (c : Char) : Option Nat :=
  let value :=
    if '0' ≤ c ∧ c ≤ '9' then c.toNat - '0'.toNat
    else if 'a' ≤ c ∧ c ≤ 'z' then c.toNat - 'a'.toNat + 10
    else if 'A' ≤ c ∧ c ≤ 'Z' then c.toNat - 'A'.toNat + 10
    else radix
  if value < radix then some value else none

def isDigitOf (radix : Nat) (c : Char) : Bool := (digitValue radix c).isSome

/-- The number some digits spell. -/
def digitsValue (radix : Nat) (digits : List Char) : Nat :=
  digits.foldl (fun n c => n * radix + (digitValue radix c).getD 0) 0

/-- Read a number below `bound` of at most `maxDigits` digits. -/
def readNumber (radix maxDigits bound : Nat) (allowZeroPrefix : Bool) : Reader Nat := fun chars =>
  let digits := chars.takeWhile (isDigitOf radix)
  if digits.length = 0 ∨ maxDigits < digits.length ∨
      (allowZeroPrefix = false ∧ chars.head? = some '0' ∧ 1 < digits.length) then none
  else if digitsValue radix digits < bound then
    some (digitsValue radix digits, chars.dropWhile (isDigitOf radix))
  else none

/-- Read a text to its end. -/
def readWhole (reader : Reader α) (s : String) : Option α :=
  match reader s.toList with
  | some (a, []) => some a
  | _ => none

@[simp] theorem readGiven_self (c : Char) (rest : List Char) :
    readGiven c (c :: rest) = some ((), rest) := if_pos rfl

@[simp] theorem readSeparator_zero (sep : Char) (inner : Reader α) (chars : List Char) :
    readSeparator sep 0 inner chars = inner chars := rfl

@[simp] theorem readSeparator_succ (sep : Char) (index : Nat) (inner : Reader α)
    (chars : List Char) :
    readSeparator sep (index + 1) inner chars =
      (readGiven sep chars).bind fun (_, rest) => inner rest := rfl

theorem readSeparator_none {sep : Char} {index : Nat} (inner : Reader α) {chars : List Char}
    (hindex : 0 < index) (hhead : chars.head? ≠ some sep) :
    readSeparator sep index inner chars = none := by
  rw [readSeparator, if_pos hindex]
  cases chars with
  | nil => rfl
  | cons first rest =>
    have hne : first ≠ sep := by simpa using hhead
    rw [readGiven, if_neg hne, Option.bind_none]

theorem readNumber_none {radix maxDigits bound : Nat} (allowZeroPrefix : Bool) {chars : List Char}
    (hhead : ∀ c ∈ chars.head?, isDigitOf radix c = false) :
    readNumber radix maxDigits bound allowZeroPrefix chars = none := by
  have hdigits : ([] ++ chars).takeWhile (isDigitOf radix) = [] := takeWhile_pad (by simp) hhead
  rw [List.nil_append] at hdigits
  rw [readNumber, hdigits, if_pos (.inl List.length_nil)]

/-- A number takes all the digits there are. -/
theorem readNumber_rest {radix maxDigits bound n : Nat} {allowZeroPrefix : Bool}
    {chars rest : List Char}
    (hread : readNumber radix maxDigits bound allowZeroPrefix chars = some (n, rest)) :
    rest = chars.dropWhile (isDigitOf radix) := by
  rw [readNumber] at hread
  split_ifs at hread
  cases hread
  rfl

/-- A decimal digit is a hexadecimal one. -/
theorem isDigitOf_sixteen {c : Char} (hdigit : isDigitOf 10 c = true) : isDigitOf 16 c = true := by
  by_cases hrange : '0' ≤ c ∧ c ≤ '9'
  · simp only [isDigitOf, digitValue, if_pos hrange, Option.isSome_ite] at hdigit ⊢
    omega
  · simp only [isDigitOf, digitValue, if_neg hrange] at hdigit
    -- a letter counts ten at least
    split_ifs at hdigit <;> first | omega | simp at hdigit

theorem digitValue_digitChar {radix k : Nat} (hradix : radix ≤ 16) (hk : k < radix) :
    digitValue radix (Nat.digitChar k) = some k := by
  have hall : ∀ radix ≤ 16, ∀ k < radix, digitValue radix (Nat.digitChar k) = some k := by
    decide
  exact hall radix hradix k hk

section Digits

variable {radix : Nat} (hlow : 1 < radix) (hradix : radix ≤ 16)

include hlow hradix

theorem isDigitOf_of_mem_toDigits {n : Nat} :
    ∀ c ∈ Nat.toDigits radix n, isDigitOf radix c = true := by
  induction n using Nat.strong_induction_on with
  | _ n ih =>
    rw [Nat.toDigits_eq_if hlow]
    have hlast (k : Nat) (hk : k < radix) : isDigitOf radix (Nat.digitChar k) = true := by
      rw [isDigitOf, digitValue_digitChar hradix hk, Option.isSome_some]
    intro c hc
    split_ifs at hc with hn
    · rw [List.mem_singleton.mp hc]
      exact hlast n hn
    · rcases List.mem_append.mp hc with hc | hc
      · exact ih (n / radix) (Nat.div_lt_self (by omega) hlow) c hc
      · rw [List.mem_singleton.mp hc]
        exact hlast _ (Nat.mod_lt _ (by omega))

theorem digitsValue_toDigits (n : Nat) : digitsValue radix (Nat.toDigits radix n) = n := by
  induction n using Nat.strong_induction_on with
  | _ n ih =>
    rw [Nat.toDigits_eq_if hlow]
    split_ifs with hn
    · simp [digitsValue, digitValue_digitChar hradix hn]
    · have hmod := digitValue_digitChar hradix (Nat.mod_lt n (by omega : 0 < radix))
      have hdiv := ih (n / radix) (Nat.div_lt_self (by omega) hlow)
      rw [digitsValue] at hdiv ⊢
      rw [List.foldl_append, hdiv, List.foldl_cons, List.foldl_nil, hmod, Option.getD_some]
      exact Nat.div_add_mod' n radix

/-- Reading a number undoes printing it, whatever follows that is no digit. -/
theorem readNumber_toDigits {n maxDigits bound : Nat} (allowZeroPrefix : Bool)
    {rest : List Char} (hbound : n < bound) (hmax : 0 < maxDigits)
    (hdigits : n < radix ^ maxDigits) (hrest : ∀ c ∈ rest.head?, isDigitOf radix c = false) :
    readNumber radix maxDigits bound allowZeroPrefix (Nat.toDigits radix n ++ rest) =
      some (n, rest) := by
  have hall := isDigitOf_of_mem_toDigits hlow hradix (n := n)
  have hlength : (Nat.toDigits radix n).length ≤ maxDigits :=
    (Nat.length_toDigits_le_iff hlow hmax).mpr hdigits
  have hne : (Nat.toDigits radix n).length ≠ 0 := by simp [Nat.toDigits_ne_nil]
  -- only zero itself begins with a zero, and it has no second digit
  have hzero : (Nat.toDigits radix n ++ rest).head? = some '0' →
      (Nat.toDigits radix n).length = 1 := by
    rw [List.head?_append_of_ne_nil _ Nat.toDigits_ne_nil]
    intro hhead
    rcases Nat.eq_zero_or_pos n with rfl | hpos
    · rw [Nat.toDigits_zero, List.length_singleton]
    · exact absurd hhead (head_toDigits_ne_zero hlow hpos)
  rw [readNumber, takeWhile_pad hall hrest, dropWhile_pad hall hrest,
    digitsValue_toDigits hlow hradix]
  rw [if_neg, if_pos hbound]
  rintro (h | h | ⟨-, hhead, hlong⟩)
  · exact hne h
  · omega
  · have hone := hzero hhead
    omega

end Digits

end Text
