import FwVerify.Lib.Readers
import FwVerify.Model.Json

/-!
# Texts of JSON documents

Reading a JSON document off a text. A number of a fraction or an exponent, and one that fits no
integer, keeps its text, and is refused when it is too large for a double; so is a document that is
nested too deep, and a half of a character in a string. Of members of one name the last one counts.

## Main definitions

* `JsonParser` — a parser of JSON documents, as far as reading a worker's output rests on it
* `fitsDouble` — the numbers that are not too large
* `readDocument`, `jsonParser` — the documents of the JSON grammar

## Main results

* `readDocument_object` — an object begins with a brace
-/

set_option autoImplicit false

namespace FwVerify

open Text

/-- The white space of JSON. -/
def isJsonWhite (c : Char) : Bool := c == ' ' || c == '\n' || c == '\t' || c == '\r'

def skipWhite (chars : List Char) : List Char := chars.dropWhile isJsonWhite

/-- A parser of JSON documents. -/
structure JsonParser where
  fromStr : String → Except String Value
  /-- An object begins with a brace, behind white space. -/
  brace : ∀ {s : String} {fields : List (String × Value)}, fromStr s = .ok (.object fields) →
    (skipWhite s.toList).head? = some '\x7b'

/-! ## Strings -/

/-- Read four hexadecimal digits. -/
def readUnit : Reader Nat := fun chars =>
  let digits := chars.take 4
  if digits.length = 4 ∧ digits.all (isDigitOf 16) then some (digitsValue 16 digits, chars.drop 4)
  else none

/-- Read what stands behind the `u` of an escape: a character, or the two halves of one. -/
def readUnicode : Reader Char := fun chars => do
  let (unit, rest) ← readUnit chars
  if 0xd800 ≤ unit ∧ unit < 0xdc00 then
    let ((), rest) ← readGiven '\\' rest
    let ((), rest) ← readGiven 'u' rest
    let (low, rest) ← readUnit rest
    if 0xdc00 ≤ low ∧ low < 0xe000 then
      some (Char.ofNat (0x10000 + (unit - 0xd800) * 0x400 + (low - 0xdc00)), rest)
    else none
  else if 0xdc00 ≤ unit ∧ unit < 0xe000 then none
  else some (Char.ofNat unit, rest)

/-- The characters an escape of one letter stands for. -/
def escapes : List (Char × Char) :=
  [('"', '"'), ('\\', '\\'), ('/', '/'), ('b', '\x08'), ('f', '\x0c'), ('n', '\n'), ('r', '\r'),
    ('t', '\t')]

/-- Read what stands behind a backslash. -/
def readEscape : Reader Char
  | [] => none
  | c :: rest => if c = 'u' then readUnicode rest else (escapes.lookup c).map (·, rest)

/-- Read up to the closing quote. -/
def readChars : Nat → Reader (List Char)
  | 0, _ => none
  | _ + 1, [] => none
  | fuel + 1, c :: rest =>
    if c = '"' then some ([], rest)
    else do
      let (c, rest) ← if c = '\\' then readEscape rest else if c.toNat < 0x20 then none
        else some (c, rest)
      let (chars, rest) ← readChars fuel rest
      return (c :: chars, rest)

def readString (fuel : Nat) : Reader String := fun chars => do
  let ((), rest) ← readGiven '"' chars
  let (chars, rest) ← readChars fuel rest
  return (String.ofList chars, rest)

/-! ## Numbers -/

/-- Read one decimal digit or more. -/
def readDigits : Reader (List Char) := fun chars =>
  let digits := chars.takeWhile Char.isDigit
  if digits = [] then none else some (digits, chars.dropWhile Char.isDigit)

/-- Read the part behind a mark, when there is one. -/
def readPart (isMark : Char → Bool) (part : Reader (List Char)) : Reader (List Char)
  | [] => some ([], [])
  | c :: rest =>
    if isMark c then (part rest).map fun (chars, rest) => (c :: chars, rest)
    else some ([], c :: rest)

/-- Read a sign, when there is one. -/
def readSign (isMark : Char → Bool) : Reader (List Char) :=
  readPart isMark fun chars => some ([], chars)

/-- The number of a text of digits. -/
def Number.ofInteger (negative : Bool) (digits : List Char) : Number :=
  let n := Nat.ofDigitChars 10 digits 0
  let text := String.ofList (if negative then '-' :: digits else digits)
  if negative then
    if h : Int64.ofInt (-n) < 0 then
      if n ≤ 2 ^ 63 then .negInt (Int64.ofInt (-n)) h else .float text
    else .float text
  else if n < 2 ^ 64 then .posInt (UInt64.ofNat n) else .float text

/-- The double next to an integer: 53 bits of it, the even one of two that are as near. -/
def nearestDouble (n : Nat) : Nat :=
  let unit := 2 ^ (n.log2 - 52)
  let low := n / unit * unit
  let above := n % unit
  if 2 * above < unit ∨ 2 * above = unit ∧ n / unit % 2 = 0 then low else low + unit

/-- Whether a significand times a power of ten is below infinity, as the product of two doubles. -/
def fitsDouble (significand : Nat) (exponent : Int) : Bool :=
  significand == 0 || exponent < 0 || (exponent ≤ 308 &&
    nearestDouble significand * nearestDouble (10 ^ exponent.toNat) < 2 ^ 1024 - 2 ^ 970)

/-- Take digits into a significand of 64 bits, up to the first that no longer fits. -/
def takeDigits : Nat → List Char → Nat × List Char
  | significand, [] => (significand, [])
  | significand, c :: rest =>
    let longer := significand * 10 + (digitValue 10 c).getD 0
    if longer < 2 ^ 64 then takeDigits longer rest else (significand, c :: rest)

/-- Whether the number with these digits, a fraction and an exponent is not too large. -/
def textFits (digits fraction exponent : List Char) : Bool :=
  let (significand, dropped) := takeDigits 0 digits
  -- the mark in front of a fraction is none of its digits
  let fraction := fraction.tail
  let (significand, ignored) := takeDigits significand fraction
  let start : Int := dropped.length - (fraction.length - ignored.length)
  let power := digitsValue 10 (exponent.filter Char.isDigit)
  fitsDouble significand (if '-' ∈ exponent then start - power else start + power)

example : textFits ['1'] ".79".toList "e308".toList = true := by decide +kernel

example : textFits ['1'] ".8".toList "e308".toList = false := by decide +kernel

def Number.isFloat : Number → Bool
  | .float _ => true
  | _ => false

def readJsonNumber : Reader Number := fun chars => do
  let (sign, rest) ← readSign (· == '-') chars
  let (digits, rest) ← readDigits rest
  -- a zero is no first digit of several
  if digits.head? = some '0' ∧ 1 < digits.length then none
  let (fraction, rest) ← readPart (· == '.') readDigits rest
  let (exponent, rest) ← readPart (fun c => c == 'e' || c == 'E') (fun chars => do
    let (sign, rest) ← readSign (fun c => c == '+' || c == '-') chars
    let (digits, rest) ← readDigits rest
    return (sign ++ digits, rest)) rest
  let number := if fraction = [] ∧ exponent = [] then Number.ofInteger (sign ≠ []) digits
    else .float (String.ofList (sign ++ digits ++ fraction ++ exponent))
  if number.isFloat && !textFits digits fraction exponent then none
  return (number, rest)

/-! ## Documents -/

section Items

variable {α : Type} (item : Reader α) (close : Char)

/-- Read items that are parted by commas, up to the closing character. -/
def readItems : Nat → Reader (List α)
  | 0, _ => none
  | fuel + 1, chars => do
    let (a, rest) ← item (skipWhite chars)
    match skipWhite rest with
    | [] => none
    | c :: rest =>
      if c = close then return ([a], rest)
      else if c = ',' then
        let (later, rest) ← readItems fuel rest
        return (a :: later, rest)
      else none

/-- Read items up to the closing character, or none. -/
def readEnclosed (fuel : Nat) : Reader (List α) := fun chars =>
  match skipWhite chars with
  | [] => none
  | c :: rest => if c = close then some ([], rest) else readItems item close fuel (c :: rest)

end Items

/-- Read a name and its value. -/
def readField (fuel : Nat) (value : Reader Value) : Reader (String × Value) := fun chars => do
  let (key, rest) ← readString fuel chars
  let ((), rest) ← readGiven ':' (skipWhite rest)
  let (value, rest) ← value (skipWhite rest)
  return ((key, value), rest)

/-- Put a field among fields in the order of their names. -/
def insertField (field : String × Value) : List (String × Value) → List (String × Value)
  | [] => [field]
  | first :: later =>
    if field.1 = first.1 then field :: later
    else if field.1 < first.1 then field :: first :: later
    else first :: insertField field later

/-- Read a given word, which stands for a value. -/
def readWord (word : String) (value : Value) : Reader Value := fun chars =>
  (word.toList.isPrefixOf? chars).map (value, ·)

/-- Read a value that holds no other. -/
def readScalar (fuel : Nat) : Reader Value
  | [] => none
  | c :: rest =>
    if c = '"' then (readString fuel (c :: rest)).map fun (s, rest) => (.string s, rest)
    else if c = 'n' then readWord "null" .null (c :: rest)
    else if c = 't' then readWord "true" (.bool true) (c :: rest)
    else if c = 'f' then readWord "false" (.bool false) (c :: rest)
    else (readJsonNumber (c :: rest)).map fun (n, rest) => (.number n, rest)

/-- Read a value in which objects and arrays stand in each other at most some levels deep. -/
def readValue (fuel : Nat) : Nat → Reader Value
  | 0, chars => readScalar fuel chars
  | _ + 1, [] => none
  | levels + 1, c :: rest =>
    if c = '\x7b' then
      (readEnclosed (readField fuel (readValue fuel levels)) '\x7d' fuel rest).map
        fun (fields, rest) =>
          (.object (fields.foldl (fun sorted field => insertField field sorted) []), rest)
    else if c = '[' then
      (readEnclosed (readValue fuel levels) ']' fuel rest).map
        fun (items, rest) => (.array items, rest)
    else readScalar fuel (c :: rest)

/-- The levels a document may have: the 128th object or array is refused. -/
abbrev maxLevels : Nat := 127

/-- Read the document of a whole text. -/
def readDocument (s : String) : Option Value := do
  let (value, rest) ← readValue (s.toList.length + 1) maxLevels (skipWhite s.toList)
  if skipWhite rest = [] then return value else none

example : readDocument " [1, -2, 3.5e-1, \"x\\u0041\"] " =
    some (.array [.number (.posInt 1), .number (.negInt (-2) (by decide)),
      .number (.float "3.5e-1"), .string "xA"]) := rfl

theorem readScalar_ne_object {fuel : Nat} {chars rest : List Char}
    {fields : List (String × Value)} :
    readScalar fuel chars ≠ some (.object fields, rest) := by
  intro hread
  cases chars with
  | nil => cases hread
  | cons c later =>
    rw [readScalar] at hread
    split_ifs at hread
    all_goals
      obtain ⟨_, _, hvalue⟩ := Option.map_eq_some_iff.mp hread
      cases hvalue

/-- An object begins with a brace. -/
theorem readValue_object {fuel levels : Nat} {chars rest : List Char}
    {fields : List (String × Value)}
    (hread : readValue fuel levels chars = some (.object fields, rest)) :
    chars.head? = some '\x7b' := by
  cases levels with
  | zero => exact absurd hread readScalar_ne_object
  | succ levels =>
    cases chars with
    | nil => cases hread
    | cons c later =>
      rw [readValue] at hread
      split_ifs at hread with hbrace harray
      · rw [hbrace, List.head?_cons]
      · obtain ⟨_, _, hvalue⟩ := Option.map_eq_some_iff.mp hread
        cases hvalue
      · exact absurd hread readScalar_ne_object

theorem readDocument_object {s : String} {fields : List (String × Value)}
    (hread : readDocument s = some (.object fields)) :
    (skipWhite s.toList).head? = some '\x7b' := by
  obtain ⟨⟨value, rest⟩, hvalue, hend⟩ := Option.bind_eq_some_iff.mp hread
  dsimp only at hend
  split_ifs at hend
  cases hend
  exact readValue_object hvalue

/-- The parser of the JSON grammar. -/
def jsonParser : JsonParser where
  fromStr s := match readDocument s with
    | some value => .ok value
    | none => .error "no JSON document"
  brace := by
    intro s fields hparse
    cases hread : readDocument s with
    | none =>
      rw [hread] at hparse
      cases hparse
    | some value =>
      rw [hread] at hparse
      cases hparse
      exact readDocument_object hread

end FwVerify
