import Mathlib.Algebra.Group.Nat.Defs
import Mathlib.Data.List.Basic

/-!
# JSON values

The document model of `serde_json` and the accessors the tool reads snapshots with. An
accessor returns `none` for a missing field, a value of another type or a number that does
not fit, so a reader that supplies a default cannot tell these apart.
-/

set_option autoImplicit false

namespace FwVerify

/-- The three number forms of `serde_json`: unsigned, strictly negative, and floating point
(kept as text, since no accessor here converts it). -/
inductive Number
  | posInt (n : UInt64)
  | negInt (n : Int64) (negative : n < 0)
  | float (text : String)

/-- A JSON document. -/
inductive Value
  | null
  | bool (b : Bool)
  | number (n : Number)
  | string (s : String)
  | array (items : List Value)
  | object (fields : List (String × Value))

/-- The number as an `i64`, when it is an integer in range. -/
def Number.asI64 : Number → Option Int64
  | .posInt n => if n.toNat < 2 ^ 63 then some n.toInt64 else none
  | .negInt n _ => some n
  | .float _ => none

/-- The number as a `u64`, when it is a nonnegative integer. -/
def Number.asU64 : Number → Option UInt64
  | .posInt n => some n
  | _ => none

namespace Value

/-- The value of an object's field. -/
def get (v : Value) (key : String) : Option Value :=
  match v with
  | .object fields => fields.lookup key
  | _ => none

/-- The document's number as an `i64`. -/
def asI64 : Value → Option Int64
  | .number n => n.asI64
  | _ => none

/-- The document's number as a `u64`. -/
def asU64 : Value → Option UInt64
  | .number n => n.asU64
  | _ => none

/-- The document's boolean. -/
def asBool : Value → Option Bool
  | .bool b => some b
  | _ => none

/-- The document's string. -/
def asStr : Value → Option String
  | .string s => some s
  | _ => none

/-- The document's items. -/
def asArray : Value → Option (List Value)
  | .array items => some items
  | _ => none

/-- The document of an `i64`. -/
def ofInt64 (n : Int64) : Value :=
  if h : n < 0 then .number (.negInt n h) else .number (.posInt n.toUInt64)

/-- Printing an `i64` as JSON and reading it back gives the same number. -/
@[simp] theorem asI64_ofInt64 (n : Int64) : (ofInt64 n).asI64 = some n := by
  unfold ofInt64
  split_ifs with h
  · rfl
  · have hnat : n.toUInt64.toNat < 2 ^ 63 := by
      have hnonneg : 0 ≤ n.toInt := by
        rw [Int64.lt_iff_toInt_lt] at h
        simpa using h
      have hlt := n.toInt_lt
      have hbits : n.toInt = (n.toUInt64.toNat : Int).bmod (2 ^ 64) := by
        rw [Int64.toInt, BitVec.toInt_eq_toNat_bmod]
        rfl
      have hbound := n.toUInt64.toNat_lt
      rw [Int.bmod_def] at hbits
      split_ifs at hbits <;> omega
    simp only [asI64, Number.asI64, hnat, ↓reduceIte]
    simp

end Value

end FwVerify
