import FwVerify.Model.JsonText

/-!
# Printing JSON documents

The text of a document, on one line or spread over lines: `serde_json` writes a quote, a backslash
and a control character as an escape, and everything else as it is. A document holds its fields
in the order of their names, the last one of a name.

## Main definitions

* `Layout` — the white space between the parts of a document
* `writeValue` — the text of a document
* `Value.sorted` — a document with its fields in order
* `Value.compact`, `Value.pretty` — what is printed
-/

set_option autoImplicit false

namespace FwVerify

/-! ## Strings and numbers -/

/-- The letter an escape of one letter has. -/
def escapeLetter (c : Char) : Option Char :=
  (escapes.find? fun entry => entry.1 != '/' && entry.2 == c).map (·.1)

def writeChar (c : Char) : List Char :=
  match escapeLetter c with
  | some letter => ['\\', letter]
  | none =>
    if c.toNat < 0x20 then
      ['\\', 'u', '0', '0', Nat.digitChar (c.toNat / 16), Nat.digitChar (c.toNat % 16)]
    else [c]

def writeString (s : String) : List Char := '"' :: (s.toList.flatMap writeChar ++ ['"'])

def Number.write : Number → List Char
  | .posInt n => Nat.toDigits 10 n.toNat
  | .negInt n _ => '-' :: Nat.toDigits 10 n.toInt.natAbs
  | .float text => text.toList

/-! ## Documents -/

/-- The white space of a printer: in front of an item at a depth, and behind a colon. -/
structure Layout where
  gap : Nat → List Char
  space : List Char
  gap_white : ∀ depth, ∀ c ∈ gap depth, isJsonWhite c = true
  space_white : ∀ c ∈ space, isJsonWhite c = true

/-- Everything on one line. -/
def Layout.compact : Layout where
  gap _ := []
  space := []
  gap_white _ _ hc := absurd hc List.not_mem_nil
  space_white _ hc := absurd hc List.not_mem_nil

/-- Each item on a line of its own, indented by two blanks a level. -/
def Layout.pretty : Layout where
  gap depth := '\n' :: List.replicate (2 * depth) ' '
  space := [' ']
  gap_white depth c hc := by
    rcases List.mem_cons.mp hc with rfl | hc
    · rfl
    · rw [List.eq_of_mem_replicate hc]
      rfl
  space_white c hc := by
    rw [List.mem_singleton.mp hc]
    rfl

section Layout

variable (layout : Layout)

/-- The texts of items between two brackets; nothing is spread when there is no item. -/
def enclose (depth : Nat) (first last : Char) : List (List Char) → List Char
  | [] => [first, last]
  | item :: later =>
    first :: (layout.gap (depth + 1) ++ item ++
      later.flatMap (fun text => ',' :: (layout.gap (depth + 1) ++ text)) ++
      layout.gap depth ++ [last])

mutual

/-- The text of a document at a depth. -/
def writeValue (depth : Nat) : Value → List Char
  | .null => "null".toList
  | .bool true => "true".toList
  | .bool false => "false".toList
  | .number n => n.write
  | .string s => writeString s
  | .array items => enclose layout depth '[' ']' (writeItems (depth + 1) items)
  | .object fields => enclose layout depth '\x7b' '\x7d' (writeFields (depth + 1) fields)

def writeItems (depth : Nat) : List Value → List (List Char)
  | [] => []
  | item :: later => writeValue depth item :: writeItems depth later

def writeFields (depth : Nat) : List (String × Value) → List (List Char)
  | [] => []
  | (key, value) :: later =>
    (writeString key ++ ':' :: (layout.space ++ writeValue depth value)) ::
      writeFields depth later

end

end Layout

/-! ## Fields in order -/

/-- Fields by name, the last one of a name. -/
def sortFields (fields : List (String × Value)) : List (String × Value) :=
  fields.foldl (fun sorted field => insertField field sorted) []

mutual

/-- The document with the fields of its objects in order. -/
def Value.sorted : Value → Value
  | .array items => .array (sortedItems items)
  | .object fields => .object (sortFields (sortedFields fields))
  | value => value

def sortedItems : List Value → List Value
  | [] => []
  | item :: later => item.sorted :: sortedItems later

def sortedFields : List (String × Value) → List (String × Value)
  | [] => []
  | (key, value) :: later => (key, value.sorted) :: sortedFields later

end

/-- The text of a document. -/
def Value.print (layout : Layout) (value : Value) : String :=
  String.ofList (writeValue layout 0 value.sorted)

/-- The text of a document on one line. -/
def Value.compact (value : Value) : String := value.print .compact

/-- The text of a document over several lines. -/
def Value.pretty (value : Value) : String := value.print .pretty

example : (Value.object [("b", .array [.number (.posInt 7), .null]), ("a", .string "x\n")]).compact =
    "\x7b\"a\":\"x\\n\",\"b\":[7,null]\x7d" := rfl

end FwVerify
