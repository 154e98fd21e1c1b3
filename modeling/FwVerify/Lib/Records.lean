import FwVerify.Lib.Text
import Mathlib.Data.List.Forall2

/-!
# Records in lines of text

A format in which each line is a record and each record a sequence of fields, every field a
key and a value. The three separators are parameters; a value may hold the one that ends a
key.

## Main definitions

* `Format` — three separators that differ
* `read`, `write` — the records of a text, and the text of records

## Main results

* `read_write` — reading undoes writing
-/

set_option autoImplicit false

namespace Records

open Text

/-- A record: keys with their values, in order. -/
abbrev Record := List (String × String)

/-- The separators: after a line, between fields, and between a key and its value. -/
structure Format where
  line : Char
  field : Char
  value : Char
  field_ne_value : field ≠ value
  line_ne_field : line ≠ field
  line_ne_value : line ≠ value

variable (fmt : Format)

/-! ## Reading -/

/-- The lines of a text; a separator at the end starts no further line. -/
def lines (text : String) : List String :=
  let items := splitAt fmt.line text
  if items.getLast? = some "" then items.dropLast else items

/-- The record of a line; a field without a value is an error. -/
def readRecord (line : String) : Option Record :=
  (splitAt fmt.field line).mapM (splitOnce fmt.value)

/-- The records of a text. -/
def read (text : String) : Option (List Record) := (lines fmt text).mapM (readRecord fmt)

/-! ## Writing -/

def writeField (field : String × String) : String :=
  field.1 ++ String.singleton fmt.value ++ field.2

def writeRecord (record : Record) : String :=
  (String.singleton fmt.field).intercalate (record.map (writeField fmt))

/-- The text of records, every line ended. -/
def write : List Record → String
  | [] => ""
  | record :: later => writeRecord fmt record ++ String.singleton fmt.line ++ write later

/-! ## The round trip -/

/-- A record that can be told apart in a text: no key or value holds a separator that would
end it. -/
structure Plain (record : Record) : Prop where
  nonempty : record ≠ []
  keys : ∀ field ∈ record, ∀ ch ∈ [fmt.line, fmt.field, fmt.value], ch ∉ field.1.toList
  values : ∀ field ∈ record, ∀ ch ∈ [fmt.line, fmt.field], ch ∉ field.2.toList

variable {fmt}

/-- A list is read element by element. -/
theorem mapM_of_forall₂ {α β : Type} {read : β → Option α} {xs : List β} {ys : List α}
    (h : List.Forall₂ (fun x y => read x = some y) xs ys) : xs.mapM read = some ys := by
  induction h with
  | nil => rfl
  | cons hfirst _ ih =>
    rw [List.mapM_cons, hfirst, ih]
    rfl

/-- A reader that undoes a writer on every element undoes it on the list. -/
theorem mapM_map_eq {α β : Type} {write : α → β} {read : β → Option α} {xs : List α}
    (h : ∀ x ∈ xs, read (write x) = some x) : (xs.map write).mapM read = some xs :=
  mapM_of_forall₂ (List.forall₂_map_left_iff.mpr (List.forall₂_same.mpr h))

theorem not_mem_writeField {record : Record} (h : Plain fmt record) {field : String × String}
    (hfield : field ∈ record) {ch : Char} (hch : ch ∈ [fmt.line, fmt.field]) :
    ch ∉ (writeField fmt field).toList := by
  have hkey := h.keys field hfield ch (List.mem_append_left [fmt.value] hch)
  have hvalue := h.values field hfield ch hch
  have hsep : ch ≠ fmt.value := by
    simp only [List.mem_cons, List.not_mem_nil, or_false] at hch
    rcases hch with rfl | rfl
    · exact fmt.line_ne_value
    · exact fmt.field_ne_value
  -- neither the key, nor the value, nor what stands between them
  simp [writeField, hkey, hvalue, hsep]

/-- Reading a written record gives it back. -/
theorem readRecord_writeRecord {record : Record} (h : Plain fmt record) :
    readRecord fmt (writeRecord fmt record) = some record := by
  have hsplit : splitAt fmt.field (writeRecord fmt record) = record.map (writeField fmt) := by
    refine splitAt_intercalate _ _ (fun item hitem => ?_) (by simpa using h.nonempty)
    obtain ⟨field, hfield, rfl⟩ := List.mem_map.mp hitem
    exact not_mem_writeField h hfield (by simp)
  have hfields : ∀ field ∈ record, splitOnce fmt.value (writeField fmt field) = some field :=
    fun field hfield => splitOnce_append _ _ _ (h.keys field hfield _ (by simp))
  rw [readRecord, hsplit]
  exact mapM_map_eq hfields

/-- A written text is its lines with an empty one after the last. -/
theorem write_eq_intercalate (records : List Record) :
    write fmt records =
      (String.singleton fmt.line).intercalate (records.map (writeRecord fmt) ++ [""]) := by
  induction records with
  | nil => rfl
  | cons record records ih =>
    rw [write, ih]
    cases records with
    | nil => simp
    | cons next records => simp only [List.map_cons, List.cons_append, String.intercalate_cons_cons]

theorem lines_write {records : List Record} (h : ∀ record ∈ records, Plain fmt record) :
    lines fmt (write fmt records) = records.map (writeRecord fmt) := by
  have hsplit : splitAt fmt.line (write fmt records) =
      records.map (writeRecord fmt) ++ [""] := by
    -- a line separator inside a line would be one inside a field
    rw [write_eq_intercalate]
    refine splitAt_intercalate _ _ (fun item hitem => ?_) (by simp)
    rcases List.mem_append.mp hitem with hrecord | hlast
    · obtain ⟨record, hmem, rfl⟩ := List.mem_map.mp hrecord
      refine not_mem_intercalate (by simpa using fmt.line_ne_field) fun item hitem => ?_
      obtain ⟨field, hfield, rfl⟩ := List.mem_map.mp hitem
      exact not_mem_writeField (h record hmem) hfield (by simp)
    · obtain rfl := List.mem_singleton.mp hlast
      simp
  simp [lines, hsplit]

/-- **Reading undoes writing.** -/
theorem read_write {records : List Record} (h : ∀ record ∈ records, Plain fmt record) :
    read fmt (write fmt records) = some records := by
  rw [read, lines_write h]
  exact mapM_map_eq fun record hrecord => readRecord_writeRecord (h record hrecord)

end Records
