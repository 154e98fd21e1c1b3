import FwVerify.Lib.Lookups
import FwVerify.Model.JsonPrint

/-!
# Fields in order

A document keeps the fields of its objects in the order of their names. Sorting loses no value
whose name is given once, and leaves a document that is in order as it is.

## Main definitions

* `InOrder` — fields whose names ascend
* `Value.Integral` — a document whose numbers are integers, of so many levels
* `Canonical` — such a document with all its fields in order

## Main results

* `lookup_sortFields` — the last field of a name is the one that counts
* `canonical_sorted` — sorting a document of integers
* `sorted_eq_self` — a document in order is its own sorting
-/

set_option autoImplicit false

namespace FwVerify

variable {field : String × Value} {fields : List (String × Value)} {key : String}

/-- The names of the fields ascend. -/
def InOrder (fields : List (String × Value)) : Prop := fields.Pairwise fun f g => f.1 < g.1

/-! ## Inserting a field -/

theorem lookup_cons_ite :
    (field :: fields).lookup key = if key = field.1 then some field.2 else fields.lookup key := by
  rw [List.lookup_cons]
  split_ifs with hkey
  · rw [beq_iff_eq.mpr hkey]
  · rw [beq_eq_false_iff_ne.mpr hkey]

theorem lookup_insertField :
    (insertField field fields).lookup key =
      if key = field.1 then some field.2 else fields.lookup key := by
  induction fields with
  | nil => exact lookup_cons_ite
  | cons first later ih =>
    by_cases hsame : field.1 = first.1
    · -- the field takes the place of one of its name
      rw [insertField, if_pos hsame, lookup_cons_ite, lookup_cons_ite, ← hsame]
      split_ifs <;> rfl
    · by_cases hless : field.1 < first.1
      · rw [insertField, if_neg hsame, if_pos hless, lookup_cons_ite]
      · rw [insertField, if_neg hsame, if_neg hless, lookup_cons_ite, ih, lookup_cons_ite]
        by_cases hkey : key = field.1
        · have hne : key ≠ first.1 := fun h => hsame (hkey.symm.trans h)
          rw [if_neg hne, if_pos hkey, if_pos hkey]
        · rw [if_neg hkey, if_neg hkey]

theorem mem_insertField {f : String × Value} (hf : f ∈ insertField field fields) :
    f = field ∨ f ∈ fields := by
  induction fields with
  | nil => exact .inl (List.mem_singleton.mp hf)
  | cons first later ih =>
    rw [insertField] at hf
    split_ifs at hf with hsame hless
    · rcases List.mem_cons.mp hf with rfl | hf
      · exact .inl rfl
      · exact .inr (List.mem_cons_of_mem _ hf)
    · exact List.mem_cons.mp hf
    · rcases List.mem_cons.mp hf with rfl | hf
      · exact .inr List.mem_cons_self
      · exact (ih hf).imp_right (List.mem_cons_of_mem _)

theorem InOrder.insertField (h : InOrder fields) : InOrder (insertField field fields) := by
  induction fields with
  | nil => exact List.pairwise_singleton _ _
  | cons first later ih =>
    rw [InOrder, List.pairwise_cons] at h
    rw [FwVerify.insertField]
    split_ifs with hsame hless
    · refine List.pairwise_cons.mpr ⟨fun f hf => ?_, h.2⟩
      rw [hsame]
      exact h.1 f hf
    · refine List.pairwise_cons.mpr ⟨fun f hf => ?_, List.pairwise_cons.mpr h⟩
      rcases List.mem_cons.mp hf with rfl | hf
      · exact hless
      · exact hless.trans (h.1 f hf)
    · refine List.pairwise_cons.mpr ⟨fun f hf => ?_, ih h.2⟩
      rcases mem_insertField hf with rfl | hf
      · exact lt_of_le_of_ne (not_lt.mp hless) (Ne.symm hsame)
      · exact h.1 f hf

/-- A field behind all others is put at the end. -/
theorem insertField_of_last (hlast : ∀ f ∈ fields, f.1 < field.1) :
    insertField field fields = fields ++ [field] := by
  induction fields with
  | nil => rfl
  | cons first later ih =>
    have hfirst := hlast first List.mem_cons_self
    rw [insertField, if_neg hfirst.ne', if_neg hfirst.not_gt,
      ih fun f hf => hlast f (List.mem_cons_of_mem _ hf), List.cons_append]

/-! ## Sorting -/

theorem lookup_foldl_insertField (sorted : List (String × Value)) :
    (fields.foldl (fun sorted field => insertField field sorted) sorted).lookup key =
      (fields.reverse.lookup key).or (sorted.lookup key) := by
  induction fields generalizing sorted with
  | nil => rfl
  | cons field later ih =>
    rw [List.foldl_cons, ih, lookup_insertField, List.reverse_cons, List.lookup_append,
      lookup_cons_ite, List.lookup_nil, Option.or_assoc]
    split_ifs with hkey
    · rw [Option.some_or]
    · rw [Option.none_or]

/-- The last field of a name is the one that counts. -/
theorem lookup_sortFields (fields : List (String × Value)) (key : String) :
    (sortFields fields).lookup key = fields.reverse.lookup key := by
  rw [sortFields, lookup_foldl_insertField, List.lookup_nil, Option.or_none]

/-- No field is lost when every name is given once. -/
theorem lookup_sortFields_of_nodup (hnodup : (fields.map Prod.fst).Nodup) (key : String) :
    (sortFields fields).lookup key = fields.lookup key := by
  rw [lookup_sortFields]
  have hreverse : (fields.reverse.map Prod.fst).Nodup := by
    rw [List.map_reverse]
    exact List.nodup_reverse.mpr hnodup
  cases hlookup : fields.lookup key with
  | some value =>
    exact Lookups.lookup_of_nodup hreverse
      (List.mem_reverse.mpr (Lookups.mem_of_lookup hlookup))
  | none =>
    rw [List.lookup_eq_none_iff] at hlookup ⊢
    exact fun f hf => hlookup f (List.mem_reverse.mp hf)

theorem inOrder_sortFields (fields : List (String × Value)) : InOrder (sortFields fields) := by
  have hfold (sorted : List (String × Value)) (hsorted : InOrder sorted) :
      InOrder (fields.foldl (fun sorted field => insertField field sorted) sorted) := by
    induction fields generalizing sorted with
    | nil => exact hsorted
    | cons field later ih => exact ih _ hsorted.insertField
  exact hfold [] List.Pairwise.nil

theorem mem_sortFields {f : String × Value} (hf : f ∈ sortFields fields) : f ∈ fields := by
  have hfold (sorted : List (String × Value))
      (hf : f ∈ fields.foldl (fun sorted field => insertField field sorted) sorted) :
      f ∈ fields ∨ f ∈ sorted := by
    clear * - hf
    induction fields generalizing sorted with
    | nil => exact .inr hf
    | cons field later ih =>
      rcases ih _ hf with hlater | hsorted
      · exact .inl (List.mem_cons_of_mem _ hlater)
      · rcases mem_insertField hsorted with rfl | hsorted
        · exact .inl List.mem_cons_self
        · exact .inr hsorted
  exact (hfold [] hf).resolve_right List.not_mem_nil

/-- Fields in order stay as they are. -/
theorem sortFields_eq_self (h : InOrder fields) : sortFields fields = fields := by
  have hfold (sorted : List (String × Value)) (hsorted : InOrder (sorted ++ fields)) :
      fields.foldl (fun sorted field => insertField field sorted) sorted = sorted ++ fields := by
    clear h
    induction fields generalizing sorted with
    | nil => rw [List.foldl_nil, List.append_nil]
    | cons field later ih =>
      have hlast : ∀ f ∈ sorted, f.1 < field.1 := fun f hf =>
        (List.pairwise_append.mp hsorted).2.2 f hf field List.mem_cons_self
      rw [List.foldl_cons, insertField_of_last hlast, ih]
      · rw [List.append_assoc, List.singleton_append]
      · rwa [List.append_assoc, List.singleton_append]
  exact hfold [] h

/-! ## Documents -/

theorem sortedItems_eq_map (items : List Value) : sortedItems items = items.map Value.sorted := by
  induction items with
  | nil => rfl
  | cons item later ih => rw [sortedItems, ih, List.map_cons]

theorem sortedFields_eq_map (fields : List (String × Value)) :
    sortedFields fields = fields.map fun f => (f.1, f.2.sorted) := by
  induction fields with
  | nil => rfl
  | cons field later ih => rw [sortedFields, ih, List.map_cons]

/-- All the numbers of the document are integers, and its objects and arrays stand in each other at
most so many levels deep. -/
inductive Value.Integral : Nat → Value → Prop
  | null {levels : Nat} : Integral levels .null
  | bool {levels : Nat} (b : Bool) : Integral levels (.bool b)
  | posInt {levels : Nat} (n : UInt64) : Integral levels (.number (.posInt n))
  | negInt {levels : Nat} (n : Int64) (negative : n < 0) :
      Integral levels (.number (.negInt n negative))
  | string {levels : Nat} (s : String) : Integral levels (.string s)
  | array {levels : Nat} {items : List Value} (all : ∀ item ∈ items, Integral levels item) :
      Integral (levels + 1) (.array items)
  | object {levels : Nat} {fields : List (String × Value)}
      (all : ∀ f ∈ fields, Integral levels f.2) : Integral (levels + 1) (.object fields)

theorem integral_ofInt64 {levels : Nat} (n : Int64) : (Value.ofInt64 n).Integral levels := by
  rw [Value.ofInt64]
  split_ifs with h
  · exact .negInt n h
  · exact .posInt _

theorem sorted_ofInt64 (n : Int64) : (Value.ofInt64 n).sorted = Value.ofInt64 n := by
  rw [Value.ofInt64]
  split_ifs <;> rfl

/-- The numbers of the document are integers, it has at most so many levels, and its fields are in
order. -/
inductive Canonical : Nat → Value → Prop
  | null {levels : Nat} : Canonical levels .null
  | bool {levels : Nat} (b : Bool) : Canonical levels (.bool b)
  | posInt {levels : Nat} (n : UInt64) : Canonical levels (.number (.posInt n))
  | negInt {levels : Nat} (n : Int64) (negative : n < 0) :
      Canonical levels (.number (.negInt n negative))
  | string {levels : Nat} (s : String) : Canonical levels (.string s)
  | array {levels : Nat} {items : List Value} (all : ∀ item ∈ items, Canonical levels item) :
      Canonical (levels + 1) (.array items)
  | object {levels : Nat} {fields : List (String × Value)} (ascend : InOrder fields)
      (all : ∀ f ∈ fields, Canonical levels f.2) : Canonical (levels + 1) (.object fields)

/-- Sorting a document of integers. -/
theorem canonical_sorted {levels : Nat} {value : Value} (h : value.Integral levels) :
    Canonical levels value.sorted := by
  induction h with
  | null => exact .null
  | bool b => exact .bool b
  | posInt n => exact .posInt n
  | negInt n negative => exact .negInt n negative
  | string s => exact .string s
  | array all ih =>
    rw [Value.sorted, sortedItems_eq_map]
    refine .array fun item hitem => ?_
    obtain ⟨raw, hraw, rfl⟩ := List.mem_map.mp hitem
    exact ih raw hraw
  | object all ih =>
    rw [Value.sorted, sortedFields_eq_map]
    refine .object (inOrder_sortFields _) fun f hf => ?_
    obtain ⟨raw, hraw, rfl⟩ := List.mem_map.mp (mem_sortFields hf)
    exact ih raw hraw

/-- A document in order is its own sorting. -/
theorem sorted_eq_self {levels : Nat} {value : Value} (h : Canonical levels value) :
    value.sorted = value := by
  induction h with
  | null | bool | posInt | negInt | string => rfl
  | @array _ items all ih =>
    rw [Value.sorted, sortedItems_eq_map]
    have hmap : items.map Value.sorted = items.map id := List.map_congr_left ih
    rw [hmap, List.map_id]
  | @object _ fields ascend all ih =>
    have hmap : (fields.map fun f => (f.1, f.2.sorted)) = fields.map id :=
      List.map_congr_left fun f hf => Prod.ext rfl (ih f hf)
    rw [Value.sorted, sortedFields_eq_map, hmap, List.map_id, sortFields_eq_self ascend]

/-- The fields of a sorted object are the object's own when every name is given once. -/
theorem get_sorted (hnodup : (fields.map Prod.fst).Nodup) (key : String) :
    (Value.object fields).sorted.get key = ((Value.object fields).get key).map Value.sorted := by
  have hnames : ((fields.map fun f => (f.1, f.2.sorted)).map Prod.fst).Nodup := by
    rwa [List.map_map]
  rw [Value.sorted, sortedFields_eq_map]
  change (sortFields _).lookup key = (fields.lookup key).map Value.sorted
  rw [lookup_sortFields_of_nodup hnames]
  clear hnodup hnames
  induction fields with
  | nil => rfl
  | cons field later ih =>
    rw [List.map_cons, List.lookup_cons, List.lookup_cons, ih]
    cases key == field.1 <;> rfl

end FwVerify
