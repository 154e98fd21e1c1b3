import Mathlib.Data.List.DropRight
import Mathlib.Data.List.Infix
import Mathlib.Data.String.Basic

/-!
# Text: splitting, trimming and decimal numbers

The string operations a line-oriented format is read and written with, over `String`
and computed on the list of its characters: splitting at a separator, trimming white
space, reading a decimal number that fits a bound.

## Main results

* `splitAt_intercalate` — splitting undoes joining when no item holds the separator
* `splitOnce_append` — the first separator is where a text splits in two
* `parseUnsigned_repr` — reading a decimal undoes printing it
* `trim_eq_self` — a text of no white space is its own trimming
* `intChars_hyphen_inj` — a signed decimal ends at the first hyphen behind it
-/

set_option autoImplicit false

namespace Text

/-! ## Cutting a text -/

theorem dropWhile_pad {p : Char → Bool} {before chars : List Char}
    (hbefore : ∀ c ∈ before, p c = true) (hfirst : ∀ c ∈ chars.head?, p c = false) :
    (before ++ chars).dropWhile p = chars := by
  rw [List.dropWhile_append_of_pos hbefore]
  cases chars with
  | nil => rfl
  | cons c later => rw [List.dropWhile_cons_of_neg (by simp [hfirst c rfl])]

theorem takeWhile_pad {p : Char → Bool} {before chars : List Char}
    (hbefore : ∀ c ∈ before, p c = true) (hfirst : ∀ c ∈ chars.head?, p c = false) :
    (before ++ chars).takeWhile p = before := by
  rw [List.takeWhile_append_of_pos hbefore]
  cases chars with
  | nil => rw [List.takeWhile_nil, List.append_nil]
  | cons c later =>
    rw [List.takeWhile_cons_of_neg (by simp [hfirst c rfl]), List.append_nil]

section Free

variable {c : Char} {front : List Char}

theorem bne_of_free (h : c ∉ front) : ∀ c' ∈ front, (c' != c) = true := by
  intro c' hc'
  rw [bne_iff_ne]
  rintro rfl
  exact h hc'

/-- What stands in front of the first `c`. -/
theorem takeWhile_free (h : c ∉ front) (back : List Char) :
    (front ++ c :: back).takeWhile (· != c) = front :=
  takeWhile_pad (bne_of_free h) (by simp)

theorem dropWhile_free (h : c ∉ front) (back : List Char) :
    (front ++ c :: back).dropWhile (· != c) = c :: back :=
  dropWhile_pad (bne_of_free h) (by simp)

end Free

section Prefix

variable {α : Type} [DecidableEq α]

/-- Behind the front of a text stands its back. -/
theorem isPrefixOf?_append (front back : List α) :
    front.isPrefixOf? (front ++ back) = some back := by
  induction front with
  | nil => rfl
  | cons a front ih => simp [List.isPrefixOf?, ih]

theorem isPrefixOf?_eq_none {front text : List α} (h : ¬ front <+: text) :
    front.isPrefixOf? text = none := by
  induction front generalizing text with
  | nil => exact absurd List.nil_prefix h
  | cons a front ih =>
    cases text with
    | nil => rfl
    | cons b text =>
      rw [List.cons_prefix_cons] at h
      by_cases hab : a = b
      · simpa [List.isPrefixOf?, hab] using ih fun hprefix => h ⟨hab, hprefix⟩
      · simp [List.isPrefixOf?, hab]

end Prefix

/-! ## Splitting and joining -/

/-- The items between the separators, in order; the empty text has one empty item. -/
def splitAt (sep : Char) (s : String) : List String :=
  (s.toList.splitOn sep).map String.ofList

/-- Splitting undoes joining, for a nonempty list of items free of the separator. -/
theorem splitAt_intercalate (sep : Char) (items : List String)
    (hfree : ∀ item ∈ items, sep ∉ item.toList) (hne : items ≠ []) :
    splitAt sep ((String.singleton sep).intercalate items) = items := by
  have hchars : ((String.singleton sep).intercalate items).toList =
      [sep].intercalate (items.map String.toList) := by
    rw [String.toList_intercalate, String.toList_singleton]
  rw [splitAt, hchars, List.splitOn_intercalate sep ?_ (by simpa using hne), List.map_map]
  · simp [Function.comp_def]
  · intro chars hmem
    obtain ⟨item, hitem, rfl⟩ := List.mem_map.mp hmem
    exact hfree item hitem

/-- Joining brings in no character but the separator's and the items'. -/
theorem not_mem_intercalate {c : Char} {sep : String} {items : List String}
    (hsep : c ∉ sep.toList) (hfree : ∀ item ∈ items, c ∉ item.toList) :
    c ∉ (sep.intercalate items).toList := by
  induction items with
  | nil => simp
  | cons item items ih =>
    have hitem := hfree item List.mem_cons_self
    have hrest := ih fun i hi => hfree i (List.mem_cons_of_mem _ hi)
    cases items with
    | nil => simpa using hitem
    | cons next items =>
      rw [String.intercalate_cons_cons]
      simp only [String.toList_append, List.mem_append, not_or]
      exact ⟨⟨hitem, hsep⟩, hrest⟩

/-- The text before and after the first separator, if there is one. -/
def splitOnce (sep : Char) (s : String) : Option (String × String) :=
  match s.toList.dropWhile (· != sep) with
  | [] => none
  | _ :: after => some (String.ofList (s.toList.takeWhile (· != sep)), String.ofList after)

theorem splitOnce_append (sep : Char) (before after : String) (hfree : sep ∉ before.toList) :
    splitOnce sep (before ++ String.singleton sep ++ after) = some (before, after) := by
  have hchars : (before ++ String.singleton sep ++ after).toList =
      before.toList ++ sep :: after.toList := by
    simp
  rw [splitOnce, hchars, dropWhile_free hfree, takeWhile_free hfree]
  simp

/-- A text without the separator does not split. -/
theorem splitOnce_eq_none (sep : Char) (s : String) (hfree : sep ∉ s.toList) :
    splitOnce sep s = none := by
  rw [splitOnce, List.dropWhile_eq_nil_iff.mpr (bne_of_free hfree)]

/-- A text in another one is itself. -/
theorem toString_string (s : String) : toString s = s := rfl

/-- Whether the text holds `needle`. -/
def contains (s needle : String) : Bool := decide (needle.toList <:+: s.toList)

/-! ## White space -/

/-- The characters with the Unicode property `White_Space`. -/
def isWhite (c : Char) : Bool :=
  (0x09 ≤ c.toNat && c.toNat ≤ 0x0d) || c.toNat == 0x20 || c.toNat == 0x85 ||
    c.toNat == 0xa0 || c.toNat == 0x1680 || (0x2000 ≤ c.toNat && c.toNat ≤ 0x200a) ||
    c.toNat == 0x2028 || c.toNat == 0x2029 || c.toNat == 0x202f || c.toNat == 0x205f ||
    c.toNat == 0x3000

/-- The text without the white space at its two ends. -/
def trim (s : String) : String :=
  String.ofList ((s.toList.dropWhile isWhite).rdropWhile isWhite)

/-- A trimmed text begins with no white space. -/
theorem isWhite_head_trim {s : String} {c : Char} (hc : (trim s).toList.head? = some c) :
    isWhite c = false := by
  rw [trim, String.toList_ofList] at hc
  obtain ⟨suffix, hsuffix⟩ := List.rdropWhile_prefix isWhite (l := s.toList.dropWhile isWhite)
  have hfirst := List.head?_dropWhile_not isWhite s.toList
  rw [← hsuffix, List.head?_append, hc] at hfirst
  exact hfirst

theorem trim_eq_self (s : String) (h : ∀ c ∈ s.toList, isWhite c = false) : trim s = s := by
  have hdrop : s.toList.dropWhile isWhite = s.toList := by
    rw [List.dropWhile_eq_self_iff]
    intro hlen
    simp [h _ (List.getElem_mem hlen)]
  have hrdrop : s.toList.rdropWhile isWhite = s.toList := by
    rw [List.rdropWhile_eq_self_iff]
    intro hne
    simp [h _ (List.getLast_mem hne)]
  rw [trim, hdrop, hrdrop, String.ofList_toList]

/-! ## Decimal numbers -/

/-- The value of a nonempty string of decimal digits. -/
def parseDigits (digits : List Char) : Option Nat :=
  if digits ≠ [] ∧ digits.all Char.isDigit then some (Nat.ofDigitChars 10 digits 0) else none

/-- Read an unsigned decimal below `bound`; a leading `+` is allowed. -/
def parseUnsigned (bound : Nat) (s : String) : Option Nat :=
  let digits := match s.toList with
    | '+' :: digits => digits
    | digits => digits
  (parseDigits digits).filter (· < bound)

/-- Read a signed decimal from `low` to `high`; either sign is allowed. -/
def parseSigned (low high : Int) (s : String) : Option Int :=
  let value := match s.toList with
    | '-' :: digits => (parseDigits digits).map fun n => -(n : Int)
    | '+' :: digits => (parseDigits digits).map Int.ofNat
    | digits => (parseDigits digits).map Int.ofNat
  value.filter fun n => low ≤ n ∧ n ≤ high

theorem isDigit_of_mem_repr {n : Nat} {c : Char} (h : c ∈ n.repr.toList) : c.isDigit := by
  rw [Nat.toList_repr] at h
  exact Nat.isDigit_of_mem_toDigits (by decide) (by decide) h

/-- A character that is no digit does not occur in a printed number. -/
theorem not_mem_repr {n : Nat} {c : Char} (hc : c.isDigit = false) : c ∉ n.repr.toList := by
  intro h
  simp [isDigit_of_mem_repr h] at hc

/-- A printed number begins with zero only when it is zero. -/
theorem head_toDigits_ne_zero {radix n : Nat} (hradix : 1 < radix) (hn : 0 < n) :
    (Nat.toDigits radix n).head? ≠ some '0' := by
  induction n using Nat.strong_induction_on with
  | _ n ih =>
    rw [Nat.toDigits_eq_if hradix]
    split_ifs with hsmall
    · simp [hn.ne']
    · rw [List.head?_append_of_ne_nil _ Nat.toDigits_ne_nil]
      exact ih (n / radix) (Nat.div_lt_self (by omega) hradix)
        (Nat.div_pos (by omega) (by omega))

theorem parseDigits_toDigits (n : Nat) : parseDigits (Nat.toDigits 10 n) = some n := by
  have hdigits : (Nat.toDigits 10 n).all Char.isDigit = true :=
    List.all_eq_true.mpr fun _ hc => Nat.isDigit_of_mem_toDigits (by decide) (by decide) hc
  simp [parseDigits, hdigits, Nat.toDigits_ne_nil]

theorem exists_digitChar {c : Char} (h : c.isDigit = true) : ∃ d < 10, c = Nat.digitChar d := by
  simp only [Char.isDigit, Bool.and_eq_true, decide_eq_true_eq, ge_iff_le,
    UInt32.le_iff_toNat_le] at h
  have hlo : 48 ≤ c.toNat := h.1
  have hhi : c.toNat ≤ 57 := h.2
  obtain ⟨d, hd, hcode⟩ : ∃ d < 10, c.toNat = 48 + d := ⟨c.toNat - 48, by omega, by omega⟩
  have hchars : ∀ d < 10, Char.ofNat (48 + d) = Nat.digitChar d := by decide
  refine ⟨d, hd, ?_⟩
  rw [← Char.ofNat_toNat c, hcode, hchars d hd]

/-- A decimal without a leading zero is what its value is printed as. -/
theorem toDigits_of_parseDigits {digits : List Char} {n : Nat} (h : parseDigits digits = some n)
    (hhead : digits.head? ≠ some '0') : Nat.toDigits 10 n = digits := by
  rw [parseDigits, Option.ite_none_right_eq_some, List.all_eq_true] at h
  obtain ⟨⟨hne, hall⟩, hvalue⟩ := h
  cases hvalue
  -- the last digit is the remainder, and those before it are the quotient's
  induction digits using List.reverseRecOn with
  | nil => exact absurd rfl hne
  | append_singleton front c ih =>
    obtain ⟨d, hd, rfl⟩ := exists_digitChar (hall c (by simp))
    rw [Nat.ofDigitChars_append, Nat.ofDigitChars_cons_digitChar_of_lt_ten hd,
      Nat.ofDigitChars_nil]
    by_cases hfront : front = []
    · subst hfront
      rw [Nat.ofDigitChars_nil, Nat.mul_zero, Nat.zero_add, Nat.toDigits_of_lt_base hd]
      rfl
    · have hhead' : front.head? ≠ some '0' := by
        rwa [List.head?_append_of_ne_nil _ hfront] at hhead
      have hdigits := ih hhead' hfront fun c hc => hall c (List.mem_append_left _ hc)
      have hpos : 0 < Nat.ofDigitChars 10 front 0 := by
        rw [Nat.pos_iff_ne_zero]
        intro hzero
        rw [hzero] at hdigits
        exact hhead' (by rw [← hdigits]; rfl)
      rw [← Nat.toDigits_append_toDigits (by decide) hpos hd, hdigits, Nat.toDigits_of_lt_base hd]

/-- Reading a decimal undoes printing it. -/
theorem parseUnsigned_repr {bound n : Nat} (h : n < bound) :
    parseUnsigned bound n.repr = some n := by
  have hplus : '+' ∉ n.repr.toList := not_mem_repr (by decide)
  rw [Nat.toList_repr] at hplus
  rw [parseUnsigned, Nat.toList_repr]
  split
  · next digits heq => simp [heq] at hplus
  · simp [parseDigits_toDigits, h]

/-- Reading a signed decimal undoes printing a natural number. -/
theorem parseSigned_repr {low high : Int} {n : Nat} (hlow : low ≤ n) (hhigh : n ≤ high) :
    parseSigned low high n.repr = some n := by
  have hplus : '+' ∉ n.repr.toList := not_mem_repr (by decide)
  have hminus : '-' ∉ n.repr.toList := not_mem_repr (by decide)
  rw [Nat.toList_repr] at hplus hminus
  rw [parseSigned, Nat.toList_repr]
  split
  · next digits heq => simp [heq] at hminus
  · next digits heq => simp [heq] at hplus
  · simp [parseDigits_toDigits, hlow, hhigh]

/-- A digit is no white space. -/
theorem isWhite_of_isDigit {c : Char} (hdigit : c.isDigit = true) : isWhite c = false := by
  simp only [Char.isDigit, Bool.and_eq_true, decide_eq_true_eq, ge_iff_le,
    UInt32.le_iff_toNat_le] at hdigit
  have hlo : 48 ≤ c.toNat := hdigit.1
  have hhi : c.toNat ≤ 57 := hdigit.2
  simp only [isWhite, Bool.or_eq_false_iff, Bool.and_eq_false_iff, decide_eq_false_iff_not,
    beq_eq_false_iff_ne, ne_eq]
  omega

/-- A printed number is its own trimming. -/
theorem trim_repr (n : Nat) : trim n.repr = n.repr :=
  trim_eq_self _ fun _ hc => isWhite_of_isDigit (isDigit_of_mem_repr hc)

/-- The characters of a signed decimal. -/
theorem intChars (i : Int) :
    (toString i).toList = if i < 0 then '-' :: i.natAbs.repr.toList else i.natAbs.repr.toList := by
  cases i with
  | ofNat n => rfl
  | negSucc n =>
    have hneg : Int.negSucc n < 0 := Int.negSucc_lt_zero n
    rw [if_pos hneg]
    exact String.toList_append

/-- Only digits and hyphens occur in a signed decimal. -/
theorem not_mem_intChars {i : Int} {c : Char} (hdigit : c.isDigit = false) (hhyphen : c ≠ '-') :
    c ∉ (toString i).toList := by
  have hrepr : c ∉ i.natAbs.repr.toList := not_mem_repr hdigit
  rw [intChars]
  split_ifs
  · exact List.not_mem_cons_of_ne_of_not_mem hhyphen hrepr
  · exact hrepr

theorem repr_hyphen_inj {n m : Nat} {rest rest' : List Char}
    (h : n.repr.toList ++ '-' :: rest = m.repr.toList ++ '-' :: rest') : n = m ∧ rest = rest' := by
  have hfree (n : Nat) : '-' ∉ n.repr.toList := not_mem_repr (by decide)
  have hdigits : n.repr.toList = m.repr.toList := by
    rw [← takeWhile_free (hfree n) rest, h, takeWhile_free (hfree m) rest']
  constructor
  · rw [Nat.toList_repr, Nat.toList_repr] at hdigits
    have hparse := parseDigits_toDigits n
    rw [hdigits, parseDigits_toDigits] at hparse
    exact (Option.some.inj hparse).symm
  · rw [hdigits] at h
    exact (List.cons.inj (List.append_cancel_left h)).2

/-- A printed number does not begin with a sign. -/
theorem repr_ne_hyphen_cons {n : Nat} {rest chars : List Char} :
    n.repr.toList ++ rest ≠ '-' :: chars := by
  intro h
  have hfree : '-' ∉ n.repr.toList := not_mem_repr (by decide)
  cases hchars : n.repr.toList with
  | nil => exact Nat.toDigits_ne_nil (Nat.toList_repr ▸ hchars)
  | cons c later =>
    rw [hchars] at h hfree
    exact hfree (List.mem_cons.mpr (.inl (List.cons.inj h).1.symm))

/-- **A signed decimal ends at the first hyphen behind it**: joined by hyphens, signed decimals
can be told apart. -/
theorem intChars_hyphen_inj {i j : Int} {rest rest' : List Char}
    (h : (toString i).toList ++ '-' :: rest = (toString j).toList ++ '-' :: rest') :
    i = j ∧ rest = rest' := by
  rw [intChars, intChars] at h
  split_ifs at h with hi hj hj
  · obtain ⟨habs, hrest⟩ := repr_hyphen_inj (List.cons.inj h).2
    exact ⟨by omega, hrest⟩
  · exact absurd h.symm repr_ne_hyphen_cons
  · exact absurd h repr_ne_hyphen_cons
  · obtain ⟨habs, hrest⟩ := repr_hyphen_inj h
    exact ⟨by omega, hrest⟩

end Text
