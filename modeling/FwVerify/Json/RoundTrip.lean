import FwVerify.Json.Sorting

/-!
# Reading what is printed

A printed document reads back as itself, whatever white space it is spread with: on one line, as
the workers print it, and over several, as a report is written.

## Main definitions

* `Behind` — a text that goes on neither a number nor a word

## Main results

* `readValue_writeValue` — a document is read off the front of a text
* `readDocument_print` — a printed document reads back with its fields in order
-/

set_option autoImplicit false

namespace FwVerify

open Text

/-- A character that could go on a number. -/
def goesOn (c : Char) : Bool := c.isDigit || c == '.' || c == 'e' || c == 'E'

/-- What may stand behind a document. -/
def Behind (rest : List Char) : Prop := ∀ c ∈ rest.head?, goesOn c = false

theorem behind_nil : Behind [] := by
  intro c hc
  cases hc

theorem behind_cons {c : Char} {rest : List Char} (hc : goesOn c = false) :
    Behind (c :: rest) := by
  intro c' hc'
  cases hc'
  exact hc

theorem goesOn_of_white {c : Char} (hc : isJsonWhite c = true) : goesOn c = false := by
  simp only [isJsonWhite, Bool.or_eq_true, beq_iff_eq] at hc
  rcases hc with ((rfl | rfl) | rfl) | rfl <;> rfl

/-- White space in front of what may stand behind a document may stand there as well. -/
theorem Behind.white_append {white rest : List Char}
    (hwhite : ∀ c ∈ white, isJsonWhite c = true) (hrest : Behind rest) :
    Behind (white ++ rest) := by
  cases white with
  | nil => exact hrest
  | cons c white => exact behind_cons (goesOn_of_white (hwhite c List.mem_cons_self))

theorem skipWhite_append {white chars : List Char} (hwhite : ∀ c ∈ white, isJsonWhite c = true)
    (hchars : ∀ c ∈ chars.head?, isJsonWhite c = false) : skipWhite (white ++ chars) = chars :=
  dropWhile_pad hwhite hchars

theorem skipWhite_eq_self {chars : List Char} (hchars : ∀ c ∈ chars.head?, isJsonWhite c = false) :
    skipWhite chars = chars :=
  dropWhile_pad (List.forall_mem_nil _) hchars

/-! ## Strings -/

theorem escapeLetter_eq_some {c letter : Char} (h : escapeLetter c = some letter) :
    letter ≠ 'u' ∧ escapes.lookup letter = some c := by
  obtain ⟨entry, hfind, rfl⟩ := Option.map_eq_some_iff.mp h
  have hkept := List.find?_some hfind
  rw [Bool.and_eq_true, beq_iff_eq] at hkept
  have hall : ∀ entry ∈ escapes, entry.1 ≠ 'u' ∧ escapes.lookup entry.1 = some entry.2 := by
    decide
  rw [← hkept.2]
  exact hall entry (List.mem_of_find?_eq_some hfind)

theorem escapeLetter_eq_none {c : Char} (h : escapeLetter c = none) : c ≠ '"' ∧ c ≠ '\\' := by
  constructor <;>
  · rintro rfl
    cases h

/-- The two hexadecimal digits of a control character. -/
theorem readUnit_control {n : Nat} (hn : n < 0x20) (rest : List Char) :
    readUnit ('0' :: '0' :: Nat.digitChar (n / 16) :: Nat.digitChar (n % 16) :: rest) =
      some (n, rest) := by
  have hall : ∀ n < 0x20,
      (['0', '0', Nat.digitChar (n / 16), Nat.digitChar (n % 16)].all (isDigitOf 16) = true) ∧
        digitsValue 16 ['0', '0', Nat.digitChar (n / 16), Nat.digitChar (n % 16)] = n := by
    decide
  obtain ⟨hdigits, hvalue⟩ := hall n hn
  rw [readUnit, List.take_succ_cons, List.take_succ_cons, List.take_succ_cons,
    List.take_succ_cons, List.take_zero]
  rw [if_pos ⟨rfl, hdigits⟩, hvalue]
  rfl

/-- A character reads back behind its escape, if it has one. -/
theorem readChars_writeChar (fuel : Nat) (c : Char) (rest : List Char) :
    readChars (fuel + 1) (writeChar c ++ rest) =
      (readChars fuel rest).map fun (chars, rest) => (c :: chars, rest) := by
  have hmap (read : Option (List Char × List Char)) :
      (read.bind fun (chars, rest) => some (c :: chars, rest)) =
        read.map fun (chars, rest) => (c :: chars, rest) := by
    cases read <;> rfl
  rw [← hmap]
  cases hletter : escapeLetter c with
  | some letter =>
    obtain ⟨hu, hlookup⟩ := escapeLetter_eq_some hletter
    rw [writeChar, hletter]
    dsimp only
    rw [List.cons_append, readChars, if_neg (by decide), if_pos rfl, List.cons_append,
      List.nil_append, readEscape, if_neg hu, hlookup]
    rfl
  | none =>
    obtain ⟨hquote, hslash⟩ := escapeLetter_eq_none hletter
    rw [writeChar, hletter]
    dsimp only
    split_ifs with hcontrol
    · have hread : readUnicode ('0' :: '0' :: Nat.digitChar (c.toNat / 16) ::
          Nat.digitChar (c.toNat % 16) :: rest) = some (c, rest) := by
        rw [readUnicode, readUnit_control hcontrol]
        dsimp only [Option.bind_eq_bind, Option.bind_some]
        rw [if_neg (by omega), if_neg (by omega), Char.ofNat_toNat]
      rw [List.cons_append, readChars, if_neg (by decide), if_pos rfl, List.cons_append, readEscape,
        if_pos rfl]
      simp only [List.cons_append, List.nil_append, hread]
      rfl
    · rw [List.singleton_append, readChars, if_neg hquote, if_neg hslash, if_neg hcontrol]
      rfl

theorem readChars_writeString {fuel : Nat} {chars : List Char} (hfuel : chars.length < fuel)
    (rest : List Char) :
    readChars fuel (chars.flatMap writeChar ++ '"' :: rest) = some (chars, rest) := by
  induction chars generalizing fuel with
  | nil =>
    obtain ⟨fuel, rfl⟩ := Nat.exists_eq_add_one_of_ne_zero (Nat.ne_zero_of_lt hfuel)
    rw [List.flatMap_nil, List.nil_append, readChars, if_pos rfl]
  | cons c chars ih =>
    obtain ⟨fuel, rfl⟩ := Nat.exists_eq_add_one_of_ne_zero (Nat.ne_zero_of_lt hfuel)
    rw [List.length_cons, Nat.succ_lt_succ_iff] at hfuel
    rw [List.flatMap_cons, List.append_assoc, readChars_writeChar, ih hfuel]
    rfl

theorem readString_writeString {fuel : Nat} {s : String} (hfuel : s.toList.length < fuel)
    (rest : List Char) : readString fuel (writeString s ++ rest) = some (s, rest) := by
  rw [readString, writeString, List.cons_append, readGiven_self, List.append_assoc,
    List.singleton_append]
  dsimp only [Option.bind_eq_bind, Option.bind_some]
  rw [readChars_writeString hfuel]
  dsimp only [Option.bind_some]
  rw [String.ofList_toList]
  rfl

/-! ## Numbers -/

theorem readPart_none {isMark : Char → Bool} {part : Reader (List Char)} {chars : List Char}
    (hhead : ∀ c ∈ chars.head?, isMark c = false) : readPart isMark part chars = some ([], chars) := by
  cases chars with
  | nil => rfl
  | cons c rest => rw [readPart, if_neg (by simp [hhead c rfl])]

theorem readDigits_toDigits {n : Nat} {rest : List Char} (hrest : Behind rest) :
    readDigits (Nat.toDigits 10 n ++ rest) = some (Nat.toDigits 10 n, rest) := by
  have hall : ∀ c ∈ Nat.toDigits 10 n, c.isDigit = true := fun c hc =>
    Nat.isDigit_of_mem_toDigits (by decide) (by decide) hc
  have hstop : ∀ c ∈ rest.head?, c.isDigit = false := by
    intro c hc
    have hgoes := hrest c hc
    simp only [goesOn, Bool.or_eq_false_iff] at hgoes
    exact hgoes.1.1.1
  rw [readDigits, takeWhile_pad hall hstop, dropWhile_pad hall hstop, if_neg Nat.toDigits_ne_nil]

theorem isDigit_head_toDigits (n : Nat) (rest : List Char) :
    ∀ c ∈ (Nat.toDigits 10 n ++ rest).head?, c.isDigit = true := by
  intro c hc
  rw [List.head?_append_of_ne_nil _ Nat.toDigits_ne_nil] at hc
  exact Nat.isDigit_of_mem_toDigits (by decide) (by decide) (List.mem_of_mem_head? hc)

theorem ne_of_isDigit {c c' : Char} (hc : c.isDigit = true) (hc' : c'.isDigit = false) : c ≠ c' := by
  rintro rfl
  rw [hc] at hc'
  cases hc'

/-- The characters of a sign in front of a number. -/
def signChars (negative : Bool) : List Char := if negative then ['-'] else []

/-- An integer is read up to what cannot go on it. -/
theorem readJsonNumber_toDigits (negative : Bool) (n : Nat) {rest : List Char}
    (hint : (Number.ofInteger negative (Nat.toDigits 10 n)).isFloat = false)
    (hrest : Behind rest) :
    readJsonNumber (signChars negative ++ (Nat.toDigits 10 n ++ rest)) =
      some (.ofInteger negative (Nat.toDigits 10 n), rest) := by
  have hsign : readSign (· == '-') (signChars negative ++ (Nat.toDigits 10 n ++ rest)) =
      some (signChars negative, Nat.toDigits 10 n ++ rest) := by
    cases negative with
    | true => rfl
    | false =>
      refine readPart_none fun c hc => ?_
      exact beq_eq_false_iff_ne.mpr (ne_of_isDigit (isDigit_head_toDigits _ _ c hc) rfl)
  have hzero : ¬ ((Nat.toDigits 10 n).head? = some '0' ∧ 1 < (Nat.toDigits 10 n).length) := by
    rintro ⟨hhead, hlong⟩
    rcases Nat.eq_zero_or_pos n with rfl | hpos
    · rw [Nat.toDigits_zero, List.length_singleton] at hlong
      omega
    · exact head_toDigits_ne_zero (by decide) hpos hhead
  -- neither a fraction nor an exponent follows
  have hpart {part : Reader (List Char)} {isMark : Char → Bool}
      (hmark : ∀ c, isMark c = true → goesOn c = true) :
      readPart isMark part rest = some ([], rest) := by
    refine readPart_none fun c hc => ?_
    by_contra hmarked
    have hgoes := hrest c hc
    rw [hmark c (by simpa using hmarked)] at hgoes
    cases hgoes
  have hempty : (signChars negative ≠ [] : Bool) = negative := by cases negative <;> rfl
  rw [readJsonNumber, hsign]
  dsimp only [Option.bind_eq_bind, Option.bind_some]
  rw [readDigits_toDigits hrest]
  dsimp only [Option.bind_some]
  rw [if_neg hzero, hpart (by simp +contextual [goesOn])]
  dsimp only [Option.bind_some]
  rw [hpart (by simp +contextual [goesOn])]
  simp [hempty, hint]

/-- A number reads back. -/
theorem readJsonNumber_write {n : Number} {rest : List Char} (hint : (Value.number n).Integral 0)
    (hrest : Behind rest) : readJsonNumber (n.write ++ rest) = some (n, rest) := by
  cases hint with
  | posInt n =>
    have hnumber : Number.ofInteger false (Nat.toDigits 10 n.toNat) = .posInt n := by
      rw [Number.ofInteger, Nat.ofDigitChars_ten_toDigits, if_neg (by decide), if_pos n.toNat_lt,
        UInt64.ofNat_toNat]
    have hread := readJsonNumber_toDigits false n.toNat (by rw [hnumber]; rfl) hrest
    rw [signChars, if_neg (by decide), List.nil_append] at hread
    rw [Number.write, hread, hnumber]
  | negInt n negative =>
    have hneg : n.toInt < 0 := by simpa [Int64.lt_iff_toInt_lt] using negative
    have hlow := n.le_toInt
    have habs : -(n.toInt.natAbs : Int) = n.toInt := by omega
    have hnumber : Number.ofInteger true (Nat.toDigits 10 n.toInt.natAbs) = .negInt n negative := by
      rw [Number.ofInteger, Nat.ofDigitChars_ten_toDigits, if_pos rfl]
      simp only [habs, Int64.ofInt_toInt, negative, ↓reduceDIte]
      rw [if_pos (by omega)]
    have hread := readJsonNumber_toDigits true n.toInt.natAbs (by rw [hnumber]; rfl) hrest
    rw [signChars, if_pos rfl, List.singleton_append] at hread
    rw [Number.write, List.cons_append, hread, hnumber]

/-! ## Items -/

section Items

variable {α : Type} {item : Reader α} {text : α → List Char} {close : Char}

/-- A text that begins neither with white space nor with a given character. -/
def Opens (close : Char) (chars : List Char) : Prop :=
  ∃ c later, chars = c :: later ∧ isJsonWhite c = false ∧ c ≠ close

theorem Opens.skipWhite {chars white : List Char} (h : Opens close chars)
    (hwhite : ∀ c ∈ white, isJsonWhite c = true) (rest : List Char) :
    FwVerify.skipWhite (white ++ (chars ++ rest)) = chars ++ rest := by
  obtain ⟨c, later, rfl, hc, -⟩ := h
  refine skipWhite_append hwhite fun c' hc' => ?_
  cases hc'
  exact hc

/-- A character that ends a list of items. -/
structure Closes (close : Char) : Prop where
  not_white : isJsonWhite close = false
  not_comma : close ≠ ','
  stops : goesOn close = false

variable (hclose : Closes close)

/-- The items behind the first one, and the closing character. -/
def writeLater (layout : Layout) (depth : Nat) (close : Char) (texts : List (List Char)) :
    List Char :=
  texts.flatMap (fun text => ',' :: (layout.gap (depth + 1) ++ text)) ++ layout.gap depth ++ [close]

variable {layout : Layout} {depth : Nat}

include hclose in
theorem behind_writeLater (texts : List (List Char)) (rest : List Char) :
    Behind (writeLater layout depth close texts ++ rest) := by
  cases texts with
  | nil =>
    rw [writeLater, List.flatMap_nil, List.nil_append, List.append_assoc]
    exact (behind_cons hclose.stops).white_append (layout.gap_white depth)
  | cons text texts => exact behind_cons rfl

include hclose in
/-- Items are read up to the closing character. -/
theorem readItems_written (white : List Char) {fuel : Nat} {a : α} {later : List α}
    {rest : List Char}
    (hreads : ∀ b ∈ a :: later, ∀ rest, Behind rest → item (text b ++ rest) = some (b, rest))
    (hopens : ∀ b ∈ a :: later, Opens close (text b))
    (hwhite : ∀ c ∈ white, isJsonWhite c = true) (hfuel : later.length < fuel) :
    readItems item close fuel
      (white ++ (text a ++ (writeLater layout depth close (later.map text) ++ rest))) =
        some (a :: later, rest) := by
  induction later generalizing fuel a white with
  | nil =>
    obtain ⟨fuel, rfl⟩ := Nat.exists_eq_add_one_of_ne_zero (Nat.ne_zero_of_lt hfuel)
    have hend : skipWhite (writeLater layout depth close [] ++ rest) = close :: rest := by
      rw [writeLater, List.flatMap_nil, List.nil_append, List.append_assoc]
      refine skipWhite_append (layout.gap_white depth) fun c hc => ?_
      cases hc
      exact hclose.not_white
    rw [readItems, (hopens a List.mem_cons_self).skipWhite hwhite,
      hreads a List.mem_cons_self _ (behind_writeLater hclose _ _), List.map_nil]
    dsimp only [Option.bind_eq_bind, Option.bind_some]
    rw [hend]
    dsimp only
    rw [if_pos rfl]
    rfl
  | cons b later ih =>
    obtain ⟨fuel, rfl⟩ := Nat.exists_eq_add_one_of_ne_zero (Nat.ne_zero_of_lt hfuel)
    rw [List.length_cons, Nat.succ_lt_succ_iff] at hfuel
    have hnext := ih (layout.gap (depth + 1)) (fun x hx => hreads x (List.mem_cons_of_mem _ hx))
      (fun x hx => hopens x (List.mem_cons_of_mem _ hx)) (layout.gap_white (depth + 1)) hfuel
    have hcomma : skipWhite (writeLater layout depth close ((b :: later).map text) ++ rest) =
        ',' :: (layout.gap (depth + 1) ++
          (text b ++ (writeLater layout depth close (later.map text) ++ rest))) := by
      rw [List.map_cons, writeLater, List.flatMap_cons, writeLater]
      simp only [List.cons_append, List.append_assoc]
      rfl
    rw [readItems, (hopens a List.mem_cons_self).skipWhite hwhite,
      hreads a List.mem_cons_self _ (behind_writeLater hclose _ _)]
    dsimp only [Option.bind_eq_bind, Option.bind_some]
    rw [hcomma]
    dsimp only
    rw [if_neg hclose.not_comma.symm, if_pos rfl, hnext]
    rfl

include hclose in
variable (layout depth) in
/-- Items between two brackets are read back. -/
theorem readEnclosed_enclose {fuel : Nat} {items : List α} (first : Char) (rest : List Char)
    (hreads : ∀ b ∈ items, ∀ rest, Behind rest → item (text b ++ rest) = some (b, rest))
    (hopens : ∀ b ∈ items, Opens close (text b)) (hfuel : items.length ≤ fuel) :
    ∃ inner, enclose layout depth first close (items.map text) ++ rest = first :: inner ∧
      readEnclosed item close fuel inner = some (items, rest) := by
  cases items with
  | nil =>
    refine ⟨close :: rest, rfl, ?_⟩
    have hskip : skipWhite (close :: rest) = close :: rest :=
      List.dropWhile_cons_of_neg (by rw [hclose.not_white]; decide)
    rw [readEnclosed, hskip]
    dsimp only
    rw [if_pos rfl]
  | cons a later =>
    refine ⟨layout.gap (depth + 1) ++
      (text a ++ (writeLater layout depth close (later.map text) ++ rest)), ?_, ?_⟩
    · rw [List.map_cons, enclose, writeLater]
      simp only [List.cons_append, List.append_assoc]
    · have hread : readItems item close fuel
          (text a ++ (writeLater layout depth close (later.map text) ++ rest)) =
            some (a :: later, rest) :=
        readItems_written hclose [] hreads hopens (List.forall_mem_nil _) (Nat.lt_of_succ_le hfuel)
      rw [readEnclosed, (hopens a List.mem_cons_self).skipWhite (layout.gap_white _)]
      obtain ⟨c, inner, htext, -, hc⟩ := hopens a List.mem_cons_self
      rw [htext, List.cons_append] at hread ⊢
      dsimp only
      rw [if_neg hc, hread]

end Items

/-! ## Documents -/

section Documents

variable {layout : Layout} {depth : Nat}

theorem writeItems_eq_map (items : List Value) :
    writeItems layout depth items = items.map (writeValue layout depth) := by
  induction items with
  | nil => rfl
  | cons item later ih => rw [writeItems, ih, List.map_cons]

/-- The text of a field. -/
def fieldText (layout : Layout) (depth : Nat) (field : String × Value) : List Char :=
  writeString field.1 ++ ':' :: (layout.space ++ writeValue layout depth field.2)

theorem writeFields_eq_map (fields : List (String × Value)) :
    writeFields layout depth fields = fields.map (fieldText layout depth) := by
  induction fields with
  | nil => rfl
  | cons field later ih =>
    rw [writeFields, ih, List.map_cons]
    rfl

variable (layout depth) in
/-- What encloses some texts is longer than their number, and than each of them. -/
theorem length_enclose (first last : Char) (texts : List (List Char)) :
    texts.length < (enclose layout depth first last texts).length ∧
      ∀ text ∈ texts, text.length < (enclose layout depth first last texts).length := by
  cases texts with
  | nil => exact ⟨Nat.zero_lt_succ _, nofun⟩
  | cons text later =>
    have hlater : later.length ≤
          (later.flatMap fun text => ',' :: (layout.gap (depth + 1) ++ text)).length ∧
        ∀ other ∈ later, other.length ≤
          (later.flatMap fun text => ',' :: (layout.gap (depth + 1) ++ text)).length := by
      induction later with
      | nil => exact ⟨Nat.zero_le _, nofun⟩
      | cons other later ih =>
        simp only [List.flatMap_cons, List.length_append, List.length_cons, List.mem_cons,
          forall_eq_or_imp]
        refine ⟨by omega, by omega, fun x hx => ?_⟩
        have hx := ih.2 x hx
        omega
    simp only [enclose, List.length_cons, List.length_append, List.mem_cons, forall_eq_or_imp]
    refine ⟨by omega, by omega, fun other hother => ?_⟩
    have hother := hlater.2 other hother
    omega

theorem length_le_writeString (s : String) : s.toList.length + 2 ≤ (writeString s).length := by
  have hone (c : Char) : 1 ≤ (writeChar c).length := by
    rw [writeChar]
    cases escapeLetter c with
    | some letter => exact Nat.succ_le_succ (Nat.zero_le _)
    | none =>
      dsimp only
      split_ifs <;> exact Nat.succ_le_succ (Nat.zero_le _)
  have hall (chars : List Char) : chars.length ≤ (chars.flatMap writeChar).length := by
    induction chars with
    | nil => exact Nat.zero_le _
    | cons c chars ih =>
      have hc := hone c
      rw [List.flatMap_cons, List.length_append, List.length_cons]
      omega
  have hs := hall s.toList
  simp only [writeString, List.length_cons, List.length_append, List.length_nil]
  omega

/-- The characters documents begin with. -/
def startsValue (c : Char) : Bool :=
  c.isDigit || c == '-' || c == '"' || c == '[' || c == '\x7b' || c == 'n' || c == 't' || c == 'f'

variable (layout depth) in
theorem exists_head_writeValue {levels : Nat} {value : Value} (h : value.Integral levels) :
    ∃ c later, writeValue layout depth value = c :: later ∧ startsValue c = true := by
  have henclose (first last : Char) (texts : List (List Char)) :
      ∃ later, enclose layout depth first last texts = first :: later := by
    cases texts <;> exact ⟨_, rfl⟩
  cases h with
  | null => exact ⟨_, _, rfl, rfl⟩
  | bool b => cases b <;> exact ⟨_, _, rfl, rfl⟩
  | posInt n =>
    have hdigit := isDigit_head_toDigits n.toNat []
    rw [List.append_nil] at hdigit
    obtain ⟨c, later, hdigits⟩ := List.exists_cons_of_ne_nil (Nat.toDigits_ne_nil (b := 10)
      (n := n.toNat))
    rw [hdigits] at hdigit
    refine ⟨c, later, hdigits, ?_⟩
    rw [startsValue, hdigit c rfl]
    rfl
  | negInt n negative => exact ⟨_, _, rfl, rfl⟩
  | string s => exact ⟨_, _, rfl, rfl⟩
  | array _ =>
    obtain ⟨later, hlater⟩ := henclose '[' ']' (writeItems layout (depth + 1) _)
    exact ⟨_, later, hlater, rfl⟩
  | object _ =>
    obtain ⟨later, hlater⟩ := henclose '\x7b' '\x7d' (writeFields layout (depth + 1) _)
    exact ⟨_, later, hlater, rfl⟩

variable (layout depth) in
theorem opens_writeValue {levels : Nat} {value : Value} (h : value.Integral levels) :
    Opens ']' (writeValue layout depth value) := by
  obtain ⟨c, later, hvalue, hstarts⟩ := exists_head_writeValue layout depth h
  refine ⟨c, later, hvalue, ?_, ?_⟩
  · by_contra hwhite
    simp only [Bool.not_eq_false, isJsonWhite, Bool.or_eq_true, beq_iff_eq] at hwhite
    rcases hwhite with ((rfl | rfl) | rfl) | rfl <;> cases hstarts
  · rintro rfl
    cases hstarts

theorem opens_fieldText (field : String × Value) :
    Opens '\x7d' (fieldText layout depth field) :=
  ⟨_, _, rfl, rfl, by decide⟩

theorem closes_bracket : Closes ']' := ⟨rfl, by decide, rfl⟩

theorem closes_brace : Closes '\x7d' := ⟨rfl, by decide, rfl⟩

/-- A text that begins as a number is read as one. -/
theorem readScalar_number {fuel : Nat} {c : Char} {rest : List Char}
    (hc : c.isDigit = true ∨ c = '-') :
    readScalar fuel (c :: rest) =
      (readJsonNumber (c :: rest)).map fun (n, rest) => (.number n, rest) := by
  have hne {c' : Char} (hc' : c'.isDigit = false) (hminus : c' ≠ '-') : c ≠ c' := by
    rcases hc with hc | rfl
    · exact ne_of_isDigit hc hc'
    · exact hminus.symm
  rw [readScalar, if_neg (hne rfl (by decide)), if_neg (hne rfl (by decide)),
    if_neg (hne rfl (by decide)), if_neg (hne rfl (by decide))]

theorem Canonical.integral {levels : Nat} {value : Value} (h : Canonical levels value) :
    value.Integral levels := by
  induction h with
  | null => exact .null
  | bool b => exact .bool b
  | posInt n => exact .posInt n
  | negInt n negative => exact .negInt n negative
  | string s => exact .string s
  | array _ ih => exact .array ih
  | object _ _ ih => exact .object ih

/-- A value that begins with no bracket is read as one that holds no other. -/
theorem readValue_scalar {fuel levels : Nat} {c : Char} {rest : List Char} (hbrace : c ≠ '\x7b')
    (hbracket : c ≠ '[') : readValue fuel levels (c :: rest) = readScalar fuel (c :: rest) := by
  cases levels with
  | zero => rfl
  | succ levels => rw [readValue, if_neg hbrace, if_neg hbracket]

/-- **A document is read off the front of a text.** It ends where nothing goes on it. -/
theorem readValue_writeValue {levels : Nat} {value : Value} (h : Canonical levels value)
    {fuel : Nat} {rest : List Char} (hfuel : (writeValue layout depth value).length < fuel)
    (hrest : Behind rest) :
    readValue fuel levels (writeValue layout depth value ++ rest) = some (value, rest) := by
  induction h generalizing depth rest with
  | null => exact readValue_scalar (by decide) (by decide)
  | bool b =>
    cases b with
    | false => exact readValue_scalar (by decide) (by decide)
    | true => exact readValue_scalar (by decide) (by decide)
  | posInt n =>
    obtain ⟨c, later, hdigits⟩ := List.exists_cons_of_ne_nil (Nat.toDigits_ne_nil (b := 10)
      (n := n.toNat))
    have hdigit := isDigit_head_toDigits n.toNat rest
    have hread := readJsonNumber_write (.posInt n) hrest
    rw [Number.write, hdigits, List.cons_append] at hread
    rw [hdigits, List.cons_append] at hdigit
    have hc := hdigit c rfl
    rw [writeValue, Number.write, hdigits, List.cons_append,
      readValue_scalar (ne_of_isDigit hc rfl) (ne_of_isDigit hc rfl), readScalar_number (.inl hc),
      hread]
    rfl
  | negInt n negative =>
    have hread := readJsonNumber_write (.negInt n negative) hrest
    rw [Number.write, List.cons_append] at hread
    rw [writeValue, Number.write, List.cons_append, readValue_scalar (by decide) (by decide),
      readScalar_number (.inr rfl), hread]
    rfl
  | string s =>
    have hlength := length_le_writeString s
    rw [writeValue] at hfuel ⊢
    have hshort : s.toList.length < fuel := by omega
    have hread := readString_writeString hshort rest
    rw [writeString, List.cons_append] at hread ⊢
    rw [readValue_scalar (by decide) (by decide), readScalar, if_pos rfl, hread]
    rfl
  | @array levels items all ih =>
    rw [writeValue, writeItems_eq_map] at hfuel ⊢
    obtain ⟨hcount, hlength⟩ := length_enclose layout depth '[' ']'
      (items.map (writeValue layout (depth + 1)))
    rw [List.length_map] at hcount
    have hreads : ∀ item ∈ items, ∀ rest, Behind rest →
        readValue fuel levels (writeValue layout (depth + 1) item ++ rest) = some (item, rest) := by
      intro item hitem rest hrest
      have hitemLength := hlength _ (List.mem_map_of_mem hitem)
      exact ih item hitem (by omega) hrest
    have hfew : items.length ≤ fuel := by omega
    obtain ⟨inner, htext, hinner⟩ := readEnclosed_enclose closes_bracket layout depth '[' rest hreads
      (fun item hitem => opens_writeValue _ _ (all item hitem).integral) hfew
    rw [htext, readValue, if_neg (by decide), if_pos rfl, hinner]
    rfl
  | @object levels fields ascend all ih =>
    rw [writeValue, writeFields_eq_map] at hfuel ⊢
    obtain ⟨hcount, hlength⟩ := length_enclose layout depth '\x7b' '\x7d'
      (fields.map (fieldText layout (depth + 1)))
    rw [List.length_map] at hcount
    have hreads : ∀ field ∈ fields, ∀ rest, Behind rest →
        readField fuel (readValue fuel levels) (fieldText layout (depth + 1) field ++ rest) =
          some (field, rest) := by
      intro field hfield rest hrest
      have hfieldLength := hlength _ (List.mem_map_of_mem hfield)
      have hname := length_le_writeString field.1
      simp only [fieldText, List.length_append, List.length_cons] at hfieldLength
      have hvalue : readValue fuel levels (writeValue layout (depth + 1) field.2 ++ rest) =
          some (field.2, rest) := ih field hfield (by omega) hrest
      have hcolon : skipWhite (':' :: (layout.space ++
          (writeValue layout (depth + 1) field.2 ++ rest))) =
            ':' :: (layout.space ++ (writeValue layout (depth + 1) field.2 ++ rest)) := rfl
      have hspace := (opens_writeValue layout (depth + 1) (all field hfield).integral).skipWhite
        layout.space_white rest
      rw [fieldText, List.append_assoc, List.cons_append, List.append_assoc, readField,
        readString_writeString (by omega)]
      dsimp only [Option.bind_eq_bind, Option.bind_some]
      rw [hcolon, readGiven_self]
      dsimp only [Option.bind_some]
      rw [hspace, hvalue]
      rfl
    have hfew : fields.length ≤ fuel := by omega
    obtain ⟨inner, htext, hinner⟩ := readEnclosed_enclose closes_brace layout depth '\x7b' rest
      hreads (fun field _ => opens_fieldText field) hfew
    rw [htext, readValue, if_pos rfl, hinner]
    change some (Value.object (sortFields fields), rest) = _
    rw [sortFields_eq_self ascend]

/-- A printed document begins with no white space. -/
theorem not_white_head_print {levels : Nat} {value : Value} (h : value.Integral levels) :
    ∀ c ∈ (value.print layout).toList.head?, isJsonWhite c = false := by
  intro c hc
  obtain ⟨c', later, hvalue, hwhite, -⟩ := opens_writeValue layout 0
    (canonical_sorted h).integral
  rw [Value.print, String.toList_ofList, hvalue] at hc
  cases hc
  exact hwhite

/-- **A printed document reads back**, with its fields in order, when it is not too deep. -/
theorem readDocument_print {value : Value} (h : value.Integral maxLevels) :
    readDocument (value.print layout) = some value.sorted := by
  have hskip : skipWhite (value.print layout).toList = (value.print layout).toList :=
    skipWhite_eq_self (not_white_head_print h)
  have hread : readValue ((writeValue layout 0 value.sorted).length + 1) maxLevels
      (writeValue layout 0 value.sorted ++ []) = some (value.sorted, []) :=
    readValue_writeValue (canonical_sorted h) (Nat.lt_succ_self _) behind_nil
  rw [List.append_nil] at hread
  rw [readDocument, hskip, Value.print, String.toList_ofList, hread]
  rfl

end Documents

end FwVerify
