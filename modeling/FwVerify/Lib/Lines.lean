import FwVerify.Lib.Text

/-!
# Lines of text

A text as lines that each end in a line feed, and the trimming of characters at the two ends
of a line.

## Main definitions

* `trimEnds` — drop the characters of a kind at both ends
* `Bare` — no character of the kind at either end
* `lines`, `unlines` — the lines of a text, and the text of lines

## Main results

* `trimEnds_pad` — trimming undoes padding
* `lines_unlines` — the lines of joined lines are those lines
-/

set_option autoImplicit false

namespace Text

/-! ## Trimming -/

/-- The text without the characters of a kind at its two ends. -/
def trimEnds (p : Char → Bool) (s : String) : String :=
  String.ofList ((s.toList.dropWhile p).rdropWhile p)

theorem trim_eq_trimEnds (s : String) : trim s = trimEnds isWhite s := rfl

/-- No character of the kind stands at either end of the text. -/
structure Bare (p : Char → Bool) (s : String) : Prop where
  first : ∀ c ∈ s.toList.head?, p c = false
  last : ∀ c ∈ s.toList.getLast?, p c = false

/-- A text without characters of the kind has none at its ends. -/
theorem Bare.of_forall {p : Char → Bool} {s : String} (h : ∀ c ∈ s.toList, p c = false) :
    Bare p s :=
  ⟨fun c hc => h c (List.mem_of_mem_head? hc), fun c hc => h c (List.mem_of_mem_getLast? hc)⟩

/-- A text is bare when what it begins with and what it ends with are. -/
theorem Bare.append {p : Char → Bool} {front back : String} (hfront : front.toList ≠ [])
    (hback : back.toList ≠ []) (hfirst : ∀ c ∈ front.toList.head?, p c = false)
    (hlast : ∀ c ∈ back.toList.getLast?, p c = false) : Bare p (front ++ back) := by
  constructor
  · rw [String.toList_append, List.head?_append_of_ne_nil _ hfront]
    exact hfirst
  · rw [String.toList_append, List.getLast?_append_of_ne_nil _ hback]
    exact hlast

theorem rdropWhile_pad {p : Char → Bool} {chars after : List Char}
    (hafter : ∀ c ∈ after, p c = true) (hlast : ∀ c ∈ chars.getLast?, p c = false) :
    (chars ++ after).rdropWhile p = chars := by
  rw [List.rdropWhile, List.reverse_append, dropWhile_pad, List.reverse_reverse]
  · intro c hc
    exact hafter c (List.mem_reverse.mp hc)
  · intro c hc
    exact hlast c (by rwa [List.head?_reverse] at hc)

/-- Trimming undoes padding. -/
theorem trimEnds_pad {p : Char → Bool} {before after : List Char} {s : String}
    (hbefore : ∀ c ∈ before, p c = true) (hafter : ∀ c ∈ after, p c = true)
    (hs : Bare p s) :
    trimEnds p (String.ofList (before ++ s.toList ++ after)) = s := by
  rw [trimEnds, String.toList_ofList]
  by_cases hempty : s.toList = []
  · have hall : ∀ c ∈ before ++ after, p c = true := by
      intro c hc
      rcases List.mem_append.mp hc with h | h
      · exact hbefore c h
      · exact hafter c h
    rw [hempty, List.append_nil, List.dropWhile_eq_nil_iff.mpr hall]
    rw [List.rdropWhile_nil, ← hempty, String.ofList_toList]
  · have hfirst : ∀ c ∈ (s.toList ++ after).head?, p c = false := by
      intro c hc
      rw [List.head?_append_of_ne_nil _ hempty] at hc
      exact hs.first c hc
    rw [List.append_assoc, dropWhile_pad hbefore hfirst, rdropWhile_pad hafter hs.last,
      String.ofList_toList]

/-- A text that is bare at both ends is its own trimming. -/
theorem trimEnds_of_bare {p : Char → Bool} {s : String} (hs : Bare p s) :
    trimEnds p s = s := by
  have hpad : trimEnds p (String.ofList ([] ++ s.toList ++ [])) = s :=
    trimEnds_pad (by simp) (by simp) hs
  rwa [List.nil_append, List.append_nil, String.ofList_toList] at hpad

/-! ## Lines -/

/-- A line without the carriage return at its end. -/
def stripCr (line : String) : String :=
  match line.toList.reverse with
  | '\r' :: front => String.ofList front.reverse
  | _ => line

/-- The lines of a text; what follows the last line feed is a line unless it is empty. -/
def lines (s : String) : List String :=
  match (splitAt '\n' s).reverse with
  | [] => []
  | last :: before => before.reverse.map stripCr ++ if last = "" then [] else [last]

/-- The text of lines that each end in a line feed. -/
def unlines (items : List String) : String := items.foldr (fun item text => item ++ "\n" ++ text) ""

theorem stripCr_eq_self {line : String} (hcr : line.toList.getLast? ≠ some '\r') :
    stripCr line = line := by
  rw [stripCr]
  split
  · next front hchars =>
    have hlast : line.toList.getLast? = some '\r' := by
      rw [← List.head?_reverse, hchars, List.head?_cons]
    exact absurd hlast hcr
  · rfl

theorem unlines_eq_intercalate (items : List String) :
    unlines items = "\n".intercalate (items ++ [""]) := by
  induction items with
  | nil => rfl
  | cons item later ih =>
    rw [unlines, List.foldr_cons, ← unlines, ih]
    cases later with
    | nil => rw [List.nil_append, List.cons_append, List.nil_append,
        String.intercalate_cons_cons]
    | cons next later =>
      rw [List.cons_append, List.cons_append, List.cons_append,
        String.intercalate_cons_cons]

/-- The lines of joined lines are those lines. -/
theorem lines_unlines {items : List String} (hfree : ∀ item ∈ items, '\n' ∉ item.toList)
    (hcr : ∀ item ∈ items, item.toList.getLast? ≠ some '\r') :
    lines (unlines items) = items := by
  have hsplit : splitAt '\n' (unlines items) = items ++ [""] := by
    rw [unlines_eq_intercalate]
    refine splitAt_intercalate '\n' _ ?_ (by simp)
    intro item hitem
    rcases List.mem_append.mp hitem with h | h
    · exact hfree item h
    · rw [List.mem_singleton.mp h]
      exact List.not_mem_nil
  have hstrip : items.map stripCr = items := by
    conv_rhs => rw [← List.map_id items]
    apply List.map_congr_left
    intro item hitem
    exact stripCr_eq_self (hcr item hitem)
  rw [lines, hsplit, List.reverse_append, List.reverse_singleton, List.singleton_append]
  dsimp only
  rw [List.reverse_reverse, hstrip, if_pos rfl, List.append_nil]

end Text
