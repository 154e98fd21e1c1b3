import FwVerify.Lib.Text
import Mathlib.Data.Finset.Filter
import Mathlib.Data.Finset.Insert

/-!
# Removing files by shell patterns

The paths a word of a command line stands for, and the command that removes them. A star stands
for any characters of a name and a question mark for one of them; neither stands for a slash, nor
for the dot a name begins with. A word that names no file stands for itself. Sets of characters
are left out.

## Main definitions

* `coversFrom`, `covers` — whether a pattern stands for a path
* `expand` — the paths of a word
* `run` — the files an `rm -f` leaves

## Main results

* `coversFrom_lits`, `coversFrom_star` — what the parts of a pattern stand for
* `run_rm` — the files that stay are those no word covers
-/

set_option autoImplicit false

namespace Glob

open Text

/-! ## Patterns -/

/-- What a character of a pattern stands for. -/
inductive Atom
  | lit (c : Char)
  | one
  | star
  deriving DecidableEq

/-- Read a character of a pattern. -/
def Atom.ofChar (c : Char) : Atom :=
  if c = '*' then .star else if c = '?' then .one else .lit c

/-- What is left of a text when a star has taken characters of a name. -/
def afterStar : List Char → List (List Char)
  | [] => [[]]
  | c :: later => (c :: later) :: if c = '/' then [] else afterStar later

/-- Whether the text is one the atoms stand for. At the start of a name a dot is no wildcard's. -/
def coversFrom : Bool → List Atom → List Char → Bool
  | _, [], text => text.isEmpty
  | _, .lit c :: atoms, text =>
    match text with
    | [] => false
    | c' :: later => c' == c && coversFrom (c == '/') atoms later
  | atStart, .one :: atoms, text =>
    match text with
    | [] => false
    | c :: later => c != '/' && !(atStart && c == '.') && coversFrom false atoms later
  | atStart, .star :: atoms, text =>
    !(atStart && text.head? == some '.') && (afterStar text).any (coversFrom false atoms ·)

/-- Whether the pattern stands for the path. -/
def covers (pattern path : String) : Bool :=
  coversFrom true (pattern.toList.map Atom.ofChar) path.toList

example : covers "/depot/1-4-*.rule*" "/depot/1-4-2.rule.bak" = true ∧
    covers "/depot/1-4-*.rule*" "/depot/1-44-2.rule" = false := by decide

/-- A star takes what holds no slash. -/
theorem mem_afterStar {text rest : List Char} :
    rest ∈ afterStar text ↔ ∃ taken, text = taken ++ rest ∧ '/' ∉ taken := by
  constructor
  · intro hmem
    induction text with
    | nil =>
      rw [afterStar, List.mem_singleton] at hmem
      exact ⟨[], hmem.symm, List.not_mem_nil⟩
    | cons c later ih =>
      rw [afterStar, List.mem_cons] at hmem
      rcases hmem with rfl | hmem
      · exact ⟨[], rfl, List.not_mem_nil⟩
      · by_cases hslash : c = '/'
        · rw [if_pos hslash] at hmem
          exact absurd hmem List.not_mem_nil
        · rw [if_neg hslash] at hmem
          obtain ⟨taken, htext, htaken⟩ := ih hmem
          refine ⟨c :: taken, congrArg (c :: ·) htext, fun hmem => ?_⟩
          rcases List.mem_cons.mp hmem with heq | hmem
          · exact hslash heq.symm
          · exact htaken hmem
  · rintro ⟨taken, rfl, htaken⟩
    induction taken with
    | nil => cases rest <;> exact List.mem_cons_self
    | cons c taken ih =>
      have hslash : c ≠ '/' := fun heq => htaken (heq ▸ List.mem_cons_self)
      rw [List.cons_append, afterStar, if_neg hslash]
      exact List.mem_cons_of_mem _ (ih fun hmem => htaken (List.mem_cons_of_mem _ hmem))

theorem coversFrom_star {atoms : List Atom} {text : List Char} :
    coversFrom false (.star :: atoms) text = true ↔
      ∃ taken rest, text = taken ++ rest ∧ '/' ∉ taken ∧ coversFrom false atoms rest = true := by
  rw [coversFrom, Bool.false_and, Bool.not_false, Bool.true_and, List.any_eq_true]
  constructor
  · rintro ⟨rest, hmem, hcovers⟩
    obtain ⟨taken, htext, htaken⟩ := mem_afterStar.mp hmem
    exact ⟨taken, rest, htext, htaken, hcovers⟩
  · rintro ⟨taken, rest, htext, htaken, hcovers⟩
    exact ⟨rest, mem_afterStar.mpr ⟨taken, htext, htaken⟩, hcovers⟩

/-- A star at the end takes the rest of the name. -/
theorem coversFrom_star_nil {text : List Char} :
    coversFrom false [.star] text = true ↔ '/' ∉ text := by
  rw [coversFrom_star]
  constructor
  · rintro ⟨taken, rest, rfl, htaken, hrest⟩
    rw [List.isEmpty_iff.mp hrest, List.append_nil]
    exact htaken
  · intro hslash
    exact ⟨text, [], (List.append_nil _).symm, hslash, rfl⟩

theorem coversFrom_lit {atStart : Bool} {c : Char} {atoms : List Atom} {text : List Char} :
    coversFrom atStart (.lit c :: atoms) text = true ↔
      ∃ rest, text = c :: rest ∧ coversFrom (c == '/') atoms rest = true := by
  cases text <;> simp [coversFrom]

/-- Characters that stand for themselves, the last of them no slash. -/
theorem coversFrom_lits {atStart : Bool} {front : List Char} {last : Char} {atoms : List Atom}
    {text : List Char} (hlast : last ≠ '/') :
    coversFrom atStart ((front ++ [last]).map .lit ++ atoms) text = true ↔
      ∃ rest, text = front ++ [last] ++ rest ∧ coversFrom false atoms rest = true := by
  induction front generalizing atStart text with
  | nil =>
    have hslash : (last == '/') = false := beq_eq_false_iff_ne.mpr hlast
    rw [List.nil_append, List.map_singleton, List.singleton_append, coversFrom_lit, hslash]
    rfl
  | cons c front ih =>
    rw [List.cons_append, List.map_cons, List.cons_append, coversFrom_lit]
    constructor
    · rintro ⟨later, rfl, hcovers⟩
      obtain ⟨rest, rfl, hrest⟩ := ih.mp hcovers
      exact ⟨rest, rfl, hrest⟩
    · rintro ⟨rest, rfl, hrest⟩
      exact ⟨_, rfl, ih.mpr ⟨rest, rfl, hrest⟩⟩

/-- A text between two stars. -/
theorem coversFrom_star_lits_star {front : List Char} {last : Char} {text : List Char}
    (hlast : last ≠ '/') :
    coversFrom false (.star :: ((front ++ [last]).map .lit ++ [.star])) text = true ↔
      ∃ name suffix, text = name ++ (front ++ [last]) ++ suffix ∧ '/' ∉ name ∧ '/' ∉ suffix := by
  rw [coversFrom_star]
  constructor
  · rintro ⟨name, rest, rfl, hname, hrest⟩
    obtain ⟨suffix, rfl, hsuffix⟩ := (coversFrom_lits hlast).mp hrest
    exact ⟨name, suffix, (List.append_assoc _ _ _).symm, hname, coversFrom_star_nil.mp hsuffix⟩
  · rintro ⟨name, suffix, rfl, hname, hsuffix⟩
    exact ⟨name, _, List.append_assoc _ _ _, hname,
      (coversFrom_lits hlast).mpr ⟨suffix, rfl, coversFrom_star_nil.mpr hsuffix⟩⟩

/-- Characters without a wildcard stand for themselves. -/
theorem map_ofChar {chars : List Char} (hplain : ∀ c ∈ chars, c ≠ '*' ∧ c ≠ '?') :
    chars.map Atom.ofChar = chars.map .lit := by
  refine List.map_congr_left fun c hc => ?_
  rw [Atom.ofChar, if_neg (hplain c hc).1, if_neg (hplain c hc).2]

/-- A pattern stands for its own text. -/
theorem covers_self (pattern : String) : covers pattern pattern = true := by
  have hself (chars : List Char) (atStart : Bool) :
      coversFrom atStart (chars.map Atom.ofChar) chars = true := by
    induction chars generalizing atStart with
    | nil => rfl
    | cons c chars ih =>
      rw [List.map_cons, Atom.ofChar]
      split_ifs with hstar hone
      · have htaken : chars ∈ afterStar (c :: chars) :=
          mem_afterStar.mpr ⟨[c], rfl, by rw [hstar]; decide⟩
        have hdot : ((c :: chars).head? == some '.') = false := by rw [hstar]; rfl
        rw [coversFrom, hdot, Bool.and_false, Bool.not_false, Bool.true_and]
        exact List.any_eq_true.mpr ⟨chars, htaken, ih false⟩
      · simp [coversFrom, hone, ih]
      · exact coversFrom_lit.mpr ⟨chars, rfl, ih _⟩
  exact hself pattern.toList true

/-! ## Commands -/

/-- The paths a word stands for. -/
def expand (files : Finset String) (word : String) : Finset String :=
  let found := files.filter fun path => covers word path
  if found = ∅ then {word} else found

/-- The files an `rm -f` leaves; other commands are not read. -/
def run (command : String) (files : Finset String) : Option (Finset String) :=
  match (splitAt ' ' command).filter (· ≠ "") with
  | program :: flag :: words =>
    if program = "rm" ∧ flag = "-f" then
      some (files.filter fun path => ∀ word ∈ words, path ∉ expand files word)
    else none
  | _ => none

/-- A word stands for the files it covers. -/
theorem mem_expand_iff {files : Finset String} {word path : String} (hpath : path ∈ files) :
    path ∈ expand files word ↔ covers word path = true := by
  rw [expand]
  split_ifs with hnone
  · -- a word that covers nothing does not name a file by its own text either
    have hcovers : ∀ path ∈ files, ¬ covers word path = true := Finset.filter_eq_empty_iff.mp hnone
    refine iff_of_false (fun hmem => ?_) (hcovers path hpath)
    rw [Finset.mem_singleton] at hmem
    exact hcovers path hpath (hmem ▸ covers_self word)
  · rw [Finset.mem_filter, and_iff_right hpath]

/-- **The files that stay** after an `rm -f` are those no word covers. -/
theorem run_rm (words : List String) (hfree : ∀ word ∈ words, ' ' ∉ word.toList ∧ word ≠ "")
    (files : Finset String) :
    ∃ kept, run (" ".intercalate ("rm" :: "-f" :: words)) files = some kept ∧
      ∀ path, path ∈ kept ↔ path ∈ files ∧ ∀ word ∈ words, covers word path = false := by
  have hsplit : (splitAt ' ' (" ".intercalate ("rm" :: "-f" :: words))).filter (· ≠ "") =
      "rm" :: "-f" :: words := by
    have hitems : ∀ item ∈ "rm" :: "-f" :: words, ' ' ∉ item.toList ∧ item ≠ "" :=
      List.forall_mem_cons.mpr ⟨by decide, List.forall_mem_cons.mpr ⟨by decide, hfree⟩⟩
    have hwords := splitAt_intercalate ' ' _ (fun item hitem => (hitems item hitem).1)
      (List.cons_ne_nil _ _)
    change splitAt ' ' (" ".intercalate _) = _ at hwords
    rw [hwords]
    exact List.filter_eq_self.mpr fun item hitem => decide_eq_true (hitems item hitem).2
  refine ⟨_, by rw [run, hsplit]; exact if_pos ⟨rfl, rfl⟩, fun path => ?_⟩
  rw [Finset.mem_filter]
  refine and_congr_right fun hpath => forall₂_congr fun word _ => ?_
  rw [mem_expand_iff hpath, Bool.not_eq_true]

end Glob
