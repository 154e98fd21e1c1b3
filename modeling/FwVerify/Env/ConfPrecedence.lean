import FwVerify.Env.ConfLines
import FwVerify.Lib.Lookups

/-!
# The environment before the configuration file

A variable that is set keeps its value whatever the file says; one that is not takes the value of
the first line that names it. So reading a file again changes nothing, and reading two files in
turn is reading the one followed by the other.

## Main definitions

* `Effective` — a line that names a variable
* `FirstEffective` — the first line of a file that does

## Main results

* `applyConfigEnv_apply` — a variable after reading a file
* `settingsOf_append` — the settings of two files in one
* `config_never_overrides` — the precedence, and what follows for reading files again or in turn
-/

set_option autoImplicit false

namespace FwVerify

open Lookups Text

/-! ## Lines that name a variable -/

/-- A line names a variable: trimmed, it is neither empty nor a comment, and its key, in lower
case, is that of the variable. What stands behind the first `=` is `raw`. -/
structure Effective (line var raw : String) : Prop where
  not_empty : trim line ≠ ""
  not_hash : (trim line).toList.head? ≠ some '#'
  not_semicolon : (trim line).toList.head? ≠ some ';'
  named : ∃ key, splitOnce '=' (trim line) = some (key, raw) ∧
    configKeyToEnv (toAsciiLowercase (trim key)) = some var

/-- The value of a line: trimmed, and without quotes at its ends. -/
def strippedValue (raw : String) : String := trimEnds (· == '"') (trim raw)

theorem parseConfLine_eq_some_iff {line var value : String} :
    parseConfLine line = some (var, value) ↔
      ∃ raw, Effective line var raw ∧ value = strippedValue raw := by
  rw [parseConfLine]
  dsimp only
  by_cases hskip : (trim line).toList = [] ∨ (trim line).toList.head? = some '#' ∨
      (trim line).toList.head? = some ';'
  · -- a blank line or a comment is not effective
    rw [if_pos hskip]
    refine iff_of_false (Option.some_ne_none _).symm ?_
    rintro ⟨raw, heffective, -⟩
    rcases hskip with hempty | hhash | hsemicolon
    · exact heffective.not_empty (String.toList_eq_nil_iff.mp hempty)
    · exact heffective.not_hash hhash
    · exact heffective.not_semicolon hsemicolon
  · rw [if_neg hskip]
    simp only [not_or] at hskip
    obtain ⟨hempty, hhash, hsemicolon⟩ := hskip
    have hne : trim line ≠ "" := fun h => hempty (String.toList_eq_nil_iff.mpr h)
    cases hsplit : splitOnce '=' (trim line) with
    | none =>
      refine iff_of_false (Option.some_ne_none _).symm ?_
      rintro ⟨raw, ⟨-, -, -, key, hkey, -⟩, -⟩
      rw [hsplit] at hkey
      cases hkey
    | some pair =>
      obtain ⟨key, raw⟩ := pair
      rw [Option.map_eq_some_iff]
      constructor
      · rintro ⟨var', hvar, ⟨⟩⟩
        exact ⟨raw, ⟨hne, hhash, hsemicolon, key, hsplit, hvar⟩, rfl⟩
      · rintro ⟨raw', ⟨-, -, -, key', hkey, hvar⟩, rfl⟩
        rw [hsplit] at hkey
        cases hkey
        exact ⟨var, hvar, rfl⟩

/-- The value a file has for a variable is that of its first line that names it. -/
def FirstEffective (items : List String) (var value : String) : Prop :=
  ∃ before line after raw, items = before ++ line :: after ∧ Effective line var raw ∧
    value = strippedValue raw ∧ ∀ earlier ∈ before, ∀ raw', ¬ Effective earlier var raw'

/-! ## The settings of a file -/

/-- The settings of a file, line by line. -/
def settingsOf (content : String) : List (String × String) :=
  (lines content).filterMap parseConfLine

theorem applyConfigEnv_apply (content : String) (env : EnvVars) (var : String) :
    applyConfigEnv content env var = (env var).or ((settingsOf content).lookup var) := by
  rw [applyConfigEnv_eq, foldl_setDefault, settingsOf]

/-- The setting of a variable is that of the first line that names it. -/
theorem firstEffective_of_lookup {content var value : String}
    (hlookup : (settingsOf content).lookup var = some value) :
    FirstEffective (lines content) var value := by
  obtain ⟨before, line, after, hlines, hparse, hbefore⟩ :=
    lookup_filterMap_eq_some_iff.mp hlookup
  obtain ⟨raw, heffective, hvalue⟩ := parseConfLine_eq_some_iff.mp hparse
  refine ⟨before, line, after, raw, hlines, heffective, hvalue, fun earlier hearlier raw' h => ?_⟩
  exact hbefore earlier hearlier _ (parseConfLine_eq_some_iff.mpr ⟨raw', h, rfl⟩)

/-- White space at the end of a line does not matter. -/
theorem trim_append_white {chars : List Char} {c : Char} (hc : isWhite c = true) :
    trim (String.ofList (chars ++ [c])) = trim (String.ofList chars) := by
  rw [trim, trim, String.toList_ofList, String.toList_ofList, List.dropWhile_append]
  split_ifs with hempty
  · rw [List.isEmpty_iff.mp hempty, List.dropWhile_cons_of_pos hc, List.dropWhile_nil]
  · rw [List.rdropWhile_concat_pos _ _ _ hc]

theorem trim_stripCr (line : String) : trim (stripCr line) = trim line := by
  rw [stripCr]
  split
  · next front hchars =>
    have hline : line = String.ofList (front.reverse ++ ['\r']) := by
      apply String.toList_inj.mp
      rw [String.toList_ofList, ← List.reverse_cons, ← hchars, List.reverse_reverse]
    rw [hline, trim_append_white (by decide)]
  · rfl

theorem parseConfLine_stripCr (line : String) :
    parseConfLine (stripCr line) = parseConfLine line := by
  rw [parseConfLine, trim_stripCr, parseConfLine]

theorem parseConfLine_empty : parseConfLine "" = none := by
  rw [parseConfLine]
  exact if_pos (.inl (by decide))

/-- The settings of a file are those of the texts between its line feeds. -/
theorem settingsOf_eq (content : String) :
    settingsOf content = (splitAt '\n' content).filterMap parseConfLine := by
  have hne : splitAt '\n' content ≠ [] := by
    rw [splitAt, Ne, List.map_eq_nil_iff]
    exact List.splitOn_ne_nil '\n' content.toList
  -- only the last text is not ended by a line feed, and it is no line when it is empty
  obtain ⟨before, last, hsplit⟩ : ∃ before last, splitAt '\n' content = before ++ [last] :=
    ⟨_, _, (List.dropLast_append_getLast hne).symm⟩
  have hlines : lines content = before.map stripCr ++ if last = "" then [] else [last] := by
    rw [lines, hsplit, List.reverse_append, List.reverse_singleton, List.singleton_append]
    dsimp only
    rw [List.reverse_reverse]
  have hstrip : (before.map stripCr).filterMap parseConfLine = before.filterMap parseConfLine := by
    have hcomp : parseConfLine ∘ stripCr = parseConfLine := by
      funext line
      rw [Function.comp_apply, parseConfLine_stripCr]
    rw [List.filterMap_map, hcomp]
  have hlast : (if last = "" then [] else [last]).filterMap parseConfLine =
      [last].filterMap parseConfLine := by
    split_ifs with hempty
    · rw [hempty, List.filterMap_cons_none parseConfLine_empty, List.filterMap_nil]
    · rfl
  rw [settingsOf, hlines, hsplit, List.filterMap_append, List.filterMap_append, hstrip, hlast]

/-- The settings of two files in one. -/
theorem settingsOf_append (first second : String) :
    settingsOf (first ++ "\n" ++ second) = settingsOf first ++ settingsOf second := by
  have hsplit : splitAt '\n' (first ++ "\n" ++ second) =
      splitAt '\n' first ++ splitAt '\n' second := by
    rw [splitAt, splitAt, splitAt, ← List.map_append, ← List.splitOn_append_cons_self,
      String.toList_append, String.toList_append, List.append_assoc]
    rfl
  rw [settingsOf_eq, settingsOf_eq, settingsOf_eq, hsplit, List.filterMap_append]

/-! ## The precedence -/

/-- **The file never overrides the environment.** A variable that is set keeps its value; one
that is not takes the stripped value of the first line that names it, or stays unset. Reading a
file twice is reading it once, and reading two files in turn is reading the one, a line feed, and
the other. -/
theorem config_never_overrides (env : EnvVars) (content : String) :
    (∀ var value, env var = some value → applyConfigEnv content env var = some value) ∧
    (∀ var, env var = none → (∃ line ∈ lines content, ∃ raw, Effective line var raw) →
      ∃ value, FirstEffective (lines content) var value ∧
        applyConfigEnv content env var = some value) ∧
    (∀ var, (∀ line ∈ lines content, ∀ raw, ¬ Effective line var raw) →
      applyConfigEnv content env var = env var) ∧
    applyConfigEnv content (applyConfigEnv content env) = applyConfigEnv content env ∧
    ∀ second, applyConfigEnv second (applyConfigEnv content env) =
      applyConfigEnv (content ++ "\n" ++ second) env := by
  refine ⟨fun var value hvalue => ?_, fun var hnone hnamed => ?_, fun var hunnamed => ?_, ?_,
    fun second => ?_⟩
  · rw [applyConfigEnv_apply, hvalue, Option.some_or]
  · obtain ⟨line, hline, raw, heffective⟩ := hnamed
    have hparse := parseConfLine_eq_some_iff.mpr ⟨raw, heffective, rfl⟩
    cases hlookup : (settingsOf content).lookup var with
    | none => exact absurd hparse (lookup_filterMap_eq_none_iff.mp hlookup line hline _)
    | some value =>
      refine ⟨value, firstEffective_of_lookup hlookup, ?_⟩
      rw [applyConfigEnv_apply, hnone, Option.none_or, hlookup]
  · have hnone : (settingsOf content).lookup var = none := by
      rw [settingsOf, lookup_filterMap_eq_none_iff]
      intro line hline value hparse
      obtain ⟨raw, heffective, -⟩ := parseConfLine_eq_some_iff.mp hparse
      exact hunnamed line hline raw heffective
    rw [applyConfigEnv_apply, hnone, Option.or_none]
  · -- what the first reading leaves unset, the second one does not find either
    funext var
    rw [applyConfigEnv_apply, applyConfigEnv_apply, Option.or_assoc, Option.or_self]
  · funext var
    rw [applyConfigEnv_apply, applyConfigEnv_apply, applyConfigEnv_apply, settingsOf_append,
      List.lookup_append, Option.or_assoc]

end FwVerify
