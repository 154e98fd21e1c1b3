import FwVerify.Model.ConfFile

/-!
# The lines of a configuration file

What a line a writer spells as `key = value` reads back as, for the values a file can carry: no
line feed inside, and neither white space nor a quote at an end. Everything else may stand in
a value, the separator and the comment signs among it.

## Main definitions

* `PlainValue`, `PlainKey` — the values and keys a line can carry
* `entryLine` — a written line

## Main results

* `parseConfLine_entry` — a written line reads back as its variable and value
* `parseConfLine_hash` — a comment sets nothing
* `applyConfigEnv_eq`, `foldl_setDefault` — what the settings of a file leave in an environment
-/

set_option autoImplicit false

namespace FwVerify

open Text

/-! ## Values and keys -/

/-- A value the file can carry: no line feed, and neither white space nor a quote at an end. -/
structure PlainValue (s : String) : Prop where
  line : '\n' ∉ s.toList
  white : Bare isWhite s
  quotes : Bare (· == '"') s

theorem PlainValue.of_forall {s : String} (h : ∀ c ∈ s.toList, isWhite c = false ∧ c ≠ '"') :
    PlainValue s where
  line hmem := by
    have hwhite := (h _ hmem).1
    revert hwhite
    decide
  white := Bare.of_forall fun c hc => (h c hc).1
  quotes := Bare.of_forall fun c hc => by simpa using (h c hc).2

/-- The condition on each character, computed. -/
theorem PlainValue.of_all {s : String}
    (h : s.toList.all (fun c => !isWhite c && c != '"') = true) : PlainValue s := by
  apply PlainValue.of_forall
  simpa only [List.all_eq_true, Bool.and_eq_true, Bool.not_eq_true', bne_iff_ne] using h

/-- A key as the file spells it. -/
def PlainKey (key : String) : Prop :=
  key.toList ≠ [] ∧ ∀ c ∈ key.toList,
    c ≠ '=' ∧ c ≠ '#' ∧ c ≠ ';' ∧ isWhite c = false ∧ c.toLower = c

instance (key : String) : Decidable (PlainKey key) :=
  -- by the characters of the key, not by all characters there are
  @instDecidableAnd _ _ inferInstance (List.decidableBAll _ _)

/-- A written line. -/
def entryLine (key value : String) : String := key ++ " = " ++ value

theorem toAsciiLowercase_eq_self {key : String} (hkey : PlainKey key) :
    toAsciiLowercase key = key := by
  have hmap : key.toList.map Char.toLower = key.toList := by
    conv_rhs => rw [← List.map_id key.toList]
    apply List.map_congr_left
    intro c hc
    exact (hkey.2 c hc).2.2.2.2
  rw [toAsciiLowercase, hmap, String.ofList_toList]

theorem isWhite_space : isWhite ' ' = true := by decide

/-! ## Reading -/

/-- What stands between `=` and the end of a trimmed line. -/
theorem trim_entryLine {key value : String} (hkey : PlainKey key) (hvalue : Bare isWhite value) :
    ∃ rest : String, trim (entryLine key value) = key ++ " " ++ String.singleton '=' ++ rest ∧
      trim rest = value := by
  have hbare (back : String) (hne : back.toList ≠ [])
      (hlast : ∀ c ∈ back.toList.getLast?, isWhite c = false) : Bare isWhite (key ++ back) :=
    Bare.append hkey.1 hne (fun c hc => (hkey.2 c (List.mem_of_mem_head? hc)).2.2.2.1) hlast
  by_cases hempty : value = ""
  · -- the space after `=` goes as well
    refine ⟨"", ?_, by rw [hempty]; decide⟩
    have hlast (c : Char) (hc : c ∈ " =".toList.getLast?) : isWhite c = false := by
      obtain rfl : '=' = c := Option.mem_some_iff.mp hc
      decide
    have hpad : trimEnds isWhite (String.ofList ([] ++ (key ++ " =").toList ++ [' '])) =
        key ++ " =" :=
      trimEnds_pad (by simp) (by simp [isWhite_space]) (hbare " =" (by decide) hlast)
    have hline : entryLine key value = String.ofList ([] ++ (key ++ " =").toList ++ [' ']) := by
      apply String.toList_inj.mp
      simp [entryLine, hempty]
    rw [hline, String.append_empty, String.append_assoc]
    exact hpad
  · refine ⟨" " ++ value, ?_, ?_⟩
    · have hne : value.toList ≠ [] := by simpa using hempty
      have hline : entryLine key value = key ++ " " ++ String.singleton '=' ++ (" " ++ value) := by
        apply String.toList_inj.mp
        simp [entryLine]
      rw [hline, trim_eq_trimEnds]
      apply trimEnds_of_bare
      rw [String.append_assoc, String.append_assoc]
      refine hbare _ (by simp) fun c hc => ?_
      rw [String.toList_append, String.toList_append, String.toList_append,
        List.getLast?_append_of_ne_nil _ (by simp), List.getLast?_append_of_ne_nil _ (by simp),
        List.getLast?_append_of_ne_nil _ hne] at hc
      exact hvalue.last c hc
    · have hrest : " " ++ value = String.ofList ([' '] ++ value.toList ++ []) := by
        apply String.toList_inj.mp
        simp
      rw [trim_eq_trimEnds, hrest]
      exact trimEnds_pad (by simp [isWhite_space]) (by simp) hvalue

/-- A written line reads back as the variable of its key and its value. -/
theorem parseConfLine_entry {key value var : String} (hkey : PlainKey key)
    (hvar : configKeyToEnv key = some var) (hvalue : PlainValue value) :
    parseConfLine (entryLine key value) = some (var, value) := by
  obtain ⟨rest, htrim, hrest⟩ := trim_entryLine hkey hvalue.white
  obtain ⟨first, later, hchars⟩ := List.exists_cons_of_ne_nil hkey.1
  have hfirst := hkey.2 first (by rw [hchars]; exact List.mem_cons_self)
  have hnot : ¬ ((key ++ " " ++ String.singleton '=' ++ rest).toList = [] ∨
      (key ++ " " ++ String.singleton '=' ++ rest).toList.head? = some '#' ∨
      (key ++ " " ++ String.singleton '=' ++ rest).toList.head? = some ';') := by
    simp [hchars, hfirst.2.1, hfirst.2.2.1]
  have hsplit : splitOnce '=' (key ++ " " ++ String.singleton '=' ++ rest) =
      some (key ++ " ", rest) := by
    apply splitOnce_append
    intro hmem
    rcases List.mem_append.mp (String.toList_append ▸ hmem) with h | h
    · exact (hkey.2 '=' h).1 rfl
    · revert h
      decide
  have hspace : trim (key ++ " ") = key := by
    have hline : key ++ " " = String.ofList ([] ++ key.toList ++ [' ']) := by
      apply String.toList_inj.mp
      simp
    rw [trim_eq_trimEnds, hline]
    exact trimEnds_pad (by simp) (by simp [isWhite_space])
      (Bare.of_forall fun c hc => (hkey.2 c hc).2.2.2.1)
  rw [parseConfLine]
  dsimp only
  rw [htrim, if_neg hnot, hsplit]
  dsimp only
  rw [hspace, toAsciiLowercase_eq_self hkey, hvar, hrest, trimEnds_of_bare hvalue.quotes]
  rfl

/-- A written line is one line. -/
theorem entryLine_oneLine {key value : String} (hkey : PlainKey key) (hvalue : PlainValue value) :
    '\n' ∉ (entryLine key value).toList ∧
      (entryLine key value).toList.getLast? ≠ some '\r' := by
  constructor
  · intro hmem
    simp only [entryLine, String.toList_append, List.mem_append] at hmem
    rcases hmem with (hmem | hmem) | hmem
    · have hwhite := (hkey.2 _ hmem).2.2.2.1
      revert hwhite
      decide
    · revert hmem
      decide
    · exact hvalue.line hmem
  · intro hc
    rw [entryLine, String.toList_append] at hc
    by_cases hempty : value.toList = []
    · rw [hempty, List.append_nil, String.toList_append,
        List.getLast?_append_of_ne_nil _ (by simp)] at hc
      revert hc
      decide
    · rw [List.getLast?_append_of_ne_nil _ hempty] at hc
      have hwhite := hvalue.white.last _ hc
      revert hwhite
      decide

/-- A line that begins with a hash sets nothing. -/
theorem parseConfLine_hash {line : String} (hhash : line.toList.head? = some '#') :
    parseConfLine line = none := by
  obtain ⟨rest, hrest⟩ := List.head?_eq_some_iff.mp hhash
  have hdrop : line.toList.dropWhile isWhite = line.toList := by
    rw [hrest, List.dropWhile_cons_of_neg (by decide)]
  have hne : line.toList.rdropWhile isWhite ≠ [] := by
    intro hnil
    have hall := List.rdropWhile_eq_nil_iff.mp hnil '#' (by rw [hrest]; exact List.mem_cons_self)
    revert hall
    decide
  have htrim : (trim line).toList.head? = some '#' := by
    obtain ⟨later, hlater⟩ := List.rdropWhile_prefix isWhite line.toList
    have hhead : (line.toList.rdropWhile isWhite ++ later).head? =
        (line.toList.rdropWhile isWhite).head? := List.head?_append_of_ne_nil _ hne
    rw [hlater, hhash] at hhead
    rw [trim, hdrop, String.toList_ofList, ← hhead]
  rw [parseConfLine]
  exact if_pos (.inr (.inl htrim))

/-! ## Reading a file -/

theorem applyConfigEnv_eq (content : String) (env : EnvVars) :
    applyConfigEnv content env = ((lines content).filterMap parseConfLine).foldl
      (fun env setting => setDefault env setting.1 setting.2) env := by
  rw [applyConfigEnv, List.foldl_filterMap]
  apply congrArg (fun step => (lines content).foldl step env)
  funext env line
  cases parseConfLine line <;> rfl

theorem setDefault_apply (env : EnvVars) (var value name : String) :
    setDefault env var value name =
      (env name).or (if name = var then some value else none) := by
  rw [setDefault]
  by_cases hname : name = var
  · subst hname
    cases henv : env name with
    | none => simp
    | some kept => simp [henv]
  · split_ifs <;> simp [Function.update_of_ne hname]

/-- The first default of a variable is taken, where it has no value. -/
theorem foldl_setDefault (settings : List (String × String)) (env : EnvVars) (name : String) :
    settings.foldl (fun env setting => setDefault env setting.1 setting.2) env name =
      (env name).or (settings.lookup name) := by
  induction settings generalizing env with
  | nil => simp
  | cons setting settings ih =>
    obtain ⟨var, value⟩ := setting
    rw [List.foldl_cons, ih, setDefault_apply, Option.or_assoc, List.lookup_cons]
    by_cases hname : name = var
    · simp [hname]
    · simp [hname, beq_eq_false_iff_ne.mpr hname]

end FwVerify
