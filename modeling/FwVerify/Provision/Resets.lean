import FwVerify.Provision.DepotWrites

/-!
# What a reset removes

The file of a rule is named by three decimals joined by hyphens, and any of them may begin with
a hyphen of its own. The pattern of a reset holds the first two and the hyphens behind them, and
the name cannot be read in another way.

## Main definitions

* `DepotFile` — a rule file of the depot

## Main results

* `covers_resetPattern_iff` — the pattern of a function covers its files and no others
* `reset_removes_own_rules` — what is left after a reset
-/

set_option autoImplicit false

namespace FwVerify

open Glob Text

/-! ## Files -/

/-- A rule file in the depot, possibly with a suffix. -/
structure DepotFile where
  acd : Int32
  fun_ : Int32
  protVer : Int32
  suffix : String
  one_le : 1 ≤ protVer
  no_slash : '/' ∉ suffix.toList

def DepotFile.path (file : DepotFile) : String :=
  rulePath defaultDepot file.acd file.fun_ file.protVer ++ file.suffix

/-- What every file of a function begins with, up to the hyphen behind the function. -/
def functionChars (acd fun_ : Int32) : List Char :=
  defaultDepot.toList ++ '/' :: ((toString acd.toInt).toList ++ '-' :: (toString fun_.toInt).toList)

theorem DepotFile.toList_path (file : DepotFile) :
    file.path.toList = functionChars file.acd file.fun_ ++ ['-'] ++
      ((toString file.protVer.toInt).toList ++ ".rule".toList ++ file.suffix.toList) := by
  have hdir : String.ofList (defaultDepot.toList.rdropWhile (· == '/')) = defaultDepot := by decide
  have hslash : "/".toList = ['/'] := rfl
  have hhyphen : "-".toList = ['-'] := rfl
  rw [path, rulePath, hdir, functionChars]
  generalize defaultDepot = depot
  simp only [toString_string, String.toList_append, hslash, hhyphen, List.append_assoc,
    List.cons_append, List.nil_append]

theorem toList_resetPattern (acd fun_ : Int32) :
    (resetPattern acd fun_).toList = functionChars acd fun_ ++ ['-'] ++ "*.rule*".toList := by
  have hslash : "/".toList = ['/'] := rfl
  have hhyphen : "-".toList = ['-'] := rfl
  have hrest : "-*.rule*".toList = '-' :: "*.rule*".toList := rfl
  rw [resetPattern, functionChars]
  generalize defaultDepot = depot
  simp only [toString_string, String.toList_append, hslash, hhyphen, hrest, List.append_assoc,
    List.cons_append, List.nil_append]

/-- A character of a command line or of a pattern does not occur in front of the version. -/
theorem not_mem_functionChars {acd fun_ : Int32} {c : Char} (hdigit : c.isDigit = false)
    (hhyphen : c ≠ '-') (hdir : c ∉ (defaultDepot ++ "/").toList) :
    c ∉ functionChars acd fun_ := by
  rw [String.toList_append, List.mem_append, not_or] at hdir
  simp only [functionChars, List.mem_append, List.mem_cons, not_or]
  exact ⟨hdir.1, fun heq => hdir.2 (List.mem_singleton.mpr heq), not_mem_intChars hdigit hhyphen,
    hhyphen, not_mem_intChars hdigit hhyphen⟩

/-- The files of different functions begin differently. -/
theorem functionChars_inj {acd fun_ acd' fun_' : Int32} {rest rest' : List Char}
    (h : functionChars acd fun_ ++ ['-'] ++ rest = functionChars acd' fun_' ++ ['-'] ++ rest') :
    acd = acd' ∧ fun_ = fun_' ∧ rest = rest' := by
  simp only [functionChars, List.append_assoc, List.cons_append, List.nil_append,
    List.append_cancel_left_eq, List.cons.injEq, true_and] at h
  obtain ⟨hacd, hfun⟩ := intChars_hyphen_inj h
  obtain ⟨hfun, hrest⟩ := intChars_hyphen_inj hfun
  exact ⟨Int32.toInt_inj.mp hacd, Int32.toInt_inj.mp hfun, hrest⟩

/-! ## Patterns -/

/-- The pattern of a function covers what begins as its files do and names a rule file. -/
theorem covers_resetPattern {acd fun_ : Int32} {path : String} :
    covers (resetPattern acd fun_) path = true ↔
      ∃ name suffix, path.toList =
          functionChars acd fun_ ++ ['-'] ++ (name ++ ".rule".toList ++ suffix) ∧
        '/' ∉ name ∧ '/' ∉ suffix := by
  have hplain : ∀ c ∈ functionChars acd fun_ ++ ['-'], c ≠ '*' ∧ c ≠ '?' := by
    have hfree {c : Char} (hdigit : c.isDigit = false) (hhyphen : c ≠ '-')
        (hdir : c ∉ (defaultDepot ++ "/").toList) : c ∉ functionChars acd fun_ ++ ['-'] :=
      List.not_mem_append (not_mem_functionChars hdigit hhyphen hdir)
        fun hmem => hhyphen (List.mem_singleton.mp hmem)
    intro c hc
    constructor
    · rintro rfl
      exact hfree (by decide) (by decide) (by decide) hc
    · rintro rfl
      exact hfree (by decide) (by decide) (by decide) hc
  have hrest : "*.rule*".toList.map Atom.ofChar =
      .star :: ((".rul".toList ++ ['e']).map .lit ++ [.star]) := by decide
  rw [covers, toList_resetPattern, List.map_append, map_ofChar hplain, hrest,
    coversFrom_lits (by decide)]
  constructor
  · rintro ⟨rest, hpath, hcovers⟩
    obtain ⟨name, suffix, rfl, hslash⟩ := (coversFrom_star_lits_star (by decide)).mp hcovers
    exact ⟨name, suffix, hpath, hslash⟩
  · rintro ⟨name, suffix, hpath, hslash⟩
    exact ⟨_, hpath, (coversFrom_star_lits_star (by decide)).mpr ⟨name, suffix, rfl, hslash⟩⟩

/-- The pattern is a word of a command line. -/
theorem word_resetPattern (acd fun_ : Int32) :
    ' ' ∉ (resetPattern acd fun_).toList ∧ resetPattern acd fun_ ≠ "" := by
  have hspace : ' ' ∉ functionChars acd fun_ :=
    not_mem_functionChars (by decide) (by decide) (by decide)
  constructor
  · rw [toList_resetPattern]
    exact List.not_mem_append (List.not_mem_append hspace (by decide)) (by decide)
  · intro hempty
    have htoList := toList_resetPattern acd fun_
    rw [hempty] at htoList
    exact List.append_ne_nil_of_right_ne_nil _ (by decide) htoList.symm

/-- **The pattern of a function covers its files and no others.** -/
theorem covers_resetPattern_iff {acd fun_ : Int32} (file : DepotFile) :
    covers (resetPattern acd fun_) file.path = true ↔ file.acd = acd ∧ file.fun_ = fun_ := by
  rw [covers_resetPattern, file.toList_path]
  constructor
  · rintro ⟨name, suffix, hpath, -, -⟩
    obtain ⟨hacd, hfun, -⟩ := functionChars_inj hpath
    exact ⟨hacd, hfun⟩
  · rintro ⟨rfl, rfl⟩
    have hslash : '/' ∉ (toString file.protVer.toInt).toList :=
      not_mem_intChars (by decide) (by decide)
    exact ⟨_, _, rfl, hslash, file.no_slash⟩

/-! ## The reset -/

/-- The rules of a function that a reset removes. -/
def RunConfig.Resets (cfg : RunConfig) (acd fun_ : Int32) : Prop :=
  acd = cfg.acd ∧ (fun_ = cfg.funFw ∨ fun_ = cfg.funTraffic)

instance (cfg : RunConfig) (acd fun_ : Int32) : Decidable (cfg.Resets acd fun_) :=
  inferInstanceAs (Decidable (acd = cfg.acd ∧ (fun_ = cfg.funFw ∨ fun_ = cfg.funTraffic)))

/-- Without a shell, and in host mode, a reset leaves every file. -/
theorem resetRules_leaves {cfg : RunConfig} {steps : ResetSteps}
    (h : cfg.mode = .host ∨ ∃ error, steps.shell = .error error) (files : Finset String) :
    (resetRules cfg steps files).2 = files := by
  rw [resetRules]
  cases hmode : cfg.mode with
  | host => rfl
  | android =>
    rw [hmode] at h
    obtain hhost | ⟨error, hshell⟩ := h
    · cases hhost
    · rw [hshell]

/-- The files a reset leaves. -/
theorem resetRules_android {cfg : RunConfig} {steps : ResetSteps} (hmode : cfg.mode = .android)
    (hshell : steps.shell = .ok ()) (files : Finset String) :
    (resetRules cfg steps files).1 = .ok () ∧ ∀ path,
      path ∈ (resetRules cfg steps files).2 ↔ path ∈ files ∧
        covers (resetPattern cfg.acd cfg.funFw) path = false ∧
        covers (resetPattern cfg.acd cfg.funTraffic) path = false := by
  have hcommand : resetCommand cfg = " ".intercalate
      ("rm" :: "-f" :: [resetPattern cfg.acd cfg.funFw, resetPattern cfg.acd cfg.funTraffic]) := by
    rw [resetCommand]
    generalize resetPattern cfg.acd cfg.funFw = pattern
    generalize resetPattern cfg.acd cfg.funTraffic = patternTraffic
    simp only [toString_string, String.intercalate_cons_cons, String.intercalate_singleton,
      ← String.append_assoc]
    rfl
  have hwords : ∀ word ∈ [resetPattern cfg.acd cfg.funFw, resetPattern cfg.acd cfg.funTraffic],
      ' ' ∉ word.toList ∧ word ≠ "" :=
    List.forall_mem_cons.mpr ⟨word_resetPattern _ _, List.forall_mem_singleton.mpr
      (word_resetPattern _ _)⟩
  obtain ⟨kept, hrun, hkept⟩ := run_rm _ hwords files
  rw [resetRules, hmode]
  dsimp only
  rw [hshell, hcommand, hrun]
  refine ⟨rfl, fun path => ?_⟩
  rw [Option.getD_some, hkept, List.forall_mem_cons, List.forall_mem_singleton]

/-- **A reset removes exactly its own rules.** Whatever files there are, a rule file is removed
exactly when it is one of the firewall function or of the traffic function, in whatever version
and with whatever suffix; and nothing else is removed but files of the depot that are named as
theirs are. -/
theorem reset_removes_own_rules (cfg : RunConfig) (steps : ResetSteps) (files : Finset String)
    (hmode : cfg.mode = .android) (hshell : steps.shell = .ok ()) :
    (resetRules cfg steps files).1 = .ok () ∧ (resetRules cfg steps files).2 ⊆ files ∧
    (∀ file : DepotFile, file.path ∈ files →
      (file.path ∉ (resetRules cfg steps files).2 ↔ cfg.Resets file.acd file.fun_)) ∧
    ∀ path ∈ files, path ∉ (resetRules cfg steps files).2 →
      ∃ fun_ name suffix, cfg.Resets cfg.acd fun_ ∧
        path.toList = functionChars cfg.acd fun_ ++ ['-'] ++ (name ++ ".rule".toList ++ suffix) ∧
        '/' ∉ name ∧ '/' ∉ suffix := by
  obtain ⟨hok, hleft⟩ := resetRules_android hmode hshell files
  refine ⟨hok, fun path hpath => ((hleft path).mp hpath).1, fun file hfile => ?_,
    fun path hpath hgone => ?_⟩
  · rw [hleft, not_and, imp_iff_right hfile, not_and_or, Bool.not_eq_false, Bool.not_eq_false,
      covers_resetPattern_iff, covers_resetPattern_iff, ← and_or_left, RunConfig.Resets]
  · rw [hleft, not_and, imp_iff_right hpath, not_and_or, Bool.not_eq_false, Bool.not_eq_false,
      covers_resetPattern, covers_resetPattern] at hgone
    rcases hgone with ⟨name, suffix, hname, hslash⟩ | ⟨name, suffix, hname, hslash⟩
    · exact ⟨_, name, suffix, ⟨rfl, .inl rfl⟩, hname, hslash⟩
    · exact ⟨_, name, suffix, ⟨rfl, .inr rfl⟩, hname, hslash⟩

/-- The second version of a rule. -/
def secondVersion (acd fun_ : Int32) : DepotFile where
  acd := acd
  fun_ := fun_
  protVer := 2
  suffix := ".bak"
  one_le := by decide
  no_slash := by decide

/-- Steps that all succeed. -/
def ResetSteps.succeeding : ResetSteps where
  shell := .ok ()
  upsert := fun _ _ => .ok 1

/-- A bench device keeps the rules of function `-1` when those of function `1` are removed. -/
theorem reset_removes_own_rules_bench :
    let files : Finset String := {(secondVersion 1 1).path, (secondVersion 1 (-1)).path}
    (secondVersion 1 1).path ∉ (resetRules benchConfig .succeeding files).2 ∧
      (secondVersion 1 (-1)).path ∈ (resetRules benchConfig .succeeding files).2 := by
  intro files
  obtain ⟨-, -, hrules, -⟩ := reset_removes_own_rules benchConfig .succeeding files rfl rfl
  have hown : (secondVersion 1 1).path ∈ files := Finset.mem_insert_self _ _
  have hother : (secondVersion 1 (-1)).path ∈ files :=
    Finset.mem_insert_of_mem (Finset.mem_singleton_self _)
  refine ⟨(hrules _ hown).mpr (by decide), ?_⟩
  by_contra hgone
  exact absurd ((hrules _ hother).mp hgone) (by decide)

end FwVerify
