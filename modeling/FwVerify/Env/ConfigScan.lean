import FwVerify.Lib.LastMatch
import FwVerify.Lib.Lookups
import FwVerify.Model.Arguments

/-!
# Two readers of the command line

The configuration file is looked for in the raw arguments, before they are parsed, and again by
the parser, which knows what an option belongs to. In front of the subcommand the two agree. They
differ on what stands behind it: the scan takes the `--config` of `agent provision-rule`, which is
the configuration of another program, and anything spelled like it behind `--`.

## Main definitions

* `IsConfigToken`, `namedPath` — the arguments the scan reacts to, and the path they name
* `ConfigInFront` — what stands behind the subcommand does not change the file

## Main results

* `configPath_eq_scanConfig` — the scan, argument by argument
* `scanConfig_front` — the options in front of the subcommand name the file they are parsed to
* `configPath_eq_config_iff` — when the two readers agree
* `isConfigToken_behind` — where else an argument that the scan reacts to may stand
-/

set_option autoImplicit false

namespace FwVerify

open LastMatch Lookups Options Text

/-! ## The scan -/

/-- An argument that the scan reacts to. -/
def IsConfigToken (token : String) : Prop :=
  token = "--config" ∨ "--config=".toList <+: token.toList

instance (token : String) : Decidable (IsConfigToken token) :=
  inferInstanceAs (Decidable (_ ∨ _))

/-- The path such an argument names: the next argument, or what stands behind its `=`. -/
def namedPath (token : String) (later : List String) : Option String :=
  if token = "--config" then later.head?
  else ("--config=".toList.isPrefixOf? token.toList).map String.ofList

/-- The scan, argument by argument. -/
def scanConfig (path : Option String) : List String → Option String
  | [] => path
  | token :: later =>
    scanConfig (if IsConfigToken token then namedPath token later else path) later

/-- A fold over the numbered arguments whose step looks one argument ahead is the scan. -/
theorem foldl_zipIdx_eq_scanConfig {args : List String}
    {step : Option String → String × Nat → Option String}
    (hstep : ∀ path token index, step path (token, index) =
      if IsConfigToken token then namedPath token (args.drop (index + 1)) else path)
    (later : List String) (index : Nat) (path : Option String) (hlater : args.drop index = later) :
    (later.zipIdx index).foldl step path = scanConfig path later := by
  induction later generalizing index path with
  | nil => rfl
  | cons token later ih =>
    have hnext : args.drop (index + 1) = later := by
      rw [← List.tail_drop, hlater, List.tail_cons]
    rw [List.zipIdx_cons, List.foldl_cons, ih _ _ hnext, hstep, hnext, scanConfig]

/-- The scan looks one argument ahead and keeps the last path it finds. -/
theorem configPath_eq_scanConfig (args : List String) :
    configPath args = scanConfig none args := by
  refine foldl_zipIdx_eq_scanConfig (fun path token index => ?_) args 0 none rfl
  dsimp only
  by_cases htoken : token = "--config"
  · have hconfig : IsConfigToken token := .inl htoken
    rw [if_pos htoken, if_pos hconfig, namedPath, if_pos htoken, List.head?_drop]
  rw [if_neg htoken]
  by_cases hprefix : "--config=".toList <+: token.toList
  · have hconfig : IsConfigToken token := .inr hprefix
    obtain ⟨rest, hrest⟩ := hprefix
    rw [if_pos hconfig, namedPath, if_neg htoken, ← hrest, isPrefixOf?_append]
    rfl
  · have hconfig : ¬ IsConfigToken token := not_or.mpr ⟨htoken, hprefix⟩
    rw [if_neg hconfig, isPrefixOf?_eq_none hprefix]

theorem scanConfig_of_forall_not {tokens : List String}
    (h : ∀ token ∈ tokens, ¬ IsConfigToken token) (path : Option String) :
    scanConfig path tokens = path := by
  induction tokens with
  | nil => rfl
  | cons token later ih =>
    rw [scanConfig, if_neg (h token List.mem_cons_self)]
    exact ih fun token' htoken' => h token' (List.mem_cons_of_mem _ htoken')

/-- The last argument the scan reacts to decides. -/
theorem scanConfig_last {token : String} {after : List String} (htoken : IsConfigToken token)
    (hafter : ∀ later ∈ after, ¬ IsConfigToken later) (before : List String)
    (path : Option String) :
    scanConfig path (before ++ token :: after) = namedPath token after := by
  induction before generalizing path with
  | nil => rw [List.nil_append, scanConfig, if_pos htoken, scanConfig_of_forall_not hafter]
  | cons first before ih => rw [List.cons_append, scanConfig, ih]

/-! ## The options in front of the subcommand -/

/-- An argument the scan reacts to looks like an option. -/
theorem not_isConfigToken_of_plain {token : String} (h : looksLikeOption token = false) :
    ¬ IsConfigToken token := by
  rintro (rfl | ⟨rest, hrest⟩)
  · exact absurd h (by decide)
  · rw [looksLikeOption, ← hrest] at h
    exact absurd h (by simp)

theorem toList_long (name : String) : ("--" ++ name).toList = '-' :: '-' :: name.toList := by
  rw [String.toList_append]
  rfl

theorem toList_inline (name value : String) :
    ("--" ++ name ++ "=" ++ value).toList =
      '-' :: '-' :: (name.toList ++ '=' :: value.toList) := by
  rw [String.toList_append, String.toList_append, toList_long]
  simp

/-- An option without an inline value is taken for the file if it has its name. -/
theorem isConfigToken_long_iff {name : String} (hfree : '=' ∉ name.toList) :
    IsConfigToken ("--" ++ name) ↔ name = "config" := by
  constructor
  · rintro (heq | ⟨rest, hrest⟩)
    · apply String.toList_inj.mp
      have hchars := congrArg String.toList heq
      rw [toList_long] at hchars
      simpa using hchars
    · rw [toList_long] at hrest
      have hbody : name.toList = "config=".toList ++ rest := by simpa using hrest.symm
      refine absurd ?_ hfree
      rw [hbody]
      exact List.mem_append_left _ (by decide)
  · rintro rfl
    exact .inl (by decide)

/-- So is an option with an inline value, its name ending at the first `=`. -/
theorem isConfigToken_inline_iff {name value : String} (hfree : '=' ∉ name.toList) :
    IsConfigToken ("--" ++ name ++ "=" ++ value) ↔ name = "config" := by
  constructor
  · rintro (heq | ⟨rest, hrest⟩)
    · have hchars := congrArg String.toList heq
      rw [toList_inline] at hchars
      have hmem : '=' ∈ "--config".toList := by
        rw [← hchars]
        simp
      exact absurd hmem (by decide)
    · rw [toList_inline] at hrest
      have hbody : "config".toList ++ '=' :: rest = name.toList ++ '=' :: value.toList := by
        simpa using hrest
      have hname := congrArg (List.takeWhile (· != '=')) hbody
      rw [takeWhile_free (by decide), takeWhile_free hfree] at hname
      exact String.toList_inj.mp hname.symm
  · rintro rfl
    refine .inr ⟨value.toList, ?_⟩
    rw [toList_inline]
    rfl

theorem namedPath_inline (value : String) (later : List String) :
    namedPath ("--" ++ "config" ++ "=" ++ value) later = some value := by
  have hchars : ("--" ++ "config" ++ "=" ++ value).toList = "--config=".toList ++ value.toList := by
    rw [toList_inline]
    rfl
  have hne : "--" ++ "config" ++ "=" ++ value ≠ "--config" := by
    intro heq
    rw [heq] at hchars
    exact absurd (congrArg List.length hchars) (by simp)
  rw [namedPath, if_neg hne, hchars, isPrefixOf?_append, Option.map_some, String.ofList_toList]

section Front

variable {decls : List (String × Arity)} (hconfig : decls.lookup "config" = some .value)
include hconfig

/-- One piece names the file it is parsed to, if any. -/
theorem scanConfig_spells {piece : Piece} {spelled : List String}
    (hspells : Spells decls piece spelled) (path : Option String) (tokens : List String) :
    scanConfig path (spelled ++ tokens) =
      scanConfig ((values "config" [piece]).getLast?.or path) tokens := by
  cases hspells with
  | inline name value hfree _ =>
    rw [List.singleton_append, scanConfig]
    -- the scan and the parser both take the first `=` for the end of the name
    by_cases hname : name = "config"
    · rw [if_pos ((isConfigToken_inline_iff hfree).mpr hname), hname, namedPath_inline]
      simp [values]
    · rw [if_neg fun h => hname ((isConfigToken_inline_iff hfree).mp h)]
      simp [values, hname]
  | separate name value hfree _ hplain =>
    -- the value stands behind the name, and does not look like an option itself
    rw [List.cons_append, List.singleton_append, scanConfig, scanConfig,
      if_neg (not_isConfigToken_of_plain hplain)]
    by_cases hname : name = "config"
    · rw [if_pos ((isConfigToken_long_iff hfree).mpr hname), hname, namedPath, if_pos (by decide)]
      simp [values]
    · rw [if_neg fun h => hname ((isConfigToken_long_iff hfree).mp h)]
      simp [values, hname]
  | flag name hfree hdecl =>
    have hname : name ≠ "config" := by
      rintro rfl
      rw [hconfig] at hdecl
      cases hdecl
    rw [List.singleton_append, scanConfig,
      if_neg fun h => hname ((isConfigToken_long_iff hfree).mp h)]
    rfl

/-- The options in front of a subcommand name the file they are parsed to; the scan goes on
behind them. -/
theorem scanConfig_front {tokens rest : List String} {pieces : List Piece} {name : String}
    (hfront : Front decls tokens pieces name rest) (path : Option String) :
    scanConfig path tokens = scanConfig ((values "config" pieces).getLast?.or path) rest := by
  induction hfront generalizing path with
  | command name rest hplain =>
    rw [scanConfig, if_neg (not_isConfigToken_of_plain hplain)]
    rfl
  | @piece piece spelled tokens pieces name rest hspells _ ih =>
    have hvalues : values "config" (piece :: pieces) =
        values "config" [piece] ++ values "config" pieces := values_append _ [piece] pieces
    rw [scanConfig_spells hconfig hspells, ih, hvalues, List.getLast?_append, Option.or_assoc]

end Front

/-! ## The two readers -/

/-- The parts of an argument vector that is accepted. -/
theorem Cli.parse_eq_some {tokens : List String} {cli : Cli} (h : Cli.parse tokens = some cli) :
    ∃ name, parseCommand GlobalArgs.decls tokens = some (cli.globals, name, cli.rest) ∧
      ((∃ command, commandTable.lookup name = some command ∧
          command.parse cli.rest = some cli.own) ∨
        ∃ pieces sub agentRest command, name = "agent" ∧ cli.names = [name, sub] ∧
          parseCommand [modeDecl] cli.rest = some (pieces, sub, agentRest) ∧
          agentCommandTable.lookup sub = some command ∧
          command.parse agentRest = some cli.own) := by
  obtain ⟨⟨globals, name, rest⟩, hfront, h⟩ := Option.bind_eq_some_iff.mp h
  refine ⟨name, ?_⟩
  dsimp only at h
  split_ifs at h with hname
  · obtain ⟨⟨pieces, sub, agentRest⟩, hagent, h⟩ := Option.bind_eq_some_iff.mp h
    obtain ⟨command, hcommand, h⟩ := Option.bind_eq_some_iff.mp h
    obtain ⟨own, hown, ⟨⟩⟩ := Option.bind_eq_some_iff.mp h
    exact ⟨hfront, .inr ⟨pieces, sub, agentRest, command, hname, rfl, hagent, hcommand, hown⟩⟩
  · obtain ⟨command, hcommand, h⟩ := Option.bind_eq_some_iff.mp h
    obtain ⟨own, hown, ⟨⟩⟩ := Option.bind_eq_some_iff.mp h
    exact ⟨hfront, .inl ⟨command, hcommand, hown⟩⟩

/-- The shared option is given at most once. -/
theorem Cli.length_config_le {tokens : List String} {cli : Cli}
    (h : Cli.parse tokens = some cli) : (values "config" cli.globals).length ≤ 1 := by
  obtain ⟨name, hfront, -⟩ := Cli.parse_eq_some h
  exact OptionDecl.values_of_accepts ((parseCommand_front hfront).2 (.value "config" parsePath)
    List.mem_cons_self)

theorem Cli.config_eq_some_iff {tokens : List String} {cli : Cli}
    (h : Cli.parse tokens = some cli) (path : String) :
    cli.config = some path ↔ .option "config" path ∈ cli.globals := by
  rw [← mem_values_iff, config]
  exact head?_eq_some_iff_mem (Cli.length_config_le h)

theorem ne_nil_of_parse {tokens : List String} {cli : Cli} (h : Cli.parse tokens = some cli) :
    tokens ≠ [] := by
  rintro rfl
  cases h

/-- The scan of a command line that is accepted. -/
theorem configPath_cons {program : String} {tokens : List String} {cli : Cli}
    (h : Cli.parse tokens = some cli) :
    configPath (program :: tokens) =
      scanConfig (cli.config.or (if IsConfigToken program then namedPath program tokens else none))
        cli.rest := by
  have hlast : (values "config" cli.globals).getLast? = cli.config :=
    getLast?_eq_head? (Cli.length_config_le h)
  obtain ⟨name, hfront, -⟩ := Cli.parse_eq_some h
  have hconfig : (arities GlobalArgs.decls).lookup "config" = some .value := rfl
  rw [configPath_eq_scanConfig, scanConfig,
    scanConfig_front hconfig (parseCommand_front hfront).1, hlast]

/-- An argument in front of others names a path. -/
theorem isSome_namedPath {token next : String} {later : List String} (h : IsConfigToken token) :
    (namedPath token (next :: later)).isSome = true := by
  rw [namedPath]
  split_ifs with htoken
  · rfl
  · obtain ⟨rest, hrest⟩ := h.resolve_left htoken
    rw [← hrest, isPrefixOf?_append]
    rfl

/-- What else the scan reacts to names the file of the shared option: an argument behind the name
of the subcommand, of which the last one counts, and without one there the program's own name. -/
structure ConfigInFront (program : String) (cli : Cli) : Prop where
  rest : ∀ before token after, cli.rest = before ++ token :: after → IsConfigToken token →
    (∀ later ∈ after, ¬ IsConfigToken later) →
    ∀ path, namedPath token after = some path ↔ .option "config" path ∈ cli.globals
  program : (∀ token ∈ cli.rest, ¬ IsConfigToken token) → IsConfigToken program →
    ∃ path, .option "config" path ∈ cli.globals

/-- **When the two readers agree.** The file that is loaded is the one of the shared option if
and only if no other argument that is spelled like it names another. -/
theorem configPath_eq_config_iff (program : String) (tokens : List String) (cli : Cli)
    (hparse : Cli.parse tokens = some cli) :
    configPath (program :: tokens) = cli.config ↔ ConfigInFront program cli := by
  rw [configPath_cons hparse]
  rcases forall_not_or_exists_last IsConfigToken cli.rest with
    hnone | ⟨before, token, after, hrest, htoken, hafter⟩
  · -- nothing behind the name of the subcommand: only the program's name may add a path
    rw [scanConfig_of_forall_not hnone]
    cases hconfig : cli.config with
    | some path =>
      have hmem := (Cli.config_eq_some_iff hparse path).mp hconfig
      refine iff_of_true (Option.some_or ..) ⟨?_, fun _ _ => ⟨path, hmem⟩⟩
      rintro before token after hrest htoken -
      exact absurd htoken (hnone token (by rw [hrest]; simp))
    | none =>
      rw [Option.none_or]
      constructor
      · intro hpath
        refine ⟨fun before token after hrest htoken => ?_, fun _ hprogram => ?_⟩
        · exact absurd htoken (hnone token (by rw [hrest]; simp))
        · obtain ⟨next, later, rfl⟩ := List.exists_cons_of_ne_nil (ne_nil_of_parse hparse)
          rw [if_pos hprogram] at hpath
          simpa [hpath] using @isSome_namedPath program next later hprogram
      · intro h
        refine if_neg fun hprogram => ?_
        obtain ⟨path, hmem⟩ := h.program hnone hprogram
        simpa [hconfig] using (Cli.config_eq_some_iff hparse path).mpr hmem
  · -- the last argument behind it decides
    rw [hrest, scanConfig_last htoken hafter]
    constructor
    · intro heq
      -- any other way to cut at a last such argument names the same path
      refine ⟨fun before' token' after' hrest' htoken' hafter' path => ?_, fun hnone => ?_⟩
      · rw [← Cli.config_eq_some_iff hparse, ← heq, ← scanConfig_last htoken' hafter' before' none,
          ← hrest', hrest, scanConfig_last htoken hafter]
      · exact absurd htoken (hnone token (by rw [hrest]; simp))
    · intro h
      apply Option.ext
      intro path
      rw [h.rest before token after hrest htoken hafter, Cli.config_eq_some_iff hparse]

/-- A command line without a stray `--config`. -/
theorem configPath_eq_config_iff_front :
    Cli.parse ["--config", "a.conf", "list"] =
        some ⟨[.option "config" "a.conf"], [], ["list"], []⟩ ∧
      (configPath ["fw-verify", "--config", "a.conf", "list"] = some "a.conf" ↔
        ConfigInFront "fw-verify" ⟨[.option "config" "a.conf"], [], ["list"], []⟩) := by
  have hparse : Cli.parse ["--config", "a.conf", "list"] =
      some ⟨[.option "config" "a.conf"], [], ["list"], []⟩ := by
    decide
  exact ⟨hparse, configPath_eq_config_iff _ _ _ hparse⟩

/-- The worker's `--config` is loaded, though the shared option is not given. -/
theorem configPath_ne_config :
    ¬ ∀ (program : String) (tokens : List String) (cli : Cli),
      Cli.parse tokens = some cli → configPath (program :: tokens) = cli.config := by
  intro h
  have hparse : Cli.parse ["agent", "provision-rule", "--input", "r.txt", "--config",
      "/etc/idd/idps.yaml"] =
      some ⟨[], ["provision-rule", "--input", "r.txt", "--config", "/etc/idd/idps.yaml"],
        ["agent", "provision-rule"],
        [.option "input" "r.txt", .option "config" "/etc/idd/idps.yaml"]⟩ := by
    decide
  exact absurd (h "fw-verify" _ _ hparse) (by decide)

/-! ## What else the scan may find -/

/-- Where no option has the name, no piece is spelled like it. -/
theorem not_isConfigToken_of_spells {decls : List (String × Arity)}
    (hnone : decls.lookup "config" = none) (piece : Piece) (spelled : List String)
    (hspells : Spells decls piece spelled) : ∀ token ∈ spelled, ¬ IsConfigToken token := by
  have hne : ∀ name arity, decls.lookup name = some arity → name ≠ "config" := by
    rintro name arity hdecl rfl
    rw [hnone] at hdecl
    cases hdecl
  intro token htoken
  cases hspells with
  | inline name value hfree hdecl =>
    rw [List.mem_singleton.mp htoken, isConfigToken_inline_iff hfree]
    exact hne name _ hdecl
  | separate name value hfree hdecl hplain =>
    rcases List.mem_pair.mp htoken with rfl | rfl
    · rw [isConfigToken_long_iff hfree]
      exact hne name _ hdecl
    · exact not_isConfigToken_of_plain hplain
  | flag name hfree hdecl =>
    rw [List.mem_singleton.mp htoken, isConfigToken_long_iff hfree]
    exact hne name _ hdecl

/-- Behind the subcommand, an argument that the scan reacts to is an option of `provision-rule`
or stands behind `--`. -/
theorem isConfigToken_behind {tokens : List String} {cli : Cli}
    (hparse : Cli.parse tokens = some cli) {token : String} (hmem : token ∈ cli.rest)
    (htoken : IsConfigToken token) : cli.names = ["agent", "provision-rule"] ∨ "--" ∈ cli.rest := by
  have hcommands : ∀ entry ∈ commandTable, (arities entry.2.decls).lookup "config" = none := by
    decide
  have hagents : ∀ entry ∈ agentCommandTable, entry.1 ≠ "provision-rule" →
      (arities entry.2.decls).lookup "config" = none := by
    decide
  obtain ⟨name, -, ⟨command, hcommand, hown⟩ |
    ⟨pieces, sub, agentRest, command, rfl, hnames, hagent, hcommand, hown⟩⟩ :=
    Cli.parse_eq_some hparse
  · have hnone := hcommands _ (mem_of_lookup hcommand)
    exact .inr ((Command.parse_reads hown).mem_escape (fun _ => not_isConfigToken_of_plain)
      (not_isConfigToken_of_spells hnone) hmem htoken)
  · by_cases hsub : sub = "provision-rule"
    · exact .inl (by rw [hnames, hsub])
    · have hnone := hagents _ (mem_of_lookup hcommand) hsub
      have hfront := (parseCommand_front hagent).1
      have hrest := hfront.mem_rest (fun _ => not_isConfigToken_of_plain)
        (not_isConfigToken_of_spells rfl) hmem htoken
      exact .inr (hfront.suffix.mem ((Command.parse_reads hown).mem_escape
        (fun _ => not_isConfigToken_of_plain) (not_isConfigToken_of_spells hnone) hrest htoken))

end FwVerify
