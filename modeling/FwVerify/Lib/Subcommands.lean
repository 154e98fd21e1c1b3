import FwVerify.Lib.Options

/-!
# Command lines with subcommands

A command line whose options come in front of the name of a subcommand, and whose rest is the
subcommand's own command line. No option may be repeated, every value has to read as the type of
its option, and what a command requires has to be there.

## Main definitions

* `OptionDecl`, `Command` — a declared option, and a command without subcommands
* `scanCommand` — the options in front of a subcommand, its name, and the rest
* `Spells`, `Front`, `Reads` — the tokens of a piece, of the options in front of a subcommand,
  and of a command line without subcommands

## Main results

* `scanCommand_front`, `scan_reads` — the tokens that scanning accepts
* `parseCommand_front`, `Command.parse_reads` — the tokens that reading accepts
* `OptionDecl.values_of_accepts` — an option that is accepted has at most one value
-/

set_option autoImplicit false

namespace Options

/-- A declared option: its name, what it takes, the values that read as its type, and whether it
has to be given. -/
structure OptionDecl where
  name : String
  arity : Arity
  reads : String → Bool
  required : Bool

/-- An option with a value of a type. -/
def OptionDecl.value {α : Type} (name : String) (parse : String → Option α) : OptionDecl :=
  ⟨name, .value, fun text => (parse text).isSome, false⟩

def OptionDecl.flag (name : String) : OptionDecl := ⟨name, .flag, fun _ => true, false⟩

/-- The option has to be given. -/
def OptionDecl.needed (decl : OptionDecl) : OptionDecl := { decl with required := true }

/-- What the declared options take, by name. -/
def arities (decls : List OptionDecl) : List (String × Arity) :=
  decls.map fun decl => (decl.name, decl.arity)

/-- The pieces keep to the declaration of an option. -/
def OptionDecl.accepts (decl : OptionDecl) (pieces : List Piece) : Bool :=
  decide ((values decl.name pieces).length + flagCount decl.name pieces ≤ 1) &&
    (values decl.name pieces).all decl.reads &&
    (!decl.required || !(values decl.name pieces).isEmpty)

/-- A command without subcommands: its options, and the values that read as its positional
arguments. -/
structure Command where
  decls : List OptionDecl
  positionals : List (String → Bool)

/-- Read the command line of a command; `none` is a usage error. -/
def Command.parse (command : Command) (tokens : List String) : Option (List Piece) :=
  (scan (arities command.decls) tokens).filter fun pieces =>
    command.decls.all (·.accepts pieces) &&
      decide ((Options.positionals pieces).length = command.positionals.length) &&
      (command.positionals.zip (Options.positionals pieces)).all fun (reads, value) => reads value

/-- Read the options in front of a subcommand; `none` is a usage error. -/
def scanCommand (decls : List (String × Arity)) :
    List String → Option (List Piece × String × List String)
  -- a subcommand is required
  | [] => none
  | token :: rest =>
    match longName token with
    | none => if looksLikeOption token then none else some ([], token, rest)
    -- no subcommand is recognised behind `--`
    | some [] => none
    | some body =>
      match inlineValue body with
      | some (name, value) =>
        if decls.lookup name = some .value then
          (scanCommand decls rest).map fun (pieces, found) => (.option name value :: pieces, found)
        else none
      | none =>
        match decls.lookup (String.ofList body) with
        | some .flag =>
          (scanCommand decls rest).map fun (pieces, found) =>
            (.flag (String.ofList body) :: pieces, found)
        | some .value =>
          match rest with
          | [] => none
          | value :: rest =>
            if looksLikeOption value then none
            else
              (scanCommand decls rest).map fun (pieces, found) =>
                (.option (String.ofList body) value :: pieces, found)
        | none => none

/-- Read the options in front of a subcommand of a command. -/
def parseCommand (decls : List OptionDecl) (tokens : List String) :
    Option (List Piece × String × List String) :=
  (scanCommand (arities decls) tokens).filter fun (pieces, _) => decls.all (·.accepts pieces)

/-! ## The tokens that scanning accepts -/

/-- The tokens an option or a flag is spelled with. -/
inductive Spells (decls : List (String × Arity)) : Piece → List String → Prop
  | inline (name value : String) (free : '=' ∉ name.toList)
      (decl : decls.lookup name = some .value) :
      Spells decls (.option name value) ["--" ++ name ++ "=" ++ value]
  | separate (name value : String) (free : '=' ∉ name.toList)
      (decl : decls.lookup name = some .value) (plain : looksLikeOption value = false) :
      Spells decls (.option name value) ["--" ++ name, value]
  | flag (name : String) (free : '=' ∉ name.toList) (decl : decls.lookup name = some .flag) :
      Spells decls (.flag name) ["--" ++ name]

/-- Options in front of the name of a subcommand. -/
inductive Front (decls : List (String × Arity)) :
    List String → List Piece → String → List String → Prop
  | command (name : String) (rest : List String) (plain : looksLikeOption name = false) :
      Front decls (name :: rest) [] name rest
  | piece {piece : Piece} {spelled tokens : List String} {pieces : List Piece} {name : String}
      {rest : List String} (spells : Spells decls piece spelled)
      (later : Front decls tokens pieces name rest) :
      Front decls (spelled ++ tokens) (piece :: pieces) name rest

/-- The command line of a command without subcommands. -/
inductive Reads (decls : List (String × Arity)) : List String → List Piece → Prop
  | nil : Reads decls [] []
  | positional {tokens : List String} {pieces : List Piece} (value : String)
      (plain : looksLikeOption value = false) (later : Reads decls tokens pieces) :
      Reads decls (value :: tokens) (.positional value :: pieces)
  | escape (values : List String) : Reads decls ("--" :: values) (values.map .positional)
  | piece {piece : Piece} {spelled tokens : List String} {pieces : List Piece}
      (spells : Spells decls piece spelled) (later : Reads decls tokens pieces) :
      Reads decls (spelled ++ tokens) (piece :: pieces)

theorem eq_of_longName {token : String} {name : List Char} (h : longName token = some name) :
    token = "--" ++ String.ofList name := by
  unfold longName at h
  split at h
  · next rest hchars =>
    cases h
    apply String.toList_inj.mp
    rw [String.toList_append, @String.toList_ofList name, hchars]
    rfl
  · cases h

/-- Nothing in front of the first `=` is one. -/
theorem free_of_inlineValue {body : List Char} (h : inlineValue body = none) : '=' ∉ body := by
  unfold inlineValue at h
  split at h
  · next hdrop =>
    intro hmem
    simpa using List.dropWhile_eq_nil_iff.mp hdrop '=' hmem
  · cases h

/-- An inline value stands behind the first `=`. -/
theorem eq_of_inlineValue {body : List Char} {name value : String}
    (h : inlineValue body = some (name, value)) :
    '=' ∉ name.toList ∧ String.ofList body = name ++ "=" ++ value := by
  unfold inlineValue at h
  split at h
  · cases h
  · next c rest hdrop =>
    cases h
    have hc : c = '=' := by
      have hhead := List.head?_dropWhile_not (· != '=') body
      rw [hdrop] at hhead
      simpa using hhead
    refine ⟨?_, ?_⟩
    · rw [String.toList_ofList]
      intro hmem
      simpa using List.mem_takeWhile_imp hmem
    · apply String.toList_inj.mp
      rw [String.toList_append, String.toList_append, @String.toList_ofList body,
        @String.toList_ofList (body.takeWhile _), @String.toList_ofList rest, List.append_assoc]
      conv_lhs => rw [← @List.takeWhile_append_dropWhile _ (· != '=') body, hdrop, hc]
      rfl

section Spelling

variable {decls : List (String × Arity)} {token : String} {body : List Char}

theorem spells_inline {name value : String} (hlong : longName token = some body)
    (hinline : inlineValue body = some (name, value)) (hdecl : decls.lookup name = some .value) :
    Spells decls (.option name value) [token] := by
  obtain ⟨hfree, hbody⟩ := eq_of_inlineValue hinline
  rw [eq_of_longName hlong, hbody, ← String.append_assoc, ← String.append_assoc]
  exact .inline name value hfree hdecl

theorem spells_separate {value : String} (hlong : longName token = some body)
    (hinline : inlineValue body = none)
    (hdecl : decls.lookup (String.ofList body) = some .value)
    (hplain : looksLikeOption value = false) :
    Spells decls (.option (String.ofList body) value) [token, value] := by
  rw [eq_of_longName hlong]
  refine .separate _ value ?_ hdecl hplain
  rw [String.toList_ofList]
  exact free_of_inlineValue hinline

theorem spells_flag (hlong : longName token = some body) (hinline : inlineValue body = none)
    (hdecl : decls.lookup (String.ofList body) = some .flag) :
    Spells decls (.flag (String.ofList body)) [token] := by
  rw [eq_of_longName hlong]
  refine .flag _ ?_ hdecl
  rw [String.toList_ofList]
  exact free_of_inlineValue hinline

end Spelling

theorem scanCommand_front {decls : List (String × Arity)} {tokens : List String}
    {pieces : List Piece} {name : String} {rest : List String}
    (h : scanCommand decls tokens = some (pieces, name, rest)) :
    Front decls tokens pieces name rest := by
  fun_induction scanCommand decls tokens generalizing pieces name rest with
  | case1 | case2 | case4 | case6 | case8 | case9 | case11 => cases h
  | case3 token tokens hlong hplain =>
    cases h
    exact .command _ _ (Bool.eq_false_of_not_eq_true hplain)
  | case5 token tokens body _ hlong option value hinline hdecl ih =>
    obtain ⟨⟨pieces, found⟩, hscan, ⟨⟩⟩ := Option.map_eq_some_iff.mp h
    exact .piece (spells_inline hlong hinline hdecl) (ih hscan)
  | case7 token tokens body _ hlong hinline hdecl ih =>
    obtain ⟨⟨pieces, found⟩, hscan, ⟨⟩⟩ := Option.map_eq_some_iff.mp h
    exact .piece (spells_flag hlong hinline hdecl) (ih hscan)
  | case10 token body _ hlong hinline hdecl value tokens hplain ih =>
    obtain ⟨⟨pieces, found⟩, hscan, ⟨⟩⟩ := Option.map_eq_some_iff.mp h
    exact .piece (spells_separate hlong hinline hdecl (Bool.eq_false_of_not_eq_true hplain))
      (ih hscan)

theorem scan_reads {decls : List (String × Arity)} {tokens : List String} {pieces : List Piece}
    (h : scan decls tokens = some pieces) : Reads decls tokens pieces := by
  fun_induction scan decls tokens generalizing pieces with
  | case1 =>
    cases h
    exact .nil
  | case2 | case6 | case8 | case9 | case11 => cases h
  | case3 token tokens hlong hplain ih =>
    obtain ⟨pieces, hscan, rfl⟩ := Option.map_eq_some_iff.mp h
    exact .positional token (Bool.eq_false_of_not_eq_true hplain) (ih hscan)
  | case4 token tokens hlong =>
    cases h
    rw [eq_of_longName hlong]
    exact .escape tokens
  | case5 token tokens body _ hlong option value hinline hdecl ih =>
    obtain ⟨pieces, hscan, rfl⟩ := Option.map_eq_some_iff.mp h
    exact .piece (spells_inline hlong hinline hdecl) (ih hscan)
  | case7 token tokens body _ hlong hinline hdecl ih =>
    obtain ⟨pieces, hscan, rfl⟩ := Option.map_eq_some_iff.mp h
    exact .piece (spells_flag hlong hinline hdecl) (ih hscan)
  | case10 token body _ hlong hinline hdecl value tokens hplain ih =>
    obtain ⟨pieces, hscan, rfl⟩ := Option.map_eq_some_iff.mp h
    exact .piece (spells_separate hlong hinline hdecl (Bool.eq_false_of_not_eq_true hplain))
      (ih hscan)

theorem parseCommand_front {decls : List OptionDecl} {tokens : List String}
    {pieces : List Piece} {name : String} {rest : List String}
    (h : parseCommand decls tokens = some (pieces, name, rest)) :
    Front (arities decls) tokens pieces name rest ∧
      ∀ decl ∈ decls, decl.accepts pieces = true := by
  obtain ⟨hscan, haccepts⟩ := Option.filter_eq_some_iff.mp h
  exact ⟨scanCommand_front hscan, List.all_eq_true.mp haccepts⟩

theorem Command.parse_reads {command : Command} {tokens : List String} {pieces : List Piece}
    (h : command.parse tokens = some pieces) : Reads (arities command.decls) tokens pieces :=
  scan_reads (Option.filter_eq_some_iff.mp h).1

/-- An option that is accepted has at most one value. -/
theorem OptionDecl.values_of_accepts {decl : OptionDecl} {pieces : List Piece}
    (h : decl.accepts pieces = true) : (values decl.name pieces).length ≤ 1 := by
  rw [accepts, Bool.and_eq_true, Bool.and_eq_true, decide_eq_true_iff] at h
  omega

section Single

variable {α : Type} {xs : List α}

theorem getLast?_eq_head? (h : xs.length ≤ 1) : xs.getLast? = xs.head? := by
  rcases Nat.le_one_iff_eq_zero_or_eq_one.mp h with hnone | hone
  · rw [List.length_eq_zero_iff.mp hnone]
    rfl
  · obtain ⟨x, rfl⟩ := List.length_eq_one_iff.mp hone
    rfl

theorem head?_eq_some_iff_mem (h : xs.length ≤ 1) {x : α} : xs.head? = some x ↔ x ∈ xs := by
  rcases Nat.le_one_iff_eq_zero_or_eq_one.mp h with hnone | hone
  · rw [List.length_eq_zero_iff.mp hnone]
    exact iff_of_false (Option.some_ne_none x).symm List.not_mem_nil
  · obtain ⟨y, rfl⟩ := List.length_eq_one_iff.mp hone
    rw [List.head?_cons, Option.some_inj, List.mem_singleton, eq_comm]

end Single

theorem mem_values_iff {name value : String} {pieces : List Piece} :
    value ∈ values name pieces ↔ .option name value ∈ pieces := by
  rw [values, List.mem_filterMap]
  constructor
  · rintro ⟨piece, hpiece, hvalue⟩
    cases piece with
    | option name' value' =>
      obtain ⟨rfl, rfl⟩ : name' = name ∧ value' = value := by simpa using hvalue
      exact hpiece
    | positional _ => cases hvalue
    | flag _ => cases hvalue
  · exact fun h => ⟨_, h, if_pos rfl⟩

/-! ## Tokens of one kind -/

section Tokens

variable {decls : List (String × Arity)} {p : String → Prop}

/-- What stands behind the name of a subcommand is an end of the whole. -/
theorem Front.suffix {tokens rest : List String} {pieces : List Piece} {name : String}
    (h : Front decls tokens pieces name rest) : rest <:+ tokens := by
  induction h with
  | command name rest _ => exact List.suffix_cons name rest
  | piece _ _ ih => exact ih.trans (List.suffix_append _ _)

/-- A token no piece is spelled with stands behind the name of the subcommand. -/
theorem Front.mem_rest (hplain : ∀ token, looksLikeOption token = false → ¬ p token)
    (hspells : ∀ piece spelled, Spells decls piece spelled → ∀ token ∈ spelled, ¬ p token)
    {tokens rest : List String} {pieces : List Piece} {name : String}
    (h : Front decls tokens pieces name rest) {token : String} (htoken : token ∈ tokens)
    (hp : p token) : token ∈ rest := by
  induction h with
  | command name rest hname =>
    rcases List.mem_cons.mp htoken with rfl | htoken
    · exact absurd hp (hplain _ hname)
    · exact htoken
  | piece spells _ ih =>
    rcases List.mem_append.mp htoken with htoken | htoken
    · exact absurd hp (hspells _ _ spells token htoken)
    · exact ih htoken

/-- A token no piece is spelled with stands behind `--`. -/
theorem Reads.mem_escape (hplain : ∀ token, looksLikeOption token = false → ¬ p token)
    (hspells : ∀ piece spelled, Spells decls piece spelled → ∀ token ∈ spelled, ¬ p token)
    {tokens : List String} {pieces : List Piece} (h : Reads decls tokens pieces) {token : String}
    (htoken : token ∈ tokens) (hp : p token) : "--" ∈ tokens := by
  induction h with
  | nil => cases htoken
  | positional value hvalue _ ih =>
    rcases List.mem_cons.mp htoken with rfl | htoken
    · exact absurd hp (hplain _ hvalue)
    · exact List.mem_cons_of_mem _ (ih htoken)
  | escape values => exact List.mem_cons_self
  | piece spells _ ih =>
    rcases List.mem_append.mp htoken with htoken | htoken
    · exact absurd hp (hspells _ _ spells token htoken)
    · exact List.mem_append_right _ (ih htoken)

end Tokens

/-! ## Rendered command lines -/

section Rendered

variable {α : Type} {parse : String → Option α} {name value : String} {pieces : List Piece}

/-- An option with at most one value, which reads. -/
theorem OptionDecl.accepts_value {o : Option String} (hvalues : values name pieces = o.toList)
    (hflags : flagCount name pieces = 0) (hreads : ∀ v, o = some v → (parse v).isSome = true) :
    (OptionDecl.value name parse).accepts pieces = true := by
  cases o with
  | none => simp [accepts, OptionDecl.value, hvalues, hflags]
  | some v => simp [accepts, OptionDecl.value, hvalues, hflags, hreads v rfl]

/-- An option that has to be given, and is given once. -/
theorem OptionDecl.accepts_needed (hvalues : values name pieces = [value])
    (hflags : flagCount name pieces = 0) (hreads : (parse value).isSome = true) :
    (OptionDecl.value name parse).needed.accepts pieces = true := by
  simp [accepts, needed, OptionDecl.value, hvalues, hflags, hreads]

theorem OptionDecl.accepts_flag (hvalues : values name pieces = [])
    (hflags : flagCount name pieces ≤ 1) : (OptionDecl.flag name).accepts pieces = true := by
  simp [accepts, OptionDecl.flag, hvalues, hflags]

/-- A command line of pieces that keep to the declarations reads as these pieces. -/
theorem Command.parse_render {command : Command}
    (hrender : ∀ piece ∈ pieces, piece.Renderable (arities command.decls))
    (haccepts : ∀ decl ∈ command.decls, decl.accepts pieces = true)
    (hlength : (Options.positionals pieces).length = command.positionals.length)
    (hreads : ∀ entry ∈ command.positionals.zip (Options.positionals pieces),
      entry.1 entry.2 = true) :
    command.parse (pieces.flatMap Piece.render) = some pieces := by
  rw [Command.parse, scan_render hrender, Option.filter_some, if_pos]
  rw [Bool.and_eq_true, Bool.and_eq_true, List.all_eq_true, List.all_eq_true,
    decide_eq_true_iff]
  exact ⟨⟨haccepts, hlength⟩, hreads⟩

end Rendered

end Options
