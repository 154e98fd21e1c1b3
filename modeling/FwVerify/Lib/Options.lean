import FwVerify.Lib.Lookups
import Mathlib.Data.List.TakeWhile
import Mathlib.Data.String.Basic

/-!
# Command lines of long options

A command line of positional values, long options that take a value (`--name value` or
`--name=value`) and flags (`--name`), as a declarative option parser reads it: the token
after an option that takes a value is that value unless it looks like an option itself,
`--` ends the options, and a token that fits no declaration is an error.

## Main definitions

* `Piece` — a positional value, an option with its value, or a flag
* `scan` — the pieces of a list of tokens under a table of declared options
* `optValue`, `flagSet`, `positionals` — reading scanned pieces, a repeated option being
  an error

## Main results

* `scan_render` — scanning undoes rendering
-/

set_option autoImplicit false

namespace Options

/-- What a declared option takes. -/
inductive Arity
  | value
  | flag
  deriving DecidableEq, Repr

/-- A piece of a command line. -/
inductive Piece
  | positional (value : String)
  | option (name value : String)
  | flag (name : String)
  deriving DecidableEq, Repr

/-- The tokens of a piece. -/
def Piece.render : Piece → List String
  | .positional value => [value]
  | .option name value => ["--" ++ name, value]
  | .flag name => ["--" ++ name]

/-- A token that cannot be a value: it starts with a hyphen and is not a lone hyphen. -/
def looksLikeOption (token : String) : Bool :=
  token.toList.head? == some '-' && token.toList != ['-']

/-- The rest of a token that starts with two hyphens. -/
def longName (token : String) : Option (List Char) :=
  match token.toList with
  | '-' :: '-' :: name => some name
  | _ => none

/-- Split a long token's body at `=` into a name and an inline value. -/
def inlineValue (body : List Char) : Option (String × String) :=
  match body.dropWhile (· != '=') with
  | [] => none
  | _ :: value => some (String.ofList (body.takeWhile (· != '=')), String.ofList value)

/-- Read tokens as pieces under the declared options; `none` is a usage error. -/
def scan (decls : List (String × Arity)) : List String → Option (List Piece)
  | [] => some []
  | token :: rest =>
    match longName token with
    | none =>
      if looksLikeOption token then none
      else (scan decls rest).map (.positional token :: ·)
    -- `--` ends the options
    | some [] => some (rest.map .positional)
    | some body =>
      match inlineValue body with
      -- `--name=value`: the value may look like an option
      | some (name, value) =>
        if decls.lookup name = some .value then (scan decls rest).map (.option name value :: ·)
        else none
      | none =>
        match decls.lookup (String.ofList body) with
        | some .flag => (scan decls rest).map (.flag (String.ofList body) :: ·)
        -- `--name value`: the value is the next token
        | some .value =>
          match rest with
          | [] => none
          | value :: rest =>
            if looksLikeOption value then none
            else (scan decls rest).map (.option (String.ofList body) value :: ·)
        | none => none

/-! ## Reading pieces -/

/-- The values an option is given, in order. -/
def values (name : String) (pieces : List Piece) : List String :=
  pieces.filterMap fun piece => match piece with
    | .option n value => if n = name then some value else none
    | _ => none

/-- The positional values, in order. -/
def positionals (pieces : List Piece) : List String :=
  pieces.filterMap fun piece => match piece with
    | .positional value => some value
    | _ => none

/-- How often a flag is given. -/
def flagCount (name : String) (pieces : List Piece) : Nat :=
  pieces.countP (· == .flag name)

/-- The value of an option that may be given once; `none` when it is repeated. -/
def optValue (name : String) (pieces : List Piece) : Option (Option String) :=
  match values name pieces with
  | [] => some none
  | [value] => some (some value)
  | _ => none

/-- Whether a flag that may be given once is set; `none` when it is repeated. -/
def flagSet (name : String) (pieces : List Piece) : Option Bool :=
  match flagCount name pieces with
  | 0 => some false
  | 1 => some true
  | _ => none

/-! ## Optional pieces -/

/-- The option is present when it has a value. -/
def optPiece (name : String) : Option String → List Piece
  | none => []
  | some value => [.option name value]

/-- The flag is present when it is set. -/
def flagPiece (name : String) (set : Bool) : List Piece :=
  if set then [.flag name] else []

section Reading

variable (name name' : String) (value : String) (pieces pieces' : List Piece)

@[simp] theorem values_append :
    values name (pieces ++ pieces') = values name pieces ++ values name pieces' :=
  List.filterMap_append

@[simp] theorem positionals_append :
    positionals (pieces ++ pieces') = positionals pieces ++ positionals pieces' :=
  List.filterMap_append

@[simp] theorem flagCount_append :
    flagCount name (pieces ++ pieces') = flagCount name pieces + flagCount name pieces' :=
  List.countP_append

@[simp] theorem values_nil : values name [] = [] := rfl

@[simp] theorem values_positional :
    values name (.positional value :: pieces) = values name pieces := rfl

@[simp] theorem flagCount_positional :
    flagCount name (.positional value :: pieces) = flagCount name pieces := by
  simp [flagCount]

@[simp] theorem positionals_nil : positionals [] = [] := rfl

@[simp] theorem positionals_positional :
    positionals (.positional value :: pieces) = value :: positionals pieces := rfl

@[simp] theorem values_optPiece (o : Option String) :
    values name (optPiece name' o) = if name' = name then o.toList else [] := by
  cases o with
  | none => simp [optPiece, values]
  | some v => by_cases h : name' = name <;> simp [optPiece, values, h]

@[simp] theorem flagCount_optPiece (o : Option String) :
    flagCount name (optPiece name' o) = 0 := by
  cases o <;> simp [optPiece, flagCount]

@[simp] theorem positionals_optPiece (o : Option String) :
    positionals (optPiece name' o) = [] := by
  cases o <;> rfl

@[simp] theorem values_flagPiece (set : Bool) : values name (flagPiece name' set) = [] := by
  cases set <;> rfl

@[simp] theorem flagCount_flagPiece (set : Bool) :
    flagCount name (flagPiece name' set) = if name' = name ∧ set = true then 1 else 0 := by
  cases set <;> by_cases h : name' = name <;> simp [flagPiece, flagCount, h]

@[simp] theorem positionals_flagPiece (set : Bool) :
    positionals (flagPiece name' set) = [] := by
  cases set <;> rfl

end Reading

/-- An option given at most once has the value it was rendered with. -/
theorem optValue_of_values {name : String} {pieces : List Piece} {o : Option String}
    (h : values name pieces = o.toList) : optValue name pieces = some o := by
  cases o <;> simp_all [optValue]

theorem flagSet_of_count {name : String} {pieces : List Piece} {set : Bool}
    (h : flagCount name pieces = if set = true then 1 else 0) :
    flagSet name pieces = some set := by
  cases set <;> simp_all [flagSet]

/-! ## Scanning undoes rendering -/

/-- A piece that the declarations allow and whose tokens read back as that piece. -/
def Piece.Renderable (decls : List (String × Arity)) : Piece → Prop
  | .positional value => looksLikeOption value = false
  | .option name value =>
    name ≠ "" ∧ '=' ∉ name.toList ∧ decls.lookup name = some .value ∧
      looksLikeOption value = false
  | .flag name => name ≠ "" ∧ '=' ∉ name.toList ∧ decls.lookup name = some .flag

@[simp] theorem longName_append (name : String) : longName ("--" ++ name) = some name.toList := by
  have hchars : ("--" ++ name).toList = '-' :: '-' :: name.toList := by
    rw [String.toList_append]
    rfl
  rw [longName, hchars]
  rfl

theorem longName_eq_none {token : String} (h : looksLikeOption token = false) :
    longName token = none := by
  unfold longName
  split
  · next name heq => simp [looksLikeOption, heq] at h
  · rfl

theorem inlineValue_eq_none {body : List Char} (h : '=' ∉ body) : inlineValue body = none := by
  have hall : ∀ c ∈ body, (c != '=') = true := by
    intro c hc
    simpa using fun heq : c = '=' => h (heq ▸ hc)
  rw [inlineValue, List.dropWhile_eq_nil_iff.mpr hall]

/-- A value without a hyphen does not look like an option. -/
theorem looksLikeOption_eq_false {token : String} (h : '-' ∉ token.toList) :
    looksLikeOption token = false := by
  cases hchars : token.toList with
  | nil => simp [looksLikeOption, hchars]
  | cons c cs =>
    have hc : c ≠ '-' := fun heq => h (by simp [hchars, heq])
    simp [looksLikeOption, hchars, hc]

/-- Names that an option can be declared under. -/
def WellNamed (decls : List (String × Arity)) : Prop :=
  ∀ decl ∈ decls, decl.1 ≠ "" ∧ '=' ∉ decl.1.toList

theorem WellNamed.of_lookup {decls : List (String × Arity)} {name : String} {arity : Arity}
    (h : WellNamed decls) (hdecl : decls.lookup name = some arity) :
    name ≠ "" ∧ '=' ∉ name.toList :=
  h (name, arity) (Lookups.mem_of_lookup hdecl)

theorem renderable_optPiece {decls : List (String × Arity)} {name : String}
    {o : Option String} (hnames : WellNamed decls) (hdecl : decls.lookup name = some .value)
    (hvalue : ∀ value, o = some value → '-' ∉ value.toList) :
    ∀ piece ∈ optPiece name o, piece.Renderable decls := by
  intro piece hpiece
  cases o with
  | none => simp [optPiece] at hpiece
  | some value =>
    obtain rfl : piece = .option name value := by simpa [optPiece] using hpiece
    obtain ⟨hne, hfree⟩ := hnames.of_lookup hdecl
    exact ⟨hne, hfree, hdecl, looksLikeOption_eq_false (hvalue value rfl)⟩

theorem renderable_flagPiece {decls : List (String × Arity)} {name : String} {set : Bool}
    (hnames : WellNamed decls) (hdecl : decls.lookup name = some .flag) :
    ∀ piece ∈ flagPiece name set, piece.Renderable decls := by
  intro piece hpiece
  cases set with
  | false => simp [flagPiece] at hpiece
  | true =>
    obtain rfl : piece = .flag name := by simpa [flagPiece] using hpiece
    obtain ⟨hne, hfree⟩ := hnames.of_lookup hdecl
    exact ⟨hne, hfree, hdecl⟩

section Scan

variable {decls : List (String × Arity)} {rest : List String}

theorem scan_positional {value : String} (h : looksLikeOption value = false) :
    scan decls (value :: rest) = (scan decls rest).map (.positional value :: ·) := by
  rw [scan, longName_eq_none h]
  simp [h]

/-- A declared name is read as written: its token has no inline value. -/
theorem scan_long {name : String} (hne : name ≠ "") (hfree : '=' ∉ name.toList) :
    scan decls (("--" ++ name) :: rest) =
      match decls.lookup name with
      | some .flag => (scan decls rest).map (.flag name :: ·)
      | some .value =>
        match rest with
        | [] => none
        | value :: rest =>
          if looksLikeOption value then none
          else (scan decls rest).map (.option name value :: ·)
      | none => none := by
  rw [scan, longName_append]
  -- the token is a long one, and its body is the name
  split
  · next heq => simp at heq
  · next heq => exact absurd (by simpa using heq) hne
  · next body _ heq =>
    obtain rfl : name.toList = body := by simpa using heq
    rw [inlineValue_eq_none hfree, String.ofList_toList]

theorem scan_piece {piece : Piece} (h : piece.Renderable decls) :
    scan decls (piece.render ++ rest) = (scan decls rest).map (piece :: ·) := by
  cases piece with
  | positional value => exact scan_positional h
  | option name value =>
    obtain ⟨hne, hfree, hdecl, hvalue⟩ := h
    change scan decls (("--" ++ name) :: value :: rest) = _
    rw [scan_long hne hfree, hdecl]
    simp [hvalue]
  | flag name =>
    obtain ⟨hne, hfree, hdecl⟩ := h
    change scan decls (("--" ++ name) :: rest) = _
    rw [scan_long hne hfree, hdecl]

end Scan

/-- **Round trip.** The tokens of renderable pieces scan back to the same pieces. -/
theorem scan_render {decls : List (String × Arity)} {pieces : List Piece}
    (h : ∀ piece ∈ pieces, piece.Renderable decls) :
    scan decls (pieces.flatMap Piece.render) = some pieces := by
  induction pieces with
  | nil => rfl
  | cons piece pieces ih =>
    rw [List.flatMap_cons, scan_piece (h piece List.mem_cons_self),
      ih fun p hp => h p (List.mem_cons_of_mem _ hp)]
    rfl

end Options
