import FwVerify.Lib.Fallible
import FwVerify.Lib.Lines
import FwVerify.Model.JsonText

/-!
# The output of a program

What the orchestrator makes of the output of a program it ran on one of the two sides: the
snapshots of idps-fw and the documents of the workers. How the program ends is given from outside.

## Main definitions

* `parseJson` — the document in an output
* `shellJson`, `agentJson` — the document of a shell command and of a worker
-/

set_option autoImplicit false

namespace FwVerify

open Text

/-- The lines the search for a document stops at. -/
def looksLikeJson (line : String) : Bool :=
  line.toList.head? = some '\x7b' || line.toList.head? = some '['

/-- Parse JSON from command output: the whole buffer, else the last line that looks like JSON. -/
def parseJson (json : JsonParser) (stdout : String) : Except String Value :=
  match json.fromStr (trim stdout) with
  | .ok value => .ok value
  | .error _ =>
    match ((lines stdout).reverse.map trim).find? looksLikeJson with
    | none => .error "no JSON object found in output"
    -- an earlier line is not tried when this one is no document
    | some last => Fallible.context "failed to parse JSON output" (json.fromStr last)

/-- How a program ended, and what it printed. -/
structure ProgramOutput where
  code : Int32
  stdout : String
  stderr : String

/-- The document a program printed, whatever it ended with. -/
def outputJson (json : JsonParser) (what : String) (ran : Except String ProgramOutput) :
    Except String Value := do
  let out ← ran
  let printed := s!"stdout: {trim out.stdout}, stderr: {trim out.stderr}"
  Fallible.context s!"`{what}` did not return JSON ({printed})" (parseJson json out.stdout)

/-- Run a shell snippet and parse its output. -/
def shellJson (json : JsonParser) (cmd : String) (ran : Except String ProgramOutput) :
    Except String Value :=
  outputJson json cmd ran

/-- Run a worker and parse its output. -/
def agentJson (json : JsonParser) (args : List String) (ran : Except String ProgramOutput) :
    Except String Value :=
  let joined := " ".intercalate args
  outputJson json s!"agent {joined}" ran

/-- A document is what was parsed from the output. -/
theorem outputJson_ok_iff {json : JsonParser} {what : String} {ran : Except String ProgramOutput}
    {value : Value} :
    outputJson json what ran = .ok value ↔
      ∃ out, ran = .ok out ∧ parseJson json out.stdout = .ok value := by
  constructor
  · intro hok
    cases ran with
    | error error => cases hok
    | ok out => exact ⟨out, rfl, Fallible.context_eq_ok.mp hok⟩
  · rintro ⟨out, rfl, hparse⟩
    exact Fallible.context_eq_ok.mpr hparse

end FwVerify
