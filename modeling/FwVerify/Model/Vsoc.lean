import FwVerify.Model.Endpoints
import FwVerify.Model.JsonPrint

/-!
# The VSOC client

In host mode rules are upserted into VSOC, by way of the system's `curl`. How `curl` ends, and what
it prints, comes from the machine; every attempt to start it is recorded.

## Main definitions

* `VsocApi.baseArgs`, `runCurl` — the arguments of every request, and a request
* `upsertRule` — upsert the content of a rule
* `askEvents` — whether a stored event mentions a text
-/

set_option autoImplicit false

namespace FwVerify

open Fallible Text

/-- The API of a configuration. -/
def RunConfig.api (cfg : RunConfig) : Except String VsocApi :=
  match cfg.vsoc with
  | some vsoc => .ok vsoc
  | none => .error "VSOC API is not configured (host mode requires --vsoc-url)"

/-- An option of `curl` that may be missing. -/
def curlOption (name : String) : Option String → List String
  | some value => [name, value]
  | none => []

/-- Arguments of every request: silent, never by way of a proxy, and with the client certificate
when there is one. -/
def VsocApi.baseArgs (vsoc : VsocApi) : List String :=
  ["-sS", "--noproxy", "*", "-k", "--max-time", "20"] ++ curlOption "--cert" vsoc.cert ++
    curlOption "--key" vsoc.key ++ curlOption "--cacert" vsoc.cacert

/-- The address of an API path. -/
def VsocApi.url (vsoc : VsocApi) (path : String) : String :=
  String.ofList (vsoc.baseUrl.toList.rdropWhile (· == '/')) ++ path

def runCurl (host : Host) (args : List String) : SpawnM String := do
  let spawned := "failed to spawn curl (host-mode VSOC client)"
  match ← host.make ("curl" :: args) with
  | .error error => throw s!"{spawned}: {error.text}"
  | .ok child =>
    let output ← check (Fallible.context spawned child)
    if output.code ≠ 0 then throw s!"curl failed: {trim output.stderr}"
    return output.stdout

/-- What is put for a rule. -/
def upsertBody (content : String) : Value :=
  .object [("content", .string content), ("enabled", .bool true)]

def upsertArgs (body url : String) : List String :=
  ["-X", "PUT", "-H", "Content-Type: application/json", "-d", body, url]

/-- What VSOC answers to an upsert: the version, or why there is none. -/
def upsertAnswer (json : JsonParser) (acd fun_ : Int32) (stdout : String) : Except String Int64 := do
  let stdout := trim stdout
  let value ← Fallible.context s!"VSOC upsert did not return JSON: {stdout}" (json.fromStr stdout)
  if let some detail := (value.get "detail").bind Value.asStr then
    throw s!"VSOC rejected rule (acd={acd.toInt} fun={fun_.toInt}): {detail}"
  match (value.get "ver").bind Value.asI64 with
  | some ver => return ver
  | none => throw "VSOC upsert response missing ver"

/-- Upsert a rule's raw content. Returns the new version. -/
def upsertRule (host : Host) (json : JsonParser) (cfg : RunConfig) (fun_ : Int32)
    (content : String) : SpawnM Int64 := do
  let vsoc ← check cfg.api
  let url := vsoc.url s!"/api/rules/{cfg.acd.toInt}/{fun_.toInt}"
  let stdout ← runCurl host (vsoc.baseArgs ++ upsertArgs (upsertBody content).compact url)
  check (upsertAnswer json cfg.acd fun_ stdout)

/-- Whether any stored event mentions a text. -/
def askEvents (host : Host) (cfg : RunConfig) (needle : String) : SpawnM Bool := do
  let vsoc ← check cfg.api
  let stdout ← runCurl host (vsoc.baseArgs ++ [vsoc.url "/api/events?limit=100"])
  return contains stdout needle

end FwVerify
