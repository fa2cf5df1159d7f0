import ProxyTrial.Origin.Conversation
import ProxyTrial.Schema.Scalar
/-!
# Configuration of a run

A configuration says which proxy is under test: one to be started, one that
runs already, or none, in which case clients talk to the origin itself.  It is
checked as data, where a field may have two spellings, with hyphens or with
underscores; no other fields are allowed.

## Main definitions

* `ProxyConfig`, `RunConfig`: the configuration
* `Schema.proxyConfig`, `Schema.runConfig`: the configuration that data makes
-/

namespace ProxyTrial

/-- How to start a proxy. -/
structure ProxyConfig where
  /-- The command with its arguments; it is not empty. -/
  command : List String
  /-- The files to be written beforehand: names and contents. -/
  files : List (String × String) := []
  /-- The port of the proxy; zero stands for any. -/
  port : Int := 0
  /-- The path that tells whether the proxy is ready. -/
  readyPath : String := Origin.healthPath
  /-- Whether the files are kept after the run. -/
  keepFiles : Bool := false

/-- The configuration of a run. -/
structure RunConfig where
  proxy : Option ProxyConfig := none
  /-- The address of a proxy that runs already. -/
  proxyAddress : Option String := none
  /-- The port of the origin; zero stands for any. -/
  originPort : Int := 0
  /-- Seconds within which a request has to be answered. -/
  requestTimeout : Float := 10.0
  /-- Seconds within which a proxy has to be ready. -/
  readyTimeout : Float := 30.0

namespace Schema

open Checked

/-- The spelling of a field that data uses: the first of two, if it is there. -/
def spelling (first second : String) (es : List (Value × Value)) : String :=
  if (Value.entry? first es).isNone && (Value.entry? second es).isSome then second else first

/-- A field with two spellings and a default.  A complaint always names the
first spelling. -/
def spelled {α : Type} (first second : String) (form : Value → Checked α) (default : α)
    (es : List (Value × Value)) : Checked α :=
  match Value.entry? (spelling first second es) es with
  | some v => (form v).under (.name first)
  | none => .ok default

/-- Complains about every key that is none of those known. -/
def only (known : List String) (es : List (Value × Value)) : Checked Unit :=
  (all (es.map fun (k, v) =>
    match k with
    | .text s => if known.contains s then .ok () else (refuse .unknownField v).under (.name s)
    | k => (refuse .keyNotText k).under (stepOf k))).map fun _ => ()

/-- A list that is not empty. -/
def nonEmpty {α : Type} (form : Value → Checked α) (v : Value) : Checked (List α) := do
  match ← list form v with
  | [] => refuse .tooShort v
  | xs => return xs

/-- The configuration of a proxy as data. -/
def proxyConfig (v : Value) : Checked ProxyConfig := do
  let es ← entries "ProxyConfig" v
  let known := ["command", "files", "port", spelling "ready-path" "ready_path" es,
    spelling "keep-tmpdir" "keep_tmpdir" es]
  let (command, files, port, readyPath, keepFiles, _) ←
    both (required "command" (nonEmpty text) es) <|
    both (defaulted "files" textMap [] es) <|
    both (defaulted "port" integer 0 es) <|
    both (spelled "ready-path" "ready_path" text Origin.healthPath es) <|
    both (spelled "keep-tmpdir" "keep_tmpdir" boolean false es) (only known es)
  return { command, files, port, readyPath, keepFiles }

/-- The configuration of a run as data. -/
def runConfig (v : Value) : Checked RunConfig := do
  let es ← entries "RunnerConfig" v
  let known := ["proxy", spelling "proxy-address" "proxy_address" es,
    spelling "origin-port" "origin_port" es, spelling "request-timeout" "request_timeout" es,
    spelling "ready-timeout" "ready_timeout" es]
  let (proxy, proxyAddress, originPort, requestTimeout, readyTimeout, _) ←
    both (defaulted "proxy" (optional proxyConfig) none es) <|
    both (spelled "proxy-address" "proxy_address" (optional text) none es) <|
    both (spelled "origin-port" "origin_port" integer 0 es) <|
    both (spelled "request-timeout" "request_timeout" positive 10.0 es) <|
    both (spelled "ready-timeout" "ready_timeout" positive 30.0 es) (only known es)
  if proxy.isSome && proxyAddress.isSome then
    refuse (.broken "'proxy' and 'proxy-address' are mutually exclusive") v
  else return { proxy, proxyAddress, originPort, requestTimeout, readyTimeout }

end Schema

end ProxyTrial
