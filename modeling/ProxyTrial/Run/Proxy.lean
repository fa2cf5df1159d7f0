import ProxyTrial.Config
import ProxyTrial.Run.Wait
/-!
# The proxy under test

A proxy is started from a directory of its own, the run root: the configured
files are written there, the command is spawned, and the proxy counts as ready
when a request through it is answered.  Texts of the configuration may hold
placeholders for the run root and the ports.

## Main definitions

* `Proxy.render`: a text with its placeholders filled in
* `Proxy.start`, `Proxy.stop`, `Proxy.cleanup`
-/

namespace ProxyTrial

/-- Why a proxy is not up. -/
inductive ProxyError where
  /-- There is no directory to start from. -/
  | noRoot (reason : String)
  | cannotWrite (target : Path) (error : FileError)
  /-- The log file of the process cannot be opened. -/
  | cannotLog (command : String) (error : FileError)
  | noProgram (command : String)
  /-- An argument of the command has a null character in it. -/
  | nullArgument
  | unexpectedStatus (url : String) (status : Int)
  | exited (url : String)
  | timedOut (timeout : Float) (url : String)
  /-- The proxy cannot be asked whether it is ready. -/
  | unreachable (error : ExchangeError)

/-- The wording of an error. -/
def ProxyError.message : ProxyError → String
  | noRoot reason => reason
  | cannotWrite target error =>
    if error.isRefusal then "Cannot write proxy file '" ++ target.shown ++ "': " ++ error.message
    else error.message
  | cannotLog command error => "Cannot start proxy '" ++ command ++ "': " ++ error.message
  | noProgram command =>
    "Cannot start proxy '" ++ command ++ "': " ++ FileFault.notFound.reason ++ ": "
      ++ Text.quoted command
  | nullArgument => "embedded null byte"
  | unexpectedStatus url status =>
    "Unexpected status code received from url " ++ url ++ s!": {status}"
  | exited url => "Process exited while waiting for " ++ url
  | timedOut timeout url =>
    "Timed out after " ++ Decimal.shown timeout ++ "s waiting for " ++ url
  | unreachable error => error.message

/-- Whether an error is a finding about the proxy, and not a breakdown. -/
def ProxyError.isFinding : ProxyError → Bool
  | cannotWrite _ error => error.isRefusal
  | noRoot _ | nullArgument | unreachable _ => false
  | _ => true

/-- The last command that was to be spawned, and its directory. -/
structure SpawnAttempt where
  command : List String
  directory : Path
  deriving DecidableEq, Repr

/-- A proxy under test. -/
structure Proxy where
  config : ProxyConfig
  originPort : Int
  readyTimeout : Float := 30.0
  /-- The port that it gets when it asks for any. -/
  free : FreePort := ⟨41000, by decide⟩
  /-- The process, if one has been spawned and not been stopped. -/
  process : Option Nat := none
  /-- The run root, if there is one. -/
  root : Option Path := none
  attempt : Option SpawnAttempt := none

namespace Proxy

/-- The port of the proxy. -/
def port (p : Proxy) : Int := if p.config.port = 0 then p.free.number else p.config.port

/-- The address of the proxy. -/
def address (p : Proxy) : String := s!"127.0.0.1:{p.port}"

/-- Characters with every occurrence of `old` replaced, from the left;
`skip` characters belong to the occurrence before. -/
def replaceFrom (old new : List Char) : (skip : Nat) → List Char → List Char
  | _, [] => []
  | skip + 1, _ :: cs => replaceFrom old new skip cs
  | 0, c :: cs =>
    if old.isPrefixOf (c :: cs) then new ++ replaceFrom old new (old.length - 1) cs
    else c :: replaceFrom old new 0 cs

/-- A placeholder in a text. -/
def placeholder (name : String) : List Char := '\x7b' :: name.toList ++ ['\x7d']

/-- The placeholders with what they stand for. -/
def placeholders (p : Proxy) : List (String × String) := [
  ("tmpdir", (p.root.map Path.shown).getD "None"),
  ("proxy_port", toString p.port),
  ("origin_port", toString p.originPort)]

/-- A text with its placeholders filled in, one kind after the other. -/
def render (p : Proxy) (template : String) : String :=
  String.ofList <| p.placeholders.foldl
    (fun cs (name, value) => replaceFrom (placeholder name) value.toList 0 cs) template.toList

/-- Where run roots are made. -/
def temporary : Location := ["tmp"]

/-- The name of the run root after a number of others. -/
def rootName (n : Nat) : String :=
  "htc-runroot-" ++ String.ofList (List.replicate (8 - (toString n).length) '0') ++ toString n

/-- Makes a run root. -/
def makeRoot (m : Machine) : Path × Machine :=
  let loc := temporary ++ [rootName m.roots.length]
  let root : Path := ⟨"/", loc⟩
  (root, { m with
    roots := m.roots ++ [root]
    files := (m.files.put temporary .directory).put loc .directory })

/-- Writes a file below the run root. -/
def writeFile (p : Proxy) (root : Path) (fs : FileSystem) (file : String × String) :
    Except ProxyError FileSystem :=
  let target := root.join (Path.ofText (p.render file.1))
  (do
    let fs ← fs.makeDirectories target.parent
    fs.write target (Text.utf8 (p.render file.2))).mapError (.cannotWrite target)

/-- Writes files in order; those before the first that fails stay. -/
def writeFiles (p : Proxy) (root : Path) (fs : FileSystem) :
    List (String × String) → Except ProxyError Unit × FileSystem
  | [] => (.ok (), fs)
  | file :: files =>
    match p.writeFile root fs file with
    | .ok fs => writeFiles p root fs files
    | .error e => (.error e, fs)

/-- The log file of the process. -/
def logFile (root : Path) : Path := root.join ⟨"", ["proxy.log"]⟩

/-- Spawns the command in the run root. -/
def spawn (p : Proxy) (root : Path) (m : Machine) : Except ProxyError Unit × Proxy × Machine :=
  let command := p.config.command.map p.render
  let program := command.headD ""
  match m.files.write (logFile root) [] with
  | .error e => (.error (.cannotLog program e), p, m)
  | .ok files =>
    let p := { p with attempt := some ⟨command, root⟩ }
    match { m with files }.spawn command p.port with
    | (.error .noProgram, m) => (.error (.noProgram program), p, m)
    | (.error .nullCharacter, m) => (.error .nullArgument, p, m)
    | (.ok process, m) => (.ok (), { p with process := some process }, m)

/-- The pause between two requests to a proxy that is not ready yet. -/
def pause : Float := 0.2

/-- Waits until the proxy answers. -/
def awaitReady (p : Proxy) (m : Machine) : Except ProxyError Unit × Machine :=
  let url := "http://" ++ p.address ++ p.config.readyPath
  let alive (m : Machine) (_ : Unit) := (p.process.any m.isAlive, ())
  match Wait.waitForGet url p.readyTimeout pause alive ⟨m, 0, ()⟩ with
  | (.ready, s) => (.ok (), s.machine)
  | (.unexpected status, s) => (.error (.unexpectedStatus url status), s.machine)
  | (.exited, s) => (.error (.exited url), s.machine)
  | (.timedOut, s) => (.error (.timedOut p.readyTimeout url), s.machine)
  | (.failed e, s) => (.error (.unreachable e), s.machine)

/-- Starts the proxy in a run root that has been made. -/
def startIn (p : Proxy) (root : Path) (m : Machine) : Except ProxyError Unit × Proxy × Machine :=
  let p := { p with root := some root }
  match p.writeFiles root m.files p.config.files with
  | (.error e, files) => (.error e, p, { m with files })
  | (.ok (), files) =>
    match p.spawn root { m with files } with
    | (.error e, p, m) => (.error e, p, m)
    | (.ok (), p, m) =>
      let (result, m) := p.awaitReady m
      (result, p, m)

/-- Starts the proxy in a new run root. -/
def start (p : Proxy) (m : Machine) : Except ProxyError Unit × Proxy × Machine :=
  match m.noRoot with
  | some reason => (.error (.noRoot reason), p, m)
  | none =>
    let (root, m) := makeRoot m
    p.startIn root m

/-- Stops the proxy, if it has been started. -/
def stop (p : Proxy) (m : Machine) : Proxy × Machine :=
  match p.process with
  | none => (p, m)
  | some process => ({ p with process := none }, m.kill process)

/-- Removes the run root, unless the configuration keeps it. -/
def cleanup (p : Proxy) (m : Machine) : Proxy × Machine :=
  match p.root with
  | none => (p, m)
  | some root =>
    if p.config.keepFiles then (p, m)
    else ({ p with root := none }, { m with files := m.files.remove root.parts })

end Proxy

end ProxyTrial
