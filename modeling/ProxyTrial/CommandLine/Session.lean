import ProxyTrial.CommandLine.Invocation
import ProxyTrial.Config.File
import ProxyTrial.Run.Program
import ProxyTrial.Script.File
/-!
# Sessions

A session does what a command line asks for.  What it finds goes to the
standard output or, if something is wrong, to the standard error, and into the
exit code.  Files are checked one by one: what is wrong with one of them has no
influence on the others.

## Main definitions

* `check`, `run`: the commands
* `session`: what a command line does
-/

namespace ProxyTrial.CommandLine

/-- An error for which no session is prepared. -/
inductive Breakdown where
  | script (error : ScriptFileError)
  | config (error : ConfigError)
  | run (error : RunError)

/-- The wording of a breakdown. -/
def Breakdown.message : Breakdown → String
  | script error => error.message
  | config error => error.message
  | run error => error.message

/-- How a session ends. -/
inductive Ending where
  | exit (code : Nat)
  | breakdown (b : Breakdown)

/-- What a session leaves behind. -/
structure Outcome where
  ending : Ending
  out : String := ""
  err : String := ""

/-- The end of a session in which something is wrong. -/
def Outcome.failed (report : String) : Outcome := { ending := .exit 1, err := report }

/-- What comes of a command line that asks for nothing. -/
def Halt.outcome (h : Halt) : Outcome :=
  match h.stop with
  | .help => { ending := .exit 0, out := h.scope.help }
  | .misuse m => { ending := .exit 2, err := h.scope.complaint m }

/-! ## Checking -/

/-- The numbers of a script's stanzas. -/
def countLine (p : Path) (s : Script) : String :=
  p.shown ++ s!": {s.handlers.length} handler(s), {s.clients.length} client(s)\n"

/-- The report of what is wrong with a file. -/
def errorLine (p : Path) (e : ScriptFileError) : String :=
  "Error: " ++ p.shown ++ ": " ++ e.message ++ "\n"

/-- Checks files one by one; `good` says whether those before are scripts, and
`out` and `err` are what has been written about them. -/
def checkFrom (fs : FileSystem) (good : Bool) (out err : String) : List Path → Outcome
  | [] =>
    if good then { ending := .exit 0, out := out ++ "No issues found.\n", err }
    else { ending := .exit 1, out, err }
  | p :: ps =>
    match fs.readScript p with
    | .ok s => checkFrom fs good (out ++ countLine p s) err ps
    | .error e =>
      if e.isFinding then checkFrom fs false out (err ++ errorLine p e) ps
      else { ending := .breakdown (.script e), out, err }

/-- Checks files. -/
def check (fs : FileSystem) (files : List Path) : Outcome := checkFrom fs true "" "" files

/-! ## Running -/

/-- The configuration of a run: from the file that is asked for, else from the
file for it in the current directory, if it is there. -/
def chosenConfig (fs : FileSystem) (path : Option Path) : Except ConfigError RunConfig :=
  let here : Path := { root := "/", parts := fs.current }
  let usual := here.join (.ofText Invocation.defaultConfig)
  match path with
  | some p => fs.readConfig p
  | none => if fs.contains usual then fs.readConfig usual else .ok {}

/-- A configuration with the proxy replaced by one that runs at an address, if
one is asked for. -/
def withAddress (config : RunConfig) : Option String → RunConfig
  | none => config
  | some address => { config with proxy := none, proxyAddress := some address }

/-- A failure in the report of a run; the context is told if one asks for
it. -/
def failureLines (verbose : Bool) (f : RunFailure) : String :=
  (if verbose && f.context != "" then f.context ++ "\n" else "") ++ "  " ++ f.shown ++ "\n"

/-- The report of a run with failures. -/
def failureReport (script : Path) (verbose : Bool) (r : RunResult) : String :=
  "FAIL " ++ script.shown ++ "\n" ++ String.join (r.failures.map (failureLines verbose))
    ++ match r.root with
      | some root => "Proxy run root kept at " ++ root.shown ++ "\n"
      | none => ""

/-- What comes of the result of a run. -/
def runOutcome (r : RunRequest) : Except RunError RunResult → Outcome
  | .ok result =>
    if result.passed then { ending := .exit 0, out := "PASS " ++ r.script.shown ++ "\n" }
    else .failed (failureReport r.script r.verbose result)
  | .error e =>
    if e.isFinding then
      .failed ("FAIL " ++ r.script.shown ++ "\nError: " ++ e.message ++ "\n")
    else { ending := .breakdown (.run e) }

/-- Runs a script. -/
def run (m : Machine) (r : RunRequest) : Outcome × Machine :=
  match chosenConfig m.files r.config with
  | .error e =>
    (if e.isFinding then .failed ("Error: " ++ e.message ++ "\n")
      else { ending := .breakdown (.config e) }, m)
  | .ok config =>
    match m.files.readScript r.script with
    | .error e =>
      (if e.isFinding then .failed (errorLine r.script e)
        else { ending := .breakdown (.script e) }, m)
    | .ok s =>
      let (result, m) := Run.run s (withAddress config r.proxyAddress) m
      (runOutcome r result, m)

/-- What a command line does on a machine. -/
def session (args : List String) (m : Machine) : Outcome × Machine :=
  match Invocation.ofArguments args with
  | .error h => (h.outcome, m)
  | .ok (.check files) => (check m.files files, m)
  | .ok (.run r) => run m r

end ProxyTrial.CommandLine
