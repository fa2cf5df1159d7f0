import ProxyTrial.CommandLine.Arguments
import ProxyTrial.Files.Path
/-!
# What is asked of the program

The program has two commands: one checks scripts, the other runs one.

## Main definitions

* `Invocation.ofArguments`: what a command line asks for
-/

namespace ProxyTrial.CommandLine

/-- A run that is asked for. -/
structure RunRequest where
  script : Path
  config : Option Path := none
  proxyAddress : Option String := none
  verbose : Bool := false
  deriving DecidableEq, Repr

/-- What is asked of the program. -/
inductive Invocation where
  | check (files : List Path)
  | run (request : RunRequest)
  deriving DecidableEq, Repr

/-- The commands, and the program without one. -/
inductive Scope where
  | program
  | check
  | run
  deriving DecidableEq, Repr

namespace Scope

/-- The words that lead to a command. -/
def title : Scope → String
  | program => "httptester"
  | check => "httptester check"
  | run => "httptester run"

/-- The arguments that a command takes. -/
def form : Scope → Form
  | program => ⟨[.help], .command⟩
  | check => ⟨[.help], .several⟩
  | run => ⟨[.help, .config, .proxyAddress, .verbose], .one⟩

/-- How a command is used. -/
def usage : Scope → String
  | program => "usage: httptester [-h] COMMAND ...\n"
  | check => "usage: httptester check [-h] FILE [FILE ...]\n"
  | run =>
    "usage: httptester run [-h] [--config CONFIG] [--proxy-address HOST:PORT]\n" ++
    "                      [--verbose]\n" ++
    "                      FILE\n"

/-- What a command does and what its arguments mean. -/
def explanation : Scope → String
  | program =>
    "httptester - black-box tests for HTTP proxies written in HTC scripts\n\n" ++
    "positional arguments:\n" ++
    "  COMMAND\n" ++
    "    check     Check the syntax of HTC scripts\n" ++
    "    run       Run an HTC script against a proxy\n\n" ++
    "options:\n" ++
    "  -h, --help  show this help message and exit\n"
  | check =>
    "Parse HTC scripts and report syntax errors without running them.\n\n" ++
    "positional arguments:\n" ++
    "  FILE        HTC scripts to check\n\n" ++
    "options:\n" ++
    "  -h, --help  show this help message and exit\n"
  | run =>
    "Start the mock origin and the proxy under test, send the client requests of\n" ++
    "the script through the proxy, and verify every expectation.\n\n" ++
    "positional arguments:\n" ++
    "  FILE                  HTC script to run\n\n" ++
    "options:\n" ++
    "  -h, --help            show this help message and exit\n" ++
    "  --config CONFIG       Runner configuration file (default: .httptester.yaml\n" ++
    "                        if present)\n" ++
    "  --proxy-address HOST:PORT\n" ++
    "                        Send client requests to an already running proxy\n" ++
    "                        instead of starting one\n" ++
    "  --verbose             Enable verbose mode\n"

/-- The help on a command. -/
def help (s : Scope) : String := s.usage ++ "\n" ++ s.explanation

/-- The report of a misuse of a command. -/
def complaint (s : Scope) (m : Misuse) : String :=
  s.usage ++ s.title ++ ": error: " ++ m.message ++ "\n"

end Scope

/-- Why a command line asks for nothing: for help on a command, or misusing
it. -/
structure Halt where
  scope : Scope
  stop : Stop
  deriving DecidableEq, Repr

namespace Invocation

/-- What the arguments of a command ask for, and those for which there is no
use. -/
def ofCommand (name : String) (args : List String) :
    Except Halt (Invocation × List String) := do
  if name == "check" then
    let r ← (Scope.check.form.read args).mapError (⟨.check, ·⟩)
    return (.check (r.operands.map Path.ofText), r.extra)
  else if name == "run" then
    let r ← (Scope.run.form.read args).mapError (⟨.run, ·⟩)
    return (.run {
      script := .ofText (r.operands.headD ""), config := r.config.map Path.ofText
      proxyAddress := r.proxyAddress, verbose := r.verbose }, r.extra)
  else throw ⟨.program, .misuse (.noSuchCommand name)⟩

/-- What a command line asks for.  Without a command it is help. -/
def ofArguments (args : List String) : Except Halt Invocation := do
  let r ← (Scope.program.form.read args).mapError (⟨.program, ·⟩)
  match r.operands with
  | [] =>
    if r.extra.isEmpty then throw ⟨.program, .help⟩
    else throw ⟨.program, .misuse (.unrecognized r.extra)⟩
  | name :: args =>
    let (invocation, extra) ← ofCommand name args
    let extra := r.extra ++ extra
    if extra.isEmpty then return invocation
    else throw ⟨.program, .misuse (.unrecognized extra)⟩

/-- The configuration file that is read if no other is asked for. -/
def defaultConfig : String := ".httptester.yaml"

/-- The files that an invocation may read. -/
def files : Invocation → List Path
  | check files => files
  | run r => [r.script, r.config.getD (.ofText defaultConfig)]

end Invocation

end ProxyTrial.CommandLine
