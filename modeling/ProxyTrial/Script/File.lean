import ProxyTrial.Files.TextFile
import ProxyTrial.Script.Parse
/-!
# Scripts in files

A file that cannot be read is a finding about the script, and so is a fault in
it; a file that is not UTF-8 is neither.
-/

namespace ProxyTrial

/-- Why the script in a file cannot be read. -/
inductive ScriptFileError where
  | file (path : Path) (error : ReadError)
  | script (error : ScriptError)

namespace ScriptFileError

/-- The wording of an error. -/
def message : ScriptFileError → String
  | file path error =>
    match error.refusal? with
    | some e => "Cannot read script '" ++ path.shown ++ "': " ++ e.message
    | none => error.message
  | script error => error.message

/-- Whether an error is a finding about the script or its file, and not a
breakdown of the reading. -/
def isFinding : ScriptFileError → Bool
  | file _ error => error.refusal?.isSome
  | script (.faultAt _ _) => true
  | script _ => false

end ScriptFileError

/-- The script in a file. -/
def FileSystem.readScript (fs : FileSystem) (p : Path) : Except ScriptFileError Script :=
  match fs.readText p with
  | .error e => .error (.file p e)
  | .ok s => (Script.parse s).mapError .script

end ProxyTrial
