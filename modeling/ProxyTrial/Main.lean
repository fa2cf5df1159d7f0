import ProxyTrial.CommandLine.Session
/-!
# The program

The files that the command line names are read into the machine of the
session; what the session leaves behind is printed.
-/

namespace ProxyTrial

/-- The files and directories at paths, as far as they are there. -/
def readFiles (paths : List Path) : IO FileSystem := do
  let here ← IO.currentDir
  let current := (Path.ofText here.toString).parts
  let ensure (fs : FileSystem) (p : Path) := (fs.makeDirectories p).toOption.getD fs
  let mut fs := { ensure {} (.ofText here.toString) with current }
  for path in paths do
    let place := here / path.shown
    if ← place.isDir then
      fs := ensure fs path
    else if ← place.pathExists then
      let content ← IO.FS.readBinFile place
      fs := ensure fs path.parent
      fs := (fs.write path content.toList).toOption.getD fs
  return fs

end ProxyTrial

/-- Does what the command line asks for. -/
def main (args : List String) : IO UInt32 := do
  let files ←
    match ProxyTrial.CommandLine.Invocation.ofArguments args with
    | .ok invocation => ProxyTrial.readFiles invocation.files
    | .error _ => pure {}
  let (outcome, _) := ProxyTrial.CommandLine.session args { files }
  (← IO.getStdout).putStr outcome.out
  (← IO.getStderr).putStr outcome.err
  match outcome.ending with
  | .exit code => return code.toUInt32
  | .breakdown b => do
    (← IO.getStderr).putStrLn b.message
    return 1
