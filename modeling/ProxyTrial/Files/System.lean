import ProxyTrial.Files.Path
import ProxyTrial.Text.Quoted
import ProxyTrial.Text.Utf8
/-!
# Files

A file system holds directories and files, each at a location: the names from
the root on.  A path is looked up name by name, and double dots lead back to
where a directory is.

## Main definitions

* `FileSystem.locate`: the location to which a path leads
* `FileSystem.read`, `FileSystem.write`, `FileSystem.makeDirectories`
-/

namespace ProxyTrial

/-- Why a file operation fails. -/
inductive FileFault where
  | notFound
  | exists
  | notDirectory
  | isDirectory
  | nameTooLong
  /-- The path holds a null character. -/
  | nullCharacter
  deriving DecidableEq, Repr

/-- The number and the wording of a fault. -/
def FileFault.reason : FileFault → String
  | notFound => "[Errno 2] No such file or directory"
  | .exists => "[Errno 17] File exists"
  | notDirectory => "[Errno 20] Not a directory"
  | isDirectory => "[Errno 21] Is a directory"
  | nameTooLong => "[Errno 36] File name too long"
  | nullCharacter => "embedded null byte"

/-- A file operation that fails. -/
structure FileError where
  fault : FileFault
  path : Path
  deriving DecidableEq, Repr

/-- The wording of an error. -/
def FileError.message (e : FileError) : String :=
  if e.fault = .nullCharacter then e.fault.reason
  else e.fault.reason ++ ": " ++ Text.quoted e.path.shown

/-- Whether the operating system has refused an operation; a path with a null
character does not even reach it. -/
def FileError.isRefusal (e : FileError) : Bool := e.fault != .nullCharacter

/-- The names that lead from the root to a file or directory. -/
abbrev Location := List String

/-- What is at a location. -/
inductive FileEntry where
  | directory
  | file (content : Bytes)
  deriving DecidableEq, Repr

/-- A file system. -/
structure FileSystem where
  entries : List (Location × FileEntry) := []
  /-- Where relative paths start. -/
  current : Location := []
  deriving Repr

namespace FileSystem

/-- What is at a location, if anything is; the root is a directory. -/
def entry? (fs : FileSystem) (loc : Location) : Option FileEntry :=
  if loc.isEmpty then some .directory else fs.entries.lookup loc

/-- Puts an entry at a location. -/
def put (fs : FileSystem) (loc : Location) (e : FileEntry) : FileSystem :=
  { fs with entries :=
      if (fs.entries.lookup loc).isSome then
        fs.entries.map fun f => if f.1 == loc then (loc, e) else f
      else fs.entries ++ [(loc, e)] }

/-- The most octets that a name may have. -/
def nameLimit : Nat := 255

/-- The octets that a path must not have. -/
def pathLimit : Nat := 4096

/-- The location that names lead to from a directory.  The last one need not
exist. -/
def follow (fs : FileSystem) : Location → List String → Except FileFault Location
  | loc, [] => .ok loc
  | loc, name :: names =>
    match fs.entry? loc with
    | none => .error .notFound
    | some (.file _) => .error .notDirectory
    | some .directory =>
      if name == ".." then follow fs loc.dropLast names
      else if nameLimit < name.utf8ByteSize then .error .nameTooLong
      else follow fs (loc ++ [name]) names

/-- The location that a path leads to. -/
def locate (fs : FileSystem) (p : Path) : Except FileFault Location :=
  if p.shown.toList.contains '\x00' then .error .nullCharacter
  else if pathLimit ≤ p.shown.utf8ByteSize then .error .nameTooLong
  else fs.follow (if p.root == "" then fs.current else []) p.parts

/-- Whether a path leads to a directory. -/
def isDirectory (fs : FileSystem) (p : Path) : Bool :=
  match fs.locate p with
  | .ok loc => fs.entry? loc == some .directory
  | .error _ => false

/-- Whether a path leads to anything. -/
def contains (fs : FileSystem) (p : Path) : Bool :=
  match fs.locate p with
  | .ok loc => (fs.entry? loc).isSome
  | .error _ => false

/-- The content of a file. -/
def read (fs : FileSystem) (p : Path) : Except FileError Bytes :=
  match fs.locate p with
  | .error fault => .error ⟨fault, p⟩
  | .ok loc =>
    match fs.entry? loc with
    | none => .error ⟨.notFound, p⟩
    | some .directory => .error ⟨.isDirectory, p⟩
    | some (.file content) => .ok content

/-- Writes a file, which may be there already. -/
def write (fs : FileSystem) (p : Path) (content : Bytes) : Except FileError FileSystem :=
  match fs.locate p with
  | .error fault => .error ⟨fault, p⟩
  | .ok loc =>
    if fs.entry? loc == some .directory then .error ⟨.isDirectory, p⟩
    else .ok (fs.put loc (.file content))

/-- Makes a directory, which must not be there. -/
def makeDirectory (fs : FileSystem) (p : Path) : Except FileError FileSystem :=
  match fs.locate p with
  | .error fault => .error ⟨fault, p⟩
  | .ok loc =>
    if (fs.entry? loc).isSome then .error ⟨.exists, p⟩ else .ok (fs.put loc .directory)

/-- Makes a directory, unless it is there already. -/
def ensureDirectory (fs : FileSystem) (p : Path) : Except FileError FileSystem :=
  match fs.makeDirectory p with
  | .error e => if fs.isDirectory p then .ok fs else .error e
  | r => r

/-- Makes a directory and those above it, `depth` of them at most, unless they
are there already. -/
def ensureFrom (fs : FileSystem) : (depth : Nat) → Path → Except FileError FileSystem
  | 0, p => fs.ensureDirectory p
  | depth + 1, p =>
    match fs.makeDirectory p with
    | .error e =>
      if e.fault = .notFound then do
        let fs ← ensureFrom fs depth p.parent
        fs.ensureDirectory p
      else if fs.isDirectory p then .ok fs else .error e
    | r => r

/-- Makes a directory and those above it, unless they are there already. -/
def makeDirectories (fs : FileSystem) (p : Path) : Except FileError FileSystem :=
  fs.ensureFrom p.parts.length p

/-- Removes what is at a location or below it. -/
def remove (fs : FileSystem) (loc : Location) : FileSystem :=
  { fs with entries := fs.entries.filter fun e => !loc.isPrefixOf e.1 }

/-- The files below a location, with the names that lead to them from
there. -/
def filesBelow (fs : FileSystem) (loc : Location) : List (List String × Bytes) :=
  fs.entries.filterMap fun (l, e) =>
    match e with
    | .file content => if loc.isPrefixOf l then some (l.drop loc.length, content) else none
    | .directory => none

end FileSystem

end ProxyTrial
