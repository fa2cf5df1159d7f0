import ProxyTrial.Files.System
/-!
# Files of text

A file of text is in UTF-8.  However its lines end, in the text that is read
every line ends with a line feed.
-/

namespace ProxyTrial

/-- Why a file cannot be read as text. -/
inductive ReadError where
  | file (error : FileError)
  | encoding (error : Text.Utf8Error)

namespace ReadError

/-- The wording of an error. -/
def message : ReadError → String
  | file error => error.message
  | encoding error => error.message

/-- The refusal of the operating system, if it is one. -/
def refusal? : ReadError → Option FileError
  | file error => if error.isRefusal then some error else none
  | encoding _ => none

end ReadError

/-- A text with a line feed at the end of every line: in the place of a carriage
return, and of one with a line feed. -/
def unifyLineEnds : List Char → List Char
  | '\r' :: '\n' :: cs => '\n' :: unifyLineEnds cs
  | '\r' :: cs => '\n' :: unifyLineEnds cs
  | c :: cs => c :: unifyLineEnds cs
  | [] => []

/-- The text in a file. -/
def FileSystem.readText (fs : FileSystem) (p : Path) : Except ReadError String :=
  match fs.read p with
  | .error e => .error (.file e)
  | .ok bs =>
    match Text.ofUtf8 bs with
    | .error e => .error (.encoding e)
    | .ok s => .ok (String.ofList (unifyLineEnds s.toList))

end ProxyTrial
