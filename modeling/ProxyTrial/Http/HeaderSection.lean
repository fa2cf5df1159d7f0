import ProxyTrial.Text.Blank
import ProxyTrial.Text.Utf8
import ProxyTrial.Http.Body
/-!
# The header section of a request

The lines after the request line hold the header fields, up to an empty line.
A line may be continued by lines that start with a blank.  A line that is no
header line ends the fields, but not the section.

## Main definitions

* `sectionLines`: the lines of the section and the octets after it
* `fieldsOfLines`: the fields that the lines hold
* `readHeaders`: the fields of the section and the octets after it
-/

namespace ProxyTrial.Http

/-- Why a header section is refused. -/
inductive SectionError where
  | longLine
  | manyLines
  deriving DecidableEq, Repr

/-- The number of octets that a line may have, its end included. -/
def lineLimit : Nat := 65536

/-- The number of lines that a header section may have, the empty one
included. -/
def sectionLimit : Nat := 100

/-- Whether a line ends the section; an empty one stands for the end of the
octets. -/
def isSectionEnd (line : Bytes) : Bool := line == [] || line == [10] || line == [13, 10]

/-- The lines at the start of the octets up to the one that ends the section,
which is the last of them, and the octets after it; at most `allowed` lines
are read. -/
def sectionLines : (allowed : Nat) → Bytes → Except SectionError (List Bytes × Bytes)
  | allowed, bs =>
    let (line, rest) := splitLine bs
    if line.length > lineLimit then .error .longLine
    else match allowed with
      | 0 => .error .manyLines
      | allowed + 1 =>
        if isSectionEnd line then .ok ([line], rest)
        else (sectionLines allowed rest).map fun (lines, rest) => (line :: lines, rest)

/-- The lines of a text with their ends: a line feed, a carriage return, or
both. -/
def textLines : List Char → List (List Char)
  | [] => []
  | '\n' :: cs => ['\n'] :: textLines cs
  | '\r' :: '\n' :: cs => ['\r', '\n'] :: textLines cs
  | '\r' :: cs => ['\r'] :: textLines cs
  | c :: cs =>
    if cs.isEmpty then [[c]]
    else match textLines cs with
      | [] => [[c]]
      | line :: lines =>
        (c :: line) :: lines

/-- Whether a character may stand in a field name: printable ASCII other than
a colon. -/
def isNameChar (c : Char) : Bool := '!' ≤ c && c ≤ '~' && c != ':'

/-- Whether a line begins a mailbox entry, which is no field. -/
def isEnvelope (line : List Char) : Bool := "From ".toList.isPrefixOf line

/-- Whether a line continues the one before. -/
def isContinuation (line : List Char) : Bool :=
  match line with
  | c :: _ => c == ' ' || c == '\t'
  | [] => false

/-- Whether a line belongs to the fields. -/
def isHeaderLine (line : List Char) : Bool :=
  isContinuation line || isEnvelope line || (line.dropWhile isNameChar).head? == some ':'

/-- Whether a character ends a line. -/
def isLineEnd (c : Char) : Bool := c == '\n' || c == '\r'

/-- The field of a line that is continued by others; a line without a name has
none. -/
def fieldOfLine (line : List Char) (more : List (List Char)) : Option (String × String) :=
  if isEnvelope line then none
  else match Text.cutAt ':' line with
    | ([], _) => none
    | (name, value) =>
      let first := (value.getD []).dropWhile fun c => c == ' ' || c == '\t'
      some (String.ofList name, String.ofList (Text.trimEndBy isLineEnd (first ++ more.flatten)))

/-- The fields of header lines, each with its continuations; continuations
without a line before them do not count. -/
def fieldsOfLines : List (List Char) → List (String × String)
  | [] => []
  | line :: lines =>
    if isContinuation line then fieldsOfLines lines
    else
      (fieldOfLine line (lines.takeWhile isContinuation)).toList ++ fieldsOfLines lines

/-- The fields of the header section at the start of the octets, and the octets
after it. -/
def readHeaders (bs : Bytes) : Except SectionError (List (String × String) × Bytes) :=
  (sectionLines sectionLimit bs).map fun (lines, rest) =>
    (fieldsOfLines ((textLines (octetChars lines.flatten)).takeWhile isHeaderLine), rest)

/-- The value of the first field with a name of small ASCII letters. -/
def firstValue (headers : List (String × String)) (name : String) : String :=
  ((headers.find? fun (n, _) => Text.lower n == name).map (·.2)).getD ""

end ProxyTrial.Http
