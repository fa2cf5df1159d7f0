import ProxyTrial.Http.HeaderSection
/-!
# The head of a request

A request begins with a line of method, target and version, then has its header
section.  A line without a version is a request of the oldest kind, which gets
a bare body for an answer.  Whether the connection stays open afterwards
depends on the version and on the `Connection` field.

## Main definitions

* `RequestLine.ofText`: the parts of a request line
* `readHead`: the head at the start of the octets, and the octets after it
-/

namespace ProxyTrial.Http

/-- Why a request is rejected without a look at its body. -/
inductive Rejection where
  /-- The request line exceeds the limit. -/
  | longRequestLine
  /-- The last word of the request line is no version. -/
  | malformedVersion (word : String)
  /-- A version from 2.0 on, without the name of the protocol. -/
  | unsupportedVersion (number : String)
  /-- The request line has too few or too many words. -/
  | malformedLine (line : String)
  /-- A request line without version has a method other than GET. -/
  | versionlessMethod (method : String)
  | headerSection (error : SectionError)
  | unsupportedMethod (method : String)
  deriving DecidableEq, Repr

namespace Rejection

/-- The status of the answer. -/
def status : Rejection → Int
  | longRequestLine => 414
  | malformedVersion _ | malformedLine _ | versionlessMethod _ => 400
  | unsupportedVersion _ => 505
  | headerSection _ => 431
  | unsupportedMethod _ => 501

/-- The reason that the answer gives. -/
def message : Rejection → String
  | longRequestLine => "Request-URI Too Long"
  | malformedVersion word => "Bad request version (" ++ Text.quoted word ++ ")"
  | unsupportedVersion number => "Invalid HTTP version (" ++ number ++ ")"
  | malformedLine line => "Bad request syntax (" ++ Text.quoted line ++ ")"
  | versionlessMethod method => "Bad HTTP/0.9 request type (" ++ Text.quoted method ++ ")"
  | headerSection .longLine => "Line too long"
  | headerSection .manyLines => "Too many headers"
  | unsupportedMethod method => "Unsupported method (" ++ Text.quoted method ++ ")"

/-- The explanation that the answer gives. -/
def explanation : Rejection → String
  | longRequestLine => "URI is too long"
  | malformedVersion _ | malformedLine _ | versionlessMethod _ =>
    "Bad request syntax or unsupported method"
  | unsupportedVersion _ => "Cannot fulfill request"
  | headerSection .longLine => s!"got more than {lineLimit} bytes when reading header line"
  | headerSection .manyLines => s!"got more than {sectionLimit} headers"
  | unsupportedMethod _ => "Server does not support this operation"

end Rejection

/-- A request line. -/
structure RequestLine where
  method : String
  target : String
  /-- The version as it is written. -/
  version : String
  /-- Whether the version lets the connection stay open. -/
  persistent : Bool
  deriving DecidableEq, Repr

/-- The version of a request line without one. -/
def oldestVersion : String := "HTTP/0.9"

/-- A rejection, and what it takes to answer it: whether the answer is a bare
body, and whether it has no body. -/
structure Rejected where
  reason : Rejection
  bare : Bool
  bodyless : Bool := false
  deriving DecidableEq, Repr

/-- The numbers of a version: two runs of at most ten digits with a dot
between them. -/
def versionNumbers? (number : List Char) : Option (Nat × Nat) :=
  let component (cs : List Char) : Option Nat :=
    if cs.isEmpty || !cs.all Char.isDigit || cs.length > 10 then none
    else some (Text.ofDigits 10 (cs.map fun c => c.toNat - 48))
  match Text.splitOnElem '.' number with
  | [major, minor] => do return (← component major, ← component minor)
  | _ => none

/-- What the words of a request line say about the version: how it is written,
and whether it lets the connection stay open. -/
def readVersion (words : List String) : Except Rejected (String × Bool) :=
  match words.getLast? with
  | none => .ok (oldestVersion, false)
  | some word =>
    if words.length < 3 then .ok (oldestVersion, false)
    else
      let bad := Except.error ⟨.malformedVersion word, true, false⟩
      match word.toList with
      | 'H' :: 'T' :: 'T' :: 'P' :: '/' :: number =>
        match versionNumbers? number with
        | none => bad
        | some (major, minor) =>
          if 2 ≤ major then .error ⟨.unsupportedVersion (String.ofList number), true, false⟩
          else .ok (word, major == 1 && 1 ≤ minor)
      | _ => bad

/-- A target whose slashes at the start are one. -/
def collapseSlashes (target : String) : String :=
  match target.toList with
  | '/' :: '/' :: cs => String.ofList ('/' :: cs.dropWhile (· == '/'))
  | _ => target

/-- The request line with this text; nothing if it is blank. -/
def RequestLine.ofText (line : String) : Except Rejected (Option RequestLine) :=
  let words := (Text.wordsBy Text.isBlank line.toList).map String.ofList
  if words.isEmpty then .ok none
  else do
    let (version, persistent) ← readVersion words
    let bare := version == oldestVersion
    match words with
    | [method, target] =>
      if method == "GET" then
        return some ⟨method, collapseSlashes target, version, false⟩
      else throw ⟨.versionlessMethod method, bare, false⟩
    | [method, target, _] => return some ⟨method, collapseSlashes target, version, persistent⟩
    | _ => throw ⟨.malformedLine line, bare, false⟩

/-- The head of a request. -/
structure Head where
  method : String
  target : String
  headers : List (String × String)
  /-- Whether the answer is a bare body. -/
  bare : Bool
  /-- Whether the connection stays open after the request. -/
  persistent : Bool
  /-- Whether the sender waits for leave to send the body. -/
  awaitsContinue : Bool
  deriving DecidableEq, Repr

/-- Whether the connection stays open when a field asks for it or against it. -/
def persists (persistent : Bool) (connection : String) : Bool :=
  match Text.lower connection with
  | "close" => false
  | "keep-alive" => true
  | _ => persistent

/-- The head that a request line and header fields make. -/
def RequestLine.head (line : RequestLine) (headers : List (String × String)) : Head where
  method := line.method
  target := line.target
  headers := headers
  bare := line.version == oldestVersion
  persistent := persists line.persistent (firstValue headers "connection")
  awaitsContinue :=
    Text.lower (firstValue headers "expect") == "100-continue" && !(line.version < "HTTP/1.1")

/-- The head at the start of the octets, and the octets after it; nothing if
there is no request. -/
def readHead (bs : Bytes) : Except Rejected (Option (Head × Bytes)) :=
  let (line, rest) := splitLine bs
  if line.length > lineLimit then .error ⟨.longRequestLine, false, false⟩
  else do
    let text := Text.trimEndBy isLineEnd (octetChars line)
    match ← RequestLine.ofText (String.ofList text) with
    | none => return none
    | some line =>
      match readHeaders rest with
      | .error e =>
        throw ⟨.headerSection e, line.version == oldestVersion, line.method == "HEAD"⟩
      | .ok (headers, rest) => return some (line.head headers, rest)

end ProxyTrial.Http
