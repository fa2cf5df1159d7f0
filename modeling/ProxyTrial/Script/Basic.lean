import ProxyTrial.Pattern.Search
/-!
# Scripts

A script has handlers, which say what the origin answers to the requests for a
path and what it expects of them, and clients, each of which sends one request
and says what it expects of the response.
-/

namespace ProxyTrial

/-- Which message an expectation was written about. -/
inductive Side where
  | request
  | response
  deriving DecidableEq, Repr

/-- The part of a message that an expectation is about. -/
inductive Subject where
  | method
  | status
  /-- The first header with this name. -/
  | header (name : String)
  | body
  deriving DecidableEq, Repr

/-- How a value is compared with the expected one. -/
inductive Comparison where
  | equal
  | differs
  /-- The pattern occurs in the value. -/
  | contains (p : Pattern)
  deriving Repr

/-- An assertion about a message. -/
structure Expectation where
  side : Side
  subject : Subject
  comparison : Comparison
  /-- The expected value or the text of a pattern. -/
  expected : String
  /-- The assertion as it is shown in reports. -/
  verbatim : String := ""
  deriving Repr

/-- Headers: names and values in order. -/
abbrev Headers := List (String × String)

/-- The response that a handler gives. -/
structure Reply where
  status : Int := 200
  headers : Headers := []
  body : String := ""
  deriving DecidableEq, Repr

/-- The request that a client sends. -/
structure Call where
  method : String := "GET"
  target : String := ""
  headers : Headers := []
  body : String := ""
  deriving DecidableEq, Repr

/-- What the origin does for a path. -/
structure Handler where
  path : String
  expectations : List Expectation := []
  reply : Reply := {}
  deriving Repr

/-- A client with its request and what it expects of the response. -/
structure Client where
  name : String
  call : Call := {}
  expectations : List Expectation := []
  deriving Repr

/-- A script: handlers and clients, each in order. -/
structure Script where
  handlers : List Handler
  clients : List Client
  deriving Repr

/-! ## How the parts of a script are written -/

/-- The word of a side. -/
def Side.word : Side → String
  | .request => "req"
  | .response => "resp"

/-- The word of a subject. -/
def Subject.word : Subject → String
  | .method => "method"
  | .status => "status"
  | .header _ => "headers"
  | .body => "body"

/-- The word of a comparison. -/
def Comparison.word : Comparison → String
  | .equal => "eq"
  | .differs => "ne"
  | .contains _ => "~"

/-- An expectation as reports show it. -/
def Expectation.shown (e : Expectation) : String := "\"" ++ e.verbatim ++ "\""

/-- A reply in one line. -/
def Reply.shown (r : Reply) : String := s!"HTTP {r.status}: \"" ++ r.body ++ "\""

/-- A call in lines: the method and the target, then the headers. -/
def Call.shown (c : Call) : String :=
  let target := if c.target.isEmpty then "/" else c.target
  "\n".intercalate
    ((c.method ++ " " ++ target) :: c.headers.map fun (name, value) => name ++ ": " ++ value)

end ProxyTrial
