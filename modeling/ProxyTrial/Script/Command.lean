import ProxyTrial.Script.Basic
import ProxyTrial.Script.Error
import ProxyTrial.Script.TokenStream
import ProxyTrial.Text.Integer
/-!
# Reading the two commands of a script

An `expect` command states an expectation; line breaks mean nothing inside it.
A `tx` command is a sequence of flags with values on one line; it ends before a
line break, a closing brace or the end of the script.  It gives the reply of a
handler or the call of a client, which have different flags.

Readers take a token stream and answer with what they have read and the stream
after it.
-/

namespace ProxyTrial.Script

/-- The error of a token that is not the one wanted. -/
def unexpected (wanted : Wanted) (construct : Construct) (t : Token) : ScriptError :=
  .faultAt (.unexpected wanted construct) t

/-- Reads a token of the given kind, passing over line breaks. -/
def readKind (k : Kind) (wanted : Wanted) (construct : Construct) (s : TokenStream) :
    Except ScriptError (Token × TokenStream) :=
  let (t, s) := s.significant true
  if t.kind = k then .ok (t, s) else .error (unexpected wanted construct t)

/-! ## Expectations -/

/-- The side that a token names. -/
def sideOf : Kind → Option Side
  | .req => some .request
  | .resp => some .response
  | _ => none

/-- Reads the header name in brackets after `headers`. -/
def readSelector (side : String) (s : TokenStream) : Except ScriptError (String × TokenStream) := do
  let wanted := Wanted.headerSelector side
  let (_, s) ← readKind .openBracket wanted .expectCommand s
  let (name, s) ← readKind .string wanted .expectCommand s
  let (_, s) ← readKind .closeBracket wanted .expectCommand s
  return (name.text, s)

/-- Reads the subject of an expectation whose side is written `side`. -/
def readSubject (side : String) (s : TokenStream) : Except ScriptError (Subject × TokenStream) :=
  let (t, s) := s.significant true
  match t.kind with
  | .method => .ok (.method, s)
  | .status => .ok (.status, s)
  | .body => .ok (.body, s)
  | .headers => do
    let (name, s) ← readSelector side s
    return (.header name, s)
  | _ => .error (unexpected (.subject side) .expectCommand t)

/-- A subject as it is written. -/
def Subject.written : Subject → String
  | .header name => "headers[\"" ++ name ++ "\"]"
  | subject => subject.word

/-- The comparison that a token asks for, with the expected value. -/
def comparisonOf (operator value : Token) : Except ScriptError Comparison :=
  match operator.kind with
  | .eq => .ok .equal
  | .ne => .ok .differs
  | _ =>
    match Pattern.ofText value.text with
    | .ok p => .ok (.contains p)
    | .error e =>
      match e with
      | .faultAt _ _ _ | .faultOverall _ => .error (.faultAt (.badPattern e) value)
      | e => .error (.pattern e)

/-- Whether a token is an operator. -/
def isOperator (k : Kind) : Bool := k == .eq || k == .ne || k == .tilde

/-- The expected value as it is written, if a token is one. -/
def writtenValue (t : Token) : Option String :=
  match t.kind with
  | .string => some ("\"" ++ t.text ++ "\"")
  | .integer => some t.text
  | _ => none

/-- Reads an expectation after its keyword. -/
def readExpect (s : TokenStream) : Except ScriptError (Expectation × TokenStream) := do
  let (sideToken, s) := s.significant true
  let some side := sideOf sideToken.kind
    | .error (unexpected .side .expectCommand sideToken)
  let (_, s) ← readKind .dot (.dot sideToken.text) .expectCommand s
  let (subject, s) ← readSubject sideToken.text s
  let (operator, s) := s.significant true
  if !isOperator operator.kind then
    .error (unexpected .comparison .expectCommand operator)
  let (value, s) := s.significant true
  let some written := writtenValue value
    | .error (unexpected .value .expectCommand value)
  let comparison ← comparisonOf operator value
  let verbatim :=
    side.word ++ "." ++ Subject.written subject ++ " " ++ operator.text ++ " " ++ written
  return ({ side, subject, comparison, expected := value.text, verbatim }, s)

/-! ## Transmissions -/

/-- Whether a token ends a `tx` command. -/
def endsTx (k : Kind) : Bool := k == .endOfScript || k == .closeBrace || k == .lineBreak

/-- Reads the value of a flag, which stands on the same line. -/
def readValue (k : Kind) (wanted : Wanted) (s : TokenStream) :
    Except ScriptError (Token × TokenStream) :=
  let (t, s) := s.significant false
  if t.kind = k then .ok (t, s) else .error (unexpected wanted .txCommand t)

/-- The name and the value of a header line, cut at its first colon; without
a colon or with a blank name there is no header. -/
def splitHeader (s : String) : Option (String × String) :=
  match Text.cutAt ':' s.toList with
  | (_, none) => none
  | (name, some value) =>
    let name := Text.trimBy Text.isBlank name
    if name.isEmpty then none
    else some (String.ofList name, String.ofList (Text.trimBy Text.isBlank value))

/-- The headers with one set: it comes last, and takes the place of those with
the same name in any letter case. -/
def setHeader (name value : String) (hs : Headers) : Headers :=
  hs.filter (fun h => Text.lower h.1 != Text.lower name) ++ [(name, value)]

/-- Reads the value of a header flag and sets that header. -/
def readHeader (hs : Headers) (s : TokenStream) : Except ScriptError (Headers × TokenStream) := do
  let (t, s) ← readValue .string .header s
  match splitHeader t.text with
  | none => .error (unexpected .headerShape .txCommand t)
  | some (name, value) => .ok (setHeader name value hs, s)

/-- The number that an integer token stands for. -/
def integerValue (s : String) : Except ScriptError Int :=
  let (negative, digits) := Text.splitSign s.toList
  if digits.length > Text.digitLimit then .error (.longInteger digits.length)
  else
    let n : Int := Text.ofDigits 10 (digits.map fun c => c.toNat - 48)
    .ok (if negative then -n else n)

/-- Reads a status code. -/
def readStatus (s : TokenStream) : Except ScriptError (Int × TokenStream) := do
  let (t, s) ← readValue .integer .integer s
  let code ← integerValue t.text
  if 100 ≤ code ∧ code ≤ 999 then .ok (code, s)
  else .error (unexpected .statusCode .txCommand t)

/-- A flag of a reply, applied to the reply so far. -/
def readReplyFlag (flag : Token) (r : Reply) (s : TokenStream) :
    Except ScriptError (Reply × TokenStream) :=
  match flag.kind with
  | .bodyFlag => do
    let (t, s) ← readValue .string .text s
    return ({ r with body := t.text }, s)
  | .headerFlag => do
    let (headers, s) ← readHeader r.headers s
    return ({ r with headers }, s)
  | .statusFlag => do
    let (status, s) ← readStatus s
    return ({ r with status }, s)
  | _ => .error (unexpected .replyFlag .txCommand flag)

/-- A flag of a call, applied to the call so far. -/
def readCallFlag (flag : Token) (c : Call) (s : TokenStream) :
    Except ScriptError (Call × TokenStream) :=
  match flag.kind with
  | .bodyFlag => do
    let (t, s) ← readValue .string .text s
    return ({ c with body := t.text }, s)
  | .headerFlag => do
    let (headers, s) ← readHeader c.headers s
    return ({ c with headers }, s)
  | .methodFlag => do
    let (t, s) ← readValue .string .text s
    return ({ c with method := t.text }, s)
  | .urlFlag => do
    let (t, s) ← readValue .string .text s
    return ({ c with target := t.text }, s)
  | _ => .error (unexpected .callFlag .txCommand flag)

/-- Reads flags up to the end of the command, which is left in the stream;
`flag` reads one of them.  Each takes a token, which bounds their number. -/
def readFlags {α : Type} (flag : Token → α → TokenStream → Except ScriptError (α × TokenStream)) :
    (fuel : Nat) → α → TokenStream → Except ScriptError (α × TokenStream)
  | 0, a, s => .ok (a, s)
  | fuel + 1, a, s =>
    let (t, after) := s.significant false
    if endsTx t.kind then .ok (a, after.putBack t)
    else do
      let (a, s) ← flag t a after
      readFlags flag fuel a s

/-- Reads the flags of a reply. -/
def readReply (s : TokenStream) : Except ScriptError (Reply × TokenStream) :=
  readFlags readReplyFlag (s.ahead.length + 1) {} s

/-- Reads the flags of a call. -/
def readCall (s : TokenStream) : Except ScriptError (Call × TokenStream) :=
  readFlags readCallFlag (s.ahead.length + 1) {} s

end ProxyTrial.Script
