import ProxyTrial.Client.Outgoing
import ProxyTrial.Http.Body
import ProxyTrial.Http.Status
/-!
# Responses that a client receives

The octets that come back hold informational responses, which do not count,
and the response proper: a head, and a body that the head and the request
delimit.

## Main definitions

* `readHead`: the head at the start of the octets
* `finalHead`: the head of the response proper
* `readContent`: the body in pieces
-/

namespace ProxyTrial

/-- Why octets are no response. -/
inductive ReceiveError where
  /-- The octets end before a head does. -/
  | noResponse
  | tooLong
  | emptyHead
  /-- The octets begin with a control or a space. -/
  | notAHead
  | statusLine (line : Bytes)
  | headerLine (line : Bytes)
  /-- The first header line continues another. -/
  | continuation
  | field (fault : Http.FieldFault)
  | lowStatus (status : Nat)
  /-- The response switches to a protocol that was not asked for. -/
  | unexpectedSwitch
  | chunkHeader (line : Bytes)
  /-- A chunk is not followed by a line end. -/
  | chunkFooter (octets expected : Bytes)
  | shortBody (received expected : Nat)
  | unfinishedChunks
  /-- The octets end inside a line. -/
  | unfinishedLine
  deriving DecidableEq, Repr

/-- A line as error texts show it. -/
def shownLine (line : Bytes) : String := "bytearray(" ++ Text.quotedOctets line ++ ")"

/-- The wording of an error. -/
def ReceiveError.message : ReceiveError → String
  | noResponse => "Server disconnected without sending a response."
  | tooLong => "Receive buffer too long"
  | emptyHead => "no response line received"
  | notAHead => "illegal request line"
  | statusLine line => "illegal status line: " ++ shownLine line
  | headerLine line => "illegal header line: " ++ shownLine line
  | continuation => "continuation line at start of headers"
  | field fault => fault.message
  | lowStatus status =>
    s!"InformationalResponse status_code should be in range [100, 200), not {status}"
  | unexpectedSwitch => "Received server _SWITCH_UPGRADE event without a pending proposal"
  | chunkHeader line => "illegal chunk header: " ++ shownLine line
  | chunkFooter octets expected =>
    "malformed chunk footer: " ++ shownLine octets ++ " (expected " ++ Text.quotedOctets expected
      ++ ")"
  | shortBody received expected =>
    "peer closed connection without sending complete message body "
      ++ s!"(received {received} bytes, expected {expected})"
  | unfinishedChunks =>
    "peer closed connection without sending complete message body (incomplete chunked read)"
  | unfinishedLine => "peer unexpectedly closed connection"

namespace Incoming

/-! ## Heads -/

/-- The lines at the start of the octets up to an empty one, and what follows
it; nothing if there is no empty line. -/
def untilEmptyLine : Bytes → Option (List Bytes × Bytes)
  | [] => none
  | 10 :: 10 :: rest => some ([[]], rest)
  | 10 :: 13 :: 10 :: rest => some ([[]], rest)
  | b :: bs =>
    match untilEmptyLine bs with
    | none => none
    | some (lines, rest) =>
      if b == 10 then some ([] :: lines, rest)
      else match lines with
        | [] => some ([[b]], rest)
        | line :: lines => some ((b :: line) :: lines, rest)

/-- A line without a carriage return at its end. -/
def withoutReturn (line : Bytes) : Bytes := if line.getLast? == some 13 then line.dropLast else line

/-- The lines of the section at the start of the octets, which ends with an
empty line, and what follows; nothing if it does not end. -/
def sectionLines (bs : Bytes) : Option (List Bytes × Bytes) :=
  match bs with
  | 10 :: rest => some ([], rest)
  | 13 :: 10 :: rest => some ([], rest)
  | bs => (untilEmptyLine bs).map fun (lines, rest) => (lines.map withoutReturn, rest)

/-- Header lines with their continuations. -/
def unfold : List Bytes → List Bytes
  | [] => []
  | line :: lines =>
    match unfold lines with
    | [] => [line]
    | next :: more =>
      if next.head?.any Http.isPadding then
        (line ++ [32] ++ next.dropWhile Http.isPadding) :: more
      else line :: next :: more

/-- The field of a header line. -/
def fieldOfLine (line : Bytes) : Except ReceiveError (Bytes × Bytes) :=
  match Text.cutAt 58 line with
  | (name, some value) =>
    let value := Text.trimBy Http.isPadding value
    if Http.isToken name && Http.isFieldValue value then .ok (name, value)
    else .error (.headerLine line)
  | _ => .error (.headerLine line)

/-- The fields of header lines. -/
def fieldsOfLines (lines : List Bytes) : Except ReceiveError Http.Fields :=
  if (lines.head?.bind List.head?).any Http.isPadding then .error .continuation
  else (unfold lines).mapM fieldOfLine

/-- The status that a status line states. -/
def statusOfLine? (line : Bytes) : Option Nat :=
  match line with
  | 72 :: 84 :: 84 :: 80 :: 47 :: major :: 46 :: minor :: 32 :: a :: b :: c :: rest =>
    let reasonFits := match rest with
      | [] => true
      | 32 :: reason => reason.all fun b => Http.isVisible b || Http.isPadding b
      | _ => false
    if [major, minor, a, b, c].all Http.isDigitOctet && reasonFits then
      some (Http.ofDigitOctets [a, b, c])
    else none
  | _ => none

/-- A head: the status and the fields. -/
structure Head where
  status : Nat
  fields : Http.Fields
  deriving DecidableEq, Repr

/-- The most octets that are kept while a head is not complete. -/
def bufferLimit : Nat := 102400

/-- The head at the start of the octets, and what follows it. -/
def readHead (bs : Bytes) : Except ReceiveError (Head × Bytes) :=
  match sectionLines bs with
  | none =>
    if bs.head?.any (· < 0x21) then .error .notAHead
    else if bufferLimit < bs.length then .error .tooLong
    else .error .noResponse
  | some ([], _) => .error .emptyHead
  | some (first :: lines, rest) =>
    match statusOfLine? first with
    | none => .error (.statusLine first)
    | some status => do
      let fields ← (Http.reconcileReceived (← fieldsOfLines lines)).mapError .field
      if status < 100 then throw (.lowStatus status)
      return ({ status, fields }, rest)

/-- What a request has proposed besides an answer: a tunnel, or another
protocol. -/
structure Proposals where
  tunnel : Bool
  upgrade : Bool
  deriving DecidableEq, Repr

/-- The proposals of a request. -/
def proposals (o : Outgoing) : Proposals where
  tunnel := o.method == "CONNECT"
  upgrade := o.fields.any fun (name, value) =>
    Http.Fields.fold name == Text.ascii "upgrade"
      && value.any fun b => b != 44 && !Text.isBlankOctet b

/-- The head of the response proper and what follows it: the first head that is
not informational, or that switches protocols as proposed.  Each head takes an
octet at least, so `fuel` bounds their number. -/
def finalHead (p : Proposals) : (fuel : Nat) → Bytes → Except ReceiveError (Head × Bytes)
  | 0, _ => .error .noResponse
  | fuel + 1, bs => do
    let (head, rest) ← readHead bs
    if 200 ≤ head.status then return (head, rest)
    else if head.status == 101 then
      if p.upgrade then return (head, rest) else throw .unexpectedSwitch
    else finalHead p fuel rest

/-! ## Bodies -/

/-- The line at the start of the octets, its line end included, and what
follows; nothing if it does not end. -/
def splitReturn : Bytes → Option (Bytes × Bytes)
  | [] => none
  | 13 :: 10 :: rest => some ([13, 10], rest)
  | b :: bs => (splitReturn bs).map fun (line, rest) => (b :: line, rest)

/-- The size that the line before a chunk states: hexadecimal digits, then
perhaps a semicolon with whatever follows, then padding. -/
def chunkSizeOfLine? (line : Bytes) : Option Nat :=
  let text := Http.octetChars (line.take (line.length - 2))
  let digits := text.takeWhile Text.isHexDigit
  let rest := text.drop digits.length
  let fits := match rest with
    | ';' :: more => !more.contains '\n'
    | more => more.all fun c => c == ' ' || c == '\t'
  if 1 ≤ digits.length && digits.length ≤ 20 && fits then some (Text.ofHexDigits digits) else none

/-- The pieces of a body, and what is wrong after them, if anything is. -/
structure Content where
  pieces : List Bytes
  error : Option ReceiveError := none
  deriving DecidableEq, Repr

/-- Content with a piece before it; a piece is not empty. -/
def Content.cons (piece : Bytes) (c : Content) : Content :=
  { c with pieces := if piece.isEmpty then c.pieces else piece :: c.pieces }

/-- What is wrong with the trailer section of a chunked body. -/
def trailerError? (bs : Bytes) : Option ReceiveError :=
  match sectionLines bs with
  | none => some (if bs.isEmpty then .unfinishedChunks else .unfinishedLine)
  | some (lines, _) =>
    match fieldsOfLines lines with
    | .error e => some e
    | .ok fields =>
      match Http.reconcileReceived fields with
      | .error fault => some (.field fault)
      | .ok _ => none

/-- What follows the line end after a chunk. -/
def skipChunkEnd (bs : Bytes) : Except ReceiveError Bytes :=
  match bs with
  | 13 :: 10 :: rest => .ok rest
  | [] | [13] => .error .unfinishedChunks
  | bs => .error (.chunkFooter (bs.take 2) [13, 10])

/-- The pieces of a chunked body; `fuel` bounds their number. -/
def chunkPieces : (fuel : Nat) → Bytes → Content
  | 0, _ => { pieces := [] }
  | fuel + 1, bs =>
    match splitReturn bs with
    | none =>
      let error := if bs.isEmpty then ReceiveError.unfinishedChunks else .unfinishedLine
      { pieces := [], error := some error }
    | some (line, rest) =>
      match chunkSizeOfLine? line with
      | none => { pieces := [], error := some (.chunkHeader line) }
      | some 0 => { pieces := [], error := trailerError? rest }
      | some size =>
        let piece := rest.take size
        let more := match skipChunkEnd (rest.drop size) with
          | .ok next => chunkPieces fuel next
          | .error e => { pieces := [], error := some e }
        more.cons piece

/-- Whether the response to a request has no body, whatever its fields say. -/
def isBodyless (o : Outgoing) (h : Head) : Bool :=
  o.method == "HEAD" || !Http.carriesBody h.status
    || (o.method == "CONNECT" && h.status < 300)

/-- The body at the start of the octets. -/
def readContent (o : Outgoing) (h : Head) (bs : Bytes) : Content :=
  if isBodyless o h then { pieces := [] }
  else match Http.framing h.fields with
    | .chunked => chunkPieces (bs.length + 1) bs
    | .length n =>
      ({ pieces := [], error := if bs.length < n then some (.shortBody bs.length n) else none }
        : Content).cons (bs.take n)
    | .unstated => Content.cons bs { pieces := [] }

end Incoming

end ProxyTrial
