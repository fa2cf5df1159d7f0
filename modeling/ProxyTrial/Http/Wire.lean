import ProxyTrial.Http.Headers
import ProxyTrial.Text.Integer
/-!
# Header fields on a connection

What two peers write to each other has to follow the grammar of header fields,
and the fields that frame the body have to agree with each other.

## Main definitions

* `checkField`: the grammar of one field
* `reconcileSent`, `reconcileReceived`: the fields with the framing ones in their plain form
* `framing`: how the body is delimited
-/

namespace ProxyTrial.Http

/-- What is wrong with header fields. -/
inductive FieldFault where
  | name (name : Bytes)
  | value (value : Bytes)
  | conflictingLengths
  | malformedLength
  | manyTransferEncodings
  | unknownTransferEncoding
  deriving DecidableEq, Repr

/-- The wording of a fault. -/
def FieldFault.message : FieldFault → String
  | name n => "Illegal header name " ++ Text.quotedOctets n
  | value v => "Illegal header value " ++ Text.quotedOctets v
  | conflictingLengths => "conflicting Content-Length headers"
  | malformedLength => "bad Content-Length"
  | manyTransferEncodings => "multiple Transfer-Encoding headers"
  | unknownTransferEncoding => "Only Transfer-Encoding: chunked is supported"

/-- Whether an octet is an ASCII digit. -/
def isDigitOctet (b : UInt8) : Bool := 48 ≤ b && b ≤ 57

/-- Whether an octet is an ASCII letter. -/
def isLetterOctet (b : UInt8) : Bool := (65 ≤ b && b ≤ 90) || (97 ≤ b && b ≤ 122)

/-- Whether an octet may stand in a token. -/
def isTokenOctet (b : UInt8) : Bool :=
  isDigitOctet b || isLetterOctet b || (Text.ascii "!#$%&'*+-.^_\x60|~").contains b

/-- Whether octets are a token. -/
def isToken (bs : Bytes) : Bool := !bs.isEmpty && bs.all isTokenOctet

/-- Whether an octet is a space or a tab. -/
def isPadding (b : UInt8) : Bool := b == 32 || b == 9

/-- Whether an octet may stand in a field value, spaces and tabs aside. -/
def isVisible (b : UInt8) : Bool := b != 0 && !Text.isBlankOctet b

/-- Whether octets are a field value: no padding at either end, and nothing but
padding between visible octets. -/
def isFieldValue (bs : Bytes) : Bool :=
  bs.all (fun b => isVisible b || isPadding b)
    && !(bs.head?.any isPadding) && !(bs.getLast?.any isPadding)

/-- Checks the name and the value of a field. -/
def checkField (f : Bytes × Bytes) : Except FieldFault Unit :=
  if !isToken f.1 then .error (.name f.1)
  else if !isFieldValue f.2 then .error (.value f.2)
  else .ok ()

/-- The most digits that a length may have. -/
def lengthDigits : Nat := 20

/-- The length that a field value states, possibly more than once. -/
def statedLength (value : Bytes) : Except FieldFault Bytes :=
  match (Text.splitOnElem 44 value).map (Text.trimBy Text.isBlankOctet) with
  | [] => .error .malformedLength
  | length :: more =>
    if more.any (· != length) then .error .conflictingLengths
    else if length.isEmpty || !length.all isDigitOctet || length.length > lengthDigits then
      .error .malformedLength
    else .ok length

/-- The fields in order, each of which has to pass a check of its own, given
the length and whether there is a transfer encoding so far.  A length is kept
once. -/
def reconcileFrom (check : Bytes × Bytes → Except FieldFault Unit) (length : Option Bytes)
    (encoded : Bool) : Fields → Except FieldFault Fields
  | [] => .ok []
  | (name, value) :: rest => do
    check (name, value)
    if Fields.fold name == Text.ascii "content-length" then
      let stated ← statedLength value
      match length with
      | none => return (name, stated) :: (← reconcileFrom check (some stated) encoded rest)
      | some length =>
        if length == stated then reconcileFrom check (some length) encoded rest
        else throw .conflictingLengths
    else if Fields.fold name == Text.ascii "transfer-encoding" then
      if encoded then throw .manyTransferEncodings
      else if Fields.fold value != Text.ascii "chunked" then throw .unknownTransferEncoding
      else return (name, Fields.fold value) :: (← reconcileFrom check length true rest)
    else return (name, value) :: (← reconcileFrom check length encoded rest)

/-- Fields to be sent, with those that frame the body in their plain form. -/
def reconcileSent (fs : Fields) : Except FieldFault Fields := reconcileFrom checkField none false fs

/-- Fields that have been received, with those that frame the body in their
plain form. -/
def reconcileReceived (fs : Fields) : Except FieldFault Fields :=
  reconcileFrom (fun _ => .ok ()) none false fs

/-- The first value of the fields with a name. -/
def fieldValue? (fs : Fields) (name : String) : Option Bytes :=
  (fs.find? fun f => Fields.fold f.1 == Text.ascii name).map (·.2)

/-- How a body is delimited. -/
inductive Framing where
  | chunked
  | length (n : Nat)
  /-- Nothing is said about it. -/
  | unstated
  deriving DecidableEq, Repr

/-- The value of ASCII digits. -/
def ofDigitOctets (bs : Bytes) : Nat := Text.ofDigits 10 (bs.map fun b => b.toNat - 48)

/-- How fields delimit a body; a transfer encoding goes before a length. -/
def framing (fs : Fields) : Framing :=
  if (fieldValue? fs "transfer-encoding").isSome then .chunked
  else match fieldValue? fs "content-length" with
    | some length => .length (ofDigitOctets length)
    | none => .unstated

end ProxyTrial.Http
