import ProxyTrial.Http.Headers
import ProxyTrial.Text.Integer
/-!
# The body of a request

The octets of a connection hold the body after the header section.  Where the
body ends is told by the header fields: a chunked body ends itself, another one
has the declared length, which is zero if none is declared.  Reading a body
gives its octets and those that follow it.

## Main definitions

* `readChunked`: the body in chunks, extensions and trailers discarded
* `readBody`: the body by whatever framing the fields declare
-/

namespace ProxyTrial.Http

/-- Why a body cannot be read. -/
inductive BodyError where
  /-- The declared length is no number. -/
  | malformedLength (value : String)
  /-- The size of a chunk is no number. -/
  | malformedChunkSize (text : Bytes)
  /-- A length beyond what can be read at once. -/
  | tooLong
  /-- A length with more digits than are read. -/
  | longNumber (digits : Nat)
  deriving DecidableEq, Repr

/-- The wording of an error. -/
def BodyError.message : BodyError → String
  | malformedLength value => "Malformed Content-Length header: " ++ Text.quoted value
  | malformedChunkSize text => "Malformed chunk size: " ++ Text.quotedOctets text
  | tooLong => "cannot fit 'int' into an index-sized integer"
  | longNumber digits => Text.tooManyDigits digits

/-- Lengths are below this number. -/
def lengthLimit : Nat := Nat.pow 2 63

/-- A line with its line feed, and the octets after it; the last line may lack
the line feed. -/
def splitLine : Bytes → Bytes × Bytes
  | [] => ([], [])
  | b :: bs =>
    if b = 10 then ([b], bs)
    else let (line, rest) := splitLine bs; (b :: line, rest)

/-- At most `n` octets, and those after them. -/
def takeOctets (n : Nat) (bs : Bytes) : Except BodyError (Bytes × Bytes) :=
  if n < lengthLimit then .ok (bs.take n, bs.drop n) else .error .tooLong

/-- An octet string as characters. -/
def octetChars (bs : Bytes) : List Char := bs.map fun b => Char.ofNat b.toNat

/-- What comes after the mark of hexadecimal digits, `0x` or `0x_`, if it is
there. -/
def afterHexMark : List Char → List Char
  | cs@('0' :: x :: '_' :: rest) => if x == 'x' || x == 'X' then rest else cs
  | cs@('0' :: x :: rest) => if x == 'x' || x == 'X' then rest else cs
  | cs => cs

/-- A hexadecimal number without a sign; single underscores may stand between
its digits. -/
def hexNatural? (cs : List Char) : Option Nat :=
  (Text.groupedDigits Text.hexValue? (afterHexMark cs)).map (Text.ofDigits 16)

/-- A hexadecimal number with a sign or without. -/
def hexNumber? (bs : Bytes) : Option Int :=
  let (negative, cs) := Text.splitSign (octetChars bs)
  (hexNatural? cs).map fun (n : Nat) => if negative then -(n : Int) else n

/-- The size that the line before a chunk states: what precedes the first
semicolon, blanks aside; nothing at all stands for zero. -/
def chunkSize (line : Bytes) : Except BodyError Nat :=
  let text := Text.trimBy Text.isBlankOctet (Text.cutAt 59 line).1
  let text := if text.isEmpty then [48] else text
  match hexNumber? text with
  | some (.ofNat n) => .ok n
  | _ => .error (.malformedChunkSize text)

/-- The octets after the lines of a trailer section, which ends with an empty
line or with the octets; `fuel` bounds the number of lines. -/
def skipTrailers : (fuel : Nat) → Bytes → Bytes
  | 0, bs => bs
  | fuel + 1, bs =>
    let (line, rest) := splitLine bs
    if line = [] || line = [10] || line = [13, 10] then rest else skipTrailers fuel rest

/-- The contents of the chunks at the start of the octets, and the octets after
the last one and its trailers.  Each chunk has a line of its own, so `fuel`
bounds their number. -/
def chunks : (fuel : Nat) → Bytes → Except BodyError (Bytes × Bytes)
  | 0, bs => .ok ([], bs)
  | fuel + 1, bs =>
    let (line, rest) := splitLine bs
    if line.isEmpty then .ok ([], rest)
    else do
      let size ← chunkSize line
      if size = 0 then return ([], skipTrailers (rest.length + 1) rest)
      let (data, rest) ← takeOctets size rest
      let (more, rest) ← chunks fuel (splitLine rest).2
      return (data ++ more, rest)

/-- A chunked body and the octets after it. -/
def readChunked (bs : Bytes) : Except BodyError (Bytes × Bytes) := chunks (bs.length + 1) bs

/-- The length that the fields declare. -/
def contentLength (fs : Fields) : Except BodyError Nat :=
  let value := Text.trim ((fs.joined? "content-length").getD "")
  let digits := value.toList
  if digits.isEmpty then .ok 0
  else if !digits.all Char.isDigit then .error (.malformedLength value)
  else if digits.length > Text.digitLimit then .error (.longNumber digits.length)
  else .ok (Text.ofDigits 10 (digits.map fun c => c.toNat - 48))

/-- Whether the fields declare a chunked body. -/
def isChunked (fs : Fields) : Bool :=
  let value := (Text.lower ((fs.joined? "transfer-encoding").getD "")).toList
  (List.range (value.length + 1)).any fun i => "chunked".toList.isPrefixOf (value.drop i)

/-- The body that the fields declare, and the octets after it. -/
def readBody (fs : Fields) (bs : Bytes) : Except BodyError (Bytes × Bytes) := do
  if isChunked fs then readChunked bs
  else takeOctets (← contentLength fs) bs

end ProxyTrial.Http
