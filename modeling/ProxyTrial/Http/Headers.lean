import ProxyTrial.Text.Lower
import ProxyTrial.Text.Narrow
/-!
# Header fields of a message

A message has header fields in order; names that differ only in the case of
letters are the same.  Names and values are octets.  They are read as ASCII if
all of them are, else as UTF-8 if all of them are, else as Latin-1, and a name
is looked up in the encoding in which they are read.
-/

namespace ProxyTrial.Http

/-- The header fields of a message: names and values in order. -/
abbrev Fields := List (Bytes × Bytes)

/-- How the octets of header fields are read. -/
inductive FieldEncoding where
  | ascii
  | utf8
  | latin1
  deriving DecidableEq, Repr

namespace Fields

/-- A name with its ASCII letters small. -/
def fold (name : Bytes) : Bytes := name.map Text.lowerOctet

/-- Whether octets are ASCII. -/
def isAscii (bs : Bytes) : Bool := bs.all (· < 128)

/-- Whether octets are UTF-8. -/
def isUtf8 (bs : Bytes) : Bool := (Text.ofUtf8 bs).toBool

/-- How these fields are read. -/
def encoding (fs : Fields) : FieldEncoding :=
  if fs.all fun (n, v) => isAscii n && isAscii v then .ascii
  else if fs.all fun (n, v) => isUtf8 n && isUtf8 v then .utf8
  else .latin1

end Fields

namespace FieldEncoding

/-- Octets as text. -/
def decode (e : FieldEncoding) (bs : Bytes) : String :=
  match e with
  | .ascii | .latin1 => Text.ofLatin1 bs
  | .utf8 => Text.ofUtf8Lenient bs

/-- Text as octets. -/
def encode (e : FieldEncoding) (s : String) : Except Text.EncodeError Bytes :=
  match e with
  | .ascii => Text.encode .ascii s
  | .latin1 => Text.encode .latin1 s
  | .utf8 => .ok (Text.utf8 s)

end FieldEncoding

namespace Fields

/-- Fields given as text, which has to be ASCII. -/
def ofText : List (String × String) → Except Text.EncodeError Fields
  | [] => .ok []
  | (name, value) :: rest => do
    let n ← Text.encode .ascii name
    let v ← Text.encode .ascii value
    return (n, v) :: (← ofText rest)

/-- The fields as text, their names in small letters. -/
def items (fs : Fields) : List (String × String) :=
  fs.map fun (n, v) => (fs.encoding.decode (fold n), fs.encoding.decode v)

/-- The values of the fields with a name. -/
def values (fs : Fields) (name : String) : Except Text.EncodeError (List String) := do
  let wanted ← fs.encoding.encode (Text.lower name)
  return (fs.filter fun f => fold f.1 == wanted).map fun f => fs.encoding.decode f.2

/-- The values of the fields with a name of ASCII characters. -/
def valuesOf (fs : Fields) (name : String) : List String :=
  (fs.filter fun f => fold f.1 == fold (Text.ascii name)).map fun f => fs.encoding.decode f.2

/-- The values of the fields with a name, joined by commas. -/
def joined? (fs : Fields) (name : String) : Option String :=
  match fs.valuesOf name with
  | [] => none
  | vs => some (", ".intercalate vs)

end Fields

end ProxyTrial.Http
