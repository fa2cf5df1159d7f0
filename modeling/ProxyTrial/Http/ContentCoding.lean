import ProxyTrial.Deflate.Container
import ProxyTrial.Http.Headers
import ProxyTrial.Text.Blank
/-!
# Content codings

The body of a message may be compressed, several times over; its fields name
the codings in the order in which they were applied.  The pieces of a body are
decoded as they come.  A body that ends too early is not an error: what it
holds so far counts.
-/

namespace ProxyTrial.Http

/-- A coding that can be undone. -/
inductive ContentCoding where
  | gzip
  | deflate
  deriving DecidableEq, Repr

/-- The coding with a name; other names, `identity` among them, stand for
none. -/
def ContentCoding.ofName? (name : String) : Option ContentCoding :=
  match Text.lower (Text.trim name) with
  | "gzip" => some .gzip
  | "deflate" => some .deflate
  | _ => none

/-- The codings that fields name, in the order in which they were applied. -/
def contentCodings (fs : Fields) : List ContentCoding :=
  let names := (fs.valuesOf "content-encoding").flatMap fun value =>
    (Text.splitOnElem ',' value.toList).map String.ofList
  names.filterMap ContentCoding.ofName?

/-- What undoes a coding piece by piece. -/
structure Decoder where
  coding : ContentCoding
  /-- What has come so far. -/
  seen : Bytes := []
  /-- Whether the data turned out to have no container. -/
  bare : Bool := false
  /-- Whether a piece has come. -/
  started : Bool := false

namespace Decoder

/-- What the data so far holds. -/
def expand (d : Decoder) (data : Bytes) : Except Deflate.Fault Bytes :=
  match d.coding, d.bare with
  | .gzip, _ => Deflate.expandGzip data
  | .deflate, false => Deflate.expandZlib data
  | .deflate, true => Deflate.expandRaw data

/-- What a piece adds.  Deflated data may lack its container, which its first
piece tells. -/
def feed (d : Decoder) (piece : Bytes) : Except Deflate.Fault (Bytes × Decoder) := do
  let data := d.seen ++ piece
  let before ← d.expand d.seen
  let add (d : Decoder) : Except Deflate.Fault (Bytes × Decoder) := do
    let after ← d.expand data
    return (after.drop before.length, { d with seen := data, started := true })
  match add d with
  | .ok result => return result
  | .error fault =>
    if d.coding == .deflate && !d.started then add { d with bare := true } else throw fault

end Decoder

/-- What a piece adds after all decoders, each of which takes what the one
before gives. -/
def feedAll : List Decoder → Bytes → Except Deflate.Fault (Bytes × List Decoder)
  | [], piece => .ok (piece, [])
  | d :: ds, piece => do
    let (piece, d) ← d.feed piece
    let (piece, ds) ← feedAll ds piece
    return (piece, d :: ds)

/-- The body that pieces make after all decoders. -/
def decodePieces : List Decoder → List Bytes → Except Deflate.Fault Bytes
  | _, [] => .ok []
  | ds, piece :: pieces => do
    let (body, ds) ← feedAll ds piece
    return body ++ (← decodePieces ds pieces)

/-- The body that pieces make; the coding applied last is undone first. -/
def decodeContent (fs : Fields) (pieces : List Bytes) : Except Deflate.Fault Bytes :=
  decodePieces ((contentCodings fs).reverse.map fun coding => { coding }) pieces

end ProxyTrial.Http
