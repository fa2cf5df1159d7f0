import ProxyTrial.Deflate.PrefixCode
import ProxyTrial.Text.Utf8
/-!
# Compressed blocks

Compressed data is a sequence of blocks, the last of which is marked.  A block
holds octets as they are, or literal octets and copies of earlier ones in
prefix codes, which are fixed or stand at the start of the block.

## Main definitions

* `Fault`: what can be wrong with compressed data
* `expandBlock`: the octets of a block
* `expand`: the octets of a sequence of blocks
-/

namespace ProxyTrial.Deflate

/-- What is wrong with compressed data. -/
inductive Fault where
  | header
  | method
  | window
  | headerFlags
  | headerChecksum
  /-- A dictionary is asked for, and there is none. -/
  | dictionary
  | blockType
  | storedLengths
  | manySymbols
  | codeLengths
  | lengthRepeat
  | noEndOfBlock
  | literalCode
  | distanceCode
  | literalWord
  | distanceWord
  | distance
  | checksum
  | length
  deriving DecidableEq, Repr

/-- The wording of a fault. -/
def Fault.message : Fault → String
  | dictionary => "Error 2 while decompressing data"
  | header => data "incorrect header check"
  | method => data "unknown compression method"
  | window => data "invalid window size"
  | headerFlags => data "unknown header flags set"
  | headerChecksum => data "header crc mismatch"
  | blockType => data "invalid block type"
  | storedLengths => data "invalid stored block lengths"
  | manySymbols => data "too many length or distance symbols"
  | codeLengths => data "invalid code lengths set"
  | lengthRepeat => data "invalid bit length repeat"
  | noEndOfBlock => data "invalid code -- missing end-of-block"
  | literalCode => data "invalid literal/lengths set"
  | distanceCode => data "invalid distances set"
  | literalWord => data "invalid literal/length code"
  | distanceWord => data "invalid distance code"
  | distance => data "invalid distance too far back"
  | checksum => data "incorrect data check"
  | length => data "incorrect length check"
where
  /-- The wording of a fault of the data. -/
  data (reason : String) : String := "Error -3 while decompressing data: " ++ reason

/-- Why reading stops before the end of the data. -/
inductive Stop where
  /-- There are no more bits. -/
  | ended
  | faulty (fault : Fault)
  deriving DecidableEq, Repr

/-- The bits of octets, the lowest bit of an octet first. -/
def bitsOf (bs : Bytes) : List Bool :=
  bs.flatMap fun b => (List.range 8).map fun i => b.toNat.testBit i

/-- The number that the next `n` bits make, the lowest first, and the bits
after them. -/
def takeBits : (n : Nat) → List Bool → Except Stop (Nat × List Bool)
  | 0, bits => .ok (0, bits)
  | _ + 1, [] => .error .ended
  | n + 1, bit :: bits => do
    let (value, rest) ← takeBits n bits
    return (bit.toNat + 2 * value, rest)

/-- The bits from the next octet on. -/
def alignBits (bits : List Bool) : List Bool := bits.drop (bits.length % 8)

/-- The next symbol of a code, and the bits after it. -/
def takeSymbol (c : PrefixCode) (fault : Fault) (bits : List Bool) :
    Except Stop (Nat × List Bool) :=
  match c.read bits with
  | .symbol s rest => .ok (s, rest)
  | .none => .error (.faulty fault)
  | .ended => .error .ended

/-- Octets that have been expanded, the bits that are left, and why reading
stopped, if it did. -/
structure Progress where
  output : Array UInt8
  bits : List Bool
  stop : Option Stop := none

/-- Copies `n` octets as they are. -/
def copyStored (output : Array UInt8) : (n : Nat) → List Bool → Progress
  | 0, bits => { output, bits }
  | n + 1, bits =>
    match takeBits 8 bits with
    | .error stop => { output, bits, stop := some stop }
    | .ok (b, rest) => copyStored (output.push (UInt8.ofNat b)) n rest

/-- Copies `n` octets from `distance` octets back. -/
def copyBack (output : Array UInt8) (distance : Nat) : (n : Nat) → Array UInt8
  | 0 => output
  | n + 1 => copyBack (output.push (output.getD (output.size - distance) 0)) distance n

/-- The smallest lengths of the length symbols, and the bits that add to
them. -/
def lengthSymbols : List (Nat × Nat) := [
  (3, 0), (4, 0), (5, 0), (6, 0), (7, 0), (8, 0), (9, 0), (10, 0), (11, 1), (13, 1), (15, 1),
  (17, 1), (19, 2), (23, 2), (27, 2), (31, 2), (35, 3), (43, 3), (51, 3), (59, 3), (67, 4),
  (83, 4), (99, 4), (115, 4), (131, 5), (163, 5), (195, 5), (227, 5), (258, 0)]

/-- The smallest distances of the distance symbols, and the bits that add to
them. -/
def distanceSymbols : List (Nat × Nat) := [
  (1, 0), (2, 0), (3, 0), (4, 0), (5, 1), (7, 1), (9, 2), (13, 2), (17, 3), (25, 3), (33, 4),
  (49, 4), (65, 5), (97, 5), (129, 6), (193, 6), (257, 7), (385, 7), (513, 8), (769, 8),
  (1025, 9), (1537, 9), (2049, 10), (3073, 10), (4097, 11), (6145, 11), (8193, 12), (12289, 12),
  (16385, 13), (24577, 13)]

/-- The value of a symbol in a table, with the bits that add to it. -/
def takeValue (table : List (Nat × Nat)) (s : Nat) (fault : Fault) (bits : List Bool) :
    Except Stop (Nat × List Bool) :=
  match table[s]? with
  | none => .error (.faulty fault)
  | some (base, extra) => do
    let (more, rest) ← takeBits extra bits
    return (base + more, rest)

/-- What a symbol of the literal code stands for. -/
inductive Item where
  | literal (b : Nat)
  | endOfBlock
  | copy (length distance : Nat)

/-- The next item of a block, and the bits after it. -/
def takeItem (literals distances : PrefixCode) (bits : List Bool) :
    Except Stop (Item × List Bool) := do
  let (s, bits) ← takeSymbol literals .literalWord bits
  if s < 256 then return (.literal s, bits)
  else if s = 256 then return (.endOfBlock, bits)
  else
    let (length, bits) ← takeValue lengthSymbols (s - 257) .literalWord bits
    let (d, bits) ← takeSymbol distances .distanceWord bits
    let (distance, bits) ← takeValue distanceSymbols d .distanceWord bits
    return (.copy length distance, bits)

/-- Expands items up to the end of the block.  An item takes a bit at least, so
`fuel` bounds their number. -/
def expandItems (literals distances : PrefixCode) :
    (fuel : Nat) → Array UInt8 → List Bool → Progress
  | 0, output, bits => { output, bits, stop := some .ended }
  | fuel + 1, output, bits =>
    match takeItem literals distances bits with
    | .error stop => { output, bits, stop := some stop }
    | .ok (.endOfBlock, rest) => { output, bits := rest }
    | .ok (.literal b, rest) =>
      expandItems literals distances fuel (output.push (UInt8.ofNat b)) rest
    | .ok (.copy length distance, rest) =>
      if output.size < distance then { output, bits := rest, stop := some (.faulty .distance) }
      else expandItems literals distances fuel (copyBack output distance length) rest

/-- The code of literals of a block with fixed codes. -/
def fixedLiterals : PrefixCode :=
  .ofLengths (List.replicate 144 8 ++ List.replicate 112 9 ++ List.replicate 24 7
    ++ List.replicate 8 8)

/-- The code of distances of a block with fixed codes. -/
def fixedDistances : PrefixCode := .ofLengths (List.replicate 32 5)

/-- The order in which the lengths of the code for lengths stand. -/
def lengthOrder : List Nat := [16, 17, 18, 0, 8, 7, 9, 6, 10, 5, 11, 4, 12, 3, 13, 2, 14, 1, 15]

/-- The next `n` numbers of three bits each. -/
def takeTriples : (n : Nat) → List Bool → Except Stop (List Nat × List Bool)
  | 0, bits => .ok ([], bits)
  | n + 1, bits => do
    let (x, bits) ← takeBits 3 bits
    let (xs, bits) ← takeTriples n bits
    return (x :: xs, bits)

/-- The next code lengths up to `wanted` of them, after those in `done`; `fuel`
bounds the number of symbols. -/
def takeLengths (code : PrefixCode) (wanted : Nat) :
    (fuel : Nat) → (done : List Nat) → List Bool → Except Stop (List Nat × List Bool)
  | 0, done, bits => .ok (done, bits)
  | fuel + 1, done, bits =>
    if wanted ≤ done.length then .ok (done, bits)
    else do
      let (s, bits) ← match code.read bits with
        | .symbol s rest => pure (s, rest)
        | .none => pure (0, bits.drop 1)
        | .ended => throw .ended
      if s < 16 then takeLengths code wanted fuel (done ++ [s]) bits
      else
        let (previous, base, extra) := match s with
          | 16 => (done.getLast?, 3, 2)
          | 17 => (some 0, 3, 3)
          | _ => (some 0, 11, 7)
        let (more, bits) ← takeBits extra bits
        match previous with
        | none => throw (.faulty .lengthRepeat)
        | some length =>
          if wanted < done.length + base + more then throw (.faulty .lengthRepeat)
          else takeLengths code wanted fuel (done ++ List.replicate (base + more) length) bits

/-- The codes at the start of a block. -/
def takeCodes (bits : List Bool) : Except Stop ((PrefixCode × PrefixCode) × List Bool) := do
  let (literalCount, bits) ← takeBits 5 bits
  let (distanceCount, bits) ← takeBits 5 bits
  let (lengthCount, bits) ← takeBits 4 bits
  if 29 < literalCount || 29 < distanceCount then throw (.faulty .manySymbols)
  let (triples, bits) ← takeTriples (lengthCount + 4) bits
  let given := lengthOrder.zip triples
  let code := PrefixCode.ofLengths ((List.range 19).map fun s => (given.lookup s).getD 0)
  if !code.isUsable true then throw (.faulty .codeLengths)
  let wanted := literalCount + 257 + (distanceCount + 1)
  let (lengths, bits) ← takeLengths code wanted wanted [] bits
  let literals := lengths.take (literalCount + 257)
  if literals[256]? == some 0 then throw (.faulty .noEndOfBlock)
  let literals := PrefixCode.ofLengths literals
  if !literals.isUsable false then throw (.faulty .literalCode)
  let distances := PrefixCode.ofLengths (lengths.drop (literalCount + 257))
  if !distances.isUsable false then throw (.faulty .distanceCode)
  return ((literals, distances), bits)

/-- The length of a stored block. -/
def takeStoredLength (bits : List Bool) : Except Stop (Nat × List Bool) := do
  let (length, bits) ← takeBits 16 (alignBits bits)
  let (complement, bits) ← takeBits 16 bits
  if length + complement = 65535 then return (length, bits) else throw (.faulty .storedLengths)

/-- Expands a block of a kind. -/
def expandBlock (kind : Nat) (output : Array UInt8) (bits : List Bool) : Progress :=
  match kind with
  | 0 =>
    match takeStoredLength bits with
    | .error stop => { output, bits, stop := some stop }
    | .ok (n, bits) => copyStored output n bits
  | 1 => expandItems fixedLiterals fixedDistances (bits.length + 1) output bits
  | 2 =>
    match takeCodes bits with
    | .error stop => { output, bits, stop := some stop }
    | .ok ((literals, distances), bits) =>
      expandItems literals distances (bits.length + 1) output bits
  | _ => { output, bits, stop := some (.faulty .blockType) }

/-- Expands blocks up to the last one; `fuel` bounds their number. -/
def expandBlocks : (fuel : Nat) → Array UInt8 → List Bool → Progress
  | 0, output, bits => { output, bits, stop := some .ended }
  | fuel + 1, output, bits =>
    match takeBits 3 bits with
    | .error stop => { output, bits, stop := some stop }
    | .ok (header, bits) =>
      let p := expandBlock (header / 2) output bits
      if p.stop.isSome || header % 2 == 1 then p else expandBlocks fuel p.output p.bits

/-- Expands a sequence of blocks. -/
def expand (bits : List Bool) : Progress := expandBlocks (bits.length + 1) #[] bits

end ProxyTrial.Deflate
