import ProxyTrial.Deflate.Block
/-!
# Containers of compressed data

Compressed data stands alone, or in one of two containers, which put a header
before it and checksums of the expanded data behind it.

## Main definitions

* `expandRaw`, `expandZlib`, `expandGzip`: the octets that a possibly
  incomplete container holds
-/

namespace ProxyTrial.Deflate

/-- The two sums of the Adler checksum after more octets. -/
def adlerSums (sums : Nat × Nat) (bs : Bytes) : Nat × Nat :=
  bs.foldl (fun (a, b) x =>
    let a := (a + x.toNat) % 65521
    (a, (b + a) % 65521)) sums

/-- The Adler checksum. -/
def adler32 (bs : Bytes) : Nat :=
  let (a, b) := adlerSums (1, 0) bs
  b * 65536 + a

/-- Eight steps of the division that gives the cyclic checksum. -/
def crcSteps : (n : Nat) → Nat → Nat
  | 0, c => c
  | n + 1, c => crcSteps n (if c % 2 == 1 then (c / 2) ^^^ 0xEDB88320 else c / 2)

/-- The cyclic redundancy checksum. -/
def crc32 (bs : Bytes) : Nat :=
  (bs.foldl (fun c x => (c / 256) ^^^ crcSteps 8 ((c ^^^ x.toNat) % 256)) 0xFFFFFFFF) ^^^ 0xFFFFFFFF

/-- A number of `n` octets, the highest first. -/
def bigEndian (bs : Bytes) : Nat := bs.foldl (fun n b => n * 256 + b.toNat) 0

/-- A number of `n` octets, the lowest first. -/
def littleEndian (bs : Bytes) : Nat := bigEndian bs.reverse

/-- The octets of whole octets of bits. -/
def octetsOf (bits : List Bool) : Bytes :=
  match bits with
  | a :: b :: c :: d :: e :: f :: g :: h :: rest =>
    let value := [a, b, c, d, e, f, g, h].foldr (fun (bit : Bool) n => bit.toNat + 2 * n) 0
    UInt8.ofNat value :: octetsOf rest
  | _ => []

/-- The octets behind compressed data. -/
def trailer (p : Progress) : Bytes := octetsOf (alignBits p.bits)

/-- The octets that compressed data without a container holds. -/
def expandRaw (bs : Bytes) : Except Fault Bytes :=
  let p := expand (bitsOf bs)
  match p.stop with
  | some (.faulty fault) => .error fault
  | _ => .ok p.output.toList

/-- Checks the octets behind compressed data, if there are enough of them. -/
def checkTrailer (expected stated : Nat) (complete : Bool) (fault : Fault) : Except Fault Unit :=
  if complete && expected != stated then .error fault else .ok ()

/-- The octets behind a header that is complete, and checksums behind them. -/
def expandChecked (check : Bytes → Bytes → Except Fault Unit) (bs : Bytes) : Except Fault Bytes :=
  let p := expand (bitsOf bs)
  match p.stop with
  | some (.faulty fault) => .error fault
  | some .ended => .ok p.output.toList
  | none => (check p.output.toList (trailer p)).map fun _ => p.output.toList

/-- Checks the trailer of a zlib container. -/
def checkZlib (data behind : Bytes) : Except Fault Unit :=
  checkTrailer (adler32 data) (bigEndian (behind.take 4)) (4 ≤ behind.length) .checksum

/-- The octets that a zlib container holds. -/
def expandZlib (bs : Bytes) : Except Fault Bytes :=
  match bs with
  | a :: b :: rest =>
    if (a.toNat * 256 + b.toNat) % 31 ≠ 0 then .error .header
    else if a.toNat % 16 ≠ 8 then .error .method
    else if 7 < a.toNat / 16 then .error .window
    else if b.toNat / 32 % 2 = 1 then
      if 4 ≤ rest.length then .error .dictionary else .ok []
    else expandChecked checkZlib rest
  | _ => .ok []

/-- Checks the trailer of a gzip container. -/
def checkGzip (data behind : Bytes) : Except Fault Unit := do
  checkTrailer (crc32 data) (littleEndian (behind.take 4)) (4 ≤ behind.length) .checksum
  checkTrailer (data.length % Nat.pow 2 32) (littleEndian ((behind.drop 4).take 4))
    (8 ≤ behind.length)
    .length

/-- The octets after a text that ends with a zero octet; nothing if it does not
end. -/
def skipText : Bytes → Option Bytes
  | [] => none
  | b :: bs => if b == 0 then some bs else skipText bs

/-- The octets after an optional part of a header. -/
def skipWhen (wanted : Bool) (skip : Bytes → Option Bytes) (bs : Bytes) : Option Bytes :=
  if wanted then skip bs else some bs

/-- The octets after a field that states its length. -/
def skipField : Bytes → Option Bytes
  | a :: b :: rest =>
    let n := littleEndian [a, b]
    if n ≤ rest.length then some (rest.drop n) else none
  | _ => none

/-- The octets after the optional parts of a gzip header, the checksum of the
header apart; nothing if they are incomplete. -/
def skipOptional (flags : Nat) (bs : Bytes) : Option Bytes := do
  let bs ← if bs.length < 6 then none else some (bs.drop 6)
  let bs ← skipWhen (flags.testBit 2) skipField bs
  let bs ← skipWhen (flags.testBit 3) skipText bs
  skipWhen (flags.testBit 4) skipText bs

/-- The octets that a gzip container holds. -/
def expandGzip (bs : Bytes) : Except Fault Bytes :=
  match bs with
  | 0x1F :: 0x8B :: method :: flags :: rest =>
    if method.toNat ≠ 8 then .error .method
    else if 32 ≤ flags.toNat then .error .headerFlags
    else match skipOptional flags.toNat rest with
      | none => .ok []
      | some body =>
        if flags.toNat.testBit 1 then
          let header := bs.take (bs.length - body.length)
          if body.length < 2 then .ok []
          else if littleEndian (body.take 2) ≠ crc32 header % 65536 then .error .headerChecksum
          else expandChecked checkGzip (body.drop 2)
        else expandChecked checkGzip body
  | a :: b :: _ => if a == 0x1F && b == 0x8B then .ok [] else .error .header
  | _ => .ok []

end ProxyTrial.Deflate
