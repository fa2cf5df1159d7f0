import ProxyTrial.Text.Blank
import ProxyTrial.Text.Integer
/-!
# IP addresses in text

An address of version 4 is four numbers below 256 without leading zeros.  An
address of version 6 is eight groups of up to four hexadecimal digits, of which
one run may be left out as `::`; the last two may be written as an address of
version 4, and a zone may follow after a percent sign.
-/

namespace ProxyTrial.Http

/-- Whether the characters are a number below 256 without leading zeros. -/
def isOctetText (cs : List Char) : Bool :=
  !cs.isEmpty && cs.length ≤ 3 && cs.all Char.isDigit
    && (cs.length == 1 || cs.head? != some '0')
    && Text.ofDigits 10 (cs.map fun c => c.toNat - 48) ≤ 255

/-- Whether the characters are an address of version 4. -/
def isIpv4 (cs : List Char) : Bool :=
  let parts := Text.splitOnElem '.' cs
  parts.length == 4 && parts.all isOctetText

/-- Whether the characters are a group of an address of version 6. -/
def isGroup (cs : List Char) : Bool :=
  !cs.isEmpty && cs.length ≤ 4 && cs.all Text.isHexDigit

/-- The parts between colons, an address of version 4 at the end counting for
two groups. -/
def ipv6Parts (cs : List Char) : Option (List (List Char)) :=
  let parts := Text.splitOnElem ':' cs
  match parts.getLast? with
  | some last =>
    if parts.length < 3 then none
    else if last.contains '.' then
      if isIpv4 last then some (parts.dropLast ++ [['0'], ['0']]) else none
    else some parts
  | none => none

/-- Whether the characters, without a zone, are an address of version 6. -/
def isPlainIpv6 (cs : List Char) : Bool :=
  match ipv6Parts cs with
  | none => false
  | some parts =>
    let inner := (parts.drop 1).dropLast
    let gaps := (inner.filter List.isEmpty).length
    let firstEmpty := (parts.headD []).isEmpty
    let lastEmpty := (parts.getLastD []).isEmpty
    let groups := parts.filter fun p => !p.isEmpty
    parts.length ≤ 9 && groups.all isGroup &&
      if gaps == 0 then
        parts.length == 8 && !firstEmpty && !lastEmpty
      else
        gaps == 1 && groups.length ≤ 7
          && (!firstEmpty || (parts.drop 1).head? == some [])
          && (!lastEmpty || (parts.reverse.drop 1).head? == some [])

/-- Whether the characters are an address of version 6. -/
def isIpv6 (cs : List Char) : Bool :=
  match Text.cutAt '%' cs with
  | (address, none) => !address.contains '/' && isPlainIpv6 address
  | (address, some zone) =>
    !cs.contains '/' && !zone.isEmpty && !zone.contains '%' && isPlainIpv6 address

end ProxyTrial.Http
