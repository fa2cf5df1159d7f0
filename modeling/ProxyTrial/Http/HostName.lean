import ProxyTrial.Text.Blank
import ProxyTrial.Text.Letter
import ProxyTrial.Text.Lower
import ProxyTrial.Text.Narrow
import ProxyTrial.Text.Punycode
import ProxyTrial.Text.Quoted
/-!
# Host names beyond ASCII

The labels of a host name may have letters and digits of any script, as far as
they do not stand for others.  Such a label is sent in ASCII, with a mark at its
start.

## Main definitions

* `isLabel`: whether characters may be a label
* `asciiHost?`: the host name that is sent
* `HostReader`: what reads a name that was sent
-/

namespace ProxyTrial.Http

/-- Letters and digits that labels must not have, because they are forms of
others or would change the meaning of those beside them. -/
def unfitLetters : Text.CodeRanges := #[
  (0xAA, 0xAA), (0xB5, 0xB5), (0xBA, 0xBA), (0x133, 0x133), (0x140, 0x140), (0x149, 0x149),
  (0x17F, 0x17F), (0x1C6, 0x1C6), (0x1C9, 0x1C9), (0x1CC, 0x1CC), (0x1F3, 0x1F3), (0x2B0, 0x2B8),
  (0x2E0, 0x2E4), (0x374, 0x374), (0x37A, 0x37A), (0x3D0, 0x3D6), (0x3F0, 0x3F2), (0x3F5, 0x3F5),
  (0x587, 0x587), (0x640, 0x640), (0x660, 0x669), (0x675, 0x678), (0x6F0, 0x6F9), (0x7FA, 0x7FA),
  (0x958, 0x95F), (0x9DC, 0x9DD), (0x9DF, 0x9DF), (0xA33, 0xA33), (0xA36, 0xA36), (0xA59, 0xA5B),
  (0xA5E, 0xA5E), (0xB5C, 0xB5D), (0xE33, 0xE33), (0xEB3, 0xEB3), (0xEDC, 0xEDD), (0xF43, 0xF43),
  (0xF4D, 0xF4D), (0xF52, 0xF52), (0xF57, 0xF57), (0xF5C, 0xF5C), (0xF69, 0xF69), (0x10FC, 0x10FC),
  (0x1100, 0x11FF), (0x13F8, 0x13FD), (0x1C80, 0x1C88), (0x1D2C, 0x1D2E), (0x1D30, 0x1D3A),
  (0x1D3C, 0x1D4D), (0x1D4F, 0x1D6A), (0x1D78, 0x1D78), (0x1D9B, 0x1DBF), (0x1E9A, 0x1E9B),
  (0x1F71, 0x1F71), (0x1F73, 0x1F73), (0x1F75, 0x1F75), (0x1F77, 0x1F77), (0x1F79, 0x1F79),
  (0x1F7B, 0x1F7B), (0x1F7D, 0x1F7D), (0x1F80, 0x1F87), (0x1F90, 0x1F97), (0x1FA0, 0x1FA7),
  (0x1FB2, 0x1FB4), (0x1FB7, 0x1FB7), (0x1FBE, 0x1FBE), (0x1FC2, 0x1FC4), (0x1FC7, 0x1FC7),
  (0x1FD3, 0x1FD3), (0x1FE3, 0x1FE3), (0x1FF2, 0x1FF4), (0x1FF7, 0x1FF7), (0x2071, 0x2071),
  (0x207F, 0x207F), (0x2090, 0x209C), (0x2102, 0x2102), (0x2107, 0x2107), (0x210A, 0x2113),
  (0x2115, 0x2115), (0x2119, 0x211D), (0x2124, 0x2124), (0x2128, 0x2128), (0x212C, 0x212D),
  (0x212F, 0x2131), (0x2133, 0x2139), (0x213C, 0x213F), (0x2145, 0x2149), (0x2C7C, 0x2C7D),
  (0x2D6F, 0x2D6F), (0x3031, 0x3035), (0x303B, 0x303B), (0x309F, 0x309F), (0x30FF, 0x30FF),
  (0x3131, 0x318E), (0xA69C, 0xA69D), (0xA770, 0xA770), (0xA7F2, 0xA7F4), (0xA7F8, 0xA7F9),
  (0xA960, 0xA97C), (0xAB5C, 0xAB5F), (0xAB69, 0xAB69), (0xAB70, 0xABBF), (0xD7B0, 0xD7C6),
  (0xD7CB, 0xD7FB), (0xF900, 0xFA0D), (0xFA10, 0xFA10), (0xFA12, 0xFA12), (0xFA15, 0xFA1E),
  (0xFA20, 0xFA20), (0xFA22, 0xFA22), (0xFA25, 0xFA26), (0xFA2A, 0xFA6D), (0xFA70, 0xFAD9),
  (0xFB00, 0xFB06), (0xFB13, 0xFB17), (0xFB1D, 0xFB1D), (0xFB1F, 0xFB28), (0xFB2A, 0xFB36),
  (0xFB38, 0xFB3C), (0xFB3E, 0xFB3E), (0xFB40, 0xFB41), (0xFB43, 0xFB44), (0xFB46, 0xFBB1),
  (0xFBD3, 0xFD3D), (0xFD50, 0xFD8F), (0xFD92, 0xFDC7), (0xFDF0, 0xFDFB), (0xFE70, 0xFE72),
  (0xFE74, 0xFE74), (0xFE76, 0xFEFC), (0xFF10, 0xFF19), (0xFF41, 0xFF5A), (0xFF66, 0xFFBE),
  (0xFFC2, 0xFFC7), (0xFFCA, 0xFFCF), (0xFFD2, 0xFFD7), (0xFFDA, 0xFFDC), (0x10781, 0x10785),
  (0x10787, 0x107B0), (0x107B2, 0x107BA), (0x1D400, 0x1D454), (0x1D456, 0x1D49C),
  (0x1D49E, 0x1D49F), (0x1D4A2, 0x1D4A2), (0x1D4A5, 0x1D4A6), (0x1D4A9, 0x1D4AC),
  (0x1D4AE, 0x1D4B9), (0x1D4BB, 0x1D4BB), (0x1D4BD, 0x1D4C3), (0x1D4C5, 0x1D505),
  (0x1D507, 0x1D50A), (0x1D50D, 0x1D514), (0x1D516, 0x1D51C), (0x1D51E, 0x1D539),
  (0x1D53B, 0x1D53E), (0x1D540, 0x1D544), (0x1D546, 0x1D546), (0x1D54A, 0x1D550),
  (0x1D552, 0x1D6A5), (0x1D6A8, 0x1D6C0), (0x1D6C2, 0x1D6DA), (0x1D6DC, 0x1D6FA),
  (0x1D6FC, 0x1D714), (0x1D716, 0x1D734), (0x1D736, 0x1D74E), (0x1D750, 0x1D76E),
  (0x1D770, 0x1D788), (0x1D78A, 0x1D7A8), (0x1D7AA, 0x1D7C2), (0x1D7C4, 0x1D7CB),
  (0x1D7CE, 0x1D7FF), (0x1EE00, 0x1EE03), (0x1EE05, 0x1EE1F), (0x1EE21, 0x1EE22),
  (0x1EE24, 0x1EE24), (0x1EE27, 0x1EE27), (0x1EE29, 0x1EE32), (0x1EE34, 0x1EE37),
  (0x1EE39, 0x1EE39), (0x1EE3B, 0x1EE3B), (0x1EE42, 0x1EE42), (0x1EE47, 0x1EE47),
  (0x1EE49, 0x1EE49), (0x1EE4B, 0x1EE4B), (0x1EE4D, 0x1EE4F), (0x1EE51, 0x1EE52),
  (0x1EE54, 0x1EE54), (0x1EE57, 0x1EE57), (0x1EE59, 0x1EE59), (0x1EE5B, 0x1EE5B),
  (0x1EE5D, 0x1EE5D), (0x1EE5F, 0x1EE5F), (0x1EE61, 0x1EE62), (0x1EE64, 0x1EE64),
  (0x1EE67, 0x1EE6A), (0x1EE6C, 0x1EE72), (0x1EE74, 0x1EE77), (0x1EE79, 0x1EE7C),
  (0x1EE7E, 0x1EE7E), (0x1EE80, 0x1EE89), (0x1EE8B, 0x1EE9B), (0x1EEA1, 0x1EEA3),
  (0x1EEA5, 0x1EEA9), (0x1EEAB, 0x1EEBB), (0x1FBF0, 0x1FBF9), (0x2F800, 0x2FA1D)]

/-- Whether a character may stand in a label; letters are small. -/
def isLabelChar (c : Char) : Bool :=
  if c.toNat < 128 then c.isLower || c.isDigit || c == '-'
  else (Text.isLetter c || Text.isDecimal c) && Text.lowerChar c == c && !unfitLetters.contains c

/-- The blocks of scripts that are written from right to left. -/
def rightToLeft : Text.CodeRanges := #[
  (0x590, 0x8FF), (0xFB1D, 0xFDFF), (0xFE70, 0xFEFF), (0x10800, 0x10FFF), (0x1E800, 0x1EFFF)]

/-- Whether a label keeps to one direction.  From right to left, it begins with
a letter, and has no others than those of the direction. -/
def keepsDirection (label : List Char) : Bool :=
  !label.any rightToLeft.contains
    || (label.head?.any rightToLeft.contains
      && label.all fun c => rightToLeft.contains c || c.isDigit || c == '-')

/-- Whether hyphens stand where they may: not at the ends, and not where the
mark of a label in ASCII has them. -/
def hyphensFit (label : List Char) : Bool :=
  label.head? != some '-' && label.getLast? != some '-' && (label.drop 2).take 2 != ['-', '-']

/-- Whether characters may be a label. -/
def isLabel (label : List Char) : Bool :=
  !label.isEmpty && label.all isLabelChar && hyphensFit label && keepsDirection label

/-- The mark of labels that are written in ASCII. -/
def labelMark : List Char := "xn--".toList

/-- The most characters of a label that is sent. -/
def labelLimit : Nat := 63

/-- The most characters of a host name that is sent, its last dot apart. -/
def hostLimit : Nat := 253

/-- A label as it is read. -/
def readLabel (label : List Char) : Except String (List Char) :=
  if labelMark.isPrefixOf label then
    let written := label.drop labelMark.length
    if written.isEmpty then .error "Malformed A-label, no Punycode eligible content found"
    else if written.getLast? == some '-' then .error "A-label must not end with a hyphen"
    else
      let (plain, digits) := Text.Punycode.parts '-' written
      match Text.Punycode.decode? false plain digits with
      | none => .error "Invalid A-label"
      | some label => check label
  else check label
where
  /-- A label that may be one. -/
  check (label : List Char) : Except String (List Char) :=
    if label.isEmpty then .error "Empty Label"
    else if isLabel label then .ok label
    else .error ("Invalid label " ++ Text.quoted (String.ofList label))

/-- A label as it is sent. -/
def asciiLabel? (label : List Char) : Option (List Char) :=
  let sent :=
    if label.all (·.toNat < 128) then (readLabel label).toOption.map fun _ => label
    else if isLabel label then some (labelMark ++ Text.Punycode.encode label) else none
  sent.filter (·.length ≤ labelLimit)

/-- The characters that separate labels. -/
def labelDots : List Char := ['.', '\u3002', '\uff0e', '\uff61']

/-- A host name as it is sent, if all its labels are. -/
def asciiHost? (host : List Char) : Option (List Char) :=
  let host := (Text.lower (String.ofList host)).toList
  let labels := Text.splitOnElem '.' (host.map fun c => if labelDots.contains c then '.' else c)
  let (labels, last) := if labels.getLast? = some [] then (labels.dropLast, ['.']) else (labels, [])
  match labels.mapM asciiLabel? with
  | none => none
  | some sent =>
    let sent := List.intercalate ['.'] sent
    if host.length ≤ hostLimit + 1 && sent.length ≤ hostLimit then some (sent ++ last) else none

/-! ## Reading -/

/-- What reads host names with a mark: the name in its own letters, or what is
wrong with it. -/
abbrev HostReader := String → Except String String

/-- A host name as it is read. -/
def readHostName : HostReader := fun host => do
  let labels := Text.splitOnElem '.' host.toList
  let (labels, last) := if labels.getLast? = some [] then (labels.dropLast, [[]]) else (labels, [])
  let read ← labels.mapM readLabel
  return String.ofList (List.intercalate ['.'] (read ++ last))

/-- What is wrong with a host of a URL. -/
inductive HostFault where
  /-- The name cannot be read. -/
  | unreadable (reason : String)
  /-- The host is not ASCII. -/
  | notAscii (error : Text.EncodeError)
  deriving DecidableEq, Repr

/-- The wording of the fault. -/
def HostFault.message : HostFault → String
  | unreadable reason => reason
  | notAscii error => error.message

/-- The text of a host: a name with a mark is read, any other host stands as it
is. -/
def hostText (reader : HostReader) (host : String) : Except HostFault String :=
  if labelMark.isPrefixOf host.toList then (reader host).mapError .unreadable else .ok host

/-- Checks that a host can be written in ASCII. -/
def checkAscii (host : String) : Except HostFault Unit := do
  let _ ← (Text.encode .ascii host).mapError .notAscii

end ProxyTrial.Http
