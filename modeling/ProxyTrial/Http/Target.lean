import ProxyTrial.Http.IpAddress
import ProxyTrial.Text.Identifier
import ProxyTrial.Text.Quoted
/-!
# The path of a request target

A target may be a path or a whole URL; its path is what is left without scheme,
authority, query and fragment.  Controls and spaces before the target and tabs
and line ends inside it do not count.
-/

namespace ProxyTrial.Http

/-- Why a target has no path. -/
inductive TargetError where
  /-- Brackets do not pair up in the authority. -/
  | brackets
  | futureAddress
  | notAnAddress (host : String)
  | ipv4InBrackets
  /-- Characters of the authority stand for delimiters. -/
  | disguisedDelimiters (authority : String)
  deriving DecidableEq, Repr

/-- The wording of an error. -/
def TargetError.message : TargetError → String
  | brackets => "Invalid IPv6 URL"
  | futureAddress => "IPvFuture address is invalid"
  | notAnAddress host => Text.quoted host ++ " does not appear to be an IPv4 or IPv6 address"
  | ipv4InBrackets => "An IPv4 address cannot be in brackets"
  | disguisedDelimiters authority =>
    "netloc '" ++ authority ++ "' contains invalid characters under NFKC normalization"

/-- The characters that compatibility forms turn into a text with a slash, a
question mark, a number sign, an at sign or a colon. -/
def disguises : List Nat := [
  0x2047, 0x2048, 0x2049, 0x2100, 0x2101, 0x2105, 0x2106, 0x2A74, 0xFE13, 0xFE16, 0xFE55, 0xFE56,
  0xFE5F, 0xFE6B, 0xFF03, 0xFF0F, 0xFF1A, 0xFF1F, 0xFF20]

/-- Whether the character may stand in a scheme. -/
def isSchemeChar (c : Char) : Bool := c.isAlphanum || c == '+' || c == '-' || c == '.'

/-- A target without its scheme. -/
def withoutScheme (cs : List Char) : List Char :=
  match Text.cutAt ':' cs with
  | (c :: scheme, some rest) =>
    if c.isAlpha && scheme.all isSchemeChar then rest else cs
  | _ => cs

/-- Checks a host in brackets. -/
def checkBracketed (host : List Char) : Except TargetError Unit :=
  match host with
  | 'v' :: cs =>
    match Text.cutAt '.' cs with
    | (version, some rest) =>
      let versionFits := !version.isEmpty && version.all Text.isHexDigit
      if versionFits && !rest.isEmpty && !rest.contains '\n' then .ok ()
      else .error .futureAddress
    | _ => .error .futureAddress
  | host =>
    if isIpv4 host then .error .ipv4InBrackets
    else if isIpv6 host then .ok ()
    else .error (.notAnAddress (String.ofList host))

/-- Checks the brackets of an authority. -/
def checkAuthority (cs : List Char) : Except TargetError Unit :=
  if cs.contains '[' != cs.contains ']' then .error .brackets
  else if cs.contains '[' then
    let afterOpen := (Text.cutAt '[' cs).2.getD []
    checkBracketed (Text.cutAt ']' afterOpen).1
  else .ok ()

/-- Checks that an authority can be told apart from what stands around it. -/
def checkNetloc (authority : List Char) : Except TargetError Unit := do
  checkAuthority authority
  if authority.any fun c => disguises.contains c.toNat then
    throw (.disguisedDelimiters (String.ofList authority))

/-- The path of a target. -/
def targetPath (target : String) : Except TargetError String := do
  let cs := target.toList.dropWhile fun c => c.toNat ≤ 0x20
  let cs := withoutScheme (cs.filter fun c => c != '\t' && c != '\r' && c != '\n')
  let (authority, rest) := match cs with
    | '/' :: '/' :: more =>
      let ends := fun c : Char => c == '/' || c == '?' || c == '#'
      (more.takeWhile (!ends ·), more.dropWhile (!ends ·))
    | cs => ([], cs)
  checkNetloc authority
  return String.ofList (rest.takeWhile fun c => c != '#' && c != '?')

end ProxyTrial.Http
