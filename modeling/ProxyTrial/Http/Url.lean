import ProxyTrial.Http.HostName
import ProxyTrial.Http.PercentEncoding
import ProxyTrial.Http.Target
import ProxyTrial.Text.Lower
/-!
# URLs

A URL has a scheme, an authority of user, host and port, a path, a query and a
fragment.  Any of them may be missing.  They are kept in the form in which they
are sent: host in small letters, dot segments removed from the path, and
everything percent-encoded.

## Main definitions

* `UrlParts.ofText`: the parts of a text, as they stand in it
* `UrlParts.normalize`: the URL that the parts make
* `Url.ofText`: the URL of a text
* `Url.joined`: a text that is meant from a URL, in full
-/

namespace ProxyTrial.Http

/-- Why a text is no URL. -/
inductive UrlError where
  | tooLong
  /-- A control character in the text. -/
  | control (c : Char) (position : Nat)
  | componentTooLong (component : String)
  /-- A control character in a component. -/
  | controlIn (component : String) (c : Char) (position : Nat)
  | ipv4 (host : String)
  | ipv6 (host : String)
  | hostName (host : String)
  | port (text : String)
  /-- A path that does not begin with a slash follows an authority. -/
  | pathAfterAuthority
  | doubleSlash
  | leadingColon
  deriving DecidableEq, Repr

/-- The wording of an error. -/
def UrlError.message : UrlError → String
  | tooLong => "URL too long"
  | control c position =>
    "Invalid non-printable ASCII character in URL, " ++ Text.quoted c.toString
      ++ s!" at position {position}."
  | componentTooLong component => s!"URL component '{component}' too long"
  | controlIn component c position =>
    s!"Invalid non-printable ASCII character in URL {component} component, "
      ++ Text.quoted c.toString ++ s!" at position {position}."
  | ipv4 host => "Invalid IPv4 address: " ++ Text.quoted host
  | ipv6 host => "Invalid IPv6 address: " ++ Text.quoted host
  | hostName host => "Invalid IDNA hostname: " ++ Text.quoted host
  | port text => "Invalid port: " ++ Text.quoted text
  | pathAfterAuthority => "For absolute URLs, path must be empty or begin with '/'"
  | doubleSlash => "Relative URLs cannot have a path starting with '//'"
  | leadingColon => "Relative URLs cannot have a path starting with ':'"

/-- A URL. -/
structure Url where
  scheme : String
  /-- User name and password, with a colon between them. -/
  user : String
  host : String
  port : Option Int
  path : String
  query : Option String
  fragment : Option String
  deriving DecidableEq, Repr

/-- The parts of a URL as they stand in a text. -/
structure UrlParts where
  scheme : List Char
  user : List Char
  host : List Char
  port : List Char
  path : List Char
  query : Option (List Char)
  fragment : Option (List Char)
  deriving DecidableEq, Repr

/-- The most characters that a URL or a component of one may have. -/
def urlLimit : Nat := 65536

/-- Whether a character is an ASCII control. -/
def isControl (c : Char) : Bool := c.toNat < 0x20 || c.toNat == 0x7F

/-- The first control character and its position. -/
def firstControl? (cs : List Char) : Option (Char × Nat) :=
  let before := cs.takeWhile fun c => !isControl c
  (cs.drop before.length).head?.map fun c => (c, before.length)

/-- The scheme at the start of a text, which may be empty before the colon, and
what follows it. -/
def splitScheme (cs : List Char) : List Char × List Char :=
  let scheme := match cs with
    | c :: _ => if c.isAlpha then cs.takeWhile isSchemeChar else []
    | [] => []
  match cs.drop scheme.length with
  | ':' :: rest => (scheme, rest)
  | _ => ([], cs)

/-- What precedes the last occurrence of an element, if there is one, and what
follows it. -/
def splitLast (x : Char) (cs : List Char) : Option (List Char) × List Char :=
  match Text.cutAt x cs.reverse with
  | (after, some before) => (some before.reverse, after.reverse)
  | (after, none) => (none, after.reverse)

/-- The user, the host and the port of an authority.  Only a host in brackets
has colons in it. -/
def splitAuthority (cs : List Char) : List Char × List Char × List Char :=
  let (user, rest) := splitLast '@' cs
  let (host, rest) := match rest with
    | '[' :: _ =>
      match splitLast ']' rest with
      | (some before, after) => (before ++ [']'], after)
      | (none, _) => (rest.takeWhile (· != ':'), rest.dropWhile (· != ':'))
    | _ => (rest.takeWhile (· != ':'), rest.dropWhile (· != ':'))
  let port := match rest with
    | ':' :: port => port
    | port => port
  (user.getD [], host, port)

/-- The parts of a text. -/
def UrlParts.ofText (cs : List Char) : UrlParts :=
  let (scheme, rest) := splitScheme cs
  let (rest, fragment) := Text.cutAt '#' rest
  let (rest, query) := Text.cutAt '?' rest
  let (authority, path) := match rest with
    | '/' :: '/' :: more => (more.takeWhile (· != '/'), more.dropWhile (· != '/'))
    | _ => ([], rest)
  let (user, host, port) := splitAuthority authority
  { scheme, user, host, port, path, query, fragment }

/-- Whether a host looks like four numbers with any character between two of
them. -/
def looksLikeIpv4 (host : List Char) : Bool :=
  let runs := splitDigits host
  let separators := runs.length - 1
  separators ≤ 3 && runs.all (!·.isEmpty)
    && 3 ≤ (runs.map fun run => (run.length - 1) / 2).foldl (· + ·) separators
where
  /-- The runs of digits between the other characters. -/
  splitDigits : List Char → List (List Char)
    | [] => [[]]
    | c :: cs =>
      match splitDigits cs with
      | [] => []
      | run :: runs => if c.isDigit then (c :: run) :: runs else [] :: run :: runs

/-- A host as it is sent. -/
def normalizeHost (host : List Char) : Except UrlError String :=
  if host.isEmpty then .ok ""
  else if looksLikeIpv4 host then
    if isIpv4 host then .ok (String.ofList host) else .error (.ipv4 (String.ofList host))
  else if host.head? == some '[' && host.getLast? == some ']' && 2 ≤ host.length then
    let inner := (host.drop 1).dropLast
    if isIpv6 inner then .ok (String.ofList inner) else .error (.ipv6 (String.ofList host))
  else if host.all fun c => c.toNat < 128 then
    .ok (percentEncode isHostSafe (Text.lower (String.ofList host)).toList)
  else match asciiHost? host with
    | some sent => .ok (String.ofList sent)
    | none => .error (.hostName (String.ofList host))

/-- The port of a scheme when none is given. -/
def defaultPort? : String → Option Int
  | "ftp" => some 21
  | "http" | "ws" => some 80
  | "https" | "wss" => some 443
  | _ => none

/-- A port as it is sent: the default one of the scheme is left out. -/
def normalizePort (scheme port : String) : Except UrlError (Option Int) :=
  if port.isEmpty then .ok none
  else match Text.integer? port with
    | none => .error (.port port)
    | some n => .ok (if defaultPort? scheme == some n then none else some n)

/-- One more segment of a path; `.` stands for nothing and `..` takes the last
segment back. -/
def pushSegment (done : List (List Char)) (segment : List Char) : List (List Char) :=
  if segment == ['.'] then done
  else if segment == ['.', '.'] then if done == [] || done == [[]] then done else done.dropLast
  else done ++ [segment]

/-- A path without dot segments. -/
def removeDots (path : List Char) : List Char :=
  let segments := Text.splitOnElem '/' path
  if segments.contains ['.'] || segments.contains ['.', '.'] then
    List.intercalate ['/'] (segments.foldl pushSegment [])
  else path

/-- Checks that a path may stand after what precedes it. -/
def checkPath (path : List Char) (hasScheme hasAuthority : Bool) : Except UrlError Unit :=
  if hasAuthority then
    match path with
    | [] | '/' :: _ => .ok ()
    | _ => .error .pathAfterAuthority
  else if hasScheme then .ok ()
  else match path with
    | '/' :: '/' :: _ => .error .doubleSlash
    | ':' :: _ => .error .leadingColon
    | _ => .ok ()

/-- The URL that the parts make. -/
def UrlParts.normalize (p : UrlParts) : Except UrlError Url := do
  let user := percentEncode isUserSafe p.user
  let host ← normalizeHost p.host
  let port ← normalizePort (String.ofList p.scheme) (String.ofList p.port)
  let hasScheme := !p.scheme.isEmpty
  let hasAuthority := user != "" || host != "" || port.isSome
  checkPath p.path hasScheme hasAuthority
  let path := if hasScheme || hasAuthority then removeDots p.path else p.path
  return {
    scheme := Text.lower (String.ofList p.scheme)
    user, host, port
    path := percentEncode isPathSafe path
    query := p.query.map (percentEncode isQuerySafe)
    fragment := p.fragment.map (percentEncode isFragmentSafe) }

namespace Url

/-- The URL of a text. -/
def ofText (s : String) : Except UrlError Url :=
  let cs := s.toList
  if cs.length > urlLimit then .error .tooLong
  else match firstControl? cs with
    | some (c, position) => .error (.control c position)
    | none => (UrlParts.ofText cs).normalize

/-- The host with its port, an address of version 6 in brackets. -/
def location (u : Url) : String :=
  let host := if u.host.toList.contains ':' then "[" ++ u.host ++ "]" else u.host
  match u.port with
  | none => host
  | some port => host ++ s!":{port}"

/-- The path and the query, as a request asks for them. -/
def target (u : Url) : String :=
  (if u.path == "" then "/" else u.path) ++ match u.query with
    | none => ""
    | some query => "?" ++ query

/-- User name and password. -/
def credentials (u : Url) : String × String :=
  let (name, password) := Text.cutAt ':' u.user.toList
  (percentDecode (String.ofList name), percentDecode (String.ofList (password.getD [])))

/-- The authority. -/
def authority (u : Url) : String := (if u.user == "" then "" else u.user ++ "@") ++ u.location

/-- Checks that the components of a URL are not too long. -/
def checkLengths (u : Url) : Except UrlError Unit :=
  let components := [("scheme", u.scheme), ("authority", u.authority), ("path", u.path),
    ("query", u.query.getD ""), ("fragment", u.fragment.getD "")]
  match components.find? fun (_, text) => urlLimit < text.length with
  | some (name, _) => .error (.componentTooLong name)
  | none => .ok ()

/-- The URL with another host. -/
def withHost (u : Url) (host : String) : Except UrlError Url := do
  u.checkLengths
  let bracketed := if host.toList.contains ':' then '[' :: host.toList ++ [']'] else host.toList
  if urlLimit < bracketed.length then throw (.componentTooLong "host")
  let host ← normalizeHost bracketed
  checkPath u.path.toList (u.scheme != "") (u.user != "" || host != "" || u.port.isSome)
  return { u with host }

/-- The URL with another fragment. -/
def withFragment (u : Url) (fragment : String) : Except UrlError Url := do
  let bare := { u with fragment := none }
  bare.checkLengths
  if urlLimit < fragment.length then throw (.componentTooLong "fragment")
  match firstControl? fragment.toList with
  | some (c, position) => throw (.controlIn "fragment" c position)
  | none => return { u with fragment := some (percentEncode isFragmentSafe fragment.toList) }

/-- Checks that the host can be read, and written with its port. -/
def checkHost (reader : HostReader) (u : Url) : Except HostFault Unit := do
  let _ ← hostText reader u.host
  checkAscii u.location

/-- The URL as it is written. -/
def text (u : Url) : String :=
  (if u.scheme == "" then "" else u.scheme ++ ":")
    ++ (if u.authority == "" then "" else "//" ++ u.authority) ++ u.path
    ++ (u.query.elim "" ("?" ++ ·)) ++ (u.fragment.elim "" ("#" ++ ·))

end Url

/-! ## References -/

/-- The parts of a text that is meant from a URL. -/
structure Reference where
  scheme : String
  authority : List Char
  path : List Char
  query : List Char
  fragment : List Char

/-- The parts of a text, which has a scheme of its own only if it is a full
one. -/
def Reference.ofText (scheme : String) (cs : List Char) : Reference :=
  let (scheme, rest) := match Text.cutAt ':' cs with
    | (c :: name, some rest) =>
      if c.isAlpha && name.all isSchemeChar then (Text.lower (String.ofList (c :: name)), rest)
      else (scheme, cs)
    | _ => (scheme, cs)
  let (authority, rest) := match rest with
    | '/' :: '/' :: more =>
      let ends := fun c : Char => c == '/' || c == '?' || c == '#'
      (more.takeWhile (!ends ·), more.dropWhile (!ends ·))
    | _ => ([], rest)
  let (rest, fragment) := Text.cutAt '#' rest
  let (path, query) := Text.cutAt '?' rest
  { scheme, authority, path, query := query.getD [], fragment := fragment.getD [] }

/-- A path without the parameters of its last segment, and the parameters. -/
def splitParams (scheme : String) (path : List Char) : List Char × List Char :=
  if scheme == "http" || scheme == "https" then
    let (above, last) := splitLast '/' path
    let (name, params) := Text.cutAt ';' last
    (above.elim [] (· ++ ['/']) ++ name, params.getD [])
  else (path, [])

/-- The segments of a path that is meant from another one, unless it begins with
a slash. -/
def segmentsFrom (base path : List Char) : List (List Char) :=
  let segments := Text.splitOnElem '/' path
  if path.head? == some '/' then segments
  else
    let above := Text.splitOnElem '/' base
    let above := if above.getLast? == some [] then above else above.dropLast
    let all := above ++ segments
    all.take 1 ++ (all.drop 1).dropLast.filter (!·.isEmpty) ++ (all.drop 1).getLast?.toList

/-- The path of segments; `.` stands for nothing and `..` takes the segment
before it back. -/
def resolveSegments (segments : List (List Char)) : List Char :=
  let kept := segments.foldl (fun kept segment =>
    if segment == ['.', '.'] then kept.dropLast
    else if segment == ['.'] then kept
    else kept ++ [segment]) []
  let last := segments.getLast?
  let kept := if last == some ['.'] || last == some ['.', '.'] then kept ++ [[]] else kept
  let path := List.intercalate ['/'] kept
  if path.isEmpty then ['/'] else path

/-- What follows an authority: a path with its parameters, a query and a
fragment, the empty ones left out. -/
def afterAuthority (path params query fragment : List Char) : String :=
  let path := if params.isEmpty then path else path ++ ';' :: params
  let path := if path.isEmpty || path.head? == some '/' then path else '/' :: path
  String.ofList (path ++ (if query.isEmpty then [] else '?' :: query)
    ++ (if fragment.isEmpty then [] else '#' :: fragment))

namespace Url

/-- What follows the authority of a URL in a reference from there. -/
def followed (u : Url) (r : Reference) : String :=
  let (path, params) := splitParams u.scheme r.path
  let (above, others) := splitParams u.scheme u.path.toList
  if path.isEmpty && params.isEmpty then
    let query := if r.query.isEmpty then (u.query.getD "").toList else r.query
    afterAuthority above others query r.fragment
  else afterAuthority (resolveSegments (segmentsFrom above path)) params r.query r.fragment

/-- A text that is meant from a URL, in full. -/
def joined (u : Url) (s : String) : String :=
  let r := Reference.ofText u.scheme s.toList
  if s == "" then u.text
  else if r.scheme != u.scheme then s
  else if r.authority.isEmpty then u.scheme ++ "://" ++ u.authority ++ u.followed r
  else
    let (path, params) := splitParams u.scheme r.path
    u.scheme ++ "://" ++ String.ofList r.authority ++ afterAuthority path params r.query r.fragment

end Url

end ProxyTrial.Http
