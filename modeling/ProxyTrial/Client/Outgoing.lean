import ProxyTrial.Client.Agent
import ProxyTrial.Http.Url
import ProxyTrial.Http.Wire
import ProxyTrial.Script.Basic
import ProxyTrial.Text.Base64
/-!
# Requests that a client sends

A call names a method and a target; it is sent to an address.  The request has
header fields of every client, which the call may replace, the fields of the
call, and those that follow from the URL and the body.

## Main definitions

* `Outgoing.ofUrl`, `Outgoing.ofCall`: the request to a URL, and for a call
* `Outgoing.encode`: a request in octets
-/

namespace ProxyTrial

/-- Why a call makes no request. -/
inductive CallError where
  | url (error : Http.UrlError)
  /-- A header is not ASCII. -/
  | header (error : Text.EncodeError)
  /-- The host cannot be read or written. -/
  | host (fault : Http.HostFault)
  /-- The method is not ASCII. -/
  | method
  /-- There is no host to send the request to. -/
  | noHost
  /-- The scheme is none that the client speaks. -/
  | scheme (scheme : String)
  deriving DecidableEq, Repr

/-- The wording of an error. -/
def CallError.message : CallError → String
  | url error => error.message
  | header error => error.message
  | host fault => fault.message
  | method => "method strings may not include unicode characters."
  | noHost => "Request URL is missing an 'http://' or 'https://' protocol."
  | scheme s => s!"Request URL has an unsupported protocol '{s}://'."

/-- Why a request cannot be put into octets. -/
inductive SendError where
  | field (fault : Http.FieldFault)
  | missingHost
  | manyHosts
  | method
  /-- The body is longer than the fields say. -/
  | tooMuchBody
  /-- The body is shorter than the fields say. -/
  | tooLittleBody
  deriving DecidableEq, Repr

/-- The wording of an error. -/
def SendError.message : SendError → String
  | field fault => fault.message
  | missingHost => "Missing mandatory Host: header"
  | manyHosts => "Found multiple Host: headers"
  | method => "Illegal method characters"
  | tooMuchBody => "Too much data for declared Content-Length"
  | tooLittleBody => "Too little data for declared Content-Length"

/-- A request to be sent. -/
structure Outgoing where
  url : Http.Url
  method : String
  fields : Http.Fields
  body : Bytes
  deriving Repr

namespace Outgoing

/-- The target of a call, which begins with a slash. -/
def targetOf (target : String) : String :=
  match target.toList with
  | [] => "/"
  | '/' :: _ => target
  | _ => "/" ++ target

/-- The URL of a target at an address, as it is written. -/
def urlOf (address target : String) : String := "http://" ++ address ++ targetOf target

/-- A field of ASCII text. -/
def field (name value : String) : Bytes × Bytes := (Text.ascii name, Text.ascii value)

/-- The fields of every client. -/
def standingFields : Http.Fields := [
  field "Accept" "*/*",
  field "Accept-Encoding" "gzip, deflate",
  field "Connection" "keep-alive",
  field "User-Agent" "python-httpx/0.28.1"]

/-- Whether there is a field with a name of small letters. -/
def has (fs : Http.Fields) (name : String) : Bool :=
  fs.any fun f => Http.Fields.fold f.1 == Text.ascii name

/-- The fields of every client that are not among others, then the others. -/
def override (own : Http.Fields) : Http.Fields :=
  (standingFields.filter fun f =>
    !own.any fun g => Http.Fields.fold g.1 == Http.Fields.fold f.1) ++ own

/-- Fields with the length of a body, unless they state one. -/
def withLength (body : Bytes) (fs : Http.Fields) : Http.Fields :=
  if body.isEmpty || has fs "content-length" then fs
  else fs ++ [field "Content-Length" (toString body.length)]

/-- Whether a request with the method is expected to have a body. -/
def expectsBody (method : String) : Bool := method == "POST" || method == "PUT" || method == "PATCH"

/-- The fields that the URL and the method add at the front. -/
def leadingFields (url : Http.Url) (method : String) (fs : Http.Fields) : Http.Fields :=
  (if has fs "host" || url.host == "" then [] else [field "Host" url.location])
    ++ if has fs "content-length" || has fs "transfer-encoding" || !expectsBody method then []
      else [field "Content-Length" "0"]

/-- Fields with one more; the first field with its name gives way to it, and
others with its name are removed. -/
def replaceField (new : Bytes × Bytes) : Http.Fields → Http.Fields
  | [] => [new]
  | f :: fs =>
    if Http.Fields.fold f.1 == Http.Fields.fold new.1 then
      new :: fs.filter fun g => Http.Fields.fold g.1 != Http.Fields.fold new.1
    else f :: replaceField new fs

/-- Fields with the credentials of a URL, if it has any. -/
def withCredentials (url : Http.Url) (fs : Http.Fields) : Http.Fields :=
  match url.credentials with
  | ("", "") => fs
  | (name, password) =>
    let token := Text.base64 (Text.utf8 (name ++ ":" ++ password))
    replaceField (field "Authorization" ("Basic " ++ String.ofList token)) fs

/-- The capital letters for a character, if they are ASCII. -/
def capitals? (c : Char) : Option (List Char) :=
  if c.toNat < 128 then some [c.toUpper]
  else match c.toNat with
    | 0xDF => some ['S', 'S']
    | 0x131 => some ['I']
    | 0x17F => some ['S']
    | 0xFB00 => some ['F', 'F']
    | 0xFB01 => some ['F', 'I']
    | 0xFB02 => some ['F', 'L']
    | 0xFB03 => some ['F', 'F', 'I']
    | 0xFB04 => some ['F', 'F', 'L']
    | 0xFB05 | 0xFB06 => some ['S', 'T']
    | _ => none

/-- A method in capital letters, if they are ASCII. -/
def upperMethod? (method : String) : Option String :=
  (method.toList.mapM capitals?).map fun letters => String.ofList letters.flatten

/-- The schemes that the client speaks. -/
def schemes : List String := ["http", "https", "ws", "wss"]

/-- Checks the host of a URL.  It is read only where the fields need to name
it. -/
def checkHost (a : Agent) (url : Http.Url) (fs : Http.Fields) : Except Http.HostFault Unit :=
  if has fs "host" || url.host == "" then Http.checkAscii url.host else url.checkHost a.hosts

/-- The request with this URL, method, headers and body. -/
def ofUrl (a : Agent) (url method : String) (headers : Headers) (body : Bytes) :
    Except CallError Outgoing := do
  let url ← (Http.Url.ofText url).mapError .url
  let own ← (Http.Fields.ofText headers).mapError .header
  let fields := withLength body (override own)
  (checkHost a url fields).mapError .host
  match upperMethod? method with
  | none => throw .method
  | some method =>
    if url.scheme == "" || url.host == "" then throw .noHost
    if !schemes.contains url.scheme then throw (.scheme url.scheme)
    return {
      url, method, body
      fields := withCredentials url (leadingFields url method fields ++ fields) }

/-- The request for a call that is sent to an address. -/
def ofCall (a : Agent) (address : String) (c : Call) : Except CallError Outgoing :=
  ofUrl a (urlOf address c.target) c.method c.headers (Text.utf8 c.body)

/-- The port that the request is sent to. -/
def port (o : Outgoing) : Int := o.url.port.getD ((Http.defaultPort? o.url.scheme).getD 80)

/-- The lines of fields. -/
def fieldLines (fs : Http.Fields) : Bytes :=
  fs.flatMap fun (name, value) => name ++ [58, 32] ++ value ++ [13, 10]

/-- Whether a field names the host. -/
def isHost (f : Bytes × Bytes) : Bool := Http.Fields.fold f.1 == Text.ascii "host"

/-- The head of a request with reconciled fields; the host comes first. -/
def head (o : Outgoing) (fs : Http.Fields) : Bytes :=
  Text.ascii (o.method ++ " " ++ o.url.target ++ " HTTP/1.1\r\n")
    ++ fieldLines (fs.filter isHost) ++ fieldLines (fs.filter fun f => !isHost f) ++ [13, 10]

/-- The smallest hexadecimal text of a number. -/
def hexText (n : Nat) : String := String.ofList (Nat.toDigits 16 n)

/-- A body as the fields frame it. -/
def frameBody (fs : Http.Fields) (body : Bytes) : Except SendError Bytes :=
  match Http.framing fs with
  | .chunked =>
    let chunk := if body.isEmpty then []
      else Text.ascii (hexText body.length) ++ [13, 10] ++ body ++ [13, 10]
    .ok (chunk ++ Text.ascii "0\r\n\r\n")
  | .length n => check n
  | .unstated => check 0
where
  /-- The body alone, if it has the length `n`. -/
  check (n : Nat) : Except SendError Bytes :=
    if n < body.length then .error .tooMuchBody
    else if body.length < n then .error .tooLittleBody
    else .ok body

/-- The request in octets. -/
def encode (o : Outgoing) : Except SendError Bytes := do
  let fs ← (Http.reconcileSent o.fields).mapError .field
  let hosts := (fs.filter isHost).length
  if hosts = 0 then throw .missingHost
  if 1 < hosts then throw .manyHosts
  if !Http.isToken (Text.ascii o.method) then throw .method
  return o.head fs ++ (← frameBody fs o.body)

end Outgoing

end ProxyTrial
