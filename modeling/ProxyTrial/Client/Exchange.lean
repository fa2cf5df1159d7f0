import ProxyTrial.Client.Incoming
import ProxyTrial.Http.ContentCoding
import ProxyTrial.Message
/-!
# Exchanges of a request for a response

A client sends one request on a connection of its own and reads the response.
A response that redirects is not followed, but the place that it names has to
be one that could be asked for, with the cookies that the response sets.

## Main definitions

* `placeUrl`: the URL of the place that a response names
* `checkRedirect`: whether a response names a place to go to
* `Incoming`: what is received
* `Outgoing.answer`: what octets hold in response to a request
-/

namespace ProxyTrial

/-- Why a place that a response redirects to is none to ask for. -/
inductive RedirectError where
  /-- It makes no URL with that of the request. -/
  | url (error : Http.UrlError)
  /-- An authority cannot be told apart from what stands around it. -/
  | authority (error : Http.TargetError)
  /-- A host cannot be read or written. -/
  | host (fault : Http.HostFault)
  /-- The cookies of the response cannot go with a request. -/
  | cookies (reason : String)
  deriving DecidableEq, Repr

/-- The wording of an error. -/
def RedirectError.message : RedirectError → String
  | url error => error.message
  | authority error => error.message
  | host fault => fault.message
  | cookies reason => reason

/-- Why an exchange fails. -/
inductive ExchangeError where
  | call (error : CallError)
  /-- Nothing listens. -/
  | refused
  /-- The sockets break down. -/
  | socket (reason : String)
  | send (error : SendError)
  | receive (error : ReceiveError)
  /-- The place that a response redirects to is no URL. -/
  | location (error : Http.UrlError)
  | redirect (error : RedirectError)
  | content (fault : Deflate.Fault)
  deriving DecidableEq, Repr

/-- The wording of an error. -/
def ExchangeError.message : ExchangeError → String
  | call error => error.message
  | refused => "[Errno 111] Connection refused"
  | socket reason => reason
  | send error => error.message
  | receive error => error.message
  | location error => "Invalid URL in location header: " ++ error.message ++ "."
  | redirect error => error.message
  | content fault => fault.message

/-- How an error is handled. -/
inductive ExchangeError.Kind where
  /-- Communication has failed. -/
  | transport
  /-- There is no URL to communicate with. -/
  | url
  /-- Something else breaks down. -/
  | breakdown
  deriving DecidableEq, Repr

/-- How an error is handled. -/
def ExchangeError.kind : ExchangeError → Kind
  | call (.url _) | redirect (.url _) => .url
  | call (.header _) | call (.host _) | call .method => .breakdown
  | socket _ | redirect (.authority _) | redirect (.host _) | redirect (.cookies _) => .breakdown
  | send .tooMuchBody | send .tooLittleBody => .breakdown
  | _ => .transport

/-! ## Redirects -/

/-- The statuses that redirect. -/
def redirectStatuses : List Nat := [301, 302, 303, 307, 308]

/-- The URL that a text makes which is meant from another one. -/
def joinUrl (base : Http.Url) (s : String) : Except RedirectError Http.Url := do
  if s != "" then
    let r := Http.Reference.ofText base.scheme s.toList
    (Http.checkNetloc base.authority.toList).mapError .authority
    (Http.checkNetloc r.authority).mapError .authority
  (Http.Url.ofText (base.joined s)).mapError .url

/-- The URL of a place, completed by that of the request: without a scheme it is
meant from there, and without a host it has the same one. -/
def completeUrl (a : Agent) (base url : Http.Url) : Except RedirectError Http.Url := do
  if url.scheme == "" then joinUrl base url.text
  else
    let _ ← (Http.hostText a.hosts url.host).mapError .host
    if url.host == "" then
      let host ← (Http.hostText a.hosts base.host).mapError .host
      (url.withHost host).mapError .url
    else return url

/-- A URL with the fragment of another one, unless it has its own. -/
def keepFragment (base url : Http.Url) : Except RedirectError Http.Url :=
  let fragment := base.fragment.getD ""
  if fragment != "" && url.fragment.getD "" == "" then
    (url.withFragment (Http.percentDecode fragment)).mapError .url
  else .ok url

/-- Checks the hosts of the request and of the place that it is redirected to,
which are compared if both have one scheme. -/
def checkHosts (a : Agent) (base url : Http.Url) : Except RedirectError Unit := do
  let hosts := if url.scheme == base.scheme then [url.host, base.host] else [base.host, url.host]
  let _ ← hosts.mapM fun host => (Http.hostText a.hosts host).mapError .host
  (Http.checkAscii url.location).mapError .host

/-- Checks whether the cookies that fields set can go with a redirected request. -/
def checkCookies (a : Agent) (base url : Http.Url) (fs : Http.Fields) : Except RedirectError Unit :=
  match a.cookies.fault? base url fs with
  | some reason => .error (.cookies reason)
  | none => .ok ()

/-- The URL of a place that a response redirects to. -/
def placeUrl (a : Agent) (base : Http.Url) (place : String) : Except ExchangeError Http.Url := do
  let url ← (Http.Url.ofText place).mapError .location
  (do keepFragment base (← completeUrl a base url)).mapError .redirect

/-- Checks the place that a response with these fields redirects to. -/
def checkRedirect (a : Agent) (base : Http.Url) (fs : Http.Fields) (place : String) :
    Except ExchangeError Unit := do
  let url ← placeUrl a base place
  (do
    checkHosts a base url
    checkCookies a base url fs).mapError .redirect

/-- The place that a response redirects to. -/
def Incoming.Head.place? (h : Incoming.Head) : Option String :=
  if redirectStatuses.contains h.status then h.fields.joined? "location" else none

/-- What is received in response to a request, with its body decompressed. -/
structure Incoming where
  status : Nat
  fields : Http.Fields
  content : Bytes
  deriving DecidableEq, Repr

/-- The response with its body read as text. -/
def Incoming.response (a : Agent) (r : Incoming) : Except Http.TextFault Response :=
  Response.ofContent a.texts r.status r.fields r.content

/-- What octets hold in response to a request. -/
def Outgoing.answer (a : Agent) (o : Outgoing) (bs : Bytes) : Except ExchangeError Incoming := do
  let (head, rest) ←
    (Incoming.finalHead (Incoming.proposals o) (bs.length + 1) bs).mapError .receive
  match head.place? with
  | some place => checkRedirect a o.url head.fields place
  | none => pure ()
  let body := Incoming.readContent o head rest
  let content ← (Http.decodeContent head.fields body.pieces).mapError .content
  match body.error with
  | some error => throw (.receive error)
  | none => return { head with content }

end ProxyTrial
