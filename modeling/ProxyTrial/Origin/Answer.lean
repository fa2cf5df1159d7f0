import ProxyTrial.Http.RequestHead
import ProxyTrial.Http.Status
import ProxyTrial.Script.Basic
/-!
# Answers in octets

An answer is a status line, the fields of every answer, fields of its own, an
empty line and a body.  The head is Latin-1, and the body UTF-8.  Requests
without a version get the body alone.
-/

namespace ProxyTrial.Origin

/-- A line of an answer. -/
def line (text : String) : Except Text.EncodeError Bytes :=
  Text.encode .latin1 (text ++ "\r\n")

/-- The lines of header fields. -/
def fieldLines : Headers → Except Text.EncodeError Bytes
  | [] => .ok []
  | (name, value) :: rest => do
    let first ← line (name ++ ": " ++ value)
    return first ++ (← fieldLines rest)

/-- The fields that begin every answer.  The origin's clock stands still. -/
def standingFields : Headers :=
  [("Server", "BaseHTTP/0.6 Python"), ("Date", "Thu, 01 Jan 1970 00:00:00 GMT")]

/-- The head of an answer, the empty line included. -/
def head (status : Int) (reason : String) (headers : Headers) : Except Text.EncodeError Bytes := do
  let first ← line (s!"HTTP/1.1 {status} " ++ reason)
  let fields ← fieldLines (standingFields ++ headers)
  return first ++ fields ++ [13, 10]

/-- Whether headers state the length of the body. -/
def statesLength (headers : Headers) : Bool :=
  headers.any fun (name, _) => Text.lower name == "content-length"

/-- The body of a reply in octets. -/
def payload (r : Reply) : Bytes := if Http.carriesBody r.status then Text.utf8 r.body else []

/-- The headers of a reply, and its length if it does not state one. -/
def headersSent (r : Reply) : Headers :=
  if Http.carriesBody r.status && !statesLength r.headers then
    r.headers ++ [("Content-Length", toString (payload r).length)]
  else r.headers

/-- A reply in octets, to a request with this method. -/
def encodeReply (bare : Bool) (method : String) (r : Reply) : Except Text.EncodeError Bytes := do
  let top ← if bare then pure [] else head r.status (Http.reasonPhrase r.status) (headersSent r)
  return top ++ if method == "HEAD" then [] else payload r

/-- Whether the connection stays open after a reply: each `Connection` field
may change that. -/
def staysOpen (persistent : Bool) (headers : Headers) : Bool :=
  headers.foldl
    (fun persistent (name, value) =>
      if Text.lower name == "connection" then Http.persists persistent value else persistent)
    persistent

/-- Text with the characters that mark up a page written as entities. -/
def escapeMarkup (s : String) : String :=
  String.join <| s.toList.map fun
    | '&' => "&amp;"
    | '<' => "&lt;"
    | '>' => "&gt;"
    | c => c.toString

/-- The page that explains a rejection. -/
def rejectionPage (r : Http.Rejection) : String :=
  "<!DOCTYPE HTML>\n"
    ++ "<html lang=\"en\">\n"
    ++ "    <head>\n"
    ++ "        <meta charset=\"utf-8\">\n"
    ++ "        <title>Error response</title>\n"
    ++ "    </head>\n"
    ++ "    <body>\n"
    ++ "        <h1>Error response</h1>\n"
    ++ s!"        <p>Error code: {r.status}</p>\n"
    ++ "        <p>Message: " ++ escapeMarkup r.message ++ ".</p>\n"
    ++ s!"        <p>Error code explanation: {r.status} - " ++ escapeMarkup r.explanation
    ++ ".</p>\n"
    ++ "    </body>\n"
    ++ "</html>\n"

/-- The answer to a rejected request. -/
def encodeRejected (r : Http.Rejected) : Except Text.EncodeError Bytes := do
  let page := Text.utf8 (rejectionPage r.reason)
  let top ← if r.bare then pure [] else
    head r.reason.status r.reason.message
      [("Connection", "close"), ("Content-Type", "text/html;charset=utf-8"),
        ("Content-Length", toString page.length)]
  return top ++ if r.bodyless then [] else page

end ProxyTrial.Origin
