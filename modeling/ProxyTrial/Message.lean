import ProxyTrial.Http.Body
import ProxyTrial.Http.ContentCoding
import ProxyTrial.Http.ContentType
import ProxyTrial.Http.Target
/-!
# Messages as expectations see them

A request or a response is read once, body and all, so that any number of
expectations can be held against it.
-/

namespace ProxyTrial

/-- A request that has been received. -/
structure Request where
  method : String
  /-- The path without the query. -/
  path : String := "/"
  fields : Http.Fields := []
  body : String := ""
  deriving DecidableEq, Repr

/-- A response that has been received. -/
structure Response where
  status : Int
  fields : Http.Fields := []
  body : String := ""
  deriving DecidableEq, Repr

/-- A message. -/
inductive Message where
  | request (r : Request)
  | response (r : Response)
  deriving DecidableEq, Repr

/-- The fields of a message. -/
def Message.fields : Message → Http.Fields
  | request r => r.fields
  | response r => r.fields

/-- The body of a message. -/
def Message.body : Message → String
  | request r => r.body
  | response r => r.body

/-- A response in lines: its status, then the header fields. -/
def Response.shown (r : Response) : String :=
  "\n".intercalate
    (s!"HTTP {r.status}" :: r.fields.items.map fun (name, value) => name ++ ": " ++ value)

/-- Why a request cannot be read. -/
inductive RequestError where
  /-- A header field is not ASCII. -/
  | field (error : Text.EncodeError)
  | body (error : Http.BodyError)
  | target (error : Http.TargetError)
  deriving DecidableEq, Repr

/-- The wording of an error. -/
def RequestError.message : RequestError → String
  | field error => error.message
  | body error => error.message
  | target error => error.message

/-- The request with this method, target and header fields, whose body is at
the start of the octets, and the octets after it. -/
def Request.read (method target : String) (headers : List (String × String)) (input : Bytes) :
    Except RequestError (Request × Bytes) := do
  let fields ← (Http.Fields.ofText headers).mapError .field
  let (body, rest) ← (Http.readBody fields input).mapError .body
  let path ← (Http.targetPath target).mapError .target
  return ({ method, path, fields, body := Text.ofUtf8Lenient body }, rest)

/-- The response whose decompressed body has these octets. -/
def Response.ofContent (texts : Http.TextReader) (status : Int) (fields : Http.Fields)
    (content : Bytes) : Except Http.TextFault Response := do
  return { status, fields, body := ← texts.read fields content }

end ProxyTrial
