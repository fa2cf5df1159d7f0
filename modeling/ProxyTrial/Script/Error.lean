import ProxyTrial.Pattern.Error
import ProxyTrial.Script.Token
/-!
# What can be wrong with a script

A fault of a script is found at a token: another token was wanted there, or a
rule of the language is broken by it.  Besides there are the limits of integers
and patterns, which are not tied to a place.
-/

namespace ProxyTrial.Script

/-- What is being read. -/
inductive Construct where
  | expectCommand
  | txCommand
  | handleStanza
  | clientStanza
  deriving DecidableEq, Repr

/-- The name of a construct. -/
def Construct.name : Construct → String
  | .expectCommand => "'expect' command"
  | .txCommand => "'tx' command"
  | .handleStanza => "'handle' stanza"
  | .clientStanza => "'client' stanza"

/-- What was wanted in the place of a token. -/
inductive Wanted where
  | side
  /-- The dot after a side, which is written so. -/
  | dot (side : String)
  | subject (side : String)
  | headerSelector (side : String)
  | comparison
  | value
  | replyFlag
  | callFlag
  | text
  | header
  | headerShape
  | integer
  | statusCode
  | path
  | openBrace
  | closeBrace
  | closeBraceAfterTx
  | handlerStatement
  | clientName
  | clientStatement
  deriving DecidableEq, Repr

/-- The name of what was wanted. -/
def Wanted.name : Wanted → String
  | .side => "'req' or 'resp'"
  | .dot word => "something like '" ++ word ++ ".method'"
  | .subject word => "'" ++ word ++ ".\x7bmethod,status,headers,body\x7d'"
  | .headerSelector word => "'" ++ word ++ ".headers[$hdr_name]'"
  | .comparison => "operator to be one of 'eq', 'ne', '~'"
  | .value => "a string or an integer"
  | .replyFlag => "-body, -header, or -status"
  | .callFlag => "-url, -header, -method, or -body"
  | .text => "a string"
  | .header => "a header"
  | .headerShape => "a header like 'Name: Value'"
  | .integer => "an integer"
  | .statusCode => "a status code between 100 and 999"
  | .path => "a URI path starting with '/'"
  | .openBrace => "'\x7b'"
  | .closeBrace => "'\x7d'"
  | .closeBraceAfterTx => "'\x7d' after 'tx' command"
  | .handlerStatement => "'expect', 'tx', or '\x7d'"
  | .clientName => "a name for the client"
  | .clientStatement => "'tx', 'expect', or '\x7d'"

/-- A fault of a script. -/
inductive Fault where
  | unexpected (wanted : Wanted) (construct : Construct)
  /-- An illegal token where a stanza was wanted. -/
  | syntaxError
  /-- Another token where a stanza was wanted. -/
  | notAStanza
  | noStanza
  /-- A second request of the client with this name. -/
  | secondTx (client : String)
  | badPattern (error : PatternError)
  deriving DecidableEq, Repr

/-- The wording of a fault at a token. -/
def Fault.message (t : Token) : Fault → String
  | unexpected wanted construct =>
    "Expected " ++ wanted.name ++ " in " ++ construct.name ++ ", got " ++ t.described
  | syntaxError => "Syntax error: " ++ t.shown
  | notAStanza =>
    "Unexpected token " ++ t.described ++ " at top level, expecting 'handle' or 'client'"
  | noStanza => "At least one of 'handle' or 'client' stanza are needed"
  | secondTx client =>
    "Only one 'tx' command is allowed in " ++ Construct.name .clientStanza ++ " "
      ++ Text.quoted client
  | badPattern error =>
    "Invalid regular expression " ++ Text.quoted t.text ++ " in " ++ Construct.name .expectCommand
      ++ ": " ++ error.message

end ProxyTrial.Script

namespace ProxyTrial

/-- Why a script cannot be read. -/
inductive ScriptError where
  /-- A fault found at a token. -/
  | faultAt (fault : Script.Fault) (token : Script.Token)
  /-- An integer has more digits than are read. -/
  | longInteger (digits : Nat)
  /-- A pattern is beyond a limit. -/
  | pattern (error : PatternError)
  deriving DecidableEq, Repr

/-- The wording of an error. -/
def ScriptError.message : ScriptError → String
  | faultAt fault token =>
    s!"Line {token.place.line}, column {token.place.column}: " ++ fault.message token
  | longInteger digits => Text.tooManyDigits digits
  | pattern error => error.message

end ProxyTrial
