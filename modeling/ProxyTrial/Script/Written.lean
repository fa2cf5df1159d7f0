import ProxyTrial.Script.Basic
/-!
# Scripts as they are written

The plainest text of a script has its handlers first and then its clients; a
stanza has its expectations on lines of their own, and after them one line with
every flag of its message.

## Main definitions

* `Script.written`: the text of a script
-/

namespace ProxyTrial

namespace Script

/-- A string between quotes; there is no way to write a quote in it. -/
def quoted (s : String) : String := "\"" ++ s ++ "\""

/-- A flag and its value, with the blank before them. -/
def flag (name value : String) : String := " -" ++ name ++ " " ++ value

/-- The flags of headers, in order. -/
def headerFlags (hs : Headers) : String :=
  String.join (hs.map fun (name, value) => flag "header" (quoted (name ++ ": " ++ value)))

/-- A stanza with its head, its expectations and its `tx` command. -/
def stanza (keyword title : String) (expectations : List Expectation) (flags : String) : String :=
  keyword ++ " " ++ quoted title ++ " \x7b\n"
    ++ String.join (expectations.map fun e => "  expect " ++ e.verbatim ++ "\n")
    ++ "  tx" ++ flags ++ "\n\x7d\n"

end Script

/-- The flags of a reply. -/
def Reply.flags (r : Reply) : String :=
  Script.flag "status" (toString r.status) ++ Script.headerFlags r.headers
    ++ Script.flag "body" (Script.quoted r.body)

/-- The flags of a call. -/
def Call.flags (c : Call) : String :=
  Script.flag "method" (Script.quoted c.method) ++ Script.flag "url" (Script.quoted c.target)
    ++ Script.headerFlags c.headers ++ Script.flag "body" (Script.quoted c.body)

/-- The text of a handler. -/
def Handler.written (h : Handler) : String :=
  Script.stanza "handle" h.path h.expectations h.reply.flags

/-- The text of a client. -/
def Client.written (c : Client) : String :=
  Script.stanza "client" c.name c.expectations c.call.flags

/-- The text of a script. -/
def Script.written (s : Script) : String :=
  String.join (s.handlers.map Handler.written) ++ String.join (s.clients.map Client.written)

end ProxyTrial
