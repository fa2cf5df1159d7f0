import ProxyTrial.Script.Command
/-!
# Reading scripts

A script is a sequence of stanzas.  The first token that no script can have in
its place ends the reading with an error.
-/

namespace ProxyTrial

namespace Script

/-- Reads the statements of a handler up to its closing brace.  A reply is the
last of them. -/
def readHandlerBody (path : String) :
    (fuel : Nat) → (expectations : List Expectation) → TokenStream →
      Except ScriptError (Handler × TokenStream)
  | 0, expectations, s => .ok ({ path, expectations }, s)
  | fuel + 1, expectations, s =>
    let (t, s) := s.significant true
    match t.kind with
    | .closeBrace => .ok ({ path, expectations }, s)
    | .expect => do
      let (e, s) ← readExpect s
      readHandlerBody path fuel (expectations ++ [e]) s
    | .tx => do
      let (reply, s) ← readReply s
      let (_, s) ← readKind .closeBrace .closeBraceAfterTx .handleStanza s
      return ({ path, expectations, reply }, s)
    | .endOfScript => .error (unexpected .closeBrace .handleStanza t)
    | _ => .error (unexpected .handlerStatement .handleStanza t)

/-- Reads a handler after its keyword. -/
def readHandler (s : TokenStream) : Except ScriptError (Handler × TokenStream) := do
  let (path, s) := s.significant true
  if path.kind ≠ .string ∨ path.text.toList.head? ≠ some '/' then
    .error (unexpected .path .handleStanza path)
  let (_, s) ← readKind .openBrace .openBrace .handleStanza s
  readHandlerBody path.text (s.ahead.length + 1) [] s

/-- Reads the statements of a client up to its closing brace: expectations and
at most one call. -/
def readClientBody (name : String) :
    (fuel : Nat) → (call : Option Call) → (expectations : List Expectation) → TokenStream →
      Except ScriptError (Client × TokenStream)
  | 0, call, expectations, s => .ok (⟨name, call.getD {}, expectations⟩, s)
  | fuel + 1, call, expectations, s =>
    let (t, s) := s.significant true
    match t.kind with
    | .closeBrace => .ok (⟨name, call.getD {}, expectations⟩, s)
    | .tx =>
      match call with
      | some _ => .error (.faultAt (.secondTx name) t)
      | none => do
        let (call, s) ← readCall s
        readClientBody name fuel (some call) expectations s
    | .expect => do
      let (e, s) ← readExpect s
      readClientBody name fuel call (expectations ++ [e]) s
    | .endOfScript => .error (unexpected .closeBrace .clientStanza t)
    | _ => .error (unexpected .clientStatement .clientStanza t)

/-- Reads a client after its keyword. -/
def readClient (s : TokenStream) : Except ScriptError (Client × TokenStream) := do
  let (name, s) ← readKind .string .clientName .clientStanza s
  let (_, s) ← readKind .openBrace .openBrace .clientStanza s
  readClientBody name.text (s.ahead.length + 1) none [] s

/-- Reads stanzas up to the end of the script. -/
def readStanzas : (fuel : Nat) → Script → TokenStream → Except ScriptError Script
  | 0, script, _ => .ok script
  | fuel + 1, script, s =>
    let (t, s) := s.significant true
    match t.kind with
    | .endOfScript =>
      if script.handlers.isEmpty && script.clients.isEmpty then
        .error (.faultAt .noStanza t)
      else .ok script
    | .handle => do
      let (h, s) ← readHandler s
      readStanzas fuel { script with handlers := script.handlers ++ [h] } s
    | .client => do
      let (c, s) ← readClient s
      readStanzas fuel { script with clients := script.clients ++ [c] } s
    | .illegal => .error (.faultAt .syntaxError t)
    | _ => .error (.faultAt .notAStanza t)

end Script

/-- The script that a text holds. -/
def Script.parse (source : String) : Except ScriptError Script :=
  let s := Script.TokenStream.ofText source
  Script.readStanzas (s.ahead.length + 1) ⟨[], []⟩ s

end ProxyTrial
