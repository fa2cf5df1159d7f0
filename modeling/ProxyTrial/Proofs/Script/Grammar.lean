import ProxyTrial.Proofs.Script.Symbol
import ProxyTrial.Script.Command
import Mathlib.Data.List.Induction
/-!
# The grammar of scripts

Which symbols are a script, and which one. A derivation splits the symbols into stanzas, commands
and flags, and says what they mean; it knows nothing of readers. Line breaks may stand before every
symbol but the flags of a `tx` command and their values. Such a command ends before a line break,
a closing brace or the end of the script.

## Main definitions

* `Expecting`: an `expect` command after its keyword
* `Settings`, `reply`, `call`: the flags of a `tx` command, and the message that they make
* `HandlerBody`, `ClientBody`: the statements of a stanza
* `Derives T s`: the symbols `T`, the end included, are the script `s`

## Main results

* `foldl_setReply`, `foldl_setCall`: setting one flag after the other makes the same message
-/

namespace ProxyTrial.Script.Grammar

/-! ## Expectations -/

/-- The side that a word names. -/
inductive IsSide : Kind → Side → Prop
  | request : IsSide .req .request
  | response : IsSide .resp .response

/-- A subject; a header has its name in brackets, and nothing else has one. -/
inductive IsSubject : List Symbol → Subject → Prop
  | method {w : String} {xs : List Symbol} : Lead .method w xs → IsSubject xs .method
  | status {w : String} {xs : List Symbol} : Lead .status w xs → IsSubject xs .status
  | body {w : String} {xs : List Symbol} : Lead .body w xs → IsSubject xs .body
  | header {w o name c : String} {xs os ns cs : List Symbol} :
      Lead .headers w xs → Lead .openBracket o os → Lead .string name ns →
      Lead .closeBracket c cs → IsSubject (xs ++ (os ++ (ns ++ cs))) (.header name)

/-- The comparison with a value that an operator asks for; a tilde wants a pattern. -/
inductive Compares : Kind → String → Comparison → Prop
  | equal {v : String} : Compares .eq v .equal
  | differs {v : String} : Compares .ne v .differs
  | contains {v : String} {p : Pattern} :
      Pattern.ofText v = .ok p → Compares .tilde v (.contains p)

/-- An expected value and the way it is written: a string between quotes, or an integer. -/
inductive IsValue : List Symbol → String → String → Prop
  | string {v : String} {xs : List Symbol} : Lead .string v xs → IsValue xs v ("\"" ++ v ++ "\"")
  | integer {v : String} {xs : List Symbol} : Lead .integer v xs → IsValue xs v v

/-- An expectation as it is written in one line. -/
def inOneLine (side : Side) (subject : Subject) (operator value : String) : String :=
  side.word ++ "." ++ Subject.written subject ++ " " ++ operator ++ " " ++ value

/-- An `expect` command after its keyword. -/
inductive Expecting : List Symbol → Expectation → Prop
  | mk {k o : Kind} {side : Side} {subject : Subject} {comparison : Comparison}
      {w d op value written : String} {ss ds us os vs : List Symbol} :
      Lead k w ss → IsSide k side → Lead .dot d ds → IsSubject us subject → Lead o op os →
      Compares o value comparison → IsValue vs value written →
      Expecting (ss ++ (ds ++ (us ++ (os ++ vs))))
        { side, subject, comparison, expected := value,
          verbatim := inOneLine side subject op written }

/-! ## Flags -/

/-- What a flag of a `tx` command sets. -/
inductive Setting where
  | status (code : Int)
  | header (name value : String)
  | body (text : String)
  | method (name : String)
  | target (text : String)

/-- A header in one string: what precedes the first colon is the name, which is not blank, and
what follows it the value, blanks around them aside. -/
def IsHeader (text name value : String) : Prop :=
  ∃ before after, text.toList = before ++ ':' :: after ∧ ':' ∉ before ∧
    name = String.ofList (Text.trimBy Text.isBlank before) ∧ name ≠ "" ∧
    value = String.ofList (Text.trimBy Text.isBlank after)

/-- A flag with its value. -/
inductive Sets : Symbol → Symbol → Setting → Prop
  | body {f v : String} : Sets ⟨.bodyFlag, f⟩ ⟨.string, v⟩ (.body v)
  | header {f v name value : String} :
      IsHeader v name value → Sets ⟨.headerFlag, f⟩ ⟨.string, v⟩ (.header name value)
  | status {f v : String} {code : Int} :
      integerValue v = .ok code → 100 ≤ code → code ≤ 999 →
      Sets ⟨.statusFlag, f⟩ ⟨.integer, v⟩ (.status code)
  | method {f v : String} : Sets ⟨.methodFlag, f⟩ ⟨.string, v⟩ (.method v)
  | target {f v : String} : Sets ⟨.urlFlag, f⟩ ⟨.string, v⟩ (.target v)

/-- Flags with their values, one after the other. -/
inductive Settings : List Symbol → List Setting → Prop
  | nil : Settings [] []
  | cons {f v : Symbol} {e : Setting} {xs : List Symbol} {l : List Setting} :
      Sets f v e → Settings xs l → Settings (f :: v :: xs) (e :: l)

namespace Setting

/-- Whether a reply has what is set. -/
def isForReply : Setting → Bool
  | status _ | header _ _ | body _ => true
  | method _ | target _ => false

/-- Whether a call has what is set. -/
def isForCall : Setting → Bool
  | method _ | target _ | header _ _ | body _ => true
  | status _ => false

/-- The status code that is set. -/
def status? : Setting → Option Int
  | status code => some code
  | _ => none

/-- The header that is set. -/
def header? : Setting → Option (String × String)
  | header name value => some (name, value)
  | _ => none

/-- The body that is set. -/
def body? : Setting → Option String
  | body text => some text
  | _ => none

/-- The method that is set. -/
def method? : Setting → Option String
  | method name => some name
  | _ => none

/-- The target that is set. -/
def target? : Setting → Option String
  | target text => some text
  | _ => none

end Setting

/-- The last of the values that settings have, or a default. -/
def last {α : Type} (value? : Setting → Option α) (default : α) (l : List Setting) : α :=
  (l.filterMap value?).getLast?.getD default

/-- The headers without those that a later one with the same name replaces, whatever the case of
its letters. -/
def latest : Headers → Headers
  | [] => []
  | h :: hs => if hs.any fun g => Text.lower g.1 == Text.lower h.1 then latest hs
    else h :: latest hs

/-- The reply that settings make. -/
def reply (l : List Setting) : Reply where
  status := last Setting.status? 200 l
  headers := latest (l.filterMap Setting.header?)
  body := last Setting.body? "" l

/-- The call that settings make. -/
def call (l : List Setting) : Call where
  method := last Setting.method? "GET" l
  target := last Setting.target? "" l
  headers := latest (l.filterMap Setting.header?)
  body := last Setting.body? "" l

/-- The flags of a reply. -/
inductive Replies : List Symbol → Reply → Prop
  | mk {xs : List Symbol} {l : List Setting} :
      Settings xs l → (∀ e ∈ l, e.isForReply) → Replies xs (reply l)

/-- The flags of a call. -/
inductive Calls : List Symbol → Call → Prop
  | mk {xs : List Symbol} {l : List Setting} :
      Settings xs l → (∀ e ∈ l, e.isForCall) → Calls xs (call l)

/-! ### One flag after the other -/

/-- A reply with one thing set. -/
def setReply (r : Reply) : Setting → Reply
  | .status code => { r with status := code }
  | .header name value => { r with headers := setHeader name value r.headers }
  | .body text => { r with body := text }
  | .method _ | .target _ => r

/-- A call with one thing set. -/
def setCall (c : Call) : Setting → Call
  | .method name => { c with method := name }
  | .target text => { c with target := text }
  | .header name value => { c with headers := setHeader name value c.headers }
  | .body text => { c with body := text }
  | .status _ => c

theorem last_concat {α : Type} (value? : Setting → Option α) (default : α) (l : List Setting)
    (e : Setting) :
    last value? default (l ++ [e]) = (value? e).getD (last value? default l) := by
  cases h : value? e <;> simp [last, List.filterMap_append, h]

/-- Setting a header keeps the others that it does not replace. -/
theorem latest_concat (hs : Headers) (name value : String) :
    latest (hs ++ [(name, value)]) = setHeader name value (latest hs) := by
  induction hs with
  | nil => simp [latest, setHeader]
  | cons h hs ih =>
    -- A header stays unless a later one has its name: one that was there, or the new one.
    by_cases hr : hs.any fun g => Text.lower g.1 == Text.lower h.1
    · rw [List.cons_append, latest, latest, if_pos hr, if_pos (by simp [List.any_append, hr]), ih]
    · by_cases hn : Text.lower h.1 = Text.lower name
      · rw [List.cons_append, latest, latest, if_neg hr,
          if_pos (by simp [List.any_append, hn]), ih, setHeader, setHeader,
          List.filter_cons_of_neg (by simp [hn])]
      · rw [List.cons_append, latest, latest, if_neg hr,
          if_neg (by simpa [List.any_append, Ne.symm hn] using hr), ih, setHeader, setHeader,
          List.filter_cons_of_pos (by simp [hn]), List.cons_append]

/-- Flags set one after the other make the reply that each of them has the last word about. -/
theorem foldl_setReply {l : List Setting} (h : ∀ e ∈ l, e.isForReply) :
    l.foldl setReply {} = reply l := by
  -- The last setting has the last word, hence the induction from the end.
  induction l using List.reverseRecOn with
  | nil => rfl
  | append_singleton l e ih =>
    rw [List.foldl_append, ih fun x hx => h x (List.mem_append_left _ hx)]
    have he := h e (by simp)
    cases e with
    | header name value =>
      simp [setReply, reply, last_concat, latest_concat, Setting.status?, Setting.header?,
        Setting.body?]
    | status code | body text =>
      simp [setReply, reply, last_concat, List.filterMap_cons, Setting.status?, Setting.header?,
        Setting.body?]
    | method name => cases he
    | target text => cases he

/-- Flags set one after the other make the call that each of them has the last word about. -/
theorem foldl_setCall {l : List Setting} (h : ∀ e ∈ l, e.isForCall) :
    l.foldl setCall {} = call l := by
  -- The last setting has the last word, hence the induction from the end.
  induction l using List.reverseRecOn with
  | nil => rfl
  | append_singleton l e ih =>
    rw [List.foldl_append, ih fun x hx => h x (List.mem_append_left _ hx)]
    have he := h e (by simp)
    cases e with
    | status code => cases he
    | header name value =>
      simp [setCall, call, last_concat, latest_concat, Setting.method?, Setting.target?,
        Setting.header?, Setting.body?]
    | body text | method name | target text =>
      simp [setCall, call, last_concat, List.filterMap_cons, Setting.method?, Setting.target?,
        Setting.header?, Setting.body?]

/-! ## Stanzas -/

/-- Whether flags end before these symbols, which the end of the script follows. -/
def EndsFlags : List Symbol → Prop
  | [] => True
  | x :: _ => x.kind = .lineBreak ∨ x.kind = .closeBrace

/-- The statements of a handler with its closing brace: expectations, and after them perhaps a
reply. -/
inductive HandlerBody : List Symbol → List Expectation → Reply → Prop
  | close {c : String} {xs : List Symbol} : Lead .closeBrace c xs → HandlerBody xs [] {}
  | tx {w c : String} {ws fs cs : List Symbol} {r : Reply} :
      Lead .tx w ws → Replies fs r → Lead .closeBrace c cs → HandlerBody (ws ++ (fs ++ cs)) [] r
  | expect {w : String} {ws es xs : List Symbol} {e : Expectation} {l : List Expectation}
      {r : Reply} :
      Lead .expect w ws → Expecting es e → HandlerBody xs l r →
      HandlerBody (ws ++ (es ++ xs)) (e :: l) r

/-- The statements of a client with its closing brace: expectations and at most one call. -/
inductive ClientBody : List Symbol → List Expectation → Option Call → Prop
  | close {c : String} {xs : List Symbol} : Lead .closeBrace c xs → ClientBody xs [] none
  | tx {w : String} {ws fs xs : List Symbol} {c : Call} {l : List Expectation} :
      Lead .tx w ws → Calls fs c → EndsFlags xs → ClientBody xs l none →
      ClientBody (ws ++ (fs ++ xs)) l (some c)
  | expect {w : String} {ws es xs : List Symbol} {e : Expectation} {l : List Expectation}
      {c : Option Call} :
      Lead .expect w ws → Expecting es e → ClientBody xs l c →
      ClientBody (ws ++ (es ++ xs)) (e :: l) c

/-- A handler after its keyword. -/
inductive IsHandler : List Symbol → Handler → Prop
  | mk {path o : String} {ps os xs : List Symbol} {expectations : List Expectation}
      {reply : Reply} :
      Lead .string path ps → path.toList.head? = some '/' → Lead .openBrace o os →
      HandlerBody xs expectations reply →
      IsHandler (ps ++ (os ++ xs)) { path, expectations, reply }

/-- A client after its keyword. -/
inductive IsClient : List Symbol → Client → Prop
  | mk {name o : String} {ns os xs : List Symbol} {expectations : List Expectation}
      {call : Option Call} :
      Lead .string name ns → Lead .openBrace o os → ClientBody xs expectations call →
      IsClient (ns ++ (os ++ xs)) { name, call := call.getD {}, expectations }

/-- Stanzas, one after the other. -/
inductive Stanzas : List Symbol → List Handler → List Client → Prop
  | nil : Stanzas [] [] []
  | handle {w : String} {ws hs xs : List Symbol} {h : Handler} {handlers : List Handler}
      {clients : List Client} :
      Lead .handle w ws → IsHandler hs h → Stanzas xs handlers clients →
      Stanzas (ws ++ (hs ++ xs)) (h :: handlers) clients
  | client {w : String} {ws cs xs : List Symbol} {c : Client} {handlers : List Handler}
      {clients : List Client} :
      Lead .client w ws → IsClient cs c → Stanzas xs handlers clients →
      Stanzas (ws ++ (cs ++ xs)) handlers (c :: clients)

/-- The symbols are a script: at least one stanza, and the end. -/
inductive Derives : List Symbol → Script → Prop
  | mk {w : String} {xs es : List Symbol} {s : Script} :
      Stanzas xs s.handlers s.clients → xs ≠ [] → Lead .endOfScript w es → Derives (xs ++ es) s

end ProxyTrial.Script.Grammar
