import ProxyTrial.Origin.Conversation
import ProxyTrial.Proofs.Basic
import ProxyTrial.Proofs.Http.HeaderSection
import ProxyTrial.Proofs.Http.Headers
import ProxyTrial.Proofs.Utf8
/-!
# Answers of Latin-1

Lines and fields of Latin-1 can always be sent. The origin's refusals are such: whatever their body
says, their head is ASCII.

## Main definitions

* `headOctets status hs`: the head of an answer with these headers
* `refusal method message`: the answer to a request whose body is malformed

## Main results

* `fieldLines_latin1`: the lines of header fields
* `encodeReply_latin1`: a reply in octets
* `encodeReply_unreadable`: a refusal in octets
-/

namespace ProxyTrial.Origin

/-! ## Lines -/

theorem line_latin1 {text : String} (h : Text.IsLatin1 text) :
    line text = .ok (Text.ascii (text ++ "\r\n")) :=
  Text.encode_latin1 (Text.isLatin1_append.2 ⟨h, by decide⟩)

theorem fieldLines_latin1 {hs : Headers} (h : Http.Latin1Fields hs) :
    fieldLines hs = .ok (hs.flatMap fun f => Text.ascii (f.1 ++ ": " ++ f.2 ++ "\r\n")) := by
  induction hs with
  | nil => rfl
  | cons f hs ih =>
    obtain ⟨⟨hn, hv⟩, hs'⟩ := List.forall_mem_cons.1 h
    -- Name, separator and value are Latin-1 each, and so is the line of them.
    have hline : Text.IsLatin1 (f.1 ++ ": " ++ f.2) :=
      Text.isLatin1_append.2 ⟨Text.isLatin1_append.2 ⟨hn, by decide⟩, hv⟩
    rw [fieldLines, line_latin1 hline, ih hs']
    rfl

/-- The origin adds a server and a date to every answer. -/
theorem lower_standingFields :
    standingFields.map (fun f => Text.lower f.1) = ["server", "date"] := by decide +kernel

theorem named_standingFields {name : String} (h : name ∉ ["server", "date"]) :
    Http.named name standingFields = [] := by
  rw [← lower_standingFields] at h
  exact Http.named_eq_nil_iff.2 fun f hf he => h (List.mem_map.2 ⟨f, hf, he⟩)

/-! ## Replies -/

/-- The first line of an answer, without its end. -/
def statusLine (status : Int) : String := s!"HTTP/1.1 {status} " ++ Http.reasonPhrase status

/-- A header of an answer as a line, without its end. -/
def fieldText (f : String × String) : String := f.1 ++ ": " ++ f.2

/-- The lines of an answer with these headers, without their ends. -/
def headLines (status : Int) (hs : Headers) : List String := statusLine status :: hs.map fieldText

/-- The head of an answer with these headers. -/
def headOctets (status : Int) (hs : Headers) : Bytes :=
  ((headLines status hs).flatMap fun text => Text.ascii text ++ [13, 10]) ++ [13, 10]

/-- A reason phrase is printable. -/
theorem printable_reasonPhrase (status : Int) :
    ∀ c ∈ (Http.reasonPhrase status).toList, ' ' ≤ c ∧ c ≤ '~' := by
  -- The octets are at hand where the characters would have to be decoded.
  have hall : (Http.reasonPhrases.all fun p =>
      p.2.toUTF8.data.toList.all fun b => 32 ≤ b.toNat && b.toNat ≤ 126) = true := by
    decide +kernel
  rw [Http.reasonPhrase]
  cases hfind : Http.reasonPhrases.find? fun p => (p.1 : Int) == status with
  | none => exact fun c hc => absurd hc List.not_mem_nil
  | some p =>
    have hp := List.all_eq_true.1 hall p (List.mem_of_find?_eq_some hfind)
    exact Text.printable_of_octets fun b hb => by simpa using List.all_eq_true.1 hp b hb

theorem isAscii_toString_int (n : Int) : Text.IsAscii (toString n) := by
  cases n with
  | ofNat n => exact Text.isAscii_repr n
  | negSucc n => exact Text.isAscii_append.2 ⟨by decide, Text.isAscii_repr (n + 1)⟩

theorem isAscii_statusLine (status : Int) : Text.IsAscii (statusLine status) := by
  have hreason : Text.IsAscii (Http.reasonPhrase status) :=
    fun c hc => Http.toNat_lt_of_le_tilde (printable_reasonPhrase status c hc).2
  exact Text.isAscii_append.2 ⟨Text.isAscii_append.2 ⟨Text.isAscii_append.2
    ⟨by decide, isAscii_toString_int status⟩, by decide⟩, hreason⟩

/-- The head of an answer with headers of Latin-1 can be sent. -/
theorem head_latin1 {hs : Headers} (h : Http.Latin1Fields (standingFields ++ hs)) (status : Int) :
    head status (Http.reasonPhrase status) hs =
      .ok (headOctets status (standingFields ++ hs)) := by
  have hline := line_latin1 (isAscii_statusLine status).isLatin1
  rw [statusLine] at hline
  rw [head, hline, fieldLines_latin1 h]
  simp only [ok_bind, headOctets, headLines, List.flatMap_cons, List.flatMap_map,
    statusLine, fieldText, ← Text.ascii_crlf, Text.ascii_append, List.append_assoc]
  rfl

theorem latin1Fields_headersSent {r : Reply} (h : Http.Latin1Fields r.headers) :
    Http.Latin1Fields (standingFields ++ headersSent r) := by
  have hstanding : Http.Latin1Fields standingFields := by decide
  refine List.forall_mem_append.2 ⟨hstanding, ?_⟩
  unfold headersSent
  split
  · exact List.forall_mem_append.2 ⟨h, List.forall_mem_singleton.2
      ⟨(by decide : Text.IsLatin1 "Content-Length"), (Text.isAscii_repr _).isLatin1⟩⟩
  · exact h

/-- A reply with headers of Latin-1 can be sent. -/
theorem encodeReply_latin1 {r : Reply} (h : Http.Latin1Fields r.headers) (method : String) :
    encodeReply false method r =
      .ok (headOctets r.status (standingFields ++ headersSent r) ++
        if method == "HEAD" then [] else payload r) := by
  rw [encodeReply, if_neg Bool.false_ne_true, head_latin1 (latin1Fields_headersSent h)]
  rfl

/-! ## Refusals -/

/-- The answer to a request whose body cannot be told apart from what follows it. -/
def refusal (method message : String) : Bytes :=
  Text.ascii ("HTTP/1.1 400 Bad Request\r\n" ++ "Server: BaseHTTP/0.6 Python\r\n"
    ++ "Date: Thu, 01 Jan 1970 00:00:00 GMT\r\n" ++ "Connection: close\r\n"
    ++ "Content-Length: " ++ toString (Text.utf8 message).length ++ "\r\n" ++ "\r\n")
  ++ if method = "HEAD" then [] else Text.utf8 message

theorem headersSent_unreadable (message : String) :
    headersSent (unreadable message) =
      [("Connection", "close"), ("Content-Length", toString (Text.utf8 message).length)] := by
  have hlower : Text.lower "Connection" = "connection" :=
    Text.lower_eq_of_small (by decide) (by decide)
  simp [headersSent, unreadable, payload, Http.carriesBody, statesLength, hlower]

/-- The refusal can always be sent. -/
theorem encodeReply_unreadable (method message : String) :
    encodeReply false method (unreadable message) = .ok (refusal method message) := by
  have hpayload : payload (unreadable message) = Text.utf8 message := by
    simp [payload, unreadable, Http.carriesBody]
  have hheaders : Http.Latin1Fields (unreadable message).headers :=
    show Http.Latin1Fields [("Connection", "close")] by decide
  have hline : statusLine (unreadable message).status = "HTTP/1.1 400 Bad Request" :=
    show statusLine 400 = _ by decide
  rw [encodeReply_latin1 hheaders, headersSent_unreadable, hpayload, headOctets, headLines, hline]
  refine congrArg Except.ok ?_
  -- Both sides are the same lines; their ends are written as octets on the left.
  simp only [refusal, standingFields, fieldText, ← Text.ascii_crlf, List.cons_append,
    List.nil_append, List.map_cons, List.map_nil, List.flatMap_cons, List.flatMap_nil,
    List.append_nil, ← Text.ascii_append, ← String.append_assoc, String.reduceAppend, beq_iff_eq]

end ProxyTrial.Origin
