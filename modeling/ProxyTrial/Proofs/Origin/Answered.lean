import ProxyTrial.Origin.Server
import ProxyTrial.Proofs.Origin.Answer
import ProxyTrial.Proofs.Origin.Judging
import ProxyTrial.Proofs.Origin.Query
import ProxyTrial.Proofs.Origin.Snapshot
import ProxyTrial.Proofs.Verdict
import ProxyTrial.Script.Parse
/-!
# Requests that are answered

The origin answers a request with one reply: a refusal, the answer to a health check, the answer to
a path without a handler, the report of an expectation that does not apply, or the reply of the
handler. It does so unless it breaks down, which it does over text that it has to encode and cannot,
over a length that is too large, and over a target without a path.

## Main definitions

* `Answer t h input r`: the reply to a request
* `Answerable t h input`: nothing in the request and its handler that the origin breaks down over

## Main results

* `request_answered`: a request is answered by exactly one reply
-/

namespace ProxyTrial.Origin

open Http (AsciiFields Latin1Fields Oversized octetFields)

/-! ## Expectations -/

section Judge

variable {hs : Headers} {r : Request}

/-- Names that can be looked up among fields of ASCII. -/
def LooksUpAscii (es : List Expectation) : Prop :=
  ∀ e ∈ es, ∀ name, e.subject = .header name → Text.IsAscii (Text.lower name)

/-- A header can be looked up, and every request has a method and a body; so all that cannot be held
against a request is a status. -/
theorem isInapplicable_of_check {e : Expectation} {error : CheckError} (h : AsciiFields hs)
    (hfields : r.fields = octetFields hs)
    (hname : ∀ name, e.subject = .header name → Text.IsAscii (Text.lower name))
    (he : e.check (.request r) = .error error) : error.isInapplicable := by
  rcases Expectation.check_eq_error he with ⟨-, hinapplicable⟩ | ⟨name, err, hsubject, hvalues, -⟩
  · exact hinapplicable
  · rw [Message.fields, hfields, Http.values_octetFields h (hname name hsubject)] at hvalues
    cases hvalues

theorem isInapplicable_of_judge {es : List Expectation} {failures : List String}
    {error : CheckError} (h : AsciiFields hs) (hfields : r.fields = octetFields hs)
    (hnames : LooksUpAscii es) (hj : judge (.request r) es = (failures, some error)) :
    error.isInapplicable := by
  obtain ⟨before, e, after, rfl, -, he, -⟩ := judge_eq_some hj
  have hname := hnames e (List.mem_append_right before List.mem_cons_self)
  exact isInapplicable_of_check h hfields hname he

end Judge

/-! ## Answers -/

/-- The reply to a request with this head, whose body is at the start of the octets. -/
inductive Answer (t : Table) (h : Http.Head) (input : Bytes) : Reply → Prop
  /-- The body is malformed. -/
  | refused {e : RequestError} {message : String} :
      Request.read h.method h.target h.headers input = .error e →
      malformedBody? e = some message → Answer t h input (unreadable message)
  | health {r : Request} {rest : Bytes} :
      Request.read h.method h.target h.headers input = .ok (r, rest) → r.path = healthPath →
      Answer t h input { body := "UP!" }
  | notFound {r : Request} {rest : Bytes} :
      Request.read h.method h.target h.headers input = .ok (r, rest) → r.path ≠ healthPath →
      t.route? r.path = none → Answer t h input { status := 404, body := "Not Found" }
  /-- An expectation of the handler does not apply. -/
  | inapplicable {r : Request} {rest : Bytes} {g : Handler} {failures : List String}
      {error : CheckError} :
      Request.read h.method h.target h.headers input = .ok (r, rest) → r.path ≠ healthPath →
      t.route? r.path = some g →
      judge (.request r) g.expectations = (failures, some error) → error.isInapplicable →
      Answer t h input (errorReply error)
  | matched {r : Request} {rest : Bytes} {g : Handler} {failures : List String} :
      Request.read h.method h.target h.headers input = .ok (r, rest) → r.path ≠ healthPath →
      t.route? r.path = some g → judge (.request r) g.expectations = (failures, none) →
      Answer t h input g.reply

/-- Nothing in the request and its handler that the origin breaks down over: the fields are ASCII,
no length is too large, the target has a path, and the handler looks up names of ASCII only and has
a reply with headers of Latin-1. -/
structure Answerable (t : Table) (h : Http.Head) (input : Bytes) : Prop where
  fields : AsciiFields h.headers
  size : ¬ Oversized h.headers input
  path : ∃ path, Http.targetPath h.target = .ok path
  handler : ∀ path g, Http.targetPath h.target = .ok path → t.route? path = some g →
    LooksUpAscii g.expectations ∧ Latin1Fields g.reply.headers

section Answer

variable {t : Table} {h : Http.Head} {input : Bytes} {r : Reply}

/-- The reply of a handler is the only one that may be informational. -/
theorem Answer.final (ha : Answer t h input r) : 200 ≤ r.status ∨ ∃ g ∈ t, r = g.reply := by
  cases ha with
  | refused _ _ => exact .inl (show (200 : Int) ≤ 400 by decide)
  | health _ _ => exact .inl (show (200 : Int) ≤ 200 by decide)
  | notFound _ _ _ => exact .inl (show (200 : Int) ≤ 404 by decide)
  | inapplicable _ _ _ _ _ => exact .inl (show (200 : Int) ≤ 500 by decide)
  | matched _ _ hroute _ => exact .inr ⟨_, Table.mem_of_route? hroute, rfl⟩

/-- The headers of an answer can be written. -/
theorem Answer.latin1 (ha : Answer t h input r) (hanswerable : Answerable t h input) :
    Latin1Fields r.headers := by
  cases ha with
  | refused _ _ => exact show Latin1Fields [("Connection", "close")] by decide
  | health _ _ => exact List.forall_mem_nil _
  | notFound _ _ _ => exact List.forall_mem_nil _
  | inapplicable _ _ _ _ _ => exact List.forall_mem_nil _
  | matched hread _ hroute _ =>
    obtain ⟨path, hpath⟩ := hanswerable.path
    obtain ⟨rfl, -⟩ := Request.of_read_eq_ok hanswerable.fields hpath hread
    exact (hanswerable.handler _ _ hpath hroute).2

/-- A request that has been read is answered by the health check, by a handler or for want of
one. -/
theorem exists_answer_of_read {rest : Bytes} {request : Request}
    (hanswerable : Answerable t h input)
    (hread : Request.read h.method h.target h.headers input = .ok (request, rest)) :
    ∃ failures r, respond t request = (failures, .ok r) ∧ Answer t h input r := by
  obtain ⟨path, hpath⟩ := hanswerable.path
  obtain ⟨rfl, hfields⟩ := Request.of_read_eq_ok hanswerable.fields hpath hread
  by_cases hhealth : request.path = healthPath
  · refine ⟨[], _, ?_, .health hread hhealth⟩
    rw [respond, if_pos (beq_iff_eq.2 hhealth)]
  · have hother : ¬ (request.path == healthPath) = true := mt beq_iff_eq.1 hhealth
    cases hroute : t.route? request.path with
    | none =>
      refine ⟨[], _, ?_, .notFound hread hhealth hroute⟩
      rw [respond, if_neg hother, hroute]
    | some g =>
      have hnames := (hanswerable.handler _ _ hpath hroute).1
      cases hjudge : judge (.request request) g.expectations with
      | mk failures error =>
        cases error with
        | none =>
          refine ⟨failures, g.reply, ?_, .matched hread hhealth hroute hjudge⟩
          rw [respond, if_neg hother, hroute]
          simp only [hjudge]
        | some error =>
          have hinapplicable := isInapplicable_of_judge hanswerable.fields hfields hnames hjudge
          refine ⟨failures ++ ["ERROR: " ++ error.message], errorReply error, ?_,
            .inapplicable hread hhealth hroute hjudge hinapplicable⟩
          rw [respond, if_neg hother, hroute]
          simp only [hjudge, hinapplicable, if_true]

/-- The origin answers a request by sending a reply, perhaps as the last one of the connection. -/
theorem exists_sendReply {rest : Bytes} (hhead : Http.readHead input = .ok (some (h, rest)))
    (hmethod : h.method ∈ methods) (hanswerable : Answerable t h rest) :
    ∃ persistent failures r more, Answer t h rest r ∧
      turn t input = sendReply { h with persistent } (goAhead h) failures r more := by
  cases hread : Request.read h.method h.target h.headers rest with
  | error e =>
    obtain ⟨path, hpath⟩ := hanswerable.path
    obtain ⟨message, hmessage⟩ :=
      (Request.refused_of_read_error hanswerable.fields hpath _ hread).resolve_right
        hanswerable.size
    refine ⟨false, ["ERROR: " ++ message], unreadable message, [], .refused hread hmessage, ?_⟩
    rw [turn_of_readHead hhead, serve, if_pos (List.elem_eq_true_of_mem hmethod), hread]
    simp only [hmessage]
  | ok result =>
    obtain ⟨failures, r, hrespond, hanswer⟩ := exists_answer_of_read hanswerable hread
    exact ⟨h.persistent, failures, r, result.2, hanswer,
      turn_of_respond hhead hmethod hread hrespond⟩

/-- A request is answered by exactly one reply, perhaps after the leave to send its body, and the
origin does not break down. The reply is final, unless it is a handler's own. -/
theorem request_answered {rest : Bytes} (hhead : Http.readHead input = .ok (some (h, rest)))
    (hversion : h.bare = false) (hmethod : h.method ∈ methods)
    (hanswerable : Answerable t h rest) :
    (turn t input).breakdown = none ∧
      ∃ r octets, Answer t h rest r ∧ encodeReply false h.method r = .ok octets ∧
        (turn t input).sent = goAhead h ++ octets ∧
        (200 ≤ r.status ∨ ∃ g ∈ t, r = g.reply) := by
  obtain ⟨persistent, failures, r, more, hanswer, hturn⟩ :=
    exists_sendReply hhead hmethod hanswerable
  have hlatin1 := hanswer.latin1 hanswerable
  obtain ⟨octets, hreply⟩ : ∃ octets, encodeReply false h.method r = .ok octets :=
    ⟨_, encodeReply_latin1 hlatin1 h.method⟩
  have hencoded : encodeReply h.bare h.method r = .ok octets := by rw [hversion, hreply]
  have hsent := sendReply_of_encodeReply (h := { h with persistent }) hencoded (goAhead h) failures
    more
  rw [← hturn] at hsent
  exact ⟨hsent.2, r, octets, hanswer, hreply, hsent.1, hanswer.final⟩

end Answer

/-- A request without a body, for which there is a handler. -/
theorem request_answered_get :
    let handler : Handler := { path := "/", reply := { status := 201, headers := [("X", "é")] } }
    let head : Http.Head := ⟨"GET", "/a?b", [("Host", "x")], false, true, false⟩
    let input := Text.ascii "GET /a?b HTTP/1.1\r\nHost: x\r\n\r\n"
    (turn [handler] input).breakdown = none ∧
      ∃ r octets, Answer [handler] head [] r ∧ encodeReply false "GET" r = .ok octets ∧
        (turn [handler] input).sent = goAhead head ++ octets ∧
        (200 ≤ r.status ∨ ∃ g ∈ [handler], r = g.reply) := by
  intro handler head input
  have hhead : Http.readHead input = .ok (some (head, [])) := by decide +kernel
  have hpath : Http.targetPath head.target = .ok "/a" := by decide +kernel
  have hplain : ¬ Http.NamesChunked head.headers := by decide +kernel
  have hempty : Http.lengthText head.headers = "" := by decide +kernel
  have hsize : ¬ Oversized head.headers [] := by
    rintro (⟨-, -, hlong | ⟨n, hdecimal, -⟩⟩ | ⟨hchunked, -⟩)
    · rw [hempty] at hlong
      exact absurd hlong (by decide)
    · exact hdecimal.ne_empty hempty
    · exact hplain hchunked
  have hanswerable : Answerable [handler] head [] := {
    fields := by decide
    size := hsize
    path := ⟨"/a", hpath⟩
    handler := by
      intro path g _ hg
      obtain rfl := List.mem_singleton.1 (Table.mem_of_route? hg)
      exact ⟨List.forall_mem_nil _, by decide⟩ }
  exact request_answered hhead rfl (by decide) hanswerable

/-- What an origin makes of a request on a fresh connection, when a script with these lines in a
handler for all paths is loaded: what it sends, and whether it breaks down. -/
def outcomeUnder (lines request : String) : Except ScriptError (Bytes × Bool) :=
  (Script.parse ("handle \"/\" \x7b\n" ++ lines ++ "\n\x7d\n")).map fun s =>
    let outcome := ((({} : OriginServer).addAll s).accept (Text.ascii request)).1
    (outcome.sent, outcome.breakdown.isSome)

/-- Requests without an answer: with a field or a length that cannot be read, to a target without a
path, and to handlers that look up or send what cannot be written. -/
theorem requests_unanswered :
    outcomeUnder "tx" "GET / HTTP/1.1\r\nX: ÿ\r\n\r\n" = .ok ([], true) ∧
    outcomeUnder "tx" "GET / HTTP/1.1\r\nContent-Length: 9223372036854775808\r\n\r\n" =
      .ok ([], true) ∧
    outcomeUnder "tx" "GET http://[ HTTP/1.1\r\n\r\n" = .ok ([], true) ∧
    outcomeUnder "expect req.headers[\"Ж\"] eq \"\"" "GET / HTTP/1.1\r\n\r\n" = .ok ([], true) ∧
    outcomeUnder "tx -header \"X: Ж\"" "GET / HTTP/1.1\r\n\r\n" = .ok ([], true) := by
  refine ⟨?_, ?_, ?_, ?_, ?_⟩ <;> decide +kernel

end ProxyTrial.Origin
