import ProxyTrial.Proofs.Client.Incoming
import ProxyTrial.Proofs.Client.Outgoing
import ProxyTrial.Proofs.Origin.KeepAlive
import ProxyTrial.Proofs.Run.Delivery
import ProxyTrial.Run.Program
/-!
# What a handler answers is what a client judges

A reply is sent with two headers of the origin before its own and with its length after them. A
client whose request is answered by it reads its status, its body and its headers as they are
written. Two headers are the exception: the origin has a `Server` and a `Date` of its own, and the
first value counts. A reply that redirects is only read if the place that it names can be asked for.

## Main definitions

* `PlainReply r`: a reply with headers that both sides take as they are
* `answerHeaders r`: all headers that are sent with a reply
* `AnsweredBy t input h`: the origin answers a request by the reply of a handler
* `redirectPlace? r`, `checkPlace a base r`: the place that a reply redirects to, and whether it can
  be asked for

## Main results

* `exists_sent_of_answeredBy`: the octets that the origin sends
* `PlainReply.answer_eq`: what a client makes of them
* `reply_received_as_written`: what the handler answers is what the client judges
-/

namespace ProxyTrial

open Http (named Distinct PlainField StatesLength octetFields)

/-! ## Replies -/

/-- A reply with a body, whose headers both sides take as they are, and which leaves it to the
origin to frame the body and says nothing about how to read it. -/
structure PlainReply (r : Reply) : Prop where
  status : 200 ≤ r.status ∧ r.status ≤ 999
  carriesBody : Http.carriesBody r.status
  plain : ∀ f ∈ r.headers, PlainField f
  distinct : Distinct r.headers
  unframed : ∀ f ∈ r.headers,
    Text.lower f.1 ∉ ["content-length", "transfer-encoding", "content-encoding", "content-type"]
  body : (Text.utf8 r.body).length < Http.lengthLimit

/-- The headers that are sent with a reply: those of the origin come first. -/
def answerHeaders (r : Reply) : Headers := Origin.standingFields ++ Origin.headersSent r

/-- The place that a reply redirects to. -/
def redirectPlace? (r : Reply) : Option String :=
  if redirectStatuses.contains r.status.toNat then Http.combined "location" r.headers else none

/-- Checks the place that a reply redirects to, if it redirects. -/
def checkPlace (a : Agent) (base : Http.Url) (r : Reply) : Except ExchangeError Unit :=
  match redirectPlace? r with
  | some place => checkRedirect a base (octetFields (answerHeaders r)) place
  | none => .ok ()

/-- What a client receives of a reply. -/
def receivedReply (r : Reply) : Incoming where
  status := r.status.toNat
  fields := octetFields (answerHeaders r)
  content := Text.utf8 r.body

namespace PlainReply

variable {r : Reply}

theorem payload_eq (h : PlainReply r) : Origin.payload r = Text.utf8 r.body := by
  rw [Origin.payload, if_pos h.carriesBody]

/-- The length of the body stands after the headers of the reply. -/
theorem headersSent_eq (h : PlainReply r) :
    Origin.headersSent r =
      r.headers ++ [("Content-Length", toString (Text.utf8 r.body).length)] := by
  have hnone : Origin.statesLength r.headers = false := by
    rw [Origin.statesLength, List.any_eq_false]
    intro f hf he
    exact h.unframed f hf (by simp [beq_iff_eq.1 he])
  rw [Origin.headersSent, h.carriesBody, hnone, h.payload_eq]
  rfl

/-- What is sent under a name: what the origin says itself, what the reply says, and the length. -/
theorem named_answerHeaders (h : PlainReply r) (name : String) :
    named name (answerHeaders r) = named name Origin.standingFields ++ named name r.headers ++
      if name = "content-length" then [toString (Text.utf8 r.body).length] else [] := by
  have hlower := Http.lower_contentLength
  have hlast : ∀ length, named name [("Content-Length", length)] =
      if name = "content-length" then [length] else [] := by
    intro length
    split
    · next he =>
      subst he
      exact Http.named_cons_of_eq (f := ("Content-Length", length)) hlower []
    · next hne =>
      exact Http.named_eq_nil_iff.2 (List.forall_mem_singleton.2
        fun he => hne (he.symm.trans hlower))
  rw [answerHeaders, h.headersSent_eq, Http.named_append, Http.named_append, hlast,
    List.append_assoc]

theorem plain_answerHeaders (h : PlainReply r) : ∀ f ∈ answerHeaders r, PlainField f := by
  have hstanding : ∀ f ∈ Origin.standingFields, PlainField f := by decide +kernel
  have hlength : PlainField ("Content-Length", toString (Text.utf8 r.body).length) :=
    Http.plainField_of_visible (by decide) (by decide) fun c hc =>
      (Text.isDigit_spec (Text.isDigit_toString _ c hc)).1
  rw [answerHeaders, h.headersSent_eq]
  simp only [List.forall_mem_append, List.forall_mem_singleton]
  exact ⟨hstanding, h.plain, hlength⟩

theorem asciiFields_answerHeaders (h : PlainReply r) : Http.AsciiFields (answerHeaders r) :=
  Http.asciiFields_of_plain h.plain_answerHeaders

/-- Neither the origin nor the reply uses a name that frames or encodes the body. -/
theorem named_unframed (h : PlainReply r) {name : String}
    (hname : name ∈
      ["content-length", "transfer-encoding", "content-encoding", "content-type"]) :
    named name Origin.standingFields = [] ∧ named name r.headers = [] := by
  have hstanding : name ∉ ["server", "date"] := by
    revert name
    decide
  refine ⟨Origin.named_standingFields hstanding, Http.named_eq_nil_iff.2 fun f hf he => ?_⟩
  exact h.unframed f hf (he ▸ hname)

/-- The headers state the length of the body. -/
theorem statesLength (h : PlainReply r) :
    named "content-length" (answerHeaders r) = [toString (Text.utf8 r.body).length] ∧
      StatesLength (Text.utf8 r.body).length (answerHeaders r) := by
  obtain ⟨hstanding, hown⟩ := h.named_unframed (show "content-length" ∈ _ by simp)
  obtain ⟨hstanding', hown'⟩ := h.named_unframed (show "transfer-encoding" ∈ _ by simp)
  have hlength : named "content-length" (answerHeaders r) =
      [toString (Text.utf8 r.body).length] := by
    rw [h.named_answerHeaders, hstanding, hown]
    rfl
  refine ⟨hlength, ?_, .inl hlength⟩
  rw [h.named_answerHeaders, hstanding', hown']
  rfl

/-- Nothing but the length is added under a name that the origin does not use itself. -/
theorem named_eq_nil (h : PlainReply r) {name : String}
    (hname : name ∈ ["content-encoding", "content-type"]) : named name (answerHeaders r) = [] := by
  obtain ⟨hstanding, hown⟩ := h.named_unframed
    (List.mem_cons_of_mem _ (List.mem_cons_of_mem _ hname))
  have hne : name ≠ "content-length" := by
    rintro rfl
    simp at hname
  rw [h.named_answerHeaders, hstanding, hown, if_neg hne]
  rfl

/-- The value of a header that is sent: the origin's own, if it has one, else that of the reply. -/
theorem head?_named (h : PlainReply r) {f : String × String} (hf : f ∈ r.headers) :
    (named (Text.lower f.1) (answerHeaders r)).head? =
      some ((named (Text.lower f.1) Origin.standingFields).headD f.2) := by
  have hne : Text.lower f.1 ≠ "content-length" := fun he => h.unframed f hf (by simp [he])
  rw [h.named_answerHeaders, Http.named_of_distinct h.distinct hf, if_neg hne, List.append_nil]
  cases named (Text.lower f.1) Origin.standingFields <;> rfl

end PlainReply

/-! ## What a client makes of a reply -/

theorem decodePieces_nil (pieces : List Bytes) :
    Http.decodePieces [] pieces = .ok pieces.flatten := by
  induction pieces with
  | nil => rfl
  | cons piece pieces ih =>
    rw [Http.decodePieces, Http.feedAll, ok_bind]
    simp only [ih, ok_bind, List.flatten_cons]
    rfl

/-- A body without a content coding is taken as it is. -/
theorem decodeContent_octetFields {hs : Headers} (ha : Http.AsciiFields hs)
    (h : named "content-encoding" hs = []) (pieces : List Bytes) :
    Http.decodeContent (octetFields hs) pieces = .ok pieces.flatten := by
  have hsmall : Text.lower "content-encoding" = "content-encoding" :=
    Text.lower_eq_of_small (by decide) (by decide)
  have hvalues : (octetFields hs).valuesOf "content-encoding" = [] := by
    rw [Http.valuesOf_octetFields ha (by decide), hsmall, h]
  rw [Http.decodeContent, Http.contentCodings, hvalues]
  exact decodePieces_nil pieces

/-- A body without a content type is read as it has been written. -/
theorem read_octetFields {hs : Headers} (ha : Http.AsciiFields hs)
    (h : named "content-type" hs = []) (texts : Http.TextReader) (body : String) :
    texts.read (octetFields hs) (Text.utf8 body) = .ok body := by
  have hsmall : Text.lower "content-type" = "content-type" :=
    Text.lower_eq_of_small (by decide) (by decide)
  have hnone : (octetFields hs).joined? "content-type" = none := by
    rw [Http.joined?_octetFields ha (by decide) hsmall, Http.combined, h]
  rw [texts.read_untyped _ _ hnone, Text.ofUtf8Lenient_utf8]

namespace PlainReply

variable {r : Reply}

theorem status_eq (h : PlainReply r) : ((r.status.toNat : Nat) : Int) = r.status :=
  Int.toNat_of_nonneg (Int.le_trans (by decide) h.status.1)

/-- The response that a client makes of a reply has the status and the body of the reply. -/
theorem response_eq (h : PlainReply r) (a : Agent) :
    (receivedReply r).response a =
      .ok { status := r.status, fields := octetFields (answerHeaders r), body := r.body } := by
  have hread := read_octetFields h.asciiFields_answerHeaders
    (h.named_eq_nil (show "content-type" ∈ _ by simp)) a.texts r.body
  rw [Incoming.response, receivedReply, Response.ofContent, hread, h.status_eq]
  rfl

/-- The place that a head redirects to is the one that the reply names. -/
theorem place?_eq (h : PlainReply r) :
    Incoming.Head.place? ⟨r.status.toNat, octetFields (answerHeaders r)⟩ = redirectPlace? r := by
  have hstanding := Origin.named_standingFields (show "location" ∉ _ by decide)
  have hsmall : Text.lower "location" = "location" :=
    Text.lower_eq_of_small (by decide) (by decide)
  have hcombined : (octetFields (answerHeaders r)).joined? "location" =
      Http.combined "location" r.headers := by
    rw [Http.joined?_octetFields h.asciiFields_answerHeaders (by decide) hsmall, Http.combined,
      Http.combined, h.named_answerHeaders, hstanding, if_neg (by decide), List.nil_append,
      List.append_nil]
  rw [Incoming.Head.place?, redirectPlace?, hcombined]

/-- What a client makes of the octets of a reply, whatever follows them. -/
theorem answer_eq (h : PlainReply r) {a : Agent} {o : Outgoing} (hhead : o.method ≠ "HEAD")
    (hconnect : o.method ≠ "CONNECT") (asked : Http.Head) (rest : Bytes) :
    o.answer a (Origin.goAhead asked ++ Origin.headOctets r.status (answerHeaders r) ++
        (Text.utf8 r.body ++ rest)) =
      (checkPlace a o.url r).map fun _ => receivedReply r := by
  obtain ⟨hge, hle⟩ : 200 ≤ r.status.toNat ∧ r.status.toNat ≤ 999 := by
    obtain ⟨hge, hle⟩ := h.status
    omega
  obtain ⟨hstated, hlength⟩ := h.statesLength
  have hbodyless : Incoming.isBodyless o ⟨r.status.toNat, octetFields (answerHeaders r)⟩ =
      false := by
    simp [Incoming.isBodyless, hhead, hconnect, h.status_eq, h.carriesBody]
  have hcontent := Incoming.readContent_append hbodyless h.asciiFields_answerHeaders hlength
    (by simp [hstated]) h.body rest
  have hfinal := Incoming.finalHead_headOctets hge hle h.plain_answerHeaders hlength h.body
    (Incoming.proposals o) asked
  rw [h.status_eq] at hfinal
  have hdecoded : ∀ pieces, Http.decodeContent (octetFields (answerHeaders r)) pieces =
      .ok pieces.flatten :=
    decodeContent_octetFields h.asciiFields_answerHeaders
      (h.named_eq_nil (show "content-encoding" ∈ _ by simp))
  have hpieces : (if (Text.utf8 r.body).isEmpty then [] else [Text.utf8 r.body]).flatten =
      Text.utf8 r.body := by
    split
    · next he => rw [List.isEmpty_iff.1 he]; rfl
    · simp
  -- The octets have a head at least, so that there is fuel for two.
  have hlong : 1 ≤ (Origin.goAhead asked ++ Origin.headOctets r.status (answerHeaders r) ++
      (Text.utf8 r.body ++ rest)).length := by
    simp only [Origin.headOctets, List.length_append, List.length_cons]
    omega
  obtain ⟨fuel, hfuel⟩ := Nat.exists_eq_add_of_le' hlong
  rw [Outgoing.answer, hfuel, hfinal]
  simp only [Except.mapError, ok_bind, h.place?_eq, checkPlace]
  cases redirectPlace? r with
  | none =>
    simp only [hcontent, hdecoded, hpieces]
    rfl
  | some place =>
    dsimp only
    cases checkRedirect a o.url (octetFields (answerHeaders r)) place with
    | error e => rfl
    | ok _ =>
      simp only [ok_bind, hcontent, hdecoded, hpieces]
      rfl

end PlainReply

/-! ## What the origin sends -/

namespace Origin

/-- The octets hold a request that is answered by the reply of a handler: the origin reads it, has
the handler for its path, and can hold all expectations of the handler against it. -/
def AnsweredBy (t : Table) (input : Bytes) (h : Handler) : Prop :=
  ∃ head rest r rest' failures, Http.readHead input = .ok (some (head, rest)) ∧
    head.method ∈ methods ∧
    Request.read head.method head.target head.headers rest = .ok (r, rest') ∧
    r.path ≠ healthPath ∧ t.route? r.path = some h ∧
    judge (.request r) h.expectations = (failures, none)

variable {t : Table} {input : Bytes} {h : Handler}

/-- A conversation begins with the answer to the first request. -/
theorem exists_sent_converse (t : Table) (input : Bytes) :
    ∃ more, (converse t input).sent = (turn t input).sent ++ more := by
  cases hrest : (turn t input).rest with
  | none => exact ⟨[], by rw [converse, turns_of_rest_none _ hrest, List.append_nil]⟩
  | some rest => exact ⟨_, by rw [converse, turns_of_rest_some _ hrest]⟩

/-- What the origin sends to a request that it has a reply for: the reply, perhaps after the leave
to send a body, and before answers to other requests. -/
theorem exists_sent_of_turn {head : Http.Head} {failures : List String} {reply : Reply}
    {rest : Bytes} (hturn : turn t input = sendReply head (goAhead head) failures reply rest)
    (hreply : PlainReply reply) (hnotHead : head.method ≠ "HEAD") (hbare : head.bare = false) :
    ∃ more, (converse t input).sent =
      goAhead head ++ headOctets reply.status (answerHeaders reply) ++
        (Text.utf8 reply.body ++ more) := by
  obtain ⟨more, hmore⟩ := exists_sent_converse t input
  have hbeq : (head.method == "HEAD") = false := by simpa using hnotHead
  have hoctets : encodeReply head.bare head.method reply =
      .ok (headOctets reply.status (answerHeaders reply) ++ Text.utf8 reply.body) := by
    rw [hbare, encodeReply_latin1 (Http.asciiFields_of_plain hreply.plain).latin1, hbeq,
      if_neg Bool.false_ne_true, hreply.payload_eq]
    rfl
  refine ⟨more, ?_⟩
  rw [hmore, hturn, (sendReply_of_encodeReply hoctets _ _ _).1]
  simp only [List.append_assoc]

/-- What the origin sends to a request that is answered by a handler. -/
theorem exists_sent_of_answeredBy (h' : AnsweredBy t input h) (hreply : PlainReply h.reply)
    (hmethod : ∀ head rest, Http.readHead input = .ok (some (head, rest)) →
      head.method ≠ "HEAD" ∧ head.bare = false) :
    ∃ asked rest, (converse t input).sent =
      goAhead asked ++ headOctets h.reply.status (answerHeaders h.reply) ++
        (Text.utf8 h.reply.body ++ rest) := by
  obtain ⟨head, rest, r, rest', failures, hhead, hknown, hread, hpath, hroute, hjudge⟩ := h'
  obtain ⟨hnotHead, hbare⟩ := hmethod head rest hhead
  have hrespond : respond t r = (failures, .ok h.reply) := by
    rw [respond, if_neg (by simpa using hpath), hroute]
    simp only [hjudge]
  exact ⟨head, exists_sent_of_turn (turn_of_respond hhead hknown hread hrespond) hreply hnotHead
    hbare⟩

/-- The turn of a plain call that the origin has a reply for. -/
theorem turn_plainRequest {host : String} {c : Call} {method path : String}
    {query : Option String} {port : Nat} {failures : List String} {reply : Reply}
    (hhost : ∀ c ∈ host.toList, Http.isHostChar c) (hc : Outgoing.PlainCall c method path)
    (hq : Http.PlainQuery query)
    (hfits : (Outgoing.plainRequest host port method path query c).FitsOrigin)
    (hrespond : respond t ⟨method, path, octetFields (Outgoing.hostFirst
      (Outgoing.plainHeaders host port method path query c)), c.body⟩ = (failures, .ok reply)) :
    let q := Outgoing.asQuery method (Http.withQuery path query)
      (Outgoing.plainHeaders host port method path query c) (Text.utf8 c.body)
    turn t q.octets = sendReply q.head (goAhead q.head) failures reply [] := by
  intro q
  have hhead := Outgoing.hasHead_plainRequest hhost hc hq hfits
  have hread := hhead.readHead []
  rw [List.append_nil, List.append_nil] at hread
  have hheaders := Outgoing.headers_asQuery (Outgoing.plain_plainHeaders hhost hc port query) method
    (Http.withQuery path query) (Text.utf8 c.body)
  have hrequest := Outgoing.read_plainRequest hhost hc hq port
  rw [← hheaders] at hrequest hrespond
  exact turn_of_respond hread hhead.method hrequest hrespond

/-- A plain call is answered by the handler of its path, if the origin can hold the expectations of
the handler against the request. -/
theorem answeredBy_plainRequest {host : String} {c : Call} {method path : String}
    {query : Option String} {port : Nat} {failures : List String}
    (hhost : ∀ c ∈ host.toList, Http.isHostChar c) (hc : Outgoing.PlainCall c method path)
    (hq : Http.PlainQuery query)
    (hfits : (Outgoing.plainRequest host port method path query c).FitsOrigin)
    (hpath : path ≠ healthPath) (hroute : t.route? path = some h)
    (hjudge : judge (.request ⟨method, path, octetFields (Outgoing.hostFirst
      (Outgoing.plainHeaders host port method path query c)), c.body⟩) h.expectations =
        (failures, none)) :
    AnsweredBy t (Outgoing.asQuery method (Http.withQuery path query)
      (Outgoing.plainHeaders host port method path query c) (Text.utf8 c.body)).octets h := by
  have hhead := Outgoing.hasHead_plainRequest hhost hc hq hfits
  have hread := hhead.readHead []
  rw [List.append_nil, List.append_nil] at hread
  have hrequest := Outgoing.read_plainRequest hhost hc hq port
  rw [← Outgoing.headers_asQuery (Outgoing.plain_plainHeaders hhost hc port query) method
    (Http.withQuery path query) (Text.utf8 c.body)] at hrequest
  refine ⟨_, _, _, _, failures, hread, hhead.method, hrequest, hpath, hroute, ?_⟩
  rw [Outgoing.headers_asQuery (Outgoing.plain_plainHeaders hhost hc port query)]
  exact hjudge

end Origin

/-! ## Exchanges -/

open Origin (AnsweredBy)

/-- A client whose request is answered by the reply of a handler judges what the handler answers:
unless the reply redirects to a place that is none to ask for, the client has the status and the
body of the reply, and for each header of the reply, in whatever letter case its name is looked up,
the value of the reply. Only a header that the origin has itself keeps the value of the origin. -/
theorem reply_received_as_written {m m₁ : Machine} {a : Agent} {address : String} {c : Call}
    {o : Outgoing} {request : Bytes} {h : Handler} (ho : Outgoing.ofCall a address c = .ok o)
    (hmethod : o.method ≠ "HEAD") (hrequest : o.encode = .ok request)
    (hconnect : m.connect a o = (.ok .origin, m₁))
    (hanswer : AnsweredBy m.origin.handlers request h) (hreply : PlainReply h.reply) :
    ∃ received response,
      (m.send a (Outgoing.ofCall a address c)).1 =
        (checkPlace a o.url h.reply).map (fun _ => received) ∧
      received.response a = .ok response ∧
      response.status = h.reply.status ∧ response.body = h.reply.body ∧
      ∀ f ∈ h.reply.headers, ∀ (e : Expectation) (name : String), e.subject = .header name →
        Text.lower name = Text.lower f.1 →
        e.actual (.response response) =
          .ok ((named (Text.lower f.1) Origin.standingFields).headD f.2) := by
  have hread : ∀ head rest, Http.readHead request = .ok (some (head, rest)) →
      head.method = o.method ∧ head.bare = false :=
    fun head rest hhead => Outgoing.readHead_encode ho hrequest hhead
  have hmethods : o.method ∈ Origin.methods := by
    obtain ⟨head, rest, -, -, -, hhead, hknown, -⟩ := hanswer
    exact (hread head rest hhead).1 ▸ hknown
  have hnotConnect : o.method ≠ "CONNECT" := fun he => absurd (he ▸ hmethods) (by decide)
  obtain ⟨asked, rest, hsent⟩ := Origin.exists_sent_of_answeredBy hanswer hreply
    fun head rest hhead => ⟨(hread head rest hhead).1 ▸ hmethod, (hread head rest hhead).2⟩
  refine ⟨receivedReply h.reply, _, ?_, hreply.response_eq a, rfl, rfl, ?_⟩
  · rw [ho]
    unfold Machine.send
    simp only [Machine.exchange, hconnect, hrequest]
    show o.answer a (Origin.converse m₁.origin.handlers request).sent = _
    rw [(Machine.dial_eq (Machine.connect_eq_ok hconnect).2).2, hsent]
    exact hreply.answer_eq hmethod hnotConnect asked rest
  · intro f hf e name hsubject hname
    have hascii : Text.IsAscii (Text.lower name) :=
      hname ▸ Text.isAscii_lower (hreply.plain f hf).isAscii_name
    rw [Expectation.actual, hsubject]
    simp only [Message.fields, Http.values_octetFields hreply.asciiFields_answerHeaders hascii,
      hname, List.headD_eq_head?_getD, hreply.head?_named hf, Option.getD_some]

/-- A reply with a body that is not ASCII, to a call for a path below that of the handler. -/
theorem reply_received_as_written_created :
    let h : Handler := {
      path := "/items/"
      reply := { status := 201, headers := [("X-Id", "7"), ("date", "today")], body := "né" } }
    let m : Machine := { origin := { handlers := [h], bound := some 8080 } }
    let e : Expectation :=
      ⟨.response, .header "x-id", .equal, "7", "resp.headers[\"x-id\"] eq \"7\""⟩
    PlainReply h.reply ∧ ∃ request, Outgoing.sampleRequest.encode = .ok request ∧
      AnsweredBy m.origin.handlers request h ∧ ∃ received response,
        (m.send {} (Outgoing.ofCall {} m.origin.address Outgoing.sampleCall)).1 = .ok received ∧
        received.response {} = .ok response ∧ response.status = 201 ∧ response.body = "né" ∧
        e.actual (.response response) = .ok "7" := by
  intro h m e
  have hreply : PlainReply h.reply := by
    refine ⟨by decide, by decide, by decide +kernel, by decide +kernel, by decide +kernel, ?_⟩
    rw [Text.utf8_eq_flatMap]
    decide +kernel
  have hhost : ∀ c ∈ "127.0.0.1".toList, Http.isHostChar c :=
    List.all_iff_forall_prop.1 (by decide)
  have hrequest := Outgoing.encode_plainRequest hhost Outgoing.plainCall_sampleCall 8080
    (some "q=2")
  have hroute : Origin.Table.route? [h] "/items/1" = some h := by
    simp [Origin.Table.route?, Origin.Table.covers, Origin.Table.longer, h]
  have hanswer : AnsweredBy m.origin.handlers _ h := Origin.answeredBy_plainRequest hhost
    Outgoing.plainCall_sampleCall (show Http.PlainQuery (some "q=2") by decide +kernel)
    Outgoing.fitsOrigin_sampleRequest (by decide) hroute rfl
  have haddress : m.origin.address = "127.0.0.1:8080" := by decide
  have ho : Outgoing.ofCall {} m.origin.address Outgoing.sampleCall =
    .ok Outgoing.sampleRequest := by
    rw [haddress, Outgoing.ofCall_sampleCall]
  have hconnect : m.connect {} Outgoing.sampleRequest = (.ok .origin, m) := rfl
  obtain ⟨received, response, hsend, hresponse, hstatus, hbody, hvalues⟩ :=
    reply_received_as_written ho (by decide) hrequest hconnect hanswer hreply
  have hlower : Text.lower "X-Id" = "x-id" := Text.lower_eq_of_small (by decide) (by decide)
  have hvalue := hvalues ("X-Id", "7") (by decide) e "x-id" rfl
    ((Text.lower_eq_of_small (by decide) (by decide)).trans hlower.symm)
  rw [hlower, Origin.named_standingFields (by decide)] at hvalue
  exact ⟨hreply, _, hrequest, hanswer, received, response, hsend, hresponse, hstatus, hbody, hvalue⟩

/-- A client that looks for the `Server` of a reply does not find it. -/
theorem server_header_shadowed :
    let handler : Handler := { path := "/", reply := { headers := [("Server", "mine")] } }
    let own : Expectation :=
      ⟨.response, .header "Server", .equal, "mine", "resp.headers[\"Server\"] eq \"mine\""⟩
    let script : Script := ⟨[handler], [{ name := "c", expectations := [own] }]⟩
    (Run.run script {} {}).1.toOption.map (fun result => result.failures.map (·.message)) =
      some ["FAILED: " ++ own.shown ++ " (actual='BaseHTTP/0.6 Python')"] := by
  decide +kernel

end ProxyTrial
