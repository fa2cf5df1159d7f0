import ProxyTrial.Origin.Conversation
import ProxyTrial.Proofs.Http.Body
import ProxyTrial.Proofs.Http.RequestHead
import ProxyTrial.Proofs.Origin.Routing
/-!
# One request among others

A request is answered from its own octets: its head and its body are read, and what stands after
them stays for the next turn. Thus the answer is the same whatever follows.

## Main definitions

* `Query`: a request as it is sent
* `Query.WellFormed`: its head is within the limits, and its fields frame its body
* `Query.StaysOpen`, `Query.AnsweredOpen t`: neither the request nor its answer closes the
  connection

## Main results

* `turn_append`: the answer to a request does not depend on what follows it
* `turn_rest`: a request that is answered leaves what follows it to the next turn
-/

namespace ProxyTrial.Origin

/-- A request as it is sent: what its head says, and the octets after the head. -/
structure Query where
  method : String
  target : String
  fields : Headers
  body : Bytes

namespace Query

/-- The octets of a request. -/
def octets (q : Query) : Bytes := Http.headOctets q.method q.target q.fields ++ q.body

/-- The fields as they are read. -/
def headers (q : Query) : Headers := q.fields.map Http.received

/-- The head as it is read. -/
def head (q : Query) : Http.Head := Http.writtenHead q.method q.target q.fields

/-- The head of the request is within the limits: a known method, a line and fields that are not
too long, and not too many of them. -/
structure HasHead (q : Query) : Prop where
  method : q.method ∈ methods
  target : Http.Graphic q.target
  line : (Http.requestLine q.method q.target).length ≤ Http.lineLimit
  fields : ∀ f ∈ q.fields, Http.WrittenField f
  few : q.fields.length < Http.sectionLimit

/-- The fields frame the body, none being left over. -/
structure WellFormed (q : Query) : Prop extends HasHead q where
  framed : ∃ content, Http.Framed q.headers q.body content

/-- The request does not ask to close the connection. -/
def StaysOpen (q : Query) : Prop :=
  ∀ f ∈ q.headers, Text.lower f.1 = "connection" → Text.lower f.2 ≠ "close"

/-- The handler responsible for the request, if there is one, sends no `Connection` header. For the
path of the health check none is. -/
def AnsweredOpen (t : Table) (q : Query) : Prop :=
  ∀ path h, Http.targetPath (Http.collapseSlashes q.target) = .ok path → path ≠ healthPath →
    t.route? path = some h → ∀ f ∈ h.reply.headers, Text.lower f.1 ≠ "connection"

variable {q : Query}

theorem HasHead.graphic_method (h : q.HasHead) : Http.Graphic q.method := by
  suffices ∀ m ∈ methods, Http.Graphic m from this _ h.method
  intro m hm
  simp only [methods, List.mem_cons, List.not_mem_nil, or_false] at hm
  rcases hm with rfl | rfl | rfl | rfl | rfl | rfl | rfl <;> exact ⟨by simp, by simp⟩

theorem HasHead.readHead (h : q.HasHead) (rest : Bytes) :
    Http.readHead (q.octets ++ rest) = .ok (some (q.head, q.body ++ rest)) := by
  rw [octets, List.append_assoc]
  exact Http.readHead_written h.graphic_method h.target h.line h.fields h.few _

theorem HasHead.asciiFields (h : q.HasHead) : Http.AsciiFields q.headers := by
  rw [Http.AsciiFields, headers, List.forall_mem_map]
  intro f hf
  refine ⟨(h.fields f hf).isAscii_name, ?_⟩
  rw [Text.IsAscii, Http.received, String.toList_ofList]
  exact fun c hc => (h.fields f hf).isAscii_value c ((List.dropWhile_sublist _).subset hc)

/-- Reading the request takes its body, and leaves what follows. -/
theorem WellFormed.read (h : q.WellFormed) :
    ∃ body, ∀ rest, Request.read q.head.method q.head.target q.head.headers (q.body ++ rest) =
      (((Http.targetPath q.head.target).mapError .target).map fun path =>
        (⟨q.method, path, Http.octetFields q.headers, body⟩, rest)) := by
  obtain ⟨content, hf⟩ := h.framed
  refine ⟨Text.ofUtf8Lenient content, fun rest => ?_⟩
  have hfields : Http.Fields.ofText q.head.headers = .ok (Http.octetFields q.headers) :=
    Http.ofText_ascii h.asciiFields
  rw [Request.read, hfields]
  simp only [Except.mapError, ok_bind, Http.readBody_append h.asciiFields hf]
  cases Http.targetPath q.head.target <;> rfl

end Query

variable {t : Table} {q : Query}

/-! ## What follows a request -/

theorem turn_of_readHead {input rest : Bytes} {h : Http.Head}
    (hr : Http.readHead input = .ok (some (h, rest))) : turn t input = serve t h rest := by
  rw [turn, hr]

/-- The turn of a request that the origin has a reply for. -/
theorem turn_of_respond {input rest rest' : Bytes} {h : Http.Head} {r : Request}
    {failures : List String} {reply : Reply}
    (hhead : Http.readHead input = .ok (some (h, rest))) (hknown : h.method ∈ methods)
    (hread : Request.read h.method h.target h.headers rest = .ok (r, rest'))
    (hrespond : respond t r = (failures, .ok reply)) :
    turn t input = sendReply h (goAhead h) failures reply rest' := by
  rw [turn_of_readHead hhead, serve, if_pos (List.elem_eq_true_of_mem hknown), hread]
  simp only [hrespond]

theorem sendReply_of_encodeReply {h : Http.Head} {r : Reply} {octets : Bytes}
    (hreply : encodeReply h.bare h.method r = .ok octets) (sent : Bytes) (failures : List String)
    (rest : Bytes) :
    (sendReply h sent failures r rest).sent = sent ++ octets ∧
      (sendReply h sent failures r rest).breakdown = none := by
  rw [sendReply, hreply]
  exact ⟨rfl, rfl⟩

theorem turn_octets_append (t : Table) (h : q.HasHead) (rest : Bytes) :
    turn t (q.octets ++ rest) = serve t q.head (q.body ++ rest) :=
  turn_of_readHead (h.readHead rest)

theorem turn_octets (t : Table) (h : q.HasHead) : turn t q.octets = serve t q.head q.body := by
  have hturn := turn_octets_append t h []
  rwa [List.append_nil, List.append_nil] at hturn

theorem sendReply_rest (h : Http.Head) (sent : Bytes) (failures : List String) (r : Reply)
    (rest : Bytes) :
    sendReply h sent failures r rest =
      { sendReply h sent failures r [] with
        rest := (sendReply h sent failures r []).rest.map fun _ => rest } := by
  unfold sendReply
  cases encodeReply h.bare h.method r with
  | error e => rfl
  | ok reply => cases staysOpen h.persistent r.headers <;> rfl

/-- The answer to a request does not depend on what follows it. -/
theorem turn_append (h : q.WellFormed) (rest : Bytes) :
    turn t (q.octets ++ rest) =
      { turn t q.octets with rest := (turn t q.octets).rest.map fun _ => rest } := by
  obtain ⟨body, hread⟩ := h.read
  have hself := hread []
  rw [List.append_nil] at hself
  have hmethod : methods.contains q.head.method := List.elem_eq_true_of_mem h.method
  rw [turn_octets_append t h.toHasHead, turn_octets t h.toHasHead, serve, serve, if_pos hmethod,
    if_pos hmethod, hread rest, hself]
  -- What follows has been set aside by reading; from here on it is only carried along.
  cases Http.targetPath q.head.target with
  | error e => rfl
  | ok path =>
    simp only [Except.mapError, Except.map]
    cases respond t ⟨q.method, path, Http.octetFields q.headers, body⟩ with
    | mk failures answer =>
      cases answer with
      | error e => rfl
      | ok reply => exact sendReply_rest ..

/-! ## Staying open -/

theorem staysOpen_of_forall {persistent : Bool} {hs : Headers}
    (h : ∀ f ∈ hs, Text.lower f.1 ≠ "connection") : staysOpen persistent hs = persistent := by
  unfold staysOpen
  induction hs with
  | nil => rfl
  | cons f hs ih =>
    obtain ⟨name, value⟩ := f
    rw [List.forall_mem_cons] at h
    rw [List.foldl_cons]
    show List.foldl _ (if (Text.lower name == "connection") = true then _ else persistent) hs = _
    rw [if_neg (by simpa using h.1)]
    exact ih h.2

theorem persists_of_ne_close {connection : String} (h : Text.lower connection ≠ "close") :
    Http.persists true connection := by
  unfold Http.persists
  split
  · next he => exact absurd he h
  · rfl
  · rfl

theorem Query.StaysOpen.persistent (h : q.StaysOpen) : q.head.persistent := by
  apply persists_of_ne_close
  rw [Http.firstValue]
  cases hf : (q.fields.map Http.received).find? fun f => Text.lower f.1 == "connection" with
  | none => decide +kernel
  | some f =>
    exact h f (List.mem_of_find?_eq_some hf) (by simpa using List.find?_some hf)

theorem Query.answeredOpen_of_forall
    (h : ∀ g ∈ t, ∀ f ∈ g.reply.headers, Text.lower f.1 ≠ "connection") : q.AnsweredOpen t :=
  fun _ g _ _ hr => h g (Table.mem_of_route? hr)

/-- The reply of the origin's own has no `Connection` header. -/
theorem respond_headers {r : Request} {failures : List String} {reply : Reply}
    (h : respond t r = (failures, .ok reply))
    (hroute : r.path ≠ healthPath → ∀ g, t.route? r.path = some g →
      ∀ f ∈ g.reply.headers, Text.lower f.1 ≠ "connection") :
    ∀ f ∈ reply.headers, Text.lower f.1 ≠ "connection" := by
  -- Replies of the origin: to a health check, without a handler, by a handler, about an error.
  unfold respond at h
  split at h
  · cases h
    simp
  · next hhealth =>
    split at h
    · cases h
      simp
    · next g hg =>
      split at h
      · cases h
        exact hroute (mt beq_iff_eq.2 hhealth) g hg
      · split at h
        · cases h
          simp [errorReply]
        · cases h

/-- A request that is answered and does not close the connection leaves what follows it. -/
theorem turn_rest (h : q.WellFormed) (hopen : q.StaysOpen) (hanswer : q.AnsweredOpen t)
    (hworks : (turn t q.octets).breakdown = none) : (turn t q.octets).rest = some [] := by
  obtain ⟨body, hread⟩ := h.read
  have hself := hread []
  rw [List.append_nil] at hself
  have hmethod : methods.contains q.head.method := List.elem_eq_true_of_mem h.method
  rw [turn_octets t h.toHasHead, serve, if_pos hmethod, hself] at hworks ⊢
  cases hpath : Http.targetPath q.head.target with
  | error e =>
    rw [hpath] at hworks
    cases hworks
  | ok path =>
    rw [hpath] at hworks
    simp only [Except.mapError, Except.map] at hworks ⊢
    cases hrespond : respond t ⟨q.method, path, Http.octetFields q.headers, body⟩ with
    | mk failures answer =>
      rw [hrespond] at hworks
      cases answer with
      | error e => cases hworks
      | ok reply =>
        -- Neither the headers of the reply nor those of the request close the connection.
        have hheaders := respond_headers hrespond fun hne g => hanswer path g hpath hne
        simp only [sendReply, staysOpen_of_forall hheaders, hopen.persistent] at hworks ⊢
        cases hreply : encodeReply q.head.bare q.head.method reply with
        | error e =>
          rw [hreply] at hworks
          cases hworks
        | ok octets => rfl

end ProxyTrial.Origin
