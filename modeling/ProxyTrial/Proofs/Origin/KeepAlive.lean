import ProxyTrial.Origin.Server
import ProxyTrial.Proofs.Origin.Answer
import ProxyTrial.Proofs.Origin.Query
/-!
# Requests on one connection

A connection that stays open carries requests one after another. Each is answered as if it stood
alone: none takes octets of the next, and nothing of an earlier connection comes into it. A request
whose body cannot be told apart from what follows it is refused, and what follows is not served.

## Main definitions

* `Query.Served t`: the request is answered, and the connection stays open
* `OriginServer.alone t q`: the request on a fresh connection

## Main results

* `turn_malformed`: a request whose body cannot be told apart from what follows is refused
* `turns_append`: turns over requests answer each of them, then go on with what follows
* `accept_in_order`: a connection after others answers its requests like fresh ones
-/

namespace ProxyTrial.Origin

/-! ## Refusals -/

theorem staysOpen_close : staysOpen false [("Connection", "close")] = false := by
  have hlower : Text.lower "close" = "close" := by
    rw [Text.lower_of_isAscii (by decide)]
    rfl
  have hpersists : Http.persists false "close" = false := by
    rw [Http.persists, hlower]
    rfl
  simp only [staysOpen, List.foldl_cons, List.foldl_nil, hpersists, ite_self]

/-- A request whose body cannot be told apart from what follows it is refused. -/
theorem turn_malformed {q : Query} (t : Table) (h : q.HasHead) {e : RequestError} {message : String}
    (hread : Request.read q.head.method q.head.target q.head.headers q.body = .error e)
    (he : malformedBody? e = some message) :
    turn t q.octets =
      { sent := goAhead q.head ++ refusal q.method message
        failures := ["ERROR: " ++ message] } := by
  have hmethod : methods.contains q.head.method := List.elem_eq_true_of_mem h.method
  have hreply : encodeReply q.head.bare q.head.method (unreadable message) =
      .ok (refusal q.method message) := encodeReply_unreadable q.method message
  rw [turn_octets t h, serve, if_pos hmethod, hread]
  simp only [he, sendReply, hreply]
  simp only [unreadable, staysOpen_close, Bool.false_eq_true, if_false]

/-! ## Turns -/

theorem turn_nil (t : Table) : turn t [] = { sent := [], failures := [] } := by
  have hread : Http.readHead [] = .ok none := by
    simp [Http.readHead, Http.splitLine, Http.octetChars, Text.trimEndBy, Http.RequestLine.ofText,
      Text.wordsBy, Http.lineLimit]
    rfl
  rw [turn, hread]

theorem turns_of_rest_none {t : Table} {input : Bytes} (fuel : Nat)
    (h : (turn t input).rest = none) : turns t (fuel + 1) input = turn t input := by
  simp only [turns, h]

theorem turns_of_rest_some {t : Table} {input rest : Bytes} (fuel : Nat)
    (h : (turn t input).rest = some rest) :
    turns t (fuel + 1) input =
      { turns t fuel rest with
        sent := (turn t input).sent ++ (turns t fuel rest).sent
        failures := (turn t input).failures ++ (turns t fuel rest).failures } := by
  simp only [turns, h]

/-- A request that can be answered among others: it is well-formed, nothing closes the connection,
and the origin does not break down over it. -/
structure Query.Served (t : Table) (q : Query) : Prop extends q.WellFormed where
  staysOpen : q.StaysOpen
  answeredOpen : q.AnsweredOpen t
  works : (converse t q.octets).breakdown = none

variable {t : Table} {q : Query}

theorem sendReply_rest_of_breakdown {h : Http.Head} {sent : Bytes} {failures : List String}
    {r : Reply} {rest : Bytes} (hb : (sendReply h sent failures r rest).breakdown ≠ none) :
    (sendReply h sent failures r rest).rest = none := by
  unfold sendReply at hb ⊢
  cases hreply : encodeReply h.bare h.method r with
  | error e => rfl
  | ok octets =>
    rw [hreply] at hb
    exact absurd rfl hb

/-- A breakdown ends the conversation. -/
theorem serve_rest_of_breakdown {h : Http.Head} {input : Bytes}
    (hb : (serve t h input).breakdown ≠ none) : (serve t h input).rest = none := by
  unfold serve at hb ⊢
  -- Whatever is answered goes through `sendReply`; a breakdown before that leaves no rest.
  split
  · next hm =>
    rw [if_pos hm] at hb
    cases hread : Request.read h.method h.target h.headers input with
    | error e =>
      rw [hread] at hb
      simp only at hb ⊢
      cases hmal : malformedBody? e with
      | none => rfl
      | some message =>
        rw [hmal] at hb
        exact sendReply_rest_of_breakdown hb
    | ok answer =>
      rw [hread] at hb
      simp only at hb ⊢
      cases hrespond : respond t answer.1 with
      | mk failures reply =>
        rw [hrespond] at hb
        cases reply with
        | error e => rfl
        | ok reply => exact sendReply_rest_of_breakdown hb
  · split <;> rfl

theorem Query.Served.breakdown_turn (h : q.Served t) : (turn t q.octets).breakdown = none := by
  by_contra hb
  -- The conversation would be this turn, with its breakdown.
  have hrest : (turn t q.octets).rest = none := by
    rw [turn_octets t h.toHasHead] at hb ⊢
    exact serve_rest_of_breakdown hb
  have hworks := h.works
  rw [converse, turns_of_rest_none _ hrest] at hworks
  exact hb hworks

theorem Query.Served.turn_append (h : q.Served t) (rest : Bytes) :
    turn t (q.octets ++ rest) = { turn t q.octets with rest := some rest } := by
  rw [Origin.turn_append h.toWellFormed, turn_rest h.toWellFormed h.staysOpen h.answeredOpen
    h.breakdown_turn]
  rfl

/-- Turns over requests answer each of them, then go on with what follows. -/
theorem turns_append {qs : List Query} (h : ∀ q ∈ qs, q.Served t) (fuel : Nat) (tail : Bytes) :
    turns t (fuel + qs.length) (qs.flatMap Query.octets ++ tail) =
      { turns t fuel tail with
        sent := (qs.flatMap fun q => (turn t q.octets).sent) ++ (turns t fuel tail).sent
        failures := (qs.flatMap fun q => (turn t q.octets).failures) ++
          (turns t fuel tail).failures } := by
  -- Each request takes one turn, and its turn leaves exactly the octets of the others.
  induction qs with
  | nil => rfl
  | cons q qs ih =>
    rw [List.forall_mem_cons] at h
    have hturn := h.1.turn_append (qs.flatMap Query.octets ++ tail)
    have hrest : (turn t (q.octets ++ (qs.flatMap Query.octets ++ tail))).rest =
        some (qs.flatMap Query.octets ++ tail) := by
      rw [hturn]
    rw [List.flatMap_cons, List.append_assoc, List.length_cons, ← Nat.add_assoc,
      turns_of_rest_some _ hrest, ih h.2, hturn]
    simp

/-! ## Conversations -/

theorem length_le_octets (qs : List Query) : qs.length ≤ (qs.flatMap Query.octets).length := by
  induction qs with
  | nil => simp
  | cons q qs ih =>
    have hpos : 2 ≤ q.octets.length := by
      simp only [Query.octets, Http.headOctets, Http.sectionOctets, List.length_append,
        List.length_cons, List.length_nil]
      omega
    rw [List.flatMap_cons, List.length_append, List.length_cons]
    omega

/-- A conversation answers the requests in front, then has a turn at least for what follows. -/
theorem converse_append {qs : List Query} (h : ∀ q ∈ qs, q.Served t) (tail : Bytes) :
    ∃ fuel, converse t (qs.flatMap Query.octets ++ tail) =
      { turns t (fuel + 1) tail with
        sent := (qs.flatMap fun q => (turn t q.octets).sent) ++ (turns t (fuel + 1) tail).sent
        failures := (qs.flatMap fun q => (turn t q.octets).failures) ++
          (turns t (fuel + 1) tail).failures } := by
  have hlen := length_le_octets qs
  -- A request has octets, so that the fuel for all octets suffices for all requests.
  obtain ⟨fuel, hfuel⟩ : ∃ fuel,
      (qs.flatMap Query.octets ++ tail).length + 1 = fuel + 1 + qs.length := by
    refine ⟨(qs.flatMap Query.octets ++ tail).length - qs.length, ?_⟩
    rw [List.length_append]
    omega
  exact ⟨fuel, by rw [converse, hfuel, turns_append h]⟩

theorem converse_served {qs : List Query} (h : ∀ q ∈ qs, q.Served t) :
    converse t (qs.flatMap Query.octets) =
      { sent := qs.flatMap fun q => (turn t q.octets).sent
        failures := qs.flatMap fun q => (turn t q.octets).failures } := by
  obtain ⟨fuel, hc⟩ := converse_append h []
  rw [List.append_nil, turns_of_rest_none _ (by rw [turn_nil]), turn_nil] at hc
  simpa using hc

theorem converse_alone (h : q.Served t) :
    converse t q.octets =
      { sent := (turn t q.octets).sent, failures := (turn t q.octets).failures } := by
  have hc := converse_served (List.forall_mem_singleton.2 h)
  simpa using hc

end Origin

namespace OriginServer

open Origin

/-- The origin after connections that brought these octets. -/
def afterAll (o : OriginServer) (history : List Bytes) : OriginServer :=
  history.foldl (fun o input => (o.accept input).2) o

theorem handlers_afterAll (o : OriginServer) (history : List Bytes) :
    (o.afterAll history).handlers = o.handlers := by
  induction history generalizing o with
  | nil => rfl
  | cons input history ih => exact ih _

/-- A request sent alone on a fresh connection to an origin with these handlers. -/
def alone (t : Table) (q : Query) : Outcome := (accept { handlers := t } q.octets).1

theorem alone_eq_turn {t : Table} {q : Query} (h : q.Served t) :
    (alone t q).sent = (turn t q.octets).sent ∧
      (alone t q).failures = (turn t q.octets).failures := by
  simp only [alone, accept, converse_alone h, and_self]

/-- A connection after others answers its requests like fresh ones, one after another; at a request
whose body is malformed it ends with a refusal, and what follows the head is not served. -/
theorem accept_in_order (o : OriginServer) (history : List Bytes) (qs : List Query)
    (hqs : ∀ q ∈ qs, q.Served o.handlers) :
    let origin := o.afterAll history
    let replies := qs.flatMap fun q => (alone o.handlers q).sent
    let failures := qs.flatMap fun q => (alone o.handlers q).failures
    ((origin.accept (qs.flatMap Query.octets)).1.sent = replies ∧
      (origin.accept (qs.flatMap Query.octets)).2.failures = origin.failures ++ failures) ∧
    ∀ (bad : Query) (e : RequestError) (message : String), bad.HasHead →
      Request.read bad.head.method bad.head.target bad.head.headers bad.body = .error e →
      malformedBody? e = some message →
      (origin.accept (qs.flatMap Query.octets ++ bad.octets)).1.sent =
          replies ++ (goAhead bad.head ++ refusal bad.method message) ∧
        (origin.accept (qs.flatMap Query.octets ++ bad.octets)).2.failures =
          origin.failures ++ failures ++ ["ERROR: " ++ message] := by
  intro origin replies failures
  have hhandlers : origin.handlers = o.handlers := handlers_afterAll o history
  have hreplies : (qs.flatMap fun q => (turn o.handlers q.octets).sent) = replies :=
    List.flatMap_congr fun q hq => (alone_eq_turn (hqs q hq)).1.symm
  have hfailures : (qs.flatMap fun q => (turn o.handlers q.octets).failures) = failures :=
    List.flatMap_congr fun q hq => (alone_eq_turn (hqs q hq)).2.symm
  -- With the requests answered, a malformed one has the turn after them, and the last one.
  refine ⟨?_, fun bad e message hhead hread he => ?_⟩
  · simp only [accept, hhandlers, converse_served hqs, hreplies, hfailures]
    exact ⟨trivial, trivial⟩
  · obtain ⟨fuel, hc⟩ := converse_append hqs bad.octets
    have hbad := turn_malformed o.handlers hhead hread he
    rw [turns_of_rest_none _ (by rw [hbad]), hbad, hreplies, hfailures] at hc
    simp only [accept, hhandlers, hc]
    exact ⟨trivial, (List.append_assoc ..).symm⟩

/-- Posts on a connection after one that brought nonsense: two in a row, then one before a post
whose length is no number. -/
theorem accept_in_order_posts :
    let handler : Handler := { path := "/a", reply := { status := 201, body := "made" } }
    let post (length : String) : Query := ⟨"POST", "/a", [("Content-Length", length)], [104, 105]⟩
    let origin := ({ handlers := [handler] } : OriginServer).afterAll [[104, 10]]
    let message := "Malformed Content-Length header: 'two'"
    (∀ p ∈ [post "2", post "2"], p.Served [handler]) ∧
      (origin.accept ((post "2").octets ++ (post "2").octets)).1.sent =
        (alone [handler] (post "2")).sent ++ (alone [handler] (post "2")).sent ∧
      (origin.accept ((post "2").octets ++ (post "two").octets)).1.sent =
        (alone [handler] (post "2")).sent ++ refusal "POST" message := by
  intro handler post origin message
  have hmethod : "POST" ∈ methods := by decide
  have htarget : Http.Graphic "/a" := ⟨by decide, List.all_iff_forall_prop.1 (by decide)⟩
  have hline : (Http.requestLine "POST" "/a").length ≤ Http.lineLimit := by decide +kernel
  have hfield : ∀ length ∈ ["2", "two"], Http.WrittenField ("Content-Length", length) := by
    intro length hlength
    rcases List.mem_pair.1 hlength with rfl | rfl <;>
      exact ⟨by decide, List.all_iff_forall_prop.1 (by decide +kernel),
        List.all_iff_forall_prop.1 (by decide +kernel), by decide +kernel⟩
  have hhead : ∀ length ∈ ["2", "two"], (post length).HasHead := fun length hlength =>
    ⟨hmethod, htarget, hline, List.forall_mem_singleton.2 (hfield length hlength),
      show 1 < Http.sectionLimit by decide⟩
  have hframed : Http.Framed (post "2").headers [104, 105] [104, 105] := by
    have hplain : ¬ Http.NamesChunked (post "2").headers := by
      unfold Http.NamesChunked
      decide +kernel
    have hlength : Http.combined "content-length" (post "2").headers = some "2" := by
      decide +kernel
    have hdecimal : Http.IsDecimal (Text.trim "2") 2 :=
      ⟨by decide +kernel, List.all_iff_forall_prop.1 (by decide +kernel), by decide +kernel,
        by decide +kernel⟩
    exact .sized hplain hlength hdecimal (by decide +kernel)
  have hserved : (post "2").Served [handler] := {
    toHasHead := hhead "2" List.mem_cons_self
    framed := ⟨[104, 105], hframed⟩
    staysOpen := by
      unfold Query.StaysOpen
      decide +kernel
    answeredOpen := Query.answeredOpen_of_forall (by simp [handler])
    works := by decide +kernel }
  have hall : ∀ p ∈ [post "2", post "2"], p.Served [handler] := by
    rw [List.forall_mem_cons, List.forall_mem_singleton]
    exact ⟨hserved, hserved⟩
  refine ⟨hall, ?_, ?_⟩
  · have hsent := (accept_in_order { handlers := [handler] } [[104, 10]] _ hall).1.1
    simpa using hsent
  · have hread : Request.read (post "two").head.method (post "two").head.target
        (post "two").head.headers (post "two").body = .error (.body (.malformedLength "two")) := by
      decide +kernel
    have hmessage : malformedBody? (.body (.malformedLength "two")) = some message := by
      decide +kernel
    have hsent := ((accept_in_order { handlers := [handler] } [[104, 10]] [post "2"]
      (List.forall_mem_singleton.2 hserved)).2 (post "two") _ message
      (hhead "two" (List.mem_cons_of_mem _ List.mem_cons_self)) hread hmessage).1
    have hgo : goAhead (post "two").head = [] := by decide +kernel
    rw [hgo] at hsent
    simpa using hsent

end OriginServer

end ProxyTrial
