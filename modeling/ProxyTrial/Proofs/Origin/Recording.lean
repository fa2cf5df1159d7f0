import ProxyTrial.Proofs.Origin.Judging
import ProxyTrial.Proofs.Origin.Remainder
import ProxyTrial.Proofs.Verdict
/-!
# What serving a request records

The expectations of a handler are held against a request one after the other, and those that fail
are noted in that order. None of them changes the answer but the first one that does not apply to
requests: it ends the judgement, is noted as well, and is answered with a report of it. Neither the
health check nor a path without a handler gets as far as expectations.

## Main definitions

* `Recorded t r failures reply`: what serving a request notes, and its answer
* `Table.unchecked`: the handlers of a table without their expectations

## Main results

* `turn_recorded`: what a turn notes, and its answer
* `request_recorded`: the same of an origin
-/

namespace ProxyTrial.Origin

variable {r : Request} {e : Expectation} {es before : List Expectation}
  {failures : List String} {error : CheckError}

/-! ## Expectations that apply -/

/-- Expectations that can be held against a request: none is about a status, and what each one is
about can be looked up. -/
def Applicable (r : Request) (es : List Expectation) : Prop :=
  ∀ e ∈ es, e.subject ≠ .status ∧ ∃ v, e.check (.request r) = .ok v

/-- All that does not apply to a request is a status. -/
theorem status_of_isInapplicable (h : e.check (.request r) = .error error)
    (hinapplicable : error.isInapplicable) : e.subject = .status ∧ error = .noStatus e := by
  rcases Expectation.check_eq_error h with ⟨hlacks, -⟩ | ⟨name, err, -, -, rfl⟩
  · have hsubject : e.subject = .status := by
      generalize e.subject = s at hlacks
      cases hlacks
      rfl
    rw [Expectation.check_of_status hsubject] at h
    exact ⟨hsubject, (Except.error.inj h).symm⟩
  · cases hinapplicable

theorem applicable_of_check (h : ∀ e ∈ es, ∃ v, e.check (.request r) = .ok v) :
    Applicable r es := by
  refine fun e he => ⟨fun hstatus => ?_, h e he⟩
  obtain ⟨v, hv⟩ := h e he
  rw [Expectation.check_of_status hstatus] at hv
  cases hv

/-! ## Serving -/

/-- What serving a request notes, and its answer. -/
inductive Recorded (t : Table) (r : Request) : List String → Reply → Prop
  | health : r.path = healthPath → Recorded t r [] { status := 200, body := "UP!" }
  | notFound : r.path ≠ healthPath → t.route? r.path = none →
      Recorded t r [] { status := 404, body := "Not Found" }
  /-- All expectations of the handler apply. -/
  | judged {h : Handler} : r.path ≠ healthPath → t.route? r.path = some h →
      Applicable r h.expectations →
      Recorded t r (h.expectations.filterMap (failing (.request r))) h.reply
  /-- One of them is the first that does not. -/
  | inapplicable {h : Handler} {before after : List Expectation} {e : Expectation} :
      r.path ≠ healthPath → t.route? r.path = some h → h.expectations = before ++ e :: after →
      Applicable r before → e.subject = .status →
      Recorded t r
        (before.filterMap (failing (.request r)) ++ ["ERROR: Requests have no status: " ++ e.shown])
        { status := 500, body := "Requests have no status: " ++ e.shown }

variable {t : Table} {reply : Reply}

theorem recorded_of_respond (h : respond t r = (failures, .ok reply)) :
    Recorded t r failures reply := by
  rw [respond] at h
  split at h
  · next hhealth =>
    cases h
    exact .health (beq_iff_eq.1 hhealth)
  · next hother =>
    have hpath : r.path ≠ healthPath := mt beq_iff_eq.2 hother
    split at h
    · next hroute =>
      cases h
      exact .notFound hpath hroute
    · next g hroute =>
      split at h
      · next noted hjudge =>
        cases h
        obtain ⟨hall, rfl⟩ := judge_eq_none hjudge
        exact .judged hpath hroute (applicable_of_check hall)
      · next noted error hjudge =>
        split at h
        · next hinapplicable =>
          cases h
          obtain ⟨before, e, after, hes, hall, he, rfl⟩ := judge_eq_some hjudge
          obtain ⟨hstatus, rfl⟩ := status_of_isInapplicable he hinapplicable
          exact .inapplicable hpath hroute hes (applicable_of_check hall) hstatus
        · cases h

variable {input rest more : Bytes} {h : Http.Head}

/-- A request that has been read is answered, unless the origin breaks down. -/
theorem turn_recorded (hhead : Http.readHead input = .ok (some (h, rest)))
    (hmethod : h.method ∈ methods)
    (hread : Request.read h.method h.target h.headers rest = .ok (r, more))
    (hunbroken : (turn t input).breakdown = none) :
    ∃ failures reply octets, respond t r = (failures, .ok reply) ∧
      encodeReply h.bare h.method reply = .ok octets ∧
      turn t input = {
        sent := goAhead h ++ octets
        failures := failures
        rest := if staysOpen h.persistent reply.headers then some more else none } := by
  -- The origin breaks down if there is no answer, or if the answer cannot be written.
  cases hrespond : respond t r with
  | mk failures answer =>
    cases answer with
    | error error =>
      rw [turn_of_readHead hhead, serve, if_pos (List.elem_eq_true_of_mem hmethod),
        hread] at hunbroken
      simp only [hrespond] at hunbroken
      cases hunbroken
    | ok reply =>
      have hturn := turn_of_respond hhead hmethod hread hrespond
      cases hencode : encodeReply h.bare h.method reply with
      | error error =>
        rw [hturn, sendReply, hencode] at hunbroken
        cases hunbroken
      | ok octets =>
        refine ⟨failures, reply, octets, rfl, hencode, ?_⟩
        rw [hturn, sendReply, hencode]

/-! ## Without expectations -/

/-- The handlers of a table without their expectations. -/
def Table.unchecked (t : Table) : Table := t.map fun h => { h with expectations := [] }

theorem foldl_longer_map {f : Handler → Handler} (hf : ∀ h, (f h).path = h.path)
    (hs : List Handler) (best : Option Handler) :
    (hs.map f).foldl Table.longer (best.map f) = (hs.foldl Table.longer best).map f := by
  induction hs generalizing best with
  | nil => rfl
  | cons h hs ih =>
    have hlonger : Table.longer (best.map f) (f h) = (Table.longer best h).map f := by
      cases best with
      | none => rfl
      | some b => simp only [Table.longer, Option.map_some, hf, apply_ite (Option.map f)]
    rw [List.map_cons, List.foldl_cons, List.foldl_cons, hlonger, ih]

/-- Which handler is responsible is a matter of paths. -/
theorem Table.route?_map {f : Handler → Handler} (hf : ∀ h, (f h).path = h.path) (t : Table)
    (path : String) : Table.route? (t.map f) path = (t.route? path).map f := by
  have hfind : (t.map f).find? (fun h => h.path == path) =
      (t.find? fun h => h.path == path).map f := by
    rw [List.find?_map]
    simp only [Function.comp_def, hf]
  have hcovers : (t.map f).filter (fun h => covers h path) =
      (t.filter fun h => covers h path).map f := by
    rw [List.filter_map]
    simp only [Function.comp_def, covers, hf]
  rw [route?, route?, hfind, hcovers]
  cases t.find? fun h => h.path == path with
  | some h => rfl
  | none => exact foldl_longer_map hf _ none

/-- If all expectations apply, the answer is that of the handler without them. -/
theorem respond_unchecked (hrespond : respond t r = (failures, .ok reply))
    (happlies : ∀ g, t.route? r.path = some g → ∀ e ∈ g.expectations, e.subject ≠ .status) :
    respond t.unchecked r = ([], .ok reply) := by
  have hroute : t.unchecked.route? r.path =
      (t.route? r.path).map fun g => { g with expectations := [] } :=
    Table.route?_map (f := fun g => { g with expectations := [] }) (fun _ => rfl) t r.path
  rw [respond, hroute]
  cases recorded_of_respond hrespond with
  | health hpath => rw [if_pos (beq_iff_eq.2 hpath)]
  | notFound hpath hnone =>
    rw [if_neg (mt beq_iff_eq.1 hpath), hnone]
    rfl
  | judged hpath hsome _ =>
    rw [if_neg (mt beq_iff_eq.1 hpath), hsome]
    rfl
  | inapplicable _ hsome hes _ hstatus =>
    exact absurd hstatus (happlies _ hsome _ (by rw [hes]; simp))

end ProxyTrial.Origin

namespace ProxyTrial.OriginServer

open Origin

/-- What an origin notes about a request, and what it answers: nothing about a health check or a
path without a handler, and otherwise the failures of the expectations that are held against the
request, up to the first one that does not apply. They are added to those noted before, ahead of
those of later requests. If all expectations apply, the answer is the same as without them. -/
theorem request_recorded (o : OriginServer) {input rest more : Bytes} {h : Http.Head} {r : Request}
    (hhead : Http.readHead input = .ok (some (h, rest))) (hmethod : h.method ∈ methods)
    (hread : Request.read h.method h.target h.headers rest = .ok (r, more))
    (hunbroken : (turn o.handlers input).breakdown = none) :
    ∃ failures reply octets, Recorded o.handlers r failures reply ∧
      encodeReply h.bare h.method reply = .ok octets ∧
      (turn o.handlers input).sent = goAhead h ++ octets ∧
      (turn o.handlers input).failures = failures ∧
      (o.accept input).2.failures = o.failures ++ (failures ++
        (turn o.handlers input).rest.elim [] fun rest => (converse o.handlers rest).failures) ∧
      ((∀ g, o.handlers.route? r.path = some g → ∀ e ∈ g.expectations, e.subject ≠ .status) →
        turn o.handlers.unchecked input = { turn o.handlers input with failures := [] }) := by
  obtain ⟨failures, reply, octets, hrespond, hencode, hturn⟩ :=
    turn_recorded hhead hmethod hread hunbroken
  refine ⟨failures, reply, octets, recorded_of_respond hrespond, hencode, by rw [hturn],
    by rw [hturn], ?_, fun happlies => ?_⟩
  · show o.failures ++ (converse o.handlers input).failures = _
    refine congrArg (o.failures ++ ·) ?_
    cases hrest : (turn o.handlers input).rest with
    | none =>
      rw [converse_of_rest_none hrest, hturn]
      exact (List.append_nil failures).symm
    | some rest =>
      rw [converse_of_rest_some hrest, hturn]
      rfl
  · have hplain := respond_unchecked hrespond happlies
    rw [turn_of_respond hhead hmethod hread hplain, sendReply, hencode, hturn]

/-- An expectation that fails, one that passes, one about a status, and one more that fails. -/
theorem request_recorded_mixed :
    let put : Expectation := ⟨.request, .method, .equal, "PUT", "req.method eq PUT"⟩
    let other : Expectation := ⟨.request, .method, .differs, "PUT", "req.method ne PUT"⟩
    let status : Expectation := ⟨.request, .status, .equal, "200", "req.status eq 200"⟩
    let handler : Handler := { path := "/", expectations := [put, other, status, put] }
    let o : OriginServer := { handlers := [handler], failures := ["noted"] }
    let head : Http.Head := ⟨"GET", "/a?b", [("Host", "x")], false, true, false⟩
    let input := Text.ascii "GET /a?b HTTP/1.1\r\nHost: x\r\n\r\n"
    ∃ failures reply octets,
      Recorded [handler] ⟨"GET", "/a", Http.octetFields head.headers, ""⟩ failures reply ∧
      encodeReply false "GET" reply = .ok octets ∧
      (turn [handler] input).sent = goAhead head ++ octets ∧
      (turn [handler] input).failures = failures ∧
      (o.accept input).2.failures = ["noted"] ++ (failures ++
        (turn [handler] input).rest.elim [] fun rest => (converse [handler] rest).failures) ∧
      ((∀ g, Table.route? [handler] "/a" = some g → ∀ e ∈ g.expectations, e.subject ≠ .status) →
        turn (Table.unchecked [handler]) input =
          { turn [handler] input with failures := [] }) := by
  intro put other status handler o head input
  have hhead : Http.readHead input = .ok (some (head, [])) := by decide +kernel
  have hread : Request.read "GET" "/a?b" head.headers [] =
      .ok (⟨"GET", "/a", Http.octetFields head.headers, ""⟩, []) := by decide +kernel
  have hunbroken : (turn o.handlers input).breakdown = none :=
    Option.isNone_iff_eq_none.1 (by decide +kernel)
  exact o.request_recorded hhead (by decide) hread hunbroken

end ProxyTrial.OriginServer
