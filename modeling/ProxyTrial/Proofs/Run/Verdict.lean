import ProxyTrial.Proofs.Origin.Lifecycle
import ProxyTrial.Proofs.Run.Readiness
import ProxyTrial.Proofs.Verdict
/-!
# Verdicts of a run

Clients are served in order, each with one request, until the first expectation that does not hold.
Its verdict is the only failure of a client; after it stand the failures that the origin has noted,
those of the requests delivered to it. An expectation that does not apply to a response ends the run
without a result.

## Main definitions

* `FirstBroken r es e`: `e` is the first of the expectations that does not hold
* `Service`: a client that has been served
* `ServesAll a address m xs m'`: clients are served in order
* `Concludes xs later failure`: what the services mean for the clients

## Main results

* `runClients_eq_ok`: clients that are run are served until one fails
* `run_verdict`: the result of a run
-/

namespace ProxyTrial

namespace Run

/-! ## One expectation -/

/-- The first of the expectations that does not hold of a response. -/
def FirstBroken (r : Response) (es : List Expectation) (e : Expectation) : Prop :=
  ∃ before after, es = before ++ e :: after ∧
    (∀ d ∈ before, d.holds (.response r) = .ok true) ∧ e.holds (.response r) ≠ .ok true

variable {r : Response} {es : List Expectation} {e : Expectation}

theorem forall_holds_or_firstBroken (r : Response) (es : List Expectation) :
    (∀ e ∈ es, e.holds (.response r) = .ok true) ∨ ∃ e, FirstBroken r es e := by
  induction es with
  | nil => exact .inl fun e he => absurd he List.not_mem_nil
  | cons d es ih =>
    by_cases hd : d.holds (.response r) = .ok true
    · rcases ih with hall | ⟨e, before, after, rfl, hbefore, he⟩
      · exact .inl (List.forall_mem_cons.2 ⟨hd, hall⟩)
      · exact .inr ⟨e, d :: before, after, rfl, List.forall_mem_cons.2 ⟨hd, hbefore⟩, he⟩
    · exact .inr ⟨d, [], es, rfl, fun e he => absurd he List.not_mem_nil, hd⟩

/-- An expectation that holds is passed over. -/
theorem firstFailure_cons_of_holds (h : e.holds (.response r) = .ok true) :
    firstFailure r (e :: es) = firstFailure r es := by
  rw [Expectation.holds_eq] at h
  rw [firstFailure]
  cases hcheck : e.check (.response r) with
  | error error =>
    rw [hcheck] at h
    cases h
  | ok v =>
    rw [hcheck] at h
    have hpassed : v.passed = true := Except.ok.inj h
    rw [ok_bind, if_pos hpassed]

theorem firstFailure_of_forall (h : ∀ e ∈ es, e.holds (.response r) = .ok true) :
    firstFailure r es = .ok none := by
  induction es with
  | nil => rfl
  | cons e es ih =>
    rw [List.forall_mem_cons] at h
    rw [firstFailure_cons_of_holds h.1, ih h.2]

/-- The first expectation that does not hold decides. -/
theorem firstFailure_of_firstBroken (h : FirstBroken r es e) :
    firstFailure r es = (e.check (.response r)).map some := by
  obtain ⟨before, after, rfl, hbefore, he⟩ := h
  -- The induction is on the expectations before, which hold and are passed over.
  induction before with
  | nil =>
    rw [List.nil_append, firstFailure]
    rw [Expectation.holds_eq] at he
    cases hcheck : e.check (.response r) with
    | error error => rfl
    | ok v =>
      rw [hcheck] at he
      have hpassed : ¬ v.passed = true := fun hv => he (congrArg Except.ok hv)
      rw [ok_bind, if_neg hpassed]
      rfl
  | cons d before ih =>
    rw [List.forall_mem_cons] at hbefore
    rw [List.cons_append, firstFailure_cons_of_holds hbefore.1, ih hbefore.2]

/-! ## One client -/

/-- A client that has been served: what has been delivered for it, and the response. -/
structure Service where
  client : Client
  delivery : Delivery
  response : Response

/-- All expectations of the client hold of its response. -/
def Service.Holds (x : Service) : Prop :=
  ∀ e ∈ x.client.expectations, e.holds (.response x.response) = .ok true

/-- The first expectation of the client that does not hold of its response. -/
def Service.Breaks (x : Service) (e : Expectation) : Prop :=
  FirstBroken x.response x.client.expectations e

/-- The failure of a client in a verdict on its response. -/
def Service.failure (x : Service) (v : Verdict) : RunFailure := clientFailure x.client x.response v

/-- A client is served: the request that its call makes is delivered, once, to whoever listens, and
what comes back is a response. -/
def Serves (a : Agent) (address : String) (m : Machine) (x : Service) (m' : Machine) : Prop :=
  ∃ o m₁ received, Outgoing.ofCall a address x.client.call = .ok o ∧
    o.encode = .ok x.delivery.request ∧ m.connect a o = (.ok x.delivery.responder, m₁) ∧
    o.answer a (m₁.reply x.delivery.responder x.delivery.request).1 = .ok received ∧
    received.response a = .ok x.response ∧
    m' = (m₁.reply x.delivery.responder x.delivery.request).2

variable {a : Agent} {address : String} {m m' : Machine} {x : Service}

theorem Serves.receives (h : Serves a address m x m') : m.Receives [x.delivery] m' := by
  obtain ⟨o, m₁, received, -, -, hconnect, -, -, rfl⟩ := h
  exact .delivery x.delivery.request (Machine.connect_eq_ok hconnect).2

theorem judge_of_response {c : Client} {received : Incoming} (h : received.response a = .ok r) :
    judge a c received =
      ((firstFailure r c.expectations).mapError .check).map (·.map (clientFailure c r)) := by
  have htext : (Except.ok r : Except Http.TextFault Response).mapError RunError.text =
      .ok r := rfl
  rw [judge, h, htext, ok_bind]
  cases firstFailure r c.expectations <;> rfl

/-- A client that is served is judged by its expectations. -/
theorem Serves.runClient (h : Serves a address m x m') :
    runClient m a address x.client =
      (((firstFailure x.response x.client.expectations).mapError .check).map
        (·.map x.failure), m') := by
  obtain ⟨o, m₁, received, hcall, hencode, hconnect, hanswer, hresponse, rfl⟩ := h
  have hsend : m.send a (Outgoing.ofCall a address x.client.call) =
      (.ok received, (m₁.reply x.delivery.responder x.delivery.request).2) := by
    rw [hcall, Machine.send, Machine.exchange, hconnect]
    simp only [hencode, hanswer]
  rw [Run.runClient, hsend]
  simp only [judge_of_response hresponse]
  rfl

theorem Serves.runClient_of_holds (h : Serves a address m x m') (hx : x.Holds) :
    Run.runClient m a address x.client = (.ok none, m') := by
  rw [h.runClient, firstFailure_of_forall hx]
  rfl

theorem Serves.runClient_of_breaks (h : Serves a address m x m') (hx : x.Breaks e) :
    Run.runClient m a address x.client =
      (((e.check (.response x.response)).mapError .check).map fun v => some (x.failure v), m') := by
  rw [h.runClient, firstFailure_of_firstBroken hx]
  cases e.check (.response x.response) <;> rfl

/-- A client that has a result has been served. -/
theorem serves_of_runClient {c : Client} {failure : Option RunFailure}
    (h : Run.runClient m a address c = (.ok failure, m')) :
    ∃ x : Service, x.client = c ∧ Serves a address m x m' := by
  unfold Run.runClient at h
  split at h
  · cases h
  · next received m₂ hsend =>
    obtain ⟨hjudge, rfl⟩ := Prod.mk.inj h
    cases hcall : Outgoing.ofCall a address c.call with
    | error error =>
      rw [hcall, Machine.send] at hsend
      cases hsend
    | ok o =>
      rw [hcall, Machine.send] at hsend
      obtain ⟨responder, m₁, request, hconnect, hencode, hanswer, hm⟩ :=
        Machine.exchange_eq_ok hsend
      -- The client has a result, so that the body of its response has been read as text.
      cases hresponse : received.response a with
      | error fault =>
        rw [judge, hresponse] at hjudge
        cases hjudge
      | ok r =>
        exact ⟨⟨c, ⟨request, responder⟩, r⟩, rfl, o, m₁, received, hcall, hencode, hconnect,
          hanswer, hresponse, hm⟩

theorem Service.Breaks.not_holds (h : x.Breaks e) : ¬ x.Holds := by
  obtain ⟨before, after, hes, -, he⟩ := h
  exact fun hx => he (hx e (hes ▸ List.mem_append_right _ List.mem_cons_self))

/-! ## All clients -/

/-- Clients are served in order. -/
inductive ServesAll (a : Agent) (address : String) : Machine → List Service → Machine → Prop
  | nil {m : Machine} : ServesAll a address m [] m
  | cons {m m₁ m' : Machine} {x : Service} {xs : List Service} :
      Serves a address m x m₁ → ServesAll a address m₁ xs m' → ServesAll a address m (x :: xs) m'

/-- What the clients that have been served mean for a run: all clients have been served, and what
they expect holds; or the last one served is the first with an expectation that fails. -/
def Concludes (xs : List Service) (later : List Client) : Option RunFailure → Prop
  | none => later = [] ∧ ∀ x ∈ xs, x.Holds
  | some failure => ∃ init last e v, xs = init ++ [last] ∧ (∀ x ∈ init, x.Holds) ∧
      last.Breaks e ∧ e.check (.response last.response) = .ok v ∧ failure = last.failure v

variable {xs : List Service} {later cs : List Client} {failure : Option RunFailure}

/-- Every client that is served has delivered one request. -/
theorem ServesAll.receives (h : ServesAll a address m xs m') :
    m.Receives (xs.map (·.delivery)) m' := by
  induction h with
  | nil => exact .idle rfl rfl
  | cons hx _ ih => exact hx.receives.trans ih

/-- Clients that have what they expect are passed over. -/
theorem ServesAll.runClients (h : ServesAll a address m xs m') (hall : ∀ x ∈ xs, x.Holds)
    (later : List Client) :
    Run.runClients m a address (xs.map (·.client) ++ later) =
      Run.runClients m' a address later := by
  induction h with
  | nil => rfl
  | cons hx _ ih =>
    rw [List.forall_mem_cons] at hall
    rw [List.map_cons, List.cons_append, Run.runClients, hx.runClient_of_holds hall.1]
    exact ih hall.2

theorem servesAll_concat {init : List Service} {last : Service} :
    ServesAll a address m (init ++ [last]) m' ↔
      ∃ m₁, ServesAll a address m init m₁ ∧ Serves a address m₁ last m' := by
  induction init generalizing m with
  | nil =>
    constructor
    · rintro (_ | ⟨hlast, ⟨⟩⟩)
      exact ⟨m, .nil, hlast⟩
    · rintro ⟨m₁, ⟨⟩, hlast⟩
      exact .cons hlast .nil
  | cons x init ih =>
    constructor
    · rintro (_ | ⟨hx, hrest⟩)
      obtain ⟨m₁, hinit, hlast⟩ := ih.1 hrest
      exact ⟨m₁, .cons hx hinit, hlast⟩
    · rintro ⟨m₁, _ | ⟨hx, hinit⟩, hlast⟩
      exact .cons hx (ih.2 ⟨m₁, hinit, hlast⟩)

theorem Concludes.cons_of_holds (hx : x.Holds) (h : Concludes xs later failure) :
    Concludes (x :: xs) later failure := by
  cases failure with
  | none => exact ⟨h.1, List.forall_mem_cons.2 ⟨hx, h.2⟩⟩
  | some failure =>
    obtain ⟨init, last, e, v, rfl, hinit, hlast⟩ := h
    exact ⟨x :: init, last, e, v, rfl, List.forall_mem_cons.2 ⟨hx, hinit⟩, hlast⟩

/-- Clients that are run are served in order until one fails. -/
theorem runClients_eq_ok (h : Run.runClients m a address cs = (.ok failure, m')) :
    ∃ xs later, ServesAll a address m xs m' ∧ cs = xs.map (·.client) ++ later ∧
      Concludes xs later failure := by
  -- The induction is on the clients: one without a failure is passed over, the others end the run.
  induction cs generalizing m with
  | nil =>
    cases h
    exact ⟨[], [], .nil, rfl, rfl, fun x hx => absurd hx List.not_mem_nil⟩
  | cons c cs ih =>
    rw [Run.runClients] at h
    split at h
    · next m₁ hc =>
      obtain ⟨x, rfl, hx⟩ := serves_of_runClient hc
      -- The client has no failure, so no expectation of it is broken.
      have hholds : x.Holds := by
        rcases forall_holds_or_firstBroken x.response x.client.expectations with hall | ⟨e, he⟩
        · exact hall
        · rw [hx.runClient_of_breaks he] at hc
          cases hcheck : e.check (.response x.response) with
          | error error =>
            rw [hcheck] at hc
            cases hc
          | ok v =>
            rw [hcheck] at hc
            cases hc
      obtain ⟨xs, later, hxs, rfl, hconcludes⟩ := ih h
      exact ⟨x :: xs, later, .cons hx hxs, rfl, hconcludes.cons_of_holds hholds⟩
    · next hne =>
      obtain ⟨x, rfl, hx⟩ := serves_of_runClient h
      refine ⟨[x], cs, .cons hx .nil, rfl, ?_⟩
      rcases forall_holds_or_firstBroken x.response x.client.expectations with hall | ⟨e, he⟩
      · exact absurd (hx.runClient_of_holds hall) (hne _)
      · rw [hx.runClient_of_breaks he] at h
        cases hcheck : e.check (.response x.response) with
        | error error =>
          rw [hcheck] at h
          cases h
        | ok v =>
          rw [hcheck] at h
          cases h
          exact ⟨[], x, e, v, rfl, fun x hx => absurd hx List.not_mem_nil, he, hcheck, rfl⟩

/-- An expectation that does not apply ends the run. -/
theorem ServesAll.runClients_of_method {init : List Service} {last : Service}
    (h : ServesAll a address m (init ++ [last]) m') (hinit : ∀ x ∈ init, x.Holds)
    (hlast : last.Breaks e) (he : e.subject = .method) (later : List Client) :
    Run.runClients m a address ((init ++ [last]).map (·.client) ++ later) =
      (.error (.check (.noMethod e)), m') := by
  obtain ⟨m₁, hserved, hx⟩ := servesAll_concat.1 h
  rw [List.map_append, List.append_assoc, hserved.runClients hinit, List.map_singleton,
    List.singleton_append, Run.runClients, hx.runClient_of_breaks hlast,
    Expectation.check_of_method he]
  rfl

/-! ## The whole run -/

theorem tearDown_eq (proxy : Option Proxy) (m : Machine) :
    (tearDown proxy m).2.received = m.received ∧
      (tearDown proxy m).2.origin.failures = m.origin.failures := by
  cases proxy with
  | none => exact ⟨rfl, rfl⟩
  | some p =>
    cases hp : p.process <;>
    · rw [tearDown, Proxy.stop, hp]
      exact ⟨rfl, rfl⟩

theorem cleanup_eq (p : Proxy) (m : Machine) :
    (p.cleanup m).2.received = m.received ∧ (p.cleanup m).2.origin = m.origin := by
  unfold Proxy.cleanup
  split
  · exact ⟨rfl, rfl⟩
  · split <;> exact ⟨rfl, rfl⟩

theorem finish_eq (proxy : Option Proxy) (failures : List RunFailure) (m : Machine) :
    (finish proxy failures m).1.failures = failures ∧
      (finish proxy failures m).2.received = m.received ∧
      (finish proxy failures m).2.origin = m.origin := by
  cases proxy with
  | none => exact ⟨rfl, rfl, rfl⟩
  | some p =>
    cases hempty : failures.isEmpty with
    | true =>
      rw [finish, hempty]
      exact ⟨rfl, cleanup_eq p m⟩
    | false =>
      rw [finish, hempty]
      exact ⟨rfl, rfl, rfl⟩

/-- The failures that the origin has noted, as they are reported. -/
def originFailures (m : Machine) : List RunFailure :=
  m.origin.failures.map fun message => { source := "origin", message }

variable {s : Script} {config : RunConfig} {origin : OriginServer} {proxy : Option Proxy}
  {m₁ m₂ : Machine}

/-- What clients bring is what a run brings, with what the origin has noted. -/
theorem run_of_runClients (hstart : (originOf s config).start m.busy m.originPort = .ok origin)
    (hup : bringUp config { m with origin } = (.ok address, proxy, m₁))
    {r : Except RunError (Option RunFailure)}
    (hclients : Run.runClients m₁ (m₁.waiting config.requestTimeout) address s.clients = (r, m₂)) :
    ((run s config m).1.map (·.failures) =
        r.map fun failure => failure.toList ++ originFailures m₂) ∧
      (run s config m).2.received = m₂.received ∧
      (run s config m).2.origin.failures = m₂.origin.failures := by
  obtain ⟨hreceived, hnoted⟩ := tearDown_eq proxy m₂
  have htarget : runTarget s config { m with origin } = (r, proxy, m₂) := by
    rw [runTarget, hup]
    simp only [hclients]
  rw [run]
  simp only [hstart, htarget]
  -- An error skips the cleaning up, which otherwise does not touch what has been received.
  cases r with
  | error error => exact ⟨rfl, hreceived, hnoted⟩
  | ok failure =>
    obtain ⟨hfailures, hreceived', horigin⟩ := finish_eq (tearDown proxy m₂).1
      (failure.toList ++ originFailures (tearDown proxy m₂).2) (tearDown proxy m₂).2
    refine ⟨congrArg Except.ok (hfailures.trans ?_), hreceived'.trans hreceived, ?_⟩
    · rw [originFailures, hnoted, ← originFailures]
    · exact (congrArg OriginServer.failures horigin).trans hnoted

/-- A run with a result has brought everything up and has run the clients. -/
theorem runClients_of_run {result : RunResult} (h : run s config m = (.ok result, m')) :
    ∃ origin address proxy m₁ m₂ failure,
      (originOf s config).start m.busy m.originPort = .ok origin ∧
      bringUp config { m with origin } = (.ok address, proxy, m₁) ∧
      Run.runClients m₁ (m₁.waiting config.requestTimeout) address s.clients =
        (.ok failure, m₂) := by
  unfold run at h
  -- A run breaks off at the first part that cannot be brought up.
  cases hstart : (originOf s config).start m.busy m.originPort with
  | error error =>
    simp only [hstart] at h
    cases h
  | ok origin =>
    simp only [hstart, runTarget] at h
    rcases hup : bringUp config { m with origin } with ⟨up, proxy, m₁⟩
    rw [hup] at h
    cases up with
    | error error => cases h
    | ok address =>
      rcases hclients : Run.runClients m₁ (m₁.waiting config.requestTimeout) address s.clients with
        ⟨r, m₂⟩
      simp only [hclients] at h
      cases r with
      | error error => cases h
      | ok failure => exact ⟨origin, address, proxy, m₁, m₂, failure, rfl, hup, hclients⟩

/-- The origin of a run has come up, and so has what the clients are to talk to. -/
def SetUp (s : Script) (config : RunConfig) (m : Machine) (origin : OriginServer)
    (address : String) (m₁ : Machine) : Prop :=
  (originOf s config).start m.busy m.originPort = .ok origin ∧
    ∃ proxy, bringUp config { m with origin } = (.ok address, proxy, m₁)

theorem failures_of_start {o : OriginServer} {busy : List Int} {free : FreePort}
    (h : o.start busy free = .ok origin) : origin.failures = o.failures := by
  obtain ⟨-, -, -, rfl⟩ := OriginServer.start_eq_ok_iff.1 h
  rfl

theorem failures_originOf (s : Script) (config : RunConfig) :
    (originOf s config).failures = [] := by
  obtain ⟨t, ht⟩ := OriginServer.exists_addAll { requested := config.originPort } s
  rw [originOf, ht]

/-- A run with no failures: all clients have been served and have what they expect. -/
theorem Concludes.passed_iff {result : RunResult} {noted : List RunFailure}
    (h : Concludes xs later failure) (hresult : result.failures = failure.toList ++ noted) :
    result.passed ↔ later = [] ∧ (∀ x ∈ xs, x.Holds) ∧ noted = [] := by
  rw [RunResult.passed, List.isEmpty_iff, hresult, List.append_eq_nil_iff]
  cases failure with
  | none =>
    obtain ⟨hlater, hall⟩ := h
    exact ⟨fun hnone => ⟨hlater, hall, hnone.2⟩, fun hpassed => ⟨rfl, hpassed.2.2⟩⟩
  | some failure =>
    obtain ⟨init, last, e, v, rfl, -, hlast, -⟩ := h
    constructor
    · rintro ⟨hnone, -⟩
      cases hnone
    · rintro ⟨-, hall, -⟩
      exact absurd (hall last (List.mem_append_right _ List.mem_cons_self)) hlast.not_holds

/-- A run with a result has served its clients in order, each with one request, up to the first
with an expectation that fails, and nobody after that. Its failures are that of the client, then
those that the origin has noted about what it has received. A run in which an expectation that does
not apply to a response is the first that does not hold has no result and goes no further. -/
theorem run_verdict (s : Script) (config : RunConfig) (m : Machine) :
    (∀ result m', run s config m = (.ok result, m') →
      ∃ origin address m₁ m₂ probes xs later failure,
        SetUp s config m origin address m₁ ∧ Machine.Receives { m with origin } probes m₁ ∧
        ServesAll (m₁.waiting config.requestTimeout) address m₁ xs m₂ ∧
        s.clients = xs.map (·.client) ++ later ∧ Concludes xs later failure ∧
        m'.received = m.received ++ (probes ++ xs.map (·.delivery)).map (·.request) ∧
        m'.origin.failures =
          (probes ++ xs.map (·.delivery)).flatMap (·.noted origin.handlers) ∧
        result.failures = failure.toList ++ originFailures m' ∧
        (result.passed ↔ later = [] ∧ (∀ x ∈ xs, x.Holds) ∧ m'.origin.failures = [])) ∧
    ∀ origin address m₁ m₂ init last later e, SetUp s config m origin address m₁ →
      ServesAll (m₁.waiting config.requestTimeout) address m₁ (init ++ [last]) m₂ →
      s.clients = (init ++ [last]).map (·.client) ++ later → (∀ x ∈ init, x.Holds) →
      last.Breaks e → e.subject = .method →
      ∃ m', run s config m = (.error (.check (.noMethod e)), m') ∧
        m'.received = m₁.received ++ ((init ++ [last]).map (·.delivery)).map (·.request) := by
  constructor
  · intro result m' hrun
    obtain ⟨origin, address, proxy, m₁, m₂, failure, hstart, hup, hclients⟩ :=
      runClients_of_run hrun
    obtain ⟨hresult, hreceived, hnoted⟩ := run_of_runClients hstart hup hclients
    rw [hrun] at hresult hreceived hnoted
    obtain ⟨probes, hprobes⟩ := receives_bringUp config { m with origin }
    rw [hup] at hprobes
    obtain ⟨xs, later, hxs, hcs, hconcludes⟩ := runClients_eq_ok hclients
    -- What has been delivered on the whole: to the proxy that came up, then for the clients.
    have hall := hprobes.trans hxs.receives
    have hfresh : origin.failures = [] :=
      (failures_of_start hstart).trans (failures_originOf s config)
    have hfailures : m'.origin.failures =
        (probes ++ xs.map (·.delivery)).flatMap (·.noted origin.handlers) := by
      have hm₂ := hall.failures
      rw [hfresh, List.nil_append] at hm₂
      exact hnoted.trans hm₂
    have hreported : result.failures = failure.toList ++ originFailures m' := by
      rw [originFailures, show m'.origin.failures = m₂.origin.failures from hnoted]
      exact Except.ok.inj hresult
    refine ⟨origin, address, m₁, m₂, probes, xs, later, failure, ⟨hstart, proxy, hup⟩, hprobes,
      hxs, hcs, hconcludes, hreceived.trans hall.received, hfailures, hreported, ?_⟩
    rw [hconcludes.passed_iff hreported, originFailures, List.map_eq_nil_iff]
  · rintro origin address m₁ m₂ init last later e ⟨hstart, proxy, hup⟩ hserved hcs hinit hlast he
    have hclients := hserved.runClients_of_method hinit hlast he later
    rw [← hcs] at hclients
    obtain ⟨hresult, hreceived, -⟩ := run_of_runClients hstart hup hclients
    refine ⟨(run s config m).2, Prod.ext ?_ rfl, hreceived.trans hserved.receives.received⟩
    cases hr : (run s config m).1 with
    | error error =>
      rw [hr] at hresult
      exact congrArg Except.error (Except.error.inj hresult)
    | ok result =>
      rw [hr] at hresult
      cases hresult

/-- A client without a handler: it is answered, so that a run has a result, unless the client asks
for the method of the response. -/
theorem run_verdict_without_handlers :
    let status : Expectation := ⟨.response, .status, .equal, "200", "resp.status eq 200"⟩
    let method : Expectation := ⟨.response, .method, .equal, "GET", "resp.method eq \"GET\""⟩
    let script (e : Expectation) : Script := ⟨[], [{ name := "c", expectations := [e] }]⟩
    (∃ result m', run (script status) {} {} = (.ok result, m') ∧ ∃ xs later failure,
      (script status).clients = xs.map (·.client) ++ later ∧ Concludes xs later failure ∧
        result.failures = failure.toList ++ originFailures m') ∧
    ∃ m', run (script method) {} {} = (.error (.check (.noMethod method)), m') ∧
      m'.received.length = 1 := by
  intro status method script
  constructor
  · have hresult : (run (script status) {} {}).1.toOption.isSome := by decide +kernel
    rcases hrun : run (script status) {} {} with ⟨r, m'⟩
    rw [hrun] at hresult
    cases r with
    | error error => cases hresult
    | ok result =>
      obtain ⟨-, -, -, -, -, xs, later, failure, -, -, -, hcs, hconcludes, -, -, hfailures, -⟩ :=
        (run_verdict (script status) {} {}).1 result m' hrun
      exact ⟨result, m', rfl, xs, later, failure, hcs, hconcludes, hfailures⟩
  · -- The service is that of a client with the same call and nothing to expect.
    let origin : OriginServer := { bound := some 40000 }
    have hserved : (Run.runClient { origin } {} origin.address { name := "c" }).1.toOption =
        some none := by decide +kernel
    rcases hclient : Run.runClient { origin } {} origin.address { name := "c" } with ⟨r, m₂⟩
    rw [hclient] at hserved
    cases r with
    | error error => cases hserved
    | ok failure =>
      obtain ⟨⟨c, delivery, response⟩, rfl, hx⟩ := serves_of_runClient hclient
      let x : Service := ⟨{ name := "c", expectations := [method] }, delivery, response⟩
      have hx : Serves {} origin.address { origin } x m₂ := hx
      have hbreaks : x.Breaks method := by
        refine ⟨[], [], rfl, fun e he => absurd he List.not_mem_nil, ?_⟩
        rw [Expectation.holds_eq, Expectation.check_of_method rfl]
        exact fun h => nomatch h
      obtain ⟨m', hrun, hreceived⟩ := (run_verdict (script method) {} {}).2 origin origin.address
        { origin } m₂ [] x [] method ⟨rfl, none, rfl⟩ (.cons hx .nil) rfl
        (fun x hx => absurd hx List.not_mem_nil) hbreaks rfl
      exact ⟨m', hrun, congrArg List.length hreceived⟩

end Run

end ProxyTrial
