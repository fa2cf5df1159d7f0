import ProxyTrial.Run.Machine
/-!
# What a machine receives

Whatever a machine does during a run, verdicts depend only on the requests that are delivered: which
ones, to whom and in which order. The failures that the origin has noted are those of the requests
delivered to it, in the order of arrival.

## Main definitions

* `Delivery`: a request that has arrived, and who answers it
* `Machine.Receives m ds m'`: `m` becomes `m'` while `ds` are delivered

## Main results

* `Receives.received`: the octets received are those delivered
* `Receives.failures`: the failures noted are those of the requests delivered to the origin
* `connect_eq_ok`, `connect_eq_error`: what a connection comes to
* `exchange_eq_ok`: an exchange that succeeds has delivered one request
-/

namespace ProxyTrial

/-- A request that has arrived, and who answers it. -/
structure Delivery where
  request : Bytes
  responder : Machine.Responder

/-- The failures that the origin notes about a request, if it answers the request. -/
def Delivery.noted (t : Origin.Table) (d : Delivery) : List String :=
  match d.responder with
  | .origin => (Origin.converse t d.request).failures
  | .octets _ => []

namespace Machine

/-- A machine becomes another while requests are delivered, in this order. -/
inductive Receives : Machine → List Delivery → Machine → Prop
  /-- Nothing is delivered, and the origin is left alone. -/
  | idle {m m' : Machine} (received : m'.received = m.received) (origin : m'.origin = m.origin) :
      Receives m [] m'
  /-- A request is delivered to whoever answers connections to the port. -/
  | delivery {m m₁ : Machine} {port : Int} {responder : Responder} (request : Bytes)
      (connected : m.dial port = (some responder, m₁)) :
      Receives m [⟨request, responder⟩] (m₁.reply responder request).2
  | trans {m m₁ m' : Machine} {ds es : List Delivery} :
      Receives m ds m₁ → Receives m₁ es m' → Receives m (ds ++ es) m'

variable {m m₁ m' : Machine} {ds : List Delivery}

/-! ## One connection -/

theorem dial_eq {port : Int} {responder : Option Responder}
    (h : m.dial port = (responder, m₁)) : m₁.received = m.received ∧ m₁.origin = m.origin := by
  unfold dial at h
  split at h <;>
  · cases h
    exact ⟨rfl, rfl⟩

/-- What answers a request is what answers at its port, once a socket has been opened. -/
theorem connect_eq_ok {a : Agent} {o : Outgoing} {responder : Responder}
    (h : m.connect a o = (.ok responder, m₁)) :
    a.socketFault? o.url.host o.port = none ∧ m.dial o.port = (some responder, m₁) := by
  unfold connect at h
  split at h
  · cases h
  · next hsocket =>
    split at h
    · cases h
    · next hdial =>
      cases h
      exact ⟨hsocket, hdial⟩

/-- A request is not answered if no socket can be opened, or if nothing answers at its port. -/
theorem connect_eq_error {a : Agent} {o : Outgoing} {e : ExchangeError}
    (h : m.connect a o = (.error e, m₁)) :
    (∃ reason, a.socketFault? o.url.host o.port = some reason ∧ e = .socket reason ∧ m₁ = m) ∨
      a.socketFault? o.url.host o.port = none ∧ m.dial o.port = (none, m₁) ∧ e = .refused := by
  unfold connect at h
  split at h
  · next reason hsocket =>
    cases h
    exact .inl ⟨reason, hsocket, rfl, rfl⟩
  · next hsocket =>
    split at h
    · next hdial =>
      cases h
      exact .inr ⟨hsocket, hdial, rfl⟩
    · cases h

theorem reply_received (m : Machine) (r : Responder) (request : Bytes) :
    (m.reply r request).2.received = m.received ++ [request] := by
  cases r <;> rfl

theorem reply_handlers (m : Machine) (r : Responder) (request : Bytes) :
    (m.reply r request).2.origin.handlers = m.origin.handlers := by
  cases r <;> rfl

theorem reply_failures (m : Machine) (r : Responder) (request : Bytes) :
    (m.reply r request).2.origin.failures =
      m.origin.failures ++ Delivery.noted m.origin.handlers ⟨request, r⟩ := by
  cases r with
  | octets bs => exact (List.append_nil _).symm
  | origin => rfl

/-! ## Many connections -/

/-- Handlers stay as they are. -/
theorem Receives.handlers (h : m.Receives ds m') : m'.origin.handlers = m.origin.handlers := by
  induction h with
  | idle _ horigin => rw [horigin]
  | delivery request hc => rw [reply_handlers, (dial_eq hc).2]
  | trans _ _ ih ih' => rw [ih', ih]

/-- The octets received are those delivered. -/
theorem Receives.received (h : m.Receives ds m') :
    m'.received = m.received ++ ds.map (·.request) := by
  induction h with
  | idle hreceived _ => rw [hreceived, List.map_nil, List.append_nil]
  | delivery request hc => rw [reply_received, (dial_eq hc).1, List.map_singleton]
  | trans _ _ ih ih' => rw [ih', ih, List.map_append, List.append_assoc]

/-- The failures noted are those of the requests delivered to the origin, in order. -/
theorem Receives.failures (h : m.Receives ds m') :
    m'.origin.failures = m.origin.failures ++ ds.flatMap (·.noted m.origin.handlers) := by
  induction h with
  | idle _ horigin => rw [horigin, List.flatMap_nil, List.append_nil]
  | delivery request hc => rw [reply_failures, (dial_eq hc).2, List.flatMap_singleton]
  | trans h _ ih ih' => rw [ih', ih, h.handlers, List.flatMap_append, List.append_assoc]

/-! ## Exchanges -/

/-- An exchange that succeeds has delivered the request to whoever listens, and what comes back is
a response. -/
theorem exchange_eq_ok {a : Agent} {o : Outgoing} {r : Incoming}
    (h : m.exchange a o = (.ok r, m')) :
    ∃ responder m₁ request, m.connect a o = (.ok responder, m₁) ∧ o.encode = .ok request ∧
      o.answer a (m₁.reply responder request).1 = .ok r ∧ m' = (m₁.reply responder request).2 := by
  -- Without a listener there is an error, and so there is if the request cannot be written.
  unfold exchange at h
  split at h
  · cases h
  · next responder m₁ hc =>
    cases hencode : o.encode with
    | error e =>
      rw [hencode] at h
      cases h
    | ok request =>
      rw [hencode] at h
      have hpair := Prod.mk.inj h
      exact ⟨responder, m₁, request, hc, rfl, hpair.1, hpair.2.symm⟩

theorem receives_exchange (m : Machine) (a : Agent) (o : Outgoing) :
    ∃ ds, m.Receives ds (m.exchange a o).2 := by
  unfold exchange
  split
  · next hc =>
    rcases connect_eq_error hc with ⟨-, -, -, rfl⟩ | ⟨-, hdial, -⟩
    · exact ⟨[], .idle rfl rfl⟩
    · obtain ⟨hreceived, horigin⟩ := dial_eq hdial
      exact ⟨[], .idle hreceived horigin⟩
  · next responder m₁ hc =>
    have hdial := (connect_eq_ok hc).2
    obtain ⟨hreceived, horigin⟩ := dial_eq hdial
    cases o.encode with
    | error e => exact ⟨[], .idle hreceived horigin⟩
    | ok request => exact ⟨_, .delivery request hdial⟩

theorem receives_send (m : Machine) (a : Agent) (o : Except CallError Outgoing) :
    ∃ ds, m.Receives ds (m.send a o).2 := by
  unfold send
  cases o with
  | error e => exact ⟨[], .idle rfl rfl⟩
  | ok o => exact receives_exchange m a o

end Machine

end ProxyTrial
