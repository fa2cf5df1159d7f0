import ProxyTrial.Proofs.Client.Failure
import ProxyTrial.Proofs.Run.Release
/-!
# What can come back on a machine

The octets that come back on a connection are those of a probe, of another server, or of the origin
in answer to what it has received. Whatever a run does, nothing else can ever come back: outcomes of
probes are used up, and the other servers, the handlers of the origin and all that the machine
itself settles stay as they are. So what may go wrong with a request is settled by the machine on
which the run has begun.

## Main definitions

* `Machine.Brings m port request bs`: `bs` may come back on a connection to `port`
* `Machine.Covers m m'`: all that may come back on `m'` may come back on `m`

## Main results

* `Machine.indifferent_covers`: whatever a run does, nothing new can come back
* `Machine.exchange_eq_error`, `Machine.send_eq_ok`: what a request ends with
* `Wait.ask_eq_error`: why a URL cannot be asked
-/

namespace ProxyTrial

namespace Machine

/-- Octets that may come back on a connection to a port, in answer to a request. -/
inductive Brings (m : Machine) (port : Int) (request : Bytes) : Bytes → Prop
  /-- The port has outcomes of its own. -/
  | probe {outcomes : List (Option Int)} {status : Int} (probed : (port, outcomes) ∈ m.probes)
      (outcome : some status ∈ outcomes) : Brings m port request (probeReply status)
  /-- The port is taken by another server. -/
  | server {bs : Bytes} (taken : m.servers.lookup port = some bs) : Brings m port request bs
  /-- The connection leads to the origin. -/
  | origin : Brings m port request (Origin.converse m.origin.handlers request).sent

/-- All that may come back on the second machine may come back on the first, and what settles the
rest of a run is the same. -/
structure Covers (m m' : Machine) : Prop where
  probes : ∀ port outcomes, (port, outcomes) ∈ m'.probes →
    ∃ before, (port, before) ∈ m.probes ∧ outcomes ⊆ before
  agent : m'.agent = m.agent
  proxyPort : m'.proxyPort = m.proxyPort
  noRoot : m'.noRoot = m.noRoot
  servers : m'.servers = m.servers
  handlers : m'.origin.handlers = m.origin.handlers

variable {m m₁ m' m'' : Machine} {a : Agent} {port : Int} {request bs : Bytes} {o : Outgoing}

theorem covers_of_eq (hprobes : m'.probes = m.probes) (hagent : m'.agent = m.agent)
    (hproxyPort : m'.proxyPort = m.proxyPort) (hnoRoot : m'.noRoot = m.noRoot)
    (hservers : m'.servers = m.servers) (hhandlers : m'.origin.handlers = m.origin.handlers) :
    m.Covers m' where
  probes _ outcomes h := ⟨outcomes, hprobes ▸ h, List.Subset.refl _⟩
  agent := hagent
  proxyPort := hproxyPort
  noRoot := hnoRoot
  servers := hservers
  handlers := hhandlers

theorem Covers.refl (m : Machine) : m.Covers m := covers_of_eq rfl rfl rfl rfl rfl rfl

theorem Covers.trans (h : m.Covers m') (h' : m'.Covers m'') : m.Covers m'' where
  probes port outcomes hmem := by
    obtain ⟨between, hbetween, hsub⟩ := h'.probes port outcomes hmem
    obtain ⟨before, hbefore, hsub'⟩ := h.probes port between hbetween
    exact ⟨before, hbefore, List.Subset.trans hsub hsub'⟩
  agent := h'.agent.trans h.agent
  proxyPort := h'.proxyPort.trans h.proxyPort
  noRoot := h'.noRoot.trans h.noRoot
  servers := h'.servers.trans h.servers
  handlers := h'.handlers.trans h.handlers

theorem Covers.brings (h : m.Covers m') (hb : m'.Brings port request bs) :
    m.Brings port request bs := by
  cases hb with
  | probe hprobed houtcome =>
    obtain ⟨before, hbefore, hsub⟩ := h.probes _ _ hprobed
    exact .probe hbefore (hsub houtcome)
  | server htaken => exact .server (h.servers ▸ htaken)
  | origin => exact h.handlers ▸ .origin

/-- Whatever a run does, requests wait as long. -/
theorem Covers.waiting (h : m.Covers m') (seconds : Float) :
    m'.waiting seconds = m.waiting seconds :=
  congrArg (fun a : Agent => { a with timeout := seconds }) h.agent

/-! ## One connection -/

/-- The outcome that is taken is one of the port, and all others stay. -/
theorem takeProbe_spec {probes rest : List (Int × List (Option Int))} {outcome : Option Int}
    (h : takeProbe port probes = some (outcome, rest)) :
    (∃ outcomes, (port, outcomes) ∈ probes ∧ outcome ∈ outcomes) ∧
      ∀ p outcomes, (p, outcomes) ∈ rest →
        ∃ before, (p, before) ∈ probes ∧ outcomes ⊆ before := by
  -- The induction is on the ports up to the one that is asked for.
  induction probes generalizing rest with
  | nil => cases h
  | cons probe probes ih =>
    obtain ⟨p, outcomes⟩ := probe
    have hlater : ∀ {kept},
        (takeProbe port probes).map (fun x => (x.1, (p, kept) :: x.2)) = some (outcome, rest) →
        kept ⊆ outcomes →
        (∃ outcomes', (port, outcomes') ∈ (p, outcomes) :: probes ∧ outcome ∈ outcomes') ∧
          ∀ q outcomes', (q, outcomes') ∈ rest →
            ∃ before, (q, before) ∈ (p, outcomes) :: probes ∧ outcomes' ⊆ before := by
      intro kept h hkept
      obtain ⟨⟨o, rest'⟩, htaken, heq⟩ := Option.map_eq_some_iff.1 h
      obtain ⟨rfl, rfl⟩ := Prod.mk.inj heq
      obtain ⟨⟨outcomes', hmem, ho⟩, hrest⟩ := ih htaken
      refine ⟨⟨outcomes', List.mem_cons_of_mem _ hmem, ho⟩, fun q qs hq => ?_⟩
      rcases List.mem_cons.1 hq with heq | hq
      · obtain ⟨rfl, rfl⟩ := Prod.mk.inj heq
        exact ⟨outcomes, List.mem_cons_self, hkept⟩
      · obtain ⟨before, hbefore, hsub⟩ := hrest q qs hq
        exact ⟨before, List.mem_cons_of_mem _ hbefore, hsub⟩
    unfold takeProbe at h
    cases outcomes with
    | nil => exact hlater h (List.Subset.refl _)
    | cons first others =>
      simp only at h
      split at h
      · next hport =>
        obtain ⟨rfl, rfl⟩ := Prod.mk.inj (Option.some.inj h)
        subst hport
        refine ⟨⟨_, List.mem_cons_self, List.mem_cons_self⟩, fun q qs hq => ?_⟩
        rcases List.mem_cons.1 hq with heq | hq
        · obtain ⟨rfl, rfl⟩ := Prod.mk.inj heq
          exact ⟨_, List.mem_cons_self, List.subset_cons_self _ _⟩
        · exact ⟨qs, List.mem_cons_of_mem _ hq, List.Subset.refl _⟩
      · exact hlater h (List.Subset.refl _)

theorem covers_dial (m : Machine) (port : Int) : m.Covers (m.dial port).2 := by
  unfold dial
  split
  · next outcome probes htaken =>
    exact ⟨(takeProbe_spec htaken).2, rfl, rfl, rfl, rfl, rfl⟩
  · exact .refl m

/-- What listens is the origin, or another server. -/
theorem listener?_eq_octets (h : m.listener? port = some (.octets bs)) :
    m.servers.lookup port = some bs := by
  unfold listener? at h
  split at h
  · cases h
  · split at h
    · split at h <;> cases h
    · obtain ⟨bs', hlookup, heq⟩ := Option.map_eq_some_iff.1 h
      exact Responder.octets.inj heq ▸ hlookup

theorem brings_of_dial {responder : Responder} (h : m.dial port = (some responder, m₁))
    (request : Bytes) : m.Brings port request (m₁.reply responder request).1 := by
  have hhandlers := (dial_eq h).2
  cases responder with
  | origin =>
    have hsent : (m₁.reply .origin request).1 = (Origin.converse m₁.origin.handlers request).sent :=
      rfl
    rw [hsent, hhandlers]
    exact .origin
  | octets bs =>
    show m.Brings port request bs
    unfold dial at h
    split at h
    · next outcome probes htaken =>
      obtain ⟨⟨outcomes, hprobed, houtcome⟩, -⟩ := takeProbe_spec htaken
      obtain ⟨status, rfl, hbs⟩ := Option.map_eq_some_iff.1 (Prod.mk.inj h).1
      exact Responder.octets.inj hbs ▸ .probe hprobed houtcome
    · exact .server (listener?_eq_octets (Prod.mk.inj h).1)

theorem covers_reply (m : Machine) (r : Responder) (request : Bytes) :
    m.Covers (m.reply r request).2 := by
  cases r <;> exact covers_of_eq rfl rfl rfl rfl rfl rfl

/-! ## One request -/

theorem indifferent_covers : Indifferent Covers where
  refl := .refl
  trans := .trans
  exchange := exchange_of_connect .trans .refl covers_dial covers_reply
  sleep _ _ := covers_of_eq rfl rfl rfl rfl rfl rfl
  equip _ _ _ _ := covers_of_eq rfl rfl rfl rfl rfl rfl

/-- Why an exchange fails: there is no socket, nothing listens, the request cannot be written, or
what comes back is no response. -/
theorem exchange_eq_error {e : ExchangeError} (h : (m.exchange a o).1 = .error e) :
    (∃ reason, a.socketFault? o.url.host o.port = some reason ∧ e = .socket reason) ∨
      e = .refused ∨ (∃ err, o.encode = .error err ∧ e = .send err) ∨
      ∃ request bs, o.encode = .ok request ∧ m.Brings o.port request bs ∧
        o.answer a bs = .error e := by
  unfold exchange at h
  split at h
  · next e' m₁ hc =>
    obtain rfl := Except.error.inj h
    rcases connect_eq_error hc with ⟨reason, hsocket, rfl, -⟩ | ⟨-, -, rfl⟩
    · exact .inl ⟨reason, hsocket, rfl⟩
    · exact .inr (.inl rfl)
  · next responder m₁ hc =>
    cases hencode : o.encode with
    | error err =>
      rw [hencode] at h
      exact .inr (.inr (.inl ⟨err, rfl, (Except.error.inj h).symm⟩))
    | ok request =>
      rw [hencode] at h
      exact .inr (.inr (.inr
        ⟨request, _, rfl, brings_of_dial (connect_eq_ok hc).2 request, h⟩))

/-- Without a request there is no exchange. -/
theorem send_eq_error {x : Except CallError Outgoing} {e : ExchangeError}
    (h : (m.send a x).1 = .error e) :
    (∃ err, x = .error err ∧ e = .call err) ∨ ∃ o, x = .ok o ∧ (m.exchange a o).1 = .error e := by
  unfold send at h
  cases x with
  | error err => exact .inl ⟨err, rfl, (Except.error.inj h).symm⟩
  | ok o => exact .inr ⟨o, rfl, h⟩

/-- A response is what the request has brought back. -/
theorem send_eq_ok {x : Except CallError Outgoing} {r : Incoming} (h : (m.send a x).1 = .ok r) :
    ∃ o request bs, x = .ok o ∧ o.encode = .ok request ∧ m.Brings o.port request bs ∧
      o.answer a bs = .ok r := by
  unfold send at h
  cases x with
  | error err => cases h
  | ok o =>
    have hexchange : m.exchange a o = (.ok r, (m.exchange a o).2) := Prod.ext h rfl
    obtain ⟨responder, m₁, request, hc, hencode, hanswer, -⟩ := exchange_eq_ok hexchange
    exact ⟨o, request, _, rfl, hencode, brings_of_dial (connect_eq_ok hc).2 request, hanswer⟩

end Machine

/-! ## Questions -/

namespace Wait

variable {m : Machine} {a : Agent} {text : String} {e : ExchangeError}

/-- A URL cannot be asked that is none, or the host of which will not do; there may be no socket for
it; and the answer may redirect to a place that is none to ask for. -/
theorem ask_eq_error (h : (ask m a text).1 = .error e) :
    (∃ err, Http.Url.ofText text = .error err ∧ e = .call (.url err)) ∨
      (∃ fault url, Http.Url.ofText text = .ok url ∧ url.HostFails a.hosts fault ∧
        e = .call (.host fault)) ∨
      ∃ o, Outgoing.ofUrl a text "GET" [] [] = .ok o ∧
        ((∃ reason, a.socketFault? o.url.host o.port = some reason ∧ e = .socket reason) ∨
          ∃ request bs err, o.encode = .ok request ∧ m.Brings o.port request bs ∧
            o.answer a bs = .error (.redirect err) ∧ e = .redirect err) := by
  obtain ⟨hsend, hkind⟩ : (m.send a (Outgoing.ofUrl a text "GET" [] [])).1 = .error e ∧
      e.kind ≠ .transport := by
    unfold ask at h
    split at h
    · cases h
    · next heq =>
      split at h
      · cases h
      · next hkind =>
        obtain rfl := Except.error.inj h
        exact ⟨by rw [heq], hkind⟩
  rcases Machine.send_eq_error hsend with ⟨err, hcall, rfl⟩ | ⟨o, ho, hexchange⟩
  · -- A question has no headers, and its method is known.
    rcases Outgoing.ofUrl_eq_error hcall with
      ⟨err, rfl, hurl⟩ | ⟨err, -, hheaders⟩ | ⟨fault, url, rfl, hurl, hhost⟩ | ⟨-, hmethod⟩ | rfl |
        ⟨scheme, rfl⟩
    · exact .inl ⟨err, hurl, rfl⟩
    · exact absurd (List.forall_mem_nil _) hheaders
    · exact .inr (.inl ⟨fault, url, hurl, hhost, rfl⟩)
    · exact absurd hmethod (by decide)
    · exact absurd rfl hkind
    · exact absurd rfl hkind
  · rcases Machine.exchange_eq_error hexchange with
      ⟨reason, hsocket, rfl⟩ | rfl | ⟨err, hencode, rfl⟩ | ⟨request, bs, hencode, hbrings, hanswer⟩
    · exact .inr (.inr ⟨o, ho, .inl ⟨reason, hsocket, rfl⟩⟩)
    · exact absurd rfl hkind
    · -- It has no header that states a length, either.
      have hlength : err = .tooMuchBody ∨ err = .tooLittleBody := by
        cases err <;> first | exact absurd rfl hkind | simp
      exact absurd (Outgoing.encode_mismatch ho hencode hlength).1 (by decide)
    · rcases Outgoing.failsOnly_answer a o bs e hanswer with htransport | ⟨err, rfl⟩
      · exact absurd htransport hkind
      · exact .inr (.inr ⟨o, ho, .inr ⟨request, bs, err, hencode, hbrings, hanswer, rfl⟩⟩)

end Wait

end ProxyTrial
