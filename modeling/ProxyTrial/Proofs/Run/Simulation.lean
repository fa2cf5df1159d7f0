import ProxyTrial.Proofs.Client.Redirect
import ProxyTrial.Proofs.Run.Delivery
import ProxyTrial.Run.Program
/-!
# The same clients at two ports

Two machines with the same origin, each of which lets it be reached through a port of its own,
cannot be told apart by clients: what a client makes of a call is the same on both, and so is the
origin afterwards. The host that a request names is the only difference, and nobody looks at it.

## Main definitions

* `Machine.Reaches m port`: connections to a port reach the origin
* `Machine.Twins port port' m m'`: two machines with the same origin
* `Call.FitsUrl address c`: the URL of a call at an address is not too long
* `Call.SetsHost c`: a header of the call names the host
* `Outgoing.redirectedTo? t o`: the place that handlers redirect a request to, and the fields of the
  reply
* `Call.FitsAlike a t address address' c`: what a call leads to can be asked for at both addresses
  or at neither

## Main results

* `Twins.exchange`, `Twins.send`: one request
* `Twins.runClient`: one client
* `Twins.runClients`: clients one after another
-/

namespace ProxyTrial

/-- The URL of a call at an address is not too long. -/
def Call.FitsUrl (address : String) (c : Call) : Prop :=
  (Outgoing.urlOf address c.target).length ≤ Http.urlLimit

instance (address : String) (c : Call) : Decidable (c.FitsUrl address) := Nat.decLe _ _

/-- A header of the call names the host. -/
def Call.SetsHost (c : Call) : Prop := ∃ f ∈ c.headers, Text.lower f.1 = "host"

/-- The place that handlers redirect a request to, behind the fields of the reply. -/
def Outgoing.redirectedTo? (t : Origin.Table) (o : Outgoing) : Option (Http.Fields × String) := do
  let request ← o.encode.toOption
  o.redirect? (Origin.converse t request).sent

/-- The URL of a call, and those that handlers redirect it to, are not too long at both addresses or
at neither, and cookies of the replies that redirect it can go along at both or at neither. -/
structure Call.FitsAlike (a : Agent) (t : Origin.Table) (address address' : String) (c : Call) :
    Prop where
  url : c.FitsUrl address ↔ c.FitsUrl address'
  redirect : ∀ o o' fs place, Outgoing.ofCall a address c = .ok o →
    Outgoing.ofCall a address' c = .ok o' → o.redirectedTo? t = some (fs, place) →
      RedirectsAlike a o.url o'.url fs place

namespace Machine

/-! ## Reaching the origin -/

/-- Connections to a port reach the origin. -/
structure Reaches (m : Machine) (port : Int) : Prop where
  unscripted : takeProbe port m.probes = none
  listener : m.listener? port = some .origin

variable {m m' : Machine} {port port' : Nat} {a : Agent}

theorem Reaches.dial {port : Int} (h : m.Reaches port) : m.dial port = (some .origin, m) := by
  rw [Machine.dial, h.unscripted, h.listener]

/-- On this machine a socket can be opened to any port, unless the time to wait is too long. -/
theorem socketFault?_loopback (a : Agent) (h : port ≤ 65535) :
    a.socketFault? "127.0.0.1" port = a.sockets.wait? a.timeout := by
  rw [Agent.socketFault?, a.sockets.loopback port (Int.natCast_nonneg port) (by omega),
    Option.none_or]

theorem Reaches.connect {o : Outgoing} (h : m.Reaches o.port)
    (hsocket : a.socketFault? o.url.host o.port = none) : m.connect a o = (.ok .origin, m) := by
  rw [Machine.connect, hsocket]
  simp only [h.dial]

/-- A request changes nothing about who is reached. -/
theorem Reaches.reply {port : Int} (h : m.Reaches port) (request : Bytes) :
    (m.reply .origin request).2.Reaches port := ⟨h.unscripted, h.listener⟩

/-- A request that reaches the origin is answered by it. -/
theorem Reaches.exchange {o : Outgoing} (h : m.Reaches o.port)
    (hsocket : a.socketFault? o.url.host o.port = none) :
    m.exchange a o =
      match o.encode with
      | .error e => (.error (.send e), m)
      | .ok request =>
        (o.answer a (m.origin.accept request).1.sent, (m.reply .origin request).2) := by
  rw [Machine.exchange, h.connect hsocket]
  cases o.encode <;> rfl

/-! ## One request -/

/-- Two machines with the same origin, which is reached through a port of each. -/
structure Twins (port port' : Nat) (m m' : Machine) : Prop where
  origin : m.origin = m'.origin
  reaches : m.Reaches port
  reaches' : m'.Reaches port'

/-- Requests that the origin cannot tell apart have the same outcome, or fail both. -/
theorem Twins.exchange (h : Twins port port' m m') {o o' : Outgoing} (ho : o.port = port)
    (ho' : o'.port = port')
    (hsocket : a.socketFault? o.url.host o.port = a.socketFault? o'.url.host o'.port)
    (hsame : o.encode.map (Origin.converse m.origin.handlers) =
      o'.encode.map (Origin.converse m.origin.handlers))
    (hanswer : ∀ request, o.encode = .ok request →
      let bs := (Origin.converse m.origin.handlers request).sent
      Agree Eq (o.answer a bs) (o'.answer a bs)) :
    (m.exchange a o).1.toOption = (m'.exchange a o').1.toOption ∧
      Twins port port' (m.exchange a o).2 (m'.exchange a o').2 := by
  cases hfault : a.socketFault? o.url.host o.port with
  | some reason =>
    have hfault' : a.socketFault? o'.url.host o'.port = some reason := hsocket ▸ hfault
    simp only [Machine.exchange, Machine.connect, hfault, hfault']
    exact ⟨trivial, h⟩
  | none =>
    rw [Reaches.exchange (ho ▸ h.reaches) hfault,
      Reaches.exchange (ho' ▸ h.reaches') (hsocket ▸ hfault)]
    -- Requests are made at both ports or at neither, since they come to the same conversation.
    have hencode := Agree.of_map_eq hsame
    generalize o.encode = r at hencode hanswer
    generalize o'.encode = r' at hencode
    cases hencode with
    | error e e' => exact ⟨rfl, h⟩
    | @ok request request' hconverse =>
      have haccept : m.origin.accept request = m'.origin.accept request' := by
        rw [OriginServer.accept, OriginServer.accept, ← h.origin, hconverse]
      refine ⟨?_, ?_, h.reaches.reply request, h.reaches'.reply request'⟩
      · simp only [← haccept]
        exact (hanswer request rfl).toOption_eq
      · exact congrArg Prod.snd haccept

section Clients

open Outgoing (loopback ofCall)

theorem lt_lengthLimit_of_le {port : Nat} (h : port ≤ 65535) : port < Http.lengthLimit :=
  Nat.lt_of_le_of_lt h (by decide)

/-- A call has the same outcome at two ports, or fails at both. -/
theorem Twins.send (h : Twins port port' m m') (hport : port ≤ 65535) (hport' : port' ≤ 65535)
    {c : Call} (hhost : Origin.IgnoresHost m.origin.handlers ∨ c.SetsHost)
    (hfits : c.FitsAlike a m.origin.handlers (loopback port) (loopback port')) :
    (m.send a (ofCall a (loopback port) c)).1.toOption =
        (m'.send a (ofCall a (loopback port') c)).1.toOption ∧
      Twins port port' (m.send a (ofCall a (loopback port) c)).2
        (m'.send a (ofCall a (loopback port') c)).2 := by
  have hlimit := lt_lengthLimit_of_le hport
  have hlimit' := lt_lengthLimit_of_le hport'
  unfold Machine.send
  rcases Outgoing.ofCall_two_ports a hlimit hlimit' c hfits.url with
    ⟨e, e', hcall, hcall'⟩ | ⟨own, method, hown, hmethod, hcall, hcall'⟩
  · rw [hcall, hcall']
    exact ⟨rfl, h⟩
  · have hurl : Outgoing.ofUrl a (Outgoing.urlOf (loopback port) c.target) c.method c.headers
        (Text.utf8 c.body) = .ok _ := hcall
    have htarget := Http.Url.graphic_target (Outgoing.ofUrl_eq_ok hurl).1
    have hsame := Outgoing.converse_requestAt
      (hhost.imp_right fun ⟨f, hf, hname⟩ =>
        Outgoing.namesHost_of_mem hown hf hname (Text.utf8 c.body))
      (Outgoing.isAscii_of_upperMethod? hmethod) htarget hlimit hlimit'
    have hredirect := fun fs place => hfits.redirect _ _ fs place hcall hcall'
    obtain ⟨cs, hcs⟩ := Http.toList_targetOf c.target
    rw [hcall, hcall']
    rw [hcs] at hsame hredirect ⊢
    have hsocket : a.socketFault? "127.0.0.1" port = a.socketFault? "127.0.0.1" port' :=
      (socketFault?_loopback a hport).trans (socketFault?_loopback a hport').symm
    refine h.exchange Outgoing.port_requestAt Outgoing.port_requestAt ?_ hsame ?_
    · rw [Outgoing.port_requestAt, Outgoing.port_requestAt]
      exact hsocket
    · refine fun request hrequest => Outgoing.agree_answer a hlimit hlimit' cs _
        fun fs place hplace => ?_
      refine hredirect fs place ?_
      rw [Outgoing.redirectedTo?, hrequest]
      exact hplace

/-! ## Clients -/

theorem handlers_runClient (m : Machine) (a : Agent) (address : String) (c : Client) :
    (Run.runClient m a address c).2.origin.handlers = m.origin.handlers := by
  obtain ⟨ds, hds⟩ := m.receives_send a (ofCall a address c.call)
  unfold Run.runClient
  split <;>
  · next hsend =>
    rw [hsend] at hds
    exact hds.handlers

/-- A client has the same failure at two ports, or no result at either. -/
theorem Twins.runClient (h : Twins port port' m m') (hport : port ≤ 65535)
    (hport' : port' ≤ 65535) {c : Client}
    (hhost : Origin.IgnoresHost m.origin.handlers ∨ c.call.SetsHost)
    (hfits : c.call.FitsAlike a m.origin.handlers (loopback port) (loopback port')) :
    (Run.runClient m a (loopback port) c).1.toOption =
        (Run.runClient m' a (loopback port') c).1.toOption ∧
      Twins port port' (Run.runClient m a (loopback port) c).2
        (Run.runClient m' a (loopback port') c).2 := by
  obtain ⟨hresult, htwins⟩ := h.send hport hport' hhost hfits
  rw [Run.runClient, Run.runClient]
  rcases hsend : m.send a (ofCall a (loopback port) c.call) with ⟨r, m₁⟩
  rcases hsend' : m'.send a (ofCall a (loopback port') c.call) with ⟨r', m₁'⟩
  rw [hsend, hsend'] at hresult htwins
  cases r with
  | error e =>
    cases r' with
    | error e' => exact ⟨rfl, htwins⟩
    | ok received' => cases hresult
  | ok received =>
    cases r' with
    | error e' => cases hresult
    | ok received' =>
      obtain rfl : received = received' := Option.some.inj hresult
      exact ⟨rfl, htwins⟩

/-- Clients that are run one after another have the same failure at two ports, or no result at
either, and the origin notes the same failures. -/
theorem Twins.runClients (h : Twins port port' m m') (hport : port ≤ 65535)
    (hport' : port' ≤ 65535) {cs : List Client}
    (hhost : Origin.IgnoresHost m.origin.handlers ∨ ∀ c ∈ cs, c.call.SetsHost)
    (hfits : ∀ c ∈ cs,
      c.call.FitsAlike a m.origin.handlers (loopback port) (loopback port')) :
    (Run.runClients m a (loopback port) cs).1.toOption =
        (Run.runClients m' a (loopback port') cs).1.toOption ∧
      Twins port port' (Run.runClients m a (loopback port) cs).2
        (Run.runClients m' a (loopback port') cs).2 := by
  -- The induction is on the clients: the machines after one of them are twins again.
  induction cs generalizing m m' with
  | nil => exact ⟨rfl, h⟩
  | cons c cs ih =>
    rw [List.forall_mem_cons] at hfits
    have hfirst : Origin.IgnoresHost m.origin.handlers ∨ c.call.SetsHost :=
      hhost.imp_right fun hset => hset c List.mem_cons_self
    obtain ⟨hresult, htwins⟩ := h.runClient hport hport' hfirst hfits.1
    have hlater : Origin.IgnoresHost (Run.runClient m a (loopback port) c).2.origin.handlers ∨
        ∀ c ∈ cs, c.call.SetsHost := by
      rw [handlers_runClient]
      exact hhost.imp_right fun hset c hc => hset c (List.mem_cons_of_mem _ hc)
    have hmore := ih htwins hlater (by rw [handlers_runClient]; exact hfits.2)
    rw [Run.runClients, Run.runClients]
    generalize Run.runClient m a (loopback port) c = first at hresult htwins hmore ⊢
    generalize Run.runClient m' a (loopback port') c = first' at hresult htwins hmore ⊢
    obtain ⟨r, m₁⟩ := first
    obtain ⟨r', m₁'⟩ := first'
    -- A result without a failure goes on to the next client; anything else is the end.
    rcases r with e | _ | failure <;> rcases r' with e' | _ | failure' <;> cases hresult
    · exact ⟨rfl, htwins⟩
    · exact hmore
    · exact ⟨rfl, htwins⟩

end Clients

end Machine

end ProxyTrial
