import ProxyTrial.Proofs.Files.Refusal
import ProxyTrial.Proofs.Run.Answers
import ProxyTrial.Proofs.Run.Targets
/-!
# How a run ends

A run has a result, or it ends with an error. Most errors are findings: about the port of the
origin, about the proxy, about a request that is not answered, or about an expectation that does not
apply. The others are breakdowns, and it is known what breaks a run down: a port that does not
exist; the want of a run root; a null character in the name of a file or in an argument of the
command; a URL that cannot tell whether the proxy is ready, because it is none; and of the clients a
header or a method that is not ASCII, a header with a length that is not that of the body, a
response whose body cannot be read as text, and an expectation about a header whose name is not
ASCII. Any request breaks a run down if the host of its URL cannot be read or written, if no socket
can be opened for it, or if the response redirects to a place that cannot be told or that the
cookies it sets cannot go to. A client whose URL is none is a finding; only the question whether a
proxy is ready breaks down about that.

## Main definitions

* `Proxy.BreaksDown pc m e`, `Client.BreaksDown a address m c e`: what breaks down bringing up a
  proxy, and serving a client
* `Run.BreaksDown s config m e`: what breaks down a run

## Main results

* `Proxy.not_isFinding_start`, `Client.not_isFinding_runClient`: nothing else does
* `Run.run_outcome`: how a run ends
-/

namespace ProxyTrial

open Outgoing (hasHeader urlOf ofCall ofUrl upperMethod?)

/-! ## The proxy -/

namespace Proxy

/-- The address of a proxy on a machine. -/
def addressOn (pc : ProxyConfig) (m : Machine) : String :=
  Proxy.address { config := pc, originPort := 0, free := m.proxyPort }

/-- The URL that tells whether a proxy is ready. -/
def readyUrl (pc : ProxyConfig) (m : Machine) : String :=
  "http://" ++ addressOn pc m ++ pc.readyPath

/-- What asks whether a proxy is ready. -/
def asker (m : Machine) : Agent := m.waiting (pause * 5.0)

/-- What breaks down bringing up a proxy. -/
inductive BreaksDown (pc : ProxyConfig) (m : Machine) : ProxyError → Prop
  /-- There is no way to make a run root. -/
  | noRoot {reason : String} (root : m.noRoot = some reason) : BreaksDown pc m (.noRoot reason)
  /-- The name of a file has a null character. -/
  | fileName {file : String × String} {target : Path} {error : FileError}
      (configured : file ∈ pc.files) (null : '\x00' ∈ file.1.toList)
      (fault : error.fault = .nullCharacter) :
      BreaksDown pc m (.cannotWrite target error)
  /-- An argument of the command has a null character. -/
  | argument {argument : String} (configured : argument ∈ pc.command)
      (null : '\x00' ∈ argument.toList) : BreaksDown pc m .nullArgument
  /-- The proxy cannot be asked, since there is no URL. -/
  | readyPath {error : Http.UrlError} (url : Http.Url.ofText (readyUrl pc m) = .error error) :
      BreaksDown pc m (.unreachable (.call (.url error)))
  /-- The host of the URL cannot be read or written. -/
  | readyHost {url : Http.Url} {fault : Http.HostFault}
      (read : Http.Url.ofText (readyUrl pc m) = .ok url)
      (host : url.HostFails m.agent.hosts fault) :
      BreaksDown pc m (.unreachable (.call (.host fault)))
  /-- No socket can be opened to the host and the port of the URL. -/
  | socket {o : Outgoing} {reason : String}
      (question : ofUrl (asker m) (readyUrl pc m) "GET" [] [] = .ok o)
      (fault : m.agent.sockets.address? o.url.host o.port = some reason) :
      BreaksDown pc m (.unreachable (.socket reason))
  /-- What answers redirects to a place that is none to ask for. -/
  | redirect {o : Outgoing} {request bs : Bytes} {error : RedirectError}
      (question : ofUrl (asker m) (readyUrl pc m) "GET" [] [] = .ok o)
      (encoded : o.encode = .ok request) (brought : m.Brings o.port request bs)
      (answer : o.answer (asker m) bs = .error (.redirect error))
      (blame : o.RedirectFails (asker m) bs error) :
      BreaksDown pc m (.unreachable (.redirect error))

variable {p p' : Proxy} {root : Path} {m m' : Machine} {e : ProxyError}

theorem BreaksDown.not_isFinding {pc : ProxyConfig} (h : BreaksDown pc m e) :
    e.isFinding = false := by
  cases h with
  | fileName _ _ hfault => simp [ProxyError.isFinding, FileError.isRefusal, hfault]
  | noRoot _ | argument _ _ | readyPath _ | readyHost _ _ | socket _ _ | redirect _ _ _ _ _ => rfl

/-- Of spawning a command only a null character in an argument breaks down. -/
theorem not_isFinding_spawn (hroot : ∀ r ∈ p.root, r.NullFree)
    (h : p.spawn root m = (.error e, p', m')) (he : e.isFinding = false) :
    BreaksDown p.config m e := by
  rcases spawn_cases h with
    ⟨err, -, hr, -, -⟩ | ⟨files, -, ⟨hnull, hr, -, -⟩ | ⟨-, hr, -, -⟩ | ⟨-, hr, -, -⟩⟩
  · obtain rfl := Except.error.inj hr
    cases he
  · obtain rfl := Except.error.inj hr
    obtain ⟨argument, hargument, hnull⟩ := hnull
    exact .argument hargument (Classical.not_not.1 fun h => notMem_render hroot h hnull)
  · obtain rfl := Except.error.inj hr
    cases he
  · cases hr

theorem not_isFinding_awaitReady (hfree : p.free = m.proxyPort)
    (h : (p.awaitReady m).1 = .error e) (he : e.isFinding = false) :
    BreaksDown p.config m e := by
  have haddress : p.address = addressOn p.config m := by
    rw [addressOn, address, port, hfree, address, port]
  unfold awaitReady at h
  rw [haddress] at h
  dsimp only at h
  split at h
  · cases h
  · obtain rfl := Except.error.inj h
    cases he
  · obtain rfl := Except.error.inj h
    cases he
  · obtain rfl := Except.error.inj h
    cases he
  · next error s heq =>
    obtain rfl := Except.error.inj h
    obtain ⟨m', hm', hask⟩ := Machine.indifferent_covers.waitForGet_failed (congrArg Prod.fst heq)
    rw [hm'.waiting] at hask
    change (Wait.ask m' (asker m) (readyUrl p.config m)).1 = .error error at hask
    rcases Wait.ask_eq_error hask with ⟨error, hurl, rfl⟩ | ⟨fault, url, hurl, hhost, rfl⟩ |
      ⟨o, ho, ⟨reason, hsocket, rfl⟩ | ⟨request, bs, error, hencode, hbrings, hanswer, rfl⟩⟩
    · exact .readyPath hurl
    · exact .readyHost hurl hhost
    · -- The time to wait for an answer is none too long.
      have hwait : (asker m).sockets.wait? (asker m).timeout = none := m.agent.sockets.second
      refine .socket ho ?_
      rwa [Agent.socketFault?, hwait, Option.or_none] at hsocket
    · exact .redirect ho hencode (hm'.brings hbrings) hanswer
        (Outgoing.redirectFails_of_answer hanswer)

/-- What breaks down for a machine breaks down for one that may bring more. -/
theorem BreaksDown.mono {pc : ProxyConfig} (h : BreaksDown pc m' e) (hm : m.Covers m') :
    BreaksDown pc m e := by
  have hurl : readyUrl pc m' = readyUrl pc m := by
    rw [readyUrl, addressOn, hm.proxyPort, readyUrl, addressOn]
  have hasker : asker m' = asker m := hm.waiting _
  cases h with
  | noRoot hroot => exact .noRoot (hm.noRoot ▸ hroot)
  | fileName hfile hnull hfault => exact .fileName hfile hnull hfault
  | argument hargument hnull => exact .argument hargument hnull
  | readyPath herror => exact .readyPath (hurl ▸ herror)
  | readyHost hok hhost => exact .readyHost (hurl ▸ hok) (hm.agent ▸ hhost)
  | socket ho hsocket => exact .socket (hurl ▸ hasker ▸ ho) (hm.agent ▸ hsocket)
  | redirect ho hencode hbrings hanswer hblame =>
    exact .redirect (hurl ▸ hasker ▸ ho) hencode (hm.brings hbrings) (hasker ▸ hanswer)
      (hasker ▸ hblame)

/-- Nothing else breaks down bringing up a proxy in a run root that has been made. -/
theorem not_isFinding_startIn (hroot : root.NullFree) (hfree : p.free = m.proxyPort)
    (h : p.startIn root m = (.error e, p', m')) (he : e.isFinding = false) :
    BreaksDown p.config m e := by
  rcases startIn_cases h with
    ⟨err, files, hfiles, hr, -, -⟩ | ⟨files, -, ⟨err, hspawn, hr⟩ | ⟨m₁, hspawn, hready⟩⟩
  · obtain rfl := Except.error.inj hr
    rcases writeFiles_eq_error hroot rfl (congrArg Prod.fst hfiles) with
      hfinding | ⟨file, hfile, hnull, target, error, hfault, rfl⟩
    · rw [he] at hfinding
      cases hfinding
    · exact .fileName hfile hnull hfault
  · obtain rfl := Except.error.inj hr
    have hwritten := Machine.indifferent_covers.equip m files m.roots m.processes
    refine (not_isFinding_spawn ?_ hspawn he).mono hwritten
    exact fun r hr => Option.some.inj hr ▸ hroot
  · -- What the waiting comes to is settled before: up to there nothing new can come back.
    obtain ⟨hconfig, hfree'⟩ := spawn_settings hspawn
    have hcovers : m.Covers m₁ :=
      (Machine.indifferent_covers.equip m files m.roots m.processes).trans
        (Machine.indifferent_covers.spawn hspawn)
    have hbroken := not_isFinding_awaitReady (hfree'.trans (hfree.trans hcovers.proxyPort.symm))
      (congrArg Prod.fst hready) he
    rw [hconfig] at hbroken
    exact hbroken.mono hcovers

/-- Nothing else breaks down bringing up a proxy. -/
theorem not_isFinding_start (hfree : p.free = m.proxyPort) (h : p.start m = (.error e, p', m'))
    (he : e.isFinding = false) : BreaksDown p.config m e := by
  rcases start_cases h with ⟨reason, hnone, hr, -, -⟩ | ⟨-, hstart⟩
  · obtain rfl := Except.error.inj hr
    exact .noRoot hnone
  · have hmade := Machine.indifferent_covers.equip m (makeRoot m).2.files (makeRoot m).2.roots
      m.processes
    have hroot : (makeRoot m).1.NullFree := nullFree_makeRoot (m := m) rfl
    have hbroken := not_isFinding_startIn (m := (makeRoot m).2) hroot hfree hstart he
    exact hbroken.mono hmade

end Proxy

/-! ## Responses -/

/-- A body that cannot be read is there, and has a content type. -/
theorem Http.TextReader.read_eq_error {texts : Http.TextReader} {fs : Http.Fields} {bs : Bytes}
    {fault : Http.TextFault} (h : texts.read fs bs = .error fault) :
    fs.joined? "content-type" ≠ none ∧ bs ≠ [] := by
  constructor
  · intro hnone
    rw [texts.read_untyped _ _ hnone] at h
    cases h
  · rintro rfl
    rw [texts.read_nil] at h
    cases h

/-- A name of ASCII can be looked up however header fields are read. -/
theorem Http.Fields.values_eq_error {fs : Http.Fields} {name : String} {error : Text.EncodeError}
    (h : fs.values name = .error error) : ¬ Text.IsAscii name := by
  intro hascii
  rw [values_of_writes (FieldEncoding.writes_of_isAscii (Text.isAscii_lower hascii))] at h
  cases h

/-! ## Clients -/

namespace Client

/-- What breaks down sending the request of a client. -/
inductive SendBreaksDown (a : Agent) (address : String) (m : Machine) (c : Call) :
    ExchangeError → Prop
  /-- A header is not ASCII. -/
  | header {error : Text.EncodeError} (headers : ¬ Http.AsciiFields c.headers) :
      SendBreaksDown a address m c (.call (.header error))
  /-- The host of the URL cannot be read or written. -/
  | host {url : Http.Url} {fault : Http.HostFault}
      (read : Http.Url.ofText (urlOf address c.target) = .ok url)
      (host : url.HostFails a.hosts fault) : SendBreaksDown a address m c (.call (.host fault))
  /-- The method is not ASCII, not even in capital letters. -/
  | method (method : upperMethod? c.method = none) : SendBreaksDown a address m c (.call .method)
  /-- No socket can be opened to the host and the port of the URL, or wait for so long. -/
  | socket {o : Outgoing} {reason : String} (sent : ofCall a address c = .ok o)
      (fault : a.socketFault? o.url.host o.port = some reason) :
      SendBreaksDown a address m c (.socket reason)
  /-- A header states a length that is not that of the body. -/
  | length {o : Outgoing} {fs : Http.Fields} {n : Nat} {error : SendError}
      (stated : hasHeader c.headers "content-length") (sent : ofCall a address c = .ok o)
      (fields : Http.reconcileSent o.fields = .ok fs) (framing : Http.framing fs = .length n)
      (body : n ≠ (Text.utf8 c.body).length)
      (mismatch : error = .tooMuchBody ∨ error = .tooLittleBody) :
      SendBreaksDown a address m c (.send error)
  /-- The response redirects to a place whose host cannot be told, read or written, or sets cookies
  that cannot go there. -/
  | redirect {o : Outgoing} {request bs : Bytes} {error : RedirectError}
      (sent : ofCall a address c = .ok o) (encoded : o.encode = .ok request)
      (brought : m.Brings o.port request bs) (answer : o.answer a bs = .error (.redirect error))
      (blame : o.RedirectFails a bs error) (place : ∀ url, error ≠ .url url) :
      SendBreaksDown a address m c (.redirect error)

/-- What breaks down serving a client. -/
inductive BreaksDown (a : Agent) (address : String) (m : Machine) (c : Client) : RunError → Prop
  /-- The request cannot be sent, or not be answered. -/
  | send {error : ExchangeError} (broken : SendBreaksDown a address m c.call error) :
      BreaksDown a address m c
        (.client c.call.method (urlOf address c.call.target) error)
  /-- The response has a body with a content type, which cannot be read as text. -/
  | text {o : Outgoing} {request bs : Bytes} {received : Incoming} {fault : Http.TextFault}
      (sent : ofCall a address c.call = .ok o) (encoded : o.encode = .ok request)
      (brought : m.Brings o.port request bs) (answer : o.answer a bs = .ok received)
      (typed : received.fields.joined? "content-type" ≠ none) (present : received.content ≠ [])
      (unread : a.texts.read received.fields received.content = .error fault) :
      BreaksDown a address m c (.text fault)
  /-- An expectation is about a header whose name is not ASCII. -/
  | headerName {x : Expectation} {name : String} {error : Text.EncodeError}
      (expected : x ∈ c.expectations) (subject : x.subject = .header name)
      (ascii : ¬ Text.IsAscii name) : BreaksDown a address m c (.check (.headerName error))

variable {a : Agent} {address : String} {m m' : Machine} {c : Client} {e : RunError}
  {error : ExchangeError}

theorem SendBreaksDown.kind_eq (h : SendBreaksDown a address m c.call error) :
    error.kind = .breakdown := by
  cases h with
  | header _ | host _ _ | method _ | socket _ _ => rfl
  | length _ _ _ _ _ hmismatch => rcases hmismatch with rfl | rfl <;> rfl
  | @redirect _ _ _ error _ _ _ _ _ hplace =>
    cases error with
    | url err => exact absurd rfl (hplace err)
    | authority _ | host _ | cookies _ => rfl

theorem BreaksDown.not_isFinding (h : BreaksDown a address m c e) : e.isFinding = false := by
  cases h with
  | send hbroken => simp [RunError.isFinding, hbroken.kind_eq]
  | text _ _ _ _ _ _ _ | headerName _ _ _ => rfl

theorem SendBreaksDown.mono (h : SendBreaksDown a address m' c.call error) (hm : m.Covers m') :
    SendBreaksDown a address m c.call error := by
  cases h with
  | header hheaders => exact .header hheaders
  | host hurl hhost => exact .host hurl hhost
  | method hmethod => exact .method hmethod
  | socket hsent hsocket => exact .socket hsent hsocket
  | length hstated hsent hfields hframing hbody hmismatch =>
    exact .length hstated hsent hfields hframing hbody hmismatch
  | redirect hsent hencoded hbrought hanswer hblame hplace =>
    exact .redirect hsent hencoded (hm.brings hbrought) hanswer hblame hplace

theorem BreaksDown.mono (h : BreaksDown a address m' c e) (hm : m.Covers m') :
    BreaksDown a address m c e := by
  cases h with
  | send hbroken => exact .send (hbroken.mono hm)
  | text hsent hencoded hbrought hanswer htyped hpresent hunread =>
    exact .text hsent hencoded (hm.brings hbrought) hanswer htyped hpresent hunread
  | headerName hexpected hsubject hascii => exact .headerName hexpected hsubject hascii

/-- Nothing else breaks down sending the request of a client. -/
theorem sendBreaksDown_of_send (h : (m.send a (ofCall a address c.call)).1 = .error error)
    (he : error.kind = .breakdown) : SendBreaksDown a address m c.call error := by
  -- The request is not made, or it is made and not answered.
  rcases Machine.send_eq_error h with ⟨err, hcall, rfl⟩ | ⟨o, ho, hexchange⟩
  · rcases Outgoing.ofUrl_eq_error hcall with
      ⟨err, rfl, -⟩ | ⟨err, rfl, hheaders⟩ | ⟨fault, url, rfl, hurl, hhost⟩ | ⟨rfl, hmethod⟩ | rfl |
        ⟨scheme, rfl⟩
    · cases he
    · exact .header hheaders
    · exact .host hurl hhost
    · exact .method hmethod
    · cases he
    · cases he
  · rcases Machine.exchange_eq_error hexchange with
      ⟨reason, hsocket, rfl⟩ | rfl | ⟨err, hencode, rfl⟩ | ⟨request, bs, hencode, hbrings, hanswer⟩
    · exact .socket ho hsocket
    · cases he
    · have hmismatch : err = .tooMuchBody ∨ err = .tooLittleBody := by
        cases err <;> simp_all [ExchangeError.kind]
      obtain ⟨hstated, fs, n, hfields, hframing, hbody⟩ :=
        Outgoing.encode_mismatch ho hencode hmismatch
      exact .length hstated ho hfields hframing hbody hmismatch
    · rcases Outgoing.failsOnly_answer a o bs error hanswer with htransport | ⟨err, rfl⟩
      · cases htransport.symm.trans he
      · refine .redirect ho hencode hbrings hanswer (Outgoing.redirectFails_of_answer hanswer) ?_
        rintro url rfl
        cases he

/-- An expectation about a response does not apply, or is about a header whose name is not ASCII. -/
theorem not_isInapplicable_firstFailure {r : Response} {xs : List Expectation} {error : CheckError}
    (h : Run.firstFailure r xs = .error error) (he : error.isInapplicable = false) :
    ∃ x ∈ xs, ∃ name err, x.subject = .header name ∧ ¬ Text.IsAscii name ∧
      error = .headerName err := by
  -- The induction is on the expectations up to the first that cannot be held.
  induction xs with
  | nil => cases h
  | cons x xs ih =>
    rcases bind_eq_error.1 h with hcheck | ⟨v, -, h⟩
    · refine ⟨x, List.mem_cons_self, ?_⟩
      rcases Expectation.check_eq_error hcheck with
        ⟨-, hinapplicable⟩ | ⟨name, err, hsubject, hvalues, rfl⟩
      · rw [he] at hinapplicable
        cases hinapplicable
      · exact ⟨name, err, hsubject, Http.Fields.values_eq_error hvalues, rfl⟩
    · split at h
      · obtain ⟨y, hy, hname⟩ := ih h
        exact ⟨y, List.mem_cons_of_mem _ hy, hname⟩
      · cases h

/-- Nothing else breaks down serving a client. -/
theorem not_isFinding_runClient (h : (Run.runClient m a address c).1 = .error e)
    (he : e.isFinding = false) : BreaksDown a address m c e := by
  unfold Run.runClient at h
  split at h
  · next error m' hsend =>
    obtain rfl := Except.error.inj h
    exact .send (sendBreaksDown_of_send (congrArg Prod.fst hsend)
      (by simpa [RunError.isFinding] using he))
  · next received m' hsend =>
    rcases bind_eq_error.1 h with hresponse | ⟨r, -, h⟩
    · obtain ⟨fault, hfault, rfl⟩ := mapError_eq_error.1 hresponse
      obtain ⟨o, request, bs, hsent, hencoded, hbrought, hanswer⟩ :=
        Machine.send_eq_ok (congrArg Prod.fst hsend)
      rcases bind_eq_error.1 hfault with hread | ⟨body, -, hbody⟩
      · obtain ⟨htyped, hpresent⟩ := Http.TextReader.read_eq_error hread
        exact .text hsent hencoded hbrought hanswer htyped hpresent hread
      · cases hbody
    · rcases bind_eq_error.1 h with hcheck | ⟨v, -, h⟩
      · obtain ⟨error, herror, rfl⟩ := mapError_eq_error.1 hcheck
        obtain ⟨x, hx, name, err, hsubject, hascii, rfl⟩ :=
          not_isInapplicable_firstFailure herror he
        exact .headerName hx hsubject hascii
      · cases h

end Client

/-! ## The whole run -/

namespace Run

/-- The address that clients talk to. -/
def target (s : Script) (config : RunConfig) (m : Machine) : String :=
  match config.proxy with
  | some pc => Proxy.addressOn pc m
  | none => config.proxyAddress.getD (originAddress s config m)

/-- What breaks down a run. -/
inductive BreaksDown (s : Script) (config : RunConfig) (m : Machine) : RunError → Prop
  /-- The port of the origin does not exist. -/
  | originPort (port : config.originPort < 0 ∨ 65535 < config.originPort) :
      BreaksDown s config m (.origin .noSuchPort)
  /-- The proxy cannot be brought up. -/
  | proxy {pc : ProxyConfig} {e : ProxyError} (proxy : config.proxy = some pc)
      (broken : Proxy.BreaksDown pc { m with origin := originOf s config } e) :
      BreaksDown s config m (.proxy e)
  /-- A client cannot be served. -/
  | client {c : Client} {e : RunError} (client : c ∈ s.clients)
      (broken : c.BreaksDown (m.waiting config.requestTimeout) (target s config m)
        { m with origin := originOf s config } e) :
      BreaksDown s config m e

variable {s : Script} {config : RunConfig} {m : Machine} {e : RunError}

theorem BreaksDown.not_isFinding (h : BreaksDown s config m e) : e.isFinding = false := by
  cases h with
  | originPort _ => rfl
  | proxy _ hbroken => exact hbroken.not_isFinding
  | client _ hbroken => exact hbroken.not_isFinding

theorem not_isFinding_start {error : StartError}
    (h : (originOf s config).start m.busy m.originPort = .error error)
    (he : error.isFinding = false) :
    BreaksDown s config m (.origin error) := by
  rcases OriginServer.start_eq_error h with ⟨rfl, hrange⟩ | rfl
  · rw [originOf, OriginServer.requested_addAll] at hrange
    exact .originPort (by simpa using hrange)
  · cases he

theorem target_of_some {pc : ProxyConfig} (h : config.proxy = some pc) (s : Script)
    (m : Machine) : target s config m = Proxy.addressOn pc m := by
  rw [target, h]

theorem target_of_none (h : config.proxy = none) (s : Script) (m : Machine) :
    target s config m = config.proxyAddress.getD (originAddress s config m) := by
  rw [target, h]

/-- What is brought up is the target of the clients. -/
theorem bringUp_eq_ok {origin : OriginServer} {address : String}
    (hstart : (originOf s config).start m.busy m.originPort = .ok origin)
    (h : (bringUp config { m with origin }).1 = .ok address) : address = target s config m := by
  obtain ⟨rfl, -⟩ := OriginServer.start_eq_ok hstart
  unfold bringUp at h
  split at h
  · next pc hproxy =>
    rw [target_of_some hproxy]
    dsimp only at h
    split at h
    · cases h
    · next p m' hup =>
      obtain ⟨hconfig, hfree⟩ := Proxy.start_settings hup
      obtain rfl := Except.ok.inj h
      simp only [Proxy.addressOn, Proxy.address, Proxy.port, hconfig, hfree]
  · next hproxy =>
    rw [target_of_none hproxy]
    exact (Except.ok.inj h).symm

theorem not_isFinding_bringUp (h : (bringUp config m).1 = .error e) (he : e.isFinding = false) :
    ∃ pc err, config.proxy = some pc ∧ Proxy.BreaksDown pc m err ∧ e = .proxy err := by
  unfold bringUp at h
  split at h
  · next pc hproxy =>
    dsimp only at h
    split at h
    · next err p m' hup =>
      obtain rfl := Except.error.inj h
      exact ⟨pc, err, hproxy, Proxy.not_isFinding_start rfl hup he, rfl⟩
    · cases h
  · cases h

/-- Nothing else breaks down serving clients. -/
theorem not_isFinding_runTarget {origin : OriginServer}
    (hstart : (originOf s config).start m.busy m.originPort = .ok origin)
    (h : (runTarget s config { m with origin }).1 = .error e) (he : e.isFinding = false) :
    BreaksDown s config m e := by
  have hcovers : Machine.Covers { m with origin := originOf s config } { m with origin } := by
    obtain ⟨rfl, -⟩ := OriginServer.start_eq_ok hstart
    exact Machine.covers_of_eq rfl rfl rfl rfl rfl rfl
  have hup := Machine.indifferent_covers.bringUp config { m with origin }
  unfold runTarget at h
  split at h
  · next hbring =>
    obtain rfl := Except.error.inj h
    obtain ⟨pc, err, hproxy, hbroken, rfl⟩ := not_isFinding_bringUp (congrArg Prod.fst hbring) he
    exact .proxy hproxy (hbroken.mono hcovers)
  · next address proxy m₁ hbring =>
    rw [hbring] at hup
    obtain rfl := bringUp_eq_ok hstart (congrArg Prod.fst hbring)
    obtain ⟨c, hc, m', hm', herror⟩ := Machine.indifferent_covers.runClients_eq_error h
    have hbroken := Client.not_isFinding_runClient herror he
    rw [hup.waiting] at hbroken
    exact .client hc (hbroken.mono ((hcovers.trans hup).trans hm'))

/-- A run without a result has no origin, no target, or a client that is not served. -/
theorem run_eq_error (h : (run s config m).1 = .error e) :
    (∃ err, (originOf s config).start m.busy m.originPort = .error err ∧ e = .origin err) ∨
      ∃ origin, (originOf s config).start m.busy m.originPort = .ok origin ∧
        (runTarget s config { m with origin }).1 = .error e := by
  unfold run at h
  dsimp only at h
  split at h
  · next err hstart => exact .inl ⟨err, hstart, (Except.error.inj h).symm⟩
  · next origin hstart =>
    refine .inr ⟨origin, hstart, ?_⟩
    -- Tearing down does not change how the run ends.
    rcases htarget : runTarget s config { m with origin } with ⟨r, proxy, m₁⟩
    rw [htarget] at h
    cases r with
    | error err => exact congrArg _ (Except.error.inj h)
    | ok failure => cases h

/-- A run has a result, or it ends with an error, which is a finding exactly if nothing breaks the
run down. -/
theorem run_outcome (s : Script) (config : RunConfig) (m : Machine) :
    (∃ result, (run s config m).1 = .ok result) ∨
      ∃ e, (run s config m).1 = .error e ∧ (e.isFinding = false ↔ BreaksDown s config m e) := by
  cases hrun : (run s config m).1 with
  | ok result => exact .inl ⟨result, rfl⟩
  | error e =>
    refine .inr ⟨e, rfl, fun he => ?_, BreaksDown.not_isFinding⟩
    rcases run_eq_error hrun with ⟨err, hstart, rfl⟩ | ⟨origin, hstart, htarget⟩
    · exact not_isFinding_start hstart he
    · exact not_isFinding_runTarget hstart htarget he

/-- A client with a header that is not ASCII. -/
def cyrillicClient : Client := { name := "c", call := { headers := [("X", "Ж")] } }

/-- A header that is not ASCII is no finding about the request, but breaks the run down. -/
theorem run_header_not_ascii :
    ∃ e, (run ⟨[], [cyrillicClient]⟩ {} {}).1 = .error e ∧ e.isFinding = false ∧
      e.message = "'ascii' codec can't encode character '\\u0416' in position 0: "
        ++ "ordinal not in range(128)" := by
  have hrun : ((run ⟨[], [cyrillicClient]⟩ {} {}).1.map fun _ => ()).mapError
      (fun e => (e.isFinding, e.message)) = .error (false,
        "'ascii' codec can't encode character '\\u0416' in position 0: "
          ++ "ordinal not in range(128)") := by
    decide +kernel
  obtain ⟨e, he, heq⟩ := mapError_eq_error.1 hrun
  exact ⟨e, map_eq_error.1 he, congrArg Prod.fst heq, congrArg Prod.snd heq⟩

end Run

end ProxyTrial
