import ProxyTrial.Proofs.Files.Refusal
import ProxyTrial.Proofs.Origin.Remainder
import ProxyTrial.Proofs.Run.Answers
import ProxyTrial.Proofs.Run.Reply
import ProxyTrial.Proofs.Run.Simulation
import ProxyTrial.Proofs.Run.Verdict
/-!
# The target of the clients makes no difference

Clients talk to the origin, to a proxy that is started for them, or to an address that they are
given. A proxy that forwards its port to the origin comes up at the first question whether it is
ready, and the question leaves no trace at the origin; after it the clients have what they would
have from the origin itself. Only the URLs differ, and so a call may be too long for one of the
targets alone, or lead to a place that is.

## Main definitions

* `Proxy.Writable p m`: a run root can be made, and the files and the log of a proxy written there
* `bareRequest port path`: the request that asks a port for a path, and nothing else
* `Transparent s config pc m`: a proxy that comes up and forwards its port to the origin
* `report? r`: what a run reports

## Main results

* `converse_health`: the origin answers that it is up, and notes nothing
* `Proxy.start_eq`: a transparent proxy comes up
* `targets_agree`: a run has the same report with every target
* `long_url_through_proxy_alone`: a call that is too long for one of the targets
-/

namespace ProxyTrial

open Http (PlainField octetFields)

/-! ## A request for a path -/

/-- The call that asks for a path, and nothing else. -/
def bareCall (path : String) : Call := { target := path }

/-- The request that asks a port of this machine for a path. -/
def bareRequest (port : Nat) (path : String) : Outgoing :=
  Outgoing.plainRequest "127.0.0.1" port "GET" path none (bareCall path)

variable {port : Nat} {path : String}

theorem utf8_body_bareCall : Text.utf8 (bareCall path).body = [] := Text.utf8_empty

theorem targetOf_plainPath (h : Http.PlainPath path) : Outgoing.targetOf path = path := by
  obtain ⟨cs, hcs, -⟩ := h.head
  rw [Http.targetOf_eq, if_pos (by simp [hcs])]

theorem plainQuery_none : Http.PlainQuery none := by decide

theorem plainCall_bareCall (h : Http.PlainPath path) :
    Outgoing.PlainCall (bareCall path) "GET" path where
  method_known := by decide
  method_upper := show Outgoing.upperMethod? "GET" = some "GET" by decide
  target := ⟨path, none, rfl, plainQuery_none, (targetOf_plainPath h).symm⟩
  path_plain := h
  headers := ⟨List.forall_mem_nil _, List.nodup_nil, List.forall_mem_nil _⟩
  body := by
    rw [utf8_body_bareCall]
    decide

/-- Asking for a path makes a request unless the URL is too long. -/
theorem ofCall_bareCall (a : Agent) (h : Http.PlainPath path) (hport : port < Http.lengthLimit) :
    Outgoing.ofCall a (Outgoing.loopback port) (bareCall path) =
      if (Outgoing.urlOf (Outgoing.loopback port) path).length > Http.urlLimit then
        .error (.url .tooLong)
      else .ok (bareRequest port path) := by
  have ha : Http.IsAddress (Outgoing.loopback port) "127.0.0.1" port :=
    Outgoing.isAddress_loopback port hport
  have hcall := Outgoing.ofCall_plain a ha (plainCall_bareCall h) rfl plainQuery_none
    (targetOf_plainPath h).symm
  rw [Outgoing.hostFault?_loopback, Outgoing.lower_loopback] at hcall
  exact hcall

theorem fitsOrigin_bareRequest (h : Http.PlainPath path) (hport : port < Http.lengthLimit)
    (hlength : path.length + 15 ≤ Http.lineLimit) : (bareRequest port path).FitsOrigin := by
  -- The call has no headers of its own, so the fields are the host and what every client sends.
  have hfields : (bareRequest port path).fields =
      octetFields (("Host", Outgoing.hostAt port) :: Outgoing.standingHeaders) := by
    have hlocation := Outgoing.location_urlAt port (Http.withQuery path none).toList
    rw [Outgoing.urlAt, Http.onHost_withQuery h plainQuery_none] at hlocation
    rw [← hlocation]
    show octetFields (Outgoing.sentHeaders _ "GET" (Text.utf8 (bareCall path).body).length []) = _
    rw [utf8_body_bareCall]
    rfl
  refine ⟨?_, ?_, ?_⟩
  · rw [bareRequest, Outgoing.plainRequest, Outgoing.target_plainUrl h]
    show (Http.requestLine "GET" path).length ≤ _
    -- The path stands between four characters and eleven, of which fifteen are left free.
    have hmethod : "GET".length + " ".length = 4 := by decide
    have hversion : " HTTP/1.1".length + "\r\n".length = 11 := by decide
    rw [Http.requestLine, Http.requestText]
    simp only [String.length_append]
    omega
  · have hstanding : ∀ f ∈ octetFields Outgoing.standingHeaders,
        f.1.length + f.2.length + 4 ≤ Http.lineLimit := by decide
    have hfits := (Outgoing.plainHost_hostAt hport).fits
    rw [hfields, Http.octetFields_cons, List.forall_mem_cons]
    refine ⟨?_, hstanding⟩
    have hname : (Text.ascii "Host").length = 4 := by decide
    have hvalue : (Text.ascii (Outgoing.hostAt port)).length = (Outgoing.hostAt port).length := by
      rw [Text.ascii, List.length_map, String.length_toList]
    simp only [hname, hvalue]
    omega
  · rw [hfields, octetFields, List.length_map]
    show 5 < Http.sectionLimit
    decide

namespace Origin

theorem failures_sendReply (h : Http.Head) (sent : Bytes) (failures : List String) (r : Reply)
    (rest : Bytes) : (sendReply h sent failures r rest).failures = failures := by
  unfold sendReply
  split <;> rfl

/-- A path for which the origin has a reply, and nothing to note: the reply comes back. -/
theorem converse_bareRequest (a : Agent) {t : Table} {reply : Reply} (h : Http.PlainPath path)
    (hport : port < Http.lengthLimit) (hlength : path.length + 15 ≤ Http.lineLimit)
    (hrespond : ∀ fields, respond t ⟨"GET", path, fields, ""⟩ = ([], .ok reply))
    (hreply : PlainReply reply) (hplace : redirectPlace? reply = none) :
    ∃ request, (bareRequest port path).encode = .ok request ∧ (converse t request).failures = [] ∧
      (bareRequest port path).answer a (converse t request).sent = .ok (receivedReply reply) := by
  have hhost : ∀ c ∈ "127.0.0.1".toList, Http.isHostChar c :=
    List.all_iff_forall_prop.1 (by decide)
  have hencode := Outgoing.encode_plainRequest hhost (plainCall_bareCall h) port none
  have hturn := turn_plainRequest (t := t) hhost (plainCall_bareCall h) plainQuery_none
    (fitsOrigin_bareRequest h hport hlength) (hrespond _)
  -- Of the request as it is sent only the method matters, and that it is no bare one.
  generalize hq : Outgoing.asQuery "GET" (Http.withQuery path none) _ _ = q at hencode hturn
  have hhead : q.head.method = "GET" ∧ q.head.bare = false := hq ▸ ⟨rfl, rfl⟩
  obtain ⟨more, hsent⟩ := exists_sent_of_turn hturn hreply (by rw [hhead.1]; decide) hhead.2
  refine ⟨_, hencode, ?_, ?_⟩
  · -- The request takes all octets, so that its turn is followed by an empty one, if by any.
    have hfailures : (turn t q.octets).failures = [] := by rw [hturn, failures_sendReply]
    cases hrest : (turn t q.octets).rest with
    | none => rw [converse_of_rest_none hrest, hfailures]
    | some rest =>
      obtain rfl : rest = [] := rest_sendReply (hturn ▸ hrest)
      rw [converse_of_rest_some hrest, hfailures, converse_of_rest_none (by rw [turn_nil]),
        turn_nil]
      rfl
  · have hanswer := hreply.answer_eq (a := a) (o := bareRequest port path)
      (show "GET" ≠ "HEAD" by decide)
      (show "GET" ≠ "CONNECT" by decide) q.head more
    rw [checkPlace, hplace] at hanswer
    rw [hsent]
    exact hanswer

end Origin

/-! ## The question whether the origin is up -/

/-- The reply that the origin is up. -/
def healthReply : Reply := { body := "UP!" }

theorem plainPath_healthPath : Http.PlainPath Origin.healthPath :=
  ⟨⟨"httpTesterInternalCheck".toList, by decide, by decide⟩,
    List.all_iff_forall_prop.1 (by decide), by decide⟩

theorem plainReply_healthReply : PlainReply healthReply where
  status := by decide
  carriesBody := by decide
  plain := by decide
  distinct := by decide
  unframed := by decide
  body := by
    rw [Text.utf8_eq_flatMap]
    decide

/-- The origin answers that it is up, and notes nothing. -/
theorem Origin.converse_health (a : Agent) (t : Table) (h : port < Http.lengthLimit) :
    ∃ request, (bareRequest port healthPath).encode = .ok request ∧
      (converse t request).failures = [] ∧
      (bareRequest port healthPath).answer a (converse t request).sent =
        .ok (receivedReply healthReply) :=
  converse_bareRequest a plainPath_healthPath h (by decide) (fun _ => rfl)
    plainReply_healthReply rfl

theorem ofUrl_health (a : Agent) (h : port < Http.lengthLimit) :
    Outgoing.ofUrl a ("http://" ++ Outgoing.loopback port ++ Origin.healthPath) "GET" [] [] =
      .ok (bareRequest port Origin.healthPath) := by
  have hcall := ofCall_bareCall a plainPath_healthPath h
  have htarget : Outgoing.targetOf Origin.healthPath = Origin.healthPath :=
    targetOf_plainPath plainPath_healthPath
  have hfits : ¬ (Outgoing.urlOf (Outgoing.loopback port) Origin.healthPath).length >
      Http.urlLimit := by
    have haddress := Outgoing.length_loopback_le h
    have hscheme : "http://".length = 7 := by decide
    have hlength : Origin.healthPath.length = 24 := by decide
    have hlimit : Http.urlLimit = 65536 := rfl
    rw [Outgoing.urlOf, String.length_append, String.length_append, htarget]
    omega
  rw [if_neg hfits, Outgoing.ofCall, utf8_body_bareCall, Outgoing.urlOf] at hcall
  exact htarget ▸ hcall

/-! ## Bringing up a proxy -/

theorem Machine.spawn_of_lives {m : Machine} (h : m.spawning = .lives) {command : List String}
    (hcommand : ∀ argument ∈ command, '\x00' ∉ argument.toList) (port : Int) :
    m.spawn command port =
      (.ok m.processes.length, { m with processes := m.processes ++ [⟨port, true⟩] }) := by
  rw [Machine.spawn, if_neg (by simpa using hcommand), h]
  rfl

/-- A process passes on what comes to its port, unless the origin listens there itself. -/
theorem Machine.reaches_of_process {m : Machine} {port bound : Int}
    (hprobes : Machine.takeProbe port m.probes = none) (hbound : m.origin.bound = some bound)
    (hne : port ≠ bound) (hprocess : ⟨port, true⟩ ∈ m.processes) : m.Reaches port := by
  have hother : (m.origin.bound == some port) = false := by
    rw [hbound]
    simpa using Ne.symm hne
  have hserved : (m.processes.any fun q => q.alive && q.port == port) = true :=
    List.any_eq_true.2 ⟨_, hprocess, by simp⟩
  refine ⟨hprobes, ?_⟩
  rw [Machine.listener?, hother, hserved, hbound]
  rfl

/-- The question reaches the origin and leaves no trace there. -/
theorem Machine.Reaches.ask_health {m : Machine} {a : Agent} (h : m.Reaches port)
    (hport : port ≤ 65535) (hwait : a.sockets.wait? a.timeout = none) :
    ∃ m', Wait.ask m a ("http://" ++ Outgoing.loopback port ++ Origin.healthPath) =
        (.ok (some 200), m') ∧ m'.origin = m.origin ∧ m'.Reaches port := by
  have hsent : (bareRequest port Origin.healthPath).port = port := Outgoing.port_of_url rfl rfl
  have hlimit := Machine.lt_lengthLimit_of_le hport
  obtain ⟨request, hencode, hfailures, hanswer⟩ := Origin.converse_health a m.origin.handlers hlimit
  refine ⟨(m.reply .origin request).2, ?_, ?_, h.reply request⟩
  · have hsocket : a.socketFault? (bareRequest port Origin.healthPath).url.host
        (bareRequest port Origin.healthPath).port = none := by
      rw [hsent]
      exact (Machine.socketFault?_loopback a hport).trans hwait
    have hexchange := Machine.Reaches.exchange (hsent ▸ h) hsocket
    rw [hencode] at hexchange
    have hanswered : (bareRequest port Origin.healthPath).answer a
        (m.origin.accept request).1.sent =
        .ok (receivedReply healthReply) := hanswer
    rw [Wait.ask, ofUrl_health a hlimit]
    unfold Machine.send
    simp only [hexchange, hanswered]
    rfl
  · show { m.origin with
        failures := m.origin.failures ++
          (Origin.converse m.origin.handlers request).failures } = m.origin
    rw [hfailures, List.append_nil]

namespace Proxy

/-- A run root can be made, and the files of a proxy and its log can be written there. -/
def Writable (p : Proxy) (m : Machine) : Prop :=
  let root := (makeRoot m).1
  m.noRoot = none ∧ ∃ files files',
    writeFiles { p with root := some root } root (makeRoot m).2.files p.config.files =
    (.ok (), files) ∧ files.write (logFile root) [] = .ok files'

variable {p : Proxy} {m : Machine}

theorem awaitReady_eq (hready : p.config.readyPath = Origin.healthPath) (hp : p.port = port)
    (hport : port ≤ 65535) (h : m.Reaches port) :
    ∃ m', p.awaitReady m = (.ok (), m') ∧ m'.origin = m.origin ∧ m'.Reaches port := by
  have haddress : p.address = Outgoing.loopback port := by
    rw [address, hp]
    rfl
  have hpaused : (m.sleep pause).Reaches port := ⟨h.unscripted, h.listener⟩
  -- A question is given up after a second, which can be waited for.
  obtain ⟨m', hask, horigin, hreaches⟩ := hpaused.ask_health
    (a := (m.sleep pause).waiting (pause * 5.0)) hport m.agent.sockets.second
  refine ⟨m', ?_, horigin, hreaches⟩
  have hwait := Wait.waitForGet_of_ready (s := ⟨m, 0, ()⟩) hask p.readyTimeout
    fun m _ => (p.process.any m.isAlive, ())
  rw [awaitReady, hready, haddress]
  simp only [hwait]

/-- A command without null characters is spawned if the log can be written and processes live. -/
theorem spawn_eq {root : Path} {files : FileSystem} (hroot : ∀ r ∈ p.root, r.NullFree)
    (hcommand : ∀ argument ∈ p.config.command, '\x00' ∉ argument.toList)
    (hlog : m.files.write (logFile root) [] = .ok files) (hlives : m.spawning = .lives) :
    p.spawn root m = (.ok (),
      { p with
        attempt := some ⟨p.config.command.map p.render, root⟩
        process := some m.processes.length },
      { m with files, processes := m.processes ++ [⟨p.port, true⟩] }) := by
  have hrendered : ∀ argument ∈ p.config.command.map p.render, '\x00' ∉ argument.toList := by
    intro argument hargument
    obtain ⟨template, htemplate, rfl⟩ := List.mem_map.1 hargument
    exact notMem_render hroot (hcommand template htemplate)
  have hprocess : ({ m with files } : Machine).spawn (p.config.command.map p.render) p.port = _ :=
    Machine.spawn_of_lives (m := { m with files }) hlives hrendered p.port
  rw [spawn]
  simp only [hlog]
  -- The process lives, so the places where it failed to spawn are not reached.
  split
  · next hfailed => cases hprocess.symm.trans hfailed
  · next hfailed => cases hprocess.symm.trans hfailed
  · next hspawned =>
    cases hprocess.symm.trans hspawned
    rfl

/-- A proxy comes up if its files can be written, its process lives and nothing is in its way. -/
theorem start_eq (hready : p.config.readyPath = Origin.healthPath) (hp : p.port = port)
    (hport : port ≤ 65535) (hwritable : p.Writable m) (hlives : m.spawning = .lives)
    (hcommand : ∀ argument ∈ p.config.command, '\x00' ∉ argument.toList)
    (hprobes : Machine.takeProbe port m.probes = none) {bound : Int}
    (hbound : m.origin.bound = some bound) (hne : p.port ≠ bound) :
    ∃ p' m', p.start m = (.ok (), p', m') ∧ p'.address = p.address ∧ m'.origin = m.origin ∧
      m'.Reaches port := by
  obtain ⟨hnone, files, files', hfiles, hlog⟩ := hwritable
  rcases hroot : makeRoot m with ⟨root, m₁⟩
  rw [hroot] at hfiles hlog
  have hm₁ : m₁.origin = m.origin ∧ m₁.probes = m.probes ∧ m₁.spawning = .lives := by
    cases hroot
    exact ⟨rfl, rfl, hlives⟩
  have hnull : ∀ r ∈ some root, r.NullFree := fun r hr =>
    Option.some.inj hr ▸ nullFree_makeRoot hroot
  let p₁ : Proxy := { p with root := some root }
  let p₂ : Proxy := { p₁ with
    attempt := some ⟨p₁.config.command.map p₁.render, root⟩, process := some m₁.processes.length }
  let m₂ : Machine := { m₁ with files := files', processes := m₁.processes ++ [⟨p.port, true⟩] }
  have hspawn : p₁.spawn root { m₁ with files } = (.ok (), p₂, m₂) :=
    spawn_eq hnull hcommand hlog hm₁.2.2
  -- The process is the only one to answer at its port, since the origin listens elsewhere.
  have hreaches : m₂.Reaches p.port :=
    Machine.reaches_of_process (hm₁.2.1 ▸ hp ▸ hprobes) (hm₁.1 ▸ hbound) hne List.mem_concat_self
  obtain ⟨m', hup, horigin, hstill⟩ := awaitReady_eq (p := p₂) hready hp hport (hp ▸ hreaches)
  refine ⟨p₂, m', ?_, rfl, horigin.trans hm₁.1, hstill⟩
  rw [start, hnone, hroot]
  show p.startIn root m₁ = _
  rw [startIn]
  simp only [hfiles]
  split
  · next hspawn' => cases hspawn.symm.trans hspawn'
  · next hspawn' =>
    cases hspawn.symm.trans hspawn'
    simp only [hup]

end Proxy

/-! ## The origin of a run -/

namespace OriginServer

theorem start_eq_ok {o origin : OriginServer} {busy : List Int} {free : FreePort}
    (h : o.start busy free = .ok origin) :
    origin = { o with bound := some (o.wanted free) } ∧ 0 ≤ o.wanted free ∧
      o.wanted free ≤ 65535 := by
  obtain ⟨⟨hlow, hhigh⟩, -, -, rfl⟩ := start_eq_ok_iff.1 h
  have hfree := free.isPort
  refine ⟨rfl, ?_⟩
  rw [wanted]
  split <;> omega

/-- The handlers of the origin are handlers of the script. -/
theorem mem_of_mem_addAll {s : Script} {o : OriginServer} {h : Handler}
    (hh : h ∈ (o.addAll s).handlers) : h ∈ o.handlers ∨ h ∈ s.handlers := by
  -- The handlers are added one by one, so the induction is over what is left to add.
  suffices ∀ (hs : List Handler) (o : OriginServer),
      h ∈ (hs.foldl add o).handlers → h ∈ o.handlers ∨ h ∈ hs from this s.handlers o hh
  intro hs
  induction hs with
  | nil => exact fun o hh => .inl hh
  | cons g hs ih =>
    intro o hh
    rcases ih (o.add g) hh with hadd | hmem
    · rcases Origin.Table.mem_insert.1 hadd with rfl | ⟨hold, -⟩
      · exact .inr List.mem_cons_self
      · exact .inl hold
    · exact .inr (List.mem_cons_of_mem _ hmem)

theorem requested_addAll (o : OriginServer) (s : Script) :
    (o.addAll s).requested = o.requested := by
  obtain ⟨t, ht⟩ := o.exists_addAll s
  rw [ht]

end OriginServer

/-! ## Runs -/

namespace Run

/-- What a run reports, if it has a result: whether it has passed, and the failures. -/
def report? (r : Except RunError RunResult) : Option (Bool × List RunFailure) :=
  r.toOption.map fun result => (result.passed, result.failures)

/-- The proxy of a run before it is started. -/
def proxyOf (s : Script) (config : RunConfig) (pc : ProxyConfig) (m : Machine) : Proxy where
  config := pc
  originPort := (originOf s config).wanted m.originPort
  readyTimeout := config.readyTimeout
  free := m.proxyPort

/-- A proxy that comes up and forwards its port to the origin: it asks at the path of the origin
whether it is ready, its files and its log can be written, its command can be spawned and lives, its
port is not that of the origin, and the machine has no scripted outcomes for connections to
either. -/
structure Transparent (s : Script) (config : RunConfig) (pc : ProxyConfig)
    (m : Machine) : Prop where
  ready : pc.readyPath = Origin.healthPath
  range : 0 ≤ pc.port ∧ pc.port ≤ 65535
  apart : (proxyOf s config pc m).port ≠ (originOf s config).wanted m.originPort
  writable : (proxyOf s config pc m).Writable m
  command : ∀ argument ∈ pc.command, '\x00' ∉ argument.toList
  lives : m.spawning = .lives
  unscripted : ∀ port ∈ [(proxyOf s config pc m).port, (originOf s config).wanted m.originPort],
    Machine.takeProbe port m.probes = none

variable {s : Script} {config : RunConfig} {pc : ProxyConfig} {m : Machine}

theorem toOption_map {ε α β : Type} (f : α → β) (r : Except ε α) :
    (r.map f).toOption = r.toOption.map f := by
  cases r <;> rfl

theorem report?_congr {r r' : Except RunError RunResult}
    (h : (r.map (·.failures)).toOption = (r'.map (·.failures)).toOption) :
    report? r = report? r' := by
  have hreport : ∀ r : Except RunError RunResult, report? r =
      (r.map (·.failures)).toOption.map fun failures => (failures.isEmpty, failures) := by
    intro r
    cases r <;> rfl
  rw [hreport, hreport, h]

/-- A run has the same target when it is given the address of the origin. -/
theorem run_originAddress {origin : OriginServer}
    (hstart : (originOf s config).start m.busy m.originPort = .ok origin) :
    run s { config with proxy := none, proxyAddress := some origin.address } m =
      run s { config with proxy := none, proxyAddress := none } m := by
  have hsame : ∀ proxyAddress,
      originOf s { config with proxy := none, proxyAddress } = originOf s config := fun _ => rfl
  have hup : bringUp { config with proxy := none, proxyAddress := some origin.address }
      { m with origin } =
        bringUp { config with proxy := none, proxyAddress := none } { m with origin } := rfl
  rw [run, run, hsame, hsame, hstart]
  simp only [runTarget, hup]

/-- The address of the origin of a run. -/
def originAddress (s : Script) (config : RunConfig) (m : Machine) : String :=
  s!"127.0.0.1:{(originOf s config).wanted m.originPort}"

theorem Transparent.exists_port (h : Transparent s config pc m) :
    ∃ port : Nat, (proxyOf s config pc m).port = port ∧ port ≤ 65535 := by
  have hport : (proxyOf s config pc m).port =
    if pc.port = 0 then m.proxyPort.number else pc.port := rfl
  have hrange := h.range
  have hfree := m.proxyPort.isPort
  refine ⟨(proxyOf s config pc m).port.toNat, ?_⟩
  rw [hport]
  split <;> omega

/-- A transparent proxy comes up, and the questions whether it is ready change nothing about the
origin. -/
theorem Transparent.bringUp_eq (h : Transparent s config pc m) {origin : OriginServer}
    (hstart : (originOf s config).start m.busy m.originPort = .ok origin) {port : Nat}
    (hport : (proxyOf s config pc m).port = port) (hlimit : port ≤ 65535) :
    ∃ p m₁, bringUp { config with proxy := some pc, proxyAddress := none } { m with origin } =
        (.ok (Outgoing.loopback port), some p, m₁) ∧
      m₁.origin = origin ∧ m₁.agent = m.agent ∧ m₁.Reaches port := by
  obtain ⟨rfl, -⟩ := OriginServer.start_eq_ok hstart
  obtain ⟨p', m₁, hup, haddress, horigin, hreaches⟩ := Proxy.start_eq
    (m := { m with origin :=
      { originOf s config with bound := some ((originOf s config).wanted m.originPort) } })
    h.ready hport hlimit h.writable h.lives h.command (hport ▸ h.unscripted _ List.mem_cons_self)
    rfl h.apart
  have hloopback : p'.address = Outgoing.loopback port := by
    rw [haddress, Proxy.address, hport]
    rfl
  have hagent := (Machine.indifferent_covers.start hup).agent
  refine ⟨p', m₁, ?_, horigin, hagent, hreaches⟩
  rw [← hloopback]
  unfold bringUp
  simp only
  split
  · next hup' => cases hup.symm.trans hup'
  · next hup' =>
    cases hup.symm.trans hup'
    rfl

/-- The handlers of the origin do not ask for the host if those of the script do not. -/
theorem ignoresHost_of_start {origin : OriginServer}
    (hstart : (originOf s config).start m.busy m.originPort = .ok origin)
    (h : Origin.IgnoresHost s.handlers) : Origin.IgnoresHost origin.handlers := by
  obtain ⟨rfl, -⟩ := OriginServer.start_eq_ok hstart
  intro g hg
  rcases OriginServer.mem_of_mem_addAll hg with hnone | hmem
  · exact absurd hnone List.not_mem_nil
  · exact h g hmem

/-- Clients have the same report through a transparent proxy as from the origin itself, and as at
the address of the origin: the same runs have a result, and it has the same failures. The questions
whether the proxy is ready leave the origin as it was. A call that leads to a URL which is too long
for one of the targets alone is the exception, and one that is sent on with cookies which can go to
one of them alone. -/
theorem targets_agree (h : Transparent s config pc m)
    (hhost : Origin.IgnoresHost s.handlers ∨ ∀ c ∈ s.clients, c.call.SetsHost)
    (hlimit : ∀ c ∈ s.clients, c.call.FitsAlike (m.waiting config.requestTimeout)
      (originOf s config).handlers (proxyOf s config pc m).address (originAddress s config m)) :
    let direct := { config with proxy := none, proxyAddress := none }
    let proxied := { config with proxy := some pc, proxyAddress := none }
    let addressed := { config with proxy := none, proxyAddress := some (originAddress s config m) }
    report? (run s proxied m).1 = report? (run s direct m).1 ∧
      report? (run s addressed m).1 = report? (run s direct m).1 ∧
      ∀ origin, (originOf s config).start m.busy m.originPort = .ok origin →
        ∃ address p m₁, bringUp proxied { m with origin } = (.ok address, some p, m₁) ∧
          m₁.origin = origin := by
  intro direct proxied addressed
  cases hstart : (originOf s config).start m.busy m.originPort with
  | error e =>
    -- Without an origin no run has a result, whatever its target.
    have herror : ∀ config', originOf s config' = originOf s config →
        report? (run s config' m).1 = none := by
      intro config' hsame
      rw [run, hsame, hstart]
      rfl
    refine ⟨?_, ?_, ?_⟩
    · rw [herror proxied rfl, herror direct rfl]
    · rw [herror addressed rfl, herror direct rfl]
    · intro origin horigin
      cases horigin
  | ok origin =>
    obtain ⟨horigin, hlow, hhigh⟩ := OriginServer.start_eq_ok hstart
    obtain ⟨port, hport, hbelow⟩ := h.exists_port
    obtain ⟨port', hport'⟩ : ∃ port : Nat, (originOf s config).wanted m.originPort = port :=
      ⟨_, (Int.toNat_of_nonneg hlow).symm⟩
    -- Both ports are in range, and their addresses are those of the loopback.
    have hbelow' : port' ≤ 65535 := by omega
    have haddresses : (proxyOf s config pc m).address = Outgoing.loopback port ∧
        originAddress s config m = Outgoing.loopback port' := by
      rw [Proxy.address, hport, originAddress, hport']
      exact ⟨rfl, rfl⟩
    have haddress : origin.address = originAddress s config m := by
      rw [horigin]
      rfl
    obtain ⟨p, m₁, hup, hsame, hagent, hreaches⟩ := h.bringUp_eq hstart hport hbelow
    have hwaiting : m₁.waiting config.requestTimeout = m.waiting config.requestTimeout := by
      rw [Machine.waiting, hagent, Machine.waiting]
    refine ⟨?_, ?_, ?_⟩
    · have hup' : bringUp direct { m with origin } =
          (.ok (Outgoing.loopback port'), none, { m with origin }) := by
        rw [← haddresses.2, ← haddress]
        rfl
      -- The origin is reached at its own port, and the same origin through the proxy.
      have htwins : Machine.Twins port port' m₁ { m with origin } := by
        refine ⟨hsame, hreaches, hport' ▸ h.unscripted _ (by simp), ?_⟩
        have hbound : origin.bound = some (port' : Int) := by rw [horigin, hport']
        rw [Machine.listener?, hbound, beq_self_eq_true, if_pos rfl]
      have hblind : Origin.IgnoresHost m₁.origin.handlers ∨ ∀ c ∈ s.clients, c.call.SetsHost :=
        hhost.imp_left fun h => hsame ▸ ignoresHost_of_start hstart h
      have hhandlers : m₁.origin.handlers = (originOf s config).handlers := by rw [hsame, horigin]
      rw [haddresses.1, haddresses.2, ← hhandlers] at hlimit
      obtain ⟨hresult, htwins'⟩ := htwins.runClients hbelow hbelow' hblind hlimit
      rcases hproxied : runClients m₁ (m.waiting config.requestTimeout) (Outgoing.loopback port)
        s.clients with ⟨r, m₂⟩
      rcases hdirect : runClients { m with origin } (m.waiting config.requestTimeout)
        (Outgoing.loopback port') s.clients with ⟨r', m₂'⟩
      rw [hproxied, hdirect] at hresult htwins'
      rw [← hwaiting] at hproxied
      have hstarts : (originOf s proxied).start m.busy m.originPort = .ok origin ∧
          (originOf s direct).start m.busy m.originPort = .ok origin := ⟨hstart, hstart⟩
      have hrun := (run_of_runClients hstarts.1 hup hproxied).1
      have hrun' := (run_of_runClients hstarts.2 hup' hdirect).1
      refine report?_congr ?_
      rw [hrun, hrun', originFailures, originFailures, htwins'.origin, toOption_map, toOption_map,
        hresult]
    · -- The address is that of the started origin, where clients go without a target as well.
      show report? (run s addressed m).1 = _
      rw [show addressed = { config with proxy := none, proxyAddress := some origin.address } by
        rw [haddress], run_originAddress hstart]
    · intro origin' hstart'
      cases hstart'
      exact ⟨_, p, m₁, hup, hsame⟩

/-- A command without files on a machine with nothing on it is a transparent proxy, if its port is
not that of the origin. -/
theorem transparent_of_port {port : Int} (h : 0 ≤ port ∧ port ≤ 65535)
    (hne : (if port = 0 then 41000 else port) ≠ 40000) (s : Script) :
    Transparent s {} { command := ["proxy"], port } {} where
  ready := rfl
  range := h
  apart := by
    rw [OriginServer.wanted, originOf, OriginServer.requested_addAll]
    exact hne
  writable := ⟨rfl, _, _, rfl, rfl⟩
  command := List.forall_mem_singleton.2 (by decide)
  lives := rfl
  unscripted := fun _ _ => rfl

/-- The handler of `/` has the requests of clients only, and its expectation fails once at each
target. -/
theorem targets_agree_failing_root :
    let never : Expectation := ⟨.request, .method, .equal, "PUT", "req.method eq \"PUT\""⟩
    let s : Script := ⟨[{ path := "/", expectations := [never] }], [{ name := "c" }]⟩
    let pc : ProxyConfig := { command := ["proxy"], port := 8080 }
    Transparent s {} pc {} ∧ Origin.IgnoresHost s.handlers ∧
      (report? (run s {} {}).1).map (fun r => (r.1, r.2.map (·.source))) =
        some (false, ["origin"]) ∧
      report? (run s { proxy := some pc } {}).1 = report? (run s {} {}).1 ∧
      report? (run s { proxyAddress := some (originAddress s {} {}) } {}).1 =
        report? (run s {} {}).1 := by
  intro never s pc
  have htransparent : Transparent s {} pc {} := transparent_of_port (by decide) (by decide) s
  have hignores : Origin.IgnoresHost s.handlers := by
    intro h hh e he
    obtain rfl := List.mem_singleton.1 hh
    obtain rfl := List.mem_singleton.1 he
    rintro ⟨name, hname, -⟩
    cases hname
  have hfits : ∀ c ∈ s.clients, c.call.FitsAlike (({} : Machine).waiting 10.0)
      (originOf s {}).handlers (proxyOf s {} pc {}).address (originAddress s {} {}) := by
    intro c hc
    obtain rfl := List.mem_singleton.1 hc
    refine ⟨iff_of_true (by decide) (by decide), fun o _ fs place ho _ hplace => ?_⟩
    -- The reply does not redirect.
    have hnone : (Outgoing.ofCall (({} : Machine).waiting 10.0)
        (proxyOf s {} pc {}).address {}).toOption.bind
        (·.redirectedTo? (originOf s {}).handlers) = none := by decide +kernel
    rw [ho] at hnone
    cases hplace.symm.trans hnone
  obtain ⟨hproxied, haddressed, -⟩ := targets_agree htransparent (.inl hignores) hfits
  exact ⟨htransparent, hignores, by decide +kernel, hproxied, haddressed⟩

/-! ## A call that is too long for one target -/

/-- The reply to a path without a handler. -/
def notFound : Reply := { status := 404, body := "Not Found" }

theorem plainReply_notFound : PlainReply notFound where
  status := by decide
  carriesBody := by decide
  plain := by decide
  distinct := by decide
  unframed := by decide
  body := by
    rw [Text.utf8_eq_flatMap]
    decide

variable {port : Nat} {path : String}

/-- A client that asks an origin without handlers for a path is served, and nothing is noted. -/
theorem exists_serves_bareCall {a : Agent} (hsocket : a.socketFault? "127.0.0.1" port = none)
    (hm : m.origin.handlers = []) (h : m.Reaches port) (hport : port < Http.lengthLimit)
    (hpath : Http.PlainPath path) (hne : path ≠ Origin.healthPath)
    (hfits : (bareCall path).FitsUrl (Outgoing.loopback port))
    (hlength : path.length + 15 ≤ Http.lineLimit) (name : String) :
    ∃ (x : Service) (m' : Machine), x.client = { name, call := bareCall path } ∧
      Serves a (Outgoing.loopback port) m x m' ∧ m'.origin.failures = m.origin.failures := by
  have hrespond : ∀ fields, Origin.respond m.origin.handlers ⟨"GET", path, fields, ""⟩ =
      ([], .ok notFound) := by
    intro fields
    rw [hm, Origin.respond, if_neg (by simpa using hne)]
    rfl
  obtain ⟨request, hencode, hfailures, hanswer⟩ :=
    Origin.converse_bareRequest a hpath hport hlength hrespond plainReply_notFound rfl
  have hcall := ofCall_bareCall a hpath hport
  have hshort : ¬ (Outgoing.urlOf (Outgoing.loopback port) path).length > Http.urlLimit :=
    Nat.not_lt.2 hfits
  rw [if_neg hshort] at hcall
  have hsent : (bareRequest port path).port = port := Outgoing.port_of_url rfl rfl
  have hconnect : m.connect a (bareRequest port path) = (.ok .origin, m) := by
    refine Machine.Reaches.connect (hsent ▸ h) ?_
    rw [hsent]
    exact hsocket
  refine ⟨⟨_, ⟨request, .origin⟩, _⟩, _, rfl, ⟨_, m, _, hcall, hencode, hconnect,
    hanswer, plainReply_notFound.response_eq a, rfl⟩, ?_⟩
  show m.origin.failures ++ (Origin.converse m.origin.handlers request).failures = _
  rw [hfailures, List.append_nil]

theorem report?_of_failures {r : Except RunError RunResult} {failures : List RunFailure}
    (h : r.map (·.failures) = .ok failures) : report? r = some (failures.isEmpty, failures) := by
  cases r with
  | error e => cases h
  | ok result =>
    cases h
    rfl

/-- Such a client alone makes a run that passes, through a proxy that forwards its port. -/
theorem report?_bareCall (hpath : Http.PlainPath path) (hne : path ≠ Origin.healthPath)
    (hlength : path.length + 15 ≤ Http.lineLimit) {name : String} {s : Script}
    (hs : s = ⟨[], [{ name, call := bareCall path }]⟩) (h : Transparent s {} pc {})
    (hport : (proxyOf s {} pc {}).port = port) (hlimit : port ≤ 65535)
    (hfits : (bareCall path).FitsUrl (Outgoing.loopback port)) :
    report? (run s { proxy := some pc } {}).1 = some (true, []) := by
  subst hs
  obtain ⟨p, m₁, hup, horigin, hagent, hreaches⟩ := h.bringUp_eq (m := {}) rfl hport hlimit
  have hsocket : (m₁.waiting 10.0).socketFault? "127.0.0.1" port = none := by
    rw [Machine.waiting, hagent]
    rfl
  obtain ⟨x, m', hx, hserves, hnoted⟩ := exists_serves_bareCall hsocket
    (show m₁.origin.handlers = [] by rw [horigin]; rfl) hreaches
    (Machine.lt_lengthLimit_of_le hlimit) hpath hne hfits hlength name
  -- The client has nothing to expect of the reply, so that it is content with any.
  have hclients : runClients m₁ (m₁.waiting 10.0) (Outgoing.loopback port)
      [{ name, call := bareCall path }] = (.ok none, m') := by
    have hholds : x.Holds := by
      rw [Service.Holds, hx]
      exact List.forall_mem_nil _
    rw [← hx, runClients, hserves.runClient_of_holds hholds]
    rfl
  have hfailures : originFailures m' = [] := by
    rw [originFailures, hnoted, horigin]
    rfl
  have hrun := (run_of_runClients (s := ⟨[], [{ name, call := bareCall path }]⟩) (m := {}) rfl hup
    hclients).1
  rw [hfailures] at hrun
  exact report?_of_failures hrun

/-- A call whose URL is too long at the origin leaves a run without a result. -/
theorem report?_of_tooLong (hpath : Http.PlainPath path) {name : String} {s : Script}
    (hs : s = ⟨[], [{ name, call := bareCall path }]⟩)
    (hlong : ¬ (bareCall path).FitsUrl (Outgoing.loopback 40000)) :
    report? (run s {} {}).1 = none := by
  subst hs
  have hcall := fun a => ofCall_bareCall a hpath (show 40000 < Http.lengthLimit by decide)
  have hurl : (Outgoing.urlOf (Outgoing.loopback 40000) path).length > Http.urlLimit :=
    Nat.lt_of_not_le hlong
  simp only [if_pos hurl] at hcall
  -- The request is not made, so nothing is sent and the machine stays.
  have hclients : ∀ m a, ∃ e, runClients m a (Outgoing.loopback 40000)
      [{ name, call := bareCall path }] = (.error e, m) := by
    intro m a
    rw [runClients, runClient]
    unfold Machine.send
    simp only [hcall]
    exact ⟨_, rfl⟩
  obtain ⟨e, hclients⟩ := hclients _ _
  have hstart : (originOf ⟨[], [{ name, call := bareCall path }]⟩ {}).start ({} : Machine).busy
      ({} : Machine).originPort = .ok { bound := some 40000 } := rfl
  have hrun := (run_of_runClients hstart rfl hclients).1
  cases hresult : (run ⟨[], [{ name, call := bareCall path }]⟩ {} {}).1 with
  | error e => rfl
  | ok result =>
    rw [hresult] at hrun
    cases hrun

/-- The path of a slash and some letters. -/
def longPath (n : Nat) : String := String.ofList ('/' :: List.replicate n 'a')

theorem length_longPath (n : Nat) : (longPath n).length = n + 1 := by
  rw [longPath, String.length_ofList, List.length_cons, List.length_replicate]

theorem plainPath_longPath (n : Nat) : Http.PlainPath (longPath n) where
  head := by
    refine ⟨List.replicate n 'a', by rw [longPath, String.toList_ofList], ?_⟩
    rw [List.head?_replicate]
    split <;> decide
  safe := by
    intro c hc
    rw [longPath, String.toList_ofList, List.mem_cons, List.mem_replicate] at hc
    rcases hc with rfl | ⟨-, rfl⟩ <;> decide
  noDots := by
    have hnot : ∀ c ≠ 'a', c ∉ List.replicate n 'a' := fun c hc h => hc (List.eq_of_mem_replicate h)
    -- The letters are the one segment behind the slash, and have no dot.
    have hsegments : Text.splitOnElem '/' (longPath n).toList = [[], List.replicate n 'a'] := by
      rw [longPath, String.toList_ofList, Text.splitOnElem,
        Http.splitOnElem_of_notMem (hnot '/' (by decide))]
      rfl
    intro segment hsegment
    rw [hsegments, List.mem_pair] at hsegment
    have hdot : '.' ∉ segment := by
      rcases hsegment with rfl | rfl
      · exact List.not_mem_nil
      · exact hnot '.' (by decide)
    constructor <;> rintro rfl <;> exact hdot List.mem_cons_self

theorem length_urlOf_longPath (port n : Nat) :
    (Outgoing.urlOf (Outgoing.loopback port) (longPath n)).length =
      18 + (toString port).length + n := by
  have hscheme : "http://".length = 7 := by decide
  have hhost : "127.0.0.1:".length = 10 := by decide
  rw [Outgoing.urlOf, targetOf_plainPath (plainPath_longPath n), String.length_append,
    String.length_append, length_longPath, Outgoing.loopback]
  simp only [String.length_append, hscheme, hhost]
  omega

/-- A call that is short enough for a proxy at port 80, and too long for the origin itself. -/
theorem long_url_through_proxy_alone :
    let script : Script := ⟨[], [{ name := "c", call := { target := longPath 65515 } }]⟩
    report? (run script { proxy := some { command := ["proxy"], port := 80 } } {}).1 =
        some (true, []) ∧
      report? (run script {} {}).1 = none := by
  intro script
  constructor
  · have hport : (proxyOf script {} { command := ["proxy"], port := 80 } {}).port = (80 : Nat) :=
      rfl
    refine report?_bareCall (plainPath_longPath 65515) ?_ ?_ rfl (transparent_of_port (by decide)
      (by decide) script) hport (by decide) ?_
    · intro h
      have hlength := length_longPath 65515
      rw [h] at hlength
      exact absurd hlength (by decide)
    · rw [length_longPath]
      decide
    · show (Outgoing.urlOf _ (longPath 65515)).length ≤ _
      rw [length_urlOf_longPath]
      decide
  · refine report?_of_tooLong (plainPath_longPath 65515) rfl ?_
    show ¬ (Outgoing.urlOf _ (longPath 65515)).length ≤ _
    rw [length_urlOf_longPath]
    decide

end Run

end ProxyTrial
