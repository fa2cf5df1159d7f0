import ProxyTrial.Proofs.Run.Delivery
import ProxyTrial.Proofs.Run.Requests
/-!
# Bringing up a proxy

A proxy is brought up in steps: a run root is made, the files are written there, the command is
spawned, and then requests ask whether the proxy is ready. Apart from what the requests bring about,
files, run roots and processes are all that changes on the machine.

## Main definitions

* `Machine.Indifferent R`: `R` is steady, and does not look at files, run roots and processes

## Main results

* `waitForGet_of_ready`: a first answer that is as it should be ends the waiting
* `Proxy.spawn_cases`, `Proxy.startIn_cases`, `Proxy.start_cases`: all that spawning and starting
  can come to
* `Machine.Indifferent.start`, `Machine.Indifferent.bringUp`: such a relation holds across bringing
  up a proxy
* `Machine.indifferent_receives`, `Run.receives_bringUp`: bringing up a proxy only delivers requests
-/

namespace ProxyTrial

/-- Handlers are all that an origin gets from a script. -/
theorem OriginServer.exists_addAll (o : OriginServer) (s : Script) :
    ∃ t, o.addAll s = { o with handlers := t } := by
  suffices ∀ (hs : List Handler) (o : OriginServer), ∃ t, hs.foldl add o = { o with handlers := t }
    from this s.handlers o
  intro hs
  induction hs with
  | nil => exact fun o => ⟨o.handlers, rfl⟩
  | cons h hs ih => exact fun o => ih (o.add h)

namespace Wait

/-- A machine that answers the first question as it should is not asked again. -/
theorem waitForGet_of_ready {α : Type} {url : String} {interval : Float} {s : State α}
    {m : Machine}
    (h : ask (s.machine.sleep interval) ((s.machine.sleep interval).waiting (interval * 5.0)) url =
      (.ok (some 200), m))
    (timeout : Float) (alive : Machine → α → Bool × α) :
    waitForGet url timeout interval alive s =
      (.ready, { s with machine := m, pauses := s.pauses + 1 }) := by
  -- There is fuel for one question at least.
  obtain ⟨fuel, hfuel⟩ : ∃ fuel, enough timeout interval = fuel + 1 := ⟨_, rfl⟩
  rw [waitForGet]
  simp only [hfuel, pollFor]
  rw [poll_answered (by simp only [h]; rfl)]
  rfl

end Wait

/-! ## The steps of a start -/

/-- A command is not spawned if an argument has a null character or there is no such program. If it
is, the new process is the last one. -/
theorem Machine.spawn_cases {m m' : Machine} {command : List String} {port : Int}
    {r : Except SpawnError Nat} (h : m.spawn command port = (r, m')) :
    ((∃ argument ∈ command, '\x00' ∈ argument.toList) ∧ r = .error .nullCharacter ∧ m' = m) ∨
    (∀ argument ∈ command, '\x00' ∉ argument.toList) ∧
      (m.spawning = .missing ∧ r = .error .noProgram ∧ m' = m ∨
        m.spawning ≠ .missing ∧ r = .ok m.processes.length ∧
          m' = { m with processes := m.processes ++ [⟨port, m.spawning == .lives⟩] }) := by
  unfold spawn at h
  split at h
  · next hnull =>
    cases h
    exact .inl ⟨by simpa using hnull, rfl, rfl⟩
  · next hnull =>
    refine .inr ⟨by simpa using hnull, ?_⟩
    cases hspawning : m.spawning <;> rw [hspawning] at h <;> cases h
    · exact .inr ⟨nofun, rfl, rfl⟩
    · exact .inl ⟨rfl, rfl, rfl⟩
    · exact .inr ⟨nofun, rfl, rfl⟩

namespace Proxy

variable {p p' : Proxy} {root : Path} {m m' : Machine} {r : Except ProxyError Unit}

/-- Spawning leaves all as it was if the log cannot be written. With the log there, the proxy has
made its attempt: an argument has a null character, there is no such program, or a new process, the
last one, serves the port. -/
theorem spawn_cases (h : p.spawn root m = (r, p', m')) :
    (∃ e, m.files.write (logFile root) [] = .error e ∧
      r = .error (.cannotLog ((p.config.command.map p.render).headD "") e) ∧ p' = p ∧ m' = m) ∨
    ∃ files, m.files.write (logFile root) [] = .ok files ∧
      ((∃ argument ∈ p.config.command, '\x00' ∈ (p.render argument).toList) ∧
          r = .error .nullArgument ∧
          p' = { p with attempt := some ⟨p.config.command.map p.render, root⟩ } ∧
          m' = { m with files } ∨
        m.spawning = .missing ∧
          r = .error (.noProgram ((p.config.command.map p.render).headD "")) ∧
          p' = { p with attempt := some ⟨p.config.command.map p.render, root⟩ } ∧
          m' = { m with files } ∨
        m.spawning ≠ .missing ∧ r = .ok () ∧
          p' = { p with
            attempt := some ⟨p.config.command.map p.render, root⟩
            process := some m.processes.length } ∧
          m' = { m with
            files
            processes := m.processes ++ [⟨p.port, m.spawning == .lives⟩] }) := by
  unfold spawn at h
  cases hlog : m.files.write (logFile root) [] with
  | error e =>
    rw [hlog] at h
    cases h
    exact .inl ⟨e, rfl, rfl, rfl, rfl⟩
  | ok files =>
    rw [hlog] at h
    refine .inr ⟨files, rfl, ?_⟩
    rcases hspawn : Machine.spawn { m with files } (p.config.command.map p.render)
      (port { p with attempt := some ⟨p.config.command.map p.render, root⟩ }) with ⟨spawned, m₁⟩
    dsimp only at h
    rw [hspawn] at h
    rcases Machine.spawn_cases hspawn with
      ⟨hnull, rfl, rfl⟩ | ⟨-, ⟨hspawning, rfl, rfl⟩ | ⟨hspawning, rfl, rfl⟩⟩
    · cases h
      obtain ⟨_, hmem, hnull⟩ := hnull
      obtain ⟨argument, hargument, rfl⟩ := List.mem_map.1 hmem
      exact .inl ⟨⟨argument, hargument, hnull⟩, rfl, rfl, rfl⟩
    · cases h
      exact .inr (.inl ⟨hspawning, rfl, rfl, rfl⟩)
    · cases h
      exact .inr (.inr ⟨hspawning, rfl, rfl, rfl⟩)

/-- A start in a run root ends when a file cannot be written, or the command cannot be spawned, or
with what comes of the waiting. -/
theorem startIn_cases (h : p.startIn root m = (r, p', m')) :
    (∃ e files, writeFiles { p with root := some root } root m.files p.config.files =
          (.error e, files) ∧
        r = .error e ∧ p' = { p with root := some root } ∧ m' = { m with files }) ∨
      ∃ files, writeFiles { p with root := some root } root m.files p.config.files =
          (.ok (), files) ∧
        ((∃ e, spawn { p with root := some root } root { m with files } = (.error e, p', m') ∧
            r = .error e) ∨
          ∃ m₁, spawn { p with root := some root } root { m with files } = (.ok (), p', m₁) ∧
            p'.awaitReady m₁ = (r, m')) := by
  unfold startIn at h
  dsimp only at h
  split at h
  · next e files hfiles =>
    cases h
    exact .inl ⟨e, files, hfiles, rfl, rfl, rfl⟩
  · next files hfiles =>
    refine .inr ⟨files, hfiles, ?_⟩
    split at h
    · next e p₁ m₁ hspawn =>
      cases h
      exact .inl ⟨e, hspawn, rfl⟩
    · next p₁ m₁ hspawn =>
      cases h
      exact .inr ⟨m₁, hspawn, rfl⟩

/-- A start comes to nothing if no run root can be made, and else to a start in the new one. -/
theorem start_cases (h : p.start m = (r, p', m')) :
    (∃ reason, m.noRoot = some reason ∧ r = .error (.noRoot reason) ∧ p' = p ∧ m' = m) ∨
      m.noRoot = none ∧ p.startIn (makeRoot m).1 (makeRoot m).2 = (r, p', m') := by
  unfold start at h
  split at h
  · next reason hnone =>
    cases h
    exact .inl ⟨reason, hnone, rfl, rfl, rfl⟩
  · next hnone => exact .inr ⟨hnone, h⟩

/-- A proxy keeps its configuration, and its port, when it is spawned. -/
theorem spawn_settings (h : p.spawn root m = (r, p', m')) :
    p'.config = p.config ∧ p'.free = p.free := by
  rcases spawn_cases h with
    ⟨e, -, -, rfl, -⟩ | ⟨files, -, ⟨-, -, rfl, -⟩ | ⟨-, -, rfl, -⟩ | ⟨-, -, rfl, -⟩⟩ <;>
  exact ⟨rfl, rfl⟩

/-- A proxy keeps its configuration, and its port, when it is started. -/
theorem start_settings (h : p.start m = (r, p', m')) :
    p'.config = p.config ∧ p'.free = p.free := by
  rcases start_cases h with ⟨-, -, -, rfl, -⟩ | ⟨-, hstart⟩
  · exact ⟨rfl, rfl⟩
  · rcases startIn_cases hstart with
      ⟨e, files, -, -, rfl, -⟩ | ⟨files, -, ⟨e, hspawn, -⟩ | ⟨m₁, hspawn, -⟩⟩
    · exact ⟨rfl, rfl⟩
    · have hkept := spawn_settings hspawn
      exact hkept
    · have hkept := spawn_settings hspawn
      exact hkept

end Proxy

/-! ## What does not look at the proxy -/

/-- A steady relation that does not look at files, run roots and processes. -/
structure Machine.Indifferent (R : Machine → Machine → Prop) : Prop extends Machine.Steady R where
  equip : ∀ (m : Machine) files roots processes, R m { m with files, roots, processes }

namespace Machine.Indifferent

variable {R : Machine → Machine → Prop} {p p' : Proxy} {root : Path} {m m' : Machine}

theorem spawn (h : Indifferent R) {r : Except ProxyError Unit}
    (hspawn : p.spawn root m = (r, p', m')) : R m m' := by
  rcases Proxy.spawn_cases hspawn with
    ⟨e, -, -, -, rfl⟩ | ⟨files, -, ⟨-, -, -, rfl⟩ | ⟨-, -, -, rfl⟩ | ⟨-, -, -, rfl⟩⟩
  · exact h.refl _
  · exact h.equip m files m.roots m.processes
  · exact h.equip m files m.roots m.processes
  · exact h.equip m files m.roots _

theorem startIn (h : Indifferent R) {r : Except ProxyError Unit}
    (hstart : p.startIn root m = (r, p', m')) : R m m' := by
  rcases Proxy.startIn_cases hstart with
    ⟨e, files, -, -, -, rfl⟩ | ⟨files, -, ⟨e, hspawn, -⟩ | ⟨m₁, hspawn, hready⟩⟩
  · exact h.equip m files m.roots m.processes
  · exact h.trans (h.equip m files m.roots m.processes) (h.spawn hspawn)
  · have hwaited := h.awaitReady p' m₁
    rw [hready] at hwaited
    exact h.trans (h.trans (h.equip m files m.roots m.processes) (h.spawn hspawn)) hwaited

theorem start (h : Indifferent R) {r : Except ProxyError Unit} (hstart : p.start m = (r, p', m')) :
    R m m' := by
  rcases Proxy.start_cases hstart with ⟨reason, -, -, -, rfl⟩ | ⟨-, hstart⟩
  · exact h.refl _
  · exact h.trans (h.equip m (Proxy.makeRoot m).2.files (Proxy.makeRoot m).2.roots m.processes)
      (h.startIn hstart)

/-- Such a relation holds across bringing up what clients are to talk to. -/
theorem bringUp (h : Indifferent R) (config : RunConfig) (m : Machine) :
    R m (Run.bringUp config m).2.2 := by
  unfold Run.bringUp
  split
  · extract_lets proxy
    split <;> exact h.start ‹_›
  · exact h.refl m

end Machine.Indifferent

/-- Requests are delivered by exchanges, and nothing is delivered while there is a pause or by what
is done to bring up a proxy. -/
theorem Machine.indifferent_receives : Machine.Indifferent fun m m' => ∃ ds, m.Receives ds m' where
  refl _ := ⟨[], .idle rfl rfl⟩
  trans := fun ⟨ds, hds⟩ ⟨es, hes⟩ => ⟨ds ++ es, hds.trans hes⟩
  exchange := Machine.receives_exchange
  sleep _ _ := ⟨[], .idle rfl rfl⟩
  equip _ _ _ _ := ⟨[], .idle rfl rfl⟩

/-- Bringing up what clients are to talk to only delivers requests. -/
theorem Run.receives_bringUp (config : RunConfig) (m : Machine) :
    ∃ ds, m.Receives ds (Run.bringUp config m).2.2 :=
  Machine.indifferent_receives.bringUp config m

end ProxyTrial
