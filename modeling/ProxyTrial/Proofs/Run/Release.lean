import ProxyTrial.Proofs.Files.System
import ProxyTrial.Proofs.Run.Readiness
/-!
# What a run leaves behind

A run opens a port for the origin, makes a run root for the proxy and spawns a process there.
However it ends, the port is closed and the process is dead after it. The run root stays, for
inspection, unless the run has a result without failures and the configuration does not keep it.

## Main definitions

* `Machine.Spares m m'`: files, run roots and processes are as they were
* `Proxy.Started p m p' m'`: what a start comes to
* `Proxy.Holds p m m'`: what a proxy holds that has been started on `m`
* `Run.HeldBy config m m' proxy`: what a run holds that has brought up its target
* `Run.TornDown config m m' proxy`: what a run still has that has been torn down
* `Run.LeavesNothing config m r m'`: what a run leaves behind

## Main results

* `Machine.steady_spares`: requests leave all of that alone
* `Proxy.started_start`: a start makes a run root, and spawns a process at most
* `Proxy.holds_start`: a proxy holds what its first start has brought
* `Run.heldBy_runTarget`: whatever clients do, that is what is held
* `Run.tornDown_tearDown`, `Run.TornDown.ok`, `Run.TornDown.error`: the end of a run
* `Run.run_leaves_nothing`: what is left behind
-/

namespace ProxyTrial

/-! ## What requests leave alone -/

namespace Machine

/-- Files, run roots and processes are as they were. -/
structure Spares (m m' : Machine) : Prop where
  files : m'.files = m.files
  roots : m'.roots = m.roots
  processes : m'.processes = m.processes

variable {m m' m'' : Machine}

theorem Spares.refl (m : Machine) : m.Spares m := ⟨rfl, rfl, rfl⟩

theorem Spares.trans (h : m.Spares m') (h' : m'.Spares m'') : m.Spares m'' :=
  ⟨h'.files.trans h.files, h'.roots.trans h.roots, h'.processes.trans h.processes⟩

theorem spares_dial (m : Machine) (port : Int) : m.Spares (m.dial port).2 := by
  unfold dial
  split <;> exact ⟨rfl, rfl, rfl⟩

theorem spares_reply (m : Machine) (r : Responder) (request : Bytes) :
    m.Spares (m.reply r request).2 := by
  cases r <;> exact ⟨rfl, rfl, rfl⟩

theorem steady_spares : Steady Spares where
  refl := .refl
  trans := .trans
  exchange := exchange_of_connect .trans .refl spares_dial spares_reply
  sleep _ _ := ⟨rfl, rfl, rfl⟩

end Machine

/-! ## What a proxy holds -/

namespace Proxy

variable {p p' : Proxy} {m m₁ m₂ : Machine}

/-- The run root after a number of others. -/
def runRoot (n : Nat) : Path := ⟨"/", temporary ++ [rootName n]⟩

theorem runRoot_parts_ne_nil (n : Nat) : (runRoot n).parts ≠ [] := List.cons_ne_nil _ _

/-- What a start comes to, however it ends: a new run root, and perhaps a new process, which is the
last one that has been spawned. No directory goes. -/
structure Started (p : Proxy) (m : Machine) (p' : Proxy) (m' : Machine) : Prop where
  config : p'.config = p.config
  root : p'.root = some (runRoot m.roots.length)
  roots : m'.roots = m.roots ++ [runRoot m.roots.length]
  made : m'.files.entry? (runRoot m.roots.length).parts = some .directory
  keeps : m.files.KeepsDirectories m'.files
  process : p'.process = p.process ∧ m'.processes = m.processes ∨
    ∃ x, p'.process = some m.processes.length ∧ m'.processes = m.processes ++ [x]

theorem Started.spares (h : p.Started m p' m₁) (hs : m₁.Spares m₂) : p.Started m p' m₂ where
  config := h.config
  root := h.root
  roots := hs.roots.trans h.roots
  made := hs.files ▸ h.made
  keeps := hs.files ▸ h.keeps
  process := hs.processes ▸ h.process

/-- What a proxy holds that has been started on `m`: a run root of its own, if one could be made,
and perhaps a process, which is the last one that has been spawned. -/
structure Holds (p : Proxy) (m m' : Machine) : Prop where
  roots : m'.roots = m.roots ++ p.root.toList
  root : ∀ root ∈ p.root, root.parts ≠ [] ∧ m'.files.entry? root.parts = some .directory
  process : p.process = none ∧ m'.processes = m.processes ∨
    ∃ x, p.process = some m.processes.length ∧ m'.processes = m.processes ++ [x]

theorem Holds.spares (h : p.Holds m m₁) (hs : m₁.Spares m₂) : p.Holds m m₂ where
  roots := hs.roots.trans h.roots
  root := by
    rw [hs.files]
    exact h.root
  process := by
    rw [hs.processes]
    exact h.process

theorem keepsDirectories_writeFile {root : Path} {fs fs' : FileSystem} {file : String × String}
    (h : p.writeFile root fs file = .ok fs') : fs.KeepsDirectories fs' := by
  rw [writeFile, mapError_eq_ok] at h
  obtain ⟨fs₁, hmade, hwritten⟩ := bind_eq_ok.1 h
  exact (FileSystem.keepsDirectories_makeDirectories hmade).trans
    (FileSystem.keepsDirectories_write hwritten)

theorem keepsDirectories_writeFiles (p : Proxy) (root : Path) (fs : FileSystem)
    (files : List (String × String)) :
    fs.KeepsDirectories (p.writeFiles root fs files).2 := by
  -- The induction is on the files, up to the first that cannot be written.
  induction files generalizing fs with
  | nil => exact .refl fs
  | cons file files ih =>
    unfold writeFiles
    split
    · next fs' heq => exact (keepsDirectories_writeFile heq).trans (ih fs')
    · exact .refl fs

/-- A new run root is there, no directory has gone, and no process has been spawned. -/
theorem makeRoot_spec {root : Path} {m' : Machine} (h : makeRoot m = (root, m')) :
    root = runRoot m.roots.length ∧ m'.roots = m.roots ++ [root] ∧
      m'.files.entry? root.parts = some .directory ∧ m.files.KeepsDirectories m'.files ∧
      m'.processes = m.processes := by
  cases h
  refine ⟨rfl, rfl, ?_, ?_, rfl⟩
  · exact (FileSystem.entry?_put _ _ _ (runRoot_parts_ne_nil _)).trans (if_pos rfl)
  · exact (FileSystem.keepsDirectories_put (.inl rfl)).trans
      (FileSystem.keepsDirectories_put (.inl rfl))

/-- Spawning keeps directories; if there is a new process afterwards, it is the last one. -/
theorem spawn_spec {root : Path} {r : Except ProxyError Unit} (h : p.spawn root m = (r, p', m₁)) :
    p'.root = p.root ∧ p'.config = p.config ∧ m₁.roots = m.roots ∧
      m.files.KeepsDirectories m₁.files ∧
      (p'.process = p.process ∧ m₁.processes = m.processes ∨
        ∃ x, p'.process = some m.processes.length ∧ m₁.processes = m.processes ++ [x]) := by
  rcases spawn_cases h with
    ⟨e, -, -, rfl, rfl⟩ |
      ⟨files, hlog, ⟨-, -, rfl, rfl⟩ | ⟨-, -, rfl, rfl⟩ | ⟨-, -, rfl, rfl⟩⟩
  · exact ⟨rfl, rfl, rfl, .refl _, .inl ⟨rfl, rfl⟩⟩
  · exact ⟨rfl, rfl, rfl, FileSystem.keepsDirectories_write hlog, .inl ⟨rfl, rfl⟩⟩
  · exact ⟨rfl, rfl, rfl, FileSystem.keepsDirectories_write hlog, .inl ⟨rfl, rfl⟩⟩
  · exact ⟨rfl, rfl, rfl, FileSystem.keepsDirectories_write hlog, .inr ⟨_, rfl, rfl⟩⟩

/-- A command is spawned on top of what has been made and written before. -/
theorem started_spawn {r : Except ProxyError Unit} {files : FileSystem}
    (hkeeps : (makeRoot m).2.files.KeepsDirectories files)
    (h : spawn { p with root := some (makeRoot m).1 } (makeRoot m).1
      { (makeRoot m).2 with files } = (r, p', m₁)) : p.Started m p' m₁ := by
  obtain ⟨-, hroots, hmade, hold, hprocesses⟩ := makeRoot_spec (m := m) rfl
  obtain ⟨hroot, hconfig, hroots', hlogged, hprocess⟩ := spawn_spec h
  refine ⟨hconfig, hroot, hroots'.trans hroots, hlogged _ (hkeeps _ hmade),
    (hold.trans hkeeps).trans hlogged, ?_⟩
  rw [← hprocesses]
  exact hprocess

/-- However a start in a new run root ends, the run root is there afterwards, and a new process at
most. -/
theorem started_startIn {r : Except ProxyError Unit}
    (h : p.startIn (makeRoot m).1 (makeRoot m).2 = (r, p', m₂)) : p.Started m p' m₂ := by
  have hwritten := keepsDirectories_writeFiles { p with root := some (makeRoot m).1 } (makeRoot m).1
    (makeRoot m).2.files p.config.files
  -- The files that have been written stay, however it goes on.
  rcases startIn_cases h with
    ⟨e, files, hfiles, -, rfl, rfl⟩ | ⟨files, hfiles, ⟨e, hspawn, -⟩ | ⟨m₁, hspawn, hready⟩⟩ <;>
    rw [hfiles] at hwritten
  · obtain ⟨-, hroots, hmade, hkeeps, hprocesses⟩ := makeRoot_spec (m := m) rfl
    exact ⟨rfl, rfl, hroots, hwritten _ hmade, hkeeps.trans hwritten, .inl ⟨rfl, hprocesses⟩⟩
  · exact started_spawn hwritten hspawn
  · have hspared := Machine.steady_spares.awaitReady p' m₁
    rw [hready] at hspared
    exact (started_spawn hwritten hspawn).spares hspared

/-- However a start ends, there is a new run root afterwards, and a new process at most; or there is
no way to make a run root, and nothing has been done. -/
theorem started_start {r : Except ProxyError Unit} (h : p.start m = (r, p', m₂)) :
    m.noRoot.isSome ∧ p' = p ∧ m₂ = m ∨ m.noRoot = none ∧ p.Started m p' m₂ := by
  rcases start_cases h with ⟨reason, hnone, -, rfl, rfl⟩ | ⟨hnone, hstart⟩
  · exact .inl ⟨Option.isSome_iff_exists.2 ⟨reason, hnone⟩, rfl, rfl⟩
  · exact .inr ⟨hnone, started_startIn hstart⟩

/-- However a first start ends, the proxy holds a run root and a process at most afterwards. -/
theorem holds_start {r : Except ProxyError Unit} (hp : p.process = none) (hroot : p.root = none)
    (h : p.start m = (r, p', m₂)) : p'.config = p.config ∧ p'.Holds m m₂ := by
  rcases started_start h with ⟨-, rfl, rfl⟩ | ⟨-, hstarted⟩
  · refine ⟨rfl, ?_, ?_, .inl ⟨hp, rfl⟩⟩
    · rw [hroot]
      exact (List.append_nil _).symm
    · rw [hroot]
      exact nofun
  · refine ⟨hstarted.config, ?_, ?_, ?_⟩
    · rw [hstarted.root]
      exact hstarted.roots
    · rw [hstarted.root]
      intro root hroot
      obtain rfl := Option.some.inj hroot
      exact ⟨runRoot_parts_ne_nil _, hstarted.made⟩
    · rw [← hp]
      exact hstarted.process

/-- A proxy that is stopped keeps its run root, and its process is dead. -/
theorem Holds.stop (h : p.Holds m m₁) :
    (p.stop m₁).1.config = p.config ∧ (p.stop m₁).1.root = p.root ∧
      (p.stop m₁).2.roots = m₁.roots ∧ (p.stop m₁).2.files = m₁.files ∧
      ∃ spawned, (p.stop m₁).2.processes = m.processes ++ spawned ∧
        ∀ x ∈ spawned, x.alive = false := by
  rcases h.process with ⟨hnone, hsame⟩ | ⟨x, hsome, hspawned⟩
  · rw [Proxy.stop, hnone]
    exact ⟨rfl, rfl, rfl, rfl, [], hsame.trans (List.append_nil _).symm, List.forall_mem_nil _⟩
  · rw [Proxy.stop, hsome]
    refine ⟨rfl, rfl, rfl, rfl, [{ x with alive := false }], ?_, by simp⟩
    simp [Machine.kill, hspawned, List.modify_eq_take_cons_drop]

end Proxy

/-! ## The whole run -/

namespace Run

variable {s : Script} {config : RunConfig} {proxy : Option Proxy} {m m₁ m₂ : Machine}

/-- What a run holds that has brought up its target. -/
def HeldBy (config : RunConfig) (m m' : Machine) : Option Proxy → Prop
  | none => m.Spares m'
  | some p => config.proxy = some p.config ∧ p.Holds m m'

theorem HeldBy.spares (h : HeldBy config m m₁ proxy) (hs : m₁.Spares m₂) :
    HeldBy config m m₂ proxy := by
  cases proxy with
  | none => exact Machine.Spares.trans h hs
  | some p => exact ⟨h.1, h.2.spares hs⟩

theorem heldBy_bringUp (config : RunConfig) (m : Machine) :
    HeldBy config m (bringUp config m).2.2 (bringUp config m).2.1 := by
  unfold bringUp
  split
  · next proxyConfig hconfig =>
    extract_lets p
    split <;>
    · next heq =>
      obtain ⟨hp, hholds⟩ := Proxy.holds_start (p := p) rfl rfl heq
      exact ⟨hconfig.trans (congrArg some hp.symm), hholds⟩
  · exact Machine.Spares.refl m

theorem heldBy_runTarget (s : Script) (config : RunConfig) (m : Machine) :
    HeldBy config m (runTarget s config m).2.2 (runTarget s config m).2.1 := by
  have hup := heldBy_bringUp config m
  unfold runTarget
  split
  · next heq =>
    rw [heq] at hup
    exact hup
  · next address p m₁ heq =>
    rw [heq] at hup
    exact hup.spares (Machine.steady_spares.runClients m₁ _ address s.clients)

/-! ### The end of a run -/

/-- A run root is there. -/
def RootExists (m : Machine) (root : Path) : Prop := (m.files.entry? root.parts).isSome

/-- What a run has given back that has been torn down, and what it still has. -/
structure TornDown (config : RunConfig) (m m' : Machine) (proxy : Option Proxy) : Prop where
  closed : m'.origin.bound = none
  dead : ∃ spawned, m'.processes = m.processes ++ spawned ∧ ∀ x ∈ spawned, x.alive = false
  roots : m'.roots = m.roots ++ (proxy.bind (·.root)).toList
  config : ∀ p ∈ proxy, config.proxy = some p.config
  root : ∀ p ∈ proxy, ∀ root ∈ p.root, root.parts ≠ [] ∧ RootExists m' root

/-- Tearing down closes the port and kills the process; the run root stays. -/
theorem tornDown_tearDown (h : HeldBy config m m₁ proxy) :
    TornDown config m (tearDown proxy m₁).2 (tearDown proxy m₁).1 := by
  cases proxy with
  | none =>
    exact ⟨rfl, ⟨[], h.processes.trans (List.append_nil _).symm, List.forall_mem_nil _⟩,
      h.roots.trans (List.append_nil _).symm, nofun, nofun⟩
  | some p =>
    obtain ⟨hconfig, hholds⟩ := h
    obtain ⟨hconfig', hroot', hroots', hfiles, hdead⟩ := hholds.stop
    rcases hstop : p.stop m₁ with ⟨p', m₂⟩
    rw [hstop] at hconfig' hroot' hroots' hfiles hdead
    rw [tearDown, hstop]
    refine ⟨rfl, hdead, ?_, fun q hq => ?_, fun q hq root hroot => ?_⟩
    · rw [hroots', hholds.roots, Option.bind_some, hroot']
    · obtain rfl := Option.some.inj hq
      exact hconfig.trans (congrArg some hconfig'.symm)
    · obtain rfl := Option.some.inj hq
      obtain ⟨hparts, hentry⟩ := hholds.root root (hroot' ▸ hroot)
      refine ⟨hparts, ?_⟩
      rw [RootExists, hfiles, hentry]
      rfl

/-- What a run leaves behind that ends with `r`. -/
structure LeavesNothing (config : RunConfig) (m : Machine) (r : Except RunError RunResult)
    (m' : Machine) : Prop where
  /-- The port of the origin is closed. -/
  closed : m'.origin.bound = none
  /-- No connection to any port reaches the origin. -/
  unreachable : ∀ port, m'.listener? port ≠ some .origin
  /-- What has been spawned is dead. -/
  dead : ∃ spawned, m'.processes = m.processes ++ spawned ∧ ∀ x ∈ spawned, x.alive = false
  /-- A run root that has been made is there unless the run has a result without failures and the
  configuration does not keep it; a result names it if it is there. -/
  root : ∃ made : Option Path, m'.roots = m.roots ++ made.toList ∧
    (∀ root ∈ made, RootExists m' root ↔
      ¬ ∃ result, r = .ok result ∧ result.passed ∧ config.proxy.any (·.keepFiles) = false) ∧
    ∀ result, r = .ok result → ∀ root, result.root = some root ↔ root ∈ made ∧ RootExists m' root

/-- Without a run root there is nothing to be named. -/
theorem exists_made_of_none {r : Except RunError RunResult} (hroots : m₁.roots = m.roots)
    (hresult : ∀ result, r = .ok result → result.root = none) :
    ∃ made : Option Path, m₁.roots = m.roots ++ made.toList ∧
      (∀ root ∈ made, RootExists m₁ root ↔
        ¬ ∃ result, r = .ok result ∧ result.passed ∧ config.proxy.any (·.keepFiles) = false) ∧
      ∀ result, r = .ok result → ∀ root,
        result.root = some root ↔ root ∈ made ∧ RootExists m₁ root := by
  refine ⟨none, by simp [hroots], by simp, fun result hr root => ?_⟩
  simp [hresult result hr]

theorem listener?_ne_origin (h : m.origin.bound = none) (port : Int) :
    m.listener? port ≠ some .origin := by
  unfold Machine.listener?
  rw [h]
  split
  · next heq => cases heq
  · split
    · exact fun h => nomatch h
    · cases m.servers.lookup port <;> exact fun h => nomatch h

/-- A run without a result leaves its run root. -/
theorem TornDown.error (h : TornDown config m m₁ proxy) (e : RunError) :
    LeavesNothing config m (.error e) m₁ where
  closed := h.closed
  unreachable := listener?_ne_origin h.closed
  dead := h.dead
  root := by
    refine ⟨_, h.roots, fun root hroot => ?_, fun result hresult => nomatch hresult⟩
    obtain ⟨p, rfl, hp⟩ := Option.bind_eq_some_iff.1 hroot
    refine iff_of_true (h.root p rfl root hp).2 ?_
    rintro ⟨result, hresult, -⟩
    cases hresult

theorem finish_of_kept {p : Proxy} {failures : List RunFailure}
    (h : ¬ (failures.isEmpty = true ∧ p.config.keepFiles = false)) (m : Machine) :
    finish (some p) failures m = ({ failures, root := p.root }, m) := by
  rw [finish]
  cases hempty : failures.isEmpty with
  | false => rfl
  | true =>
    have hkeeps : p.config.keepFiles = true := by simpa [hempty] using h
    cases hroot : p.root <;> simp [Proxy.cleanup, hroot, hkeeps]

theorem finish_of_no_root (h : proxy.bind (·.root) = none) (failures : List RunFailure)
    (m : Machine) : finish proxy failures m = ({ failures }, m) := by
  cases proxy with
  | none => rfl
  | some p =>
    have hroot : p.root = none := h
    cases failures <;> simp [finish, Proxy.cleanup, hroot]

theorem finish_of_removed {p : Proxy} {root : Path} (hroot : p.root = some root)
    (hkeeps : p.config.keepFiles = false) (m : Machine) :
    finish (some p) [] m = ({ failures := [] }, { m with files := m.files.remove root.parts }) := by
  simp [finish, Proxy.cleanup, hroot, hkeeps]

/-- A run with a result and without a run root leaves nothing. -/
theorem TornDown.ok_of_no_root (h : TornDown config m m₁ proxy)
    (hroot : proxy.bind (·.root) = none) (failures : List RunFailure) :
    LeavesNothing config m (.ok (finish proxy failures m₁).1) (finish proxy failures m₁).2 := by
  rw [finish_of_no_root hroot]
  refine ⟨h.closed, listener?_ne_origin h.closed, h.dead, exists_made_of_none ?_ ?_⟩
  · rw [h.roots, hroot]
    exact List.append_nil _
  · rintro result hresult
    cases hresult
    rfl

/-- A run with a result and a run root leaves that if it is kept, and names it then. -/
theorem TornDown.ok_of_root {p : Proxy} {root : Path} (h : TornDown config m m₁ (some p))
    (hroot : p.root = some root) (failures : List RunFailure) :
    LeavesNothing config m (.ok (finish (some p) failures m₁).1)
      (finish (some p) failures m₁).2 := by
  obtain ⟨hparts, hexists⟩ := h.root p rfl root hroot
  have hmade : m₁.roots = m.roots ++ (some root).toList := by
    rw [h.roots, Option.bind_some, hroot]
  have hany : config.proxy.any (·.keepFiles) = p.config.keepFiles := by rw [h.config p rfl]; rfl
  -- The run root goes in one case, and is named by the result in the other.
  by_cases hremoved : failures.isEmpty = true ∧ p.config.keepFiles = false
  · obtain ⟨hempty, hkeeps⟩ := hremoved
    obtain rfl := List.isEmpty_iff.1 hempty
    have hgone : ¬ RootExists { m₁ with files := m₁.files.remove root.parts } root := by
      rw [RootExists, FileSystem.entry?_remove _ hparts (List.prefix_refl _)]
      exact fun h => nomatch h
    rw [finish_of_removed hroot hkeeps]
    refine ⟨h.closed, listener?_ne_origin h.closed, h.dead, some root, hmade, ?_, ?_⟩
    · intro root' hroot'
      obtain rfl := Option.some.inj hroot'
      exact iff_of_false hgone (not_not_intro ⟨_, rfl, rfl, hany.trans hkeeps⟩)
    · rintro result hresult root'
      cases hresult
      refine iff_of_false (fun h => nomatch h) ?_
      rintro ⟨hroot', hexists'⟩
      obtain rfl := Option.some.inj hroot'
      exact hgone hexists'
  · rw [finish_of_kept hremoved]
    refine ⟨h.closed, listener?_ne_origin h.closed, h.dead, some root, hmade, ?_, ?_⟩
    · intro root' hroot'
      obtain rfl := Option.some.inj hroot'
      refine iff_of_true hexists ?_
      rintro ⟨result, hresult, hpassed, hkeeps⟩
      cases hresult
      exact hremoved ⟨hpassed, hany.symm.trans hkeeps⟩
    · rintro result hresult root'
      cases hresult
      constructor
      · intro hroot'
        obtain rfl := Option.some.inj (hroot.symm.trans hroot')
        exact ⟨rfl, hexists⟩
      · rintro ⟨hroot', -⟩
        exact hroot.trans hroot'

/-- What a run with a result leaves. -/
theorem TornDown.ok (h : TornDown config m m₁ proxy) (failures : List RunFailure) :
    LeavesNothing config m (.ok (finish proxy failures m₁).1) (finish proxy failures m₁).2 := by
  cases hroot : proxy.bind (·.root) with
  | none => exact h.ok_of_no_root hroot failures
  | some root =>
    obtain ⟨p, rfl, hp⟩ := Option.bind_eq_some_iff.1 hroot
    exact h.ok_of_root hp failures

/-- However a run ends, it leaves nothing behind: no open port, no process, and no run root but one
that is to be looked at. -/
theorem run_leaves_nothing (s : Script) (config : RunConfig) (m : Machine) :
    LeavesNothing config m (run s config m).1 (run s config m).2 := by
  unfold run
  extract_lets origin
  split
  · next e hstart =>
    -- The origin has not been started, and nothing else has.
    have hclosed : origin.bound = none := by
      obtain ⟨t, ht⟩ := OriginServer.exists_addAll { requested := config.originPort } s
      exact congrArg OriginServer.bound ht
    have hdead : ∃ spawned : List Process, m.processes = m.processes ++ spawned ∧
        ∀ x ∈ spawned, x.alive = false := ⟨[], (List.append_nil _).symm, List.forall_mem_nil _⟩
    exact ⟨hclosed, listener?_ne_origin hclosed, hdead,
      exists_made_of_none rfl fun result hresult => nomatch hresult⟩
  · next started hstart =>
    have hheld := heldBy_runTarget s config { m with origin := started }
    rcases hrun : runTarget s config { m with origin := started } with ⟨result, proxy, m₁⟩
    rw [hrun] at hheld
    -- What has been brought up is torn down, with a result and without one.
    have htorn : TornDown config m (tearDown proxy m₁).2 (tearDown proxy m₁).1 := by
      have h := tornDown_tearDown hheld
      exact ⟨h.closed, h.dead, h.roots, h.config, h.root⟩
    rcases htear : tearDown proxy m₁ with ⟨proxy', m₂⟩
    rw [htear] at htorn
    simp only [htear]
    cases result with
    | error e => exact htorn.error e
    | ok failure => exact htorn.ok _

end Run

end ProxyTrial
