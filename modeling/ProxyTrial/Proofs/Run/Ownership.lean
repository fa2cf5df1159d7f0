import Mathlib.Data.List.Induction
import ProxyTrial.Proofs.Run.Release
/-!
# What a proxy answers for

A proxy may be started, stopped and cleaned up in any order and any number of times, whatever its
starts come to. It knows of one process and of one run root, and those are what it stops and
removes. A start gives up neither: if it finds one of them and brings another, the proxy no longer
knows of the first, which stays alive, or there, for good. Nothing else that the proxy has brought
is out of its hands.

## Main definitions

* `Proxy.Session`: a proxy on its machine
* `Session.ProcessDisplaced s as i`, `Session.RootDisplaced s as root`: what a start has displaced
* `Session.RootRemains s as root`: a run root that has been there since a start has made it

## Main results

* `Session.ProcessesKnown.act`, `Session.RootsKnown.act`: what every action preserves
* `Session.owned_after`: what is alive, and what is there, is held or has been displaced
-/

namespace ProxyTrial

/-! ## Processes of a machine -/

namespace Machine

variable {m m' : Machine} {i j : Nat} {x : Process}

theorem lt_of_isAlive (h : m.isAlive i) : i < m.processes.length := by
  rw [isAlive, Option.any_eq_true] at h
  obtain ⟨x, hx, -⟩ := h
  exact (List.getElem?_eq_some_iff.1 hx).1

theorem isAlive_congr (h : m'.processes = m.processes) (i : Nat) : m'.isAlive i = m.isAlive i := by
  rw [isAlive, isAlive, h]

/-- A new process is no matter to the others. -/
theorem isAlive_of_append (h : m'.processes = m.processes ++ [x]) (hi : i < m.processes.length) :
    m'.isAlive i = m.isAlive i := by
  rw [isAlive, isAlive, h, List.getElem?_append_left hi]

/-- A process that is killed is not alive, and the others are as they were. -/
theorem isAlive_kill : (m.kill j).isAlive i ↔ m.isAlive i ∧ i ≠ j := by
  rw [isAlive, isAlive, kill, List.getElem?_modify]
  by_cases hij : j = i
  · subst hij
    cases m.processes[j]? <;> simp
  · cases m.processes[i]? <;> simp [hij, Ne.symm hij]

end Machine

namespace Proxy

/-- Run roots with different numbers have different names. -/
theorem rootName_injective {j k : Nat} (h : rootName j = rootName k) : j = k := by
  have hnames := congrArg String.toList h
  simp only [rootName, String.toList_append, String.toList_ofList, List.append_assoc] at hnames
  have hnumbers := congrArg (Nat.ofDigitChars 10 · 0) (List.append_cancel_left hnames)
  simpa [Nat.ofDigitChars_append, Nat.ofDigitChars_replicate_zero] using hnumbers

theorem runRoot_parts_injective {j k : Nat} (h : (runRoot j).parts = (runRoot k).parts) : j = k :=
  rootName_injective (List.singleton_inj.1 (List.append_cancel_left h))

/-- No run root is below another. -/
theorem runRoot_not_below {j k : Nat} (h : j ≠ k) :
    ¬ (runRoot j).parts <+: (runRoot k).parts := fun hbelow =>
  h (runRoot_parts_injective (hbelow.eq_of_length (by simp [runRoot])))

/-! ## Processes of a start -/

namespace Started

variable {p p' : Proxy} {m m' : Machine} {i : Nat}

theorem length_le (h : p.Started m p' m') : m.processes.length ≤ m'.processes.length := by
  rcases h.process with ⟨-, hsame⟩ | ⟨x, -, hnew⟩
  · exact Nat.le_of_eq (by rw [hsame])
  · simp [hnew]

/-- The processes that there have been are as they were. -/
theorem isAlive (h : p.Started m p' m') (hi : i < m.processes.length) :
    m'.isAlive i = m.isAlive i := by
  rcases h.process with ⟨-, hsame⟩ | ⟨x, -, hnew⟩
  · exact Machine.isAlive_congr hsame i
  · exact Machine.isAlive_of_append hnew hi

/-- The process that is held has been held, or it is a new one. -/
theorem held (h : p.Started m p' m') (hi : p'.process = some i) :
    p.process = some i ∨ i = m.processes.length ∧ i < m'.processes.length := by
  rcases h.process with ⟨hsame, -⟩ | ⟨x, hheld, hnew⟩
  · exact .inl (hsame.symm.trans hi)
  · obtain rfl := Option.some.inj (hheld.symm.trans hi)
    exact .inr ⟨rfl, by simp [hnew]⟩

/-- A new process is held. -/
theorem lt_or_held (h : p.Started m p' m') (hi : m'.isAlive i) :
    i < m.processes.length ∨ p'.process = some i := by
  have hlt := Machine.lt_of_isAlive hi
  rcases h.process with ⟨-, hsame⟩ | ⟨x, hheld, hnew⟩
  · exact .inl (hsame ▸ hlt)
  · rw [hnew, List.length_append, List.length_singleton] at hlt
    rcases Nat.lt_or_eq_of_le (Nat.le_of_lt_succ hlt) with hold | rfl
    · exact .inl hold
    · exact .inr hheld

end Started

/-! ## Sessions -/

/-- What can be done to a proxy. -/
inductive Action where
  | start
  | stop
  | cleanup

/-- A proxy on its machine. -/
structure Session where
  proxy : Proxy
  machine : Machine

namespace Session

/-- The session after an action, whether or not a start succeeds. -/
def act (s : Session) : Action → Session
  | .start =>
    let (_, proxy, machine) := s.proxy.start s.machine
    { proxy, machine }
  | .stop =>
    let (proxy, machine) := s.proxy.stop s.machine
    { proxy, machine }
  | .cleanup =>
    let (proxy, machine) := s.proxy.cleanup s.machine
    { proxy, machine }

/-- The session after actions, one after the other. -/
def after (s : Session) (as : List Action) : Session := as.foldl act s

/-- The session of a new proxy. -/
def fresh (config : ProxyConfig) (originPort : Int) (readyTimeout : Float) (m : Machine) :
    Session where
  proxy := { config, originPort, readyTimeout, free := m.proxyPort }
  machine := m

variable {s : Session} {as : List Action} {a : Action} {i : Nat} {root : Path}
  {P : Session → Prop}

@[simp] theorem after_concat (s : Session) (as : List Action) (a : Action) :
    s.after (as ++ [a]) = (s.after as).act a := by
  simp only [after, List.foldl_append, List.foldl_cons, List.foldl_nil]

/-! ### What actions do -/

/-- A start does nothing where no run root can be made. -/
theorem started_act (s : Session) : s.act .start = s ∨
    s.proxy.Started s.machine (s.act .start).proxy (s.act .start).machine := by
  rcases hstart : s.proxy.start s.machine with ⟨r, p, m⟩
  simp only [act, hstart]
  rcases started_start hstart with ⟨-, rfl, rfl⟩ | ⟨-, hstarted⟩
  · exact .inl rfl
  · exact .inr hstarted

/-- A stop kills the process that is held, and no other. -/
theorem isAlive_stop (s : Session) (i : Nat) :
    (s.act .stop).machine.isAlive i ↔ s.machine.isAlive i ∧ s.proxy.process ≠ some i := by
  show (s.proxy.stop s.machine).2.isAlive i ↔ _
  unfold Proxy.stop
  cases s.proxy.process with
  | none => simp
  | some j => rw [Machine.isAlive_kill, Ne, Ne, Option.some.injEq, eq_comm (a := i)]

/-- A stop leaves run roots and files alone. -/
theorem stop_spec (s : Session) :
    (s.act .stop).proxy.config = s.proxy.config ∧ (s.act .stop).proxy.root = s.proxy.root ∧
      (s.act .stop).proxy.process = none ∧
      (s.act .stop).machine.processes.length = s.machine.processes.length ∧
      (s.act .stop).machine.roots = s.machine.roots ∧
      (s.act .stop).machine.files = s.machine.files := by
  cases hprocess : s.proxy.process <;> simp [act, Proxy.stop, hprocess, Machine.kill]

/-- A cleanup leaves processes alone. -/
theorem cleanup_spec (s : Session) :
    (s.act .cleanup).proxy.config = s.proxy.config ∧
      (s.act .cleanup).proxy.process = s.proxy.process ∧
      (s.act .cleanup).machine.processes = s.machine.processes := by
  cases hroot : s.proxy.root <;> cases hkeep : s.proxy.config.keepFiles <;>
    simp [act, Proxy.cleanup, hroot, hkeep]

/-- A cleanup without a run root does nothing, and neither does one that is to keep it. -/
theorem cleanup_eq_self (h : s.proxy.root = none ∨ s.proxy.config.keepFiles = true) :
    s.act .cleanup = s := by
  rcases h with hroot | hkeep
  · simp [act, Proxy.cleanup, hroot]
  · cases hroot : s.proxy.root <;> simp [act, Proxy.cleanup, hkeep, hroot]

theorem cleanup_of_some (hroot : s.proxy.root = some root)
    (hkeep : s.proxy.config.keepFiles = false) :
    s.act .cleanup = { proxy := { s.proxy with root := none }
                       machine := { s.machine with
                                    files := s.machine.files.remove root.parts } } := by
  simp [act, Proxy.cleanup, hroot, hkeep]

theorem config_after (s : Session) (as : List Action) :
    (s.after as).proxy.config = s.proxy.config := by
  induction as using List.reverseRecOn with
  | nil => rfl
  | append_singleton as a ih =>
    rw [after_concat]
    cases a with
    | start =>
      rcases (s.after as).started_act with hidle | hstarted
      · rw [hidle, ih]
      · exact hstarted.config.trans ih
    | stop => exact (stop_spec _).1.trans ih
    | cleanup => exact (cleanup_spec _).1.trans ih

/-! ### What starts make and displace -/

/-- A start has come in a session of which something holds. -/
def StartedWhen (s : Session) (as : List Action) (P : Session → Prop) : Prop :=
  ∃ before after, as = before ++ .start :: after ∧ P (s.after before)

/-- A start has come while the process was held and alive, and another has been held after it. -/
def ProcessDisplaced (s : Session) (as : List Action) (i : Nat) : Prop :=
  s.StartedWhen as fun t =>
    t.proxy.process = some i ∧ t.machine.isAlive i ∧ (t.act .start).proxy.process ≠ some i

/-- A start has come while the run root was held, and another has been held after it. -/
def RootDisplaced (s : Session) (as : List Action) (root : Path) : Prop :=
  s.StartedWhen as fun t => t.proxy.root = some root ∧ (t.act .start).proxy.root ≠ some root

/-- A start has made the run root, and it has been there ever since. -/
def RootRemains (s : Session) (as : List Action) (root : Path) : Prop :=
  ∃ before after, as = before ++ .start :: after ∧
    (s.after (before ++ [.start])).proxy.root = some root ∧
    ∀ later, later <+: after → Run.RootExists (s.after (before ++ .start :: later)).machine root

/-- An action among others is the last one, or it has been among those before. -/
theorem concat_eq_append_cons {b : Action} {before after : List Action}
    (h : as ++ [a] = before ++ b :: after) :
    (after = [] ∧ before = as ∧ b = a) ∨ ∃ init, after = init ++ [a] ∧
      as = before ++ b :: init := by
  rcases List.eq_nil_or_concat after with rfl | ⟨init, c, rfl⟩
  · obtain ⟨rfl, hlast⟩ := List.append_inj' h rfl
    exact .inl ⟨rfl, rfl, (List.singleton_inj.1 hlast).symm⟩
  · rw [List.concat_eq_append, ← List.cons_append, ← List.append_assoc] at h
    obtain ⟨rfl, hlast⟩ := List.append_inj' h rfl
    exact .inr ⟨init, by rw [List.concat_eq_append, List.singleton_inj.1 hlast], rfl⟩

theorem startedWhen_nil : ¬ s.StartedWhen [] P := by
  rintro ⟨before, after, h, -⟩
  simp at h

theorem startedWhen_concat :
    s.StartedWhen (as ++ [a]) P ↔ s.StartedWhen as P ∨ a = .start ∧ P (s.after as) := by
  constructor
  · rintro ⟨before, after, heq, h⟩
    rcases concat_eq_append_cons heq with ⟨-, rfl, rfl⟩ | ⟨init, -, rfl⟩
    · exact .inr ⟨rfl, h⟩
    · exact .inl ⟨before, init, rfl, h⟩
  · rintro (⟨before, after, rfl, h⟩ | ⟨rfl, h⟩)
    · exact ⟨before, after ++ [a], by simp, h⟩
    · exact ⟨as, [], rfl, h⟩

theorem startedWhen_concat_of_ne (ha : a ≠ .start) :
    s.StartedWhen (as ++ [a]) P ↔ s.StartedWhen as P :=
  startedWhen_concat.trans (or_iff_left fun h => ha h.1)

/-- What leaves the process alone that is held displaces none. -/
theorem processDisplaced_concat_of_same
    (h : ((s.after as).act a).proxy.process = (s.after as).proxy.process) :
    s.ProcessDisplaced (as ++ [a]) i ↔ s.ProcessDisplaced as i := by
  refine startedWhen_concat.trans (or_iff_left ?_)
  rintro ⟨rfl, hheld, -, hother⟩
  exact hother (h.trans hheld)

/-- What leaves the run root alone that is held displaces none. -/
theorem rootDisplaced_concat_of_same
    (h : ((s.after as).act a).proxy.root = (s.after as).proxy.root) :
    s.RootDisplaced (as ++ [a]) root ↔ s.RootDisplaced as root := by
  refine startedWhen_concat.trans (or_iff_left ?_)
  rintro ⟨rfl, hheld, hother⟩
  exact hother (h.trans hheld)

theorem rootRemains_concat :
    s.RootRemains (as ++ [a]) root ↔
      Run.RootExists ((s.after as).act a).machine root ∧
        (s.RootRemains as root ∨ a = .start ∧
          ((s.after as).act .start).proxy.root = some root) := by
  constructor
  · rintro ⟨before, after, heq, hmade, hthere⟩
    rcases concat_eq_append_cons heq with ⟨rfl, rfl, rfl⟩ | ⟨init, rfl, rfl⟩
    · -- The last action is the start that has made it.
      have hnow := hthere [] (List.prefix_refl _)
      rw [after_concat] at hmade hnow
      exact ⟨hnow, .inr ⟨rfl, hmade⟩⟩
    · -- It has been made before, and has been there up to the last action.
      have hnow := hthere (init ++ [a]) (List.prefix_refl _)
      rw [← List.cons_append, ← List.append_assoc, after_concat] at hnow
      exact ⟨hnow, .inl ⟨before, init, rfl, hmade, fun later hlater =>
        hthere later (hlater.trans (List.prefix_append _ _))⟩⟩
  · rintro ⟨hnow, ⟨before, after, rfl, hmade, hthere⟩ | ⟨rfl, hmade⟩⟩
    · refine ⟨before, after ++ [a], by simp, hmade, fun later hlater => ?_⟩
      rcases List.prefix_concat_iff.1 hlater with rfl | hlater
      · rw [← List.cons_append, ← List.append_assoc, after_concat]
        exact hnow
      · exact hthere later hlater
    · refine ⟨as, [], rfl, by rwa [after_concat], fun later hlater => ?_⟩
      obtain rfl := List.prefix_nil.1 hlater
      rwa [after_concat]

/-! ### Processes -/

/-- What every action preserves of the processes behind the first `n`: the one that is held is one
of them, those that are alive are held or have been displaced, and what has been displaced is
alive. -/
structure ProcessesKnown (n : Nat) (s : Session) (as : List Action) : Prop where
  count : n ≤ (s.after as).machine.processes.length
  held : ∀ i, (s.after as).proxy.process = some i →
    n ≤ i ∧ i < (s.after as).machine.processes.length
  alive : ∀ i, n ≤ i → (s.after as).machine.isAlive i →
    (s.after as).proxy.process = some i ∨ s.ProcessDisplaced as i
  displaced : ∀ i, s.ProcessDisplaced as i →
    (s.after as).machine.isAlive i ∧ (s.after as).proxy.process ≠ some i

variable {n : Nat}

theorem processesKnown_nil (h : s.proxy.process = none) :
    s.ProcessesKnown s.machine.processes.length [] where
  count := Nat.le_refl _
  held _ hi := nomatch h.symm.trans hi
  alive _ hi halive := absurd (Machine.lt_of_isAlive halive) (Nat.not_lt.2 hi)
  displaced _ hi := absurd hi startedWhen_nil

/-- What leaves all processes alone, and the one that is held, leaves nothing else to be known. -/
theorem ProcessesKnown.concat_of_same (h : s.ProcessesKnown n as)
    (hprocess : ((s.after as).act a).proxy.process = (s.after as).proxy.process)
    (hprocesses : ((s.after as).act a).machine.processes = (s.after as).machine.processes) :
    s.ProcessesKnown n (as ++ [a]) := by
  constructor
  · rw [after_concat, hprocesses]
    exact h.count
  · rw [after_concat, hprocess, hprocesses]
    exact h.held
  · intro i
    rw [after_concat, hprocess, Machine.isAlive_congr hprocesses,
      processDisplaced_concat_of_same hprocess]
    exact h.alive i
  · intro i
    rw [after_concat, hprocess, Machine.isAlive_congr hprocesses,
      processDisplaced_concat_of_same hprocess]
    exact h.displaced i

theorem ProcessesKnown.start_of_started (h : s.ProcessesKnown n as)
    (hstarted : (s.after as).proxy.Started (s.after as).machine
      ((s.after as).act .start).proxy ((s.after as).act .start).machine) :
    s.ProcessesKnown n (as ++ [.start]) := by
  have hle := hstarted.length_le
  have hconcat : ∀ i, s.ProcessDisplaced (as ++ [.start]) i ↔ s.ProcessDisplaced as i ∨ _ :=
    fun i => startedWhen_concat
  constructor
  · rw [after_concat]
    exact Nat.le_trans h.count hle
  · intro i hi
    rw [after_concat] at hi ⊢
    rcases hstarted.held hi with hheld | ⟨rfl, hlt⟩
    · exact (h.held i hheld).imp_right fun hlt => Nat.lt_of_lt_of_le hlt hle
    · exact ⟨h.count, hlt⟩
  · intro i hi hlives
    rw [after_concat] at hlives ⊢
    rcases hstarted.lt_or_held hlives with hold | hheld
    · rw [hstarted.isAlive hold] at hlives
      rcases h.alive i hi hlives with hheld | hdisplaced
      · -- The process that has been held is displaced unless it still is.
        by_cases hkept : ((s.after as).act .start).proxy.process = some i
        · exact .inl hkept
        · exact .inr ((hconcat i).2 (.inr ⟨rfl, hheld, hlives, hkept⟩))
      · exact .inr ((hconcat i).2 (.inl hdisplaced))
    · exact .inl hheld
  · -- What has been displaced, by now or before, has an older number than anything new.
    intro i hi
    rw [after_concat]
    rcases (hconcat i).1 hi with hdisplaced | ⟨-, -, hlives, hother⟩
    · obtain ⟨hlives, hother⟩ := h.displaced i hdisplaced
      have hlt := Machine.lt_of_isAlive hlives
      refine ⟨(hstarted.isAlive hlt).trans hlives, fun hheld => ?_⟩
      rcases hstarted.held hheld with hheld | ⟨rfl, -⟩
      · exact hother hheld
      · exact Nat.lt_irrefl _ hlt
    · exact ⟨(hstarted.isAlive (Machine.lt_of_isAlive hlives)).trans hlives, hother⟩

theorem ProcessesKnown.start (h : s.ProcessesKnown n as) : s.ProcessesKnown n (as ++ [.start]) := by
  rcases (s.after as).started_act with hidle | hstarted
  · exact h.concat_of_same (by rw [hidle]) (by rw [hidle])
  · exact h.start_of_started hstarted

theorem ProcessesKnown.stop (h : s.ProcessesKnown n as) : s.ProcessesKnown n (as ++ [.stop]) := by
  obtain ⟨-, -, hnone, hlength, -, -⟩ := (s.after as).stop_spec
  have hconcat : ∀ i, s.ProcessDisplaced (as ++ [.stop]) i ↔ s.ProcessDisplaced as i :=
    fun _ => startedWhen_concat_of_ne nofun
  constructor
  · rw [after_concat, hlength]
    exact h.count
  · rw [after_concat, hnone]
    exact fun _ => nofun
  · intro i hi hlives
    rw [after_concat, isAlive_stop] at hlives
    rw [hconcat]
    exact .inr ((h.alive i hi hlives.1).resolve_left hlives.2)
  · intro i hi
    rw [hconcat] at hi
    rw [after_concat, isAlive_stop, hnone]
    exact ⟨h.displaced i hi, nofun⟩

theorem ProcessesKnown.cleanup (h : s.ProcessesKnown n as) :
    s.ProcessesKnown n (as ++ [.cleanup]) := by
  obtain ⟨-, hsame, hprocesses⟩ := (s.after as).cleanup_spec
  exact h.concat_of_same hsame hprocesses

theorem ProcessesKnown.act (h : s.ProcessesKnown n as) : (a : Action) →
    s.ProcessesKnown n (as ++ [a])
  | .start => h.start
  | .stop => h.stop
  | .cleanup => h.cleanup

theorem processesKnown_after (h : s.proxy.process = none) (as : List Action) :
    s.ProcessesKnown s.machine.processes.length as := by
  induction as using List.reverseRecOn with
  | nil => exact processesKnown_nil h
  | append_singleton as a ih => exact ih.act a

/-! ### Run roots -/

/-- A run root that has been made and that has been there ever since, as a directory. -/
structure IsRoot (s : Session) (as : List Action) (root : Path) : Prop where
  remains : s.RootRemains as root
  directory : (s.after as).machine.files.entry? root.parts = some .directory
  number : ∃ k, k < (s.after as).machine.roots.length ∧ root = runRoot k

/-- What every action preserves of run roots: the one that is held, and those that have been
displaced, are all that there are. -/
structure RootsKnown (s : Session) (as : List Action) : Prop where
  held : ∀ root, (s.after as).proxy.root = some root → s.IsRoot as root
  remains : ∀ root, s.RootRemains as root →
    (s.after as).proxy.root = some root ∨ s.RootDisplaced as root
  displaced : ∀ root, s.RootDisplaced as root →
    s.IsRoot as root ∧ (s.after as).proxy.root ≠ some root

theorem rootRemains_nil : ¬ s.RootRemains [] root := by
  rintro ⟨before, after, h, -⟩
  simp at h

theorem rootsKnown_nil (h : s.proxy.root = none) : s.RootsKnown [] where
  held _ hroot := nomatch h.symm.trans hroot
  remains _ hremains := absurd hremains rootRemains_nil
  displaced _ hdisplaced := absurd hdisplaced startedWhen_nil

/-- A run root stays through an action that keeps its directory. -/
theorem IsRoot.concat (h : s.IsRoot as root)
    (hdirectory : ((s.after as).act a).machine.files.entry? root.parts = some .directory)
    (hroots : (s.after as).machine.roots.length ≤ ((s.after as).act a).machine.roots.length) :
    s.IsRoot (as ++ [a]) root where
  remains := by
    refine rootRemains_concat.2 ⟨?_, .inl h.remains⟩
    rw [Run.RootExists, hdirectory]
    rfl
  directory := by rwa [after_concat]
  number := by
    obtain ⟨k, hk, rfl⟩ := h.number
    rw [after_concat]
    exact ⟨k, Nat.lt_of_lt_of_le hk hroots, rfl⟩

theorem RootsKnown.start_of_started (h : s.RootsKnown as)
    (hstarted : (s.after as).proxy.Started (s.after as).machine
      ((s.after as).act .start).proxy ((s.after as).act .start).machine) :
    s.RootsKnown (as ++ [.start]) := by
  have hlength : ((s.after as).act .start).machine.roots.length =
      (s.after as).machine.roots.length + 1 := by
    rw [hstarted.roots, List.length_append, List.length_singleton]
  have hconcat : ∀ root, s.RootDisplaced (as ++ [.start]) root ↔ s.RootDisplaced as root ∨ _ :=
    fun root => startedWhen_concat
  have hkept : ∀ root, s.IsRoot as root → s.IsRoot (as ++ [.start]) root := fun root hroot =>
    hroot.concat (hstarted.keeps _ hroot.directory) (by omega)
  -- The new run root has a number of its own.
  have hother : ∀ root, s.IsRoot as root → ((s.after as).act .start).proxy.root ≠ some root := by
    intro root hroot heq
    obtain ⟨k, hk, rfl⟩ := hroot.number
    have hnew := Option.some.inj (hstarted.root.symm.trans heq)
    exact Nat.ne_of_gt hk (runRoot_parts_injective (congrArg Path.parts hnew))
  constructor
  · intro root hroot
    rw [after_concat, hstarted.root] at hroot
    obtain rfl := Option.some.inj hroot
    refine ⟨rootRemains_concat.2 ⟨?_, .inr ⟨rfl, hstarted.root⟩⟩, ?_, ?_⟩
    · rw [Run.RootExists, hstarted.made]
      rfl
    · rw [after_concat, hstarted.made]
    · rw [after_concat, hlength]
      exact ⟨_, Nat.lt_succ_self _, rfl⟩
  · intro root hremains
    rw [after_concat, hconcat]
    rcases (rootRemains_concat.1 hremains).2 with hremains | ⟨-, hmade⟩
    · rcases h.remains root hremains with hheld | hdisplaced
      · exact .inr (.inr ⟨rfl, hheld, hother root (h.held root hheld)⟩)
      · exact .inr (.inl hdisplaced)
    · exact .inl hmade
  · intro root hdisplaced
    have hroot : s.IsRoot as root := by
      rcases (hconcat root).1 hdisplaced with hdisplaced | ⟨-, hheld, -⟩
      · exact (h.displaced root hdisplaced).1
      · exact h.held root hheld
    rw [after_concat]
    exact ⟨hkept root hroot, hother root hroot⟩

/-- What leaves all run roots alone, and what is held, leaves nothing else to be known. -/
theorem RootsKnown.concat_of_same (h : s.RootsKnown as)
    (hroot : ((s.after as).act a).proxy.root = (s.after as).proxy.root)
    (hroots : ((s.after as).act a).machine.roots = (s.after as).machine.roots)
    (hfiles : ((s.after as).act a).machine.files = (s.after as).machine.files) :
    s.RootsKnown (as ++ [a]) := by
  have hconcat : ∀ root, s.RootDisplaced (as ++ [a]) root ↔ s.RootDisplaced as root :=
    fun _ => rootDisplaced_concat_of_same hroot
  have hkept : ∀ root, s.IsRoot as root → s.IsRoot (as ++ [a]) root := fun root hroot =>
    hroot.concat (by rw [hfiles, hroot.directory]) (Nat.le_of_eq (by rw [hroots]))
  constructor
  · rw [after_concat, hroot]
    exact fun root hheld => hkept root (h.held root hheld)
  · intro root hremains
    rw [after_concat, hroot, hconcat]
    rcases (rootRemains_concat.1 hremains).2 with hremains | ⟨rfl, hheld⟩
    · exact h.remains root hremains
    · exact .inl (hroot.symm.trans hheld)
  · intro root hdisplaced
    rw [after_concat, hroot]
    exact (h.displaced root ((hconcat root).1 hdisplaced)).imp_left (hkept root)

/-- A cleanup takes the run root that is held, and no other. -/
theorem RootsKnown.cleanup_of_some {held : Path} (h : s.RootsKnown as)
    (hheld : (s.after as).proxy.root = some held)
    (hkeep : (s.after as).proxy.config.keepFiles = false) : s.RootsKnown (as ++ [.cleanup]) := by
  have hact := Session.cleanup_of_some hheld hkeep
  have hconcat : ∀ root, s.RootDisplaced (as ++ [.cleanup]) root ↔ s.RootDisplaced as root :=
    fun _ => startedWhen_concat_of_ne (by simp)
  obtain ⟨k, -, rfl⟩ := (h.held held hheld).number
  constructor
  · intro root hroot
    rw [after_concat, hact] at hroot
    cases hroot
  · intro root hremains
    obtain ⟨hthere, hbefore⟩ := rootRemains_concat.1 hremains
    rw [hconcat]
    rcases h.remains root (hbefore.resolve_right (by simp)) with
      hroot | hdisplaced
    · -- It is the one that goes.
      obtain rfl := Option.some.inj (hheld.symm.trans hroot)
      rw [hact, Run.RootExists,
        FileSystem.entry?_remove _ (runRoot_parts_ne_nil k) (List.prefix_refl _)] at hthere
      cases hthere
    · exact .inr hdisplaced
  · intro root hdisplaced
    obtain ⟨hroot, hother⟩ := h.displaced root ((hconcat root).1 hdisplaced)
    refine ⟨hroot.concat ?_ (Nat.le_of_eq (by rw [hact])), by simp [hact]⟩
    obtain ⟨j, -, rfl⟩ := hroot.number
    have hne : k ≠ j := by
      rintro rfl
      exact hother hheld
    rw [hact, FileSystem.entry?_remove_of_not_below _ (runRoot_not_below hne), hroot.directory]

theorem RootsKnown.cleanup (h : s.RootsKnown as) : s.RootsKnown (as ++ [.cleanup]) := by
  by_cases hidle : (s.after as).proxy.root = none ∨ (s.after as).proxy.config.keepFiles = true
  · have hsame := cleanup_eq_self hidle
    exact h.concat_of_same (by rw [hsame]) (by rw [hsame]) (by rw [hsame])
  · obtain ⟨hsome, hkeep⟩ := not_or.1 hidle
    obtain ⟨held, hheld⟩ := Option.ne_none_iff_exists'.1 hsome
    exact h.cleanup_of_some hheld (Bool.of_not_eq_true hkeep)

theorem RootsKnown.stop (h : s.RootsKnown as) : s.RootsKnown (as ++ [.stop]) := by
  obtain ⟨-, hroot, -, -, hroots, hfiles⟩ := (s.after as).stop_spec
  exact h.concat_of_same hroot hroots hfiles

theorem RootsKnown.start (h : s.RootsKnown as) : s.RootsKnown (as ++ [.start]) := by
  rcases (s.after as).started_act with hidle | hstarted
  · exact h.concat_of_same (by rw [hidle]) (by rw [hidle]) (by rw [hidle])
  · exact h.start_of_started hstarted

theorem RootsKnown.act (h : s.RootsKnown as) : (a : Action) → s.RootsKnown (as ++ [a])
  | .start => h.start
  | .stop => h.stop
  | .cleanup => h.cleanup

theorem rootsKnown_after (h : s.proxy.root = none) (as : List Action) : s.RootsKnown as := by
  induction as using List.reverseRecOn with
  | nil => exact rootsKnown_nil h
  | append_singleton as a ih => exact ih.act a

/-! ### Everything -/

/-- Whatever is done to a proxy, a process of it that is alive is held or has been displaced, and so
is a run root that is still there. After a stop the displaced processes are those that are alive,
and after a cleanup that keeps no run root the displaced ones are those that are there. -/
theorem owned_after (config : ProxyConfig) (originPort : Int) (readyTimeout : Float) (m : Machine)
    (as : List Action) :
    let s := fresh config originPort readyTimeout m
    (∀ i, m.processes.length ≤ i →
      ((s.after as).machine.isAlive i →
        (s.after as).proxy.process = some i ∨ s.ProcessDisplaced as i) ∧
      ((s.after (as ++ [.stop])).machine.isAlive i ↔ s.ProcessDisplaced as i)) ∧
    ∀ root,
      (s.RootRemains as root ↔ (s.after as).proxy.root = some root ∨ s.RootDisplaced as root) ∧
      (config.keepFiles = false →
        (s.RootRemains (as ++ [.stop, .cleanup]) root ↔ s.RootDisplaced as root)) := by
  intro s
  have hprocesses := processesKnown_after (s := s) rfl
  have hroots := rootsKnown_after (s := s) rfl
  have hiff : ∀ as root, s.RootRemains as root ↔
      (s.after as).proxy.root = some root ∨ s.RootDisplaced as root := by
    intro as root
    refine ⟨(hroots as).remains root, fun hroot => ?_⟩
    rcases hroot with hheld | hdisplaced
    · exact ((hroots as).held root hheld).remains
    · exact ((hroots as).displaced root hdisplaced).1.remains
  refine ⟨fun i hi => ⟨(hprocesses as).alive i hi, ?_⟩, fun root => ⟨hiff as root, fun hkeep => ?_⟩⟩
  · rw [after_concat, isAlive_stop]
    constructor
    · rintro ⟨hlives, hother⟩
      exact ((hprocesses as).alive i hi hlives).resolve_left hother
    · exact (hprocesses as).displaced i
  · -- Nothing is held after the cleanup, and neither action displaces anything.
    have hsplit : as ++ [.stop, .cleanup] = as ++ [.stop] ++ [.cleanup] := by simp
    have hgone : ((s.after (as ++ [.stop])).act .cleanup).proxy.root = none := by
      cases hroot : (s.after (as ++ [.stop])).proxy.root with
      | none => rw [cleanup_eq_self (.inl hroot), hroot]
      | some root => rw [cleanup_of_some hroot ((config_after s _).symm ▸ hkeep)]
    have hdisplaced : s.RootDisplaced (as ++ [.stop] ++ [.cleanup]) root ↔
        s.RootDisplaced as root :=
      (startedWhen_concat_of_ne (a := .cleanup) nofun).trans
        (startedWhen_concat_of_ne (a := .stop) nofun)
    rw [hsplit, hiff, after_concat, hgone, hdisplaced]
    simp

/-- Of two starts in a row the first one leaves its process and its run root behind. -/
theorem left_by_first_start :
    let s := fresh { command := ["proxy"], port := 8080 } 40000 30.0
      { probes := [(8080, [some 200, some 200])] }
    let t := s.after [.start, .start, .stop, .cleanup]
    t.proxy.process = none ∧ t.machine.isAlive 0 ∧ t.proxy.root = none ∧
      Run.RootExists t.machine (runRoot 0) := by
  intro s t
  have hleft : (t.proxy.process, t.machine.isAlive 0, t.proxy.root,
      (t.machine.files.entry? (runRoot 0).parts).isSome) = (none, true, none, true) := by
    decide +kernel
  simp only [Prod.mk.injEq] at hleft
  exact hleft

end Session

end Proxy

end ProxyTrial
