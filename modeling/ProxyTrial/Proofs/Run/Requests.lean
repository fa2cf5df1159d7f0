import ProxyTrial.Run.Program
/-!
# What holds across requests

While it waits for a proxy, and while its clients are served, a run does nothing to the machine but
send requests and let time pass. A relation between machines that holds across an exchange and
across a pause, and that can be composed, holds across all of that.

## Main definitions

* `Machine.Steady R`: `R` holds across exchanges and pauses, and can be composed

## Main results

* `poll_answered`, `poll_exited`, `poll_late`, `poll_undecided`: what a round of waiting comes to
* `poll_invariant`: what every part of waiting preserves is preserved by waiting
* `poll_failed`: waiting fails only as a question does
* `Machine.Steady.awaitReady`, `Machine.Steady.runClients`: a steady relation holds across waiting
  for a proxy, and across serving clients
* `Machine.Steady.waitForGet_failed`, `Machine.Steady.runClients_eq_error`: what fails, fails on a
  machine that is so related
-/

namespace ProxyTrial

section Poll

variable {σ ε : Type} {pause : σ → σ} {ask : σ → Except ε (Option Int) × σ}
  {alive : σ → Bool × σ} {late : σ → Bool} {P : σ → Prop}

/-! ## One round of waiting -/

section Round

variable {s s₁ s₂ : σ}

/-- One round: the pause, the question, the look at the process and then at the time. -/
theorem poll_succ (fuel : Nat) (s : σ) : poll pause ask alive late (fuel + 1) s =
    match ask (pause s) with
    | (.error e, s) => (.failed e, s)
    | (.ok (some status), s) => (if status = 200 then .ready else .unexpected status, s)
    | (.ok none, s) =>
      match alive s with
      | (false, s) => (.exited, s)
      | (true, s) => if late s then (.timedOut, s) else poll pause ask alive late fuel s :=
  rfl

/-- An answer ends the waiting, whatever else is the case. -/
theorem poll_answered {status : Int} (hask : ask (pause s) = (.ok (some status), s₁)) (fuel : Nat) :
    poll pause ask alive late (fuel + 1) s =
      (if status = 200 then .ready else .unexpected status, s₁) := by
  rw [poll_succ, hask]

theorem poll_exited (hask : ask (pause s) = (.ok none, s₁)) (halive : alive s₁ = (false, s₂))
    (fuel : Nat) : poll pause ask alive late (fuel + 1) s = (.exited, s₂) := by
  simp only [poll_succ, hask, halive]

theorem poll_late (hask : ask (pause s) = (.ok none, s₁)) (halive : alive s₁ = (true, s₂))
    (hlate : late s₂ = true) (fuel : Nat) :
    poll pause ask alive late (fuel + 1) s = (.timedOut, s₂) := by
  simp only [poll_succ, hask, halive, hlate, if_true]

/-- After a round without an event there is another one. -/
theorem poll_undecided (hask : ask (pause s) = (.ok none, s₁)) (halive : alive s₁ = (true, s₂))
    (hlate : late s₂ = false) (fuel : Nat) :
    poll pause ask alive late (fuel + 1) s = poll pause ask alive late fuel s₂ := by
  simp [poll_succ, hask, halive, hlate]

end Round

/-! ## What holds all the time -/

/-- What every part of waiting preserves is preserved by waiting. -/
theorem poll_invariant (hpause : ∀ s, P s → P (pause s)) (hask : ∀ s, P s → P (ask s).2)
    (halive : ∀ s, P s → P (alive s).2) (fuel : Nat) {s : σ} (h : P s) :
    P (poll pause ask alive late fuel s).2 := by
  induction fuel generalizing s with
  | zero => exact h
  | succ fuel ih =>
    have hasked := hask _ (hpause s h)
    rw [poll_succ]
    split
    · next heq => rwa [heq] at hasked
    · next heq => rwa [heq] at hasked
    · next s₁ heq =>
      rw [heq] at hasked
      have hlooked := halive s₁ hasked
      split
      · next heq' => rwa [heq'] at hlooked
      · next heq' =>
        rw [heq'] at hlooked
        split
        · exact hlooked
        · exact ih hlooked

/-- Waiting fails only as a question does, where every part of waiting has led. -/
theorem poll_failed (hpause : ∀ s, P s → P (pause s)) (hask : ∀ s, P s → P (ask s).2)
    (halive : ∀ s, P s → P (alive s).2) {fuel : Nat} {s : σ} {e : ε} (hs : P s)
    (h : (poll pause ask alive late fuel s).1 = .failed e) :
    ∃ s', P s' ∧ (ask s').1 = .error e := by
  induction fuel generalizing s with
  | zero => cases h
  | succ fuel ih =>
    have hasked := hask _ (hpause s hs)
    rw [poll_succ] at h
    split at h
    · next heq =>
      obtain rfl := WaitOutcome.failed.inj h
      exact ⟨pause s, hpause s hs, by rw [heq]⟩
    · split at h <;> cases h
    · next s₁ heq =>
      rw [heq] at hasked
      have hlooked := halive s₁ hasked
      split at h
      · cases h
      · next heq' =>
        rw [heq'] at hlooked
        split at h
        · cases h
        · exact ih hlooked h

end Poll

/-- What holds across a connection, and then across a reply, holds across an exchange. -/
theorem Machine.exchange_of_connect {R : Machine → Machine → Prop}
    (trans : ∀ {m m' m''}, R m m' → R m' m'' → R m m'')
    (refl : ∀ m, R m m) (dial : ∀ m port, R m (Machine.dial m port).2)
    (reply : ∀ m r request, R m (Machine.reply m r request).2) (m : Machine) (a : Agent)
    (o : Outgoing) : R m (m.exchange a o).2 := by
  have hconnect : R m (m.connect a o).2 := by
    have hdial := dial m o.port
    unfold connect
    split
    · exact refl m
    · split <;>
      · next heq =>
        rw [heq] at hdial
        exact hdial
  unfold exchange
  split
  · next heq =>
    rw [heq] at hconnect
    exact hconnect
  · next responder m₁ heq =>
    rw [heq] at hconnect
    cases o.encode with
    | error e => exact hconnect
    | ok request => exact trans hconnect (reply m₁ responder request)

/-- A relation that holds across exchanges and pauses, and that can be composed. -/
structure Machine.Steady (R : Machine → Machine → Prop) : Prop where
  refl : ∀ m, R m m
  trans : ∀ {m m' m''}, R m m' → R m' m'' → R m m''
  exchange : ∀ m a o, R m (Machine.exchange m a o).2
  sleep : ∀ m seconds, R m (Machine.sleep m seconds)

namespace Machine.Steady

variable {R : Machine → Machine → Prop}

theorem send (h : Steady R) (m : Machine) (a : Agent) (x : Except CallError Outgoing) :
    R m (m.send a x).2 := by
  unfold Machine.send
  cases x with
  | error e => exact h.refl m
  | ok o => exact h.exchange m a o

/-! ## Waiting for a proxy -/

theorem ask (h : Steady R) (m : Machine) (a : Agent) (url : String) :
    R m (Wait.ask m a url).2 := by
  have hsend := h.send m a (Outgoing.ofUrl a url "GET" [] [])
  unfold Wait.ask
  split
  · next heq =>
    rw [heq] at hsend
    exact hsend
  · next heq =>
    rw [heq] at hsend
    split <;> exact hsend

section Wait

variable {α : Type} {url : String} {timeout interval : Float} {alive : Machine → α → Bool × α}
  {s : Wait.State α}

theorem waitForGet (h : Steady R) (url : String) (timeout interval : Float)
    (alive : Machine → α → Bool × α) (s : Wait.State α) :
    R s.machine (Wait.waitForGet url timeout interval alive s).2.machine := by
  let P (s' : Wait.State α) : Prop := R s.machine s'.machine
  refine poll_invariant (P := P) ?_ ?_ ?_ _ (h.refl s.machine)
  · exact fun s' hs' => h.trans hs' (h.sleep _ _)
  · exact fun s' hs' => h.trans hs' (h.ask s'.machine _ url)
  · exact fun s' hs' => hs'

/-- Waiting fails only as a question does. -/
theorem waitForGet_failed (h : Steady R) {e : ExchangeError}
    (hfailed : (Wait.waitForGet url timeout interval alive s).1 = .failed e) :
    ∃ m', R s.machine m' ∧ (Wait.ask m' (m'.waiting (interval * 5.0)) url).1 = .error e := by
  let P (s' : Wait.State α) : Prop := R s.machine s'.machine
  obtain ⟨s', hs', hasked⟩ : ∃ s', P s' ∧
      (Wait.ask s'.machine (s'.machine.waiting (interval * 5.0)) url).1 = .error e := by
    refine poll_failed (P := P) ?_ ?_ ?_ (h.refl s.machine) hfailed
    · exact fun s' hs' => h.trans hs' (h.sleep _ _)
    · exact fun s' hs' => h.trans hs' (h.ask s'.machine _ url)
    · exact fun s' hs' => hs'
  exact ⟨s'.machine, hs', hasked⟩

end Wait

theorem awaitReady (h : Steady R) (p : Proxy) (m : Machine) : R m (p.awaitReady m).2 := by
  unfold Proxy.awaitReady
  extract_lets url alive
  have hwait := h.waitForGet url p.readyTimeout Proxy.pause alive ⟨m, 0, ()⟩
  split <;>
  · next heq =>
    rw [heq] at hwait
    exact hwait

/-! ## Serving clients -/

theorem runClient (h : Steady R) (m : Machine) (a : Agent) (address : String) (c : Client) :
    R m (Run.runClient m a address c).2 := by
  have hsend := h.send m a (Outgoing.ofCall a address c.call)
  unfold Run.runClient
  split <;>
  · next heq =>
    rw [heq] at hsend
    exact hsend

theorem runClients (h : Steady R) (m : Machine) (a : Agent) (address : String)
    (cs : List Client) : R m (Run.runClients m a address cs).2 := by
  induction cs generalizing m with
  | nil => exact h.refl m
  | cons c cs ih =>
    have hclient := h.runClient m a address c
    rw [Run.runClients]
    split
    · next m₁ heq =>
      rw [heq] at hclient
      exact h.trans hclient (ih m₁)
    · exact hclient

/-- Clients fail only as one of them does. -/
theorem runClients_eq_error (h : Steady R) {m : Machine} {a : Agent} {address : String}
    {cs : List Client} {e : RunError} (herror : (Run.runClients m a address cs).1 = .error e) :
    ∃ c ∈ cs, ∃ m', R m m' ∧ (Run.runClient m' a address c).1 = .error e := by
  induction cs generalizing m with
  | nil => cases herror
  | cons c cs ih =>
    have hclient := h.runClient m a address c
    rw [Run.runClients] at herror
    split at herror
    · next m₁ heq =>
      rw [heq] at hclient
      obtain ⟨c', hc', m', hm', hfailed⟩ := ih herror
      exact ⟨c', List.mem_cons_of_mem _ hc', m', h.trans hclient hm', hfailed⟩
    · exact ⟨c, List.mem_cons_self, m, h.refl m, herror⟩

end Machine.Steady

end ProxyTrial
