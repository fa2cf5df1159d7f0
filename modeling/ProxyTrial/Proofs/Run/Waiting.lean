import Mathlib.Algebra.Order.Archimedean.Basic
import Mathlib.Algebra.Order.Field.Rat
import Mathlib.Data.ENat.Lattice
import Mathlib.Data.Rat.Floor
import ProxyTrial.Proofs.Run.Requests
/-!
# The earliest event ends the waiting

Waiting is looked at here with an exact clock that only pauses move. The requests have the outcomes
of one sequence, and the looks at the process those of another; nothing is known of either of them.
In every round there is a pause, a request, a look at the process and one at the clock, so that the
events of a round are numbered alike. The first round with an event is the last one, and within a
round an answer counts before the end of the process, and that before the deadline.

## Main definitions

* `firstRound p`: the number of the first round that has a property, if there is one
* `Vigil`: a clock that pauses move, and the numbers of what has been done
* `Vigil.wait`: waiting for an answer, with the outcomes of requests and looks given

## Main results

* `Vigil.wait_add`: rounds without an event are passed
* `Vigil.wait_eq`: waiting ends in the first round with an event
* `Vigil.wait_earliest`: how waiting ends, and after how many rounds
-/

namespace ProxyTrial

/-! ## First rounds -/

/-- The number of the first round with a property, where rounds are numbered from one. -/
noncomputable def firstRound (p : ℕ → Prop) : ℕ∞ := ⨅ (k : ℕ) (_ : 1 ≤ k) (_ : p k), (k : ℕ∞)

section First

variable {p : ℕ → Prop} {m : ℕ}

theorem le_firstRound_iff {n : ℕ∞} : n ≤ firstRound p ↔ ∀ k : ℕ, 1 ≤ k → p k → n ≤ k := by
  simp only [firstRound, le_iInf_iff]

theorem firstRound_le (hm : 1 ≤ m) (h : p m) : firstRound p ≤ m := le_firstRound_iff.1 le_rfl m hm h

theorem le_firstRound (hbefore : ∀ k, 1 ≤ k → k < m → ¬ p k) : (m : ℕ∞) ≤ firstRound p := by
  refine le_firstRound_iff.2 fun k hk hpk => ?_
  have hge : ¬ k < m := fun hlt => hbefore k hk hlt hpk
  exact_mod_cast not_lt.1 hge

/-- No earlier round having the property, a round is the first one if it has it. -/
theorem firstRound_eq_iff (hm : 1 ≤ m) (hbefore : ∀ k, 1 ≤ k → k < m → ¬ p k) :
    firstRound p = m ↔ p m := by
  constructor
  · intro hfirst
    by_contra hp
    -- Otherwise every round with the property comes later.
    have hlater : ((m + 1 : ℕ) : ℕ∞) ≤ firstRound p := by
      refine le_firstRound fun k hk hkm => ?_
      rcases Nat.lt_succ_iff_lt_or_eq.1 hkm with hlt | rfl
      · exact hbefore k hk hlt
      · exact hp
    rw [hfirst] at hlater
    exact absurd (by exact_mod_cast hlater : m + 1 ≤ m) (by omega)
  · intro hp
    exact le_antisymm (firstRound_le hm hp) (le_firstRound hbefore)

theorem lt_firstRound_iff (hm : 1 ≤ m) (hbefore : ∀ k, 1 ≤ k → k < m → ¬ p k) :
    (m : ℕ∞) < firstRound p ↔ ¬ p m := by
  rw [lt_iff_le_and_ne, ne_comm, Ne, firstRound_eq_iff hm hbefore]
  exact and_iff_right (le_firstRound hbefore)

/-- The first round that has one of three properties. -/
theorem eq_min_firstRound {q r : ℕ → Prop} (hm : 1 ≤ m) (hp : ∀ k, 1 ≤ k → k < m → ¬ p k)
    (hq : ∀ k, 1 ≤ k → k < m → ¬ q k) (hr : ∀ k, 1 ≤ k → k < m → ¬ r k) (h : p m ∨ q m ∨ r m) :
    (m : ℕ∞) = min (firstRound p) (min (firstRound q) (firstRound r)) := by
  refine le_antisymm (le_min (le_firstRound hp) (le_min (le_firstRound hq) (le_firstRound hr))) ?_
  rcases h with h | h | h
  · exact min_le_of_left_le (firstRound_le hm h)
  · exact min_le_of_right_le (min_le_of_left_le (firstRound_le hm h))
  · exact min_le_of_right_le (min_le_of_right_le (firstRound_le hm h))

end First

/-! ## Waiting with an exact clock -/

/-- A clock, and how often there has been a pause, a request and a look at the process. -/
structure Vigil where
  now : ℚ
  pauses : ℕ := 0
  requests : ℕ := 0
  looks : ℕ := 0
  deriving DecidableEq, Repr

namespace Vigil

/-- A pause moves the clock. -/
def pause (interval : ℚ) (v : Vigil) : Vigil :=
  { v with now := v.now + interval, pauses := v.pauses + 1 }

/-- Requests have given outcomes: no answer, or a status. -/
def ask (outcome : ℕ → Option Int) (v : Vigil) : Except ExchangeError (Option Int) × Vigil :=
  (.ok (outcome (v.requests + 1)), { v with requests := v.requests + 1 })

/-- Looks at the process have given outcomes. -/
def look (alive : ℕ → Bool) (v : Vigil) : Bool × Vigil :=
  (alive (v.looks + 1), { v with looks := v.looks + 1 })

variable (outcome : ℕ → Option Int) (alive : ℕ → Bool) (start timeout interval : ℚ)

/-- Waits for an answer. -/
def wait (fuel : ℕ) (v : Vigil) : WaitOutcome ExchangeError × Vigil :=
  pollFor now timeout (pause interval) (ask outcome) (look alive) fuel v

/-- What there is after some rounds without an event. -/
def afterRounds (n : ℕ) : Vigil := ⟨start + n * interval, n, n, n⟩

/-- A round without an event: there is no answer, the process is alive, and it is not too late. -/
structure Undecided (k : ℕ) : Prop where
  unanswered : outcome k = none
  alive : alive k = true
  early : ¬ timeout < k * interval

/-- What a round with an event comes to. -/
def verdict (k : ℕ) : WaitOutcome ExchangeError :=
  match outcome k with
  | some status => if status = 200 then .ready else .unexpected status
  | none => if alive k then .timedOut else .exited

theorem ask_pause_afterRounds (n : ℕ) :
    ask outcome (pause interval (afterRounds start interval n)) =
      (.ok (outcome (n + 1)), ⟨start + (n + 1 : ℕ) * interval, n + 1, n + 1, n⟩) := by
  have hnow : start + n * interval + interval = start + (n + 1 : ℕ) * interval := by
    push_cast
    ring
  simp only [ask, pause, afterRounds, hnow]

/-- The process is looked at once in a round. -/
theorem look_of_round (n : ℕ) :
    look alive ⟨start + (n + 1 : ℕ) * interval, n + 1, n + 1, n⟩ =
      (alive (n + 1), afterRounds start interval (n + 1)) := rfl

variable {outcome alive start timeout interval} {m : ℕ}

/-- It is too late when the pauses have taken longer than the time there is. -/
theorem late_afterRounds (k : ℕ) :
    start + timeout < (afterRounds start interval k).now ↔ timeout < k * interval := by
  rw [afterRounds, add_lt_add_iff_left]

/-- Rounds without an event are passed. -/
theorem wait_add (fuel n : ℕ)
    (h : ∀ k, 1 ≤ k → k ≤ n → Undecided outcome alive timeout interval k) :
    poll (pause interval) (ask outcome) (look alive) (fun v => v.now > start + timeout) (fuel + n)
        (afterRounds start interval 0) =
      poll (pause interval) (ask outcome) (look alive) (fun v => v.now > start + timeout) fuel
        (afterRounds start interval n) := by
  -- The induction is on the rounds; the last of them uses up one more piece of fuel.
  induction n generalizing fuel with
  | zero => rfl
  | succ n ih =>
    have hpassed := ih (fuel + 1) fun k hk hkn => h k hk (by omega)
    obtain ⟨hnone, halive, hearly⟩ := h (n + 1) (by omega) le_rfl
    have hask := ask_pause_afterRounds outcome start interval n
    rw [hnone] at hask
    have hlook := look_of_round alive start interval n
    rw [halive] at hlook
    rw [show fuel + (n + 1) = fuel + 1 + n by omega, hpassed]
    refine poll_undecided hask hlook (decide_eq_false ?_) fuel
    exact fun hlate => hearly ((late_afterRounds (n + 1)).1 hlate)

/-- Waiting ends in the first round with an event. -/
theorem wait_eq (start : ℚ) (hm : 1 ≤ m)
    (h : ∀ k, 1 ≤ k → k < m → Undecided outcome alive timeout interval k)
    (hevent : ¬ Undecided outcome alive timeout interval m) :
    ∃ v, v.pauses = m ∧ v.requests = m ∧ v.now = start + m * interval ∧
      ∀ fuel, m ≤ fuel →
        wait outcome alive timeout interval fuel { now := start } =
          (verdict outcome alive m, v) := by
  obtain ⟨n, rfl⟩ := Nat.exists_eq_add_of_le' hm
  have hstart : afterRounds start interval 0 = { now := start } := by simp [afterRounds]
  -- It is enough to look at the last round.
  suffices ∃ v : Vigil, v.pauses = n + 1 ∧ v.requests = n + 1 ∧
      v.now = start + (n + 1 : ℕ) * interval ∧
      ∀ fuel, poll (pause interval) (ask outcome) (look alive) (fun v => v.now > start + timeout)
          (fuel + 1) (afterRounds start interval n) = (verdict outcome alive (n + 1), v) by
    obtain ⟨v, hpauses, hrequests, hnow, hlast⟩ := this
    refine ⟨v, hpauses, hrequests, hnow, fun fuel hfuel => ?_⟩
    obtain ⟨extra, rfl⟩ := Nat.exists_eq_add_of_le hfuel
    rw [← hlast extra, ← wait_add (extra + 1) n fun k hk hkn => h k hk (by omega), hstart,
      show n + 1 + extra = extra + 1 + n by omega]
    rfl
  have hask := ask_pause_afterRounds outcome start interval n
  have hlook := look_of_round alive start interval n
  cases hanswer : outcome (n + 1) with
  | some status =>
    rw [hanswer] at hask
    refine ⟨⟨start + (n + 1 : ℕ) * interval, n + 1, n + 1, n⟩, rfl, rfl, rfl, fun fuel => ?_⟩
    rw [poll_answered hask, verdict, hanswer]
  | none =>
    rw [hanswer] at hask
    refine ⟨afterRounds start interval (n + 1), rfl, rfl, rfl, fun fuel => ?_⟩
    cases halive : alive (n + 1) with
    | false =>
      rw [halive] at hlook
      rw [poll_exited hask hlook, verdict, hanswer, halive]
      rfl
    | true =>
      rw [halive] at hlook
      -- With no answer, and the process alive, the event is the deadline.
      have hlate : timeout < (n + 1 : ℕ) * interval := by
        by_contra hearly
        exact hevent ⟨hanswer, halive, hearly⟩
      rw [poll_late hask hlook (decide_eq_true ((late_afterRounds (n + 1)).2 hlate)), verdict,
        hanswer, halive]
      rfl

/-- There is an event when the time is up, if not before. -/
theorem exists_event (outcome : ℕ → Option Int) (alive : ℕ → Bool) (timeout : ℚ)
    (hinterval : 0 < interval) :
    ∃ m, 1 ≤ m ∧ m ≤ ⌊timeout / interval⌋₊ + 1 ∧
      (∀ k, 1 ≤ k → k < m → Undecided outcome alive timeout interval k) ∧
      ¬ Undecided outcome alive timeout interval m := by
  classical
  have hlate : timeout < (⌊timeout / interval⌋₊ + 1 : ℕ) * interval := by
    rw [← div_lt_iff₀ hinterval]
    exact_mod_cast Nat.lt_floor_add_one (timeout / interval)
  have hexists : ∃ m, 1 ≤ m ∧ ¬ Undecided outcome alive timeout interval m :=
    ⟨_, Nat.le_add_left 1 _, fun h => h.early hlate⟩
  obtain ⟨hm, hevent⟩ := Nat.find_spec hexists
  refine ⟨Nat.find hexists, hm, ?_, fun k hk hlt => ?_, hevent⟩
  · exact Nat.find_min' hexists ⟨Nat.le_add_left 1 _, fun h => h.early hlate⟩
  · by_contra hk'
    exact Nat.find_min hexists hlt ⟨hk, hk'⟩

/-- What the verdict of a round is known from. -/
theorem verdict_eq_iff (hevent : ¬ Undecided outcome alive timeout interval m) :
    (verdict outcome alive m = .ready ↔ outcome m = some 200) ∧
      (∀ status, verdict outcome alive m = .unexpected status ↔
        outcome m = some status ∧ status ≠ 200) ∧
      (verdict outcome alive m = .exited ↔ alive m = false ∧ ¬ (outcome m).isSome) ∧
      (verdict outcome alive m = .timedOut ↔
        timeout < m * interval ∧ ¬ (outcome m).isSome ∧ ¬ alive m = false) := by
  rw [verdict]
  cases hanswer : outcome m with
  | some status =>
    by_cases hstatus : status = 200
    · simp [hstatus]
    · simp [hstatus]
  | none =>
    cases halive : alive m with
    | false => simp
    | true =>
      have hlate : timeout < m * interval := by
        by_contra hearly
        exact hevent ⟨hanswer, halive, hearly⟩
      simp [hlate]

/-- Waiting ends, with the earliest event. With the numbers of the first round with an answer, of
the first one after which the process is not alive, and of the first one that ends too late, the
least of them is the number of pauses and of requests; an answer counts before the end of the
process in the same round, and that before the deadline. -/
theorem wait_earliest (outcome : ℕ → Option Int) (alive : ℕ → Bool) (start timeout : ℚ)
    {interval : ℚ} (hinterval : 0 < interval) :
    let answered := firstRound fun k => (outcome k).isSome
    let gone := firstRound fun k => alive k = false
    let late := firstRound fun k => timeout < k * interval
    ∃ (m : ℕ) (r : WaitOutcome ExchangeError) (v : Vigil),
      m = min answered (min gone late) ∧ m ≤ ⌊timeout / interval⌋₊ + 1 ∧
      (∀ fuel, m ≤ fuel → wait outcome alive timeout interval fuel { now := start } = (r, v)) ∧
      v.pauses = m ∧ v.requests = m ∧ v.now = start + m * interval ∧
      (r = .ready ↔ answered = m ∧ outcome m = some 200) ∧
      (∀ status, r = .unexpected status ↔ answered = m ∧ outcome m = some status ∧ status ≠ 200) ∧
      (r = .exited ↔ gone = m ∧ m < answered) ∧
      (r = .timedOut ↔ late = m ∧ m < answered ∧ late < gone) := by
  intro answered gone late
  obtain ⟨m, hm, hle, hbefore, hevent⟩ := exists_event outcome alive timeout hinterval
  obtain ⟨v, hpauses, hrequests, hnow, hwait⟩ := wait_eq start hm hbefore hevent
  -- No event of any kind has been earlier.
  have hanswered : ∀ k, 1 ≤ k → k < m → ¬ (outcome k).isSome := fun k hk hkm => by
    simp [(hbefore k hk hkm).unanswered]
  have hgone : ∀ k, 1 ≤ k → k < m → ¬ alive k = false := fun k hk hkm => by
    simp [(hbefore k hk hkm).alive]
  have hlate : ∀ k, 1 ≤ k → k < m → ¬ timeout < k * interval := fun k hk hkm =>
    (hbefore k hk hkm).early
  have heq : answered = m ↔ (outcome m).isSome := firstRound_eq_iff hm hanswered
  have heq' : gone = m ↔ alive m = false := firstRound_eq_iff hm hgone
  have heq'' : late = m ↔ timeout < m * interval := firstRound_eq_iff hm hlate
  have hlt : m < answered ↔ ¬ (outcome m).isSome := lt_firstRound_iff hm hanswered
  have hlt' : m < gone ↔ ¬ alive m = false := lt_firstRound_iff hm hgone
  obtain ⟨hready, hunexpected, hexited, htimedOut⟩ := verdict_eq_iff hevent
  refine ⟨m, verdict outcome alive m, v, ?_, hle, hwait, hpauses, hrequests, hnow, ?_, ?_, ?_, ?_⟩
  · refine eq_min_firstRound hm hanswered hgone hlate ?_
    by_contra hno
    rw [not_or, not_or] at hno
    obtain ⟨hno, hno', hno''⟩ := hno
    exact hevent ⟨by simpa using hno, by simpa using hno', hno''⟩
  · rw [hready, heq]
    constructor
    · intro h
      exact ⟨by simp [h], h⟩
    · exact And.right
  · intro status
    rw [hunexpected, heq]
    constructor
    · intro h
      exact ⟨by simp [h.1], h⟩
    · exact And.right
  · rw [hexited, heq', hlt]
  · rw [htimedOut, heq'', hlt]
    refine and_congr_right fun h => and_congr_right fun _ => ?_
    rw [heq''.2 h, hlt']

/-- An answer, the end of the process and the deadline in one round: the answer counts. -/
theorem wait_earliest_together :
    let outcome : ℕ → Option Int := fun k => if k = 4 then some 503 else none
    let alive : ℕ → Bool := fun k => k != 4
    (0 : ℚ) < 3 / 10 ∧ ∃ v : Vigil, v.pauses = 4 ∧ v.requests = 4 ∧
      ∀ fuel, 4 ≤ fuel →
        wait outcome alive 1 (3 / 10) fuel { now := 0 } = (.unexpected 503, v) := by
  intro outcome alive
  have hinterval : (0 : ℚ) < 3 / 10 := by norm_num
  obtain ⟨m, r, v, hm, -, hwait, hpauses, hrequests, -, -, hunexpected, -⟩ :=
    wait_earliest outcome alive 0 1 hinterval
  have hanswered : firstRound (fun k => (outcome k).isSome) = (4 : ℕ) :=
    (firstRound_eq_iff (by norm_num) fun k _ hk => by simp [outcome, hk.ne]).2 (by simp [outcome])
  have hgone : firstRound (fun k => alive k = false) = (4 : ℕ) :=
    (firstRound_eq_iff (by norm_num) fun k _ hk => by simp [alive, hk.ne]).2 (by simp [alive])
  have hlate : firstRound (fun k : ℕ => (1 : ℚ) < k * (3 / 10)) = (4 : ℕ) := by
    refine (firstRound_eq_iff (by norm_num) fun k _ hk => ?_).2 (by norm_num)
    have hk' : (k : ℚ) ≤ 3 := by exact_mod_cast (by omega : k ≤ 3)
    linarith
  rw [hanswered, hgone, hlate, min_self, min_self, Nat.cast_inj] at hm
  obtain rfl := hm
  obtain rfl := (hunexpected 503).2 ⟨hanswered, by simp [outcome], by norm_num⟩
  exact ⟨hinterval, v, hpauses, hrequests, hwait⟩

end Vigil

end ProxyTrial
