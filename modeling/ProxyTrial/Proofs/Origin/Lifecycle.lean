import Mathlib.Data.List.Basic
import ProxyTrial.Origin.Server
/-!
# The life of an origin

An origin may be started and stopped at any time and any number of times, and whether or not it
listens, handlers are added and failures noted. Sockets come and go with that, and little else does:
what the origin has been told and what it has noted stays, and an origin that listens again after a
while answers as it did.

The sockets are those of the machine. A start opens one, and a stop closes the one that the origin
knows of. An origin that listens and is started once more may get another port, if it has asked for
any; then its socket is displaced, and no stop closes it.

## Main definitions

* `OriginServer.Session`: an origin, and the ports on which sockets of it listen
* `Session.act busy s a`: what an action gives, and the session after it
* `Session.displaced busy s as`: the sockets that actions displace
* `Session.Sound busy requested lost s`: what every action preserves
* `Session.Orderly busy requested lost s`: what the next actions can do in a session

## Main results

* `start_eq_ok_iff`, `start_eq_error`: what a start comes to
* `Session.Sound.act`, `Session.Sound.after`: actions preserve soundness, one and many
* `Session.displaced_eq_nil`: nothing is displaced by starts that get one port
* `Session.orderly_after`: what holds in the life of an origin
* `Session.left_by_second_start`: a socket that listens after a stop
-/

namespace ProxyTrial.OriginServer

/-! ## A start -/

section Start

variable {o origin : OriginServer} {busy : List Int} {free : FreePort} {e : StartError}

/-- An origin that has been asked for a port that there can be starts if the port that it wants is
free, and is bound to it then. Nothing else about it changes. -/
theorem start_eq_ok_iff : o.start busy free = .ok origin ↔
    (0 ≤ o.requested ∧ o.requested ≤ 65535) ∧ o.wanted free ∉ busy ∧
      o.bound ≠ some (o.wanted free) ∧
      origin = { o with bound := some (o.wanted free) } := by
  unfold start
  split
  · next hrange =>
    rw [Bool.or_eq_true, decide_eq_true_eq, decide_eq_true_eq] at hrange
    exact iff_of_false (fun h => nomatch h) fun h => by omega
  · next hrange =>
    rw [Bool.or_eq_true, decide_eq_true_eq, decide_eq_true_eq] at hrange
    dsimp only
    split
    · next htaken =>
      refine iff_of_false (fun h => nomatch h) ?_
      rintro ⟨-, hbusy, hbound, -⟩
      simp [hbusy, hbound] at htaken
    · next hfree =>
      simp only [Bool.or_eq_true, List.contains_iff_mem, beq_iff_eq, not_or] at hfree
      rw [Except.ok.injEq]
      exact ⟨fun h => ⟨by omega, hfree.1, hfree.2, h.symm⟩, fun h => h.2.2.2.symm⟩

/-- A port that cannot be, or one that is not free. -/
theorem start_eq_error (h : o.start busy free = .error e) :
    e = .noSuchPort ∧ (o.requested < 0 ∨ 65535 < o.requested) ∨ e = .portInUse o.requested := by
  unfold start at h
  split at h
  · next hrange =>
    rw [Bool.or_eq_true, decide_eq_true_eq, decide_eq_true_eq] at hrange
    exact .inl ⟨(Except.error.inj h).symm, hrange⟩
  · dsimp only at h
    split at h
    · exact .inr (Except.error.inj h).symm
    · cases h

end Start

/-! ## Sessions -/

/-- What can be done to an origin. -/
inductive Action where
  | add (h : Handler)
  | record (failure : String)
  | route (path : String)
  /-- A start, when who asks for any port gets this one. -/
  | start (free : FreePort)
  | stop
  | request (octets : Bytes)

/-- What an action gives. -/
inductive Answer where
  | done
  | routed (h : Option Handler)
  | notStarted (error : StartError)
  /-- Nothing listens on the port of the origin. -/
  | refused
  | served (outcome : Origin.Outcome)

/-- The failures that an action adds to those noted, if this is what it gives. -/
def Action.noted : Action → Answer → List String
  | .record failure, _ => [failure]
  | _, .served outcome => outcome.failures
  | _, _ => []

/-- An origin on a machine, and the ports on which sockets listen that it has opened. -/
structure Session where
  origin : OriginServer
  listening : List Int := []

namespace Session

/-- What an action gives when the ports in `busy` are taken by others, and the session after it. -/
def act (busy : List Int) (s : Session) : Action → Answer × Session
  | .add h => (.done, { s with origin := s.origin.add h })
  | .record failure => (.done, { s with origin := s.origin.record failure })
  | .route path => (.routed (s.origin.route? path), s)
  | .start free =>
    match s.origin.start (busy ++ s.listening) free with
    | .error e => (.notStarted e, s)
    | .ok origin => (.done, ⟨origin, origin.port :: s.listening⟩)
  | .stop => (.done, ⟨s.origin.stop, s.origin.bound.elim s.listening s.listening.erase⟩)
  | .request octets =>
    if s.listening.contains s.origin.port then
      let (outcome, origin) := s.origin.accept octets
      (.served outcome, { s with origin })
    else (.refused, s)

/-- The session after actions, one after the other. -/
def after (busy : List Int) (s : Session) (as : List Action) : Session :=
  as.foldl (fun s a => (s.act busy a).2) s

/-- The session of an origin that has been asked for a port, before anything is done. -/
def fresh (requested : Int) : Session := { origin := { requested } }

/-- The socket that an action displaces: a start that succeeds while the origin listens leaves open
the one that the origin has had. -/
def displacedBy (busy : List Int) (s : Session) : Action → List Int
  | .start free =>
    match s.origin.start (busy ++ s.listening) free with
    | .error _ => []
    | .ok _ => s.origin.bound.toList
  | _ => []

/-- The sockets that actions displace, the latest first. -/
def displaced (busy : List Int) (s : Session) : List Action → List Int
  | [] => []
  | a :: as => displaced busy (s.act busy a).2 as ++ displacedBy busy s a

variable {busy lost : List Int} {requested : Int} {s : Session} {free : FreePort}

theorem act_start (busy : List Int) (s : Session) (free : FreePort) :
    s.act busy (.start free) = match s.origin.start (busy ++ s.listening) free with
      | .error e => (.notStarted e, s)
      | .ok origin => (.done, ⟨origin, origin.port :: s.listening⟩) := rfl

theorem act_request (busy : List Int) (s : Session) (octets : Bytes) :
    s.act busy (.request octets) = if s.listening.contains s.origin.port then
      (.served (s.origin.accept octets).1, { s with origin := (s.origin.accept octets).2 })
    else (.refused, s) := rfl

/-! ## What every action preserves -/

/-- The sockets are that of the origin, at a port that can be opened, and those that are lost. -/
structure Sound (busy : List Int) (requested : Int) (lost : List Int) (s : Session) : Prop where
  asked : s.origin.requested = requested
  listening : s.listening = s.origin.bound.toList ++ lost
  opened : ∀ p, s.origin.bound = some p →
    p ∉ busy ∧ (requested ≠ 0 → p = requested) ∧ 0 ≤ requested ∧ requested ≤ 65535

theorem sound_fresh (busy : List Int) (requested : Int) :
    (fresh requested).Sound busy requested [] where
  asked := rfl
  listening := rfl
  opened := fun _ hp => nomatch hp

/-- Only starts and stops change what is bound. -/
theorem Sound.congr {o : OriginServer} (h : s.Sound busy requested lost)
    (hrequested : o.requested = s.origin.requested) (hbound : o.bound = s.origin.bound) :
    Sound busy requested lost { s with origin := o } where
  asked := hrequested.trans h.asked
  listening := by
    rw [hbound]
    exact h.listening
  opened := by
    simp only [hbound]
    exact h.opened

/-- A start that succeeds opens a socket, and the one before is lost. -/
theorem Sound.start {origin : OriginServer} (h : s.Sound busy requested lost)
    (hstart : s.origin.start (busy ++ s.listening) free = .ok origin) :
    Sound busy requested (s.origin.bound.toList ++ lost) ⟨origin, origin.port :: s.listening⟩ := by
  obtain ⟨⟨hlow, hhigh⟩, hfree, -, rfl⟩ := start_eq_ok_iff.1 hstart
  refine ⟨h.asked, congrArg _ h.listening, ?_⟩
  rintro p ⟨⟩
  rw [← h.asked]
  exact ⟨fun hbusy => hfree (List.mem_append_left _ hbusy), fun hne => if_neg hne, hlow, hhigh⟩

/-- A stop closes the socket of the origin. -/
theorem Sound.stop (h : s.Sound busy requested lost) :
    (s.act busy .stop).2.listening = lost := by
  show s.origin.bound.elim s.listening s.listening.erase = lost
  rw [h.listening]
  cases s.origin.bound with
  | none => rfl
  | some p => exact List.erase_cons_head p lost

/-- An action preserves soundness, and what it displaces is lost. -/
theorem Sound.act (h : s.Sound busy requested lost) (a : Action) :
    (s.act busy a).2.Sound busy requested (displacedBy busy s a ++ lost) := by
  cases a with
  | add g => exact h.congr rfl rfl
  | record failure => exact h.congr rfl rfl
  | route path => exact h
  | start free =>
    rw [displacedBy, act_start]
    cases hstart : s.origin.start (busy ++ s.listening) free with
    | error e => exact h
    | ok origin => exact h.start hstart
  | stop => exact ⟨h.asked, h.stop, fun _ hp => nomatch hp⟩
  | request octets =>
    rw [act_request]
    split
    · exact h.congr rfl rfl
    · exact h

theorem Sound.after (h : s.Sound busy requested lost) (as : List Action) :
    (s.after busy as).Sound busy requested (displaced busy s as ++ lost) := by
  induction as generalizing s lost with
  | nil => exact h
  | cons a as ih =>
    rw [displaced, List.append_assoc]
    exact ih (h.act a)

/-! ## Starts that get one port -/

/-- The origin is bound to one port, if at all. -/
def BoundTo (port : Int) (s : Session) : Prop := ∀ p, s.origin.bound = some p → p = port

/-- If a start gets the port to which the origin is bound, then it displaces nothing. -/
theorem BoundTo.act {port : Int} {a : Action} (h : s.BoundTo port)
    (ha : ∀ free, a = .start free → s.origin.wanted free = port) :
    (s.act busy a).2.BoundTo port ∧ displacedBy busy s a = [] := by
  cases a with
  | start free =>
    rw [displacedBy, act_start]
    cases hstart : s.origin.start (busy ++ s.listening) free with
    | error e => exact ⟨h, rfl⟩
    | ok origin =>
      obtain ⟨-, -, hnot, rfl⟩ := start_eq_ok_iff.1 hstart
      rw [ha free rfl] at hnot
      refine ⟨fun p hp => (Option.some.inj hp).symm.trans (ha free rfl), ?_⟩
      -- The origin would be bound to the port that it gets, and that port would not be free.
      cases hb : s.origin.bound with
      | none => rfl
      | some p => exact absurd (hb.trans (congrArg some (h p hb))) hnot
  | stop => exact ⟨fun _ hp => absurd hp nofun, rfl⟩
  | request octets =>
    refine ⟨?_, rfl⟩
    rw [act_request]
    split <;> exact h
  | _ => exact ⟨h, rfl⟩

theorem displaced_eq_nil {port : Int} (as : List Action) (h : s.BoundTo port)
    (hsound : s.Sound busy requested lost)
    (has : ∀ free, .start free ∈ as →
      (if requested = 0 then free.number else requested) = port) :
    displaced busy s as = [] := by
  induction as generalizing s lost with
  | nil => rfl
  | cons a as ih =>
    have hwanted : ∀ free, a = .start free → s.origin.wanted free = port := by
      rintro free rfl
      rw [wanted, hsound.asked]
      exact has free List.mem_cons_self
    have hact : (s.act busy a).2.BoundTo port ∧ displacedBy busy s a = [] := h.act hwanted
    rw [displaced, hact.2, List.append_nil]
    exact ih hact.1 (hsound.act a) fun free hfree => has free (List.mem_cons_of_mem a hfree)

/-- Of an origin that has asked for a port of its own no socket is displaced. -/
theorem displaced_fresh_of_ne_zero (h : requested ≠ 0) (as : List Action) :
    displaced busy (fresh requested) as = [] := by
  have hbound : (fresh requested).BoundTo requested := fun _ hp => nomatch hp
  exact displaced_eq_nil as hbound (sound_fresh busy requested) fun _ _ => if_neg h

/-! ## What actions do in a sound session -/

theorem Sound.port (h : s.Sound busy requested lost) :
    (∀ p, s.origin.bound = some p → s.origin.port = p ∧ p ∈ s.listening) ∧
      (s.origin.bound = none → s.origin.port = requested) := by
  rw [h.listening, OriginServer.port, ← h.asked]
  cases s.origin.bound with
  | none => exact ⟨fun _ hp => absurd hp nofun, fun _ => rfl⟩
  | some p =>
    refine ⟨fun q hq => ?_, fun hnone => nomatch hnone⟩
    obtain rfl := Option.some.inj hq
    exact ⟨rfl, List.mem_cons_self⟩

/-- An origin listens after a start if it has listened before, or if the port that it gets is
free. -/
theorem Sound.isSome_bound_start (h : s.Sound busy requested lost) (hlow : 0 ≤ requested)
    (hhigh : requested ≤ 65535)
    (hfree : s.origin.bound = none → s.origin.wanted free ∉ busy ++ s.listening) :
    (s.act busy (.start free)).2.origin.bound.isSome := by
  rw [act_start]
  cases hstart : s.origin.start (busy ++ s.listening) free with
  | ok origin =>
    obtain ⟨-, -, -, rfl⟩ := start_eq_ok_iff.1 hstart
    rfl
  | error e =>
    -- A start whose port is free fails only if the origin listens there already.
    cases hb : s.origin.bound with
    | some p => rfl
    | none =>
      have hrange : 0 ≤ s.origin.requested ∧ s.origin.requested ≤ 65535 := by
        rw [h.asked]
        exact ⟨hlow, hhigh⟩
      have hok := start_eq_ok_iff.2 ⟨hrange, hfree hb, by rw [hb]; exact nofun, rfl⟩
      rw [hok] at hstart
      cases hstart

/-- What an origin answers depends on its handlers, once it listens. -/
theorem act_request_congr {t : Session} {lost' : List Int} (h : s.Sound busy requested lost)
    (ht : t.Sound busy requested lost') (hs : s.origin.bound.isSome) (hs' : t.origin.bound.isSome)
    (hhandlers : t.origin.handlers = s.origin.handlers) (octets : Bytes) :
    (t.act busy (.request octets)).1 = (s.act busy (.request octets)).1 := by
  -- Both listen at their ports, so both serve the request.
  have hserves : ∀ {u : Session} {lost : List Int}, u.Sound busy requested lost →
      u.origin.bound.isSome → u.listening.contains u.origin.port = true := by
    intro u lost hu hbound
    obtain ⟨p, hp⟩ := Option.isSome_iff_exists.1 hbound
    obtain ⟨hport, hmem⟩ := hu.port.1 p hp
    rwa [hport, List.contains_iff_mem]
  rw [act_request, act_request, if_pos (hserves h hs), if_pos (hserves ht hs')]
  simp only [accept, hhandlers]

/-- What the next actions can do in a session, when some sockets are lost. -/
structure Orderly (busy : List Int) (requested : Int) (lost : List Int) (s : Session) : Prop where
  /-- Failures are noted behind the others: those of a request that is served, and what is noted
  as such. -/
  failures : ∀ a,
    (s.act busy a).2.origin.failures = s.origin.failures ++ a.noted (s.act busy a).1
  /-- Starts and stops change neither the failures nor the handlers. -/
  kept : ∀ a, (∃ free, a = .start free) ∨ a = .stop →
    (s.act busy a).2.origin.failures = s.origin.failures ∧
      (s.act busy a).2.origin.handlers = s.origin.handlers
  /-- A start that fails changes nothing. -/
  notStarted : ∀ free e, (s.act busy (.start free)).1 = .notStarted e →
    (s.act busy (.start free)).2 = s
  /-- The port is the one at which the origin listens; if it does not, the one asked for. -/
  port : (∀ p, s.origin.bound = some p → s.origin.port = p ∧ p ∈ s.listening) ∧
    (s.origin.bound = none → s.origin.port = requested)
  /-- After a stop nothing listens but what is lost. -/
  silent : (s.act busy .stop).2.listening = lost
  /-- Another stop changes nothing. -/
  stopped : s.after busy [.stop, .stop] = s.after busy [.stop]
  /-- An origin that has listened and is stopped listens again after the next start, whatever
  happens meanwhile, provided that it gets a free port if it has asked for any; with the same
  handlers it answers every request as it did, and notes the same failures. -/
  restarted : s.origin.bound.isSome → ∀ as free, let t := s.after busy (.stop :: as)
    (requested = 0 → free.number ∉ busy ++ t.listening) → let u := (t.act busy (.start free)).2
    u.origin.bound.isSome ∧ (u.origin.handlers = s.origin.handlers →
      ∀ octets, (u.act busy (.request octets)).1 = (s.act busy (.request octets)).1 ∧
        ∃ noted, (s.act busy (.request octets)).2.origin.failures = s.origin.failures ++ noted ∧
          (u.act busy (.request octets)).2.origin.failures = u.origin.failures ++ noted)

theorem kept_start (busy : List Int) (s : Session) (free : FreePort) :
    (s.act busy (.start free)).2.origin.failures = s.origin.failures ∧
      (s.act busy (.start free)).2.origin.handlers = s.origin.handlers := by
  rw [act_start]
  split
  · exact ⟨rfl, rfl⟩
  · next origin hstart =>
    obtain ⟨-, -, -, rfl⟩ := start_eq_ok_iff.1 hstart
    exact ⟨rfl, rfl⟩

theorem failures_act (busy : List Int) (s : Session) (a : Action) :
    (s.act busy a).2.origin.failures = s.origin.failures ++ a.noted (s.act busy a).1 := by
  cases a with
  | add g => exact (List.append_nil _).symm
  | record failure => rfl
  | route path => exact (List.append_nil _).symm
  | start free =>
    have hnoted : Action.noted (.start free) (s.act busy (.start free)).1 = [] := by
      rw [act_start]
      split <;> rfl
    rw [(kept_start busy s free).1, hnoted, List.append_nil]
  | stop => exact (List.append_nil _).symm
  | request octets =>
    rw [act_request]
    split
    · rfl
    · exact (List.append_nil _).symm

theorem Sound.orderly (h : s.Sound busy requested lost) (hlost : requested ≠ 0 → lost = []) :
    s.Orderly busy requested lost where
  failures := failures_act busy s
  kept := by
    rintro a (⟨free, rfl⟩ | rfl)
    · exact kept_start busy s free
    · exact ⟨rfl, rfl⟩
  notStarted free e he := by
    rw [act_start] at he ⊢
    split
    · rfl
    · next hstart =>
      rw [hstart] at he
      cases he
  port := h.port
  silent := h.stop
  stopped := rfl
  restarted hbound as free := by
    intro t hfree u
    obtain ⟨p, hp⟩ := Option.isSome_iff_exists.1 hbound
    obtain ⟨hbusy, hasked, hlow, hhigh⟩ := h.opened p hp
    have ht : t.Sound busy requested (displaced busy s (.stop :: as) ++ lost) := h.after _
    have hbound' : u.origin.bound.isSome := by
      refine ht.isSome_bound_start hlow hhigh fun hnone => ?_
      rw [wanted, ht.asked]
      split
      · next hzero => exact hfree hzero
      · next hne =>
        -- The port that has been asked for is free once nothing listens there any more.
        have hnothing : displaced busy s (.stop :: as) = [] :=
          displaced_eq_nil _ (fun q hq => (h.opened q hq).2.1 hne) h fun _ _ => if_neg hne
        rw [ht.listening, hnone, hnothing, hlost hne, ← hasked hne]
        simpa using hbusy
    refine ⟨hbound', fun hhandlers octets => ?_⟩
    have hsame := act_request_congr h (ht.act (.start free)) hbound hbound' hhandlers octets
    exact ⟨hsame, _, failures_act busy s _, hsame ▸ failures_act busy u _⟩

/-- Whatever has been done to an origin, it is in good order. The sockets that starts have displaced
are lost; there are none if all starts get one port, the one that has been asked for or the only one
that the machine gives. -/
theorem orderly_after (busy : List Int) (requested : Int) (as : List Action) :
    let lost := displaced busy (fresh requested) as
    ((fresh requested).after busy as).Orderly busy requested lost ∧
      ((∃ port, ∀ free, .start free ∈ as →
        (if requested = 0 then free.number else requested) = port) → lost = []) := by
  intro lost
  have hsound := (sound_fresh busy requested).after as
  rw [List.append_nil] at hsound
  exact ⟨hsound.orderly fun hne => displaced_fresh_of_ne_zero hne as,
    fun ⟨_, hport⟩ => displaced_eq_nil as (fun _ hp => nomatch hp) (sound_fresh busy requested)
      hport⟩

/-- An origin that is started twice and gets another port the second time: its first socket listens
after it has been stopped. -/
theorem left_by_second_start :
    let as : List Action := [.start ⟨40000, by decide⟩, .start ⟨40001, by decide⟩, .stop]
    ((fresh 0).after [] as).listening = [40000] := by
  decide

end Session

end ProxyTrial.OriginServer
