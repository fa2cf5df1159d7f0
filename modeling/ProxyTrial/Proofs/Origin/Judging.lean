import ProxyTrial.Origin.Conversation
/-!
# Judging a message

The expectations of a handler are held against a message one after the other, up to the first one
that cannot be. Those that fail are noted in that order.

## Main definitions

* `failing m e`: what is noted of an expectation that fails

## Main results

* `judge_eq_none`, `judge_eq_some`: which expectations have been held against a message
-/

namespace ProxyTrial.Origin

variable {m : Message} {e : Expectation} {es : List Expectation} {failures : List String}
  {error : CheckError}

/-- What is noted of an expectation that has been held against a message and fails. -/
def failing (m : Message) (e : Expectation) : Option String :=
  match e.check m with
  | .ok v => if v.passed then none else some v.described
  | .error _ => none

theorem judge_cons {v : Verdict} (h : e.check m = .ok v) (es : List Expectation) :
    judge m (e :: es) = ((failing m e).toList ++ (judge m es).1, (judge m es).2) := by
  cases hpassed : v.passed <;> simp [judge, failing, h, hpassed]

theorem filterMap_failing_cons (m : Message) (e : Expectation) (es : List Expectation) :
    (e :: es).filterMap (failing m) = (failing m e).toList ++ es.filterMap (failing m) := by
  cases hfailing : failing m e <;> simp [hfailing]

/-- Without an error, every expectation has been held against the message. -/
theorem judge_eq_none (h : judge m es = (failures, none)) :
    (∀ e ∈ es, ∃ v, e.check m = .ok v) ∧ failures = es.filterMap (failing m) := by
  induction es generalizing failures with
  | nil =>
    cases h
    exact ⟨List.forall_mem_nil _, rfl⟩
  | cons e es ih =>
    cases hcheck : e.check m with
    | error error =>
      rw [judge, hcheck] at h
      cases h
    | ok v =>
      rw [judge_cons hcheck] at h
      obtain ⟨rfl, hnone⟩ := Prod.mk.inj h
      obtain ⟨hall, hfailures⟩ := ih (Prod.ext rfl hnone)
      refine ⟨List.forall_mem_cons.2 ⟨⟨v, hcheck⟩, hall⟩, ?_⟩
      rw [filterMap_failing_cons, ← hfailures]

/-- With an error, those before some expectation have been held against the message, and that one
cannot be. -/
theorem judge_eq_some (h : judge m es = (failures, some error)) :
    ∃ before e after, es = before ++ e :: after ∧ (∀ d ∈ before, ∃ v, d.check m = .ok v) ∧
      e.check m = .error error ∧ failures = before.filterMap (failing m) := by
  induction es generalizing failures with
  | nil => cases h
  | cons e es ih =>
    cases hcheck : e.check m with
    | error error' =>
      rw [judge, hcheck] at h
      cases h
      exact ⟨[], e, es, rfl, List.forall_mem_nil _, hcheck, rfl⟩
    | ok v =>
      rw [judge_cons hcheck] at h
      obtain ⟨rfl, hsome⟩ := Prod.mk.inj h
      obtain ⟨before, d, after, rfl, hall, hd, hfailures⟩ := ih (Prod.ext rfl hsome)
      refine ⟨e :: before, d, after, rfl, List.forall_mem_cons.2 ⟨⟨v, hcheck⟩, hall⟩, hd, ?_⟩
      rw [filterMap_failing_cons, ← hfailures]

/-- Messages of which every expectation is judged alike. -/
theorem judge_congr {m' : Message}
    (h : ∀ e ∈ es, e.check m = e.check m') : judge m es = judge m' es := by
  induction es with
  | nil => rfl
  | cons e es ih =>
    rw [List.forall_mem_cons] at h
    rw [judge, judge, h.1, ih h.2]

end ProxyTrial.Origin
