import ProxyTrial.Config
import ProxyTrial.Proofs.Schema.Expectation
/-!
# Configurations that data makes

Data makes a configuration that is lawful, or there is something in it to complain about: the check
itself never fails.

## Main definitions

* `RunConfig.Lawful c`: the rules for configurations

## Main results

* `Schema.lawful_of_runConfig`: the configuration that data makes
* `Schema.runConfig_ne_failed`: the check does not fail
-/

namespace ProxyTrial

/-- There is one way to the proxy at most; there are a command to start it and time for it to be
ready and for a request to be answered. -/
structure RunConfig.Lawful (c : RunConfig) : Prop where
  target : c.proxy = none ∨ c.proxyAddress = none
  command : ∀ p, c.proxy = some p → p.command ≠ []
  requestTimeout : c.requestTimeout > 0.0
  readyTimeout : c.readyTimeout > 0.0

namespace Schema

open Checked

variable {α : Type} {form : Value → Checked α} {es : List (Value × Value)} {v : Value} {a : α}
  {first second : String} {f : Failure}

/-! ## Lawful configurations -/

theorem spelled_eq_ok {default : α} : spelled first second form default es = .ok a ↔
    (Value.entry? (spelling first second es) es = none ∧ a = default) ∨
      ∃ v, Value.entry? (spelling first second es) es = some v ∧ form v = .ok a := by
  unfold spelled
  split
  · next w hw => simp [hw, under_eq_ok]
  · next hnone => simp [hnone, eq_comm]

theorem positive_eq_ok {x : Float} : positive v = .ok x ↔ number v = .ok x ∧ x > 0.0 := by
  unfold positive
  rw [bind_eq_ok]
  constructor
  · rintro ⟨y, hy, hpositive⟩
    split at hpositive
    · next hlt =>
      cases hpositive
      exact ⟨hy, hlt⟩
    · cases hpositive
  · rintro ⟨hx, hlt⟩
    exact ⟨x, hx, if_pos hlt⟩

theorem spelled_positive {default x : Float} (hdefault : default > 0.0)
    (h : spelled first second positive default es = .ok x) : x > 0.0 := by
  rcases spelled_eq_ok.1 h with ⟨-, rfl⟩ | ⟨v, -, hv⟩
  · exact hdefault
  · exact (positive_eq_ok.1 hv).2

theorem ne_nil_of_nonEmpty {xs : List α} (h : nonEmpty form v = .ok xs) : xs ≠ [] := by
  obtain ⟨ys, -, hys⟩ := bind_eq_ok.1 h
  split at hys
  · cases hys
  · next hne =>
    cases hys
    exact hne

theorem command_ne_nil {p : ProxyConfig} (h : proxyConfig v = .ok p) : p.command ≠ [] := by
  obtain ⟨es, -, h⟩ := bind_eq_ok.1 h
  obtain ⟨fields, hfields, h⟩ := bind_eq_ok.1 h
  obtain ⟨w, -, hw⟩ := required_eq_ok.1 (both_eq_ok.1 hfields).1
  cases h
  exact ne_nil_of_nonEmpty hw

/-- The configuration that data makes is lawful. -/
theorem lawful_of_runConfig {c : RunConfig} (h : runConfig v = .ok c) : c.Lawful := by
  obtain ⟨es, -, h⟩ := bind_eq_ok.1 h
  obtain ⟨⟨proxy, address, originPort, request, ready, _⟩, hfields, h⟩ := bind_eq_ok.1 h
  obtain ⟨hproxy, hfields⟩ := both_eq_ok.1 hfields
  obtain ⟨-, hfields⟩ := both_eq_ok.1 hfields
  obtain ⟨-, hfields⟩ := both_eq_ok.1 hfields
  obtain ⟨hrequest, hfields⟩ := both_eq_ok.1 hfields
  obtain ⟨hready, -⟩ := both_eq_ok.1 hfields
  dsimp only at h
  split at h
  · cases h
  · next htarget =>
    cases h
    refine ⟨?_, fun p hp => ?_, spelled_positive (by decide) hrequest,
      spelled_positive (by decide) hready⟩
    · cases proxy with
      | none => exact .inl rfl
      | some p =>
        refine .inr (Option.not_isSome_iff_eq_none.1 fun haddress => htarget ?_)
        exact (Bool.and_eq_true _ _).mpr ⟨rfl, haddress⟩
    · obtain rfl : proxy = some p := hp
      obtain ⟨w, -, -, hw⟩ := defaulted_optional_some.1 hproxy
      exact command_ne_nil hw

/-! ## Checks that do not fail -/

theorem bind_ne_failed {β : Type} {c : Checked α} {g : α → Checked β}
    (hc : c ≠ .error (.failed f)) (hg : ∀ a, g a ≠ .error (.failed f)) :
    c >>= g ≠ .error (.failed f) := by
  intro h
  rcases bind_eq_error.1 h with h | ⟨a, -, h⟩
  · exact hc h
  · exact hg a h

theorem map_ne_failed {β : Type} {c : Checked α} (h : c ≠ .error (.failed f)) (g : α → β) :
    c.map g ≠ .error (.failed f) :=
  mt map_eq_error.1 h

theorem both_ne_failed {β : Type} {c : Checked α} {d : Checked β} (hc : c ≠ .error (.failed f))
    (hd : d ≠ .error (.failed f)) : both c d ≠ .error (.failed f) :=
  fun h => (both_eq_failed h).elim hc hd

theorem under_ne_failed {step : Step} {c : Checked α} (h : c ≠ .error (.failed f)) :
    c.under step ≠ .error (.failed f) :=
  mt under_eq_failed.1 h

theorem all_ne_failed {cs : List (Checked α)} (h : ∀ c ∈ cs, c ≠ .error (.failed f)) :
    all cs ≠ .error (.failed f) := by
  induction cs with
  | nil => nofun
  | cons c cs ih =>
    obtain ⟨hc, hcs⟩ := List.forall_mem_cons.1 h
    exact map_ne_failed (both_ne_failed hc (ih hcs)) _

theorem list_ne_failed (h : ∀ v, form v ≠ .error (.failed f)) :
    list form v ≠ .error (.failed f) := by
  unfold list
  split
  · exact all_ne_failed (List.forall_mem_map.2 fun _ _ => under_ne_failed (h _))
  · exact all_ne_failed (List.forall_mem_map.2 fun _ _ => under_ne_failed (h _))
  · exact all_ne_failed (List.forall_mem_map.2 fun _ _ => under_ne_failed (h _))
  · nofun

theorem nonEmpty_ne_failed (h : ∀ v, form v ≠ .error (.failed f)) :
    nonEmpty form v ≠ .error (.failed f) := by
  refine bind_ne_failed (list_ne_failed h) fun xs => ?_
  split <;> nofun

theorem optional_ne_failed (h : form v ≠ .error (.failed f)) :
    optional form v ≠ .error (.failed f) :=
  mt optional_eq_failed h

theorem spelled_ne_failed {default : α} (h : ∀ v, form v ≠ .error (.failed f)) :
    spelled first second form default es ≠ .error (.failed f) := by
  unfold spelled
  split
  · exact under_ne_failed (h _)
  · nofun

theorem textMap_ne_failed : textMap v ≠ .error (.failed f) := by
  unfold textMap
  split
  · refine map_ne_failed (all_ne_failed (List.forall_mem_map.2 fun _ _ => ?_)) _
    exact both_ne_failed (under_ne_failed (under_ne_failed text_ne_failed))
      (under_ne_failed text_ne_failed)
  · nofun

theorem only_ne_failed (known : List String) : only known es ≠ .error (.failed f) := by
  refine map_ne_failed (all_ne_failed (List.forall_mem_map.2 fun ⟨k, v⟩ _ => ?_)) _
  dsimp only
  split
  · split <;> nofun
  · nofun

theorem integer_ne_failed : integer v ≠ .error (.failed f) := by
  unfold integer
  split
  · nofun
  · nofun
  · split
    · nofun
    · split
      · nofun
      · split <;> nofun
  · split
    · split <;> nofun
    · nofun
    · nofun

theorem number_ne_failed : number v ≠ .error (.failed f) := by
  unfold number
  split
  · nofun
  · dsimp only
    split <;> nofun
  · nofun
  · split
    · dsimp only
      split <;> nofun
    · nofun
    · nofun

theorem positive_ne_failed : positive v ≠ .error (.failed f) := by
  refine bind_ne_failed number_ne_failed fun x => ?_
  split <;> nofun

theorem boolean_ne_failed : boolean v ≠ .error (.failed f) := by
  unfold boolean
  split
  · nofun
  · nofun
  · nofun
  · nofun
  · split
    · nofun
    · split <;> nofun
  · split
    · split <;> nofun
    · nofun
    · nofun

theorem entries_ne_failed (model : String) : entries model v ≠ .error (.failed f) := by
  unfold entries
  split <;> nofun

theorem proxyConfig_ne_failed : proxyConfig v ≠ .error (.failed f) := by
  refine bind_ne_failed (entries_ne_failed _) fun es => bind_ne_failed ?_ fun _ => nofun
  exact both_ne_failed (required_ne_failed fun _ => nonEmpty_ne_failed fun _ => text_ne_failed) <|
    both_ne_failed (defaulted_ne_failed fun _ => textMap_ne_failed) <|
    both_ne_failed (defaulted_ne_failed fun _ => integer_ne_failed) <|
    both_ne_failed (spelled_ne_failed fun _ => text_ne_failed) <|
    both_ne_failed (spelled_ne_failed fun _ => boolean_ne_failed) (only_ne_failed _)

/-- What is wrong with a configuration is complained about. -/
theorem runConfig_ne_failed : runConfig v ≠ .error (.failed f) := by
  refine bind_ne_failed (entries_ne_failed _) fun es => bind_ne_failed ?_ fun fields => ?_
  · exact both_ne_failed (defaulted_ne_failed fun _ => optional_ne_failed proxyConfig_ne_failed) <|
      both_ne_failed (spelled_ne_failed fun _ => optional_ne_failed text_ne_failed) <|
      both_ne_failed (spelled_ne_failed fun _ => integer_ne_failed) <|
      both_ne_failed (spelled_ne_failed fun _ => positive_ne_failed) <|
      both_ne_failed (spelled_ne_failed fun _ => positive_ne_failed) (only_ne_failed _)
  · dsimp only
    split <;> nofun

end Schema

end ProxyTrial
