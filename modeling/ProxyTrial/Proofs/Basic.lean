/-!
# Results of readers

A reader answers with an error or with what it has read. Readers are put together by `do` blocks;
a block succeeds exactly if every one of its steps does.
-/

namespace ProxyTrial

variable {ε α β : Type}

theorem bind_eq_ok {x : Except ε α} {f : α → Except ε β} {b : β} :
    x >>= f = .ok b ↔ ∃ a, x = .ok a ∧ f a = .ok b := by
  cases x <;> simp [bind, Except.bind]

theorem bind_eq_error {x : Except ε α} {f : α → Except ε β} {e : ε} :
    x >>= f = .error e ↔ x = .error e ∨ ∃ a, x = .ok a ∧ f a = .error e := by
  cases x <;> simp [bind, Except.bind]

theorem pure_eq_ok {a b : α} : (pure a : Except ε α) = .ok b ↔ a = b := by
  simp [pure, Except.pure]

theorem ok_bind (a : α) (f : α → Except ε β) : (Except.ok a >>= f) = f a := rfl

theorem mapError_eq_ok {ε' : Type} {x : Except ε α} {f : ε → ε'} {a : α} :
    x.mapError f = .ok a ↔ x = .ok a := by
  cases x with
  | error e => exact iff_of_false (fun h => nomatch h) (fun h => nomatch h)
  | ok b =>
    constructor <;>
    · intro h
      cases h
      rfl

theorem mapError_eq_error {ε' : Type} {x : Except ε α} {f : ε → ε'} {e : ε'} :
    x.mapError f = .error e ↔ ∃ e', x = .error e' ∧ f e' = e := by
  cases x with
  | error e' => exact ⟨fun h => ⟨e', rfl, Except.error.inj h⟩,
      fun ⟨_, h, hf⟩ => congrArg _ (Except.error.inj h ▸ hf)⟩
  | ok a => exact iff_of_false (fun h => nomatch h) (fun ⟨_, h, _⟩ => nomatch h)

theorem map_eq_ok {x : Except ε α} {f : α → β} {b : β} :
    x.map f = .ok b ↔ ∃ a, x = .ok a ∧ f a = b := by
  cases x <;> simp [Except.map]

theorem map_eq_error {x : Except ε α} {f : α → β} {e : ε} :
    x.map f = .error e ↔ x = .error e := by
  cases x <;> simp [Except.map]

/-- What follows a computation has to agree on its results only. -/
theorem bind_congr_of_ok {x : Except ε α} {f g : α → Except ε β} (h : ∀ a, x = .ok a → f a = g a) :
    x >>= f = x >>= g := by
  cases x with
  | error e => rfl
  | ok a => exact h a rfl

/-- A computation that succeeds on each element succeeds on the list. -/
theorem mapM_eq_ok_map {f : α → Except ε β} {g : α → β} {xs : List α}
    (h : ∀ x ∈ xs, f x = .ok (g x)) : xs.mapM f = .ok (xs.map g) := by
  induction xs with
  | nil => rfl
  | cons x xs ih =>
    rw [List.forall_mem_cons] at h
    rw [List.mapM_cons, h.1, ok_bind, ih h.2]
    rfl

/-- A computation that fails on a list fails on one of its elements. -/
theorem mapM_eq_error {f : α → Except ε β} {xs : List α} {e : ε} (h : xs.mapM f = .error e) :
    ∃ x ∈ xs, f x = .error e := by
  induction xs with
  | nil => cases h
  | cons x xs ih =>
    rw [List.mapM_cons] at h
    rcases bind_eq_error.1 h with hx | ⟨y, -, h⟩
    · exact ⟨x, List.mem_cons_self, hx⟩
    · rcases bind_eq_error.1 h with hxs | ⟨ys, -, h⟩
      · obtain ⟨x', hmem, hx'⟩ := ih hxs
        exact ⟨x', List.mem_cons_of_mem _ hmem, hx'⟩
      · cases h

/-! ## Errors -/

/-- All errors that a computation may end with have a property. -/
def FailsOnly (P : ε → Prop) (x : Except ε α) : Prop := ∀ e, x = .error e → P e

section FailsOnly

variable {ε' : Type} {P : ε → Prop}

theorem failsOnly_ok (a : α) : FailsOnly P (.ok a) := fun _ h => nomatch h

theorem failsOnly_error {e : ε} (h : P e) : FailsOnly P (.error e : Except ε α) :=
  fun _ he => Except.error.inj he ▸ h

theorem FailsOnly.bind {x : Except ε α} {f : α → Except ε β} (hx : FailsOnly P x)
    (hf : ∀ a, FailsOnly P (f a)) : FailsOnly P (x >>= f) := by
  intro e he
  rcases bind_eq_error.1 he with he | ⟨a, -, he⟩
  · exact hx e he
  · exact hf a e he

theorem FailsOnly.map {x : Except ε α} (h : FailsOnly P x) (f : α → β) : FailsOnly P (x.map f) :=
  fun e he => h e (map_eq_error.1 he)

theorem failsOnly_mapM {f : α → Except ε β} (h : ∀ a, FailsOnly P (f a)) (as : List α) :
    FailsOnly P (as.mapM f) := by
  induction as with
  | nil => exact failsOnly_ok _
  | cons a as ih =>
    rw [List.mapM_cons]
    exact (h a).bind fun _ => ih.bind fun _ => failsOnly_ok _

theorem failsOnly_mapError {f : ε' → ε} (h : ∀ e, P (f e)) (x : Except ε' α) :
    FailsOnly P (x.mapError f) := by
  intro e he
  obtain ⟨e', -, rfl⟩ := mapError_eq_error.1 he
  exact h e'

end FailsOnly

/-! ## Two computations -/

/-- Two computations succeed with results that are related, or fail both. -/
inductive Agree {ε ε' α β : Type} (R : α → β → Prop) : Except ε α → Except ε' β → Prop
  | ok {a : α} {b : β} (related : R a b) : Agree R (.ok a) (.ok b)
  | error (e : ε) (e' : ε') : Agree R (.error e) (.error e')

section Agree

variable {ε' α' β' : Type} {R : α → α' → Prop} {S : β → β' → Prop}

theorem Agree.refl {x : Except ε α} {R : α → α → Prop} (h : ∀ a, R a a) : Agree R x x := by
  cases x with
  | error e => exact .error e e
  | ok a => exact .ok (h a)

theorem Agree.bind {x : Except ε α} {y : Except ε' α'} {f : α → Except ε β} {g : α' → Except ε' β'}
    (hx : Agree R x y) (hf : ∀ a b, R a b → Agree S (f a) (g b)) : Agree S (x >>= f) (y >>= g) := by
  cases hx with
  | error e e' => exact .error e e'
  | ok h => exact hf _ _ h

theorem Agree.mapError {ε₁ ε₁' : Type} {x : Except ε α} {y : Except ε' α'} (h : Agree R x y)
    (f : ε → ε₁) (g : ε' → ε₁') : Agree R (x.mapError f) (y.mapError g) := by
  cases h with
  | error e e' => exact .error _ _
  | ok h => exact .ok h

/-- Computations that come to the same results agree in them. -/
theorem Agree.of_map_eq {x y : Except ε α} {f : α → β} (h : x.map f = y.map f) :
    Agree (fun a b => f a = f b) x y := by
  cases x with
  | error e =>
    cases y with
    | error e' => exact .error e e'
    | ok b => cases h
  | ok a =>
    cases y with
    | error e' => cases h
    | ok b => exact .ok (Except.ok.inj h)

theorem Agree.toOption_eq {x : Except ε α} {y : Except ε' α} (h : Agree Eq x y) :
    x.toOption = y.toOption := by
  cases h with
  | error e e' => rfl
  | ok h => exact congrArg some h

end Agree

end ProxyTrial
