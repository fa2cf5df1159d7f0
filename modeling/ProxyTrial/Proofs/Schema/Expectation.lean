import ProxyTrial.Proofs.Script.Readers
import ProxyTrial.Script.Model
import ProxyTrial.Verdict
/-!
# Expectations from data

An expectation comes from a text or from data. Both ways its pattern should be that of the expected
value. Data may leave the pattern out, and then it is made from the value before the value has been
checked; or it may bring a pattern of its own, which nothing holds against the value.

## Main definitions

* `Expectation.StatedBy es`: the fields in the data are those of the expectation
* `Expectation.PatternIn es`: the data has the pattern, or leaves it to the expected value
* `Expectation.Lawful`: the pattern is that of the expected value
* `Schema.Slip es r`: what data comes to otherwise

## Main results

* `Schema.expectation_eq_ok_iff`: the expectations that come from data
* `Schema.expectation_outcome`: what data comes to
* `Script.lawful_readExpect`: expectations that are read
-/

namespace ProxyTrial

/-- The name of the header that a subject is. -/
def Subject.name? : Subject → Option String
  | .header name => some name
  | _ => none

/-- The pattern of a comparison. -/
def Comparison.pattern? : Comparison → Option Pattern
  | .contains p => some p
  | _ => none

theorem Comparison.pattern?_eq_some {c : Comparison} {p : Pattern} :
    c.pattern? = some p ↔ c = .contains p := by
  cases c <;> simp [Comparison.pattern?]

/-- A comparison with a pattern is written as a tilde. -/
theorem Comparison.word_eq_tilde {c : Comparison} : c.word = "~" ↔ ∃ p, c.pattern? = some p := by
  cases c <;> simp [Comparison.word, Comparison.pattern?]

namespace Schema

open Checked

variable {α β : Type} {form : Value → Checked α} {es : List (Value × Value)} {v : Value} {a : α}
  {name : String} {f : Failure}

/-! ## Fields -/

/-- A field is not there, or null. -/
def Omitted (name : String) (es : List (Value × Value)) : Prop :=
  Value.entry? name es = none ∨ Value.entry? name es = some .null

theorem under_eq_ok {step : Step} {c : Checked α} : c.under step = .ok a ↔ c = .ok a := by
  unfold under
  split <;> simp

theorem under_eq_failed {step : Step} {c : Checked α} :
    c.under step = .error (.failed f) ↔ c = .error (.failed f) := by
  unfold under
  split <;> simp

theorem both_eq_ok {c : Checked α} {d : Checked β} {b : β} :
    both c d = .ok (a, b) ↔ c = .ok a ∧ d = .ok b := by
  unfold both
  split <;> simp

theorem both_eq_failed {c : Checked α} {d : Checked β} (h : both c d = .error (.failed f)) :
    c = .error (.failed f) ∨ d = .error (.failed f) := by
  unfold both at h
  split at h <;> cases h
  · exact .inl rfl
  · exact .inr rfl

theorem required_eq_ok : required name form es = .ok a ↔
    ∃ v, Value.entry? name es = some v ∧ form v = .ok a := by
  unfold required
  split
  · next v hv => simp [hv, under_eq_ok]
  · next hv => simp [hv, refuse, under]

theorem defaulted_eq_ok {default : α} : defaulted name form default es = .ok a ↔
    (Value.entry? name es = none ∧ a = default) ∨
      ∃ v, Value.entry? name es = some v ∧ form v = .ok a := by
  unfold defaulted
  split
  · next v hv => simp [hv, under_eq_ok]
  · next hv => simp [hv, eq_comm]

theorem optional_eq_ok_none : optional form v = .ok none ↔ v = .null := by
  unfold optional
  split
  · simp
  · next hv =>
    refine iff_of_false (fun h => ?_) hv
    obtain ⟨a, -, ha⟩ := map_eq_ok.1 h
    cases ha

theorem optional_eq_ok_some : optional form v = .ok (some a) ↔ v ≠ .null ∧ form v = .ok a := by
  unfold optional
  split
  · simp
  · next hv =>
    rw [map_eq_ok]
    simpa using fun _ => hv

theorem defaulted_optional_none :
    defaulted name (optional form) none es = .ok none ↔ Omitted name es := by
  simp [defaulted_eq_ok, optional_eq_ok_none, Omitted]

theorem defaulted_optional_some : defaulted name (optional form) none es = .ok (some a) ↔
    ∃ v, Value.entry? name es = some v ∧ v ≠ .null ∧ form v = .ok a := by
  simp [defaulted_eq_ok, optional_eq_ok_some]

theorem choice_eq_ok {choices : String} {table : List (String × α)} :
    choice choices table v = .ok a ↔ ∃ s, v = .text s ∧ table.lookup s = some a := by
  unfold choice
  split
  · next s =>
    split
    · next b hb => simp [hb]
    · next hb => simp [hb, refuse]
  · next hv => exact iff_of_false (fun h => nomatch h) fun ⟨s, hs, _⟩ => hv s hs

theorem required_choice {choices : String} {table : List (String × α)} :
    required name (choice choices table) es = .ok a ↔
      ∃ s, Value.entry? name es = some (.text s) ∧ table.lookup s = some a := by
  simp only [required_eq_ok, choice_eq_ok]
  constructor
  · rintro ⟨_, hentry, s, rfl, hlookup⟩
    exact ⟨s, hentry, hlookup⟩
  · rintro ⟨s, hentry, hlookup⟩
    exact ⟨_, hentry, s, rfl, hlookup⟩

theorem pattern_eq_ok {p : Pattern} :
    pattern v = .ok p ↔ ∃ s, v = .text s ∧ Pattern.ofText s = .ok p := by
  unfold pattern
  split
  · next s =>
    split
    · next q hq => simp [hq]
    · next e he =>
      refine iff_of_false (fun h => ?_) (by simp [he])
      split at h <;> cases h
  · next hv => exact iff_of_false (fun h => nomatch h) fun ⟨s, hs, _⟩ => hv s hs

theorem patternOf_eq_ok {input : Value} {p : Pattern} :
    patternOf input v = .ok p ↔ ∃ s, v = .text s ∧ Pattern.ofText s = .ok p := by
  unfold patternOf
  split
  · next s =>
    split
    · next q hq => simp [hq]
    · next e he =>
      refine iff_of_false (fun h => ?_) (by simp [he])
      split at h <;> cases h
  · next hv =>
    refine iff_of_false (fun h => ?_) fun ⟨s, hs, _⟩ => hv s hs
    split at h <;> cases h

/-! ## Words -/

theorem mem_of_lookup {s : String} {table : List (String × α)} (h : table.lookup s = some a) :
    (s, a) ∈ table := by
  obtain ⟨before, after, rfl, -⟩ := List.lookup_eq_some_iff.1 h
  exact List.mem_append_right before List.mem_cons_self

theorem sides_lookup {s : String} {side : Side} :
    sides.lookup s = some side ↔ s = side.word := by
  constructor
  · intro h
    have hmem := mem_of_lookup h
    simp only [sides, List.mem_cons, Prod.mk.injEq, List.not_mem_nil, or_false] at hmem
    rcases hmem with ⟨rfl, rfl⟩ | ⟨rfl, rfl⟩ <;> rfl
  · rintro rfl
    cases side <;> rfl

/-- A word and a name tell a subject. -/
theorem subject_iff {s : String} {name : Option String} {subject : Subject} :
    (∃ field, fields.lookup s = some field ∧ subjectOf field name = some subject) ↔
      s = subject.word ∧ name = subject.name? := by
  constructor
  · rintro ⟨field, hfield, hsubject⟩
    have hmem := mem_of_lookup hfield
    simp only [fields, List.mem_cons, Prod.mk.injEq, List.not_mem_nil, or_false] at hmem
    rcases hmem with ⟨rfl, rfl⟩ | ⟨rfl, rfl⟩ | ⟨rfl, rfl⟩ | ⟨rfl, rfl⟩ <;>
      cases name <;> cases hsubject <;> exact ⟨rfl, rfl⟩
  · rintro ⟨rfl, rfl⟩
    cases subject <;> exact ⟨_, rfl, rfl⟩

/-- A word and a pattern tell a comparison. -/
theorem comparison_iff {s : String} {given : Option Pattern} {comparison : Comparison} :
    (∃ operator, operators.lookup s = some operator ∧
      comparisonOf operator given = some comparison) ↔
      s = comparison.word ∧ given = comparison.pattern? := by
  constructor
  · rintro ⟨operator, hoperator, hcomparison⟩
    have hmem := mem_of_lookup hoperator
    simp only [operators, List.mem_cons, Prod.mk.injEq, List.not_mem_nil, or_false] at hmem
    rcases hmem with ⟨rfl, rfl⟩ | ⟨rfl, rfl⟩ | ⟨rfl, rfl⟩ <;>
      cases given <;> cases hcomparison <;> exact ⟨rfl, rfl⟩
  · rintro ⟨rfl, rfl⟩
    cases comparison <;> exact ⟨_, rfl, rfl⟩

/-! ## Patterns -/

/-- Data without a pattern that asks for one. -/
def Asks (es : List (Value × Value)) : Prop :=
  Omitted "pattern" es ∧ Value.entry? "operator" es = some (.text "~")

theorem impliedPattern_of_asks (h : Asks es) : impliedPattern v es =
    (patternOf v ((Value.entry? "expected" es).getD (.text ""))).map some := by
  obtain ⟨homitted, hoperator⟩ := h
  unfold impliedPattern
  rw [hoperator]
  rcases homitted with hp | hp <;> rw [hp] <;> rfl

theorem impliedPattern_of_not_asks (h : ¬ Asks es) : impliedPattern v es = .ok none := by
  unfold impliedPattern
  refine if_neg fun hcond => h ?_
  obtain ⟨hgiven, hasked⟩ := (Bool.and_eq_true _ _).mp hcond
  constructor
  · split at hgiven
    · next hp => exact .inl hp
    · next hp => exact .inr hp
    · cases hgiven
  · split at hasked
    · next s hs =>
      have hmem := mem_of_lookup (eq_of_beq hasked)
      simp only [operators, List.mem_cons, Prod.mk.injEq, List.not_mem_nil, or_false] at hmem
      rcases hmem with ⟨-, ⟨⟩⟩ | ⟨-, ⟨⟩⟩ | ⟨rfl, -⟩
      exact hs
    · cases hasked

end Schema

/-- The fields in the data are those of the expectation. -/
structure Expectation.StatedBy (e : Expectation) (es : List (Value × Value)) : Prop where
  side : Value.entry? "side" es = some (.text e.side.word)
  field : Value.entry? "field" es = some (.text e.subject.word)
  /-- A header has its name in the data, and nothing else has one. -/
  name : match e.subject.name? with
    | some name =>
      ∃ v, Value.entry? "header_name" es = some v ∧ v ≠ .null ∧ Schema.text v = .ok name
    | none => Schema.Omitted "header_name" es
  operator : Value.entry? "operator" es = some (.text e.comparison.word)
  expected : ∃ v, Value.entry? "expected" es = some v ∧ Schema.text v = .ok e.expected
  verbatim : (Value.entry? "verbatim" es = none ∧ e.verbatim = "") ∨
    ∃ v, Value.entry? "verbatim" es = some v ∧ Schema.text v = .ok e.verbatim

/-- The data has the text of the pattern, or leaves it to the expected value. -/
inductive Expectation.PatternIn (e : Expectation) (es : List (Value × Value)) : Prop
  | none : e.comparison.pattern? = none → Schema.Omitted "pattern" es → e.PatternIn es
  | given {p : Pattern} {s : String} : e.comparison.pattern? = some p →
      Value.entry? "pattern" es = some (.text s) → Pattern.ofText s = .ok p → e.PatternIn es
  | implied {p : Pattern} : e.comparison.pattern? = some p → Schema.Omitted "pattern" es →
      Value.entry? "expected" es = some (.text e.expected) → Pattern.ofText e.expected = .ok p →
      e.PatternIn es

namespace Schema

open Checked

variable {es : List (Value × Value)} {v : Value} {e : Expectation} {f : Failure}

/-! ## Expectations -/

/-- The fields of an expectation one by one. -/
abbrev ExpectationFields :=
  Side × Field × Option String × Operator × String × String × Option Pattern

/-- The pattern that is implied, or else the one given. -/
def givenPattern (es : List (Value × Value)) : Option Pattern → Checked (Option Pattern)
  | some p => .ok (some p)
  | none => defaulted "pattern" (optional pattern) none es

/-- Checks the fields of an expectation one by one. -/
def expectationFields (es : List (Value × Value)) (implied : Option Pattern) :
    Checked ExpectationFields :=
  both (required "side" (choice "'req' or 'resp'" sides) es) <|
  both (required "field" (choice "'method', 'status', 'headers' or 'body'" fields) es) <|
  both (defaulted "header_name" (optional text) none es) <|
  both (required "operator" (choice "'eq', 'ne' or '~'" operators) es) <|
  both (required "expected" text es) <|
  both (defaulted "verbatim" text "" es)
    (givenPattern es implied)

/-- Checks the rules that join the fields of an expectation. -/
def joined (v : Value) : ExpectationFields → Checked Expectation
  | (side, field, name, operator, expected, verbatim, given) => do
    let some subject := subjectOf field name
      | refuse (.broken "header_name must be set if and only if field is 'headers'") v
    let some comparison := comparisonOf operator given
      | refuse (.broken "pattern must be set if and only if operator is '~'") v
    return { side, subject, comparison, expected, verbatim }

theorem expectation_map (es : List (Value × Value)) :
    expectation (.map es) = impliedPattern (.map es) es >>= fun implied =>
      expectationFields es implied >>= joined (.map es) := rfl

theorem expectationFields_eq_ok {implied given : Option Pattern} {side : Side} {field : Field}
    {name : Option String} {operator : Operator} {expected verbatim : String} :
    expectationFields es implied = .ok (side, field, name, operator, expected, verbatim, given) ↔
      required "side" (choice "'req' or 'resp'" sides) es = .ok side ∧
      required "field" (choice "'method', 'status', 'headers' or 'body'" fields) es = .ok field ∧
      defaulted "header_name" (optional text) none es = .ok name ∧
      required "operator" (choice "'eq', 'ne' or '~'" operators) es = .ok operator ∧
      required "expected" text es = .ok expected ∧
      defaulted "verbatim" text "" es = .ok verbatim ∧ givenPattern es implied = .ok given := by
  simp only [expectationFields, both_eq_ok]

theorem joined_eq_ok {given : Option Pattern} {side : Side} {field : Field}
    {name : Option String} {operator : Operator} {expected verbatim : String} :
    joined v (side, field, name, operator, expected, verbatim, given) = .ok e ↔
      subjectOf field name = some e.subject ∧ comparisonOf operator given = some e.comparison ∧
        side = e.side ∧ expected = e.expected ∧ verbatim = e.verbatim := by
  obtain ⟨side', subject', comparison', expected', verbatim'⟩ := e
  simp only [joined]
  cases subjectOf field name with
  | none => simp [refuse]
  | some subject =>
    cases comparisonOf operator given with
    | none => simp [refuse]
    | some comparison =>
      simp only [pure_eq_ok, Expectation.mk.injEq, Option.some.injEq]
      exact ⟨fun ⟨a, b, c, d⟩ => ⟨b, c, a, d⟩, fun ⟨b, c, a, d⟩ => ⟨a, b, c, d⟩⟩

theorem defaulted_name {name : Option String} :
    defaulted "header_name" (optional text) none es = .ok name ↔
      match name with
      | some name => ∃ v, Value.entry? "header_name" es = some v ∧ v ≠ .null ∧ text v = .ok name
      | none => Omitted "header_name" es := by
  cases name with
  | none => exact defaulted_optional_none
  | some name => exact defaulted_optional_some

theorem Omitted.ne_text {name s : String} (h : Omitted name es) :
    Value.entry? name es ≠ some (.text s) := by
  rcases h with h | h <;> rw [h] <;> simp

/-- Data that asks for a pattern implies that of the expected text. -/
theorem implied_iff (hasks : Asks es) {w : Value} (hw : Value.entry? "expected" es = some w)
    (htext : text w = .ok e.expected) {p : Pattern} (hp : e.comparison.pattern? = some p) :
    (∃ implied, impliedPattern v es = .ok implied ∧
      givenPattern es implied = .ok e.comparison.pattern?) ↔ e.PatternIn es := by
  have hmade : (∃ implied, impliedPattern v es = .ok implied ∧
      givenPattern es implied = .ok e.comparison.pattern?) ↔ patternOf v w = .ok p := by
    rw [impliedPattern_of_asks hasks, hw, Option.getD_some, hp]
    cases patternOf v w <;> simp [Except.map, givenPattern]
  rw [hmade, patternOf_eq_ok]
  constructor
  · rintro ⟨s, rfl, hs⟩
    obtain rfl : s = e.expected := Except.ok.inj htext
    exact .implied hp hasks.1 hw hs
  · rintro (⟨hnone, -⟩ | ⟨-, hgiven, -⟩ | ⟨hp', -, hexpected, hmatch⟩)
    · rw [hp] at hnone
      cases hnone
    · exact absurd hgiven hasks.1.ne_text
    · obtain rfl := Option.some.inj (hp.symm.trans hp')
      exact ⟨_, Option.some.inj (hw.symm.trans hexpected), hmatch⟩

/-- Other data has to give the pattern. -/
theorem given_iff (hasks : ¬ Asks es)
    (hoperator : Value.entry? "operator" es = some (.text e.comparison.word)) :
    (∃ implied, impliedPattern v es = .ok implied ∧
      givenPattern es implied = .ok e.comparison.pattern?) ↔ e.PatternIn es := by
  have hgiven : (∃ implied, impliedPattern v es = .ok implied ∧
      givenPattern es implied = .ok e.comparison.pattern?) ↔
      defaulted "pattern" (optional pattern) none es = .ok e.comparison.pattern? := by
    simp [impliedPattern_of_not_asks hasks, givenPattern]
  rw [hgiven]
  -- The pattern may be left out if the comparison has none.
  cases hp : e.comparison.pattern? with
  | none =>
    rw [defaulted_optional_none]
    refine ⟨.none hp, ?_⟩
    rintro (⟨-, homitted⟩ | ⟨hp', -⟩ | ⟨-, homitted, -⟩)
    · exact homitted
    · cases hp.symm.trans hp'
    · exact homitted
  | some p =>
    rw [defaulted_optional_some]
    constructor
    · rintro ⟨w, hw, -, hpattern⟩
      obtain ⟨s, rfl, hs⟩ := pattern_eq_ok.1 hpattern
      exact .given hp hw hs
    · rintro (⟨hnone, -⟩ | ⟨hp', hw, hs⟩ | ⟨-, homitted, -⟩)
      · cases hnone.symm.trans hp
      · obtain rfl := Option.some.inj (hp.symm.trans hp')
        exact ⟨_, hw, nofun, pattern_eq_ok.2 ⟨_, rfl, hs⟩⟩
      · -- The operator goes with a pattern, so that the data would ask for one.
        have hword := Comparison.word_eq_tilde.2 ⟨p, hp⟩
        exact absurd ⟨homitted, hword ▸ hoperator⟩ hasks

/-- Data that states an expectation has its pattern exactly if that is what it gives or implies. -/
theorem patternIn_iff (h : e.StatedBy es) :
    (∃ implied, impliedPattern v es = .ok implied ∧
      givenPattern es implied = .ok e.comparison.pattern?) ↔ e.PatternIn es := by
  by_cases hasks : Asks es
  · obtain ⟨w, hw, htext⟩ := h.expected
    obtain ⟨p, hp⟩ : ∃ p, e.comparison.pattern? = some p := by
      have hword := h.operator.symm.trans hasks.2
      rwa [Option.some.injEq, Value.text.injEq, Comparison.word_eq_tilde] at hword
    exact implied_iff hasks hw htext hp
  · exact given_iff hasks h.operator

/-- Data comes to an expectation exactly if it states its fields and has its pattern. -/
theorem expectation_eq_ok_iff :
    expectation (.map es) = .ok e ↔ e.StatedBy es ∧ e.PatternIn es := by
  rw [expectation_map]
  constructor
  · intro h
    obtain ⟨implied, himplied, ⟨side, field, name, operator, expected, verbatim, given⟩, hfields,
      hjoined⟩ := by simpa only [bind_eq_ok] using h
    obtain ⟨hside, hfield, hname, hoperator, hexpected, hverbatim, hgiven⟩ :=
      expectationFields_eq_ok.1 hfields
    obtain ⟨hsubject, hcomparison, rfl, rfl, rfl⟩ := joined_eq_ok.1 hjoined
    obtain ⟨_, hside, hlookup⟩ := required_choice.1 hside
    obtain rfl := sides_lookup.1 hlookup
    obtain ⟨_, hfield, hlookup⟩ := required_choice.1 hfield
    obtain ⟨rfl, rfl⟩ := subject_iff.1 ⟨field, hlookup, hsubject⟩
    obtain ⟨_, hoperator, hlookup⟩ := required_choice.1 hoperator
    obtain ⟨rfl, rfl⟩ := comparison_iff.1 ⟨operator, hlookup, hcomparison⟩
    have hstated : e.StatedBy es := {
      side := hside
      field := hfield
      name := defaulted_name.1 hname
      operator := hoperator
      expected := required_eq_ok.1 hexpected
      verbatim := defaulted_eq_ok.1 hverbatim }
    exact ⟨hstated, (patternIn_iff hstated).1 ⟨implied, himplied, hgiven⟩⟩
  · rintro ⟨hstated, hpattern⟩
    obtain ⟨implied, himplied, hgiven⟩ := (patternIn_iff hstated).2 hpattern
    obtain ⟨field, hfield, hsubject⟩ := subject_iff.2 (⟨rfl, rfl⟩ : _ ∧ e.subject.name? = _)
    obtain ⟨operator, hoperator, hcomparison⟩ :=
      comparison_iff.2 (⟨rfl, rfl⟩ : _ ∧ e.comparison.pattern? = _)
    have hfields : expectationFields es implied = .ok (e.side, field, e.subject.name?, operator,
        e.expected, e.verbatim, e.comparison.pattern?) :=
      expectationFields_eq_ok.2 ⟨required_choice.2 ⟨_, hstated.side, sides_lookup.2 rfl⟩,
        required_choice.2 ⟨_, hstated.field, hfield⟩, defaulted_name.2 hstated.name,
        required_choice.2 ⟨_, hstated.operator, hoperator⟩, required_eq_ok.2 hstated.expected,
        defaulted_eq_ok.2 hstated.verbatim, hgiven⟩
    rw [himplied, ok_bind, hfields, ok_bind]
    exact joined_eq_ok.2 ⟨hsubject, hcomparison, rfl, rfl, rfl⟩

/-! ## Failures -/

/-- The text is compiled: it is given as a pattern, or implied to be one. -/
def Compiles (es : List (Value × Value)) (s : String) : Prop :=
  Value.entry? "pattern" es = some (.text s) ∨
    Asks es ∧ Value.entry? "expected" es = some (.text s)

/-- What data comes to if its pattern is given and not that of the expected value, if it asks for
the pattern of a value that is no text, and if a repetition in its pattern is too large. -/
inductive Slip (es : List (Value × Value)) : Checked Expectation → Prop
  | otherText {e : Expectation} {p : Pattern} {s : String} : e.comparison = .contains p →
      Value.entry? "pattern" es = some (.text s) → Pattern.ofText s = .ok p → s ≠ e.expected →
      Slip es (.ok e)
  | notText {w : Value} : Asks es → Value.entry? "expected" es = some w → (∀ s, w ≠ .text s) →
      Slip es (.error (.failed (if w.isKey then .notAPattern else .unhashable w.typeName)))
  | largeRepeat {s : String} : Compiles es s → Pattern.ofText s = .error .largeRepeat →
      Slip es (.error (.failed (.pattern .largeRepeat)))

theorem text_ne_failed : text v ≠ .error (.failed f) := by
  unfold text
  split <;> simp [refuse]

theorem choice_ne_failed {α : Type} {choices : String} {table : List (String × α)} :
    choice choices table v ≠ .error (.failed f) := by
  unfold choice
  split
  · split <;> simp [refuse]
  · simp [refuse]

theorem required_ne_failed {α : Type} {form : Value → Checked α} {name : String}
    (h : ∀ v, form v ≠ .error (.failed f)) : required name form es ≠ .error (.failed f) := by
  unfold required
  split
  · rw [ne_eq, under_eq_failed]
    exact h _
  · simp [refuse, under]

theorem defaulted_eq_failed {α : Type} {form : Value → Checked α} {name : String} {default : α}
    (h : defaulted name form default es = .error (.failed f)) :
    ∃ v, Value.entry? name es = some v ∧ form v = .error (.failed f) := by
  unfold defaulted at h
  split at h
  · next v hv => exact ⟨v, hv, under_eq_failed.1 h⟩
  · cases h

theorem defaulted_ne_failed {α : Type} {form : Value → Checked α} {name : String} {default : α}
    (h : ∀ v, form v ≠ .error (.failed f)) :
    defaulted name form default es ≠ .error (.failed f) := by
  intro hfailed
  obtain ⟨w, -, hw⟩ := defaulted_eq_failed hfailed
  exact h w hw

theorem optional_eq_failed {α : Type} {form : Value → Checked α}
    (h : optional form v = .error (.failed f)) : form v = .error (.failed f) := by
  unfold optional at h
  split at h
  · cases h
  · exact map_eq_error.1 h

theorem pattern_eq_failed (h : pattern v = .error (.failed f)) :
    ∃ s, v = .text s ∧ Pattern.ofText s = .error .largeRepeat ∧ f = .pattern .largeRepeat := by
  unfold pattern at h
  split at h
  · next s =>
    split at h
    · cases h
    · next e he =>
      split at h <;> cases h
      exact ⟨s, rfl, he, rfl⟩
  · cases h

theorem patternOf_eq_failed {input : Value} (h : patternOf input v = .error (.failed f)) :
    (∃ s, v = .text s ∧ Pattern.ofText s = .error .largeRepeat ∧ f = .pattern .largeRepeat) ∨
      (∀ s, v ≠ .text s) ∧ f = if v.isKey then .notAPattern else .unhashable v.typeName := by
  unfold patternOf at h
  split at h
  · next s =>
    split at h
    · cases h
    · next e he =>
      split at h <;> cases h
      exact .inl ⟨s, rfl, he, rfl⟩
  · next hv =>
    refine .inr ⟨hv, ?_⟩
    split at h <;> cases h <;> simp [*]

theorem givenPattern_eq_failed {implied : Option Pattern}
    (h : givenPattern es implied = .error (.failed f)) :
    ∃ s, Value.entry? "pattern" es = some (.text s) ∧ Pattern.ofText s = .error .largeRepeat ∧
      f = .pattern .largeRepeat := by
  cases implied with
  | some p => cases h
  | none =>
    obtain ⟨w, hw, hfailed⟩ := defaulted_eq_failed h
    obtain ⟨s, rfl, hs, rfl⟩ := pattern_eq_failed (optional_eq_failed hfailed)
    exact ⟨s, hw, hs, rfl⟩

/-- Of the fields only the pattern can fail. -/
theorem expectationFields_eq_failed {implied : Option Pattern}
    (h : expectationFields es implied = .error (.failed f)) :
    ∃ s, Value.entry? "pattern" es = some (.text s) ∧ Pattern.ofText s = .error .largeRepeat ∧
      f = .pattern .largeRepeat := by
  rcases both_eq_failed h with h | h
  · exact absurd h (required_ne_failed fun _ => choice_ne_failed)
  rcases both_eq_failed h with h | h
  · exact absurd h (required_ne_failed fun _ => choice_ne_failed)
  rcases both_eq_failed h with h | h
  · exact absurd h (defaulted_ne_failed fun _ h => text_ne_failed (optional_eq_failed h))
  rcases both_eq_failed h with h | h
  · exact absurd h (required_ne_failed fun _ => choice_ne_failed)
  rcases both_eq_failed h with h | h
  · exact absurd h (required_ne_failed fun _ => text_ne_failed)
  rcases both_eq_failed h with h | h
  · exact absurd h (defaulted_ne_failed fun _ => text_ne_failed)
  · exact givenPattern_eq_failed h

theorem joined_ne_failed (x : ExpectationFields) : joined v x ≠ .error (.failed f) := by
  obtain ⟨side, field, name, operator, expected, verbatim, given⟩ := x
  simp only [joined]
  cases subjectOf field name with
  | none => simp [refuse]
  | some subject => cases comparisonOf operator given <;> simp [refuse, pure, Except.pure]

theorem impliedPattern_eq_failed (h : impliedPattern v es = .error (.failed f)) :
    Slip es (.error (.failed f)) := by
  by_cases hasks : Asks es
  · rw [impliedPattern_of_asks hasks, map_eq_error] at h
    cases hexpected : Value.entry? "expected" es with
    | none =>
      -- The empty text takes the place of a value that is missing.
      rw [hexpected] at h
      rcases patternOf_eq_failed h with ⟨s, hs, hlarge, -⟩ | ⟨hne, -⟩
      · cases hs
        cases hlarge
      · exact absurd rfl (hne "")
    | some w =>
      rw [hexpected, Option.getD_some] at h
      rcases patternOf_eq_failed h with ⟨s, rfl, hlarge, rfl⟩ | ⟨hne, rfl⟩
      · exact .largeRepeat (.inr ⟨hasks, hexpected⟩) hlarge
      · exact .notText hasks hexpected hne
  · rw [impliedPattern_of_not_asks hasks] at h
    cases h

theorem expectation_eq_failed (h : expectation (.map es) = .error (.failed f)) :
    Slip es (.error (.failed f)) := by
  rw [expectation_map] at h
  rcases bind_eq_error.1 h with himplied | ⟨implied, -, h⟩
  · exact impliedPattern_eq_failed himplied
  · rcases bind_eq_error.1 h with hfields | ⟨x, -, h⟩
    · obtain ⟨s, hs, hlarge, hf⟩ := expectationFields_eq_failed hfields
      exact hf ▸ .largeRepeat (.inl hs) hlarge
    · exact absurd h (joined_ne_failed x)

end Schema

/-! ## The pattern of an expectation -/

/-- The pattern of an expectation is that of its expected value. -/
structure Expectation.Lawful (e : Expectation) : Prop where
  compiled : ∀ p, e.comparison = .contains p → Pattern.ofText e.expected = .ok p

namespace Expectation.Lawful

variable {e e' : Expectation}

/-- What is searched for is the expected value. -/
theorem check_eq (h : e.Lawful) (hword : e.comparison.word = "~") :
    ∃ p, Pattern.ofText e.expected = .ok p ∧
      ∀ m, e.check m = (e.actual m).map fun actual => ⟨e, p.occursIn actual, actual⟩ := by
  cases hc : e.comparison with
  | equal | differs => simp [hc, Comparison.word] at hword
  | contains p =>
    refine ⟨p, h.compiled p hc, fun m => ?_⟩
    simp only [check, admits, hc]

/-- The fields of an expectation determine its pattern. -/
theorem ext (h : e.Lawful) (h' : e'.Lawful) (hside : e.side = e'.side)
    (hsubject : e.subject = e'.subject) (hword : e.comparison.word = e'.comparison.word)
    (hexpected : e.expected = e'.expected) (hverbatim : e.verbatim = e'.verbatim) : e = e' := by
  obtain ⟨side, subject, comparison, expected, verbatim⟩ := e
  obtain ⟨side', subject', comparison', expected', verbatim'⟩ := e'
  obtain ⟨rfl, rfl, rfl, rfl⟩ := (⟨hside, hsubject, hexpected, hverbatim⟩ :
    side = side' ∧ subject = subject' ∧ expected = expected' ∧ verbatim = verbatim')
  have hcomparison : comparison = comparison' := by
    cases comparison with
    | equal => cases comparison' <;> simp [Comparison.word] at hword ⊢
    | differs => cases comparison' <;> simp [Comparison.word] at hword ⊢
    | contains p =>
      cases comparison' with
      | equal | differs => simp [Comparison.word] at hword
      | contains q =>
        exact congrArg _ (Except.ok.inj ((h.compiled p rfl).symm.trans (h'.compiled q rfl)))
  rw [hcomparison]

end Expectation.Lawful

namespace Script

variable {s s' : TokenStream} {e : Expectation}

/-- A pattern that is asked for is that of the value. -/
theorem ofText_of_comparisonOf {operator value : Token} {p : Pattern}
    (h : comparisonOf operator value = .ok (.contains p)) : Pattern.ofText value.text = .ok p := by
  unfold comparisonOf at h
  split at h
  · cases h
  · cases h
  · split at h
    · next q hq =>
      cases h
      exact hq
    · split at h <;> cases h

/-- An expectation that is read has the pattern of its value. -/
theorem lawful_readExpect (h : readExpect s = .ok (e, s')) : e.Lawful := by
  rw [readExpect_eq] at h
  obtain ⟨side, -, h⟩ := bind_eq_ok.1 h
  obtain ⟨dot, -, h⟩ := bind_eq_ok.1 h
  obtain ⟨subject, -, h⟩ := bind_eq_ok.1 h
  obtain ⟨operator, -, h⟩ := bind_eq_ok.1 h
  simp only [Reader.judged_eq, map_eq_ok] at h
  obtain ⟨_, hwanted, heq⟩ := h
  obtain ⟨rfl, -⟩ := Prod.mk.inj heq
  unfold wantExpected at hwanted
  split at hwanted
  · cases hwanted
  · obtain ⟨comparison, hcomparison, he⟩ := bind_eq_ok.1 hwanted
    obtain rfl := pure_eq_ok.1 he
    refine ⟨fun p hp => ?_⟩
    obtain rfl : comparison = .contains p := hp
    exact ofText_of_comparisonOf hcomparison

end Script

namespace Schema

open Checked

variable {es : List (Value × Value)} {e : Expectation}

/-- Data without a pattern comes to an expectation with the pattern of the text that it states. -/
theorem expectation_of_omitted (h : e.StatedBy es) (hlawful : e.Lawful)
    (homitted : Omitted "pattern" es)
    (hexpected : Value.entry? "expected" es = some (.text e.expected)) :
    expectation (.map es) = .ok e := by
  refine expectation_eq_ok_iff.2 ⟨h, ?_⟩
  cases hc : e.comparison with
  | equal | differs => exact .none (by rw [hc]; rfl) homitted
  | contains p => exact .implied (by rw [hc]; rfl) homitted hexpected (hlawful.compiled p hc)

/-- An expectation from data has the pattern of its expected value, or another one is given. -/
theorem lawful_or_slip (h : e.PatternIn es) : e.Lawful ∨ Slip es (.ok e) := by
  have hlawful : ∀ {p}, e.comparison.pattern? = some p → Pattern.ofText e.expected = .ok p →
      e.Lawful := by
    intro p hp hmatch
    refine ⟨fun q hq => ?_⟩
    obtain rfl := Option.some.inj (hp.symm.trans (Comparison.pattern?_eq_some.2 hq))
    exact hmatch
  -- Only a pattern that is given can be that of another text.
  cases h with
  | none hnone _ =>
    refine .inl ⟨fun p hp => ?_⟩
    cases hnone.symm.trans (Comparison.pattern?_eq_some.2 hp)
  | @given p s hp hgiven hmatch =>
    by_cases hs : s = e.expected
    · exact .inl (hlawful hp (hs ▸ hmatch))
    · exact .inr (.otherText (Comparison.pattern?_eq_some.1 hp) hgiven hmatch hs)
  | implied hp _ _ hmatch => exact .inl (hlawful hp hmatch)

/-- What data comes to: it is refused, or it states an expectation that has the pattern of its
expected value, unless one of the slips is made. An expectation that is read has such a pattern,
and comes from the data that states it. The pattern of such expectations is determined by the other
fields, and what they search for is the expected value. -/
theorem expectation_outcome (es : List (Value × Value)) :
    ((∃ complaints, expectation (.map es) = .error (.invalid complaints)) ∨
      (∃ e, expectation (.map es) = .ok e ∧ e.StatedBy es ∧ e.Lawful) ∨
      Slip es (expectation (.map es))) ∧
    (∀ s e s', Script.readExpect s = .ok (e, s') → e.Lawful ∧
      (e.StatedBy es → Omitted "pattern" es →
        Value.entry? "expected" es = some (.text e.expected) → expectation (.map es) = .ok e)) ∧
    (∀ e e' : Expectation, e.Lawful → e'.Lawful → e.side = e'.side → e.subject = e'.subject →
      e.comparison.word = e'.comparison.word → e.expected = e'.expected →
      e.verbatim = e'.verbatim → e = e') ∧
    ∀ e : Expectation, e.Lawful → e.comparison.word = "~" →
      ∃ p, Pattern.ofText e.expected = .ok p ∧
        ∀ m, e.check m = (e.actual m).map fun actual => ⟨e, p.occursIn actual, actual⟩ := by
  refine ⟨?_, fun s e s' h => ?_, fun e e' h h' => h.ext h', fun e h => h.check_eq⟩
  · cases h : expectation (.map es) with
    | error r =>
      cases r with
      | invalid complaints => exact .inl ⟨complaints, rfl⟩
      | failed f => exact .inr (.inr (expectation_eq_failed h))
    | ok e =>
      obtain ⟨hstated, hpattern⟩ := expectation_eq_ok_iff.1 h
      rcases lawful_or_slip hpattern with hlawful | hslip
      · exact .inr (.inl ⟨e, rfl, hstated, hlawful⟩)
      · exact .inr (.inr hslip)
  · have hlawful := Script.lawful_readExpect h
    exact ⟨hlawful, fun hes => expectation_of_omitted hes hlawful⟩

/-- With a pattern of its own an expectation admits what its expected value is not found in, and a
number is neither refused nor searched for. -/
theorem expectation_not_lawful :
    let fields : List (Value × Value) :=
      [(.text "side", .text "req"), (.text "field", .text "body"), (.text "operator", .text "~")]
    (∃ e, expectation (.map (fields ++ [(.text "expected", .text "a"),
        (.text "pattern", .text "b")])) = .ok e ∧ e.expected = "a" ∧ e.admits "b" = true ∧
          ∀ p, Pattern.ofText "a" = .ok p → p.occursIn "b" = false) ∧
      expectation (.map (fields ++ [(.text "expected", .int 5)])) =
        .error (.failed .notAPattern) := by
  intro fields
  refine ⟨?_, rfl⟩
  have hadmits : (expectation (.map (fields ++ [(.text "expected", .text "a"),
      (.text "pattern", .text "b")]))).toOption.map (fun e => (e.expected, e.admits "b")) =
        some ("a", true) := by decide +kernel
  have hoccurs : (Pattern.ofText "a").toOption.map (·.occursIn "b") = some false := by
    decide +kernel
  cases h : expectation (.map (fields ++ [(.text "expected", .text "a"),
      (.text "pattern", .text "b")])) with
  | error r =>
    rw [h] at hadmits
    cases hadmits
  | ok e =>
    rw [h] at hadmits
    obtain ⟨hexpected, hb⟩ := Prod.mk.inj (Option.some.inj hadmits)
    refine ⟨e, rfl, hexpected, hb, fun p hp => ?_⟩
    rw [hp] at hoccurs
    exact Option.some.inj hoccurs

end Schema

end ProxyTrial
