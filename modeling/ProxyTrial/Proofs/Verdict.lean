import ProxyTrial.Proofs.Http.Lookup
import ProxyTrial.Script.Command
import ProxyTrial.Verdict
/-!
# Holding an expectation against a message

A request has no status and a response has no method; what else an expectation may be about is found
in every message, headers that are not there being empty. The exception are headers whose name
cannot be written in the encoding of the message: they cannot be looked up. Of the names in the
message, only the letters of ASCII are taken in either case.

## Main definitions

* `Message.Lacks m s`: the message has no such part
* `Message.Finds fold m s value`: the part of a message, names being compared through `fold`
* `Message.PlainNames m`: the names of the fields have no capitals beyond ASCII

## Main results

* `Expectation.check_eq_error`: why an expectation cannot be held against a message
* `Expectation.finds_of_check`: what a verdict is about
* `Expectation.check_total`: the verdict on a message
-/

namespace ProxyTrial

open Http (FieldEncoding)

/-! ## Parts of messages -/

namespace Message

/-- The message has no such part. -/
inductive Lacks : Message → Subject → Prop
  | status (r : Request) : Lacks (.request r) .status
  | method (r : Response) : Lacks (.response r) .method

/-- The part of a message. The name of a header is compared through `fold` with the lower case of
the name that is looked up; the first header counts, and a header that is not there is empty. -/
inductive Finds (fold : String → String) : Message → Subject → String → Prop
  | method (r : Request) : Finds fold (.request r) .method r.method
  | status (r : Response) : Finds fold (.response r) .status (toString r.status)
  | body (m : Message) : Finds fold m .body m.body
  | header {m : Message} {name : String} {before after : List (String × String)}
      {f : String × String} :
      m.fields.texts = before ++ f :: after → (∀ g ∈ before, fold g.1 ≠ Text.lower name) →
      fold f.1 = Text.lower name → Finds fold m (.header name) f.2
  | noHeader {m : Message} {name : String} :
      (∀ f ∈ m.fields.texts, fold f.1 ≠ Text.lower name) → Finds fold m (.header name) ""

/-- No name of a field has a capital letter that is not ASCII. -/
def PlainNames (m : Message) : Prop :=
  ∀ f ∈ m.fields.texts, Text.lower f.1 = Text.smallLetters f.1

instance (m : Message) : Decidable m.PlainNames := List.decidableBAll _ m.fields.texts

variable {m : Message} {s : Subject} {value : String}

theorem not_lacks_of_header {name : String} : ¬ m.Lacks (.header name) := by
  rintro ⟨⟩

/-- For plain names it does not matter how they are compared. -/
theorem Finds.lower (h : m.Finds Text.smallLetters s value) (hplain : m.PlainNames) :
    m.Finds Text.lower s value := by
  cases h with
  | method r => exact .method r
  | status r => exact .status r
  | body m => exact .body m
  | @header _ name before after f htexts hbefore hf =>
    have hfold : ∀ g ∈ before ++ f :: after, Text.lower g.1 = Text.smallLetters g.1 :=
      htexts ▸ hplain
    refine .header htexts (fun g hg => ?_) ?_
    · rw [hfold g (List.mem_append_left _ hg)]
      exact hbefore g hg
    · rw [hfold f (List.mem_append_right _ List.mem_cons_self)]
      exact hf
  | noHeader hnone =>
    refine .noHeader fun f hf => ?_
    rw [hplain f hf]
    exact hnone f hf

/-- The first of the values that a lookup finds. -/
theorem finds_header {name : String} {values : List String}
    (h : m.fields.values name = .ok values) :
    m.Finds Text.smallLetters (.header name) (values.headD "") := by
  have hwrites : m.fields.encoding.Writes (Text.lower name) := by
    by_contra hnot
    obtain ⟨error, herror⟩ := Http.Fields.values_of_not_writes hnot
    rw [herror] at h
    cases h
  rw [Http.Fields.values_of_writes hwrites] at h
  cases h
  cases hfilter : m.fields.texts.filter fun f => Text.smallLetters f.1 == Text.lower name with
  | nil => exact .noHeader fun f hf he => List.filter_eq_nil_iff.1 hfilter f hf (beq_iff_eq.2 he)
  | cons f others =>
    obtain ⟨before, after, htexts, hbefore, hf, -⟩ := List.filter_eq_cons_iff.1 hfilter
    exact .header htexts (fun g hg he => hbefore g hg (beq_iff_eq.2 he)) (beq_iff_eq.1 hf)

end Message

/-! ## Verdicts -/

namespace Expectation

variable {e : Expectation} {m : Message} {v : Verdict} {error : CheckError}

theorem holds_eq (e : Expectation) (m : Message) : e.holds m = (e.check m).map (·.passed) := by
  rw [holds, check]
  cases e.actual m <;> rfl

theorem check_of_status (h : e.subject = .status) (r : Request) :
    e.check (.request r) = .error (.noStatus e) := by
  rw [check, actual, h]
  rfl

theorem check_of_method (h : e.subject = .method) (r : Response) :
    e.check (.response r) = .error (.noMethod e) := by
  rw [check, actual, h]
  rfl

theorem check_of_method_request (h : e.subject = .method) (r : Request) :
    e.check (.request r) = .ok ⟨e, e.admits r.method, r.method⟩ := by
  rw [check, actual, h]
  rfl

theorem check_of_status_response (h : e.subject = .status) (r : Response) :
    e.check (.response r) = .ok ⟨e, e.admits (toString r.status), toString r.status⟩ := by
  rw [check, actual, h]
  rfl

theorem check_of_body (h : e.subject = .body) (m : Message) :
    e.check m = .ok ⟨e, e.admits m.body, m.body⟩ := by
  rw [check, actual.eq_def, h]
  rfl

theorem check_of_header {name : String} (h : e.subject = .header name) (m : Message) :
    e.check m = match m.fields.values name with
      | .ok values => .ok ⟨e, e.admits (values.headD ""), values.headD ""⟩
      | .error err => .error (.headerName err) := by
  rw [check, actual.eq_def, h]
  simp only
  cases m.fields.values name <;> rfl

/-- What is lacking cannot be judged. -/
theorem check_of_lacks (h : m.Lacks e.subject) :
    ∃ error, e.check m = .error error ∧ error.isInapplicable := by
  cases hsubject : e.subject with
  | status =>
    rw [hsubject] at h
    cases h with
    | status r => exact ⟨_, check_of_status hsubject r, rfl⟩
  | method =>
    rw [hsubject] at h
    cases h with
    | method r => exact ⟨_, check_of_method hsubject r, rfl⟩
  | body =>
    rw [hsubject] at h
    cases h
  | header name =>
    rw [hsubject] at h
    cases h

/-- All that holding an expectation against a message can come to: a verdict on the part that it is
about, or none, since that is lacking, or cannot be looked up. -/
theorem check_cases (e : Expectation) (m : Message) :
    (∃ value, m.Finds Text.smallLetters e.subject value ∧
      e.check m = .ok ⟨e, e.admits value, value⟩) ∨
    (∃ error, m.Lacks e.subject ∧ error.isInapplicable ∧ e.check m = .error error) ∨
    ∃ name err, e.subject = .header name ∧ m.fields.values name = .error err ∧
      e.check m = .error (.headerName err) := by
  cases hsubject : e.subject with
  | status =>
    cases m with
    | request r => exact .inr (.inl ⟨_, .status r, rfl, check_of_status hsubject r⟩)
    | response r => exact .inl ⟨_, .status r, check_of_status_response hsubject r⟩
  | method =>
    cases m with
    | request r => exact .inl ⟨_, .method r, check_of_method_request hsubject r⟩
    | response r => exact .inr (.inl ⟨_, .method r, rfl, check_of_method hsubject r⟩)
  | body => exact .inl ⟨_, .body m, check_of_body hsubject m⟩
  | header name =>
    have hcheck := check_of_header hsubject m
    cases hvalues : m.fields.values name with
    | ok values =>
      rw [hvalues] at hcheck
      exact .inl ⟨_, Message.finds_header hvalues, hcheck⟩
    | error err =>
      rw [hvalues] at hcheck
      exact .inr (.inr ⟨name, err, rfl, hvalues, hcheck⟩)

/-- Why an expectation cannot be held against a message: what it is about is lacking, or cannot be
looked up. -/
theorem check_eq_error (h : e.check m = .error error) :
    (m.Lacks e.subject ∧ error.isInapplicable) ∨
      ∃ name err, e.subject = .header name ∧ m.fields.values name = .error err ∧
        error = .headerName err := by
  rcases check_cases e m with ⟨value, -, hcheck⟩ | ⟨error', hlacks, hinapplicable, hcheck⟩ |
    ⟨name, err, hsubject, hvalues, hcheck⟩
  · cases h.symm.trans hcheck
  · obtain rfl := Except.error.inj (h.symm.trans hcheck)
    exact .inl ⟨hlacks, hinapplicable⟩
  · exact .inr ⟨name, err, hsubject, hvalues, Except.error.inj (h.symm.trans hcheck)⟩

/-- A verdict is about the part of the message that the expectation is about. -/
theorem finds_of_check (h : e.check m = .ok v) :
    m.Finds Text.smallLetters e.subject v.actual := by
  rcases check_cases e m with ⟨value, hfinds, hcheck⟩ | ⟨error, -, -, hcheck⟩ |
    ⟨name, err, -, -, hcheck⟩
  · obtain rfl := Except.ok.inj (h.symm.trans hcheck)
    exact hfinds
  · cases h.symm.trans hcheck
  · cases h.symm.trans hcheck

theorem map_passed_check (e : Expectation) (m : Message) :
    (e.check m).toOption.map (·.passed) = (e.actual m).toOption.map e.admits := by
  rw [check]
  cases e.actual m <;> rfl

/-- What is found does not depend on how it is compared. -/
theorem actual_congr {d : Expectation} (h : d.subject = e.subject) (m : Message) :
    (d.actual m).toOption = (e.actual m).toOption := by
  rw [actual.eq_def, actual.eq_def, h]
  cases e.subject with
  | status | method => cases m <;> rfl
  | body => rfl
  | header name => rfl

/-- To be equal and to differ are opposites. -/
theorem passed_opposite {d : Expectation} (hsubject : d.subject = e.subject)
    (hexpected : d.expected = e.expected) (he : e.comparison = .equal)
    (hd : d.comparison = .differs) (m : Message) :
    (d.check m).toOption.map (·.passed) = (e.check m).toOption.map fun v => !v.passed := by
  have hadmits : d.admits = fun value => !e.admits value := by
    funext value
    rw [admits, admits, he, hd, hexpected]
    rfl
  have hopposite : (e.check m).toOption.map (fun v => !v.passed) =
      ((e.check m).toOption.map (·.passed)).map (!·) := by
    rw [Option.map_map]
    rfl
  rw [hopposite, map_passed_check, map_passed_check, actual_congr hsubject, hadmits, Option.map_map]
  rfl

/-- An expectation can be held against a message unless the message lacks what it is about, or the
name of the header cannot be written in the encoding of the message. The verdict is about that part
of the message, names of headers being compared in any letter case of ASCII; that is any letter case
if the message has plain names. Whether an expectation holds is what its verdict says, and to be
equal and to differ are opposites. -/
theorem check_total (e : Expectation) (m : Message) :
    ((∃ error, e.check m = .error error ∧ error.isInapplicable) ↔ m.Lacks e.subject) ∧
    ((∃ error, e.check m = .error error ∧ ¬ error.isInapplicable) ↔
      ∃ name, e.subject = .header name ∧ ¬ m.fields.encoding.Writes (Text.lower name)) ∧
    (¬ m.Lacks e.subject →
      (∀ name, e.subject = .header name → m.fields.encoding.Writes (Text.lower name)) →
      ∃ v, e.check m = .ok v ∧ m.Finds Text.smallLetters e.subject v.actual ∧
        (m.PlainNames → m.Finds Text.lower e.subject v.actual)) ∧
    e.holds m = (e.check m).map (·.passed) ∧
    ∀ d : Expectation, d.subject = e.subject → d.expected = e.expected → e.comparison = .equal →
      d.comparison = .differs →
      (d.check m).toOption.map (·.passed) = (e.check m).toOption.map fun v => !v.passed := by
  refine ⟨⟨?_, check_of_lacks⟩, ⟨?_, ?_⟩, fun hlacks hwrites => ?_, holds_eq e m,
    fun d hsubject hexpected he hd => passed_opposite hsubject hexpected he hd m⟩
  · rintro ⟨error, herror, hinapplicable⟩
    rcases check_eq_error herror with ⟨hlacks, -⟩ | ⟨name, err, -, -, rfl⟩
    · exact hlacks
    · cases hinapplicable
  · rintro ⟨error, herror, happlicable⟩
    rcases check_eq_error herror with ⟨-, hinapplicable⟩ | ⟨name, err, hsubject, hvalues, -⟩
    · exact absurd hinapplicable happlicable
    · refine ⟨name, hsubject, fun hwrites => ?_⟩
      rw [Http.Fields.values_of_writes hwrites] at hvalues
      cases hvalues
  · rintro ⟨name, hsubject, hnot⟩
    obtain ⟨err, hvalues⟩ := Http.Fields.values_of_not_writes hnot
    refine ⟨.headerName err, ?_, Bool.false_ne_true⟩
    rw [check_of_header hsubject, hvalues]
  · cases hcheck : e.check m with
    | ok v => exact ⟨v, rfl, finds_of_check hcheck, (finds_of_check hcheck).lower⟩
    | error error =>
      rcases check_eq_error hcheck with ⟨h, -⟩ | ⟨name, err, hsubject, hvalues, -⟩
      · exact absurd h hlacks
      · rw [Http.Fields.values_of_writes (hwrites name hsubject)] at hvalues
        cases hvalues

/-- A header that is there twice, beside one of another name, in a message that is UTF-8. -/
theorem check_total_twice :
    let e : Expectation := ⟨.response, .header "x-TÉST", .equal, "1", ""⟩
    let m : Message := .response { status := 200, fields := [(Text.ascii "A", Text.utf8 "é"),
      (Text.utf8 "X-tést", Text.ascii "1"), (Text.utf8 "x-tést", Text.ascii "2")] }
    ¬ m.Lacks e.subject ∧ m.fields.encoding.Writes (Text.lower "x-TÉST") ∧ m.PlainNames ∧
      ∃ v, e.check m = .ok v ∧ m.Finds Text.smallLetters e.subject v.actual ∧
        (m.PlainNames → m.Finds Text.lower e.subject v.actual) := by
  intro e m
  have hlacks : ¬ m.Lacks e.subject := Message.not_lacks_of_header
  have hwrites : m.fields.encoding.Writes (Text.lower "x-TÉST") := by decide +kernel
  have hplain : m.PlainNames := by decide +kernel
  refine ⟨hlacks, hwrites, hplain, (check_total e m).2.2.1 hlacks fun name hname => ?_⟩
  obtain rfl := Subject.header.inj hname
  exact hwrites

end Expectation

namespace Script

/-- What an expectation with this text finds in a message; without a verdict, whether what it is
about is lacking. -/
def foundUnder (text : String) (m : Message) : Except ScriptError (Except Bool String) :=
  (readExpect (TokenStream.ofText text)).map fun (e, _) =>
    match e.check m with
    | .ok v => .ok v.actual
    | .error error => .error error.isInapplicable

/-- A header that is looked up with a name beyond the encoding of the message gives an error,
although nothing is lacking; and a header that has the very name is not found if it has a capital
beyond ASCII. -/
theorem lookups_missed :
    let ascii : Message := .request { method := "GET", fields :=
      [(Text.ascii "Host", Text.ascii "x")] }
    let wide : Message := .response { status := 200, fields := [([0xC3, 0x89], Text.ascii "v")] }
    foundUnder "req.headers[\"Ж\"] eq \"\"" ascii = .ok (.error false) ∧
    wide.fields.texts = [("É", "v")] ∧
    foundUnder "resp.headers[\"É\"] eq \"v\"" wide = .ok (.ok "") := by
  refine ⟨?_, ?_, ?_⟩ <;> decide +kernel

end Script

end ProxyTrial
