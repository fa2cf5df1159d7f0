import ProxyTrial.Proofs.Script.Lexing
import ProxyTrial.Proofs.Script.Recognition
import ProxyTrial.Script.Written
/-!
# Well-formed scripts

There are scripts that no text holds: a string cannot have a quote in it, a flag cannot set a
header with a blank name, nor two headers with one name. What is read is free of all this, since
the grammar derives it from symbols that are proper.

## Main definitions

* `Script.WellFormed`: the script has a stanza, and all of its stanzas are well-formed

## Main results

* `wellFormed_of_derives`: proper symbols derive well-formed scripts only
-/

namespace ProxyTrial

/-- No quote is in the string. -/
def Plain (s : String) : Prop := '"' ∉ s.toList

/-- A header that a flag can set. -/
structure WellFormedHeader (h : String × String) : Prop where
  plain_name : Plain h.1
  plain_value : Plain h.2
  name_ne_empty : h.1 ≠ ""
  colon_notMem_name : ':' ∉ h.1.toList
  trim_name : Text.trim h.1 = h.1
  trim_value : Text.trim h.2 = h.2

/-- Headers that flags can set, each name once whatever the case of its letters. -/
structure Headers.WellFormed (hs : Headers) : Prop where
  each : ∀ h ∈ hs, WellFormedHeader h
  distinct : List.Pairwise (fun g h => Text.lower g.1 ≠ Text.lower h.1) hs

structure Reply.WellFormed (r : Reply) : Prop where
  status_ge : 100 ≤ r.status
  status_le : r.status ≤ 999
  headers : Headers.WellFormed r.headers
  plain_body : Plain r.body

structure Call.WellFormed (c : Call) : Prop where
  plain_method : Plain c.method
  plain_target : Plain c.target
  headers : Headers.WellFormed c.headers
  plain_body : Plain c.body

/-- An expectation with the pattern of its value, and shown as it is written: with the value
between quotes, or bare if it is an integer. -/
structure Expectation.WellFormed (e : Expectation) : Prop where
  plain_name : ∀ name, e.subject = .header name → Plain name
  plain_expected : Plain e.expected
  pattern : ∀ p, e.comparison = .contains p → Pattern.ofText e.expected = .ok p
  verbatim :
    e.verbatim = Script.Grammar.inOneLine e.side e.subject e.comparison.word
      (Script.quoted e.expected) ∨
    Script.isInteger e.expected.toList ∧
      e.verbatim = Script.Grammar.inOneLine e.side e.subject e.comparison.word e.expected

structure Handler.WellFormed (h : Handler) : Prop where
  plain_path : Plain h.path
  slash : h.path.toList.head? = some '/'
  expectations : ∀ e ∈ h.expectations, e.WellFormed
  reply : h.reply.WellFormed

structure Client.WellFormed (c : Client) : Prop where
  plain_name : Plain c.name
  call : c.call.WellFormed
  expectations : ∀ e ∈ c.expectations, e.WellFormed

/-- A script with a stanza, and with nothing in it that no text can say. -/
structure Script.WellFormed (s : Script) : Prop where
  nonempty : s.handlers ≠ [] ∨ s.clients ≠ []
  handlers : ∀ h ∈ s.handlers, h.WellFormed
  clients : ∀ c ∈ s.clients, c.WellFormed

theorem Reply.wellFormed_default : Reply.WellFormed {} where
  status_ge := by decide
  status_le := by decide
  headers := ⟨by simp, .nil⟩
  plain_body := by simp [Plain]

theorem Call.wellFormed_default : Call.WellFormed {} where
  plain_method := by simp [Plain]
  plain_target := by simp [Plain]
  headers := ⟨by simp, .nil⟩
  plain_body := by simp [Plain]

namespace Script.Grammar

variable {xs : List Symbol}

/-! ## Strings and expectations -/

theorem plain_of_lead {w : String} (h : Lead .string w xs) (hp : ∀ x ∈ xs, x.Proper) : Plain w :=
  hp _ h.mem

theorem plain_of_isInteger {w : String} (h : isInteger w.toList) : Plain w := by
  intro hq
  exact absurd (isNameChar_of_isInteger h _ hq) (by decide)

theorem IsSubject.plain {name : String} (h : IsSubject xs (.header name))
    (hp : ∀ x ∈ xs, x.Proper) : Plain name := by
  cases h with
  | header _ _ hn _ =>
    simp only [List.forall_mem_append] at hp
    exact plain_of_lead hn hp.2.2.1

/-- An operator is written as the word of its comparison. -/
theorem Compares.text_eq_word {o : Kind} {op v : String} {comparison : Comparison}
    (h : Compares o v comparison) (hp : Symbol.Proper ⟨o, op⟩) : op = comparison.word := by
  cases h <;> exact hp

theorem Compares.pattern {o : Kind} {v : String} {p : Pattern} (h : Compares o v (.contains p)) :
    Pattern.ofText v = .ok p := by
  cases h with
  | contains hv => exact hv

theorem IsValue.plain {v written : String} (h : IsValue xs v written) (hp : ∀ x ∈ xs, x.Proper) :
    Plain v ∧ (written = quoted v ∨ isInteger v.toList ∧ written = v) := by
  cases h with
  | string hl => exact ⟨plain_of_lead hl hp, .inl rfl⟩
  | integer hl =>
    have hi : isInteger v.toList := hp _ hl.mem
    exact ⟨plain_of_isInteger hi, .inr ⟨hi, rfl⟩⟩

theorem Expecting.wellFormed {e : Expectation} (h : Expecting xs e) (hp : ∀ x ∈ xs, x.Proper) :
    e.WellFormed := by
  obtain ⟨-, -, -, hu, ho, hc, hv⟩ := h
  simp only [List.forall_mem_append] at hp
  obtain ⟨-, -, hpu, hpo, hpv⟩ := hp
  obtain rfl := hc.text_eq_word (hpo _ ho.mem)
  obtain ⟨hplain, hw⟩ := hv.plain hpv
  refine ⟨?_, hplain, ?_, ?_⟩
  · rintro name rfl
    exact hu.plain hpu
  · rintro p rfl
    exact hc.pattern
  · rcases hw with rfl | ⟨hi, rfl⟩
    · exact .inl rfl
    · exact .inr ⟨hi, rfl⟩

/-! ## Flags -/

/-- What is set is well-formed on its own. -/
def Setting.WellFormed : Setting → Prop
  | .status code => 100 ≤ code ∧ code ≤ 999
  | .header name value => WellFormedHeader (name, value)
  | .body text | .method text | .target text => Plain text

theorem IsHeader.wellFormed {text name value : String} (h : IsHeader text name value)
    (hp : Plain text) : WellFormedHeader (name, value) := by
  obtain ⟨before, after, he, hc, rfl, hne, rfl⟩ := h
  rw [Plain, he, List.mem_append, List.mem_cons, not_or, not_or] at hp
  have hn := (Text.trimBy_sublist Text.isBlank before).subset
  have hv := (Text.trimBy_sublist Text.isBlank after).subset
  exact {
    plain_name := by simpa [Plain] using fun hq => hp.1 (hn hq)
    plain_value := by simpa [Plain] using fun hq => hp.2.2 (hv hq)
    name_ne_empty := hne
    colon_notMem_name := by simpa using fun hq => hc (hn hq)
    trim_name := by simp [Text.trim, Text.trimBy_idem]
    trim_value := by simp [Text.trim, Text.trimBy_idem] }

theorem Sets.wellFormed {f v : Symbol} {e : Setting} (h : Sets f v e) (hv : v.Proper) :
    e.WellFormed := by
  cases h with
  | body | method | target => exact hv
  | header hh => exact hh.wellFormed hv
  | status _ hge hle => exact ⟨hge, hle⟩

theorem Settings.wellFormed {l : List Setting} (h : Settings xs l) (hp : ∀ x ∈ xs, x.Proper) :
    ∀ e ∈ l, e.WellFormed := by
  induction h with
  | nil => simp
  | cons hs _ ih =>
    simp only [List.forall_mem_cons] at hp ⊢
    exact ⟨hs.wellFormed hp.2.1, ih hp.2.2⟩

/-- The last of the values has what the default and all values have. -/
theorem last_of_forall {α : Type} {p : α → Prop} {value? : Setting → Option α} {default : α}
    {l : List Setting} (hd : p default) (h : ∀ e ∈ l, ∀ a, value? e = some a → p a) :
    p (last value? default l) := by
  rw [last]
  cases hl : (l.filterMap value?).getLast? with
  | none => exact hd
  | some a =>
    obtain ⟨e, he, ha⟩ := List.mem_filterMap.1 (List.mem_of_getLast? hl)
    exact h e he a ha

theorem latest_sublist (hs : Headers) : (latest hs).Sublist hs := by
  induction hs with
  | nil => exact .slnil
  | cons h hs ih =>
    rw [latest]
    split
    · exact ih.cons h
    · exact ih.cons_cons h

theorem latest_distinct (hs : Headers) :
    (latest hs).Pairwise fun g h => Text.lower g.1 ≠ Text.lower h.1 := by
  induction hs with
  | nil => exact .nil
  | cons h hs ih =>
    rw [latest]
    split
    · exact ih
    · next hr =>
      refine .cons (fun g hg he => hr ?_) ih
      exact List.any_eq_true.2 ⟨g, (latest_sublist hs).subset hg, by simp [he]⟩

theorem latest_wellFormed {l : List Setting} (h : ∀ e ∈ l, e.WellFormed) :
    Headers.WellFormed (latest (l.filterMap Setting.header?)) where
  each g hg := by
    obtain ⟨e, he, hm⟩ := List.mem_filterMap.1 ((latest_sublist _).subset hg)
    cases e <;> cases hm
    exact h _ he
  distinct := latest_distinct _

theorem plain_last {value? : Setting → Option String} {default : String} {l : List Setting}
    (hd : Plain default) (hv : ∀ e a, value? e = some a → e.WellFormed → Plain a)
    (h : ∀ e ∈ l, e.WellFormed) : Plain (last value? default l) :=
  last_of_forall hd fun e he a ha => hv e a ha (h e he)

theorem plain_of_body? (e : Setting) (a : String) (h : e.body? = some a) (he : e.WellFormed) :
    Plain a := by
  cases e <;> cases h
  exact he

theorem status_last {l : List Setting} (h : ∀ e ∈ l, e.WellFormed) :
    100 ≤ last Setting.status? 200 l ∧ last Setting.status? 200 l ≤ 999 := by
  refine last_of_forall (p := fun code : Int => 100 ≤ code ∧ code ≤ 999) (by decide) ?_
  intro e he code hc
  cases e <;> cases hc
  exact h _ he

theorem Replies.wellFormed {r : Reply} (h : Replies xs r) (hp : ∀ x ∈ xs, x.Proper) :
    r.WellFormed := by
  obtain ⟨hs, -⟩ := h
  have hl := hs.wellFormed hp
  obtain ⟨hge, hle⟩ := status_last hl
  exact ⟨hge, hle, latest_wellFormed hl,
    plain_last Reply.wellFormed_default.plain_body plain_of_body? hl⟩

theorem Calls.wellFormed {c : Call} (h : Calls xs c) (hp : ∀ x ∈ xs, x.Proper) :
    c.WellFormed := by
  obtain ⟨hs, -⟩ := h
  have hl := hs.wellFormed hp
  refine ⟨plain_last Call.wellFormed_default.plain_method ?_ hl,
    plain_last Call.wellFormed_default.plain_target ?_ hl, latest_wellFormed hl,
    plain_last Call.wellFormed_default.plain_body plain_of_body? hl⟩
  · intro e a h he
    cases e <;> cases h
    exact he
  · intro e a h he
    cases e <;> cases h
    exact he

/-! ## Stanzas -/

theorem HandlerBody.wellFormed {l : List Expectation} {r : Reply} (h : HandlerBody xs l r)
    (hp : ∀ x ∈ xs, x.Proper) : (∀ e ∈ l, e.WellFormed) ∧ r.WellFormed := by
  induction h with
  | close => exact ⟨by simp, Reply.wellFormed_default⟩
  | tx _ hf _ =>
    simp only [List.forall_mem_append] at hp
    exact ⟨by simp, hf.wellFormed hp.2.1⟩
  | expect _ he _ ih =>
    simp only [List.forall_mem_append] at hp
    obtain ⟨hl, hr⟩ := ih hp.2.2
    exact ⟨List.forall_mem_cons.2 ⟨he.wellFormed hp.2.1, hl⟩, hr⟩

theorem ClientBody.wellFormed {l : List Expectation} {call : Option Call}
    (h : ClientBody xs l call) (hp : ∀ x ∈ xs, x.Proper) :
    (∀ e ∈ l, e.WellFormed) ∧ (call.getD {}).WellFormed := by
  induction h with
  | close => exact ⟨by simp, Call.wellFormed_default⟩
  | tx _ hf _ _ ih =>
    simp only [List.forall_mem_append] at hp
    exact ⟨(ih hp.2.2).1, hf.wellFormed hp.2.1⟩
  | expect _ he _ ih =>
    simp only [List.forall_mem_append] at hp
    obtain ⟨hl, hc⟩ := ih hp.2.2
    exact ⟨List.forall_mem_cons.2 ⟨he.wellFormed hp.2.1, hl⟩, hc⟩

theorem IsHandler.wellFormed {h : Handler} (hh : IsHandler xs h) (hp : ∀ x ∈ xs, x.Proper) :
    h.WellFormed := by
  obtain ⟨hl, hslash, -, hb⟩ := hh
  simp only [List.forall_mem_append] at hp
  obtain ⟨he, hr⟩ := hb.wellFormed hp.2.2
  exact ⟨plain_of_lead hl hp.1, hslash, he, hr⟩

theorem IsClient.wellFormed {c : Client} (h : IsClient xs c) (hp : ∀ x ∈ xs, x.Proper) :
    c.WellFormed := by
  obtain ⟨hl, -, hb⟩ := h
  simp only [List.forall_mem_append] at hp
  obtain ⟨he, hc⟩ := hb.wellFormed hp.2.2
  exact ⟨plain_of_lead hl hp.1, hc, he⟩

theorem Stanzas.wellFormed {handlers : List Handler} {clients : List Client}
    (h : Stanzas xs handlers clients) (hp : ∀ x ∈ xs, x.Proper) :
    (∀ h ∈ handlers, h.WellFormed) ∧ ∀ c ∈ clients, c.WellFormed := by
  induction h with
  | nil => simp
  | handle _ hh _ ih =>
    simp only [List.forall_mem_append] at hp
    obtain ⟨hs, hc⟩ := ih hp.2.2
    exact ⟨List.forall_mem_cons.2 ⟨hh.wellFormed hp.2.1, hs⟩, hc⟩
  | client _ hc _ ih =>
    simp only [List.forall_mem_append] at hp
    obtain ⟨hs, hcs⟩ := ih hp.2.2
    exact ⟨hs, List.forall_mem_cons.2 ⟨hc.wellFormed hp.2.1, hcs⟩⟩

/-- Proper symbols derive well-formed scripts only. -/
theorem wellFormed_of_derives {s : Script} (h : Derives xs s) (hp : ∀ x ∈ xs, x.Proper) :
    s.WellFormed := by
  obtain ⟨hs, hne, -⟩ := h
  simp only [List.forall_mem_append] at hp
  obtain ⟨hh, hc⟩ := hs.wellFormed hp.1
  exact ⟨hs.ne_nil_iff.1 hne, hh, hc⟩

end Script.Grammar

end ProxyTrial
