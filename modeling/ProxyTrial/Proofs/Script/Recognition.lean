import ProxyTrial.Proofs.Script.Command
import ProxyTrial.Script.Parse
/-!
# Scripts are read by the grammar

A text is read as a script exactly if the grammar derives that script from the symbols of the text.
Readers of stanzas go through their statements one by one; what they have collected so far is put
before what they still read.

## Main results

* `readHandler_sound`, `readHandler_complete`: handlers
* `readClient_sound`, `readClient_complete`: clients
* `parse_eq_ok_iff`: scripts
-/

namespace ProxyTrial.Script

open Grammar

variable {s s' : TokenStream} {xs ys rest : List Symbol}

/-! ## Handlers -/

theorem Lead.length_lt {k : Kind} {w : String} {fuel : Nat} {ws es xs : List Symbol}
    (h : Lead k w ws) (hfuel : (ws ++ (es ++ xs)).length < fuel + 1) : xs.length < fuel := by
  have hne := List.length_pos_iff.2 h.ne_nil
  rw [List.length_append, List.length_append] at hfuel
  omega

theorem Lead.endsFlags {c : String} {cs : List Symbol} (h : Lead .closeBrace c cs)
    (rest : List Symbol) : EndsFlags (cs ++ rest) := by
  cases h with
  | here => exact .inr rfl
  | lineBreak => exact .inl rfl

theorem readHandlerBody_sound {path : String} {fuel : Nat} {acc : List Expectation} {h : Handler}
    (hs : s.Holds xs) (hfuel : xs.length < fuel)
    (hok : readHandlerBody path fuel acc s = .ok (h, s')) :
    ∃ ys rest l r, xs = ys ++ rest ∧ HandlerBody ys l r ∧ h = ⟨path, acc ++ l, r⟩ ∧
      s'.Holds rest := by
  -- The induction is on the fuel; the symbols ahead bound it at every statement.
  induction fuel generalizing s xs acc with
  | zero => omega
  | succ fuel ih =>
    simp only [readHandlerBody] at hok
    split at hok
    · next hk =>
      cases hok
      obtain ⟨ws, r₁, rfl, hl, hr₁⟩ := significant_takes hs (by rw [hk]; simp)
      exact ⟨ws, r₁, [], {}, rfl, .close (hk ▸ hl), by simp, hr₁⟩
    · next hk =>
      obtain ⟨ws, r₁, rfl, hl, hr₁⟩ := significant_takes hs (by rw [hk]; simp)
      simp only [bind_eq_ok] at hok
      obtain ⟨⟨e, s₂⟩, he, hok⟩ := hok
      obtain ⟨es, r₂, rfl, he, hr₂⟩ := readExpect_sound hr₁ he
      obtain ⟨ys, rest, l, r, rfl, hb, rfl, hr₃⟩ := ih hr₂ (hl.length_lt hfuel) hok
      exact ⟨_, rest, e :: l, r, by simp, .expect (hk ▸ hl) he hb, by simp, hr₃⟩
    -- A `tx` command ends the statements, and the brace has to follow it.
    · next hk =>
      obtain ⟨ws, r₁, rfl, hl, hr₁⟩ := significant_takes hs (by rw [hk]; simp)
      simp only [bind_eq_ok, pure_eq_ok] at hok
      obtain ⟨⟨r, s₂⟩, hr, ⟨c, s₃⟩, hc, hok⟩ := hok
      cases hok
      obtain ⟨fs, r₂, rfl, hf, -, hr₂⟩ := readReply_sound hr₁ hr
      obtain ⟨cs, r₃, rfl, hlc, hr₃⟩ := readKind_sound hr₂ (by simp) hc
      exact ⟨_, r₃, [], r, by simp, .tx (hk ▸ hl) hf hlc, by simp, hr₃⟩
    · cases hok
    · cases hok

theorem readHandlerBody_complete (path : String) {fuel : Nat} (acc : List Expectation)
    {l : List Expectation} {r : Reply} (hs : s.Holds (ys ++ rest))
    (hfuel : (ys ++ rest).length < fuel) (h : HandlerBody ys l r) :
    ∃ s', readHandlerBody path fuel acc s = .ok (⟨path, acc ++ l, r⟩, s') ∧ s'.Holds rest := by
  -- The derivation is followed statement by statement.
  induction h generalizing fuel acc s with
  | close hl =>
    obtain ⟨fuel, rfl⟩ := Nat.exists_eq_add_one_of_ne_zero (Nat.ne_zero_of_lt hfuel)
    obtain ⟨hk, -, hr⟩ := hs.significant_lead hl (by simp)
    exact ⟨_, by simp only [readHandlerBody, hk, List.append_nil], hr⟩
  | tx hl hf hc =>
    obtain ⟨fuel, rfl⟩ := Nat.exists_eq_add_one_of_ne_zero (Nat.ne_zero_of_lt hfuel)
    simp only [List.append_assoc] at hs
    obtain ⟨hk, -, hr₁⟩ := hs.significant_lead hl (by simp)
    obtain ⟨s₂, h₂, hr₂⟩ := readReply_complete hr₁ hf (hc.endsFlags rest)
    obtain ⟨_, s₃, h₃, -, hr₃⟩ :=
      readKind_complete .closeBraceAfterTx .handleStanza hr₂ hc (by simp)
    exact ⟨s₃, by simp only [readHandlerBody, hk, h₂, h₃, ok_bind, List.append_nil]; rfl, hr₃⟩
  | @expect w ws es xs e l r hl he _ ih =>
    obtain ⟨fuel, rfl⟩ := Nat.exists_eq_add_one_of_ne_zero (Nat.ne_zero_of_lt hfuel)
    simp only [List.append_assoc] at hs hfuel
    obtain ⟨hk, -, hr₁⟩ := hs.significant_lead hl (by simp)
    obtain ⟨s₂, h₂, hr₂⟩ := readExpect_complete hr₁ he
    obtain ⟨s₃, h₃, hr₃⟩ := ih (acc ++ [e]) hr₂ (hl.length_lt hfuel)
    exact ⟨s₃, by simpa [readHandlerBody, hk, h₂, ok_bind] using h₃, hr₃⟩

/-- Reading a handler takes a handler. -/
theorem readHandler_sound {h : Handler} (hs : s.Holds xs) (hok : readHandler s = .ok (h, s')) :
    Takes (IsHandler · h) xs s' := by
  simp only [readHandler] at hok
  split at hok
  · cases hok
  · next hp =>
    rw [not_or, not_not, not_not] at hp
    obtain ⟨ps, r₁, rfl, hl, hr₁⟩ := significant_takes hs (by rw [hp.1]; simp)
    simp only [bind_eq_ok] at hok
    obtain ⟨⟨o, s₂⟩, ho, hok⟩ := hok
    obtain ⟨os, r₂, rfl, hlo, hr₂⟩ := readKind_sound hr₁ (by simp) ho
    obtain ⟨ys, rest, l, r, rfl, hb, rfl, hr₃⟩ :=
      readHandlerBody_sound hr₂ (Nat.lt_succ_of_le hr₂.length_le) hok
    exact ⟨_, rest, by simp, .mk (hp.1 ▸ hl) hp.2 hlo hb, hr₃⟩

/-- Reading a handler takes any handler that is ahead. -/
theorem readHandler_complete {h : Handler} (hs : s.Holds (ys ++ rest)) (hh : IsHandler ys h) :
    ∃ s', readHandler s = .ok (h, s') ∧ s'.Holds rest := by
  obtain ⟨hp, hslash, ho, hb⟩ := hh
  simp only [List.append_assoc] at hs
  obtain ⟨hk, rfl, hr₁⟩ := hs.significant_lead hp (by simp)
  obtain ⟨_, s₂, h₂, -, hr₂⟩ := readKind_complete .openBrace .handleStanza hr₁ ho (by simp)
  obtain ⟨s₃, h₃, hr₃⟩ := readHandlerBody_complete (s.significant true).1.text []
    hr₂ (Nat.lt_succ_of_le hr₂.length_le) hb
  refine ⟨s₃, ?_, hr₃⟩
  simp only [readHandler, hk, hslash, ne_eq, not_true, or_self, if_false, h₂, ok_bind]
  exact h₃

/-! ## Clients -/

theorem Grammar.ClientBody.ne_nil {l : List Expectation} {call : Option Call}
    (h : ClientBody ys l call) : ys ≠ [] := by
  cases h with
  | close hl => exact hl.ne_nil
  | tx hl | expect hl => exact fun he => hl.ne_nil (List.append_eq_nil_iff.1 he).1

/-- What follows the statements of a client does not tell whether flags end before them. -/
theorem Grammar.ClientBody.endsFlags_append_iff {l : List Expectation} {call : Option Call}
    (h : ClientBody ys l call) (rest : List Symbol) : EndsFlags (ys ++ rest) ↔ EndsFlags ys := by
  obtain ⟨x, xs, rfl⟩ := List.exists_cons_of_ne_nil h.ne_nil
  rfl

theorem readClientBody_sound {name : String} {fuel : Nat} {sent : Option Call}
    {acc : List Expectation} {c : Client} (hs : s.Holds xs) (hfuel : xs.length < fuel)
    (hok : readClientBody name fuel sent acc s = .ok (c, s')) :
    ∃ ys rest l call, xs = ys ++ rest ∧ ClientBody ys l call ∧ (sent = none ∨ call = none) ∧
      c = ⟨name, (sent.or call).getD {}, acc ++ l⟩ ∧ s'.Holds rest := by
  induction fuel generalizing s xs sent acc with
  | zero => omega
  | succ fuel ih =>
    simp only [readClientBody] at hok
    split at hok
    · next hk =>
      cases hok
      obtain ⟨ws, r₁, rfl, hl, hr₁⟩ := significant_takes hs (by rw [hk]; simp)
      exact ⟨ws, r₁, [], none, rfl, .close (hk ▸ hl), .inr rfl, by simp, hr₁⟩
    · next hk =>
      obtain ⟨ws, r₁, rfl, hl, hr₁⟩ := significant_takes hs (by rw [hk]; simp)
      split at hok
      · cases hok
      · simp only [bind_eq_ok] at hok
        obtain ⟨⟨call, s₂⟩, hc, hok⟩ := hok
        obtain ⟨fs, r₂, rfl, hf, hend, hr₂⟩ := readCall_sound hr₁ hc
        obtain ⟨ys, rest, l, second, rfl, hb, hone, rfl, hr₃⟩ := ih hr₂ (hl.length_lt hfuel) hok
        -- There was a call already, so that no other can be among the statements left.
        obtain rfl : second = none := hone.resolve_left (by simp)
        have hend := (hb.endsFlags_append_iff rest).1 hend
        exact ⟨_, rest, l, some call, by simp, .tx (hk ▸ hl) hf hend hb, .inl rfl, by simp, hr₃⟩
    · next hk =>
      obtain ⟨ws, r₁, rfl, hl, hr₁⟩ := significant_takes hs (by rw [hk]; simp)
      simp only [bind_eq_ok] at hok
      obtain ⟨⟨e, s₂⟩, he, hok⟩ := hok
      obtain ⟨es, r₂, rfl, he, hr₂⟩ := readExpect_sound hr₁ he
      obtain ⟨ys, rest, l, call, rfl, hb, hone, rfl, hr₃⟩ := ih hr₂ (hl.length_lt hfuel) hok
      exact ⟨_, rest, e :: l, call, by simp, .expect (hk ▸ hl) he hb, hone, by simp, hr₃⟩
    · cases hok
    · cases hok

theorem readClientBody_complete (name : String) {fuel : Nat} {sent call : Option Call}
    (acc : List Expectation) {l : List Expectation} (hs : s.Holds (ys ++ rest))
    (hfuel : (ys ++ rest).length < fuel) (h : ClientBody ys l call)
    (hone : sent = none ∨ call = none) :
    ∃ s', readClientBody name fuel sent acc s = .ok (⟨name, (sent.or call).getD {}, acc ++ l⟩, s') ∧
      s'.Holds rest := by
  induction h generalizing fuel sent acc s with
  | close hl =>
    obtain ⟨fuel, rfl⟩ := Nat.exists_eq_add_one_of_ne_zero (Nat.ne_zero_of_lt hfuel)
    obtain ⟨hk, -, hr⟩ := hs.significant_lead hl (by simp)
    exact ⟨_, by simp only [readClientBody, hk, List.append_nil, Option.or_none], hr⟩
  | @tx w ws fs xs c l hl hf hend hb ih =>
    obtain ⟨fuel, rfl⟩ := Nat.exists_eq_add_one_of_ne_zero (Nat.ne_zero_of_lt hfuel)
    -- The call of this command is the only one.
    obtain rfl : sent = none := hone.resolve_right (by simp)
    simp only [List.append_assoc] at hs hfuel
    obtain ⟨hk, -, hr₁⟩ := hs.significant_lead hl (by simp)
    obtain ⟨s₂, h₂, hr₂⟩ := readCall_complete hr₁ hf ((hb.endsFlags_append_iff rest).2 hend)
    obtain ⟨s₃, h₃, hr₃⟩ := ih acc hr₂ (hl.length_lt hfuel) (.inr rfl)
    refine ⟨s₃, ?_, hr₃⟩
    simp only [readClientBody, hk, h₂, ok_bind]
    exact h₃
  | @expect w ws es xs e l c hl he _ ih =>
    obtain ⟨fuel, rfl⟩ := Nat.exists_eq_add_one_of_ne_zero (Nat.ne_zero_of_lt hfuel)
    simp only [List.append_assoc] at hs hfuel
    obtain ⟨hk, -, hr₁⟩ := hs.significant_lead hl (by simp)
    obtain ⟨s₂, h₂, hr₂⟩ := readExpect_complete hr₁ he
    obtain ⟨s₃, h₃, hr₃⟩ := ih (acc ++ [e]) hr₂ (hl.length_lt hfuel) hone
    exact ⟨s₃, by simpa [readClientBody, hk, h₂, ok_bind] using h₃, hr₃⟩

/-- Reading a client takes a client. -/
theorem readClient_sound {c : Client} (hs : s.Holds xs) (hok : readClient s = .ok (c, s')) :
    Takes (IsClient · c) xs s' := by
  simp only [readClient, bind_eq_ok] at hok
  obtain ⟨⟨n, s₁⟩, hn, ⟨o, s₂⟩, ho, hok⟩ := hok
  obtain ⟨ns, r₁, rfl, hln, hr₁⟩ := readKind_sound hs (by simp) hn
  obtain ⟨os, r₂, rfl, hlo, hr₂⟩ := readKind_sound hr₁ (by simp) ho
  obtain ⟨ys, rest, l, call, rfl, hb, -, rfl, hr₃⟩ :=
    readClientBody_sound hr₂ (Nat.lt_succ_of_le hr₂.length_le) hok
  exact ⟨_, rest, by simp, .mk hln hlo hb, hr₃⟩

/-- Reading a client takes any client that is ahead. -/
theorem readClient_complete {c : Client} (hs : s.Holds (ys ++ rest)) (h : IsClient ys c) :
    ∃ s', readClient s = .ok (c, s') ∧ s'.Holds rest := by
  obtain ⟨hn, ho, hb⟩ := h
  simp only [List.append_assoc] at hs
  obtain ⟨n, s₁, h₁, rfl, hr₁⟩ := readKind_complete .clientName .clientStanza hs hn (by simp)
  obtain ⟨_, s₂, h₂, -, hr₂⟩ := readKind_complete .openBrace .clientStanza hr₁ ho (by simp)
  obtain ⟨s₃, h₃, hr₃⟩ := readClientBody_complete n.text [] hr₂
    (Nat.lt_succ_of_le hr₂.length_le) hb (.inl rfl)
  exact ⟨s₃, by simpa [readClient, h₁, h₂, ok_bind] using h₃, hr₃⟩

/-! ## Scripts -/

/-- Before the end there is nothing but line breaks. -/
theorem lead_endOfScript_iff {w : String} {es : List Symbol} :
    Lead .endOfScript w es ↔ ∃ bs, es = bs ++ [⟨.endOfScript, w⟩] ∧ afterBreaks bs = [] := by
  -- Both directions by induction on the line breaks.
  constructor
  · intro h
    induction h with
    | here => exact ⟨[], rfl, rfl⟩
    | @lineBreak b xs _ ih =>
      obtain ⟨bs, rfl, hb⟩ := ih
      exact ⟨⟨.lineBreak, b⟩ :: bs, rfl, by simpa [afterBreaks] using hb⟩
  · rintro ⟨bs, rfl, h⟩
    induction bs with
    | nil => exact .here
    | cons x bs ih =>
      obtain ⟨k, b⟩ := x
      rw [afterBreaks_eq_nil_iff, List.forall_mem_cons] at h
      obtain ⟨rfl, hbs⟩ := h
      exact (ih (afterBreaks_eq_nil_iff.2 hbs)).lineBreak

theorem readStanzas_sound {fuel : Nat} {before script : Script} (hs : s.Holds xs)
    (hfuel : xs.length < fuel) (hok : readStanzas fuel before s = .ok script) :
    ∃ ys bs handlers clients, xs = ys ++ bs ∧ Stanzas ys handlers clients ∧ afterBreaks bs = [] ∧
      script = ⟨before.handlers ++ handlers, before.clients ++ clients⟩ ∧
      (script.handlers ≠ [] ∨ script.clients ≠ []) := by
  induction fuel generalizing s xs before with
  | zero => omega
  | succ fuel ih =>
    simp only [readStanzas] at hok
    split at hok
    · next hk =>
      split at hok
      · cases hok
      · next hne =>
        cases hok
        -- The end comes from the stream itself: no symbol ahead is the end of a script.
        rcases hs.significant_true with ⟨ys, rest, rfl, hl, -⟩ | ⟨hb, -⟩
        · exact absurd hk (hs.kind_of_mem (List.mem_append_left rest hl.mem)).2
        · refine ⟨[], xs, [], [], rfl, .nil, hb, by simp, ?_⟩
          rwa [Bool.and_eq_true, List.isEmpty_iff, List.isEmpty_iff, not_and_or] at hne
    · next hk =>
      obtain ⟨ws, r₁, rfl, hl, hr₁⟩ := significant_takes hs (by rw [hk]; simp)
      simp only [bind_eq_ok] at hok
      obtain ⟨⟨h, s₂⟩, hh, hok⟩ := hok
      obtain ⟨hs, r₂, rfl, hh, hr₂⟩ := readHandler_sound hr₁ hh
      obtain ⟨ys, bs, handlers, clients, rfl, hst, hb, rfl, hne⟩ := ih hr₂ (hl.length_lt hfuel) hok
      exact ⟨_, bs, h :: handlers, clients, by simp, .handle (hk ▸ hl) hh hst, hb, by simp, hne⟩
    · next hk =>
      obtain ⟨ws, r₁, rfl, hl, hr₁⟩ := significant_takes hs (by rw [hk]; simp)
      simp only [bind_eq_ok] at hok
      obtain ⟨⟨c, s₂⟩, hc, hok⟩ := hok
      obtain ⟨cs, r₂, rfl, hc, hr₂⟩ := readClient_sound hr₁ hc
      obtain ⟨ys, bs, handlers, clients, rfl, hst, hb, rfl, hne⟩ := ih hr₂ (hl.length_lt hfuel) hok
      exact ⟨_, bs, handlers, c :: clients, by simp, .client (hk ▸ hl) hc hst, hb, by simp, hne⟩
    · cases hok
    · cases hok

theorem readStanzas_complete {fuel : Nat} {before : Script} {handlers : List Handler}
    {clients : List Client} (hs : s.Holds (ys ++ rest)) (hfuel : (ys ++ rest).length < fuel)
    (h : Stanzas ys handlers clients) (hb : afterBreaks rest = [])
    (hne : before.handlers ++ handlers ≠ [] ∨ before.clients ++ clients ≠ []) :
    readStanzas fuel before s = .ok ⟨before.handlers ++ handlers, before.clients ++ clients⟩ := by
  -- The derivation is followed stanza by stanza; the reader carries those before.
  induction h generalizing fuel before s with
  | nil =>
    obtain ⟨fuel, rfl⟩ := Nat.exists_eq_add_one_of_ne_zero (Nat.ne_zero_of_lt hfuel)
    have hk : (s.significant true).1.kind = .endOfScript := by
      rw [hs.significant_end hb]
      rfl
    simp only [List.append_nil] at hne ⊢
    simp only [readStanzas, hk, Bool.and_eq_true, List.isEmpty_iff]
    rw [if_neg (by rwa [not_and_or])]
  | @handle w ws hs' xs h handlers clients hl hh _ ih =>
    obtain ⟨fuel, rfl⟩ := Nat.exists_eq_add_one_of_ne_zero (Nat.ne_zero_of_lt hfuel)
    simp only [List.append_assoc] at hs hfuel
    obtain ⟨hk, -, hr₁⟩ := hs.significant_lead hl (by simp)
    obtain ⟨s₂, h₂, hr₂⟩ := readHandler_complete hr₁ hh
    simp only [readStanzas, hk, h₂, ok_bind]
    rw [ih hr₂ (hl.length_lt hfuel) (by simp)]
    simp
  | @client w ws cs xs c handlers clients hl hc _ ih =>
    obtain ⟨fuel, rfl⟩ := Nat.exists_eq_add_one_of_ne_zero (Nat.ne_zero_of_lt hfuel)
    simp only [List.append_assoc] at hs hfuel
    obtain ⟨hk, -, hr₁⟩ := hs.significant_lead hl (by simp)
    obtain ⟨s₂, h₂, hr₂⟩ := readClient_complete hr₁ hc
    simp only [readStanzas, hk, h₂, ok_bind]
    rw [ih hr₂ (hl.length_lt hfuel) (by simp)]
    simp

theorem Grammar.Stanzas.ne_nil_iff {handlers : List Handler} {clients : List Client}
    (h : Stanzas ys handlers clients) : ys ≠ [] ↔ handlers ≠ [] ∨ clients ≠ [] := by
  cases h with
  | nil => simp
  | handle hl | client hl => simp [hl.ne_nil]

/-- Symbols are read as a script exactly if the grammar derives the script from them and the end. -/
theorem readStanzas_eq_ok_iff (hs : s.Holds xs) (script : Script) :
    readStanzas (s.ahead.length + 1) ⟨[], []⟩ s = .ok script ↔
      Derives (xs ++ [⟨.endOfScript, ""⟩]) script := by
  have hfuel := Nat.lt_succ_of_le hs.length_le
  constructor
  · intro hok
    obtain ⟨ys, bs, handlers, clients, rfl, hst, hb, rfl, hne⟩ := readStanzas_sound hs hfuel hok
    rw [List.append_assoc]
    exact .mk hst (hst.ne_nil_iff.2 hne) (lead_endOfScript_iff.2 ⟨bs, rfl, hb⟩)
  · intro h
    -- The symbols of the derivation are those ahead, which end with the end.
    generalize hT : xs ++ [⟨.endOfScript, ""⟩] = T at h
    obtain ⟨hst, hne, hl⟩ := h
    obtain ⟨bs, rfl, hb⟩ := lead_endOfScript_iff.1 hl
    rw [← List.append_assoc] at hT
    obtain ⟨rfl, -⟩ := List.append_inj' hT rfl
    exact readStanzas_complete hs hfuel hst hb (hst.ne_nil_iff.1 hne)

/-- The grammar derives a script that is read. -/
theorem derives_of_parse {source : String} {script : Script} (h : parse source = .ok script) :
    Derives (symbols source) script := by
  obtain ⟨xs, hs, hsym⟩ := holds_ofText source
  rw [hsym]
  exact (readStanzas_eq_ok_iff hs script).1 h

/-- A script that the grammar derives is read. -/
theorem parse_of_derives {source : String} {script : Script}
    (h : Derives (symbols source) script) : parse source = .ok script := by
  obtain ⟨xs, hs, hsym⟩ := holds_ofText source
  rw [hsym] at h
  exact (readStanzas_eq_ok_iff hs script).2 h

/-- A text is read as a script exactly if the grammar derives the script from its symbols. -/
theorem parse_eq_ok_iff (source : String) (script : Script) :
    parse source = .ok script ↔ Derives (symbols source) script :=
  ⟨derives_of_parse, parse_of_derives⟩

end ProxyTrial.Script
