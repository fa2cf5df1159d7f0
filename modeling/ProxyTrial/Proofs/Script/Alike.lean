import ProxyTrial.Proofs.Script.FirstFault
/-!
# Readers of scripts that look alike

Two token streams are alike if they have the same symbols in the same order and their tokens stand
at related places; a run of line breaks may be longer or shorter in one of them than in the other.
A reader that goes along two such streams takes the same steps in both: it has the same result, or
else the same error, at tokens that are alike. Hence places reach nothing but the place of a fault,
and one line break means what several do.

Streams are alike again whatever a reader has taken, with one exception: a line break that is taken
where line breaks are heeded may have others behind it in one of the two streams only. No reader
goes on behind such a line break; it ends a `tx` command, which puts it back, or is a fault.

## Main definitions

* `Token.Like P t u`, `Alike P ts us`: tokens with the same symbols at places that `P` relates
* `ResultsLike P Q`: both have results that `Q` relates, or the same error
* `Simulates P Q n r r'`: two readers find what is alike in streams that are alike

## Main results

* `Simulates.ask`, `Simulates.seq`: readers that are put together of such ones
* `stanzas_like`: stanzas, also after those of another script
-/

namespace ProxyTrial.Script

open TokenStream (skips)
open Reader

variable {P : Place → Place → Prop} {s s' : TokenStream} {t u : Token} {ts us : List Token}

/-! ## Tokens that are alike -/

/-- Tokens with the same symbol at related places. -/
structure Token.Like (P : Place → Place → Prop) (t u : Token) : Prop where
  kind : u.kind = t.kind
  text : u.text = t.text
  place : P t.place u.place

/-- A fault is told of tokens that are alike in the same words. -/
theorem Token.Like.message (h : Token.Like P t u) (f : Fault) : f.message u = f.message t := by
  obtain ⟨k, w, p⟩ := t
  obtain ⟨k', w', p'⟩ := u
  obtain ⟨rfl, rfl, -⟩ : k' = k ∧ w' = w ∧ P p p' := ⟨h.kind, h.text, h.place⟩
  have hshown : Token.shown ⟨k', w', p'⟩ = Token.shown ⟨k', w', p⟩ := by
    rw [Token.shown, Token.shown]
  have hdescribed : Token.described ⟨k', w', p'⟩ = Token.described ⟨k', w', p⟩ := by
    rw [Token.described, Token.described, hshown]
  unfold Fault.message
  rw [hdescribed, hshown]

/-- Tokens that are alike one by one; of a run of line breaks only the first ones have to be. -/
inductive Alike (P : Place → Place → Prop) : List Token → List Token → Prop
  | nil : Alike P [] []
  | token {t u : Token} {ts us : List Token} :
      Token.Like P t u → t.kind ≠ .lineBreak → Alike P ts us → Alike P (t :: ts) (u :: us)
  | lineBreaks {b c : Token} {bs cs ts us : List Token} :
      Token.Like P b c → b.kind = .lineBreak → (∀ t ∈ bs, t.kind = .lineBreak) →
      (∀ t ∈ cs, t.kind = .lineBreak) → Alike P ts us → Alike P (b :: (bs ++ ts)) (c :: (cs ++ us))

/-- The tokens after the line breaks in front. -/
def dropBreaks (ts : List Token) : List Token := ts.dropWhile fun t => skips true t.kind

theorem skips_of_lineBreak (h : t.kind = .lineBreak) : skips true t.kind = true := by
  rw [h]
  rfl

theorem dropBreaks_append {bs : List Token} (h : ∀ t ∈ bs, skips true t.kind = true)
    (ts : List Token) : dropBreaks (bs ++ ts) = dropBreaks ts :=
  List.dropWhile_append_of_pos h

theorem dropBreaks_cons (h : skips true t.kind = false) (ts : List Token) :
    dropBreaks (t :: ts) = t :: ts :=
  List.dropWhile_cons_of_neg (by simp [h])

theorem exists_append_dropBreaks (ts : List Token) :
    ∃ bs, ts = bs ++ dropBreaks ts ∧ ∀ t ∈ bs, skips true t.kind = true :=
  ⟨_, List.takeWhile_append_dropWhile.symm, fun _ => List.mem_takeWhile_imp⟩

/-- What line breaks lead up to is alike. -/
theorem Alike.dropBreaks (h : Alike P ts us) : Alike P (dropBreaks ts) (dropBreaks us) := by
  induction h with
  | nil => exact .nil
  | @token t u ts us htu ht htail ih =>
    cases hskip : skips true t.kind with
    | true =>
      have hskip' : skips true u.kind = true := htu.kind ▸ hskip
      rw [Script.dropBreaks, Script.dropBreaks, List.dropWhile_cons_of_pos (by simp [hskip]),
        List.dropWhile_cons_of_pos (by simp [hskip'])]
      exact ih
    | false =>
      rw [dropBreaks_cons hskip, dropBreaks_cons (htu.kind ▸ hskip)]
      exact .token htu ht htail
  | @lineBreaks b c bs cs ts us hbc hb hbs hcs _ ih =>
    have hall : ∀ {t : Token} {l : List Token}, t.kind = .lineBreak →
        (∀ v ∈ l, v.kind = .lineBreak) → ∀ v ∈ t :: l, skips true v.kind = true := by
      intro t l ht hl
      exact List.forall_mem_cons.2 ⟨skips_of_lineBreak ht, fun v hv => skips_of_lineBreak (hl v hv)⟩
    rw [← List.cons_append, ← List.cons_append, dropBreaks_append (hall hb hbs),
      dropBreaks_append (hall (hbc.kind.trans hb) hcs)]
    exact ih

/-- The first tokens are alike, and so is what follows them unless they are line breaks. -/
theorem Alike.of_cons (h : Alike P (t :: ts) us) :
    ∃ u vs, us = u :: vs ∧ Token.Like P t u ∧ (t.kind ≠ .lineBreak → Alike P ts vs) := by
  cases h with
  | token htu ht htail => exact ⟨_, _, rfl, htu, fun _ => htail⟩
  | lineBreaks htu ht => exact ⟨_, _, rfl, htu, fun hne => absurd ht hne⟩

/-- Tokens that are alike one by one are alike. -/
theorem Alike.map {g : Token → Token} (h : ∀ t, Token.Like P t (g t)) (ts : List Token) :
    Alike P ts (ts.map g) := by
  induction ts with
  | nil => exact .nil
  | cons t ts ih =>
    by_cases ht : t.kind = .lineBreak
    · change Alike P (t :: ([] ++ ts)) (g t :: ([] ++ ts.map g))
      exact .lineBreaks (h t) ht (List.forall_mem_nil _) (List.forall_mem_nil _) ih
    · exact .token (h t) ht ih

/-- The tokens ahead in two streams are alike, and they are at most `n`. -/
def StreamsLike (P : Place → Place → Prop) (n : ℕ) (s s' : TokenStream) : Prop :=
  ∃ ts us, s.Faces ts ∧ s'.Faces us ∧ Alike P ts us ∧ ts.length ≤ n

theorem StreamsLike.mono {m n : ℕ} (h : StreamsLike P m s s') (hmn : m ≤ n) :
    StreamsLike P n s s' := by
  obtain ⟨ts, us, hs, hs', halike, hm⟩ := h
  exact ⟨ts, us, hs, hs', halike, hm.trans hmn⟩

/-- A token that a reader can go on behind. -/
def Token.Inner (t : Token) : Prop := t.kind ≠ .endOfScript ∧ t.kind ≠ .lineBreak

theorem Token.inner_of_kind {k : Kind} (hk : t.kind = k)
    (hinner : k ≠ .endOfScript ∧ k ≠ .lineBreak) : t.Inner := by
  subst hk
  exact hinner

/-- Readers take tokens that are alike from streams that are, and fewer are left. -/
theorem StreamsLike.significant {n : ℕ} (h : StreamsLike P n s s') (skip : Bool) :
    Token.Like P (s.significant skip).1 (s'.significant skip).1 ∧
      ((s.significant skip).1.Inner →
        ∃ m < n, StreamsLike P m (s.significant skip).2 (s'.significant skip).2) := by
  obtain ⟨ts, us, hs, hs', halike, hn⟩ := h
  -- Both readers pass over tokens and take one each, which are alike.
  obtain ⟨bs, t, rest, cs, u, rest', rfl, rfl, hbs, hcs, ht, htu, htail⟩ :
      ∃ bs t rest cs u rest', ts = bs ++ t :: rest ∧ us = cs ++ u :: rest' ∧
        (∀ v ∈ bs, skips skip v.kind = true) ∧ (∀ v ∈ cs, skips skip v.kind = true) ∧
        skips skip t.kind = false ∧ Token.Like P t u ∧
        (t.kind ≠ .lineBreak → Alike P rest rest') := by
    cases skip with
    | true =>
      obtain ⟨bs, t, rest, rfl, hbs, ht⟩ := hs.exists_significant true
      obtain ⟨cs, hcs, hskip⟩ := exists_append_dropBreaks us
      have hdrop := halike.dropBreaks
      rw [dropBreaks_append hbs, dropBreaks_cons ht] at hdrop
      obtain ⟨u, rest', hu, htu, htail⟩ := hdrop.of_cons
      exact ⟨bs, t, rest, cs, u, rest', rfl, hu ▸ hcs, hbs, hskip, ht, htu, htail⟩
    | false =>
      obtain ⟨bs, t, rest, rfl, hbs, ht⟩ := hs.exists_significant false
      -- No token ahead is a blank.
      obtain rfl : bs = [] := by
        refine List.eq_nil_iff_forall_not_mem.2 fun v hv => ?_
        obtain ⟨init, he, hinit⟩ := hs.eq_concat
        have hmem : v ∈ init ++ [s.endToken] := he ▸ List.mem_append_left _ hv
        have hblank : v.kind = .blank := by simpa [skips] using hbs v hv
        rcases List.mem_append.1 hmem with hmem | hmem
        · exact (hinit v hmem).2 hblank
        · rw [List.mem_singleton.1 hmem] at hblank
          cases hblank
      obtain ⟨u, rest', rfl, htu, htail⟩ := halike.of_cons
      exact ⟨[], t, rest, [], u, rest', rfl, rfl, hbs, hbs, ht, htu, htail⟩
  obtain ⟨hfirst, hrest⟩ := hs.significant hbs ht
  obtain ⟨hfirst', hrest'⟩ := hs'.significant hcs (htu.kind ▸ ht)
  rw [hfirst, hfirst']
  refine ⟨htu, ?_⟩
  rintro ⟨hend, hbreak⟩
  refine ⟨rest.length, ?_, rest, rest', ?_, ?_, htail hbreak, le_rfl⟩
  · rw [List.length_append, List.length_cons] at hn
    omega
  · rwa [if_neg hend] at hrest
  · rwa [if_neg (htu.kind ▸ hend)] at hrest'

/-! ## Results that are alike -/

/-- The same error, at tokens that are alike if it is a fault. -/
inductive ErrorsLike (P : Place → Place → Prop) : ScriptError → ScriptError → Prop
  | faultAt {f : Fault} {t u : Token} :
      Token.Like P t u → ErrorsLike P (.faultAt f t) (.faultAt f u)
  | longInteger (n : ℕ) : ErrorsLike P (.longInteger n) (.longInteger n)
  | pattern (e : PatternError) : ErrorsLike P (.pattern e) (.pattern e)

section Results

variable {α β α' β' : Type} {Q : α → β → Prop} {Q' : α' → β' → Prop}

/-- Related results, or the same error. -/
inductive ResultsLike (P : Place → Place → Prop) (Q : α → β → Prop) :
    Except ScriptError α → Except ScriptError β → Prop
  | ok {a : α} {b : β} : Q a b → ResultsLike P Q (.ok a) (.ok b)
  | error {e e' : ScriptError} : ErrorsLike P e e' → ResultsLike P Q (.error e) (.error e')

theorem ResultsLike.bind {x : Except ScriptError α} {y : Except ScriptError β}
    {f : α → Except ScriptError α'} {g : β → Except ScriptError β'} (h : ResultsLike P Q x y)
    (hfg : ∀ a b, Q a b → ResultsLike P Q' (f a) (g b)) : ResultsLike P Q' (x >>= f) (y >>= g) := by
  cases h with
  | ok hab => exact hfg _ _ hab
  | error he => exact .error he

theorem ResultsLike.mono {Q' : α → β → Prop} {x : Except ScriptError α}
    {y : Except ScriptError β} (h : ResultsLike P Q x y) (hQ : ∀ a b, Q a b → Q' a b) :
    ResultsLike P Q' x y := by
  cases h with
  | ok hab => exact .ok (hQ _ _ hab)
  | error he => exact .error he

theorem resultsLike_unexpected (wanted : Wanted) (construct : Construct) (h : Token.Like P t u) :
    ResultsLike P Q (.error (unexpected wanted construct t))
      (.error (unexpected wanted construct u)) :=
  .error (.faultAt h)

/-! ## Readers -/

/-- Two readers find what is alike in streams that are alike and have at most `n` tokens ahead. -/
def Simulates (P : Place → Place → Prop) (Q : α → β → Prop) (n : ℕ) (r : Reader α)
    (r' : Reader β) : Prop :=
  ∀ m s s', m ≤ n → StreamsLike P m s s' →
    ResultsLike P (fun p q => Q p.1 q.1 ∧ StreamsLike P m p.2 q.2) (r s) (r' s')

/-- Readers fail alike at these tokens, or what they read behind them is alike. -/
def GoesOnLike (P : Place → Place → Prop) (Q : α → β → Prop) (n : ℕ) (t : Token) (r : Reader α)
    (r' : Reader β) : Prop :=
  (∃ e e', r = fail e ∧ r' = fail e' ∧ ErrorsLike P e e') ∨ t.Inner ∧ Simulates P Q n r r'

variable {n : ℕ} {r : Reader α} {r' : Reader β}

theorem Simulates.give {a : α} {b : β} (h : Q a b) : Simulates P Q n (give a) (give b) :=
  fun _ _ _ _ hlike => .ok ⟨h, hlike⟩

theorem Simulates.congr {q : Reader α} {q' : Reader β}
    (hq : ∀ {s ts}, s.Faces ts → r s = q s) (hq' : ∀ {s ts}, s.Faces ts → r' s = q' s)
    (h : Simulates P Q n q q') : Simulates P Q n r r' := by
  intro m s s' hm hlike
  obtain ⟨ts, us, hs, hs', -⟩ := id hlike
  rw [hq hs, hq' hs']
  exact h m s s' hm hlike

theorem Simulates.seq {k : α → Reader α'} {k' : β → Reader β'} (h : Simulates P Q n r r')
    (hk : ∀ a b, Q a b → Simulates P Q' n (k a) (k' b)) :
    Simulates P Q' n (Reader.seq r k) (Reader.seq r' k') :=
  fun m s s' hm hlike => (h m s s' hm hlike).bind fun p q hpq =>
    hk p.1 q.1 hpq.1 m p.2 q.2 hm hpq.2

theorem Simulates.map {g : α → α'} {g' : β → β'} (h : Simulates P Q n r r')
    (hg : ∀ a b, Q a b → Q' (g a) (g' b)) :
    Simulates P Q' n (Reader.seq r fun a => Reader.give (g a))
      (Reader.seq r' fun b => Reader.give (g' b)) :=
  h.seq fun a b hab => .give (hg a b hab)

theorem GoesOnLike.unexpected (wanted : Wanted) (construct : Construct) (h : Token.Like P t u) :
    GoesOnLike P Q n t (fail (Script.unexpected wanted construct t))
      (fail (Script.unexpected wanted construct u)) :=
  .inl ⟨_, _, rfl, rfl, .faultAt h⟩

/-- A token of most kinds can be gone on behind. -/
theorem GoesOnLike.behind {k : Kind} (hk : t.kind = k)
    (hinner : k ≠ .endOfScript ∧ k ≠ .lineBreak) (h : Simulates P Q n r r') :
    GoesOnLike P Q n t r r' :=
  .inr ⟨t.inner_of_kind hk hinner, h⟩

/-- Readers that ask for a token go on alike if they do with each token. -/
theorem Simulates.ask {skip : Bool} {next : Token → Reader α} {next' : Token → Reader β}
    (h : ∀ m < n, ∀ t u, Token.Like P t u → GoesOnLike P Q m t (next t) (next' u)) :
    Simulates P Q n (ask skip next) (ask skip next') := by
  intro m s s' hm hlike
  obtain ⟨htu, hrest⟩ := hlike.significant skip
  -- Less than the tokens ahead are left behind the one that is taken.
  rcases Nat.eq_zero_or_pos m with rfl | hpos
  · obtain ⟨ts, us, hs, -, -, hzero⟩ := hlike
    exact absurd (List.length_eq_zero_iff.1 (Nat.le_zero.1 hzero)) hs.ne_nil
  · rcases h (m - 1) (by omega) _ _ htu with ⟨e, e', hfail, hfail', he⟩ | ⟨hinner, hnext⟩
    · rw [Reader.ask, Reader.ask, hfail, hfail']
      exact .error he
    · obtain ⟨k, hk, hlike'⟩ := hrest hinner
      exact (hnext k _ _ (by omega) hlike').mono fun p q hpq =>
        ⟨hpq.1, hpq.2.mono hk.le⟩

/-- Readers that judge one token judge tokens alike that are alike. -/
theorem Simulates.judged {skip : Bool} {judge : Token → Except ScriptError α}
    {judge' : Token → Except ScriptError β}
    (h : ∀ t u, Token.Like P t u →
      ResultsLike P (fun a b => Q a b ∧ t.Inner) (judge t) (judge' u)) :
    Simulates P Q n (judged skip judge) (judged skip judge') := by
  refine .ask fun m _ t u htu => ?_
  have hresult := h t u htu
  generalize judge t = x at hresult ⊢
  generalize judge' u = y at hresult ⊢
  cases hresult with
  | ok hab => exact .inr ⟨hab.2, .give hab.1⟩
  | error he => exact .inl ⟨_, _, rfl, rfl, he⟩

end Results

/-! ## Readers of one token -/

variable {n : ℕ}

theorem wantKind_like {k : Kind} (hk : k ≠ .endOfScript ∧ k ≠ .lineBreak) (wanted : Wanted)
    (construct : Construct) (h : Token.Like P t u) :
    ResultsLike P (fun a b => Token.Like P a b ∧ t.Inner) (wantKind k wanted construct t)
      (wantKind k wanted construct u) := by
  rw [wantKind, wantKind, h.kind]
  split
  · next ht => exact .ok ⟨h, t.inner_of_kind ht hk⟩
  · exact resultsLike_unexpected _ _ h

theorem simulates_readKind {k : Kind} (hk : k ≠ .endOfScript ∧ k ≠ .lineBreak) (wanted : Wanted)
    (construct : Construct) :
    Simulates P (Token.Like P) n (readKind k wanted construct) (readKind k wanted construct) := by
  rw [readKind_eq]
  exact .judged fun t u => wantKind_like hk wanted construct

theorem simulates_readValue {k : Kind} (hk : k ≠ .endOfScript ∧ k ≠ .lineBreak) (wanted : Wanted) :
    Simulates P (Token.Like P) n (readValue k wanted) (readValue k wanted) := by
  rw [readValue_eq]
  exact .judged fun t u => wantKind_like hk wanted .txCommand

/-! ## Expectations -/

theorem simulates_readSelector (side : String) :
    Simulates P Eq n (readSelector side) (readSelector side) := by
  rw [readSelector_eq]
  refine (simulates_readKind (by simp) _ _).seq fun _ _ _ => ?_
  refine (simulates_readKind (by simp) _ _).seq fun name name' hname => ?_
  exact (simulates_readKind (by simp) _ _).map fun _ _ _ => hname.text.symm

theorem simulates_readSubject (side : String) :
    Simulates P Eq n (readSubject side) (readSubject side) := by
  rw [readSubject_eq]
  refine .ask fun m _ t u htu => ?_
  rw [subjectAfter, subjectAfter, htu.kind]
  split
  · next hk => exact .behind hk (by simp) (.give rfl)
  · next hk => exact .behind hk (by simp) (.give rfl)
  · next hk => exact .behind hk (by simp) (.give rfl)
  · next hk =>
    refine .behind hk (by simp) ((simulates_readSelector side).map ?_)
    rintro name _ rfl
    rfl
  · exact .unexpected _ _ htu

/-- A comparison depends on the kind of the operator and the text of the value. -/
theorem comparisonOf_like {o o' v v' : Token} (ho : Token.Like P o o') (hv : Token.Like P v v') :
    ResultsLike P Eq (comparisonOf o v) (comparisonOf o' v') := by
  rw [comparisonOf, comparisonOf, ho.kind, hv.text]
  split
  · exact .ok rfl
  · exact .ok rfl
  · split
    · exact .ok rfl
    · split
      · exact .error (.faultAt hv)
      · exact .error (.faultAt hv)
      · exact .error (.pattern _)

/-- Expectations are read alike. -/
theorem simulates_readExpect : Simulates P Eq n readExpect readExpect := by
  rw [readExpect_eq]
  refine Simulates.seq (Q := fun a b => b.1.text = a.1.text ∧ b.2 = a.2)
    (.judged fun t u htu => ?_) ?_
  · rw [wantSide, wantSide, htu.kind]
    split
    · next side hside =>
      refine .ok ⟨⟨htu.text, rfl⟩, fun hk => ?_, fun hk => ?_⟩ <;> rw [hk] at hside <;> cases hside
    · exact resultsLike_unexpected _ _ htu
  rintro ⟨t, side⟩ ⟨u, _⟩ ⟨htext, rfl⟩
  rw [htext]
  -- Of the tokens only kinds and texts reach the expectation.
  refine (simulates_readKind (by simp) _ _).seq fun _ _ _ => ?_
  refine (simulates_readSubject _).seq fun subject _ hsubject => hsubject ▸ ?_
  refine Simulates.seq (Q := Token.Like P) (.judged fun o o' ho => ?_) fun o o' ho => ?_
  · rw [wantOperator, wantOperator, ho.kind]
    split
    · next hoperator =>
      refine .ok ⟨ho, fun hk => ?_, fun hk => ?_⟩ <;> rw [hk] at hoperator <;> cases hoperator
    · exact resultsLike_unexpected _ _ ho
  · refine .judged fun v v' hv => ?_
    have hwritten : writtenValue v' = writtenValue v := by
      rw [writtenValue, writtenValue, hv.kind, hv.text]
    rw [wantExpected, wantExpected, hwritten]
    split
    · exact resultsLike_unexpected _ _ hv
    · next written hvalue =>
      refine (comparisonOf_like ho hv).bind fun c _ hc => .ok ⟨?_, fun hk => ?_, fun hk => ?_⟩
      · rw [hc, ho.text, hv.text]
      all_goals
        rw [writtenValue, hk] at hvalue
        cases hvalue

/-! ## Flags -/

theorem simulates_readHeader (hs : Headers) :
    Simulates P Eq n (readHeader hs) (readHeader hs) := by
  rw [readHeader_eq]
  refine .judged fun t u htu => ?_
  rw [wantHeader, wantHeader]
  refine (wantKind_like (by simp) .header .txCommand htu).bind ?_
  rintro a b ⟨hab, ht⟩
  rw [hab.text]
  split
  · exact resultsLike_unexpected _ _ hab
  · exact .ok ⟨rfl, ht⟩

theorem integerValue_like (w : String) :
    ResultsLike P Eq (integerValue w) (integerValue w) := by
  rw [integerValue]
  simp only
  split
  · exact .error (.longInteger _)
  · exact .ok rfl

theorem simulates_readStatus : Simulates P Eq n readStatus readStatus := by
  rw [readStatus_eq]
  refine .judged fun t u htu => ?_
  rw [wantStatus, wantStatus]
  refine (wantKind_like (by simp) .integer .txCommand htu).bind ?_
  rintro a b ⟨hab, ht⟩
  rw [hab.text]
  refine (integerValue_like a.text).bind fun code _ hcode => ?_
  rw [← hcode]
  split
  · exact .ok ⟨rfl, ht⟩
  · exact resultsLike_unexpected _ _ hab

section Flags

variable {α : Type} {flag : Token → α → Reader α}

/-- The value of a flag is read alike, or the flag is refused alike. -/
def FlagLike (P : Place → Place → Prop) (flag : Token → α → Reader α) : Prop :=
  ∀ (n : ℕ) (t u : Token) (a : α), Token.Like P t u → GoesOnLike P Eq n t (flag t a) (flag u a)

theorem flagLike_reply : FlagLike P readReplyFlag := by
  intro n t u r htu
  rw [readReplyFlag_eq, readReplyFlag_eq, replyFlag, replyFlag, htu.kind]
  split
  · next hk =>
    refine .behind hk (by simp) ((simulates_readValue (by simp) _).map ?_)
    exact fun a b hab => by rw [hab.text]
  · next hk =>
    refine .behind hk (by simp) ((simulates_readHeader _).map ?_)
    exact fun a b hab => by rw [hab]
  · next hk =>
    refine .behind hk (by simp) (simulates_readStatus.map ?_)
    exact fun a b hab => by rw [hab]
  · exact .unexpected _ _ htu

theorem flagLike_call : FlagLike P readCallFlag := by
  intro n t u c htu
  have htext : ∀ f : String → Call, Simulates P Eq n
      (seq (readValue .string .text) fun t => give (f t.text))
      (seq (readValue .string .text) fun t => give (f t.text)) :=
    fun f => (simulates_readValue (by simp) _).map fun a b hab => by rw [hab.text]
  rw [readCallFlag_eq, readCallFlag_eq, callFlag, callFlag, htu.kind]
  split
  · next hk => exact .behind hk (by simp) (htext fun body => { c with body })
  · next hk =>
    refine .behind hk (by simp) ((simulates_readHeader _).map ?_)
    exact fun a b hab => by rw [hab]
  · next hk => exact .behind hk (by simp) (htext fun method => { c with method })
  · next hk => exact .behind hk (by simp) (htext fun target => { c with target })
  · exact .unexpected _ _ htu

/-- Flags are read alike. They end before the same token, which is put back with what follows it,
so that a line break may end them whatever follows. -/
theorem simulates_flags (hprompt : PromptFlag flag) (hflag : FlagLike P flag) (a : α) :
    Simulates P Eq n (flags flag a) (flags flag a) := by
  induction n using Nat.strongRecOn generalizing a with
  | ind n ih =>
  intro m s s' hm hlike
  obtain ⟨ts, us, hs, hs', halike, hlength⟩ := id hlike
  obtain ⟨t, ts, rfl⟩ := List.exists_cons_of_ne_nil hs.ne_nil
  obtain ⟨u, us, rfl, htu, htail⟩ := id halike.of_cons
  obtain ⟨hends, hgoes⟩ := flags_eq hprompt a hs
  obtain ⟨hends', hgoes'⟩ := flags_eq hprompt a hs'
  rw [htu.kind] at hends' hgoes'
  cases hk : endsTx t.kind with
  | true =>
    obtain ⟨s₁, heq, hs₁⟩ := hends hk
    obtain ⟨s₂, heq', hs₂⟩ := hends' hk
    rw [heq, heq']
    exact .ok ⟨rfl, _, _, hs₁, hs₂, halike, hlength⟩
  | false =>
    obtain ⟨s₁, heq, hs₁⟩ := hgoes hk
    obtain ⟨s₂, heq', hs₂⟩ := hgoes' hk
    -- Only behind a line break may the streams differ, and a line break is no flag.
    have hbreak : t.kind ≠ .lineBreak := by
      intro hbreak
      rw [hbreak] at hk
      cases hk
    rw [List.length_cons] at hlength
    have hlike' : StreamsLike P (m - 1) s₁ s₂ :=
      ⟨ts, us, hs₁, hs₂, htail hbreak, by omega⟩
    rw [heq, heq']
    rcases hflag (m - 1) t u a htu with ⟨e, e', hfail, hfail', he⟩ | ⟨-, hvalue⟩
    · rw [hfail, hfail']
      exact .error he
    · have hrest : Simulates P Eq (m - 1) (seq (flag t a) (flags flag))
          (seq (flag u a) (flags flag)) :=
        hvalue.seq fun b _ hb => hb ▸ ih (m - 1) (by omega) b
      exact (hrest _ s₁ s₂ le_rfl hlike').mono fun p q hpq => ⟨hpq.1, hpq.2.mono (Nat.sub_le _ _)⟩

end Flags

/-! ## Stanzas -/

theorem simulates_handlerBody (path : String) (es : List Expectation) :
    Simulates P Eq n (handlerBody path es) (handlerBody path es) := by
  induction n using Nat.strongRecOn generalizing es with
  | ind n ih =>
  refine .congr (fun hs => handlerBody_eq path es hs) (fun hs => handlerBody_eq path es hs)
    (.ask fun m hm t u htu => ?_)
  rw [handlerBodyAfter, handlerBodyAfter, htu.kind]
  split
  · next hk => exact .behind hk (by simp) (.give rfl)
  · next hk =>
    refine .behind hk (by simp) (simulates_readExpect.seq fun e _ he => ?_)
    exact he ▸ ih m hm _
  · next hk =>
    refine .behind hk (by simp)
      ((simulates_flags promptFlag_reply flagLike_reply {}).seq fun reply _ hreply => ?_)
    exact (simulates_readKind (by simp) _ _).map fun _ _ _ => by rw [hreply]
  · exact .unexpected _ _ htu
  · exact .unexpected _ _ htu

theorem simulates_readHandler : Simulates P Eq n readHandler readHandler := by
  rw [readHandler_eq]
  refine Simulates.seq (Q := Token.Like P) (.judged fun t u htu => ?_) fun path path' hpath => ?_
  · rw [wantPath, wantPath, htu.kind, htu.text]
    split
    · exact resultsLike_unexpected _ _ htu
    · next hk =>
      rw [not_or, not_not] at hk
      exact .ok ⟨htu, t.inner_of_kind hk.1 (by simp)⟩
  · refine (simulates_readKind (by simp) _ _).seq fun _ _ _ => ?_
    rw [hpath.text]
    exact simulates_handlerBody _ _

theorem simulates_clientBody (name : String) (call : Option Call) (es : List Expectation) :
    Simulates P Eq n (clientBody name call es) (clientBody name call es) := by
  induction n using Nat.strongRecOn generalizing call es with
  | ind n ih =>
  refine .congr (fun hs => clientBody_eq name call es hs)
    (fun hs => clientBody_eq name call es hs) (.ask fun m hm t u htu => ?_)
  unfold clientBodyAfter
  rw [htu.kind]
  split
  · next hk => exact .behind hk (by simp) (.give rfl)
  · next hk =>
    -- A second `tx` command is refused.
    cases call with
    | some call => exact .inl ⟨_, _, rfl, rfl, .faultAt htu⟩
    | none =>
      refine .behind hk (by simp)
        ((simulates_flags promptFlag_call flagLike_call {}).seq fun call _ hcall => ?_)
      exact hcall ▸ ih m hm _ _
  · next hk =>
    refine .behind hk (by simp) (simulates_readExpect.seq fun e _ he => ?_)
    exact he ▸ ih m hm _ _
  · exact .unexpected _ _ htu
  · exact .unexpected _ _ htu

theorem simulates_readClient : Simulates P Eq n readClient readClient := by
  rw [readClient_eq]
  refine (simulates_readKind (by simp) _ _).seq fun name name' hname => ?_
  refine (simulates_readKind (by simp) _ _).seq fun _ _ _ => ?_
  rw [hname.text]
  exact simulates_clientBody _ _ _

/-! ## Scripts -/

/-- The stanzas of a script before those of another. -/
instance : Append Script := ⟨fun p q => ⟨p.handlers ++ q.handlers, p.clients ++ q.clients⟩⟩

/-- Whether a script has no stanza. -/
def bare (p : Script) : Bool := p.handlers.isEmpty && p.clients.isEmpty

section Stanzas

variable {front script : Script}

/-- A stanza is read alike after those of a script and after those of a longer one, and so are those
behind it, which have others before them. -/
theorem StanzaReader.like {α : Type} {r : Reader α} {add add' : α → Script} {xs : List Symbol}
    (h : StanzaReader script t r add xs) (h' : StanzaReader (front ++ script) u r add' xs)
    (hadd : ∀ a, add' a = front ++ add a) (hr : Simulates P Eq n r r) (hlike : StreamsLike P n s s')
    (ih : ∀ a s s', StreamsLike P n s s' → bare (front ++ add a) = bare (add a) →
      ResultsLike P (fun p q => q = front ++ p) (stanzas (add a) s) (stanzas (front ++ add a) s')) :
    ResultsLike P (fun p q => q = front ++ p) (stanzasAfter script t s)
      (stanzasAfter (front ++ script) u s') := by
  rw [h.after, h'.after]
  refine (hr n s s' le_rfl hlike).bind ?_
  rintro ⟨a, s₁⟩ ⟨_, s₂⟩ ⟨rfl, hrest⟩
  rw [hadd]
  exact ih a s₁ s₂ hrest ((hadd a ▸ h'.nonempty a).trans (h.nonempty a).symm)

/-- Stanzas are read alike after those of a script and after those of a longer one, which go before
what is read. Only the end is not the same if there is no stanza before it in one of them. -/
theorem stanzas_like (hs : s.Faces ts) (hs' : s'.Faces us)
    (halike : Alike P (dropBreaks ts) (dropBreaks us))
    (hend : (∀ t ∈ (dropBreaks ts).head?, t.kind ≠ .endOfScript) ∨
      bare (front ++ script) = bare script) :
    ResultsLike P (fun p q => q = front ++ p) (stanzas script s)
      (stanzas (front ++ script) s') := by
  induction hn : ts.length using Nat.strongRecOn generalizing script s s' ts us with
  | ind n ih =>
  -- The first tokens that are no line breaks are alike, and what is left behind them is.
  obtain ⟨bs, t, rest, rfl, hbs, ht⟩ := hs.exists_significant true
  obtain ⟨cs, hcs, hskip⟩ := exists_append_dropBreaks us
  rw [dropBreaks_append hbs, dropBreaks_cons ht] at halike hend
  obtain ⟨u, rest', hu, htu, htail⟩ := halike.of_cons
  rw [hu] at hcs
  subst hcs
  obtain ⟨s₁, heq, hs₁⟩ := stanzas_eq script hs hbs ht
  obtain ⟨s₂, heq', hs₂⟩ := stanzas_eq (front ++ script) hs' hskip (htu.kind ▸ ht)
  rw [List.length_append, List.length_cons] at hn
  rw [heq, heq']
  have hrest : t.Inner → StreamsLike P rest.length s₁ s₂ := by
    intro ⟨hinner, hbreak⟩
    rw [if_neg hinner] at hs₁
    rw [if_neg (htu.kind ▸ hinner)] at hs₂
    exact ⟨rest, rest', hs₁, hs₂, htail hbreak, le_rfl⟩
  have hnext : ∀ script' s s', StreamsLike P rest.length s s' →
      bare (front ++ script') = bare script' →
      ResultsLike P (fun p q => q = front ++ p) (stanzas script' s)
        (stanzas (front ++ script') s') := by
    rintro script' s s' ⟨ts', us', hs, hs', halike', hle⟩ hbare
    exact ih ts'.length (by omega) hs hs' halike'.dropBreaks (.inr hbare) rfl
  cases hk : t.kind
  case handle =>
    refine (stanzaReader_handle hk).like (stanzaReader_handle (htu.kind.trans hk)) (fun h => ?_)
      simulates_readHandler (hrest (t.inner_of_kind hk (by simp))) fun h => hnext _
    exact congrArg (Script.mk · _) (List.append_assoc ..)
  case client =>
    refine (stanzaReader_client hk).like (stanzaReader_client (htu.kind.trans hk)) (fun c => ?_)
      simulates_readClient (hrest (t.inner_of_kind hk (by simp))) fun c => hnext _
    exact congrArg (Script.mk _) (List.append_assoc ..)
  case endOfScript =>
    have hbare := hend.resolve_left fun h => h t rfl hk
    have hat : ∀ {v : Token} (p : Script) (s : TokenStream), v.kind = .endOfScript →
        stanzasAfter p v s = if bare p then .error (.faultAt .noStanza v) else .ok p := by
      intro v p s hv
      rw [stanzasAfter, hv]
      rfl
    rw [hat script s₁ hk, hat (front ++ script) s₂ (htu.kind.trans hk), hbare]
    split
    · exact .error (.faultAt htu)
    · exact .ok rfl
  all_goals
    rw [stanzasAfter, stanzasAfter, htu.kind, hk]
    exact .error (.faultAt htu)

end Stanzas

end ProxyTrial.Script
