import ProxyTrial.Proofs.Basic
import ProxyTrial.Proofs.Script.Lexing
import ProxyTrial.Script.Command
/-!
# Readers that find faults at once

A reader takes tokens from the front of a stream. It is prompt if it does not look behind what it
takes, and if a fault that it finds is at the first token with which nothing can be read any more:
the tokens before it can be completed to something that is read, and whatever follows it, the fault
is the same. Readers that are put together of prompt ones are prompt.

Two readers look at the token behind what they take: the flags of a `tx` command end before some
kinds of tokens only, and stanzas before the end of the script. Hence a reader comes with the kinds
that it may stop before.

## Main definitions

* `TokenStream.Faces s ts`: the tokens ahead in `s` are `ts`, blanks left out and the end included
* `Yields stop r us a`, `FailsAt r us f t`: a reader has a result, or a fault, with the tokens `us`
* `Prompt stop r s ts`: what a reader finds at a stream is found at once
* `Reads n stop r xs`: a prompt reader, which reads the symbols `xs`
* `Reader.ask`, `Reader.seq`: readers put together

## Main results

* `Reads.ask`, `Reads.seq`, `Reads.seq_stop`: such readers are prompt
* `Reads.judged`: a reader of one token
-/

namespace ProxyTrial.Script

open TokenStream (skips)

/-! ## The tokens ahead -/

theorem TokenStream.significant_of_skips {b : Bool} {u : Token} (h : skips b u.kind = true)
    (us : List Token) (p : Place) :
    significant ⟨u :: us, p⟩ b = significant ⟨us, p⟩ b := by
  simp [significant, skip, h]

theorem TokenStream.significant_of_not_skips {b : Bool} {u : Token} (h : skips b u.kind = false)
    (us : List Token) (p : Place) : significant ⟨u :: us, p⟩ b = (u, ⟨us, p⟩) := by
  simp [significant, skip, next, h]

theorem TokenStream.filtered_of_skips {b : Bool} {u : Token} (h : skips b u.kind = true)
    (us : List Token) (p : Place) : filtered ⟨u :: us, p⟩ b = filtered ⟨us, p⟩ b := by
  rw [filtered, filtered, List.filter_cons_of_neg (by simp [h])]
  rfl

theorem TokenStream.filtered_of_not_skips {b : Bool} {u : Token} (h : skips b u.kind = false)
    (us : List Token) (p : Place) : filtered ⟨u :: us, p⟩ b = u :: filtered ⟨us, p⟩ b := by
  rw [filtered, filtered, List.filter_cons_of_pos (by simp [h])]
  rfl

/-- The tokens ahead in a stream, blanks left out and the end included. -/
structure TokenStream.Faces (s : TokenStream) (ts : List Token) : Prop where
  inside : ∀ t ∈ s.ahead, t.kind ≠ .endOfScript
  filtered : s.filtered false = ts

namespace TokenStream.Faces

variable {s : TokenStream} {bs ts : List Token} {t : Token} {b : Bool}

theorem eq_concat (h : s.Faces ts) :
    ∃ init, ts = init ++ [s.endToken] ∧ ∀ t ∈ init, t.kind ≠ .endOfScript ∧ t.kind ≠ .blank := by
  refine ⟨_, h.filtered.symm, fun t ht => ?_⟩
  obtain ⟨hmem, hskip⟩ := List.mem_filter.1 ht
  exact ⟨h.inside t hmem, by simpa [skips] using hskip⟩

theorem ne_nil (h : s.Faces ts) : ts ≠ [] := by
  obtain ⟨init, rfl, -⟩ := h.eq_concat
  exact List.append_ne_nil_of_right_ne_nil _ (List.cons_ne_nil _ _)

theorem length_le (h : s.Faces ts) : ts.length ≤ s.ahead.length + 1 := by
  rw [← h.filtered, TokenStream.filtered, List.length_append, List.length_singleton]
  exact Nat.succ_le_succ (List.length_filter_le ..)

/-- The end stands behind all other tokens. -/
theorem eq_nil_of_end (h : s.Faces (bs ++ t :: ts)) (ht : t.kind = .endOfScript) : ts = [] := by
  obtain ⟨init, he, hinit⟩ := h.eq_concat
  rcases List.eq_nil_or_concat ts with rfl | ⟨ts, e, rfl⟩
  · rfl
  · rw [List.concat_eq_append, ← List.cons_append, ← List.append_assoc] at he
    obtain ⟨rfl, -⟩ := List.append_inj' he rfl
    exact absurd ht (hinit t (by simp)).1

theorem skips_of_skips_false {k : Kind} (h : skips false k = true) (b : Bool) :
    skips b k = true := by
  have hk : k = .blank := by simpa [skips] using h
  rw [hk]
  rfl

/-- A reader takes the first token that it does not pass over; the end stays. -/
theorem significant (h : s.Faces (bs ++ t :: ts)) (hbs : ∀ u ∈ bs, skips b u.kind = true)
    (ht : skips b t.kind = false) :
    (s.significant b).1 = t ∧
      (s.significant b).2.Faces (if t.kind = .endOfScript then [t] else ts) := by
  obtain ⟨ahead, finish⟩ := s
  induction ahead generalizing bs with
  | nil =>
    obtain ⟨rfl, he⟩ : bs = [] ∧ [⟨.endOfScript, "", finish⟩] = t :: ts := by
      cases bs with
      | nil => exact ⟨rfl, h.filtered⟩
      | cons u bs => simpa [TokenStream.filtered] using congrArg List.length h.filtered
    obtain ⟨rfl, -⟩ := List.cons.inj he
    exact ⟨rfl, h.inside, rfl⟩
  | cons u us ih =>
    have hinside : ∀ v ∈ us, v.kind ≠ .endOfScript :=
      fun v hv => h.inside v (List.mem_cons_of_mem u hv)
    cases hu : skips false u.kind with
    | true =>
      -- A blank is not among the tokens.
      have hfaces : Faces ⟨us, finish⟩ (bs ++ t :: ts) :=
        ⟨hinside, (filtered_of_skips hu us finish).symm.trans h.filtered⟩
      rw [significant_of_skips (skips_of_skips_false hu b)]
      exact ih hbs hfaces
    | false =>
      have hfiltered : u :: TokenStream.filtered ⟨us, finish⟩ false = bs ++ t :: ts :=
        (filtered_of_not_skips hu us finish).symm.trans h.filtered
      cases bs with
      | nil =>
        obtain ⟨rfl, hts⟩ := List.cons.inj hfiltered
        rw [significant_of_not_skips ht, if_neg (h.inside u List.mem_cons_self)]
        exact ⟨rfl, hinside, hts⟩
      | cons v bs =>
        obtain ⟨rfl, hts⟩ := List.cons.inj hfiltered
        rw [List.forall_mem_cons] at hbs
        rw [significant_of_skips hbs.1]
        exact ih hbs.2 ⟨hinside, hts⟩

theorem exists_significant (h : s.Faces ts) (b : Bool) :
    ∃ bs t rest, ts = bs ++ t :: rest ∧ (∀ u ∈ bs, skips b u.kind = true) ∧
      skips b t.kind = false := by
  obtain ⟨init, rfl, -⟩ := h.eq_concat
  have hend : skips b s.endToken.kind = false := by cases b <;> rfl
  cases hd : (init ++ [s.endToken]).dropWhile fun u => skips b u.kind with
  | nil => exact absurd (List.dropWhile_eq_nil_iff.1 hd s.endToken (by simp)) (by simp [hend])
  | cons t rest =>
    refine ⟨_, t, rest, by rw [← hd, List.takeWhile_append_dropWhile],
      fun u => List.mem_takeWhile_imp, ?_⟩
    have hhead := List.head?_dropWhile_not (fun u : Token => skips b u.kind) (init ++ [s.endToken])
    rw [hd] at hhead
    simpa using hhead

/-- Heeding line breaks, a reader takes the first token; the end stays. -/
theorem first (h : s.Faces (t :: ts)) :
    (s.significant false).1 = t ∧
      (s.significant false).2.Faces (if t.kind = .endOfScript then [t] else ts) := by
  have hblank : TokenStream.skips false t.kind = false := by
    obtain ⟨init, he, hinit⟩ := h.eq_concat
    cases init with
    | nil =>
      obtain ⟨rfl, -⟩ := List.cons.inj he
      rfl
    | cons u init =>
      obtain ⟨rfl, -⟩ := List.cons.inj he
      simpa [TokenStream.skips] using (hinit t List.mem_cons_self).2
  exact significant (show s.Faces ([] ++ t :: ts) from h) (List.forall_mem_nil _) hblank

/-- A reader takes the first token that is no line break. -/
theorem exists_first (hs : s.Faces ts) :
    ∃ bs t rest, ts = bs ++ t :: rest ∧ (s.significant true).1 = t ∧
      (s.significant true).2.Faces (if t.kind = .endOfScript then [t] else rest) := by
  obtain ⟨bs, t, rest, rfl, hbs, ht⟩ := hs.exists_significant true
  obtain ⟨hfirst, hrest⟩ := hs.significant hbs ht
  exact ⟨bs, t, rest, rfl, hfirst, hrest⟩

/-- A token that is put back stands first. -/
theorem putBack (h : s.Faces ts) (hblank : t.kind ≠ .blank) (hend : t.kind ≠ .endOfScript) :
    (s.putBack t).Faces (t :: ts) := by
  rw [TokenStream.putBack, if_neg hend]
  refine ⟨List.forall_mem_cons.2 ⟨hend, h.inside⟩, ?_⟩
  rw [filtered_of_not_skips (by simp [skips, hblank])]
  exact congrArg (t :: ·) h.filtered

end TokenStream.Faces

/-! ## Symbols that complete a script -/

/-- A symbol that a text has, whatever follows the text; it is neither layout nor the end. -/
structure Symbol.Spelled (x : Symbol) : Prop where
  not_skipped : skips true x.kind = false
  not_end : x.kind ≠ .endOfScript
  text : ∃ c w, isLayout c = false ∧ ∀ rest, scanned (c :: (w ++ ' ' :: rest)) = x :: scanned rest

/-- Symbols that a text has. -/
def Spelled (xs : List Symbol) : Prop := ∀ x ∈ xs, x.Spelled

theorem Symbol.Spelled.not_skips {x : Symbol} (h : x.Spelled) (b : Bool) :
    skips b x.kind = false := by
  cases b with
  | true => exact h.not_skipped
  | false =>
    have hx := h.not_skipped
    simp only [skips, Bool.or_eq_false_iff] at hx ⊢
    exact ⟨hx.1, rfl⟩

theorem Spelled.append {xs ys : List Symbol} (hxs : Spelled xs) (hys : Spelled ys) :
    Spelled (xs ++ ys) :=
  List.forall_mem_append.2 ⟨hxs, hys⟩

/-! ## Readers -/

/-- If an error is a fault, it is at this token. -/
def OnlyAt (t : Token) (e : ScriptError) : Prop := ∀ f u, e = .faultAt f u → u = t

/-- A reader of tokens. -/
abbrev Reader (α : Type) := TokenStream → Except ScriptError (α × TokenStream)

namespace Reader

variable {α β : Type}

/-- Gives a result without reading. -/
def give (a : α) : Reader α := fun s => .ok (a, s)

/-- Fails without reading. -/
def fail (e : ScriptError) : Reader α := fun _ => .error e

/-- Reads the next token, and goes on according to it. -/
def ask (skipLineBreaks : Bool) (k : Token → Reader α) : Reader α :=
  fun s => k (s.significant skipLineBreaks).1 (s.significant skipLineBreaks).2

/-- Reads one thing, and then another according to it. -/
def seq (r : Reader α) (k : α → Reader β) : Reader β := fun s => r s >>= fun p => k p.1 p.2

/-- Reads a token and judges it. -/
def judged (skipLineBreaks : Bool) (judge : Token → Except ScriptError α) : Reader α :=
  ask skipLineBreaks fun t =>
    match judge t with
    | .ok a => give a
    | .error e => fail e

theorem judged_eq (skip : Bool) (judge : Token → Except ScriptError α) (s : TokenStream) :
    judged skip judge s = (judge (s.significant skip).1).map (·, (s.significant skip).2) := by
  simp only [judged, ask]
  cases judge (s.significant skip).1 <;> rfl

theorem seq_judged (skip : Bool) (judge : Token → Except ScriptError α) (k : α → Reader β)
    (s : TokenStream) :
    seq (judged skip judge) k s = judge (s.significant skip).1 >>=
      (k · (s.significant skip).2) := by
  rw [seq, judged_eq]
  cases judge (s.significant skip).1 <;> rfl

end Reader

open Reader

variable {α β : Type} {stop stop' : Kind → Bool} {r : Reader α} {k : α → Reader β}
  {s : TokenStream} {ts us vs : List Token} {a : α} {b : β} {f : Fault} {t : Token}
  {xs ys : List Symbol}

/-- Every kind of token. -/
def anyKind : Kind → Bool := fun _ => true

/-- A reader may stop before these tokens. -/
def Stops (stop : Kind → Bool) (ts : List Token) : Prop := ∀ t ∈ ts.head?, stop t.kind

/-- The tokens are read, whatever follows them that the reader may stop before. -/
def Yields (stop : Kind → Bool) (r : Reader α) (us : List Token) (a : α) : Prop :=
  ∀ s ts, s.Faces (us ++ ts) → Stops stop ts → ∃ s', r s = .ok (a, s') ∧ s'.Faces ts

/-- There is a fault at a token behind others, whatever follows it. -/
def FailsAt (r : Reader α) (us : List Token) (f : Fault) (t : Token) : Prop :=
  ∀ s ts, s.Faces (us ++ t :: ts) → r s = .error (.faultAt f t)

/-- Symbols that complete tokens to something that is read. -/
def CompletedBy (stop : Kind → Bool) (r : Reader α) (us : List Token) (xs : List Symbol) : Prop :=
  ∀ vs, vs.map Token.symbol = xs → ∃ a, Yields stop r (us ++ vs) a

/-- What a reader finds at a stream depends on the tokens that it takes; a fault is at the first
token with which nothing can be read. -/
structure Prompt (stop : Kind → Bool) (r : Reader α) (s : TokenStream) (ts : List Token) :
    Prop where
  yields : ∀ {a s'}, r s = .ok (a, s') →
    ∃ us rest, ts = us ++ rest ∧ Stops stop rest ∧ Yields stop r us a
  fails : ∀ {f t}, r s = .error (.faultAt f t) →
    ∃ us rest xs, ts = us ++ t :: rest ∧ FailsAt r us f t ∧ Spelled xs ∧ CompletedBy stop r us xs

/-- A reader is prompt at streams with at most `n` tokens ahead, and reads the symbols `xs`. -/
structure Reads (n : ℕ) (stop : Kind → Bool) (r : Reader α) (xs : List Symbol) : Prop where
  prompt : ∀ {s ts}, s.Faces ts → ts.length ≤ n → Prompt stop r s ts
  spelled : Spelled xs
  completed : CompletedBy stop r [] xs

/-! ### What is left -/

/-- A prompt reader leaves the tokens that it does not take. -/
theorem Prompt.yields_faces (h : Prompt stop r s ts) (hs : s.Faces ts) {s' : TokenStream}
    (hr : r s = .ok (a, s')) :
    ∃ us rest, ts = us ++ rest ∧ Stops stop rest ∧ Yields stop r us a ∧ s'.Faces rest := by
  obtain ⟨us, rest, rfl, hstops, hyields⟩ := h.yields hr
  obtain ⟨s'', hr', hrest⟩ := hyields s rest hs hstops
  obtain ⟨-, rfl⟩ := Prod.mk.inj (Except.ok.inj (hr.symm.trans hr'))
  exact ⟨us, rest, rfl, hstops, hyields, hrest⟩

/-- No more tokens are left than were there. -/
theorem Reads.faces (h : Reads ts.length stop r xs) (hs : s.Faces ts) {s' : TokenStream}
    (hr : r s = .ok (a, s')) : ∃ ts', s'.Faces ts' ∧ ts'.length ≤ ts.length := by
  obtain ⟨us, rest, rfl, -, -, hs'⟩ := (h.prompt hs (Nat.le_refl _)).yields_faces hs hr
  exact ⟨rest, hs', by simp⟩

theorem Reads.congr {n : ℕ} {r' : Reader α} (heq : ∀ {s ts}, s.Faces ts → r s = r' s)
    (h : Reads n stop r' xs) : Reads n stop r xs := by
  have hyields : ∀ {us a}, Yields stop r' us a → Yields stop r us a := by
    intro us a hy s ts hs hstops
    rw [heq hs]
    exact hy s ts hs hstops
  have hcompleted : ∀ {us ys}, CompletedBy stop r' us ys → CompletedBy stop r us ys := by
    intro us ys hc vs hvs
    obtain ⟨a, ha⟩ := hc vs hvs
    exact ⟨a, hyields ha⟩
  refine ⟨fun hs hn => ⟨fun hr => ?_, fun hr => ?_⟩, h.spelled, hcompleted h.completed⟩
  · obtain ⟨us, rest, hts, hstops, hy⟩ := (h.prompt hs hn).yields (heq hs ▸ hr)
    exact ⟨us, rest, hts, hstops, hyields hy⟩
  · obtain ⟨us, rest, zs, hts, hfails, hzs, hc⟩ := (h.prompt hs hn).fails (heq hs ▸ hr)
    refine ⟨us, rest, zs, hts, fun s ts hs => ?_, hzs, hcompleted hc⟩
    rw [heq hs]
    exact hfails s ts hs

/-! ### One token -/

section Ask

variable {n : ℕ} {skip : Bool} {next : Token → Reader α} {y : Symbol} {bs : List Token}

theorem ask_eq (next : Token → Reader α) (hs : s.Faces (bs ++ t :: ts))
    (hbs : ∀ u ∈ bs, skips skip u.kind = true)
    (ht : skips skip t.kind = false) :
    ∃ s', ask skip next s = next t s' ∧
      s'.Faces (if t.kind = .endOfScript then [t] else ts) := by
  obtain ⟨hfirst, hrest⟩ := hs.significant hbs ht
  exact ⟨_, by rw [ask, hfirst], hrest⟩

theorem Yields.ask (h : Yields stop (next t) us a) (hbs : ∀ u ∈ bs, skips skip u.kind = true)
    (ht : skips skip t.kind = false) (hend : t.kind ≠ .endOfScript) :
    Yields stop (ask skip next) (bs ++ t :: us) a := by
  intro s ts hs hstops
  rw [List.append_assoc, List.cons_append] at hs
  obtain ⟨s', hask, hs'⟩ := ask_eq next hs hbs ht
  rw [if_neg hend] at hs'
  rw [hask]
  exact h s' ts hs' hstops

theorem FailsAt.ask {u : Token} (h : FailsAt (next t) us f u)
    (hbs : ∀ u ∈ bs, skips skip u.kind = true) (ht : skips skip t.kind = false)
    (hend : t.kind ≠ .endOfScript) : FailsAt (ask skip next) (bs ++ t :: us) f u := by
  intro s ts hs
  rw [List.append_assoc, List.cons_append] at hs
  obtain ⟨s', hask, hs'⟩ := ask_eq next hs hbs ht
  rw [if_neg hend] at hs'
  rw [hask]
  exact h s' ts hs'

theorem CompletedBy.ask (hbs : ∀ u ∈ bs, skips skip u.kind = true) (hy : y.Spelled)
    (h : ∀ t, t.symbol = y → CompletedBy stop (next t) [] xs) :
    CompletedBy stop (ask skip next) bs (y :: xs) := by
  intro vs hvs
  obtain ⟨v, vs, rfl, hv, hvs⟩ := List.map_eq_cons_iff.1 hvs
  obtain ⟨a, ha⟩ := h v hv vs hvs
  subst hv
  exact ⟨a, ha.ask hbs (hy.not_skips skip) hy.not_end⟩

/-- A reader is prompt that reads a token and then either fails at it or goes on promptly, unless
it is the end. -/
theorem Reads.ask
    (hnext : ∀ m < n, ∀ t, (∃ e, next t = fail e ∧ OnlyAt t e) ∨
      t.kind ≠ .endOfScript ∧ ∃ ys, Reads m stop (next t) ys)
    (hy : y.Spelled) (hxs : Spelled xs)
    (hcompleted : ∀ t, t.symbol = y → CompletedBy stop (next t) [] xs) :
    Reads n stop (ask skip next) (y :: xs) := by
  refine ⟨fun {s ts} hs hn => ?_, List.forall_mem_cons.2 ⟨hy, hxs⟩,
    .ask (List.forall_mem_nil _) hy hcompleted⟩
  obtain ⟨bs, t, rest, rfl, hbs, ht⟩ := hs.exists_significant skip
  obtain ⟨s', hask, hs'⟩ := ask_eq next hs hbs ht
  have hlt : rest.length < n := by
    rw [List.length_append, List.length_cons] at hn
    omega
  rcases hnext _ hlt t with ⟨e, hfail, hat⟩ | ⟨hend, ys, hreads⟩
  · -- The token is the fault. It is the fault in front of whatever else follows.
    rw [hfail] at hask
    refine ⟨fun hr => ?_, fun {f u} hr => ?_⟩
    · cases hask.symm.trans hr
    · obtain rfl := Except.error.inj (hask.symm.trans hr)
      obtain rfl := hat f u rfl
      refine ⟨bs, rest, y :: xs, rfl, fun s₁ ts₁ hs₁ => ?_, List.forall_mem_cons.2 ⟨hy, hxs⟩,
        .ask hbs hy hcompleted⟩
      obtain ⟨s₂, hask₂, -⟩ := ask_eq next hs₁ hbs ht
      rw [hask₂, hfail]
      rfl
  · rw [if_neg hend] at hs'
    have hprompt := hreads.prompt hs' (Nat.le_refl _)
    refine ⟨fun hr => ?_, fun hr => ?_⟩
    · obtain ⟨us, rest', rfl, hstops, hyields⟩ := hprompt.yields (hask.symm.trans hr)
      exact ⟨bs ++ t :: us, rest', by simp, hstops, hyields.ask hbs ht hend⟩
    · obtain ⟨us, rest', zs, rfl, hfails, hzs, hc⟩ := hprompt.fails (hask.symm.trans hr)
      refine ⟨bs ++ t :: us, rest', zs, by simp, hfails.ask hbs ht hend, hzs, fun vs hvs => ?_⟩
      obtain ⟨a, ha⟩ := hc vs hvs
      refine ⟨a, ?_⟩
      rw [List.append_assoc, List.cons_append]
      exact ha.ask hbs ht hend

/-- Nothing is read to give a result. -/
theorem Reads.give (n : ℕ) (a : α) : Reads n anyKind (give a) [] where
  prompt hs hn := by
    refine ⟨fun hr => ?_, fun hr => ?_⟩
    · cases hr
      exact ⟨[], _, rfl, fun _ _ => rfl, fun s ts hs _ => ⟨s, rfl, hs⟩⟩
    · cases hr
  spelled := List.forall_mem_nil _
  completed := by
    intro vs hvs
    obtain rfl := List.map_eq_nil_iff.1 hvs
    exact ⟨a, fun s ts hs _ => ⟨s, rfl, hs⟩⟩

/-- Judging one token is prompt. -/
theorem Reads.judged {judge : Token → Except ScriptError α}
    (hat : ∀ t e, judge t = .error e → OnlyAt t e)
    (hend : ∀ t, t.kind = .endOfScript → ∃ e, judge t = .error e) (hy : y.Spelled)
    (hgood : ∀ t, t.symbol = y → ∃ a, judge t = .ok a) :
    Reads n anyKind (judged skip judge) [y] := by
  refine .ask (fun m hm t => ?_) hy (List.forall_mem_nil _) fun t ht => ?_
  · cases hj : judge t with
    | error e => exact .inl ⟨e, rfl, hat t e hj⟩
    | ok a =>
      refine .inr ⟨fun hk => ?_, [], .give m a⟩
      obtain ⟨e, he⟩ := hend t hk
      cases hj.symm.trans he
  · obtain ⟨a, ha⟩ := hgood t ht
    simp only [ha]
    exact (Reads.give 0 a).completed

end Ask

/-! ### One thing after another -/

section Seq

variable {n : ℕ}

theorem Yields.seq (hr : Yields stop r us a) (hk : Yields stop' (k a) vs b)
    (hstop : ∀ ts, Stops stop' ts → Stops stop (vs ++ ts)) :
    Yields stop' (Reader.seq r k) (us ++ vs) b := by
  intro s ts hs hstops
  rw [List.append_assoc] at hs
  obtain ⟨s₁, hr₁, hs₁⟩ := hr s (vs ++ ts) hs (hstop ts hstops)
  obtain ⟨s₂, hk₂, hs₂⟩ := hk s₁ ts hs₁ hstops
  exact ⟨s₂, by rw [Reader.seq, hr₁, ok_bind]; exact hk₂, hs₂⟩

theorem FailsAt.seq (hr : Yields stop r us a) (hk : FailsAt (k a) vs f t)
    (hstop : ∀ ts, Stops stop (vs ++ t :: ts)) : FailsAt (Reader.seq r k) (us ++ vs) f t := by
  intro s ts hs
  rw [List.append_assoc] at hs
  obtain ⟨s₁, hr₁, hs₁⟩ := hr s _ hs (hstop ts)
  rw [Reader.seq, hr₁, ok_bind]
  exact hk s₁ ts hs₁

theorem FailsAt.seq_left (h : FailsAt r us f t) (k : α → Reader β) :
    FailsAt (Reader.seq r k) us f t := by
  intro s ts hs
  rw [Reader.seq, h s ts hs]
  rfl

theorem CompletedBy.seq (hr : Yields stop r us a) (hk : CompletedBy stop' (k a) vs ys)
    (hstop : ∀ ws ts, ws.map Token.symbol = ys → Stops stop' ts → Stops stop (vs ++ ws ++ ts)) :
    CompletedBy stop' (Reader.seq r k) (us ++ vs) ys := by
  intro ws hws
  obtain ⟨b, hb⟩ := hk ws hws
  refine ⟨b, ?_⟩
  rw [List.append_assoc]
  exact hr.seq hb fun ts => hstop ws ts hws

theorem CompletedBy.seq_left (hr : CompletedBy stop r us xs)
    (hk : ∀ a, CompletedBy stop' (k a) [] ys)
    (hstop : ∀ ws ts, ws.map Token.symbol = ys → Stops stop' ts → Stops stop (ws ++ ts)) :
    CompletedBy stop' (Reader.seq r k) us (xs ++ ys) := by
  intro ws hws
  obtain ⟨vs, ws, rfl, hvs, hws⟩ := List.map_eq_append_iff.1 hws
  obtain ⟨a, ha⟩ := hr vs hvs
  obtain ⟨b, hb⟩ := hk a ws hws
  refine ⟨b, ?_⟩
  rw [← List.append_assoc]
  exact ha.seq hb fun ts => hstop ws ts hws

/-- A reader that may stop anywhere, and then another. -/
theorem Reads.seq (hr : Reads n anyKind r xs) (hys : Spelled ys)
    (hk : ∀ a, Reads n stop (k a) ys) : Reads n stop (Reader.seq r k) (xs ++ ys) := by
  have hany : ∀ ts, Stops anyKind ts := fun _ _ _ => rfl
  have hleft : ∀ {us zs}, CompletedBy anyKind r us zs →
      CompletedBy stop (Reader.seq r k) us (zs ++ ys) :=
    fun h => h.seq_left (fun a => (hk a).completed) fun _ _ _ _ => hany _
  refine ⟨fun {s ts} hs hn => ⟨fun hok => ?_, fun hfault => ?_⟩,
    hr.spelled.append hys, hleft hr.completed⟩
  · obtain ⟨⟨a, s₁⟩, hr₁, hk₁⟩ := bind_eq_ok.1 hok
    obtain ⟨us, rest, rfl, -, hyields, hs₁⟩ := (hr.prompt hs hn).yields_faces hs hr₁
    rw [List.length_append] at hn
    obtain ⟨vs, rest', rfl, hstops, hyields'⟩ := ((hk a).prompt hs₁ (by omega)).yields hk₁
    exact ⟨us ++ vs, rest', by simp, hstops, hyields.seq hyields' fun _ _ => hany _⟩
  · -- The fault is one of the first reader, or of the second where the first has stopped.
    rw [Reader.seq] at hfault
    cases hr₁ : r s with
    | error e =>
      rw [hr₁] at hfault
      obtain rfl := Except.error.inj hfault
      obtain ⟨us, rest, zs, rfl, hfails, hzs, hc⟩ := (hr.prompt hs hn).fails hr₁
      exact ⟨us, rest, zs ++ ys, rfl, FailsAt.seq_left hfails k, hzs.append hys, hleft hc⟩
    | ok p =>
      obtain ⟨a, s₁⟩ := p
      rw [hr₁, ok_bind] at hfault
      obtain ⟨us, rest, rfl, -, hyields, hs₁⟩ := (hr.prompt hs hn).yields_faces hs hr₁
      rw [List.length_append] at hn
      obtain ⟨vs, rest', zs, rfl, hfails, hzs, hc⟩ :=
        ((hk a).prompt hs₁ (by omega)).fails hfault
      exact ⟨us ++ vs, rest', zs, by simp, .seq hyields hfails fun _ => hany _, hzs,
        .seq hyields hc fun _ _ _ _ => hany _⟩

/-- One symbol, and then others. -/
theorem Reads.seq_one {y : Symbol} (hr : Reads n anyKind r [y]) (hys : Spelled ys)
    (hk : ∀ a, Reads n stop (k a) ys) : Reads n stop (Reader.seq r k) (y :: ys) :=
  hr.seq hys hk

/-- A reader whose result is put to use. -/
theorem Reads.map (hr : Reads n anyKind r xs) (g : α → β) :
    Reads n anyKind (Reader.seq r fun a => Reader.give (g a)) xs := by
  have hseq := hr.seq (List.forall_mem_nil _) fun a => Reads.give n (g a)
  rwa [List.append_nil] at hseq

/-- A reader that may stop before some kinds of tokens only, and then another. The other one has to
take a token, and what it reads has to begin with such a kind. -/
theorem Reads.seq_stop {y : Symbol} (hr : Reads n stop r xs) (hys : Spelled (y :: ys))
    (hk : ∀ a, Reads n anyKind (k a) (y :: ys)) (hy : stop y.kind)
    (hend : ∀ a p, k a ⟨[], Place.start⟩ ≠ .ok p) :
    Reads n anyKind (Reader.seq r k) (xs ++ y :: ys) := by
  have hhead : ∀ ws ts, ws.map Token.symbol = y :: ys → Stops stop (ws ++ ts) := by
    intro ws ts hws t ht
    obtain ⟨w, ws, rfl, rfl, -⟩ := List.map_eq_cons_iff.1 hws
    obtain rfl := Option.some.inj ht
    exact hy
  have hsame : ∀ {v : Token} {vs rest : List Token}, Stops stop (v :: vs ++ rest) →
      ∀ ts, Stops stop (v :: vs ++ ts) := fun h _ => h
  have hleft : ∀ {us zs}, CompletedBy stop r us zs →
      CompletedBy anyKind (Reader.seq r k) us (zs ++ y :: ys) :=
    fun h => h.seq_left (fun a => (hk a).completed) fun ws ts hws _ => hhead ws ts hws
  refine ⟨fun {s ts} hs hn => ⟨fun hok => ?_, fun {f t} hfault => ?_⟩,
    hr.spelled.append hys, hleft hr.completed⟩
  · obtain ⟨⟨a, s₁⟩, hr₁, hk₁⟩ := bind_eq_ok.1 hok
    obtain ⟨us, rest, rfl, hstops, hyields, hs₁⟩ := (hr.prompt hs hn).yields_faces hs hr₁
    rw [List.length_append] at hn
    obtain ⟨vs, rest', rfl, hstops', hyields'⟩ := ((hk a).prompt hs₁ (by omega)).yields hk₁
    refine ⟨us ++ vs, rest', by simp, hstops', ?_⟩
    cases vs with
    | nil =>
      -- Nothing can be read at the end, so that a token has been taken.
      obtain ⟨s', hs', -⟩ := hyields' ⟨[], Place.start⟩ [⟨.endOfScript, "", Place.start⟩]
        ⟨List.forall_mem_nil _, rfl⟩ fun _ _ => rfl
      exact absurd hs' (hend a _)
    | cons v vs => exact hyields.seq hyields' fun ts _ => hsame hstops ts
  · rw [Reader.seq] at hfault
    cases hr₁ : r s with
    | error e =>
      rw [hr₁] at hfault
      obtain rfl := Except.error.inj hfault
      obtain ⟨us, rest, zs, rfl, hfails, hzs, hc⟩ := (hr.prompt hs hn).fails hr₁
      exact ⟨us, rest, zs ++ y :: ys, rfl, FailsAt.seq_left hfails k, hzs.append hys, hleft hc⟩
    | ok p =>
      obtain ⟨a, s₁⟩ := p
      rw [hr₁, ok_bind] at hfault
      obtain ⟨us, rest, rfl, hstops, hyields, hs₁⟩ := (hr.prompt hs hn).yields_faces hs hr₁
      rw [List.length_append] at hn
      obtain ⟨vs, rest', zs, rfl, hfails, hzs, hc⟩ :=
        ((hk a).prompt hs₁ (by omega)).fails hfault
      cases vs with
      | nil =>
        -- The token of the fault is the one that the first reader has stopped before.
        have hfails' : FailsAt (Reader.seq r k) (us ++ []) f t :=
          .seq hyields hfails fun ts => hstops
        rw [List.append_nil] at hfails'
        refine ⟨us, rest', y :: ys, rfl, hfails', hys, ?_⟩
        have hc' := CompletedBy.seq hyields (hk a).completed fun ws ts hws _ => hhead ws ts hws
        rwa [List.append_nil] at hc'
      | cons v vs =>
        exact ⟨us ++ v :: vs, rest', zs, by simp, .seq hyields hfails fun ts => hsame hstops _, hzs,
          .seq hyields hc fun ws ts _ _ => hsame hstops (ws ++ ts)⟩

end Seq

end ProxyTrial.Script
