import ProxyTrial.Proofs.Schema.Data
import ProxyTrial.Proofs.Script.FirstFault
import ProxyTrial.Proofs.Script.RoundTrip
import ProxyTrial.Proofs.Script.Tiling
/-!
# What reading a script can come to

A text holds a script, or it has a fault at one of its tokens. There is a third outcome: an integer
may have more digits than are read, and a pattern may be beyond what patterns can be. Such an error
has no place, although it is due to a token as well.

## Main definitions

* `PatternError.IsFault`: a fault in the syntax of a pattern, or of the pattern as a whole
* `Excess ts e`: one of the tokens exceeds a limit, and the error says so
* `Bounded n front r`: the errors of a reader are faults, or one of the tokens exceeds a limit

## Main results

* `bounded_readExpect`, `bounded_flags`, `bounded_readHandler`, `bounded_readClient`: the errors of
  readers
* `stanzas_explained`: the errors of stanzas
* `parse_outcome`: what a text comes to
-/

namespace ProxyTrial

/-- A fault of a pattern: in its syntax, or of the whole. -/
def PatternError.IsFault : PatternError → Prop
  | .faultAt .. | .faultOverall _ => True
  | .largeRepeat | .longNumber _ | .asciiAndUnicode => False

namespace Script

open Reader TokenStream

/-! ## Tokens in excess -/

/-- The number of digits of an integer. -/
def digitCount (w : String) : ℕ := (Text.splitSign w.toList).2.length

/-- One of the tokens exceeds a limit, and this is what the error says: a status with too many
digits, or a value to search for that is a pattern beyond what patterns can be. -/
inductive Excess (ts : List Token) : ScriptError → Prop
  | digits {flag t : Token} : [flag, t] <:+: ts → flag.kind = .statusFlag → t.kind = .integer →
      Text.digitLimit < digitCount t.text → Excess ts (.longInteger (digitCount t.text))
  | pattern {operator t : Token} {bs : List Token} {e : PatternError} :
      operator :: bs ++ [t] <:+: ts → (∀ u ∈ bs, skips true u.kind) → operator.kind = .tilde →
      t.kind = .string ∨ t.kind = .integer → Pattern.ofText t.text = .error e → ¬ e.IsFault →
      Excess ts (.pattern e)

variable {α β : Type} {n : ℕ} {stop : Kind → Bool} {r : Reader α} {k : α → Reader β}
  {s : TokenStream} {front ts us : List Token} {t : Token} {e : ScriptError} {xs : List Symbol}

theorem Excess.mono (h : Excess ts e) (hts : ts <:+: us) : Excess us e := by
  cases h with
  | digits hmem hflag ht hlong => exact .digits (hmem.trans hts) hflag ht hlong
  | pattern hmem hbs ho ht hp he => exact .pattern (hmem.trans hts) hbs ho ht hp he

/-- A fault, or a limit that one of the tokens exceeds. -/
def Explained (ts : List Token) (e : ScriptError) : Prop :=
  (∃ f t, e = .faultAt f t) ∨ Excess ts e

theorem Explained.mono (h : Explained ts e) (hts : ts <:+: us) : Explained us e :=
  h.imp_right fun hexcess => hexcess.mono hts

/-! ## Readers -/

/-- The errors of a reader behind some tokens are explained by those and the ones ahead, of which
there are at most `n`. -/
structure Bounded (n : ℕ) (front : List Token) (r : Reader α) : Prop where
  explained : ∀ {s ts e}, s.Faces ts → ts.length ≤ n → r s = .error e → Explained (front ++ ts) e

theorem Bounded.congr {r' : Reader α} (heq : ∀ {s ts}, s.Faces ts → r s = r' s)
    (h : Bounded n front r') : Bounded n front r where
  explained hs hn he := h.explained hs hn (heq hs ▸ he)

theorem bounded_give (n : ℕ) (front : List Token) (a : α) : Bounded n front (give a) where
  explained _ _ he := nomatch he

theorem bounded_fail (n : ℕ) (front : List Token) (f : Fault) (t : Token) :
    Bounded n front (fail (.faultAt f t) : Reader α) where
  explained _ _ he := by
    cases he
    exact .inl ⟨f, t, rfl⟩

/-- A token is read, which either is a fault or stands in front of what is read then. -/
theorem Bounded.ask {skip : Bool} {next : Token → Reader α}
    (hnext : ∀ m < n, ∀ t, (∃ f u, next t = fail (.faultAt f u)) ∨
      t.kind ≠ .endOfScript ∧ Bounded m [t] (next t)) : Bounded n front (ask skip next) := by
  refine ⟨fun {s ts e} hs hn he => ?_⟩
  obtain ⟨bs, t, rest, rfl, hbs, ht⟩ := hs.exists_significant skip
  obtain ⟨s', hask, hs'⟩ := ask_eq next hs hbs ht
  rw [List.length_append, List.length_cons] at hn
  rw [hask] at he
  rcases hnext rest.length (by omega) t with ⟨f, u, hfail⟩ | ⟨hend, hbounded⟩
  · rw [hfail] at he
    cases he
    exact .inl ⟨f, u, rfl⟩
  · rw [if_neg hend] at hs'
    refine (hbounded.explained hs' (Nat.le_refl _) he).mono ?_
    exact ((List.suffix_append bs _).trans (List.suffix_append front _)).isInfix

/-- One thing after another. -/
theorem Bounded.seq (hr : Bounded n front r) (hreads : Reads n stop r xs)
    (hk : ∀ a, Bounded n [] (k a)) : Bounded n front (seq r k) := by
  refine ⟨fun {s ts e} hs hn he => ?_⟩
  rcases bind_eq_error.1 he with hrs | ⟨p, hrs, he⟩
  · exact hr.explained hs hn hrs
  · obtain ⟨us, rest, rfl, -, -, hs'⟩ := (hreads.prompt hs hn).yields_faces hs hrs
    rw [List.length_append] at hn
    refine ((hk p.1).explained hs' (by omega) he).mono ?_
    exact ((List.suffix_append us rest).trans (List.suffix_append front _)).isInfix

theorem Bounded.map (hr : Bounded n front r) (g : α → β) :
    Bounded n front (Reader.seq r fun a => give (g a)) := by
  refine ⟨fun {s ts e} hs hn he => ?_⟩
  rw [Reader.seq] at he
  cases hrs : r s with
  | error e' =>
    rw [hrs] at he
    cases he
    exact hr.explained hs hn hrs
  | ok p =>
    rw [hrs] at he
    cases he

/-- A token is judged, and whatever is wrong with it is a fault. -/
theorem bounded_judged {skip : Bool} {judge : Token → Except ScriptError α}
    (hfault : ∀ t e, judge t = .error e → ∃ f u, e = .faultAt f u) :
    Bounded n front (judged skip judge) := by
  refine ⟨fun _ _ he => ?_⟩
  rw [judged_eq, map_eq_error] at he
  exact .inl (hfault _ _ he)

theorem wantKind_fault {kind : Kind} {wanted : Wanted} {construct : Construct}
    (h : wantKind kind wanted construct t = .error e) : ∃ f u, e = .faultAt f u := by
  rw [wantKind] at h
  split at h <;> cases h
  exact ⟨_, _, rfl⟩

theorem bounded_readKind (kind : Kind) (wanted : Wanted) (construct : Construct) :
    Bounded n front (readKind kind wanted construct) := by
  rw [readKind_eq]
  exact bounded_judged fun _ _ => wantKind_fault

theorem bounded_readValue (kind : Kind) (wanted : Wanted) :
    Bounded n front (readValue kind wanted) := by
  rw [readValue_eq]
  exact bounded_judged fun _ _ => wantKind_fault

/-! ## Expectations -/

theorem bounded_readSelector (side : String) : Bounded n front (readSelector side) := by
  have hopen : Symbol.Spelled ⟨.openBracket, "["⟩ := spelled_mark (c := '[') (by decide) rfl rfl
  rw [readSelector_eq]
  refine (bounded_readKind _ _ _).seq (reads_readKind hopen _ _) fun _ => ?_
  refine (bounded_readKind _ _ _).seq (reads_readKind spelled_emptyString _ _) fun name => ?_
  exact (bounded_readKind _ _ _).map _

theorem bounded_readSubject (side : String) : Bounded n front (readSubject side) := by
  rw [readSubject_eq]
  refine .ask fun m _ t => ?_
  unfold subjectAfter
  split
  · next hk => exact .inr ⟨by simp [hk], bounded_give _ _ _⟩
  · next hk => exact .inr ⟨by simp [hk], bounded_give _ _ _⟩
  · next hk => exact .inr ⟨by simp [hk], bounded_give _ _ _⟩
  · next hk => exact .inr ⟨by simp [hk], (bounded_readSelector side).map _⟩
  · exact .inl ⟨_, _, rfl⟩

/-- A comparison fails for the pattern, which has a fault or is beyond a limit. -/
theorem comparisonOf_eq_error {operator : Token} (ho : isOperator operator.kind)
    (h : comparisonOf operator t = .error e) :
    (∃ f u, e = .faultAt f u) ∨ operator.kind = .tilde ∧
      ∃ e', e = .pattern e' ∧ Pattern.ofText t.text = .error e' ∧ ¬ e'.IsFault := by
  unfold comparisonOf at h
  split at h
  · cases h
  · cases h
  · next heq hne =>
    -- Only a tilde has a pattern that could fail.
    have htilde : operator.kind = .tilde := by
      simpa [isOperator, show operator.kind ≠ .eq from heq, show operator.kind ≠ .ne from hne]
        using ho
    split at h
    · cases h
    · next e' hp =>
      split at h
      · cases h
        exact .inl ⟨_, _, rfl⟩
      · cases h
        exact .inl ⟨_, _, rfl⟩
      · next hat hoverall =>
        cases h
        refine .inr ⟨htilde, e', rfl, hp, ?_⟩
        cases e' <;> simp_all [PatternError.IsFault]

theorem wantSide_fault {t : Token} (h : wantSide t = .error e) : ∃ f u, e = .faultAt f u := by
  unfold wantSide at h
  split at h <;> cases h
  exact ⟨_, _, rfl⟩

/-- What is wrong with a value is due to it and to the operator before it. -/
theorem bounded_wantExpected {operator : Token} (ho : isOperator operator.kind) (side : Side)
    (subject : Subject) :
    Bounded n [operator] (judged true (wantExpected side subject operator)) := by
  -- `bounded_judged` does not apply, since a value in excess is no fault.
  refine ⟨fun {s ts e} hs _ he => ?_⟩
  obtain ⟨bs, t, rest, rfl, hbs, ht⟩ := hs.exists_significant true
  obtain ⟨hfirst, -⟩ := hs.significant hbs ht
  rw [judged_eq, map_eq_error, hfirst, wantExpected] at he
  split at he
  · cases he
    exact .inl ⟨_, _, rfl⟩
  · next written hwritten =>
    have hkind : t.kind = .string ∨ t.kind = .integer := by
      unfold writtenValue at hwritten
      split at hwritten
      · next hk => exact .inl hk
      · next hk => exact .inr hk
      · cases hwritten
    rcases bind_eq_error.1 he with hc | ⟨c, -, he⟩
    · rcases comparisonOf_eq_error ho hc with hfault | ⟨htilde, e', rfl, hp, hlimit⟩
      · exact .inl hfault
      · refine .inr (.pattern ?_ hbs htilde hkind hp hlimit)
        exact ⟨[], rest, by simp⟩
    · cases he

theorem bounded_readExpect : Bounded n front readExpect := by
  have hall := spelled_expectationSymbols
  simp only [Spelled, expectationSymbols, List.forall_mem_cons] at hall
  obtain ⟨-, hdot, -⟩ := hall
  rw [readExpect_eq]
  refine (bounded_judged fun _ _ => wantSide_fault).seq reads_wantSide fun side => ?_
  refine (bounded_readKind _ _ _).seq (reads_readKind hdot _ _) fun _ => ?_
  refine (bounded_readSubject _).seq (reads_readSubject _) fun subject => ?_
  -- The operator stands in front of the value.
  have hask : (seq (judged true wantOperator) fun operator =>
      judged true (wantExpected side.2 subject operator)) = ask true fun t =>
        if isOperator t.kind then judged true (wantExpected side.2 subject t)
        else fail (unexpected .comparison .expectCommand t) := by
    funext s
    rw [seq_judged, wantOperator, Reader.ask]
    split <;> rfl
  rw [hask]
  refine .ask fun m _ t => ?_
  split
  · next ho =>
    refine .inr ⟨fun hend => ?_, bounded_wantExpected ho _ _⟩
    rw [hend] at ho
    cases ho
  · exact .inl ⟨_, _, rfl⟩

/-! ## Flags -/

theorem wantHeader_fault {hs : Headers} (h : wantHeader hs t = .error e) :
    ∃ f u, e = .faultAt f u := by
  rw [wantHeader] at h
  rcases bind_eq_error.1 h with hk | ⟨u, -, h⟩
  · exact wantKind_fault hk
  · split at h <;> cases h
    exact ⟨_, _, rfl⟩

theorem bounded_readHeader (hs : Headers) : Bounded n front (readHeader hs) := by
  rw [readHeader_eq]
  exact bounded_judged fun _ _ => wantHeader_fault

/-- An integer is not read for its digits. -/
theorem integerValue_eq_error {w : String} (h : integerValue w = .error e) :
    Text.digitLimit < digitCount w ∧ e = .longInteger (digitCount w) := by
  rw [integerValue] at h
  simp only at h
  split at h
  · next hlong =>
    cases h
    exact ⟨hlong, rfl⟩
  · cases h

/-- What is wrong with a status is due to it and to the flag before it. -/
theorem bounded_readStatus {flag : Token} (hflag : flag.kind = .statusFlag) :
    Bounded n [flag] readStatus := by
  rw [readStatus_eq]
  refine ⟨fun {s ts e} hs _ he => ?_⟩
  obtain ⟨t, ts, rfl⟩ := List.exists_cons_of_ne_nil hs.ne_nil
  rw [judged_eq, map_eq_error, hs.first.1, wantStatus] at he
  rcases bind_eq_error.1 he with hk | ⟨u, hk, hcode⟩
  · exact .inl (wantKind_fault hk)
  · have hint : t.kind = .integer := by
      rw [wantKind] at hk
      split at hk
      · assumption
      · cases hk
    obtain rfl := wantKind_eq_ok hk
    rcases bind_eq_error.1 hcode with hi | ⟨code, -, hrange⟩
    · obtain ⟨hlong, rfl⟩ := integerValue_eq_error hi
      exact .inr (.digits ⟨[], ts, rfl⟩ hflag hint hlong)
    · split at hrange <;> cases hrange
      exact .inl ⟨_, _, rfl⟩

theorem bounded_readReplyFlag (t : Token) (reply : Reply) :
    Bounded n [t] (readReplyFlag t reply) := by
  rw [readReplyFlag_eq]
  unfold replyFlag
  split
  · exact (bounded_readValue _ _).map _
  · exact (bounded_readHeader _).map _
  · next hk => exact (bounded_readStatus hk).map _
  · exact bounded_fail _ _ _ _

theorem bounded_readCallFlag (t : Token) (call : Call) : Bounded n [t] (readCallFlag t call) := by
  rw [readCallFlag_eq]
  unfold callFlag
  split
  · exact (bounded_readValue _ _).map _
  · exact (bounded_readHeader _).map _
  · exact (bounded_readValue _ _).map _
  · exact (bounded_readValue _ _).map _
  · exact bounded_fail _ _ _ _

theorem bounded_flags {flag : Token → α → Reader α} (hprompt : PromptFlag flag)
    (hbounded : ∀ n t a, Bounded n [t] (flag t a)) (a : α) : Bounded n front (flags flag a) := by
  -- The induction is on the tokens ahead, of which every flag takes one.
  induction n using Nat.strongRecOn generalizing front a with
  | ind n ih =>
  refine ⟨fun {s ts e} hs hn he => ?_⟩
  obtain ⟨t, ts, rfl⟩ := List.exists_cons_of_ne_nil hs.ne_nil
  cases hends : endsTx t.kind with
  | true =>
    obtain ⟨s', heq, -⟩ := (flags_eq hprompt a hs).1 hends
    cases heq.symm.trans he
  | false =>
    obtain ⟨s', heq, hs'⟩ := (flags_eq hprompt a hs).2 hends
    rw [heq] at he
    have hinfix : t :: ts <:+: front ++ t :: ts := (List.suffix_append front _).isInfix
    rcases hprompt ts.length t a with ⟨e', hfail, -⟩ | ⟨xs, hreads⟩
    -- A token that is no flag fails at once, and nothing is read after it.
    · refine ((hbounded ts.length t a).explained hs' (Nat.le_refl _) ?_).mono hinfix
      rw [hfail] at he ⊢
      exact he
    · have hseq := (hbounded ts.length t a).seq hreads fun b => ih ts.length hn b
      exact (hseq.explained hs' (Nat.le_refl _) he).mono hinfix

theorem bounded_readReply : Bounded n front readReply :=
  bounded_flags promptFlag_reply (fun _ => bounded_readReplyFlag) {}

theorem bounded_readCall : Bounded n front readCall :=
  bounded_flags promptFlag_call (fun _ => bounded_readCallFlag) {}

/-! ## Stanzas -/

theorem bounded_handlerBody (path : String) (es : List Expectation) :
    Bounded n front (handlerBody path es) := by
  -- The tokens ahead decrease with every expectation; a reply ends the body.
  induction n using Nat.strongRecOn generalizing front es with
  | ind n ih =>
  refine .congr (fun hs => handlerBody_eq path es hs) (.ask fun m hm t => ?_)
  unfold handlerBodyAfter
  split
  · next hk => exact .inr ⟨by simp [hk], bounded_give _ _ _⟩
  · next hk =>
    exact .inr ⟨by simp [hk], bounded_readExpect.seq reads_readExpect fun e => ih m hm _⟩
  · next hk =>
    refine .inr ⟨by simp [hk], bounded_readReply.seq reads_readReply fun reply => ?_⟩
    exact (bounded_readKind _ _ _).map _
  · exact .inl ⟨_, _, rfl⟩
  · exact .inl ⟨_, _, rfl⟩

theorem wantPath_fault (h : wantPath t = .error e) : ∃ f u, e = .faultAt f u := by
  rw [wantPath] at h
  split at h <;> cases h
  exact ⟨_, _, rfl⟩

/-- The errors of handlers are faults, or tokens exceed a limit. -/
theorem bounded_readHandler : Bounded n front readHandler := by
  rw [readHandler_eq]
  refine (bounded_judged fun _ _ => wantPath_fault).seq reads_wantPath fun path => ?_
  refine (bounded_readKind _ _ _).seq (reads_readKind spelled_openBrace _ _) fun _ => ?_
  exact bounded_handlerBody path.text []

theorem bounded_clientBody (name : String) (call : Option Call) (es : List Expectation) :
    Bounded n front (clientBody name call es) := by
  -- The tokens ahead decrease with every expectation, and with the one call.
  induction n using Nat.strongRecOn generalizing front call es with
  | ind n ih =>
  refine .congr (fun hs => clientBody_eq name call es hs) (.ask fun m hm t => ?_)
  unfold clientBodyAfter
  split
  · next hk => exact .inr ⟨by simp [hk], bounded_give _ _ _⟩
  · next hk =>
    cases call with
    | some call => exact .inl ⟨_, _, rfl⟩
    | none =>
      exact .inr ⟨by simp [hk], bounded_readCall.seq reads_readCall fun call => ih m hm _ _⟩
  · next hk =>
    exact .inr ⟨by simp [hk], bounded_readExpect.seq reads_readExpect fun e => ih m hm _ _⟩
  · exact .inl ⟨_, _, rfl⟩
  · exact .inl ⟨_, _, rfl⟩

/-- The errors of clients are faults, or tokens exceed a limit. -/
theorem bounded_readClient : Bounded n front readClient := by
  rw [readClient_eq]
  refine (bounded_readKind _ _ _).seq (reads_readKind spelled_emptyString _ _) fun name => ?_
  refine (bounded_readKind _ _ _).seq (reads_readKind spelled_openBrace _ _) fun _ => ?_
  exact bounded_clientBody name.text none []

/-- A stanza is read, and then those after it. -/
theorem StanzaReader.explained {script : Script} {add : α → Script}
    (h : StanzaReader script t r add xs) (hr : Bounded ts.length [] r) (hs : s.Faces ts)
    (hafter : ∀ a s' ts', s'.Faces ts' → ts'.length ≤ ts.length →
      stanzas (add a) s' = .error e → Explained ts' e)
    (he : stanzasAfter script t s = .error e) : Explained ts e := by
  rw [h.after] at he
  rcases bind_eq_error.1 he with hrs | ⟨p, hrs, he⟩
  · exact hr.explained hs (Nat.le_refl _) hrs
  · obtain ⟨us, rest, rfl, -, -, hs'⟩ :=
      ((h.reads _).prompt hs (Nat.le_refl _)).yields_faces hs hrs
    exact (hafter p.1 p.2 rest hs' (by simp) he).mono (List.suffix_append us rest).isInfix

/-- Where no stanza begins there is a fault, unless the script ends. -/
theorem stanzasAfter_fault {script : Script} (hhandle : t.kind ≠ .handle)
    (hclient : t.kind ≠ .client) (he : stanzasAfter script t s = .error e) :
    ∃ f, e = .faultAt f t := by
  unfold stanzasAfter at he
  split at he
  · split at he <;> cases he
    exact ⟨_, rfl⟩
  · next hk => exact absurd hk hhandle
  · next hk => exact absurd hk hclient
  · cases he
    exact ⟨_, rfl⟩
  · cases he
    exact ⟨_, rfl⟩

/-- The errors of stanzas are faults, or tokens exceed a limit. -/
theorem stanzas_explained {script : Script} (hs : s.Faces ts) (he : stanzas script s = .error e) :
    Explained ts e := by
  -- Behind a stanza fewer tokens are ahead, and the error is due to those.
  induction hn : ts.length using Nat.strongRecOn generalizing s ts script with
  | ind n ih =>
  obtain ⟨bs, t, rest, rfl, hbs, ht⟩ := hs.exists_significant true
  obtain ⟨s', heq, hs'⟩ := stanzas_eq script hs hbs ht
  rw [List.length_append, List.length_cons] at hn
  rw [heq] at he
  have hsuffix : rest <:+: bs ++ t :: rest :=
    ((List.suffix_cons t rest).trans (List.suffix_append bs _)).isInfix
  have hafter : ∀ (script' : Script) s' ts', s'.Faces ts' → ts'.length ≤ rest.length →
      stanzas script' s' = .error e → Explained ts' e :=
    fun script' s' ts' hs' hle he' => ih ts'.length (by omega) hs' he' rfl
  by_cases hhandle : t.kind = .handle
  · rw [if_neg (by simp [hhandle])] at hs'
    exact ((stanzaReader_handle hhandle).explained bounded_readHandler hs'
      (fun _ => hafter _) he).mono hsuffix
  by_cases hclient : t.kind = .client
  · rw [if_neg (by simp [hclient])] at hs'
    exact ((stanzaReader_client hclient).explained bounded_readClient hs'
      (fun _ => hafter _) he).mono hsuffix
  obtain ⟨f, rfl⟩ := stanzasAfter_fault hhandle hclient he
  exact .inl ⟨f, t, rfl⟩

/-! ## Texts -/

/-- A token stands behind a part of its text. -/
theorem exists_place {source : String} (h : t ∈ lineTokens source) :
    ∃ before, before <+: source.toList ∧ t.place = .behind before := by
  obtain ⟨pieces, tail, hsource, -, hlen, hfinish, heach⟩ := (tiling_ofText source).pieces
  rw [lineTokens, TokenStream.filtered, List.mem_append, List.mem_filter, List.mem_singleton] at h
  rcases h with ⟨hmem, -⟩ | rfl
  · obtain ⟨i, hi, hget⟩ := List.getElem_of_mem hmem
    have hpieces : pieces = pieces.take i ++ pieces[i] :: pieces.drop (i + 1) := by
      rw [List.getElem_cons_drop, List.take_append_drop]
    obtain ⟨k, w, -, hget'⟩ := heach _ _ _ hpieces
    rw [List.length_take_of_le (hlen ▸ Nat.le_of_lt hi), List.getElem?_eq_getElem hi,
      hget, Place.after_start] at hget'
    refine ⟨(pieces.take i).flatten, ?_, congrArg Token.place (Option.some.inj hget')⟩
    rw [← hsource, hpieces, List.flatten_append, List.append_assoc]
    simp
  · refine ⟨source.toList, List.prefix_rfl, ?_⟩
    rw [TokenStream.endToken, hfinish, Place.after_start]

/-- A text comes to a script whose data every check accepts, or to a fault at one of its tokens, the
place of which is counted from the start of the text; and it does so whatever fuel the reading is
given, once there is enough of it. Apart from these there is an error only where a token exceeds a
limit. -/
theorem parse_outcome (source : String) :
    (∀ fuel, (lineTokens source).length ≤ fuel →
      readStanzas fuel ⟨[], []⟩ (TokenStream.ofText source) = parse source) ∧
    ((∃ script, parse source = .ok script ∧ Schema.script script.data = .ok script) ∨
      (∃ f t before, parse source = .error (.faultAt f t) ∧ t ∈ lineTokens source ∧
        before <+: source.toList ∧ t.place = .behind before) ∨
      ∃ e, parse source = .error e ∧ Excess (lineTokens source) e) := by
  have hs := faces_lineTokens source
  refine ⟨fun fuel hfuel => readStanzas_congr _ hs hfuel hs.length_le, ?_⟩
  cases hparse : parse source with
  | ok script => exact .inl ⟨script, rfl, Schema.script_data (wellFormed_of_parse hparse)⟩
  | error e =>
    rcases stanzas_explained hs hparse with ⟨f, t, rfl⟩ | hexcess
    · obtain ⟨us, rest, -, htokens, -⟩ := stanzas_fails hs hparse
      have hmem : t ∈ lineTokens source := by
        rw [htokens]
        exact List.mem_append_right us List.mem_cons_self
      obtain ⟨before, hbefore, hplace⟩ := exists_place hmem
      exact .inr (.inl ⟨f, t, before, rfl, hmem, hbefore, hplace⟩)
    · exact .inr (.inr ⟨e, rfl, hexcess⟩)

/-- There are texts with neither a script nor a fault: a repetition that is too large is no fault of
the pattern in which it stands. -/
theorem parse_large_repeat :
    let source := "handle \"/\" \x7b expect req.body ~ \"a\x7b4294967295\x7d\" \x7d"
    parse source = .error (.pattern .largeRepeat) ∧ (∀ script, parse source ≠ .ok script) ∧
      ∀ f t, parse source ≠ .error (.faultAt f t) := by
  intro source
  have hmap : (parse source).map (fun _ => ()) = .error (.pattern .largeRepeat) := by
    decide +kernel
  have hparse : parse source = .error (.pattern .largeRepeat) := map_eq_error.1 hmap
  rw [hparse]
  exact ⟨rfl, fun _ => nofun, fun _ _ => nofun⟩

end Script

end ProxyTrial
