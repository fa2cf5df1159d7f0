import ProxyTrial.Proofs.Script.Prompt
import ProxyTrial.Script.Parse
/-!
# The readers of the language find faults at once

Every reader of commands and stanzas is prompt. Each is put together of readers of one token, which
want a kind of token or a value that a rule of the language allows; the symbols with which it may
go on are those of a shortest text.

## Main results

* `reads_readExpect`: `expect` commands
* `reads_flags`, `reads_readReply`, `reads_readCall`: the flags of `tx` commands
* `reads_readHandler`, `reads_readClient`: stanzas
-/

namespace ProxyTrial.Script

open Reader

/-! ## Symbols of a text -/

theorem spelled_keyword {w : String} {k : Kind} (h : (w, k) ∈ keywords) :
    Symbol.Spelled ⟨k, w⟩ := by
  have hall : ∀ e ∈ keywords, TokenStream.skips true e.2 = false ∧ e.2 ≠ .endOfScript := by decide
  obtain ⟨hne, hname, -⟩ := keyword_spec h
  obtain ⟨c, cs, hw⟩ := List.exists_cons_of_ne_nil hne
  refine ⟨(hall _ h).1, (hall _ h).2, c, cs, ?_, fun rest => ?_⟩
  · exact isLayout_of_isNameChar (hname c (hw ▸ List.mem_cons_self))
  · have hscanned := scanned_keyword h (show Avoids isNameChar (' ' :: rest) by simp [isNameChar])
    rwa [scanned_space, hw] at hscanned

theorem spelled_string {w : String} (h : '"' ∉ w.toList) : Symbol.Spelled ⟨.string, w⟩ := by
  refine ⟨rfl, by simp, '"', w.toList ++ ['"'], rfl, fun rest => ?_⟩
  have hscanned := scanned_quoted h (' ' :: rest)
  rw [scanned_space, String.ofList_toList] at hscanned
  rwa [List.append_assoc]

theorem spelled_integer {w : String} (h : isInteger w.toList) : Symbol.Spelled ⟨.integer, w⟩ := by
  have hname := isNameChar_of_isInteger h
  cases hw : w.toList with
  | nil =>
    rw [hw] at h
    cases h
  | cons c cs =>
    rw [hw] at hname
    refine ⟨rfl, by simp, c, cs, isLayout_of_isNameChar (hname c List.mem_cons_self), ?_⟩
    intro rest
    have hscanned := scanned_integer h (show Avoids isNameChar (' ' :: rest) by simp [isNameChar])
    rwa [scanned_space, hw] at hscanned

theorem spelled_mark {c : Char} (h : markKind c ≠ .illegal) (hc : isLayout c = false)
    (hk : TokenStream.skips true (markKind c) = false) :
    Symbol.Spelled ⟨markKind c, String.ofList [c]⟩ := by
  refine ⟨hk, (markKind_ne c).2, c, [], hc, fun rest => ?_⟩
  rw [List.nil_append, scanned_mark h, scanned_space]

theorem spelled_openBrace : Symbol.Spelled ⟨.openBrace, "\x7b"⟩ :=
  spelled_mark (c := '{') (by decide) rfl rfl

theorem spelled_closeBrace : Symbol.Spelled ⟨.closeBrace, "\x7d"⟩ :=
  spelled_mark (c := '}') (by decide) rfl rfl

/-! ## Readers of one token -/

variable {n : ℕ}

theorem onlyAt_unexpected (wanted : Wanted) (construct : Construct) (t : Token) :
    OnlyAt t (unexpected wanted construct t) := by
  rintro f u h
  cases h
  rfl

/-- Wants a kind of token. -/
def wantKind (k : Kind) (wanted : Wanted) (construct : Construct) (t : Token) :
    Except ScriptError Token :=
  if t.kind = k then .ok t else .error (unexpected wanted construct t)

theorem reads_wantKind {skip : Bool} {k : Kind} {w : String} (h : Symbol.Spelled ⟨k, w⟩)
    (wanted : Wanted) (construct : Construct) :
    Reads n anyKind (judged skip (wantKind k wanted construct)) [⟨k, w⟩] := by
  refine .judged (fun t e he => ?_) (fun t ht => ?_) h fun t ht => ?_
  · rw [wantKind] at he
    split at he
    · cases he
    · cases he
      exact onlyAt_unexpected _ _ _
  · exact ⟨_, if_neg fun hk => h.not_end (hk.symm.trans ht)⟩
  · exact ⟨t, if_pos (congrArg Symbol.kind ht)⟩

theorem readKind_eq (k : Kind) (wanted : Wanted) (construct : Construct) :
    readKind k wanted construct = judged true (wantKind k wanted construct) := by
  funext s
  simp only [readKind, judged, ask, wantKind]
  split <;> rfl

theorem reads_readKind {k : Kind} {w : String} (h : Symbol.Spelled ⟨k, w⟩) (wanted : Wanted)
    (construct : Construct) : Reads n anyKind (readKind k wanted construct) [⟨k, w⟩] := by
  rw [readKind_eq]
  exact reads_wantKind h wanted construct

theorem readValue_eq (k : Kind) (wanted : Wanted) :
    readValue k wanted = judged false (wantKind k wanted .txCommand) := by
  funext s
  simp only [readValue, judged, ask, wantKind]
  split <;> rfl

theorem reads_readValue {k : Kind} {w : String} (h : Symbol.Spelled ⟨k, w⟩) (wanted : Wanted) :
    Reads n anyKind (readValue k wanted) [⟨k, w⟩] := by
  rw [readValue_eq]
  exact reads_wantKind h wanted .txCommand

/-! ## Expectations -/

/-- The empty string. -/
def emptyString : Symbol := ⟨.string, ""⟩

theorem spelled_emptyString : emptyString.Spelled := spelled_string (by decide)

theorem readSelector_eq (side : String) :
    readSelector side = seq (readKind .openBracket (.headerSelector side) .expectCommand) fun _ =>
      seq (readKind .string (.headerSelector side) .expectCommand) fun name =>
        seq (readKind .closeBracket (.headerSelector side) .expectCommand) fun _ =>
          give name.text := rfl

/-- The symbols of a shortest selector. -/
def selectorSymbols : List Symbol := [⟨.openBracket, "["⟩, emptyString, ⟨.closeBracket, "]"⟩]

theorem reads_readSelector (side : String) :
    Reads n anyKind (readSelector side) selectorSymbols := by
  have hopen : Symbol.Spelled ⟨.openBracket, "["⟩ := spelled_mark (c := '[') (by decide) rfl rfl
  have hclose : Symbol.Spelled ⟨.closeBracket, "]"⟩ := spelled_mark (c := ']') (by decide) rfl rfl
  have hrest : Spelled [emptyString, ⟨.closeBracket, "]"⟩] := by
    simp [Spelled, spelled_emptyString, hclose]
  rw [readSelector_eq]
  refine .seq (reads_readKind hopen _ _) hrest fun _ => ?_
  refine .seq (reads_readKind spelled_emptyString _ _) (by simpa [Spelled] using hclose)
    fun name => ?_
  exact (reads_readKind hclose _ _).map _

/-- What follows a side and a dot, after its first token. -/
def subjectAfter (side : String) (t : Token) : Reader Subject :=
  match t.kind with
  | .method => give .method
  | .status => give .status
  | .body => give .body
  | .headers => seq (readSelector side) fun name => give (.header name)
  | _ => fail (unexpected (.subject side) .expectCommand t)

theorem readSubject_eq (side : String) : readSubject side = ask true (subjectAfter side) := by
  funext s
  simp only [readSubject, ask, subjectAfter]
  cases (s.significant true).1.kind <;> rfl

theorem reads_readSubject (side : String) :
    Reads n anyKind (readSubject side) [⟨.body, "body"⟩] := by
  rw [readSubject_eq]
  refine .ask (fun m _ t => ?_) (spelled_keyword (by decide)) (List.forall_mem_nil _) ?_
  · unfold subjectAfter
    split
    · next hk => exact .inr ⟨by simp [hk], [], .give m _⟩
    · next hk => exact .inr ⟨by simp [hk], [], .give m _⟩
    · next hk => exact .inr ⟨by simp [hk], [], .give m _⟩
    · next hk =>
      exact .inr ⟨by simp [hk], _, (reads_readSelector side).map _⟩
    · exact .inl ⟨_, rfl, onlyAt_unexpected _ _ _⟩
  · intro t ht
    have hk : t.kind = .body := congrArg Symbol.kind ht
    simp only [subjectAfter, hk]
    exact (Reads.give 0 _).completed

/-- Wants a side. -/
def wantSide (t : Token) : Except ScriptError (Token × Side) :=
  match sideOf t.kind with
  | some side => .ok (t, side)
  | none => .error (unexpected .side .expectCommand t)

/-- Wants an operator. -/
def wantOperator (t : Token) : Except ScriptError Token :=
  if isOperator t.kind then .ok t else .error (unexpected .comparison .expectCommand t)

/-- Wants a value that an operator can be applied to. -/
def wantExpected (side : Side) (subject : Subject) (operator t : Token) :
    Except ScriptError Expectation :=
  match writtenValue t with
  | none => .error (unexpected .value .expectCommand t)
  | some written => do
    let comparison ← comparisonOf operator t
    return {
      side, subject, comparison, expected := t.text
      verbatim :=
        side.word ++ "." ++ Subject.written subject ++ " " ++ operator.text ++ " " ++ written }

theorem readExpect_eq :
    readExpect = seq (judged true wantSide) fun side =>
      seq (readKind .dot (.dot side.1.text) .expectCommand) fun _ =>
        seq (readSubject side.1.text) fun subject =>
          seq (judged true wantOperator) fun operator =>
            judged true (wantExpected side.2 subject operator) := by
  funext s
  rw [seq_judged, wantSide]
  simp only [readExpect]
  cases sideOf (s.significant true).1.kind with
  | none => rfl
  | some side =>
    simp only [ok_bind]
    refine bind_congr fun dot => bind_congr fun subject => ?_
    simp only [seq_judged, wantOperator]
    cases isOperator (subject.2.significant true).1.kind with
    | false => rfl
    | true =>
      simp only [if_true, ok_bind, judged_eq, wantExpected]
      cases writtenValue ((subject.2.significant true).2.significant true).1 with
      | none => rfl
      | some written =>
        cases comparisonOf (subject.2.significant true).1
          ((subject.2.significant true).2.significant true).1 <;> rfl

theorem reads_wantSide : Reads n anyKind (judged true wantSide) [⟨.req, "req"⟩] := by
  refine .judged (fun t e he => ?_) (fun t ht => ?_) (spelled_keyword (by decide)) fun t ht => ?_
  · unfold wantSide at he
    split at he
    · cases he
    · cases he
      exact onlyAt_unexpected _ _ _
  · exact ⟨_, by rw [wantSide, ht]; rfl⟩
  · have hk : t.kind = .req := congrArg Symbol.kind ht
    exact ⟨_, by rw [wantSide, hk]; rfl⟩

theorem reads_wantOperator : Reads n anyKind (judged true wantOperator) [⟨.eq, "eq"⟩] := by
  refine .judged (fun t e he => ?_) (fun t ht => ?_) (spelled_keyword (by decide)) fun t ht => ?_
  · unfold wantOperator at he
    split at he
    · cases he
    · cases he
      exact onlyAt_unexpected _ _ _
  · exact ⟨_, by rw [wantOperator, ht]; rfl⟩
  · have hk : t.kind = .eq := congrArg Symbol.kind ht
    exact ⟨_, by rw [wantOperator, hk]; rfl⟩

/-- The fault of a pattern is at the value. -/
theorem onlyAt_comparisonOf {operator t : Token} {e : ScriptError}
    (h : comparisonOf operator t = .error e) : OnlyAt t e := by
  unfold comparisonOf at h
  split at h
  · cases h
  · cases h
  · split at h
    · cases h
    · split at h
      · cases h
        rintro f u hf
        cases hf
        rfl
      · cases h
        rintro f u hf
        cases hf
        rfl
      · cases h
        rintro f u hf
        cases hf

/-- The empty string can be compared with. -/
theorem exists_comparisonOf (operator : Token) {t : Token} (h : t.text = "") :
    ∃ c, comparisonOf operator t = .ok c := by
  unfold comparisonOf
  split
  · exact ⟨_, rfl⟩
  · exact ⟨_, rfl⟩
  · rw [h]
    exact ⟨_, rfl⟩

theorem reads_wantExpected (side : Side) (subject : Subject) (operator : Token) :
    Reads n anyKind (judged true (wantExpected side subject operator)) [emptyString] := by
  refine .judged (fun t e he => ?_) (fun t ht => ?_) spelled_emptyString fun t ht => ?_
  · unfold wantExpected at he
    split at he
    · cases he
      exact onlyAt_unexpected _ _ _
    · cases hc : comparisonOf operator t with
      | ok c =>
        rw [hc] at he
        cases he
      | error e' =>
        rw [hc] at he
        cases he
        exact onlyAt_comparisonOf hc
  · exact ⟨_, by rw [wantExpected, writtenValue, ht]⟩
  · have hk : t.kind = .string := congrArg Symbol.kind ht
    obtain ⟨c, hc⟩ := exists_comparisonOf operator (congrArg Symbol.text ht)
    exact ⟨_, by rw [wantExpected, writtenValue, hk]; simp only [hc, ok_bind]; rfl⟩

/-- The symbols of a shortest expectation. -/
def expectationSymbols : List Symbol :=
  [⟨.req, "req"⟩, ⟨.dot, "."⟩, ⟨.body, "body"⟩, ⟨.eq, "eq"⟩, emptyString]

theorem spelled_expectationSymbols : Spelled expectationSymbols := by
  have hdot : Symbol.Spelled ⟨.dot, "."⟩ := spelled_mark (c := '.') (by decide) rfl rfl
  have hreq : Symbol.Spelled ⟨.req, "req"⟩ := spelled_keyword (by decide)
  have hbody : Symbol.Spelled ⟨.body, "body"⟩ := spelled_keyword (by decide)
  have heq : Symbol.Spelled ⟨.eq, "eq"⟩ := spelled_keyword (by decide)
  simp [Spelled, expectationSymbols, hdot, hreq, hbody, heq, spelled_emptyString]

/-- Expectations are read promptly. -/
theorem reads_readExpect : Reads n anyKind readExpect expectationSymbols := by
  have hall := spelled_expectationSymbols
  simp only [Spelled, expectationSymbols, List.forall_mem_cons] at hall
  obtain ⟨-, hdot, hbody, heq, hvalue, hnil⟩ := hall
  rw [readExpect_eq]
  refine .seq reads_wantSide (by simp [Spelled, *]) fun side => ?_
  refine .seq (reads_readKind hdot _ _) (by simp [Spelled, *]) fun _ => ?_
  refine .seq (reads_readSubject _) (by simp [Spelled, *]) fun subject => ?_
  exact .seq reads_wantOperator (by simp [Spelled, *]) fun operator => reads_wantExpected _ _ _

/-! ## Flags -/

/-- Wants a header, and sets it. -/
def wantHeader (hs : Headers) (t : Token) : Except ScriptError Headers := do
  let t ← wantKind .string .header .txCommand t
  match splitHeader t.text with
  | none => .error (unexpected .headerShape .txCommand t)
  | some (name, value) => .ok (setHeader name value hs)

/-- Wants a status code. -/
def wantStatus (t : Token) : Except ScriptError Int := do
  let t ← wantKind .integer .integer .txCommand t
  let code ← integerValue t.text
  if 100 ≤ code ∧ code ≤ 999 then .ok code else .error (unexpected .statusCode .txCommand t)

theorem readHeader_eq (hs : Headers) : readHeader hs = judged false (wantHeader hs) := by
  funext s
  rw [judged_eq, readHeader, readValue_eq, judged_eq, wantHeader]
  cases wantKind .string .header .txCommand (s.significant false).1 with
  | error e => rfl
  | ok t =>
    simp only [Except.map, ok_bind]
    cases splitHeader t.text <;> rfl

theorem readStatus_eq : readStatus = judged false wantStatus := by
  funext s
  rw [judged_eq, readStatus, readValue_eq, judged_eq, wantStatus]
  cases wantKind .integer .integer .txCommand (s.significant false).1 with
  | error e => rfl
  | ok t =>
    simp only [Except.map, ok_bind]
    cases integerValue t.text with
    | error e => rfl
    | ok code =>
      simp only [ok_bind]
      split <;> rfl

theorem wantKind_eq_error {k : Kind} {wanted : Wanted} {construct : Construct} {t : Token}
    {e : ScriptError} (h : wantKind k wanted construct t = .error e) : OnlyAt t e := by
  rw [wantKind] at h
  split at h
  · cases h
  · cases h
    exact onlyAt_unexpected _ _ _

theorem wantKind_eq_ok {k : Kind} {wanted : Wanted} {construct : Construct} {t u : Token}
    (h : wantKind k wanted construct t = .ok u) : u = t := by
  rw [wantKind] at h
  split at h <;> cases h
  rfl

/-- The symbol of a header. -/
def headerSymbol : Symbol := ⟨.string, "a:"⟩

/-- The symbol of a status code. -/
def statusSymbol : Symbol := ⟨.integer, "200"⟩

theorem spelled_headerSymbol : headerSymbol.Spelled := spelled_string (by decide)

theorem spelled_statusSymbol : statusSymbol.Spelled := spelled_integer (by decide)

theorem reads_readHeader (hs : Headers) : Reads n anyKind (readHeader hs) [headerSymbol] := by
  rw [readHeader_eq]
  refine .judged (fun t e he => ?_) (fun t ht => ?_) spelled_headerSymbol fun t ht => ?_
  · rw [wantHeader] at he
    cases hk : wantKind .string .header .txCommand t with
    | error e' =>
      rw [hk] at he
      cases he
      exact wantKind_eq_error hk
    | ok u =>
      obtain rfl := wantKind_eq_ok hk
      rw [hk, ok_bind] at he
      split at he
      · cases he
        exact onlyAt_unexpected _ _ _
      · cases he
  · exact ⟨_, by rw [wantHeader, wantKind, ht]; rfl⟩
  · have hk : t.kind = .string := congrArg Symbol.kind ht
    have hw : t.text = "a:" := congrArg Symbol.text ht
    exact ⟨_, by rw [wantHeader, wantKind, if_pos hk, ok_bind, hw]; rfl⟩

theorem reads_readStatus : Reads n anyKind readStatus [statusSymbol] := by
  rw [readStatus_eq]
  refine .judged (fun t e he => ?_) (fun t ht => ?_) spelled_statusSymbol fun t ht => ?_
  · rw [wantStatus] at he
    cases hk : wantKind .integer .integer .txCommand t with
    | error e' =>
      rw [hk] at he
      cases he
      exact wantKind_eq_error hk
    | ok u =>
      obtain rfl := wantKind_eq_ok hk
      rw [hk, ok_bind] at he
      -- An integer with too many digits is an error, and not a fault.
      cases hi : integerValue u.text with
      | error e' =>
        rw [hi] at he
        cases he
        rintro f v rfl
        rw [integerValue] at hi
        simp only at hi
        split at hi <;> cases hi
      | ok code =>
        rw [hi, ok_bind] at he
        split at he
        · cases he
        · cases he
          exact onlyAt_unexpected _ _ _
  · exact ⟨_, by rw [wantStatus, wantKind, ht]; rfl⟩
  · have hk : t.kind = .integer := congrArg Symbol.kind ht
    have hw : t.text = "200" := congrArg Symbol.text ht
    exact ⟨200, by rw [wantStatus, wantKind, if_pos hk, ok_bind, hw]; rfl⟩

/-- Each flag is refused, or its value is read promptly. -/
def PromptFlag {α : Type} (flag : Token → α → Reader α) : Prop :=
  ∀ (n : ℕ) (t : Token) (a : α), (∃ e, flag t a = fail e ∧ OnlyAt t e) ∨
    ∃ xs, Reads n anyKind (flag t a) xs

/-- The value of a flag of a reply. -/
def replyFlag (t : Token) (r : Reply) : Reader Reply :=
  match t.kind with
  | .bodyFlag => seq (readValue .string .text) fun t => give { r with body := t.text }
  | .headerFlag => seq (readHeader r.headers) fun headers => give { r with headers }
  | .statusFlag => seq readStatus fun status => give { r with status }
  | _ => fail (unexpected .replyFlag .txCommand t)

theorem readReplyFlag_eq (t : Token) (r : Reply) : readReplyFlag t r = replyFlag t r := by
  funext s
  unfold readReplyFlag replyFlag
  cases t.kind <;> rfl

theorem promptFlag_reply : PromptFlag readReplyFlag := by
  intro n t r
  rw [readReplyFlag_eq]
  unfold replyFlag
  split
  · exact .inr ⟨_, (reads_readValue spelled_emptyString _).map _⟩
  · exact .inr ⟨_, (reads_readHeader _).map _⟩
  · exact .inr ⟨_, reads_readStatus.map _⟩
  · exact .inl ⟨_, rfl, onlyAt_unexpected _ _ _⟩

/-- The value of a flag of a call. -/
def callFlag (t : Token) (c : Call) : Reader Call :=
  match t.kind with
  | .bodyFlag => seq (readValue .string .text) fun t => give { c with body := t.text }
  | .headerFlag => seq (readHeader c.headers) fun headers => give { c with headers }
  | .methodFlag => seq (readValue .string .text) fun t => give { c with method := t.text }
  | .urlFlag => seq (readValue .string .text) fun t => give { c with target := t.text }
  | _ => fail (unexpected .callFlag .txCommand t)

theorem readCallFlag_eq (t : Token) (c : Call) : readCallFlag t c = callFlag t c := by
  funext s
  unfold readCallFlag callFlag
  cases t.kind <;> rfl

theorem promptFlag_call : PromptFlag readCallFlag := by
  intro n t c
  rw [readCallFlag_eq]
  unfold callFlag
  have htext : ∀ f : Token → Call, Reads n anyKind
      (seq (readValue .string .text) fun t => give (f t)) [emptyString] :=
    (reads_readValue spelled_emptyString _).map
  split
  · exact .inr ⟨_, htext _⟩
  · exact .inr ⟨_, (reads_readHeader _).map _⟩
  · exact .inr ⟨_, htext _⟩
  · exact .inr ⟨_, htext _⟩
  · exact .inl ⟨_, rfl, onlyAt_unexpected _ _ _⟩

section Flags

variable {α : Type} {flag : Token → α → Reader α} {s : TokenStream} {t : Token} {ts : List Token}

/-- Reads flags up to the end of their command. -/
def flags (flag : Token → α → Reader α) (a : α) : Reader α :=
  fun s => readFlags flag (s.ahead.length + 1) a s

/-- More fuel than tokens makes no difference. -/
theorem readFlags_congr (hflag : PromptFlag flag) {n m : ℕ} {a : α} (hs : s.Faces ts)
    (hn : ts.length ≤ n) (hm : ts.length ≤ m) :
    readFlags flag n a s = readFlags flag m a s := by
  induction n generalizing m a s ts with
  | zero => exact absurd (List.length_eq_zero_iff.1 (Nat.le_zero.1 hn)) hs.ne_nil
  | succ n ih =>
    obtain ⟨t, ts, rfl⟩ := List.exists_cons_of_ne_nil hs.ne_nil
    obtain ⟨m, rfl⟩ := Nat.exists_eq_add_of_le' (Nat.le_trans (Nat.succ_pos _) hm)
    obtain ⟨hfirst, hrest⟩ := hs.first
    simp only [readFlags, hfirst]
    split
    · rfl
    · next hends =>
      have hend : t.kind ≠ .endOfScript := fun h => hends (by rw [h]; rfl)
      rw [if_neg hend] at hrest
      rcases hflag ts.length t a with ⟨e, hfail, -⟩ | ⟨xs, hreads⟩
      · rw [hfail]
        rfl
      · cases hok : flag t a (s.significant false).2 with
        | error e => rfl
        | ok p =>
          obtain ⟨ts', hs', hle⟩ := hreads.faces hrest hok
          rw [List.length_cons] at hn hm
          exact ih hs' (by omega) (by omega)

/-- Flags end before some kinds of tokens, and else the next one is read. -/
theorem flags_eq (hflag : PromptFlag flag) (a : α) (hs : s.Faces (t :: ts)) :
    (endsTx t.kind → ∃ s', flags flag a s = .ok (a, s') ∧ s'.Faces (t :: ts)) ∧
    (endsTx t.kind = false → ∃ s', flags flag a s = seq (flag t a) (flags flag) s' ∧
      s'.Faces ts) := by
  obtain ⟨hfirst, hrest⟩ := hs.first
  have hfuel := hs.length_le
  rw [List.length_cons] at hfuel
  constructor
  · intro hends
    refine ⟨(s.significant false).2.putBack t, ?_, ?_⟩
    · simp only [flags, readFlags, hfirst, hends, if_true]
    · by_cases hend : t.kind = .endOfScript
      · rw [TokenStream.putBack, if_pos hend]
        rw [if_pos hend] at hrest
        obtain rfl := (show s.Faces ([] ++ t :: ts) from hs).eq_nil_of_end hend
        exact hrest
      · rw [if_neg hend] at hrest
        refine hrest.putBack ?_ hend
        rintro hk
        rw [hk] at hends
        cases hends
  · intro hends
    have hend : t.kind ≠ .endOfScript := by
      intro hk
      rw [hk] at hends
      cases hends
    rw [if_neg hend] at hrest
    refine ⟨(s.significant false).2, ?_, hrest⟩
    simp only [flags, readFlags, hfirst, hends, seq]
    rcases hflag ts.length t a with ⟨e, hfail, -⟩ | ⟨xs, hreads⟩
    · rw [hfail]
      rfl
    · cases hok : flag t a (s.significant false).2 with
      | error e => rfl
      | ok p =>
        -- The fuel is enough for the tokens that the flag leaves.
        obtain ⟨ts', hs', hle⟩ := hreads.faces hrest hok
        exact readFlags_congr hflag hs' (by omega) hs'.length_le

/-- Nothing is read before a token that ends the flags. -/
theorem yields_flags_nil (hflag : PromptFlag flag) (a : α) : Yields endsTx (flags flag a) [] a := by
  intro s ts hs hstops
  obtain ⟨t, ts, rfl⟩ := List.exists_cons_of_ne_nil hs.ne_nil
  exact (flags_eq hflag a hs).1 (hstops t rfl)

theorem completedBy_flags_nil (hflag : PromptFlag flag) (a : α) :
    CompletedBy endsTx (flags flag a) [] [] := by
  intro vs hvs
  obtain rfl := List.map_eq_nil_iff.1 hvs
  exact ⟨a, yields_flags_nil hflag a⟩

/-- What is found of a flag and of the flags after it is found of the flags, with the flag in
front. -/
theorem Yields.flags {us : List Token} {a b : α}
    (h : Yields endsTx (Reader.seq (flag t a) (Script.flags flag)) us b) (hflag : PromptFlag flag)
    (hends : endsTx t.kind = false) :
    Yields endsTx (Script.flags flag a) (t :: us) b := by
  intro s ts hs hstops
  obtain ⟨s', heq, hs'⟩ := (flags_eq hflag a hs).2 hends
  rw [heq]
  exact h s' ts hs' hstops

theorem FailsAt.flags {us : List Token} {a : α} {f : Fault} {u : Token}
    (h : FailsAt (Reader.seq (flag t a) (Script.flags flag)) us f u) (hflag : PromptFlag flag)
    (hends : endsTx t.kind = false) : FailsAt (Script.flags flag a) (t :: us) f u := by
  intro s ts hs
  obtain ⟨s', heq, hs'⟩ := (flags_eq hflag a hs).2 hends
  rw [heq]
  exact h s' ts hs'

/-- A flag that is none fails at itself. -/
theorem failsAt_flags_nil {a : α} {f : Fault} (hflag : PromptFlag flag)
    (hends : endsTx t.kind = false) (hfail : flag t a = fail (.faultAt f t)) :
    FailsAt (flags flag a) [] f t := by
  intro s ts hs
  obtain ⟨s', heq, -⟩ := (flags_eq hflag a hs).2 hends
  rw [heq, hfail]
  rfl

/-- Flags are read promptly. -/
theorem reads_flags (hflag : PromptFlag flag) (a : α) : Reads n endsTx (flags flag a) [] := by
  -- The induction is on the number of tokens ahead, of which a flag takes one at least.
  induction n using Nat.strongRecOn generalizing a with
  | ind n ih =>
  refine ⟨fun {s ts} hs hn => ?_, List.forall_mem_nil _, completedBy_flags_nil hflag a⟩
  obtain ⟨t, ts, rfl⟩ := List.exists_cons_of_ne_nil hs.ne_nil
  cases hends : endsTx t.kind with
  | true =>
    obtain ⟨s', heq, -⟩ := (flags_eq hflag a hs).1 hends
    refine ⟨fun hok => ?_, fun hfault => ?_⟩
    · obtain ⟨rfl, rfl⟩ := Prod.mk.inj (Except.ok.inj (heq.symm.trans hok))
      refine ⟨[], t :: ts, rfl, fun u hu => ?_, yields_flags_nil hflag a⟩
      obtain rfl := Option.some.inj hu
      exact hends
    · cases heq.symm.trans hfault
  | false =>
    obtain ⟨s', heq, hs'⟩ := (flags_eq hflag a hs).2 hends
    rcases hflag (n - 1) t a with ⟨e, hfail, hat⟩ | ⟨xs, hreads⟩
    · have herror : flags flag a s = .error e := by
        rw [heq, hfail]
        rfl
      refine ⟨fun hok => ?_, fun {f u} hfault => ?_⟩
      · cases herror.symm.trans hok
      · obtain rfl := Except.error.inj (herror.symm.trans hfault)
        obtain rfl := hat f u rfl
        exact ⟨[], ts, [], rfl, failsAt_flags_nil hflag hends hfail, List.forall_mem_nil _,
          completedBy_flags_nil hflag a⟩
    · have hlt : ts.length ≤ n - 1 ∧ n - 1 < n := by
        rw [List.length_cons] at hn
        omega
      have hprompt := (Reads.seq hreads (List.forall_mem_nil _)
        fun b => ih (n - 1) hlt.2 b).prompt hs' hlt.1
      refine ⟨fun hok => ?_, fun hfault => ?_⟩
      · obtain ⟨us, rest, rfl, hstops, hyields⟩ := hprompt.yields (heq.symm.trans hok)
        exact ⟨t :: us, rest, rfl, hstops, hyields.flags hflag hends⟩
      · obtain ⟨us, rest, zs, rfl, hfails, hzs, hc⟩ := hprompt.fails (heq.symm.trans hfault)
        refine ⟨t :: us, rest, zs, rfl, hfails.flags hflag hends, hzs, fun vs hvs => ?_⟩
        obtain ⟨b, hb⟩ := hc vs hvs
        exact ⟨b, hb.flags hflag hends⟩

end Flags

theorem reads_readReply : Reads n endsTx readReply [] := reads_flags promptFlag_reply {}

theorem reads_readCall : Reads n endsTx readCall [] := reads_flags promptFlag_call {}

/-! ## Handlers -/

section Stanzas

variable {s : TokenStream} {ts : List Token}

/-- Reads the statements of a handler. -/
def handlerBody (path : String) (es : List Expectation) : Reader Handler :=
  fun s => readHandlerBody path (s.ahead.length + 1) es s

/-- The statements of a handler after their first token. -/
def handlerBodyAfter (path : String) (es : List Expectation) (t : Token) : Reader Handler :=
  match t.kind with
  | .closeBrace => give { path, expectations := es }
  | .expect => seq readExpect fun e => handlerBody path (es ++ [e])
  | .tx => seq readReply fun reply =>
      seq (readKind .closeBrace .closeBraceAfterTx .handleStanza) fun _ =>
        give { path, expectations := es, reply }
  | .endOfScript => fail (unexpected .closeBrace .handleStanza t)
  | _ => fail (unexpected .handlerStatement .handleStanza t)

theorem readHandlerBody_congr (path : String) {n m : ℕ} (es : List Expectation) (hs : s.Faces ts)
    (hn : ts.length ≤ n) (hm : ts.length ≤ m) :
    readHandlerBody path n es s = readHandlerBody path m es s := by
  induction n generalizing m es s ts with
  | zero => exact absurd (List.length_eq_zero_iff.1 (Nat.le_zero.1 hn)) hs.ne_nil
  | succ n ih =>
    obtain ⟨bs, t, rest, rfl, hfirst, hrest⟩ := hs.exists_first
    rw [List.length_append, List.length_cons] at hn hm
    obtain ⟨m, rfl⟩ := Nat.exists_eq_add_of_le' (show 1 ≤ m by omega)
    simp only [readHandlerBody, hfirst]
    split
    · rfl
    · next hk =>
      rw [if_neg (by simp [hk])] at hrest
      refine bind_congr_of_ok fun p hp => ?_
      obtain ⟨ts', hs', hle⟩ := reads_readExpect.faces hrest hp
      exact ih _ hs' (by omega) (by omega)
    · rfl
    · rfl
    · rfl

theorem handlerBody_eq (path : String) (es : List Expectation) (hs : s.Faces ts) :
    handlerBody path es s = ask true (handlerBodyAfter path es) s := by
  obtain ⟨bs, t, rest, rfl, hfirst, hrest⟩ := hs.exists_first
  have hfuel := hs.length_le
  rw [List.length_append, List.length_cons] at hfuel
  simp only [handlerBody, readHandlerBody, ask, handlerBodyAfter, hfirst]
  cases hk : t.kind
  case expect =>
    rw [if_neg (by simp [hk])] at hrest
    refine bind_congr_of_ok fun p hp => ?_
    obtain ⟨ts', hs', hle⟩ := reads_readExpect.faces hrest hp
    exact readHandlerBody_congr path _ hs' (by omega) hs'.length_le
  all_goals rfl

theorem completedBy_handlerBody (path : String) (es : List Expectation) :
    ∀ t, t.symbol = ⟨.closeBrace, "\x7d"⟩ →
      CompletedBy anyKind (handlerBodyAfter path es t) [] [] := by
  intro t ht
  have hk : t.kind = .closeBrace := congrArg Symbol.kind ht
  simp only [handlerBodyAfter, hk]
  exact (Reads.give 0 _).completed

/-- The statements of a handler are read promptly. -/
theorem reads_handlerBody (path : String) (es : List Expectation) :
    Reads n anyKind (handlerBody path es) [⟨.closeBrace, "\x7d"⟩] := by
  induction n using Nat.strongRecOn generalizing es with
  | ind n ih =>
  refine .congr (fun hs => handlerBody_eq path es hs) (.ask (fun m hm t => ?_) spelled_closeBrace
    (List.forall_mem_nil _) (completedBy_handlerBody path es))
  have hbrace : Spelled [⟨.closeBrace, "\x7d"⟩] := by simpa [Spelled] using spelled_closeBrace
  unfold handlerBodyAfter
  split
  · next hk => exact .inr ⟨by simp [hk], _, .give m _⟩
  · next hk => exact .inr ⟨by simp [hk], _, .seq reads_readExpect hbrace fun e => ih m hm _⟩
  · next hk =>
    -- A brace is wanted behind the flags, and nothing that is wanted is the end.
    refine .inr ⟨by simp [hk], _, .seq_stop reads_readReply hbrace (fun reply => ?_) rfl ?_⟩
    · exact (reads_readKind spelled_closeBrace _ _).map _
    · rintro reply p h
      cases h
  · exact .inl ⟨_, rfl, onlyAt_unexpected _ _ _⟩
  · exact .inl ⟨_, rfl, onlyAt_unexpected _ _ _⟩

/-- Wants a path. -/
def wantPath (t : Token) : Except ScriptError Token :=
  if t.kind ≠ .string ∨ t.text.toList.head? ≠ some '/' then
    .error (unexpected .path .handleStanza t)
  else .ok t

theorem readHandler_eq : readHandler = seq (judged true wantPath) fun path =>
    seq (readKind .openBrace .openBrace .handleStanza) fun _ => handlerBody path.text [] := by
  funext s
  simp only [readHandler, seq_judged, wantPath]
  split <;> rfl

/-- The symbols of a shortest handler, after its keyword. -/
def handlerSymbols : List Symbol :=
  [⟨.string, "/"⟩, ⟨.openBrace, "\x7b"⟩, ⟨.closeBrace, "\x7d"⟩]

theorem reads_wantPath : Reads n anyKind (judged true wantPath) [⟨.string, "/"⟩] := by
  refine .judged (fun t e he => ?_) (fun t ht => ?_) (spelled_string (by decide)) fun t ht => ?_
  · unfold wantPath at he
    split at he
    · cases he
      exact onlyAt_unexpected _ _ _
    · cases he
  · exact ⟨_, if_pos (.inl (by rw [ht]; simp))⟩
  · obtain ⟨hk, hw⟩ : t.kind = .string ∧ t.text = "/" :=
      ⟨congrArg Symbol.kind ht, congrArg Symbol.text ht⟩
    exact ⟨t, if_neg (by simp [hk, hw])⟩

/-- Handlers are read promptly. -/
theorem reads_readHandler : Reads n anyKind readHandler handlerSymbols := by
  rw [readHandler_eq]
  refine .seq_one reads_wantPath (by simp [Spelled, spelled_openBrace, spelled_closeBrace])
    fun path => ?_
  exact .seq_one (reads_readKind spelled_openBrace _ _)
    (by simp [Spelled, spelled_closeBrace]) fun _ => reads_handlerBody path.text []

/-! ## Clients -/

/-- Reads the statements of a client. -/
def clientBody (name : String) (call : Option Call) (es : List Expectation) : Reader Client :=
  fun s => readClientBody name (s.ahead.length + 1) call es s

/-- The statements of a client after their first token. -/
def clientBodyAfter (name : String) (call : Option Call) (es : List Expectation) (t : Token) :
    Reader Client :=
  match t.kind with
  | .closeBrace => give ⟨name, call.getD {}, es⟩
  | .tx =>
    match call with
    | some _ => fail (.faultAt (.secondTx name) t)
    | none => seq readCall fun call => clientBody name (some call) es
  | .expect => seq readExpect fun e => clientBody name call (es ++ [e])
  | .endOfScript => fail (unexpected .closeBrace .clientStanza t)
  | _ => fail (unexpected .clientStatement .clientStanza t)

theorem readClientBody_congr (name : String) {n m : ℕ} (call : Option Call)
    (es : List Expectation) (hs : s.Faces ts) (hn : ts.length ≤ n) (hm : ts.length ≤ m) :
    readClientBody name n call es s = readClientBody name m call es s := by
  induction n generalizing m call es s ts with
  | zero => exact absurd (List.length_eq_zero_iff.1 (Nat.le_zero.1 hn)) hs.ne_nil
  | succ n ih =>
    obtain ⟨bs, t, rest, rfl, hfirst, hrest⟩ := hs.exists_first
    rw [List.length_append, List.length_cons] at hn hm
    obtain ⟨m, rfl⟩ := Nat.exists_eq_add_of_le' (show 1 ≤ m by omega)
    -- A stanza that has been read leaves fewer tokens, so that neither bound is reached.
    simp only [readClientBody, hfirst]
    split
    · rfl
    · next hk =>
      rw [if_neg (by simp [hk])] at hrest
      cases call with
      | some call => rfl
      | none =>
        refine bind_congr_of_ok fun p hp => ?_
        obtain ⟨ts', hs', hle⟩ := reads_readCall.faces hrest hp
        exact ih _ _ hs' (by omega) (by omega)
    · next hk =>
      rw [if_neg (by simp [hk])] at hrest
      refine bind_congr_of_ok fun p hp => ?_
      obtain ⟨ts', hs', hle⟩ := reads_readExpect.faces hrest hp
      exact ih _ _ hs' (by omega) (by omega)
    · rfl
    · rfl

theorem clientBody_eq (name : String) (call : Option Call) (es : List Expectation)
    (hs : s.Faces ts) :
    clientBody name call es s = ask true (clientBodyAfter name call es) s := by
  obtain ⟨bs, t, rest, rfl, hfirst, hrest⟩ := hs.exists_first
  have hfuel := hs.length_le
  rw [List.length_append, List.length_cons] at hfuel
  simp only [clientBody, readClientBody, ask, clientBodyAfter, hfirst]
  cases hk : t.kind
  case expect =>
    rw [if_neg (by simp [hk])] at hrest
    refine bind_congr_of_ok fun p hp => ?_
    obtain ⟨ts', hs', hle⟩ := reads_readExpect.faces hrest hp
    exact readClientBody_congr name _ _ hs' (by omega) hs'.length_le
  case tx =>
    rw [if_neg (by simp [hk])] at hrest
    cases call with
    | some call => rfl
    | none =>
      refine bind_congr_of_ok fun p hp => ?_
      obtain ⟨ts', hs', hle⟩ := reads_readCall.faces hrest hp
      exact readClientBody_congr name _ _ hs' (by omega) hs'.length_le
  all_goals rfl

theorem completedBy_clientBody (name : String) (call : Option Call) (es : List Expectation) :
    ∀ t, t.symbol = ⟨.closeBrace, "\x7d"⟩ →
      CompletedBy anyKind (clientBodyAfter name call es t) [] [] := by
  intro t ht
  have hk : t.kind = .closeBrace := congrArg Symbol.kind ht
  simp only [clientBodyAfter, hk]
  exact (Reads.give 0 _).completed

/-- The statements of a client are read promptly. -/
theorem reads_clientBody (name : String) (call : Option Call) (es : List Expectation) :
    Reads n anyKind (clientBody name call es) [⟨.closeBrace, "\x7d"⟩] := by
  induction n using Nat.strongRecOn generalizing call es with
  | ind n ih =>
  refine .congr (fun hs => clientBody_eq name call es hs) (.ask (fun m hm t => ?_)
    spelled_closeBrace (List.forall_mem_nil _) (completedBy_clientBody name call es))
  have hbrace : Spelled [⟨.closeBrace, "\x7d"⟩] := by simpa [Spelled] using spelled_closeBrace
  unfold clientBodyAfter
  split
  · next hk => exact .inr ⟨by simp [hk], _, .give m _⟩
  · next hk =>
    cases call with
    | some call =>
      refine .inl ⟨_, rfl, ?_⟩
      rintro f u h
      cases h
      rfl
    | none =>
      -- The statements that follow the flags begin with a token, which is not the end.
      refine .inr ⟨by simp [hk], _, .seq_stop reads_readCall hbrace (fun call => ih m hm _ _)
        rfl ?_⟩
      rintro call p h
      cases h
  · next hk => exact .inr ⟨by simp [hk], _, .seq reads_readExpect hbrace fun e => ih m hm _ _⟩
  · exact .inl ⟨_, rfl, onlyAt_unexpected _ _ _⟩
  · exact .inl ⟨_, rfl, onlyAt_unexpected _ _ _⟩

theorem readClient_eq : readClient = seq (readKind .string .clientName .clientStanza) fun name =>
    seq (readKind .openBrace .openBrace .clientStanza) fun _ => clientBody name.text none [] := rfl

/-- The symbols of a shortest client, after its keyword. -/
def clientSymbols : List Symbol := [emptyString, ⟨.openBrace, "\x7b"⟩, ⟨.closeBrace, "\x7d"⟩]

/-- Clients are read promptly. -/
theorem reads_readClient : Reads n anyKind readClient clientSymbols := by
  rw [readClient_eq]
  refine .seq_one (reads_readKind spelled_emptyString _ _)
    (by simp [Spelled, spelled_openBrace, spelled_closeBrace]) fun name => ?_
  exact .seq_one (reads_readKind spelled_openBrace _ _)
    (by simp [Spelled, spelled_closeBrace]) fun _ => reads_clientBody name.text none []

end Stanzas

end ProxyTrial.Script
