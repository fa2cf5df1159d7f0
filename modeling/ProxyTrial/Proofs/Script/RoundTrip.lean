import ProxyTrial.Proofs.Script.WellFormed
/-!
# What is written is read

The text of a well-formed script has symbols from which the grammar derives that script. It is put
together piece by piece; a piece has its symbols whatever follows it, a character of names aside.

## Main definitions

* `Spells w form`: the piece `w` has symbols of a form
* `Expectations xs l`: `expect` commands, one after the other

## Main results

* `scanned_stanza`: the symbols of a stanza
* `parse_written_roundtrip`: what is read is well-formed, and what is well-formed is read as it is
  written
-/

namespace ProxyTrial.Script

open Grammar

/-- A piece of a text has symbols of a form, whatever follows that is no name character. -/
def Spells (w : String) (form : List Symbol → Prop) : Prop :=
  ∃ xs, form xs ∧ ∀ rest, Avoids isNameChar rest → scanned (w.toList ++ rest) = xs ++ scanned rest

/-! ## Expectations -/

theorem scanned_quoted_string {s : String} (h : Plain s) (rest : List Char) :
    scanned ((quoted s).toList ++ rest) = ⟨.string, s⟩ :: scanned rest := by
  have hs := scanned_quoted h rest
  rw [String.ofList_toList] at hs
  simpa [quoted] using hs

theorem spells_side (side : Side) :
    Spells side.word fun xs => ∃ k, IsSide k side ∧ Lead k side.word xs := by
  cases side with
  | request => exact ⟨_, ⟨_, .request, .here⟩, fun _ => scanned_keyword (by decide)⟩
  | response => exact ⟨_, ⟨_, .response, .here⟩, fun _ => scanned_keyword (by decide)⟩

theorem spells_subject {subject : Subject} (h : ∀ name, subject = .header name → Plain name) :
    Spells (Subject.written subject) (IsSubject · subject) := by
  cases subject with
  | method => exact ⟨_, .method .here, fun _ => scanned_keyword (by decide)⟩
  | status => exact ⟨_, .status .here, fun _ => scanned_keyword (by decide)⟩
  | body => exact ⟨_, .body .here, fun _ => scanned_keyword (by decide)⟩
  | header name =>
    have hos : Lead .openBracket "[" [⟨.openBracket, "["⟩] := .here
    have hcs : Lead .closeBracket "]" [⟨.closeBracket, "]"⟩] := .here
    have hws : Lead .headers "headers" [⟨.headers, "headers"⟩] := .here
    refine ⟨_, .header hws hos .here hcs, fun rest _ => ?_⟩
    -- The name of the header stands in brackets and quotes, without blanks.
    have htext : (Subject.written (.header name)).toList ++ rest =
        "headers".toList ++ '[' :: ((quoted name).toList ++ ']' :: rest) := by
      simp [Subject.written, quoted]
    rw [htext, scanned_keyword (k := .headers) (by decide) (by simp [isNameChar]),
      scanned_mark (by decide), scanned_quoted_string (h name rfl), scanned_mark (by decide)]
    rfl

theorem spells_comparison {comparison : Comparison} {v : String}
    (h : ∀ p, comparison = .contains p → Pattern.ofText v = .ok p) :
    Spells comparison.word fun xs =>
      ∃ o, Compares o v comparison ∧ Lead o comparison.word xs := by
  cases comparison with
  | equal => exact ⟨_, ⟨_, .equal, .here⟩, fun _ => scanned_keyword (by decide)⟩
  | differs => exact ⟨_, ⟨_, .differs, .here⟩, fun _ => scanned_keyword (by decide)⟩
  | contains p =>
    refine ⟨_, ⟨_, .contains (h p rfl), .here⟩, fun rest _ => ?_⟩
    simpa [Comparison.word, markKind] using scanned_mark (c := '~') (by decide) rest

theorem spells_value {v written : String} (hv : Plain v)
    (h : written = quoted v ∨ isInteger v.toList ∧ written = v) :
    Spells written (IsValue · v written) := by
  rcases h with rfl | ⟨hi, rfl⟩
  · exact ⟨_, .string .here, fun rest _ => scanned_quoted_string hv rest⟩
  · exact ⟨_, .integer .here, fun _ => scanned_integer hi⟩

theorem spells_expectation {e : Expectation} (h : e.WellFormed) :
    Spells e.verbatim (Expecting · e) := by
  obtain ⟨written, hw, hverb⟩ : ∃ written,
      (written = quoted e.expected ∨ isInteger e.expected.toList ∧ written = e.expected) ∧
        e.verbatim = inOneLine e.side e.subject e.comparison.word written := by
    rcases h.verbatim with hv | ⟨hi, hv⟩
    · exact ⟨_, .inl rfl, hv⟩
    · exact ⟨_, .inr ⟨hi, rfl⟩, hv⟩
  obtain ⟨ss, ⟨k, hk, hls⟩, hss⟩ := spells_side e.side
  obtain ⟨us, hu, hus⟩ := spells_subject h.plain_name
  obtain ⟨os, ⟨o, hc, hlo⟩, hos⟩ := spells_comparison h.pattern
  obtain ⟨vs, hv, hvs⟩ := spells_value h.plain_expected hw
  have hds : Lead .dot "." [⟨.dot, "."⟩] := .here
  refine ⟨_, by simpa only [← hverb] using Expecting.mk hls hk hds hu hlo hc hv, fun rest hr => ?_⟩
  -- What is written, in the parts that are read one after the other.
  have htext : e.verbatim.toList ++ rest = e.side.word.toList ++ '.' ::
      ((Subject.written e.subject).toList ++ ' ' :: (e.comparison.word.toList ++ ' ' ::
        (written.toList ++ rest))) := by
    simp [hverb, inOneLine]
  rw [htext, hss _ (by simp [isNameChar]), scanned_mark (by decide), hus _ (by simp [isNameChar]),
    scanned_space, hos _ (by simp [isNameChar]), scanned_space, hvs _ hr]
  simp [markKind]

/-- `expect` commands, one after the other. -/
inductive Expectations : List Symbol → List Expectation → Prop
  | nil : Expectations [] []
  | cons {w : String} {ws es xs : List Symbol} {e : Expectation} {l : List Expectation} :
      Lead .expect w ws → Expecting es e → Expectations xs l →
      Expectations (ws ++ (es ++ xs)) (e :: l)

theorem Expectations.handlerBody {xs ys : List Symbol} {es l : List Expectation} {r : Reply}
    (h : Expectations xs es) (hb : HandlerBody ys l r) : HandlerBody (xs ++ ys) (es ++ l) r := by
  induction h with
  | nil => exact hb
  | cons hl he _ ih =>
    rw [List.append_assoc, List.append_assoc]
    exact .expect hl he ih

theorem Expectations.clientBody {xs ys : List Symbol} {es l : List Expectation} {c : Option Call}
    (h : Expectations xs es) (hb : ClientBody ys l c) : ClientBody (xs ++ ys) (es ++ l) c := by
  induction h with
  | nil => exact hb
  | cons hl he _ ih =>
    rw [List.append_assoc, List.append_assoc]
    exact .expect hl he ih

/-- The line of an expectation. -/
def expectLine (e : Expectation) : String := "  expect " ++ e.verbatim ++ "\n"

/-- Lines of expectations after a line break are commands, and a line break follows them. -/
theorem scanned_expectations {l : List Expectation} (h : ∀ e ∈ l, e.WellFormed) :
    ∃ xs, Expectations xs l ∧ ∀ rest,
      scanned ('\n' :: ((String.join (l.map expectLine)).toList ++ rest)) =
        xs ++ scanned ('\n' :: rest) := by
  induction l with
  | nil => exact ⟨[], .nil, fun rest => by simp⟩
  | cons e l ih =>
    rw [List.forall_mem_cons] at h
    obtain ⟨es, he, hes⟩ := spells_expectation h.1
    obtain ⟨xs, hx, hxs⟩ := ih h.2
    have hws : Lead .expect "expect" [⟨.lineBreak, "\n"⟩, ⟨.expect, "expect"⟩] := .lineBreak .here
    refine ⟨_, .cons hws he hx, fun rest => ?_⟩
    have htext : '\n' :: ((String.join ((e :: l).map expectLine)).toList ++ rest) =
        '\n' :: ' ' :: ' ' :: ("expect".toList ++ ' ' :: (e.verbatim.toList ++ '\n' ::
          ((String.join (l.map expectLine)).toList ++ rest))) := by
      simp [expectLine]
    rw [htext, scanned_lineFeed_space, scanned_lineFeed_space,
      scanned_lineFeed (by simp [isLayout]),
      scanned_keyword (k := .expect) (by decide) (by simp [isNameChar]), scanned_space,
      hes _ (by simp [isNameChar]), hxs]
    simp

/-! ## Flags -/

theorem ofDigits_toDigits (n : Nat) :
    Text.ofDigits 10 ((Nat.toDigits 10 n).map fun c => c.toNat - 48) = n := by
  have h := Nat.ofDigitChars_ten_toDigits (n := n)
  simpa [Text.ofDigits, Nat.ofDigitChars, List.foldl_map, Nat.mul_comm] using h

theorem forall_isDigit_toDigits (n : Nat) : ∀ c ∈ Nat.toDigits 10 n, c.isDigit :=
  fun _ => Nat.isDigit_of_mem_toDigits (by decide) (by decide)

/-- Digits have no sign before them. -/
theorem splitSign_toDigits (n : Nat) :
    Text.splitSign (Nat.toDigits 10 n) = (false, Nat.toDigits 10 n) :=
  Text.splitSign_of_notMem (fun hm => absurd (forall_isDigit_toDigits n _ hm) (by decide))
    (fun hm => absurd (forall_isDigit_toDigits n _ hm) (by decide))

theorem isInteger_of_isDigit {cs : List Char} (hne : cs ≠ []) (h : ∀ c ∈ cs, c.isDigit) :
    isInteger cs := by
  unfold isInteger
  split
  · exact absurd (h _ List.mem_cons_self) (by decide)
  · simpa [hne] using h

theorem isInteger_repr (n : Nat) : isInteger n.repr.toList := by
  rw [Nat.toList_repr]
  exact isInteger_of_isDigit Nat.toDigits_ne_nil (forall_isDigit_toDigits n)

theorem integerValue_repr {n : Nat} (h : n ≤ 999) : integerValue n.repr = .ok n := by
  have hlen : n.repr.toList.length ≤ 3 :=
    (Nat.length_repr_le_iff (by decide)).2 (Nat.lt_succ_of_le h)
  rw [Nat.toList_repr] at hlen
  have hlimit : ¬ (Nat.toDigits 10 n).length > Text.digitLimit := by
    simp only [Text.digitLimit]
    omega
  simp only [integerValue, Nat.toList_repr, splitSign_toDigits n,
    if_neg hlimit, ofDigits_toDigits]
  rfl

/-- A flag has its name as a symbol, and its value follows. -/
theorem scanned_flag {name : String} {k : Kind} (h : ("-" ++ name, k) ∈ keywords) (value : String)
    (rest : List Char) :
    scanned ((flag name value).toList ++ rest) =
      ⟨k, "-" ++ name⟩ :: scanned (value.toList ++ rest) := by
  have htext : (flag name value).toList ++ rest =
      ' ' :: (("-" ++ name).toList ++ ' ' :: (value.toList ++ rest)) := by
    simp [flag]
  rw [htext, scanned_space, scanned_keyword h (by simp [isNameChar]), scanned_space]

theorem scanned_string_flag {name value : String} {k : Kind} (h : ("-" ++ name, k) ∈ keywords)
    (hv : Plain value) (rest : List Char) :
    scanned ((flag name (quoted value)).toList ++ rest) =
      ⟨k, "-" ++ name⟩ :: ⟨.string, value⟩ :: scanned rest := by
  rw [scanned_flag h, scanned_quoted_string hv]

theorem avoids_flag (name value : String) (rest : List Char) :
    Avoids isNameChar ((flag name value).toList ++ rest) := by
  simp [flag, isNameChar]

/-- A header in one string is that header. -/
theorem isHeader_of_wellFormed {h : String × String} (hw : WellFormedHeader h) :
    IsHeader (h.1 ++ ": " ++ h.2) h.1 h.2 := by
  refine ⟨h.1.toList, ' ' :: h.2.toList, by simp, hw.colon_notMem_name, hw.trim_name.symm,
    hw.name_ne_empty, ?_⟩
  rw [Text.trimBy_cons_of_pos _ _ (by decide)]
  exact hw.trim_value.symm

/-- The symbols of the flags of headers. -/
def headerSymbols (hs : Headers) : List Symbol :=
  hs.flatMap fun h => [⟨.headerFlag, "-header"⟩, ⟨.string, h.1 ++ ": " ++ h.2⟩]

/-- What the flags of headers set. -/
def headerSettings (hs : Headers) : List Setting := hs.map fun h => .header h.1 h.2

theorem settings_headers {hs : Headers} (h : ∀ g ∈ hs, WellFormedHeader g) {xs : List Symbol}
    {l : List Setting} (hl : Settings xs l) :
    Settings (headerSymbols hs ++ xs) (headerSettings hs ++ l) := by
  induction hs with
  | nil => exact hl
  | cons g hs ih =>
    rw [List.forall_mem_cons] at h
    exact .cons (.header (isHeader_of_wellFormed h.1)) (ih h.2)

theorem headerFlags_cons (g : String × String) (hs : Headers) (rest : List Char) :
    (headerFlags (g :: hs)).toList ++ rest =
      (flag "header" (quoted (g.1 ++ ": " ++ g.2))).toList ++
        ((headerFlags hs).toList ++ rest) := by
  simp [headerFlags]

theorem avoids_headerFlags (hs : Headers) (name value : String) (rest : List Char) :
    Avoids isNameChar ((headerFlags hs).toList ++ ((flag name value).toList ++ rest)) := by
  cases hs with
  | nil => exact avoids_flag name value rest
  | cons g hs =>
    rw [headerFlags_cons]
    exact avoids_flag _ _ _

theorem scanned_headerFlags {hs : Headers} (h : ∀ g ∈ hs, WellFormedHeader g) (rest : List Char) :
    scanned ((headerFlags hs).toList ++ rest) = headerSymbols hs ++ scanned rest := by
  induction hs with
  | nil => simp [headerFlags, headerSymbols]
  | cons g hs ih =>
    rw [List.forall_mem_cons] at h
    have hplain : Plain (g.1 ++ ": " ++ g.2) := by
      simpa [Plain] using ⟨h.1.plain_name, h.1.plain_value⟩
    rw [headerFlags_cons, scanned_string_flag (k := .headerFlag) (by decide) hplain, ih h.2]
    rfl

/-- No header takes the place of another if their names differ. -/
theorem latest_of_distinct {hs : Headers}
    (h : List.Pairwise (fun g h => Text.lower g.1 ≠ Text.lower h.1) hs) : latest hs = hs := by
  induction hs with
  | nil => rfl
  | cons g hs ih =>
    rw [List.pairwise_cons] at h
    rw [latest, if_neg, ih h.2]
    rw [List.any_eq_true]
    rintro ⟨g', hg', he⟩
    exact h.1 g' hg' (beq_iff_eq.1 he).symm

theorem filterMap_headerSettings {α : Type} {value? : Setting → Option α}
    (h : ∀ name value, value? (.header name value) = none) (hs : Headers) :
    (headerSettings hs).filterMap value? = [] := by
  simp [headerSettings, h]

/-- What is no header is said before the headers or after them. -/
theorem filterMap_around_headers {α : Type} {value? : Setting → Option α}
    (h : ∀ name value, value? (.header name value) = none) (before : List Setting) (hs : Headers)
    (after : List Setting) :
    (before ++ (headerSettings hs ++ after)).filterMap value? =
      before.filterMap value? ++ after.filterMap value? := by
  rw [List.filterMap_append, List.filterMap_append, filterMap_headerSettings h, List.nil_append]

theorem filterMap_header?_headerSettings (hs : Headers) :
    (headerSettings hs).filterMap Setting.header? = hs := by
  simp [headerSettings, List.filterMap_map, Function.comp_def, Setting.header?]

theorem forall_mem_headerSettings {p : Setting → Prop} (h : ∀ name value, p (.header name value))
    (hs : Headers) : ∀ e ∈ headerSettings hs, p e := by
  intro e he
  obtain ⟨g, -, rfl⟩ := List.mem_map.1 he
  exact h g.1 g.2

/-- What is set to write a reply. -/
def replySettings (r : Reply) : List Setting :=
  .status r.status :: (headerSettings r.headers ++ [.body r.body])

theorem reply_replySettings {r : Reply} (h : r.WellFormed) : reply (replySettings r) = r := by
  -- The status and the body are set once, and the headers in their order.
  have hs : (replySettings r).filterMap Setting.status? = [r.status] :=
    filterMap_around_headers (fun _ _ => rfl) [.status r.status] r.headers [.body r.body]
  have hh : (replySettings r).filterMap Setting.header? = r.headers := by
    rw [replySettings, List.filterMap_cons, List.filterMap_append,
      filterMap_header?_headerSettings]
    exact List.append_nil _
  have hb : (replySettings r).filterMap Setting.body? = [r.body] :=
    filterMap_around_headers (fun _ _ => rfl) [.status r.status] r.headers [.body r.body]
  rw [reply, last, last, hs, hh, hb, latest_of_distinct h.headers.distinct]
  rfl

/-- The flags of a well-formed reply make it. -/
theorem spells_reply {r : Reply} (h : r.WellFormed) : Spells r.flags (Replies · r) := by
  -- A status in its bounds is a natural number, whose digits are read back.
  obtain ⟨n, hn⟩ := Int.eq_ofNat_of_zero_le (Int.le_trans (by decide) h.status_ge)
  have hcode : integerValue n.repr = .ok r.status := by
    have hle := h.status_le
    rw [hn]
    exact integerValue_repr (by omega)
  have hset : Settings _ (replySettings r) :=
    .cons (.status (f := "-status") hcode h.status_ge h.status_le)
      (settings_headers h.headers.each (.cons (.body (f := "-body") (v := r.body)) .nil))
  have hfor : ∀ e ∈ replySettings r, e.isForReply := by
    rw [replySettings, List.forall_mem_cons, List.forall_mem_append, List.forall_mem_singleton]
    exact ⟨rfl, forall_mem_headerSettings (fun _ _ => rfl) _, rfl⟩
  have hr : Replies _ (reply (replySettings r)) := .mk hset hfor
  rw [reply_replySettings h] at hr
  refine ⟨_, hr, fun rest hrest => ?_⟩
  have htext : r.flags.toList ++ rest = (flag "status" n.repr).toList ++
      ((headerFlags r.headers).toList ++ ((flag "body" (quoted r.body)).toList ++ rest)) := by
    rw [Reply.flags, hn, String.toList_append, String.toList_append, List.append_assoc,
      List.append_assoc]
    rfl
  rw [htext, scanned_flag (k := .statusFlag) (by decide),
    scanned_integer (isInteger_repr n) (avoids_headerFlags _ _ _ _),
    scanned_headerFlags h.headers.each,
    scanned_string_flag (k := .bodyFlag) (by decide) h.plain_body]
  simp

theorem avoids_replyFlags (r : Reply) (rest : List Char) :
    Avoids isNameChar (r.flags.toList ++ rest) := by
  simp [Reply.flags, flag, isNameChar]

theorem avoids_callFlags (c : Call) (rest : List Char) :
    Avoids isNameChar (c.flags.toList ++ rest) := by
  simp [Call.flags, flag, isNameChar]

/-- What is set to write a call. -/
def callSettings (c : Call) : List Setting :=
  .method c.method :: .target c.target :: (headerSettings c.headers ++ [.body c.body])

theorem call_callSettings {c : Call} (h : c.WellFormed) : call (callSettings c) = c := by
  -- The method, the target and the body are set once, and the headers in their order.
  have hm : (callSettings c).filterMap Setting.method? = [c.method] :=
    filterMap_around_headers (fun _ _ => rfl) [.method c.method, .target c.target] c.headers
      [.body c.body]
  have ht : (callSettings c).filterMap Setting.target? = [c.target] :=
    filterMap_around_headers (fun _ _ => rfl) [.method c.method, .target c.target] c.headers
      [.body c.body]
  have hh : (callSettings c).filterMap Setting.header? = c.headers := by
    rw [callSettings, List.filterMap_cons, List.filterMap_cons, List.filterMap_append,
      filterMap_header?_headerSettings]
    exact List.append_nil _
  have hb : (callSettings c).filterMap Setting.body? = [c.body] :=
    filterMap_around_headers (fun _ _ => rfl) [.method c.method, .target c.target] c.headers
      [.body c.body]
  rw [call, last, last, last, hm, ht, hh, hb, latest_of_distinct h.headers.distinct]
  rfl

/-- The flags of a well-formed call make it. -/
theorem spells_call {c : Call} (h : c.WellFormed) : Spells c.flags (Calls · c) := by
  have hset : Settings _ (callSettings c) :=
    .cons (.method (f := "-method") (v := c.method)) (.cons (.target (f := "-url") (v := c.target))
      (settings_headers h.headers.each (.cons (.body (f := "-body") (v := c.body)) .nil)))
  have hfor : ∀ e ∈ callSettings c, e.isForCall := by
    rw [callSettings, List.forall_mem_cons, List.forall_mem_cons, List.forall_mem_append,
      List.forall_mem_singleton]
    exact ⟨rfl, rfl, forall_mem_headerSettings (fun _ _ => rfl) _, rfl⟩
  have hc : Calls _ (call (callSettings c)) := .mk hset hfor
  rw [call_callSettings h] at hc
  refine ⟨_, hc, fun rest _ => ?_⟩
  have htext : c.flags.toList ++ rest = (flag "method" (quoted c.method)).toList ++
      ((flag "url" (quoted c.target)).toList ++ ((headerFlags c.headers).toList ++
        ((flag "body" (quoted c.body)).toList ++ rest))) := by
    simp only [Call.flags, String.toList_append, List.append_assoc]
  rw [htext, scanned_string_flag (k := .methodFlag) (by decide) h.plain_method,
    scanned_string_flag (k := .urlFlag) (by decide) h.plain_target,
    scanned_headerFlags h.headers.each,
    scanned_string_flag (k := .bodyFlag) (by decide) h.plain_body]
  simp

/-! ## Stanzas -/

/-- The symbols of a stanza: its head, its expectations, its `tx` command and its end, and the line
break after it. -/
theorem scanned_stanza {keyword title flags : String} {l : List Expectation} {k : Kind}
    {form : List Symbol → Prop} (hk : (keyword, k) ∈ keywords) (ht : Plain title)
    (hl : ∀ e ∈ l, e.WellFormed) (hf : Spells flags form)
    (havoid : ∀ rest, Avoids isNameChar (flags.toList ++ rest)) :
    ∃ xs fs, Expectations xs l ∧ form fs ∧ ∀ rest, Avoids isLayout rest →
      scanned ((stanza keyword title l flags).toList ++ rest) =
        ⟨k, keyword⟩ :: ⟨.string, title⟩ :: ⟨.openBrace, "\x7b"⟩ :: (xs ++ (⟨.lineBreak, "\n"⟩ ::
          ⟨.tx, "tx"⟩ :: (fs ++ (⟨.lineBreak, "\n"⟩ :: ⟨.closeBrace, "\x7d"⟩ ::
            ⟨.lineBreak, "\n"⟩ :: scanned rest)))) := by
  obtain ⟨xs, hx, hxs⟩ := scanned_expectations hl
  obtain ⟨fs, hform, hfs⟩ := hf
  refine ⟨xs, fs, hx, hform, fun rest hrest => ?_⟩
  -- The text from the left: head, lines of expectations, the line of `tx`, the closing brace.
  have htext : (stanza keyword title l flags).toList ++ rest = keyword.toList ++ ' ' ::
      ((quoted title).toList ++ ' ' :: '\x7b' :: '\n' ::
        ((String.join (l.map expectLine)).toList ++ ' ' :: ' ' :: ("tx".toList ++
          (flags.toList ++ '\n' :: '\x7d' :: '\n' :: rest)))) := by
    have hjoin : String.join (l.map fun e => "  expect " ++ e.verbatim ++ "\n") =
        String.join (l.map expectLine) := rfl
    simp [stanza, hjoin]
  rw [htext, scanned_keyword hk (by simp [isNameChar]), scanned_space, scanned_quoted_string ht,
    scanned_space, scanned_mark (by decide), hxs, scanned_lineFeed_space, scanned_lineFeed_space,
    scanned_lineFeed (by simp [isLayout]), scanned_keyword (k := .tx) (by decide) (havoid _),
    hfs _ (by simp [isNameChar]), scanned_lineFeed (by simp [isLayout]), scanned_mark (by decide),
    scanned_lineFeed hrest]
  simp [markKind]

theorem scanned_handler {h : Handler} (hw : h.WellFormed) :
    ∃ hs, IsHandler hs h ∧ ∀ rest, Avoids isLayout rest →
      scanned (h.written.toList ++ rest) =
        ⟨.handle, "handle"⟩ :: (hs ++ ⟨.lineBreak, "\n"⟩ :: scanned rest) := by
  have hk : ("handle", Kind.handle) ∈ keywords := by decide
  obtain ⟨xs, fs, hx, hf, hscan⟩ := scanned_stanza hk hw.plain_path
    hw.expectations (spells_reply hw.reply) (avoids_replyFlags h.reply)
  have hos : Lead .openBrace "\x7b" [⟨.openBrace, "\x7b"⟩] := .here
  have htx : Lead .tx "tx" [⟨.lineBreak, "\n"⟩, ⟨.tx, "tx"⟩] := .lineBreak .here
  have hcs : Lead .closeBrace "\x7d" [⟨.lineBreak, "\n"⟩, ⟨.closeBrace, "\x7d"⟩] := .lineBreak .here
  have hb := hx.handlerBody (.tx htx hf hcs)
  rw [List.append_nil] at hb
  refine ⟨_, .mk .here hw.slash hos hb, fun rest hrest => ?_⟩
  rw [Handler.written, hscan rest hrest]
  simp

theorem scanned_client {c : Client} (hw : c.WellFormed) :
    ∃ cs, IsClient cs c ∧ ∀ rest, Avoids isLayout rest →
      scanned (c.written.toList ++ rest) =
        ⟨.client, "client"⟩ :: (cs ++ ⟨.lineBreak, "\n"⟩ :: scanned rest) := by
  have hk : ("client", Kind.client) ∈ keywords := by decide
  obtain ⟨xs, fs, hx, hf, hscan⟩ := scanned_stanza hk hw.plain_name
    hw.expectations (spells_call hw.call) (avoids_callFlags c.call)
  have hos : Lead .openBrace "\x7b" [⟨.openBrace, "\x7b"⟩] := .here
  have htx : Lead .tx "tx" [⟨.lineBreak, "\n"⟩, ⟨.tx, "tx"⟩] := .lineBreak .here
  have hcs : Lead .closeBrace "\x7d" [⟨.lineBreak, "\n"⟩, ⟨.closeBrace, "\x7d"⟩] := .lineBreak .here
  -- The flags of the call end with their line.
  have hend : EndsFlags [⟨.lineBreak, "\n"⟩, ⟨.closeBrace, "\x7d"⟩] := Or.inl rfl
  have hb := hx.clientBody (.tx htx hf hend (.close hcs))
  rw [List.append_nil] at hb
  refine ⟨_, .mk .here hos hb, fun rest hrest => ?_⟩
  rw [Client.written, hscan rest hrest]
  simp

/-! ## Scripts -/

/-- The symbols of a text are stanzas and line breaks after them. -/
def ReadsAs (cs : List Char) (handlers : List Handler) (clients : List Client) : Prop :=
  Avoids isLayout cs ∧ ∃ ys bs, scanned cs = ys ++ bs ∧ Stanzas ys handlers clients ∧
    afterBreaks bs = []

/-- A line break may stand before stanzas. -/
theorem stanzas_lineBreak {ys bs : List Symbol} {handlers : List Handler} {clients : List Client}
    (b : String) (h : Stanzas ys handlers clients) (hb : afterBreaks bs = []) :
    ∃ ys' bs', ⟨.lineBreak, b⟩ :: (ys ++ bs) = ys' ++ bs' ∧ Stanzas ys' handlers clients ∧
      afterBreaks bs' = [] := by
  cases h with
  | nil => exact ⟨[], ⟨.lineBreak, b⟩ :: bs, rfl, .nil, by simpa [afterBreaks] using hb⟩
  | handle hl hh hs => exact ⟨_, bs, rfl, .handle hl.lineBreak hh hs, hb⟩
  | client hl hc hs => exact ⟨_, bs, rfl, .client hl.lineBreak hc hs, hb⟩

theorem ReadsAs.handle {cs : List Char} {h : Handler} {handlers : List Handler}
    {clients : List Client} (hr : ReadsAs cs handlers clients) (hw : h.WellFormed) :
    ReadsAs (h.written.toList ++ cs) (h :: handlers) clients := by
  obtain ⟨havoid, ys, bs, hscan, hs, hb⟩ := hr
  obtain ⟨xs, hh, hxs⟩ := scanned_handler hw
  obtain ⟨ys', bs', he, hs', hb'⟩ := stanzas_lineBreak "\n" hs hb
  have hl : Lead .handle "handle" [⟨.handle, "handle"⟩] := .here
  refine ⟨by simp [Handler.written, stanza, isLayout], _, bs', ?_, .handle hl hh hs', hb'⟩
  rw [hxs cs havoid, hscan, he]
  simp

theorem ReadsAs.client {cs : List Char} {c : Client} {handlers : List Handler}
    {clients : List Client} (hr : ReadsAs cs handlers clients) (hw : c.WellFormed) :
    ReadsAs (c.written.toList ++ cs) handlers (c :: clients) := by
  obtain ⟨havoid, ys, bs, hscan, hs, hb⟩ := hr
  obtain ⟨xs, hc, hxs⟩ := scanned_client hw
  obtain ⟨ys', bs', he, hs', hb'⟩ := stanzas_lineBreak "\n" hs hb
  have hl : Lead .client "client" [⟨.client, "client"⟩] := .here
  refine ⟨by simp [Client.written, stanza, isLayout], _, bs', ?_, .client hl hc hs', hb'⟩
  rw [hxs cs havoid, hscan, he]
  simp

theorem readsAs_clients {clients : List Client} (h : ∀ c ∈ clients, c.WellFormed) :
    ReadsAs (String.join (clients.map Client.written)).toList [] clients := by
  induction clients with
  | nil => exact ⟨by simp, [], [], by simp [scanned, lexemes, lexemesUpTo], .nil, rfl⟩
  | cons c clients ih =>
    rw [List.forall_mem_cons] at h
    have hr := (ih h.2).client h.1
    rwa [← String.toList_append, ← String.join_cons] at hr

theorem readsAs_handlers {handlers : List Handler} {clients : List Client} {cs : List Char}
    (hr : ReadsAs cs [] clients) (h : ∀ h ∈ handlers, h.WellFormed) :
    ReadsAs ((String.join (handlers.map Handler.written)).toList ++ cs) handlers clients := by
  induction handlers with
  | nil => simpa using hr
  | cons g handlers ih =>
    rw [List.forall_mem_cons] at h
    have hg := (ih h.2).handle h.1
    rwa [← List.append_assoc, ← String.toList_append, ← String.join_cons] at hg

/-- The grammar derives a well-formed script from what is written. -/
theorem derives_written {s : Script} (h : s.WellFormed) : Derives (symbols s.written) s := by
  obtain ⟨-, ys, bs, hscan, hs, hb⟩ := readsAs_handlers (readsAs_clients h.clients) h.handlers
  rw [symbols_eq_scanned, Script.written, String.toList_append, hscan, List.append_assoc]
  exact .mk hs (hs.ne_nil_iff.2 h.nonempty) (lead_endOfScript_iff.2 ⟨bs, rfl, hb⟩)

theorem wellFormed_of_parse {source : String} {s : Script} (h : parse source = .ok s) :
    s.WellFormed := by
  obtain ⟨xs, hs, hsymbols⟩ := holds_ofText source
  have hderives : Derives (symbols source) s := hsymbols ▸ (readStanzas_eq_ok_iff hs s).1 h
  exact wellFormed_of_derives hderives fun _ => proper_of_mem_symbols

/-- What is read is well-formed, and what is well-formed is read as it is written. Thus a script
that has been read is read again from its plainest text. -/
theorem parse_written_roundtrip :
    (∀ source s, parse source = .ok s → s.WellFormed) ∧
      (∀ s : Script, s.WellFormed → parse s.written = .ok s) ∧
      ∀ source s, parse source = .ok s → parse s.written = .ok s := by
  have hread : ∀ s : Script, s.WellFormed → parse s.written = .ok s := by
    intro s hs
    obtain ⟨xs, hholds, hsymbols⟩ := holds_ofText s.written
    exact (readStanzas_eq_ok_iff hholds s).2 (hsymbols ▸ derives_written hs)
  exact ⟨fun _ _ => wellFormed_of_parse, hread, fun _ s h => hread s (wellFormed_of_parse h)⟩

end ProxyTrial.Script
