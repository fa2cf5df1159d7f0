import ProxyTrial.Proofs.Script.Cursor
import ProxyTrial.Proofs.Script.Readers
import ProxyTrial.Proofs.Script.WellFormed
/-!
# Expectations as they are shown

A report shows an expectation in one line, however it is laid out in its script: with comments and
line breaks inside, or with a string that no quote ends. Reading that line gives the same
expectation, and nothing of the line is left. So an expectation that has been read is known from the
line alone.

Texts are read piece by piece here. Other than in the grammar, blanks count: the reader of a piece
leaves the very tokens of what stands behind the piece.

## Main definitions

* `IsPiece us rest k text`: characters in front of a rest are one token that readers take
* `ReadsPiece r us rest P`: a reader takes the characters, and what it gives has a property
* `Lexer.remaining`: what a lexer has ahead, the token that has been put back among it

## Main results

* `ReadsPiece.sequence`: readers put together take texts put together
* `readsPiece_expectation`: the line of an expectation is read as that expectation
* `readExpect_verbatim`: so it is for every expectation that has been read
-/

namespace ProxyTrial.Script

open TokenStream (skips)
open Grammar Reader

variable {α β : Type} {k : Kind} {w v text : String} {us vs rest : List Char} {p : Place}

/-! ## Pieces of a text -/

/-- The tokens of characters that start at a place. -/
def streamAt (p : Place) (cs : List Char) : TokenStream := TokenStream.ofLexemes p (lexemes cs)

/-- Characters in front of a rest are one token, which no reader passes over. -/
structure IsPiece (us rest : List Char) (k : Kind) (text : String) : Prop where
  not_skipped : skips true k = false
  scans : Scans us rest k text

theorem isPiece_word (hne : us ≠ []) (hus : ∀ c ∈ us, isNameChar c)
    (hk : wordKind (String.ofList us) = k) (hskip : skips true k = false)
    (hrest : Avoids isNameChar rest) : IsPiece us rest k (String.ofList us) where
  not_skipped := hskip
  scans := .word ⟨hne, hus, hrest⟩ (hk ▸ isWord_wordKind _)

theorem isPiece_keyword (h : (w, k) ∈ keywords) (hrest : Avoids isNameChar rest) :
    IsPiece w.toList rest k w := by
  have hall : ∀ e ∈ keywords, skips true e.2 = false := by decide
  obtain ⟨hne, hw, hk⟩ := keyword_spec h
  have hpiece := isPiece_word hne hw (by rwa [String.ofList_toList]) (hall _ h) hrest
  rwa [String.ofList_toList] at hpiece

theorem toList_ne_nil_of_isInteger (h : isInteger w.toList) : w.toList ≠ [] := by
  intro hnil
  rw [hnil] at h
  cases h

theorem isPiece_integer (h : isInteger w.toList) (hrest : Avoids isNameChar rest) :
    IsPiece w.toList rest .integer w := by
  have hpiece := isPiece_word (k := .integer) (toList_ne_nil_of_isInteger h)
    (isNameChar_of_isInteger h) (by rw [String.ofList_toList, wordKind_of_isInteger h]) rfl hrest
  rwa [String.ofList_toList] at hpiece

theorem isPiece_quoted (h : Plain w) (rest : List Char) :
    IsPiece (quoted w).toList rest .string w where
  not_skipped := rfl
  scans := by
    have hscans : Scans ('"' :: w.toList ++ ['"']) rest .string (String.ofList w.toList) :=
      .string h
    rw [String.ofList_toList] at hscans
    simpa [quoted] using hscans

/-- A mark is a token whatever follows it. -/
theorem isPiece_mark {c : Char} (hlayout : isLayout c = false) (hname : isNameChar c = false)
    (hquote : c ≠ '"') (hhash : c ≠ '#') (hskip : skips true (markKind c) = false)
    (rest : List Char) : IsPiece [c] rest (markKind c) (String.ofList [c]) where
  not_skipped := hskip
  scans := .mark hlayout hname hquote hhash

theorem isPiece_dot (rest : List Char) : IsPiece ['.'] rest .dot "." :=
  isPiece_mark rfl rfl (by decide) (by decide) rfl rest

theorem isPiece_openBracket (rest : List Char) : IsPiece ['['] rest .openBracket "[" :=
  isPiece_mark rfl rfl (by decide) (by decide) rfl rest

theorem isPiece_closeBracket (rest : List Char) : IsPiece [']'] rest .closeBracket "]" :=
  isPiece_mark rfl rfl (by decide) (by decide) rfl rest

theorem isPiece_tilde (rest : List Char) : IsPiece ['~'] rest .tilde "~" :=
  isPiece_mark rfl rfl (by decide) (by decide) rfl rest

/-- A piece has the first token, and what follows it the others. -/
theorem streamAt_of_scans (h : Scans us rest k text) (p : Place) :
    streamAt p (us ++ rest) = ⟨⟨k, text, p⟩ :: (streamAt (p.after us) rest).ahead,
      (streamAt (p.after us) rest).finish⟩ := by
  obtain ⟨c, cs, l, hcs, hl, rfl, htoken⟩ := h.lexeme_eq
  rw [streamAt, hcs, lexemes_cons, hl, TokenStream.ofLexemes, htoken]
  rfl

theorem IsPiece.significant (h : IsPiece us rest k text) (p : Place) :
    (streamAt p (us ++ rest)).significant true = (⟨k, text, p⟩, streamAt (p.after us) rest) := by
  rw [streamAt_of_scans h.scans, TokenStream.significant_of_not_skips (by exact h.not_skipped)]

/-- A blank is passed over. -/
theorem significant_space (hrest : Avoids isLayout rest) (p : Place) :
    (streamAt p (' ' :: rest)).significant true =
      (streamAt (p.next ' ') rest).significant true := by
  have hscans : Scans [' '] rest .blank " " := .blank ⟨by simp, by simp [isLayout], hrest⟩ (by simp)
  rw [← List.singleton_append, streamAt_of_scans hscans, TokenStream.significant_of_skips rfl]
  rfl

/-! ## Reading pieces -/

/-- In front of the rest a reader takes these characters, and leaves the rest; what it gives has a
property. -/
def ReadsPiece (r : Reader α) (us rest : List Char) (P : α → Prop) : Prop :=
  ∀ p, ∃ a, P a ∧ r (streamAt p (us ++ rest)) = .ok (a, streamAt (p.after us) rest)

variable {r : Reader α} {cont : α → Reader β} {P P' : α → Prop} {Q : β → Prop}

theorem ReadsPiece.give (a : α) (rest : List Char) : ReadsPiece (give a) [] rest (· = a) :=
  fun _ => ⟨a, rfl, rfl⟩

theorem ReadsPiece.mono (h : ReadsPiece r us rest P) (hP : ∀ a, P a → P' a) :
    ReadsPiece r us rest P' := by
  intro p
  obtain ⟨a, ha, hr⟩ := h p
  exact ⟨a, hP a ha, hr⟩

/-- A reader that asks for a token takes that of a piece first. -/
theorem ReadsPiece.asking {cont : Token → Reader β} (h : IsPiece us (vs ++ rest) k text)
    (hcont : ∀ p, ReadsPiece (cont ⟨k, text, p⟩) vs rest Q) :
    ReadsPiece (ask true cont) (us ++ vs) rest Q := by
  intro p
  obtain ⟨b, hb, heq⟩ := hcont p (p.after us)
  refine ⟨b, hb, ?_⟩
  rw [Reader.ask, List.append_assoc, h.significant, heq, Place.after_append]

/-- A reader that judges a token takes a piece. -/
theorem ReadsPiece.judging {judge : Token → Except ScriptError α} (h : IsPiece us rest k text)
    (hjudge : ∀ p, ∃ a, P a ∧ judge ⟨k, text, p⟩ = .ok a) :
    ReadsPiece (judged true judge) us rest P := by
  intro p
  obtain ⟨a, ha, heq⟩ := hjudge p
  refine ⟨a, ha, ?_⟩
  rw [judged_eq, h.significant, heq]
  rfl

/-- A reader that judges a token passes over a blank in front of it. -/
theorem ReadsPiece.space {judge : Token → Except ScriptError α}
    (h : ReadsPiece (judged true judge) us rest P) (hus : Avoids isLayout (us ++ rest)) :
    ReadsPiece (judged true judge) (' ' :: us) rest P := by
  intro p
  obtain ⟨a, ha, heq⟩ := h (p.next ' ')
  refine ⟨a, ha, ?_⟩
  rw [judged_eq] at heq ⊢
  rw [List.cons_append, significant_space hus]
  exact heq

/-- Readers put together take texts put together. -/
theorem ReadsPiece.sequence (hr : ReadsPiece r us (vs ++ rest) P)
    (hcont : ∀ a, P a → ReadsPiece (cont a) vs rest Q) :
    ReadsPiece (seq r cont) (us ++ vs) rest Q := by
  intro p
  obtain ⟨a, ha, heq⟩ := hr p
  obtain ⟨b, hb, heq'⟩ := hcont a ha (p.after us)
  refine ⟨b, hb, ?_⟩
  rw [Reader.seq, List.append_assoc, heq, ok_bind, heq', Place.after_append]

theorem ReadsPiece.map (hr : ReadsPiece r us rest P) (g : α → β) (hg : ∀ a, P a → Q (g a)) :
    ReadsPiece (seq r fun a => Reader.give (g a)) us rest Q := by
  intro p
  obtain ⟨a, ha, heq⟩ := hr p
  refine ⟨g a, hg a ha, ?_⟩
  rw [Reader.seq, heq]
  rfl

theorem readsPiece_readKind (h : IsPiece us rest k text) (wanted : Wanted)
    (construct : Construct) : ReadsPiece (readKind k wanted construct) us rest (·.text = text) := by
  rw [readKind_eq]
  exact .judging h fun p => ⟨⟨k, text, p⟩, rfl, if_pos rfl⟩

/-! ## The line of an expectation -/

theorem readsPiece_side (side : Side) (hrest : Avoids isNameChar rest) :
    ReadsPiece (judged true wantSide) side.word.toList rest (·.2 = side) := by
  cases side with
  | request =>
    exact .judging (isPiece_keyword (k := .req) (by decide) hrest) fun p => ⟨_, rfl, rfl⟩
  | response =>
    exact .judging (isPiece_keyword (k := .resp) (by decide) hrest) fun p => ⟨_, rfl, rfl⟩

/-- The name of a header stands in brackets and quotes. -/
theorem readsPiece_selector (side : String) {name : String} (h : Plain name) (rest : List Char) :
    ReadsPiece (readSelector side) (['['] ++ ((quoted name).toList ++ [']'])) rest (· = name) := by
  rw [readSelector_eq]
  refine .sequence (readsPiece_readKind (isPiece_openBracket _) _ _) fun _ _ => ?_
  refine .sequence (readsPiece_readKind (isPiece_quoted h _) _ _) fun t ht => ?_
  exact (readsPiece_readKind (isPiece_closeBracket _) _ _).map _ fun _ _ => ht

/-- A subject that is one word is read once its word has been. -/
theorem readsPiece_subject_word (side : String) {subject : Subject} (hk : (w, k) ∈ keywords)
    (hafter : ∀ p, subjectAfter side ⟨k, w, p⟩ = give subject) (hrest : Avoids isNameChar rest) :
    ReadsPiece (readSubject side) w.toList rest (· = subject) := by
  rw [readSubject_eq, ← List.append_nil w.toList]
  exact .asking (isPiece_keyword hk hrest) fun p => hafter p ▸ .give subject rest

theorem readsPiece_subject (side : String) {subject : Subject}
    (h : ∀ name, subject = .header name → Plain name) (hrest : Avoids isNameChar rest) :
    ReadsPiece (readSubject side) (Subject.written subject).toList rest (· = subject) := by
  cases subject with
  | method =>
    exact readsPiece_subject_word (w := "method") (k := .method) side (by decide) (fun _ => rfl)
      hrest
  | status =>
    exact readsPiece_subject_word (w := "status") (k := .status) side (by decide) (fun _ => rfl)
      hrest
  | body =>
    exact readsPiece_subject_word (w := "body") (k := .body) side (by decide) (fun _ => rfl) hrest
  | header name =>
    have htext : (Subject.written (.header name)).toList =
        "headers".toList ++ (['['] ++ ((quoted name).toList ++ [']'])) := by
      simp [Subject.written, quoted]
    rw [htext, readSubject_eq]
    have hbracket : ∀ cs, Avoids isNameChar (['['] ++ cs ++ rest) := fun _ => (avoids_cons ..).2 rfl
    refine .asking (isPiece_keyword (k := .headers) (by decide) (hbracket _)) fun p => ?_
    exact (readsPiece_selector side (h name rfl) rest).map _ fun a ha => congrArg Subject.header ha

theorem readsPiece_comparison {comparison : Comparison} (v : String)
    (h : ∀ p, comparison = .contains p → Pattern.ofText v = .ok p)
    (hrest : Avoids isNameChar rest) :
    ReadsPiece (judged true wantOperator) comparison.word.toList rest
      fun t => t.text = comparison.word ∧ Compares t.kind v comparison := by
  cases comparison with
  | equal =>
    exact .judging (isPiece_keyword (k := .eq) (by decide) hrest) fun p => ⟨_, ⟨rfl, .equal⟩, rfl⟩
  | differs =>
    exact .judging (isPiece_keyword (k := .ne) (by decide) hrest) fun p =>
      ⟨_, ⟨rfl, .differs⟩, rfl⟩
  | contains p =>
    have htilde : (Comparison.contains p).word.toList = ['~'] := by simp [Comparison.word]
    rw [htilde]
    exact .judging (isPiece_tilde _) fun q => ⟨_, ⟨rfl, .contains (h p rfl)⟩, rfl⟩

theorem readsPiece_expected (side : Side) (subject : Subject) {comparison : Comparison}
    {operator : Token} {written : String} (ho : Compares operator.kind v comparison) (hv : Plain v)
    (h : written = quoted v ∨ isInteger v.toList ∧ written = v) (hrest : Avoids isNameChar rest) :
    ReadsPiece (judged true (wantExpected side subject operator)) written.toList rest
      (· = { side, subject, comparison, expected := v,
             verbatim := inOneLine side subject operator.text written }) := by
  have hcompared : ∀ k p, comparisonOf operator ⟨k, v, p⟩ = .ok comparison := fun k p =>
    (comparisonOf_complete (v := ⟨k, v, p⟩) ho).2
  rcases h with rfl | ⟨hi, rfl⟩
  · refine .judging (isPiece_quoted hv rest) fun p => ⟨_, rfl, ?_⟩
    simp only [wantExpected, writtenValue, hcompared, ok_bind]
    rfl
  · refine .judging (isPiece_integer hi hrest) fun p => ⟨_, rfl, ?_⟩
    simp only [wantExpected, writtenValue, hcompared, ok_bind]
    rfl

/-- What the line of an expectation is put together from. -/
theorem toList_inOneLine (side : Side) (subject : Subject) (operator written : String) :
    (inOneLine side subject operator written).toList = side.word.toList ++ (['.'] ++
      ((Subject.written subject).toList ++
        ((' ' :: operator.toList) ++ (' ' :: written.toList)))) := by
  simp [inOneLine]

theorem avoids_isLayout_comparison (comparison : Comparison) (rest : List Char) :
    Avoids isLayout (comparison.word.toList ++ rest) := by
  cases comparison <;> simp [Comparison.word, isLayout]

theorem avoids_isLayout_written {written : String}
    (h : written = quoted v ∨ isInteger v.toList ∧ written = v) (rest : List Char) :
    Avoids isLayout (written.toList ++ rest) := by
  rcases h with rfl | ⟨hi, rfl⟩
  · simp [quoted, isLayout]
  · have hname := isNameChar_of_isInteger hi
    obtain ⟨c, cs, hcs⟩ := List.exists_cons_of_ne_nil (toList_ne_nil_of_isInteger hi)
    rw [hcs] at hname ⊢
    exact (avoids_cons ..).2 (isLayout_of_isNameChar (hname c List.mem_cons_self))

/-- The line of a well-formed expectation is read as that expectation. -/
theorem readsPiece_expectation {e : Expectation} (h : e.WellFormed)
    (hrest : Avoids isNameChar rest) : ReadsPiece readExpect e.verbatim.toList rest (· = e) := by
  obtain ⟨written, hwritten, hverbatim⟩ : ∃ written,
      (written = quoted e.expected ∨ isInteger e.expected.toList ∧ written = e.expected) ∧
        e.verbatim = inOneLine e.side e.subject e.comparison.word written := by
    rcases h.verbatim with hq | ⟨hi, hq⟩
    · exact ⟨_, .inl rfl, hq⟩
    · exact ⟨_, .inr ⟨hi, rfl⟩, hq⟩
  -- A blank or a dot follows each of the words but the last, which the rest follows.
  have hblank : ∀ cs, Avoids isNameChar (' ' :: cs) := fun _ => (avoids_cons ..).2 rfl
  rw [hverbatim, toList_inOneLine, readExpect_eq]
  refine .sequence (readsPiece_side e.side ((avoids_cons ..).2 rfl)) fun side hside => ?_
  refine .sequence (readsPiece_readKind (isPiece_dot _) _ _) fun _ _ => ?_
  refine .sequence (readsPiece_subject _ h.plain_name (hblank _)) fun subject hsubject => ?_
  refine .sequence ((readsPiece_comparison e.expected h.pattern (hblank _)).space
    (avoids_isLayout_comparison _ _)) fun operator hoperator => ?_
  obtain ⟨htext, hcompares⟩ := hoperator
  refine ((readsPiece_expected side.2 subject hcompares h.plain_expected hwritten hrest).space
    (avoids_isLayout_written hwritten _)).mono fun a ha => ?_
  rw [ha, hside, hsubject, htext, ← hverbatim]

/-! ## What a lexer has ahead -/

/-- Tokens are what is left of a script after some of it. -/
structure TokenStream.RestOf (source : String) (s : TokenStream) : Prop where
  ahead : s.ahead <:+ (TokenStream.ofText source).ahead
  finish : s.finish = (TokenStream.ofText source).finish

namespace TokenStream

variable {source : String} {s : TokenStream}

theorem restOf_ofText (source : String) : (ofText source).RestOf source := ⟨List.suffix_rfl, rfl⟩

theorem RestOf.next (h : s.RestOf source) : s.next.2.RestOf source := by
  obtain ⟨ahead, finish⟩ := s
  cases ahead with
  | nil => exact h
  | cons t ts => exact ⟨(List.suffix_cons t ts).trans h.ahead, h.finish⟩

/-- The end is not among the tokens ahead. -/
theorem RestOf.kind_ne (h : s.RestOf source) {t : Token} (ht : t ∈ s.ahead) :
    t.kind ≠ .endOfScript :=
  kind_ne_endOfScript_of_mem_ofLexemes (h.ahead.subset ht)

/-- A token that has been read can be put back. -/
theorem RestOf.putBack_next (h : s.RestOf source) : s.next.2.putBack s.next.1 = s := by
  obtain ⟨ahead, finish⟩ := s
  cases ahead with
  | nil => exact if_pos rfl
  | cons t ts => exact if_neg (h.kind_ne List.mem_cons_self)

end TokenStream

namespace Lexer

/-- What a lexer has ahead, the token that has been put back among it. -/
def remaining (l : Lexer) : TokenStream :=
  match l.pushedBack with
  | none => l.stream
  | some t => l.stream.putBack t

/-- The lexer after requests. -/
def after (l : Lexer) (rs : List Request) : Lexer := rs.foldl (fun l r => (l.respond r).2) l

/-- A lexer reads a script: it has a rest of it ahead, and the token it has kept is the one in front
of that rest. -/
structure ReadsScript (source : String) (l : Lexer) : Prop where
  stream : l.stream.RestOf source
  kept : ∀ t, l.last = some t ∨ l.pushedBack = some t →
    (l.stream.putBack t).RestOf source ∧ (l.stream.putBack t).next = (t, l.stream)

variable {source : String} {l : Lexer}

theorem readsScript_ofText (source : String) : (ofText source).ReadsScript source where
  stream := TokenStream.restOf_ofText source
  kept := by
    rintro t (h | h)
    · cases h
    · cases h

theorem ReadsScript.remaining (h : l.ReadsScript source) : l.remaining.RestOf source := by
  rw [Lexer.remaining]
  split
  · exact h.stream
  · next t ht => exact (h.kept t (.inr ht)).1

/-- A token is the first of what is ahead. -/
theorem ReadsScript.next_eq (h : l.ReadsScript source) :
    l.next = (l.remaining.next.1, ⟨l.remaining.next.2, some l.remaining.next.1, none⟩) := by
  rw [Lexer.next, Lexer.remaining]
  cases hback : l.pushedBack with
  | none => rfl
  | some t => simp only [(h.kept t (.inr hback)).2]

theorem ReadsScript.next (h : l.ReadsScript source) : l.next.2.ReadsScript source := by
  rw [h.next_eq]
  refine ⟨h.remaining.next, ?_⟩
  rintro t (ht | ht)
  · cases ht
    have hback := h.remaining.putBack_next
    exact ⟨hback.symm ▸ h.remaining, congrArg TokenStream.next hback⟩
  · cases ht

theorem ReadsScript.past (h : l.ReadsScript source) (n : ℕ) : (l.past n).ReadsScript source := by
  induction n generalizing l with
  | zero => exact h
  | succ n ih => exact ih h.next

/-- A request leaves a lexer that reads the script. -/
theorem ReadsScript.respond (h : l.ReadsScript source) (r : Request) :
    (l.respond r).2.ReadsScript source := by
  cases r with
  | next => exact h.next
  | significant b =>
    obtain ⟨j, -, -, heq⟩ := l.nextSignificant_eq b
    rw [Lexer.respond, heq]
    exact h.past (j + 1)
  | unread =>
    rw [Lexer.respond, Lexer.unread]
    split
    · exact h
    · next t ht =>
      refine ⟨h.stream, ?_⟩
      rintro u (hu | hu)
      · cases hu
      · cases hu
        exact h.kept t (.inl ht)

theorem ReadsScript.after (h : l.ReadsScript source) (rs : List Request) :
    (l.after rs).ReadsScript source := by
  induction rs generalizing l with
  | nil => exact h
  | cons r rs ih => exact ih (h.respond r)

/-- A lexer gives the tokens that are no layout of what it has ahead. -/
theorem ReadsScript.nextSignificant_eq (h : l.ReadsScript source) (b : Bool) :
    (l.nextSignificant b).1 = (l.remaining.significant b).1 ∧
      (l.nextSignificant b).2.remaining = (l.remaining.significant b).2 := by
  rw [nextSignificant_loop, TokenStream.significant_loop, h.next_eq]
  split
  · rw [nextSignificant_of_pushedBack rfl]
    exact ⟨rfl, rfl⟩
  · exact ⟨rfl, rfl⟩

end Lexer

/-! ## Reading what has been read -/

/-- The symbols of a rest of a script have texts that their kinds allow. -/
theorem TokenStream.RestOf.proper {source : String} {s : TokenStream} (h : s.RestOf source) :
    ∀ x ∈ symbolsOf s.ahead, x.Proper := by
  intro x hx
  obtain ⟨xs, hxs, hsymbols⟩ := holds_ofText source
  have hsub : symbolsOf s.ahead ⊆ xs := by
    rw [← hxs.symbolsOf_ahead, symbolsOf, symbolsOf]
    exact List.map_subset _ (h.ahead.filter _).subset
  exact proper_of_mem_symbols (hsymbols ▸ List.mem_append_left _ (hsub hx))

theorem TokenStream.RestOf.holds {source : String} {s : TokenStream} (h : s.RestOf source) :
    s.Holds (symbolsOf s.ahead) where
  inside _ := h.kind_ne
  symbolsOf_ahead := rfl

theorem wellFormed_of_readExpect {source : String} {s s' : TokenStream} {e : Expectation}
    (hs : s.RestOf source) (h : readExpect s = .ok (e, s')) : e.WellFormed := by
  obtain ⟨xs, rest, heq, hexpecting, -⟩ := readExpect_sound hs.holds h
  refine hexpecting.wellFormed fun x hx => hs.proper x ?_
  rw [heq]
  exact List.mem_append_left _ hx

/-- An expectation that a lexer has given, whatever has been read and put back before, is read again
from the line that reports show, up to the end of that line. So there is one expectation with such
a line. -/
theorem readExpect_verbatim {source : String} {rs : List Lexer.Request} {e : Expectation}
    {s : TokenStream} (h : readExpect ((Lexer.ofText source).after rs).remaining = .ok (e, s)) :
    readExpect (TokenStream.ofText e.verbatim) =
        .ok (e, ⟨[], Place.start.after e.verbatim.toList⟩) ∧
      ∀ source' rs' e' s',
        readExpect ((Lexer.ofText source').after rs').remaining = .ok (e', s') →
          (e'.verbatim = e.verbatim → e' = e) ∧ (e'.shown = e.shown → e' = e) := by
  have hread : ∀ {source rs e s},
      readExpect ((Lexer.ofText source).after rs).remaining = .ok (e, s) →
        readExpect (TokenStream.ofText e.verbatim) =
          .ok (e, ⟨[], Place.start.after e.verbatim.toList⟩) := by
    intro source rs e s h
    have hrest := ((Lexer.readsScript_ofText source).after rs).remaining
    obtain ⟨_, rfl, heq⟩ :=
      readsPiece_expectation (wellFormed_of_readExpect hrest h) (avoids_nil _) Place.start
    rw [List.append_nil] at heq
    exact heq
  have hverbatim : ∀ source' rs' e' s',
      readExpect ((Lexer.ofText source').after rs').remaining = .ok (e', s') →
        e'.verbatim = e.verbatim → e' = e := by
    intro source' rs' e' s' h' hsame
    have heq := hread h
    rw [← hsame, hread h'] at heq
    cases heq
    rfl
  refine ⟨hread h, fun source' rs' e' s' h' => ⟨hverbatim source' rs' e' s' h', fun hshown => ?_⟩⟩
  refine hverbatim source' rs' e' s' h' ?_
  simpa [Expectation.shown] using hshown

/-- An expectation over three lines with a comment, read after a blank has been put back, and one
with brackets and a line break in the name of its header, whose string no quote ends. -/
theorem readExpect_verbatim_layouts :
    let l := (Lexer.ofText "expect resp # side\n .\nstatus eq \"204\" \x7d").after
      [.significant true, .next, .unread]
    let l' := (Lexer.ofText "resp.headers[ \"a].\n#\"]~\"x+").after []
    ∃ e s e' s', readExpect l.remaining = .ok (e, s) ∧ readExpect l'.remaining = .ok (e', s') ∧
      e.verbatim = "resp.status eq \"204\"" ∧ e'.verbatim = "resp.headers[\"a].\n#\"] ~ \"x+\"" ∧
      readExpect (TokenStream.ofText e.verbatim) =
        .ok (e, ⟨[], Place.start.after e.verbatim.toList⟩) ∧
      readExpect (TokenStream.ofText e'.verbatim) =
        .ok (e', ⟨[], Place.start.after e'.verbatim.toList⟩) := by
  intro l l'
  obtain ⟨⟨e, s⟩, he, hverbatim⟩ := map_eq_ok.1 (show (readExpect l.remaining).map
    (·.1.verbatim) = .ok "resp.status eq \"204\"" by decide +kernel)
  obtain ⟨⟨e', s'⟩, he', hverbatim'⟩ := map_eq_ok.1 (show (readExpect l'.remaining).map
    (·.1.verbatim) = .ok "resp.headers[\"a].\n#\"] ~ \"x+\"" by decide +kernel)
  exact ⟨e, s, e', s', he, he', hverbatim, hverbatim', (readExpect_verbatim he).1,
    (readExpect_verbatim he').1⟩

end ProxyTrial.Script
