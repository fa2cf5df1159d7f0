import ProxyTrial.Proofs.Script.Lexing
import Mathlib.Data.List.Induction
/-!
# The pieces of a script

The tokens of a script stand for pieces of it, one after another, that leave nothing out. A piece is
a run of blanks or of name characters that goes as far as it can, a string, a comment with the line
feed that ends it, or a single other character. What is left for the end of the script is nothing,
or a comment that no line feed ends.

## Main definitions

* `Scans piece rest k w`: a piece in front of `rest` is a token of kind `k` with the text `w`
* `Place.behind before`: the place of what stands behind `before`
* `Tiling p cs s`: the tokens of `s` stand for the pieces of `cs`, which starts at `p`
* `Lexer.nth l n`: the token that reading gives after `n` others

## Main results

* `scans_of_token?`: the token of a lexeme is that of its piece
* `tiling_ofText`: the tokens of a script stand for its pieces
* `Tiling.eq_ofLexemes`: no other tokens do
* `raw_tokens_tile`: reading gives the tokens of the pieces, then that of the end for ever
-/

namespace ProxyTrial.Script

/-! ## Places -/

/-- The place of what stands behind a text: a line more for each line feed, and a column more for
each character since the last of them. -/
def Place.behind (before : List Char) : Place :=
  ⟨1 + before.count '\n', 1 + (before.reverse.takeWhile (· != '\n')).length⟩

theorem Place.after_append (p : Place) (cs ds : List Char) :
    p.after (cs ++ ds) = (p.after cs).after ds :=
  List.foldl_append

theorem Place.after_start (before : List Char) : Place.start.after before = .behind before := by
  induction before using List.reverseRecOn with
  | nil => rfl
  | append_singleton cs c ih =>
    rw [Place.after_append, ih]
    by_cases hc : c = '\n'
    · simp [Place.after, Place.next, Place.behind, hc, Nat.add_assoc]
    · simp [Place.after, Place.next, Place.behind, hc, Nat.add_comm]

/-! ## Pieces -/

/-- Digits after an optional minus sign. -/
def IsNumeral (cs : List Char) : Prop :=
  ∃ digits, digits ≠ [] ∧ (∀ c ∈ digits, c.isDigit) ∧ (cs = digits ∨ cs = '-' :: digits)

/-- What a run of name characters is: a word of the language, else an integer, else nothing. -/
inductive IsWord (w : String) : Kind → Prop
  | keyword {k : Kind} : (w, k) ∈ keywords → IsWord w k
  | integer : (∀ k, (w, k) ∉ keywords) → IsNumeral w.toList → IsWord w .integer
  | illegal : (∀ k, (w, k) ∉ keywords) → ¬ IsNumeral w.toList → IsWord w .illegal

/-- A run of characters of one class in front of a character of another, or of nothing. -/
structure IsRun (p : Char → Bool) (piece rest : List Char) : Prop where
  ne_nil : piece ≠ []
  all : ∀ c ∈ piece, p c
  maximal : ∀ c ∈ rest.head?, p c = false

/-- A comment with the line feed that ends it. -/
def IsComment (piece : List Char) : Prop := ∃ text, '\n' ∉ text ∧ piece = '#' :: text ++ ['\n']

/-- A comment that no line feed ends. -/
def IsOpenComment (piece : List Char) : Prop := ∃ text, '\n' ∉ text ∧ piece = '#' :: text

/-- A piece in front of `rest` is a token of this kind with this text. -/
inductive Scans : (piece rest : List Char) → Kind → (text : String) → Prop
  | blank {piece rest : List Char} :
      IsRun isLayout piece rest → '\n' ∉ piece → Scans piece rest .blank " "
  | lineBreak {piece rest : List Char} :
      IsRun isLayout piece rest → '\n' ∈ piece → Scans piece rest .lineBreak "\n"
  | comment {piece rest : List Char} : IsComment piece → Scans piece rest .lineBreak "\n"
  | word {piece rest : List Char} {k : Kind} : IsRun isNameChar piece rest →
      IsWord (String.ofList piece) k → Scans piece rest k (String.ofList piece)
  | string {text rest : List Char} : '"' ∉ text →
      Scans ('"' :: text ++ ['"']) rest .string (String.ofList text)
  | openString {text : List Char} : '"' ∉ text →
      Scans ('"' :: text) [] .string (String.ofList text)
  | mark {c : Char} {rest : List Char} : isLayout c = false → isNameChar c = false → c ≠ '"' →
      c ≠ '#' → Scans [c] rest (markKind c) (String.ofList [c])

theorem isInteger_iff {cs : List Char} : isInteger cs ↔ IsNumeral cs := by
  unfold isInteger IsNumeral
  constructor
  · intro h
    simp only [Bool.and_eq_true, Bool.not_eq_true', List.isEmpty_eq_false_iff,
      List.all_eq_true] at h
    split at h
    · exact ⟨_, h.1, h.2, .inr rfl⟩
    · exact ⟨_, h.1, h.2, .inl rfl⟩
  · rintro ⟨digits, hne, hdigits, rfl | rfl⟩
    · -- A digit is no minus sign, so that there is no sign to be taken off.
      obtain ⟨d, ds, rfl⟩ := List.exists_cons_of_ne_nil hne
      have hd : d ≠ '-' := by
        rintro rfl
        exact absurd (hdigits '-' List.mem_cons_self) (by decide)
      simpa [hd] using hdigits
    · simpa [hne] using hdigits

theorem isWord_wordKind (w : String) : IsWord w (wordKind w) := by
  unfold wordKind
  split
  · next k hk =>
    obtain ⟨before, after, heq, -⟩ := List.lookup_eq_some_iff.1 hk
    exact .keyword (heq ▸ List.mem_append_right _ List.mem_cons_self)
  · next hnone =>
    have hno : ∀ k, (w, k) ∉ keywords := by
      intro k hk
      simpa using List.lookup_eq_none_iff.1 hnone _ hk
    split
    · next hint => exact .integer hno (isInteger_iff.1 hint)
    · next hint => exact .illegal hno fun hn => hint (isInteger_iff.2 hn)

/-! ## Lexemes as pieces -/

/-- The token of the lexeme at the start of a text is that of a piece; a lexeme without a token is
a comment, and nothing follows it. -/
theorem scans_of_token? (c : Char) (cs : List Char) (p : Place) :
    (∃ k w, (lexeme c cs).1.token? p = some ⟨k, w, p⟩ ∧
      Scans (lexeme c cs).1.chars (lexeme c cs).2 k w) ∨
    (lexeme c cs).1.token? p = none ∧ IsOpenComment (lexeme c cs).1.chars ∧
      (lexeme c cs).2 = [] := by
  have hfirst := firstLexeme c cs
  generalize (lexeme c cs).1 = l, (lexeme c cs).2 = rest at hfirst ⊢
  cases hfirst with
  | @layout _ run rest hc hall hrest =>
    have hrun : IsRun isLayout (c :: run) rest :=
      ⟨List.cons_ne_nil _ _, List.forall_mem_cons.2 ⟨hc, hall⟩, hrest⟩
    by_cases hn : '\n' ∈ c :: run
    · exact .inl ⟨_, _, if_pos (List.elem_eq_true_of_mem hn), .lineBreak hrun hn⟩
    · exact .inl ⟨_, _, if_neg (by simpa using hn), .blank hrun hn⟩
  | @word _ run rest hc hall hrest =>
    have hrun : IsRun isNameChar (c :: run) rest :=
      ⟨List.cons_ne_nil _ _, List.forall_mem_cons.2 ⟨hc, hall⟩, hrest⟩
    exact .inl ⟨_, _, rfl, .word hrun (isWord_wordKind _)⟩
  | string hn => exact .inl ⟨_, _, by simp [Lexeme.token?, stringText], .string hn⟩
  | openString hn => exact .inl ⟨_, _, by simp [Lexeme.token?, stringText], .openString hn⟩
  | @comment text _ hn => exact .inl ⟨_, _, rfl, .comment ⟨text, hn, rfl⟩⟩
  | openComment hn => exact .inr ⟨rfl, ⟨_, hn, rfl⟩, rfl⟩
  | mark hlayout hname hquote hhash =>
    exact .inl ⟨_, _, rfl, .mark hlayout hname hquote hhash⟩

/-! ## Tilings -/

/-- The tokens ahead in a stream stand for the pieces of a text that starts at a place, and the
stream ends where the text does. -/
inductive Tiling : Place → List Char → TokenStream → Prop
  | done (p : Place) : Tiling p [] ⟨[], p⟩
  | openComment {p : Place} {cs : List Char} : IsOpenComment cs → Tiling p cs ⟨[], p.after cs⟩
  | token {p : Place} {piece rest : List Char} {k : Kind} {w : String} {s : TokenStream} :
      Scans piece rest k w → Tiling (p.after piece) rest s →
      Tiling p (piece ++ rest) ⟨⟨k, w, p⟩ :: s.ahead, s.finish⟩

theorem tiling_lexemes (p : Place) (cs : List Char) :
    Tiling p cs (TokenStream.ofLexemes p (lexemes cs)) := by
  -- The induction is on the length of the text, of which a lexeme takes a character at least.
  induction hn : cs.length using Nat.strongRecOn generalizing p cs with
  | ind n ih =>
    subst hn
    cases cs with
    | nil => exact .done p
    | cons c cs =>
      have hrest := ih _ (Nat.lt_succ_of_le (length_lexeme_rest c cs))
        (p.after (lexeme c cs).1.chars) (lexeme c cs).2 rfl
      rw [lexemes_cons, TokenStream.ofLexemes]
      conv => arg 2; rw [← lexeme_append c cs]
      rcases scans_of_token? c cs p with ⟨k, w, ht, hs⟩ | ⟨ht, hopen, hnil⟩
      · rw [ht]
        exact .token hs hrest
      · rw [ht, hnil, List.append_nil]
        exact .openComment hopen

/-- The tokens of a script stand for its pieces. -/
theorem tiling_ofText (source : String) :
    Tiling Place.start source.toList (TokenStream.ofText source) :=
  tiling_lexemes _ _

theorem Scans.ne_nil {piece rest : List Char} {k : Kind} {w : String}
    (h : Scans piece rest k w) : piece ≠ [] := by
  cases h with
  | blank hrun _ => exact hrun.ne_nil
  | lineBreak hrun _ => exact hrun.ne_nil
  | comment hc =>
    obtain ⟨text, -, rfl⟩ := hc
    simp
  | word hrun _ => exact hrun.ne_nil
  | string _ => simp
  | openString _ => simp
  | mark _ _ _ _ => simp

/-! ### No other tokens -/

theorem IsWord.kind_eq {w : String} {k : Kind} (h : IsWord w k) : k = wordKind w := by
  cases h with
  | keyword hm => exact (keyword_spec hm).2.2.symm
  | integer _ hn => exact (wordKind_of_isInteger (isInteger_iff.2 hn)).symm
  | illegal hno hn =>
    have hnone : keywords.lookup w = none := by
      refine List.lookup_eq_none_iff.2 ?_
      rintro ⟨v, k⟩ he
      rw [bne_iff_ne]
      rintro rfl
      exact hno k he
    have hinteger : isInteger w.toList = false := Bool.eq_false_iff.2
      fun hi => hn (isInteger_iff.1 hi)
    rw [wordKind, hnone, hinteger]
    rfl

theorem lexeme_openComment {text : List Char} (hn : '\n' ∉ text) :
    lexeme '#' text = (⟨.comment false, '#' :: text⟩, []) :=
  (FirstLexeme.openComment hn).lexeme_eq

/-- A piece is the first lexeme of a text that begins with it, and its token is that of the
lexeme. -/
theorem Scans.lexeme_eq {piece rest : List Char} {k : Kind} {w : String}
    (h : Scans piece rest k w) : ∃ c cs l, piece ++ rest = c :: cs ∧ lexeme c cs = (l, rest) ∧
      l.chars = piece ∧ ∀ p, l.token? p = some ⟨k, w, p⟩ := by
  -- A run of blanks is one lexeme, whatever its token is.
  have hlayout : ∀ {piece : List Char}, IsRun isLayout piece rest →
      ∃ c cs, piece ++ rest = c :: cs ∧ lexeme c cs = (⟨.layout, piece⟩, rest) := by
    intro piece hrun
    obtain ⟨c, cs, rfl⟩ := List.exists_cons_of_ne_nil hrun.ne_nil
    obtain ⟨hc, hcs⟩ := List.forall_mem_cons.1 hrun.all
    exact ⟨c, cs ++ rest, rfl, (FirstLexeme.layout hc hcs hrun.maximal).lexeme_eq⟩
  cases h with
  | blank hrun hn =>
    obtain ⟨c, cs, hcs, hl⟩ := hlayout hrun
    exact ⟨c, cs, _, hcs, hl, rfl, fun p => if_neg (by simpa using hn)⟩
  | lineBreak hrun hn =>
    obtain ⟨c, cs, hcs, hl⟩ := hlayout hrun
    exact ⟨c, cs, _, hcs, hl, rfl, fun p => if_pos (List.elem_eq_true_of_mem hn)⟩
  | comment hc =>
    obtain ⟨text, hn, rfl⟩ := hc
    exact ⟨_, _, _, by simp, (FirstLexeme.comment hn).lexeme_eq, rfl, fun p => rfl⟩
  | word hrun hword =>
    obtain ⟨c, cs, rfl⟩ := List.exists_cons_of_ne_nil hrun.ne_nil
    obtain ⟨hc, hcs⟩ := List.forall_mem_cons.1 hrun.all
    refine ⟨c, cs ++ rest, _, rfl, (FirstLexeme.word hc hcs hrun.maximal).lexeme_eq, rfl,
      fun p => ?_⟩
    rw [hword.kind_eq]
    rfl
  | string hn =>
    exact ⟨_, _, _, by simp, (FirstLexeme.string hn).lexeme_eq, rfl,
      fun p => by simp [Lexeme.token?, stringText]⟩
  | openString hn =>
    exact ⟨_, _, _, by simp, (FirstLexeme.openString hn).lexeme_eq, rfl,
      fun p => by simp [Lexeme.token?, stringText]⟩
  | mark hlayout hname hquote hhash =>
    exact ⟨_, _, _, rfl, (FirstLexeme.mark hlayout hname hquote hhash).lexeme_eq, rfl,
      fun p => rfl⟩

/-- No other tokens stand for the pieces of a text than those that it has. -/
theorem Tiling.eq_ofLexemes {p : Place} {cs : List Char} {s : TokenStream} (h : Tiling p cs s) :
    s = TokenStream.ofLexemes p (lexemes cs) := by
  induction h with
  | done p => rfl
  | @openComment p cs hopen =>
    obtain ⟨text, hn, rfl⟩ := hopen
    rw [lexemes_cons, lexeme_openComment hn]
    rfl
  | @token p piece rest k w s hs _ ih =>
    obtain ⟨c, cs, l, hcs, hl, rfl, htoken⟩ := hs.lexeme_eq
    rw [hcs, lexemes_cons, hl, TokenStream.ofLexemes, htoken, ← ih]

/-! ### Pieces in a row -/

/-- The pieces for which the tokens ahead in a stream stand, and what is left at the end. -/
theorem Tiling.pieces {p : Place} {cs : List Char} {s : TokenStream} (h : Tiling p cs s) :
    ∃ (pieces : List (List Char)) (tail : List Char),
      pieces.flatten ++ tail = cs ∧ (tail = [] ∨ IsOpenComment tail) ∧
      pieces.length = s.ahead.length ∧ s.finish = p.after cs ∧
      ∀ before piece after, pieces = before ++ piece :: after →
        ∃ k w, Scans piece (after.flatten ++ tail) k w ∧
          s.ahead[before.length]? = some ⟨k, w, p.after before.flatten⟩ := by
  induction h with
  | done p => exact ⟨[], [], rfl, .inl rfl, rfl, rfl, by simp⟩
  | @openComment p cs hopen => exact ⟨[], cs, rfl, .inr hopen, rfl, rfl, by simp⟩
  | @token p piece rest k w s hs _ ih =>
    obtain ⟨pieces, tail, rfl, htail, hlen, hfinish, heach⟩ := ih
    refine ⟨piece :: pieces, tail, by simp, htail, by simp [hlen], ?_, ?_⟩
    · rw [hfinish, Place.after_append p]
    · rintro (_ | ⟨first, before⟩) other after he
      · obtain ⟨rfl, rfl⟩ := List.cons.inj he
        exact ⟨k, w, hs, rfl⟩
      · obtain ⟨rfl, rfl⟩ := List.cons.inj he
        obtain ⟨k', w', hs', hget⟩ := heach before other after rfl
        refine ⟨k', w', hs', ?_⟩
        rw [List.flatten_cons, Place.after_append]
        simpa using hget

/-! ## Reading -/

/-- The token that reading gives after `n` others. -/
def Lexer.nth (l : Lexer) : (n : Nat) → Token
  | 0 => l.next.1
  | n + 1 => l.next.2.nth n

/-- Reading gives the tokens ahead, then that of the end for ever. -/
theorem Lexer.nth_eq {l : Lexer} (h : l.pushedBack = none) (n : Nat) :
    l.nth n = l.stream.ahead[n]?.getD l.stream.endToken := by
  induction n generalizing l with
  | zero =>
    rw [Lexer.nth, Lexer.next, h, TokenStream.next]
    cases l.stream.ahead <;> rfl
  | succ n ih =>
    have hnext : l.next.2.pushedBack = none := by rw [Lexer.next, h]
    rw [Lexer.nth, ih hnext, Lexer.next, h]
    cases ha : l.stream.ahead with
    | nil => simp [TokenStream.next, ha]
    | cons t ts => simp [TokenStream.next, TokenStream.endToken, ha]

/-- A piece is a line break if it is a comment, or a run of blanks with a line feed in it. -/
theorem Scans.lineBreak_iff {piece rest : List Char} {k : Kind} {w : String}
    (h : Scans piece rest k w) :
    k = .lineBreak ↔ IsComment piece ∨ IsRun isLayout piece rest ∧ '\n' ∈ piece := by
  -- A piece that is something else begins with a character that begins no line break.
  have hother : ∀ {c : Char} {cs : List Char}, c ≠ '#' → isLayout c = false →
      ¬ (IsComment (c :: cs) ∨ IsRun isLayout (c :: cs) rest ∧ '\n' ∈ c :: cs) := by
    rintro c cs hhash hlayout (⟨text, -, he⟩ | ⟨hrun, -⟩)
    · exact hhash (List.cons.inj he).1
    · exact absurd (hrun.all c List.mem_cons_self) (by simp [hlayout])
  cases h with
  | blank hrun hn =>
    refine iff_of_false (by decide) ?_
    rintro (⟨text, -, rfl⟩ | ⟨-, hm⟩)
    · simp at hn
    · exact hn hm
  | lineBreak hrun hn => exact iff_of_true rfl (.inr ⟨hrun, hn⟩)
  | comment hc => exact iff_of_true rfl (.inl hc)
  | word hrun hword =>
    have hk : k ≠ .lineBreak := by
      cases hword with
      | keyword hm =>
        rintro rfl
        simp [keywords] at hm
      | integer _ _ => decide
      | illegal _ _ => decide
    obtain ⟨c, cs, rfl⟩ := List.exists_cons_of_ne_nil hrun.ne_nil
    have hc := hrun.all c List.mem_cons_self
    refine iff_of_false hk (hother ?_ (isLayout_of_isNameChar hc))
    rintro rfl
    exact absurd hc (by decide)
  | string _ => exact iff_of_false (by decide) (hother (by decide) (by decide))
  | openString _ => exact iff_of_false (by decide) (hother (by decide) (by decide))
  | @mark c _ hlayout _ _ hhash =>
    have hk : markKind c ≠ .lineBreak := by
      unfold markKind
      split <;> decide
    exact iff_of_false hk (hother hhash hlayout)

/-- The tokens that reading a script gives stand for consecutive pieces of it, each at the place
where its piece stands. What they leave out is nothing or a comment that the script ends in; there
reading gives the token of the end, and goes on giving it. -/
theorem raw_tokens_tile (source : String) :
    ∃ (pieces : List (List Char)) (tail : List Char),
      pieces.flatten ++ tail = source.toList ∧ (tail = [] ∨ IsOpenComment tail) ∧
      (∀ before piece after, pieces = before ++ piece :: after → piece ≠ [] ∧
        ∃ k w, Scans piece (after.flatten ++ tail) k w ∧ k ≠ .endOfScript ∧
          (k = .lineBreak ↔ IsComment piece ∨
            IsRun isLayout piece (after.flatten ++ tail) ∧ '\n' ∈ piece) ∧
          (Lexer.ofText source).nth before.length = ⟨k, w, .behind before.flatten⟩) ∧
      ∀ n, pieces.length ≤ n →
        (Lexer.ofText source).nth n = ⟨.endOfScript, "", .behind source.toList⟩ := by
  obtain ⟨pieces, tail, hsource, htail, hlen, hfinish, heach⟩ := (tiling_ofText source).pieces
  refine ⟨pieces, tail, hsource, htail, fun before piece after he => ?_, fun n hn => ?_⟩
  · obtain ⟨k, w, hs, hget⟩ := heach before piece after he
    rw [Place.after_start] at hget
    have hmem : ⟨k, w, .behind before.flatten⟩ ∈ (TokenStream.ofText source).ahead :=
      List.mem_of_getElem? hget
    refine ⟨hs.ne_nil, k, w, hs, kind_ne_endOfScript_of_mem_ofLexemes hmem,
      hs.lineBreak_iff, ?_⟩
    rw [Lexer.nth_eq rfl, show (Lexer.ofText source).stream = TokenStream.ofText source from rfl,
      hget]
    rfl
  · rw [hlen] at hn
    rw [Lexer.nth_eq rfl, show (Lexer.ofText source).stream = TokenStream.ofText source from rfl,
      List.getElem?_eq_none hn]
    simp [TokenStream.endToken, hfinish, Place.after_start]

end ProxyTrial.Script
