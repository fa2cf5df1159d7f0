import ProxyTrial.Proofs.Script.Prompt
import ProxyTrial.Proofs.Script.Tiling
/-!
# Texts that go on differently

A text can be cut before each of its tokens. Behind a blank it then goes on with any other text: the
tokens before the cut are as they were, at their places, and those of the other text follow. Only
a string has to be closed that is open to the end of the text.

## Main definitions

* `Lexeme.Fits l rest`: a lexeme ends where other characters begin
* `tokensAt p cs`: the tokens of characters that start at a place
* `layoutTokens p lay`: those of blanks and line feeds
* `GoesOn p us ds`: characters with the tokens `us`, whatever follows a blank behind them

## Main results

* `lexeme_of_fits`: a lexeme is the same in front of other characters
* `exists_text_of_tokens`: a text can be cut before each of its tokens
-/

namespace ProxyTrial.Script

open TokenStream (skips)

/-! ## Lexemes in front of other characters -/

/-- A lexeme ends where these characters begin: they do not belong to it, and it needs no more. -/
def Lexeme.Fits (l : Lexeme) (rest : List Char) : Prop :=
  match l.kind with
  | .layout => Avoids isLayout rest
  | .word => Avoids isNameChar rest
  | .string closed => closed
  | .comment closed => closed
  | .mark => True

theorem Lexeme.Fits.congr {l : Lexeme} {rest rest' : List Char} (h : l.Fits rest)
    (hhead : rest'.head? = rest.head?) : l.Fits rest' := by
  have havoids : ∀ p : Char → Bool, Avoids p rest → Avoids p rest' := by
    intro p hp
    rwa [Avoids, hhead]
  obtain ⟨kind, chars⟩ := l
  cases kind
  case layout => exact havoids _ h
  case word => exact havoids _ h
  all_goals exact h

/-- A blank or a line feed ends every lexeme but a run of those. -/
theorem Lexeme.Fits.layout {l : Lexeme} {rest : List Char} (h : l.Fits rest)
    (hl : l.kind ≠ .layout) {c : Char} (hc : isLayout c) (es : List Char) : l.Fits (c :: es) := by
  obtain ⟨kind, chars⟩ := l
  cases kind
  case layout => exact absurd rfl hl
  case word =>
    refine (avoids_cons ..).2 (Bool.eq_false_iff.2 fun hname => ?_)
    rw [isLayout_of_isNameChar hname] at hc
    cases hc
  all_goals exact h

theorem kind_lexeme_ne_layout {c : Char} (h : isLayout c = false) (cs : List Char) :
    (lexeme c cs).1.kind ≠ .layout := by
  have hfirst := firstLexeme c cs
  generalize (lexeme c cs).1 = l, (lexeme c cs).2 = rest at hfirst ⊢
  cases hfirst with
  | layout hc _ _ => exact absurd (hc.symm.trans h) (by decide)
  | _ => simp

/-- A lexeme ends where the next one begins, unless it is open to the end. -/
theorem fits_lexeme (c : Char) (cs : List Char) :
    (lexeme c cs).1.Fits (lexeme c cs).2 ∨ (lexeme c cs).2 = [] ∧
      ((∃ text, '"' ∉ text ∧ (lexeme c cs).1 = ⟨.string false, '"' :: text⟩) ∨
        ∃ text, '\n' ∉ text ∧ (lexeme c cs).1 = ⟨.comment false, '#' :: text⟩) := by
  have hfirst := firstLexeme c cs
  generalize (lexeme c cs).1 = l, (lexeme c cs).2 = rest at hfirst ⊢
  cases hfirst with
  | layout _ _ hrest => exact .inl hrest
  | word _ _ hrest => exact .inl hrest
  | string _ => exact .inl rfl
  | openString hn => exact .inr ⟨rfl, .inl ⟨_, hn, rfl⟩⟩
  | comment _ => exact .inl rfl
  | openComment hn => exact .inr ⟨rfl, .inr ⟨_, hn, rfl⟩⟩
  | mark _ _ _ _ => exact .inl trivial

/-- A lexeme is the same in front of other characters where it ends. -/
theorem lexeme_of_fits {c : Char} {cs rest : List Char} (h : (lexeme c cs).1.Fits rest) :
    ∃ tail, (lexeme c cs).1.chars = c :: tail ∧
      lexeme c (tail ++ rest) = ((lexeme c cs).1, rest) := by
  have hfirst := firstLexeme c cs
  generalize (lexeme c cs).1 = l, (lexeme c cs).2 = rest' at hfirst h ⊢
  cases hfirst with
  | @layout _ run _ hc hrun _ => exact ⟨run, rfl, (FirstLexeme.layout hc hrun h).lexeme_eq⟩
  | @word _ run _ hc hrun _ => exact ⟨run, rfl, (FirstLexeme.word hc hrun h).lexeme_eq⟩
  | @string text _ hn =>
    refine ⟨text ++ ['"'], rfl, ?_⟩
    rw [List.append_assoc]
    exact (FirstLexeme.string hn).lexeme_eq
  | @comment text _ hn =>
    refine ⟨text ++ ['\n'], rfl, ?_⟩
    rw [List.append_assoc]
    exact (FirstLexeme.comment hn).lexeme_eq
  -- Where a string or a comment is open there is no end.
  | openString _ | openComment _ => cases h
  | mark hlayout hname hquote hhash =>
    exact ⟨[], rfl, (FirstLexeme.mark hlayout hname hquote hhash).lexeme_eq⟩

/-! ## Tokens in front of other characters -/

variable {us : List Token} {xs : List Symbol}

/-- The tokens of characters that start at a place, as a reader meets them that heeds line
breaks. -/
def tokensAt (p : Place) (cs : List Char) : List Token :=
  (TokenStream.ofLexemes p (lexemes cs)).filtered false

theorem tokensAt_nil (p : Place) : tokensAt p [] = [⟨.endOfScript, "", p⟩] := rfl

/-- The first lexeme has the first token, unless it is a blank or an open comment. -/
theorem tokensAt_cons (p : Place) (c : Char) (cs : List Char) :
    tokensAt p (c :: cs) =
      (((lexeme c cs).1.token? p).filter fun t => !skips false t.kind).toList ++
      tokensAt (p.after (lexeme c cs).1.chars) (lexeme c cs).2 := by
  rw [tokensAt, lexemes_cons, TokenStream.ofLexemes]
  cases (lexeme c cs).1.token? p with
  | none => rfl
  | some t =>
    cases ht : skips false t.kind <;>
      simp [TokenStream.filtered, tokensAt, TokenStream.endToken, Option.filter_some, ht]

/-- A lexeme has the same token in front of other characters where it ends. -/
theorem tokensAt_of_fits {c : Char} {cs rest : List Char} (p : Place)
    (h : (lexeme c cs).1.Fits rest) : tokensAt p ((lexeme c cs).1.chars ++ rest) =
      (((lexeme c cs).1.token? p).filter fun t => !skips false t.kind).toList ++
        tokensAt (p.after (lexeme c cs).1.chars) rest := by
  obtain ⟨tail, hchars, hlexeme⟩ := lexeme_of_fits h
  conv_lhs => rw [hchars, List.cons_append, tokensAt_cons, hlexeme]

/-- The tokens of blanks and line feeds, together: one if there is a line feed. -/
def layoutTokens (p : Place) (lay : List Char) : List Token :=
  if '\n' ∈ lay then [⟨.lineBreak, "\n", p⟩] else []

theorem kind_of_mem_layoutTokens {p : Place} {lay : List Char} {t : Token}
    (h : t ∈ layoutTokens p lay) : t.kind = .lineBreak := by
  unfold layoutTokens at h
  split at h
  · rw [List.mem_singleton.1 h]
  · cases h

theorem tokensAt_layout {lay rest : List Char} (p : Place) (hlay : ∀ c ∈ lay, isLayout c)
    (hrest : Avoids isLayout rest) :
    tokensAt p (lay ++ rest) = layoutTokens p lay ++ tokensAt (p.after lay) rest := by
  cases lay with
  | nil => rfl
  | cons c lay =>
    obtain ⟨hc, hlay⟩ := List.forall_mem_cons.1 hlay
    have hlexeme : lexeme c (lay ++ rest) = (⟨.layout, c :: lay⟩, rest) :=
      (FirstLexeme.layout hc hlay hrest).lexeme_eq
    rw [List.cons_append, tokensAt_cons, hlexeme, Lexeme.token?, layoutTokens]
    simp only [List.contains_iff_mem]
    split <;> rfl

theorem map_symbol_tokensAt (p : Place) (cs : List Char) :
    (tokensAt p cs).map Token.symbol = scanned cs ++ [⟨.endOfScript, ""⟩] := by
  rw [tokensAt, TokenStream.filtered, List.map_append, scanned, ← symbolsOf_ofLexemes p]
  rfl

/-- A text that goes on with other characters after its first tokens. -/
def GoesOn (p : Place) (us : List Token) (ds : List Char) : Prop :=
  ∀ es, Avoids isLayout es → ∃ vs, tokensAt p (ds ++ ' ' :: es) = us ++ vs ∧
    vs.map Token.symbol = scanned es ++ [⟨.endOfScript, ""⟩]

theorem goesOn_nil (p : Place) : GoesOn p [] [] := by
  intro es _
  refine ⟨tokensAt p (' ' :: es), rfl, ?_⟩
  rw [map_symbol_tokensAt, scanned_space]

section GoesOn

variable {p : Place} {c : Char} {cs ds : List Char}

/-- A lexeme in front. -/
theorem GoesOn.cons (h : GoesOn (p.after (lexeme c cs).1.chars) us ds)
    (hfits : ∀ es, (lexeme c cs).1.Fits (ds ++ ' ' :: es)) :
    GoesOn p ((((lexeme c cs).1.token? p).filter fun t => !skips false t.kind).toList ++ us)
      ((lexeme c cs).1.chars ++ ds) := by
  intro es hes
  obtain ⟨vs, hvs, hsymbols⟩ := h es hes
  refine ⟨vs, ?_, hsymbols⟩
  rw [List.append_assoc, tokensAt_of_fits p (hfits es), hvs, List.append_assoc]

/-- A line break in front; the blank that follows belongs to it. -/
theorem goesOn_layout (hc : isLayout c) (hbreak : '\n' ∈ c :: cs.takeWhile isLayout) :
    GoesOn p [⟨.lineBreak, "\n", p⟩] (c :: cs.takeWhile isLayout) := by
  intro es hes
  have hall : ∀ d ∈ (c :: cs.takeWhile isLayout) ++ [' '], isLayout d := by
    intro d hd
    rcases List.mem_append.1 hd with hd | hd
    · rcases List.mem_cons.1 hd with rfl | hd
      · exact hc
      · exact List.mem_takeWhile_imp hd
    · obtain rfl := List.mem_singleton.1 hd
      rfl
  refine ⟨_, ?_, map_symbol_tokensAt (p.after ((c :: cs.takeWhile isLayout) ++ [' '])) es⟩
  rw [List.append_cons, tokensAt_layout p hall hes, layoutTokens,
    if_pos (List.mem_append_left [' '] hbreak)]

/-- An open string in front; it is closed. -/
theorem goesOn_string {text : List Char} (hn : '"' ∉ text) :
    GoesOn p [⟨.string, String.ofList text, p⟩] ('"' :: text ++ ['"']) := by
  intro es hes
  have hlexeme : lexeme '"' (text ++ ['"'] ++ ' ' :: es) =
      (⟨.string true, '"' :: (text ++ ['"'])⟩, ' ' :: es) := by
    rw [List.append_assoc]
    exact (FirstLexeme.string hn).lexeme_eq
  refine ⟨tokensAt (p.after ('"' :: (text ++ ['"']))) (' ' :: es), ?_,
    by rw [map_symbol_tokensAt, scanned_space]⟩
  rw [List.cons_append, List.cons_append, tokensAt_cons, hlexeme]
  simp [Lexeme.token?, stringText, skips, Option.filter_some]

theorem head?_lexeme_append (c : Char) (cs ds : List Char) :
    ((lexeme c cs).1.chars ++ ds).head? = some c := by
  obtain ⟨d, chars, hchars⟩ := List.exists_cons_of_ne_nil (lexeme_chars_ne_nil c cs)
  have happend := lexeme_append c cs
  rw [hchars] at happend ⊢
  exact congrArg some (List.cons.inj happend).1

/-- A text can be cut after its first lexeme if that has a token. -/
theorem exists_goesOn_singleton {t : Token}
    (h : ((lexeme c cs).1.token? p).filter (fun t => !skips false t.kind) = some t) :
    ∃ ds, ds.head? = some c ∧ GoesOn p [t] ds := by
  -- The text is cut behind the lexeme, or, where a string goes to its end, behind a quote that
  -- closes it.
  rcases fits_lexeme c cs with hfits | ⟨-, ⟨text, hn, hl⟩ | ⟨text, -, hl⟩⟩
  · cases hlayout : isLayout c with
    | true =>
      have hl : (lexeme c cs).1 = ⟨.layout, c :: cs.takeWhile isLayout⟩ := by
        rw [lexeme, if_pos hlayout]
      by_cases hbreak : '\n' ∈ c :: cs.takeWhile isLayout
      · have htoken : Lexeme.token? ⟨.layout, c :: cs.takeWhile isLayout⟩ p =
            some ⟨.lineBreak, "\n", p⟩ := if_pos (List.elem_eq_true_of_mem hbreak)
        rw [hl, htoken] at h
        obtain rfl := Option.some.inj h
        exact ⟨c :: cs.takeWhile isLayout, rfl, goesOn_layout hlayout hbreak⟩
      · have htoken : Lexeme.token? ⟨.layout, c :: cs.takeWhile isLayout⟩ p =
            some ⟨.blank, " ", p⟩ := if_neg (by simpa using hbreak)
        rw [hl, htoken] at h
        cases h
    | false =>
      have hcons := GoesOn.cons (p := p) (goesOn_nil _)
        (hfits.layout (kind_lexeme_ne_layout hlayout cs) rfl)
      rw [h] at hcons
      exact ⟨_, head?_lexeme_append c cs [], hcons⟩
  · have hhead := head?_lexeme_append c cs []
    rw [hl] at h hhead
    obtain rfl := Option.some.inj h
    exact ⟨'"' :: text ++ ['"'], hhead, goesOn_string hn⟩
  · rw [hl] at h
    cases h

end GoesOn

/-- A text can be cut before each of its tokens and goes on with any other text after a blank. Only
a string has to be closed that is open to the end. -/
theorem exists_text_of_tokens {p : Place} {cs : List Char} {us : List Token} {t : Token}
    {rest : List Token} (h : tokensAt p cs = us ++ t :: rest) :
    ∃ ds : List Char, (us ≠ [] → ds.head? = cs.head?) ∧ GoesOn p us ds := by
  induction hn : cs.length using Nat.strongRecOn generalizing p cs us with
  | ind n ih =>
  cases us with
  | nil => exact ⟨[], fun hne => absurd rfl hne, goesOn_nil p⟩
  | cons u us =>
    cases cs with
    | nil =>
      have hlength := congrArg List.length h
      simp [tokensAt_nil] at hlength
    | cons c cs =>
      have hlt : (lexeme c cs).2.length < n := by
        rw [← hn, List.length_cons]
        exact Nat.lt_succ_of_le (length_lexeme_rest c cs)
      -- The lexeme is the same if what follows it begins as before.
      have hcons : ∀ {us}, us ≠ [] →
          tokensAt (p.after (lexeme c cs).1.chars) (lexeme c cs).2 = us ++ t :: rest →
          ∃ ds, ds.head? = some c ∧ GoesOn p ((((lexeme c cs).1.token? p).filter
            fun t => !skips false t.kind).toList ++ us) ds := by
        intro us hne htokens
        obtain ⟨ds, hds, hgoes⟩ := ih _ hlt htokens rfl
        refine ⟨_, head?_lexeme_append c cs ds, hgoes.cons fun es => ?_⟩
        cases hcs : (lexeme c cs).2 with
        | nil =>
          rw [hcs, tokensAt_nil] at htokens
          have hlength := congrArg List.length htokens
          have hpos := List.length_pos_iff.2 hne
          simp only [List.length_append, List.length_cons, List.length_nil] at hlength
          omega
        | cons d rest' =>
          rcases fits_lexeme c cs with hfits | ⟨hnil, -⟩
          · refine hfits.congr ?_
            rw [List.head?_append, hds hne, hcs]
            rfl
          · cases hcs.symm.trans hnil
      rw [tokensAt_cons] at h
      cases hfirst : ((lexeme c cs).1.token? p).filter fun t => !skips false t.kind with
      | none =>
        rw [hfirst] at h hcons
        obtain ⟨ds, hds, hgoes⟩ := hcons (List.cons_ne_nil u us) h
        exact ⟨ds, fun _ => hds, hgoes⟩
      | some v =>
        rw [hfirst] at h
        obtain ⟨rfl, htokens⟩ := List.cons.inj (show v :: _ = u :: (us ++ t :: rest) from h)
        by_cases hus : us = []
        · subst hus
          obtain ⟨ds, hds, hgoes⟩ := exists_goesOn_singleton hfirst
          exact ⟨ds, fun _ => hds, hgoes⟩
        · obtain ⟨ds, hds, hgoes⟩ := hcons hus htokens
          rw [hfirst] at hgoes
          exact ⟨ds, fun _ => hds, hgoes⟩

theorem exists_text_of_spelled (h : Spelled xs) : ∃ es, Avoids isLayout es ∧ scanned es = xs := by
  induction xs with
  | nil => exact ⟨[], avoids_nil _, rfl⟩
  | cons x xs ih =>
    obtain ⟨hx, hxs⟩ := List.forall_mem_cons.1 h
    obtain ⟨es, -, rfl⟩ := ih hxs
    obtain ⟨c, w, hc, hscanned⟩ := hx.text
    exact ⟨c :: (w ++ ' ' :: es), (avoids_cons ..).2 hc, hscanned es⟩

end ProxyTrial.Script
