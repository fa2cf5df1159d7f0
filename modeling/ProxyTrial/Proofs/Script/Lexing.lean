import ProxyTrial.Proofs.Script.Symbol
/-!
# From characters to symbols

The symbols of a text are found lexeme by lexeme, and no lexeme depends on the place where it
stands. Thus a text that begins with a blank, a word, a string or a mark has its symbol first, and
then the symbols of what follows.

## Main definitions

* `FirstLexeme c cs l rest`: the first lexeme of `c :: cs` is `l`, and `rest` is behind it
* `scanned cs`: the symbols of the characters `cs`, without the end
* `Symbol.Proper`: a symbol has a text that its kind allows

## Main results

* `firstLexeme`: what the first lexeme of a text is
* `symbols_eq_scanned`: the symbols of a text are those of its characters
* `proper_of_mem_symbols`: all of them are proper
* `scanned_layout`, `scanned_word`, `scanned_quoted`, `scanned_mark`: the first symbol of a text
-/

namespace ProxyTrial.Script

/-! ## The first lexeme -/

/-- A list does not begin with an element that satisfies `p`. -/
def Avoids (p : Char → Bool) (cs : List Char) : Prop := ∀ c ∈ cs.head?, p c = false

@[simp] theorem avoids_nil (p : Char → Bool) : Avoids p [] := by simp [Avoids]

@[simp] theorem avoids_cons (p : Char → Bool) (c : Char) (cs : List Char) :
    Avoids p (c :: cs) ↔ p c = false := by simp [Avoids]

theorem avoids_dropWhile (p : Char → Bool) (cs : List Char) : Avoids p (cs.dropWhile p) := by
  intro c hc
  have hhead := List.head?_dropWhile_not p cs
  rw [Option.mem_def.1 hc] at hhead
  simpa using hhead

theorem takeWhile_append_avoids {p : Char → Bool} {w rest : List Char} (hw : ∀ c ∈ w, p c)
    (hr : Avoids p rest) : (w ++ rest).takeWhile p = w := by
  rw [List.takeWhile_append_of_pos hw]
  cases rest with
  | nil => simp
  | cons d rest => simp [(avoids_cons ..).1 hr]

theorem dropWhile_append_avoids {p : Char → Bool} {w rest : List Char} (hw : ∀ c ∈ w, p c)
    (hr : Avoids p rest) : (w ++ rest).dropWhile p = rest := by
  rw [List.dropWhile_append_of_pos hw]
  cases rest with
  | nil => rfl
  | cons d rest => simp [(avoids_cons ..).1 hr]

/-- The characters of a class at the start of a text, and what is behind them. -/
theorem exists_run (p : Char → Bool) (cs : List Char) :
    ∃ run rest, cs = run ++ rest ∧ (∀ c ∈ run, p c) ∧ Avoids p rest :=
  ⟨cs.takeWhile p, cs.dropWhile p, List.takeWhile_append_dropWhile.symm,
    fun _ => List.mem_takeWhile_imp, avoids_dropWhile p cs⟩

theorem isLayout_of_isNameChar {c : Char} (h : isNameChar c) : isLayout c = false := by
  by_contra hl
  simp only [isLayout, Bool.not_eq_false, Bool.or_eq_true, beq_iff_eq] at hl
  rcases hl with ((rfl | rfl) | rfl) | rfl <;> simp [isNameChar] at h

theorem upTo_append_cons {stop : Char} {before : List Char} (h : stop ∉ before) (rest : List Char) :
    upTo stop (before ++ stop :: rest) = (before ++ [stop], true, rest) := by
  induction before with
  | nil => simp [upTo]
  | cons c cs ih =>
    rw [List.mem_cons, not_or] at h
    simp [upTo, Ne.symm h.1, ih h.2]

theorem upTo_of_notMem {stop : Char} {cs : List Char} (h : stop ∉ cs) :
    upTo stop cs = (cs, false, []) := by
  induction cs with
  | nil => rfl
  | cons c cs ih =>
    rw [List.mem_cons, not_or] at h
    simp [upTo, Ne.symm h.1, ih h.2]

/-- The first lexeme of the text `c :: cs`, and what is behind it: blanks or name characters as far
as they go, a string or a comment, closed or open to the end, or a single other character. -/
inductive FirstLexeme : (c : Char) → (cs : List Char) → Lexeme → (rest : List Char) → Prop
  | layout {c : Char} {run rest : List Char} : isLayout c → (∀ d ∈ run, isLayout d) →
      Avoids isLayout rest → FirstLexeme c (run ++ rest) ⟨.layout, c :: run⟩ rest
  | word {c : Char} {run rest : List Char} : isNameChar c → (∀ d ∈ run, isNameChar d) →
      Avoids isNameChar rest → FirstLexeme c (run ++ rest) ⟨.word, c :: run⟩ rest
  | string {text rest : List Char} : '"' ∉ text →
      FirstLexeme '"' (text ++ '"' :: rest) ⟨.string true, '"' :: (text ++ ['"'])⟩ rest
  | openString {text : List Char} : '"' ∉ text →
      FirstLexeme '"' text ⟨.string false, '"' :: text⟩ []
  | comment {text rest : List Char} : '\n' ∉ text →
      FirstLexeme '#' (text ++ '\n' :: rest) ⟨.comment true, '#' :: (text ++ ['\n'])⟩ rest
  | openComment {text : List Char} : '\n' ∉ text →
      FirstLexeme '#' text ⟨.comment false, '#' :: text⟩ []
  | mark {c : Char} {rest : List Char} : isLayout c = false → isNameChar c = false → c ≠ '"' →
      c ≠ '#' → FirstLexeme c rest ⟨.mark, [c]⟩ rest

theorem FirstLexeme.lexeme_eq {c : Char} {cs rest : List Char} {l : Lexeme}
    (h : FirstLexeme c cs l rest) : lexeme c cs = (l, rest) := by
  unfold lexeme
  cases h with
  | layout hc hrun hrest =>
    rw [if_pos hc, takeWhile_append_avoids hrun hrest, dropWhile_append_avoids hrun hrest]
  | word hc hrun hrest =>
    rw [isLayout_of_isNameChar hc, if_neg (by simp), if_pos hc, takeWhile_append_avoids hrun hrest,
      dropWhile_append_avoids hrun hrest]
  | string hn => rw [if_neg (by decide), if_neg (by decide), if_pos rfl, upTo_append_cons hn]
  | openString hn => rw [if_neg (by decide), if_neg (by decide), if_pos rfl, upTo_of_notMem hn]
  | comment hn =>
    rw [if_neg (by decide), if_neg (by decide), if_neg (by decide), if_pos rfl, upTo_append_cons hn]
  | openComment hn =>
    rw [if_neg (by decide), if_neg (by decide), if_neg (by decide), if_pos rfl, upTo_of_notMem hn]
  | mark hlayout hname hquote hhash =>
    rw [hlayout, hname, if_neg (by simp), if_neg (by simp), if_neg hquote, if_neg hhash]

/-- Every text that is not empty has a first lexeme. -/
theorem firstLexeme (c : Char) (cs : List Char) :
    FirstLexeme c cs (lexeme c cs).1 (lexeme c cs).2 := by
  suffices h : ∃ l rest, FirstLexeme c cs l rest by
    obtain ⟨l, rest, h⟩ := h
    rwa [h.lexeme_eq]
  by_cases hlayout : isLayout c
  · obtain ⟨run, rest, rfl, hrun, hrest⟩ := exists_run isLayout cs
    exact ⟨_, _, .layout hlayout hrun hrest⟩
  by_cases hname : isNameChar c
  · obtain ⟨run, rest, rfl, hrun, hrest⟩ := exists_run isNameChar cs
    exact ⟨_, _, .word hname hrun hrest⟩
  by_cases hquote : c = '"'
  · subst hquote
    by_cases hclosed : '"' ∈ cs
    · obtain ⟨text, rest, rfl, hn⟩ := List.eq_append_cons_of_mem hclosed
      exact ⟨_, _, .string hn⟩
    · exact ⟨_, _, .openString hclosed⟩
  by_cases hhash : c = '#'
  · subst hhash
    by_cases hclosed : '\n' ∈ cs
    · obtain ⟨text, rest, rfl, hn⟩ := List.eq_append_cons_of_mem hclosed
      exact ⟨_, _, .comment hn⟩
    · exact ⟨_, _, .openComment hclosed⟩
  exact ⟨_, _, .mark (by simpa using hlayout) (by simpa using hname) hquote hhash⟩

/-! ## Lexeme by lexeme -/

theorem lexemesUpTo_congr {n m : Nat} {cs : List Char} (hn : cs.length ≤ n) (hm : cs.length ≤ m) :
    lexemesUpTo n cs = lexemesUpTo m cs := by
  induction n generalizing m cs with
  | zero =>
    obtain rfl : cs = [] := List.length_eq_zero_iff.1 (by omega)
    cases m <;> rfl
  | succ n ih =>
    cases cs with
    | nil => cases m <;> rfl
    | cons c cs =>
      obtain ⟨m, rfl⟩ : ∃ k, m = k + 1 := ⟨m - 1, by simp only [List.length_cons] at hm; omega⟩
      -- The first lexeme takes a character at least, so that either fuel suffices for the rest.
      have hrest := length_lexeme_rest c cs
      simp only [List.length_cons] at hn hm
      simp only [lexemesUpTo]
      rw [ih (by omega : _ ≤ n) (by omega : _ ≤ m)]

theorem lexemes_cons (c : Char) (cs : List Char) :
    lexemes (c :: cs) = (lexeme c cs).1 :: lexemes (lexeme c cs).2 := by
  rw [lexemes, List.length_cons, lexemesUpTo]
  exact congrArg _ (lexemesUpTo_congr (length_lexeme_rest c cs) (Nat.le_refl _))

/-- A property of first lexemes is one of all lexemes. -/
theorem forall_mem_lexemes {p : Lexeme → Prop} (h : ∀ c cs, p (lexeme c cs).1) (cs : List Char) :
    ∀ l ∈ lexemes cs, p l := by
  suffices ∀ fuel, ∀ l ∈ lexemesUpTo fuel cs, p l from this cs.length
  intro fuel
  induction fuel generalizing cs with
  | zero => simp [lexemesUpTo]
  | succ fuel ih =>
    cases cs with
    | nil => simp [lexemesUpTo]
    | cons c cs =>
      rw [lexemesUpTo, List.forall_mem_cons]
      exact ⟨h c cs, ih _⟩

/-- The symbol of a lexeme; a blank has none. -/
def Lexeme.symbol? (l : Lexeme) : Option Symbol :=
  ((l.token? Place.start).map Token.symbol).filter fun x => x.kind != .blank

/-- The symbols of characters. -/
def scanned (cs : List Char) : List Symbol := (lexemes cs).filterMap Lexeme.symbol?

theorem Lexeme.map_symbol_token? (l : Lexeme) (p q : Place) :
    (l.token? p).map Token.symbol = (l.token? q).map Token.symbol := by
  unfold Lexeme.token?
  split
  · split <;> rfl
  all_goals rfl

theorem symbolsOf_ofLexemes (p : Place) (ls : List Lexeme) :
    symbolsOf (TokenStream.ofLexemes p ls).ahead = ls.filterMap Lexeme.symbol? := by
  induction ls generalizing p with
  | nil => rfl
  | cons l ls ih =>
    rw [TokenStream.ofLexemes, List.filterMap_cons, Lexeme.symbol?, l.map_symbol_token? _ p]
    cases l.token? p with
    | none => exact ih _
    | some t =>
      by_cases ht : t.kind = .blank
      · simp [symbolsOf_cons_blank _ ht, Option.filter_some, ht, ih]
      · simp [symbolsOf_cons _ ht, Option.filter_some, ht, ih]

/-- The symbols of a text are those of its characters, and the end. -/
theorem symbols_eq_scanned (source : String) :
    symbols source = scanned source.toList ++ [⟨.endOfScript, ""⟩] := by
  obtain ⟨xs, hs, h⟩ := holds_ofText source
  rw [h, ← hs.symbolsOf_ahead, TokenStream.ofText, symbolsOf_ofLexemes, scanned]

/-! ## Texts of symbols -/

/-- A symbol has a text that its kind allows: no quote is in a string, an integer has digits, and
an operator is its own name. -/
def Symbol.Proper (x : Symbol) : Prop :=
  match x.kind with
  | .string => '"' ∉ x.text.toList
  | .integer => isInteger x.text.toList
  | .eq => x.text = "eq"
  | .ne => x.text = "ne"
  | .tilde => x.text = "~"
  | _ => True

/-- Integers are words. -/
theorem isNameChar_of_isInteger {cs : List Char} (h : isInteger cs) : ∀ c ∈ cs, isNameChar c := by
  have hdigit : ∀ c : Char, c.isDigit → isNameChar c := by
    intro c hc
    simp [isNameChar, Char.isAlphanum, hc]
  unfold isInteger at h
  simp only [Bool.and_eq_true, List.all_eq_true] at h
  split at h
  · exact List.forall_mem_cons.2 ⟨rfl, fun c hc => hdigit c (h.2 c hc)⟩
  · exact fun c hc => hdigit c (h.2 c hc)

theorem proper_keyword {w : String} {k : Kind} (h : (w, k) ∈ keywords) : Symbol.Proper ⟨k, w⟩ := by
  suffices ∀ e ∈ keywords, Symbol.Proper ⟨e.2, e.1⟩ from this _ h
  simp [keywords, Symbol.Proper]

theorem proper_word (w : String) : Symbol.Proper ⟨wordKind w, w⟩ := by
  rcases wordKind_cases w with hk | ⟨hk, hi⟩ | hk
  · exact proper_keyword hk
  · rw [hk]
    exact hi
  · rw [hk]
    trivial

theorem proper_mark (c : Char) : Symbol.Proper ⟨markKind c, String.ofList [c]⟩ := by
  unfold markKind
  split <;> simp [Symbol.Proper]

theorem proper_of_symbol?_lexeme (c : Char) (cs : List Char) :
    ∀ x ∈ (lexeme c cs).1.symbol?, x.Proper := by
  intro x hx
  obtain ⟨hm, -⟩ := Option.filter_eq_some_iff.1 hx
  obtain ⟨t, ht, rfl⟩ := Option.map_eq_some_iff.1 hm
  clear hx hm
  have hfirst := firstLexeme c cs
  generalize (lexeme c cs).1 = l, (lexeme c cs).2 = rest at hfirst ht
  cases hfirst with
  | layout _ _ _ =>
    simp only [Lexeme.token?] at ht
    split at ht <;> cases ht <;> trivial
  | word _ _ _ =>
    cases ht
    exact proper_word _
  | string hn | openString hn =>
    cases ht
    simpa [Symbol.Proper, Token.symbol, stringText] using hn
  | comment _ =>
    cases ht
    trivial
  | openComment _ => cases ht
  | mark _ _ _ _ =>
    cases ht
    exact proper_mark c

/-- All symbols of a text are proper. -/
theorem proper_of_mem_symbols {source : String} {x : Symbol} (h : x ∈ symbols source) :
    x.Proper := by
  rw [symbols_eq_scanned, List.mem_append, scanned, List.mem_filterMap] at h
  rcases h with ⟨l, hl, hx⟩ | h
  · exact forall_mem_lexemes (p := fun l => ∀ x ∈ l.symbol?, x.Proper) proper_of_symbol?_lexeme
      source.toList l hl x hx
  · obtain rfl := List.mem_singleton.1 h
    trivial

/-! ## The first symbol of a text -/

theorem scanned_cons (c : Char) (cs : List Char) :
    scanned (c :: cs) = (lexeme c cs).1.symbol?.toList ++ scanned (lexeme c cs).2 := by
  rw [scanned, lexemes_cons, List.filterMap_cons]
  cases (lexeme c cs).1.symbol? <;> rfl

variable {c : Char} {w rest : List Char}

/-! ### Blanks -/

/-- Blanks have no symbol, and with a line feed among them the one of a line break. -/
theorem scanned_layout (hc : isLayout c) (cs : List Char) :
    scanned (c :: cs) = (if '\n' ∈ c :: cs.takeWhile isLayout then [⟨.lineBreak, "\n"⟩] else []) ++
      scanned (cs.dropWhile isLayout) := by
  rw [scanned_cons, lexeme, if_pos hc]
  by_cases hn : '\n' ∈ c :: cs.takeWhile isLayout
  · simp [Lexeme.symbol?, Lexeme.token?, Option.filter_some, Token.symbol, hn]
  · simp [Lexeme.symbol?, Lexeme.token?, Option.filter_some, hn]

@[simp] theorem scanned_space (cs : List Char) : scanned (' ' :: cs) = scanned cs := by
  rw [scanned_layout (by decide)]
  cases cs with
  | nil => rfl
  | cons d ds =>
    by_cases hd : isLayout d
    · simp [scanned_layout hd, hd]
    · simp [hd]

@[simp] theorem scanned_lineFeed_space (cs : List Char) :
    scanned ('\n' :: ' ' :: cs) = scanned ('\n' :: cs) := by
  rw [scanned_layout (by decide), scanned_layout (by decide)]
  simp [show isLayout ' ' from by decide]

theorem scanned_lineFeed (h : Avoids isLayout rest) :
    scanned ('\n' :: rest) = ⟨.lineBreak, "\n"⟩ :: scanned rest := by
  rw [scanned_layout (by decide), if_pos List.mem_cons_self]
  cases rest with
  | nil => rfl
  | cons d ds => simp [(avoids_cons ..).1 h]

/-! ### Words -/

theorem scanned_word (hne : w ≠ []) (hw : ∀ c ∈ w, isNameChar c) (hr : Avoids isNameChar rest) :
    scanned (w ++ rest) = ⟨wordKind (String.ofList w), String.ofList w⟩ :: scanned rest := by
  obtain ⟨c, w, rfl⟩ := List.exists_cons_of_ne_nil hne
  rw [List.forall_mem_cons] at hw
  -- The word ends where `rest` begins, which is with no character of a name.
  rw [List.cons_append, scanned_cons, (FirstLexeme.word hw.1 hw.2 hr).lexeme_eq]
  simp [Lexeme.symbol?, Lexeme.token?, Option.filter_some, Token.symbol, (wordKind_ne _).1]

theorem keyword_spec {w : String} {k : Kind} (h : (w, k) ∈ keywords) :
    w.toList ≠ [] ∧ (∀ c ∈ w.toList, isNameChar c) ∧ wordKind w = k := by
  have hall : (keywords.all fun e =>
      !e.1.toList.isEmpty && e.1.toList.all isNameChar && wordKind e.1 == e.2) = true := by
    decide
  simpa [and_assoc] using List.all_eq_true.1 hall _ h

theorem scanned_keyword {w : String} {k : Kind} (h : (w, k) ∈ keywords)
    (hr : Avoids isNameChar rest) : scanned (w.toList ++ rest) = ⟨k, w⟩ :: scanned rest := by
  obtain ⟨hne, hw, hk⟩ := keyword_spec h
  rw [scanned_word hne hw hr, String.ofList_toList, hk]

/-- An integer is none of the keywords. -/
theorem wordKind_of_isInteger {w : String} (h : isInteger w.toList) : wordKind w = .integer := by
  have hn : ∀ e ∈ keywords, isInteger e.1.toList = false := by simp [keywords, isInteger]
  rw [wordKind, List.lookup_eq_none_iff.2, h, if_pos rfl]
  rintro ⟨v, k⟩ he
  rw [bne_iff_ne]
  rintro rfl
  rw [hn _ he] at h
  cases h

theorem scanned_integer {w : String} (h : isInteger w.toList) (hr : Avoids isNameChar rest) :
    scanned (w.toList ++ rest) = ⟨.integer, w⟩ :: scanned rest := by
  have hne : w.toList ≠ [] := by
    intro he
    rw [he] at h
    cases h
  rw [scanned_word hne (isNameChar_of_isInteger h) hr, String.ofList_toList,
    wordKind_of_isInteger h]

/-! ### Strings and marks -/

/-- A string ends with the first quote. -/
theorem scanned_quoted (hw : '"' ∉ w) (rest : List Char) :
    scanned ('"' :: (w ++ '"' :: rest)) = ⟨.string, String.ofList w⟩ :: scanned rest := by
  rw [scanned_cons, (FirstLexeme.string hw).lexeme_eq]
  simp [Lexeme.symbol?, Lexeme.token?, Option.filter_some, Token.symbol, stringText]

theorem scanned_mark (hc : markKind c ≠ .illegal) (rest : List Char) :
    scanned (c :: rest) = ⟨markKind c, String.ofList [c]⟩ :: scanned rest := by
  have hlex : lexeme c rest = (⟨.mark, [c]⟩, rest) := by
    unfold markKind at hc
    split at hc
    · rfl
    · rfl
    · rfl
    · rfl
    · rfl
    · rfl
    · exact absurd rfl hc
  rw [scanned_cons, hlex]
  simp [Lexeme.symbol?, Lexeme.token?, Option.filter_some, Token.symbol, (markKind_ne c).1]

end ProxyTrial.Script
