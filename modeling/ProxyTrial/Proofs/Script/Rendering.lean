import ProxyTrial.Proofs.Script.Tiling
import ProxyTrial.Script.Written
/-!
# Tokens and the texts that they are written as

Tokens that are written one after another, with layout between them, are read as the tokens that
they were. What keeps them apart is that a piece of a script goes on as far as it can: a word ends
at the first character that belongs to no name, which layout begins with, and a string ends at its
quote, whatever stands in it. So every text has the tokens of the text that writes them out with one
blank between two of them.

## Main definitions

* `significantSymbols source`: the symbols of a script, blanks and line breaks left out
* `Symbol.Lexable`: a symbol that a script may have
* `IsSpacing cs`, `IsEnding cs`: layout between symbols, and behind the last one
* `Renders apart xs cs`: the characters are the symbols with layout between them
* `normalized source`: the symbols of a script with one blank between them

## Main results

* `Renders.unbroken_eq`: what is written out is read again
* `lexable_of_mem_unbroken`: every symbol of a script may be one
* `significantSymbols_of_renders`: reading undoes writing, whatever the layout
-/

namespace ProxyTrial.Script

/-- The symbols of a script as a reader meets them that passes over line breaks; the last one is the
end. -/
def significantSymbols (source : String) : List Symbol :=
  ((TokenStream.ofText source).filtered true).map Token.symbol

/-- A symbol that a script may have. -/
inductive Symbol.Lexable : Symbol → Prop
  /-- A word of the language, or a flag. -/
  | keyword {w : String} {k : Kind} : (w, k) ∈ keywords → Lexable ⟨k, w⟩
  /-- A mark of the language. -/
  | mark {c : Char} : markKind c ≠ .illegal → Lexable ⟨markKind c, String.ofList [c]⟩
  | integer {w : String} : IsNumeral w.toList → Lexable ⟨.integer, w⟩
  | string {w : String} : '"' ∉ w.toList → Lexable ⟨.string, w⟩
  /-- A run of name characters that is nothing else. -/
  | run {w : String} : w ≠ "" → (∀ c ∈ w.toList, isNameChar c) → (∀ k, (w, k) ∉ keywords) →
      ¬ IsNumeral w.toList → Lexable ⟨.illegal, w⟩
  /-- A character that begins nothing else. -/
  | stray {c : Char} : isLayout c = false → isNameChar c = false → c ≠ '"' → c ≠ '#' →
      markKind c = .illegal → Lexable ⟨.illegal, String.ofList [c]⟩

/-- A symbol as it is written: a string stands between quotes. -/
def Symbol.written (x : Symbol) : String := if x.kind = .string then quoted x.text else x.text

/-- Blanks, and comments with the line feeds that end them, in any order. -/
inductive IsSpacing : List Char → Prop
  | nil : IsSpacing []
  | blank {c : Char} {cs : List Char} : isLayout c → IsSpacing cs → IsSpacing (c :: cs)
  | comment {piece cs : List Char} : IsComment piece → IsSpacing cs → IsSpacing (piece ++ cs)

/-- Layout at the end of a text, where no line feed has to end the last comment. -/
inductive IsEnding : List Char → Prop
  | spacing {cs : List Char} : IsSpacing cs → IsEnding cs
  | comment {cs piece : List Char} : IsSpacing cs → IsOpenComment piece → IsEnding (cs ++ piece)

/-- The characters are symbols with layout before, between and behind them. There is some between
two symbols, and in front of the first one if `apart` says so. -/
inductive Renders : (apart : Bool) → List Symbol → List Char → Prop
  | ending {apart : Bool} {cs : List Char} : IsEnding cs → Renders apart [] cs
  | symbol {apart : Bool} {spacing cs : List Char} {x : Symbol} {xs : List Symbol} :
      IsSpacing spacing → (apart → spacing ≠ []) → Renders true xs cs →
      Renders apart (x :: xs) (spacing ++ (x.written.toList ++ cs))

/-- The symbols of a script with one blank between two of them. -/
def normalized (source : String) : String :=
  " ".intercalate ((significantSymbols source).dropLast.map Symbol.written)

variable {c : Char} {cs rest : List Char} {x : Symbol} {xs : List Symbol} {source : String}

/-! ## Line breaks left out -/

/-- The symbols of characters, line breaks left out. -/
def unbroken (cs : List Char) : List Symbol := (scanned cs).filter fun x => x.kind ≠ .lineBreak

theorem significantSymbols_eq_unbroken (source : String) :
    significantSymbols source = unbroken source.toList ++ [⟨.endOfScript, ""⟩] := by
  have hskips : ∀ k, (!TokenStream.skips true k) =
      (decide (k ≠ .lineBreak) && !TokenStream.skips false k) := by
    intro k
    cases k <;> rfl
  have hahead : symbolsOf (TokenStream.ofText source).ahead = scanned source.toList :=
    symbolsOf_ofLexemes _ _
  rw [significantSymbols, TokenStream.filtered, List.map_append, unbroken, ← hahead, symbolsOf,
    List.filter_map, List.filter_filter]
  simp only [hskips]
  rfl

theorem unbroken_layout (hc : isLayout c) (cs : List Char) : unbroken (c :: cs) = unbroken cs := by
  have hrun : ∀ {c : Char} (cs : List Char), isLayout c →
      unbroken (c :: cs) = unbroken (cs.dropWhile isLayout) := by
    intro c cs hc
    rw [unbroken, scanned_layout hc, List.filter_append, unbroken]
    split <;> rfl
  rw [hrun cs hc]
  -- The run of blanks that the character begins may go on.
  cases cs with
  | nil => rfl
  | cons d ds =>
    by_cases hd : isLayout d
    · rw [List.dropWhile_cons_of_pos hd, hrun ds hd]
    · rw [List.dropWhile_cons_of_neg (by simpa using hd)]

/-- A piece in front of other characters has the symbol of its token, if that is one. -/
theorem Scans.unbroken_append {piece : List Char} {k : Kind} {w : String}
    (h : Scans piece rest k w) : unbroken (piece ++ rest) =
      if k = .blank ∨ k = .lineBreak then unbroken rest else ⟨k, w⟩ :: unbroken rest := by
  obtain ⟨c, cs, l, hcs, hl, -, htoken⟩ := h.lexeme_eq
  have hsymbol : l.symbol? = if k = .blank then none else some ⟨k, w⟩ := by
    rw [Lexeme.symbol?, htoken]
    by_cases hk : k = .blank <;> simp [Option.filter_some, Token.symbol, hk]
  rw [hcs, unbroken, scanned_cons, hl, hsymbol]
  by_cases hblank : k = .blank
  · simp [hblank, unbroken]
  · by_cases hbreak : k = .lineBreak <;> simp [hblank, hbreak, unbroken]

theorem unbroken_openComment (h : IsOpenComment cs) : unbroken cs = [] := by
  obtain ⟨text, hn, rfl⟩ := h
  rw [unbroken, scanned_cons, lexeme_openComment hn]
  rfl

/-- Layout in front of a text has no symbols. -/
theorem IsSpacing.unbroken_append {spacing : List Char} (h : IsSpacing spacing) (cs : List Char) :
    unbroken (spacing ++ cs) = unbroken cs := by
  induction h with
  | nil => rfl
  | blank hc _ ih => rw [List.cons_append, unbroken_layout hc, ih]
  | comment hpiece _ ih =>
    rw [List.append_assoc, (Scans.comment hpiece).unbroken_append, if_pos (.inr rfl), ih]

theorem IsEnding.unbroken_eq_nil (h : IsEnding cs) : unbroken cs = [] := by
  cases h with
  | spacing hcs =>
    rw [← List.append_nil cs, hcs.unbroken_append]
    rfl
  | comment hcs hpiece => rw [hcs.unbroken_append, unbroken_openComment hpiece]

/-! ## Reading what is written -/

/-- Layout begins with no character of a name. -/
theorem IsSpacing.avoids_append {spacing : List Char} (h : IsSpacing spacing) (hne : spacing ≠ [])
    (cs : List Char) : Avoids isNameChar (spacing ++ cs) := by
  cases h with
  | nil => exact absurd rfl hne
  | blank hc _ =>
    rw [List.cons_append, avoids_cons, Bool.eq_false_iff]
    intro hname
    rw [isLayout_of_isNameChar hname] at hc
    cases hc
  | comment hpiece _ =>
    obtain ⟨text, -, rfl⟩ := hpiece
    exact (avoids_cons ..).2 rfl

theorem IsOpenComment.avoids (h : IsOpenComment cs) : Avoids isNameChar cs := by
  obtain ⟨text, -, rfl⟩ := h
  exact (avoids_cons ..).2 rfl

/-- What follows a symbol does not go on with its name. -/
theorem Renders.avoids (h : Renders true xs cs) : Avoids isNameChar cs := by
  cases h with
  | ending hend =>
    cases hend with
    | spacing hcs =>
      by_cases hne : cs = []
      · exact hne ▸ avoids_nil _
      · simpa using hcs.avoids_append hne []
    | @comment spacing piece hspacing hpiece =>
      by_cases hne : spacing = []
      · simpa [hne] using hpiece.avoids
      · exact hspacing.avoids_append hne piece
  | symbol hspacing hne _ => exact hspacing.avoids_append (hne rfl) _

theorem Symbol.written_of_ne (h : x.kind ≠ .string) : x.written = x.text := if_neg h

theorem markKind_ne_string (c : Char) : markKind c ≠ .string := by
  unfold markKind
  split <;> decide

/-- A mark of the language begins nothing else. -/
theorem begins_of_markKind (h : markKind c ≠ .illegal) :
    isLayout c = false ∧ isNameChar c = false ∧ c ≠ '"' ∧ c ≠ '#' := by
  unfold markKind at h
  split at h
  · decide
  · decide
  · decide
  · decide
  · decide
  · decide
  · exact absurd rfl h

/-- A word in front of what begins with no character of a name is a piece. -/
theorem scans_word {w : String} {k : Kind} (hne : w ≠ "") (hw : ∀ c ∈ w.toList, isNameChar c)
    (hk : IsWord w k) (hr : Avoids isNameChar rest) : Scans w.toList rest k w := by
  have hrun : IsRun isNameChar w.toList rest := ⟨by simpa using hne, hw, hr⟩
  have hscans := Scans.word hrun (by rwa [String.ofList_toList])
  rwa [String.ofList_toList] at hscans

/-- A symbol is written as a piece of which it is the token, in front of what begins with no
character of a name. -/
theorem Symbol.Lexable.scans (hx : x.Lexable) (hr : Avoids isNameChar rest) :
    Scans x.written.toList rest x.kind x.text := by
  cases hx with
  | @keyword w k hmem =>
    obtain ⟨hne, hw, -⟩ := keyword_spec hmem
    have hk : k ≠ .string := by
      rintro rfl
      simp [keywords] at hmem
    rw [Symbol.written_of_ne hk]
    exact scans_word (by simpa using hne) hw (.keyword hmem) hr
  | @mark c hc =>
    obtain ⟨hlayout, hname, hquote, hhash⟩ := begins_of_markKind hc
    rw [Symbol.written_of_ne (markKind_ne_string c), String.toList_ofList]
    exact .mark hlayout hname hquote hhash
  | @integer w hw =>
    have hinteger := isInteger_iff.2 hw
    have hword := isWord_wordKind w
    rw [wordKind_of_isInteger hinteger] at hword
    show Scans w.toList rest .integer w
    refine scans_word ?_ (isNameChar_of_isInteger hinteger) hword hr
    rintro rfl
    cases hinteger
  | string hw =>
    have hscans : Scans _ rest _ _ := .string hw
    rw [String.ofList_toList] at hscans
    simpa [Symbol.written, quoted] using hscans
  | @run w hne hw hno hn =>
    show Scans w.toList rest .illegal w
    exact scans_word hne hw (.illegal hno hn) hr
  | @stray c hlayout hname hquote hhash hk =>
    show Scans (String.ofList [c]).toList rest .illegal (String.ofList [c])
    rw [String.toList_ofList, ← hk]
    exact .mark hlayout hname hquote hhash

theorem Symbol.Lexable.kind_ne (hx : x.Lexable) : x.kind ≠ .blank ∧ x.kind ≠ .lineBreak := by
  cases hx with
  | keyword hmem => constructor <;> rintro rfl <;> simp [keywords] at hmem
  | @mark c _ =>
    dsimp only
    unfold markKind
    split <;> decide
  | integer _ => simp
  | string _ => simp
  | run _ _ _ _ => simp
  | stray _ _ _ _ _ => simp

/-- What is written out is read again. -/
theorem Renders.unbroken_eq {apart : Bool} (h : Renders apart xs cs) (hxs : ∀ x ∈ xs, x.Lexable) :
    unbroken cs = xs := by
  induction h with
  | ending hend => exact hend.unbroken_eq_nil
  | symbol hspacing _ hrest ih =>
    obtain ⟨hx, hxs⟩ := List.forall_mem_cons.1 hxs
    rw [hspacing.unbroken_append, (hx.scans hrest.avoids).unbroken_append,
      if_neg (by simp [hx.kind_ne]), ih hxs]

/-! ## What is read -/

/-- The token of a piece has a symbol that a script may have, unless it is layout. -/
theorem Scans.lexable {piece : List Char} {k : Kind} {w : String} (h : Scans piece rest k w)
    (hblank : k ≠ .blank) (hbreak : k ≠ .lineBreak) : Symbol.Lexable ⟨k, w⟩ := by
  cases h with
  | blank _ _ => exact absurd rfl hblank
  | lineBreak _ _ => exact absurd rfl hbreak
  | comment _ => exact absurd rfl hbreak
  | word hrun hword =>
    cases hword with
    | keyword hmem => exact .keyword hmem
    | integer _ hn => exact .integer hn
    | illegal hno hn => exact .run (by simpa using hrun.ne_nil) (by simpa using hrun.all) hno hn
  | string hn => exact .string (by simpa using hn)
  | openString hn => exact .string (by simpa using hn)
  | @mark c _ hlayout hname hquote hhash =>
    by_cases hk : markKind c = .illegal
    · rw [hk]
      exact .stray hlayout hname hquote hhash hk
    · exact .mark hk

/-- Every symbol of a script may be one. -/
theorem lexable_of_mem_unbroken (hx : x ∈ unbroken cs) : x.Lexable := by
  obtain ⟨hmem, hbreak⟩ := List.mem_filter.1 hx
  obtain ⟨l, hl, hsymbol⟩ := List.mem_filterMap.1 hmem
  refine forall_mem_lexemes (p := fun l => ∀ x ∈ l.symbol?, x.kind ≠ .lineBreak → x.Lexable)
    (fun c cs y hy hne => ?_) cs l hl x hsymbol (by simpa using hbreak)
  obtain ⟨hmap, hblank⟩ := Option.filter_eq_some_iff.1 hy
  rcases scans_of_token? c cs Place.start with ⟨k, w, htoken, hscans⟩ | ⟨hnone, -⟩
  · rw [htoken] at hmap
    obtain rfl := Option.some.inj hmap
    exact hscans.lexable (by simpa using hblank) hne
  · rw [hnone] at hmap
    cases hmap

/-- Symbols with one blank between two of them are written out. -/
theorem renders_intercalate (xs : List Symbol) :
    Renders false xs ([' '].intercalate (xs.map fun x => x.written.toList)) := by
  -- Behind the first symbol, every other one has the blank in front.
  have hbehind : ∀ (x : Symbol) (xs : List Symbol),
      ∃ cs, [' '].intercalate ((x :: xs).map fun x => x.written.toList) = x.written.toList ++ cs ∧
        Renders true xs cs := by
    intro x xs
    induction xs generalizing x with
    | nil => exact ⟨[], by simp, .ending (.spacing .nil)⟩
    | cons y ys ih =>
      obtain ⟨cs, heq, hcs⟩ := ih y
      refine ⟨[' '] ++ (y.written.toList ++ cs), ?_, .symbol (.blank rfl .nil) (by simp) hcs⟩
      rw [List.map_cons] at heq
      rw [List.map_cons, List.map_cons, List.intercalate_cons_cons, heq, List.append_assoc]
  cases xs with
  | nil => exact .ending (.spacing .nil)
  | cons x xs =>
    obtain ⟨cs, heq, hcs⟩ := hbehind x xs
    rw [heq]
    exact .symbol .nil nofun hcs

/-- Symbols that are written out with layout between them, whatever it is, are read as the symbols
that they were, and then comes the end. The symbols of every script may be written out, and with one
blank between two of them they are the symbols of the script. -/
theorem significantSymbols_of_renders (hxs : ∀ x ∈ xs, x.Lexable)
    (h : Renders false xs source.toList) :
    significantSymbols source = xs ++ [⟨.endOfScript, ""⟩] ∧
      ∀ script : String,
        (∃ ys, significantSymbols script = ys ++ [⟨.endOfScript, ""⟩] ∧ ∀ y ∈ ys, y.Lexable) ∧
        significantSymbols (normalized script) = significantSymbols script := by
  constructor
  · rw [significantSymbols_eq_unbroken, h.unbroken_eq hxs]
  · intro script
    have hys : ∀ y ∈ unbroken script.toList, y.Lexable := fun y => lexable_of_mem_unbroken
    refine ⟨⟨_, significantSymbols_eq_unbroken script, hys⟩, ?_⟩
    have hnormalized : (normalized script).toList =
        [' '].intercalate ((unbroken script.toList).map fun x => x.written.toList) := by
      rw [normalized, String.toList_intercalate, significantSymbols_eq_unbroken,
        List.dropLast_concat, List.map_map]
      rfl
    rw [significantSymbols_eq_unbroken, hnormalized, (renders_intercalate _).unbroken_eq hys,
      significantSymbols_eq_unbroken]

/-- A comment with quotes, a string with a comment in it, a minus sign in front of digits and in
front of a name, and a comment that nothing ends. -/
theorem significantSymbols_of_renders_comments :
    let source := "#\"c\"\n\"# eq\"\t-12#\n+ -1x# end"
    let xs : List Symbol :=
      [⟨.string, "# eq"⟩, ⟨.integer, "-12"⟩, ⟨.illegal, "+"⟩, ⟨.illegal, "-1x"⟩]
    (∀ x ∈ xs, x.Lexable) ∧ Renders false xs source.toList ∧
      significantSymbols source = xs ++ [⟨.endOfScript, ""⟩] ∧
      significantSymbols (normalized source) = significantSymbols source := by
  intro source xs
  have hxs : ∀ x ∈ xs, x.Lexable := by
    simp only [xs, List.forall_mem_cons, List.not_mem_nil, false_imp_iff, implies_true, and_true]
    exact ⟨.string (by decide), .integer ⟨['1', '2'], by decide, List.all_eq_true.1 rfl, .inr rfl⟩,
      .stray rfl rfl (by decide) (by decide) rfl,
      .run (by decide) (List.all_eq_true.1 rfl) (by simp [keywords])
        fun hn => absurd (isInteger_iff.2 hn) (by decide)⟩
  have hrenders : Renders false xs source.toList := by
    have hend : Renders true [] "# end".toList :=
      .ending (.comment .nil ⟨" end".toList, by decide, rfl⟩)
    have hrun : Renders true _ _ :=
      hend.symbol (x := ⟨.illegal, "-1x"⟩) (.blank (c := ' ') rfl .nil) (by simp)
    have hstray : Renders true _ _ :=
      hrun.symbol (x := ⟨.illegal, "+"⟩) (.comment ⟨[], by decide, rfl⟩ .nil) (by simp)
    have hinteger : Renders true _ _ :=
      hstray.symbol (x := ⟨.integer, "-12"⟩) (.blank (c := '\t') rfl .nil) (by simp)
    have hstring : Renders false _ _ := Renders.symbol (x := ⟨.string, "# eq"⟩)
      (.comment ⟨"\"c\"".toList, by decide, rfl⟩ .nil) (by simp) hinteger
    simpa [source, Symbol.written, quoted] using hstring
  obtain ⟨hsymbols, hscripts⟩ := significantSymbols_of_renders hxs hrenders
  exact ⟨hxs, hrenders, hsymbols, (hscripts source).2⟩

end ProxyTrial.Script
