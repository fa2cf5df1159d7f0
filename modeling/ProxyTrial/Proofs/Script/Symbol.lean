import ProxyTrial.Script.TokenStream
import Mathlib.Data.List.TakeWhile
/-!
# The symbols ahead of a reader

What a script means depends on the kinds and the texts of its tokens, and not on their places.
A symbol is a kind with a text; the symbols ahead of a reader are those of its tokens, blanks left
out. Reading a token takes symbols from the front, and putting it back restores them.

## Main definitions

* `Symbol`: a kind and a text
* `symbols source`: the symbols of a script, line breaks and the end included
* `TokenStream.Holds s xs`: `xs` are the symbols ahead in `s`
* `Lead k w xs`: `xs` is a symbol after line breaks

## Main results

* `Holds.significant_cons`, `Holds.significant_lead`: what reading a token takes
* `Holds.putBack`: putting a token back restores its symbol
* `holds_ofText`: a script holds its symbols
-/

namespace ProxyTrial.Script

/-- What a token is, wherever it stands. -/
structure Symbol where
  kind : Kind
  text : String
  deriving DecidableEq, Repr

/-- The symbol of a token. -/
def Token.symbol (t : Token) : Symbol := ⟨t.kind, t.text⟩

@[simp] theorem Token.symbol_kind (t : Token) : t.symbol.kind = t.kind := rfl

@[simp] theorem Token.symbol_text (t : Token) : t.symbol.text = t.text := rfl

/-- The symbols of a script as a reader meets them that heeds line breaks; the last one is the
end. -/
def symbols (source : String) : List Symbol :=
  ((TokenStream.ofText source).filtered false).map Token.symbol

/-- A symbol after any number of line breaks. -/
inductive Lead (k : Kind) (w : String) : List Symbol → Prop
  | here : Lead k w [⟨k, w⟩]
  | lineBreak {b : String} {xs : List Symbol} : Lead k w xs → Lead k w (⟨.lineBreak, b⟩ :: xs)

theorem Lead.mem {k : Kind} {w : String} {xs : List Symbol} (h : Lead k w xs) : ⟨k, w⟩ ∈ xs := by
  induction h with
  | here => exact List.mem_singleton_self _
  | lineBreak _ ih => exact List.mem_cons_of_mem _ ih

theorem Lead.ne_nil {k : Kind} {w : String} {xs : List Symbol} (h : Lead k w xs) : xs ≠ [] :=
  List.ne_nil_of_mem h.mem

/-- The symbols of tokens that are no blanks. -/
def symbolsOf (ts : List Token) : List Symbol :=
  (ts.filter fun t => !TokenStream.skips false t.kind).map Token.symbol

@[simp] theorem symbolsOf_nil : symbolsOf [] = [] := rfl

theorem symbolsOf_cons_blank {t : Token} (ts : List Token) (h : t.kind = .blank) :
    symbolsOf (t :: ts) = symbolsOf ts := by
  simp [symbolsOf, TokenStream.skips, h]

theorem symbolsOf_cons {t : Token} (ts : List Token) (h : t.kind ≠ .blank) :
    symbolsOf (t :: ts) = t.symbol :: symbolsOf ts := by
  simp [symbolsOf, TokenStream.skips, h]

theorem length_symbolsOf_le (ts : List Token) : (symbolsOf ts).length ≤ ts.length := by
  rw [symbolsOf, List.length_map]
  exact List.length_filter_le ..

namespace TokenStream

/-- The symbols ahead in a stream are `xs`. No token ahead is the one of the end, which comes
after all of them. -/
structure Holds (s : TokenStream) (xs : List Symbol) : Prop where
  inside : ∀ t ∈ s.ahead, t.kind ≠ .endOfScript
  symbolsOf_ahead : symbolsOf s.ahead = xs

theorem Holds.length_le {s : TokenStream} {xs : List Symbol} (h : s.Holds xs) :
    xs.length ≤ s.ahead.length :=
  h.symbolsOf_ahead ▸ length_symbolsOf_le s.ahead

/-- Blanks and the end are no symbols ahead. -/
theorem Holds.kind_of_mem {s : TokenStream} {xs : List Symbol} (h : s.Holds xs) {x : Symbol}
    (hx : x ∈ xs) : x.kind ≠ .blank ∧ x.kind ≠ .endOfScript := by
  rw [← h.symbolsOf_ahead, symbolsOf, List.mem_map] at hx
  obtain ⟨t, ht, rfl⟩ := hx
  obtain ⟨hm, hb⟩ := List.mem_filter.1 ht
  exact ⟨by simpa [skips] using hb, h.inside t hm⟩

end TokenStream

/-! ## Passing over tokens -/

/-- The symbols after the line breaks in front. -/
def afterBreaks (xs : List Symbol) : List Symbol := xs.dropWhile fun x => x.kind = .lineBreak

theorem afterBreaks_eq_nil_iff {xs : List Symbol} :
    afterBreaks xs = [] ↔ ∀ x ∈ xs, x.kind = .lineBreak := by
  simp [afterBreaks, List.dropWhile_eq_nil_iff]

theorem symbolsOf_dropWhile_blank (ts : List Token) :
    symbolsOf (ts.dropWhile fun t => TokenStream.skips false t.kind) = symbolsOf ts := by
  induction ts with
  | nil => rfl
  | cons t ts ih =>
    by_cases h : t.kind = .blank
    · rw [symbolsOf_cons_blank ts h, List.dropWhile_cons_of_pos (by simp [TokenStream.skips, h])]
      exact ih
    · rw [List.dropWhile_cons_of_neg (by simp [TokenStream.skips, h])]

theorem symbolsOf_dropWhile_layout (ts : List Token) :
    symbolsOf (ts.dropWhile fun t => TokenStream.skips true t.kind) =
      afterBreaks (symbolsOf ts) := by
  induction ts with
  | nil => rfl
  | cons t ts ih =>
    -- Blanks have no symbol; a line break has one that is dropped on either side.
    by_cases h : t.kind = .blank
    · rw [symbolsOf_cons_blank ts h, List.dropWhile_cons_of_pos (by simp [TokenStream.skips, h])]
      exact ih
    · rw [symbolsOf_cons ts h]
      by_cases hl : t.kind = .lineBreak
      · rw [List.dropWhile_cons_of_pos (by simp [TokenStream.skips, hl]), afterBreaks,
          List.dropWhile_cons_of_pos (by simp [hl])]
        exact ih
      · rw [List.dropWhile_cons_of_neg (by simp [TokenStream.skips, h, hl]), afterBreaks,
          List.dropWhile_cons_of_neg (by simp [hl]), symbolsOf_cons ts h]

/-- Line breaks in front of a symbol that is none are all that precedes it. -/
theorem Lead.afterBreaks_append {k : Kind} {w : String} {ys : List Symbol} (h : Lead k w ys)
    (hk : k ≠ .lineBreak) (rest : List Symbol) : afterBreaks (ys ++ rest) = ⟨k, w⟩ :: rest := by
  induction h with
  | here => simp [afterBreaks, hk]
  | lineBreak _ ih => simpa [afterBreaks] using ih

theorem exists_lead_of_afterBreaks {x : Symbol} {xs rest : List Symbol}
    (h : afterBreaks xs = x :: rest) :
    x.kind ≠ .lineBreak ∧ ∃ ys, xs = ys ++ rest ∧ Lead x.kind x.text ys := by
  induction xs with
  | nil => simp [afterBreaks] at h
  | cons b xs ih =>
    by_cases hb : b.kind = .lineBreak
    · rw [afterBreaks, List.dropWhile_cons_of_pos (by simp [hb])] at h
      obtain ⟨hx, ys, rfl, hl⟩ := ih h
      exact ⟨hx, b :: ys, rfl, by cases b; cases hb; exact hl.lineBreak⟩
    · rw [afterBreaks, List.dropWhile_cons_of_neg (by simp [hb])] at h
      obtain ⟨rfl, rfl⟩ := List.cons.inj h
      exact ⟨hb, [b], rfl, Lead.here⟩

/-! ## Reading a token -/

namespace TokenStream

variable {s : TokenStream} {xs : List Symbol}

theorem Holds.skip_blank (h : s.Holds xs) : (s.skip false).Holds xs :=
  ⟨fun t ht => h.inside t ((List.dropWhile_sublist _).subset ht),
    (symbolsOf_dropWhile_blank s.ahead).trans h.symbolsOf_ahead⟩

theorem Holds.skip_layout (h : s.Holds xs) : (s.skip true).Holds (afterBreaks xs) :=
  ⟨fun t ht => h.inside t ((List.dropWhile_sublist _).subset ht),
    (symbolsOf_dropWhile_layout s.ahead).trans (congrArg afterBreaks h.symbolsOf_ahead)⟩

/-- What stands first after skipping is no blank. -/
theorem kind_ne_blank_of_skip {b : Bool} {t : Token} {ts : List Token}
    (h : (s.skip b).ahead = t :: ts) : t.kind ≠ .blank := by
  intro hk
  have hd := List.head?_dropWhile_not (fun t : Token => skips b t.kind) s.ahead
  rw [show s.ahead.dropWhile _ = t :: ts from h] at hd
  simp [skips, hk] at hd

theorem Holds.next_nil {b : Bool} (h : (s.skip b).Holds []) :
    (s.significant b).1 = s.endToken ∧ (s.significant b).2.Holds [] := by
  cases ha : (s.skip b).ahead with
  | nil =>
    simp only [significant, next, ha]
    exact ⟨rfl, h⟩
  | cons t ts =>
    have he := h.symbolsOf_ahead
    rw [ha, symbolsOf_cons ts (kind_ne_blank_of_skip ha)] at he
    cases he

theorem Holds.next_cons {b : Bool} {x : Symbol} (h : (s.skip b).Holds (x :: xs)) :
    (s.significant b).1.symbol = x ∧ (s.significant b).2.Holds xs := by
  have he := h.symbolsOf_ahead
  cases ha : (s.skip b).ahead with
  | nil =>
    rw [ha] at he
    cases he
  | cons t ts =>
    rw [ha, symbolsOf_cons ts (kind_ne_blank_of_skip ha)] at he
    obtain ⟨ht, hts⟩ := List.cons.inj he
    simp only [significant, next, ha]
    exact ⟨ht, fun u hu => h.inside u (ha ▸ List.mem_cons_of_mem t hu), hts⟩

/-- Heeding line breaks, a reader takes the first symbol. -/
theorem Holds.significant_cons {x : Symbol} (h : s.Holds (x :: xs)) :
    (s.significant false).1.symbol = x ∧ (s.significant false).2.Holds xs :=
  h.skip_blank.next_cons

theorem Holds.significant_nil (h : s.Holds []) (b : Bool) :
    (s.significant b).1 = s.endToken ∧ (s.significant b).2.Holds [] := by
  cases b with
  | false => exact h.skip_blank.next_nil
  | true => exact h.skip_layout.next_nil

/-- Passing over line breaks, a reader takes the symbol that they lead up to. -/
theorem Holds.significant_lead {k : Kind} {w : String} {ys rest : List Symbol}
    (h : s.Holds (ys ++ rest)) (hl : Lead k w ys) (hk : k ≠ .lineBreak) :
    (s.significant true).1.kind = k ∧ (s.significant true).1.text = w ∧
      (s.significant true).2.Holds rest := by
  have hs := h.skip_layout
  rw [hl.afterBreaks_append hk] at hs
  obtain ⟨ht, hr⟩ := hs.next_cons
  exact ⟨congrArg Symbol.kind ht, congrArg Symbol.text ht, hr⟩

/-- Passing over line breaks, a reader takes a symbol with the line breaks before it, or else
comes to the end. -/
theorem Holds.significant_true (h : s.Holds xs) :
    (∃ ys rest, xs = ys ++ rest ∧
        Lead (s.significant true).1.kind (s.significant true).1.text ys ∧
        (s.significant true).2.Holds rest) ∨
      afterBreaks xs = [] ∧ (s.significant true).1 = s.endToken := by
  have hs := h.skip_layout
  -- What is left after the line breaks tells the two cases apart.
  cases ha : afterBreaks xs with
  | nil => exact .inr ⟨rfl, (ha ▸ hs).next_nil.1⟩
  | cons x rest =>
    rw [ha] at hs
    obtain ⟨hx, hrest⟩ := hs.next_cons
    obtain ⟨-, ys, hxs, hl⟩ := exists_lead_of_afterBreaks ha
    exact .inl ⟨ys, rest, hxs, by rw [← hx] at hl; exact hl, hrest⟩

theorem Holds.significant_end (h : s.Holds xs) (he : afterBreaks xs = []) :
    (s.significant true).1 = s.endToken := by
  have hs := h.skip_layout
  rw [he] at hs
  exact hs.next_nil.1

theorem Holds.putBack {x : Symbol} {t : Token} (h : s.Holds xs) (ht : t.symbol = x)
    (hb : t.kind ≠ .blank) (he : t.kind ≠ .endOfScript) : (s.putBack t).Holds (x :: xs) := by
  rw [TokenStream.putBack, if_neg he]
  refine ⟨fun u hu => ?_, ?_⟩
  · rcases List.mem_cons.1 hu with rfl | hu
    · exact he
    · exact h.inside u hu
  · rw [symbolsOf_cons _ hb, ht, h.symbolsOf_ahead]

end TokenStream

/-! ## The symbols of a script -/

/-- A word is a keyword, an integer, or illegal. -/
theorem wordKind_cases (w : String) :
    (w, wordKind w) ∈ keywords ∨ (wordKind w = .integer ∧ isInteger w.toList) ∨
      wordKind w = .illegal := by
  unfold wordKind
  split
  · next k hk =>
    obtain ⟨_, _, he, -⟩ := List.lookup_eq_some_iff.1 hk
    exact .inl (by rw [he]; simp)
  · split
    · next hi => exact .inr (.inl ⟨rfl, hi⟩)
    · exact .inr (.inr rfl)

theorem wordKind_ne (w : String) : wordKind w ≠ .blank ∧ wordKind w ≠ .endOfScript := by
  rcases wordKind_cases w with hk | ⟨hk, -⟩ | hk
  · constructor <;> rintro he <;> rw [he] at hk <;> simp [keywords] at hk
  · simp [hk]
  · simp [hk]

theorem markKind_ne (c : Char) : markKind c ≠ .blank ∧ markKind c ≠ .endOfScript := by
  unfold markKind
  split <;> simp

theorem Lexeme.kind_ne_endOfScript {l : Lexeme} {p : Place} {t : Token} (h : l.token? p = some t) :
    t.kind ≠ .endOfScript := by
  unfold Lexeme.token? at h
  split at h
  · split at h <;> cases h <;> simp
  · cases h; exact (wordKind_ne _).2
  · cases h; simp
  · cases h; simp
  · cases h
  · cases h; exact (markKind_ne _).2

theorem kind_ne_endOfScript_of_mem_ofLexemes {p : Place} {ls : List Lexeme} {t : Token}
    (h : t ∈ (TokenStream.ofLexemes p ls).ahead) : t.kind ≠ .endOfScript := by
  induction ls generalizing p with
  | nil => cases h
  | cons l ls ih =>
    rw [TokenStream.ofLexemes] at h
    cases ht : l.token? p with
    | none =>
      rw [ht] at h
      exact ih h
    | some u =>
      rw [ht] at h
      rcases List.mem_cons.1 h with rfl | h
      · exact l.kind_ne_endOfScript ht
      · exact ih h

/-- A script holds its symbols, which its end follows. -/
theorem holds_ofText (source : String) :
    ∃ xs, (TokenStream.ofText source).Holds xs ∧ symbols source = xs ++ [⟨.endOfScript, ""⟩] := by
  refine ⟨_, ⟨fun t ht => kind_ne_endOfScript_of_mem_ofLexemes ht, rfl⟩, ?_⟩
  rw [symbols, TokenStream.filtered, List.map_append]
  rfl

end ProxyTrial.Script
