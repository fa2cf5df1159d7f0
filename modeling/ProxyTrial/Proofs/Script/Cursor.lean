import ProxyTrial.Proofs.Script.Prompt
import ProxyTrial.Proofs.Script.Tiling
/-!
# Reading with one token put back

A lexer keeps what is ahead, the token read last and the one that has been put back. A reader that
asks it for tokens and puts some back in between cannot tell it from a cursor over the tokens of the
script, which are fixed: its state is the number of the next token, and whether a token may be put
back. Asking for a token that is no layout moves the cursor past the first such token from where it
stands, and putting back moves it back by one.

## Main definitions

* `Lexer.Request`, `Lexer.answers l rs`: what a reader asks for, and what it gets
* `Lexer.past l n`: the lexer after `n` tokens
* `Cursor.Step T c r a c'`: what a request does to a cursor over `T`
* `Cursor.Runs T c rs as`: what requests give that are made to a cursor
* `Cursor.Follows T c l`: a lexer is where the cursor is

## Main results

* `Lexer.nextSignificant_loop`: asking for a token that is no layout is asking until there is one
* `Cursor.Follows.step`: a request takes a lexer to where it takes the cursor
* `answers_eq_iff_runs`: a lexer answers as a cursor does
-/

namespace ProxyTrial.Script

open TokenStream (skips)

namespace Lexer

/-! ## Requests -/

/-- What a reader asks of a lexer. -/
inductive Request where
  | next
  | significant (skipLineBreaks : Bool)
  | unread
  deriving DecidableEq, Repr

/-- What a request gives, which is nothing if a token is put back, and the lexer after it. -/
def respond (l : Lexer) : Request → Option Token × Lexer
  | .next => (some l.next.1, l.next.2)
  | .significant skipLineBreaks =>
    (some (l.nextSignificant skipLineBreaks).1, (l.nextSignificant skipLineBreaks).2)
  | .unread => (none, l.unread)

/-- What requests give that are made one after the other. -/
def answers (l : Lexer) : List Request → List (Option Token)
  | [] => []
  | r :: rs => (l.respond r).1 :: (l.respond r).2.answers rs

/-- The lexer after `n` tokens. -/
def past (l : Lexer) : (n : ℕ) → Lexer
  | 0 => l
  | n + 1 => l.next.2.past n

variable {l : Lexer} {b : Bool}

theorem pushedBack_next (l : Lexer) : l.next.2.pushedBack = none := by
  rw [next]
  split <;> rfl

theorem last_next (l : Lexer) : l.next.2.last = some l.next.1 := by
  rw [next]
  split <;> rfl

theorem nth_past (l : Lexer) (m n : ℕ) : (l.past m).nth n = l.nth (m + n) := by
  induction m generalizing l with
  | zero => rw [past, Nat.zero_add]
  | succ m ih =>
    rw [past, ih, Nat.add_right_comm]
    rfl

/-- The token read last is the one before those that are left. -/
theorem last_past (l : Lexer) (n : ℕ) : (l.past (n + 1)).last = some (l.nth n) := by
  induction n generalizing l with
  | zero => exact l.last_next
  | succ n ih => exact ih l.next.2

theorem pushedBack_past (l : Lexer) (n : ℕ) : (l.past (n + 1)).pushedBack = none := by
  induction n generalizing l with
  | zero => exact l.pushedBack_next
  | succ n ih => exact ih l.next.2

/-! ## Tokens that are no layout -/

end Lexer

theorem TokenStream.significant_loop (s : TokenStream) (b : Bool) :
    s.significant b = if skips b s.next.1.kind then s.next.2.significant b else s.next := by
  obtain ⟨ahead, finish⟩ := s
  cases ahead with
  | nil => cases b <;> rfl
  | cons t ts =>
    cases ht : skips b t.kind with
    | true => simp [next, ht, significant_of_skips ht]
    | false => simp [next, ht, significant_of_not_skips ht]

namespace Lexer

variable {l : Lexer} {b : Bool}

/-- Nothing having been put back, a lexer reads from its stream. -/
theorem nextSignificant_of_pushedBack (h : l.pushedBack = none) (b : Bool) :
    l.nextSignificant b = ((l.stream.significant b).1,
      ⟨(l.stream.significant b).2, some (l.stream.significant b).1, none⟩) := by
  rw [TokenStream.significant_loop]
  simp only [nextSignificant, next, h]
  split <;> rfl

/-- Asking for a token that is no layout is asking for tokens until there is one. -/
theorem nextSignificant_loop (l : Lexer) (b : Bool) :
    l.nextSignificant b = if skips b l.next.1.kind then l.next.2.nextSignificant b else l.next := by
  rw [nextSignificant_of_pushedBack l.pushedBack_next, nextSignificant]

/-- The first token that is no layout is given, and those before it are passed over. There is one,
since the end of the script is none. -/
theorem nextSignificant_eq (l : Lexer) (b : Bool) :
    ∃ j, (∀ k < j, skips b (l.nth k).kind = true) ∧ skips b (l.nth j).kind = false ∧
      l.nextSignificant b = (l.nth j, l.past (j + 1)) := by
  -- The induction is on the tokens that are left, the one that has been put back among them.
  induction hn : l.stream.ahead.length + l.pushedBack.toList.length
    using Nat.strongRecOn generalizing l with
  | ind n ih =>
  rw [nextSignificant_loop]
  cases hskip : skips b l.next.1.kind with
  | false =>
    refine ⟨0, fun k hk => absurd hk (Nat.not_lt_zero k), hskip, ?_⟩
    rw [if_neg (by simp)]
    rfl
  | true =>
    have hfewer : l.next.2.stream.ahead.length + l.next.2.pushedBack.toList.length < n := by
      rw [l.pushedBack_next, ← hn]
      cases hback : l.pushedBack with
      | some t => simp [next, hback]
      | none =>
        cases hahead : l.stream.ahead with
        | cons t ts => simp [next, hback, TokenStream.next, hahead]
        | nil =>
          -- The end is passed over by nobody.
          rw [next, hback, TokenStream.next, hahead] at hskip
          cases b <;> cases hskip
    obtain ⟨j, hbefore, hj, heq⟩ := ih _ hfewer l.next.2 rfl
    refine ⟨j + 1, ?_, hj, ?_⟩
    · intro k hk
      cases k with
      | zero => exact hskip
      | succ k => exact hbefore k (Nat.lt_of_succ_lt_succ hk)
    · rw [if_pos rfl, heq]
      rfl

end Lexer

/-! ## Cursors -/

/-- Where a reader is among tokens that are numbered from zero. -/
structure Cursor where
  /-- The number of the next token. -/
  index : ℕ
  /-- Whether the token before it may be put back. -/
  mayUnread : Bool
  deriving DecidableEq, Repr

namespace Cursor

/-- Where a reader starts. -/
def start : Cursor := ⟨0, false⟩

/-- What a request does to a cursor over the tokens `T`, and what it gives. -/
inductive Step (T : ℕ → Token) : Cursor → Lexer.Request → Option Token → Cursor → Prop
  | next {i : ℕ} {f : Bool} : Step T ⟨i, f⟩ .next (some (T i)) ⟨i + 1, true⟩
  | significant {i j : ℕ} {f b : Bool} : i ≤ j → (∀ k, i ≤ k → k < j → skips b (T k).kind = true) →
      skips b (T j).kind = false → Step T ⟨i, f⟩ (.significant b) (some (T j)) ⟨j + 1, true⟩
  | unread {i : ℕ} : Step T ⟨i + 1, true⟩ .unread none ⟨i, false⟩
  /-- Nothing has been read since a token has been put back, or at all. -/
  | idle {i : ℕ} : Step T ⟨i, false⟩ .unread none ⟨i, false⟩

/-- What requests give that are made to a cursor one after the other. -/
inductive Runs (T : ℕ → Token) : Cursor → List Lexer.Request → List (Option Token) → Prop
  | nil {c : Cursor} : Runs T c [] []
  | cons {c c' : Cursor} {r : Lexer.Request} {rs : List Lexer.Request} {a : Option Token}
      {as : List (Option Token)} : Step T c r a c' → Runs T c' rs as → Runs T c (r :: rs) (a :: as)

variable {T : ℕ → Token} {c c' c'' : Cursor} {r : Lexer.Request} {rs : List Lexer.Request}
  {a a' : Option Token} {as : List (Option Token)} {l : Lexer}

/-- There is one thing that a request can do. -/
theorem Step.unique (h : Step T c r a c') (h' : Step T c r a' c'') : a = a' ∧ c' = c'' := by
  cases h with
  | next =>
    cases h'
    exact ⟨rfl, rfl⟩
  | @significant i j f b hij hbefore hj =>
    cases h' with
    | @significant _ j' _ _ hij' hbefore' hj' =>
      -- Neither of the two tokens stands before the other, for it would be passed over there.
      have hle : j ≤ j' := by
        by_contra hlt
        exact absurd (hbefore j' hij' (by omega)) (by simp [hj'])
      have hge : j' ≤ j := by
        by_contra hlt
        exact absurd (hbefore' j hij (by omega)) (by simp [hj])
      obtain rfl := Nat.le_antisymm hle hge
      exact ⟨rfl, rfl⟩
  | unread =>
    cases h'
    exact ⟨rfl, rfl⟩
  | idle =>
    cases h'
    exact ⟨rfl, rfl⟩

/-- A lexer is where the cursor is: it has the same tokens ahead, and the same one to put back. -/
structure Follows (T : ℕ → Token) (c : Cursor) (l : Lexer) : Prop where
  ahead : ∀ n, l.nth n = T (c.index + n)
  settled : c.mayUnread = false → l.last = none
  reading : c.mayUnread = true →
    l.pushedBack = none ∧ ∃ i, c.index = i + 1 ∧ l.last = some (T i)

theorem follows_start (l : Lexer) (h : l.last = none) : Follows l.nth start l where
  ahead n := by rw [start, Nat.zero_add]
  settled _ := h
  reading hf := nomatch hf

/-- After some tokens a lexer is where the cursor is behind them. -/
theorem Follows.past (h : Follows T c l) (j : ℕ) :
    Follows T ⟨c.index + j + 1, true⟩ (l.past (j + 1)) where
  ahead n := by rw [Lexer.nth_past, h.ahead, Nat.add_assoc c.index j, Nat.add_assoc c.index]
  settled hf := nomatch hf
  reading _ := ⟨l.pushedBack_past j, _, rfl, by rw [l.last_past, h.ahead]⟩

/-- A token that is put back is the next one. -/
theorem nth_unread {t : Token} (hlast : l.last = some t) (hback : l.pushedBack = none) :
    l.unread.nth 0 = t ∧ ∀ n, l.unread.nth (n + 1) = l.nth n := by
  have hunread : l.unread = ⟨l.stream, none, some t⟩ := by rw [Lexer.unread, hlast]
  rw [hunread]
  refine ⟨rfl, fun n => ?_⟩
  rw [Lexer.nth_eq hback, Lexer.nth, Lexer.next, Lexer.nth_eq rfl]

/-- A request takes a lexer to where it takes the cursor, and gives the same. -/
theorem Follows.step (h : Follows T c l) (r : Lexer.Request) :
    ∃ c', Step T c r (l.respond r).1 c' ∧ Follows T c' (l.respond r).2 := by
  obtain ⟨i, f⟩ := c
  cases r with
  | next =>
    refine ⟨⟨i + 1, true⟩, ?_, h.past 0⟩
    have hfirst : l.next.1 = T i := h.ahead 0
    rw [Lexer.respond, hfirst]
    exact .next
  | significant b =>
    obtain ⟨j, hbefore, hj, heq⟩ := l.nextSignificant_eq b
    rw [Lexer.respond, heq]
    refine ⟨_, ?_, h.past j⟩
    rw [h.ahead] at hj ⊢
    refine .significant (Nat.le_add_right i j) (fun k hik hkj => ?_) hj
    have hk := hbefore (k - i) (by simp only at hkj; omega)
    rwa [h.ahead, Nat.add_sub_of_le hik] at hk
  | unread =>
    -- There is a token to put back only if one has been read since the last was put back.
    cases f with
    | false =>
      refine ⟨⟨i, false⟩, .idle, ?_⟩
      have hunread : l.unread = l := by rw [Lexer.unread, h.settled rfl]
      rw [Lexer.respond, hunread]
      exact h
    | true =>
      obtain ⟨hback, i, rfl, hlast⟩ := h.reading rfl
      obtain ⟨hfirst, hrest⟩ := nth_unread hlast hback
      refine ⟨⟨i, false⟩, .unread, ?_, ?_, fun hf => nomatch hf⟩
      · intro n
        cases n with
        | zero => exact hfirst
        | succ n =>
          rw [Lexer.respond, hrest, h.ahead, Nat.add_right_comm]
          rfl
      · intro _
        rw [Lexer.respond, Lexer.unread, hlast]

/-- A lexer that is where the cursor is answers as the cursor does. -/
theorem Follows.runs_iff (h : Follows T c l) : Runs T c rs as ↔ l.answers rs = as := by
  -- The induction is on the requests; what the first one does is settled by the step.
  induction rs generalizing c l as with
  | nil =>
    constructor
    · rintro ⟨⟩
      rfl
    · rintro rfl
      exact .nil
  | cons r rs ih =>
    obtain ⟨c', hstep, hfollows⟩ := h.step r
    constructor
    · rintro (_ | ⟨hstep', hruns⟩)
      obtain ⟨rfl, rfl⟩ := hstep.unique hstep'
      rw [Lexer.answers, (ih hfollows).1 hruns]
    · rintro rfl
      exact .cons hstep ((ih hfollows).2 rfl)

end Cursor

/-! ## Reading to the end -/

/-- Reading tokens that are no layout gives all of them, and the end last. -/
theorem answers_replicate {l : Lexer} (h : l.pushedBack = none) (b : Bool) :
    l.answers (List.replicate (l.stream.filtered b).length (.significant b)) =
      (l.stream.filtered b).map some := by
  obtain ⟨⟨ahead, finish⟩, last, back⟩ := l
  obtain rfl : back = none := h
  induction ahead generalizing last with
  | nil => cases b <;> rfl
  | cons t ts ih =>
    cases ht : skips b t.kind with
    | true =>
      have hsame : Lexer.nextSignificant ⟨⟨t :: ts, finish⟩, last, none⟩ b =
          Lexer.nextSignificant ⟨⟨ts, finish⟩, last, none⟩ b := by
        rw [Lexer.nextSignificant_of_pushedBack rfl, Lexer.nextSignificant_of_pushedBack rfl,
          TokenStream.significant_of_skips ht]
      -- The end is always left to be read, so that there is a request.
      obtain ⟨k, hk⟩ : ∃ k, (TokenStream.filtered ⟨ts, finish⟩ b).length = k + 1 :=
        ⟨_, by rw [TokenStream.filtered, List.length_append, List.length_singleton]⟩
      have hih := ih last
      rw [TokenStream.filtered_of_skips ht]
      rw [hk, List.replicate_succ, Lexer.answers, Lexer.respond] at hih ⊢
      rwa [hsame]
    | false =>
      rw [TokenStream.filtered_of_not_skips ht, List.length_cons, List.replicate_succ,
        Lexer.answers, Lexer.respond, Lexer.nextSignificant_of_pushedBack rfl,
        TokenStream.significant_of_not_skips ht, List.map_cons]
      exact congrArg _ (ih (some t))

/-- A reader that asks a lexer for tokens and puts some back gets what a cursor over the tokens of
the script gives. In particular reading ends: the end of the script is the first token from some
number on, and asking again and again for tokens that are no layout gives those before it, less the
layout, and then the end. -/
theorem answers_eq_iff_runs (source : String) :
    (∀ rs as, (Lexer.ofText source).answers rs = as ↔
      Cursor.Runs (Lexer.ofText source).nth .start rs as) ∧
    ∃ n, (∀ i, ((Lexer.ofText source).nth i).kind = .endOfScript ↔ n ≤ i) ∧
      (∀ i, (Lexer.ofText source).nth (n + i) = (Lexer.ofText source).nth n) ∧
      ∀ b, (TokenStream.ofText source).filtered b =
          ((List.range (n + 1)).map (Lexer.ofText source).nth).filter (!skips b ·.kind) ∧
        (Lexer.ofText source).answers
            (List.replicate ((TokenStream.ofText source).filtered b).length (.significant b)) =
          ((TokenStream.ofText source).filtered b).map some := by
  have hnth : ∀ i, (Lexer.ofText source).nth i =
      (TokenStream.ofText source).ahead[i]?.getD (TokenStream.ofText source).endToken :=
    Lexer.nth_eq rfl
  refine ⟨fun rs as => (Cursor.follows_start _ rfl).runs_iff.symm,
    (TokenStream.ofText source).ahead.length, fun i => ?_, fun i => ?_, fun b => ⟨?_, ?_⟩⟩
  · rw [hnth]
    constructor
    · intro hkind
      by_contra hlt
      rw [List.getElem?_eq_getElem (by omega), Option.getD_some] at hkind
      exact kind_ne_endOfScript_of_mem_ofLexemes (List.getElem_mem _) hkind
    · intro hle
      rw [List.getElem?_eq_none hle]
      rfl
  · rw [hnth, hnth, List.getElem?_eq_none (Nat.le_add_right _ _), List.getElem?_eq_none le_rfl]
  · have hraw : (List.range ((TokenStream.ofText source).ahead.length + 1)).map
        (Lexer.ofText source).nth = (TokenStream.ofText source).raw := by
      refine List.ext_getElem (by simp [TokenStream.raw]) fun i hi hi' => ?_
      rw [List.getElem_map, List.getElem_range, hnth]
      simp only [TokenStream.raw, List.getElem_append, List.getElem_singleton]
      split
      · next hlt => rw [List.getElem?_eq_getElem hlt, Option.getD_some]
      · next hlt => rw [List.getElem?_eq_none (by omega), Option.getD_none]
    have hend : skips b (TokenStream.ofText source).endToken.kind = false := by cases b <;> rfl
    rw [hraw, TokenStream.raw, List.filter_append, TokenStream.filtered,
      List.filter_cons_of_pos (by simp [hend]), List.filter_nil]
  · exact answers_replicate rfl b

end ProxyTrial.Script
