import ProxyTrial.Proofs.Script.Command
import ProxyTrial.Proofs.Script.Prompt
import ProxyTrial.Proofs.Script.WellFormed
/-!
# What the flags of a command say together

The flags of a `tx` command are read up to the token that ends it, which is the next one then. The
last flag of each kind has the word, and a header has the last word about its name. So only the
order of flags of the same kind matters, and not how kinds are mixed.

## Main definitions

* `Setting.flag`: the flag that sets something
* `Reordered l l'`: the same settings in another order, those of each flag in the same one

## Main results

* `readFlags_append`: flags are read up to what ends them
* `flags_last_of_each_kind`: what flags mean, in any order
-/

namespace ProxyTrial.Script

open Grammar

/-! ## The order of flags -/

namespace Grammar

/-- The flag that sets something. -/
def Setting.flag : Setting → Kind
  | status _ => .statusFlag
  | header _ _ => .headerFlag
  | body _ => .bodyFlag
  | method _ => .methodFlag
  | target _ => .urlFlag

/-- The same settings in another order, those of each flag in the same one. -/
def Reordered (l l' : List Setting) : Prop :=
  ∀ k, l'.filter (·.flag == k) = l.filter (·.flag == k)

variable {l l' : List Setting}

/-- What only one flag sets is set in the same order. -/
theorem Reordered.filterMap_eq (h : Reordered l l') {α : Type} {value? : Setting → Option α}
    {k : Kind} (hk : ∀ e a, value? e = some a → e.flag = k) :
    l'.filterMap value? = l.filterMap value? := by
  have hone (l : List Setting) : (l.filter (·.flag == k)).filterMap value? =
      l.filterMap value? := by
    rw [List.filterMap_filter]
    refine List.filterMap_congr fun e _ => ?_
    cases hvalue : value? e with
    | none => exact ite_self none
    | some a => exact if_pos (beq_iff_eq.2 (hk e a hvalue))
  rw [← hone l', ← hone l, h k]

theorem flag_of_status? (e : Setting) (code : Int) (h : e.status? = some code) :
    e.flag = .statusFlag := by
  cases e <;> cases h
  rfl

theorem flag_of_header? (e : Setting) (f : String × String) (h : e.header? = some f) :
    e.flag = .headerFlag := by
  cases e <;> cases h
  rfl

theorem flag_of_body? (e : Setting) (text : String) (h : e.body? = some text) :
    e.flag = .bodyFlag := by
  cases e <;> cases h
  rfl

theorem flag_of_method? (e : Setting) (name : String) (h : e.method? = some name) :
    e.flag = .methodFlag := by
  cases e <;> cases h
  rfl

theorem flag_of_target? (e : Setting) (text : String) (h : e.target? = some text) :
    e.flag = .urlFlag := by
  cases e <;> cases h
  rfl

/-- Which reply flags make depends on the order of those of the same kind only. -/
theorem Reordered.reply_eq (h : Reordered l l') : reply l' = reply l := by
  simp only [reply, last, h.filterMap_eq flag_of_status?, h.filterMap_eq flag_of_header?,
    h.filterMap_eq flag_of_body?]

/-- Which call flags make depends on the order of those of the same kind only. -/
theorem Reordered.call_eq (h : Reordered l l') : call l' = call l := by
  simp only [call, last, h.filterMap_eq flag_of_method?, h.filterMap_eq flag_of_target?,
    h.filterMap_eq flag_of_header?, h.filterMap_eq flag_of_body?]

end Grammar

/-! ## Flags and what ends them -/

variable {pieces after : List Token} {finish : Place} {l l' : List Setting}

/-- The first symbol of some tokens is taken from them, and the tokens behind them stay. -/
theorem significant_append {x : Symbol} {xs : List Symbol} (h : symbolsOf pieces = x :: xs) :
    ∃ t more, t.symbol = x ∧ symbolsOf more = xs ∧ more.length < pieces.length ∧
      ∀ after finish, TokenStream.significant ⟨pieces ++ after, finish⟩ false =
        (t, ⟨more ++ after, finish⟩) := by
  induction pieces with
  | nil => cases h
  | cons t pieces ih =>
    by_cases ht : t.kind = .blank
    · rw [symbolsOf_cons_blank pieces ht] at h
      obtain ⟨u, more, hu, hmore, hlen, htake⟩ := ih h
      refine ⟨u, more, hu, hmore, Nat.lt_succ_of_lt hlen, fun after finish => ?_⟩
      rw [List.cons_append, TokenStream.significant_of_skips (by simp [TokenStream.skips, ht])]
      exact htake after finish
    · rw [symbolsOf_cons pieces ht] at h
      obtain ⟨hsymbol, hmore⟩ := List.cons.inj h
      refine ⟨t, pieces, hsymbol, hmore, Nat.lt_succ_self _, fun after finish => ?_⟩
      rw [List.cons_append,
        TokenStream.significant_of_not_skips (by simp [TokenStream.skips, ht])]

/-- Blanks are passed over. -/
theorem significant_blanks (h : symbolsOf pieces = []) (after : List Token) (finish : Place) :
    TokenStream.significant ⟨pieces ++ after, finish⟩ false =
      TokenStream.significant ⟨after, finish⟩ false := by
  induction pieces with
  | nil => rfl
  | cons t pieces ih =>
    have ht : t.kind = .blank := by
      by_contra hne
      rw [symbolsOf_cons pieces hne] at h
      cases h
    rw [symbolsOf_cons_blank pieces ht] at h
    rw [List.cons_append, TokenStream.significant_of_skips (by simp [TokenStream.skips, ht]), ih h]

/-- What ends flags is put back, so that it is the next token. -/
theorem putBack_end (hend : EndsFlags (after.map Token.symbol)) (finish : Place) :
    ∃ t s, TokenStream.significant ⟨after, finish⟩ false = (t, s) ∧ endsTx t.kind ∧
      s.putBack t = ⟨after, finish⟩ ∧ TokenStream.next ⟨after, finish⟩ = (t, s) := by
  cases after with
  | nil => exact ⟨⟨.endOfScript, "", finish⟩, ⟨[], finish⟩, rfl, rfl, rfl, rfl⟩
  | cons t after =>
    have ht : t.kind = .lineBreak ∨ t.kind = .closeBrace := hend
    have hskips : TokenStream.skips false t.kind = false := by
      rcases ht with ht | ht <;> rw [ht] <;> rfl
    refine ⟨t, ⟨after, finish⟩, TokenStream.significant_of_not_skips hskips after finish, ?_, ?_,
      rfl⟩
    · rcases ht with ht | ht <;> rw [ht] <;> rfl
    · rw [TokenStream.putBack, if_neg (by rcases ht with ht | ht <;> simp [ht])]

section Flags

variable {α : Type} {flag : Token → α → TokenStream → Except ScriptError (α × TokenStream)}
  {fits : Setting → Bool} {set : α → Setting → α}

/-- Flags are read up to what ends them, and set one after the other. -/
theorem readFlags_append
    (hflag : ∀ {t u : Token} {e : Setting} {s s' : TokenStream} (a : α),
      s.significant false = (u, s') → Sets t.symbol u.symbol e → fits e →
      flag t a s = .ok (set a e, s'))
    (hset : Settings (symbolsOf pieces) l) (hfits : ∀ e ∈ l, fits e)
    (hend : EndsFlags (after.map Token.symbol)) {fuel : Nat} (hfuel : pieces.length < fuel)
    (a : α) : readFlags flag fuel a ⟨pieces ++ after, finish⟩ =
      .ok (l.foldl set a, ⟨after, finish⟩) := by
  -- The induction is on the settings: each takes a flag and its value from the pieces.
  generalize hsymbols : symbolsOf pieces = xs at hset
  induction hset generalizing pieces fuel a with
  | nil =>
    obtain ⟨fuel, rfl⟩ := Nat.exists_eq_add_one_of_ne_zero (Nat.ne_zero_of_lt hfuel)
    obtain ⟨t, s, htake, hends, hback, -⟩ := putBack_end hend finish
    rw [readFlags, significant_blanks hsymbols, htake]
    simp only [hends, if_true, hback, List.foldl_nil]
  | @cons f v e xs l hsets _ ih =>
    obtain ⟨fuel, rfl⟩ := Nat.exists_eq_add_one_of_ne_zero (Nat.ne_zero_of_lt hfuel)
    obtain ⟨t, rest, rfl, hrest, hlt, htake⟩ := significant_append hsymbols
    obtain ⟨u, more, rfl, hmore, hlt', htake'⟩ := significant_append hrest
    rw [List.forall_mem_cons] at hfits
    have hnot : endsTx t.kind = false := hsets.not_endsTx
    rw [readFlags, htake]
    simp only [hnot, Bool.false_eq_true, if_false, hflag a (htake' after finish) hsets hfits.1,
      ok_bind, List.foldl_cons]
    exact ih hfits.2 (by omega) (set a e) hmore

end Flags

/-- The flags of a command mean what the last one of each kind says, and each header what the last
one with its name says; so they do in any other order in which those of each kind stay in theirs.
They are read up to the token that ends them, and that one is next. -/
theorem flags_last_of_each_kind (hset : Settings (symbolsOf pieces) l)
    (hend : EndsFlags (after.map Token.symbol)) (h : Reordered l l') :
    ((∀ e ∈ l, e.isForReply) → readReply ⟨pieces ++ after, finish⟩ =
      .ok ({ status := last Setting.status? 200 l',
             headers := latest (l'.filterMap Setting.header?),
             body := last Setting.body? "" l' }, ⟨after, finish⟩)) ∧
    ((∀ e ∈ l, e.isForCall) → readCall ⟨pieces ++ after, finish⟩ =
      .ok ({ method := last Setting.method? "GET" l', target := last Setting.target? "" l',
             headers := latest (l'.filterMap Setting.header?), body := last Setting.body? "" l' },
        ⟨after, finish⟩)) ∧
    (latest (l'.filterMap Setting.header?)).Pairwise (fun g h => Text.lower g.1 ≠ Text.lower h.1) ∧
    endsTx (TokenStream.next ⟨after, finish⟩).1.kind := by
  have hfuel : pieces.length < (TokenStream.mk (pieces ++ after) finish).ahead.length + 1 := by
    rw [List.length_append]
    omega
  refine ⟨fun hfits => ?_, fun hfits => ?_, latest_distinct _, ?_⟩
  · rw [readReply, readFlags_append readReplyFlag_of_sets hset hfits hend hfuel,
      foldl_setReply hfits, ← h.reply_eq]
    rfl
  · rw [readCall, readFlags_append readCallFlag_of_sets hset hfits hend hfuel,
      foldl_setCall hfits, ← h.call_eq]
    rfl
  · obtain ⟨t, s, -, hends, -, hnext⟩ := putBack_end hend finish
    rwa [hnext]

/-- A body between two headers with the same name, read as if it came last. -/
theorem flags_last_of_each_kind_mixed :
    let s := TokenStream.ofText "-header \"A: 1\" -body \"x\" -status 404 -header \"a : 2\" \x7d"
    ∃ s', readReply s = .ok ({ status := 404, headers := [("a", "2")], body := "x" }, s') ∧
      s'.next.1.kind = .closeBrace := by
  let pieces := (TokenStream.ofText
    "-header \"A: 1\" -body \"x\" -status 404 -header \"a : 2\" \x7d").ahead.dropLast
  let brace : Token := ⟨.closeBrace, "\x7d", ⟨1, 54⟩⟩
  have hstream : TokenStream.ofText
      "-header \"A: 1\" -body \"x\" -status 404 -header \"a : 2\" \x7d" =
        ⟨pieces ++ [brace], ⟨1, 55⟩⟩ := by decide +kernel
  have hsymbols : symbolsOf pieces =
      [⟨.headerFlag, "-header"⟩, ⟨.string, "A: 1"⟩, ⟨.bodyFlag, "-body"⟩, ⟨.string, "x"⟩,
        ⟨.statusFlag, "-status"⟩, ⟨.integer, "404"⟩, ⟨.headerFlag, "-header"⟩,
        ⟨.string, "a : 2"⟩] := by decide +kernel
  have hset : Settings (symbolsOf pieces)
      [.header "A" "1", .body "x", .status 404, .header "a" "2"] := by
    rw [hsymbols]
    have hfirst : IsHeader "A: 1" "A" "1" := splitHeader_eq_some_iff.1 (by decide +kernel)
    have hlast : IsHeader "a : 2" "a" "2" := splitHeader_eq_some_iff.1 (by decide +kernel)
    exact .cons (.header hfirst) (.cons .body (.cons (.status (by decide +kernel) (by decide)
      (by decide)) (.cons (.header hlast) .nil)))
  have hreordered : Reordered [.header "A" "1", .body "x", .status 404, .header "a" "2"]
      [.status 404, .header "A" "1", .header "a" "2", .body "x"] := by
    intro k
    cases k <;> rfl
  have hend : EndsFlags ([brace].map Token.symbol) := .inr rfl
  have hread : _ → readReply ⟨pieces ++ [brace], ⟨1, 55⟩⟩ = _ :=
    (flags_last_of_each_kind hset hend hreordered).1
  intro s
  refine ⟨⟨[brace], ⟨1, 55⟩⟩, ?_, rfl⟩
  have hheaders : latest [("A", "1"), ("a", "2")] = [("a", "2")] := by decide +kernel
  rw [show s = ⟨pieces ++ [brace], ⟨1, 55⟩⟩ from hstream, hread (by decide), ← hheaders]
  rfl

end ProxyTrial.Script
