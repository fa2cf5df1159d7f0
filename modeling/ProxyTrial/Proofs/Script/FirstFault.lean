import ProxyTrial.Proofs.Script.Prefix
import ProxyTrial.Proofs.Script.Readers
import ProxyTrial.Proofs.Script.Recognition
/-!
# Faults are found at the first impossible token

A script that cannot be read has a fault at a token. The tokens before that one can be completed to
a script, and to a text of one; with that one there is no script any more, and the fault is the same
whatever follows it.

## Main definitions

* `lineTokens source`: the tokens of a text as a reader meets them that heeds line breaks
* `stanzas script s`: reading the stanzas after those of a script

## Main results

* `stanzas_fails`: faults of stanzas are found at once
* `first_impossible_token`: faults are found at the first impossible token
-/

namespace ProxyTrial.Script

open TokenStream (skips)

/-! ## Stanzas -/

/-- Reads stanzas after those of a script. -/
def stanzas (script : Script) (s : TokenStream) : Except ScriptError Script :=
  readStanzas (s.ahead.length + 1) script s

/-- Stanzas after their first token. -/
def stanzasAfter (script : Script) (t : Token) (s : TokenStream) : Except ScriptError Script :=
  match t.kind with
  | .endOfScript =>
    if script.handlers.isEmpty && script.clients.isEmpty then .error (.faultAt .noStanza t)
    else .ok script
  | .handle => readHandler s >>= fun p =>
      stanzas { script with handlers := script.handlers ++ [p.1] } p.2
  | .client => readClient s >>= fun p =>
      stanzas { script with clients := script.clients ++ [p.1] } p.2
  | .illegal => .error (.faultAt .syntaxError t)
  | _ => .error (.faultAt .notAStanza t)

variable {s : TokenStream} {bs ts us : List Token} {t : Token} {f : Fault} {script : Script}
  {xs : List Symbol}

theorem readStanzas_congr {n m : ℕ} (script : Script) (hs : s.Faces ts) (hn : ts.length ≤ n)
    (hm : ts.length ≤ m) : readStanzas n script s = readStanzas m script s := by
  induction n generalizing m script s ts with
  | zero => exact absurd (List.length_eq_zero_iff.1 (Nat.le_zero.1 hn)) hs.ne_nil
  | succ n ih =>
    obtain ⟨bs, t, rest, rfl, hfirst, hrest⟩ := hs.exists_first
    rw [List.length_append, List.length_cons] at hn hm
    obtain ⟨m, rfl⟩ := Nat.exists_eq_add_of_le' (show 1 ≤ m by omega)
    simp only [readStanzas, hfirst]
    split
    · rfl
    · next hk =>
      rw [if_neg (by simp [hk])] at hrest
      refine bind_congr_of_ok fun p hp => ?_
      obtain ⟨ts', hs', hle⟩ := reads_readHandler.faces hrest hp
      exact ih _ hs' (by omega) (by omega)
    · next hk =>
      rw [if_neg (by simp [hk])] at hrest
      refine bind_congr_of_ok fun p hp => ?_
      obtain ⟨ts', hs', hle⟩ := reads_readClient.faces hrest hp
      exact ih _ hs' (by omega) (by omega)
    · rfl
    · rfl

theorem stanzas_eq (script : Script) (hs : s.Faces (bs ++ t :: ts))
    (hbs : ∀ u ∈ bs, skips true u.kind = true) (ht : skips true t.kind = false) :
    ∃ s', stanzas script s = stanzasAfter script t s' ∧
      s'.Faces (if t.kind = .endOfScript then [t] else ts) := by
  obtain ⟨hfirst, hrest⟩ := hs.significant hbs ht
  refine ⟨(s.significant true).2, ?_, hrest⟩
  have hfuel := hs.length_le
  rw [List.length_append, List.length_cons] at hfuel
  simp only [stanzas, readStanzas, stanzasAfter, hfirst]
  cases hk : t.kind
  case handle =>
    rw [if_neg (by simp [hk])] at hrest
    refine bind_congr_of_ok fun p hp => ?_
    obtain ⟨ts', hs', hle⟩ := reads_readHandler.faces hrest hp
    exact readStanzas_congr _ hs' (by omega) hs'.length_le
  case client =>
    rw [if_neg (by simp [hk])] at hrest
    refine bind_congr_of_ok fun p hp => ?_
    obtain ⟨ts', hs', hle⟩ := reads_readClient.faces hrest hp
    exact readStanzas_congr _ hs' (by omega) hs'.length_le
  all_goals rfl

/-- There is a fault at a token behind others, whatever follows it. -/
def ScriptFailsAt (script : Script) (us : List Token) (f : Fault) (t : Token) : Prop :=
  ∀ s ts, s.Faces (us ++ t :: ts) → stanzas script s = .error (.faultAt f t)

/-- Symbols that complete tokens to stanzas, which the end follows. -/
def ScriptCompletedBy (script : Script) (us : List Token) (xs : List Symbol) : Prop :=
  ∀ s vs e, vs.map Token.symbol = xs → s.Faces (us ++ (vs ++ [e])) →
    ∃ script', stanzas script s = .ok script'

/-- After a stanza the end may come. -/
theorem stanzas_end {e : Token} (hs : s.Faces (bs ++ [e]))
    (hbs : ∀ u ∈ bs, skips true u.kind = true)
    (hne : (script.handlers.isEmpty && script.clients.isEmpty) = false) :
    stanzas script s = .ok script := by
  obtain ⟨init, he, -⟩ := hs.eq_concat
  obtain ⟨-, he⟩ := List.append_inj' he rfl
  obtain ⟨rfl, -⟩ := List.cons.inj he
  obtain ⟨s', heq, -⟩ := stanzas_eq script hs hbs rfl
  rw [heq, stanzasAfter]
  simp only [TokenStream.endToken, hne]
  rfl

section Stanza

variable {α : Type} {r : Reader α} {add : α → Script}

/-- A reader of one stanza with its keyword `t`, which goes on with the stanzas after it. -/
structure StanzaReader (script : Script) (t : Token) (r : Reader α) (add : α → Script)
    (xs : List Symbol) : Prop where
  reads : ∀ n, Reads n anyKind r xs
  after : ∀ s, stanzasAfter script t s = r s >>= fun p => stanzas (add p.1) p.2
  not_end : t.kind ≠ .endOfScript
  not_skipped : skips true t.kind = false
  nonempty : ∀ a, ((add a).handlers.isEmpty && (add a).clients.isEmpty) = false

theorem stanzaReader_handle (hk : t.kind = .handle) : StanzaReader script t readHandler
    (fun h => { script with handlers := script.handlers ++ [h] }) handlerSymbols where
  reads _ := reads_readHandler
  after s := by rw [stanzasAfter, hk]
  not_end := by simp [hk]
  not_skipped := by rw [hk]; rfl
  nonempty h := by simp

theorem stanzaReader_client (hk : t.kind = .client) : StanzaReader script t readClient
    (fun c => { script with clients := script.clients ++ [c] }) clientSymbols where
  reads _ := reads_readClient
  after s := by rw [stanzasAfter, hk]
  not_end := by simp [hk]
  not_skipped := by rw [hk]; rfl
  nonempty c := by simp

/-- Symbols that complete a stanza complete the stanzas. -/
theorem StanzaReader.completedBy {ys : List Symbol} (h : StanzaReader script t r add ys)
    (hbs : ∀ u ∈ bs, skips true u.kind = true) (hc : CompletedBy anyKind r us xs) :
    ScriptCompletedBy script (bs ++ t :: us) xs := by
  intro s vs e hvs hs
  rw [List.append_assoc, List.cons_append] at hs
  obtain ⟨s₁, heq, hs₁⟩ := stanzas_eq script hs hbs h.not_skipped
  rw [if_neg h.not_end, ← List.append_assoc] at hs₁
  obtain ⟨a, ha⟩ := hc vs hvs
  obtain ⟨s₂, hr, hs₂⟩ := ha s₁ [e] hs₁ fun _ _ => rfl
  refine ⟨add a, ?_⟩
  rw [heq, h.after, hr, ok_bind]
  exact stanzas_end (show s₂.Faces ([] ++ [e]) from hs₂) (List.forall_mem_nil _) (h.nonempty a)

/-- A shortest handler completes line breaks to stanzas. -/
theorem scriptCompletedBy_handler (script : Script) (hbs : ∀ u ∈ bs, skips true u.kind = true) :
    ScriptCompletedBy script bs (⟨.handle, "handle"⟩ :: handlerSymbols) := by
  intro s vs e hvs hs
  obtain ⟨v, vs, rfl, hv, hvs⟩ := List.map_eq_cons_iff.1 hvs
  have hreader : StanzaReader script v readHandler _ handlerSymbols :=
    stanzaReader_handle (congrArg Symbol.kind hv)
  refine hreader.completedBy hbs (reads_readHandler (n := 0)).completed s vs e hvs ?_
  simpa using hs

/-- Faults are found at once after a stanza if they are there. -/
theorem StanzaReader.fails {ys : List Symbol} (h : StanzaReader script t r add ys)
    (hbs : ∀ u ∈ bs, skips true u.kind = true) (hs : s.Faces (bs ++ t :: ts)) {u : Token}
    (hfault : stanzas script s = .error (.faultAt f u))
    (ih : ∀ a s' ts', s'.Faces ts' → ts'.length ≤ ts.length →
      stanzas (add a) s' = .error (.faultAt f u) → ∃ us rest xs, ts' = us ++ u :: rest ∧
        ScriptFailsAt (add a) us f u ∧ Spelled xs ∧ ScriptCompletedBy (add a) us xs) :
    ∃ us rest xs, bs ++ t :: ts = us ++ u :: rest ∧ ScriptFailsAt script us f u ∧ Spelled xs ∧
      ScriptCompletedBy script us xs := by
  have hnext : ∀ {s ts}, s.Faces (bs ++ t :: ts) → ∃ s', s'.Faces ts ∧
      stanzas script s = r s' >>= fun p => stanzas (add p.1) p.2 := by
    intro s ts hs
    obtain ⟨s', heq, hs'⟩ := stanzas_eq script hs hbs h.not_skipped
    rw [if_neg h.not_end] at hs'
    exact ⟨s', hs', heq.trans (h.after s')⟩
  obtain ⟨s₁, hs₁, heq⟩ := hnext hs
  rw [heq] at hfault
  have hprompt := (h.reads ts.length).prompt hs₁ (Nat.le_refl _)
  cases hr : r s₁ with
  | error e =>
    rw [hr] at hfault
    obtain rfl := Except.error.inj hfault
    obtain ⟨us, rest, zs, rfl, hfails, hzs, hc⟩ := hprompt.fails hr
    refine ⟨bs ++ t :: us, rest, zs, by simp, fun s ts hs => ?_, hzs, h.completedBy hbs hc⟩
    rw [List.append_assoc, List.cons_append] at hs
    obtain ⟨s', hs', heq⟩ := hnext hs
    rw [heq, hfails s' ts hs']
    rfl
  | ok p =>
    obtain ⟨a, s₂⟩ := p
    rw [hr, ok_bind] at hfault
    obtain ⟨us, rest, rfl, -, hyields, hs₂⟩ := hprompt.yields_faces hs₁ hr
    obtain ⟨vs, rest', zs, rfl, hfails, hzs, hc⟩ := ih a s₂ rest hs₂ (by simp) hfault
    -- The stanza is read again, whatever follows it, and then the stanzas are as they were.
    have hagain : ∀ {s ts}, s.Faces (bs ++ t :: us ++ ts) → ∃ s', s'.Faces ts ∧
        stanzas script s = stanzas (add a) s' := by
      intro s ts hs
      rw [List.append_assoc, List.cons_append] at hs
      obtain ⟨s₁, hs₁, heq⟩ := hnext hs
      obtain ⟨s₂, hr, hs₂⟩ := hyields s₁ ts hs₁ fun _ _ => rfl
      exact ⟨s₂, hs₂, by rw [heq, hr, ok_bind]⟩
    refine ⟨bs ++ t :: us ++ vs, rest', zs, by simp, fun s ts hs => ?_, hzs,
      fun s ws e hws hs => ?_⟩
    · rw [List.append_assoc] at hs
      obtain ⟨s', hs', heq⟩ := hagain hs
      rw [heq]
      exact hfails s' ts hs'
    · rw [List.append_assoc (bs ++ t :: us)] at hs
      obtain ⟨s', hs', heq⟩ := hagain hs
      rw [heq]
      exact hc s' ws e hws hs'

end Stanza

/-- Faults of stanzas are found at the first token with which there is no script any more. -/
theorem stanzas_fails (hs : s.Faces ts) {u : Token}
    (hfault : stanzas script s = .error (.faultAt f u)) :
    ∃ us rest xs, ts = us ++ u :: rest ∧ ScriptFailsAt script us f u ∧ Spelled xs ∧
      ScriptCompletedBy script us xs := by
  induction hn : ts.length using Nat.strongRecOn generalizing s ts script with
  | ind n ih =>
  obtain ⟨bs, t, rest, rfl, hbs, ht⟩ := hs.exists_significant true
  rw [List.length_append, List.length_cons] at hn
  have hspelled : Spelled (⟨.handle, "handle"⟩ :: handlerSymbols) :=
    List.forall_mem_cons.2 ⟨spelled_keyword (by decide), (reads_readHandler (n := 0)).spelled⟩
  -- A fault at the token itself is there without regard to what is behind it.
  have hhere : ∀ g, (∀ s, stanzasAfter script t s = .error (.faultAt g t)) →
      ∃ us rest' xs, bs ++ t :: rest = us ++ u :: rest' ∧ ScriptFailsAt script us f u ∧
        Spelled xs ∧ ScriptCompletedBy script us xs := by
    intro g hg
    have herror : ScriptFailsAt script bs g t := by
      intro s ts hs
      obtain ⟨s', heq, -⟩ := stanzas_eq script hs hbs ht
      rw [heq, hg]
    obtain ⟨rfl, rfl⟩ := ScriptError.faultAt.inj
      (Except.error.inj ((herror s rest hs).symm.trans hfault))
    exact ⟨bs, rest, _, rfl, herror, hspelled, scriptCompletedBy_handler script hbs⟩
  cases hk : t.kind
  case handle =>
    exact (stanzaReader_handle hk).fails hbs hs hfault fun a s' ts' hs' hle hfault' =>
      ih ts'.length (by omega) hs' hfault' rfl
  case client =>
    exact (stanzaReader_client hk).fails hbs hs hfault fun a s' ts' hs' hle hfault' =>
      ih ts'.length (by omega) hs' hfault' rfl
  case endOfScript =>
    cases hne : script.handlers.isEmpty && script.clients.isEmpty with
    | true => exact hhere .noStanza fun s => by rw [stanzasAfter, hk]; simp only [hne, if_true]
    | false =>
      obtain ⟨s', heq, -⟩ := stanzas_eq script hs hbs ht
      rw [heq, stanzasAfter, hk] at hfault
      simp only [hne] at hfault
      cases hfault
  case illegal => exact hhere .syntaxError fun s => by rw [stanzasAfter, hk]
  all_goals exact hhere .notAStanza fun s => by rw [stanzasAfter, hk]

/-! ## Scripts -/

/-- The tokens of a text as a reader meets them that heeds line breaks; the last one is the end. -/
def lineTokens (source : String) : List Token := (TokenStream.ofText source).filtered false

theorem faces_lineTokens (source : String) :
    (TokenStream.ofText source).Faces (lineTokens source) :=
  ⟨fun _ ht => kind_ne_endOfScript_of_mem_ofLexemes ht, rfl⟩

/-- Tokens that stand in a text are those of a stream, wherever they stand. -/
theorem exists_faces (hs : s.Faces ts) (hus : us.map Token.symbol = ts.map Token.symbol) :
    ∃ s' : TokenStream, s'.Faces us := by
  obtain ⟨init, rfl, hinit⟩ := hs.eq_concat
  rw [List.map_append] at hus
  obtain ⟨init', last, rfl, hinit', hlast⟩ := List.map_eq_append_iff.1 hus
  obtain ⟨e, last, rfl, he, hnil⟩ := List.map_eq_cons_iff.1 hlast
  obtain rfl := List.map_eq_nil_iff.1 hnil
  have hkinds : ∀ t ∈ init', t.kind ≠ .endOfScript ∧ t.kind ≠ .blank := by
    intro t ht
    obtain ⟨u, hu, hsame⟩ := List.mem_map.1 (hinit' ▸ List.mem_map_of_mem ht)
    have hkind : u.kind = t.kind := congrArg Symbol.kind hsame
    exact hkind ▸ hinit u hu
  have hfilter : init'.filter (fun t => !skips false t.kind) = init' := by
    refine List.filter_eq_self.2 fun t ht => ?_
    simpa [skips] using (hkinds t ht).2
  obtain ⟨k, w, p⟩ := e
  obtain ⟨rfl, rfl⟩ := Symbol.mk.inj he
  refine ⟨⟨init', p⟩, fun t ht => (hkinds t ht).1, ?_⟩
  rw [TokenStream.filtered, hfilter]
  rfl

theorem TokenStream.Faces.holds (hs : s.Faces ts) :
    ∃ xs, s.Holds xs ∧ ts.map Token.symbol = xs ++ [⟨.endOfScript, ""⟩] := by
  refine ⟨_, ⟨hs.inside, rfl⟩, ?_⟩
  rw [← hs.filtered, TokenStream.filtered, List.map_append]
  rfl

/-- Whether a script is read depends on the symbols ahead. -/
theorem stanzas_congr {s' : TokenStream} (hs : s.Faces ts) (hs' : s'.Faces us)
    (hsame : us.map Token.symbol = ts.map Token.symbol) (h : stanzas ⟨[], []⟩ s = .ok script) :
    stanzas ⟨[], []⟩ s' = .ok script := by
  obtain ⟨xs, hx, hxs⟩ := hs.holds
  obtain ⟨ys, hy, hys⟩ := hs'.holds
  obtain ⟨rfl, -⟩ := List.append_inj' (hys.symm.trans (hsame.trans hxs)) rfl
  exact (readStanzas_eq_ok_iff hy script).2 ((readStanzas_eq_ok_iff hx script).1 h)

/-- A fault is found at the first token that is impossible where it stands: the tokens before it go
on to those of a script, and no script has these tokens and that one after them, wherever they
stand. It is the last one that is read, in that what follows has no influence: every text that has
these tokens at these places has the same fault, whatever comes after them. -/
theorem first_impossible_token {source : String} (h : parse source = .error (.faultAt f t)) :
    ∃ before after, lineTokens source = before ++ t :: after ∧
      (∃ source' after' script, lineTokens source' = before ++ after' ∧
        parse source' = .ok script) ∧
      (∀ source' before' t' after', lineTokens source' = before' ++ t' :: after' →
        before'.map Token.symbol = before.map Token.symbol → t'.symbol = t.symbol →
        ∀ script, parse source' ≠ .ok script) ∧
      ∀ source' after', lineTokens source' = before ++ t :: after' →
        parse source' = .error (.faultAt f t) := by
  obtain ⟨before, after, xs, htokens, hfails, hxs, hcompleted⟩ :=
    stanzas_fails (faces_lineTokens source) h
  refine ⟨before, after, htokens, ?_, ?_, ?_⟩
  · obtain ⟨ds, -, hgoes⟩ := exists_text_of_tokens
      (show tokensAt Place.start source.toList = before ++ t :: after from htokens)
    obtain ⟨es, hes, rfl⟩ := exists_text_of_spelled hxs
    obtain ⟨vs, hvs, hsymbols⟩ := hgoes es hes
    have hlines : lineTokens (String.ofList (ds ++ ' ' :: es)) = before ++ vs := by
      rw [lineTokens, TokenStream.ofText, String.toList_ofList]
      exact hvs
    obtain ⟨ws, last, rfl, hws, hlast⟩ := List.map_eq_append_iff.1 hsymbols
    obtain ⟨e, last, rfl, -, hnil⟩ := List.map_eq_cons_iff.1 hlast
    obtain rfl := List.map_eq_nil_iff.1 hnil
    obtain ⟨script, hscript⟩ := hcompleted _ ws e hws (hlines ▸ faces_lineTokens _)
    exact ⟨_, _, script, hlines, hscript⟩
  · intro source' before' t' after' hlines hbefore ht' script hok
    -- The tokens of the fault, with the others behind them, are those of a stream.
    have hsame : (before ++ t :: after').map Token.symbol =
        (before' ++ t' :: after').map Token.symbol := by
      simp only [List.map_append, List.map_cons, hbefore, ht']
    have hfaces := hlines ▸ faces_lineTokens source'
    obtain ⟨s', hs'⟩ := exists_faces hfaces hsame
    cases (stanzas_congr hfaces hs' hsame hok).symm.trans (hfails s' after' hs')
  · intro source' after' hlines
    exact hfails _ after' (hlines ▸ faces_lineTokens source')

/-- A client has no status to set, so that its flag is impossible, and the `tx` before it is not. -/
theorem first_impossible_token_status_flag :
    let source := "client \"c\" \x7b\n  tx -body \"x\" -status 200\n\x7d\n"
    ∃ f t, parse source = .error (.faultAt f t) ∧ t = ⟨.statusFlag, "-status", ⟨2, 16⟩⟩ ∧
      ∃ before after, lineTokens source = before ++ t :: after ∧
        (∃ source' after' script, lineTokens source' = before ++ after' ∧
          parse source' = .ok script) ∧
        ∀ source' after', lineTokens source' = before ++ t :: after' →
          parse source' = .error (.faultAt f t) := by
  intro source
  have hmap : (parse source).map (fun _ => ()) =
      .error (.faultAt (.unexpected .callFlag .txCommand) ⟨.statusFlag, "-status", ⟨2, 16⟩⟩) := by
    decide +kernel
  have hparse : parse source =
      .error (.faultAt (.unexpected .callFlag .txCommand) ⟨.statusFlag, "-status", ⟨2, 16⟩⟩) := by
    cases hresult : parse source with
    | ok script =>
      rw [hresult] at hmap
      cases hmap
    | error e =>
      rw [hresult] at hmap
      exact congrArg _ (Except.error.inj hmap)
  obtain ⟨before, after, htokens, hcompleted, -, hfails⟩ := first_impossible_token hparse
  exact ⟨_, _, hparse, rfl, before, after, htokens, hcompleted, hfails⟩

end ProxyTrial.Script
