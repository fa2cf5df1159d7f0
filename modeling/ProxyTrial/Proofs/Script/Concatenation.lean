import ProxyTrial.Proofs.Script.Alike
/-!
# Scripts one after the other

A script with a line feed and another text behind it is read as if the other text were read after
it. The tokens of both are those of the whole but for line breaks where they meet: blanks at the end
of the first text and at the start of the second one are one run with the line feed between them,
and the line feed ends a comment that is open. The tokens of the second text stand as many lines
lower as the first one has, and nothing but the place of a fault tells.

## Main definitions

* `Place.below p n`: the place `n` lines lower
* `EndsWithBrace xs`: the last of the symbols is a closing brace

## Main results

* `lineTokens_append`: the tokens of two texts, one after the other
* `stanzas_again`: the stanzas of a script are read again, whatever follows them
* `parse_append`: scripts one after the other
-/

namespace ProxyTrial.Script

open TokenStream (skips)
open Grammar

variable {n : ℕ} {p : Place} {bs ts us : List Token} {e t : Token}

/-! ## Lower places -/

/-- The place some lines lower. -/
def Place.below (p : Place) (n : ℕ) : Place := ⟨p.line + n, p.column⟩

/-- A token some lines lower. -/
def Token.below (n : ℕ) (t : Token) : Token := { t with place := t.place.below n }

theorem Token.like_below (n : ℕ) (t : Token) :
    Token.Like (fun p q => q = p.below n) t (t.below n) := ⟨rfl, rfl, rfl⟩

theorem Place.next_below (p : Place) (n : ℕ) (c : Char) :
    (p.below n).next c = (p.next c).below n := by
  unfold Place.next Place.below
  split
  · rw [Nat.add_right_comm]
  · rfl

theorem Place.after_below (p : Place) (n : ℕ) (cs : List Char) :
    (p.below n).after cs = (p.after cs).below n := by
  induction cs generalizing p with
  | nil => rfl
  | cons c cs ih => exact (congrArg (Place.after · cs) (p.next_below n c)).trans (ih (p.next c))

/-- A line feed leads to the start of a line. -/
theorem Place.after_lineFeed (cs : List Char) :
    Place.start.after (cs ++ ['\n']) = Place.start.below (cs.count '\n' + 1) := by
  rw [Place.after_append, Place.after_start]
  simp [Place.after, Place.next, Place.behind, Place.below, Place.start, Nat.add_assoc]

theorem Lexeme.token?_below (l : Lexeme) (p : Place) (n : ℕ) :
    l.token? (p.below n) = (l.token? p).map (Token.below n) := by
  unfold Lexeme.token?
  split
  · split <;> rfl
  all_goals rfl

/-- The tokens of a text that starts some lines lower. -/
theorem tokensAt_below (p : Place) (n : ℕ) (cs : List Char) :
    tokensAt (p.below n) cs = (tokensAt p cs).map (Token.below n) := by
  -- The induction is on the characters that are left, lexeme by lexeme.
  induction hn : cs.length using Nat.strongRecOn generalizing p cs with
  | ind m ih =>
  cases cs with
  | nil => rfl
  | cons c cs =>
    rw [List.length_cons] at hn
    have hrest := length_lexeme_rest c cs
    rw [tokensAt_cons, tokensAt_cons, Lexeme.token?_below, Place.after_below,
      ih _ (by omega) _ _ rfl, List.map_append]
    congr 1
    cases (lexeme c cs).1.token? p with
    | none => rfl
    | some t =>
      cases ht : skips false t.kind <;> simp [Option.filter_some, Token.below, ht]

/-! ## Where two texts meet -/

section Meeting

variable {lay ds : List Char} {c : Char} {cs : List Char}

/-- The tokens of a text with a line feed, blanks and other characters behind it are those before
its end, and those of the other characters, with line breaks between them. -/
def Meets (lay ds : List Char) (p : Place) (cs : List Char) (us : List Token) : Prop :=
  ∃ bs : List Token, (∀ b ∈ bs, b.kind = .lineBreak) ∧
    tokensAt p (cs ++ '\n' :: (lay ++ ds)) =
      us ++ (bs ++ tokensAt (p.after (cs ++ '\n' :: lay)) ds)

/-- Blanks at the end are one run with the line feed. -/
theorem meets_layout (hlay : ∀ c ∈ lay, isLayout c) (hds : Avoids isLayout ds)
    (hcs : ∀ c ∈ cs, isLayout c) : Meets lay ds p cs (layoutTokens p cs) := by
  have hall : ∀ c ∈ cs ++ '\n' :: lay, isLayout c :=
    List.forall_mem_append.2 ⟨hcs, List.forall_mem_cons.2 ⟨rfl, hlay⟩⟩
  have hjoined := tokensAt_layout p hall hds
  have hbreak : layoutTokens p (cs ++ '\n' :: lay) = [⟨.lineBreak, "\n", p⟩] := if_pos (by simp)
  rw [hbreak, List.append_assoc, List.cons_append] at hjoined
  rw [Meets, hjoined]
  by_cases hn : '\n' ∈ cs
  · rw [layoutTokens, if_pos hn]
    exact ⟨[], List.forall_mem_nil _, rfl⟩
  · rw [layoutTokens, if_neg hn]
    exact ⟨[⟨.lineBreak, "\n", p⟩], by simp, rfl⟩

/-- The line feed ends a comment. -/
theorem meets_comment (hlay : ∀ c ∈ lay, isLayout c) (hds : Avoids isLayout ds)
    (hcs : '\n' ∉ cs) : Meets lay ds p ('#' :: cs) [] := by
  have hlexeme : lexeme '#' (cs ++ '\n' :: (lay ++ ds)) =
      (⟨.comment true, '#' :: (cs ++ ['\n'])⟩, lay ++ ds) :=
    (FirstLexeme.comment hcs).lexeme_eq
  have htoken : Lexeme.token? ⟨.comment true, '#' :: (cs ++ ['\n'])⟩ p =
      some ⟨.lineBreak, "\n", p⟩ := rfl
  refine ⟨⟨.lineBreak, "\n", p⟩ :: layoutTokens (p.after ('#' :: (cs ++ ['\n']))) lay,
    List.forall_mem_cons.2 ⟨rfl, fun _ => kind_of_mem_layoutTokens⟩, ?_⟩
  rw [List.cons_append, tokensAt_cons, hlexeme, htoken, tokensAt_layout _ hlay hds,
    ← Place.after_append, List.cons_append, List.append_assoc, List.singleton_append]
  rfl

/-- A lexeme in front, which is the same before what follows. -/
theorem Meets.cons (h : Meets lay ds (p.after (lexeme c cs).1.chars) (lexeme c cs).2 us)
    (hfits : (lexeme c cs).1.Fits ((lexeme c cs).2 ++ '\n' :: (lay ++ ds))) :
    Meets lay ds p (c :: cs)
      ((((lexeme c cs).1.token? p).filter fun t => !skips false t.kind).toList ++ us) := by
  obtain ⟨bs, hbs, hjoined⟩ := h
  have happend : ∀ es, c :: cs ++ es = (lexeme c cs).1.chars ++ ((lexeme c cs).2 ++ es) := by
    intro es
    rw [← List.append_assoc, lexeme_append]
  refine ⟨bs, hbs, ?_⟩
  rw [happend, happend, tokensAt_of_fits p hfits, hjoined, Place.after_append p, List.append_assoc]

/-- The tokens of a text that another one follows are those before its end, if no string is open. -/
theorem meets_tokensAt (hlay : ∀ c ∈ lay, isLayout c) (hds : Avoids isLayout ds)
    (h : tokensAt p cs = us ++ [e]) (hlast : ∀ t ∈ us.getLast?, t.kind ≠ .string) :
    Meets lay ds p cs us := by
  -- The induction goes lexeme by lexeme to the last one, which is changed by what follows it.
  induction hn : cs.length using Nat.strongRecOn generalizing p cs us e with
  | ind m ih =>
  have hblank : (∀ c ∈ cs, isLayout c) → Meets lay ds p cs us := by
    intro hcs
    have hsame := tokensAt_layout p hcs (avoids_nil _)
    rw [List.append_nil, h, tokensAt_nil] at hsame
    rw [(List.append_inj' hsame rfl).1]
    exact meets_layout hlay hds hcs
  cases cs with
  | nil => exact hblank (List.forall_mem_nil _)
  | cons c cs =>
    rw [List.length_cons] at hn
    have hle := length_lexeme_rest c cs
    have happend := lexeme_append c cs
    rcases fits_lexeme c cs with hfits | ⟨hnil, ⟨text, -, hl⟩ | ⟨text, htext, hl⟩⟩
    · obtain ⟨us', e', hrest⟩ : ∃ us' e', tokensAt (p.after (lexeme c cs).1.chars)
          (lexeme c cs).2 = us' ++ [e'] := ⟨_, _, rfl⟩
      rw [tokensAt_cons, hrest, ← List.append_assoc] at h
      obtain ⟨rfl, -⟩ := List.append_inj' h rfl
      have hmeets := ih _ (by omega) hrest
        (fun t ht => hlast t (by rw [List.getLast?_append, Option.mem_def.1 ht]; rfl)) rfl
      -- What follows the lexeme begins as before, or with the line feed.
      cases hd : (lexeme c cs).2 with
      | cons d rest =>
        refine hmeets.cons (hfits.congr ?_)
        rw [hd]
        rfl
      | nil =>
        cases hc : isLayout c with
        | false =>
          refine hmeets.cons ?_
          rw [hd]
          exact hfits.layout (kind_lexeme_ne_layout hc cs) rfl _
        | true =>
          have hdrop : cs.dropWhile isLayout = [] := by rwa [lexeme, if_pos hc] at hd
          exact hblank (List.forall_mem_cons.2 ⟨hc, List.dropWhile_eq_nil_iff.1 hdrop⟩)
    · -- A string is open, and would be the last token.
      rw [tokensAt_cons, hnil, hl, tokensAt_nil] at h
      obtain ⟨rfl, -⟩ := List.append_inj' h rfl
      exact absurd rfl (hlast _ rfl)
    · rw [hnil, hl, List.append_nil] at happend
      obtain ⟨rfl, rfl⟩ := List.cons.inj happend
      rw [tokensAt_cons, hnil, hl, tokensAt_nil] at h
      obtain ⟨rfl, -⟩ := List.append_inj' h rfl
      exact meets_comment hlay hds htext

end Meeting

/-- The tokens of two texts, one after the other with a line feed between them: those of the first
one before its end, and those of the second one, lower, but for line breaks where they meet. -/
theorem lineTokens_append {s₁ : String} (s₂ : String) (h : lineTokens s₁ = us ++ [e])
    (hlast : ∀ t ∈ us.getLast?, t.kind ≠ .string) :
    ∃ bs cs ts : List Token, (∀ b ∈ bs, b.kind = .lineBreak) ∧ (∀ b ∈ cs, b.kind = .lineBreak) ∧
      lineTokens s₂ = bs ++ ts ∧ lineTokens (s₁ ++ "\n" ++ s₂) =
        us ++ (cs ++ ts.map (Token.below (s₁.toList.count '\n' + 1))) := by
  have hlay : ∀ c ∈ s₂.toList.takeWhile isLayout, isLayout c := fun _ => List.mem_takeWhile_imp
  have hds := avoids_dropWhile isLayout s₂.toList
  have hplace : Place.start.after (s₁.toList ++ '\n' :: s₂.toList.takeWhile isLayout) =
      (Place.start.after (s₂.toList.takeWhile isLayout)).below (s₁.toList.count '\n' + 1) := by
    rw [List.append_cons, Place.after_append, Place.after_lineFeed, Place.after_below]
  have hsecond := tokensAt_layout Place.start hlay hds
  obtain ⟨cs, hcs, hjoined⟩ := meets_tokensAt hlay hds
    (show tokensAt Place.start s₁.toList = us ++ [e] from h) hlast
  rw [hplace, tokensAt_below, List.takeWhile_append_dropWhile] at hjoined
  rw [List.takeWhile_append_dropWhile] at hsecond
  refine ⟨_, cs, _, fun _ => kind_of_mem_layoutTokens, hcs, hsecond, ?_⟩
  rw [← hjoined, lineTokens, TokenStream.ofText, String.toList_append, String.toList_append,
    List.append_assoc]
  rfl

/-! ## What a script ends with -/

/-- The last of the symbols is a closing brace. -/
def EndsWithBrace (xs : List Symbol) : Prop := ∃ c, xs.getLast? = some ⟨.closeBrace, c⟩

variable {xs ys : List Symbol}

theorem Lead.getLast? {k : Kind} {w : String} (h : Lead k w xs) : xs.getLast? = some ⟨k, w⟩ := by
  induction h with
  | here => rfl
  | lineBreak _ ih => rw [List.getLast?_cons, ih]; rfl

theorem EndsWithBrace.append (h : EndsWithBrace ys) (xs : List Symbol) :
    EndsWithBrace (xs ++ ys) := by
  obtain ⟨c, hc⟩ := h
  exact ⟨c, by rw [List.getLast?_append, hc]; rfl⟩

theorem Grammar.HandlerBody.endsWithBrace {l : List Expectation} {r : Reply}
    (h : HandlerBody xs l r) : EndsWithBrace xs := by
  induction h with
  | close hl => exact ⟨_, hl.getLast?⟩
  | tx _ _ hc => exact (EndsWithBrace.append ⟨_, hc.getLast?⟩ _).append _
  | expect _ _ _ ih => exact (ih.append _).append _

theorem Grammar.ClientBody.endsWithBrace {l : List Expectation} {call : Option Call}
    (h : ClientBody xs l call) : EndsWithBrace xs := by
  induction h with
  | close hl => exact ⟨_, hl.getLast?⟩
  | tx _ _ _ _ ih => exact (ih.append _).append _
  | expect _ _ _ ih => exact (ih.append _).append _

theorem Grammar.Stanzas.endsWithBrace {handlers : List Handler} {clients : List Client}
    (h : Stanzas xs handlers clients) : xs = [] ∨ EndsWithBrace xs := by
  -- A stanza ends with a brace, and so do the stanzas unless there are others behind it.
  have hcons : ∀ {ws ys zs : List Symbol}, EndsWithBrace ys → (zs = [] ∨ EndsWithBrace zs) →
      EndsWithBrace (ws ++ (ys ++ zs)) := by
    rintro ws ys zs hys (rfl | hzs)
    · rw [List.append_nil]
      exact hys.append ws
    · exact (hzs.append ys).append ws
  induction h with
  | nil => exact .inl rfl
  | handle _ hh _ ih =>
    obtain ⟨-, -, -, hbody⟩ := hh
    exact .inr (hcons ((hbody.endsWithBrace.append _).append _) ih)
  | client _ hc _ ih =>
    obtain ⟨-, -, hbody⟩ := hc
    exact .inr (hcons ((hbody.endsWithBrace.append _).append _) ih)

/-- No string stands at the end of a script. -/
theorem getLast?_ne_string {source : String} {script : Script} (h : parse source = .ok script)
    (hlines : lineTokens source = us ++ [e]) : ∀ t ∈ us.getLast?, t.kind ≠ .string := by
  intro t ht
  have h := derives_of_parse h
  rw [show symbols source = (lineTokens source).map Token.symbol from rfl, hlines,
    List.map_append] at h
  generalize hT : us.map Token.symbol ++ [e].map Token.symbol = T at h
  obtain ⟨hstanzas, hne, hl⟩ := h
  obtain ⟨bs, rfl, hbs⟩ := lead_endOfScript_iff.1 hl
  rw [← List.append_assoc] at hT
  obtain ⟨hus, -⟩ := List.append_inj' hT rfl
  have hlast : (us.map Token.symbol).getLast? = some t.symbol := by
    rw [List.getLast?_map, Option.mem_def.1 ht]
    rfl
  rw [hus, List.getLast?_append] at hlast
  obtain ⟨c, hc⟩ := hstanzas.endsWithBrace.resolve_left hne
  -- What ends the script is a brace, or line breaks behind it.
  cases hbreak : bs.getLast? with
  | none =>
    rw [hbreak, hc] at hlast
    have hk : t.kind = .closeBrace := (congrArg Symbol.kind (Option.some.inj hlast)).symm
    simp [hk]
  | some b =>
    rw [hbreak] at hlast
    have hk : t.kind = b.kind := (congrArg Symbol.kind (Option.some.inj hlast)).symm
    rw [hk, afterBreaks_eq_nil_iff.1 hbs b (List.mem_of_getLast? hbreak)]
    simp

/-! ## Reading on -/

section Stanzas

variable {script script' : Script} {s s' : TokenStream}

/-- The stanzas of a script are read again, whatever follows them; then reading goes on with what
follows, perhaps behind line breaks. -/
def ReadAgain (script : Script) (us : List Token) (script' : Script) : Prop :=
  bare script' = false ∧ ∀ s' ts, s'.Faces (us ++ ts) →
    ∃ bs s'', (∀ b ∈ bs, skips true b.kind = true) ∧ s''.Faces (bs ++ ts) ∧
      stanzas script s' = stanzas script' s''

theorem StanzaReader.readAgain {α : Type} {r : Reader α} {add : α → Script} {xs : List Symbol}
    {vs : List Token} {a : α} (h : StanzaReader script t r add xs)
    (hbs : ∀ b ∈ bs, skips true b.kind = true) (hr : Yields anyKind r us a)
    (hrest : ReadAgain (add a) vs script') : ReadAgain script (bs ++ t :: (us ++ vs)) script' := by
  refine ⟨hrest.1, fun s ts hs => ?_⟩
  rw [List.append_assoc, List.cons_append, List.append_assoc] at hs
  obtain ⟨s₁, heq, hs₁⟩ := stanzas_eq script hs hbs h.not_skipped
  rw [if_neg h.not_end] at hs₁
  obtain ⟨s₂, hok, hs₂⟩ := hr s₁ (vs ++ ts) hs₁ fun _ _ => rfl
  obtain ⟨cs, s₃, hcs, hs₃, hagain⟩ := hrest.2 s₂ ts hs₂
  exact ⟨cs, s₃, hcs, hs₃, by rw [heq, h.after, hok, ok_bind, hagain]⟩

/-- Stanzas that are read up to the end are read again, whatever stands there instead of it. -/
theorem stanzas_again (hs : s.Faces (us ++ [e])) (hok : stanzas script s = .ok script') :
    ReadAgain script us script' := by
  -- The induction is on the tokens before the end, stanza by stanza.
  induction hn : us.length using Nat.strongRecOn generalizing script s us e with
  | ind n ih =>
  obtain ⟨bs, t, rest, hts, hbs, ht⟩ := hs.exists_significant true
  obtain ⟨s₁, heq, hs₁⟩ := stanzas_eq script (hts ▸ hs) hbs ht
  rw [heq] at hok
  -- A stanza is read, and the end follows what is left behind it.
  have hstanza : ∀ {α : Type} {r : Reader α} {add : α → Script} {xs : List Symbol},
      StanzaReader script t r add xs → ReadAgain script us script' := by
    intro α r add xs hreader
    rw [if_neg hreader.not_end] at hs₁
    rw [hreader.after] at hok
    obtain ⟨⟨a, s₂⟩, hr, hok⟩ := bind_eq_ok.1 hok
    obtain ⟨vs, rest', rfl, -, hyields, hs₂⟩ :=
      ((hreader.reads rest.length).prompt hs₁ le_rfl).yields_faces hs₁ hr
    obtain ⟨ws, e', rfl⟩ : ∃ ws e', rest' = ws ++ [e'] := by
      obtain ⟨init, rfl, -⟩ := hs₂.eq_concat
      exact ⟨init, _, rfl⟩
    have hus : us = bs ++ t :: (vs ++ ws) :=
      (List.append_inj' (hts.trans (by simp : _ = (bs ++ t :: (vs ++ ws)) ++ [e'])) rfl).1
    rw [hus]
    refine hreader.readAgain hbs hyields (ih ws.length ?_ hs₂ hok rfl)
    rw [← hn, hus]
    simp only [List.length_append, List.length_cons]
    omega
  cases hk : t.kind
  case handle => exact hstanza (stanzaReader_handle hk)
  case client => exact hstanza (stanzaReader_client hk)
  case endOfScript =>
    obtain rfl := (hts ▸ hs).eq_nil_of_end hk
    obtain ⟨rfl, -⟩ := List.append_inj' hts rfl
    simp only [stanzasAfter, hk] at hok
    split at hok
    · cases hok
    · next hne =>
      obtain rfl := Except.ok.inj hok
      exact ⟨Bool.eq_false_iff.2 hne, fun s ts hs => ⟨us, s, hbs, hs, rfl⟩⟩
  all_goals
    rw [stanzasAfter, hk] at hok
    cases hok

end Stanzas

/-! ## Scripts -/

theorem append_bare (p : Script) : p ++ ⟨[], []⟩ = p := by
  obtain ⟨handlers, clients⟩ := p
  exact congrArg₂ Script.mk (List.append_nil _) (List.append_nil _)

/-- A stream has no tokens but line breaks before its end if the end is all that they lead up to. -/
theorem filtered_eq_end_iff (s : TokenStream) :
    s.filtered true = [s.endToken] ↔ dropBreaks (s.filtered false) = [s.endToken] := by
  have hend : skips true s.endToken.kind = false := rfl
  have hfilter : s.filtered true = (s.filtered false).filter (fun t => !skips true t.kind) := by
    have hboth : ∀ t : Token, (!skips true t.kind && !skips false t.kind) = !skips true t.kind := by
      intro t
      cases h : skips false t.kind with
      | true => rw [TokenStream.Faces.skips_of_skips_false h true]; rfl
      | false => simp
    rw [TokenStream.filtered, TokenStream.filtered, List.filter_append, List.filter_filter,
      List.filter_cons_of_pos (by simp [hend]), List.filter_nil]
    simp only [hboth]
  constructor
  · intro h
    have hnil := List.filter_eq_nil_iff.1 (List.append_inj' (show _ = [] ++ [_] from h) rfl).1
    rw [TokenStream.filtered, dropBreaks_append, dropBreaks_cons hend]
    intro t ht
    simpa using hnil t (List.mem_of_mem_filter ht)
  · intro h
    obtain ⟨bs, hbs, hskip⟩ := exists_append_dropBreaks (s.filtered false)
    rw [hfilter, hbs, h, List.filter_append, List.filter_cons_of_pos (by simp [hend]),
      List.filter_eq_nil_iff.2 fun t ht => by simp [hskip t ht]]
    rfl

section Parse

variable {s₁ : String} {p₁ : Script}

/-- A text without tokens is no script. -/
theorem parse_of_filtered_eq_end {source : String}
    (h : (TokenStream.ofText source).filtered true = [(TokenStream.ofText source).endToken]) :
    parse source = .error (.faultAt .noStanza (TokenStream.ofText source).endToken) := by
  obtain ⟨bs, hlines, hbs⟩ := exists_append_dropBreaks (lineTokens source)
  rw [lineTokens, (filtered_eq_end_iff _).1 h, ← lineTokens] at hlines
  obtain ⟨s, heq, -⟩ := stanzas_eq ⟨[], []⟩ (hlines ▸ faces_lineTokens source) hbs rfl
  exact heq

/-- A script goes on with what another text is, but for the places of faults, if that text has
other tokens than line breaks; else it ends. -/
theorem parse_append_like (s₂ : String) (h : parse s₁ = .ok p₁) :
    ((TokenStream.ofText s₂).filtered true = [(TokenStream.ofText s₂).endToken] →
      parse (s₁ ++ "\n" ++ s₂) = .ok p₁) ∧
    ((TokenStream.ofText s₂).filtered true ≠ [(TokenStream.ofText s₂).endToken] →
      ResultsLike (fun p q => q = p.below (s₁.toList.count '\n' + 1)) (fun p q => q = p₁ ++ p)
        (parse s₂) (parse (s₁ ++ "\n" ++ s₂))) := by
  obtain ⟨us, hlines, -⟩ := (faces_lineTokens s₁).eq_concat
  obtain ⟨bs, cs, ts, hbs, hcs, hsecond, hwhole⟩ :=
    lineTokens_append s₂ hlines (getLast?_ne_string h hlines)
  obtain ⟨hbare, hagain⟩ := stanzas_again (hlines ▸ faces_lineTokens s₁) h
  obtain ⟨ds, s', hds, hs', hparse⟩ := hagain _ _ (hwhole ▸ faces_lineTokens (s₁ ++ "\n" ++ s₂))
  rw [show parse (s₁ ++ "\n" ++ s₂) = stanzas p₁ s' from hparse, Ne, filtered_eq_end_iff,
    ← lineTokens]
  -- What is left is the other text, lower, but for line breaks in front.
  have hleft : dropBreaks (ds ++ (cs ++ ts.map (Token.below (s₁.toList.count '\n' + 1)))) =
      (dropBreaks (lineTokens s₂)).map (Token.below (s₁.toList.count '\n' + 1)) := by
    rw [dropBreaks_append hds, dropBreaks_append fun b hb => skips_of_lineBreak (hcs b hb), hsecond,
      dropBreaks_append fun b hb => skips_of_lineBreak (hbs b hb)]
    exact List.dropWhile_map ..
  constructor
  · intro hend
    obtain ⟨vs, hvs, hskip⟩ := exists_append_dropBreaks
      (ds ++ (cs ++ ts.map (Token.below (s₁.toList.count '\n' + 1))))
    rw [hleft, hend] at hvs
    exact stanzas_end (hvs ▸ hs') hskip hbare
  · intro hne
    have hend : ∀ t ∈ (dropBreaks (lineTokens s₂)).head?, t.kind ≠ .endOfScript := by
      intro t ht hk
      obtain ⟨vs, hvs, -⟩ := exists_append_dropBreaks (lineTokens s₂)
      obtain ⟨rest, hrest⟩ : ∃ rest, dropBreaks (lineTokens s₂) = t :: rest :=
        ⟨_, List.eq_cons_of_mem_head? ht⟩
      rw [hrest] at hvs hne
      have hfaces := hvs ▸ faces_lineTokens s₂
      obtain rfl := hfaces.eq_nil_of_end hk
      obtain ⟨init, hinit, -⟩ := hfaces.eq_concat
      exact hne (List.append_inj' hinit rfl).2
    have halike : Alike (fun p q => q = p.below (s₁.toList.count '\n' + 1))
        (dropBreaks (lineTokens s₂))
        (dropBreaks (ds ++ (cs ++ ts.map (Token.below (s₁.toList.count '\n' + 1))))) :=
      hleft ▸ Alike.map (Token.like_below _) _
    have hresult : ResultsLike _ (fun p q => q = p₁ ++ p) (parse s₂)
        (stanzas (p₁ ++ ⟨[], []⟩) s') :=
      stanzas_like (faces_lineTokens s₂) hs' halike (.inl hend)
    rwa [append_bare] at hresult

/-- Scripts can be put one after the other, with a line feed between them: they are the script with
the handlers and the clients of both. A text without tokens adds nothing. Behind a script, the fault
of a text with tokens is the same as without it, in the same words; it is at the same column, and as
many lines lower as the script and the line feed have; other errors are the same. -/
theorem parse_append {s₁ : String} (s₂ : String) {p₁ : Script} (h : parse s₁ = .ok p₁) :
    (∀ p₂, parse s₂ = .ok p₂ → parse (s₁ ++ "\n" ++ s₂) =
      .ok ⟨p₁.handlers ++ p₂.handlers, p₁.clients ++ p₂.clients⟩) ∧
    ((TokenStream.ofText s₂).filtered true = [(TokenStream.ofText s₂).endToken] →
      parse (s₁ ++ "\n" ++ s₂) = .ok p₁) ∧
    ((TokenStream.ofText s₂).filtered true ≠ [(TokenStream.ofText s₂).endToken] →
      (∀ f t, parse s₂ = .error (.faultAt f t) →
        ∃ u, parse (s₁ ++ "\n" ++ s₂) = .error (.faultAt f u) ∧
          u.place = ⟨t.place.line + (s₁.toList.count '\n' + 1), t.place.column⟩ ∧
          f.message u = f.message t) ∧
      ∀ e, (∀ f t, e ≠ .faultAt f t) → parse s₂ = .error e →
        parse (s₁ ++ "\n" ++ s₂) = .error e) := by
  obtain ⟨hends, hgoes⟩ := parse_append_like s₂ h
  refine ⟨fun p₂ hp₂ => ?_, hends, fun hne => ⟨fun f t hfault => ?_, fun e he herror => ?_⟩⟩
  · have hne : (TokenStream.ofText s₂).filtered true ≠ [(TokenStream.ofText s₂).endToken] := by
      intro hend
      rw [parse_of_filtered_eq_end hend] at hp₂
      cases hp₂
    have hresult := hgoes hne
    rw [hp₂] at hresult
    generalize parse (s₁ ++ "\n" ++ s₂) = y at hresult ⊢
    cases hresult with
    | ok hp => exact congrArg _ hp
  · have hresult := hgoes hne
    rw [hfault] at hresult
    generalize parse (s₁ ++ "\n" ++ s₂) = y at hresult ⊢
    cases hresult with
    | error herror =>
      cases herror with
      | faultAt hlike => exact ⟨_, rfl, hlike.place, hlike.message f⟩
  · have hresult := hgoes hne
    rw [herror] at hresult
    generalize parse (s₁ ++ "\n" ++ s₂) = y at hresult ⊢
    cases hresult with
    | error herror =>
      cases herror with
      | faultAt => exact absurd rfl (he _ _)
      | longInteger n => rfl
      | pattern e => rfl

/-- A script that ends in an open comment, with nothing, a script and a fault behind it. -/
theorem parse_append_open_comment :
    let source := "handle \"/\" \x7b\x7d\n# no line feed"
    ∃ script, parse source = .ok script ∧ parse (source ++ "\n" ++ "# nothing") = .ok script ∧
      (∃ next, parse "client \"c\" \x7b\x7d" = .ok next ∧
        parse (source ++ "\n" ++ "client \"c\" \x7b\x7d") =
          .ok ⟨script.handlers ++ next.handlers, script.clients ++ next.clients⟩) ∧
      ∃ t, parse (source ++ "\n" ++ "\n  tx") = .error (.faultAt .notAStanza t) ∧
        t.place = ⟨4, 3⟩ := by
  intro source
  obtain ⟨script, hscript, -⟩ := map_eq_ok.1
    (show (parse source).map (fun _ => ()) = .ok () by decide +kernel)
  obtain ⟨next, hnext, -⟩ := map_eq_ok.1
    (show (parse "client \"c\" \x7b\x7d").map (fun _ => ()) = .ok () by decide +kernel)
  have hfault : parse "\n  tx" = .error (.faultAt .notAStanza ⟨.tx, "tx", ⟨2, 3⟩⟩) :=
    map_eq_error.1 (show (parse "\n  tx").map (fun _ => ()) = _ by decide +kernel)
  refine ⟨script, hscript, (parse_append "# nothing" hscript).2.1 (by decide +kernel),
    ⟨next, hnext, (parse_append _ hscript).1 next hnext⟩, ?_⟩
  obtain ⟨t, ht, hplace, -⟩ :=
    ((parse_append "\n  tx" hscript).2.2 (by decide +kernel)).1 _ _ hfault
  have hfeeds : source.toList.count '\n' = 1 := by decide +kernel
  rw [hfeeds] at hplace
  exact ⟨t, ht, hplace⟩

end Parse

end ProxyTrial.Script
