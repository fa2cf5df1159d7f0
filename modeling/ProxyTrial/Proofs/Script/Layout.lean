import ProxyTrial.Proofs.Script.Alike
import Mathlib.Data.List.Destutter
/-!
# Layout and the meaning of scripts

Scripts with the same symbols have the same meaning, or the same fault, if each run of line breaks
is counted as one. Where a line break stands matters in `tx` commands only, which it ends: in a text
that is a script, line breaks can be put in and left out everywhere else.

## Main definitions

* `merged xs`: symbols with each run of line breaks as one
* `Relaid xs ys`: symbols that differ in line breaks outside of `tx` commands
* `Begins form rest us`: symbols that begin with some of a form and go on with a rest

## Main results

* `alike_of_merged`: tokens whose merged symbols are the same are alike
* `Relaid.lead`, `Relaid.tx_command`: a symbol, and a `tx` command, stay where they were
* `Grammar.Derives.relaid`: the grammar does not need line breaks outside of `tx` commands
* `parse_layout`: which layout has no meaning
-/

namespace ProxyTrial.Script

open Grammar

variable {xs ys us rest : List Symbol}

/-! ## Runs of line breaks -/

/-- Symbols with each run of line breaks as one, which is the first of them. -/
def merged (xs : List Symbol) : List Symbol :=
  xs.destutter fun x y => ¬(x.kind = .lineBreak ∧ y.kind = .lineBreak)

theorem merged_cons (x : Symbol) (xs : List Symbol) :
    merged (x :: xs) = x :: merged (if x.kind = .lineBreak then afterBreaks xs else xs) := by
  induction xs with
  | nil => split <;> rfl
  | cons y ys ih =>
    rw [merged, List.destutter_cons_cons]
    by_cases hx : x.kind = .lineBreak
    · by_cases hy : y.kind = .lineBreak
      · have hskip : afterBreaks (y :: ys) = afterBreaks ys := by simp [afterBreaks, hy]
        rw [if_neg (not_not_intro ⟨hx, hy⟩), if_pos hx, hskip, ← List.destutter_cons']
        rwa [if_pos hx] at ih
      · have hstay : afterBreaks (y :: ys) = y :: ys := by simp [afterBreaks, hy]
        rw [if_pos (fun h => hy h.2), if_pos hx, hstay]
        rfl
    · rw [if_pos (fun h => hx h.1), if_neg hx]
      rfl

/-- Tokens are alike wherever they stand if their symbols are the same but for runs of line
breaks. -/
theorem alike_of_merged {ts us : List Token}
    (h : merged (ts.map Token.symbol) = merged (us.map Token.symbol)) :
    Alike (fun _ _ => True) ts us := by
  -- A run of line breaks goes away at once, so that the induction is on the length.
  induction hn : ts.length using Nat.strongRecOn generalizing ts us with
  | ind n ih =>
  match ts, us with
  | [], [] => exact .nil
  | [], u :: us =>
    rw [List.map_cons, merged_cons] at h
    cases h
  | t :: ts, [] =>
    rw [List.map_cons, merged_cons] at h
    cases h
  | t :: ts, u :: us =>
    rw [List.map_cons, List.map_cons, merged_cons, merged_cons] at h
    obtain ⟨hsymbol, htail⟩ := List.cons.inj h
    have hlike : Token.Like (fun _ _ => True) t u :=
      ⟨congrArg Symbol.kind hsymbol.symm, congrArg Symbol.text hsymbol.symm, trivial⟩
    rw [List.length_cons] at hn
    rw [← hsymbol, Token.symbol_kind] at htail
    by_cases ht : t.kind = .lineBreak
    · have hafter : ∀ l : List Token, afterBreaks (l.map Token.symbol) =
          (l.dropWhile fun t => t.kind = .lineBreak).map Token.symbol :=
        fun l => List.dropWhile_map ..
      have hbreak : ∀ l : List Token, ∀ t ∈ l.takeWhile fun t => t.kind = .lineBreak,
          t.kind = .lineBreak := fun l t ht => by simpa using List.mem_takeWhile_imp ht
      rw [if_pos ht, if_pos ht, hafter, hafter] at htail
      have hlt : (ts.dropWhile fun t => t.kind = .lineBreak).length < n := by
        have hle := (List.dropWhile_sublist (fun t : Token => t.kind = .lineBreak)
          (l := ts)).length_le
        omega
      have halike := ih _ hlt htail rfl
      rw [← List.takeWhile_append_dropWhile (p := fun t : Token => t.kind = .lineBreak) (l := ts),
        ← List.takeWhile_append_dropWhile (p := fun t : Token => t.kind = .lineBreak) (l := us)]
      exact .lineBreaks hlike ht (hbreak ts) (hbreak us) halike
    · rw [if_neg ht, if_neg ht] at htail
      exact .token hlike ht (ih ts.length (by omega) htail rfl)

/-! ## Line breaks outside of `tx` commands -/

/-- Symbols that differ in line breaks, put in or left out, but in none from the keyword of a `tx`
command to the symbol that ends the command, which is included. -/
inductive Relaid : List Symbol → List Symbol → Prop
  | nil : Relaid [] []
  | insert {b : String} {xs ys : List Symbol} : Relaid xs ys → Relaid xs (⟨.lineBreak, b⟩ :: ys)
  | delete {b : String} {xs ys : List Symbol} : Relaid xs ys → Relaid (⟨.lineBreak, b⟩ :: xs) ys
  | keep {x : Symbol} {xs ys : List Symbol} :
      x.kind ≠ .tx → Relaid xs ys → Relaid (x :: xs) (x :: ys)
  | tx {x e : Symbol} {fs xs ys : List Symbol} :
      x.kind = .tx → (∀ f ∈ fs, endsTx f.kind = false) → endsTx e.kind → Relaid xs ys →
      Relaid (x :: (fs ++ e :: xs)) (x :: (fs ++ e :: ys))

/-- Where nothing was, line breaks are put in. -/
theorem Relaid.of_nil (h : Relaid [] us) : ∀ x ∈ us, x.kind = .lineBreak := by
  generalize hxs : ([] : List Symbol) = xs at h
  induction h with
  | nil => exact List.forall_mem_nil _
  | insert _ ih => exact List.forall_mem_cons.2 ⟨rfl, ih hxs⟩
  | delete => cases hxs
  | keep => cases hxs
  | tx => cases hxs

/-- The symbols begin with some of this form, and go on with what the rest is made into. -/
def Begins (form : List Symbol → Prop) (rest us : List Symbol) : Prop :=
  ∃ ys rest', us = ys ++ rest' ∧ form ys ∧ Relaid rest rest'

/-- A symbol is where it was, behind line breaks. -/
theorem Relaid.lead {k : Kind} {w : String} (h : Relaid (xs ++ rest) us) (hl : Lead k w xs)
    (hk : k ≠ .lineBreak ∧ k ≠ .tx) : Begins (Lead k w) rest us := by
  generalize hzs : xs ++ rest = zs at h
  -- The induction is on what is done to the symbols, up to the one that is sought: line breaks in
  -- front of it come and go, and no command can begin there.
  induction h generalizing xs with
  | nil => exact absurd (List.append_eq_nil_iff.1 hzs).1 hl.ne_nil
  | insert _ ih =>
    obtain ⟨ys, rest', rfl, hl', hrest⟩ := ih hl hzs
    exact ⟨_, rest', rfl, hl'.lineBreak, hrest⟩
  | delete _ ih =>
    cases hl with
    | here => exact absurd (congrArg Symbol.kind (List.cons.inj hzs).1) hk.1
    | lineBreak hl => exact ih hl (List.cons.inj hzs).2
  | @keep x zs ys hx hrelaid ih =>
    cases hl with
    | here =>
      obtain ⟨rfl, rfl⟩ := List.cons.inj hzs
      exact ⟨[_], ys, rfl, .here, hrelaid⟩
    | lineBreak hl =>
      obtain ⟨rfl, htail⟩ := List.cons.inj hzs
      obtain ⟨ys, rest', rfl, hl', hrest⟩ := ih hl htail
      exact ⟨_, rest', rfl, hl'.lineBreak, hrest⟩
  | tx hx =>
    cases hl with
    | here =>
      rw [← (List.cons.inj hzs).1] at hx
      exact absurd hx hk.2
    | lineBreak =>
      rw [← (List.cons.inj hzs).1] at hx
      cases hx

/-- The first symbol that ends a command is where the symbols before it do not. -/
theorem eq_of_append_ends {fs gs xs ys : List Symbol} {d e : Symbol}
    (h : fs ++ d :: xs = gs ++ e :: ys) (hfs : ∀ f ∈ fs, endsTx f.kind = false)
    (hgs : ∀ g ∈ gs, endsTx g.kind = false) (hd : endsTx d.kind) (he : endsTx e.kind) :
    fs = gs ∧ d = e ∧ xs = ys := by
  have hfirst : ∀ {gs ys : List Symbol} {e : Symbol}, (∀ g ∈ gs, endsTx g.kind = false) →
      endsTx e.kind → (gs ++ e :: ys).takeWhile (fun x => !endsTx x.kind) = gs := by
    intro gs ys e hgs he
    rw [List.takeWhile_append_of_pos (by simpa using hgs),
      List.takeWhile_cons_of_neg (by simp [he]), List.append_nil]
  obtain rfl : fs = gs := by rw [← hfirst hfs hd, h, hfirst hgs he]
  exact ⟨rfl, List.cons.inj (List.append_cancel_left h)⟩

/-- A `tx` command stays as it is, and so does the symbol that ends it. -/
theorem Relaid.tx_command {w : String} {ws fs : List Symbol} (h : Relaid (ws ++ (fs ++ rest)) us)
    (hl : Lead .tx w ws) (hfs : ∀ f ∈ fs, endsTx f.kind = false)
    (hne : rest ≠ []) (hrest : EndsFlags rest) :
    ∃ ws' rest', us = ws' ++ (fs ++ rest') ∧ Lead .tx w ws' ∧ EndsFlags rest' ∧
      Relaid rest rest' := by
  obtain ⟨e, rest, rfl⟩ := List.exists_cons_of_ne_nil hne
  have hends : endsTx e.kind ∧ e.kind ≠ .tx := by rcases hrest with hk | hk <;> simp [endsTx, hk]
  generalize hzs : ws ++ (fs ++ e :: rest) = zs at h
  -- Up to the keyword as for other symbols; the keyword can be kept with its command only.
  induction h generalizing ws with
  | nil => exact absurd (List.append_eq_nil_iff.1 hzs).1 hl.ne_nil
  | insert _ ih =>
    obtain ⟨ws', rest', rfl, hl', h⟩ := ih hl hzs
    exact ⟨_, rest', rfl, hl'.lineBreak, h⟩
  | delete _ ih =>
    cases hl with
    | here => cases (List.cons.inj hzs).1
    | lineBreak hl => exact ih hl (List.cons.inj hzs).2
  | keep hx _ ih =>
    cases hl with
    | here =>
      rw [← (List.cons.inj hzs).1] at hx
      exact absurd rfl hx
    | lineBreak hl =>
      obtain ⟨rfl, htail⟩ := List.cons.inj hzs
      obtain ⟨ws', rest', rfl, hl', h⟩ := ih hl htail
      exact ⟨_, rest', rfl, hl'.lineBreak, h⟩
  | @tx x d gs zs ys hx hgs hd hrelaid =>
    cases hl with
    | here =>
      -- The command that is kept is the one that is sought, for both end with the same symbol.
      obtain ⟨rfl, htail⟩ := List.cons.inj hzs
      obtain ⟨rfl, rfl, rfl⟩ := eq_of_append_ends htail hfs hgs hends.1 hd
      exact ⟨[_], e :: ys, rfl, .here, hrest, .keep hends.2 hrelaid⟩
    | lineBreak =>
      rw [← (List.cons.inj hzs).1] at hx
      cases hx

/-! ## Derivations -/

theorem Relaid.subject {subject : Subject} (h : Relaid (xs ++ rest) us)
    (hsubject : IsSubject xs subject) : Begins (IsSubject · subject) rest us := by
  cases hsubject with
  | method hl =>
    obtain ⟨ys, rest', rfl, hl, h⟩ := h.lead hl (by simp)
    exact ⟨ys, rest', rfl, .method hl, h⟩
  | status hl =>
    obtain ⟨ys, rest', rfl, hl, h⟩ := h.lead hl (by simp)
    exact ⟨ys, rest', rfl, .status hl, h⟩
  | body hl =>
    obtain ⟨ys, rest', rfl, hl, h⟩ := h.lead hl (by simp)
    exact ⟨ys, rest', rfl, .body hl, h⟩
  | header hl ho hn hc =>
    simp only [List.append_assoc] at h
    obtain ⟨_, _, rfl, hl, h⟩ := h.lead hl (by simp)
    obtain ⟨_, _, rfl, ho, h⟩ := h.lead ho (by simp)
    obtain ⟨_, _, rfl, hn, h⟩ := h.lead hn (by simp)
    obtain ⟨_, rest', rfl, hc, h⟩ := h.lead hc (by simp)
    exact ⟨_, rest', by simp, .header hl ho hn hc, h⟩

theorem Relaid.value {v written : String} (h : Relaid (xs ++ rest) us)
    (hvalue : IsValue xs v written) : Begins (IsValue · v written) rest us := by
  cases hvalue with
  | string hl =>
    obtain ⟨ys, rest', rfl, hl, h⟩ := h.lead hl (by simp)
    exact ⟨ys, rest', rfl, .string hl, h⟩
  | integer hl =>
    obtain ⟨ys, rest', rfl, hl, h⟩ := h.lead hl (by simp)
    exact ⟨ys, rest', rfl, .integer hl, h⟩

theorem Relaid.expecting {e : Expectation} (h : Relaid (xs ++ rest) us) (he : Expecting xs e) :
    Begins (Expecting · e) rest us := by
  obtain ⟨hl, hside, hd, hsubject, ho, hcompares, hvalue⟩ := he
  have hk : ∀ {k side}, IsSide k side → k ≠ .lineBreak ∧ k ≠ .tx := by rintro _ _ ⟨⟩ <;> simp
  have hok : ∀ {k v c}, Compares k v c → k ≠ .lineBreak ∧ k ≠ .tx := by rintro _ _ _ ⟨⟩ <;> simp
  simp only [List.append_assoc] at h
  obtain ⟨_, _, rfl, hl, h⟩ := h.lead hl (hk hside)
  obtain ⟨_, _, rfl, hd, h⟩ := h.lead hd (by simp)
  obtain ⟨_, _, rfl, hsubject, h⟩ := h.subject hsubject
  obtain ⟨_, _, rfl, ho, h⟩ := h.lead ho (hok hcompares)
  obtain ⟨_, rest', rfl, hvalue, h⟩ := h.value hvalue
  exact ⟨_, rest', by simp, .mk hl hside hd hsubject ho hcompares hvalue, h⟩

theorem Grammar.Settings.not_endsTx {l : List Setting} (h : Settings xs l) :
    ∀ x ∈ xs, endsTx x.kind = false := by
  induction h with
  | nil => exact List.forall_mem_nil _
  | cons hset _ ih =>
    have hends := hset.not_endsTx
    cases hset <;> simpa [endsTx] using ih

theorem Relaid.handlerBody {l : List Expectation} {r : Reply} (h : Relaid (xs ++ rest) us)
    (hbody : HandlerBody xs l r) : Begins (HandlerBody · l r) rest us := by
  induction hbody generalizing us with
  | close hl =>
    obtain ⟨ys, rest', rfl, hl, h⟩ := h.lead hl (by simp)
    exact ⟨ys, rest', rfl, .close hl, h⟩
  | tx hl hf hc =>
    obtain ⟨hsettings, hfits⟩ := id hf
    simp only [List.append_assoc] at h
    obtain ⟨_, _, rfl, hl, -, h⟩ :=
      h.tx_command hl hsettings.not_endsTx (by simp [hc.ne_nil]) (hc.endsFlags rest)
    obtain ⟨_, rest', rfl, hc, h⟩ := h.lead hc (by simp)
    exact ⟨_, rest', by simp, .tx hl hf hc, h⟩
  | expect hl he _ ih =>
    simp only [List.append_assoc] at h
    obtain ⟨_, _, rfl, hl, h⟩ := h.lead hl (by simp)
    obtain ⟨_, _, rfl, he, h⟩ := h.expecting he
    obtain ⟨_, rest', rfl, hbody, h⟩ := ih h
    exact ⟨_, rest', by simp, .expect hl he hbody, h⟩

theorem Relaid.clientBody {l : List Expectation} {call : Option Call}
    (h : Relaid (xs ++ rest) us) (hbody : ClientBody xs l call) :
    Begins (ClientBody · l call) rest us := by
  induction hbody generalizing us with
  | close hl =>
    obtain ⟨ys, rest', rfl, hl, h⟩ := h.lead hl (by simp)
    exact ⟨ys, rest', rfl, .close hl, h⟩
  | tx hl hf hends hbody ih =>
    obtain ⟨hsettings, hfits⟩ := id hf
    simp only [List.append_assoc] at h
    obtain ⟨_, _, rfl, hl, hends', h⟩ := h.tx_command hl hsettings.not_endsTx
      (by simp [hbody.ne_nil]) ((hbody.endsFlags_append_iff rest).2 hends)
    obtain ⟨_, rest', rfl, hbody', h⟩ := ih h
    refine ⟨_, rest', by simp, .tx hl hf ?_ hbody', h⟩
    exact (hbody'.endsFlags_append_iff rest').1 hends'
  | expect hl he _ ih =>
    simp only [List.append_assoc] at h
    obtain ⟨_, _, rfl, hl, h⟩ := h.lead hl (by simp)
    obtain ⟨_, _, rfl, he, h⟩ := h.expecting he
    obtain ⟨_, rest', rfl, hbody, h⟩ := ih h
    exact ⟨_, rest', by simp, .expect hl he hbody, h⟩

theorem Relaid.handler {handler : Handler} (h : Relaid (xs ++ rest) us)
    (hhandler : IsHandler xs handler) : Begins (IsHandler · handler) rest us := by
  obtain ⟨hp, hslash, ho, hbody⟩ := hhandler
  simp only [List.append_assoc] at h
  obtain ⟨_, _, rfl, hp, h⟩ := h.lead hp (by simp)
  obtain ⟨_, _, rfl, ho, h⟩ := h.lead ho (by simp)
  obtain ⟨_, rest', rfl, hbody, h⟩ := h.handlerBody hbody
  exact ⟨_, rest', by simp, .mk hp hslash ho hbody, h⟩

theorem Relaid.client {client : Client} (h : Relaid (xs ++ rest) us)
    (hclient : IsClient xs client) : Begins (IsClient · client) rest us := by
  obtain ⟨hn, ho, hbody⟩ := hclient
  simp only [List.append_assoc] at h
  obtain ⟨_, _, rfl, hn, h⟩ := h.lead hn (by simp)
  obtain ⟨_, _, rfl, ho, h⟩ := h.lead ho (by simp)
  obtain ⟨_, rest', rfl, hbody, h⟩ := h.clientBody hbody
  exact ⟨_, rest', by simp, .mk hn ho hbody, h⟩

theorem Relaid.stanzas {handlers : List Handler} {clients : List Client}
    (h : Relaid (xs ++ rest) us) (hstanzas : Stanzas xs handlers clients) :
    Begins (Stanzas · handlers clients) rest us := by
  induction hstanzas generalizing us with
  | nil => exact ⟨[], us, rfl, .nil, h⟩
  | handle hl hh _ ih =>
    simp only [List.append_assoc] at h
    obtain ⟨_, _, rfl, hl, h⟩ := h.lead hl (by simp)
    obtain ⟨_, _, rfl, hh, h⟩ := h.handler hh
    obtain ⟨_, rest', rfl, hstanzas, h⟩ := ih h
    exact ⟨_, rest', by simp, .handle hl hh hstanzas, h⟩
  | client hl hc _ ih =>
    simp only [List.append_assoc] at h
    obtain ⟨_, _, rfl, hl, h⟩ := h.lead hl (by simp)
    obtain ⟨_, _, rfl, hc, h⟩ := h.client hc
    obtain ⟨_, rest', rfl, hstanzas, h⟩ := ih h
    exact ⟨_, rest', by simp, .client hl hc hstanzas, h⟩

/-- The grammar derives a script from symbols still when line breaks are put in or left out outside
of its `tx` commands, before the end. -/
theorem Grammar.Derives.relaid {script : Script} (hderives : Derives xs script)
    (h : Relaid xs us) (hlast : ∀ x ∈ us.getLast?, x.kind ≠ .lineBreak) : Derives us script := by
  obtain @⟨w, xs, es, _, hstanzas, hne, hl⟩ := hderives
  obtain ⟨ys, _, rfl, hstanzas', h⟩ := h.stanzas hstanzas
  rw [← List.append_nil es] at h
  obtain ⟨es', rest', rfl, hl, h⟩ := h.lead hl (by simp)
  -- Behind the end there would be line breaks only.
  obtain rfl : rest' = [] := by
    rcases List.eq_nil_or_concat rest' with rfl | ⟨init, x, rfl⟩
    · rfl
    · exact absurd (h.of_nil x (by simp)) (hlast x (by simp))
  rw [List.append_nil]
  exact .mk hstanzas' (hstanzas'.ne_nil_iff.2 (hstanzas.ne_nil_iff.1 hne)) hl

/-! ## Scripts -/

/-- Tokens that are alike are read alike. -/
theorem parse_like {P : Place → Place → Prop} {s₁ s₂ : String}
    (h : Alike P (lineTokens s₁) (lineTokens s₂)) :
    ResultsLike P Eq (parse s₁) (parse s₂) := by
  have hresult : ResultsLike P (fun p q => q = ⟨[], []⟩ ++ p) (parse s₁) (parse s₂) :=
    stanzas_like (faces_lineTokens s₁) (faces_lineTokens s₂) h.dropBreaks (.inr rfl)
  exact hresult.mono fun p q hpq => hpq.symm

/-- A script is the same with line breaks put in or left out outside of its `tx` commands. -/
theorem parse_relaid {s₁ s₂ : String} {script : Script} (hok : parse s₁ = .ok script)
    (hrelaid : Relaid (symbols s₁) (symbols s₂)) : parse s₂ = .ok script := by
  refine parse_of_derives ((derives_of_parse hok).relaid hrelaid fun x hx => ?_)
  obtain ⟨ys, -, hsymbols⟩ := holds_ofText s₂
  rw [hsymbols, List.getLast?_concat] at hx
  obtain rfl := Option.some.inj hx
  simp

/-- Layout has no meaning but to end `tx` commands. Two texts with the same symbols, each run of
line breaks counted as one, are the same script; or they have the same fault, in the same words but
for the place, or another error that is the same. And a text that is a script is the same script
with line breaks put in or left out outside of its `tx` commands, each of which goes from its
keyword to the line break or the closing brace that ends it. -/
theorem parse_layout (s₁ s₂ : String) :
    (merged (symbols s₁) = merged (symbols s₂) →
      (∃ script, parse s₁ = .ok script ∧ parse s₂ = .ok script) ∨
      (∃ f t u, parse s₁ = .error (.faultAt f t) ∧ parse s₂ = .error (.faultAt f u) ∧
        f.message u = f.message t) ∨
      ∃ e, (∀ f t, e ≠ .faultAt f t) ∧ parse s₁ = .error e ∧ parse s₂ = .error e) ∧
    ∀ script, parse s₁ = .ok script → Relaid (symbols s₁) (symbols s₂) → parse s₂ = .ok script := by
  constructor
  · intro hmerged
    have hresult := parse_like (alike_of_merged hmerged)
    generalize parse s₁ = x at hresult ⊢
    generalize parse s₂ = y at hresult ⊢
    cases hresult with
    | ok hscript => exact .inl ⟨_, rfl, by rw [hscript]⟩
    | error he =>
      cases he with
      | faultAt hlike => exact .inr (.inl ⟨_, _, _, rfl, rfl, hlike.message _⟩)
      | longInteger n => exact .inr (.inr ⟨_, by simp, rfl, rfl⟩)
      | pattern e => exact .inr (.inr ⟨_, by simp, rfl, rfl⟩)
  · exact fun script => parse_relaid

/-- A handler with blank lines and comments, and on as few lines as its reply allows. -/
theorem parse_layout_reply :
    let source := "handle \"/\" \x7b\n  tx -status 204\n\x7d\n"
    let spaced := "handle \"/\" \x7b # empty\n\n tx  -status 204 # nothing\n\n\x7d \n\n"
    let terse := "handle \"/\" \x7b tx -status 204\n\x7d"
    merged (symbols source) = merged (symbols spaced) ∧
      Relaid (symbols source) (symbols terse) ∧
      ∃ script, parse source = .ok script ∧ parse spaced = .ok script ∧
        parse terse = .ok script := by
  intro source spaced terse
  have hmerged : merged (symbols source) = merged (symbols spaced) := by decide +kernel
  have hsource : symbols source = [⟨.handle, "handle"⟩, ⟨.string, "/"⟩, ⟨.openBrace, "\x7b"⟩,
      ⟨.lineBreak, "\n"⟩, ⟨.tx, "tx"⟩, ⟨.statusFlag, "-status"⟩, ⟨.integer, "204"⟩,
      ⟨.lineBreak, "\n"⟩, ⟨.closeBrace, "\x7d"⟩, ⟨.lineBreak, "\n"⟩, ⟨.endOfScript, ""⟩] := by
    decide +kernel
  have hterse : symbols terse = [⟨.handle, "handle"⟩, ⟨.string, "/"⟩, ⟨.openBrace, "\x7b"⟩,
      ⟨.tx, "tx"⟩, ⟨.statusFlag, "-status"⟩, ⟨.integer, "204"⟩, ⟨.lineBreak, "\n"⟩,
      ⟨.closeBrace, "\x7d"⟩, ⟨.endOfScript, ""⟩] := by
    decide +kernel
  have hbehind : Relaid [⟨.closeBrace, "\x7d"⟩, ⟨.lineBreak, "\n"⟩, ⟨.endOfScript, ""⟩]
      [⟨.closeBrace, "\x7d"⟩, ⟨.endOfScript, ""⟩] :=
    .keep (by simp) (.delete (.keep (by simp) .nil))
  have hcommand : Relaid
      (⟨.tx, "tx"⟩ :: ([⟨.statusFlag, "-status"⟩, ⟨.integer, "204"⟩] ++ ⟨.lineBreak, "\n"⟩ ::
        [⟨.closeBrace, "\x7d"⟩, ⟨.lineBreak, "\n"⟩, ⟨.endOfScript, ""⟩]))
      (⟨.tx, "tx"⟩ :: ([⟨.statusFlag, "-status"⟩, ⟨.integer, "204"⟩] ++ ⟨.lineBreak, "\n"⟩ ::
        [⟨.closeBrace, "\x7d"⟩, ⟨.endOfScript, ""⟩])) :=
    .tx rfl (by simp [endsTx]) rfl hbehind
  have hrelaid : Relaid (symbols source) (symbols terse) := by
    rw [hsource, hterse]
    exact .keep (by simp) (.keep (by simp) (.keep (by simp) (.delete hcommand)))
  obtain ⟨script, hok, -⟩ := map_eq_ok.1
    (show (parse source).map (fun _ => ()) = .ok () by decide +kernel)
  refine ⟨hmerged, hrelaid, script, hok, ?_, (parse_layout source terse).2 script hok hrelaid⟩
  rcases (parse_layout source spaced).1 hmerged with
    ⟨script', hok', hspaced⟩ | ⟨f, t, u, herror, -⟩ | ⟨e, -, herror, -⟩
  · obtain rfl := Except.ok.inj (hok'.symm.trans hok)
    exact hspaced
  · cases herror.symm.trans hok
  · cases herror.symm.trans hok

end ProxyTrial.Script
