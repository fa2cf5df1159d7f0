import ProxyTrial.Proofs.Basic
import ProxyTrial.Proofs.Script.Grammar
import ProxyTrial.Proofs.Text
/-!
# Reading commands by the grammar

Every reader of a command takes from the symbols ahead what the grammar derives, and takes
whatever it derives: the two directions of each reader stand side by side.

## Main results

* `readExpect_sound`, `readExpect_complete`: an `expect` command
* `readReply_sound`, `readReply_complete`: the flags of a reply
* `readCall_sound`, `readCall_complete`: the flags of a call
-/

namespace ProxyTrial.Script

open Grammar

/-- A form has been taken from the symbols `xs`, and the stream holds the rest. -/
def Takes (form : List Symbol → Prop) (xs : List Symbol) (s : TokenStream) : Prop :=
  ∃ ys rest, xs = ys ++ rest ∧ form ys ∧ s.Holds rest

variable {s s' : TokenStream} {xs ys rest : List Symbol}

/-! ## Expectations -/

theorem significant_takes (hs : s.Holds xs) (hk : (s.significant true).1.kind ≠ .endOfScript) :
    Takes (Lead (s.significant true).1.kind (s.significant true).1.text) xs
      (s.significant true).2 := by
  rcases hs.significant_true with ⟨ys, rest, hxs, hl, hr⟩ | ⟨-, he⟩
  · exact ⟨ys, rest, hxs, hl, hr⟩
  · exact absurd (by rw [he]; rfl) hk

theorem readKind_sound {k : Kind} {wanted : Wanted} {construct : Construct} {t : Token}
    (hs : s.Holds xs) (hk : k ≠ .endOfScript)
    (h : readKind k wanted construct s = .ok (t, s')) : Takes (Lead k t.text) xs s' := by
  unfold readKind at h
  split at h
  next u s₁ hu =>
    split at h
    · next hku =>
      cases h
      have ht := significant_takes hs (by rw [hu]; exact hku ▸ hk)
      rw [hu, hku] at ht
      exact ht
    · cases h

theorem readKind_complete {k : Kind} {w : String} (wanted : Wanted) (construct : Construct)
    (hs : s.Holds (ys ++ rest)) (hl : Lead k w ys) (hk : k ≠ .lineBreak) :
    ∃ t s', readKind k wanted construct s = .ok (t, s') ∧ t.text = w ∧ s'.Holds rest := by
  obtain ⟨hu, hw, hr⟩ := hs.significant_lead hl hk
  exact ⟨_, _, by simp only [readKind, if_pos hu], hw, hr⟩

theorem readSelector_sound {side name : String} (hs : s.Holds xs)
    (h : readSelector side s = .ok (name, s')) :
    Takes (fun ys => ∃ o c os ns cs, ys = os ++ (ns ++ cs) ∧ Lead .openBracket o os ∧
      Lead .string name ns ∧ Lead .closeBracket c cs) xs s' := by
  simp only [readSelector, bind_eq_ok, pure_eq_ok] at h
  obtain ⟨⟨o, s₁⟩, ho, ⟨n, s₂⟩, hn, ⟨c, s₃⟩, hc, h⟩ := h
  cases h
  obtain ⟨os, r₁, rfl, hlo, hr₁⟩ := readKind_sound hs (by simp) ho
  obtain ⟨ns, r₂, rfl, hln, hr₂⟩ := readKind_sound hr₁ (by simp) hn
  obtain ⟨cs, r₃, rfl, hlc, hr₃⟩ := readKind_sound hr₂ (by simp) hc
  exact ⟨os ++ (ns ++ cs), r₃, by simp, ⟨_, _, os, ns, cs, rfl, hlo, hln, hlc⟩, hr₃⟩

theorem readSelector_complete (side : String) {o name c : String} {os ns cs : List Symbol}
    (hs : s.Holds (os ++ (ns ++ (cs ++ rest)))) (ho : Lead .openBracket o os)
    (hn : Lead .string name ns) (hc : Lead .closeBracket c cs) :
    ∃ s', readSelector side s = .ok (name, s') ∧ s'.Holds rest := by
  obtain ⟨_, s₁, h₁, -, hr₁⟩ :=
    readKind_complete (.headerSelector side) .expectCommand hs ho (by simp)
  obtain ⟨_, s₂, h₂, rfl, hr₂⟩ :=
    readKind_complete (.headerSelector side) .expectCommand hr₁ hn (by simp)
  obtain ⟨_, s₃, h₃, -, hr₃⟩ :=
    readKind_complete (.headerSelector side) .expectCommand hr₂ hc (by simp)
  exact ⟨s₃, by simp only [readSelector, h₁, h₂, h₃, ok_bind]; rfl, hr₃⟩

theorem readSubject_sound {side : String} {subject : Subject} (hs : s.Holds xs)
    (h : readSubject side s = .ok (subject, s')) : Takes (IsSubject · subject) xs s' := by
  unfold readSubject at h
  split at h
  next t s₁ ht =>
    have hk : t.kind ≠ .endOfScript := by
      intro he
      simp [he] at h
    obtain ⟨ws, r₁, rfl, hl, hr₁⟩ : Takes (Lead t.kind t.text) xs s₁ := by
      have hw := significant_takes hs (by rw [ht]; exact hk)
      rwa [ht] at hw
    split at h
    · next hm => cases h; exact ⟨ws, r₁, rfl, .method (hm ▸ hl), hr₁⟩
    · next hm => cases h; exact ⟨ws, r₁, rfl, .status (hm ▸ hl), hr₁⟩
    · next hm => cases h; exact ⟨ws, r₁, rfl, .body (hm ▸ hl), hr₁⟩
    · next hm =>
      simp only [bind_eq_ok, pure_eq_ok] at h
      obtain ⟨⟨name, s₂⟩, hn, h⟩ := h
      cases h
      obtain ⟨ys, r₂, rfl, ⟨o, c, os, ns, cs, rfl, hlo, hln, hlc⟩, hr₂⟩ :=
        readSelector_sound hr₁ hn
      exact ⟨_, r₂, by simp, .header (hm ▸ hl) hlo hln hlc, hr₂⟩
    · cases h

theorem readSubject_complete (side : String) {subject : Subject} (hs : s.Holds (ys ++ rest))
    (h : IsSubject ys subject) : ∃ s', readSubject side s = .ok (subject, s') ∧ s'.Holds rest := by
  cases h with
  | method hl | status hl | body hl =>
    obtain ⟨hk, -, hr⟩ := hs.significant_lead hl (by simp)
    exact ⟨_, by simp only [readSubject, hk], hr⟩
  | header hl ho hn hc =>
    simp only [List.append_assoc] at hs
    obtain ⟨hk, -, hr⟩ := hs.significant_lead hl (by simp)
    obtain ⟨s₂, h₂, hr₂⟩ := readSelector_complete side hr ho hn hc
    exact ⟨s₂, by simp only [readSubject, hk, h₂, ok_bind]; rfl, hr₂⟩

theorem sideOf_eq_some_iff {k : Kind} {side : Side} : sideOf k = some side ↔ IsSide k side := by
  constructor
  · intro h
    cases k <;> simp only [sideOf, Option.some.injEq, reduceCtorEq] at h <;> subst h
    · exact .request
    · exact .response
  · rintro (_ | _) <;> rfl

theorem isValue_of_writtenValue {t : Token} {written : String} (hl : Lead t.kind t.text ys)
    (h : writtenValue t = some written) : IsValue ys t.text written := by
  unfold writtenValue at h
  split at h
  · next hk => cases h; exact .string (hk ▸ hl)
  · next hk => cases h; exact .integer (hk ▸ hl)
  · cases h

theorem significant_value {v written : String} (hs : s.Holds (ys ++ rest))
    (h : IsValue ys v written) :
    (s.significant true).1.text = v ∧ writtenValue (s.significant true).1 = some written ∧
      (s.significant true).2.Holds rest := by
  cases h with
  | string hl | integer hl =>
    obtain ⟨hk, hw, hr⟩ := hs.significant_lead hl (by simp)
    exact ⟨hw, by simp [writtenValue, hk, hw], hr⟩

theorem compares_of_comparisonOf {o v : Token} {c : Comparison} (ho : isOperator o.kind)
    (h : comparisonOf o v = .ok c) : Compares o.kind v.text c := by
  unfold comparisonOf at h
  split at h
  · next hk => cases h; rw [hk]; exact .equal
  · next hk => cases h; rw [hk]; exact .differs
  · next he hn =>
    have hk : o.kind = .tilde := by
      simp only [isOperator, Bool.or_eq_true, beq_iff_eq] at ho
      exact ho.resolve_left fun h => h.elim he hn
    split at h
    · next p hp => cases h; rw [hk]; exact .contains hp
    · split at h <;> cases h

theorem comparisonOf_complete {o v : Token} {c : Comparison} (h : Compares o.kind v.text c) :
    isOperator o.kind ∧ comparisonOf o v = .ok c := by
  cases hk : o.kind <;> rw [hk] at h <;> cases h
  · simp [isOperator, comparisonOf, hk]
  · simp [isOperator, comparisonOf, hk]
  · next p hp => simp [isOperator, comparisonOf, hk, hp]

/-- Reading an expectation takes an expectation. -/
theorem readExpect_sound {e : Expectation} (hs : s.Holds xs) (h : readExpect s = .ok (e, s')) :
    Takes (Expecting · e) xs s' := by
  simp only [readExpect] at h
  split at h
  · next side hside =>
    have hk := sideOf_eq_some_iff.1 hside
    obtain ⟨ss, r₁, rfl, hls, hr₁⟩ := significant_takes hs (by rintro he; rw [he] at hk; cases hk)
    simp only [bind_eq_ok] at h
    -- In order: the dot, the subject, the operator and the value, each from what the last left.
    obtain ⟨⟨d, s₂⟩, hd, ⟨subject, s₃⟩, hsub, h⟩ := h
    obtain ⟨ds, r₂, rfl, hld, hr₂⟩ := readKind_sound hr₁ (by simp) hd
    obtain ⟨us, r₃, rfl, hu, hr₃⟩ := readSubject_sound hr₂ hsub
    split at h
    · cases h
    · next hop =>
      replace hop : isOperator (s₃.significant true).1.kind := by simpa using hop
      obtain ⟨os, r₄, rfl, hlo, hr₄⟩ :=
        significant_takes hr₃ (by intro he; rw [he] at hop; cases hop)
      split at h
      · next written hw =>
        simp only [bind_eq_ok, pure_eq_ok] at h
        obtain ⟨c, hc, h⟩ := h
        cases h
        obtain ⟨vs, r₅, rfl, hlv, hr₅⟩ :=
          significant_takes hr₄ (by intro he; simp [writtenValue, he] at hw)
        exact ⟨_, r₅, by simp, .mk hls hk hld hu hlo (compares_of_comparisonOf hop hc)
          (isValue_of_writtenValue hlv hw), hr₅⟩
      · cases h
  · cases h

/-- Reading an expectation takes any expectation that is ahead. -/
theorem readExpect_complete {e : Expectation} (hs : s.Holds (ys ++ rest)) (h : Expecting ys e) :
    ∃ s', readExpect s = .ok (e, s') ∧ s'.Holds rest := by
  cases h with
  | mk hls hside hld hu hlo hc hv =>
    -- Each part of the command stands first for its reader once those before it are taken.
    simp only [List.append_assoc] at hs
    obtain ⟨hk, hw, hr₁⟩ := hs.significant_lead hls (by rintro rfl; cases hside)
    obtain ⟨_, s₂, h₂, -, hr₂⟩ :=
      readKind_complete (.dot (s.significant true).1.text) .expectCommand hr₁ hld (by simp)
    obtain ⟨s₃, h₃, hr₃⟩ := readSubject_complete (s.significant true).1.text hr₂ hu
    obtain ⟨hko, hwo, hr₄⟩ := hr₃.significant_lead hlo (by rintro rfl; cases hc)
    obtain ⟨hv, hwv, hr₅⟩ := significant_value hr₄ hv
    obtain ⟨hop, hcomp⟩ := comparisonOf_complete (o := (s₃.significant true).1)
      (v := ((s₃.significant true).2.significant true).1) (by rw [hko, hv]; exact hc)
    refine ⟨_, ?_, hr₅⟩
    simp only [readExpect, sideOf_eq_some_iff.2 (hk ▸ hside), h₂, h₃, hop, hwv, hcomp, ok_bind]
    rw [hwo, hv]
    rfl

/-! ## Flags -/

theorem readValue_sound {k : Kind} {wanted : Wanted} {t : Token} (hs : s.Holds xs)
    (hk : k ≠ .endOfScript) (h : readValue k wanted s = .ok (t, s')) :
    ∃ rest, xs = ⟨k, t.text⟩ :: rest ∧ s'.Holds rest := by
  simp only [readValue] at h
  split at h
  · next hku =>
    cases h
    cases xs with
    | nil => exact absurd (by rw [← hku, (hs.significant_nil false).1]; rfl) hk
    | cons x xs =>
      obtain ⟨hx, hr⟩ := hs.significant_cons
      exact ⟨xs, by rw [← hx, ← hku]; rfl, hr⟩
  · cases h

theorem readValue_of_significant {k : Kind} {t : Token} (wanted : Wanted)
    (h : s.significant false = (t, s')) (hk : t.kind = k) :
    readValue k wanted s = .ok (t, s') := by
  simp only [readValue, h, if_pos hk]

/-- Cutting a header line finds the header that it holds. -/
theorem splitHeader_eq_some_iff {text name value : String} :
    splitHeader text = some (name, value) ↔ IsHeader text name value := by
  constructor
  · intro h
    unfold splitHeader at h
    split at h
    · cases h
    · next before after hcut =>
      obtain ⟨he, hn⟩ := Text.cutAt_eq_some_iff.1 hcut
      simp only at h
      split at h
      · cases h
      · next hne =>
        cases h
        refine ⟨before, after, he, hn, rfl, fun hnil => hne ?_, rfl⟩
        rw [String.ofList_eq_empty_iff.1 hnil]
        rfl
  · rintro ⟨before, after, he, hn, rfl, hne, rfl⟩
    have hnil : (Text.trimBy Text.isBlank before).isEmpty = false := by
      cases hb : Text.trimBy Text.isBlank before with
      | nil => exact absurd (by rw [hb]) hne
      | cons => rfl
    simp [splitHeader, he, Text.cutAt_append hn, hnil]

section Flags

variable {α : Type} {flag : Token → α → TokenStream → Except ScriptError (α × TokenStream)}
  {fits : Setting → Bool} {set : α → Setting → α}

/-- A reader of one flag reads those that fit, and sets what they say. -/
structure ReadsFlag (flag : Token → α → TokenStream → Except ScriptError (α × TokenStream))
    (fits : Setting → Bool) (set : α → Setting → α) : Prop where
  sound : ∀ {t : Token} {a b : α} {s s' : TokenStream} {xs : List Symbol}, s.Holds xs →
    flag t a s = .ok (b, s') →
    ∃ v rest e, xs = v :: rest ∧ Sets t.symbol v e ∧ fits e ∧ b = set a e ∧ s'.Holds rest
  complete : ∀ {t : Token} {a : α} {s : TokenStream} {v : Symbol} {rest : List Symbol}
    {e : Setting}, s.Holds (v :: rest) → Sets t.symbol v e → fits e →
    ∃ s', flag t a s = .ok (set a e, s') ∧ s'.Holds rest

theorem readHeader_sound {hs hs' : Headers} (h₀ : s.Holds xs)
    (h : readHeader hs s = .ok (hs', s')) :
    ∃ v name value rest, xs = ⟨.string, v⟩ :: rest ∧ IsHeader v name value ∧
      hs' = setHeader name value hs ∧ s'.Holds rest := by
  simp only [readHeader, bind_eq_ok] at h
  obtain ⟨⟨t, s₁⟩, ht, h⟩ := h
  obtain ⟨rest, rfl, hr⟩ := readValue_sound h₀ (by simp) ht
  split at h
  · cases h
  · next name value hn =>
    cases h
    exact ⟨_, name, value, rest, rfl, splitHeader_eq_some_iff.1 hn, rfl, hr⟩

theorem readStatus_sound {code : Int} (h₀ : s.Holds xs) (h : readStatus s = .ok (code, s')) :
    ∃ v rest, xs = ⟨.integer, v⟩ :: rest ∧ integerValue v = .ok code ∧ 100 ≤ code ∧ code ≤ 999 ∧
      s'.Holds rest := by
  simp only [readStatus, bind_eq_ok] at h
  obtain ⟨⟨t, s₁⟩, ht, n, hn, h⟩ := h
  obtain ⟨rest, rfl, hr⟩ := readValue_sound h₀ (by simp) ht
  split at h
  · next hb =>
    cases h
    exact ⟨_, rest, rfl, hn, hb.1, hb.2, hr⟩
  · cases h

theorem set_eq_ok {β : Type} {read : Except ScriptError (β × TokenStream)} {f : β → α} {b : α} :
    (do
      let (v, s) ← read
      return (f v, s)) = Except.ok (b, s') ↔ ∃ v, read = .ok (v, s') ∧ b = f v := by
  simp only [bind_eq_ok, pure_eq_ok]
  constructor
  · rintro ⟨⟨v, s₁⟩, hv, h⟩
    cases h
    exact ⟨v, hv, rfl⟩
  · rintro ⟨v, hv, rfl⟩
    exact ⟨(v, s'), hv, rfl⟩

/-- A flag of a reply takes the token of its value, and sets what that says. -/
theorem readReplyFlag_of_sets {t u : Token} {e : Setting} (r : Reply)
    (hu : s.significant false = (u, s')) (h : Sets t.symbol u.symbol e) (hf : e.isForReply) :
    readReplyFlag t r s = .ok (setReply r e, s') := by
  obtain ⟨k, w, p⟩ := t
  obtain ⟨k', v, p'⟩ := u
  cases h with
  | body => simp only [readReplyFlag, readValue_of_significant _ hu rfl, ok_bind]; rfl
  | header hh =>
    simp only [readReplyFlag, readHeader, readValue_of_significant _ hu rfl, ok_bind,
      splitHeader_eq_some_iff.2 hh]
    rfl
  | status hn hlo hhi =>
    simp only [readReplyFlag, readStatus, readValue_of_significant _ hu rfl, ok_bind, hn,
      if_pos (And.intro hlo hhi)]
    rfl
  | method => cases hf
  | target => cases hf

/-- A flag of a call takes the token of its value, and sets what that says. -/
theorem readCallFlag_of_sets {t u : Token} {e : Setting} (c : Call)
    (hu : s.significant false = (u, s')) (h : Sets t.symbol u.symbol e) (hf : e.isForCall) :
    readCallFlag t c s = .ok (setCall c e, s') := by
  obtain ⟨k, w, p⟩ := t
  obtain ⟨k', v, p'⟩ := u
  cases h with
  | body | method | target =>
    simp only [readCallFlag, readValue_of_significant _ hu rfl, ok_bind]
    rfl
  | header hh =>
    simp only [readCallFlag, readHeader, readValue_of_significant _ hu rfl, ok_bind,
      splitHeader_eq_some_iff.2 hh]
    rfl
  | status => cases hf

theorem readsFlag_reply : ReadsFlag readReplyFlag Setting.isForReply setReply where
  -- One case for each flag of a reply; its value decides the setting.
  sound {t a b s s' xs} h₀ h := by
    unfold readReplyFlag at h
    split at h
    · next hk =>
      obtain ⟨v, hv, rfl⟩ := (set_eq_ok (f := fun v : Token => { a with body := v.text })).1 h
      obtain ⟨rest, rfl, hr⟩ := readValue_sound h₀ (by simp) hv
      exact ⟨_, rest, .body v.text, rfl, by rw [Token.symbol, hk]; exact .body, rfl, rfl, hr⟩
    · next hk =>
      obtain ⟨hs, hv, rfl⟩ := (set_eq_ok (f := fun hs : Headers => { a with headers := hs })).1 h
      obtain ⟨v, name, value, rest, rfl, hh, rfl, hr⟩ := readHeader_sound h₀ hv
      exact ⟨_, rest, .header name value, rfl, by rw [Token.symbol, hk]; exact .header hh, rfl,
        rfl, hr⟩
    · next hk =>
      obtain ⟨code, hv, rfl⟩ := (set_eq_ok (f := fun code : Int => { a with status := code })).1 h
      obtain ⟨v, rest, rfl, hn, hlo, hhi, hr⟩ := readStatus_sound h₀ hv
      exact ⟨_, rest, .status code, rfl, by rw [Token.symbol, hk]; exact .status hn hlo hhi, rfl,
        rfl, hr⟩
    · cases h
  complete {t a s v rest e} h₀ h hf := by
    obtain ⟨hv, hr⟩ := h₀.significant_cons
    exact ⟨_, readReplyFlag_of_sets a rfl (hv.symm ▸ h) hf, hr⟩

theorem readsFlag_call : ReadsFlag readCallFlag Setting.isForCall setCall where
  -- One case for each flag of a call; its value decides the setting.
  sound {t a b s s' xs} h₀ h := by
    unfold readCallFlag at h
    split at h
    · next hk =>
      obtain ⟨v, hv, rfl⟩ := (set_eq_ok (f := fun v : Token => { a with body := v.text })).1 h
      obtain ⟨rest, rfl, hr⟩ := readValue_sound h₀ (by simp) hv
      exact ⟨_, rest, .body v.text, rfl, by rw [Token.symbol, hk]; exact .body, rfl, rfl, hr⟩
    · next hk =>
      obtain ⟨hs, hv, rfl⟩ := (set_eq_ok (f := fun hs : Headers => { a with headers := hs })).1 h
      obtain ⟨v, name, value, rest, rfl, hh, rfl, hr⟩ := readHeader_sound h₀ hv
      exact ⟨_, rest, .header name value, rfl, by rw [Token.symbol, hk]; exact .header hh, rfl,
        rfl, hr⟩
    · next hk =>
      obtain ⟨v, hv, rfl⟩ := (set_eq_ok (f := fun v : Token => { a with method := v.text })).1 h
      obtain ⟨rest, rfl, hr⟩ := readValue_sound h₀ (by simp) hv
      exact ⟨_, rest, .method v.text, rfl, by rw [Token.symbol, hk]; exact .method, rfl, rfl, hr⟩
    · next hk =>
      obtain ⟨v, hv, rfl⟩ := (set_eq_ok (f := fun v : Token => { a with target := v.text })).1 h
      obtain ⟨rest, rfl, hr⟩ := readValue_sound h₀ (by simp) hv
      exact ⟨_, rest, .target v.text, rfl, by rw [Token.symbol, hk]; exact .target, rfl, rfl, hr⟩
    · cases h
  complete {t a s v rest e} h₀ h hf := by
    obtain ⟨hv, hr⟩ := h₀.significant_cons
    exact ⟨_, readCallFlag_of_sets a rfl (hv.symm ▸ h) hf, hr⟩

theorem Grammar.Sets.not_endsTx {f v : Symbol} {e : Setting} (h : Sets f v e) :
    endsTx f.kind = false := by
  cases h <;> rfl

theorem endsFlags_cons_iff {x : Symbol} (hx : x.kind ≠ .endOfScript) :
    EndsFlags (x :: xs) ↔ endsTx x.kind := by
  simp [EndsFlags, endsTx, hx, or_comm]

/-- Reading flags takes flags up to what ends them, and sets them one after the other. -/
theorem readFlags_sound (hf : ReadsFlag flag fits set) {fuel : Nat} {a b : α}
    (hs : s.Holds xs) (hfuel : xs.length < fuel) (h : readFlags flag fuel a s = .ok (b, s')) :
    ∃ ys rest l, xs = ys ++ rest ∧ Settings ys l ∧ (∀ e ∈ l, fits e) ∧ EndsFlags rest ∧
      b = l.foldl set a ∧ s'.Holds rest := by
  -- The fuel is more than the symbols ahead, so that it never runs out before they do.
  induction fuel generalizing s xs a with
  | zero => omega
  | succ fuel ih =>
    simp only [readFlags] at h
    cases xs with
    | nil =>
      obtain ⟨ht, hr⟩ := hs.significant_nil false
      rw [ht] at h
      cases h
      exact ⟨[], [], [], rfl, .nil, by simp, trivial, rfl, hr⟩
    | cons x xs =>
      obtain ⟨hx, hr⟩ := hs.significant_cons
      obtain ⟨hb, he⟩ := hs.kind_of_mem List.mem_cons_self
      split at h
      -- A symbol that ends the command is put back, and nothing has been taken.
      · next hend =>
        cases h
        rw [show (s.significant false).1.kind = x.kind from congrArg Symbol.kind hx] at hend
        refine ⟨[], x :: xs, [], rfl, .nil, by simp, (endsFlags_cons_iff he).2 hend, rfl, ?_⟩
        exact hr.putBack hx (by rw [← hx] at hb; exact hb) (by rw [← hx] at he; exact he)
      · simp only [bind_eq_ok] at h
        obtain ⟨⟨c, s₁⟩, hc, h⟩ := h
        obtain ⟨v, r₁, e, rfl, hsets, hfit, rfl, hr₁⟩ := hf.sound hr hc
        obtain ⟨ys, rest, l, rfl, hl, hall, hend, rfl, hr₂⟩ :=
          ih hr₁ (by simp only [List.length_cons] at hfuel; omega) h
        refine ⟨x :: v :: ys, rest, e :: l, rfl, .cons (hx ▸ hsets) hl, ?_, hend, rfl, hr₂⟩
        intro e' he'
        rcases List.mem_cons.1 he' with rfl | he'
        · exact hfit
        · exact hall e' he'

/-- Reading flags takes all those that stand ahead of what ends them. -/
theorem readFlags_complete (hf : ReadsFlag flag fits set) {fuel : Nat} {a : α} {l : List Setting}
    (hs : s.Holds (ys ++ rest)) (hfuel : (ys ++ rest).length < fuel) (h : Settings ys l)
    (hfit : ∀ e ∈ l, fits e) (hend : EndsFlags rest) :
    ∃ s', readFlags flag fuel a s = .ok (l.foldl set a, s') ∧ s'.Holds rest := by
  -- The induction is on the settings: each takes two symbols, its flag and its value.
  induction h generalizing fuel a s with
  | nil =>
    obtain ⟨fuel, rfl⟩ := Nat.exists_eq_add_one_of_ne_zero (Nat.ne_zero_of_lt hfuel)
    simp only [readFlags]
    cases rest with
    | nil =>
      obtain ⟨ht, hr⟩ := hs.significant_nil false
      rw [ht]
      exact ⟨_, rfl, hr⟩
    | cons x rest =>
      obtain ⟨hx, hr⟩ := hs.significant_cons
      obtain ⟨hb, he⟩ := hs.kind_of_mem List.mem_cons_self
      rw [if_pos (by rw [← Token.symbol_kind, hx]; exact (endsFlags_cons_iff he).1 hend)]
      exact ⟨_, rfl, hr.putBack hx (by rw [← hx] at hb; exact hb) (by rw [← hx] at he; exact he)⟩
  | @cons f v e ys l hsets _ ih =>
    obtain ⟨fuel, rfl⟩ := Nat.exists_eq_add_one_of_ne_zero (Nat.ne_zero_of_lt hfuel)
    obtain ⟨hx, hr⟩ := hs.significant_cons
    obtain ⟨s₁, h₁, hr₁⟩ := hf.complete (a := a) hr (hx.symm ▸ hsets) (hfit e List.mem_cons_self)
    have hlen : (ys ++ rest).length < fuel := by
      simp only [List.cons_append, List.length_cons] at hfuel
      omega
    obtain ⟨s₂, h₂, hr₂⟩ :=
      ih (a := set a e) hr₁ hlen fun x hx => hfit x (List.mem_cons_of_mem e hx)
    refine ⟨s₂, ?_, hr₂⟩
    have hne : endsTx (s.significant false).1.kind = false := by
      rw [← Token.symbol_kind, hx]
      exact hsets.not_endsTx
    simp only [readFlags, hne, h₁, ok_bind]
    exact h₂

end Flags

/-- Reading the flags of a reply takes the flags of a reply. -/
theorem readReply_sound {r : Reply} (hs : s.Holds xs) (h : readReply s = .ok (r, s')) :
    ∃ ys rest, xs = ys ++ rest ∧ Replies ys r ∧ EndsFlags rest ∧ s'.Holds rest := by
  obtain ⟨ys, rest, l, rfl, hl, hfit, hend, rfl, hr⟩ :=
    readFlags_sound readsFlag_reply hs (Nat.lt_succ_of_le hs.length_le) h
  exact ⟨ys, rest, rfl, foldl_setReply hfit ▸ .mk hl hfit, hend, hr⟩

/-- Reading the flags of a reply takes any flags of a reply that end. -/
theorem readReply_complete {r : Reply} (hs : s.Holds (ys ++ rest)) (h : Replies ys r)
    (hend : EndsFlags rest) : ∃ s', readReply s = .ok (r, s') ∧ s'.Holds rest := by
  obtain ⟨hl, hfit⟩ := h
  obtain ⟨s', h', hr⟩ := readFlags_complete (a := {}) readsFlag_reply hs
    (Nat.lt_succ_of_le hs.length_le) hl hfit hend
  exact ⟨s', foldl_setReply hfit ▸ h', hr⟩

/-- Reading the flags of a call takes the flags of a call. -/
theorem readCall_sound {c : Call} (hs : s.Holds xs) (h : readCall s = .ok (c, s')) :
    ∃ ys rest, xs = ys ++ rest ∧ Calls ys c ∧ EndsFlags rest ∧ s'.Holds rest := by
  obtain ⟨ys, rest, l, rfl, hl, hfit, hend, rfl, hr⟩ :=
    readFlags_sound readsFlag_call hs (Nat.lt_succ_of_le hs.length_le) h
  exact ⟨ys, rest, rfl, foldl_setCall hfit ▸ .mk hl hfit, hend, hr⟩

/-- Reading the flags of a call takes any flags of a call that end. -/
theorem readCall_complete {c : Call} (hs : s.Holds (ys ++ rest)) (h : Calls ys c)
    (hend : EndsFlags rest) : ∃ s', readCall s = .ok (c, s') ∧ s'.Holds rest := by
  obtain ⟨hl, hfit⟩ := h
  obtain ⟨s', h', hr⟩ := readFlags_complete (a := {}) readsFlag_call hs
    (Nat.lt_succ_of_le hs.length_le) hl hfit hend
  exact ⟨s', foldl_setCall hfit ▸ h', hr⟩

end ProxyTrial.Script
