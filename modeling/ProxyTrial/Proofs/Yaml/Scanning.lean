import ProxyTrial.Proofs.Basic
import ProxyTrial.Proofs.Yaml.Cursor
import ProxyTrial.Yaml.Node
/-!
# Faults of tokens

The tokens of a text end with a flaw, or with a number in the text which is none that can be read:
the code of a character in an escape, or the version in a directive.

## Main definitions

* `BadNumber cs fault`: a number among characters cannot be read
* `Reads pos c r`: what a reader gives for what is ahead of a cursor

## Main results

* `Lexing.reads_token`: one token
* `Lexing.fault_run`: all tokens
* `Tokens.fault_ofText`: what ends the tokens of a text
-/

namespace ProxyTrial.Yaml

/-- A fault is a flaw of the text. -/
def Fault.IsFlaw (fault : Fault) : Prop := ∃ f, fault = .flawed f

theorem isFlaw_flawed (f : Flaw) : (Fault.flawed f).IsFlaw := ⟨f, rfl⟩

/-- A number among characters cannot be read. -/
inductive BadNumber (cs : List Char) : Fault → Prop
  /-- The digits after a letter that is escaped are no code point. -/
  | codePoint {letter : Char} {digits : List Char} : '\\' :: letter :: digits <:+: cs →
      numberedEscapes.lookup letter = some digits.length → digits.all Text.isHexDigit →
      0x10FFFF < Text.ofHexDigits digits → BadNumber cs (.codePoint (Text.ofHexDigits digits))
  /-- One of the numbers of a version, which stand on both sides of a dot, has too many digits. -/
  | manyDigits {before digits : List Char} : '%' :: "YAML".toList ++ before ++ digits <:+: cs →
      (∀ x ∈ before, x = ' ' ∨ x.isDigit ∨ x = '.') → digits.all Char.isDigit →
      Text.digitLimit < digits.length → BadNumber cs (.manyDigits digits.length)

theorem BadNumber.mono {cs cs' : List Char} {fault : Fault} (h : BadNumber cs fault)
    (hcs : cs <:+: cs') : BadNumber cs' fault := by
  cases h with
  | codePoint hamong hletter hhex hlarge => exact .codePoint (hamong.trans hcs) hletter hhex hlarge
  | manyDigits hamong hbefore hdigits hmany =>
    exact .manyDigits (hamong.trans hcs) hbefore hdigits hmany

theorem BadNumber.not_isFlaw {cs : List Char} {fault : Fault} (h : BadNumber cs fault) :
    ¬ fault.IsFlaw := by
  cases h <;> nofun

/-- What a reader gives: a place `pos a` further on, a flaw, or a number that cannot be read. -/
def Reads {α : Type} (pos : α → Cursor) (c : Cursor) (r : Result α) : Prop :=
  (∀ a, r = .ok a → c.Reaches (pos a)) ∧
    FailsOnly (fun fault => fault.IsFlaw ∨ BadNumber c.rest fault) r

section Reads

variable {α β : Type} {pos : α → Cursor} {pos' : β → Cursor} {c c' : Cursor}

theorem reads_flaw (f : Flaw) : Reads pos c (flaw f) :=
  ⟨nofun, failsOnly_error (.inl (isFlaw_flawed f))⟩

theorem reads_ok {a : α} (h : c.Reaches (pos a)) : Reads pos c (.ok a) :=
  ⟨fun _ ha => Except.ok.inj ha ▸ h, failsOnly_ok _⟩

/-- A reader may begin further on. -/
theorem Reads.of_reaches {r : Result α} (h : Reads pos c' r) (hc : c.Reaches c') :
    Reads pos c r :=
  ⟨fun a ha => hc.trans (h.1 a ha),
    fun fault hfault => (h.2 fault hfault).imp_right (·.mono hc.isInfix)⟩

theorem reads_bind {r : Result α} {f : α → Result β} (hr : Reads pos c r)
    (hf : ∀ a, r = .ok a → Reads pos' c (f a)) : Reads pos' c (r >>= f) := by
  constructor
  · intro b hb
    obtain ⟨a, ha, hb⟩ := bind_eq_ok.1 hb
    exact (hf a ha).1 b hb
  · intro fault hfault
    rcases bind_eq_error.1 hfault with hfault | ⟨a, ha, hfault⟩
    · exact hr.2 fault hfault
    · exact (hf a ha).2 fault hfault

/-- What comes after a reader begins where it ends. -/
theorem Reads.bind {r : Result α} {f : α → Result β} (hr : Reads pos c r)
    (hf : ∀ a, Reads pos' (pos a) (f a)) : Reads pos' c (r >>= f) :=
  reads_bind hr fun a ha => (hf a).of_reaches (hr.1 a ha)

/-- What comes after something that fails for flaws only, and moves nothing. -/
theorem reads_after {r : Result β} {f : β → Result α} (hr : FailsOnly Fault.IsFlaw r)
    (hf : ∀ b, Reads pos c (f b)) : Reads pos c (r >>= f) := by
  constructor
  · intro a ha
    obtain ⟨b, -, ha⟩ := bind_eq_ok.1 ha
    exact (hf b).1 a ha
  · intro fault hfault
    rcases bind_eq_error.1 hfault with hfault | ⟨b, -, hfault⟩
    · exact .inl (hr fault hfault)
    · exact (hf b).2 fault hfault

theorem reads_ite {p : Prop} [Decidable p] {r r' : Result α} (h : Reads pos c r)
    (h' : Reads pos c r') : Reads pos c (if p then r else r') := by
  split
  · exact h
  · exact h'

end Reads

/-! ## Names and tags -/

section Property

variable {c : Cursor}

theorem reads_anchorName (c : Cursor) : Reads Prod.snd c (anchorName c) := by
  unfold anchorName
  dsimp only
  split
  · exact reads_flaw _
  · exact reads_ok ((c.reaches_next).trans (Cursor.reaches_span _ _))

theorem reads_percentEscapes (fuel : Nat) (c : Cursor) :
    Reads Prod.snd c (percentEscapes fuel c) := by
  induction fuel generalizing c with
  | zero => exact reads_ok (.refl c)
  | succ fuel ih =>
    unfold percentEscapes
    split
    · split
      · refine ((ih _).of_reaches (c.reaches_skip 3)).bind fun _ => reads_ok (.refl _)
      · exact reads_flaw _
    · exact reads_flaw _
    · exact reads_ok (.refl c)

theorem reads_tagChars (fuel : Nat) (c : Cursor) : Reads Prod.snd c (tagChars fuel c) := by
  induction fuel generalizing c with
  | zero => exact reads_ok (.refl c)
  | succ fuel ih =>
    unfold tagChars
    split
    · refine (reads_percentEscapes _ c).bind fun ⟨bs, c'⟩ => ?_
      dsimp only
      split
      · exact reads_flaw _
      · exact (ih _).bind fun _ => reads_ok (.refl _)
    · split
      · exact ((ih _).of_reaches (c.reaches_span isTagChar)).bind fun _ => reads_ok (.refl _)
      · exact reads_ok (.refl c)

theorem reads_tagText (c : Cursor) : Reads Prod.snd c (tagText c) := by
  refine (reads_tagChars _ c).bind fun ⟨cs, after⟩ => ?_
  dsimp only
  split
  · exact reads_flaw _
  · exact reads_ok (.refl _)

theorem reads_tagHandle (c : Cursor) : Reads Prod.snd c (tagHandle c) := by
  unfold tagHandle
  split
  · exact reads_flaw _
  · split
    · exact reads_ok c.reaches_next
    · dsimp only
      split
      · exact reads_flaw _
      · exact reads_ok ((c.reaches_next.trans (Cursor.reaches_span _ _)).trans
          (Cursor.reaches_next _))

theorem reads_tagName (c : Cursor) : Reads Prod.snd c (tagName c) := by
  unfold tagName
  extract_lets finish named ending
  -- Every kind of name ends in `finish`, which wants a blank behind it and moves nothing.
  have hfinish (a : TagName × Cursor) : Reads Prod.snd a.2 (finish a) := by
    obtain ⟨tag, after⟩ := a
    dsimp only [finish]
    split
    · exact reads_flaw _
    · exact reads_ok (.refl _)
  have hending (a : String × Cursor) : Reads Prod.snd a.2 (ending a) :=
    (reads_tagText a.2).bind fun b => hfinish (_, b.2)
  split
  · refine ((reads_tagText _).of_reaches (c.reaches_skip 2)).bind fun ⟨text, c'⟩ => ?_
    dsimp only
    split
    · exact reads_flaw _
    · exact (hfinish (_, c'.next)).of_reaches c'.reaches_next
  · split
    · exact (hfinish (_, c.next)).of_reaches c.reaches_next
    · split
      · exact (reads_tagHandle c).bind hending
      · exact (hending (_, c.next)).of_reaches c.reaches_next

/-! ## Directives -/

theorem versionNumber_eq_ok {n : Nat} {after : Cursor} (h : versionNumber c = .ok (n, after)) :
    ∃ digits, digits.all Char.isDigit ∧ c.rest = digits ++ after.rest := by
  refine ⟨(c.span Char.isDigit).1, List.all_takeWhile, ?_⟩
  unfold versionNumber at h
  dsimp only at h
  split at h
  · cases h
  · split at h
    · cases h
    · obtain ⟨-, rfl⟩ := Prod.mk.inj (Except.ok.inj h)
      exact c.rest_eq_span _

theorem versionNumber_eq_error {fault : Fault} (h : versionNumber c = .error fault) :
    fault.IsFlaw ∨ ∃ digits, digits.all Char.isDigit ∧ digits <+: c.rest ∧
      Text.digitLimit < digits.length ∧ fault = .manyDigits digits.length := by
  unfold versionNumber at h
  dsimp only at h
  split at h
  · obtain rfl := Except.error.inj h
    exact .inl (isFlaw_flawed _)
  · split at h
    · next hmany =>
      refine .inr ⟨(c.span Char.isDigit).1, List.all_takeWhile, ?_, hmany,
        (Except.error.inj h).symm⟩
      exact List.takeWhile_prefix _
    · cases h

/-- One of the numbers of a version. -/
theorem reads_versionNumber {c' : Cursor} {before : List Char}
    (hc : c.rest = '%' :: "YAML".toList ++ before ++ c'.rest)
    (hbefore : ∀ x ∈ before, x = ' ' ∨ x.isDigit ∨ x = '.') :
    Reads Prod.snd c (versionNumber c') := by
  constructor
  · intro ⟨n, after⟩ h
    obtain ⟨digits, -, hdigits⟩ := versionNumber_eq_ok h
    exact ⟨_ ++ digits, by rw [hc, hdigits, List.append_assoc]⟩
  · intro fault h
    rcases versionNumber_eq_error h with hflaw | ⟨digits, hall, hpre, hmany, rfl⟩
    · exact .inl hflaw
    · refine .inr (.manyDigits ?_ hbefore hall hmany)
      rw [hc]
      exact ((List.prefix_append_right_inj _).2 hpre).isInfix

/-- The spaces in front of a version. -/
theorem rest_skipSpaces_version {c' : Cursor} (hc : c.rest = '%' :: "YAML".toList ++ c'.rest) :
    ∃ before, c.rest = '%' :: "YAML".toList ++ before ++ c'.skipSpaces.rest ∧
      ∀ x ∈ before, x = ' ' ∨ x.isDigit ∨ x = '.' := by
  refine ⟨(c'.span (· == ' ')).1, ?_, fun x hx => ?_⟩
  · rw [hc, List.append_assoc]
    exact congrArg _ (Cursor.rest_eq_span _ _)
  · exact .inl (eq_of_beq (List.all_eq_true.1 List.all_takeWhile x hx))

/-- The first number of a version and its dot stand in front of the second number. -/
theorem rest_next_version {c' c₁ : Cursor} {before : List Char} {major : Nat}
    (hc : c.rest = '%' :: "YAML".toList ++ before ++ c'.rest)
    (hbefore : ∀ x ∈ before, x = ' ' ∨ x.isDigit ∨ x = '.')
    (h : versionNumber c' = .ok (major, c₁)) (hdot : c₁.head = '.') :
    ∃ before', c.rest = '%' :: "YAML".toList ++ before' ++ c₁.next.rest ∧
      ∀ x ∈ before', x = ' ' ∨ x.isDigit ∨ x = '.' := by
  obtain ⟨digits, hdigits, hrest⟩ := versionNumber_eq_ok h
  refine ⟨before ++ digits ++ ['.'], ?_, fun x hx => ?_⟩
  · rw [hc, hrest, Cursor.rest_eq_cons hdot (by decide)]
    simp only [List.append_assoc, List.singleton_append]
  · rcases List.mem_append.1 hx with hx | hx
    · rcases List.mem_append.1 hx with hx | hx
      · exact hbefore x hx
      · exact .inr (.inl (List.all_eq_true.1 hdigits x hx))
    · exact .inr (.inr (List.mem_singleton.1 hx))

theorem reads_directive (h : c.head = '%') : Reads Prod.snd c (directive c) := by
  unfold directive
  extract_lets finish
  have hfinish (a : Directive × Cursor) : Reads Prod.snd a.2 (finish a) := by
    obtain ⟨d, c⟩ := a
    dsimp only [finish]
    exact reads_ite (reads_flaw _) (reads_ok ((c.reaches_skipSpaces.trans
      (Cursor.reaches_comment _ _)).trans (Cursor.reaches_lineBreak _)))
  -- From here on only `hfinish` speaks of `finish`, so it stays folded in the goals.
  clear_value finish
  have hrest := Cursor.rest_eq_cons h (by decide)
  have hname := Cursor.rest_eq_span isNamePart c.next
  split
  next name c' hspan =>
  rw [hspan] at hname
  rw [hname, ← List.cons_append] at hrest
  have hc' : c.Reaches c' := ⟨_, hrest.symm⟩
  extract_lets go
  refine reads_ite (reads_flaw _) ?_
  dsimp only [go]
  clear go
  split
  · next heq =>
    -- A version: only its two numbers can be bad, and each needs to know what stands in front of
    -- it, back to the percent sign.
    obtain rfl : name = "YAML".toList := String.ofList_injective heq
    obtain ⟨before, hspaces, hbefore⟩ := rest_skipSpaces_version hrest
    refine reads_bind (reads_versionNumber hspaces hbefore) fun ⟨major, c₁⟩ h₁ => ?_
    dsimp only
    split
    · exact reads_flaw _
    · next hdot =>
      obtain ⟨before', hsecond, hbefore'⟩ :=
        rest_next_version hspaces hbefore h₁ (by simpa using hdot)
      refine (reads_versionNumber hsecond hbefore').bind fun ⟨_, c₂⟩ => ?_
      dsimp only
      split
      · exact reads_flaw _
      · exact hfinish (_, c₂)
  · -- A handle and what it stands for, in which no number is read.
    have hhandle := (reads_tagHandle _).of_reaches (hc'.trans c'.reaches_skipSpaces)
    refine hhandle.bind fun ⟨handle, c₁⟩ => ?_
    dsimp only
    split
    · exact reads_flaw _
    · refine ((reads_tagText _).of_reaches c₁.reaches_skipSpaces).bind fun ⟨beginning, c₂⟩ => ?_
      dsimp only
      split
      · exact reads_flaw _
      · exact hfinish (_, c₂)
  · exact (hfinish (_, _)).of_reaches (hc'.trans (c'.reaches_skipWhile _))

end Property

/-! ## Scalars -/

section Scalar

variable {c : Cursor}

theorem ofCode_eq_error {n : Nat} {fault : Fault} (h : ofCode n = .error fault) :
    0x10FFFF < n ∧ fault = .codePoint n := by
  unfold ofCode at h
  split at h
  · cases h
  · split at h
    · cases h
    · exact ⟨by omega, (Except.error.inj h).symm⟩

/-- An escape with digits, which the character after the backslash asks for. -/
theorem reads_numbered {n : Nat} {c' : Cursor} (h : c.head = '\\')
    (hn : numberedEscapes.lookup c.next.head = some n)
    (hlength : (c.next.next.rest.take n).length = n)
    (hhex : (c.next.next.rest.take n).all Text.isHexDigit) (hc' : c.Reaches c') :
    Reads Prod.snd c
      (do return ([← ofCode (Text.ofHexDigits (c.next.next.rest.take n))], c')) := by
  -- A cursor at its end has the null character ahead, so the letter is known to stand in the text
  -- only because it is no null character.
  have hnull : c.next.head ≠ '\x00' := by
    intro hnull
    rw [hnull] at hn
    exact nomatch hn
  have hrest : c.rest = '\\' :: c.next.head :: c.next.next.rest := by
    rw [Cursor.rest_eq_cons h (by decide), Cursor.rest_eq_cons rfl hnull]
  constructor
  · intro a ha
    obtain ⟨x, -, hx⟩ := bind_eq_ok.1 ha
    obtain rfl := pure_eq_ok.1 hx
    exact hc'
  · intro fault hfault
    rcases bind_eq_error.1 hfault with hfault | ⟨x, -, hx⟩
    · obtain ⟨hlarge, rfl⟩ := ofCode_eq_error hfault
      refine .inr (.codePoint ?_ (by rw [hn, hlength]) hhex hlarge)
      rw [hrest]
      exact List.IsPrefix.isInfix (List.cons_prefix_cons.2 ⟨rfl,
        List.cons_prefix_cons.2 ⟨rfl, List.take_prefix _ _⟩⟩)
    · cases hx

theorem reads_escape (h : c.head = '\\') : Reads Prod.snd c (escape c.next) := by
  unfold escape
  split
  · exact reads_ok (c.reaches_next.trans (Cursor.reaches_next _))
  · split
    · next n hn =>
      dsimp only
      split
      · next hdigits =>
        obtain ⟨hlength, hhex⟩ := (Bool.and_eq_true _ _).mp hdigits
        exact reads_numbered h hn (of_decide_eq_true hlength) hhex
          (c.reaches_next.trans (Cursor.reaches_skip _ _))
      · exact reads_flaw _
    · have hbreak := c.reaches_next.trans c.next.reaches_lineBreak
      split
      · exact reads_flaw _
      · next heq =>
        rw [heq] at hbreak
        dsimp only
        split
        · exact reads_flaw _
        · exact reads_ok (hbreak.trans (Cursor.reaches_lineBreaks _ _ _))

theorem reads_quotedGap (c : Cursor) : Reads Prod.snd c (quotedGap c) := by
  unfold quotedGap
  dsimp only
  have hspan := c.reaches_span fun x => x == ' ' || x == '\t'
  have hbreak := hspan.trans (Cursor.reaches_lineBreak _)
  split
  · exact reads_ok hspan
  · next heq =>
    rw [heq] at hbreak
    split
    · exact reads_flaw _
    · exact reads_ok (hbreak.trans (Cursor.reaches_lineBreaks _ _ _))

theorem reads_quotedRest (quote : Char) (fuel : Nat) (c : Cursor) :
    Reads Prod.snd c (quotedRest quote fuel c) := by
  induction fuel generalizing c with
  | zero => exact reads_flaw _
  | succ fuel ih =>
    unfold quotedRest
    split
    · exact reads_flaw _
    · split
      · split
        · exact ((ih _).of_reaches (c.reaches_skip 2)).bind fun _ => reads_ok (.refl _)
        · exact reads_ok c.reaches_next
      · split
        · next hescape =>
          refine (reads_escape ?_).bind fun _ => (ih _).bind fun _ => reads_ok (.refl _)
          simp_all
        · split
          · exact (reads_quotedGap c).bind fun _ => (ih _).bind fun _ => reads_ok (.refl _)
          · exact ((ih _).of_reaches (c.reaches_span _)).bind fun _ => reads_ok (.refl _)

theorem reads_quotedScalar (c : Cursor) : Reads Prod.snd c (quotedScalar c) :=
  ((reads_quotedRest _ _ _).of_reaches c.reaches_next).bind fun _ => reads_ok (.refl _)

theorem reads_blockHeader (c : Cursor) : Reads (fun h => h.2.2) c (blockHeader c) := by
  unfold blockHeader
  extract_lets increment finish
  -- The sign and the width stand in either order, and `finish` comes behind both.
  have hincrement (c : Cursor) : Reads Prod.snd c (increment c) := by
    dsimp only [increment]
    split
    · exact reads_flaw _
    · split
      · exact reads_ok c.reaches_next
      · exact reads_ok (.refl c)
  have hfinish (a : Chomping × Option Nat × Cursor) :
      Reads (fun h => h.2.2) a.2.2 (finish a) := by
    obtain ⟨chomping, width, c⟩ := a
    dsimp only [finish]
    split
    · exact reads_flaw _
    · exact reads_ite (reads_flaw _) (reads_ok ((c.reaches_skipSpaces.trans
        (Cursor.reaches_comment _ _)).trans (Cursor.reaches_lineBreak _)))
  clear_value increment finish
  split
  · exact ((hincrement _).of_reaches c.reaches_next).bind fun a => hfinish (_, a)
  · refine (hincrement c).bind fun ⟨width, c'⟩ => ?_
    dsimp only
    split
    · exact (hfinish (_, _, c'.next)).of_reaches c'.reaches_next
    · exact hfinish (_, _, c')

theorem reads_blockScalar (parent : Int) (c : Cursor) :
    Reads Prod.snd c (blockScalar parent c) := by
  refine ((reads_blockHeader c.next).of_reaches c.reaches_next).bind fun a => ?_
  split
  next chomping width c =>
  extract_lets least fuel
  clear_value fuel
  split
  next breaks indent c₁ hlines =>
  -- The indentation is given in the header or taken from the first line with text.
  have hc₁ : c.Reaches c₁ := by
    split at hlines
    · rw [← (Prod.mk.inj (Prod.mk.inj hlines).2).2]
      exact Cursor.reaches_blankLines _ _
    · rw [← (Prod.mk.inj (Prod.mk.inj hlines).2).2]
      exact Cursor.reaches_emptyLines _ _ _
  split
  next text c₂ htext =>
  refine reads_ok (hc₁.trans ?_)
  split at htext
  · rw [← congrArg Prod.snd htext]
    exact Cursor.reaches_blockLines _ _ _ _ _ _
  · rw [← congrArg Prod.snd htext]
    exact .refl _

end Scalar

/-! ## Tokens -/

namespace Lexing

variable {l : Lexing}

@[simp] theorem cursor_unwind (l : Lexing) (column : Int) :
    (l.unwind column).cursor = l.cursor := by
  unfold unwind
  split <;> rfl

@[simp] theorem cursor_push (l : Lexing) (t : Token) : (l.push t).cursor = l.cursor := rfl

theorem isFlaw_giveUp (k : Option Candidate) : FailsOnly Fault.IsFlaw (giveUp k) := by
  unfold giveUp
  split
  · split
    · exact failsOnly_error (isFlaw_flawed _)
    · exact failsOnly_ok _
  · exact failsOnly_ok _

theorem reads_dropCandidate (l : Lexing) : Reads cursor l.cursor l.dropCandidate := by
  unfold dropCandidate
  split
  · exact reads_after (isFlaw_giveUp _) fun _ => reads_ok (.refl _)
  · exact reads_ok (.refl _)

theorem reads_dropStale (l : Lexing) : Reads cursor l.cursor l.dropStale := by
  refine reads_after (failsOnly_mapM (fun k => ?_) _) fun _ => reads_ok (.refl _)
  split
  · split
    · exact (isFlaw_giveUp _).bind fun _ => failsOnly_ok _
    · exact failsOnly_ok _
  · exact failsOnly_ok _

theorem reads_noteCandidate (l : Lexing) : Reads cursor l.cursor l.noteCandidate := by
  unfold noteCandidate
  split
  · exact (reads_dropCandidate l).bind fun _ => reads_ok (.refl _)
  · exact reads_ok (.refl _)

/-- Where an atom goes on is behind where it begins. -/
theorem reads_atom (t : Token) {c : Cursor} (h : l.cursor.Reaches c) :
    Reads cursor l.cursor (l.atom t c) :=
  reads_bind (reads_noteCandidate l) fun _ _ => reads_ok h

theorem reads_bind_atom {α : Type} {pos : α → Cursor} {r : Result α} (t : α → Token)
    (h : Reads pos l.cursor r) : Reads cursor l.cursor (r >>= fun a => l.atom (t a) (pos a)) :=
  reads_bind h fun a ha => reads_atom _ (h.1 a ha)

theorem reads_mark (l : Lexing) (t : Token) (width : Nat) (keyAllowed : Bool) :
    Reads cursor l.cursor (l.mark t width keyAllowed) :=
  (reads_dropCandidate l).bind fun _ => reads_ok (Cursor.reaches_skip _ _)

theorem reads_openFlow (l : Lexing) (t : Token) : Reads cursor l.cursor (l.openFlow t) :=
  (reads_noteCandidate l).bind fun _ => reads_ok (Cursor.reaches_next _)

theorem reads_closeFlow (l : Lexing) (t : Token) : Reads cursor l.cursor (l.closeFlow t) :=
  (reads_dropCandidate l).bind fun _ =>
    reads_ite (reads_ok (Cursor.reaches_next _)) (reads_flaw _)

theorem cursor_indentTo (l : Lexing) (column : Nat) : (l.indentTo column).2.cursor = l.cursor := by
  unfold indentTo
  split <;> rfl

theorem reads_openBlock (l : Lexing) (t : Token) : Reads cursor l.cursor (l.openBlock t) := by
  unfold openBlock
  refine reads_ite (reads_ok (.refl _)) (reads_ite (reads_flaw _) ?_)
  have hcursor := cursor_indentTo l l.cursor.column
  split
  next new l' hindent =>
  rw [hindent] at hcursor
  refine reads_ok ?_
  split
  · rw [cursor_push, hcursor]
    exact .refl _
  · rw [hcursor]
    exact .refl _

theorem reads_dash (l : Lexing) : Reads cursor l.cursor l.dash :=
  (reads_openBlock l _).bind fun _ => reads_mark _ _ _ _

theorem reads_explicitKey (l : Lexing) : Reads cursor l.cursor l.explicitKey :=
  (reads_openBlock l _).bind fun _ => reads_mark _ _ _ _

theorem reads_value (l : Lexing) : Reads cursor l.cursor l.value := by
  unfold value
  split
  · next k ks _ =>
    have hcursor : (if l.inFlow then (false, l) else l.indentTo k.start.column).2.cursor =
        l.cursor := by
      split
      · rfl
      · exact cursor_indentTo _ _
    split
    next new l' hindent =>
    rw [hindent] at hcursor
    refine reads_ok ?_
    rw [← hcursor]
    exact Cursor.reaches_next _
  · exact (reads_openBlock l _).bind fun _ => reads_mark _ _ _ _

theorem reads_finish (l : Lexing) : Reads cursor l.cursor l.finish := by
  have h := reads_dropCandidate (l.unwind (-1))
  rwa [cursor_unwind] at h

theorem reaches_skipLayout (fuel : Nat) (l : Lexing) :
    l.cursor.Reaches (skipLayout fuel l).cursor := by
  induction fuel generalizing l with
  | zero => exact .refl _
  | succ fuel ih =>
    unfold skipLayout
    have hcomment := l.cursor.reaches_skipSpaces.trans (Cursor.reaches_comment (!endsLine ·) _)
    have hbreak := hcomment.trans (Cursor.reaches_lineBreak _)
    dsimp only
    split
    · exact hcomment
    · next heq =>
      rw [heq] at hbreak
      exact hbreak.trans (ih { l with cursor := _, keyAllowed := _ })

theorem reads_token (l : Lexing) : Reads cursor l.cursor l.token := by
  unfold token
  dsimp only
  split
  · next h =>
    -- A directive begins with the percent sign that its bad numbers are counted from.
    refine reads_bind (reads_finish l) fun l' _ => ?_
    exact (reads_directive (eq_of_beq (Bool.and_eq_true_iff.1 h).1)).bind fun _ =>
      reads_ok (.refl _)
  · split
    · exact (reads_finish l).bind fun _ => reads_mark _ _ _ _
    · split
      · exact reads_openFlow _ _
      · exact reads_openFlow _ _
      · exact reads_closeFlow _ _
      · exact reads_closeFlow _ _
      · exact reads_mark _ _ _ _
      · exact reads_bind_atom (fun a => .alias a.1) (reads_anchorName _)
      · exact reads_bind_atom (fun a => .anchor a.1) (reads_anchorName _)
      · exact reads_bind_atom (fun a => .tag a.1) (reads_tagName _)
      · exact reads_bind_atom (fun a => .scalar a.1) (reads_quotedScalar _)
      · exact reads_bind_atom (fun a => .scalar a.1) (reads_quotedScalar _)
      · refine reads_ite (reads_dash l) (reads_ite (reads_explicitKey l) (reads_ite (reads_value l)
          (reads_ite ?_ (reads_ite ?_ (reads_flaw _)))))
        · refine reads_bind (reads_dropCandidate l) fun l' _ => ?_
          exact (reads_blockScalar _ _).bind fun _ => reads_ok (.refl _)
        · exact (reads_atom _ (Cursor.reaches_plainScalar _ _ _)).bind fun _ => reads_ok (.refl _)

/-- What ends the tokens from a place on. -/
theorem fault_run {fuel : Nat} {fault : Fault} (h : (run fuel l).2 = some fault) :
    fault.IsFlaw ∨ BadNumber l.cursor.rest fault := by
  induction fuel generalizing l with
  | zero => cases h
  | succ fuel ih =>
    unfold run at h
    dsimp only at h
    have hstale := (reads_dropStale _).of_reaches (reaches_skipLayout l.cursor.rest.length.succ l)
    split at h
    · next e he =>
      obtain rfl := Option.some.inj h
      exact hstale.2 e he
    · next l₁ hl₁ =>
      have hreach := hstale.1 l₁ hl₁
      -- Blocks that end here change no place, so what was reached before is reached after.
      rw [← cursor_unwind l₁ l₁.cursor.column] at hreach
      split at h
      · split at h
        · next e he =>
          obtain rfl := Option.some.inj h
          exact ((reads_finish _).of_reaches hreach).2 e he
        · cases h
      · have htoken := (reads_token _).of_reaches hreach
        split at h
        · next e he =>
          obtain rfl := Option.some.inj h
          exact htoken.2 e he
        · -- A number behind the token is one behind its beginning too.
          next l₂ hl₂ => exact (ih h).imp_right (·.mono (htoken.1 l₂ hl₂).isInfix)

end Lexing

/-- What ends the tokens of a text. -/
theorem Tokens.fault_ofText {s : String} {fault : Fault} (h : (ofText s).fault = some fault) :
    fault.IsFlaw ∨ BadNumber s.toList fault := by
  unfold ofText at h
  dsimp only at h
  split at h
  · exact .inl ⟨_, (Option.some.inj h).symm⟩
  · refine (Lexing.fault_run h).imp_right (·.mono (List.IsSuffix.isInfix ?_))
    dsimp only
    split
    · exact Cursor.reaches_next _
    · exact List.suffix_rfl

end ProxyTrial.Yaml
