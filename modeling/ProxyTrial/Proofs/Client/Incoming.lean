import ProxyTrial.Client.Incoming
import ProxyTrial.Proofs.Http.Wire
import ProxyTrial.Proofs.Origin.Answer
/-!
# What the origin answers is what a client reads

The head of an answer is written as lines, and read line by line up to the first empty one. What
follows it is the body, as long as the fields say, and nothing more is looked at.

## Main definitions

* `IsContent line`: octets of a line that is not empty, without its end

## Main results

* `sectionLines_lines`: lines are read as they are written
* `readHead_headOctets`: the head of an answer is read as it is written
* `readContent_append`: the body is what the fields state the length of
-/

namespace ProxyTrial.Incoming

open Http (PlainField StatesLength octetFields)

/-! ## Lines -/

/-- The octets of a line that is not empty, without its end. -/
structure IsContent (line : Bytes) : Prop where
  ne_nil : line ≠ []
  lineFeed : 10 ∉ line
  carriageReturn : 13 ∉ line

theorem untilEmptyLine_append {line bs rest l : Bytes} {ls : List Bytes} (h : 10 ∉ line)
    (hbs : untilEmptyLine bs = some (l :: ls, rest)) :
    untilEmptyLine (line ++ bs) = some ((line ++ l) :: ls, rest) := by
  induction line with
  | nil => exact hbs
  | cons b line ih =>
    rw [List.mem_cons, not_or] at h
    have hb : (b == 10) = false := by simpa using Ne.symm h.1
    rw [List.cons_append, untilEmptyLine.eq_def]
    split
    · next he => cases he
    · next he => exact absurd (List.cons.inj he).1.symm h.1
    · next he => exact absurd (List.cons.inj he).1.symm h.1
    · next he =>
      obtain ⟨rfl, rfl⟩ := List.cons.inj he
      simp only [ih h.2, hb, Bool.false_eq_true, if_false, List.cons_append]

/-- A line feed begins a line, unless the line is empty. -/
theorem untilEmptyLine_lineFeed {line bs rest : Bytes} {ls : List Bytes} (h : IsContent line)
    (hbs : untilEmptyLine (line ++ bs) = some (ls, rest)) :
    untilEmptyLine (10 :: (line ++ bs)) = some ([] :: ls, rest) := by
  obtain ⟨b, line, rfl⟩ := List.exists_cons_of_ne_nil h.ne_nil
  have hlineFeed : b ≠ 10 := fun he => h.lineFeed (he ▸ List.mem_cons_self)
  have hreturn : b ≠ 13 := fun he => h.carriageReturn (he ▸ List.mem_cons_self)
  rw [untilEmptyLine.eq_def]
  split
  · next he => cases he
  · next he => exact absurd (List.cons.inj (List.cons.inj he).2).1 hlineFeed
  · next he => exact absurd (List.cons.inj (List.cons.inj he).2).1 hreturn
  · next he =>
    obtain ⟨rfl, rfl⟩ := List.cons.inj he
    simp only [hbs, beq_self_eq_true, if_true]

/-- Lines are read up to the empty one, their carriage returns included. -/
theorem untilEmptyLine_lines {lines : List Bytes} (hne : lines ≠ [])
    (h : ∀ line ∈ lines, IsContent line) (rest : Bytes) :
    untilEmptyLine (lines.flatMap (· ++ [13, 10]) ++ 13 :: 10 :: rest) =
      some (lines.map (· ++ [13]), rest) := by
  induction lines with
  | nil => exact absurd rfl hne
  | cons line lines ih =>
    rw [List.forall_mem_cons] at h
    have hline : 10 ∉ line ++ [13] := by simpa using h.1.lineFeed
    have hsplit : ∀ more : Bytes, line ++ [13, 10] ++ more = (line ++ [13]) ++ 10 :: more := by
      simp
    rw [List.flatMap_cons, List.append_assoc, hsplit]
    cases lines with
    | nil =>
      have hend : untilEmptyLine (10 :: 13 :: 10 :: rest) = some ([[]], rest) := rfl
      simpa using untilEmptyLine_append hline hend
    | cons next lines =>
      have hmore := ih (List.cons_ne_nil next lines) h.2
      rw [List.flatMap_cons, List.append_assoc, List.append_assoc] at hmore ⊢
      have hfeed := untilEmptyLine_lineFeed (h.2 next List.mem_cons_self) hmore
      simpa using untilEmptyLine_append hline hfeed

/-- Lines are read as they are written. -/
theorem sectionLines_lines {lines : List Bytes} (hne : lines ≠ [])
    (h : ∀ line ∈ lines, IsContent line) (rest : Bytes) :
    sectionLines (lines.flatMap (· ++ [13, 10]) ++ 13 :: 10 :: rest) = some (lines, rest) := by
  have hlines := untilEmptyLine_lines hne h rest
  have hreturns : (lines.map (· ++ [13])).map withoutReturn = lines := by
    rw [List.map_map]
    exact (List.map_congr_left fun line _ => by simp [withoutReturn]).trans (List.map_id _)
  obtain ⟨line, lines, rfl⟩ := List.exists_cons_of_ne_nil hne
  have hline := h line List.mem_cons_self
  obtain ⟨b, line, rfl⟩ := List.exists_cons_of_ne_nil hline.ne_nil
  -- The section is not empty, since its first line is not.
  unfold sectionLines
  split
  · next he =>
    rw [List.flatMap_cons] at he
    exact absurd ((List.cons.inj he).1 ▸ List.mem_cons_self) hline.lineFeed
  · next he =>
    rw [List.flatMap_cons] at he
    exact absurd ((List.cons.inj he).1 ▸ List.mem_cons_self) hline.carriageReturn
  · rw [hlines, Option.map_some]
    exact congrArg (fun lines => some (lines, rest)) hreturns

/-! ## Fields -/

theorem unfold_eq_self {lines : List Bytes}
    (h : ∀ line ∈ lines, line.head?.any Http.isPadding = false) : unfold lines = lines := by
  induction lines with
  | nil => rfl
  | cons line lines ih =>
    rw [List.forall_mem_cons] at h
    rw [unfold, ih h.2]
    cases lines with
    | nil => rfl
    | cons next lines => simp [h.2 next List.mem_cons_self]

section Fields

variable {f : String × String} {hs : Headers}

theorem octet_of_isTokenChar {c : Char} (h : Http.isTokenChar c) :
    UInt8.ofNat c.toNat ≠ 58 ∧ Http.isPadding (UInt8.ofNat c.toNat) = false := by
  have hlt : c.toNat < 128 := by
    rw [Http.isTokenChar, Bool.and_eq_true, decide_eq_true_eq] at h
    exact h.1
  have hall : ∀ c : Char, c.toNat < 128 → Http.isTokenChar c →
      UInt8.ofNat c.toNat ≠ 58 ∧ Http.isPadding (UInt8.ofNat c.toNat) = false :=
    Text.forall_char (by decide +kernel)
  exact hall c hlt h

theorem ascii_fieldText (f : String × String) :
    Text.ascii (Origin.fieldText f) = Text.ascii f.1 ++ 58 :: 32 :: Text.ascii f.2 := by
  simp [Origin.fieldText, Text.ascii]

/-- A field is read from its line. -/
theorem fieldOfLine_fieldText (h : PlainField f) :
    fieldOfLine (Text.ascii (Origin.fieldText f)) = .ok (Text.ascii f.1, Text.ascii f.2) := by
  have hcolon : 58 ∉ Text.ascii f.1 := by
    rw [Text.ascii, List.mem_map]
    rintro ⟨c, hc, he⟩
    exact (octet_of_isTokenChar (h.name c hc)).1 he
  have htrim : Text.trimBy Http.isPadding (32 :: Text.ascii f.2) = Text.ascii f.2 := by
    rw [Text.trimBy_cons_of_pos _ _ (by decide)]
    exact Text.trimBy_eq_self_of_ends h.padding_ends.1 h.padding_ends.2
  rw [fieldOfLine, ascii_fieldText, Text.cutAt_append hcolon]
  simp only [htrim, h.isToken_name, h.isFieldValue_value, Bool.and_self, if_true]

/-- The line of a field begins with its name. -/
theorem head?_fieldText (h : PlainField f) :
    (Text.ascii (Origin.fieldText f)).head?.any Http.isPadding = false := by
  have hne : f.1.toList ≠ [] := by simpa using h.name_ne_empty
  obtain ⟨c, cs, hcs⟩ := List.exists_cons_of_ne_nil hne
  have hc := octet_of_isTokenChar (h.name c (hcs ▸ List.mem_cons_self))
  rw [ascii_fieldText, Text.ascii, hcs]
  exact hc.2

theorem mapM_fieldOfLine (h : ∀ f ∈ hs, PlainField f) :
    (hs.map fun f => Text.ascii (Origin.fieldText f)).mapM fieldOfLine = .ok (octetFields hs) := by
  induction hs with
  | nil => rfl
  | cons f hs ih =>
    rw [List.forall_mem_cons] at h
    rw [List.map_cons, List.mapM_cons, fieldOfLine_fieldText h.1, ok_bind, ih h.2]
    rfl

/-- Fields are read from their lines. -/
theorem fieldsOfLines_fieldTexts (h : ∀ f ∈ hs, PlainField f) :
    fieldsOfLines (hs.map fun f => Text.ascii (Origin.fieldText f)) = .ok (octetFields hs) := by
  have hheads : ∀ line ∈ hs.map fun f => Text.ascii (Origin.fieldText f),
      line.head?.any Http.isPadding = false := by
    rw [List.forall_mem_map]
    exact fun f hf => head?_fieldText (h f hf)
  have hfirst : ((hs.map fun f => Text.ascii (Origin.fieldText f)).head?.bind List.head?).any
      Http.isPadding = false := by
    cases hs with
    | nil => rfl
    | cons f hs => exact head?_fieldText (h f List.mem_cons_self)
  rw [fieldsOfLines, hfirst, if_neg Bool.false_ne_true, unfold_eq_self hheads, mapM_fieldOfLine h]

theorem isContent_ascii {text : String} (hne : text ≠ "")
    (h : ∀ c ∈ text.toList, ' ' ≤ c ∧ c ≤ '~') : IsContent (Text.ascii text) := by
  have hnone : ∀ b : UInt8, b < 32 → b ∉ Text.ascii text := by
    intro b hb hm
    rw [Text.ascii, List.mem_map] at hm
    obtain ⟨c, hc, rfl⟩ := hm
    have hlt := Nat.lt_trans (Http.toNat_lt_of_le_tilde (h c hc).2) (by decide : 128 < 256)
    rw [UInt8.lt_iff_toNat_lt, Text.toNat_octet hlt] at hb
    exact absurd (UInt32.le_iff_toNat_le.1 (h c hc).1) (Nat.not_le.2 hb)
  exact ⟨by simpa [Text.ascii] using hne, hnone 10 (by decide), hnone 13 (by decide)⟩

theorem isContent_fieldText (h : PlainField f) : IsContent (Text.ascii (Origin.fieldText f)) := by
  refine isContent_ascii ?_ ?_
  · simp [Origin.fieldText]
  · simp only [Origin.fieldText, String.toList_append, List.forall_mem_append]
    refine ⟨⟨fun c hc => ?_, List.all_iff_forall_prop.1 (by decide)⟩, h.value⟩
    obtain ⟨⟨hge, hle⟩, -⟩ := Http.isNameChar_iff.1 (Http.isNameChar_of_isTokenChar (h.name c hc))
    exact ⟨Char.le_trans (by decide) hge, hle⟩

end Fields

/-! ## Status lines -/

section Status

variable {n : Nat}

/-- The statuses that have three digits. -/
theorem toList_toString_of_three (hge : 100 ≤ n) (hle : n ≤ 999) :
    ∃ a b c, (toString n).toList = [a, b, c] := by
  have hlength : (toString n).toList.length = 3 := by
    rw [Nat.toString_eq_repr, Nat.toList_repr]
    refine Nat.le_antisymm ?_ ?_
    · rw [Nat.length_toDigits_le_iff (by decide) (by decide)]
      omega
    · rw [← Nat.not_lt, Nat.lt_succ_iff, Nat.length_toDigits_le_iff (by decide) (by decide)]
      omega
  exact List.length_eq_three.1 hlength

theorem ascii_statusLine (n : Nat) :
    Text.ascii (Origin.statusLine n) =
      Text.ascii "HTTP/1.1 " ++ Text.ascii (toString n) ++ 32 ::
        Text.ascii (Http.reasonPhrase n) := by
  rw [Origin.statusLine, Text.ascii_append, Text.ascii_append, Text.ascii_append,
    List.append_assoc]
  rfl

/-- The status is read from its line. -/
theorem statusOfLine?_statusLine (hge : 100 ≤ n) (hle : n ≤ 999) :
    statusOfLine? (Text.ascii (Origin.statusLine n)) = some n := by
  obtain ⟨a, b, c, hdigits⟩ := toList_toString_of_three hge hle
  have hlt : n < Http.lengthLimit := Nat.lt_of_le_of_lt hle (by decide)
  have hoctets : Text.ascii (toString n) =
      [UInt8.ofNat a.toNat, UInt8.ofNat b.toNat, UInt8.ofNat c.toNat] := by
    rw [Text.ascii, hdigits]
    rfl
  have hvalue := Http.ofDigitOctets_ascii (Http.isDecimal_toString hlt)
  rw [hoctets] at hvalue
  have hdigit : ∀ d ∈ [a, b, c], Http.isDigitOctet (UInt8.ofNat d.toNat) := fun d hd =>
    (Http.digit_octet (Text.isDigit_toString n d (hdigits ▸ hd))).1
  simp only [List.forall_mem_cons] at hdigit
  have hreason : (Text.ascii (Http.reasonPhrase n)).all
      (fun b => Http.isVisible b || Http.isPadding b) := by
    rw [Text.ascii, List.all_map, List.all_eq_true]
    exact fun c hc => (PlainField.octet_of_printable (Origin.printable_reasonPhrase n c hc)).1
  have hversion : Text.ascii "HTTP/1.1 " = [72, 84, 84, 80, 47, 49, 46, 49, 32] := rfl
  have hone : Http.isDigitOctet 49 := by decide
  rw [ascii_statusLine, hversion, hoctets]
  simp only [List.cons_append, List.nil_append, statusOfLine?, List.all_cons, List.all_nil, hone,
    hdigit.1, hdigit.2.1, hdigit.2.2.1, hreason, Bool.and_self, if_true, hvalue]

theorem isContent_statusLine (n : Nat) : IsContent (Text.ascii (Origin.statusLine n)) := by
  have hdigits : ∀ c ∈ (toString (n : Int)).toList, ' ' ≤ c ∧ c ≤ '~' := fun c hc => by
    obtain ⟨hge, hle⟩ := (Text.isDigit_spec (Text.isDigit_toString n c hc)).1
    exact ⟨Char.le_trans (by decide) hge, hle⟩
  refine isContent_ascii ?_ ?_
  · intro he
    have hempty := congrArg Text.ascii he
    rw [ascii_statusLine] at hempty
    simp [Text.ascii] at hempty
  · simp only [Origin.statusLine, String.toList_append, List.forall_mem_append]
    exact ⟨⟨⟨List.all_iff_forall_prop.1 (by decide), hdigits⟩,
      List.all_iff_forall_prop.1 (by decide)⟩, Origin.printable_reasonPhrase n⟩

end Status

/-! ## Heads -/

section Head

variable {n length : Nat} {hs : Headers}

/-- The lines of a head are read as they are written, whatever follows them. -/
theorem sectionLines_headOctets (h : ∀ f ∈ hs, IsContent (Text.ascii (Origin.fieldText f)))
    (rest : Bytes) :
    sectionLines (Origin.headOctets n hs ++ rest) =
      some ((Origin.headLines n hs).map Text.ascii, rest) := by
  have hcontent : ∀ line ∈ (Origin.headLines n hs).map Text.ascii, IsContent line := by
    rw [Origin.headLines, List.map_cons, List.map_map, List.forall_mem_cons, List.forall_mem_map]
    exact ⟨isContent_statusLine n, h⟩
  have hsection := sectionLines_lines (by simp [Origin.headLines]) hcontent rest
  simpa [Origin.headOctets, List.flatMap_map] using hsection

/-- The head of an answer is read as it is written, whatever follows it. -/
theorem readHead_headOctets (hge : 100 ≤ n) (hle : n ≤ 999) (h : ∀ f ∈ hs, PlainField f)
    (hlength : StatesLength length hs) (hlt : length < Http.lengthLimit) (rest : Bytes) :
    readHead (Origin.headOctets n hs ++ rest) = .ok (⟨n, octetFields hs⟩, rest) := by
  have hlines : sectionLines (Origin.headOctets n hs ++ rest) =
      some ((Origin.headLines n hs).map Text.ascii, rest) :=
    sectionLines_headOctets (fun f hf => isContent_fieldText (h f hf)) rest
  have hreconciled : Http.reconcileReceived (octetFields hs) = .ok (octetFields hs) :=
    Http.reconcileFrom_plain (Http.asciiFields_of_plain h) (fun _ _ => rfl) hlength hlt
  have hfields : fieldsOfLines (hs.map (Text.ascii ∘ Origin.fieldText)) = .ok (octetFields hs) :=
    fieldsOfLines_fieldTexts h
  have hstatus : ¬ n < 100 := Nat.not_lt.2 hge
  rw [readHead, hlines, Origin.headLines, List.map_cons, List.map_map]
  simp only [statusOfLine?_statusLine hge hle, hfields, hreconciled, Except.mapError, ok_bind,
    if_neg hstatus]
  rfl

theorem goAhead_eq (h : Http.Head) :
    Origin.goAhead h = if h.awaitsContinue then Origin.headOctets 100 [] else [] := by
  have hoctets : Text.ascii "HTTP/1.1 100 Continue\r\n\r\n" = Origin.headOctets 100 [] := by
    decide +kernel
  rw [Origin.goAhead, hoctets]

/-- The head of an answer is the one that counts, also after the leave to send a body. -/
theorem finalHead_headOctets (hge : 200 ≤ n) (hle : n ≤ 999) (h : ∀ f ∈ hs, PlainField f)
    (hlength : StatesLength length hs) (hlt : length < Http.lengthLimit) (p : Proposals)
    (asked : Http.Head) (fuel : Nat) (rest : Bytes) :
    finalHead p (fuel + 2) (Origin.goAhead asked ++ Origin.headOctets n hs ++ rest) =
      .ok (⟨n, octetFields hs⟩, rest) := by
  have hfinal : ∀ fuel, finalHead p (fuel + 1) (Origin.headOctets n hs ++ rest) =
      .ok (⟨n, octetFields hs⟩, rest) := by
    intro fuel
    rw [finalHead, readHead_headOctets (Nat.le_trans (by decide) hge) hle h hlength hlt, ok_bind]
    simp only [if_pos hge]
    rfl
  rw [goAhead_eq]
  split
  · -- The leave is a head of its own, without fields, and does not count.
    have hleave : readHead (Origin.headOctets 100 [] ++ (Origin.headOctets n hs ++ rest)) =
        .ok (⟨100, []⟩, Origin.headOctets n hs ++ rest) :=
      readHead_headOctets (by decide) (by decide) (by simp) ⟨rfl, .inr ⟨rfl, rfl⟩⟩
        (show 0 < _ by decide) _
    rw [List.append_assoc, finalHead, hleave, ok_bind]
    exact hfinal fuel
  · rw [List.nil_append]
    exact hfinal (fuel + 1)

end Head

/-! ## Bodies -/

/-- The body is what the fields state the length of. -/
theorem readContent_append {o : Outgoing} {n : Nat} {hs : Headers} {body : Bytes}
    (hbody : isBodyless o ⟨n, octetFields hs⟩ = false) (ha : Http.AsciiFields hs)
    (hlength : StatesLength body.length hs) (hstated : Http.named "content-length" hs ≠ [])
    (hlt : body.length < Http.lengthLimit) (rest : Bytes) :
    readContent o ⟨n, octetFields hs⟩ (body ++ rest) =
      { pieces := if body.isEmpty then [] else [body] } := by
  have hframing : Http.framing (octetFields hs) = .length body.length := by
    rw [Http.framing_octetFields ha hlength hlt, if_neg hstated]
  have hshort : ¬ (body ++ rest).length < body.length := by simp
  rw [readContent, hbody, if_neg Bool.false_ne_true, hframing]
  simp only [if_neg hshort, List.take_left, Content.cons]

end ProxyTrial.Incoming
