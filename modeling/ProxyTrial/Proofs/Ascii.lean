import ProxyTrial.Http.Body
import ProxyTrial.Proofs.Basic
/-!
# Texts of ASCII and of Latin-1

A text of ASCII and its octets are the same thing, and so are a text of Latin-1 and its octets. The
lower case of ASCII is taken letter by letter, so that it does not matter whether names are compared
as texts or as octets.

## Main definitions

* `IsAscii s`, `IsLatin1 s`: all characters of `s` are ASCII, or Latin-1
* `small c`: the small letter of an ASCII capital
* `smallLetters s`: a text with these letters small

## Main results

* `encode_ascii`, `ofLatin1_ascii`: from the text to its octets, and back
* `encode_eq_ok_iff`: what can be written in a narrow encoding
* `encode_latin1`, `IsLatin1.ofLatin1_ascii`: the same for Latin-1
* `lower_of_isAscii`: the lower case of a text
* `fold_ascii`: octets in small letters are those of the lower case
-/

namespace ProxyTrial.Text

/-- All characters of the text are ASCII. -/
def IsAscii (s : String) : Prop := ∀ c ∈ s.toList, c.toNat < 128

instance (s : String) : Decidable (IsAscii s) := List.decidableBAll _ s.toList

/-- All characters of the text are Latin-1. -/
def IsLatin1 (s : String) : Prop := ∀ c ∈ s.toList, c.toNat < 256

instance (s : String) : Decidable (IsLatin1 s) := List.decidableBAll _ s.toList

variable {s : String}

theorem IsAscii.isLatin1 (h : IsAscii s) : IsLatin1 s :=
  fun c hc => Nat.lt_trans (h c hc) (by decide)

/-! ## Checks, one by one -/

/-- What is said about characters of ASCII can be checked for all of them. -/
theorem forall_char {p : Char → Prop} (h : ∀ n < 128, p (Char.ofNat n)) (c : Char)
    (hc : c.toNat < 128) : p c :=
  Char.ofNat_toNat c ▸ h c.toNat hc

/-- What is said about octets can be checked for all of them. -/
theorem forall_octet {p : UInt8 → Prop} (h : ∀ n < 256, p (UInt8.ofNat n)) (b : UInt8) : p b :=
  (UInt8.ofNat_toNat (x := b)) ▸ h b.toNat b.toNat_lt

/-! ## Octets -/

@[simp] theorem ascii_append (a b : String) : ascii (a ++ b) = ascii a ++ ascii b := by
  simp [ascii]

theorem ascii_join (ss : List String) : ascii (String.join ss) = ss.flatMap ascii := by
  rw [ascii, String.toList_join, List.map_flatMap]
  rfl

theorem ascii_crlf : ascii "\r\n" = [13, 10] := rfl

theorem isAscii_append {a b : String} : IsAscii (a ++ b) ↔ IsAscii a ∧ IsAscii b := by
  simp only [IsAscii, String.toList_append, List.forall_mem_append]

theorem isLatin1_append {a b : String} : IsLatin1 (a ++ b) ↔ IsLatin1 a ∧ IsLatin1 b := by
  simp only [IsLatin1, String.toList_append, List.forall_mem_append]

theorem isLatin1_join {ss : List String} (h : ∀ s ∈ ss, IsLatin1 s) :
    IsLatin1 (String.join ss) := by
  rw [IsLatin1, String.toList_join]
  intro c hc
  obtain ⟨s, hs, hc⟩ := List.mem_flatMap.1 hc
  exact h s hs c hc

theorem isDigit_toString (n : Nat) : ∀ c ∈ (toString n).toList, c.isDigit := by
  rw [Nat.toString_eq_repr, Nat.toList_repr]
  exact fun c hc => Nat.isDigit_of_mem_toDigits (by decide) (by decide) hc

theorem isAscii_repr (n : Nat) : IsAscii (toString n) := by
  intro c hc
  have hd := isDigit_toString n c hc
  have hle : c.toNat ≤ 57 := by
    simp only [Char.isDigit, Bool.and_eq_true, decide_eq_true_eq] at hd
    exact UInt32.le_iff_toNat_le.1 hd.2
  omega

theorem toNat_octet {c : Char} (h : c.toNat < 256) : (UInt8.ofNat c.toNat).toNat = c.toNat := by
  rw [UInt8.toNat_ofNat']
  exact Nat.mod_eq_of_lt h

/-- Characters with the same octet are the same. -/
theorem eq_of_octet {c d : Char} (hc : c.toNat < 256) (hd : d.toNat < 256)
    (h : UInt8.ofNat c.toNat = UInt8.ofNat d.toNat) : c = d := by
  have hvalue := congrArg UInt8.toNat h
  rw [toNat_octet hc, toNat_octet hd] at hvalue
  exact Char.toNat_inj.1 hvalue

namespace IsLatin1

theorem octetChars_ascii (h : IsLatin1 s) : Http.octetChars (ascii s) = s.toList := by
  rw [Http.octetChars, ascii, List.map_map]
  refine (List.map_congr_left fun c hc => ?_).trans (List.map_id _)
  rw [Function.comp_apply, toNat_octet (h c hc), Char.ofNat_toNat, id_eq]

theorem ofLatin1_ascii (h : IsLatin1 s) : ofLatin1 (ascii s) = s := by
  rw [ofLatin1, show List.map _ _ = s.toList from h.octetChars_ascii, String.ofList_toList]

/-- An octet stands in the octets of a text only if its character stands in the text. -/
theorem notMem_ascii (h : IsLatin1 s) {c : Char} (hc : c.toNat < 256) (hn : c ∉ s.toList) :
    UInt8.ofNat c.toNat ∉ ascii s := by
  rw [ascii, List.mem_map]
  rintro ⟨d, hd, he⟩
  exact hn (eq_of_octet (h d hd) hc he ▸ hd)

end IsLatin1

/-- All octets can be read as Latin-1. -/
theorem ascii_ofLatin1 (bs : Bytes) : ascii (ofLatin1 bs) = bs := by
  have hall : ∀ b : UInt8, UInt8.ofNat (Char.ofNat b.toNat).toNat = b :=
    forall_octet (by decide +kernel)
  rw [ascii, ofLatin1, String.toList_ofList, List.map_map]
  exact (List.map_congr_left fun b _ => hall b).trans (List.map_id _)

theorem octetChars_ascii (h : IsAscii s) : Http.octetChars (ascii s) = s.toList :=
  h.isLatin1.octetChars_ascii

theorem ofLatin1_ascii (h : IsAscii s) : ofLatin1 (ascii s) = s := h.isLatin1.ofLatin1_ascii

theorem ascii_injective {a b : String} (ha : IsAscii a) (hb : IsAscii b) (h : ascii a = ascii b) :
    a = b := by
  rw [← ofLatin1_ascii ha, h, ofLatin1_ascii hb]

theorem lineFeed_notMem_ascii (h : IsAscii s) (hn : '\n' ∉ s.toList) : 10 ∉ ascii s :=
  h.isLatin1.notMem_ascii (c := '\n') (by decide) hn

theorem encodeChars_of_lt {k : Narrow} {cs : List Char} (position : Nat)
    (h : ∀ c ∈ cs, c.toNat < k.size) :
    encodeChars k position cs = .ok (cs.map fun c => UInt8.ofNat c.toNat) := by
  induction cs generalizing position with
  | nil => rfl
  | cons c cs ih =>
    rw [List.forall_mem_cons] at h
    rw [encodeChars, if_pos h.1, ih _ h.2]
    rfl

theorem encode_latin1 (h : IsLatin1 s) : encode .latin1 s = .ok (ascii s) := encodeChars_of_lt 0 h

theorem encode_ascii (h : IsAscii s) : encode .ascii s = .ok (ascii s) := encodeChars_of_lt 0 h

theorem lt_of_encodeChars {k : Narrow} {cs : List Char} {position : Nat} {bs : Bytes}
    (h : encodeChars k position cs = .ok bs) : ∀ c ∈ cs, c.toNat < k.size := by
  induction cs generalizing position bs with
  | nil => exact List.forall_mem_nil _
  | cons c cs ih =>
    rw [encodeChars] at h
    split at h
    · next hc =>
      obtain ⟨more, hmore, -⟩ := map_eq_ok.1 h
      exact List.forall_mem_cons.2 ⟨hc, ih hmore⟩
    · cases h

/-- What can be written in a narrow encoding. -/
theorem encode_eq_ok_iff {k : Narrow} {bs : Bytes} :
    encode k s = .ok bs ↔ (∀ c ∈ s.toList, c.toNat < k.size) ∧ bs = ascii s := by
  constructor
  · intro h
    have hlt := lt_of_encodeChars h
    rw [encode, encodeChars_of_lt 0 hlt] at h
    exact ⟨hlt, (Except.ok.inj h).symm⟩
  · rintro ⟨hlt, rfl⟩
    exact encodeChars_of_lt 0 hlt

/-- Only ASCII can be written as such. -/
theorem isAscii_of_encode {bs : Bytes} (h : encode .ascii s = .ok bs) : IsAscii s :=
  (encode_eq_ok_iff.1 h).1

theorem isAscii_octets (h : IsAscii s) : Http.Fields.isAscii (ascii s) := by
  rw [Http.Fields.isAscii, ascii, List.all_map, List.all_eq_true]
  intro c hc
  rw [Function.comp_apply, decide_eq_true_eq, UInt8.lt_iff_toNat_lt, toNat_octet (h.isLatin1 c hc)]
  exact h c hc

/-! ## Digits -/

/-- What is to be known about the digits of ASCII. -/
theorem isDigit_spec {c : Char} (h : c.isDigit) :
    ('!' ≤ c ∧ c ≤ '~') ∧ c ∉ "/?#@_+-".toList ∧ isBlank c = false ∧
      digitValue? c = some (c.toNat - 48) := by
  have hge : 48 ≤ c.toNat := by
    simp only [Char.isDigit, Bool.and_eq_true, decide_eq_true_eq] at h
    exact UInt32.le_iff_toNat_le.1 h.1
  have hle : c.toNat ≤ 57 := by
    simp only [Char.isDigit, Bool.and_eq_true, decide_eq_true_eq] at h
    exact UInt32.le_iff_toNat_le.1 h.2
  refine ⟨⟨UInt32.le_iff_toNat_le.2 ?_, UInt32.le_iff_toNat_le.2 ?_⟩, ?_, ?_, ?_⟩
  · exact Nat.le_trans (by decide) hge
  · exact Nat.le_trans hle (by decide)
  · intro hm
    simp only [String.reduceToList, List.mem_cons, List.not_mem_nil, or_false] at hm
    rcases hm with rfl | rfl | rfl | rfl | rfl | rfl | rfl <;> exact absurd h (by decide)
  · simp only [isBlank, isWhiteSpace, Bool.or_eq_false_iff, Bool.and_eq_false_iff,
      decide_eq_false_iff_not, beq_eq_false_iff_ne]
    omega
  · rw [digitValue?, if_pos (by omega), if_pos h]

/-! ## Small letters -/

/-- The small letter of an ASCII capital; another character as it is. -/
def small (c : Char) : Char := if 'A' ≤ c ∧ c ≤ 'Z' then Char.ofNat (c.toNat + 32) else c

theorem small_spec {c : Char} (h : c.toNat < 128) :
    lowerChar c = small c ∧ (small c).toNat < 128 ∧
      lowerOctet (UInt8.ofNat c.toNat) = UInt8.ofNat (small c).toNat := by
  have hall : ∀ c : Char, c.toNat < 128 → lowerChar c = small c ∧ (small c).toNat < 128 ∧
      lowerOctet (UInt8.ofNat c.toNat) = UInt8.ofNat (small c).toNat :=
    forall_char (by decide +kernel)
  exact hall c h

theorem lowerAt_of_lt {c : Char} (h : c.toNat < 128) (before after : List Char) :
    lowerAt before c after = [small c] := by
  have hi : c ≠ '\u0130' := by
    rintro rfl
    exact absurd h (by decide)
  have hs : c ≠ '\u03A3' := by
    rintro rfl
    exact absurd h (by decide)
  rw [lowerAt, if_neg hi, if_neg hs, (small_spec h).1]

theorem lowerChars_of_lt {cs : List Char} (before : List Char) (h : ∀ c ∈ cs, c.toNat < 128) :
    lowerChars before cs = cs.map small := by
  induction cs generalizing before with
  | nil => rfl
  | cons c cs ih =>
    rw [List.forall_mem_cons] at h
    rw [lowerChars, lowerAt_of_lt h.1, ih _ h.2]
    rfl

/-- The lower case of a text of ASCII is taken letter by letter. -/
theorem lower_of_isAscii (h : IsAscii s) : lower s = String.ofList (s.toList.map small) := by
  rw [lower, lowerChars_of_lt [] h]

/-- The lower case of a text of ASCII that is spelled out. -/
theorem lower_eq_of_small {t : String} (h : IsAscii s) (hsmall : s.toList.map small = t.toList) :
    lower s = t := by
  rw [lower_of_isAscii h, hsmall, String.ofList_toList]

theorem isAscii_lower (h : IsAscii s) : IsAscii (lower s) := by
  rw [lower_of_isAscii h, IsAscii, String.toList_ofList, List.forall_mem_map]
  exact fun c hc => (small_spec (h c hc)).2.1

/-- A text with the capitals of ASCII as small letters, and all else as it is. -/
def smallLetters (s : String) : String := String.ofList (s.toList.map small)

/-- Octets in small letters are read as small letters. -/
theorem ofLatin1_fold (bs : Bytes) :
    ofLatin1 (Http.Fields.fold bs) = smallLetters (ofLatin1 bs) := by
  have hall : ∀ b : UInt8, Char.ofNat (lowerOctet b).toNat = small (Char.ofNat b.toNat) :=
    forall_octet (by decide +kernel)
  rw [smallLetters, ofLatin1, ofLatin1, Http.Fields.fold, String.toList_ofList, List.map_map,
    List.map_map]
  exact congrArg String.ofList (List.map_congr_left fun b _ => hall b)

/-- Octets in small letters are those of the lower case. -/
theorem fold_ascii (h : IsAscii s) : Http.Fields.fold (ascii s) = ascii (lower s) := by
  rw [lower_of_isAscii h, Http.Fields.fold, ascii, ascii, String.toList_ofList, List.map_map,
    List.map_map]
  exact List.map_congr_left fun c hc => (small_spec (h c hc)).2.2

end ProxyTrial.Text
