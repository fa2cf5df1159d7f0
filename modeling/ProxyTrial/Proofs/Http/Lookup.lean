import ProxyTrial.Proofs.Http.Headers
import ProxyTrial.Proofs.Utf8
/-!
# Looking up header fields

Header fields are octets, and a name is looked up among them as octets. That finds the fields whose
name, read as a text and with the capitals of ASCII as small letters, is the lower case of the name
that is looked up; provided that this lower case can be written in the encoding of the fields.

## Main definitions

* `FieldEncoding.Writes e s`: the text can be written in the encoding
* `Fields.texts fs`: the fields as texts

## Main results

* `exists_encode_iff`: what can be written
* `fold_beq`: comparing octets is comparing texts
* `values_of_writes`, `values_of_not_writes`: the values of the fields with a name
-/

namespace ProxyTrial

namespace Text

/-! ## Small letters in UTF-8 -/

theorem small_of_le {c : Char} (h : ¬c.toNat ≤ 127) : small c = c := by
  have hle : ¬ c ≤ 'Z' := fun hz => h (Nat.le_trans (UInt32.le_iff_toNat_le.1 hz) (by decide))
  rw [small, if_neg fun hc => hle hc.2]

/-- Small letters of a character: only ASCII has an octet that changes. -/
theorem map_lowerOctet_utf8EncodeChar (c : Char) :
    (String.utf8EncodeChar c).map lowerOctet = String.utf8EncodeChar (small c) := by
  by_cases hascii : c.toNat ≤ 127
  · have hone : ∀ d : Char, d.toNat ≤ 127 → String.utf8EncodeChar d = [UInt8.ofNat d.toNat] :=
      fun d hd => if_pos hd
    obtain ⟨-, hsmall, hoctet⟩ := small_spec (c := c) (by omega)
    rw [hone c hascii, hone (small c) (by omega), List.map_singleton, hoctet]
  · have hkeeps : ∀ b : UInt8, 128 ≤ b.toNat → lowerOctet b = b :=
      forall_octet (by decide +kernel)
    rw [small_of_le hascii]
    refine (List.map_congr_left fun b hb => ?_).trans (List.map_id _)
    exact hkeeps b (le_of_mem_utf8EncodeChar hascii b hb)

theorem fold_utf8 (s : String) : Http.Fields.fold (utf8 s) = utf8 (smallLetters s) := by
  rw [Http.Fields.fold, utf8_eq_flatMap, utf8_eq_flatMap, smallLetters, String.toList_ofList,
    List.map_flatMap, List.flatMap_map]
  simp only [map_lowerOctet_utf8EncodeChar]

theorem utf8_injective {s t : String} (h : utf8 s = utf8 t) : s = t := by
  rw [← ofUtf8Lenient_utf8 s, h, ofUtf8Lenient_utf8]

end Text

namespace Http

/-! ## Encodings -/

/-- A text can be written in an encoding. -/
def FieldEncoding.Writes : FieldEncoding → String → Prop
  | .ascii, s => Text.IsAscii s
  | .utf8, _ => True
  | .latin1, s => Text.IsLatin1 s

instance : (e : FieldEncoding) → (s : String) → Decidable (e.Writes s)
  | .ascii, s => inferInstanceAs (Decidable (Text.IsAscii s))
  | .utf8, _ => inferInstanceAs (Decidable True)
  | .latin1, s => inferInstanceAs (Decidable (Text.IsLatin1 s))

theorem FieldEncoding.exists_encode_iff {e : FieldEncoding} {s : String} :
    (∃ octets, e.encode s = .ok octets) ↔ e.Writes s := by
  cases e with
  | ascii => exact ⟨fun ⟨_, h⟩ => (Text.encode_eq_ok_iff.1 h).1, fun h => ⟨_, Text.encode_ascii h⟩⟩
  | utf8 => exact ⟨fun _ => trivial, fun _ => ⟨_, rfl⟩⟩
  | latin1 => exact ⟨fun ⟨_, h⟩ => (Text.encode_eq_ok_iff.1 h).1,
      fun h => ⟨_, Text.encode_latin1 h⟩⟩

/-- All encodings have ASCII. -/
theorem FieldEncoding.writes_of_isAscii {e : FieldEncoding} {s : String} (h : Text.IsAscii s) :
    e.Writes s := by
  cases e with
  | ascii => exact h
  | utf8 => trivial
  | latin1 => exact h.isLatin1

namespace Fields

variable {fs : Fields} {name : String}

/-- The fields as texts. -/
def texts (fs : Fields) : List (String × String) :=
  fs.map fun f => (fs.encoding.decode f.1, fs.encoding.decode f.2)

/-- Fields that are read as UTF-8 are UTF-8. -/
theorem exists_utf8_of_encoding (h : fs.encoding = .utf8) {f : Bytes × Bytes} (hf : f ∈ fs) :
    ∃ s, f.1 = Text.utf8 s := by
  unfold encoding at h
  split at h
  · cases h
  · split at h
    · next hall =>
      have hname := (Bool.and_eq_true_iff.1 (List.all_eq_true.1 hall f hf)).1
      rw [isUtf8] at hname
      cases hread : Text.ofUtf8 f.1 with
      | error e =>
        rw [hread] at hname
        cases hname
      | ok s => exact ⟨s, Text.ofUtf8_eq_ok_iff.1 hread⟩
    · cases h

theorem fold_eq_ascii_iff {octets : Bytes} {s : String} (h : Text.IsLatin1 s) :
    fold octets = Text.ascii s ↔ Text.smallLetters (Text.ofLatin1 octets) = s := by
  rw [← Text.ofLatin1_fold]
  constructor
  · intro he
    rw [he, h.ofLatin1_ascii]
  · rintro rfl
    exact (Text.ascii_ofLatin1 _).symm

/-- Whether a field has the name that is looked up shows in the octets as in the text. -/
theorem fold_beq {f : Bytes × Bytes} (hf : f ∈ fs) {wanted : Bytes}
    (h : fs.encoding.encode name = .ok wanted) :
    (fold f.1 == wanted) = (Text.smallLetters (fs.encoding.decode f.1) == name) := by
  rw [Bool.eq_iff_iff, beq_iff_eq, beq_iff_eq]
  cases hencoding : fs.encoding with
  | ascii =>
    rw [hencoding] at h
    obtain ⟨hascii, rfl⟩ := Text.encode_eq_ok_iff.1 h
    exact fold_eq_ascii_iff (Text.IsAscii.isLatin1 hascii)
  | latin1 =>
    rw [hencoding] at h
    obtain ⟨hlatin1, rfl⟩ := Text.encode_eq_ok_iff.1 h
    exact fold_eq_ascii_iff hlatin1
  | utf8 =>
    rw [hencoding] at h
    cases h
    obtain ⟨s, hs⟩ := exists_utf8_of_encoding hencoding hf
    rw [hs, Text.fold_utf8, FieldEncoding.decode, Text.ofUtf8Lenient_utf8]
    exact ⟨Text.utf8_injective, congrArg Text.utf8⟩

/-- A name that can be written is looked up among the names as texts. -/
theorem values_of_writes (h : fs.encoding.Writes (Text.lower name)) :
    fs.values name = .ok
      ((fs.texts.filter fun f => Text.smallLetters f.1 == Text.lower name).map (·.2)) := by
  obtain ⟨wanted, hwanted⟩ := FieldEncoding.exists_encode_iff.2 h
  have hfilter : fs.filter (fun f => fold f.1 == wanted) =
      fs.filter fun f => Text.smallLetters (fs.encoding.decode f.1) == Text.lower name :=
    List.filter_congr fun f hf => fold_beq hf hwanted
  rw [values, hwanted, ok_bind, hfilter, texts, List.filter_map, List.map_map]
  rfl

/-- Another name cannot be looked up. -/
theorem values_of_not_writes (h : ¬ fs.encoding.Writes (Text.lower name)) :
    ∃ error, fs.values name = .error error := by
  cases hencode : fs.encoding.encode (Text.lower name) with
  | error error => exact ⟨error, by rw [values, hencode]; rfl⟩
  | ok wanted => exact absurd (FieldEncoding.exists_encode_iff.1 ⟨wanted, hencode⟩) h

end Fields

end Http

end ProxyTrial
