import ProxyTrial.Proofs.Http.Chunking
import ProxyTrial.Proofs.Http.Headers
/-!
# Bodies as they are written

A body ends where its framing says, and reading it takes exactly its octets. A chunked body has
chunks, each after a line with its size in hexadecimal digits, a last chunk without octets, and
trailers; blanks and an extension may follow a size.

## Main definitions

* `ChunkedBody octets content`: the octets of chunks, and what they hold
* `Framed hs octets content`: the octets of a body that the fields `hs` frame, and what they hold

## Main results

* `ChunkedBody.wholeChunks`: a chunked body is read as such, whatever follows it
* `readBody_append`: reading a body takes the body
-/

namespace ProxyTrial.Http

/-! ## Chunks -/

/-- What may follow the size of a chunk on its line: spaces and tabs, and an extension after a
semicolon. -/
inductive IsExtension : Bytes → Prop
  | blanks {bs : Bytes} : (∀ b ∈ bs, b = 32 ∨ b = 9) → IsExtension bs
  | extension {bs more : Bytes} :
      (∀ b ∈ bs, b = 32 ∨ b = 9) → 10 ∉ more → IsExtension (bs ++ 59 :: more)

/-- A chunked body: its octets, and what its chunks hold. -/
inductive ChunkedBody : Bytes → Bytes → Prop
  | last {size ext : Bytes} {trailers : List Bytes} :
      IsHex size 0 → IsExtension ext → (∀ t ∈ trailers, IsLine t) →
      ChunkedBody (size ++ (ext ++ 13 :: 10 :: (trailers.flatten ++ [13, 10]))) []
  | chunk {size ext data octets content : Bytes} :
      IsHex size data.length → data ≠ [] → data.length < lengthLimit → IsExtension ext →
      ChunkedBody octets content →
      ChunkedBody (size ++ (ext ++ 13 :: 10 :: (data ++ 13 :: 10 :: octets))) (data ++ content)

theorem IsExtension.isSizeLine {ext : Bytes} (h : IsExtension ext) (size : Bytes) :
    IsSizeLine size (size ++ (ext ++ [13, 10])) := by
  have hblank : ∀ bs : Bytes, (∀ b ∈ bs, b = 32 ∨ b = 9) → AllBlank bs := by
    intro bs hbs b hb
    rcases hbs b hb with rfl | rfl <;> decide
  have hcrlf : IsEmptyLine [13, 10] := .inl rfl
  cases h with
  | blanks hb => exact @IsSizeLine.mk size [] ext _ (by decide) (hblank ext hb) (.plain hcrlf)
  | @extension bs more hb hmore =>
    have hline := @IsSizeLine.mk size [] bs _ (by decide) (hblank bs hb)
      (.extension hmore hcrlf)
    simpa using hline

theorem IsLine.isTrailer {line : Bytes} (h : IsLine line) : IsTrailer line := by
  obtain ⟨content, rfl, hne, hlf⟩ := h
  refine ⟨?_, content ++ [13], by simp, by simpa using hlf⟩
  obtain ⟨b, content, rfl⟩ := List.exists_cons_of_ne_nil hne
  cases content with
  | nil => simp [IsEmptyLine]
  | cons d content => simp [IsEmptyLine]

/-- What is written as a chunked body are whole chunks and a last one, whatever follows. -/
theorem ChunkedBody.wholeChunks {octets content : Bytes} (h : ChunkedBody octets content)
    (rest : Bytes) :
    ∃ more, WholeChunks (octets ++ rest) content more ∧ LastChunk more rest := by
  have hcrlf : IsEmptyLine [13, 10] := .inl rfl
  induction h with
  | @last size ext trailers hsize hext htrailers =>
    have hline := hext.isSizeLine size
    have hfirst := hline.firstLine hsize.standsOut (trailers.flatten ++ ([13, 10] ++ rest))
    have hzero : States (size ++ (ext ++ [13, 10])) 0 :=
      IsHex.states (by rwa [hline.sizeText hsize.standsOut])
    have htrailers := trailers_append (fun t ht => (htrailers t ht).isTrailer) hcrlf rest
    refine ⟨_, .nil _, ?_⟩
    simpa using LastChunk.mk hfirst hzero htrailers
  | @chunk size ext data octets content hsize hdata hlimit hext _ ih =>
    obtain ⟨more, hwhole, hlast⟩ := ih
    have hline := hext.isSizeLine size
    have hfirst := hline.firstLine hsize.standsOut (data ++ ([13, 10] ++ (octets ++ rest)))
    have htext : IsHex (sizeText (size ++ (ext ++ [13, 10]))) data.length := by
      rwa [hline.sizeText hsize.standsOut]
    refine ⟨more, ?_, hlast⟩
    simpa using WholeChunks.cons hfirst htext hdata hlimit hcrlf hwhole

/-- A body that is written as a chunked one ends with an empty line. -/
theorem ChunkedBody.emptyLine_suffix {octets : Bytes} (h : ChunkedBody octets content) :
    [13, 10, 13, 10] <:+ octets := by
  induction h with
  | @last size ext trailers _ _ htrailers =>
    rcases List.eq_nil_or_concat' trailers with rfl | ⟨before, last, rfl⟩
    · exact ⟨size ++ ext, by simp⟩
    · -- The line before the empty one is a trailer, which ends as the size line does.
      obtain ⟨line, rfl, -, -⟩ := htrailers last (by simp)
      exact ⟨size ++ (ext ++ 13 :: 10 :: (before.flatten ++ line)), by simp⟩
  | @chunk size ext data octets content _ _ _ _ _ ih =>
    exact ih.trans ⟨size ++ (ext ++ 13 :: 10 :: (data ++ [13, 10])), by simp⟩

/-! ## Framings -/

/-- A number in at most as many decimal digits as are read. -/
structure IsDecimal (s : String) (n : Nat) : Prop where
  ne_empty : s ≠ ""
  isDigit : ∀ c ∈ s.toList, c.isDigit
  fits : s.length ≤ Text.digitLimit
  value : Text.ofDigits 10 (s.toList.map fun c => c.toNat - 48) = n

/-- The fields name the chunked coding. -/
def NamesChunked (hs : List (String × String)) : Prop :=
  "chunked".toList <:+: (Text.lower ((combined "transfer-encoding" hs).getD "")).toList

instance (hs : List (String × String)) : Decidable (NamesChunked hs) :=
  inferInstanceAs (Decidable (_ <:+: _))

/-- The octets of a body that the fields frame, and what they hold. -/
inductive Framed (hs : List (String × String)) : Bytes → Bytes → Prop
  | empty : ¬ NamesChunked hs → combined "content-length" hs = none → Framed hs [] []
  | sized {length : String} {content : Bytes} :
      ¬ NamesChunked hs → combined "content-length" hs = some length →
      IsDecimal (Text.trim length) content.length → content.length < lengthLimit →
      Framed hs content content
  | chunked {octets content : Bytes} :
      NamesChunked hs → ChunkedBody octets content → Framed hs octets content

variable {hs : List (String × String)}

theorem any_isPrefixOf_drop_iff {α : Type} [BEq α] [LawfulBEq α] {w l : List α} :
    ((List.range (l.length + 1)).any fun i => w.isPrefixOf (l.drop i)) ↔ w <:+: l := by
  rw [List.any_eq_true]
  -- An infix is a prefix of what is left after some drop.
  constructor
  · rintro ⟨i, -, hp⟩
    rw [List.isPrefixOf_iff_prefix] at hp
    exact hp.isInfix.trans (List.drop_suffix i l).isInfix
  · rintro ⟨before, after, rfl⟩
    have hlt : before.length < (before ++ w ++ after).length + 1 := by
      rw [List.length_append, List.length_append]
      omega
    refine ⟨before.length, List.mem_range.2 hlt, ?_⟩
    rw [List.isPrefixOf_iff_prefix, List.append_assoc, List.drop_left]
    exact List.prefix_append w after

theorem isChunked_octetFields (h : AsciiFields hs) :
    isChunked (octetFields hs) ↔ NamesChunked hs := by
  have hjoined : (octetFields hs).joined? "transfer-encoding" = combined "transfer-encoding" hs :=
    joined?_octetFields h (by decide) (Text.lower_eq_of_small (by decide) (by decide))
  rw [isChunked, hjoined, NamesChunked]
  exact any_isPrefixOf_drop_iff

/-- The length that the fields declare, as it is written; it is empty if there is none. -/
def lengthText (hs : List (String × String)) : String :=
  Text.trim ((combined "content-length" hs).getD "")

theorem contentLength_octetFields (h : AsciiFields hs) :
    contentLength (octetFields hs) =
      let digits := (lengthText hs).toList
      if digits.isEmpty then .ok 0
      else if !digits.all Char.isDigit then .error (.malformedLength (lengthText hs))
      else if digits.length > Text.digitLimit then .error (.longNumber digits.length)
      else .ok (Text.ofDigits 10 (digits.map fun c => c.toNat - 48)) := by
  have hjoined : (octetFields hs).joined? "content-length" = combined "content-length" hs :=
    joined?_octetFields h (by decide) (Text.lower_eq_of_small (by decide) (by decide))
  rw [contentLength, hjoined]
  rfl

theorem contentLength_of_empty (h : AsciiFields hs) (hempty : lengthText hs = "") :
    contentLength (octetFields hs) = .ok 0 := by
  rw [contentLength_octetFields h, hempty]
  rfl

theorem contentLength_of_isDecimal (h : AsciiFields hs) {n : Nat}
    (hd : IsDecimal (lengthText hs) n) : contentLength (octetFields hs) = .ok n := by
  have hne : (lengthText hs).toList.isEmpty = false := by simpa using hd.ne_empty
  have hall : (lengthText hs).toList.all Char.isDigit := List.all_eq_true.2 hd.isDigit
  have hfits : ¬ (lengthText hs).toList.length > Text.digitLimit := by
    rw [String.length_toList]
    exact Nat.not_lt.2 hd.fits
  simp only [contentLength_octetFields h, hne, hall, if_neg hfits, hd.value, Bool.false_eq_true,
    Bool.not_true, if_false]

theorem contentLength_of_malformed (h : AsciiFields hs) (hne : lengthText hs ≠ "")
    (hdigits : ¬ ∀ c ∈ (lengthText hs).toList, c.isDigit) :
    contentLength (octetFields hs) = .error (.malformedLength (lengthText hs)) := by
  have hempty : (lengthText hs).toList.isEmpty = false := by simpa using hne
  have hall : (lengthText hs).toList.all Char.isDigit = false := by
    rwa [← Bool.not_eq_true, List.all_eq_true]
  simp only [contentLength_octetFields h, hempty, hall, Bool.false_eq_true, Bool.not_false, if_true,
    if_false]

theorem contentLength_of_long (h : AsciiFields hs)
    (hdigits : ∀ c ∈ (lengthText hs).toList, c.isDigit)
    (hlong : Text.digitLimit < (lengthText hs).length) :
    contentLength (octetFields hs) = .error (.longNumber (lengthText hs).length) := by
  rw [← String.length_toList] at hlong ⊢
  have hempty : (lengthText hs).toList.isEmpty = false := by
    rw [List.isEmpty_eq_false_iff, ← List.length_pos_iff]
    omega
  have hall : (lengthText hs).toList.all Char.isDigit := List.all_eq_true.2 hdigits
  simp only [contentLength_octetFields h, hempty, hall, hlong, Bool.false_eq_true, Bool.not_true,
    if_true, if_false]

/-- Reading a body takes the body. -/
theorem readBody_append (h : AsciiFields hs) {octets content : Bytes}
    (hf : Framed hs octets content) (rest : Bytes) :
    readBody (octetFields hs) (octets ++ rest) = .ok (content, rest) := by
  cases hf with
  | empty hn hc =>
    have hempty : lengthText hs = "" := by rw [lengthText, hc]; rfl
    rw [readBody, if_neg ((isChunked_octetFields h).not.2 hn), contentLength_of_empty h hempty]
    rfl
  | sized hn hc hd hlimit =>
    have hdecimal : IsDecimal (lengthText hs) octets.length := by rwa [lengthText, hc]
    rw [readBody, if_neg ((isChunked_octetFields h).not.2 hn),
      contentLength_of_isDecimal h hdecimal, ok_bind, takeOctets, if_pos hlimit, List.take_left,
      List.drop_left]
  | chunked hn hb =>
    rw [readBody, if_pos ((isChunked_octetFields h).2 hn)]
    obtain ⟨more, hwhole, hlast⟩ := hb.wholeChunks rest
    exact readChunked_lastChunk hwhole hlast

end ProxyTrial.Http
