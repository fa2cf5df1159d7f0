import ProxyTrial.Proofs.Http.Chunks
/-!
# Chunked bodies as they are written

A sender of chunks has some freedom: a size may have leading zeros and blanks around it, an
extension may follow it, lines may end with or without a carriage return, and the zero of the last
chunk may be left out or be spelled in many ways. Whatever it chooses, reading takes exactly the
octets that it wrote, and they hold what it encoded.

## Main definitions

* `IsSizeLine size line`: a line with this text for a size
* `SpellsZero text`: the spellings of the size of a last chunk
* `Encodes cs octets`: octets that encode these pieces of content, one in each chunk

## Main results

* `IsSizeLine.sizeText`: the text for a size is found on its line
* `readChunked_encoded`: what has been encoded is read, and no octet after it
-/

namespace ProxyTrial.Http

/-! ## Lines with sizes -/

/-- Blanks within a line. -/
def AllBlank (bs : Bytes) : Prop := ∀ b ∈ bs, Text.isBlankOctet b ∧ b ≠ 10

instance (bs : Bytes) : Decidable (AllBlank bs) := List.decidableBAll _ bs

/-- What ends the line of a size: perhaps an extension, and a line end. -/
inductive SizeLineEnd : Bytes → Prop
  | plain {ending : Bytes} : IsEmptyLine ending → SizeLineEnd ending
  | extension {more ending : Bytes} :
      10 ∉ more → IsEmptyLine ending → SizeLineEnd (59 :: (more ++ ending))

/-- A line with this text for a size, and blanks around it. -/
inductive IsSizeLine (size : Bytes) : Bytes → Prop
  | mk {before after last : Bytes} :
      AllBlank before → AllBlank after → SizeLineEnd last →
      IsSizeLine size (before ++ (size ++ (after ++ last)))

/-- Text that can be told apart from what surrounds it on its line. -/
def StandsOut (text : Bytes) : Prop :=
  ∀ b ∈ text, Text.isBlankOctet b = false ∧ b ≠ 59 ∧ b ≠ 10

instance (text : Bytes) : Decidable (StandsOut text) := List.decidableBAll _ text

section SizeLine

variable {size line : Bytes}

theorem IsEmptyLine.exists_content {ending : Bytes} (h : IsEmptyLine ending) :
    ∃ content, ending = content ++ [10] ∧ 10 ∉ content ∧ 59 ∉ ending ∧
      ∀ b ∈ ending, Text.isBlankOctet b := by
  rcases h with rfl | rfl
  · exact ⟨[13], by decide, by decide, by decide, List.all_iff_forall_prop.1 (by decide)⟩
  · exact ⟨[], by decide, by decide, by decide, List.all_iff_forall_prop.1 (by decide)⟩

theorem AllBlank.semicolon_notMem {bs : Bytes} (h : AllBlank bs) : 59 ∉ bs :=
  fun hm => absurd (h 59 hm).1 (by decide)

theorem SizeLineEnd.exists_content {last : Bytes} (h : SizeLineEnd last) :
    ∃ content, last = content ++ [10] ∧ 10 ∉ content := by
  cases h with
  | plain hending =>
    obtain ⟨content, hcontent, hlf, -⟩ := hending.exists_content
    exact ⟨content, hcontent, hlf⟩
  | @extension more ending hmore hending =>
    obtain ⟨content, rfl, hlf, -⟩ := hending.exists_content
    refine ⟨59 :: (more ++ content), by simp, ?_⟩
    simp only [List.mem_cons, List.mem_append, not_or]
    exact ⟨by decide, hmore, hlf⟩

/-- The line of a size is the first one of the octets that begin with it. -/
theorem IsSizeLine.firstLine (h : IsSizeLine size line) (hsize : StandsOut size) (rest : Bytes) :
    FirstLine (line ++ rest) line rest := by
  obtain ⟨hbefore, hafter, hlast⟩ := h
  next before after last =>
  obtain ⟨content, rfl, hcontent⟩ := hlast.exists_content
  have hlf : 10 ∉ before ++ (size ++ (after ++ content)) := by
    simp only [List.mem_append, not_or]
    exact ⟨fun hm => (hbefore 10 hm).2 rfl, fun hm => (hsize 10 hm).2.2 rfl,
      fun hm => (hafter 10 hm).2 rfl, hcontent⟩
  have hfirst := @FirstLine.ended _ rest hlf
  simpa using hfirst

/-- Blanks, extension and line end aside, the size is what stands on its line. -/
theorem IsSizeLine.sizeText (h : IsSizeLine size line) (hsize : StandsOut size) :
    sizeText line = size := by
  obtain ⟨hbefore, hafter, hlast⟩ := h
  next before after last =>
  have hnone : 59 ∉ before ++ (size ++ after) := by
    simp only [List.mem_append, not_or]
    exact ⟨hbefore.semicolon_notMem, fun hm => (hsize 59 hm).2.1 rfl, hafter.semicolon_notMem⟩
  -- Without an extension, the line end is among the blanks after the size.
  obtain ⟨ws, hcut, hws⟩ : ∃ ws,
      (Text.cutAt 59 (before ++ (size ++ (after ++ last)))).1 = before ++ (size ++ ws) ∧
        ∀ w ∈ ws, Text.isBlankOctet w := by
    have hassoc : before ++ (size ++ (after ++ last)) = before ++ (size ++ after) ++ last := by simp
    rw [hassoc, Text.cutAt_append_of_notMem hnone]
    cases hlast with
    | plain hending =>
      obtain ⟨content, -, -, hsemicolon, hblank⟩ := hending.exists_content
      refine ⟨after ++ last, by rw [Text.cutAt_of_notMem hsemicolon, ← hassoc], ?_⟩
      exact List.forall_mem_append.2 ⟨fun w hw => (hafter w hw).1, hblank⟩
    | extension _ _ => exact ⟨after, by simp [Text.cutAt], fun w hw => (hafter w hw).1⟩
  rw [Http.sizeText, hcut]
  exact Text.trimBy_between (fun b hb => (hbefore b hb).1) (fun b hb => (hsize b hb).1) hws

end SizeLine

/-! ## Zeros -/

/-- Zeros, and single underscores between them. -/
inductive Zeros : Bytes → Prop
  | zero : Zeros [48]
  | cons {bs : Bytes} : Zeros bs → Zeros (48 :: bs)
  | underscore {bs : Bytes} : Zeros bs → Zeros (48 :: 95 :: bs)

/-- The spellings of zero as the size of a last chunk: nothing at all, or zeros, with a sign and the
mark of a hexadecimal number or without. -/
inductive SpellsZero : Bytes → Prop
  | missing : SpellsZero []
  | spelled {sign mark zeros : Bytes} :
      sign ∈ [[], Text.ascii "+", Text.ascii "-"] →
      mark ∈ [[], Text.ascii "0x", Text.ascii "0X", Text.ascii "0x_", Text.ascii "0X_"] →
      Zeros zeros → SpellsZero (sign ++ (mark ++ zeros))

/-- Zeros are digits that spell zero. -/
theorem Zeros.spells {bs : Bytes} (h : Zeros bs) :
    Text.Grouped Text.isHexDigit (octetChars bs) ∧ Text.ofHexDigits (octetChars bs) = 0 := by
  have hzero : Text.isHexDigit '0' := by decide
  -- A zero in front does not change a value, nor does an underscore.
  have hcons (cs : List Char) : Text.ofHexDigits ('0' :: cs) = Text.ofHexDigits cs := rfl
  have hunderscore (cs : List Char) : Text.ofHexDigits ('_' :: cs) = Text.ofHexDigits cs := rfl
  induction h with
  | zero => exact ⟨.one hzero, rfl⟩
  | cons _ ih => exact ⟨.cons hzero ih.1, (hcons _).trans ih.2⟩
  | underscore _ ih =>
    exact ⟨.underscore hzero ih.1, (hcons _).trans ((hunderscore _).trans ih.2)⟩

theorem spellsInteger_zeros {sign mark zeros : Bytes}
    (hsign : sign ∈ [[], Text.ascii "+", Text.ascii "-"])
    (hmark : mark ∈ [[], Text.ascii "0x", Text.ascii "0X", Text.ascii "0x_", Text.ascii "0X_"])
    (h : Zeros zeros) : SpellsInteger (octetChars (sign ++ (mark ++ zeros))) 0 := by
  have hmarks : octetChars mark ∈ hexMarks := by
    simp only [List.mem_cons, List.not_mem_nil, or_false] at hmark
    rcases hmark with rfl | rfl | rfl | rfl | rfl <;> decide
  obtain ⟨hdigits, hvalue⟩ := h.spells
  have hnatural := SpellsNatural.mk hmarks hdigits
  rw [hvalue] at hnatural
  have happend : octetChars (sign ++ (mark ++ zeros)) =
      octetChars sign ++ (octetChars mark ++ octetChars zeros) := by simp [octetChars]
  rw [happend]
  simp only [List.mem_cons, List.not_mem_nil, or_false] at hsign
  rcases hsign with rfl | rfl | rfl
  · exact .unsigned hnatural
  · exact .plus hnatural
  · exact .minus hnatural

theorem IsHex.standsOut {size : Bytes} {n : Nat} (h : IsHex size n) : StandsOut size := h.octets

theorem SpellsZero.standsOut {text : Bytes} (h : SpellsZero text) : StandsOut text := by
  cases h with
  | missing => exact List.forall_mem_nil _
  | @spelled sign mark zeros hsign hmark hzeros =>
    have hsigns : ∀ sign ∈ [[], Text.ascii "+", Text.ascii "-"], StandsOut sign := by decide
    have hmarks : ∀ mark ∈ [[], Text.ascii "0x", Text.ascii "0X", Text.ascii "0x_",
      Text.ascii "0X_"],
        StandsOut mark := by decide
    have hdigits : StandsOut zeros := by
      clear hsign hmark
      induction hzeros with
      | zero => decide
      | cons _ ih => exact List.forall_mem_cons.2 ⟨by decide, ih⟩
      | underscore _ ih =>
        exact List.forall_mem_cons.2 ⟨by decide, List.forall_mem_cons.2 ⟨by decide, ih⟩⟩
    exact List.forall_mem_append.2 ⟨hsigns sign hsign,
      List.forall_mem_append.2 ⟨hmarks mark hmark, hdigits⟩⟩

/-- Every spelling of zero states zero. -/
theorem SpellsZero.states {text line : Bytes} (h : SpellsZero text) (hline : IsSizeLine text line) :
    States line 0 := by
  have htext := hline.sizeText h.standsOut
  cases h with
  | missing => exact .missing htext
  | spelled hsign hmark hzeros =>
    have hspells := spellsInteger_zeros hsign hmark hzeros
    rw [← htext] at hspells
    exact .number hspells

/-! ## Encodings -/

/-- A line of a trailer section: it has one line feed, at its end, and is not the empty line. -/
def IsTrailer (line : Bytes) : Prop :=
  ¬ IsEmptyLine line ∧ ∃ content, line = content ++ [10] ∧ 10 ∉ content

/-- Octets that encode these pieces of content, one in each chunk. -/
inductive Encodes : List Bytes → Bytes → Prop
  | last {zero line ending : Bytes} {trailers : List Bytes} :
      SpellsZero zero → IsSizeLine zero line → (∀ t ∈ trailers, IsTrailer t) →
      IsEmptyLine ending → Encodes [] (line ++ (trailers.flatten ++ ending))
  | chunk {size line data ending octets : Bytes} {cs : List Bytes} :
      IsHex size data.length → IsSizeLine size line → data ≠ [] → data.length < lengthLimit →
      IsEmptyLine ending → Encodes cs octets →
      Encodes (data :: cs) (line ++ (data ++ (ending ++ octets)))

theorem trailers_append {trailers : List Bytes} {ending : Bytes}
    (h : ∀ t ∈ trailers, IsTrailer t) (hending : IsEmptyLine ending) (rest : Bytes) :
    Trailers (trailers.flatten ++ (ending ++ rest)) rest := by
  induction trailers with
  | nil => exact .emptyLine (hending.firstLine rest) hending
  | cons t trailers ih =>
    obtain ⟨⟨hnot, content, rfl, hcontent⟩, hmore⟩ := List.forall_mem_cons.1 h
    have hfirst := @FirstLine.ended _ (trailers.flatten ++ (ending ++ rest)) hcontent
    exact .cons (by simpa using hfirst) hnot (ih hmore)

/-- What has been encoded are whole chunks and a last one, whatever follows. -/
theorem Encodes.wholeChunks {cs : List Bytes} {octets : Bytes} (h : Encodes cs octets)
    (rest : Bytes) :
    ∃ more, WholeChunks (octets ++ rest) cs.flatten more ∧ LastChunk more rest := by
  induction h with
  | @last zero line ending trailers hzero hline htrailers hending =>
    have hfirst := hline.firstLine hzero.standsOut (trailers.flatten ++ (ending ++ rest))
    refine ⟨_, .nil _, ?_⟩
    simpa using LastChunk.mk hfirst (hzero.states hline) (trailers_append htrailers hending rest)
  | @chunk size line data ending octets cs hsize hline hdata hlimit hending _ ih =>
    obtain ⟨more, hwhole, hlast⟩ := ih
    have hfirst := hline.firstLine hsize.standsOut (data ++ (ending ++ (octets ++ rest)))
    have htext : IsHex (sizeText line) data.length := by rwa [hline.sizeText hsize.standsOut]
    refine ⟨more, ?_, hlast⟩
    have hcons := WholeChunks.cons hfirst htext hdata hlimit hending hwhole
    simpa using hcons

/-- What has been encoded is read, and no octet after it. -/
theorem readChunked_encoded {cs : List Bytes} {octets : Bytes} (h : Encodes cs octets)
    (rest : Bytes) : readChunked (octets ++ rest) = .ok (cs.flatten, rest) := by
  obtain ⟨more, hwhole, hlast⟩ := h.wholeChunks rest
  exact readChunked_lastChunk hwhole hlast

end ProxyTrial.Http
