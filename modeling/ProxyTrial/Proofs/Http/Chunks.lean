import ProxyTrial.Proofs.Basic
import ProxyTrial.Proofs.Http.HeaderSection
/-!
# Chunked bodies as they are recognized

What is taken for a chunked body is more than what is written as one: any line end will do, blanks
may stand around a size, which may have a sign, a mark of hexadecimal digits and underscores, a size
that is missing stands for zero, whatever stands on the line after the data of a chunk is passed
over, and the end of the octets ends data, chunks and trailers alike. A size that is no number ends
the reading with an error, and so does one that is too large.

## Main definitions

* `SpellsInteger cs n`: the characters spell an integer to the base sixteen
* `IsHex digits n`: a number in hexadecimal digits and nothing else
* `States line n`: the size that the line before a chunk states
* `WholeChunks bs content more`: chunks at the start of the octets, what they hold, and what follows
* `TakenChunks bs content more`: the same for what is taken for chunks
* `ChunksEnd bs rest`: the end of chunks, with its trailers, and what follows
* `TakenEnd bs rest`: the same for what is taken for an end
* `BadSize bs`, `OversizedSize bs`: a line that states no size, or one that is too large

## Main results

* `hexNumber?_eq_some_iff`: a number is read if and only if it is spelled
* `exists_takenChunks`: octets are taken for chunks up to their end, a bad size or one too large
* `readChunked_takenEnd`, `readChunked_badSize`, `readChunked_oversizedSize`: what becomes of them
-/

namespace ProxyTrial.Http

/-! ## Lines -/

/-- The first line of octets, and those after it: a line ends with a line feed, or with the
octets. -/
inductive FirstLine : Bytes → Bytes → Bytes → Prop
  | ended {content rest : Bytes} :
      10 ∉ content → FirstLine (content ++ 10 :: rest) (content ++ [10]) rest
  | unended {line : Bytes} : line ≠ [] → 10 ∉ line → FirstLine line line []

/-- The line that ends a section. -/
def IsEmptyLine (line : Bytes) : Prop := line = [13, 10] ∨ line = [10]

instance (line : Bytes) : Decidable (IsEmptyLine line) :=
  inferInstanceAs (Decidable (_ ∨ _))

theorem splitLine_of_notMem {line : Bytes} (h : 10 ∉ line) : splitLine line = (line, []) := by
  induction line with
  | nil => rfl
  | cons b line ih =>
    rw [List.mem_cons, not_or] at h
    rw [splitLine, if_neg (Ne.symm h.1), ih h.2]

section FirstLine

variable {bs line rest : Bytes}

theorem FirstLine.splitLine (h : FirstLine bs line rest) : splitLine bs = (line, rest) := by
  cases h with
  | ended hcontent => exact splitLine_append hcontent rest
  | unended _ hline => exact splitLine_of_notMem hline

/-- The first line is what is read up to the first line feed, if there is anything to be read. -/
theorem firstLine_iff : FirstLine bs line rest ↔ bs ≠ [] ∧ Http.splitLine bs = (line, rest) := by
  constructor
  · intro h
    refine ⟨?_, h.splitLine⟩
    cases h with
    | ended _ => simp
    | unended hne _ => exact hne
  · rintro ⟨hne, hsplit⟩
    by_cases hlf : 10 ∈ bs
    · obtain ⟨content, more, rfl, hcontent⟩ := List.eq_append_cons_of_mem hlf
      rw [splitLine_append hcontent] at hsplit
      cases hsplit
      exact .ended hcontent
    · rw [splitLine_of_notMem hlf] at hsplit
      cases hsplit
      exact .unended hne hlf

instance : Decidable (FirstLine bs line rest) := decidable_of_iff _ firstLine_iff.symm

theorem FirstLine.ne_nil (h : FirstLine bs line rest) : line ≠ [] := by
  cases h with
  | ended _ => simp
  | unended hne _ => exact hne

theorem FirstLine.length_lt (h : FirstLine bs line rest) : rest.length < bs.length := by
  cases h with
  | ended _ =>
    rw [List.length_append, List.length_cons]
    omega
  | unended hne _ => exact List.length_pos_of_ne_nil hne

theorem FirstLine.isEmpty_eq (h : FirstLine bs line rest) : line.isEmpty = false := by
  simpa using h.ne_nil

theorem IsEmptyLine.firstLine (h : IsEmptyLine line) (rest : Bytes) :
    FirstLine (line ++ rest) line rest := by
  rcases h with rfl | rfl
  · exact firstLine_iff.2 ⟨List.cons_ne_nil 13 _, rfl⟩
  · exact firstLine_iff.2 ⟨List.cons_ne_nil 10 _, rfl⟩

end FirstLine

/-! ## Numbers to the base sixteen -/

/-- What may stand before the digits of a hexadecimal number. -/
def hexMarks : List (List Char) :=
  [[], ['0', 'x'], ['0', 'X'], ['0', 'x', '_'], ['0', 'X', '_']]

/-- Characters that spell a natural number to the base sixteen: digits with single underscores
between them, behind a mark or without one. -/
inductive SpellsNatural : List Char → Nat → Prop
  | mk {mark digits : List Char} : mark ∈ hexMarks → Text.Grouped Text.isHexDigit digits →
      SpellsNatural (mark ++ digits) (Text.ofHexDigits digits)

/-- Characters that spell an integer to the base sixteen: a natural number with a sign or
without. -/
inductive SpellsInteger : List Char → Int → Prop
  | unsigned {cs : List Char} {n : Nat} : SpellsNatural cs n → SpellsInteger cs n
  | plus {cs : List Char} {n : Nat} : SpellsNatural cs n → SpellsInteger ('+' :: cs) n
  | minus {cs : List Char} {n : Nat} : SpellsNatural cs n → SpellsInteger ('-' :: cs) (-n)

theorem plain_of_isHexDigit {c : Char} (h : Text.isHexDigit c ∨ c = '_') :
    (c == 'x' || c == 'X') = false ∧ c ≠ '-' ∧ c ≠ '+' := by
  rw [← Bool.not_eq_true, Bool.or_eq_true, beq_iff_eq, beq_iff_eq]
  refine ⟨?_, ?_, ?_⟩
  · rintro (rfl | rfl) <;> exact absurd h (by decide)
  · rintro rfl; exact absurd h (by decide)
  · rintro rfl; exact absurd h (by decide)

theorem exists_hexMark (cs : List Char) : ∃ mark ∈ hexMarks, cs = mark ++ afterHexMark cs := by
  have hnone : ∃ mark ∈ hexMarks, cs = mark ++ cs := ⟨[], List.mem_cons_self, rfl⟩
  unfold afterHexMark
  split
  · split
    · next x rest hx =>
      rw [Bool.or_eq_true, beq_iff_eq, beq_iff_eq] at hx
      exact ⟨['0', x, '_'], by rcases hx with rfl | rfl <;> decide, rfl⟩
    · exact hnone
  · split
    · next x rest _ hx =>
      rw [Bool.or_eq_true, beq_iff_eq, beq_iff_eq] at hx
      exact ⟨['0', x], by rcases hx with rfl | rfl <;> decide, rfl⟩
    · exact hnone
  · exact hnone

theorem afterHexMark_eq_self {cs : List Char} (h : ∀ c ∈ cs, Text.isHexDigit c ∨ c = '_') :
    afterHexMark cs = cs := by
  unfold afterHexMark
  split
  · rw [(plain_of_isHexDigit (h _ (by simp))).1]
    rfl
  · rw [(plain_of_isHexDigit (h _ (by simp))).1]
    rfl
  · rfl

theorem afterHexMark_append {mark digits : List Char} (hmark : mark ∈ hexMarks)
    (h : Text.Grouped Text.isHexDigit digits) : afterHexMark (mark ++ digits) = digits := by
  simp only [hexMarks, List.mem_cons, List.not_mem_nil, or_false] at hmark
  -- Digits begin with one, so that a mark without an underscore is not taken for the one with it.
  obtain ⟨c, more, rfl, hc⟩ := h.exists_cons
  have hne : c ≠ '_' := by
    rintro rfl
    exact absurd hc (by decide)
  rcases hmark with rfl | rfl | rfl | rfl | rfl
  · exact afterHexMark_eq_self h.forall_mem
  · simp [afterHexMark, hne]
  · simp [afterHexMark, hne]
  · rfl
  · rfl

theorem hexNatural?_eq_some_iff {cs : List Char} {n : Nat} :
    hexNatural? cs = some n ↔ SpellsNatural cs n := by
  have hdigits (ds : List Char) (values : List Nat) :
      Text.groupedDigits Text.hexValue? ds = some values ↔
        Text.Grouped Text.isHexDigit ds ∧ ds.filterMap Text.hexValue? = values :=
    Text.groupedDigits_eq_some_iff (by decide)
  constructor
  · intro h
    obtain ⟨values, hvalues, rfl⟩ := Option.map_eq_some_iff.1 h
    obtain ⟨hgrouped, rfl⟩ := (hdigits _ _).1 hvalues
    obtain ⟨mark, hmark, hcs⟩ := exists_hexMark cs
    generalize afterHexMark cs = digits at hcs hgrouped
    subst hcs
    exact .mk hmark hgrouped
  · rintro ⟨hmark, hgrouped⟩
    rw [hexNatural?, afterHexMark_append hmark hgrouped, (hdigits _ _).2 ⟨hgrouped, rfl⟩]
    rfl

theorem SpellsNatural.exists_cons {cs : List Char} {n : Nat} (h : SpellsNatural cs n) :
    ∃ c more, cs = c :: more ∧ Text.isHexDigit c := by
  obtain ⟨hmark, hdigits⟩ := h
  simp only [hexMarks, List.mem_cons, List.not_mem_nil, or_false] at hmark
  rcases hmark with rfl | rfl | rfl | rfl | rfl
  · exact hdigits.exists_cons
  all_goals exact ⟨'0', _, rfl, by decide⟩

theorem SpellsNatural.splitSign {cs : List Char} {n : Nat} (h : SpellsNatural cs n) :
    Text.splitSign cs = (false, cs) := by
  obtain ⟨c, more, rfl, hc⟩ := h.exists_cons
  obtain ⟨-, hminus, hplus⟩ := plain_of_isHexDigit (.inl hc)
  unfold Text.splitSign
  split
  · next heq => exact absurd (List.cons.inj heq).1 hminus
  · next heq => exact absurd (List.cons.inj heq).1 hplus
  · rfl

/-- A number is read if and only if it is spelled. -/
theorem hexNumber?_eq_some_iff {bs : Bytes} {n : Int} :
    hexNumber? bs = some n ↔ SpellsInteger (octetChars bs) n := by
  unfold hexNumber?
  generalize octetChars bs = cs
  constructor
  · intro h
    unfold Text.splitSign at h
    -- A minus, a plus, or no sign.
    split at h
    next heq =>
    split at heq
    all_goals
      obtain ⟨rfl, rfl⟩ := Prod.mk.inj heq
      obtain ⟨value, hvalue, rfl⟩ := Option.map_eq_some_iff.1 h
      have hspells := hexNatural?_eq_some_iff.1 hvalue
    · exact .minus hspells
    · exact .plus hspells
    · exact .unsigned hspells
  · intro h
    cases h with
    | unsigned hspells =>
      rw [hspells.splitSign]
      exact congrArg (Option.map _) (hexNatural?_eq_some_iff.2 hspells)
    | plus hspells => exact congrArg (Option.map _) (hexNatural?_eq_some_iff.2 hspells)
    | minus hspells => exact congrArg (Option.map _) (hexNatural?_eq_some_iff.2 hspells)

/-! ## Sizes -/

/-- A number in hexadecimal digits. -/
structure IsHex (digits : Bytes) (n : Nat) : Prop where
  ne_nil : digits ≠ []
  isHexDigit : ∀ c ∈ octetChars digits, Text.isHexDigit c
  value : Text.ofHexDigits (octetChars digits) = n

/-- A digit is neither a blank nor a semicolon. -/
theorem octet_of_isHexDigit {b : UInt8} (h : Text.isHexDigit (Char.ofNat b.toNat)) :
    Text.isBlankOctet b = false ∧ b ≠ 59 ∧ b ≠ 10 := by
  have hall : ∀ b : UInt8, Text.isHexDigit (Char.ofNat b.toNat) →
      Text.isBlankOctet b = false ∧ b ≠ 59 ∧ b ≠ 10 :=
    Text.forall_octet (by decide +kernel)
  exact hall b h

theorem IsHex.octets {digits : Bytes} {n : Nat} (h : IsHex digits n) :
    ∀ b ∈ digits, Text.isBlankOctet b = false ∧ b ≠ 59 ∧ b ≠ 10 :=
  fun _ hb => octet_of_isHexDigit (h.isHexDigit _ (List.mem_map_of_mem hb))

/-- What stands for the size on the line before a chunk: what precedes the first semicolon, blanks
aside. -/
def sizeText (line : Bytes) : Bytes := Text.trimBy Text.isBlankOctet (Text.cutAt 59 line).1

/-- The size that the line before a chunk states; nothing at all stands for zero. -/
inductive States (line : Bytes) : Nat → Prop
  | missing : sizeText line = [] → States line 0
  | number {n : Nat} : SpellsInteger (octetChars (sizeText line)) n → States line n

theorem IsHex.states {line : Bytes} {n : Nat} (h : IsHex (sizeText line) n) : States line n := by
  have hne : octetChars (sizeText line) ≠ [] := by simpa [octetChars] using h.ne_nil
  have hspells := SpellsNatural.mk (List.mem_cons_self : [] ∈ hexMarks)
    (Text.Grouped.of_forall hne h.isHexDigit)
  rw [List.nil_append, h.value] at hspells
  exact .number (.unsigned hspells)

theorem SpellsInteger.ne_nil {cs : List Char} {n : Int} (h : SpellsInteger cs n) : cs ≠ [] := by
  cases h with
  | unsigned h =>
    obtain ⟨c, more, rfl, -⟩ := h.exists_cons
    exact List.cons_ne_nil _ _
  | plus _ => exact List.cons_ne_nil _ _
  | minus _ => exact List.cons_ne_nil _ _

/-- The size is read from the text of the line, or from a zero if there is none. -/
theorem chunkSize_of_text {line text : Bytes}
    (h : (if (sizeText line).isEmpty then [48] else sizeText line) = text) :
    chunkSize line = match hexNumber? text with
      | some (.ofNat n) => .ok n
      | _ => .error (.malformedChunkSize text) := by
  subst h
  rfl

theorem chunkSize_of_missing {line : Bytes} (h : sizeText line = []) : chunkSize line = .ok 0 :=
  chunkSize_of_text (if_pos (by rw [h]; rfl))

theorem chunkSize_of_ne_nil {line : Bytes} (h : sizeText line ≠ []) :
    chunkSize line = match hexNumber? (sizeText line) with
      | some (.ofNat n) => .ok n
      | _ => .error (.malformedChunkSize (sizeText line)) :=
  chunkSize_of_text (if_neg (by simpa using h))

/-- The size that is read is the one that is stated. -/
theorem chunkSize_eq_ok_iff {line : Bytes} {n : Nat} :
    chunkSize line = .ok n ↔ States line n := by
  constructor
  · intro h
    by_cases hmissing : sizeText line = []
    · obtain rfl := Except.ok.inj ((chunkSize_of_missing hmissing).symm.trans h)
      exact .missing hmissing
    · rw [chunkSize_of_ne_nil hmissing] at h
      split at h
      · next n' hn =>
        obtain rfl := Except.ok.inj h
        exact .number (hexNumber?_eq_some_iff.1 hn)
      · cases h
  · rintro (hmissing | hnumber)
    · exact chunkSize_of_missing hmissing
    · have hne : sizeText line ≠ [] := by simpa [octetChars] using hnumber.ne_nil
      rw [chunkSize_of_ne_nil hne, hexNumber?_eq_some_iff.2 hnumber]

theorem chunkSize_of_not_states {line : Bytes} (h : ∀ n, ¬ States line n) :
    ∃ text, chunkSize line = .error (.malformedChunkSize text) := by
  have hne : sizeText line ≠ [] := fun hmissing => h 0 (.missing hmissing)
  refine ⟨sizeText line, ?_⟩
  rw [chunkSize_of_ne_nil hne]
  split
  · next n hn => exact absurd (.number (hexNumber?_eq_some_iff.1 hn)) (h n)
  · rfl

/-! ## Chunks -/

/-- Chunks at the start of the octets, what they hold, and the octets after them. Each has a size in
hexadecimal digits, as many octets, and a line end. -/
inductive WholeChunks : Bytes → Bytes → Bytes → Prop
  | nil (bs : Bytes) : WholeChunks bs [] bs
  | cons {bs line data ending next content more : Bytes} :
      FirstLine bs line (data ++ (ending ++ next)) → IsHex (sizeText line) data.length →
      data ≠ [] → data.length < lengthLimit → IsEmptyLine ending →
      WholeChunks next content more → WholeChunks bs (data ++ content) more

/-- Chunks at the start of the octets as they are taken, what they hold, and the octets after them.
It may be that fewer octets come than the size states; of the line after them nothing is looked
at. -/
inductive TakenChunks : Bytes → Bytes → Bytes → Prop
  | nil (bs : Bytes) : TakenChunks bs [] bs
  | cons {bs line rest content more : Bytes} {n : Nat} :
      FirstLine bs line rest → States line n → n ≠ 0 → n < lengthLimit →
      TakenChunks (splitLine (rest.drop n)).2 content more →
      TakenChunks bs (rest.take n ++ content) more

/-- Trailers at the start of the octets, and the octets after them: they end with an empty line or
with the octets. -/
inductive Trailers : Bytes → Bytes → Prop
  | ended : Trailers [] []
  | emptyLine {bs line rest : Bytes} :
      FirstLine bs line rest → IsEmptyLine line → Trailers bs rest
  | cons {bs line next rest : Bytes} :
      FirstLine bs line next → ¬ IsEmptyLine line → Trailers next rest → Trailers bs rest

/-- The end of chunks, and the octets after it: the end of the octets, or a last chunk, whose size
is zero or missing, and trailers. -/
inductive ChunksEnd : Bytes → Bytes → Prop
  | ended : ChunksEnd [] []
  | last {bs line next rest : Bytes} :
      FirstLine bs line next → sizeText line = [] ∨ IsHex (sizeText line) 0 → Trailers next rest →
      ChunksEnd bs rest

/-- A last chunk at the start of the octets, with its trailers, and the octets after it. -/
inductive LastChunk : Bytes → Bytes → Prop
  | mk {bs line next rest : Bytes} :
      FirstLine bs line next → States line 0 → Trailers next rest → LastChunk bs rest

/-- What is taken for the end of chunks, and the octets after it. -/
inductive TakenEnd : Bytes → Bytes → Prop
  | ended : TakenEnd [] []
  | last {bs rest : Bytes} : LastChunk bs rest → TakenEnd bs rest

/-- A line that should state the size of a chunk, and states none. -/
def BadSize (bs : Bytes) : Prop :=
  ∃ line rest, FirstLine bs line rest ∧ ∀ n, ¬ States line n

/-- A line that states a size larger than what can be read at once. -/
def OversizedSize (bs : Bytes) : Prop :=
  ∃ line rest n, FirstLine bs line rest ∧ States line n ∧ lengthLimit ≤ n

/-- A chunk has a size that is larger than what can be read at once. -/
def OversizedChunk (bs : Bytes) : Prop :=
  ∃ content more, TakenChunks bs content more ∧ OversizedSize more

section Taken

variable {bs content more rest : Bytes}

theorem WholeChunks.taken (h : WholeChunks bs content more) : TakenChunks bs content more := by
  induction h with
  | nil bs => exact .nil bs
  | @cons bs line data ending next content more hline hsize hdata hlimit hending _ ih =>
    have hpos : data.length ≠ 0 := by simpa using hdata
    have htake : (data ++ (ending ++ next)).take data.length = data := List.take_left
    have hnext : (splitLine ((data ++ (ending ++ next)).drop data.length)).2 = next := by
      rw [List.drop_left, (hending.firstLine next).splitLine]
    rw [← hnext] at ih
    have htaken := TakenChunks.cons hline hsize.states hpos hlimit ih
    rwa [htake] at htaken

theorem ChunksEnd.taken (h : ChunksEnd bs rest) : TakenEnd bs rest := by
  cases h with
  | ended => exact .ended
  | last hline hsize htrailers =>
    refine .last (.mk hline ?_ htrailers)
    rcases hsize with hmissing | hzero
    · exact .missing hmissing
    · exact hzero.states

theorem FirstLine.exists_of_ne_nil (h : bs ≠ []) : ∃ line rest, FirstLine bs line rest :=
  ⟨_, _, firstLine_iff.2 ⟨h, rfl⟩⟩

theorem exists_trailers (bs : Bytes) : ∃ rest, Trailers bs rest := by
  induction hn : bs.length using Nat.strong_induction_on generalizing bs with
  | _ n ih =>
    subst hn
    rcases eq_or_ne bs [] with rfl | hne
    · exact ⟨[], .ended⟩
    · obtain ⟨line, next, hline⟩ := FirstLine.exists_of_ne_nil hne
      by_cases hempty : IsEmptyLine line
      · exact ⟨next, .emptyLine hline hempty⟩
      · obtain ⟨rest, hrest⟩ := ih next.length hline.length_lt next rfl
        exact ⟨rest, .cons hline hempty hrest⟩

/-- Chunks are taken until they end, or until a size is bad or too large. -/
theorem exists_takenChunks (bs : Bytes) : ∃ content more, TakenChunks bs content more ∧
    ((∃ rest, TakenEnd more rest) ∨ BadSize more ∨ OversizedSize more) := by
  induction hn : bs.length using Nat.strong_induction_on generalizing bs with
  | _ n ih =>
    subst hn
    rcases eq_or_ne bs [] with rfl | hne
    · exact ⟨[], [], .nil [], .inl ⟨[], .ended⟩⟩
    obtain ⟨line, rest, hline⟩ := FirstLine.exists_of_ne_nil hne
    by_cases hstates : ∃ n, States line n
    · obtain ⟨n, hn⟩ := hstates
      rcases eq_or_ne n 0 with rfl | hpos
      · obtain ⟨rest', hrest⟩ := exists_trailers rest
        exact ⟨[], bs, .nil bs, .inl ⟨rest', .last (.mk hline hn hrest)⟩⟩
      rcases Nat.lt_or_ge n lengthLimit with hlimit | hlimit
      · have hlt : (splitLine (rest.drop n)).2.length < bs.length := by
          have hsuffix := (suffix_splitLine (rest.drop n)).length_le
          have hdrop : (rest.drop n).length ≤ rest.length := by simp
          have := hline.length_lt
          omega
        obtain ⟨content, more, htaken, hmore⟩ := ih _ hlt _ rfl
        exact ⟨_, more, .cons hline hn hpos hlimit htaken, hmore⟩
      · exact ⟨[], bs, .nil bs, .inr (.inr ⟨line, rest, n, hline, hn, hlimit⟩)⟩
    · exact ⟨[], bs, .nil bs, .inr (.inl ⟨line, rest, hline, not_exists.1 hstates⟩)⟩

end Taken

/-! ## Reading -/

theorem skipTrailers_of_trailers {bs rest : Bytes} (h : Trailers bs rest) {fuel : Nat}
    (hfuel : bs.length < fuel) : skipTrailers fuel bs = rest := by
  induction h generalizing fuel with
  | ended =>
    obtain ⟨fuel, rfl⟩ := Nat.exists_eq_add_one_of_ne_zero (Nat.ne_zero_of_lt hfuel)
    rfl
  | emptyLine hline hempty =>
    obtain ⟨fuel, rfl⟩ := Nat.exists_eq_add_one_of_ne_zero (Nat.ne_zero_of_lt hfuel)
    rw [skipTrailers, hline.splitLine]
    rcases hempty with rfl | rfl <;> rfl
  | cons hline hmore _ ih =>
    obtain ⟨fuel, rfl⟩ := Nat.exists_eq_add_one_of_ne_zero (Nat.ne_zero_of_lt hfuel)
    have hlt := hline.length_lt
    rw [IsEmptyLine, not_or] at hmore
    rw [skipTrailers, hline.splitLine]
    simp only [hline.ne_nil, hmore.1, hmore.2, decide_false, Bool.or_self, Bool.false_eq_true,
      if_false]
    exact ih (by omega)

/-- Chunks are read one after another, and what follows them is read as if it stood alone. -/
theorem chunks_taken {bs content more : Bytes} (h : TakenChunks bs content more) {fuel : Nat}
    (hfuel : bs.length < fuel) :
    ∃ fuel', more.length < fuel' ∧
      chunks fuel bs = (chunks fuel' more).map fun result => (content ++ result.1, result.2) := by
  induction h generalizing fuel with
  | nil bs =>
    refine ⟨fuel, hfuel, ?_⟩
    cases chunks fuel bs <;> rfl
  | @cons bs line rest content more n hline hsize hpos hlimit _ ih =>
    obtain ⟨fuel, rfl⟩ := Nat.exists_eq_add_one_of_ne_zero (Nat.ne_zero_of_lt hfuel)
    have hnext : (splitLine (rest.drop n)).2.length < fuel := by
      have hlt := hline.length_lt
      have hle := (suffix_splitLine (rest.drop n)).length_le
      rw [List.length_drop] at hle
      omega
    obtain ⟨fuel', hfuel', hmore⟩ := ih hnext
    refine ⟨fuel', hfuel', ?_⟩
    -- The size tells how far the data go; the rest of the line after them is passed over.
    simp only [chunks, hline.splitLine, hline.isEmpty_eq, Bool.false_eq_true, if_false,
      chunkSize_eq_ok_iff.2 hsize, ok_bind, hpos, takeOctets, if_pos hlimit, hmore]
    cases chunks fuel' more with
    | error e => rfl
    | ok result =>
      have hassoc := (List.append_assoc (rest.take n) content result.1).symm
      exact congrArg (fun octets => Except.ok (octets, result.2)) hassoc

section Read

variable {bs content more rest : Bytes}

theorem chunks_takenEnd (h : TakenEnd bs rest) {fuel : Nat} (hfuel : bs.length < fuel) :
    chunks fuel bs = .ok ([], rest) := by
  obtain ⟨fuel, rfl⟩ := Nat.exists_eq_add_one_of_ne_zero (Nat.ne_zero_of_lt hfuel)
  cases h with
  | ended => rfl
  | last hlast =>
    obtain ⟨hline, hzero, htrailers⟩ := hlast
    next line next =>
    simp only [chunks, hline.splitLine, hline.isEmpty_eq, Bool.false_eq_true, if_false,
      chunkSize_eq_ok_iff.2 hzero, ok_bind, if_true,
      skipTrailers_of_trailers htrailers (Nat.lt_succ_self _)]
    rfl

theorem chunks_badSize (h : BadSize bs) {fuel : Nat} (hfuel : bs.length < fuel) :
    ∃ text, chunks fuel bs = .error (.malformedChunkSize text) := by
  obtain ⟨fuel, rfl⟩ := Nat.exists_eq_add_one_of_ne_zero (Nat.ne_zero_of_lt hfuel)
  obtain ⟨line, rest, hline, hnone⟩ := h
  obtain ⟨text, htext⟩ := chunkSize_of_not_states hnone
  refine ⟨text, ?_⟩
  simp only [chunks, hline.splitLine, hline.isEmpty_eq, Bool.false_eq_true, if_false, htext]
  rfl

theorem chunks_oversizedSize (h : OversizedSize bs) {fuel : Nat} (hfuel : bs.length < fuel) :
    chunks fuel bs = .error .tooLong := by
  obtain ⟨fuel, rfl⟩ := Nat.exists_eq_add_one_of_ne_zero (Nat.ne_zero_of_lt hfuel)
  obtain ⟨line, rest, n, hline, hsize, hlarge⟩ := h
  have hpos : n ≠ 0 := by
    rintro rfl
    exact absurd hlarge (by decide)
  simp only [chunks, hline.splitLine, hline.isEmpty_eq, Bool.false_eq_true, if_false,
    chunkSize_eq_ok_iff.2 hsize, ok_bind, hpos, takeOctets, if_neg (Nat.not_lt.2 hlarge)]
  rfl

/-- What is read after chunks settles what is read as a chunked body. -/
theorem readChunked_taken (h : TakenChunks bs content more)
    {result : Except BodyError (Bytes × Bytes)}
    (hmore : ∀ fuel, more.length < fuel → chunks fuel more = result) :
    readChunked bs = result.map fun (data, rest) => (content ++ data, rest) := by
  obtain ⟨fuel, hfuel, hread⟩ := chunks_taken h (Nat.lt_succ_self _)
  rw [readChunked, hread, hmore fuel hfuel]

/-- Chunks and their end make a chunked body. -/
theorem readChunked_takenEnd (h : TakenChunks bs content more) (hend : TakenEnd more rest) :
    readChunked bs = .ok (content, rest) := by
  rw [readChunked_taken h fun _ => chunks_takenEnd hend]
  exact congrArg (fun octets => Except.ok (octets, rest)) (List.append_nil content)

theorem readChunked_lastChunk (h : WholeChunks bs content more) (hlast : LastChunk more rest) :
    readChunked bs = .ok (content, rest) :=
  readChunked_takenEnd h.taken (.last hlast)

/-- A size that is no number is an error, also after chunks. -/
theorem readChunked_badSize (h : TakenChunks bs content more) (hbad : BadSize more) :
    ∃ text, readChunked bs = .error (.malformedChunkSize text) := by
  obtain ⟨fuel, hfuel, hread⟩ := chunks_taken h (Nat.lt_succ_self _)
  obtain ⟨text, htext⟩ := chunks_badSize hbad hfuel
  exact ⟨text, by rw [readChunked, hread, htext, Except.map]⟩

theorem readChunked_oversizedSize (h : TakenChunks bs content more) (hlarge : OversizedSize more) :
    readChunked bs = .error .tooLong :=
  readChunked_taken h fun _ => chunks_oversizedSize hlarge

end Read

end ProxyTrial.Http
