import ProxyTrial.Http.HeaderSection
import ProxyTrial.Proofs.Ascii
import ProxyTrial.Proofs.Text
import Mathlib.Data.Bool.AllAny
/-!
# Header sections as they are written

A header section is written as lines of a name, a colon and a value, and an empty line. It is read
without a look at what follows the empty line: a line ends with its first line feed, and the
section with its first empty line. The fields read are those written, blanks before their values
aside.

## Main definitions

* `fieldLine f`: a field as it is written
* `WrittenField f`: a name and a value that a line can hold
* `received f`: the field as it is read

## Main results

* `splitLine_append`: a line ends with its first line feed
* `readHeaders_section`: a header section is read field by field
-/

namespace ProxyTrial.Http

/-! ## Lines of octets -/

/-- A line ends with its first line feed. -/
theorem splitLine_append {line : Bytes} (h : 10 ∉ line) (rest : Bytes) :
    splitLine (line ++ 10 :: rest) = (line ++ [10], rest) := by
  induction line with
  | nil => simp [splitLine]
  | cons b line ih =>
    rw [List.mem_cons, not_or] at h
    rw [List.cons_append, splitLine, if_neg (Ne.symm h.1), ih h.2]
    rfl

theorem append_splitLine (bs : Bytes) : (splitLine bs).1 ++ (splitLine bs).2 = bs := by
  induction bs with
  | nil => rfl
  | cons b bs ih =>
    rw [splitLine]
    split
    · rfl
    · exact congrArg (b :: ·) ih

theorem suffix_splitLine (bs : Bytes) : (splitLine bs).2 <:+ bs :=
  ⟨_, append_splitLine bs⟩

/-- A line that is not empty, with its end, which the octets do not have before. -/
def IsLine (line : Bytes) : Prop :=
  ∃ content, line = content ++ [13, 10] ∧ content ≠ [] ∧ 10 ∉ content

theorem IsLine.not_isSectionEnd {line : Bytes} (h : IsLine line) : isSectionEnd line = false := by
  obtain ⟨content, rfl, hne, -⟩ := h
  obtain ⟨b, content, rfl⟩ := List.exists_cons_of_ne_nil hne
  cases content with
  | nil => simp [isSectionEnd]
  | cons d content => simp [isSectionEnd]

theorem splitLine_append_crlf {content : Bytes} (h : 10 ∉ content) (rest : Bytes) :
    splitLine (content ++ 13 :: 10 :: rest) = (content ++ [13, 10], rest) := by
  have hcr : 10 ∉ content ++ [13] := by simpa using h
  simpa using splitLine_append hcr rest

theorem IsLine.splitLine {line : Bytes} (h : IsLine line) (rest : Bytes) :
    splitLine (line ++ rest) = (line, rest) := by
  obtain ⟨content, rfl, -, hlf⟩ := h
  rw [List.append_assoc]
  exact splitLine_append_crlf hlf rest

/-- A line at the front of a section is read off, whatever follows it. -/
theorem sectionLines_line {line : Bytes} (h : IsLine line) (hfits : line.length ≤ lineLimit)
    (allowed : Nat) (rest : Bytes) :
    sectionLines (allowed + 1) (line ++ rest) =
      (sectionLines allowed rest).map fun (lines, rest) => (line :: lines, rest) := by
  -- A line of the section is neither too long nor the empty line that ends it.
  have hlong : ¬ line.length > lineLimit := Nat.not_lt.2 hfits
  rw [sectionLines, h.splitLine]
  simp only [if_neg hlong, h.not_isSectionEnd]
  rfl

/-- The lines up to an empty one are read, and nothing after it. -/
theorem sectionLines_append {lines : List Bytes}
    (h : ∀ line ∈ lines, IsLine line ∧ line.length ≤ lineLimit) {allowed : Nat}
    (hfew : lines.length < allowed) (rest : Bytes) :
    sectionLines allowed (lines.flatten ++ 13 :: 10 :: rest) = .ok (lines ++ [[13, 10]], rest) := by
  induction lines generalizing allowed with
  | nil =>
    obtain ⟨allowed, rfl⟩ := Nat.exists_eq_add_one_of_ne_zero (Nat.ne_zero_of_lt hfew)
    have hsplit : splitLine (13 :: 10 :: rest) = ([13, 10], rest) :=
      splitLine_append_crlf List.not_mem_nil rest
    rw [List.flatten_nil, List.nil_append, sectionLines, hsplit]
    rfl
  | cons line lines ih =>
    obtain ⟨allowed, rfl⟩ := Nat.exists_eq_add_one_of_ne_zero (Nat.ne_zero_of_lt hfew)
    rw [List.forall_mem_cons] at h
    have hmore := ih h.2 (Nat.lt_of_succ_lt_succ hfew)
    rw [List.flatten_cons, List.append_assoc, sectionLines_line h.1.1 h.1.2, hmore]
    rfl

/-! ## Fields as they are written -/

/-- A field as a line: its name, a colon and its value. -/
def fieldLine (f : String × String) : String := f.1 ++ ":" ++ f.2 ++ "\r\n"

/-- A field that a line can hold: a name of printable characters other than the colon, and a value
of printable characters, spaces and tabs. -/
structure WrittenField (f : String × String) : Prop where
  name_ne_empty : f.1 ≠ ""
  name : ∀ c ∈ f.1.toList, isNameChar c
  value : ∀ c ∈ f.2.toList, c = '\t' ∨ ' ' ≤ c ∧ c ≤ '~'
  fits : (fieldLine f).length ≤ lineLimit

/-- Whether a character is a blank within a line. -/
def isLineBlank (c : Char) : Bool := c == ' ' || c == '\t'

/-- A field as it is read: the blanks before its value do not belong to it. -/
def received (f : String × String) : String × String :=
  (f.1, String.ofList (f.2.toList.dropWhile isLineBlank))

theorem toNat_lt_of_le_tilde {c : Char} (h : c ≤ '~') : c.toNat < 128 :=
  Nat.lt_of_le_of_lt (UInt32.le_iff_toNat_le.1 h) (by decide)

theorem isNameChar_iff {c : Char} : isNameChar c ↔ ('!' ≤ c ∧ c ≤ '~') ∧ c ≠ ':' := by
  simp [isNameChar]

namespace WrittenField

variable {f : String × String}

theorem isAscii_name (h : WrittenField f) : Text.IsAscii f.1 :=
  fun c hc => toNat_lt_of_le_tilde (isNameChar_iff.1 (h.name c hc)).1.2

theorem isAscii_value (h : WrittenField f) : Text.IsAscii f.2 := by
  intro c hc
  rcases h.value c hc with rfl | ⟨-, hle⟩
  · decide
  · exact toNat_lt_of_le_tilde hle

theorem isAscii_fieldLine (h : WrittenField f) : Text.IsAscii (fieldLine f) := by
  simp only [fieldLine, Text.isAscii_append]
  exact ⟨⟨⟨h.isAscii_name, by decide⟩, h.isAscii_value⟩, by decide⟩

/-- No character of the name is below the exclamation mark. -/
theorem notMem_name (h : WrittenField f) {c : Char} (hc : c < '!') : c ∉ f.1.toList :=
  fun hm => absurd (isNameChar_iff.1 (h.name c hm)).1.1 (Char.not_le.2 hc)

theorem colon_notMem_name (h : WrittenField f) : ':' ∉ f.1.toList :=
  fun hm => (isNameChar_iff.1 (h.name _ hm)).2 rfl

/-- The line end of a field does not occur in its value. -/
theorem not_isLineEnd_value (h : WrittenField f) : ∀ c ∈ f.2.toList, isLineEnd c = false := by
  intro c hc
  by_contra hl
  simp only [isLineEnd, Bool.not_eq_false, Bool.or_eq_true, beq_iff_eq] at hl
  rcases hl with rfl | rfl
  · exact absurd (h.value _ hc) (by decide)
  · exact absurd (h.value _ hc) (by decide)

theorem toList_fieldLine (f : String × String) :
    (fieldLine f).toList = f.1.toList ++ ':' :: (f.2.toList ++ ['\r', '\n']) := by
  simp [fieldLine]

theorem isLine (h : WrittenField f) : IsLine (Text.ascii (fieldLine f)) := by
  refine ⟨Text.ascii (f.1 ++ ":" ++ f.2), ?_, by simp [Text.ascii], ?_⟩
  · rw [fieldLine, Text.ascii_append]
    rfl
  · apply Text.lineFeed_notMem_ascii
    · simp only [Text.isAscii_append]
      exact ⟨⟨h.isAscii_name, by decide⟩, h.isAscii_value⟩
    · simp only [String.toList_append, List.mem_append, not_or]
      refine ⟨⟨h.notMem_name (by decide), by decide⟩, fun hc => ?_⟩
      exact absurd (h.not_isLineEnd_value _ hc) (by decide)

theorem length_fieldLine_le (h : WrittenField f) :
    (Text.ascii (fieldLine f)).length ≤ lineLimit := by
  rw [Text.ascii, List.length_map, String.length_toList]
  exact h.fits

end WrittenField

/-! ## Fields as they are read -/

theorem textLines_append {line : List Char} (h : ∀ c ∈ line, isLineEnd c = false)
    (rest : List Char) :
    textLines (line ++ '\r' :: '\n' :: rest) = (line ++ ['\r', '\n']) :: textLines rest := by
  induction line with
  | nil => simp [textLines]
  | cons c line ih =>
    rw [List.forall_mem_cons] at h
    rw [List.cons_append, textLines.eq_def]
    -- The first three forms of a line need a line end at its front, which `h` excludes.
    split
    · next he => cases he
    · next he =>
      obtain ⟨rfl, -⟩ := List.cons.inj he
      exact absurd h.1 (by decide)
    · next he =>
      obtain ⟨rfl, -⟩ := List.cons.inj he
      exact absurd h.1 (by decide)
    · next he =>
      obtain ⟨rfl, -⟩ := List.cons.inj he
      exact absurd h.1 (by decide)
    · next he =>
      obtain ⟨rfl, rfl⟩ := List.cons.inj he
      rw [if_neg (by simp), ih h.2]
      rfl

namespace WrittenField

variable {f : String × String}

theorem textLines_fieldLine (h : WrittenField f) (rest : List Char) :
    textLines ((fieldLine f).toList ++ rest) = (fieldLine f).toList :: textLines rest := by
  -- No character of the field ends a line; thus its line ends with the two that do.
  have hends : ∀ c ∈ f.1.toList ++ ':' :: f.2.toList, isLineEnd c = false := by
    simp only [List.forall_mem_append, List.forall_mem_cons]
    refine ⟨fun c hc => ?_, by decide, h.not_isLineEnd_value⟩
    by_contra hl
    simp only [isLineEnd, Bool.not_eq_false, Bool.or_eq_true, beq_iff_eq] at hl
    rcases hl with rfl | rfl
    · exact h.notMem_name (by decide) hc
    · exact h.notMem_name (by decide) hc
  simpa [toList_fieldLine] using textLines_append hends rest

theorem isHeaderLine_fieldLine (h : WrittenField f) : isHeaderLine (fieldLine f).toList := by
  rw [isHeaderLine, toList_fieldLine, List.dropWhile_append_of_pos h.name,
    List.dropWhile_cons_of_neg (by decide)]
  simp

theorem isContinuation_fieldLine (h : WrittenField f) :
    isContinuation (fieldLine f).toList = false := by
  have hne : f.1.toList ≠ [] := by simpa using h.name_ne_empty
  obtain ⟨c, cs, hcs⟩ := List.exists_cons_of_ne_nil hne
  have hc : c ∈ f.1.toList := hcs ▸ List.mem_cons_self
  rw [toList_fieldLine, hcs, List.cons_append, isContinuation, Bool.or_eq_false_iff]
  constructor
  · rw [beq_eq_false_iff_ne]
    rintro rfl
    exact h.notMem_name (by decide) hc
  · rw [beq_eq_false_iff_ne]
    rintro rfl
    exact h.notMem_name (by decide) hc

/-- A name has no space, so that no field begins a mailbox entry. -/
theorem isEnvelope_fieldLine (h : WrittenField f) : isEnvelope (fieldLine f).toList = false := by
  by_contra hp
  rw [Bool.not_eq_false, isEnvelope, List.isPrefixOf_iff_prefix] at hp
  obtain ⟨rest, hr⟩ := hp
  rw [toList_fieldLine, List.append_eq_append_iff] at hr
  -- Either the name goes beyond the five characters of the prefix, or the prefix beyond the name.
  rcases hr with ⟨as, hn, -⟩ | ⟨bs, hf, hc⟩
  · exact h.notMem_name (c := ' ') (by decide) (by simp [hn])
  · cases bs with
    | nil =>
      rw [List.append_nil] at hf
      exact h.notMem_name (c := ' ') (by decide) (by simp [← hf])
    | cons b bs =>
      obtain ⟨rfl, -⟩ := List.cons.inj hc
      have hm : ':' ∈ "From ".toList := by simp [hf]
      simp at hm

/-- A field is read from its line alone. -/
theorem fieldOfLine_fieldLine (h : WrittenField f) :
    fieldOfLine (fieldLine f).toList [] = some (received f) := by
  have hne : f.1.toList ≠ [] := by simpa using h.name_ne_empty
  have hcut : Text.cutAt ':' (fieldLine f).toList =
      (f.1.toList, some (f.2.toList ++ ['\r', '\n'])) := by
    rw [toList_fieldLine]
    exact Text.cutAt_append h.colon_notMem_name _
  -- Blanks before the value go, even if nothing is left of the value then.
  have hdrop : (f.2.toList ++ ['\r', '\n']).dropWhile (fun c => c == ' ' || c == '\t') =
      f.2.toList.dropWhile isLineBlank ++ ['\r', '\n'] := by
    rw [List.dropWhile_append]
    split
    · next he =>
      rw [show f.2.toList.dropWhile isLineBlank = [] from List.isEmpty_iff.1 he]
      rfl
    · rfl
  have htrim : Text.trimEndBy isLineEnd (f.2.toList.dropWhile isLineBlank ++ ['\r', '\n']) =
      f.2.toList.dropWhile isLineBlank :=
    Text.trimEndBy_append
      (fun c hc => h.not_isLineEnd_value c ((List.dropWhile_sublist _).subset hc))
      (List.all_iff_forall_prop.1 (by decide))
  rw [fieldOfLine, h.isEnvelope_fieldLine, if_neg Bool.false_ne_true, hcut]
  obtain ⟨c, cs, hcs⟩ := List.exists_cons_of_ne_nil hne
  simp only [hcs, Option.getD_some, List.flatten_nil, List.append_nil, hdrop, htrim]
  rw [received, ← hcs, String.ofList_toList]

end WrittenField

/-- The octets of fields in a header section, and of the empty line after them. -/
def sectionOctets (fs : List (String × String)) : Bytes :=
  (fs.map fun f => Text.ascii (fieldLine f)).flatten ++ [13, 10]

variable {fs : List (String × String)}

theorem fieldsOfLines_fieldLines (h : ∀ f ∈ fs, WrittenField f) :
    fieldsOfLines (fs.map fun f => (fieldLine f).toList) = fs.map received := by
  induction fs with
  | nil => rfl
  | cons f fs ih =>
    rw [List.forall_mem_cons] at h
    -- The next line begins with a name, and thus continues nothing.
    have hmore : (fs.map fun f => (fieldLine f).toList).takeWhile isContinuation = [] := by
      cases fs with
      | nil => rfl
      | cons g fs =>
        rw [List.map_cons, List.takeWhile_cons_of_neg]
        rw [(h.2 g List.mem_cons_self).isContinuation_fieldLine]
        exact Bool.false_ne_true
    rw [List.map_cons, fieldsOfLines, h.1.isContinuation_fieldLine, if_neg Bool.false_ne_true,
      hmore, h.1.fieldOfLine_fieldLine, ih h.2]
    rfl

theorem textLines_section (h : ∀ f ∈ fs, WrittenField f) :
    textLines ((fs.map fun f => (fieldLine f).toList).flatten ++ ['\r', '\n']) =
      (fs.map fun f => (fieldLine f).toList) ++ [['\r', '\n']] := by
  induction fs with
  | nil => simp [textLines]
  | cons f fs ih =>
    rw [List.forall_mem_cons] at h
    rw [List.map_cons, List.flatten_cons, List.append_assoc, h.1.textLines_fieldLine, ih h.2]
    rfl

theorem takeWhile_isHeaderLine_section (h : ∀ f ∈ fs, WrittenField f) :
    ((fs.map fun f => (fieldLine f).toList) ++ [['\r', '\n']]).takeWhile isHeaderLine =
      fs.map fun f => (fieldLine f).toList := by
  rw [List.takeWhile_append_of_pos]
  · rw [List.takeWhile_cons_of_neg (by decide), List.append_nil]
  · rw [List.forall_mem_map]
    exact fun f hf => (h f hf).isHeaderLine_fieldLine

theorem octetChars_section (h : ∀ f ∈ fs, WrittenField f) :
    octetChars (sectionOctets fs) =
      (fs.map fun f => (fieldLine f).toList).flatten ++ ['\r', '\n'] := by
  rw [sectionOctets, octetChars, List.map_append, List.map_flatten, List.map_map]
  congr 2
  exact List.map_congr_left fun f hf => Text.octetChars_ascii (h f hf).isAscii_fieldLine

/-- A header section is read field by field, whatever follows it. -/
theorem readHeaders_section (h : ∀ f ∈ fs, WrittenField f) (hfew : fs.length < sectionLimit)
    (rest : Bytes) : readHeaders (sectionOctets fs ++ rest) = .ok (fs.map received, rest) := by
  have hlines : ∀ line ∈ fs.map fun f => Text.ascii (fieldLine f),
      IsLine line ∧ line.length ≤ lineLimit := by
    rw [List.forall_mem_map]
    exact fun f hf => ⟨(h f hf).isLine, (h f hf).length_fieldLine_le⟩
  have hfewLines : (fs.map fun f => Text.ascii (fieldLine f)).length < sectionLimit := by
    rwa [List.length_map]
  -- Reading takes the lines; what is left is to take each of them for its field.
  have hread := sectionLines_append hlines hfewLines rest
  have hoctets : ((fs.map fun f => Text.ascii (fieldLine f)) ++ [[13, 10]]).flatten =
      sectionOctets fs := by
    simp [sectionOctets]
  rw [readHeaders, sectionOctets, List.append_assoc]
  rw [show ([13, 10] : Bytes) ++ rest = 13 :: 10 :: rest from rfl, hread]
  simp only [Except.map, hoctets, octetChars_section h, textLines_section h,
    takeWhile_isHeaderLine_section h, fieldsOfLines_fieldLines h]

end ProxyTrial.Http
