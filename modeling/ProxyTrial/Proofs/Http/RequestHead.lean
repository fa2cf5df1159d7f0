import ProxyTrial.Http.RequestHead
import ProxyTrial.Proofs.Basic
import ProxyTrial.Proofs.Http.HeaderSection
/-!
# Heads of requests as they are written

A request line has a method, a target and the version 1.1, with a space between them. Together with
a header section it is read as a head, whatever follows.

## Main definitions

* `Graphic s`: a word of printable ASCII
* `requestLine method target`: the first line of a request
* `writtenHead method target fs`: the head that is read

## Main results

* `ofText_requestLine`: the words of a request line
* `readHead_written`: reading a head takes the octets of the head, and no others
* `readHead_requestLine`: a head that is read begins with the line that is written
-/

namespace ProxyTrial.Http

/-- A word of printable ASCII characters. -/
structure Graphic (s : String) : Prop where
  ne_empty : s ≠ ""
  printable : ∀ c ∈ s.toList, '!' ≤ c ∧ c ≤ '~'

theorem Graphic.isAscii {s : String} (h : Graphic s) : Text.IsAscii s :=
  fun c hc => toNat_lt_of_le_tilde (h.printable c hc).2

theorem not_isBlank_of_printable {c : Char} (h : '!' ≤ c ∧ c ≤ '~') : Text.isBlank c = false := by
  have hge : 33 ≤ c.toNat := UInt32.le_iff_toNat_le.1 h.1
  have hle : c.toNat ≤ 126 := UInt32.le_iff_toNat_le.1 h.2
  simp only [Text.isBlank, Text.isWhiteSpace, Bool.or_eq_false_iff, Bool.and_eq_false_iff,
    decide_eq_false_iff_not, beq_eq_false_iff_ne]
  omega

theorem Graphic.not_isBlank {s : String} (h : Graphic s) :
    ∀ c ∈ s.toList, Text.isBlank c = false :=
  fun c hc => not_isBlank_of_printable (h.printable c hc)

/-! ## Words -/

theorem wordsBy_append {p : Char → Bool} {w : List Char} (hne : w ≠ [])
    (hw : ∀ c ∈ w, p c = false) {sep : Char} (hsep : p sep) (rest : List Char) :
    Text.wordsBy p (w ++ sep :: rest) = w :: Text.wordsBy p rest := by
  induction w with
  | nil => exact absurd rfl hne
  | cons c w ih =>
    rw [List.forall_mem_cons] at hw
    -- The reader looks at the next character to tell whether the word goes on.
    cases w with
    | nil => simp [Text.wordsBy, hw.1, hsep]
    | cons d w =>
      have hmore := ih (by simp) hw.2
      have hd := hw.2 d List.mem_cons_self
      rw [List.cons_append] at hmore
      rw [List.cons_append, List.cons_append, Text.wordsBy, if_neg (by simp [hw.1])]
      simp only [hd, hmore, Bool.false_eq_true, if_false]

theorem wordsBy_word {p : Char → Bool} {w : List Char} (hne : w ≠ [])
    (hw : ∀ c ∈ w, p c = false) : Text.wordsBy p w = [w] := by
  induction w with
  | nil => exact absurd rfl hne
  | cons c w ih =>
    rw [List.forall_mem_cons] at hw
    cases w with
    | nil => simp [Text.wordsBy, hw.1]
    | cons d w =>
      have hd := hw.2 d List.mem_cons_self
      rw [Text.wordsBy, if_neg (by simp [hw.1])]
      simp only [hd, ih (by simp) hw.2, Bool.false_eq_true, if_false]

/-! ## Request lines -/

/-- A request line without its end. -/
def requestText (method target : String) : String := method ++ " " ++ target ++ " HTTP/1.1"

/-- The first line of a request. -/
def requestLine (method target : String) : String := requestText method target ++ "\r\n"

variable {method target : String}

theorem wordsBy_requestText (hm : Graphic method) (ht : Graphic target) :
    (Text.wordsBy Text.isBlank (requestText method target).toList).map String.ofList =
      [method, target, "HTTP/1.1"] := by
  have hm' : method.toList ≠ [] := by simpa using hm.ne_empty
  have ht' : target.toList ≠ [] := by simpa using ht.ne_empty
  have htext : (requestText method target).toList =
      method.toList ++ ' ' :: (target.toList ++ ' ' :: "HTTP/1.1".toList) := by
    simp [requestText]
  have hversion : ∀ c ∈ "HTTP/1.1".toList, Text.isBlank c = false :=
    List.all_iff_forall_prop.1 (by decide)
  rw [htext, wordsBy_append hm' hm.not_isBlank (by decide),
    wordsBy_append ht' ht.not_isBlank (by decide), wordsBy_word (by simp) hversion]
  simp only [List.map_cons, List.map_nil, String.ofList_toList]

theorem readVersion_requestText :
    readVersion [method, target, "HTTP/1.1"] = .ok ("HTTP/1.1", true) := by
  have hn : versionNumbers? ['1', '.', '1'] = some (1, 1) := by decide
  have hw : "HTTP/1.1".toList = 'H' :: 'T' :: 'T' :: 'P' :: '/' :: ['1', '.', '1'] := by simp
  simp only [readVersion, List.getLast?_cons_cons, List.getLast?_singleton, hw, hn]
  rfl

/-- The words of a request line are its method, its target and its version. -/
theorem ofText_requestText (hm : Graphic method) (ht : Graphic target) :
    RequestLine.ofText (requestText method target) =
      .ok (some ⟨method, collapseSlashes target, "HTTP/1.1", true⟩) := by
  simp only [RequestLine.ofText, wordsBy_requestText hm ht, readVersion_requestText]
  rfl

/-- The head that is read of a request with these fields. -/
def writtenHead (method target : String) (fs : List (String × String)) : Head :=
  RequestLine.head ⟨method, collapseSlashes target, "HTTP/1.1", true⟩ (fs.map received)

/-- The octets of a head. -/
def headOctets (method target : String) (fs : List (String × String)) : Bytes :=
  Text.ascii (requestLine method target) ++ sectionOctets fs

theorem isAscii_requestText (hm : Graphic method) (ht : Graphic target) :
    Text.IsAscii (requestText method target) := by
  simp only [requestText, Text.isAscii_append]
  exact ⟨⟨⟨hm.isAscii, by decide⟩, ht.isAscii⟩, by decide⟩

theorem Graphic.not_isLineEnd {s : String} (h : Graphic s) :
    ∀ c ∈ s.toList, isLineEnd c = false := by
  intro c hc
  have hge := (h.printable c hc).1
  rw [isLineEnd, Bool.or_eq_false_iff, beq_eq_false_iff_ne, beq_eq_false_iff_ne]
  constructor
  · rintro rfl
    exact absurd hge (by decide)
  · rintro rfl
    exact absurd hge (by decide)

theorem not_isLineEnd_requestText (hm : Graphic method) (ht : Graphic target) :
    ∀ c ∈ (requestText method target).toList, isLineEnd c = false := by
  have hspace : ∀ c ∈ " ".toList, isLineEnd c = false := List.all_iff_forall_prop.1 (by decide)
  have hversion : ∀ c ∈ " HTTP/1.1".toList, isLineEnd c = false :=
    List.all_iff_forall_prop.1 (by decide)
  simp only [requestText, String.toList_append, List.forall_mem_append]
  exact ⟨⟨⟨hm.not_isLineEnd, hspace⟩, ht.not_isLineEnd⟩, hversion⟩

theorem splitLine_requestLine (hm : Graphic method) (ht : Graphic target) (rest : Bytes) :
    splitLine (Text.ascii (requestLine method target) ++ rest) =
      (Text.ascii (requestLine method target), rest) := by
  -- The line ends with its first line feed, since its words have none.
  have hn : 10 ∉ Text.ascii (requestText method target ++ "\r") := by
    apply Text.lineFeed_notMem_ascii
    · rw [Text.isAscii_append]
      exact ⟨isAscii_requestText hm ht, by decide⟩
    · rw [String.toList_append, List.mem_append, not_or]
      exact ⟨fun hc => absurd (not_isLineEnd_requestText hm ht _ hc) (by decide), by decide⟩
  have hsplit := splitLine_append hn rest
  have hend : Text.ascii (requestText method target ++ "\r") ++ [10] =
      Text.ascii (requestLine method target) := by
    simp [requestLine, Text.ascii]
  rw [← hend, List.append_assoc]
  exact hsplit

theorem trimEndBy_requestLine (hm : Graphic method) (ht : Graphic target) :
    Text.trimEndBy isLineEnd (octetChars (Text.ascii (requestLine method target))) =
      (requestText method target).toList := by
  have hascii : Text.IsAscii (requestLine method target) := by
    rw [requestLine, Text.isAscii_append]
    exact ⟨isAscii_requestText hm ht, by decide⟩
  rw [Text.octetChars_ascii hascii, requestLine, String.toList_append]
  exact Text.trimEndBy_append (not_isLineEnd_requestText hm ht) (by simp [isLineEnd])

/-- Reading a head takes the octets of the head, and no others. -/
theorem readHead_written {fs : List (String × String)} (hm : Graphic method) (ht : Graphic target)
    (hline : (requestLine method target).length ≤ lineLimit) (h : ∀ f ∈ fs, WrittenField f)
    (hfew : fs.length < sectionLimit) (rest : Bytes) :
    readHead (headOctets method target fs ++ rest) =
      .ok (some (writtenHead method target fs, rest)) := by
  have hfits : ¬ (Text.ascii (requestLine method target)).length > lineLimit := by
    rw [Text.ascii, List.length_map, String.length_toList]
    exact Nat.not_lt.2 hline
  rw [headOctets, List.append_assoc, readHead, splitLine_requestLine hm ht]
  simp only [if_neg hfits, trimEndBy_requestLine hm ht, String.ofList_toList,
    ofText_requestText hm ht, readHeaders_section h hfew]
  rfl

/-- A head begins with the line that is written, whatever follows the line. -/
theorem readHead_requestLine {rest rest' : Bytes} {h : Head} (hm : Graphic method)
    (ht : Graphic target)
    (hread : readHead (Text.ascii (requestLine method target) ++ rest) = .ok (some (h, rest'))) :
    h.method = method ∧ h.bare = false := by
  rw [readHead, splitLine_requestLine hm ht] at hread
  simp only [trimEndBy_requestLine hm ht, String.ofList_toList, ofText_requestText hm ht] at hread
  split at hread
  · cases hread
  · -- The line has been read; the section after it is read or rejected.
    cases hheaders : readHeaders rest with
    | error e =>
      rw [ok_bind, hheaders] at hread
      cases hread
    | ok read =>
      rw [ok_bind, hheaders] at hread
      obtain ⟨rfl, -⟩ := Prod.mk.inj (Option.some.inj (Except.ok.inj hread))
      exact ⟨rfl, rfl⟩

end ProxyTrial.Http
