import ProxyTrial.Origin.Conversation
import ProxyTrial.Proofs.Http.Body
import ProxyTrial.Proofs.Http.Url
/-!
# What the snapshot of a request is built from

The body of a request is read by the framing that its fields declare. A framing that is recognized
gives a snapshot with exactly the octets framed. A length or a size that is no number gives an
evaluation error, which is answered with a refusal, and one that is too large an error of another
kind. All else gives a snapshot, too: fewer octets than are declared are taken as they are, and so
are chunks with sizes in unusual spellings, without line ends or without an end.

## Main definitions

* `Recognized hs input content rest`: the framings that are recognized
* `Taken hs input content rest`: all that is taken for a framing
* `Misframed hs input`: a length or a size is no number
* `Oversized hs input`: a length or a size is larger than what can be read at once

## Main results

* `Request.snapshot_framing`: what a snapshot is built from, and when there is an error instead
-/

namespace ProxyTrial

namespace Http

variable {hs : Headers} {input : Bytes}

/-! ## Framings -/

/-- The framings that are recognized: the octets, what they hold, and what follows them. -/
inductive Recognized (hs : Headers) : Bytes → Bytes → Bytes → Prop
  | empty {input : Bytes} :
      ¬ NamesChunked hs → lengthText hs = "" → Recognized hs input [] input
  | sized {content rest : Bytes} :
      ¬ NamesChunked hs → IsDecimal (lengthText hs) content.length →
      content.length < lengthLimit → Recognized hs (content ++ rest) content rest
  | chunked {input content more rest : Bytes} :
      NamesChunked hs → WholeChunks input content more → ChunksEnd more rest →
      Recognized hs input content rest

/-- What is taken for the body of a request: the octets, what they hold, and what follows them. -/
inductive Taken (hs : Headers) : Bytes → Bytes → Bytes → Prop
  | empty {input : Bytes} : ¬ NamesChunked hs → lengthText hs = "" → Taken hs input [] input
  | sized {input : Bytes} {n : Nat} :
      ¬ NamesChunked hs → IsDecimal (lengthText hs) n → n < lengthLimit →
      Taken hs input (input.take n) (input.drop n)
  | chunked {input content more rest : Bytes} :
      NamesChunked hs → TakenChunks input content more → TakenEnd more rest →
      Taken hs input content rest

/-- The declared length is no number, or the size of a chunk is none. -/
inductive Misframed (hs : Headers) : Bytes → Prop
  | length {input : Bytes} :
      ¬ NamesChunked hs → lengthText hs ≠ "" → ¬ (∀ c ∈ (lengthText hs).toList, c.isDigit) →
      Misframed hs input
  | size {input content more : Bytes} :
      NamesChunked hs → TakenChunks input content more → BadSize more → Misframed hs input

/-- The declared length, or the size of a chunk, is larger than what can be read at once, or has too
many digits to be read at all. -/
inductive Oversized (hs : Headers) : Bytes → Prop
  | length {input : Bytes} :
      ¬ NamesChunked hs → (∀ c ∈ (lengthText hs).toList, c.isDigit) →
      Text.digitLimit < (lengthText hs).length ∨
        (∃ n, IsDecimal (lengthText hs) n ∧ lengthLimit ≤ n) → Oversized hs input
  | size {input : Bytes} : NamesChunked hs → OversizedChunk input → Oversized hs input

/-- Octets are taken for a body, or they are misframed, or a number is too large. -/
theorem framing_cases (hs : Headers) (input : Bytes) :
    (∃ content rest, Taken hs input content rest) ∨ Misframed hs input ∨ Oversized hs input := by
  by_cases hc : NamesChunked hs
  · obtain ⟨content, more, htaken, ⟨rest, hend⟩ | hbad | hlarge⟩ := exists_takenChunks input
    · exact .inl ⟨content, rest, .chunked hc htaken hend⟩
    · exact .inr (.inl (.size hc htaken hbad))
    · exact .inr (.inr (.size hc ⟨content, more, htaken, hlarge⟩))
  by_cases hempty : lengthText hs = ""
  · exact .inl ⟨[], input, .empty hc hempty⟩
  by_cases hdigits : ∀ c ∈ (lengthText hs).toList, c.isDigit
  · rcases Nat.lt_or_ge Text.digitLimit (lengthText hs).length with hlong | hfits
    · exact .inr (.inr (.length hc hdigits (.inl hlong)))
    have hdecimal : IsDecimal (lengthText hs) _ := ⟨hempty, hdigits, hfits, rfl⟩
    rcases Nat.lt_or_ge _ lengthLimit with hlimit | hlarge
    · exact .inl ⟨_, _, .sized hc hdecimal hlimit⟩
    · exact .inr (.inr (.length hc hdigits (.inr ⟨_, hdecimal, hlarge⟩)))
  · exact .inr (.inl (.length hc hempty hdigits))

theorem Recognized.taken {content rest : Bytes} (h : Recognized hs input content rest) :
    Taken hs input content rest := by
  cases h with
  | empty hn hempty => exact .empty hn hempty
  | sized hn hdecimal hlimit =>
    have htaken : Taken hs (content ++ rest) _ _ := .sized hn hdecimal hlimit
    rwa [List.take_left, List.drop_left] at htaken
  | chunked hc hchunks hend => exact .chunked hc hchunks.taken hend.taken

/-! ## Bodies -/

section Body

variable (h : AsciiFields hs)
include h

theorem readBody_of_notChunked (hn : ¬ NamesChunked hs) :
    readBody (octetFields hs) input =
      (contentLength (octetFields hs)).bind fun n => takeOctets n input := by
  rw [readBody, if_neg ((isChunked_octetFields h).not.2 hn)]
  rfl

theorem readBody_of_chunked (hc : NamesChunked hs) :
    readBody (octetFields hs) input = readChunked input := by
  rw [readBody, if_pos ((isChunked_octetFields h).2 hc)]

/-- What is taken for a body is read. -/
theorem readBody_taken {content rest : Bytes} (ht : Taken hs input content rest) :
    readBody (octetFields hs) input = .ok (content, rest) := by
  cases ht with
  | empty hn hempty =>
    rw [readBody_of_notChunked h hn, contentLength_of_empty h hempty]
    rfl
  | sized hn hdecimal hlimit =>
    rw [readBody_of_notChunked h hn, contentLength_of_isDecimal h hdecimal]
    exact if_pos hlimit
  | chunked hc hchunks hend => rw [readBody_of_chunked h hc, readChunked_takenEnd hchunks hend]

/-- What is misframed is refused. -/
theorem readBody_misframed (hm : Misframed hs input) :
    (∃ value, readBody (octetFields hs) input = .error (.malformedLength value)) ∨
      ∃ text, readBody (octetFields hs) input = .error (.malformedChunkSize text) := by
  cases hm with
  | length hn hne hdigits =>
    rw [readBody_of_notChunked h hn, contentLength_of_malformed h hne hdigits]
    exact .inl ⟨_, rfl⟩
  | size hc hchunks hbad =>
    rw [readBody_of_chunked h hc]
    exact .inr (readChunked_badSize hchunks hbad)

/-- Over what is too large there is an error that is no refusal. -/
theorem readBody_oversized (ho : Oversized hs input) :
    readBody (octetFields hs) input = .error .tooLong ∨
      ∃ digits, readBody (octetFields hs) input = .error (.longNumber digits) := by
  cases ho with
  | length hn hdigits hlarge =>
    rw [readBody_of_notChunked h hn]
    rcases hlarge with hlong | ⟨n, hdecimal, hlarge⟩
    · rw [contentLength_of_long h hdigits hlong]
      exact .inr ⟨_, rfl⟩
    · rw [contentLength_of_isDecimal h hdecimal]
      exact .inl (if_neg (Nat.not_lt.2 hlarge))
  | size hc hlarge =>
    obtain ⟨content, more, htaken, hlarge⟩ := hlarge
    rw [readBody_of_chunked h hc]
    exact .inl (readChunked_oversizedSize htaken hlarge)

end Body

end Http

namespace Request

open Http (AsciiFields NamesChunked Recognized Taken Misframed Oversized SingleSlash WholeChunks
  octetFields)

variable {hs : Headers} {target : String}

/-- A request whose fields and target are in order is as its body is. -/
theorem read_eq (h : AsciiFields hs) {path : String} (hpath : Http.targetPath target = .ok path)
    (method : String) (input : Bytes) :
    read method target hs input =
      ((Http.readBody (octetFields hs) input).mapError RequestError.body).map fun result =>
        ({ method, path, fields := octetFields hs, body := Text.ofUtf8Lenient result.1 },
          result.2) := by
  have hfields : (Http.Fields.ofText hs).mapError RequestError.field = .ok (octetFields hs) := by
    rw [Http.ofText_ascii h]
    rfl
  rw [read, hfields, ok_bind, hpath]
  cases Http.readBody (octetFields hs) input with
  | error e => rfl
  | ok result => rfl

theorem of_read_eq_ok (h : AsciiFields hs) {path : String}
    (hpath : Http.targetPath target = .ok path) {method : String} {input rest : Bytes} {r : Request}
    (hread : read method target hs input = .ok (r, rest)) :
    r.path = path ∧ r.fields = octetFields hs := by
  rw [read_eq h hpath] at hread
  cases hbody : Http.readBody (octetFields hs) input with
  | error e =>
    rw [hbody] at hread
    cases hread
  | ok result =>
    rw [hbody] at hread
    cases hread
    exact ⟨rfl, rfl⟩

section Outcomes

variable (h : AsciiFields hs) {path : String} (hpath : Http.targetPath target = .ok path)
  (method : String) {input : Bytes}
include h hpath

theorem read_taken {content rest : Bytes} (ht : Taken hs input content rest) :
    read method target hs input =
      .ok (⟨method, path, octetFields hs, Text.ofUtf8Lenient content⟩, rest) := by
  rw [read_eq h hpath, Http.readBody_taken h ht]
  rfl

theorem read_misframed (hm : Misframed hs input) : ∃ e message,
    read method target hs input = .error e ∧ Origin.malformedBody? e = some message := by
  rw [read_eq h hpath]
  rcases Http.readBody_misframed h hm with ⟨value, hbody⟩ | ⟨text, hbody⟩
  · exact ⟨_, _, by rw [hbody]; rfl, rfl⟩
  · exact ⟨_, _, by rw [hbody]; rfl, rfl⟩

theorem read_oversized (ho : Oversized hs input) : ∃ e,
    read method target hs input = .error e ∧ Origin.malformedBody? e = none := by
  rw [read_eq h hpath]
  rcases Http.readBody_oversized h ho with hbody | ⟨digits, hbody⟩
  · exact ⟨_, by rw [hbody]; rfl, rfl⟩
  · exact ⟨_, by rw [hbody]; rfl, rfl⟩

/-- An error over such a request is a refusal, unless a length is too large. -/
theorem refused_of_read_error {e : RequestError} (he : read method target hs input = .error e) :
    (∃ message, Origin.malformedBody? e = some message) ∨ Oversized hs input := by
  rcases Http.framing_cases hs input with ⟨content, rest, ht⟩ | hm | ho
  · exact nomatch (read_taken h hpath method ht).symm.trans he
  · obtain ⟨e', message, he', hmessage⟩ := read_misframed h hpath method hm
    obtain rfl := Except.error.inj (he.symm.trans he')
    exact .inl ⟨message, hmessage⟩
  · exact .inr ho

end Outcomes

/-- A framing that is recognized gives a snapshot of exactly what it frames. There is a snapshot if
and only if the octets are taken for a body, an evaluation error if and only if they are misframed,
and any other error if and only if a number is too large. -/
theorem snapshot_framing (h : AsciiFields hs) (ht : SingleSlash target) (method : String)
    (input : Bytes) :
    (∀ content rest, Recognized hs input content rest → ∃ path,
      read method target hs input = .ok (⟨method, path, octetFields hs,
        Text.ofUtf8Lenient content⟩, rest)) ∧
    (∀ r rest, read method target hs input = .ok (r, rest) ↔ ∃ path content,
      Http.targetPath target = .ok path ∧ Taken hs input content rest ∧
        r = ⟨method, path, octetFields hs, Text.ofUtf8Lenient content⟩) ∧
    ((∃ e message, read method target hs input = .error e ∧
      Origin.malformedBody? e = some message) ↔ Misframed hs input) ∧
    ((∃ e, read method target hs input = .error e ∧ Origin.malformedBody? e = none) ↔
      Oversized hs input) := by
  obtain ⟨path, hpath⟩ : ∃ path, Http.targetPath target = .ok path :=
    ⟨_, Http.targetPath_of_singleSlash ht⟩
  -- What the octets are settles the outcome, and they are one of three.
  have hcases := Http.framing_cases hs input
  refine ⟨fun content rest hr => ⟨path, read_taken h hpath method hr.taken⟩,
    fun r rest => ?_, ?_, ?_⟩
  · constructor
    · intro hok
      rcases hcases with ⟨content, rest', htaken⟩ | hm | ho
      · rw [read_taken h hpath method htaken] at hok
        obtain ⟨rfl, rfl⟩ := Prod.mk.inj (Except.ok.inj hok)
        exact ⟨path, content, hpath, htaken, rfl⟩
      · obtain ⟨e, message, he, -⟩ := read_misframed h hpath method hm
        exact nomatch he.symm.trans hok
      · obtain ⟨e, he, -⟩ := read_oversized h hpath method ho
        exact nomatch he.symm.trans hok
    · rintro ⟨path, content, hpath, htaken, rfl⟩
      exact read_taken h hpath method htaken
  · refine ⟨?_, read_misframed h hpath method⟩
    rintro ⟨e, message, he, hmessage⟩
    rcases hcases with ⟨content, rest, htaken⟩ | hm | ho
    · exact nomatch (read_taken h hpath method htaken).symm.trans he
    · exact hm
    · obtain ⟨e', he', hnone⟩ := read_oversized h hpath method ho
      obtain rfl := Except.error.inj (he.symm.trans he')
      exact nomatch hnone.symm.trans hmessage
  · refine ⟨?_, read_oversized h hpath method⟩
    rintro ⟨e, he, hnone⟩
    rcases refused_of_read_error h hpath method he with ⟨message, hmessage⟩ | ho
    · exact nomatch hnone.symm.trans hmessage
    · exact ho

/-- One chunk, and a last one without trailers. -/
theorem snapshot_framing_one_chunk :
    ∃ path, read "PUT" "/c" [("Transfer-Encoding", "chunked")]
        (Text.ascii "5;x=1\r\nhello\r\n0\r\n\r\n") =
      .ok (⟨"PUT", path, octetFields [("Transfer-Encoding", "chunked")],
        Text.ofUtf8Lenient (Text.ascii "hello")⟩, []) := by
  have hslash : SingleSlash "/c" := ⟨['c'], rfl, by decide⟩
  have hfirst : Http.FirstLine (Text.ascii "5;x=1\r\nhello\r\n0\r\n\r\n") (Text.ascii "5;x=1\r\n")
      (Text.ascii "hello" ++ ([13, 10] ++ Text.ascii "0\r\n\r\n")) := by decide
  have hlast : Http.FirstLine (Text.ascii "0\r\n\r\n") (Text.ascii "0\r\n") [13, 10] := by decide
  have hempty : Http.FirstLine [13, 10] [13, 10] [] := by decide
  have hfive : Http.IsHex (Http.sizeText (Text.ascii "5;x=1\r\n")) (Text.ascii "hello").length :=
    ⟨by decide, List.all_iff_forall_prop.1 (by decide), by decide⟩
  have hzero : Http.IsHex (Http.sizeText (Text.ascii "0\r\n")) 0 :=
    ⟨by decide, List.all_iff_forall_prop.1 (by decide), by decide⟩
  have hchunks : WholeChunks (Text.ascii "5;x=1\r\nhello\r\n0\r\n\r\n")
      (Text.ascii "hello" ++ []) (Text.ascii "0\r\n\r\n") :=
    .cons hfirst hfive (by decide) (by decide) (.inl rfl) (.nil _)
  rw [List.append_nil] at hchunks
  have hend : Http.ChunksEnd (Text.ascii "0\r\n\r\n") [] :=
    .last hlast (.inr hzero) (.emptyLine hempty (.inl rfl))
  have hascii : AsciiFields [("Transfer-Encoding", "chunked")] := by decide
  have hnames : NamesChunked [("Transfer-Encoding", "chunked")] := by decide +kernel
  exact (snapshot_framing hascii hslash "PUT" _).1 _ _ (.chunked hnames hchunks hend)

/-- A snapshot is built although the octets end before the chunked body does. -/
theorem unfinished_chunks_recognized :
    NamesChunked [("Transfer-Encoding", "chunked")] ∧
    (∃ r rest, read "PUT" "/" [("Transfer-Encoding", "chunked")] (Text.ascii "5\r\nhello\r\n") =
      .ok (r, rest)) ∧
    ¬ ∃ octets content, Http.ChunkedBody octets content ∧
      octets <+: Text.ascii "5\r\nhello\r\n" := by
  have hread : read "PUT" "/" [("Transfer-Encoding", "chunked")] (Text.ascii "5\r\nhello\r\n") =
      .ok (⟨"PUT", "/", octetFields [("Transfer-Encoding", "chunked")], "hello"⟩, []) := by
    decide +kernel
  refine ⟨by decide +kernel, ⟨_, _, hread⟩, ?_⟩
  rintro ⟨octets, content, hbody, hprefix⟩
  have hnone : ¬ [13, 10, 13, 10] <:+: Text.ascii "5\r\nhello\r\n" := by decide +kernel
  exact hnone (hbody.emptyLine_suffix.isInfix.trans hprefix.isInfix)

end Request

end ProxyTrial
