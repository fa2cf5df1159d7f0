import ProxyTrial.Proofs.Http.Url
import ProxyTrial.Proofs.Http.Wire
import ProxyTrial.Proofs.Origin.Query
import ProxyTrial.Proofs.Utf8
/-!
# What a client sends is what the origin reads

A client adds headers of its own to those of a call: the host, the length of the body, and what
every client says of itself. For a plain call they do not get in the way of what the call says,
neither of its headers nor of its body, so that the origin reads the call as it is written.

## Main definitions

* `sentHeaders`: all headers of a request, as text
* `PlainHeaders hs`: headers that leave the framing of the body to the client
* `asQuery`: a request as it is sent
* `PlainCall c method path`: a call with plain headers and a target that is sent as it stands
* `FitsOrigin o`: the request is within the limits of the origin

## Main results

* `PlainHeaders.fields_eq`: the fields of a request are its headers
* `encode_eq`: the octets of a request
* `readHead_encode`: the origin reads the method of any request
* `ofUrl_of_ofText`, `ofCall_plain`: what a call makes of its URL
* `call_read_as_written`: a plain call is read as it is written
-/

namespace ProxyTrial

open Http (named Distinct PlainField StatesLength octetFields)

namespace Outgoing

/-! ## Fields as text -/

/-- The fields of every client as text. -/
def standingHeaders : Headers := [
  ("Accept", "*/*"),
  ("Accept-Encoding", "gzip, deflate"),
  ("Connection", "keep-alive"),
  ("User-Agent", "python-httpx/0.28.1")]

/-- Whether there is a header with a name of small letters. -/
def hasHeader (hs : Headers) (name : String) : Bool := hs.any fun f => Text.lower f.1 == name

/-- The host, if the headers of a call do not name one. -/
def hostHeader (location : String) (own : Headers) : Headers :=
  if hasHeader own "host" then [] else [("Host", location)]

/-- The fields of every client that the headers of a call do not replace. -/
def standingBeside (own : Headers) : Headers :=
  standingHeaders.filter fun f => !hasHeader own (Text.lower f.1)

/-- The length of an empty body, if the method is expected to have one. -/
def emptyLength (method : String) (length : Nat) : Headers :=
  if length = 0 ∧ expectsBody method then [("Content-Length", "0")] else []

/-- The length of a body that is not empty. -/
def bodyLength (length : Nat) : Headers :=
  if length = 0 then [] else [("Content-Length", toString length)]

/-- The headers of a request: those that follow from the URL and the method, those of every client,
those of the call, and the length of the body. -/
def sentHeaders (location method : String) (length : Nat) (own : Headers) : Headers :=
  hostHeader location own ++ emptyLength method length ++ standingBeside own ++ own
    ++ bodyLength length

theorem has_octetFields {hs : Headers} (h : Http.AsciiFields hs) {name : String}
    (hn : Text.IsAscii name) : has (octetFields hs) name = hasHeader hs name := by
  rw [has, octetFields, List.any_map, hasHeader, Bool.eq_iff_iff, List.any_eq_true,
    List.any_eq_true]
  refine exists_congr fun f => and_congr_right fun hf => ?_
  rw [Function.comp_apply, Http.fold_ascii_beq (h f hf).1 hn]

theorem hasHeader_append (hs gs : Headers) (name : String) :
    hasHeader (hs ++ gs) name = (hasHeader hs name || hasHeader gs name) := List.any_append

theorem asciiFields_standingHeaders : Http.AsciiFields standingHeaders := by decide

theorem lower_standingHeaders :
    standingHeaders.map (fun f => Text.lower f.1) =
      ["accept", "accept-encoding", "connection", "user-agent"] := by decide +kernel

theorem standingFields_eq : standingFields = octetFields standingHeaders := rfl

theorem hasHeader_eq_false {hs : Headers} {name : String} :
    hasHeader hs name = false ↔ ∀ f ∈ hs, Text.lower f.1 ≠ name := by
  simp [hasHeader, List.any_eq_false]

theorem asciiFields_append {hs gs : Headers} :
    Http.AsciiFields (hs ++ gs) ↔ Http.AsciiFields hs ∧ Http.AsciiFields gs :=
  List.forall_mem_append

theorem asciiFields_standingBeside (own : Headers) : Http.AsciiFields (standingBeside own) :=
  fun f hf => asciiFields_standingHeaders f (List.mem_of_mem_filter hf)

theorem asciiFields_bodyLength (length : Nat) : Http.AsciiFields (bodyLength length) := by
  unfold bodyLength
  split
  · decide
  · exact List.forall_mem_singleton.2
      ⟨(by decide : Text.IsAscii "Content-Length"), Text.isAscii_repr length⟩

theorem hasHeader_bodyLength (length : Nat) (name : String) :
    hasHeader (bodyLength length) name = (decide (length ≠ 0) && name == "content-length") := by
  have hlower := Http.lower_contentLength
  unfold bodyLength
  split
  · next h => simp [h, hasHeader]
  · next h => simp [h, hasHeader, hlower, Bool.beq_comm (a := name)]

section Fields

variable {own hs : Headers}

/-- The fields of every client give way to others. -/
theorem override_octetFields (h : Http.AsciiFields own) :
    override (octetFields own) = octetFields (standingBeside own ++ own) := by
  rw [override, standingFields_eq, Http.octetFields_append]
  congr 1
  refine Http.filter_octetFields fun f hf => ?_
  have hname := (asciiFields_standingHeaders f hf).1
  have hhas := has_octetFields h (Text.isAscii_lower hname)
  rw [has] at hhas
  rw [Text.fold_ascii hname, hhas]

theorem withLength_octetFields (h : Http.AsciiFields hs)
    (hlength : hasHeader hs "content-length" = false) (body : Bytes) :
    withLength body (octetFields hs) = octetFields (hs ++ bodyLength body.length) := by
  rw [withLength, has_octetFields h (by decide), hlength, Bool.or_false, bodyLength]
  cases body with
  | nil => simp
  | cons b body => simp [octetFields, field]

theorem leadingFields_octetFields (h : Http.AsciiFields hs) {url : Http.Url}
    (hhost : url.host ≠ "") (method : String) :
    leadingFields url method (octetFields hs) =
      octetFields (hostHeader url.location hs ++
        if hasHeader hs "content-length" || hasHeader hs "transfer-encoding" || !expectsBody method
          then [] else [("Content-Length", "0")]) := by
  have hurl : (url.host == "") = false := by simpa using hhost
  rw [leadingFields, has_octetFields h (by decide), has_octetFields h (by decide),
    has_octetFields h (by decide), hurl, Bool.or_false, Http.octetFields_append, hostHeader]
  congr 1
  · split <;> rfl
  · split <;> rfl

end Fields

/-- Headers of a call that leave the framing of the body to the client. -/
structure PlainHeaders (own : Headers) : Prop where
  plain : ∀ f ∈ own, PlainField f
  distinct : Distinct own
  unframed : ∀ f ∈ own,
    Text.lower f.1 ≠ "content-length" ∧ Text.lower f.1 ≠ "transfer-encoding"

namespace PlainHeaders

variable {own : Headers}

theorem hasHeader_eq_false (h : PlainHeaders own) :
    hasHeader own "content-length" = false ∧ hasHeader own "transfer-encoding" = false :=
  ⟨Outgoing.hasHeader_eq_false.2 fun f hf => (h.unframed f hf).1,
    Outgoing.hasHeader_eq_false.2 fun f hf => (h.unframed f hf).2⟩

/-- No field of every client names the host or frames the body. -/
theorem hasHeader_beside {name : String}
    (hname : name ∈ ["host", "content-length", "transfer-encoding"]) (own : Headers) :
    hasHeader (standingBeside own ++ own) name = hasHeader own name := by
  have hstanding : name ∉ standingHeaders.map fun f => Text.lower f.1 := by
    rw [lower_standingHeaders]
    revert name
    decide
  have hnone : hasHeader (standingBeside own) name = false :=
    Outgoing.hasHeader_eq_false.2 fun f hf he =>
      hstanding (List.mem_map.2 ⟨f, List.mem_of_mem_filter hf, he⟩)
  rw [hasHeader_append, hnone, Bool.false_or]

/-- The fields of a request name the host before the URL does if the headers of the call do. -/
theorem has_host (h : PlainHeaders own) (body : Bytes) :
    has (withLength body (override (octetFields own))) "host" = hasHeader own "host" := by
  have hown := Http.asciiFields_of_plain h.plain
  have hbeside := asciiFields_append.2 ⟨asciiFields_standingBeside own, hown⟩
  rw [override_octetFields hown, withLength_octetFields hbeside
    ((hasHeader_beside (by simp) own).trans h.hasHeader_eq_false.1), has_octetFields
    (asciiFields_append.2 ⟨hbeside, asciiFields_bodyLength _⟩) (by decide), hasHeader_append,
    hasHeader_beside (by simp), hasHeader_bodyLength]
  simp

/-- The fields of a request are its headers. -/
theorem fields_eq (h : PlainHeaders own) (url : Http.Url) (hhost : url.host ≠ "")
    (method : String) (body : Bytes) :
    leadingFields url method (withLength body (override (octetFields own))) ++
        withLength body (override (octetFields own)) =
      octetFields (sentHeaders url.location method body.length own) := by
  have hown := Http.asciiFields_of_plain h.plain
  obtain ⟨hlength, hencoding⟩ := h.hasHeader_eq_false
  have hbeside := asciiFields_append.2 ⟨asciiFields_standingBeside own, hown⟩
  rw [override_octetFields hown, withLength_octetFields hbeside
    ((hasHeader_beside (by simp) own).trans hlength), leadingFields_octetFields
    (asciiFields_append.2 ⟨hbeside, asciiFields_bodyLength _⟩) hhost, ← Http.octetFields_append]
  -- Apart from the length of the body, the headers of the call decide what stands at the front.
  simp only [hostHeader, hasHeader_append _ (bodyLength _),
    hasHeader_beside (show "host" ∈ _ by simp) own,
    hasHeader_beside (show "content-length" ∈ _ by simp) own,
    hasHeader_beside (show "transfer-encoding" ∈ _ by simp) own, hlength, hencoding,
    hasHeader_bodyLength]
  simp only [sentHeaders, hostHeader, emptyLength, List.append_assoc]
  by_cases hempty : body.length = 0
  · cases expectsBody method <;> simp [hempty]
  · simp [hempty]

/-! ### What the headers of a request are like -/

theorem lower_of_mem_hostHeader {location : String} {f : String × String}
    (h : f ∈ hostHeader location own) : Text.lower f.1 = "host" ∧ hasHeader own "host" = false := by
  unfold hostHeader at h
  split at h
  · cases h
  · next hnone =>
    obtain rfl := List.mem_singleton.1 h
    exact ⟨Http.lower_host, by simpa using hnone⟩

theorem lower_of_mem_emptyLength {method : String} {length : Nat} {f : String × String}
    (h : f ∈ emptyLength method length) : Text.lower f.1 = "content-length" ∧ length = 0 := by
  unfold emptyLength at h
  split at h
  · next hempty =>
    obtain rfl := List.mem_singleton.1 h
    exact ⟨Http.lower_contentLength, hempty.1⟩
  · cases h

theorem lower_of_mem_bodyLength {length : Nat} {f : String × String} (h : f ∈ bodyLength length) :
    Text.lower f.1 = "content-length" ∧ length ≠ 0 := by
  unfold bodyLength at h
  split at h
  · cases h
  · next hne =>
    obtain rfl := List.mem_singleton.1 h
    exact ⟨Http.lower_contentLength, hne⟩

theorem lower_of_mem_standingBeside {f : String × String} (h : f ∈ standingBeside own) :
    Text.lower f.1 ∈ ["accept", "accept-encoding", "connection", "user-agent"] ∧
      hasHeader own (Text.lower f.1) = false := by
  obtain ⟨hmem, hnone⟩ := List.mem_filter.1 h
  rw [← lower_standingHeaders]
  exact ⟨List.mem_map_of_mem hmem, by simpa using hnone⟩

/-- The headers of a request have distinct names. -/
theorem distinct_sent (h : PlainHeaders own) (location method : String) (length : Nat) :
    Distinct (sentHeaders location method length own) := by
  have hstanding : Distinct standingHeaders := by
    rw [Distinct, lower_standingHeaders]
    decide
  have hhost : Distinct (hostHeader location own) := by
    unfold hostHeader
    split
    · exact List.nodup_nil
    · exact Http.distinct_singleton _
  have hempty : Distinct (emptyLength method length) := by
    unfold emptyLength
    split
    · exact Http.distinct_singleton _
    · exact List.nodup_nil
  have hbody : Distinct (bodyLength length) := by
    unfold bodyLength
    split
    · exact List.nodup_nil
    · exact Http.distinct_singleton _
  have hbeside : Distinct (standingBeside own) :=
    hstanding.sublist (List.filter_sublist.map _)
  -- Each of the parts has names of its own.
  have hframing : "content-length" ∉ ["accept", "accept-encoding", "connection", "user-agent"] := by
    simp
  have hhostName : "host" ∉ ["accept", "accept-encoding", "connection", "user-agent"] := by simp
  refine (((hhost.append hempty ?_).append hbeside ?_).append h.distinct ?_).append hbody ?_
  · intro f hf g hg
    rw [(lower_of_mem_hostHeader hf).1, (lower_of_mem_emptyLength hg).1]
    simp
  · intro f hf g hg he
    have hmem := (lower_of_mem_standingBeside hg).1
    rw [← he] at hmem
    rcases List.mem_append.1 hf with hf | hf
    · exact hhostName ((lower_of_mem_hostHeader hf).1 ▸ hmem)
    · exact hframing ((lower_of_mem_emptyLength hf).1 ▸ hmem)
  · intro f hf g hg he
    -- The headers of the call: a header with one of their names has been left out.
    have hunframed := h.unframed g hg
    rcases List.mem_append.1 hf with hf | hf
    · rcases List.mem_append.1 hf with hf | hf
      · obtain ⟨hname, hnone⟩ := lower_of_mem_hostHeader hf
        exact Outgoing.hasHeader_eq_false.1 hnone g hg (he.symm.trans hname)
      · exact hunframed.1 (he.symm.trans (lower_of_mem_emptyLength hf).1)
    · exact Outgoing.hasHeader_eq_false.1 (lower_of_mem_standingBeside hf).2 g hg he.symm
  · intro f hf g hg he
    obtain ⟨hname, hne⟩ := lower_of_mem_bodyLength hg
    rw [hname] at he
    rcases List.mem_append.1 hf with hf | hf
    · rcases List.mem_append.1 hf with hf | hf
      · rcases List.mem_append.1 hf with hf | hf
        · exact absurd ((lower_of_mem_hostHeader hf).1.symm.trans he) (by simp)
        · exact hne (lower_of_mem_emptyLength hf).2
      · exact hframing (he ▸ (lower_of_mem_standingBeside hf).1)
    · exact (h.unframed f hf).1 he

theorem plain_standingHeaders : ∀ f ∈ standingHeaders, PlainField f := by decide +kernel

theorem plain_bodyLength {length : Nat} (h : length < Http.lengthLimit) :
    ∀ f ∈ bodyLength length, PlainField f := by
  unfold bodyLength
  split
  · exact fun f hf => absurd hf List.not_mem_nil
  · refine List.forall_mem_singleton.2 (Http.plainField_of_visible (by decide) (by decide)
      fun c hc => ?_)
    exact (Text.isDigit_spec ((Http.isDecimal_toString h).isDigit c hc)).1

/-- The headers of a request are sent as they are. -/
theorem plain_sent (h : PlainHeaders own) {location : String}
    (hhost : PlainField ("Host", location))
    {length : Nat} (hlength : length < Http.lengthLimit) (method : String) :
    ∀ f ∈ sentHeaders location method length own, PlainField f := by
  have hempty : ∀ f ∈ emptyLength method length, PlainField f := by
    unfold emptyLength
    split
    · exact List.forall_mem_singleton.2
        (Http.plainField_of_visible (by decide) (by decide)
          (List.all_iff_forall_prop.1 (by decide)))
    · exact fun f hf => absurd hf List.not_mem_nil
  have hfirst : ∀ f ∈ hostHeader location own, PlainField f := by
    unfold hostHeader
    split
    · exact fun f hf => absurd hf List.not_mem_nil
    · exact List.forall_mem_singleton.2 hhost
  simp only [sentHeaders, List.forall_mem_append]
  exact ⟨⟨⟨⟨hfirst, hempty⟩, fun f hf => plain_standingHeaders f (List.mem_of_mem_filter hf)⟩,
    h.plain⟩, plain_bodyLength hlength⟩

/-- A header of a request states the length of its body, has one of five names that say nothing
about the body, or is a header of the call. -/
theorem cases_of_mem_sent {location method : String} {length : Nat} {f : String × String}
    (hf : f ∈ sentHeaders location method length own) :
    f ∈ emptyLength method length ∨ f ∈ bodyLength length ∨
      Text.lower f.1 ∈ ["host", "accept", "accept-encoding", "connection", "user-agent"] ∨
      f ∈ own := by
  simp only [sentHeaders, List.mem_append] at hf
  rcases hf with (((hf | hf) | hf) | hf) | hf
  · exact .inr (.inr (.inl (by simp [(lower_of_mem_hostHeader hf).1])))
  · exact .inl hf
  · exact .inr (.inr (.inl (List.mem_cons_of_mem _ (lower_of_mem_standingBeside hf).1)))
  · exact .inr (.inr (.inr hf))
  · exact .inr (.inl hf)

/-- The headers of a request name no transfer encoding and state the length of the body. -/
theorem statesLength_sent (h : PlainHeaders own) (location method : String) (length : Nat) :
    StatesLength length (sentHeaders location method length own) := by
  have hlower := Http.lower_contentLength
  have hdistinct := h.distinct_sent location method length
  refine ⟨Http.named_eq_nil_iff.2 fun f hf he => ?_, ?_⟩
  · rcases cases_of_mem_sent hf with hf | hf | hf | hf
    · exact absurd ((lower_of_mem_emptyLength hf).1.symm.trans he) (by simp)
    · exact absurd ((lower_of_mem_bodyLength hf).1.symm.trans he) (by simp)
    · rw [he] at hf
      simp at hf
    · exact (h.unframed f hf).2 he
  · by_cases hzero : length = 0
    · by_cases hexpects : expectsBody method
      · -- The length of an empty body is zero.
        left
        have hsent : ("Content-Length", "0") ∈ sentHeaders location method length own := by
          simp [sentHeaders, emptyLength, hzero, hexpects]
        have hnamed := Http.named_of_distinct hdistinct hsent
        rw [hlower] at hnamed
        rw [hnamed, hzero]
        rfl
      · -- A method without a body leaves the length of an empty one out.
        refine .inr ⟨Http.named_eq_nil_iff.2 fun f hf he => ?_, hzero⟩
        rcases cases_of_mem_sent hf with hf | hf | hf | hf
        · simp [emptyLength, hexpects] at hf
        · exact (lower_of_mem_bodyLength hf).2 hzero
        · rw [he] at hf
          simp at hf
        · exact (h.unframed f hf).1 he
    · left
      have hsent : ("Content-Length", toString length) ∈
          sentHeaders location method length own := by
        simp [sentHeaders, bodyLength, hzero]
      have hnamed := Http.named_of_distinct hdistinct hsent
      rwa [hlower] at hnamed

/-- A request names a host. -/
theorem exists_host_sent (location method : String) (length : Nat) (own : Headers) :
    ∃ f ∈ sentHeaders location method length own, Text.lower f.1 = "host" := by
  by_cases hhost : hasHeader own "host"
  · obtain ⟨f, hf, hname⟩ := List.any_eq_true.1 hhost
    exact ⟨f, by simp [sentHeaders, hf], beq_iff_eq.1 hname⟩
  · refine ⟨("Host", location), by simp [sentHeaders, hostHeader, hhost], ?_⟩
    exact Http.lower_host

end PlainHeaders

/-! ## A request in octets -/

/-- Headers with those that name the host first. -/
def hostFirst (hs : Headers) : Headers :=
  (hs.filter fun f => Text.lower f.1 == "host") ++ hs.filter fun f => !(Text.lower f.1 == "host")

/-- A header with a space before its value. -/
def padded (f : String × String) : String × String := (f.1, " " ++ f.2)

/-- The request with these headers as it is sent. -/
def asQuery (method target : String) (hs : Headers) (body : Bytes) : Origin.Query where
  method := method
  target := target
  fields := (hostFirst hs).map padded
  body := body

section Encode

variable {hs : Headers}

theorem hostFirst_perm (hs : Headers) : (hostFirst hs).Perm hs := List.filter_append_perm _ hs

theorem mem_hostFirst {f : String × String} : f ∈ hostFirst hs ↔ f ∈ hs :=
  (hostFirst_perm hs).mem_iff

/-- The space before a value does not belong to it. -/
theorem received_padded {f : String × String} (h : PlainField f) :
    Http.received (padded f) = f := by
  have hdrop : f.2.toList.dropWhile Http.isLineBlank = f.2.toList := by
    rw [List.dropWhile_eq_self_iff]
    intro hpos hblank
    have hhead : f.2.toList.head? = some f.2.toList[0] := by
      rw [List.head?_eq_getElem?, List.getElem?_eq_getElem hpos]
    -- A plain value begins with no space, and has no tab anywhere.
    have hvalue := h.value _ (List.getElem_mem hpos)
    simp only [Http.isLineBlank, Bool.or_eq_true, beq_iff_eq] at hblank
    rcases hblank with he | he
    · exact h.space_ends.1 (he ▸ hhead)
    · rw [he] at hvalue
      exact absurd hvalue (by decide)
  have hspace : (" " ++ f.2).toList.dropWhile Http.isLineBlank = f.2.toList := by
    rw [String.toList_append]
    exact hdrop
  rw [padded, Http.received, hspace, String.ofList_toList]

theorem headers_asQuery (h : ∀ f ∈ hs, PlainField f) (method target : String) (body : Bytes) :
    (asQuery method target hs body).headers = hostFirst hs := by
  rw [Origin.Query.headers, asQuery, List.map_map]
  refine (List.map_congr_left fun f hf => ?_).trans (List.map_id _)
  exact received_padded (h f (mem_hostFirst.1 hf))

theorem writtenField_padded {f : String × String} (h : PlainField f)
    (hfits : f.1.length + f.2.length + 4 ≤ Http.lineLimit) : Http.WrittenField (padded f) where
  name_ne_empty := h.name_ne_empty
  name c hc := Http.isNameChar_of_isTokenChar (h.name c hc)
  value c hc := by
    rw [padded, String.toList_append, List.mem_append] at hc
    rcases hc with hc | hc
    · rw [List.mem_singleton.1 hc]
      exact .inr (by decide)
    · exact .inr (h.value c hc)
  fits := by
    simp only [Http.fieldLine, padded, String.length_append]
    have hcolon : ":".length = 1 := rfl
    have hspace : " ".length = 1 := rfl
    have hend : "\r\n".length = 2 := rfl
    omega

theorem fieldLines_octetFields (hs : Headers) :
    fieldLines (octetFields hs) =
      ((hs.map padded).map fun f => Text.ascii (Http.fieldLine f)).flatten := by
  rw [fieldLines, octetFields, List.flatMap_map, List.map_map, ← List.flatMap_def]
  congr 1
  funext f
  simp [padded, Http.fieldLine, Text.ascii]

/-- A body is sent as it is, if the headers state its length. -/
theorem frameBody_octetFields (ha : Http.AsciiFields hs) {body : Bytes}
    (h : StatesLength body.length hs) (hn : body.length < Http.lengthLimit) :
    frameBody (octetFields hs) body = .ok body := by
  rw [frameBody, Http.framing_octetFields ha h hn]
  by_cases hlength : named "content-length" hs = []
  · have hzero : body.length = 0 := by
      rcases h.stated with hstated | ⟨-, hzero⟩
      · exact absurd (hstated.symm.trans hlength) (List.cons_ne_nil _ _)
      · exact hzero
    simp [hlength, frameBody.check, hzero]
  · simp [hlength, frameBody.check]

theorem ascii_requestLine (method target : String) :
    Text.ascii (method ++ " " ++ target ++ " HTTP/1.1\r\n") =
      Text.ascii (Http.requestLine method target) := by
  simp [Http.requestLine, Http.requestText, Text.ascii]

/-- The head of a request: its line, and its headers with the host first. -/
theorem head_octetFields (o : Outgoing) (ha : Http.AsciiFields hs) :
    o.head (octetFields hs) =
      Http.headOctets o.method o.url.target ((hostFirst hs).map padded) := by
  have hisHost : ∀ f ∈ hs, isHost (Text.ascii f.1, Text.ascii f.2) =
      (Text.lower f.1 == "host") := fun f hf => Http.fold_ascii_beq (ha f hf).1 (by decide)
  rw [head, Http.filter_octetFields hisHost,
    Http.filter_octetFields fun f hf => congrArg (!·) (hisHost f hf), fieldLines_octetFields,
    fieldLines_octetFields, ascii_requestLine, Http.headOctets, Http.sectionOctets, hostFirst,
    List.map_append, List.map_append, List.flatten_append]
  simp only [List.append_assoc]

/-- The octets of a request are those of its method, its target, its headers and its body. -/
theorem encode_eq {o : Outgoing} (hfields : o.fields = octetFields hs)
    (h : ∀ f ∈ hs, PlainField f) (hdistinct : Distinct hs)
    (hhost : ∃ f ∈ hs, Text.lower f.1 = "host") (hlength : StatesLength o.body.length hs)
    (hn : o.body.length < Http.lengthLimit) (hmethod : Http.isToken (Text.ascii o.method)) :
    o.encode = .ok (asQuery o.method o.url.target hs o.body).octets := by
  have ha := Http.asciiFields_of_plain h
  have hreconciled : Http.reconcileSent o.fields = .ok (octetFields hs) := by
    rw [hfields, Http.reconcileSent]
    exact Http.reconcileFrom_plain ha (fun f hf => (h f hf).checkField) hlength hn
  have hone : ((octetFields hs).filter isHost).length = 1 := by
    obtain ⟨f, hf, hname⟩ := hhost
    have hfilter := Http.filter_of_distinct hdistinct hf
    rw [hname] at hfilter
    rw [Http.filter_octetFields fun g hg => Http.fold_ascii_beq (ha g hg).1 (by decide), hfilter]
    rfl
  have hbody := frameBody_octetFields ha hlength hn
  rw [encode, hreconciled]
  simp only [Except.mapError, ok_bind, hone, hmethod, hbody, Nat.one_ne_zero, Nat.lt_irrefl,
    Bool.not_true, Bool.false_eq_true, if_false]
  rw [head_octetFields o ha]
  rfl

end Encode

/-! ## The request line of any call -/

theorem toNat_lt_of_capitals? {c : Char} {letters : List Char} (h : capitals? c = some letters) :
    ∀ d ∈ letters, d.toNat < 128 := by
  unfold capitals? at h
  split at h
  · next hlt =>
    have hall : ∀ c : Char, c.toNat < 128 → c.toUpper.toNat < 128 :=
      Text.forall_char (by decide +kernel)
    rw [← Option.some.inj h, List.forall_mem_singleton]
    exact hall c hlt
  · -- The capitals of other characters are listed.
    split at h <;> cases h <;> exact List.all_iff_forall_prop.1 (by decide)

/-- A method that is sent is ASCII. -/
theorem isAscii_of_upperMethod? {method m : String} (h : upperMethod? method = some m) :
    Text.IsAscii m := by
  obtain ⟨letters, hletters, rfl⟩ := Option.map_eq_some_iff.1 h
  rw [Text.IsAscii, String.toList_ofList]
  clear h
  generalize method.toList = cs at hletters
  induction cs generalizing letters with
  | nil =>
    cases hletters
    exact fun c hc => absurd hc List.not_mem_nil
  | cons c cs ih =>
    rw [List.mapM_cons] at hletters
    obtain ⟨first, hfirst, hletters⟩ := Option.bind_eq_some_iff.1 hletters
    obtain ⟨more, hmore, hletters⟩ := Option.bind_eq_some_iff.1 hletters
    obtain rfl := Option.some.inj hletters
    rw [List.flatten_cons, List.forall_mem_append]
    exact ⟨toNat_lt_of_capitals? hfirst, ih more hmore⟩

section AnyCall

variable {o : Outgoing} {octets : Bytes}

/-- A request is made of a URL, headers, a host and a method, each of which has to do. -/
theorem ofUrl_eq (a : Agent) (text method : String) (headers : Headers) (body : Bytes) :
    ofUrl a text method headers body = (do
      let url ← (Http.Url.ofText text).mapError .url
      let own ← (Http.Fields.ofText headers).mapError .header
      (checkHost a url (withLength body (override own))).mapError .host
      match upperMethod? method with
      | none => .error .method
      | some m =>
        if url.scheme == "" || url.host == "" then .error .noHost
        else if !schemes.contains url.scheme then .error (.scheme url.scheme)
        else .ok {
          url, method := m, body
          fields := withCredentials url (leadingFields url m (withLength body (override own)) ++
            withLength body (override own)) }) := by
  rw [ofUrl]
  refine congrArg _ (funext fun url => congrArg _ (funext fun own =>
    congrArg _ (funext fun _ => ?_)))
  cases upperMethod? method with
  | none => rfl
  | some m =>
    simp only
    split
    · rfl
    · split <;> rfl

/-- The URL and the method of a request are those that it has been made of. -/
theorem ofUrl_eq_ok {a : Agent} {text method : String} {headers : Headers} {body : Bytes}
    (h : ofUrl a text method headers body = .ok o) :
    Http.Url.ofText text = .ok o.url ∧ upperMethod? method = some o.method := by
  rw [ofUrl_eq] at h
  obtain ⟨url, hurl, h⟩ := bind_eq_ok.1 h
  obtain ⟨own, -, h⟩ := bind_eq_ok.1 h
  obtain ⟨-, -, h⟩ := bind_eq_ok.1 h
  split at h
  · cases h
  · next m hmethod =>
    split at h
    · cases h
    · split at h
      · cases h
      · obtain rfl := Except.ok.inj h
        exact ⟨mapError_eq_ok.1 hurl, hmethod⟩

/-- A request begins with its line. -/
theorem encode_eq_ok (h : o.encode = .ok octets) :
    Http.isToken (Text.ascii o.method) ∧
      ∃ rest, octets = Text.ascii (Http.requestLine o.method o.url.target) ++ rest := by
  unfold encode at h
  obtain ⟨fs, -, h⟩ := bind_eq_ok.1 h
  dsimp only at h
  split at h
  · cases h
  · split at h
    · cases h
    · split at h
      · cases h
      · next hnot =>
        obtain ⟨body, -, h⟩ := bind_eq_ok.1 h
        obtain rfl := Except.ok.inj h
        refine ⟨by simpa using hnot, ?_⟩
        rw [head, ascii_requestLine]
        simp only [List.append_assoc]
        exact ⟨_, rfl⟩

theorem graphic_method (ha : Text.IsAscii o.method) (ht : Http.isToken (Text.ascii o.method)) :
    Http.Graphic o.method := by
  rw [Http.isToken, Bool.and_eq_true, Text.ascii, List.all_map, List.all_eq_true] at ht
  refine ⟨fun he => by simp [he] at ht, fun c hc => ?_⟩
  have htoken : Http.isTokenChar c := by
    rw [Http.isTokenChar, Bool.and_eq_true, decide_eq_true_eq]
    exact ⟨ha c hc, ht.2 c hc⟩
  exact (Http.isNameChar_iff.1 (Http.isNameChar_of_isTokenChar htoken)).1

/-- Whatever the origin reads of a request, the method is that of the request. -/
theorem readHead_encode {a : Agent} {text method : String} {headers : Headers} {body rest : Bytes}
    {head : Http.Head} (ho : ofUrl a text method headers body = .ok o)
    (hoctets : o.encode = .ok octets)
    (hread : Http.readHead octets = .ok (some (head, rest))) :
    head.method = o.method ∧ head.bare = false := by
  obtain ⟨hurl, hmethod⟩ := ofUrl_eq_ok ho
  obtain ⟨htoken, more, rfl⟩ := encode_eq_ok hoctets
  exact Http.readHead_requestLine (graphic_method (isAscii_of_upperMethod? hmethod) htoken)
    (Http.Url.graphic_target hurl) hread

end AnyCall

/-! ## Plain calls -/

/-- A call whose request the origin reads as it is written: a method that the origin knows, in any
letter case, a target that is sent as it stands, and headers that both sides take as they are. -/
structure PlainCall (c : Call) (method path : String) : Prop where
  method_known : method ∈ Origin.methods
  method_upper : upperMethod? c.method = some method
  target : ∃ written query, c.target = Http.withQuery written query ∧ Http.PlainQuery query ∧
    path = targetOf written
  path_plain : Http.PlainPath path
  headers : PlainHeaders c.headers
  body : (Text.utf8 c.body).length < Http.lengthLimit

/-- The request is within the limits that the origin sets for lines and for their number. -/
structure FitsOrigin (o : Outgoing) : Prop where
  line : (Http.requestLine o.method o.url.target).length ≤ Http.lineLimit
  fields : ∀ f ∈ o.fields, f.1.length + f.2.length + 4 ≤ Http.lineLimit
  few : o.fields.length < Http.sectionLimit

section Calls

variable {address host : String} {port : Nat} {c : Call} {method path : String}
  {query : Option String} {own : Headers}

/-- The headers of the request for a plain call. -/
def plainHeaders (host : String) (port : Nat) (method path : String) (query : Option String)
    (c : Call) : Headers :=
  sentHeaders (Http.plainUrl host port path query).location method (Text.utf8 c.body).length
    c.headers

/-- The request for a plain call. -/
def plainRequest (host : String) (port : Nat) (method path : String) (query : Option String)
    (c : Call) : Outgoing where
  url := Http.plainUrl host port path query
  method := method
  fields := octetFields (plainHeaders host port method path query c)
  body := Text.utf8 c.body

/-- A URL without a user adds no credentials. -/
theorem withCredentials_of_user {url : Http.Url} (h : url.user = "") (fs : Http.Fields) :
    withCredentials url fs = fs := by
  have hcredentials : url.credentials = ("", "") := by
    rw [Http.Url.credentials, h]
    decide +kernel
  rw [withCredentials, hcredentials]
  rfl

/-- The request to a URL with a scheme that is spoken, a host and no user. -/
theorem ofUrl_of_ofText {text : String} {url : Http.Url} (hurl : Http.Url.ofText text = .ok url)
    (hscheme : url.scheme = "http") (hhost : url.host ≠ "") (huser : url.user = "") (a : Agent)
    (method : String) (headers : Headers) (body : Bytes) :
    ofUrl a text method headers body =
      ((Http.Fields.ofText headers).mapError .header).bind fun own =>
      ((checkHost a url (withLength body (override own))).mapError .host).bind fun _ =>
        match upperMethod? method with
        | none => .error .method
        | some m => .ok {
            url, method := m, body
            fields := leadingFields url m (withLength body (override own)) ++
              withLength body (override own) } := by
  have hnone : (url.scheme == "" || url.host == "") = false := by simp [hscheme, hhost]
  have hspoken : schemes.contains url.scheme := by
    rw [hscheme]
    decide
  rw [ofUrl, hurl]
  cases Http.Fields.ofText headers with
  | error e => rfl
  | ok own =>
    simp only [Except.mapError, ok_bind, Except.bind]
    cases checkHost a url (withLength body (override own)) with
    | error fault => rfl
    | ok _ =>
      simp only [ok_bind, hnone, hspoken, Bool.not_true, Bool.false_eq_true, if_false,
        withCredentials_of_user huser]
      cases upperMethod? method <;> rfl

/-- The host and the port of a URL are visible characters. -/
theorem plainField_location (hhost : ∀ c ∈ host.toList, Http.isHostChar c) (port : Nat)
    (path : String) (query : Option String) :
    PlainField ("Host", (Http.plainUrl host port path query).location) := by
  have hvisible : ∀ c ∈ host.toList, '!' ≤ c ∧ c ≤ '~' := fun c hc =>
    (Http.isHostChar_spec (hhost c hc)).2.2.1
  have hplain : host.toList.contains ':' = false := by
    rw [← Bool.not_eq_true, List.contains_iff_mem]
    exact fun hm => absurd (hhost _ hm) (by decide)
  refine Http.plainField_of_visible (by decide) (by decide) ?_
  rw [Http.Url.location, Http.plainUrl]
  simp only [hplain, Bool.false_eq_true, if_false]
  split
  · exact hvisible
  · next n hn =>
    have hn : ((port : Nat) : Int) = n := by
      split at hn
      · cases hn
      · exact Option.some.inj hn
    subst hn
    have hport : toString (port : Int) = toString port := rfl
    simp only [hport, String.toList_append, List.forall_mem_append]
    exact ⟨hvisible, List.all_iff_forall_prop.1 (by decide),
      fun c hc => (Text.isDigit_spec (Text.isDigit_toString port c hc)).1⟩

/-- The target of a plain URL is its path with the query. -/
theorem target_plainUrl (hp : Http.PlainPath path) (host : String) (port : Nat)
    (query : Option String) :
    (Http.plainUrl host port path query).target = Http.withQuery path query := by
  have hne : (path == "") = false := by
    rw [beq_eq_false_iff_ne]
    rintro rfl
    obtain ⟨cs, hcs, -⟩ := hp.head
    cases hcs
  rw [Http.Url.target, Http.plainUrl]
  simp only [hne, Bool.false_eq_true, if_false]
  cases query with
  | none => simp [Http.withQuery]
  | some q => simp [Http.withQuery, String.append_assoc]

/-- What is wrong with the host of a call whose headers do not name one: its letters cannot be read,
if it begins with the mark of names that are written in ASCII. -/
def hostFault? (a : Agent) (host : String) (own : Headers) : Option Http.HostFault :=
  if hasHeader own "host" then none
  else match Http.hostText a.hosts (Text.lower host) with
    | .error fault => some fault
    | .ok _ => none

/-- A host without the mark is not read. -/
theorem hostFault?_of_not_isPrefixOf (a : Agent)
    (h : Http.labelMark.isPrefixOf (Text.lower host).toList = false) (own : Headers) :
    hostFault? a host own = none := by
  rw [hostFault?, Http.hostText_of_not_isPrefixOf h, ite_self]

/-- The host of a plain call can be written, and is read unless its headers name one. -/
theorem checkHost_plain (a : Agent) (ha : Http.IsHost host) (hown : PlainHeaders own) (port : Nat)
    (path : String) (query : Option String) (body : Bytes) :
    checkHost a (Http.plainUrl (Text.lower host) port path query)
        (withLength body (override (octetFields own))) =
      match hostFault? a host own with
      | some fault => .error fault
      | none => .ok () := by
  have hvisible := ha.isHostChar_lower
  have hhost : Text.IsAscii (Text.lower host) :=
    fun c hc => Http.toNat_lt_of_isHostChar (hvisible c hc)
  have hlocation := (Http.asciiFields_of_plain
    (List.forall_mem_singleton.2 (plainField_location hvisible port path query)) _
      (List.mem_singleton_self _)).2
  have hne : ((Http.plainUrl (Text.lower host) port path query).host == "") = false :=
    beq_eq_false_iff_ne.2 ha.lower_ne_empty
  rw [checkHost, hown.has_host, hne, Bool.or_false, hostFault?]
  cases hasHeader own "host" with
  | true =>
    rw [if_pos rfl, if_pos rfl]
    exact Http.checkAscii_of_isAscii hhost
  | false =>
    rw [if_neg Bool.false_ne_true, if_neg Bool.false_ne_true, Http.Url.checkHost,
      Http.checkAscii_of_isAscii hlocation]
    show (Http.hostText a.hosts (Text.lower host) >>= _) = _
    cases Http.hostText a.hosts (Text.lower host) <;> rfl

/-- A plain call makes a request unless its URL is too long or its host cannot be read. -/
theorem ofCall_plain (a : Agent) (ha : Http.IsAddress address host port)
    (hc : PlainCall c method path) {written : String}
    (htarget : c.target = Http.withQuery written query) (hq : Http.PlainQuery query)
    (hpath : path = targetOf written) :
    ofCall a address c =
      if (urlOf address c.target).length > Http.urlLimit then .error (.url .tooLong)
      else match hostFault? a host c.headers with
        | some fault => .error (.host fault)
        | none => .ok (plainRequest (Text.lower host) port method path query c) := by
  have hof : targetOf c.target = Http.withQuery path query := by
    rw [htarget, Http.targetOf_withQuery, hpath]
  have hne := ha.isHost.lower_ne_empty
  have hurl := Http.Url.ofText_urlOf_plain ha ha.isHost.normalizeHost hne hc.path_plain hq hof
  by_cases hlong : (urlOf address c.target).length > Http.urlLimit
  · rw [if_pos hlong] at hurl
    rw [ofCall, ofUrl, hurl, if_pos hlong]
    rfl
  · rw [if_neg hlong] at hurl
    have hfields := hc.headers.fields_eq (Http.plainUrl (Text.lower host) port path query)
      hne method
      (Text.utf8 c.body)
    have hcheck := checkHost_plain a ha.isHost hc.headers port path query (Text.utf8 c.body)
    rw [ofCall, ofUrl_of_ofText hurl rfl hne rfl, if_neg hlong,
      Http.ofText_ascii (Http.asciiFields_of_plain hc.headers.plain), hc.method_upper,
      plainRequest, plainHeaders, ← hfields]
    show (Except.mapError _ (checkHost a _ _)).bind _ = _
    rw [hcheck]
    cases hostFault? a host c.headers <;> rfl

theorem plain_plainHeaders (hhost : ∀ c ∈ host.toList, Http.isHostChar c)
    (hc : PlainCall c method path) (port : Nat) (query : Option String) :
    ∀ f ∈ plainHeaders host port method path query c, PlainField f :=
  hc.headers.plain_sent (plainField_location hhost port path query) hc.body method

/-- The request for a plain call in octets. -/
theorem encode_plainRequest (hhost : ∀ c ∈ host.toList, Http.isHostChar c)
    (hc : PlainCall c method path) (port : Nat) (query : Option String) :
    (plainRequest host port method path query c).encode =
      .ok (asQuery method (Http.withQuery path query) (plainHeaders host port method path query c)
        (Text.utf8 c.body)).octets := by
  have htoken : Http.isToken (Text.ascii method) := by
    have hall : ∀ m ∈ Origin.methods, Http.isToken (Text.ascii m) := by decide +kernel
    exact hall method hc.method_known
  have hencode := encode_eq (show (plainRequest host port method path query c).fields = _ from rfl)
    (plain_plainHeaders hhost hc port query) (hc.headers.distinct_sent _ _ _)
    (PlainHeaders.exists_host_sent _ _ _ _) (hc.headers.statesLength_sent _ _ _) hc.body htoken
  rw [← target_plainUrl hc.path_plain host port query]
  exact hencode

/-- The head of the request for a plain call is within the limits. -/
theorem hasHead_plainRequest (hhost : ∀ c ∈ host.toList, Http.isHostChar c)
    (hc : PlainCall c method path) (hq : Http.PlainQuery query)
    (hfits : (plainRequest host port method path query c).FitsOrigin) :
    (asQuery method (Http.withQuery path query) (plainHeaders host port method path query c)
      (Text.utf8 c.body)).HasHead where
  method := hc.method_known
  target := Http.graphic_withQuery hc.path_plain hq
  line := by
    have hline := hfits.line
    rwa [show (plainRequest host port method path query c).url.target = _ from
      target_plainUrl hc.path_plain host port query] at hline
  fields := by
    show ∀ f ∈ (hostFirst _).map padded, Http.WrittenField f
    rw [List.forall_mem_map]
    intro f hf
    have hmem := mem_hostFirst.1 hf
    refine writtenField_padded (plain_plainHeaders hhost hc port query f hmem) ?_
    have hlimit := hfits.fields (Text.ascii f.1, Text.ascii f.2) (List.mem_map_of_mem hmem)
    simpa [Text.ascii, String.length_toList] using hlimit
  few := by
    show ((hostFirst _).map padded).length < _
    rw [List.length_map, (hostFirst_perm _).length_eq]
    simpa [plainRequest, octetFields] using hfits.few

/-- What the origin reads of the request for a plain call: the method, the path and the body of the
call, and its headers. -/
theorem read_plainRequest (hhost : ∀ c ∈ host.toList, Http.isHostChar c)
    (hc : PlainCall c method path) (hq : Http.PlainQuery query) (port : Nat) :
    Request.read method (Http.collapseSlashes (Http.withQuery path query))
        (hostFirst (plainHeaders host port method path query c)) (Text.utf8 c.body) =
      .ok (⟨method, path, octetFields (hostFirst (plainHeaders host port method path query c)),
        c.body⟩, []) := by
  have hplain := plain_plainHeaders hhost hc port query
  have hplain' : ∀ f ∈ hostFirst (plainHeaders host port method path query c), PlainField f :=
    fun f hf => hplain f (mem_hostFirst.1 hf)
  have ha := Http.asciiFields_of_plain hplain'
  have hlength : StatesLength (Text.utf8 c.body).length
      (plainHeaders host port method path query c) := hc.headers.statesLength_sent _ _ _
  -- The headers frame the body, nothing follows it, and its octets are read as the text they are.
  have hbody := Http.readBody_append ha ((hlength.perm (hostFirst_perm _)).framed hc.body) []
  rw [List.append_nil] at hbody
  rw [Request.read, Http.ofText_ascii ha]
  simp only [Except.mapError, ok_bind, hbody, Http.targetPath_withQuery hc.path_plain hq,
    Text.ofUtf8Lenient_utf8]
  rfl

/-- A plain call is read as it is written: unless its URL is too long for a request, or its host is
written in ASCII for a name that cannot be read, the origin finds in the octets of the request the
method in capital letters, the path with its slash, the value of each header of the call, in
whatever letter case its name is looked up, and the body, and no octet is left over. -/
theorem call_read_as_written (a : Agent) (ha : Http.IsAddress address host port)
    (hc : PlainCall c method path) (hfits : ∀ o, ofCall a address c = .ok o → o.FitsOrigin) :
    if (urlOf address c.target).length > Http.urlLimit then
      ofCall a address c = .error (.url .tooLong)
    else match hostFault? a host c.headers with
      | some fault => ofCall a address c = .error (.host fault)
      | none => ∃ o octets head rest r, ofCall a address c = .ok o ∧ o.encode = .ok octets ∧
        Http.readHead octets = .ok (some (head, rest)) ∧
        Request.read head.method head.target head.headers rest = .ok (r, []) ∧
        r.method = method ∧ r.path = path ∧ r.body = c.body ∧
        ∀ f ∈ c.headers, ∀ name, Text.lower name = Text.lower f.1 →
          r.fields.values name = .ok [f.2] := by
  obtain ⟨written, query, htarget, hq, hpath⟩ := hc.target
  have hcall := ofCall_plain a ha hc htarget hq hpath
  by_cases hlong : (urlOf address c.target).length > Http.urlLimit
  · rw [if_pos hlong] at hcall ⊢
    exact hcall
  rw [if_neg hlong] at hcall ⊢
  cases hfault : hostFault? a host c.headers with
  | some fault => rwa [hfault] at hcall
  | none =>
    rw [hfault] at hcall
    have hvisible := ha.isHost.isHostChar_lower
    have hhead := hasHead_plainRequest hvisible hc hq (hfits _ hcall)
    have hread := hhead.readHead []
    rw [List.append_nil, List.append_nil] at hread
    have hplain := plain_plainHeaders hvisible hc port query
    have hrequest := read_plainRequest hvisible hc hq port
    rw [← headers_asQuery hplain method (Http.withQuery path query) (Text.utf8 c.body)] at hrequest
    refine ⟨_, _, _, _, _, hcall, encode_plainRequest hvisible hc port query, hread, hrequest, rfl,
      rfl, rfl, ?_⟩
    intro f hf name hname
    have hmem : f ∈ hostFirst (plainHeaders (Text.lower host) port method path query c) :=
      mem_hostFirst.2 (by simp [plainHeaders, sentHeaders, hf])
    have hdistinct := (hc.headers.distinct_sent
      (Http.plainUrl (Text.lower host) port path query).location method
        (Text.utf8 c.body).length).perm (hostFirst_perm _).symm
    have ha' : Http.AsciiFields
        (hostFirst (plainHeaders (Text.lower host) port method path query c)) :=
      Http.asciiFields_of_plain fun g hg => hplain g (mem_hostFirst.1 hg)
    rw [headers_asQuery hplain, Http.values_octetFields ha'
      (hname ▸ Text.isAscii_lower (ha' f hmem).1), hname]
    exact congrArg Except.ok (Http.named_of_distinct hdistinct hmem)

/-- A call with its own `Accept`, a query and a body that is not ASCII. -/
def sampleCall : Call where
  method := "post"
  target := "items/1?q=2"
  headers := [("X-Id", "7"), ("accept", "text/plain")]
  body := "né"

theorem isAddress_loopback (port : Nat) (h : port < Http.lengthLimit) :
    Http.IsAddress ("127.0.0.1:" ++ toString port) "127.0.0.1" port where
  isHost := ⟨by decide, List.all_iff_forall_prop.1 (by decide), by decide⟩
  eq_append := ⟨toString port, by simp, Http.isDecimal_toString h⟩

theorem plainCall_sampleCall : PlainCall sampleCall "POST" "/items/1" where
  method_known := by decide
  method_upper := by decide
  target := ⟨"items/1", some "q=2", by decide, by decide, by decide⟩
  path_plain := ⟨⟨"items/1".toList, by decide, by decide⟩,
    List.all_iff_forall_prop.1 (by decide), by decide⟩
  headers := ⟨by decide, by decide +kernel, by decide +kernel⟩
  body := by
    rw [Text.utf8_eq_flatMap]
    decide

theorem length_body_sampleCall : (Text.utf8 sampleCall.body).length = 3 := by
  rw [Text.utf8_eq_flatMap]
  decide

/-- The request for the sample call on port 8080. -/
def sampleRequest : Outgoing :=
  plainRequest "127.0.0.1" 8080 "POST" "/items/1" (some "q=2") sampleCall

theorem lower_loopback : Text.lower "127.0.0.1" = "127.0.0.1" := by decide +kernel

/-- The machine itself is named by numbers, which are not read. -/
theorem hostFault?_loopback (a : Agent) (own : Headers) : hostFault? a "127.0.0.1" own = none :=
  hostFault?_of_not_isPrefixOf a (by rw [lower_loopback]; decide) own

theorem ofCall_sampleCall (a : Agent) :
    ofCall a "127.0.0.1:8080" sampleCall = .ok sampleRequest := by
  have ha : Http.IsAddress "127.0.0.1:8080" "127.0.0.1" 8080 :=
    isAddress_loopback 8080 (by decide)
  have htarget : sampleCall.target = Http.withQuery "items/1" (some "q=2") := by decide
  rw [ofCall_plain a ha plainCall_sampleCall htarget (by decide) (by decide),
    if_neg (by decide), hostFault?_loopback, lower_loopback]
  rfl

theorem fitsOrigin_sampleRequest : sampleRequest.FitsOrigin := by
  refine ⟨by decide, ?_, ?_⟩
  · show ∀ f ∈ octetFields (plainHeaders _ _ _ _ _ _), _
    rw [plainHeaders, length_body_sampleCall]
    decide +kernel
  · show (octetFields (plainHeaders _ _ _ _ _ _)).length < _
    rw [plainHeaders, length_body_sampleCall]
    decide +kernel

/-- The hypotheses hold of a call with a header that replaces one of every client. -/
theorem call_read_as_written_post :
    (∀ o, ofCall {} "127.0.0.1:8080" sampleCall = .ok o → o.FitsOrigin) ∧
      ∃ o octets head rest r, ofCall {} "127.0.0.1:8080" sampleCall = .ok o ∧
        o.encode = .ok octets ∧ Http.readHead octets = .ok (some (head, rest)) ∧
        Request.read head.method head.target head.headers rest = .ok (r, []) ∧
        r.method = "POST" ∧ r.path = "/items/1" ∧ r.body = "né" ∧
        r.fields.values "ACCEPT" = .ok ["text/plain"] := by
  have hfits : ∀ o, ofCall {} "127.0.0.1:8080" sampleCall = .ok o → o.FitsOrigin := by
    intro o ho
    rw [ofCall_sampleCall] at ho
    cases ho
    exact fitsOrigin_sampleRequest
  have hread :=
    call_read_as_written {} (isAddress_loopback 8080 (by decide)) plainCall_sampleCall hfits
  rw [if_neg (by decide), hostFault?_loopback] at hread
  obtain ⟨o, octets, head, rest, r, ho, hoctets, hhead, hr, hmethod, hpath, hbody, hvalues⟩ := hread
  exact ⟨hfits, o, octets, head, rest, r, ho, hoctets, hhead, hr, hmethod, hpath, hbody,
    hvalues ("accept", "text/plain") (by decide) "ACCEPT" (by decide +kernel)⟩

end Calls

end Outgoing

end ProxyTrial
