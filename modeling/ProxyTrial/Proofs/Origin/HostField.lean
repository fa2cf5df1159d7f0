import ProxyTrial.Proofs.Client.Outgoing
import ProxyTrial.Proofs.Origin.Judging
import ProxyTrial.Proofs.Origin.Remainder
/-!
# The host of a request

A request names the host that it is sent to in its first field. The origin reads that field off and
does not look at it again: unless an expectation asks for it, what the origin answers and notes is
the same for every host.

## Main definitions

* `Expectation.ReadsHost`: an expectation asks for the host
* `hostedRequest method target host rest`: a request with this host and these further octets

## Main results

* `readHeaders_fieldLine`: the field at the front of a section is read off
* `serve_host`: the answer to a request is the same for every host
* `converse_host`: so is a conversation that begins with it
-/

namespace ProxyTrial

open Http (PlainField octetFields named)

/-- The expectation asks for the host that a request is sent to. -/
def Expectation.ReadsHost (e : Expectation) : Prop :=
  ∃ name, e.subject = .header name ∧ Text.lower name = "host"

/-- No handler asks for the host that a request is sent to. -/
def Origin.IgnoresHost (t : Origin.Table) : Prop :=
  ∀ h ∈ t, ∀ e ∈ h.expectations, ¬ e.ReadsHost

namespace Http

/-! ## The field at the front -/

/-- The first line of a text begins with the first character. -/
theorem head?_textLines {cs line : List Char} {lines : List (List Char)}
    (h : textLines cs = line :: lines) : line.head? = cs.head? := by
  unfold textLines at h
  split at h
  · cases h
  · cases h
    rfl
  · cases h
    rfl
  · cases h
    rfl
  · split at h
    · cases h
      rfl
    · split at h <;>
      · cases h
        rfl

/-- Octets that do not begin with a blank begin with no continuation. -/
theorem takeWhile_isContinuation {bs : Bytes} (h : bs.head?.any isPadding = false) :
    ((textLines (octetChars bs)).takeWhile isHeaderLine).takeWhile isContinuation = [] := by
  cases hlines : (textLines (octetChars bs)).takeWhile isHeaderLine with
  | nil => rfl
  | cons line lines =>
    obtain ⟨more, hmore⟩ : ∃ more, textLines (octetChars bs) = line :: more := by
      cases htext : textLines (octetChars bs) with
      | nil =>
        rw [htext] at hlines
        cases hlines
      | cons line' more =>
        rw [htext, List.takeWhile_cons] at hlines
        split at hlines
        · cases hlines
          exact ⟨more, rfl⟩
        · cases hlines
    -- The first line begins with the first octet, which is no blank.
    have hhead := head?_textLines hmore
    have hnone : isContinuation line = false := by
      have hblank : ∀ b : UInt8, isPadding b = false →
          Char.ofNat b.toNat ≠ ' ' ∧ Char.ofNat b.toNat ≠ '\t' :=
        Text.forall_octet (by decide +kernel)
      cases line with
      | nil => rfl
      | cons c line =>
        cases bs with
        | nil => cases hhead
        | cons b bs =>
          obtain rfl : c = Char.ofNat b.toNat := Option.some.inj hhead
          simpa [isContinuation] using hblank b h
    rw [List.takeWhile_cons, hnone]
    rfl

/-- The fields of a section after its first one, and the octets after them. -/
def laterFields (bs : Bytes) : Except SectionError (List (String × String) × Bytes) :=
  (sectionLines (sectionLimit - 1) bs).map fun (lines, rest) =>
    (fieldsOfLines ((textLines (octetChars lines.flatten)).takeWhile isHeaderLine), rest)

/-- The field at the front of a section is read off, unless its line is continued. -/
theorem readHeaders_fieldLine {f : String × String} (h : WrittenField f) {rest : Bytes}
    (hrest : rest.head?.any isPadding = false) :
    readHeaders (Text.ascii (fieldLine f) ++ rest) =
      (laterFields rest).map fun (fs, rest) => (received f :: fs, rest) := by
  rw [readHeaders, laterFields, show sectionLimit = sectionLimit - 1 + 1 from rfl,
    sectionLines_line h.isLine h.length_fieldLine_le]
  cases hlines : sectionLines (sectionLimit - 1) rest with
  | error e => simp only [Nat.add_sub_cancel, hlines, Except.map]
  | ok result =>
    obtain ⟨lines, rest'⟩ := result
    -- The lines that follow begin where the octets that follow begin.
    have hblank : lines.flatten.head?.any isPadding = false := by
      rw [← flatten_sectionLines hlines] at hrest
      cases hflat : lines.flatten with
      | nil => rfl
      | cons b bs =>
        rw [hflat] at hrest
        exact hrest
    have htext : octetChars (Text.ascii (fieldLine f) ++ lines.flatten) =
        (fieldLine f).toList ++ octetChars lines.flatten := by
      rw [octetChars, List.map_append, ← octetChars, ← octetChars,
        Text.octetChars_ascii h.isAscii_fieldLine]
    simp only [Nat.add_sub_cancel, hlines, Except.map, List.flatten_cons, htext,
      h.textLines_fieldLine, List.takeWhile_cons, h.isHeaderLine_fieldLine, if_true, fieldsOfLines,
      h.isContinuation_fieldLine, takeWhile_isContinuation hblank, h.fieldOfLine_fieldLine]
    rfl

end Http

/-! ## Requests that name the host -/

section Host

variable {host host' : String} {fs : Headers}

/-- Fields that can be written as octets are ASCII. -/
theorem Http.asciiFields_of_ofText {hs : Headers} {octets : Http.Fields}
    (h : Http.Fields.ofText hs = .ok octets) : Http.AsciiFields hs := by
  induction hs generalizing octets with
  | nil => exact List.forall_mem_nil _
  | cons f hs ih =>
    obtain ⟨n, hn, h⟩ := bind_eq_ok.1 h
    obtain ⟨v, hv, h⟩ := bind_eq_ok.1 h
    obtain ⟨more, hmore, -⟩ := bind_eq_ok.1 h
    exact List.forall_mem_cons.2
      ⟨⟨Text.isAscii_of_encode hn, Text.isAscii_of_encode hv⟩, ih hmore⟩

theorem Http.named_host_cons {name : String} (h : name ≠ "host") (host : String) (fs : Headers) :
    named name (("Host", host) :: fs) = named name fs := by
  have hlower : (Text.lower "Host" == name) = false := by
    rw [Http.lower_host, beq_eq_false_iff_ne]
    exact Ne.symm h
  rw [named, List.filter_cons, hlower]
  rfl

theorem Http.asciiFields_host_cons (hhost : Text.IsAscii host) (hfs : Http.AsciiFields fs) :
    Http.AsciiFields (("Host", host) :: fs) :=
  List.forall_mem_cons.2 ⟨⟨(by decide : Text.IsAscii "Host"), hhost⟩, hfs⟩

/-- The body of a request is framed by other fields. -/
theorem Http.readBody_host (hhost : Text.IsAscii host) (hhost' : Text.IsAscii host')
    (hfs : Http.AsciiFields fs) (input : Bytes) :
    Http.readBody (octetFields (("Host", host) :: fs)) input =
      Http.readBody (octetFields (("Host", host') :: fs)) input := by
  have hjoined : ∀ name, Text.IsAscii name → Text.lower name = name → name ≠ "host" →
      (octetFields (("Host", host) :: fs)).joined? name =
        (octetFields (("Host", host') :: fs)).joined? name := by
    intro name hascii hsmall hname
    rw [Http.joined?_octetFields (Http.asciiFields_host_cons hhost hfs) hascii hsmall,
      Http.joined?_octetFields (Http.asciiFields_host_cons hhost' hfs) hascii hsmall, Http.combined,
      Http.combined, Http.named_host_cons hname, Http.named_host_cons hname]
  have hlength := hjoined "content-length" (by decide)
    (Text.lower_eq_of_small (by decide) (by decide)) (by decide)
  have hencoding := hjoined "transfer-encoding" (by decide)
    (Text.lower_eq_of_small (by decide) (by decide)) (by decide)
  rw [Http.readBody, Http.readBody, Http.isChunked, Http.isChunked, Http.contentLength,
    Http.contentLength, hlength, hencoding]

/-- The request that is read has the fields as they are, and is the same for every host
otherwise. -/
theorem Request.read_host (method target : String) (fs : Headers) (input : Bytes) :
    ∃ result : Except RequestError (Request × Bytes),
      (∀ r rest, result = .ok (r, rest) → Http.AsciiFields fs) ∧
      ∀ host, Text.IsAscii host → Request.read method target (("Host", host) :: fs) input =
        result.map fun (r, rest) =>
          ({ r with fields := octetFields (("Host", host) :: fs) }, rest) := by
  cases hfs : Http.Fields.ofText fs with
  | error e =>
    refine ⟨.error (.field e), (fun _ _ h => nomatch h), fun host hhost => ?_⟩
    have hall : Http.Fields.ofText (("Host", host) :: fs) = .error e := by
      rw [Http.Fields.ofText, Text.encode_ascii hhost, hfs,
        Text.encode_ascii (by decide)]
      rfl
    rw [Request.read, hall]
    rfl
  | ok octets =>
    have ha := Http.asciiFields_of_ofText hfs
    refine ⟨Request.read method target (("Host", "") :: fs) input, fun _ _ _ => ha,
      fun host hhost => ?_⟩
    have hempty : Text.IsAscii "" := by decide
    rw [Request.read, Request.read, Http.ofText_ascii (Http.asciiFields_host_cons hhost ha),
      Http.ofText_ascii (Http.asciiFields_host_cons hempty ha)]
    simp only [Except.mapError, ok_bind]
    rw [Http.readBody_host hhost hempty ha]
    cases Http.readBody (octetFields (("Host", "") :: fs)) input with
    | error e => rfl
    | ok result =>
      simp only [ok_bind]
      cases Http.targetPath target <;> rfl

/-- An expectation that does not ask for the host finds the same for every host. -/
theorem Expectation.check_host {e : Expectation} (h : ¬ e.ReadsHost) (hhost : Text.IsAscii host)
    (hhost' : Text.IsAscii host') (hfs : Http.AsciiFields fs) (r : Request) :
    e.check (.request { r with fields := octetFields (("Host", host) :: fs) }) =
      e.check (.request { r with fields := octetFields (("Host", host') :: fs) }) := by
  have hactual : e.actual (.request { r with fields := octetFields (("Host", host) :: fs) }) =
      e.actual (.request { r with fields := octetFields (("Host", host') :: fs) }) := by
    unfold Expectation.actual
    split
    · next name hsubject =>
      have hname : Text.lower name ≠ "host" := fun hname => h ⟨name, hsubject, hname⟩
      have hvalues : (octetFields (("Host", host) :: fs)).values name =
          (octetFields (("Host", host') :: fs)).values name := by
        have hall := Http.asciiFields_host_cons hhost hfs
        have hall' := Http.asciiFields_host_cons hhost' hfs
        by_cases hascii : Text.IsAscii (Text.lower name)
        · rw [Http.values_octetFields hall hascii, Http.values_octetFields hall' hascii,
            Http.named_host_cons hname, Http.named_host_cons hname]
        · -- The name is refused, whatever the fields are.
          rw [Http.Fields.values, Http.Fields.values, Http.encoding_octetFields hall,
            Http.encoding_octetFields hall']
          cases hwanted : Http.FieldEncoding.ascii.encode (Text.lower name) with
          | error e => rfl
          | ok wanted => exact absurd (Text.isAscii_of_encode hwanted) hascii
      simp only [Message.fields, hvalues]
    all_goals rfl
  rw [Expectation.check, Expectation.check, hactual]

namespace Origin

variable {t : Table}

/-- The reply to a request is the same for every host. -/
theorem respond_host (ht : IgnoresHost t) (hhost : Text.IsAscii host)
    (hhost' : Text.IsAscii host') (hfs : Http.AsciiFields fs) (r : Request) :
    respond t { r with fields := octetFields (("Host", host) :: fs) } =
      respond t { r with fields := octetFields (("Host", host') :: fs) } := by
  unfold respond
  cases hroute : t.route? r.path with
  | none => rfl
  | some h =>
    have hblind := ht h (Table.mem_of_route? hroute)
    simp only [judge_congr fun e he =>
      Expectation.check_host (hblind e he) hhost hhost' hfs r]

/-- The answer to a request is the same for every host. -/
theorem serve_host (ht : IgnoresHost t) (hhost : Text.IsAscii host)
    (hhost' : Text.IsAscii host') (head : Http.Head) (input : Bytes) :
    serve t { head with headers := ("Host", host) :: fs } input =
      serve t { head with headers := ("Host", host') :: fs } input := by
  obtain ⟨result, hascii, hread⟩ := Request.read_host head.method head.target fs input
  unfold serve
  simp only [hread host hhost, hread host' hhost']
  cases result with
  | error e => rfl
  | ok result =>
    have hrespond := respond_host ht hhost hhost' (hascii _ _ rfl) result.1
    simp only [Except.map, hrespond]
    rfl

end Origin

end Host

/-! ## Conversations -/

namespace Origin

variable {t : Table} {method target host host' : String}

/-- A request with this line and this host; `rest` are the octets after them. -/
def hostedRequest (method target host : String) (rest : Bytes) : Bytes :=
  Text.ascii (Http.requestLine method target) ++
    (Text.ascii (Http.fieldLine (Outgoing.padded ("Host", host))) ++ rest)

/-- A host that a field can hold. -/
structure PlainHost (host : String) : Prop where
  plain : PlainField ("Host", host)
  fits : host.length + 8 ≤ Http.lineLimit

theorem PlainHost.written (h : PlainHost host) :
    Http.WrittenField (Outgoing.padded ("Host", host)) := by
  have hname : "Host".length = 4 := by decide
  have hfits := h.fits
  refine Outgoing.writtenField_padded h.plain ?_
  simp only [hname]
  omega

/-- The host is among the fields of the head, and decides nothing else in it. -/
theorem head_host_cons (line : Http.RequestLine) (host : String) (fs : Headers) :
    line.head (("Host", host) :: fs) = { line.head fs with headers := ("Host", host) :: fs } := by
  have hfirst : ∀ name, name ≠ "host" →
      Http.firstValue (("Host", host) :: fs) name = Http.firstValue fs name := by
    intro name hname
    have hlower : (Text.lower "Host" == name) = false := by
      rw [Http.lower_host, beq_eq_false_iff_ne]
      exact Ne.symm hname
    simp only [Http.firstValue, List.find?_cons, hlower]
  rw [Http.RequestLine.head, Http.RequestLine.head, hfirst _ (by decide), hfirst _ (by decide)]

/-- The head of a request is read off its front, and the host off the fields. -/
theorem readHead_hosted (hm : Http.Graphic method) (ht : Http.Graphic target) (h : PlainHost host)
    {rest : Bytes} (hrest : rest.head?.any Http.isPadding = false) :
    let line : Http.RequestLine := ⟨method, Http.collapseSlashes target, "HTTP/1.1", true⟩
    Http.readHead (hostedRequest method target host rest) =
      if (Text.ascii (Http.requestLine method target)).length > Http.lineLimit then
        .error ⟨.longRequestLine, false, false⟩
      else match Http.laterFields rest with
        | .error e => .error ⟨.headerSection e, line.version == Http.oldestVersion,
            method == "HEAD"⟩
        | .ok (fs, rest) =>
            .ok (some ({ line.head fs with headers := ("Host", host) :: fs }, rest)) := by
  intro line
  rw [hostedRequest, Http.readHead, Http.splitLine_requestLine hm ht]
  simp only [Http.trimEndBy_requestLine hm ht, String.ofList_toList, Http.ofText_requestText hm ht,
    Http.readHeaders_fieldLine h.written hrest, Outgoing.received_padded h.plain, ok_bind]
  refine if_congr Iff.rfl rfl ?_
  cases Http.laterFields rest with
  | error e => rfl
  | ok result =>
    simp only [Except.map, head_host_cons]
    rfl

/-- A turn is the same for every host. -/
theorem turn_host (ht : IgnoresHost t) (hmethod : Http.Graphic method)
    (htarget : Http.Graphic target) (h : PlainHost host) (h' : PlainHost host') {rest : Bytes}
    (hrest : rest.head?.any Http.isPadding = false) :
    turn t (hostedRequest method target host rest) =
      turn t (hostedRequest method target host' rest) := by
  rw [turn, turn, readHead_hosted hmethod htarget h hrest, readHead_hosted hmethod htarget h' hrest]
  by_cases hlong : (Text.ascii (Http.requestLine method target)).length > Http.lineLimit
  · rw [if_pos hlong, if_pos hlong]
  · rw [if_neg hlong, if_neg hlong]
    cases Http.laterFields rest with
    | error e => rfl
    | ok result => exact serve_host ht h.plain.isAscii_value h'.plain.isAscii_value _ _

/-- A conversation is the same for every host that its first request names. -/
theorem converse_host (ht : IgnoresHost t) (hmethod : Http.Graphic method)
    (htarget : Http.Graphic target) (h : PlainHost host) (h' : PlainHost host') {rest : Bytes}
    (hrest : rest.head?.any Http.isPadding = false) :
    converse t (hostedRequest method target host rest) =
      converse t (hostedRequest method target host' rest) :=
  converse_congr (turn_host ht hmethod htarget h h' hrest)

end Origin

end ProxyTrial
