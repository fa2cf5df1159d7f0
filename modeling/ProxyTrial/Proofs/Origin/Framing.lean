import ProxyTrial.Proofs.Client.Incoming
/-!
# Replies that follow each other on a connection

The origin writes replies one after another, and nothing between them. Where a reply ends follows
from the method of its request, its status and its length: a reader that knows the methods takes
the replies apart again. This holds of replies with any Latin-1 in their headers, not only of those
that a strict client accepts.

## Main definitions

* `headText r`: the head of a reply, line by line
* `bodySent method r`: the body of a reply, as far as it is sent
* `Sendable r`: replies as they are written down, whose headers say nothing about framing
* `Received.readAll? methods`: the replies to requests with these methods, from their octets

## Main results

* `encodeReply_layout`: a reply in octets
* `Received.readOne?_append`: a reply is read off, whatever follows it
* `replies_self_delimiting`: replies are read as they were written, and nothing is left
-/

namespace ProxyTrial.Origin

/-! ## Replies as they are written -/

/-- The statuses of replies that have a body and thus a length. -/
def HasLength (status : Int) : Prop := 200 ≤ status ∧ status ≠ 204 ∧ status ≠ 304

instance (status : Int) : Decidable (HasLength status) :=
  inferInstanceAs (Decidable (_ ∧ _ ∧ _))

/-- The field that states the length of a body in octets. -/
def lengthField (r : Reply) : Headers :=
  if HasLength r.status then [("Content-Length", toString (Text.utf8 r.body).length)] else []

/-- The fields of a reply, those that the origin adds included. -/
def sentFields (r : Reply) : Headers := standingFields ++ r.headers ++ lengthField r

/-- The head of a reply: the status line, a line for each field, and an empty line. -/
def headText (r : Reply) : String :=
  String.join <|
    (statusLine r.status :: (sentFields r).map fieldText ++ [""]).map (· ++ "\r\n")

/-- The body of a reply, as far as it is sent to a request with this method. -/
def bodySent (method : String) (r : Reply) : String :=
  if HasLength r.status ∧ method ≠ "HEAD" then r.body else ""

/-- A text without line ends. -/
def IsOneLine (s : String) : Prop := ∀ c ∈ s.toList, c ≠ '\r' ∧ c ≠ '\n'

instance (s : String) : Decidable (IsOneLine s) := List.decidableBAll _ s.toList

/-- A header as it is written down: one line of Latin-1, without blanks around its name and its
value. -/
structure SendableField (f : String × String) : Prop where
  name_ne_empty : f.1 ≠ ""
  name_trimmed : Text.trim f.1 = f.1
  colon_notMem_name : ':' ∉ f.1.toList
  value_trimmed : Text.trim f.2 = f.2
  latin1 : Text.IsLatin1 f.1 ∧ Text.IsLatin1 f.2
  oneLine : IsOneLine f.1 ∧ IsOneLine f.2

/-- Replies as they are written down, with headers that say nothing about the length of the body,
its coding or the connection. -/
structure Sendable (r : Reply) : Prop where
  status : 100 ≤ r.status ∧ r.status ≤ 999
  fields : ∀ f ∈ r.headers, SendableField f
  unframed : ∀ f ∈ r.headers,
    Text.lower f.1 ∉ ["content-length", "transfer-encoding", "connection"]

instance (f : String × String) : Decidable (SendableField f) :=
  decidable_of_iff (f.1 ≠ "" ∧ Text.trim f.1 = f.1 ∧ ':' ∉ f.1.toList ∧ Text.trim f.2 = f.2 ∧
      (Text.IsLatin1 f.1 ∧ Text.IsLatin1 f.2) ∧ IsOneLine f.1 ∧ IsOneLine f.2)
    ⟨fun ⟨h₁, h₂, h₃, h₄, h₅, h₆⟩ => ⟨h₁, h₂, h₃, h₄, h₅, h₆⟩,
      fun ⟨h₁, h₂, h₃, h₄, h₅, h₆⟩ => ⟨h₁, h₂, h₃, h₄, h₅, h₆⟩⟩

instance (r : Reply) : Decidable (Sendable r) :=
  decidable_of_iff ((100 ≤ r.status ∧ r.status ≤ 999) ∧ (∀ f ∈ r.headers, SendableField f) ∧
      ∀ f ∈ r.headers, Text.lower f.1 ∉ ["content-length", "transfer-encoding", "connection"])
    ⟨fun ⟨h₁, h₂, h₃⟩ => ⟨h₁, h₂, h₃⟩, fun ⟨h₁, h₂, h₃⟩ => ⟨h₁, h₂, h₃⟩⟩

theorem carriesBody_iff {status : Int} : Http.carriesBody status ↔ HasLength status := by
  simp only [Http.carriesBody, HasLength, Bool.not_eq_true', Bool.or_eq_false_iff,
    decide_eq_false_iff_not, beq_eq_false_iff_ne, Int.not_lt, and_assoc]

namespace Sendable

variable {r : Reply}

theorem latin1 (h : Sendable r) : Http.Latin1Fields r.headers := fun f hf => (h.fields f hf).latin1

/-- No header states the length of the body, so that the origin does. -/
theorem headersSent_eq (h : Sendable r) : headersSent r = r.headers ++ lengthField r := by
  have hstates : statesLength r.headers = false := by
    rw [statesLength, List.any_eq_false]
    intro f hf he
    have hname := h.unframed f hf
    rw [beq_iff_eq.1 he] at hname
    exact hname List.mem_cons_self
  by_cases hlength : HasLength r.status
  · have hcarries : Http.carriesBody r.status = true := carriesBody_iff.2 hlength
    rw [headersSent, lengthField, payload, hstates, hcarries, if_pos hlength]
    rfl
  · have hcarries : Http.carriesBody r.status = false :=
      Bool.eq_false_iff.2 (mt carriesBody_iff.1 hlength)
    rw [headersSent, lengthField, hcarries, if_neg hlength, List.append_nil]
    rfl

theorem sendableField_length (n : Nat) : SendableField ("Content-Length", toString n) where
  name_ne_empty := (by decide : "Content-Length" ≠ "")
  name_trimmed := (by decide : Text.trim "Content-Length" = "Content-Length")
  colon_notMem_name := (by decide : ':' ∉ "Content-Length".toList)
  value_trimmed := Text.trim_eq_self fun c hc =>
    (Text.isDigit_spec (Text.isDigit_toString n c hc)).2.2.1
  latin1 := ⟨(by decide : Text.IsLatin1 "Content-Length"), (Text.isAscii_repr n).isLatin1⟩
  oneLine := by
    refine ⟨(by decide : IsOneLine "Content-Length"), fun c hc => ?_⟩
    have hdigit := Text.isDigit_toString n c hc
    refine ⟨?_, ?_⟩
    · rintro rfl
      exact absurd hdigit (by decide)
    · rintro rfl
      exact absurd hdigit (by decide)

/-- The fields that the origin adds are no different from those of the reply. -/
theorem sendable_sentFields (h : Sendable r) : ∀ f ∈ sentFields r, SendableField f := by
  have hstanding : ∀ f ∈ standingFields, SendableField f := by decide
  refine List.forall_mem_append.2 ⟨List.forall_mem_append.2 ⟨hstanding, h.fields⟩, ?_⟩
  unfold lengthField
  split
  · exact List.forall_mem_singleton.2 (sendableField_length _)
  · exact List.forall_mem_nil _

end Sendable

theorem utf8_bodySent (method : String) (r : Reply) :
    Text.utf8 (bodySent method r) = if method == "HEAD" then [] else payload r := by
  have hcarries : Http.carriesBody r.status ↔ HasLength r.status := carriesBody_iff
  by_cases hhead : method = "HEAD"
  · simp [bodySent, hhead]
  · simp [bodySent, payload, hhead, hcarries, apply_ite Text.utf8]

theorem SendableField.isLatin1_fieldText {f : String × String} (h : SendableField f) :
    Text.IsLatin1 (fieldText f) :=
  Text.isLatin1_append.2 ⟨Text.isLatin1_append.2 ⟨h.latin1.1, by decide⟩, h.latin1.2⟩

/-- The octets of a head are its text in Latin-1. -/
theorem encode_headText {r : Reply} (h : Sendable r) :
    Text.encode .latin1 (headText r) = .ok (headOctets r.status (sentFields r)) := by
  have hlines : ∀ text ∈ statusLine r.status :: (sentFields r).map fieldText ++ [""],
      Text.IsLatin1 (text ++ "\r\n") := by
    intro text htext
    refine Text.isLatin1_append.2 ⟨?_, by decide⟩
    simp only [List.cons_append, List.mem_cons, List.mem_append, List.mem_map, List.not_mem_nil,
      or_false] at htext
    rcases htext with rfl | ⟨f, hf, rfl⟩ | rfl
    · exact (isAscii_statusLine r.status).isLatin1
    · exact (h.sendable_sentFields f hf).isLatin1_fieldText
    · decide
  have hoctets : Text.ascii (headText r) = headOctets r.status (sentFields r) := by
    rw [headText, Text.ascii_join, headOctets, headLines, List.flatMap_map, List.flatMap_append]
    simp only [Text.ascii_append, Text.ascii_crlf, List.flatMap_singleton]
    rfl
  have hlatin1 : Text.IsLatin1 (headText r) := Text.isLatin1_join (List.forall_mem_map.2 hlines)
  rw [Text.encode_latin1 hlatin1, hoctets]

/-- A reply in octets: its head, and its body unless none is sent. -/
theorem encodeReply_layout {r : Reply} (h : Sendable r) (method : String) :
    encodeReply false method r =
      .ok (headOctets r.status (sentFields r) ++ Text.utf8 (bodySent method r)) := by
  rw [encodeReply_latin1 h.latin1, h.headersSent_eq, ← List.append_assoc, utf8_bodySent]
  rfl

/-! ## Replies as they are read -/

/-- A reply as a reader takes it. -/
structure Received where
  status : Int
  fields : Headers
  body : String
  deriving DecidableEq, Repr

namespace Received

/-- The number that a text of digits states. -/
def decimal? (s : String) : Option Nat :=
  if s ≠ "" ∧ s.toList.all Char.isDigit then some (Nat.ofDigitChars 10 s.toList 0) else none

/-- The length of the body of a reply to a request with this method: there is none in reply to HEAD
and with some statuses, and else the fields have to state it, once. -/
def length? (method : String) (status : Nat) (fields : Headers) : Option Nat :=
  if method = "HEAD" ∨ status < 200 ∨ status = 204 ∨ status = 304 then some 0
  else match Http.named "content-length" fields with
    | [value] => decimal? value
    | _ => none

/-- The field of a header line, which has a colon. -/
def field? (line : Bytes) : Option (String × String) :=
  match Text.cutAt 58 line with
  | (name, some value) =>
    some (Text.ofLatin1 name, Text.ofLatin1 (Text.trimBy Http.isPadding value))
  | _ => none

/-- The reply at the start of the octets, to a request with this method, and the octets after it. -/
def readOne? (method : String) (bs : Bytes) : Option (Received × Bytes) := do
  match ← Incoming.sectionLines bs with
  | ([], _) => none
  | (first :: lines, rest) =>
    let status ← Incoming.statusOfLine? first
    let fields ← lines.mapM field?
    let length ← length? method status fields
    if rest.length < length then none
    else return (⟨status, fields, Text.ofUtf8Lenient (rest.take length)⟩, rest.drop length)

/-- The replies at the start of the octets, to requests with these methods, and the octets after
them. -/
def readAll? : (methods : List String) → Bytes → Option (List Received × Bytes)
  | [], bs => some ([], bs)
  | method :: methods, bs => do
    let (reply, bs) ← readOne? method bs
    let (replies, bs) ← readAll? methods bs
    return (reply :: replies, bs)

/-- What is to be read of a reply. -/
def ofReply (method : String) (r : Reply) : Received :=
  ⟨r.status, sentFields r, bodySent method r⟩

/-! ### Fields -/

theorem decimal?_toString (n : Nat) : decimal? (toString n) = some n := by
  have hne : toString n ≠ "" := by
    rw [Ne, ← String.toList_eq_nil_iff, Nat.toString_eq_repr, Nat.toList_repr]
    exact Nat.toDigits_ne_nil
  have hdigits : (toString n).toList.all Char.isDigit = true :=
    List.all_eq_true.2 (Text.isDigit_toString n)
  rw [decimal?, if_pos ⟨hne, hdigits⟩, Nat.toString_eq_repr, Nat.toList_repr,
    Nat.ofDigitChars_ten_toDigits]

/-- What no blank is no padding either. -/
theorem isPadding_octet {c : Char} (hc : c.toNat < 256) (h : Text.isBlank c = false) :
    Http.isPadding (UInt8.ofNat c.toNat) = false := by
  have hne : ∀ d : Char, Text.isBlank d = true → d.toNat < 256 →
      UInt8.ofNat c.toNat ≠ UInt8.ofNat d.toNat := by
    intro d hd hlt he
    rw [Text.eq_of_octet hc hlt he, hd] at h
    cases h
  rw [Http.isPadding, Bool.or_eq_false_iff, beq_eq_false_iff_ne, beq_eq_false_iff_ne]
  exact ⟨hne ' ' (by decide) (by decide), hne '\t' (by decide) (by decide)⟩

section Field

variable {f : String × String} (h : SendableField f)
include h

/-- The space before a value goes, and the value stays. -/
theorem trimBy_value : Text.trimBy Http.isPadding (32 :: Text.ascii f.2) = Text.ascii f.2 := by
  have htrimmed := congrArg String.toList h.value_trimmed
  rw [Text.trim, String.toList_ofList] at htrimmed
  obtain ⟨hfirst, hlast⟩ := Text.ends_of_trimBy_eq_self htrimmed
  have hend : ∀ o : Option Char, (∀ c ∈ o, c ∈ f.2.toList) → (∀ c ∈ o, Text.isBlank c = false) →
      (o.map fun c => UInt8.ofNat c.toNat).any Http.isPadding = false := by
    rintro (_ | c) hmem hblank
    · rfl
    · exact isPadding_octet (h.latin1.2 c (hmem c rfl)) (hblank c rfl)
  rw [Text.trimBy_cons_of_pos _ _ (by decide), Text.ascii]
  refine Text.trimBy_eq_self_of_ends ?_ ?_
  · rw [List.head?_map]
    exact hend _ (fun c => List.mem_of_head?) hfirst
  · rw [List.getLast?_map]
    exact hend _ (fun c => List.mem_of_getLast?) hlast

theorem field?_fieldText : field? (Text.ascii (fieldText f)) = some f := by
  have hcolon : (58 : UInt8) ∉ Text.ascii f.1 :=
    h.latin1.1.notMem_ascii (c := ':') (by decide) h.colon_notMem_name
  rw [field?, Incoming.ascii_fieldText, Text.cutAt_append hcolon]
  simp only [trimBy_value h, h.latin1.1.ofLatin1_ascii, h.latin1.2.ofLatin1_ascii]

theorem isOneLine_fieldText : IsOneLine (fieldText f) := by
  have hseparator : IsOneLine ": " := by decide
  simp only [IsOneLine, fieldText, String.toList_append, List.forall_mem_append]
  exact ⟨⟨h.oneLine.1, hseparator⟩, h.oneLine.2⟩

theorem isContent_fieldText : Incoming.IsContent (Text.ascii (fieldText f)) := by
  have hlatin1 := h.isLatin1_fieldText
  have honeLine := isOneLine_fieldText h
  exact {
    ne_nil := by simp [Incoming.ascii_fieldText]
    lineFeed := hlatin1.notMem_ascii (c := '\n') (by decide) fun hm => (honeLine _ hm).2 rfl
    carriageReturn := hlatin1.notMem_ascii (c := '\r') (by decide) fun hm => (honeLine _ hm).1 rfl }

end Field

theorem mapM_field? {hs : Headers} (h : ∀ f ∈ hs, SendableField f) :
    (hs.map fun f => Text.ascii (fieldText f)).mapM field? = some hs := by
  induction hs with
  | nil => rfl
  | cons f hs ih =>
    rw [List.forall_mem_cons] at h
    rw [List.map_cons, List.mapM_cons, field?_fieldText h.1, ih h.2]
    rfl

/-! ### Replies -/

section Reply

variable {r : Reply} (h : Sendable r)
include h

/-- The only field that states a length is the one that the origin adds. -/
theorem named_sentFields :
    Http.named "content-length" (sentFields r) = (lengthField r).map (·.2) := by
  have hstanding : Http.named "content-length" standingFields = [] :=
    named_standingFields (by decide)
  have hown : Http.named "content-length" r.headers = [] :=
    Http.named_eq_nil_iff.2 fun f hf he => h.unframed f hf (he ▸ List.mem_cons_self)
  rw [sentFields, Http.named_append, Http.named_append, hstanding, hown]
  unfold lengthField
  split
  · exact Http.named_cons_of_eq Http.lower_contentLength []
  · rfl

theorem length?_sentFields {n : Nat} (hn : r.status = n) (method : String) :
    length? method n (sentFields r) = some (Text.utf8 (bodySent method r)).length := by
  have hstatus : HasLength r.status ↔ ¬ (n < 200 ∨ n = 204 ∨ n = 304) := by
    rw [HasLength, hn]
    omega
  unfold length?
  split
  · next hnone =>
    have hbody : bodySent method r = "" := by
      refine if_neg fun hsent => ?_
      rcases hnone with hhead | hnone
      · exact hsent.2 hhead
      · exact hstatus.1 hsent.1 hnone
    rw [hbody, Text.utf8_empty, List.length_nil]
  · next hsome =>
    rw [not_or] at hsome
    have hlength := hstatus.2 hsome.2
    have hbody : bodySent method r = r.body := if_pos ⟨hlength, hsome.1⟩
    rw [named_sentFields h, lengthField, if_pos hlength, hbody]
    exact decimal?_toString _

/-- A reply is read off, whatever follows it. -/
theorem readOne?_append (method : String) (rest : Bytes) :
    readOne? method
        (headOctets r.status (sentFields r) ++ (Text.utf8 (bodySent method r) ++ rest)) =
      some (ofReply method r, rest) := by
  obtain ⟨n, hn⟩ := Int.eq_ofNat_of_zero_le (Int.le_trans (by decide) h.status.1)
  have hge : 100 ≤ n := by have := h.status.1; omega
  have hle : n ≤ 999 := by have := h.status.2; omega
  have hlines := Incoming.sectionLines_headOctets (n := n)
    (fun f hf => isContent_fieldText (h.sendable_sentFields f hf))
    (Text.utf8 (bodySent method r) ++ rest)
  have hfields := mapM_field? h.sendable_sentFields
  have hlength := length?_sentFields h hn method
  have hshort : ¬ (Text.utf8 (bodySent method r) ++ rest).length <
      (Text.utf8 (bodySent method r)).length := by simp
  rw [readOne?, ofReply, hn, hlines, headLines, List.map_cons, List.map_map]
  simp only [Option.bind_eq_bind, Option.bind_some, Incoming.statusOfLine?_statusLine hge hle,
    Function.comp_def, hfields, hlength, if_neg hshort, List.take_left, List.drop_left,
    Text.ofUtf8Lenient_utf8]
  rfl

end Reply

end Received

section Connection

variable {exchanges : List (String × Reply)}

/-- Replies are taken off a connection one by one, in the order in which they were written. -/
theorem readAll?_append (h : ∀ x ∈ exchanges, Sendable x.2) (rest : Bytes) :
    Received.readAll? (exchanges.map (·.1))
        ((exchanges.flatMap fun x =>
          headOctets x.2.status (sentFields x.2) ++ Text.utf8 (bodySent x.1 x.2)) ++ rest) =
      some (exchanges.map fun x => Received.ofReply x.1 x.2, rest) := by
  induction exchanges with
  | nil => rfl
  | cons x exchanges ih =>
    rw [List.forall_mem_cons] at h
    have hfirst := Received.readOne?_append h.1 x.1
    simp only [List.flatMap_cons, List.append_assoc] at ih ⊢
    rw [List.map_cons, Received.readAll?, hfirst]
    simp only [Option.bind_eq_bind, Option.bind_some, ih h.2]
    rfl

/-- Replies are self-delimiting. Each is a head of one line for the status and for each field, with
a line for the length if the status goes with a body, and the body as far as it is sent. A reader
that knows the methods of the requests takes a list of replies off a connection as they were, and
nothing is left. -/
theorem replies_self_delimiting (h : ∀ x ∈ exchanges, Sendable x.2) :
    (∀ x ∈ exchanges, ∃ octets, Text.encode .latin1 (headText x.2) = .ok octets ∧
      encodeReply false x.1 x.2 = .ok (octets ++ Text.utf8 (bodySent x.1 x.2))) ∧
    ∃ replies, exchanges.mapM (fun x => encodeReply false x.1 x.2) = .ok replies ∧
      Received.readAll? (exchanges.map (·.1)) replies.flatten =
        some (exchanges.map fun x => Received.ofReply x.1 x.2, []) := by
  refine ⟨fun x hx => ⟨_, encode_headText (h x hx), encodeReply_layout (h x hx) x.1⟩, ?_⟩
  refine ⟨exchanges.map fun x =>
    headOctets x.2.status (sentFields x.2) ++ Text.utf8 (bodySent x.1 x.2), ?_, ?_⟩
  · exact mapM_eq_ok_map fun x hx => encodeReply_layout (h x hx) x.1
  · have hread := readAll?_append h []
    rwa [List.append_nil, List.flatMap_def] at hread

/-- Bodies that are not sent, a body of two octets a character, and one that is empty. -/
theorem replies_self_delimiting_mixed :
    ∃ replies,
      [("HEAD", { body := "é" }), ("GET", { status := 204, body := "gone" }),
        ("POST", { headers := [("X", "é")], body := "é" }), ("GET", ({} : Reply))].mapM
          (fun x => encodeReply false x.1 x.2) = .ok replies ∧
      Received.readAll? ["HEAD", "GET", "POST", "GET"] replies.flatten =
        some ([⟨200, standingFields ++ [("Content-Length", "2")], ""⟩, ⟨204, standingFields, ""⟩,
          ⟨200, standingFields ++ [("X", "é"), ("Content-Length", "2")], "é"⟩,
          ⟨200, standingFields ++ [("Content-Length", "0")], ""⟩], []) := by
  have hsendable : ∀ x ∈ [("HEAD", { body := "é" }), ("GET", { status := 204, body := "gone" }),
      ("POST", { headers := [("X", "é")], body := "é" }), ("GET", ({} : Reply))],
      Sendable x.2 := by decide +kernel
  obtain ⟨-, replies, hreplies, hread⟩ := replies_self_delimiting hsendable
  exact ⟨replies, hreplies, hread.trans (by decide +kernel)⟩

end Connection

end ProxyTrial.Origin
