import ProxyTrial.Client.Exchange
import ProxyTrial.Proofs.Client.Outgoing
import ProxyTrial.Proofs.Origin.HostField
/-!
# Why a request fails

There may be no request at all, since the text of the URL, a header, the host or the method will not
do; the request may be impossible to write; and what comes back may be no response.

Of all that is wrong with a request that is written, the length of its body is found last. A client
states that length itself, unless the headers of the call state one. What it states itself is right,
so that only a length among the headers can be at odds with the body. It is the first length stated
that counts, since all others have to be the same.

## Main definitions

* `Http.Url.HostFails reader u fault`: what is wrong with the host of a URL
* `ExchangeError.OfResponse e`: what may be wrong with a response
* `Outgoing.redirect? o bs`: the place that octets redirect a request to
* `Outgoing.RedirectFails a o bs error`: what is wrong with a redirect

## Main results

* `Http.fieldValue?_reconcileFrom`: the length that is kept is the first one stated
* `Outgoing.made_of_ofUrl`, `Outgoing.ofUrl_eq_error`: what a request is made of, and why there is
  none
* `Outgoing.fieldValue?_ofUrl`: the length among the fields of a request
* `Outgoing.encode_mismatch`: whose fault a length is that is not that of the body
* `Outgoing.failsOnly_answer`: what may be wrong with a response
* `Outgoing.redirectFails_of_answer`: what is to blame for a redirect that fails
-/

namespace ProxyTrial

namespace Http

variable {fs gs : Fields} {name : String}

theorem fieldValue?_append (fs gs : Fields) (name : String) :
    fieldValue? (fs ++ gs) name = (fieldValue? fs name).or (fieldValue? gs name) := by
  rw [fieldValue?, List.find?_append, fieldValue?, fieldValue?]
  cases fs.find? fun f => Fields.fold f.1 == Text.ascii name <;> rfl

theorem fieldValue?_cons_of_eq {n : Bytes} (h : Fields.fold n = Text.ascii name) (value : Bytes)
    (fs : Fields) : fieldValue? ((n, value) :: fs) name = some value := by
  rw [fieldValue?, List.find?_cons_of_pos (by simpa using h)]
  rfl

theorem fieldValue?_cons_of_ne {n : Bytes} (h : Fields.fold n ≠ Text.ascii name) (value : Bytes)
    (fs : Fields) : fieldValue? ((n, value) :: fs) name = fieldValue? fs name := by
  rw [fieldValue?, List.find?_cons_of_neg (by simpa using h), fieldValue?]

theorem fieldValue?_eq_none_iff :
    fieldValue? fs name = none ↔ ∀ f ∈ fs, Fields.fold f.1 ≠ Text.ascii name := by
  simp [fieldValue?, List.find?_eq_none]

/-- Whether there is a field with a name. -/
theorem isSome_fieldValue? (fs : Fields) (name : String) :
    (fieldValue? fs name).isSome = Outgoing.has fs name := by
  rw [fieldValue?, Option.isSome_map, List.isSome_find?, Outgoing.has]

/-- The length that is kept is the first one stated. -/
theorem fieldValue?_reconcileFrom {check : Bytes × Bytes → Except FieldFault Unit} {encoded : Bool}
    (h : reconcileFrom check none encoded fs = .ok gs) :
    (fieldValue? fs "content-length").mapM statedLength =
      .ok (fieldValue? gs "content-length") := by
  -- The induction is on the fields up to the first length.
  induction fs generalizing encoded gs with
  | nil =>
    obtain rfl := Except.ok.inj h
    rfl
  | cons f fs ih =>
    obtain ⟨n, v⟩ := f
    obtain ⟨⟨⟩, -, h⟩ := bind_eq_ok.1 h
    split at h
    · next hname =>
      have hname := beq_iff_eq.1 hname
      obtain ⟨stated, hstated, h⟩ := bind_eq_ok.1 h
      obtain ⟨more, -, h⟩ := bind_eq_ok.1 h
      obtain rfl := pure_eq_ok.1 h
      rw [fieldValue?_cons_of_eq hname, fieldValue?_cons_of_eq hname, Option.mapM_some, hstated]
      rfl
    · next hname =>
      have hname : Fields.fold n ≠ Text.ascii "content-length" := by simpa using hname
      have hother : ∀ {value : Bytes} {encoded : Bool},
          (do return (n, value) :: (← reconcileFrom check none encoded fs)) = .ok gs →
            (fieldValue? ((n, v) :: fs) "content-length").mapM statedLength =
              .ok (fieldValue? gs "content-length") := by
        intro value encoded h
        obtain ⟨more, hmore, h⟩ := bind_eq_ok.1 h
        obtain rfl := pure_eq_ok.1 h
        rw [fieldValue?_cons_of_ne hname, fieldValue?_cons_of_ne hname]
        exact ih hmore
      split at h
      · split at h
        · cases h
        · split at h
          · cases h
          · exact hother h
      · exact hother h

/-- The first length stated delimits the body, if no transfer encoding does. -/
theorem framing_of_reconcileSent (h : reconcileSent fs = .ok gs) :
    framing gs = .chunked ∨
      (fieldValue? fs "content-length" = none ∧ framing gs = .unstated) ∨
      ∃ value stated, fieldValue? fs "content-length" = some value ∧
        statedLength value = .ok stated ∧ framing gs = .length (ofDigitOctets stated) := by
  have hkept := fieldValue?_reconcileFrom h
  rw [framing]
  split
  · exact .inl rfl
  · cases hvalue : fieldValue? fs "content-length" with
    | none =>
      rw [hvalue] at hkept
      rw [← Except.ok.inj hkept]
      exact .inr (.inl ⟨rfl, rfl⟩)
    | some value =>
      rw [hvalue, Option.mapM_some] at hkept
      obtain ⟨stated, hstated, hkept⟩ := map_eq_ok.1 hkept
      rw [← hkept]
      exact .inr (.inr ⟨value, stated, rfl, hstated, rfl⟩)

/-! ## Hosts -/

/-- What is wrong with the host of a URL: it is written in ASCII for a name that cannot be read, or
it is not ASCII. -/
inductive Url.HostFails (reader : HostReader) (u : Url) : HostFault → Prop
  | unreadable {reason : String} (marked : labelMark.isPrefixOf u.host.toList)
      (unread : reader u.host = .error reason) : u.HostFails reader (.unreadable reason)
  | notAscii {error : Text.EncodeError} (host : ¬ Text.IsAscii u.host) :
      u.HostFails reader (.notAscii error)

theorem hostText_eq_error {reader : HostReader} {host : String} {fault : HostFault}
    (h : hostText reader host = .error fault) :
    labelMark.isPrefixOf host.toList ∧
      ∃ reason, reader host = .error reason ∧ fault = .unreadable reason := by
  rw [hostText] at h
  split at h
  · next hmark =>
    obtain ⟨reason, hreason, rfl⟩ := mapError_eq_error.1 h
    exact ⟨hmark, reason, hreason, rfl⟩
  · cases h

theorem hostFails_of_hostText {reader : HostReader} {u : Url} {fault : HostFault}
    (h : hostText reader u.host = .error fault) : u.HostFails reader fault := by
  obtain ⟨hmark, reason, hreason, rfl⟩ := hostText_eq_error h
  exact .unreadable hmark hreason

theorem checkAscii_eq_error {host : String} {fault : HostFault}
    (h : checkAscii host = .error fault) :
    ¬ Text.IsAscii host ∧ ∃ error, fault = .notAscii error := by
  refine ⟨fun hascii => ?_, ?_⟩
  · rw [checkAscii_of_isAscii hascii] at h
    cases h
  · rcases bind_eq_error.1 h with h | ⟨octets, -, h⟩
    · obtain ⟨error, -, rfl⟩ := mapError_eq_error.1 h
      exact ⟨error, rfl⟩
    · cases h

theorem hostFails_of_checkAscii {reader : HostReader} {u : Url} {fault : HostFault}
    (h : checkAscii u.location = .error fault) : u.HostFails reader fault := by
  obtain ⟨hlocation, error, rfl⟩ := checkAscii_eq_error h
  exact .notAscii fun hhost => hlocation (Url.isAscii_location hhost)

end Http

namespace Outgoing

open Http (fieldValue? fieldValue?_append fieldValue?_eq_none_iff)

variable {a : Agent} {o : Outgoing} {text method name : String} {headers : Headers} {body : Bytes}
  {own fs : Http.Fields}

theorem fieldValue?_replaceField {new : Bytes × Bytes}
    (h : Http.Fields.fold new.1 ≠ Text.ascii name) :
    fieldValue? (replaceField new fs) name = fieldValue? fs name := by
  induction fs with
  | nil => exact Http.fieldValue?_cons_of_ne h new.2 []
  | cons f fs ih =>
    obtain ⟨n, v⟩ := f
    rw [replaceField]
    split
    · next hsame =>
      have hn : Http.Fields.fold n ≠ Text.ascii name := beq_iff_eq.1 hsame ▸ h
      rw [Http.fieldValue?_cons_of_ne h, Http.fieldValue?_cons_of_ne hn, fieldValue?,
        List.find?_filter, fieldValue?]
      -- A field that has been removed has not been looked for.
      congr 2
      funext g
      by_cases hg : Http.Fields.fold g.1 = Text.ascii name
      · simp [hg, Ne.symm h]
      · simp [hg]
    · by_cases hn : Http.Fields.fold n = Text.ascii name
      · rw [Http.fieldValue?_cons_of_eq hn, Http.fieldValue?_cons_of_eq hn]
      · rw [Http.fieldValue?_cons_of_ne hn, Http.fieldValue?_cons_of_ne hn, ih]

/-- The credentials of a URL state no length. -/
theorem fieldValue?_withCredentials (url : Http.Url) (fs : Http.Fields) :
    fieldValue? (withCredentials url fs) "content-length" = fieldValue? fs "content-length" := by
  have hname : Http.Fields.fold (Text.ascii "Authorization") ≠ Text.ascii "content-length" := by
    decide
  unfold withCredentials
  split
  · rfl
  · exact fieldValue?_replaceField hname

/-- The fields of every client state no length. -/
theorem fieldValue?_override (own : Http.Fields) :
    fieldValue? (override own) "content-length" = fieldValue? own "content-length" := by
  have hnone : ∀ f ∈ standingFields, Http.Fields.fold f.1 ≠ Text.ascii "content-length" := by
    decide
  rw [override, fieldValue?_append,
    fieldValue?_eq_none_iff.2 fun f hf => hnone f (List.mem_of_mem_filter hf), Option.none_or]

/-- The first length of a body with other fields: that of the fields, if they state one. -/
theorem fieldValue?_withLength (body : Bytes) (fs : Http.Fields) :
    fieldValue? (withLength body fs) "content-length" =
      (fieldValue? fs "content-length").or
        (if body.isEmpty then none else some (Text.ascii (toString body.length))) := by
  have hname : Http.Fields.fold (Text.ascii "Content-Length") = Text.ascii "content-length" := by
    decide
  unfold withLength
  rw [← Http.isSome_fieldValue?]
  cases hfs : fieldValue? fs "content-length" with
  | none =>
    cases hempty : body.isEmpty with
    | true => simpa using hfs
    | false =>
      rw [if_neg (by simp), fieldValue?_append, hfs]
      exact Http.fieldValue?_cons_of_eq hname _ []
  | some value => simpa using hfs

/-- What is added at the front states a length only if there is none, and then it is zero. -/
theorem fieldValue?_leadingFields (url : Http.Url) (method : String) (fs : Http.Fields) :
    fieldValue? (leadingFields url method fs ++ fs) "content-length" =
        fieldValue? fs "content-length" ∨
      fieldValue? fs "content-length" = none ∧
        fieldValue? (leadingFields url method fs ++ fs) "content-length" =
          some (Text.ascii "0") := by
  have hhost : Http.Fields.fold (Text.ascii "Host") ≠ Text.ascii "content-length" := by decide
  have hname : Http.Fields.fold (Text.ascii "Content-Length") = Text.ascii "content-length" := by
    decide
  have hfirst : ∀ gs : Http.Fields, fieldValue? ((if has fs "host" || url.host == "" then []
      else [field "Host" url.location]) ++ gs) "content-length" =
        fieldValue? gs "content-length" := by
    intro gs
    split
    · rfl
    · exact Http.fieldValue?_cons_of_ne hhost _ gs
  rw [leadingFields, List.append_assoc, hfirst, ← Http.isSome_fieldValue? fs "content-length"]
  split
  · exact .inl rfl
  · next hnone =>
    simp only [Bool.or_eq_true, not_or, Bool.not_eq_true, Option.isSome_eq_false_iff,
      Option.isNone_iff_eq_none] at hnone
    exact .inr ⟨hnone.1.1, Http.fieldValue?_cons_of_eq hname _ fs⟩

/-! ## What a request is made of -/

/-- What a request is made of. -/
theorem made_of_ofUrl (h : ofUrl a text method headers body = .ok o) :
    o.body = body ∧ Http.AsciiFields headers ∧
      o.fields = withCredentials o.url
        (leadingFields o.url o.method (withLength body (override (Http.octetFields headers))) ++
          withLength body (override (Http.octetFields headers))) := by
  rw [ofUrl_eq] at h
  obtain ⟨url, hurl, h⟩ := bind_eq_ok.1 h
  obtain ⟨own, hown, h⟩ := bind_eq_ok.1 h
  rw [mapError_eq_ok] at hown
  have hascii := Http.asciiFields_of_ofText hown
  rw [Http.ofText_ascii hascii] at hown
  obtain rfl := Except.ok.inj hown
  obtain ⟨-, -, h⟩ := bind_eq_ok.1 h
  split at h
  · cases h
  · split at h
    · cases h
    · split at h
      · cases h
      · obtain rfl := Except.ok.inj h
        refine ⟨rfl, hascii, ?_⟩
        dsimp only

/-- Why the host of a request will not do. -/
theorem checkHost_eq_error {url : Http.Url} {fault : Http.HostFault}
    (h : checkHost a url fs = .error fault) : url.HostFails a.hosts fault := by
  unfold checkHost at h
  split at h
  · obtain ⟨hhost, error, rfl⟩ := Http.checkAscii_eq_error h
    exact .notAscii hhost
  · rcases bind_eq_error.1 h with h | ⟨-, -, h⟩
    · exact Http.hostFails_of_hostText h
    · exact Http.hostFails_of_checkAscii h

/-- Why there is no request. -/
theorem ofUrl_eq_error {e : CallError} (h : ofUrl a text method headers body = .error e) :
    (∃ err, e = .url err ∧ Http.Url.ofText text = .error err) ∨
      (∃ err, e = .header err ∧ ¬ Http.AsciiFields headers) ∨
      (∃ fault url, e = .host fault ∧ Http.Url.ofText text = .ok url ∧
        url.HostFails a.hosts fault) ∨
      (e = .method ∧ upperMethod? method = none) ∨ e = .noHost ∨ ∃ scheme, e = .scheme scheme := by
  rw [ofUrl_eq] at h
  rcases bind_eq_error.1 h with hurl | ⟨url, hurl, h⟩
  · obtain ⟨err, herr, rfl⟩ := mapError_eq_error.1 hurl
    exact .inl ⟨err, rfl, herr⟩
  rcases bind_eq_error.1 h with hown | ⟨own, -, h⟩
  · obtain ⟨err, herr, rfl⟩ := mapError_eq_error.1 hown
    refine .inr (.inl ⟨err, rfl, fun hascii => ?_⟩)
    rw [Http.ofText_ascii hascii] at herr
    cases herr
  rcases bind_eq_error.1 h with hhost | ⟨-, -, h⟩
  · obtain ⟨fault, hfault, rfl⟩ := mapError_eq_error.1 hhost
    exact .inr (.inr (.inl
      ⟨fault, url, rfl, mapError_eq_ok.1 hurl, checkHost_eq_error hfault⟩))
  split at h
  · next hmethod =>
    obtain rfl := Except.error.inj h
    exact .inr (.inr (.inr (.inl ⟨rfl, hmethod⟩)))
  · split at h
    · obtain rfl := Except.error.inj h
      exact .inr (.inr (.inr (.inr (.inl rfl))))
    · split at h
      · obtain rfl := Except.error.inj h
        exact .inr (.inr (.inr (.inr (.inr ⟨_, rfl⟩))))
      · cases h

/-! ## The length that is sent -/

/-- The first length of a request is that of a header, if one states a length, else that of the
body, which only an empty body may go without. -/
theorem fieldValue?_ofUrl (h : ofUrl a text method headers body = .ok o) :
    (hasHeader headers "content-length" ∧ (fieldValue? o.fields "content-length").isSome) ∨
      fieldValue? o.fields "content-length" = some (Text.ascii (toString body.length)) ∨
      fieldValue? o.fields "content-length" = none ∧ body = [] := by
  obtain ⟨-, hascii, hfields⟩ := made_of_ofUrl h
  have hown := Http.isSome_fieldValue? (Http.octetFields headers) "content-length"
  rw [has_octetFields hascii (by decide)] at hown
  have hsent := fieldValue?_withLength body (override (Http.octetFields headers))
  rw [fieldValue?_override] at hsent
  rw [hfields, fieldValue?_withCredentials]
  rcases fieldValue?_leadingFields o.url o.method
    (withLength body (override (Http.octetFields headers))) with heq | ⟨hnone, heq⟩
  · rw [heq, hsent]
    cases hvalue : fieldValue? (Http.octetFields headers) "content-length" with
    | some value =>
      rw [hvalue] at hown
      exact .inl ⟨hown.symm, rfl⟩
    | none =>
      cases body with
      | nil => exact .inr (.inr ⟨rfl, rfl⟩)
      | cons b body => exact .inr (.inl rfl)
  · -- Without a length among the other fields the body is empty.
    rw [hsent] at hnone
    rw [heq]
    cases body with
    | nil => exact .inr (.inl rfl)
    | cons b body =>
      rw [Option.or_eq_none_iff] at hnone
      exact absurd hnone.2 (by simp)

theorem frameBody_eq_error {e : SendError} (h : frameBody fs body = .error e) :
    (e = .tooMuchBody ∨ e = .tooLittleBody) ∧
      ((∃ n, Http.framing fs = .length n ∧ n ≠ body.length) ∨
        Http.framing fs = .unstated ∧ body ≠ []) := by
  have hcheck : ∀ {n}, frameBody.check body n = .error e →
      (e = .tooMuchBody ∨ e = .tooLittleBody) ∧ n ≠ body.length := by
    intro n h
    rw [frameBody.check] at h
    split at h
    · next hlt => exact ⟨.inl (Except.error.inj h).symm, Nat.ne_of_lt hlt⟩
    · split at h
      · next hlt => exact ⟨.inr (Except.error.inj h).symm, Nat.ne_of_gt hlt⟩
      · cases h
  rw [frameBody] at h
  split at h
  · cases h
  · next n hframing =>
    obtain ⟨he, hne⟩ := hcheck h
    exact ⟨he, .inl ⟨n, hframing, hne⟩⟩
  · next hframing =>
    obtain ⟨he, hne⟩ := hcheck h
    exact ⟨he, .inr ⟨hframing, fun hempty => hne (by rw [hempty]; rfl)⟩⟩

/-- A length that is not that of the body is found last. -/
theorem frameBody_of_encode {e : SendError} (h : o.encode = .error e)
    (hlength : e = .tooMuchBody ∨ e = .tooLittleBody) :
    ∃ fs, Http.reconcileSent o.fields = .ok fs ∧ frameBody fs o.body = .error e := by
  -- The fields, the host and the method come before the length.
  rcases bind_eq_error.1 h with hfields | ⟨fs, hfields, h⟩
  · obtain ⟨fault, -, rfl⟩ := mapError_eq_error.1 hfields
    simp at hlength
  · refine ⟨fs, mapError_eq_ok.1 hfields, ?_⟩
    dsimp only at h
    split at h
    · obtain rfl := Except.error.inj h
      simp at hlength
    · split at h
      · obtain rfl := Except.error.inj h
        simp at hlength
      · split at h
        · obtain rfl := Except.error.inj h
          simp at hlength
        · rcases bind_eq_error.1 h with hframe | ⟨framed, -, h⟩
          · exact hframe
          · cases h

/-- If a length is not that of the body, then a header of the call has stated it. -/
theorem encode_mismatch {e : SendError} (ho : ofUrl a text method headers body = .ok o)
    (he : o.encode = .error e) (hlength : e = .tooMuchBody ∨ e = .tooLittleBody) :
    hasHeader headers "content-length" ∧ ∃ fs n, Http.reconcileSent o.fields = .ok fs ∧
      Http.framing fs = .length n ∧ n ≠ body.length := by
  obtain ⟨fs, hfs, hframe⟩ := frameBody_of_encode he hlength
  obtain ⟨-, hframing⟩ := frameBody_eq_error hframe
  rw [(made_of_ofUrl ho).1] at hframing
  rcases Http.framing_of_reconcileSent hfs with hkept | ⟨hnone, hkept⟩ |
    ⟨value, stated, hvalue, hstated, hkept⟩ <;> rw [hkept] at hframing
  · simp at hframing
  · -- Only an empty body goes without a length.
    rcases fieldValue?_ofUrl ho with ⟨-, hsome⟩ | hsome | ⟨-, hempty⟩
    · simp [hnone] at hsome
    · simp [hnone] at hsome
    · simp [hempty] at hframing
  · obtain ⟨n, hn, hne⟩ : ∃ n, Http.Framing.length (Http.ofDigitOctets stated) = .length n ∧
        n ≠ body.length := by simpa using hframing
    rcases fieldValue?_ofUrl ho with ⟨hheader, -⟩ | hown | ⟨hnone, -⟩
    · exact ⟨hheader, fs, n, hfs, hkept.trans hn, hne⟩
    · -- The length that the client states itself is that of the body.
      obtain rfl := Option.some.inj (hvalue.symm.trans hown)
      have hlength := Http.ofDigitOctets_of_statedLength hstated
      exact absurd ((Http.Framing.length.inj hn).symm.trans hlength) hne
    · rw [hnone] at hvalue
      cases hvalue

end Outgoing

/-! ## What comes back -/

/-- Communication has failed, or a response redirects to a place that is none to ask for. -/
def ExchangeError.OfResponse (e : ExchangeError) : Prop :=
  e.kind = .transport ∨ ∃ err, e = .redirect err

theorem failsOnly_checkRedirect (a : Agent) (base : Http.Url) (fs : Http.Fields)
    (place : String) : FailsOnly ExchangeError.OfResponse (checkRedirect a base fs place) :=
  .bind (.bind (failsOnly_mapError (fun _ => .inl rfl) _) fun _ =>
    failsOnly_mapError (fun err => .inr ⟨err, rfl⟩) _) fun _ =>
      failsOnly_mapError (fun err => .inr ⟨err, rfl⟩) _

/-- What may be wrong with a response. -/
theorem Outgoing.failsOnly_answer (a : Agent) (o : Outgoing) (bs : Bytes) :
    FailsOnly ExchangeError.OfResponse (o.answer a bs) := by
  refine .bind (failsOnly_mapError (fun _ => .inl rfl) _) fun (head, rest) => ?_
  dsimp -zeta only
  extract_lets body received
  have hreceived : ∀ u, FailsOnly ExchangeError.OfResponse (received u) := by
    intro u
    refine .bind (failsOnly_mapError (fun _ => .inl rfl) _) fun content => ?_
    split
    · exact failsOnly_error (.inl rfl)
    · exact failsOnly_ok _
  split
  · exact .bind (failsOnly_checkRedirect _ _ _ _) hreceived
  · exact hreceived ()

/-! ## Redirects -/

/-- The place that octets redirect a request to, behind the fields that come with it. -/
def Outgoing.redirect? (o : Outgoing) (bs : Bytes) : Option (Http.Fields × String) := do
  let (head, _) ← (Incoming.finalHead (Incoming.proposals o) (bs.length + 1) bs).toOption
  return (head.fields, ← head.place?)

/-- What is wrong with a redirect of a request, if octets are received for it. -/
inductive Outgoing.RedirectFails (a : Agent) (o : Outgoing) (bs : Bytes) : RedirectError → Prop
  /-- The place makes no URL with that of the request. -/
  | place {fs : Http.Fields} {place : String} {url : Http.Url} {error : RedirectError}
      (redirected : o.redirect? bs = some (fs, place)) (read : Http.Url.ofText place = .ok url)
      (unmade : placeUrl a o.url place = .error (.redirect error)) : RedirectFails a o bs error
  /-- The host of the place, or that of the request, cannot be read or written. -/
  | host {fs : Http.Fields} {place : String} {url : Http.Url} {fault : Http.HostFault}
      (redirected : o.redirect? bs = some (fs, place)) (made : placeUrl a o.url place = .ok url)
      (host : url.HostFails a.hosts fault ∨ o.url.HostFails a.hosts fault) :
      RedirectFails a o bs (.host fault)
  /-- The response sets cookies that cannot go to the place. -/
  | cookies {fs : Http.Fields} {place : String} {url : Http.Url} {reason : String}
      (redirected : o.redirect? bs = some (fs, place)) (made : placeUrl a o.url place = .ok url)
      (set : fs.joined? "set-cookie" ≠ none)
      (fault : a.cookies.fault? o.url url fs = some reason) : RedirectFails a o bs (.cookies reason)

variable {a : Agent} {base url : Http.Url}

theorem checkHosts_eq_error {error : RedirectError} (h : checkHosts a base url = .error error) :
    ∃ fault, error = .host fault ∧
      (url.HostFails a.hosts fault ∨ base.HostFails a.hosts fault) := by
  rcases bind_eq_error.1 h with h | ⟨-, -, h⟩
  · obtain ⟨host, hmem, hhost⟩ := mapM_eq_error h
    obtain ⟨fault, hfault, rfl⟩ := mapError_eq_error.1 hhost
    refine ⟨fault, rfl, ?_⟩
    have hor : host = url.host ∨ host = base.host := by
      split at hmem <;> simp_all [or_comm]
    rcases hor with rfl | rfl
    · exact .inl (Http.hostFails_of_hostText hfault)
    · exact .inr (Http.hostFails_of_hostText hfault)
  · obtain ⟨fault, hfault, rfl⟩ := mapError_eq_error.1 h
    exact ⟨fault, rfl, .inl (Http.hostFails_of_checkAscii hfault)⟩

theorem checkCookies_eq_error {fs : Http.Fields} {error : RedirectError}
    (h : checkCookies a base url fs = .error error) :
    ∃ reason, error = .cookies reason ∧ fs.joined? "set-cookie" ≠ none ∧
      a.cookies.fault? base url fs = some reason := by
  unfold checkCookies at h
  split at h
  · next reason hfault =>
    refine ⟨reason, (Except.error.inj h).symm, fun hnone => ?_, hfault⟩
    exact nomatch hfault.symm.trans (a.cookies.fault?_of_none base url fs hnone)
  · cases h

/-- What is to blame for a redirect that fails. -/
theorem Outgoing.redirectFails_of_checkRedirect {o : Outgoing} {bs : Bytes} {fs : Http.Fields}
    {place : String} {error : RedirectError} (hredirected : o.redirect? bs = some (fs, place))
    (h : checkRedirect a o.url fs place = .error (.redirect error)) :
    o.RedirectFails a bs error := by
  rcases bind_eq_error.1 h with hplace | ⟨url, hmade, h⟩
  · rcases bind_eq_error.1 hplace with hread | ⟨url, hread, -⟩
    · obtain ⟨err, -, herr⟩ := mapError_eq_error.1 hread
      cases herr
    · exact .place hredirected (mapError_eq_ok.1 hread) hplace
  · obtain ⟨err, h, herr⟩ := mapError_eq_error.1 h
    cases herr
    rcases bind_eq_error.1 h with hhosts | ⟨-, -, hcookies⟩
    · obtain ⟨fault, rfl, hhost⟩ := checkHosts_eq_error hhosts
      exact .host hredirected hmade hhost
    · obtain ⟨reason, rfl, hset, hfault⟩ := checkCookies_eq_error hcookies
      exact .cookies hredirected hmade hset hfault

theorem Outgoing.redirectFails_of_answer {o : Outgoing} {bs : Bytes} {error : RedirectError}
    (h : o.answer a bs = .error (.redirect error)) : o.RedirectFails a bs error := by
  rcases bind_eq_error.1 h with hhead | ⟨⟨head, rest⟩, hhead, h⟩
  · obtain ⟨err, -, herr⟩ := mapError_eq_error.1 hhead
    cases herr
  have hfinal := mapError_eq_ok.1 hhead
  dsimp -zeta only at h
  extract_lets body received at h
  -- Once the redirect is settled, only the body can be at fault.
  have hreceived : ∀ u, FailsOnly (fun e => ∀ err, e ≠ .redirect err) (received u) := by
    intro u
    refine .bind (failsOnly_mapError (fun _ _ => nofun) _) fun content => ?_
    split
    · exact failsOnly_error fun _ => nofun
    · exact failsOnly_ok _
  split at h
  · next place hplace =>
    rcases bind_eq_error.1 h with hcheck | ⟨u, -, h⟩
    · refine redirectFails_of_checkRedirect ?_ hcheck
      rw [redirect?, hfinal]
      simp only [Except.toOption, Option.bind_eq_bind, Option.bind_some, hplace]
      rfl
    · exact absurd rfl (hreceived u _ h error)
  · exact absurd rfl (hreceived () _ h error)

end ProxyTrial
