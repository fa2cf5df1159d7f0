import ProxyTrial.Client.Exchange
import ProxyTrial.Proofs.Client.Outgoing
import ProxyTrial.Proofs.Origin.HostField
/-!
# A call at two ports

A call makes a request for every port that it is sent to. The requests differ in the port they are
sent to and in the host that they name, if the call names none itself.

## Main definitions

* `Outgoing.loopback port`: the address of a port
* `Outgoing.requestAt port target method own body`: the request at a port

## Main results

* `ofCall_loopback`: a call makes such a request, unless the URL, a header or the method is unfit
* `encode_requestAt_of_host`: a request that names the host itself is the same for every port
* `encode_requestAt`: another request is the same for every port after its host
* `converse_requestAt`: what the origin makes of a request is the same for every port
-/

namespace ProxyTrial

open Http (PlainField octetFields)

namespace Outgoing

/-! ## Requests -/

/-- The address of a port of this machine. -/
def loopback (port : Nat) : String := "127.0.0.1:" ++ toString port

/-- The host that a request to a port names. -/
def hostAt (port : Nat) : String := if port = 80 then "127.0.0.1" else loopback port

/-- The URL of a target, its slash included, at a port. -/
def urlAt (port : Nat) (target : List Char) : Http.Url := Http.Url.onHost "127.0.0.1" port target

/-- The fields of a request apart from the host that the URL names. -/
def sharedFields (method : String) (own : Http.Fields) (body : Bytes) : Http.Fields :=
  let fields := withLength body (override own)
  (if has fields "content-length" || has fields "transfer-encoding" || !expectsBody method then []
    else [field "Content-Length" "0"]) ++ fields

/-- The host is named by the call itself. -/
def NamesHost (own : Http.Fields) (body : Bytes) : Prop :=
  has (withLength body (override own)) "host"

/-- The request at a port. -/
def requestAt (port : Nat) (target : List Char) (method : String) (own : Http.Fields)
    (body : Bytes) : Outgoing where
  url := urlAt port target
  method := method
  fields := leadingFields (urlAt port target) method (withLength body (override own)) ++
    withLength body (override own)
  body := body

variable {port port' : Nat} {target : List Char} {method : String} {own : Http.Fields}
  {body : Bytes}

theorem location_urlAt (port : Nat) (target : List Char) :
    (urlAt port target).location = hostAt port := by
  have hcolon : "127.0.0.1".toList.contains ':' = false := by decide
  have hhost : (urlAt port target).host = "127.0.0.1" := rfl
  have hport : (urlAt port target).port = if port = 80 then none else some (port : Int) := rfl
  rw [Http.Url.location, hhost, hport, hcolon, if_neg Bool.false_ne_true, hostAt]
  by_cases hdefault : port = 80
  · rw [if_pos hdefault, if_pos hdefault]
  · rw [if_neg hdefault, if_neg hdefault]
    show "127.0.0.1" ++ (":" ++ toString port) = "127.0.0.1:" ++ toString port
    rw [← String.append_assoc]
    rfl

/-- The host that a request to a port names is read as it stands, and can be written. -/
theorem checkHost_urlAt (a : Agent) (port : Nat) (target : List Char) (fs : Http.Fields) :
    checkHost a (urlAt port target) fs = .ok () := by
  have hascii : Text.IsAscii (urlAt port target).host :=
    (by decide : Text.IsAscii "127.0.0.1")
  have hread : Http.hostText a.hosts (urlAt port target).host = .ok (urlAt port target).host :=
    Http.hostText_loopback a.hosts
  unfold checkHost
  split
  · exact Http.checkAscii_of_isAscii hascii
  · rw [Http.Url.checkHost, hread]
    exact Http.checkAscii_of_isAscii (Http.Url.isAscii_location hascii)

/-- The port is the one that the request is sent to, named in the URL or not. -/
theorem port_of_url {o : Outgoing} (hscheme : o.url.scheme = "http")
    (hport : o.url.port = if port = 80 then none else some (port : Int)) : o.port = port := by
  rw [Outgoing.port, hport, hscheme]
  split
  · next h =>
    subst h
    rfl
  · rfl

theorem port_requestAt : (requestAt port target method own body).port = port :=
  port_of_url rfl rfl

theorem length_loopback_le (h : port < Http.lengthLimit) : (loopback port).length ≤ 30 := by
  have hdigits : (toString port).length ≤ 20 := Http.length_toString_le h
  have haddress : "127.0.0.1:".length = 10 := by decide
  rw [loopback, String.length_append]
  omega

theorem plainHost_hostAt (h : port < Http.lengthLimit) : Origin.PlainHost (hostAt port) where
  plain := by
    have hhost : ∀ c ∈ "127.0.0.1".toList, Http.isHostChar c :=
      List.all_iff_forall_prop.1 (by decide)
    rw [← location_urlAt port []]
    exact plainField_location hhost port "" none
  fits := by
    have hlimit : Http.lineLimit = 65536 := rfl
    have hlength := length_loopback_le h
    rw [hostAt]
    split
    · decide
    · omega

theorem fields_requestAt_of_host (h : NamesHost own body) :
    (requestAt port target method own body).fields = sharedFields method own body := by
  have hhost : has (withLength body (override own)) "host" = true := h
  rw [requestAt, sharedFields, leadingFields, hhost, Bool.true_or]
  rfl

theorem fields_requestAt (h : ¬ NamesHost own body) :
    (requestAt port target method own body).fields =
      field "Host" (hostAt port) :: sharedFields method own body := by
  have hhost : has (withLength body (override own)) "host" = false := Bool.not_eq_true _ ▸ h
  have hurl : ((urlAt port target).host == "") = false :=
    show ("127.0.0.1" == "") = false by decide
  rw [requestAt, sharedFields, leadingFields, hhost, hurl, location_urlAt]
  rfl

/-! ## The request that a call makes -/

theorem toList_urlOf_loopback (port : Nat) (target : String) :
    (urlOf (loopback port) target).toList =
      "http://127.0.0.1:".toList ++ (toString port).toList ++ (targetOf target).toList := by
  simp [urlOf, loopback]

/-- A control character in a URL stands in its target. -/
theorem firstControl?_loopback (port : Nat) (target : String) :
    Http.firstControl? (urlOf (loopback port) target).toList = none ↔
      ∀ c ∈ (targetOf target).toList, Http.isControl c = false := by
  have hfront : ∀ c ∈ "http://127.0.0.1:".toList, Http.isControl c = false :=
    List.all_iff_forall_prop.1 (by decide)
  have hdigits : ∀ c ∈ (toString port).toList, Http.isControl c = false := fun c hc =>
    Http.not_isControl_of_printable (Text.isDigit_spec (Text.isDigit_toString port c hc)).1
  rw [Http.firstControl?_eq_none_iff, toList_urlOf_loopback]
  simp only [List.forall_mem_append]
  exact ⟨fun h => h.2, fun h => ⟨⟨hfront, hdigits⟩, h⟩⟩

/-- A call makes a request, unless the URL is too long or has a control character in it, or a header
or the method is not ASCII. -/
theorem ofCall_loopback (a : Agent) (h : port < Http.lengthLimit) (c : Call) :
    ofCall a (loopback port) c =
      if (urlOf (loopback port) c.target).length > Http.urlLimit then .error (.url .tooLong)
      else match Http.firstControl? (urlOf (loopback port) c.target).toList with
        | some (d, position) => .error (.url (.control d position))
        | none => ((Http.Fields.ofText c.headers).mapError .header).bind fun own =>
          match upperMethod? c.method with
          | none => .error .method
          | some method =>
            .ok (requestAt port (targetOf c.target).toList method own (Text.utf8 c.body)) := by
  have hhost : Http.normalizeHost "127.0.0.1".toList = .ok "127.0.0.1" := by decide
  have ha : Http.IsAddress (loopback port) "127.0.0.1" port := isAddress_loopback port h
  have hurl := Http.Url.ofText_urlOf ha hhost (by decide) c.target
  split
  · next hlong =>
    rw [if_pos hlong] at hurl
    rw [ofCall, ofUrl, hurl]
    rfl
  · next hlong =>
    rw [if_neg hlong] at hurl
    split
    · next hcontrol =>
      rw [hcontrol] at hurl
      rw [ofCall, ofUrl, hurl]
      rfl
    · next hcontrol =>
      rw [hcontrol] at hurl
      refine (ofUrl_of_ofText hurl rfl (show "127.0.0.1" ≠ "" by decide) rfl a c.method c.headers
        (Text.utf8 c.body)).trans ?_
      refine congrArg _ (funext fun own => ?_)
      rw [show Http.Url.onHost _ _ _ = urlAt port (targetOf c.target).toList from rfl,
        checkHost_urlAt]
      rfl

/-- At two ports that are alike to the limit of URLs, a call makes a request at both or at none. -/
theorem ofCall_two_ports (a : Agent) (h : port < Http.lengthLimit) (h' : port' < Http.lengthLimit)
    (c : Call)
    (hlimit : (urlOf (loopback port) c.target).length ≤ Http.urlLimit ↔
      (urlOf (loopback port') c.target).length ≤ Http.urlLimit) :
    (∃ e e', ofCall a (loopback port) c = .error e ∧ ofCall a (loopback port') c = .error e') ∨
      ∃ own method, Http.Fields.ofText c.headers = .ok own ∧
        upperMethod? c.method = some method ∧
        ofCall a (loopback port) c =
          .ok (requestAt port (targetOf c.target).toList method own (Text.utf8 c.body)) ∧
        ofCall a (loopback port') c =
          .ok (requestAt port' (targetOf c.target).toList method own (Text.utf8 c.body)) := by
  rw [ofCall_loopback a h, ofCall_loopback a h']
  -- Other than the limit, nothing in the checks of a URL depends on the port.
  by_cases hlong : (urlOf (loopback port) c.target).length > Http.urlLimit
  · have hlong' : (urlOf (loopback port') c.target).length > Http.urlLimit := by omega
    rw [if_pos hlong, if_pos hlong']
    exact .inl ⟨_, _, rfl, rfl⟩
  · have hlong' : ¬(urlOf (loopback port') c.target).length > Http.urlLimit := by omega
    rw [if_neg hlong, if_neg hlong']
    by_cases hcontrol : ∀ d ∈ (targetOf c.target).toList, Http.isControl d = false
    · rw [(firstControl?_loopback port c.target).2 hcontrol,
        (firstControl?_loopback port' c.target).2 hcontrol]
      cases hown : Http.Fields.ofText c.headers with
      | error e => exact .inl ⟨_, _, rfl, rfl⟩
      | ok own =>
        cases hmethod : upperMethod? c.method with
        | none => exact .inl ⟨_, _, rfl, rfl⟩
        | some method => exact .inr ⟨own, method, rfl, rfl, rfl, rfl⟩
    · obtain ⟨d, hd⟩ := Option.ne_none_iff_exists'.1
        (mt (firstControl?_loopback port c.target).1 hcontrol)
      obtain ⟨d', hd'⟩ := Option.ne_none_iff_exists'.1
        (mt (firstControl?_loopback port' c.target).1 hcontrol)
      rw [hd, hd']
      exact .inl ⟨_, _, rfl, rfl⟩

/-! ## Octets -/

/-- What a request holds after the host that its URL names: the other fields and the body. -/
def afterHost (method : String) (own : Http.Fields) (body : Bytes) : Except SendError Bytes := do
  let fs ← (Http.reconcileSent (sharedFields method own body)).mapError .field
  if !Http.isToken (Text.ascii method) then throw .method
  return fieldLines fs ++ ([13, 10] ++ (← frameBody fs body))

theorem encode_requestAt_of_host (h : NamesHost own body) (port port' : Nat) :
    (requestAt port target method own body).encode =
      (requestAt port' target method own body).encode := by
  rw [encode, encode, fields_requestAt_of_host h, fields_requestAt_of_host h]
  rfl

theorem isHost_of_mem_sharedFields (h : ¬ NamesHost own body) {f : Bytes × Bytes}
    (hf : f ∈ sharedFields method own body) : isHost f = false := by
  have hnone : ∀ f ∈ withLength body (override own), isHost f = false := fun f hf =>
    Bool.eq_false_iff.2 (List.any_eq_false.1 (Bool.not_eq_true _ ▸ h) f hf)
  rcases List.mem_append.1 hf with hf | hf
  · split at hf
    · cases hf
    · rw [List.mem_singleton.1 hf]
      decide
  · exact hnone f hf

/-- The body is framed by other fields than the host. -/
theorem frameBody_host_cons (host : String) (fs : Http.Fields) (body : Bytes) :
    frameBody (field "Host" host :: fs) body = frameBody fs body := by
  have hlength : Http.fieldValue? (field "Host" host :: fs) "content-length" =
      Http.fieldValue? fs "content-length" := by
    have hname : (Http.Fields.fold (Text.ascii "Host") == Text.ascii "content-length") = false := by
      decide
    simp only [Http.fieldValue?, field, List.find?_cons, hname]
  have hencoding : Http.fieldValue? (field "Host" host :: fs) "transfer-encoding" =
      Http.fieldValue? fs "transfer-encoding" := by
    have hname : (Http.Fields.fold (Text.ascii "Host") == Text.ascii "transfer-encoding") =
      false := by
      decide
    simp only [Http.fieldValue?, field, List.find?_cons, hname]
  rw [frameBody, frameBody, Http.framing, Http.framing, hlength, hencoding]

/-- A field for the host is the only one beside fields that do not name the host. -/
theorem filter_isHost_cons (host : String) {fs : Http.Fields} (h : ∀ f ∈ fs, isHost f = false) :
    (field "Host" host :: fs).filter isHost = [field "Host" host] ∧
      (field "Host" host :: fs).filter (fun f => !isHost f) = fs := by
  have hfirst : isHost (field "Host" host) = true :=
    show (Http.Fields.fold (Text.ascii "Host") == Text.ascii "host") = true by decide
  constructor
  · rw [List.filter_cons_of_pos hfirst, List.filter_eq_nil_iff.2 fun f hf => by simp [h f hf]]
  · rw [List.filter_cons_of_neg (by simp [hfirst]),
      List.filter_eq_self.2 fun f hf => by simp [h f hf]]

/-- The host stands right behind the line of a request. -/
theorem head_host_cons (o : Outgoing) (host : String) {fs : Http.Fields}
    (h : ∀ f ∈ fs, isHost f = false) (framed : Bytes) :
    o.head (field "Host" host :: fs) ++ framed =
      Origin.hostedRequest o.method o.url.target host (fieldLines fs ++ ([13, 10] ++ framed)) := by
  obtain ⟨hhosts, hothers⟩ := filter_isHost_cons host h
  have hline : fieldLines [field "Host" host] =
      Text.ascii (Http.fieldLine (padded ("Host", host))) := by
    have hlines := fieldLines_octetFields [("Host", host)]
    rwa [List.map_singleton, List.map_singleton, List.flatten_singleton] at hlines
  rw [head, hhosts, hothers, hline, ascii_requestLine, Origin.hostedRequest]
  simp only [List.append_assoc]

/-- A request that leaves the host to the URL has it in the first field. -/
theorem encode_requestAt (h : ¬ NamesHost own body) (hport : port < Http.lengthLimit) :
    (requestAt port target method own body).encode =
      (afterHost method own body).map
        (Origin.hostedRequest method (urlAt port target).target (hostAt port)) := by
  have hframe : Http.Fields.fold (Text.ascii "Host") ≠ Text.ascii "content-length" ∧
      Http.Fields.fold (Text.ascii "Host") ≠ Text.ascii "transfer-encoding" := by decide
  have hreconciled : Http.reconcileSent (requestAt port target method own body).fields =
      (Http.reconcileSent (sharedFields method own body)).map
        (field "Host" (hostAt port) :: ·) := by
    rw [fields_requestAt h, ← List.singleton_append]
    exact Http.reconcileFrom_append
      (List.forall_mem_singleton.2 (plainHost_hostAt hport).plain.checkField)
      (List.forall_mem_singleton.2 (by simpa only using hframe)) none false _
  rw [encode, afterHost, hreconciled]
  cases hfs : Http.reconcileSent (sharedFields method own body) with
  | error e => rfl
  | ok fs =>
    -- Thus there is one host to move to the front, which is there already.
    have hnone : ∀ f ∈ fs, isHost f = false := by
      intro f hf
      obtain ⟨g, hg, hname, -⟩ := Http.exists_of_mem_reconcileFrom hfs hf
      rw [isHost, ← hname, ← isHost]
      exact isHost_of_mem_sharedFields h hg
    have hhead := head_host_cons (requestAt port target method own body) (hostAt port) hnone
    have hmethod : (requestAt port target method own body).method = method := rfl
    have hbody : (requestAt port target method own body).body = body := rfl
    have htarget : (requestAt port target method own body).url.target =
      (urlAt port target).target :=
      rfl
    simp only [Except.map, Except.mapError, ok_bind, (filter_isHost_cons _ hnone).1,
      List.length_singleton, Nat.one_ne_zero, Nat.lt_irrefl, if_false, hhead, hmethod, hbody,
      htarget,
      frameBody_host_cons]
    cases Http.isToken (Text.ascii method) with
    | false => rfl
    | true => cases frameBody fs body <;> rfl

/-- The method is a token, and no blank follows the line of the host. -/
theorem afterHost_eq_ok {rest : Bytes} (h : afterHost method own body = .ok rest) :
    Http.isToken (Text.ascii method) ∧ rest.head?.any Http.isPadding = false := by
  obtain ⟨fs, hfs, h⟩ := bind_eq_ok.1 h
  rw [mapError_eq_ok] at hfs
  dsimp only at h
  split at h
  · cases h
  · next hmethod =>
    obtain ⟨framed, -, h⟩ := bind_eq_ok.1 h
    obtain rfl := pure_eq_ok.1 h
    refine ⟨by simpa using hmethod, ?_⟩
    cases fs with
    | nil => rfl
    | cons f fs =>
      -- The next field begins with its name, which is a token.
      obtain ⟨g, -, hname, hcheck⟩ := Http.exists_of_mem_reconcileFrom hfs List.mem_cons_self
      have htoken : Http.isToken f.1 := hname ▸ Http.isToken_of_checkField hcheck
      simp only [fieldLines, List.flatMap_cons, List.append_assoc]
      exact Http.head?_of_isToken htoken _

/-- A call names the host if one of its headers does. -/
theorem namesHost_of_mem {hs : Headers} (hown : Http.Fields.ofText hs = .ok own)
    {f : String × String} (hf : f ∈ hs) (hname : Text.lower f.1 = "host") (body : Bytes) :
    NamesHost own body := by
  have ha := Http.asciiFields_of_ofText hown
  rw [Http.ofText_ascii ha] at hown
  obtain rfl := Except.ok.inj hown
  have hhost : has (octetFields hs) "host" := by
    rw [has_octetFields ha (by decide), hasHeader, List.any_eq_true]
    exact ⟨f, hf, by simp [hname]⟩
  -- The fields of the call are among those that are sent.
  obtain ⟨g, hg, hfold⟩ := List.any_eq_true.1 hhost
  have hoverride : g ∈ override (octetFields hs) := List.mem_append_right _ hg
  refine List.any_eq_true.2 ⟨g, ?_, hfold⟩
  unfold withLength
  split
  · exact hoverride
  · exact List.mem_append_left _ hoverride

/-! ## What comes back -/

/-- What the origin makes of a request is the same for every port, unless an expectation asks for
the host. -/
theorem converse_requestAt {t : Origin.Table} (ht : Origin.IgnoresHost t ∨ NamesHost own body)
    (hmethod : Text.IsAscii method) (htarget : Http.Graphic (urlAt port target).target)
    (hport : port < Http.lengthLimit) (hport' : port' < Http.lengthLimit) :
    (requestAt port target method own body).encode.map (Origin.converse t) =
      (requestAt port' target method own body).encode.map (Origin.converse t) := by
  by_cases h : NamesHost own body
  · rw [encode_requestAt_of_host h port port']
  · have hignores := ht.resolve_right h
    rw [encode_requestAt h hport, encode_requestAt h hport']
    cases hrest : afterHost method own body with
    | error e => rfl
    | ok rest =>
      obtain ⟨htoken, hblank⟩ := afterHost_eq_ok hrest
      have hgraphic : Http.Graphic method :=
        graphic_method (o := requestAt port target method own body) hmethod htoken
      exact congrArg Except.ok (Origin.converse_host hignores hgraphic htarget
        (plainHost_hostAt hport) (plainHost_hostAt hport') hblank)

end Outgoing

end ProxyTrial
