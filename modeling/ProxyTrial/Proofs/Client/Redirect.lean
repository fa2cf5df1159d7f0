import ProxyTrial.Proofs.Client.Address
import ProxyTrial.Proofs.Client.Failure
/-!
# Redirects at two ports

A response may redirect to a place that is meant from the URL of the request. The URLs that the
place makes for requests at two ports differ in the port alone, so that it could be asked for at
both or at neither, unless the URL is too long for one of them, or cookies can go with the request
at one of them only.

## Main definitions

* `Outgoing.SamePlace port port' u u'`: two URLs that differ in the port at most
* `Http.Url.FitsFrom base place`: the URL that a place makes is not too long
* `RedirectsAlike a base base' fs place`: a redirect that can be made of two URLs alike

## Main results

* `Outgoing.joined_urlAt`: what a text makes that is meant from a URL at a port
* `Outgoing.agree_checkRedirect`: a place could be asked for at both ports or at neither
* `Outgoing.agree_answer`: what a client makes of octets is the same for both ports
-/

namespace ProxyTrial

namespace Http

/-! ## What follows an authority -/

/-- A path begins with a slash, or is empty. -/
def Rooted (path : List Char) : Prop := path.head? = none ∨ path.head? = some '/'

theorem Rooted.eq_nil_or_cons {path : List Char} (h : Rooted path) :
    path = [] ∨ ∃ cs, path = '/' :: cs :=
  h.imp List.head?_eq_none_iff.1 List.head?_eq_some_iff.1

/-- A segment more or less leaves the empty one at the start. -/
theorem exists_pushSegment (more : List (List Char)) (segment : List Char) :
    ∃ more', pushSegment ([] :: more) segment = [] :: more' := by
  rw [pushSegment]
  split
  · exact ⟨more, rfl⟩
  · split
    · split
      · exact ⟨more, rfl⟩
      · next hne =>
        obtain ⟨segment', more', rfl⟩ : ∃ segment' more', more = segment' :: more' :=
          List.exists_cons_of_ne_nil fun h => hne (by simp [h])
        exact ⟨(segment' :: more').dropLast, rfl⟩
    · exact ⟨more ++ [segment], rfl⟩

theorem rooted_intercalate (more : List (List Char)) :
    Rooted (List.intercalate ['/'] ([] :: more)) := by
  cases more with
  | nil => exact .inl rfl
  | cons segment more => exact .inr rfl

/-- A path that begins with a slash does so without dot segments, or nothing is left of it. -/
theorem rooted_removeDots (cs : List Char) : Rooted (removeDots ('/' :: cs)) := by
  rw [removeDots]
  split
  · have hfold : ∀ (segments more : List (List Char)),
        ∃ more', segments.foldl pushSegment ([] :: more) = [] :: more' := by
      intro segments
      induction segments with
      | nil => exact fun more => ⟨more, rfl⟩
      | cons segment segments ih =>
        intro more
        obtain ⟨more', hpush⟩ := exists_pushSegment more segment
        rw [List.foldl_cons, hpush]
        exact ih more'
    obtain ⟨more, hmore⟩ := hfold (Text.splitOnElem '/' cs) []
    show Rooted (List.intercalate ['/']
      ((Text.splitOnElem '/' cs).foldl pushSegment (pushSegment [] [])))
    rw [show pushSegment [] [] = [[]] by decide, hmore]
    exact rooted_intercalate more
  · exact .inr rfl

theorem rooted_percentEncode {path : List Char} (h : Rooted path) :
    Rooted (percentEncode isPathSafe path).toList := by
  rw [percentEncode, String.toList_ofList]
  rcases h.eq_nil_or_cons with rfl | ⟨cs, rfl⟩
  · exact .inl rfl
  · rw [List.flatMap_cons, percentChar, if_pos (by decide)]
    exact .inr rfl

/-- A path, then perhaps a query and a fragment. -/
theorem followsAuthority_append {path query fragment : List Char} (hpath : Rooted path)
    (hquery : query.head? = none ∨ query.head? = some '?')
    (hfragment : fragment.head? = none ∨ fragment.head? = some '#') :
    FollowsAuthority (path ++ query ++ fragment) := by
  intro c hc
  rw [List.append_assoc, List.head?_append, List.head?_append] at hc
  rcases hpath with hpath | hpath
  · rcases hquery with hquery | hquery
    · rcases hfragment with hfragment | hfragment
      · simp [hpath, hquery, hfragment] at hc
      · exact .inr (.inr (by simpa [hpath, hquery, hfragment, eq_comm] using hc))
    · exact .inr (.inl (by simpa [hpath, hquery, eq_comm] using hc))
  · exact .inl (by simpa [hpath, eq_comm] using hc)

theorem rooted_slashed (path : List Char) :
    Rooted (if path.isEmpty || path.head? == some '/' then path else '/' :: path) := by
  split
  · next h =>
    rw [Bool.or_eq_true, List.isEmpty_iff, beq_iff_eq] at h
    exact h.imp_left fun h => by rw [h]; rfl
  · exact .inr rfl

theorem followsAuthority_afterAuthority (path params query fragment : List Char) :
    FollowsAuthority (afterAuthority path params query fragment).toList := by
  rw [afterAuthority, String.toList_ofList]
  refine followsAuthority_append (rooted_slashed _) ?_ ?_
  · split
    · exact .inl rfl
    · exact .inr rfl
  · split
    · exact .inl rfl
    · exact .inr rfl

theorem Url.followsAuthority_followed (u : Url) (r : Reference) :
    FollowsAuthority (u.followed r).toList := by
  rw [Url.followed]
  dsimp only
  split <;> exact followsAuthority_afterAuthority _ _ _ _

/-- The URL that a place makes when it is meant from another one is not too long, if it is meant
from there. -/
def Url.FitsFrom (base : Url) (place : String) : Prop :=
  ∀ url, Url.ofText place = .ok url → url.scheme = "" →
    (base.joined url.text).length ≤ urlLimit

end Http

/-- A redirect to a place, with these fields, can be made of two URLs alike: the URL that the place
makes is too long from both or from neither, and the cookies that the fields set can go with the
request at both or at neither. -/
structure RedirectsAlike (a : Agent) (base base' : Http.Url) (fs : Http.Fields) (place : String) :
    Prop where
  fits : base.FitsFrom place ↔ base'.FitsFrom place
  cookies : ∀ url url', placeUrl a base place = .ok url → placeUrl a base' place = .ok url' →
    (a.cookies.fault? base url fs = none ↔ a.cookies.fault? base' url' fs = none)

namespace Outgoing

open Http (FollowsAuthority Rooted)

variable {port port' : Nat} {target : List Char} {method place : String} {own : Http.Fields}
  {body : Bytes} {a : Agent}

/-! ## URLs at a port -/

theorem authority_urlAt (port : Nat) (target : List Char) :
    (urlAt port target).authority = hostAt port := by
  rw [Http.Url.authority, location_urlAt]
  exact String.empty_append

theorem hostAt_ne_empty (port : Nat) : hostAt port ≠ "" := by
  rw [hostAt, loopback]
  split
  · decide
  · intro h
    exact absurd (String.append_eq_empty_iff.1 h).1 (by decide)

/-- The characters of a host with its port. -/
theorem toList_hostAt (port : Nat) :
    (hostAt port).toList =
      "127.0.0.1".toList ++ if port = 80 then [] else ':' :: (toString port).toList := by
  rw [hostAt, loopback]
  split <;> simp

theorem forall_mem_hostAt {P : Char → Prop} (hhost : ∀ c ∈ "127.0.0.1:".toList, P c)
    (hdigit : ∀ c : Char, c.isDigit → P c) (port : Nat) : ∀ c ∈ (hostAt port).toList, P c := by
  rw [toList_hostAt, List.forall_mem_append]
  refine ⟨fun c hc => hhost c (List.mem_append_left [':'] hc), ?_⟩
  split
  · exact List.forall_mem_nil _
  · rw [List.forall_mem_cons]
    exact ⟨hhost ':' (by decide), fun c hc => hdigit c (Text.isDigit_toString port c hc)⟩

theorem rooted_path_urlAt (port : Nat) (cs : List Char) :
    Rooted (urlAt port ('/' :: cs)).path.toList := by
  have hslash : ∀ d ∈ ['#', '?'], d ∉ ['/'] := List.all_iff_forall_prop.1 (by decide)
  have hcut : ∀ d ∈ ['#', '?'], ∀ more,
      Text.cutAt d ('/' :: more) = ('/' :: (Text.cutAt d more).1, (Text.cutAt d more).2) :=
    fun d hd more => Text.cutAt_append_of_notMem (hslash d hd) more
  simp only [urlAt, Http.Url.onHost, hcut '#' (by simp), hcut '?' (by simp)]
  exact Http.rooted_percentEncode (Http.rooted_removeDots _)

/-- What is written of a URL at a port. -/
theorem text_urlAt (cs : List Char) :
    ∃ tail : String, FollowsAuthority tail.toList ∧
      ∀ port, (urlAt port ('/' :: cs)).text = "http://" ++ hostAt port ++ tail := by
  let u := urlAt 0 ('/' :: cs)
  refine ⟨u.path ++ u.query.elim "" ("?" ++ ·) ++ u.fragment.elim "" ("#" ++ ·), ?_, ?_⟩
  · rw [String.toList_append, String.toList_append]
    refine Http.followsAuthority_append (rooted_path_urlAt 0 cs) ?_ ?_
    · cases u.query with
      | none => exact .inl rfl
      | some query => exact .inr (by simp)
    · cases u.fragment with
      | none => exact .inl rfl
      | some fragment => exact .inr (by simp)
  · intro port
    have hscheme : (urlAt port ('/' :: cs)).scheme = "http" := rfl
    have hauthority : (hostAt port == "") = false := beq_eq_false_iff_ne.2 (hostAt_ne_empty port)
    rw [Http.Url.text, authority_urlAt, hscheme, hauthority, if_neg Bool.false_ne_true,
      if_neg (by decide)]
    simp only [String.append_assoc]
    rfl

theorem followed_urlAt (port port' : Nat) (target : List Char) (r : Http.Reference) :
    (urlAt port target).followed r = (urlAt port' target).followed r := by
  have hscheme : (urlAt port target).scheme = (urlAt port' target).scheme := rfl
  have hpath : (urlAt port target).path = (urlAt port' target).path := rfl
  have hquery : (urlAt port target).query = (urlAt port' target).query := rfl
  rw [Http.Url.followed, Http.Url.followed, hscheme, hpath, hquery]

/-- What a text makes that is meant from a URL at a port: something behind the authority, or a URL
that has nothing to do with the port. -/
theorem joined_urlAt (cs : List Char) (s : String) :
    (∃ tail : String, FollowsAuthority tail.toList ∧
        ∀ port, (urlAt port ('/' :: cs)).joined s = "http://" ++ hostAt port ++ tail) ∨
      ∃ text, ∀ port, (urlAt port ('/' :: cs)).joined s = text := by
  have hscheme : ∀ port, (urlAt port ('/' :: cs)).scheme = "http" := fun _ => rfl
  have hslashes : "http" ++ "://" = "http://" := by decide
  let r := Http.Reference.ofText "http" s.toList
  let placed := "http://" ++ String.ofList r.authority ++
    Http.afterAuthority (Http.splitParams "http" r.path).1 (Http.splitParams "http" r.path).2
      r.query
      r.fragment
  have hjoined : ∀ port, (urlAt port ('/' :: cs)).joined s =
      if s == "" then (urlAt port ('/' :: cs)).text
      else if r.scheme != "http" then s
      else if r.authority.isEmpty then
        "http://" ++ hostAt port ++ (urlAt 0 ('/' :: cs)).followed r
      else placed := by
    intro port
    rw [Http.Url.joined, hscheme, authority_urlAt, hslashes, followed_urlAt port 0]
  by_cases hempty : (s == "") = true
  · obtain ⟨tail, htail, htext⟩ := text_urlAt cs
    exact .inl ⟨tail, htail, fun port => by rw [hjoined, if_pos hempty, htext]⟩
  by_cases hother : (r.scheme != "http") = true
  · exact .inr ⟨s, fun port => by rw [hjoined, if_neg hempty, if_pos hother]⟩
  by_cases hhost : r.authority.isEmpty
  · exact .inl ⟨_, (urlAt 0 ('/' :: cs)).followsAuthority_followed _, fun port => by
      rw [hjoined, if_neg hempty, if_neg hother, if_pos hhost]⟩
  · exact .inr ⟨_, fun port => by rw [hjoined, if_neg hempty, if_neg hother, if_neg hhost]⟩

/-- The host and the port at the start of a URL are told apart by the colon, if there is one. -/
theorem splitAuthority_hostAt (port : Nat) :
    Http.splitAuthority (hostAt port).toList =
      ([], "127.0.0.1".toList, if port = 80 then [] else (toString port).toList) := by
  rw [toList_hostAt]
  by_cases hdefault : port = 80
  · rw [if_pos hdefault, if_pos hdefault]
    decide
  · rw [if_neg hdefault, if_neg hdefault]
    exact Http.splitAuthority_at (by decide) (List.all_iff_forall_prop.1 (by decide))
      (Text.isDigit_toString port)

/-- The URL of what follows a host with its port. -/
theorem ofText_hostAt (hport : port < Http.lengthLimit) {tail : String}
    (htail : FollowsAuthority tail.toList) :
    Http.Url.ofText ("http://" ++ hostAt port ++ tail) =
      if ("http://" ++ hostAt port ++ tail).length > Http.urlLimit then .error .tooLong
      else match Http.firstControl? ("http://" ++ hostAt port ++ tail).toList with
        | some (c, position) => .error (.control c position)
        | none => .ok (urlAt port tail.toList) := by
  have hhost : Http.normalizeHost "127.0.0.1".toList = .ok "127.0.0.1" := by decide
  refine Http.Url.ofText_authority
    (forall_mem_hostAt (List.all_iff_forall_prop.1 (by decide)) ?_ port)
    (splitAuthority_hostAt port) hhost (by decide) ?_ htail (by simp)
  · intro c hc
    exact ⟨by rintro rfl; simp at hc, by rintro rfl; simp at hc, by rintro rfl; simp at hc⟩
  · by_cases hdefault : port = 80
    · rw [if_pos hdefault, if_pos hdefault]
      rfl
    · rw [if_neg hdefault, String.ofList_toList,
        Http.normalizePort_of_isDecimal (Http.isDecimal_toString hport)]

theorem firstControl?_hostAt (port : Nat) (tail : String) :
    Http.firstControl? ("http://" ++ hostAt port ++ tail).toList = none ↔
      ∀ c ∈ tail.toList, Http.isControl c = false := by
  have hfront : ∀ c ∈ ("http://" ++ hostAt port).toList, Http.isControl c = false := by
    rw [String.toList_append, List.forall_mem_append]
    exact ⟨List.all_iff_forall_prop.1 (by decide), forall_mem_hostAt
      (List.all_iff_forall_prop.1 (by decide))
      (fun c hc => Http.not_isControl_of_printable (Text.isDigit_spec hc).1) port⟩
  rw [Http.firstControl?_eq_none_iff, String.toList_append, List.forall_mem_append]
  exact ⟨fun h => h.2, fun h => ⟨hfront, h⟩⟩

/-- The host with its port can be told apart from what stands around it. -/
theorem checkNetloc_hostAt (port : Nat) : Http.checkNetloc (hostAt port).toList = .ok () := by
  have hplain : ∀ c ∈ (hostAt port).toList,
      c ≠ '[' ∧ c ≠ ']' ∧ Http.disguises.contains c.toNat = false := by
    refine forall_mem_hostAt (List.all_iff_forall_prop.1 (by decide)) (fun c hc => ?_) port
    have hall : ∀ c : Char, c.toNat < 128 → c.isDigit →
        c ≠ '[' ∧ c ≠ ']' ∧ Http.disguises.contains c.toNat = false :=
      Text.forall_char (by decide +kernel)
    have hle := (Text.isDigit_spec hc).1.2
    exact hall c (Nat.lt_of_le_of_lt (UInt32.le_iff_toNat_le.1 hle) (by decide)) hc
  have hopen : (hostAt port).toList.contains '[' = false := by
    rw [← Bool.not_eq_true, List.contains_iff_mem]
    exact fun hm => (hplain _ hm).1 rfl
  have hclose : (hostAt port).toList.contains ']' = false := by
    rw [← Bool.not_eq_true, List.contains_iff_mem]
    exact fun hm => (hplain _ hm).2.1 rfl
  have hdisguised : (hostAt port).toList.any (fun c => Http.disguises.contains c.toNat) = false :=
    List.any_eq_false.2 fun c hc => by simpa using (hplain c hc).2.2
  rw [Http.checkNetloc, Http.checkAuthority, hopen, hclose, hdisguised]
  rfl

/-! ## The same place -/

/-- Two URLs are one, or are those of one target at two ports, apart from their fragment. -/
inductive SamePlace (port port' : Nat) : Http.Url → Http.Url → Prop
  | same (u : Http.Url) : SamePlace port port' u u
  | loopback (target : List Char) (fragment : Option String) :
      SamePlace port port' { urlAt port target with fragment }
        { urlAt port' target with fragment }

theorem samePlace_urlAt (port port' : Nat) (target : List Char) :
    SamePlace port port' (urlAt port target) (urlAt port' target) :=
  .loopback target (urlAt port target).fragment

/-- What follows the host is a URL at both ports or at neither, unless it is too long for one of
them. -/
theorem agree_ofText_hostAt (hport : port < Http.lengthLimit) (hport' : port' < Http.lengthLimit)
    {tail : String} (htail : FollowsAuthority tail.toList)
    (hfits : ("http://" ++ hostAt port ++ tail).length ≤ Http.urlLimit ↔
      ("http://" ++ hostAt port' ++ tail).length ≤ Http.urlLimit) :
    Agree (SamePlace port port') (Http.Url.ofText ("http://" ++ hostAt port ++ tail))
      (Http.Url.ofText ("http://" ++ hostAt port' ++ tail)) := by
  rw [ofText_hostAt hport htail, ofText_hostAt hport' htail]
  by_cases hlong : ("http://" ++ hostAt port ++ tail).length > Http.urlLimit
  · have hlong' : ("http://" ++ hostAt port' ++ tail).length > Http.urlLimit := by omega
    rw [if_pos hlong, if_pos hlong']
    exact .error _ _
  · have hlong' : ¬ ("http://" ++ hostAt port' ++ tail).length > Http.urlLimit := by omega
    rw [if_neg hlong, if_neg hlong']
    by_cases hcontrol : ∀ c ∈ tail.toList, Http.isControl c = false
    · rw [(firstControl?_hostAt port tail).2 hcontrol, (firstControl?_hostAt port' tail).2 hcontrol]
      exact .ok (samePlace_urlAt port port' tail.toList)
    · obtain ⟨d, hd⟩ := Option.ne_none_iff_exists'.1
        (mt (firstControl?_hostAt port tail).1 hcontrol)
      obtain ⟨d', hd'⟩ := Option.ne_none_iff_exists'.1
        (mt (firstControl?_hostAt port' tail).1 hcontrol)
      rw [hd, hd']
      exact .error _ _

section Place

variable {u u' : Http.Url}

theorem SamePlace.scheme (h : SamePlace port port' u u') : u'.scheme = u.scheme := by
  cases h <;> rfl

theorem SamePlace.host (h : SamePlace port port' u u') : u'.host = u.host := by
  cases h <;> rfl

theorem SamePlace.fragment (h : SamePlace port port' u u') : u'.fragment = u.fragment := by
  cases h <;> rfl

/-- The host is written in ASCII at both ports or at neither. -/
theorem SamePlace.checkAscii_location (h : SamePlace port port' u u') :
    Http.checkAscii u'.location = Http.checkAscii u.location := by
  cases h with
  | same u => rfl
  | loopback target fragment =>
    have hascii : Text.IsAscii "127.0.0.1" := by decide
    have hlocation : ∀ port, Http.checkAscii (urlAt port target).location = .ok () := fun port =>
      Http.checkAscii_of_isAscii (Http.Url.isAscii_location (u := urlAt port target) hascii)
    exact (hlocation port').trans (hlocation port).symm

/-- The components are short enough at both ports or at neither: the host is, with any port. -/
theorem SamePlace.checkLengths (hport : port < Http.lengthLimit) (hport' : port' < Http.lengthLimit)
    (h : SamePlace port port' u u') (fragment : Option String) :
    ({ u' with fragment } : Http.Url).checkLengths =
      ({ u with fragment } : Http.Url).checkLengths := by
  cases h with
  | same u => rfl
  | loopback target other =>
    have hshort : ∀ {port}, port < Http.lengthLimit →
        ¬ Http.urlLimit < ({ urlAt port target with fragment } : Http.Url).authority.length := by
      intro port hport
      have hlength := length_loopback_le hport
      have hhost : "127.0.0.1".length = 9 := by decide
      have hlimit : Http.urlLimit = 65536 := rfl
      rw [show ({ urlAt port target with fragment } : Http.Url).authority = hostAt port from
        authority_urlAt port target, hostAt]
      split <;> omega
    simp only [Http.Url.checkLengths, List.find?_cons, decide_eq_false (hshort hport),
      decide_eq_false (hshort hport')]
    rfl

/-- A fragment is added at both ports or at neither. -/
theorem SamePlace.agree_withFragment (hport : port < Http.lengthLimit)
    (hport' : port' < Http.lengthLimit) (h : SamePlace port port' u u') (fragment : String) :
    Agree (SamePlace port port') (u.withFragment fragment) (u'.withFragment fragment) := by
  rw [Http.Url.withFragment, Http.Url.withFragment, h.checkLengths hport hport']
  refine .bind (.refl fun _ => rfl) fun _ _ _ => ?_
  by_cases hlong : Http.urlLimit < fragment.length
  · rw [if_pos hlong, if_pos hlong]
    exact .error _ _
  · rw [if_neg hlong, if_neg hlong]
    cases Http.firstControl? fragment.toList with
    | some found => exact .error _ _
    | none =>
      refine .ok ?_
      cases h with
      | same u => exact .same _
      | loopback target other => exact .loopback target _

end Place

/-! ## Redirects -/

theorem agree_checkCookies {a : Agent} {base base' url url' : Http.Url} {fs : Http.Fields}
    (h : a.cookies.fault? base url fs = none ↔ a.cookies.fault? base' url' fs = none) :
    Agree Eq (checkCookies a base url fs) (checkCookies a base' url' fs) := by
  rw [checkCookies, checkCookies]
  cases hfault : a.cookies.fault? base url fs with
  | none =>
    rw [h.1 hfault]
    exact .ok rfl
  | some reason =>
    obtain ⟨reason', hfault'⟩ := Option.ne_none_iff_exists'.1
      (mt h.2 (hfault ▸ Option.some_ne_none reason))
    rw [hfault']
    exact .error _ _

section Redirect

variable (hport : port < Http.lengthLimit) (hport' : port' < Http.lengthLimit)

include hport hport'

/-- A text that is meant from a URL makes one at both ports or at neither. -/
theorem agree_joinUrl (cs : List Char) (s : String)
    (hfits : ((urlAt port ('/' :: cs)).joined s).length ≤ Http.urlLimit ↔
      ((urlAt port' ('/' :: cs)).joined s).length ≤ Http.urlLimit) :
    Agree (SamePlace port port') (joinUrl (urlAt port ('/' :: cs)) s)
      (joinUrl (urlAt port' ('/' :: cs)) s) := by
  have hjoined : Agree (SamePlace port port')
      ((Http.Url.ofText ((urlAt port ('/' :: cs)).joined s)).mapError RedirectError.url)
      ((Http.Url.ofText ((urlAt port' ('/' :: cs)).joined s)).mapError RedirectError.url) := by
    refine Agree.mapError ?_ _ _
    rcases joined_urlAt cs s with ⟨tail, htail, hjoined⟩ | ⟨text, hjoined⟩
    · rw [hjoined, hjoined] at hfits ⊢
      exact agree_ofText_hostAt hport hport' htail hfits
    · rw [hjoined, hjoined]
      exact .refl .same
  have hscheme : (urlAt port' ('/' :: cs)).scheme = (urlAt port ('/' :: cs)).scheme := rfl
  rw [joinUrl, joinUrl, authority_urlAt, authority_urlAt, checkNetloc_hostAt, checkNetloc_hostAt,
    hscheme]
  by_cases hempty : (s != "") = true
  · rw [if_pos hempty, if_pos hempty]
    exact .bind (.refl fun _ => rfl) fun _ _ _ => .bind (.refl fun _ => rfl) fun _ _ _ => hjoined
  · rw [if_neg hempty, if_neg hempty]
    exact hjoined

/-- A place is completed at both ports or at neither. -/
theorem agree_completeUrl (a : Agent) (cs : List Char) {place : String} {url : Http.Url}
    (hurl : Http.Url.ofText place = .ok url)
    (hfits : (urlAt port ('/' :: cs)).FitsFrom place ↔ (urlAt port' ('/' :: cs)).FitsFrom place) :
    Agree (SamePlace port port') (completeUrl a (urlAt port ('/' :: cs)) url)
      (completeUrl a (urlAt port' ('/' :: cs)) url) := by
  unfold completeUrl
  by_cases hscheme : (url.scheme == "") = true
  · rw [if_pos hscheme, if_pos hscheme]
    have hlength : ∀ base : Http.Url,
        base.FitsFrom place ↔ (base.joined url.text).length ≤ Http.urlLimit := by
      refine fun base => ⟨fun h => h url hurl (beq_iff_eq.1 hscheme), fun h url' hurl' _ => ?_⟩
      obtain rfl := Except.ok.inj (hurl.symm.trans hurl')
      exact h
    rw [hlength, hlength] at hfits
    exact agree_joinUrl hport hport' cs url.text hfits
  · rw [if_neg hscheme, if_neg hscheme]
    -- A URL of its own is completed by the host of the request only, whatever the port.
    exact .refl .same

/-- A fragment is kept at both ports or at neither. -/
theorem agree_keepFragment (cs : List Char) {u u' : Http.Url} (h : SamePlace port port' u u') :
    Agree (SamePlace port port') (keepFragment (urlAt port ('/' :: cs)) u)
      (keepFragment (urlAt port' ('/' :: cs)) u') := by
  have hfragment : (urlAt port' ('/' :: cs)).fragment = (urlAt port ('/' :: cs)).fragment := rfl
  rw [keepFragment, keepFragment, hfragment, h.fragment]
  split
  · exact (h.agree_withFragment hport hport' _).mapError _ _
  · exact .ok h

/-- A place makes a URL at both ports or at neither. -/
theorem agree_placeUrl (a : Agent) (cs : List Char) (place : String)
    (hfits : (urlAt port ('/' :: cs)).FitsFrom place ↔ (urlAt port' ('/' :: cs)).FitsFrom place) :
    Agree (SamePlace port port') (placeUrl a (urlAt port ('/' :: cs)) place)
      (placeUrl a (urlAt port' ('/' :: cs)) place) := by
  rw [placeUrl, placeUrl]
  cases hurl : Http.Url.ofText place with
  | error e => exact .error _ _
  | ok url =>
    refine Agree.mapError ?_ _ _
    exact (agree_completeUrl hport hport' a cs hurl hfits).bind fun _ _ h =>
      agree_keepFragment hport hport' cs h

/-- A place could be asked for at both ports or at neither. -/
theorem agree_checkRedirect (a : Agent) (cs : List Char) {fs : Http.Fields} {place : String}
    (halike : RedirectsAlike a (urlAt port ('/' :: cs)) (urlAt port' ('/' :: cs)) fs place) :
    Agree Eq (checkRedirect a (urlAt port ('/' :: cs)) fs place)
      (checkRedirect a (urlAt port' ('/' :: cs)) fs place) := by
  have hplace := agree_placeUrl hport hport' a cs place halike.fits
  have hcookies := halike.cookies
  rw [checkRedirect, checkRedirect]
  generalize placeUrl a (urlAt port ('/' :: cs)) place = r at hplace hcookies
  generalize placeUrl a (urlAt port' ('/' :: cs)) place = r' at hplace hcookies
  cases hplace with
  | error e e' => exact .error _ _
  | @ok u u' h =>
    -- The hosts that are compared are those of both ports.
    have hscheme : (urlAt port' ('/' :: cs)).scheme = (urlAt port ('/' :: cs)).scheme := rfl
    have hhost : (urlAt port' ('/' :: cs)).host = (urlAt port ('/' :: cs)).host := rfl
    have hhosts : checkHosts a (urlAt port' ('/' :: cs)) u' =
        checkHosts a (urlAt port ('/' :: cs)) u := by
      rw [checkHosts, checkHosts, h.scheme, h.host, h.checkAscii_location, hscheme, hhost]
    refine Agree.mapError ?_ _ _
    rw [hhosts]
    exact .bind (.refl fun _ => rfl) fun _ _ _ => agree_checkCookies (hcookies u u' rfl rfl)

end Redirect

/-! ## What comes back -/

theorem proposals_requestAt (port port' : Nat) :
    Incoming.proposals (requestAt port target method own body) =
      Incoming.proposals (requestAt port' target method own body) := by
  by_cases h : NamesHost own body
  · rw [Incoming.proposals, Incoming.proposals, fields_requestAt_of_host h,
      fields_requestAt_of_host h]
    rfl
  · have hname : (Http.Fields.fold (Text.ascii "Host") == Text.ascii "upgrade") = false := by decide
    rw [Incoming.proposals, Incoming.proposals, fields_requestAt h, fields_requestAt h]
    simp only [List.any_cons, field, hname, Bool.false_and, Bool.false_or]
    rfl

/-- What a client makes of octets is the same for both ports, unless they redirect it to a place
that can be asked for at one of them only. -/
theorem agree_answer (a : Agent) (hport : port < Http.lengthLimit)
    (hport' : port' < Http.lengthLimit) (cs : List Char) (bs : Bytes)
    (halike : ∀ fs place,
      (requestAt port ('/' :: cs) method own body).redirect? bs = some (fs, place) →
        RedirectsAlike a (urlAt port ('/' :: cs)) (urlAt port' ('/' :: cs)) fs place) :
    Agree Eq ((requestAt port ('/' :: cs) method own body).answer a bs)
      ((requestAt port' ('/' :: cs) method own body).answer a bs) := by
  rw [answer, answer, ← proposals_requestAt port port']
  cases hhead : Incoming.finalHead (Incoming.proposals (requestAt port ('/' :: cs) method own body))
      (bs.length + 1) bs with
  | error e => exact .error _ _
  | ok found =>
    obtain ⟨head, rest⟩ := found
    -- What is read of the body does not depend on the URL.
    have hbody : Incoming.readContent (requestAt port' ('/' :: cs) method own body) head rest =
      Incoming.readContent (requestAt port ('/' :: cs) method own body) head rest := rfl
    simp only [Except.mapError, ok_bind, hbody]
    cases hplace : head.place? with
    | none => exact .refl fun _ => rfl
    | some place =>
      have hredirect : (requestAt port ('/' :: cs) method own body).redirect? bs =
          some (head.fields, place) := by
        rw [redirect?, hhead]
        simp only [Except.toOption, Option.bind_eq_bind, Option.bind_some, hplace]
        rfl
      exact (agree_checkRedirect hport hport' a cs (halike _ _ hredirect)).bind
        fun _ _ _ => .refl fun _ => rfl

end Outgoing

end ProxyTrial
