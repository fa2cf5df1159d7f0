import ProxyTrial.Client.Outgoing
import ProxyTrial.Proofs.Http.Body
import ProxyTrial.Proofs.Http.RequestHead
/-!
# URLs of targets at an address

A client asks for a target at an address. The URL of both is taken apart where they were put
together, whatever the target is. What may stand in a path or a query unencoded is sent as it is.

## Main definitions

* `IsAddress address host port`: an address with a host and the number of a port
* `PlainPath path`: a path that is sent as it stands
* `withQuery path query`: a target with a query, if there is one
* `SingleSlash target`: a target that begins with a single slash

## Main results

* `Url.graphic_target`: what a request asks for is a printable word
* `UrlParts.ofText_at`: the parts of the URL of any target at an address
* `Url.ofText_urlOf`: the URL of a plain target at an address
* `targetPath_of_singleSlash`: the path of a target that begins with a single slash
-/

namespace ProxyTrial.Http

/-! ## Characters that stand for themselves -/

theorem isPrintableExcept_iff {excluded : List Char} {c : Char} :
    isPrintableExcept excluded c ↔ ('!' ≤ c ∧ c ≤ '~') ∧ c ∉ excluded := by
  simp [isPrintableExcept]

theorem isQuerySafe_of_isPathSafe {c : Char} (h : isPathSafe c) : isQuerySafe c := by
  rw [isPathSafe, Bool.and_eq_true] at h
  exact h.1

theorem isQuerySafe_iff {c : Char} :
    isQuerySafe c ↔ ('!' ≤ c ∧ c ≤ '~') ∧ c ∉ ['"', '#', '<', '>'] :=
  isPrintableExcept_iff

theorem ne_question_of_isPathSafe {c : Char} (h : isPathSafe c) : c ≠ '?' := by
  rw [isPathSafe, Bool.and_eq_true] at h
  rintro rfl
  exact absurd h.2 (by decide)

theorem ne_hash_of_isQuerySafe {c : Char} (h : isQuerySafe c) : c ≠ '#' := by
  rintro rfl
  exact absurd h (by decide)

theorem not_isControl_of_printable {c : Char} (h : '!' ≤ c ∧ c ≤ '~') : isControl c = false := by
  have hge : 33 ≤ c.toNat := UInt32.le_iff_toNat_le.1 h.1
  have hle : c.toNat ≤ 126 := UInt32.le_iff_toNat_le.1 h.2
  simp only [isControl, Bool.or_eq_false_iff, decide_eq_false_iff_not, beq_eq_false_iff_ne]
  omega

theorem firstControl?_eq_none_iff {cs : List Char} :
    firstControl? cs = none ↔ ∀ c ∈ cs, isControl c = false := by
  have hall : (cs.takeWhile fun c => !isControl c) = cs ↔ ∀ c ∈ cs, isControl c = false := by
    simp only [List.takeWhile_eq_self_iff, Bool.not_eq_true']
  rw [firstControl?, Option.map_eq_none_iff, List.head?_eq_none_iff, List.drop_eq_nil_iff, ← hall]
  exact ⟨(List.takeWhile_sublist _).eq_of_length_le, fun h => by rw [h]⟩

/-- Characters that stand for themselves are sent as they are. -/
theorem percentEncode_of_forall {safe : Char → Bool} {cs : List Char} (h : ∀ c ∈ cs, safe c) :
    percentEncode safe cs = String.ofList cs := by
  rw [percentEncode]
  congr 1
  induction cs with
  | nil => rfl
  | cons c cs ih =>
    rw [List.forall_mem_cons] at h
    rw [List.flatMap_cons, percentChar, if_pos h.1, ih h.2]
    rfl

/-- What is percent-encoded is printable. -/
theorem printable_percentEncode {safe : Char → Bool} (h : ∀ c, safe c → '!' ≤ c ∧ c ≤ '~')
    (cs : List Char) : ∀ c ∈ (percentEncode safe cs).toList, '!' ≤ c ∧ c ≤ '~' := by
  have hall : ∀ b : UInt8, (percentOctet b).all fun c => '!' ≤ c ∧ c ≤ '~' :=
    Text.forall_octet (by decide +kernel)
  have hoctet : ∀ b : UInt8, ∀ c ∈ percentOctet b, '!' ≤ c ∧ c ≤ '~' :=
    fun b => List.all_iff_forall_prop.1 (hall b)
  rw [percentEncode, String.toList_ofList]
  intro c hc
  obtain ⟨d, -, hd⟩ := List.mem_flatMap.1 hc
  rw [percentChar] at hd
  split at hd
  · next hsafe => exact List.mem_singleton.1 hd ▸ h d hsafe
  · obtain ⟨b, -, hb⟩ := List.mem_flatMap.1 hd
    exact hoctet b c hb

/-! ## Hosts and ports -/

/-- Whether a character may stand in a host: ASCII letters, digits, dots and hyphens. -/
def isHostChar (c : Char) : Bool := c.isAlphanum || c == '.' || c == '-'

/-- A host: a name, or an address of version 4 if it looks like one. -/
structure IsHost (host : String) : Prop where
  ne_empty : host ≠ ""
  chars : ∀ c ∈ host.toList, isHostChar c
  ipv4 : looksLikeIpv4 host.toList → isIpv4 host.toList

/-- An address: a host and the number of a port, with a colon between them. -/
structure IsAddress (address host : String) (port : Nat) : Prop where
  isHost : IsHost host
  eq_append : ∃ digits, address = host ++ ":" ++ digits ∧ IsDecimal digits port

theorem toNat_lt_of_isHostChar {c : Char} (h : isHostChar c) : c.toNat < 128 := by
  have hle : ∀ {last : UInt32}, last.toNat < 128 → c.val ≤ last → c.toNat < 128 :=
    fun hlast hc => Nat.lt_of_le_of_lt (UInt32.le_iff_toNat_le.1 hc) hlast
  have hrange : ∀ {first last : UInt32}, last.toNat < 128 →
      (decide (first ≤ c.val) && decide (c.val ≤ last)) = true → c.toNat < 128 :=
    fun hlast hc => hle hlast (of_decide_eq_true (Bool.and_eq_true_iff.1 hc).2)
  rw [isHostChar, Bool.or_eq_true, Bool.or_eq_true, beq_iff_eq, beq_iff_eq] at h
  rcases h with (h | rfl) | rfl
  · rcases Bool.or_eq_true_iff.1 h with h | h
    · rcases Bool.or_eq_true_iff.1 h with h | h
      · exact hle (by decide : 'Z'.val.toNat < 128) (of_decide_eq_true h).2
      · exact hrange (by decide : 'z'.val.toNat < 128) h
    · exact hrange (by decide : '9'.val.toNat < 128) h
  · decide
  · decide

theorem isHostChar_spec {c : Char} (h : isHostChar c) :
    isHostChar (Text.small c) ∧ isHostSafe (Text.small c) ∧ ('!' ≤ c ∧ c ≤ '~') ∧
      c ∉ ":/?#@[".toList := by
  have hall : ∀ c : Char, c.toNat < 128 → isHostChar c →
      isHostChar (Text.small c) ∧ isHostSafe (Text.small c) ∧ ('!' ≤ c ∧ c ≤ '~') ∧
        c ∉ ":/?#@[".toList :=
    Text.forall_char (by decide +kernel)
  exact hall c (toNat_lt_of_isHostChar h) h

/-- A number in decimal digits is read as it is. -/
theorem IsDecimal.integer? {digits : String} {n : Nat} (h : IsDecimal digits n) :
    Text.integer? digits = some (n : Int) := by
  have hne : digits.toList ≠ [] := by simpa using h.ne_empty
  have hspec := fun c hc => Text.isDigit_spec (h.isDigit c hc)
  have htrim : Text.trimBy Text.isBlank digits.toList = digits.toList :=
    Text.trimBy_eq_self fun c hc => (hspec c hc).2.2.1
  have hnone : ∀ c ∈ ['-', '+'], c ∉ digits.toList := by
    intro c hc hm
    have hout := (hspec c hm).2.1
    simp only [List.mem_cons, List.not_mem_nil, or_false] at hc
    rcases hc with rfl | rfl <;> exact hout (by simp)
  have hgroup := (Text.Grouped.of_forall hne fun c hc =>
    Option.isSome_of_eq_some (hspec c hc).2.2.2).groupedDigits (by decide)
  have hvalues : digits.toList.filterMap Text.digitValue? =
      digits.toList.map fun c => c.toNat - 48 := by
    rw [← List.filterMap_eq_map]
    exact List.filterMap_congr fun c hc => (hspec c hc).2.2.2
  have hfits : ¬ (digits.toList.map fun c => c.toNat - 48).length > Text.digitLimit := by
    rw [List.length_map, String.length_toList]
    exact Nat.not_lt.2 h.fits
  rw [Text.integer?, htrim, Text.splitSign_of_notMem (hnone _ (by simp)) (hnone _ (by simp))]
  simp only [hgroup, hvalues, h.value, Option.bind_eq_bind, Option.bind_some, if_neg hfits,
    Bool.false_eq_true, if_false]
  rfl

theorem toList_lower_of_isHost {host : String} (h : IsHost host) :
    (Text.lower host).toList = host.toList.map Text.small := by
  rw [Text.lower_of_isAscii fun c hc => toNat_lt_of_isHostChar (h.chars c hc),
    String.toList_ofList]

/-- A host without the mark of names that are written in ASCII is not read. -/
theorem hostText_of_not_isPrefixOf {host : String} (h : labelMark.isPrefixOf host.toList = false)
    (reader : HostReader) : hostText reader host = .ok host := by
  rw [hostText, h, if_neg Bool.false_ne_true]

theorem hostText_loopback (reader : HostReader) : hostText reader "127.0.0.1" = .ok "127.0.0.1" :=
  hostText_of_not_isPrefixOf (by decide) reader

/-- A host that is ASCII can be written. -/
theorem checkAscii_of_isAscii {host : String} (h : Text.IsAscii host) :
    checkAscii host = .ok () := by
  rw [checkAscii, Text.encode_ascii h]
  rfl

/-- A host that is ASCII is so with its port. -/
theorem Url.isAscii_location {u : Url} (h : Text.IsAscii u.host) : Text.IsAscii u.location := by
  have hbracketed : Text.IsAscii (if u.host.toList.contains ':' then "[" ++ u.host ++ "]"
      else u.host) := by
    split
    · simp only [Text.IsAscii, String.toList_append, List.forall_mem_append]
      exact ⟨⟨List.all_iff_forall_prop.1 (by decide), h⟩, List.all_iff_forall_prop.1 (by decide)⟩
    · exact h
  rw [Url.location]
  split
  · exact hbracketed
  · next port _ =>
    have hport : Text.IsAscii (toString port) := by
      cases port with
      | ofNat n => exact Text.isAscii_repr n
      | negSucc n =>
        show Text.IsAscii ("-" ++ (n + 1).repr)
        rw [Text.IsAscii, String.toList_append, List.forall_mem_append]
        exact ⟨List.all_iff_forall_prop.1 (by decide), Text.isAscii_repr (n + 1)⟩
    simp only [Text.IsAscii, String.toList_append, List.forall_mem_append]
    exact ⟨hbracketed, List.all_iff_forall_prop.1 (by decide), hport⟩

/-- What a separator splits is made of the separator and what is in the parts. -/
theorem exists_mem_splitOnElem (sep : Char) {a : Char} {cs : List Char} (h : a ∈ cs) :
    a = sep ∨ ∃ part ∈ Text.splitOnElem sep cs, a ∈ part := by
  induction cs with
  | nil => cases h
  | cons c cs ih =>
    rw [Text.splitOnElem]
    by_cases hc : c = sep
    · rw [if_pos (beq_iff_eq.2 hc)]
      rcases List.mem_cons.1 h with rfl | h
      · exact .inl hc
      · exact (ih h).imp_right fun ⟨part, hpart, ha⟩ => ⟨part, List.mem_cons_of_mem _ hpart, ha⟩
    · rw [if_neg (by simpa using hc)]
      cases hsplit : Text.splitOnElem sep cs with
      | nil =>
        rcases List.mem_cons.1 h with rfl | h
        · exact .inr ⟨[a], by simp, by simp⟩
        · exact (ih h).imp_right fun ⟨part, hpart, _⟩ =>
            absurd (hsplit ▸ hpart) List.not_mem_nil
      | cons part parts =>
        rcases List.mem_cons.1 h with rfl | h
        · exact .inr ⟨a :: part, by simp, by simp⟩
        · refine (ih h).imp_right fun ⟨other, hother, ha⟩ => ?_
          rcases List.mem_cons.1 (hsplit ▸ hother) with rfl | hmem
          · exact ⟨c :: other, by simp, by simp [ha]⟩
          · exact ⟨other, by simp [hmem], ha⟩

/-- An address of version 4 has no letters. -/
theorem small_of_isIpv4 {cs : List Char} (h : isIpv4 cs) : cs.map Text.small = cs := by
  refine (List.map_congr_left fun c hc => ?_).trans (List.map_id _)
  rw [isIpv4, Bool.and_eq_true, List.all_eq_true] at h
  rcases exists_mem_splitOnElem '.' hc with rfl | ⟨part, hpart, hmem⟩
  · rfl
  · have hdigits := h.2 part hpart
    simp only [isOctetText, Bool.and_eq_true, List.all_eq_true] at hdigits
    have hdigit := hdigits.1.1.2 c hmem
    have hle := (Text.isDigit_spec hdigit).1
    have hnot : ¬ ('A' ≤ c ∧ c ≤ 'Z') := fun hcapital => by
      simp only [Char.isDigit, Bool.and_eq_true, decide_eq_true_eq] at hdigit
      exact absurd (UInt32.le_trans hcapital.1 hdigit.2) (by decide)
    exact if_neg hnot

namespace IsHost

variable {host : String}

/-- A host is sent in small letters. -/
theorem normalizeHost (h : IsHost host) : normalizeHost host.toList = .ok (Text.lower host) := by
  have hne : host.toList ≠ [] := by simpa using h.ne_empty
  have hempty : host.toList.isEmpty = false := by simpa using h.ne_empty
  rw [Http.normalizeHost, hempty, if_neg Bool.false_ne_true]
  by_cases hlooks : looksLikeIpv4 host.toList
  · rw [if_pos hlooks, if_pos (h.ipv4 hlooks), ← String.ofList_toList (s := Text.lower host),
      toList_lower_of_isHost h, small_of_isIpv4 (h.ipv4 hlooks)]
  · obtain ⟨c, cs, hcs⟩ := List.exists_cons_of_ne_nil hne
    -- A host in brackets would be an address of version 6.
    have hbracket : (host.toList.head? == some '[') = false := by
      have hc := h.chars c (hcs ▸ List.mem_cons_self)
      rw [hcs, List.head?_cons, beq_eq_false_iff_ne]
      rintro ⟨⟩
      exact absurd hc (by decide)
    have hascii : host.toList.all (fun c => decide (c.toNat < 128)) :=
      List.all_eq_true.2 fun c hc => by simpa using toNat_lt_of_isHostChar (h.chars c hc)
    have hsafe : ∀ c ∈ (Text.lower host).toList, isHostSafe c := by
      rw [toList_lower_of_isHost h, List.forall_mem_map]
      exact fun c hc => (isHostChar_spec (h.chars c hc)).2.1
    rw [if_neg hlooks, hbracket, Bool.false_and, Bool.false_and, if_neg Bool.false_ne_true,
      if_pos hascii, String.ofList_toList, percentEncode_of_forall hsafe, String.ofList_toList]

theorem lower_ne_empty (h : IsHost host) : Text.lower host ≠ "" := by
  rw [Ne, ← String.toList_eq_nil_iff, toList_lower_of_isHost h]
  simpa using h.ne_empty

theorem isHostChar_lower (h : IsHost host) : ∀ c ∈ (Text.lower host).toList, isHostChar c := by
  rw [toList_lower_of_isHost h, List.forall_mem_map]
  exact fun c hc => (isHostChar_spec (h.chars c hc)).1

end IsHost

/-! ## The parts of a URL -/

section Parts

variable {host digits : List Char}

/-- The host and the port of an address are told apart by the colon. -/
theorem splitAuthority_at (hne : host ≠ []) (hhost : ∀ c ∈ host, isHostChar c)
    (hdigits : ∀ c ∈ digits, c.isDigit) :
    splitAuthority (host ++ ':' :: digits) = ([], host, digits) := by
  have hat : '@' ∉ (host ++ ':' :: digits).reverse := by
    simp only [List.mem_reverse, List.mem_append, List.mem_cons, not_or]
    exact ⟨fun hm => absurd (hhost _ hm) (by decide), by decide,
      fun hm => absurd (hdigits _ hm) (by decide)⟩
  have hcolon : ∀ c ∈ host, (c != ':') = true := by
    intro c hc
    rw [bne_iff_ne]
    rintro rfl
    exact absurd (hhost _ hc) (by decide)
  rw [splitAuthority, splitLast, Text.cutAt_of_notMem hat]
  obtain ⟨c, cs, rfl⟩ := List.exists_cons_of_ne_nil hne
  have hc := hhost c List.mem_cons_self
  simp only [List.reverse_reverse, Option.getD_none]
  -- Only a host in brackets is told apart otherwise.
  split
  · next he =>
    obtain ⟨rfl, -⟩ := List.cons.inj he
    exact absurd hc (by decide)
  · rw [List.takeWhile_append_of_pos hcolon, List.dropWhile_append_of_pos hcolon]
    simp

/-- What may follow an authority: a path with its slash, a query, a fragment, or nothing. -/
def FollowsAuthority (tail : List Char) : Prop := ∀ c ∈ tail.head?, c = '/' ∨ c = '?' ∨ c = '#'

/-- What is cut at a character begins as before, unless with that character. -/
theorem head?_cutAt (d : Char) (cs : List Char) :
    (Text.cutAt d cs).1.head? = if cs.head? = some d then none else cs.head? := by
  cases cs with
  | nil => rfl
  | cons c cs =>
    rw [Text.cutAt]
    by_cases hc : c = d <;> simp [hc]

/-- Without query and fragment, what follows an authority is a path with its slash, or nothing. -/
theorem FollowsAuthority.head?_path {tail : List Char} (h : FollowsAuthority tail) :
    (Text.cutAt '?' (Text.cutAt '#' tail).1).1.head? = none ∨
      (Text.cutAt '?' (Text.cutAt '#' tail).1).1.head? = some '/' := by
  rw [head?_cutAt, head?_cutAt]
  cases hc : tail.head? with
  | none => simp
  | some c => rcases h c hc with rfl | rfl | rfl <;> simp

/-- The authority of a URL reaches to what follows it. -/
theorem UrlParts.ofText_authority {authority tail : List Char}
    (hauthority : ∀ c ∈ authority, c ≠ '/' ∧ c ≠ '?' ∧ c ≠ '#') (htail : FollowsAuthority tail) :
    UrlParts.ofText ("http://".toList ++ authority ++ tail) =
      let (rest, fragment) := Text.cutAt '#' tail
      let (path, query) := Text.cutAt '?' rest
      let (user, host, port) := splitAuthority authority
      { scheme := "http".toList, user, host, port, path, query, fragment } := by
  have hscheme : splitScheme ("http://".toList ++ authority ++ tail) =
      ("http".toList, "//".toList ++ authority ++ tail) := by
    have hfirst : 'h'.isAlpha := by decide
    have hletters : isSchemeChar 'h' ∧ isSchemeChar 't' ∧ isSchemeChar 'p' := by decide
    have hcolon : isSchemeChar ':' = false := by decide
    simp [splitScheme, hfirst, hletters, hcolon]
  -- Neither mark stands in the authority, so that both cuts are behind it.
  have hcut : ∀ d ∈ ['#', '?'], ∀ more,
      Text.cutAt d ("//".toList ++ authority ++ more) =
        ("//".toList ++ authority ++ (Text.cutAt d more).1, (Text.cutAt d more).2) := by
    intro d hd more
    refine Text.cutAt_append_of_notMem (fun hm => ?_) more
    simp only [List.mem_cons, List.not_mem_nil, or_false] at hd
    rcases List.mem_append.1 hm with hm | hm
    · rcases hd with rfl | rfl <;> exact absurd hm (by decide)
    · rcases hd with rfl | rfl
      · exact (hauthority _ hm).2.2 rfl
      · exact (hauthority _ hm).2.1 rfl
  have hslash : ∀ c ∈ authority, (c != '/') = true := fun c hc => bne_iff_ne.2 (hauthority c hc).1
  simp only [UrlParts.ofText, hscheme, hcut '#' (by simp), hcut '?' (by simp)]
  have hhead := htail.head?_path
  generalize (Text.cutAt '?' (Text.cutAt '#' tail).1).1 = path at hhead ⊢
  have hends : path.takeWhile (· != '/') = [] ∧ path.dropWhile (· != '/') = path := by
    cases path with
    | nil => exact ⟨rfl, rfl⟩
    | cons c cs =>
      obtain rfl : c = '/' := by simpa using hhead
      simp
  have htake : (authority ++ path).takeWhile (· != '/') = authority := by
    rw [List.takeWhile_append_of_pos hslash, hends.1, List.append_nil]
  have hdrop : (authority ++ path).dropWhile (· != '/') = path := by
    rw [List.dropWhile_append_of_pos hslash, hends.2]
  simp only [String.reduceToList, List.cons_append, List.nil_append, htake, hdrop]

end Parts

/-- The path and the query of a URL are percent-encoded. -/
theorem UrlParts.normalize_eq_ok {p : UrlParts} {url : Url} (h : p.normalize = .ok url) :
    (∃ path, url.path = percentEncode isPathSafe path) ∧
      url.query = p.query.map (percentEncode isQuerySafe) := by
  simp only [UrlParts.normalize, bind_eq_ok] at h
  obtain ⟨host, -, port, -, -, -, h⟩ := h
  obtain rfl := Except.ok.inj h
  exact ⟨⟨_, rfl⟩, rfl⟩

/-- A request asks for a URL by a printable word. -/
theorem Url.graphic_target {text : String} {url : Url} (h : Url.ofText text = .ok url) :
    Graphic url.target := by
  obtain ⟨⟨path, hpath⟩, hquery⟩ : (∃ path, url.path = percentEncode isPathSafe path) ∧
      ∃ query, url.query = Option.map (percentEncode isQuerySafe) query := by
    rw [Url.ofText] at h
    split at h
    · cases h
    · split at h
      · cases h
      · obtain ⟨hpath, hquery⟩ := UrlParts.normalize_eq_ok h
        exact ⟨hpath, _, hquery⟩
  obtain ⟨query, hquery⟩ := hquery
  -- An escape is printable, and so is what needs none; a path that is empty is asked for as a
  -- slash.
  have hprintable : ∀ c ∈ (if url.path == "" then "/" else url.path).toList,
      '!' ≤ c ∧ c ≤ '~' := by
    split
    · exact List.all_iff_forall_prop.1 (by decide)
    · rw [hpath]
      exact printable_percentEncode
        (fun c hc => (isQuerySafe_iff.1 (isQuerySafe_of_isPathSafe hc)).1) path
  have hne : (if url.path == "" then "/" else url.path) ≠ "" := by
    split
    · decide
    · next hne => simpa using hne
  rw [Url.target, hquery]
  refine ⟨fun he => hne (String.append_eq_empty_iff.1 he).1, ?_⟩
  cases query with
  | none => simpa using hprintable
  | some q =>
    simp only [Option.map_some, String.toList_append, List.forall_mem_append]
    exact ⟨hprintable, List.all_iff_forall_prop.1 (by decide),
      printable_percentEncode (fun c hc => (isQuerySafe_iff.1 hc).1) q⟩

/-! ## Targets at an address -/

namespace Url

/-- The URL of a target, its slash included, at a host and a port. -/
def onHost (host : String) (port : Nat) (target : List Char) : Url :=
  let (rest, fragment) := Text.cutAt '#' target
  let (path, query) := Text.cutAt '?' rest
  { scheme := "http", user := "", host
    port := if port = 80 then none else some (port : Int)
    path := percentEncode isPathSafe (removeDots path)
    query := query.map (percentEncode isQuerySafe)
    fragment := fragment.map (percentEncode isFragmentSafe) }

end Url

theorem normalizePort_of_isDecimal {digits : String} {port : Nat} (h : IsDecimal digits port) :
    normalizePort "http" digits = .ok (if port = 80 then none else some (port : Int)) := by
  have hne : digits.isEmpty = false := by simpa using h.ne_empty
  have hdefault : (defaultPort? "http" == some (port : Int)) = decide (port = 80) := by
    rw [Bool.eq_iff_iff, beq_iff_eq, decide_eq_true_eq]
    show some (80 : Int) = some (port : Int) ↔ port = 80
    rw [Option.some_inj]
    omega
  rw [normalizePort, hne, if_neg Bool.false_ne_true, h.integer?]
  simp only [hdefault, decide_eq_true_eq]

theorem targetOf_eq (target : String) :
    Outgoing.targetOf target =
      if target.toList.head? = some '/' then target else "/" ++ target := by
  unfold Outgoing.targetOf
  split
  · next h =>
    obtain rfl := String.toList_eq_nil_iff.1 h
    rfl
  · next h => rw [h, List.head?_cons, if_pos rfl]
  · next hnil hslash =>
    rw [if_neg]
    intro h
    obtain ⟨cs, hcs⟩ := List.head?_eq_some_iff.1 h
    exact hslash cs hcs

/-- A target begins with a slash. -/
theorem toList_targetOf (target : String) :
    ∃ cs, (Outgoing.targetOf target).toList = '/' :: cs := by
  rw [targetOf_eq]
  split
  · next h => exact List.head?_eq_some_iff.1 h
  · exact ⟨target.toList, by simp⟩

/-- The URL of what follows an authority: it may be too long or have a control character in it, but
is well formed otherwise. -/
theorem Url.ofText_authority {authority host digits tail : List Char} {sent text : String}
    {port : Nat} (hauthority : ∀ c ∈ authority, c ≠ '/' ∧ c ≠ '?' ∧ c ≠ '#')
    (hsplit : splitAuthority authority = ([], host, digits))
    (hsent : normalizeHost host = .ok sent) (hne : sent ≠ "")
    (hport : normalizePort "http" (String.ofList digits) =
      .ok (if port = 80 then none else some (port : Int)))
    (htail : FollowsAuthority tail)
    (htext : text.toList = "http://".toList ++ authority ++ tail) :
    Url.ofText text =
      if text.length > urlLimit then .error .tooLong
      else match firstControl? text.toList with
        | some (c, position) => .error (.control c position)
        | none => .ok (onHost sent port tail) := by
  have hscheme : Text.lower "http" = "http" := Text.lower_eq_of_small (by decide) (by decide)
  have hpath : ∀ path : List Char, path.head? = none ∨ path.head? = some '/' →
      checkPath path true true = .ok () := by
    intro path hhead
    cases path with
    | nil => rfl
    | cons c cs =>
      obtain rfl : c = '/' := by simpa using hhead
      rfl
  rw [Url.ofText, ← String.length_toList]
  refine if_congr Iff.rfl rfl ?_
  rw [htext, UrlParts.ofText_authority hauthority htail, hsplit]
  -- With a scheme and a host before it, any path that begins with a slash will do.
  simp only [onHost, UrlParts.normalize, String.ofList_toList, hsent, hport, ok_bind]
  have hauthority : (percentEncode isUserSafe [] != "" || sent != "" ||
      (if port = 80 then none else some (port : Int)).isSome) = true := by simp [hne]
  have hfull : (!"http".toList.isEmpty) = true := by simp
  simp only [hauthority, hfull, hpath _ htail.head?_path, hscheme, ok_bind, Bool.true_or, if_true]
  rfl

variable {address host sent : String} {port : Nat}

/-- No character of an address ends an authority. -/
theorem ne_of_mem_address {host digits : List Char} (hhost : ∀ c ∈ host, isHostChar c)
    (hdigits : ∀ c ∈ digits, c.isDigit) :
    ∀ c ∈ host ++ ':' :: digits, c ≠ '/' ∧ c ≠ '?' ∧ c ≠ '#' := by
  intro c hc
  rw [List.mem_append, List.mem_cons] at hc
  rcases hc with hc | rfl | hc
  · have hnot := (isHostChar_spec (hhost c hc)).2.2.2
    exact ⟨by rintro rfl; simp at hnot, by rintro rfl; simp at hnot, by rintro rfl; simp at hnot⟩
  · decide
  · have hdigit := hdigits c hc
    exact ⟨by rintro rfl; simp at hdigit, by rintro rfl; simp at hdigit,
      by rintro rfl; simp at hdigit⟩

theorem followsAuthority_targetOf (target : String) :
    FollowsAuthority (Outgoing.targetOf target).toList := by
  obtain ⟨cs, hcs⟩ := toList_targetOf target
  intro c hc
  rw [hcs] at hc
  exact .inl (Option.some.inj hc).symm

/-- The URL of any target at an address. -/
theorem Url.ofText_urlOf (ha : IsAddress address host port)
    (hsent : normalizeHost host.toList = .ok sent) (hne : sent ≠ "") (target : String) :
    Url.ofText (Outgoing.urlOf address target) =
      if (Outgoing.urlOf address target).length > urlLimit then .error .tooLong
      else match firstControl? (Outgoing.urlOf address target).toList with
        | some (c, position) => .error (.control c position)
        | none => .ok (onHost sent port (Outgoing.targetOf target).toList) := by
  obtain ⟨digits, rfl, hdigits⟩ := ha.eq_append
  have hnil : host.toList ≠ [] := by simpa using ha.isHost.ne_empty
  refine Url.ofText_authority (ne_of_mem_address ha.isHost.chars hdigits.isDigit)
    (splitAuthority_at hnil ha.isHost.chars hdigits.isDigit) hsent hne ?_
    (followsAuthority_targetOf target) ?_
  · rw [String.ofList_toList, normalizePort_of_isDecimal hdigits]
  · simp [Outgoing.urlOf]

/-! ## Plain targets -/

/-- A path that is sent as it stands: it begins with one slash, all of its characters stand for
themselves, and no segment of it is a dot or two. -/
structure PlainPath (path : String) : Prop where
  head : ∃ cs, path.toList = '/' :: cs ∧ cs.head? ≠ some '/'
  safe : ∀ c ∈ path.toList, isPathSafe c
  noDots : ∀ segment ∈ Text.splitOnElem '/' path.toList, segment ≠ ['.'] ∧ segment ≠ ['.', '.']

/-- A target with a query, if there is one. -/
def withQuery (path : String) : Option String → String
  | none => path
  | some query => path ++ "?" ++ query

/-- A query that is sent as it stands. -/
def PlainQuery (query : Option String) : Prop := ∀ q ∈ query, ∀ c ∈ q.toList, isQuerySafe c

instance (query : Option String) : Decidable (PlainQuery query) :=
  match query with
  | none => isTrue fun _ h => nomatch h
  | some q => decidable_of_iff (q.toList.all isQuerySafe) (by simp [PlainQuery])

/-- The URL of a plain path and a query. -/
def plainUrl (host : String) (port : Nat) (path : String) (query : Option String) : Url where
  scheme := "http"
  user := ""
  host := host
  port := if port = 80 then none else some (port : Int)
  path := path
  query := query
  fragment := none

variable {path : String} {query : Option String}

theorem targetOf_withQuery (path : String) (query : Option String) :
    Outgoing.targetOf (withQuery path query) = withQuery (Outgoing.targetOf path) query := by
  cases query with
  | none => rfl
  | some q =>
    have hhead : (path ++ "?" ++ q).toList.head? = some '/' ↔ path.toList.head? = some '/' := by
      cases hp : path.toList <;> simp [hp]
    simp only [withQuery, targetOf_eq, if_congr hhead rfl rfl]
    split
    · rfl
    · simp only [String.append_assoc]

theorem PlainPath.not_control (h : PlainPath path) : ∀ c ∈ path.toList, isControl c = false :=
  fun c hc => not_isControl_of_printable
    (isQuerySafe_iff.1 (isQuerySafe_of_isPathSafe (h.safe c hc))).1

theorem PlainPath.removeDots (h : PlainPath path) : removeDots path.toList = path.toList := by
  rw [Http.removeDots, if_neg]
  simp only [Bool.or_eq_true, List.contains_iff_mem, not_or]
  exact ⟨fun hm => (h.noDots _ hm).1 rfl, fun hm => (h.noDots _ hm).2 rfl⟩

/-- The URL of a plain target has the path and the query as they are written. -/
theorem onHost_withQuery (hp : PlainPath path) (hq : PlainQuery query) (host : String)
    (port : Nat) :
    Url.onHost host port (withQuery path query).toList = plainUrl host port path query := by
  have hhash : '#' ∉ path.toList := fun hm =>
    ne_hash_of_isQuerySafe (isQuerySafe_of_isPathSafe (hp.safe _ hm)) rfl
  have hmark : '?' ∉ path.toList := fun hm => ne_question_of_isPathSafe (hp.safe _ hm) rfl
  have hpath : percentEncode isPathSafe (removeDots path.toList) = path := by
    rw [hp.removeDots, percentEncode_of_forall hp.safe, String.ofList_toList]
  cases query with
  | none =>
    rw [withQuery, Url.onHost, Text.cutAt_of_notMem hhash]
    simp only [Text.cutAt_of_notMem hmark, hpath, Option.map_none, plainUrl]
  | some q =>
    have hq' : ∀ c ∈ q.toList, isQuerySafe c := hq q rfl
    have hhash' : '#' ∉ path.toList ++ '?' :: q.toList := by
      simp only [List.mem_append, List.mem_cons, not_or]
      exact ⟨hhash, by decide, fun hm => ne_hash_of_isQuerySafe (hq' _ hm) rfl⟩
    have htarget : (withQuery path (some q)).toList = path.toList ++ '?' :: q.toList := by
      simp [withQuery]
    rw [htarget, Url.onHost, Text.cutAt_of_notMem hhash']
    simp only [Text.cutAt_append hmark, hpath, Option.map_none, Option.map_some,
      percentEncode_of_forall hq', String.ofList_toList, plainUrl]

/-- The characters of the URL of a plain target are printable. -/
theorem firstControl?_urlOf (ha : IsAddress address host port) (hp : PlainPath path)
    (hq : PlainQuery query) {target : String}
    (ht : Outgoing.targetOf target = withQuery path query) :
    firstControl? (Outgoing.urlOf address target).toList = none := by
  obtain ⟨digits, rfl, hdigits⟩ := ha.eq_append
  apply firstControl?_eq_none_iff.2
  have hhost : ∀ c ∈ host.toList, isControl c = false := fun c hc =>
    not_isControl_of_printable (isHostChar_spec (ha.isHost.chars c hc)).2.2.1
  have hport : ∀ c ∈ digits.toList, isControl c = false := fun c hc =>
    not_isControl_of_printable (Text.isDigit_spec (hdigits.isDigit c hc)).1
  have htarget : ∀ c ∈ (withQuery path query).toList, isControl c = false := by
    cases query with
    | none => exact hp.not_control
    | some q =>
      simp only [withQuery, String.toList_append, List.forall_mem_append]
      refine ⟨⟨hp.not_control, List.all_iff_forall_prop.1 (by decide)⟩, fun c hc => ?_⟩
      exact not_isControl_of_printable (isQuerySafe_iff.1 (hq q rfl c hc)).1
  simp only [Outgoing.urlOf, ht, String.toList_append, List.forall_mem_append]
  exact ⟨⟨List.all_iff_forall_prop.1 (by decide),
    ⟨hhost, List.all_iff_forall_prop.1 (by decide)⟩, hport⟩, htarget⟩

/-- The URL of a plain target at an address is well formed unless it is too long. -/
theorem Url.ofText_urlOf_plain (ha : IsAddress address host port)
    (hsent : normalizeHost host.toList = .ok sent) (hne : sent ≠ "") (hp : PlainPath path)
    (hq : PlainQuery query) {target : String}
    (ht : Outgoing.targetOf target = withQuery path query) :
    Url.ofText (Outgoing.urlOf address target) =
      if (Outgoing.urlOf address target).length > urlLimit then .error .tooLong
      else .ok (plainUrl sent port path query) := by
  rw [Url.ofText_urlOf ha hsent hne, firstControl?_urlOf ha hp hq ht, ht, onHost_withQuery hp hq]

/-! ## The path of a plain target -/

theorem printable_withQuery (hp : PlainPath path) (hq : PlainQuery query) :
    ∀ c ∈ (withQuery path query).toList, '!' ≤ c ∧ c ≤ '~' := by
  have hpath : ∀ c ∈ path.toList, '!' ≤ c ∧ c ≤ '~' := fun c hc =>
    (isQuerySafe_iff.1 (isQuerySafe_of_isPathSafe (hp.safe c hc))).1
  cases query with
  | none => exact hpath
  | some q =>
    simp only [withQuery, String.toList_append, List.forall_mem_append]
    exact ⟨⟨hpath, List.all_iff_forall_prop.1 (by decide)⟩,
      fun c hc => (isQuerySafe_iff.1 (hq q rfl c hc)).1⟩

/-- A plain target begins with one slash. -/
theorem toList_withQuery (hp : PlainPath path) (query : Option String) :
    ∃ cs, (withQuery path query).toList = '/' :: cs ∧ cs.head? ≠ some '/' := by
  obtain ⟨cs, hcs, hhead⟩ := hp.head
  cases query with
  | none => exact ⟨cs, hcs, hhead⟩
  | some q =>
    refine ⟨cs ++ '?' :: q.toList, by simp [withQuery, hcs], ?_⟩
    cases cs with
    | nil => simp
    | cons c cs => simpa using hhead

theorem graphic_withQuery (hp : PlainPath path) (hq : PlainQuery query) :
    Graphic (withQuery path query) where
  ne_empty he := by
    obtain ⟨cs, hcs, -⟩ := toList_withQuery hp query
    rw [he] at hcs
    cases hcs
  printable := printable_withQuery hp hq

theorem collapseSlashes_withQuery (hp : PlainPath path) (query : Option String) :
    collapseSlashes (withQuery path query) = withQuery path query := by
  obtain ⟨cs, hcs, hhead⟩ := toList_withQuery hp query
  unfold collapseSlashes
  split
  · next h =>
    rw [hcs] at h
    obtain ⟨-, rfl⟩ := List.cons.inj h
    exact absurd rfl hhead
  · rfl

/-- What precedes a query is the path. -/
theorem takeWhile_withQuery (hp : PlainPath path) (query : Option String) :
    (withQuery path query).toList.takeWhile (fun c => c != '#' && c != '?') = path.toList := by
  have hpath : ∀ c ∈ path.toList, (c != '#' && c != '?') = true := by
    intro c hc
    have hhash := ne_hash_of_isQuerySafe (isQuerySafe_of_isPathSafe (hp.safe c hc))
    simp [hhash, ne_question_of_isPathSafe (hp.safe c hc)]
  cases query with
  | none => exact List.takeWhile_eq_self_iff.2 hpath
  | some q =>
    rw [withQuery, String.toList_append, String.toList_append, List.append_assoc,
      List.takeWhile_append_of_pos hpath]
    simp

/-- Whether a character of a target counts: tabs and line ends do not. -/
def counts (c : Char) : Bool := c != '\t' && c != '\r' && c != '\n'

/-- Targets that begin with a single slash, characters that do not count aside. -/
def SingleSlash (target : String) : Prop :=
  ∃ cs, target.toList = '/' :: cs ∧ (cs.filter counts).head? ≠ some '/'

/-- A target that begins with a single slash is a path, and what follows it. -/
theorem targetPath_of_singleSlash {target : String} (h : SingleSlash target) :
    targetPath target = .ok (String.ofList
      ((target.toList.filter counts).takeWhile fun c => c != '#' && c != '?')) := by
  obtain ⟨cs, hcs, hhead⟩ := h
  have hdrop : target.toList.dropWhile (fun c => decide (c.toNat ≤ 0x20)) = target.toList := by
    rw [hcs]
    rfl
  have hfilter : target.toList.filter counts = '/' :: cs.filter counts := by
    rw [hcs]
    rfl
  -- What begins with a slash has no scheme before it.
  have hscheme : withoutScheme ('/' :: cs.filter counts) = '/' :: cs.filter counts := by
    unfold withoutScheme
    split
    · next c scheme rest hcut =>
      rw [Text.cutAt_eq_some_iff] at hcut
      obtain ⟨rfl, -⟩ := List.cons.inj hcut.1
      rfl
    · rfl
  rw [targetPath, hdrop]
  have hcounts : (fun c => c != '\t' && c != '\r' && c != '\n') = counts := rfl
  simp only [hcounts, hfilter, hscheme]
  split
  · next more hslashes =>
    obtain ⟨-, hmore⟩ := List.cons.inj hslashes
    rw [hmore] at hhead
    exact absurd rfl hhead
  · rfl

/-- The origin finds the path in a plain target. -/
theorem targetPath_withQuery (hp : PlainPath path) (hq : PlainQuery query) :
    targetPath (collapseSlashes (withQuery path query)) = .ok path := by
  obtain ⟨cs, hcs, hhead⟩ := toList_withQuery hp query
  have hfilter : (withQuery path query).toList.filter counts = (withQuery path query).toList := by
    rw [List.filter_eq_self]
    intro c hc
    have hc := (printable_withQuery hp hq c hc).1
    simp only [counts, Bool.and_eq_true, bne_iff_ne]
    refine ⟨⟨?_, ?_⟩, ?_⟩ <;>
    · rintro rfl
      exact absurd hc (by decide)
  have hslash : SingleSlash (withQuery path query) := by
    refine ⟨cs, hcs, ?_⟩
    rw [hcs, List.filter_cons_of_pos (by decide)] at hfilter
    rwa [(List.cons.inj hfilter).2]
  rw [collapseSlashes_withQuery hp, targetPath_of_singleSlash hslash, hfilter,
    takeWhile_withQuery hp, String.ofList_toList]

end ProxyTrial.Http
