import ProxyTrial.Http.Wire
import ProxyTrial.Proofs.Http.Body
import ProxyTrial.Proofs.Http.RequestHead
/-!
# Fields that both peers take as they are

A field with a token for its name and a value of printable characters without blanks around it is
sent and received as it is, and so are fields with a length in decimal digits among them, which
then delimits the body.

## Main definitions

* `PlainField f`: a token and a trimmed value of printable characters
* `StatesLength n hs`: the fields state the length of a body of `n` octets, and name no transfer
  encoding

## Main results

* `PlainField.checkField`: a plain field follows the grammar
* `reconcileFrom_plain`: fields that state a length are taken as they are
* `framing_octetFields`, `StatesLength.framed`: how such fields delimit the body
-/

namespace ProxyTrial.Http

/-- Whether a character may stand in a token. -/
def isTokenChar (c : Char) : Bool := decide (c.toNat < 128) && isTokenOctet (UInt8.ofNat c.toNat)

/-- A field that both peers take as it is. -/
structure PlainField (f : String × String) : Prop where
  name_ne_empty : f.1 ≠ ""
  name : ∀ c ∈ f.1.toList, isTokenChar c
  value : ∀ c ∈ f.2.toList, ' ' ≤ c ∧ c ≤ '~'
  trimmed : Text.trim f.2 = f.2

instance (f : String × String) : Decidable (PlainField f) :=
  decidable_of_iff
    (f.1 ≠ "" ∧ f.1.toList.all isTokenChar ∧ f.2.toList.all (fun c => ' ' ≤ c ∧ c ≤ '~') ∧
      Text.trim f.2 = f.2)
    ⟨fun h => ⟨h.1, List.all_eq_true.1 h.2.1, by simpa using h.2.2.1, h.2.2.2⟩,
      fun h => ⟨h.1, List.all_eq_true.2 h.2, by simpa using h.3, h.4⟩⟩

theorem isNameChar_of_isTokenChar {c : Char} (h : isTokenChar c) : isNameChar c := by
  have hlt : c.toNat < 128 := by
    rw [isTokenChar, Bool.and_eq_true, decide_eq_true_eq] at h
    exact h.1
  have hall : ∀ c : Char, c.toNat < 128 → isTokenChar c → isNameChar c :=
    Text.forall_char (by decide +kernel)
  exact hall c hlt h

/-- A token does not begin with a blank. -/
theorem head?_of_isToken {bs : Bytes} (h : isToken bs) (rest : Bytes) :
    (bs ++ rest).head?.any isPadding = false := by
  cases bs with
  | nil => cases h
  | cons b bs =>
    have hall : ∀ b : UInt8, isTokenOctet b → isPadding b = false :=
      Text.forall_octet (by decide +kernel)
    rw [isToken, Bool.and_eq_true, List.all_cons, Bool.and_eq_true] at h
    exact hall b h.2.1

theorem isToken_of_checkField {f : Bytes × Bytes} (h : checkField f = .ok ()) : isToken f.1 := by
  rw [checkField] at h
  split at h
  · cases h
  · next hname => simpa using hname

namespace PlainField

variable {f : String × String}

theorem isAscii_name (h : PlainField f) : Text.IsAscii f.1 :=
  fun c hc => toNat_lt_of_le_tilde (isNameChar_iff.1 (isNameChar_of_isTokenChar (h.name c hc))).1.2

theorem isAscii_value (h : PlainField f) : Text.IsAscii f.2 :=
  fun c hc => toNat_lt_of_le_tilde (h.value c hc).2

theorem isToken_name (h : PlainField f) : isToken (Text.ascii f.1) := by
  have hne : (Text.ascii f.1).isEmpty = false := by simpa [Text.ascii] using h.name_ne_empty
  rw [isToken, hne, Bool.not_false, Bool.true_and, Text.ascii, List.all_map, List.all_eq_true]
  intro c hc
  have hc := h.name c hc
  rw [isTokenChar, Bool.and_eq_true] at hc
  exact hc.2

/-- The value has no space at either end. -/
theorem space_ends (h : PlainField f) :
    f.2.toList.head? ≠ some ' ' ∧ f.2.toList.getLast? ≠ some ' ' := by
  have htrim : Text.trimBy Text.isBlank f.2.toList = f.2.toList := by
    simpa [Text.trim] using congrArg String.toList h.trimmed
  obtain ⟨hfirst, hlast⟩ := Text.ends_of_trimBy_eq_self htrim
  exact ⟨fun hc => absurd (hfirst _ hc) (by decide), fun hc => absurd (hlast _ hc) (by decide)⟩

theorem octet_of_printable {c : Char} (h : ' ' ≤ c ∧ c ≤ '~') :
    (isVisible (UInt8.ofNat c.toNat) || isPadding (UInt8.ofNat c.toNat)) ∧
      (isPadding (UInt8.ofNat c.toNat) → c = ' ') := by
  have hall : ∀ c : Char, c.toNat < 128 → ' ' ≤ c ∧ c ≤ '~' →
      (isVisible (UInt8.ofNat c.toNat) || isPadding (UInt8.ofNat c.toNat)) ∧
        (isPadding (UInt8.ofNat c.toNat) → c = ' ') :=
    Text.forall_char (by decide +kernel)
  exact hall c (toNat_lt_of_le_tilde h.2) h

/-- The octets of the value have no padding at either end. -/
theorem padding_ends (h : PlainField f) :
    (Text.ascii f.2).head?.any isPadding = false ∧
      (Text.ascii f.2).getLast?.any isPadding = false := by
  obtain ⟨hfirst, hlast⟩ := h.space_ends
  have hpad : ∀ o : Option Char, (∀ c ∈ o, c ∈ f.2.toList) → o ≠ some ' ' →
      (o.map fun c => UInt8.ofNat c.toNat).any isPadding = false := by
    intro o hmem hne
    cases o with
    | none => rfl
    | some c =>
      rw [Option.map_some, Option.any_some, Bool.eq_false_iff]
      intro hp
      exact hne (congrArg some ((octet_of_printable (h.value c (hmem c rfl))).2 hp))
  rw [Text.ascii, List.head?_map, List.getLast?_map]
  exact ⟨hpad _ (fun c hc => List.mem_of_head? hc) hfirst,
    hpad _ (fun c hc => List.mem_of_getLast? hc) hlast⟩

theorem isFieldValue_value (h : PlainField f) : isFieldValue (Text.ascii f.2) := by
  rw [isFieldValue, h.padding_ends.1, h.padding_ends.2]
  simp only [Text.ascii, Bool.not_false, Bool.and_true, List.all_map, List.all_eq_true]
  exact fun c hc => (octet_of_printable (h.value c hc)).1

/-- A plain field follows the grammar. -/
theorem checkField (h : PlainField f) : checkField (Text.ascii f.1, Text.ascii f.2) = .ok () := by
  rw [Http.checkField, h.isToken_name, h.isFieldValue_value]
  rfl

end PlainField

/-- A value without blanks in it is sent as it is. -/
theorem plainField_of_visible {name value : String} (hne : name ≠ "")
    (hname : name.toList.all isTokenChar) (h : ∀ c ∈ value.toList, '!' ≤ c ∧ c ≤ '~') :
    PlainField (name, value) where
  name_ne_empty := hne
  name := List.all_eq_true.1 hname
  value c hc := ⟨Char.le_trans (by decide) (h c hc).1, (h c hc).2⟩
  trimmed := Text.trim_eq_self fun c hc => not_isBlank_of_printable (h c hc)

theorem asciiFields_of_plain {hs : List (String × String)} (h : ∀ f ∈ hs, PlainField f) :
    AsciiFields hs := fun f hf => ⟨(h f hf).isAscii_name, (h f hf).isAscii_value⟩

/-! ## Lengths -/

theorem digit_octet {c : Char} (h : c.isDigit) :
    isDigitOctet (UInt8.ofNat c.toNat) ∧ Text.isBlankOctet (UInt8.ofNat c.toNat) = false ∧
      UInt8.ofNat c.toNat ≠ 44 ∧ (UInt8.ofNat c.toNat).toNat = c.toNat := by
  have hlt : c.toNat < 128 := by
    simp only [Char.isDigit, Bool.and_eq_true, decide_eq_true_eq] at h
    exact Nat.lt_of_le_of_lt (UInt32.le_iff_toNat_le.1 h.2) (by decide)
  have hall : ∀ c : Char, c.toNat < 128 → c.isDigit →
      isDigitOctet (UInt8.ofNat c.toNat) ∧ Text.isBlankOctet (UInt8.ofNat c.toNat) = false ∧
        UInt8.ofNat c.toNat ≠ 44 :=
    Text.forall_char (by decide +kernel)
  obtain ⟨hdigit, hblank, hcomma⟩ := hall c hlt h
  exact ⟨hdigit, hblank, hcomma, Text.toNat_octet (Nat.lt_trans hlt (by decide))⟩

theorem splitOnElem_of_notMem {α : Type} [BEq α] [LawfulBEq α] {x : α} {bs : List α} (h : x ∉ bs) :
    Text.splitOnElem x bs = [bs] := by
  induction bs with
  | nil => rfl
  | cons b bs ih =>
    rw [List.mem_cons, not_or] at h
    simp [Text.splitOnElem, Ne.symm h.1, ih h.2]

/-- Digits state themselves as a length, if there are some and not too many. -/
theorem statedLength_digits {length : String} (h : ∀ c ∈ length.toList, c.isDigit) :
    statedLength (Text.ascii length) =
      if length = "" ∨ lengthDigits < length.length then .error .malformedLength
      else .ok (Text.ascii length) := by
  have hspec : ∀ b ∈ Text.ascii length,
      isDigitOctet b ∧ Text.isBlankOctet b = false ∧ b ≠ 44 := by
    rw [Text.ascii, List.forall_mem_map]
    intro c hc
    obtain ⟨hdigit, hblank, hcomma, -⟩ := digit_octet (h c hc)
    exact ⟨hdigit, hblank, hcomma⟩
  have htrim : Text.trimBy Text.isBlankOctet (Text.ascii length) = Text.ascii length :=
    Text.trimBy_eq_self fun b hb => (hspec b hb).2.1
  have hempty : (Text.ascii length).isEmpty = decide (length = "") := by
    rw [Bool.eq_iff_iff]
    simp [Text.ascii]
  have hall : (Text.ascii length).all isDigitOctet := List.all_eq_true.2 fun b hb => (hspec b hb).1
  have hlength : (Text.ascii length).length = length.length := by
    rw [Text.ascii, List.length_map, String.length_toList]
  rw [statedLength, splitOnElem_of_notMem fun hm => (hspec _ hm).2.2 rfl, List.map_singleton, htrim]
  simp [hempty, hall, hlength]

/-- A length in decimal digits is stated as it is. -/
theorem statedLength_ascii {length : String} {n : Nat} (h : IsDecimal length n)
    (hfits : length.length ≤ lengthDigits) :
    statedLength (Text.ascii length) = .ok (Text.ascii length) := by
  rw [statedLength_digits h.isDigit, if_neg]
  rintro (hempty | hlong)
  · exact h.ne_empty hempty
  · exact Nat.not_lt.2 hfits hlong

theorem ofDigitOctets_ascii {length : String} {n : Nat} (h : IsDecimal length n) :
    ofDigitOctets (Text.ascii length) = n := by
  rw [← h.value, ofDigitOctets, Text.ascii, List.map_map]
  congr 1
  refine List.map_congr_left fun c hc => ?_
  rw [Function.comp_apply, (digit_octet (h.isDigit c hc)).2.2.2]

/-- A number below the limit has few enough digits. -/
theorem length_toString_le {n : Nat} (h : n < lengthLimit) :
    (toString n).length ≤ lengthDigits := by
  rw [Nat.toString_eq_repr, ← String.length_toList, Nat.toList_repr,
    Nat.length_toDigits_le_iff (by decide) (by decide)]
  exact Nat.lt_trans h (by decide)

/-- A number is written in decimal digits, if these are not too many. -/
theorem isDecimal_of_length_le {n : Nat} (h : (toString n).length ≤ Text.digitLimit) :
    IsDecimal (toString n) n where
  ne_empty := by
    rw [Ne, ← String.toList_eq_nil_iff, Nat.toString_eq_repr, Nat.toList_repr]
    exact Nat.toDigits_ne_nil
  isDigit := Text.isDigit_toString n
  fits := h
  value := by
    have hvalue := Nat.ofDigitChars_ten_toDigits (n := n)
    rw [Nat.ofDigitChars_eq_foldl] at hvalue
    rw [Nat.toString_eq_repr, Nat.toList_repr, Text.ofDigits, List.foldl_map]
    refine Eq.trans ?_ hvalue
    congr 1
    funext m c
    rw [Nat.mul_comm]
    rfl

theorem isDecimal_toString {n : Nat} (h : n < lengthLimit) : IsDecimal (toString n) n :=
  isDecimal_of_length_le (Nat.le_trans (length_toString_le h) (by decide))

/-- A number that is stated as a length is read as that number. -/
theorem ofDigitOctets_of_statedLength {n : Nat} {stated : Bytes}
    (h : statedLength (Text.ascii (toString n)) = .ok stated) : ofDigitOctets stated = n := by
  rw [statedLength_digits (Text.isDigit_toString n)] at h
  split at h
  · cases h
  · next hfits =>
    obtain rfl := Except.ok.inj h
    rw [not_or, Nat.not_lt] at hfits
    exact ofDigitOctets_ascii (isDecimal_of_length_le (Nat.le_trans hfits.2 (by decide)))

/-! ## Reconciled fields -/

section Reconcile

variable {check : Bytes × Bytes → Except FieldFault Unit}

/-- Fields that do not frame the body are kept. -/
theorem reconcileFrom_append {fs : Fields} (hcheck : ∀ f ∈ fs, check f = .ok ())
    (hframe : ∀ f ∈ fs, Fields.fold f.1 ≠ Text.ascii "content-length" ∧
      Fields.fold f.1 ≠ Text.ascii "transfer-encoding")
    (length : Option Bytes) (encoded : Bool) (gs : Fields) :
    reconcileFrom check length encoded (fs ++ gs) =
      (reconcileFrom check length encoded gs).map (fs ++ ·) := by
  induction fs with
  | nil => cases h : reconcileFrom check length encoded gs <;> simp [Except.map, h]
  | cons f fs ih =>
    rw [List.forall_mem_cons] at hcheck hframe
    rw [List.cons_append, reconcileFrom, hcheck.1, ok_bind, if_neg (by simpa using hframe.1.1),
      if_neg (by simpa using hframe.1.2), ih hcheck.2 hframe.2]
    cases reconcileFrom check length encoded gs <;> rfl

theorem reconcileFrom_length {name value stated : Bytes} (hcheck : check (name, value) = .ok ())
    (hname : Fields.fold name = Text.ascii "content-length")
    (hstated : statedLength value = .ok stated) (encoded : Bool) (fs : Fields) :
    reconcileFrom check none encoded ((name, value) :: fs) =
      (reconcileFrom check (some stated) encoded fs).map ((name, stated) :: ·) := by
  rw [reconcileFrom, hcheck, ok_bind, if_pos (by simpa using hname), hstated, ok_bind]
  cases reconcileFrom check (some stated) encoded fs <;> rfl

/-- The fields that are kept have the names of fields that have passed the check. -/
theorem exists_of_mem_reconcileFrom {fs gs : Fields} {length : Option Bytes} {encoded : Bool}
    (h : reconcileFrom check length encoded fs = .ok gs) {g : Bytes × Bytes} (hg : g ∈ gs) :
    ∃ f ∈ fs, f.1 = g.1 ∧ check f = .ok () := by
  induction fs generalizing length encoded gs with
  | nil =>
    obtain rfl := Except.ok.inj h
    cases hg
  | cons f fs ih =>
    obtain ⟨⟨⟩, hcheck, h⟩ := bind_eq_ok.1 h
    -- What is kept of the field, if anything is, has its name.
    have hkept : ∀ {value : Bytes} {length : Option Bytes} {encoded : Bool},
        (do return (f.1, value) :: (← reconcileFrom check length encoded fs)) = .ok gs →
          ∃ f' ∈ f :: fs, f'.1 = g.1 ∧ check f' = .ok () := by
      intro value length encoded h
      obtain ⟨more, hmore, h⟩ := bind_eq_ok.1 h
      obtain rfl := pure_eq_ok.1 h
      rcases List.mem_cons.1 hg with rfl | hg
      · exact ⟨f, List.mem_cons_self, rfl, hcheck⟩
      · obtain ⟨f', hf', hname⟩ := ih hmore hg
        exact ⟨f', List.mem_cons_of_mem _ hf', hname⟩
    split at h
    · obtain ⟨stated, -, h⟩ := bind_eq_ok.1 h
      split at h
      · exact hkept h
      · split at h
        · obtain ⟨f', hf', hname⟩ := ih h hg
          exact ⟨f', List.mem_cons_of_mem _ hf', hname⟩
        · cases h
    · split at h
      · split at h
        · cases h
        · split at h
          · cases h
          · exact hkept h
      · exact hkept h

end Reconcile

/-- The fields state the length of a body, or say nothing if the body is empty. -/
structure StatesLength (n : Nat) (hs : List (String × String)) : Prop where
  unencoded : named "transfer-encoding" hs = []
  stated : named "content-length" hs = [toString n] ∨ named "content-length" hs = [] ∧ n = 0

variable {hs : List (String × String)}

theorem StatesLength.perm {n : Nat} {gs : List (String × String)} (h : StatesLength n hs)
    (hp : gs.Perm hs) : StatesLength n gs := by
  have hnamed : ∀ name, (named name gs).Perm (named name hs) := fun name =>
    (hp.filter _).map _
  have hlength := hnamed "content-length"
  refine ⟨List.perm_nil.1 (h.unencoded ▸ hnamed "transfer-encoding"), ?_⟩
  rcases h.stated with hstated | ⟨hstated, hzero⟩
  · exact .inl (List.perm_singleton.1 (hstated ▸ hlength))
  · exact .inr ⟨List.perm_nil.1 (hstated ▸ hlength), hzero⟩

/-- Fields of ASCII that do not frame the body are kept. -/
theorem reconcileFrom_octetFields {check : Bytes × Bytes → Except FieldFault Unit}
    (ha : AsciiFields hs) (hcheck : ∀ f ∈ hs, check (Text.ascii f.1, Text.ascii f.2) = .ok ())
    (hlength : named "content-length" hs = []) (hencoding : named "transfer-encoding" hs = [])
    (length : Option Bytes) (encoded : Bool) (fs : Fields) :
    reconcileFrom check length encoded (octetFields hs ++ fs) =
      (reconcileFrom check length encoded fs).map (octetFields hs ++ ·) := by
  refine reconcileFrom_append ?_ ?_ _ _ _
  · rw [octetFields, List.forall_mem_map]
    exact hcheck
  · rw [octetFields, List.forall_mem_map]
    intro f hf
    have hfold : ∀ {name}, Text.IsAscii name → Text.lower f.1 ≠ name →
        Fields.fold (Text.ascii f.1) ≠ Text.ascii name := by
      intro name hname hne he
      have hbeq := fold_ascii_beq (ha f hf).1 hname
      rw [he, beq_self_eq_true, eq_comm, beq_iff_eq] at hbeq
      exact hne hbeq
    exact ⟨hfold (by decide) (named_eq_nil_iff.1 hlength f hf),
      hfold (by decide) (named_eq_nil_iff.1 hencoding f hf)⟩

/-- Fields that state a length are taken as they are. -/
theorem reconcileFrom_plain {check : Bytes × Bytes → Except FieldFault Unit} (ha : AsciiFields hs)
    (hcheck : ∀ f ∈ hs, check (Text.ascii f.1, Text.ascii f.2) = .ok ()) {n : Nat}
    (h : StatesLength n hs) (hn : n < lengthLimit) :
    reconcileFrom check none false (octetFields hs) = .ok (octetFields hs) := by
  rcases h.stated with hlength | ⟨hlength, -⟩
  · obtain ⟨before, f, after, rfl, hname, hvalue, hbefore, hafter⟩ :=
      split_of_named_eq_singleton hlength
    have hencoding := h.unencoded
    rw [named_append, List.append_eq_nil_iff] at hencoding
    have hmore : named "transfer-encoding" after = [] :=
      named_eq_nil_iff.2 fun g hg => named_eq_nil_iff.1 hencoding.2 g (List.mem_cons_of_mem f hg)
    have hfold : Fields.fold (Text.ascii f.1) = Text.ascii "content-length" := by
      rw [Text.fold_ascii (ha f (by simp)).1, hname]
    have hstated := statedLength_ascii (isDecimal_toString hn) (length_toString_le hn)
    rw [← hvalue] at hstated
    -- The one length stands between fields that do not frame the body.
    have hlast := reconcileFrom_octetFields (fun g hg => ha g (by simp [hg]))
      (fun g hg => hcheck g (by simp [hg])) hafter hmore (some (Text.ascii f.2)) false []
    rw [List.append_nil] at hlast
    rw [octetFields_append, reconcileFrom_octetFields (fun g hg => ha g (by simp [hg]))
      (fun g hg => hcheck g (by simp [hg])) hbefore hencoding.1, octetFields_cons,
      reconcileFrom_length (hcheck f (by simp)) hfold hstated, hlast]
    simp [reconcileFrom, Except.map]
  · have hall := reconcileFrom_octetFields ha hcheck hlength h.unencoded none false []
    simpa [reconcileFrom, Except.map] using hall

theorem fieldValue?_octetFields (h : AsciiFields hs) {name : String} (hn : Text.IsAscii name) :
    fieldValue? (octetFields hs) name = (named name hs).head?.map Text.ascii := by
  rw [fieldValue?, ← List.head?_filter,
    filter_octetFields fun f hf => fold_ascii_beq (h f hf).1 hn, octetFields, named,
    List.head?_map, List.head?_map, Option.map_map, Option.map_map]
  rfl

/-- How fields that state a length delimit the body. -/
theorem framing_octetFields (ha : AsciiFields hs) {n : Nat} (h : StatesLength n hs)
    (hn : n < lengthLimit) :
    framing (octetFields hs) = if named "content-length" hs = [] then .unstated else .length n := by
  rw [framing, fieldValue?_octetFields ha (by decide), h.unencoded,
    fieldValue?_octetFields ha (by decide)]
  rcases h.stated with hlength | ⟨hlength, -⟩
  · have hvalue := ofDigitOctets_ascii (isDecimal_toString hn)
    rw [hlength, List.head?_cons, Option.map_some, if_neg (List.cons_ne_nil _ _)]
    simp only [hvalue]
    rfl
  · rw [hlength]
    simp

/-- A body is framed by fields that state its length. -/
theorem StatesLength.framed {body : Bytes} (h : StatesLength body.length hs)
    (hn : body.length < lengthLimit) : Framed hs body body := by
  have hchunked : ¬ NamesChunked hs := by
    have hnone : combined "transfer-encoding" hs = none := by rw [combined, h.unencoded]
    rw [NamesChunked, hnone]
    decide +kernel
  rcases h.stated with hlength | ⟨hlength, hzero⟩
  · have hcombined : combined "content-length" hs = some (toString body.length) := by
      rw [combined, hlength]
      rfl
    have hdecimal := isDecimal_toString hn
    have htrim : Text.trim (toString body.length) = toString body.length :=
      Text.trim_eq_self fun c hc => (Text.isDigit_spec (hdecimal.isDigit c hc)).2.2.1
    exact .sized hchunked hcombined (htrim.symm ▸ hdecimal) hn
  · obtain rfl := List.length_eq_zero_iff.1 hzero
    exact .empty hchunked (by rw [combined, hlength])

end ProxyTrial.Http
