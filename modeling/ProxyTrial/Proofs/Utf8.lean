import ProxyTrial.Text.Utf8
import ProxyTrial.Proofs.Basic
/-!
# Reading UTF-8 that has been written

A text is written as UTF-8 character by character. The octets of a character are read as that
character, whatever follows them; thus the lenient reader gives the text back. So does the strict
one, and it accepts nothing else: octets that are read as a character are those of the character.

## Main results

* `utf8_eq_flatMap`: the octets of a text are those of its characters
* `printable_of_octets`: whether a text is printable shows in its octets
* `utf8Step_utf8EncodeChar`: the octets of a character are read as the character
* `ofUtf8Lenient_utf8`: a text is what its octets are read as
* `utf8Step_eq_ok`, `ofUtf8_eq_ok_iff`: the strict reader accepts texts only
-/

namespace ProxyTrial.Text

/-! ## Writing -/

theorem toList_loop (bs : ByteArray) (i : Nat) (r : Bytes) :
    ByteArray.toList.loop bs i r = r.reverse ++ bs.data.toList.drop i := by
  fun_induction ByteArray.toList.loop bs i r with
  | case1 i r hi ih =>
    have hsize : i < bs.data.toList.length := hi
    have hget : bs.get! i = bs.data.toList[i] := by
      show bs.data[i]! = _
      rw [getElem!_pos bs.data i hi, Array.getElem_toList]
    rw [ih, hget, List.drop_eq_getElem_cons hsize, List.reverse_cons, List.append_assoc,
      List.singleton_append]
  | case2 i r hi =>
    have hsize : bs.data.toList.length ≤ i := Nat.not_lt.1 hi
    rw [List.drop_eq_nil_of_le hsize, List.append_nil]

theorem toList_data_toUTF8 (s : String) :
    s.toUTF8.data.toList = s.toList.flatMap String.utf8EncodeChar := by
  have hbytes : s.toByteArray = s.toList.utf8Encode := by
    rw [← String.toByteArray_ofList, String.ofList_toList]
  rw [String.toUTF8, hbytes, List.utf8Encode, List.toList_data_toByteArray]

/-- The octets of a text are those of its characters. -/
theorem utf8_eq_flatMap (s : String) : utf8 s = s.toList.flatMap String.utf8EncodeChar := by
  rw [utf8, ByteArray.toList, toList_loop, List.reverse_nil, List.nil_append, List.drop_zero,
    toList_data_toUTF8]

@[simp] theorem utf8_empty : utf8 "" = [] := by rw [utf8_eq_flatMap]; rfl

/-! ## Reading a character -/

theorem toNat_ofNat_of_lt {n : Nat} (h : n < 256) : (UInt8.ofNat n).toNat = n := by
  rw [UInt8.toNat_ofNat']
  exact Nat.mod_eq_of_lt h

/-- No octet of a character that has several is ASCII. -/
theorem le_of_mem_utf8EncodeChar {c : Char} (hc : ¬c.toNat ≤ 127) :
    ∀ b ∈ String.utf8EncodeChar c, 128 ≤ b.toNat := by
  have hv : ¬c.val.toNat ≤ 127 := hc
  rw [String.utf8EncodeChar]
  generalize c.val.toNat = v at hv ⊢
  have hoctet : ∀ n, 128 ≤ n → n < 256 → 128 ≤ (UInt8.ofNat n).toNat := fun n hn hlt =>
    (toNat_ofNat_of_lt hlt).symm ▸ hn
  simp only [if_neg hv]
  split
  · simp only [List.forall_mem_cons, List.not_mem_nil, false_implies, implies_true, and_true]
    exact ⟨hoctet _ (by omega) (by omega), hoctet _ (by omega) (by omega)⟩
  · split
    · simp only [List.forall_mem_cons, List.not_mem_nil, false_implies, implies_true, and_true]
      exact ⟨hoctet _ (by omega) (by omega), hoctet _ (by omega) (by omega),
        hoctet _ (by omega) (by omega)⟩
    · simp only [List.forall_mem_cons, List.not_mem_nil, false_implies, implies_true, and_true]
      exact ⟨hoctet _ (by omega) (by omega), hoctet _ (by omega) (by omega),
        hoctet _ (by omega) (by omega), hoctet _ (by omega) (by omega)⟩

/-- Whether a text is printable shows in its octets. -/
theorem printable_of_octets {s : String}
    (h : ∀ b ∈ s.toUTF8.data.toList, 32 ≤ b.toNat ∧ b.toNat ≤ 126) :
    ∀ c ∈ s.toList, ' ' ≤ c ∧ c ≤ '~' := by
  intro c hc
  rw [toList_data_toUTF8] at h
  have hoctets : ∀ b ∈ String.utf8EncodeChar c, 32 ≤ b.toNat ∧ b.toNat ≤ 126 :=
    fun b hb => h b (List.mem_flatMap_of_mem hc hb)
  by_cases hascii : c.toNat ≤ 127
  · have hone : String.utf8EncodeChar c = [UInt8.ofNat c.toNat] := by
      rw [String.utf8EncodeChar]
      exact if_pos hascii
    obtain ⟨hlo, hhi⟩ := hoctets _ (hone ▸ List.mem_singleton_self _)
    rw [toNat_ofNat_of_lt (by omega)] at hlo hhi
    exact ⟨hlo, hhi⟩
  · obtain ⟨b, hb⟩ := List.exists_mem_of_ne_nil _ (String.utf8EncodeChar_ne_nil (c := c))
    have hle := le_of_mem_utf8EncodeChar hascii b hb
    have := (hoctets b hb).2
    omega

/-- An octet after the first one of a character carries six bits. -/
theorem utf8Tail_cons {more acc taken n : Nat} (rest : Bytes) :
    utf8Tail (more + 1) acc taken (UInt8.ofNat (n % 64 + 128) :: rest) =
      utf8Tail more (acc * 64 + n % 64) (taken + 1) rest := by
  have hlt : n % 64 < 64 := Nat.mod_lt n (by decide)
  rw [utf8Tail, toNat_ofNat_of_lt (by omega), if_pos (by omega), Nat.add_sub_cancel]

/-- A character of two octets or more: the first one asks for as many as there are, and its bounds
admit the second one. -/
theorem utf8Step_cons {lead second acc lo hi more : Nat} (hfirst : 128 ≤ lead) (hlt : lead < 256)
    (hlead : utf8Lead lead = some (acc, lo, hi, more)) (hlo : lo ≤ second % 64 + 128)
    (hhi : second % 64 + 128 ≤ hi) (rest : Bytes) :
    utf8Step (UInt8.ofNat lead) (UInt8.ofNat (second % 64 + 128) :: rest) =
      utf8Tail more (acc * 64 + second % 64) 2 rest := by
  have hsecond : second % 64 < 64 := Nat.mod_lt second (by decide)
  rw [utf8Step, toNat_ofNat_of_lt hlt, if_neg (by omega), hlead]
  simp only [toNat_ofNat_of_lt (show second % 64 + 128 < 256 by omega), Nat.add_sub_cancel]
  rw [if_pos ⟨hlo, hhi⟩]

/-- The first of two octets. -/
theorem utf8Lead_two {n : Nat} (hlo : 2 ≤ n) (hhi : n < 32) :
    utf8Lead (n + 192) = some (n, 0x80, 0xBF, 0) := by
  rw [utf8Lead, if_pos (by omega), Nat.add_sub_cancel]

/-- The first of three octets: neither are there characters that two octets would do for, nor
surrogates. -/
theorem utf8Lead_three {n m : Nat} (hn : n < 16) (hm : m < 64) (hlong : n = 0 → 32 ≤ m)
    (hsurrogate : n = 13 → m < 32) :
    ∃ lo hi, utf8Lead (n + 224) = some (n, lo, hi, 1) ∧ lo ≤ m + 128 ∧ m + 128 ≤ hi := by
  unfold utf8Lead
  by_cases h0 : n = 0
  · have := hlong h0
    subst h0
    exact ⟨0xA0, 0xBF, by decide, by omega, by omega⟩
  · by_cases h13 : n = 13
    · have := hsurrogate h13
      subst h13
      exact ⟨0x80, 0x9F, by decide, by omega, by omega⟩
    · refine ⟨0x80, 0xBF, ?_, by omega, by omega⟩
      rw [if_neg (by omega), if_neg (by omega), if_neg (by omega), if_pos (by omega),
        show n + 224 - 0xE0 = n by omega]

/-- The first of four octets: neither are there characters that three octets would do for, nor
code points beyond the last one. -/
theorem utf8Lead_four {n m : Nat} (hn : n ≤ 4) (hm : m < 64) (hlong : n = 0 → 16 ≤ m)
    (hlast : n = 4 → m < 16) :
    ∃ lo hi, utf8Lead (n + 240) = some (n, lo, hi, 2) ∧ lo ≤ m + 128 ∧ m + 128 ≤ hi := by
  unfold utf8Lead
  by_cases h0 : n = 0
  · have := hlong h0
    subst h0
    exact ⟨0x90, 0xBF, by decide, by omega, by omega⟩
  · by_cases h4 : n = 4
    · have := hlast h4
      subst h4
      exact ⟨0x80, 0x8F, by decide, by omega, by omega⟩
    · refine ⟨0x80, 0xBF, ?_, by omega, by omega⟩
      rw [if_neg (by omega), if_neg (by omega), if_neg (by omega), if_neg (by omega),
        if_neg (by omega), if_pos (by omega), show n + 240 - 0xF0 = n by omega]

/-- The octets of a character are read as the character, whatever follows them. -/
theorem utf8Step_utf8EncodeChar (c : Char) :
    ∃ b bs, String.utf8EncodeChar c = b :: bs ∧
      ∀ rest, utf8Step b (bs ++ rest) = (.ok c.toNat, bs.length + 1) := by
  have hvalid : c.val.toNat < 0xD800 ∨ 0xDFFF < c.val.toNat ∧ c.val.toNat < 0x110000 := c.valid
  rw [String.utf8EncodeChar, Char.toNat]
  generalize c.val.toNat = v at hvalid ⊢
  -- A character has as many octets as its code point needs.
  by_cases h1 : v ≤ 127
  · rw [if_pos h1]
    refine ⟨_, _, rfl, fun rest => ?_⟩
    rw [utf8Step, toNat_ofNat_of_lt (by omega), if_pos (by omega)]
    rfl
  · by_cases h2 : v ≤ 2047
    · rw [if_neg h1, if_pos h2, show v / 64 % 32 = v / 64 by omega]
      refine ⟨_, _, rfl, fun rest => ?_⟩
      rw [List.singleton_append, utf8Step_cons (by omega) (by omega)
        (utf8Lead_two (by omega) (by omega)) (by omega) (by omega), utf8Tail,
        show v / 64 * 64 + v % 64 = v by omega]
      rfl
    · by_cases h3 : v ≤ 65535
      · rw [if_neg h1, if_neg h2, if_pos h3, show v / 4096 % 16 = v / 4096 by omega]
        obtain ⟨lo, hi, hlead, hlo, hhi⟩ := utf8Lead_three (n := v / 4096) (m := v / 64 % 64)
          (by omega) (by omega) (by omega) (by omega)
        refine ⟨_, _, rfl, fun rest => ?_⟩
        rw [List.cons_append, List.singleton_append,
          utf8Step_cons (by omega) (by omega) hlead hlo hhi, utf8Tail_cons, utf8Tail,
          show (v / 4096 * 64 + v / 64 % 64) * 64 + v % 64 = v by omega]
        rfl
      · rw [if_neg h1, if_neg h2, if_neg h3, show v / 262144 % 8 = v / 262144 by omega]
        obtain ⟨lo, hi, hlead, hlo, hhi⟩ := utf8Lead_four (n := v / 262144) (m := v / 4096 % 64)
          (by omega) (by omega) (by omega) (by omega)
        refine ⟨_, _, rfl, fun rest => ?_⟩
        rw [List.cons_append, List.cons_append, List.singleton_append,
          utf8Step_cons (by omega) (by omega) hlead hlo hhi, utf8Tail_cons, utf8Tail_cons, utf8Tail,
          show ((v / 262144 * 64 + v / 4096 % 64) * 64 + v / 64 % 64) * 64 + v % 64 = v by omega]
        rfl

/-! ## Reading a text -/

/-- Characters are read one after the other; each takes an octet at least, so that the octets
provide the fuel. -/
theorem utf8Lenient_flatMap (cs : List Char) {fuel : Nat}
    (h : (cs.flatMap String.utf8EncodeChar).length ≤ fuel) :
    utf8Lenient fuel (cs.flatMap String.utf8EncodeChar) = cs := by
  induction cs generalizing fuel with
  | nil => cases fuel <;> rfl
  | cons c cs ih =>
    obtain ⟨b, bs, hoctets, hstep⟩ := utf8Step_utf8EncodeChar c
    rw [List.flatMap_cons, hoctets, List.cons_append] at h ⊢
    obtain ⟨fuel, rfl⟩ := Nat.exists_eq_add_one_of_ne_zero (Nat.ne_zero_of_lt h)
    have hmore : (cs.flatMap String.utf8EncodeChar).length ≤ fuel := by
      simp only [List.length_cons, List.length_append] at h
      omega
    rw [utf8Lenient, hstep]
    simp only [Nat.add_sub_cancel, List.drop_left, ih hmore, Char.ofNat_toNat]

/-- A text is what its octets are read as. -/
theorem ofUtf8Lenient_utf8 (s : String) : ofUtf8Lenient (utf8 s) = s := by
  rw [ofUtf8Lenient, utf8_eq_flatMap, utf8Lenient_flatMap s.toList (Nat.le_refl _),
    String.ofList_toList]

theorem utf8Strict_flatMap (cs : List Char) {fuel : Nat} (position : Nat)
    (h : (cs.flatMap String.utf8EncodeChar).length ≤ fuel) :
    utf8Strict fuel position (cs.flatMap String.utf8EncodeChar) = .ok cs := by
  induction cs generalizing fuel position with
  | nil => cases fuel <;> rfl
  | cons c cs ih =>
    obtain ⟨b, bs, hoctets, hstep⟩ := utf8Step_utf8EncodeChar c
    rw [List.flatMap_cons, hoctets, List.cons_append] at h ⊢
    obtain ⟨fuel, rfl⟩ := Nat.exists_eq_add_one_of_ne_zero (Nat.ne_zero_of_lt h)
    have hmore : (cs.flatMap String.utf8EncodeChar).length ≤ fuel := by
      simp only [List.length_cons, List.length_append] at h
      omega
    rw [utf8Strict, hstep]
    simp only [Nat.add_sub_cancel, List.drop_left, ih _ hmore, Except.map, Char.ofNat_toNat]

/-! ## What the strict reader accepts -/

/-- What the first octet of a character says: its own bits, and bounds for the second octet that
leave out surrogates, code points beyond the last one and characters that fewer octets would do
for. -/
theorem utf8Lead_eq_some {b acc lo hi more : Nat} (h : utf8Lead b = some (acc, lo, hi, more)) :
    128 ≤ lo ∧ hi ≤ 191 ∧
      (more = 0 ∧ b = acc + 192 ∧ 2 ≤ acc ∧ acc < 32 ∨
       more = 1 ∧ b = acc + 224 ∧ acc < 16 ∧ (acc = 0 → 160 ≤ lo) ∧ (acc = 13 → hi ≤ 159) ∨
       more = 2 ∧ b = acc + 240 ∧ acc ≤ 4 ∧ (acc = 0 → 144 ≤ lo) ∧ (acc = 4 → hi ≤ 143)) := by
  unfold utf8Lead at h
  repeat' split at h
  all_goals
    simp only [Option.some.injEq, Prod.mk.injEq, reduceCtorEq] at h
    try omega

theorem utf8Tail_zero_eq_ok {acc taken n width : Nat} {bs : Bytes} :
    utf8Tail 0 acc taken bs = (.ok n, width) ↔ acc = n ∧ taken = width := by
  simp [utf8Tail]

/-- An octet after the second one that has been read. -/
theorem utf8Tail_eq_ok {more acc taken n width : Nat} {bs : Bytes}
    (h : utf8Tail (more + 1) acc taken bs = (.ok n, width)) :
    ∃ c cs, bs = c :: cs ∧ 128 ≤ c.toNat ∧ c.toNat ≤ 191 ∧
      utf8Tail more (acc * 64 + (c.toNat - 128)) (taken + 1) cs = (.ok n, width) := by
  cases bs with
  | nil => cases h
  | cons c cs =>
    rw [utf8Tail] at h
    split at h
    · next hbounds => exact ⟨c, cs, rfl, hbounds.1, hbounds.2, h⟩
    · cases h

theorem ofNat_eq {b : UInt8} {n : Nat} (h : b.toNat = n) : UInt8.ofNat n = b :=
  h ▸ UInt8.ofNat_toNat

/-- A code point that is read is that of a character. -/
theorem exists_char {n : Nat} (h : n < 0xD800 ∨ 0xDFFF < n ∧ n < 0x110000) :
    ∃ c : Char, c.val.toNat = n :=
  ⟨Char.ofNatAux n h, rfl⟩

/-- What has been read is an octet of ASCII, or as many octets as the first one asks for, the second
one within the bounds that the first one sets. -/
theorem utf8Step_cases {b : UInt8} {bs : Bytes} {n width : Nat}
    (h : utf8Step b bs = (.ok n, width)) :
    b.toNat < 128 ∧ b.toNat = n ∧ width = 1 ∨
      ∃ acc lo hi more c cs, bs = c :: cs ∧ utf8Lead b.toNat = some (acc, lo, hi, more) ∧
        lo ≤ c.toNat ∧ c.toNat ≤ hi ∧
        utf8Tail more (acc * 64 + (c.toNat - 128)) 2 cs = (.ok n, width) := by
  unfold utf8Step at h
  split at h
  · next hascii =>
    cases h
    exact .inl ⟨hascii, rfl, rfl⟩
  · split at h
    · cases h
    · next acc lo hi more hlead =>
      split at h
      · cases h
      · next c cs =>
        split at h
        · next hbounds =>
          exact .inr ⟨acc, lo, hi, more, c, cs, rfl, hlead, hbounds.1, hbounds.2, h⟩
        · cases h

section Octets

variable {c : Char} {first second third fourth : UInt8} {acc : Nat}

theorem utf8EncodeChar_one (hc : c.toNat = first.toNat) (hfirst : first.toNat < 128) :
    String.utf8EncodeChar c = [first] := by
  rw [String.utf8EncodeChar, show c.val.toNat = first.toNat from hc, if_pos (by omega),
    ofNat_eq rfl]

/-- The octets of a character that needs two. -/
theorem utf8EncodeChar_two (hfirst : first.toNat = acc + 192) (hmin : 2 ≤ acc) (hmax : acc < 32)
    (hlo : 128 ≤ second.toNat) (hhi : second.toNat ≤ 191)
    (hc : c.toNat = acc * 64 + (second.toNat - 128)) :
    String.utf8EncodeChar c = [first, second] := by
  rw [String.utf8EncodeChar]
  change c.val.toNat = _ at hc
  simp only [if_neg (show ¬ c.val.toNat ≤ 127 by omega),
    if_pos (show c.val.toNat ≤ 2047 by omega)]
  rw [ofNat_eq (b := first) (by omega), ofNat_eq (b := second) (by omega)]

/-- The octets of a character that needs three. -/
theorem utf8EncodeChar_three (hfirst : first.toNat = acc + 224) (hmax : acc < 16)
    (hlo : 128 ≤ second.toNat) (hhi : second.toNat ≤ 191)
    (hlo' : 128 ≤ third.toNat) (hhi' : third.toNat ≤ 191)
    (hc : c.toNat = (acc * 64 + (second.toNat - 128)) * 64 + (third.toNat - 128))
    (hlong : 2047 < c.toNat) : String.utf8EncodeChar c = [first, second, third] := by
  rw [String.utf8EncodeChar]
  change c.val.toNat = _ at hc
  change 2047 < c.val.toNat at hlong
  simp only [if_neg (show ¬ c.val.toNat ≤ 127 by omega),
    if_neg (show ¬ c.val.toNat ≤ 2047 by omega), if_pos (show c.val.toNat ≤ 65535 by omega)]
  rw [ofNat_eq (b := first) (by omega), ofNat_eq (b := second) (by omega),
    ofNat_eq (b := third) (by omega)]

/-- The octets of a character that needs four. -/
theorem utf8EncodeChar_four (hfirst : first.toNat = acc + 240) (hmax : acc ≤ 4)
    (hlo : 128 ≤ second.toNat) (hhi : second.toNat ≤ 191)
    (hlo' : 128 ≤ third.toNat) (hhi' : third.toNat ≤ 191)
    (hlo'' : 128 ≤ fourth.toNat) (hhi'' : fourth.toNat ≤ 191)
    (hc : c.toNat = ((acc * 64 + (second.toNat - 128)) * 64 + (third.toNat - 128)) * 64 +
      (fourth.toNat - 128))
    (hlong : 65535 < c.toNat) : String.utf8EncodeChar c = [first, second, third, fourth] := by
  rw [String.utf8EncodeChar]
  change c.val.toNat = _ at hc
  change 65535 < c.val.toNat at hlong
  simp only [if_neg (show ¬ c.val.toNat ≤ 127 by omega),
    if_neg (show ¬ c.val.toNat ≤ 2047 by omega), if_neg (show ¬ c.val.toNat ≤ 65535 by omega)]
  rw [ofNat_eq (b := first) (by omega), ofNat_eq (b := second) (by omega),
    ofNat_eq (b := third) (by omega), ofNat_eq (b := fourth) (by omega)]

end Octets

/-- Octets that are read as a character are those of the character. -/
theorem utf8Step_eq_ok {b : UInt8} {bs : Bytes} {n width : Nat}
    (h : utf8Step b bs = (.ok n, width)) :
    ∃ c : Char, c.toNat = n ∧ b :: bs = String.utf8EncodeChar c ++ bs.drop (width - 1) := by
  obtain ⟨hascii, rfl, rfl⟩ | ⟨acc, lo, hi, more, second, cs, rfl, hlead, hlo, hhi, htail⟩ :=
    utf8Step_cases h
  · obtain ⟨c, hc⟩ := exists_char (n := b.toNat) (by omega)
    exact ⟨c, hc, by rw [utf8EncodeChar_one hc hascii]; rfl⟩
  -- The bounds of the second octet keep the code point out of the surrogates, and from being one
  -- that fewer octets would do for.
  · obtain ⟨hmin, hmax, ⟨rfl, hb, hacc, hacc'⟩ | ⟨rfl, hb, hacc, hlong, hsurrogate⟩ |
      ⟨rfl, hb, hacc, hlong, hlast⟩⟩ := utf8Lead_eq_some hlead
    · obtain ⟨hn, rfl⟩ := utf8Tail_zero_eq_ok.1 htail
      obtain ⟨c, hc⟩ := exists_char (n := n) (by omega)
      refine ⟨c, hc, ?_⟩
      rw [utf8EncodeChar_two hb hacc hacc' (by omega) (by omega) (hc.trans hn.symm)]
      rfl
    · obtain ⟨third, cs, rfl, hthird, hthird', htail⟩ := utf8Tail_eq_ok htail
      obtain ⟨hn, rfl⟩ := utf8Tail_zero_eq_ok.1 htail
      obtain ⟨c, hc⟩ := exists_char (n := n) (by omega)
      refine ⟨c, hc, ?_⟩
      rw [utf8EncodeChar_three hb hacc (by omega) (by omega) hthird hthird' (hc.trans hn.symm)
        (show 2047 < c.val.toNat by omega)]
      rfl
    · obtain ⟨third, cs, rfl, hthird, hthird', htail⟩ := utf8Tail_eq_ok htail
      obtain ⟨fourth, cs, rfl, hfourth, hfourth', htail⟩ := utf8Tail_eq_ok htail
      obtain ⟨hn, rfl⟩ := utf8Tail_zero_eq_ok.1 htail
      obtain ⟨c, hc⟩ := exists_char (n := n) (by omega)
      refine ⟨c, hc, ?_⟩
      rw [utf8EncodeChar_four hb hacc (by omega) (by omega) hthird hthird' hfourth hfourth'
        (hc.trans hn.symm) (show 65535 < c.val.toNat by omega)]
      rfl

/-- Characters that have been read are those whose octets were there. -/
theorem utf8Strict_eq_ok {fuel position : Nat} {bs : Bytes} {cs : List Char}
    (hfuel : bs.length ≤ fuel) (h : utf8Strict fuel position bs = .ok cs) :
    bs = cs.flatMap String.utf8EncodeChar := by
  induction fuel generalizing position bs cs with
  | zero =>
    obtain rfl : bs = [] := List.length_eq_zero_iff.1 (Nat.le_zero.1 hfuel)
    cases h
    rfl
  | succ fuel ih =>
    cases bs with
    | nil =>
      cases h
      rfl
    | cons b bs =>
      rw [utf8Strict] at h
      split at h
      · next n width hstep =>
        obtain ⟨c, rfl, hoctets⟩ := utf8Step_eq_ok hstep
        obtain ⟨ds, htail, rfl⟩ := map_eq_ok.1 h
        have hrest : (bs.drop (width - 1)).length ≤ fuel := by
          simp only [List.length_cons, List.length_drop] at hfuel ⊢
          omega
        rw [List.flatMap_cons, Char.ofNat_toNat, ← ih hrest htail]
        exact hoctets
      · cases h

/-- The strict reader accepts what a text is written as, and gives the text back. -/
theorem ofUtf8_eq_ok_iff {bs : Bytes} {s : String} : ofUtf8 bs = .ok s ↔ bs = utf8 s := by
  rw [utf8_eq_flatMap, ofUtf8, map_eq_ok]
  constructor
  · rintro ⟨cs, hread, rfl⟩
    rw [String.toList_ofList]
    exact utf8Strict_eq_ok (Nat.le_refl _) hread
  · rintro rfl
    exact ⟨s.toList, utf8Strict_flatMap s.toList 0 (Nat.le_refl _), String.ofList_toList⟩

/-- What the strict reader refuses is no text. -/
theorem ne_utf8_of_error {bs : Bytes} {e : Utf8Error} (h : ofUtf8 bs = .error e) (s : String) :
    bs ≠ utf8 s := by
  intro hs
  rw [ofUtf8_eq_ok_iff.2 hs] at h
  cases h

end ProxyTrial.Text
