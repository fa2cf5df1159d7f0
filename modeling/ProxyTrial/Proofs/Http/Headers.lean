import ProxyTrial.Proofs.Ascii
import ProxyTrial.Proofs.Basic
import Mathlib.Data.List.Nodup
/-!
# Header fields of ASCII

Header fields that are ASCII are the same as texts and as octets, and looking one up in the octets
finds what the texts have.

## Main definitions

* `octetFields hs`: the fields as octets
* `combined name hs`: what the fields with a name say together
* `named name hs`: the values of the fields with a name
* `Distinct hs`: no two fields have the same name

## Main results

* `ofText_ascii`: fields of ASCII are taken as they are
* `joined?_octetFields`, `values_octetFields`: looking up a field in the octets
* `named_of_distinct`: a field that is the only one with its name
-/

namespace ProxyTrial.Http

/-- Names and values are ASCII. -/
def AsciiFields (hs : List (String × String)) : Prop :=
  ∀ h ∈ hs, Text.IsAscii h.1 ∧ Text.IsAscii h.2

instance (hs : List (String × String)) : Decidable (AsciiFields hs) := List.decidableBAll _ hs

/-- Names and values are Latin-1. -/
def Latin1Fields (hs : List (String × String)) : Prop :=
  ∀ h ∈ hs, Text.IsLatin1 h.1 ∧ Text.IsLatin1 h.2

instance (hs : List (String × String)) : Decidable (Latin1Fields hs) := List.decidableBAll _ hs

/-- Fields as octets. -/
def octetFields (hs : List (String × String)) : Fields :=
  hs.map fun h => (Text.ascii h.1, Text.ascii h.2)

/-- The values of the fields with a name in small letters. -/
def named (name : String) (hs : List (String × String)) : List String :=
  (hs.filter fun h => Text.lower h.1 == name).map (·.2)

/-- The values of the fields with a name in small letters, joined by commas. -/
def combined (name : String) (hs : List (String × String)) : Option String :=
  match named name hs with
  | [] => none
  | values => some (", ".intercalate values)

/-- No two fields have names that differ at most in the case of letters. -/
def Distinct (hs : List (String × String)) : Prop := (hs.map fun h => Text.lower h.1).Nodup

instance (hs : List (String × String)) : Decidable (Distinct hs) :=
  inferInstanceAs (Decidable (List.Nodup _))

variable {hs : List (String × String)} {f : String × String} {name : String}

theorem AsciiFields.latin1 (h : AsciiFields hs) : Latin1Fields hs :=
  fun f hf => ⟨(h f hf).1.isLatin1, (h f hf).2.isLatin1⟩

/-- Fields of ASCII are taken as they are. -/
theorem ofText_ascii (h : AsciiFields hs) : Fields.ofText hs = .ok (octetFields hs) := by
  induction hs with
  | nil => rfl
  | cons f hs ih =>
    obtain ⟨hf, hs'⟩ := List.forall_mem_cons.1 h
    rw [Fields.ofText, Text.encode_ascii hf.1, Text.encode_ascii hf.2, ih hs']
    rfl

theorem encoding_octetFields (h : AsciiFields hs) : (octetFields hs).encoding = .ascii := by
  rw [Fields.encoding, if_pos]
  rw [octetFields, List.all_map, List.all_eq_true]
  intro f hf
  rw [Function.comp_apply, Bool.and_eq_true]
  exact ⟨Text.isAscii_octets (h f hf).1, Text.isAscii_octets (h f hf).2⟩

/-- Small letters of ASCII are ASCII, so that comparing names as texts or as octets is the same. -/
theorem fold_ascii_beq {a b : String} (ha : Text.IsAscii a) (hb : Text.IsAscii b) :
    (Fields.fold (Text.ascii a) == Text.ascii b) = (Text.lower a == b) := by
  rw [Text.fold_ascii ha, Bool.eq_iff_iff, beq_iff_eq, beq_iff_eq]
  exact ⟨Text.ascii_injective (Text.isAscii_lower ha) hb, congrArg Text.ascii⟩

theorem octetFields_cons (f : String × String) (hs : List (String × String)) :
    octetFields (f :: hs) = (Text.ascii f.1, Text.ascii f.2) :: octetFields hs := rfl

theorem octetFields_append (hs gs : List (String × String)) :
    octetFields (hs ++ gs) = octetFields hs ++ octetFields gs :=
  List.map_append

/-- Fields are selected as octets or as texts. -/
theorem filter_octetFields {p : Bytes × Bytes → Bool} {q : String × String → Bool}
    (h : ∀ f ∈ hs, p (Text.ascii f.1, Text.ascii f.2) = q f) :
    (octetFields hs).filter p = octetFields (hs.filter q) := by
  rw [octetFields, List.filter_map, octetFields]
  exact congrArg _ (List.filter_congr h)

theorem lower_host : Text.lower "Host" = "host" := Text.lower_eq_of_small (by decide) (by decide)

theorem lower_contentLength : Text.lower "Content-Length" = "content-length" :=
  Text.lower_eq_of_small (by decide) (by decide)

/-- The octets of the fields with a name are those of their values. -/
theorem map_decode_filter_fold (h : AsciiFields hs) (hn : Text.IsAscii name) :
    ((octetFields hs).filter fun f => Fields.fold f.1 == Text.ascii name).map
      (fun f => FieldEncoding.ascii.decode f.2) = named name hs := by
  rw [filter_octetFields fun f hf => fold_ascii_beq (h f hf).1 hn, octetFields, List.map_map, named]
  refine List.map_congr_left fun f hf => ?_
  exact Text.ofLatin1_ascii (h f (List.mem_filter.1 hf).1).2

theorem valuesOf_octetFields (h : AsciiFields hs) (hn : Text.IsAscii name) :
    (octetFields hs).valuesOf name = named (Text.lower name) hs := by
  rw [Fields.valuesOf, encoding_octetFields h, Text.fold_ascii hn,
    map_decode_filter_fold h (Text.isAscii_lower hn)]

/-- Looking up a field in the octets finds what the fields with that name say together. -/
theorem joined?_octetFields (h : AsciiFields hs) (hn : Text.IsAscii name)
    (hsmall : Text.lower name = name) : (octetFields hs).joined? name = combined name hs := by
  rewrite [Fields.joined?, valuesOf_octetFields h hn, hsmall]
  rfl

/-- A name is looked up in any letter case. -/
theorem values_octetFields (h : AsciiFields hs) (hn : Text.IsAscii (Text.lower name)) :
    (octetFields hs).values name = .ok (named (Text.lower name) hs) := by
  rw [Fields.values, encoding_octetFields h, FieldEncoding.encode, Text.encode_ascii hn,
    ok_bind, map_decode_filter_fold h hn]
  rfl

/-! ## Distinct names -/

theorem Distinct.perm {hs' : List (String × String)} (hd : Distinct hs) (hp : hs.Perm hs') :
    Distinct hs' :=
  (hp.map _).nodup_iff.1 hd

theorem Distinct.append {gs : List (String × String)} (hh : Distinct hs) (hg : Distinct gs)
    (h : ∀ f ∈ hs, ∀ g ∈ gs, Text.lower f.1 ≠ Text.lower g.1) : Distinct (hs ++ gs) := by
  rw [Distinct, List.map_append, List.nodup_append]
  refine ⟨hh, hg, ?_⟩
  simp only [List.forall_mem_map]
  exact h

theorem distinct_singleton (f : String × String) : Distinct [f] := List.nodup_singleton _

/-- A field is the only one with its name. -/
theorem filter_of_distinct (hd : Distinct hs) (hf : f ∈ hs) :
    (hs.filter fun g => Text.lower g.1 == Text.lower f.1) = [f] := by
  obtain ⟨before, after, rfl⟩ := List.append_of_mem hf
  have hnone : ∀ g ∈ before ++ after, ¬ (Text.lower g.1 == Text.lower f.1) := by
    rw [Distinct, List.map_append, List.map_cons, List.nodup_middle, List.nodup_cons,
      ← List.map_append] at hd
    intro g hg he
    exact hd.1 (List.mem_map.2 ⟨g, hg, beq_iff_eq.1 he⟩)
  rw [List.forall_mem_append] at hnone
  have hself : (fun g : String × String => Text.lower g.1 == Text.lower f.1) f = true :=
    beq_self_eq_true _
  rw [List.filter_append, List.filter_eq_nil_iff.2 hnone.1, List.filter_cons, if_pos hself,
    List.filter_eq_nil_iff.2 hnone.2, List.nil_append]

theorem named_of_distinct (hd : Distinct hs) (hf : f ∈ hs) :
    named (Text.lower f.1) hs = [f.2] := by
  rw [named, filter_of_distinct hd hf, List.map_singleton]

theorem named_eq_nil_iff : named name hs = [] ↔ ∀ f ∈ hs, Text.lower f.1 ≠ name := by
  simp [named, List.filter_eq_nil_iff]

theorem named_append (name : String) (hs gs : List (String × String)) :
    named name (hs ++ gs) = named name hs ++ named name gs := by
  simp [named]

theorem named_cons_of_eq (h : Text.lower f.1 = name) (hs : List (String × String)) :
    named name (f :: hs) = f.2 :: named name hs := by
  simp [named, h]

/-- The only field with a name stands between fields of other names. -/
theorem split_of_named_eq_singleton {value : String} (h : named name hs = [value]) :
    ∃ before f after, hs = before ++ f :: after ∧ Text.lower f.1 = name ∧ f.2 = value ∧
      named name before = [] ∧ named name after = [] := by
  obtain ⟨f, hf, hvalue⟩ : ∃ f ∈ hs.filter fun f => Text.lower f.1 == name, f.2 = value := by
    rw [← List.mem_map, show List.map _ _ = [value] from h]
    exact List.mem_singleton_self value
  obtain ⟨hmem, hname⟩ := List.mem_filter.1 hf
  have hname := beq_iff_eq.1 hname
  obtain ⟨before, after, rfl⟩ := List.append_of_mem hmem
  rw [named_append, named_cons_of_eq hname] at h
  have hlen := congrArg List.length h
  simp only [List.length_append, List.length_cons, List.length_nil] at hlen
  exact ⟨before, f, after, rfl, hname, hvalue,
    List.length_eq_zero_iff.1 (by omega), List.length_eq_zero_iff.1 (by omega)⟩

end ProxyTrial.Http
