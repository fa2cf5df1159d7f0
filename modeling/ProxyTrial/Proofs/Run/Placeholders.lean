import Mathlib.Data.Bool.AllAny
import ProxyTrial.Proofs.Ascii
import ProxyTrial.Run.Proxy
/-!
# Filling in placeholders

The placeholders of a text are filled in one kind after the other, each time in the whole text. This
comes to one pass from left to right over the text as it was: a value that has been put in is never
looked at again, and makes no placeholder together with what is around it. A value has no braces, so
that none begins or ends in it, and it has a character that no name of a placeholder has, so that it
is not within one.

## Main definitions

* `OnePass values cs out`: one pass over characters
* `Inert values`: what keeps the values from being mistaken

## Main results

* `OnePass.unique`: a pass has one result
* `OnePass.trans`: a pass over the result of a pass is a pass with the values of both
* `render_one_pass`: so it is with the values of a proxy, in any order
-/

namespace ProxyTrial.Proxy

/-- One pass over characters, from the left: each placeholder gives its value, and everything else
is copied. -/
inductive OnePass (values : List (String × String)) : List Char → List Char → Prop
  | nil : OnePass values [] []
  | fill {v : String × String} {cs out : List Char} : v ∈ values → OnePass values cs out →
      OnePass values (placeholder v.1 ++ cs) (v.2.toList ++ out)
  | copy {c : Char} {cs out : List Char} : (∀ v ∈ values, ¬ placeholder v.1 <+: c :: cs) →
      OnePass values cs out → OnePass values (c :: cs) (c :: out)

variable {values first second : List (String × String)} {v w : String × String} {name : String}
  {c : Char} {cs mid out out' xs : List Char}

/-! ## Placeholders -/

theorem placeholder_eq (name : String) (cs : List Char) :
    placeholder name ++ cs = '\x7b' :: (name.toList ++ '\x7d' :: cs) := by
  simp [placeholder]

/-- Only an opening brace begins a placeholder. -/
theorem not_prefix_of_ne (hc : c ≠ '\x7b') : ¬ placeholder name <+: c :: cs := by
  rintro ⟨rest, heq⟩
  rw [placeholder_eq] at heq
  exact hc (List.cons.inj heq).1.symm

/-- What ends at the first closing brace is known from where it ends. -/
theorem eq_of_append_brace {ds es : List Char} (hcs : '\x7d' ∉ cs) (hds : '\x7d' ∉ ds)
    (h : cs ++ '\x7d' :: xs = ds ++ '\x7d' :: es) : cs = ds ∧ xs = es := by
  induction cs generalizing ds with
  | nil =>
    cases ds with
    | nil => exact ⟨rfl, (List.cons.inj h).2⟩
    | cons d ds => exact absurd ((List.cons.inj h).1 ▸ List.mem_cons_self) hds
  | cons c cs ih =>
    cases ds with
    | nil => exact absurd ((List.cons.inj h).1 ▸ List.mem_cons_self) hcs
    | cons d ds =>
      obtain ⟨rfl, htail⟩ := List.cons.inj h
      obtain ⟨rfl, rfl⟩ := ih (fun hm => hcs (List.mem_cons_of_mem _ hm))
        (fun hm => hds (List.mem_cons_of_mem _ hm)) htail
      exact ⟨rfl, rfl⟩

/-- Values that are not mistaken for parts of placeholders, nor these for one another. -/
structure Inert (values : List (String × String)) : Prop where
  name : ∀ v ∈ values, '\x7d' ∉ v.1.toList ∧ '\x7b' ∉ v.1.toList
  value : ∀ v ∈ values, '\x7d' ∉ v.2.toList ∧ '\x7b' ∉ v.2.toList
  /-- A value has a character that no name has. -/
  foreign : ∀ v ∈ values, ∃ c ∈ v.2.toList, ∀ w ∈ values, c ∉ w.1.toList
  /-- A name has one value. -/
  unique : ∀ v ∈ values, ∀ w ∈ values, v.1 = w.1 → v = w

/-! ## What a pass does -/

namespace OnePass

theorem eq_nil (h : OnePass values [] out) : out = [] := by
  generalize hcs : ([] : List Char) = ds at h
  cases h with
  | nil => rfl
  | fill => cases hcs
  | copy => cases hcs

/-- A pass over characters begins with a placeholder, or there is none and one is copied. -/
theorem cons_cases (h : OnePass values (c :: cs) out) :
    (∃ v ∈ values, ∃ rest out', c :: cs = placeholder v.1 ++ rest ∧ out = v.2.toList ++ out' ∧
        OnePass values rest out') ∨
      (∀ v ∈ values, ¬ placeholder v.1 <+: c :: cs) ∧ ∃ out', out = c :: out' ∧
        OnePass values cs out' := by
  generalize hds : c :: cs = ds at h
  cases h with
  | nil => cases hds
  | fill hv h => exact .inl ⟨_, hv, _, _, rfl, rfl, h⟩
  | copy hnone h =>
    cases hds
    exact .inr ⟨hnone, _, rfl, h⟩

/-- Characters that are no opening braces are copied. -/
theorem copied (hxs : '\x7b' ∉ xs) (h : OnePass values (xs ++ cs) out) :
    ∃ out', out = xs ++ out' ∧ OnePass values cs out' := by
  induction xs generalizing out with
  | nil => exact ⟨out, rfl, h⟩
  | cons x xs ih =>
    rw [List.mem_cons, not_or] at hxs
    rcases h.cons_cases with ⟨v, -, rest, -, heq, -⟩ | ⟨-, out₁, rfl, h₁⟩
    · exact absurd ⟨rest, heq.symm⟩ (not_prefix_of_ne (Ne.symm hxs.1))
    · obtain ⟨out', rfl, h'⟩ := ih hxs.2 h₁
      exact ⟨out', rfl, h'⟩

theorem copying (hxs : '\x7b' ∉ xs) (h : OnePass values cs out) :
    OnePass values (xs ++ cs) (xs ++ out) := by
  induction xs with
  | nil => exact h
  | cons x xs ih =>
    rw [List.mem_cons, not_or] at hxs
    exact .copy (fun v _ => not_prefix_of_ne (Ne.symm hxs.1)) (ih hxs.2)

/-- Behind its opening brace, a placeholder is copied. -/
theorem copied_name (hname : '\x7b' ∉ name.toList)
    (h : OnePass values (name.toList ++ '\x7d' :: cs) out) :
    ∃ out', out = name.toList ++ '\x7d' :: out' ∧ OnePass values cs out' := by
  have hbrace : '\x7b' ∉ name.toList ++ ['\x7d'] := by simp [hname]
  rw [List.append_cons] at h
  obtain ⟨out', rfl, h'⟩ := h.copied hbrace
  exact ⟨out', (List.append_cons _ _ out').symm, h'⟩

theorem copying_name (hname : '\x7b' ∉ name.toList) (h : OnePass values cs out) :
    OnePass values (name.toList ++ '\x7d' :: cs) (name.toList ++ '\x7d' :: out) := by
  have hbrace : '\x7b' ∉ name.toList ++ ['\x7d'] := by simp [hname]
  rw [List.append_cons, List.append_cons _ _ out]
  exact h.copying hbrace

/-- A value that comes first out of a pass is not among characters up to a closing brace. -/
theorem value_not_within {ds : List Char} (hvalue : '\x7d' ∉ v.2.toList)
    (hforeign : ∃ c ∈ v.2.toList, c ∉ xs) : v.2.toList ++ ds ≠ xs ++ '\x7d' :: out := by
  intro heq
  obtain ⟨c, hc, hxs⟩ := hforeign
  rcases List.append_eq_append_iff.1 heq with ⟨as, rfl, -⟩ | ⟨bs, hbs, hds⟩
  · exact hxs (List.mem_append_left _ hc)
  · -- The value would go on to the brace, or end in front of it.
    cases bs with
    | nil =>
      rw [List.append_nil] at hbs
      exact hxs (hbs ▸ hc)
    | cons b bs =>
      obtain ⟨rfl, -⟩ := List.cons.inj hds
      exact hvalue (hbs ▸ List.mem_append_right _ List.mem_cons_self)

/-- Characters up to a closing brace that come out of a pass have been there before, if each value
has a character that is not among them: then none of them is of a value. -/
theorem source (hvalue : ∀ v ∈ values, '\x7d' ∉ v.2.toList)
    (hforeign : ∀ v ∈ values, ∃ c ∈ v.2.toList, c ∉ xs)
    (h : OnePass values cs (xs ++ '\x7d' :: out)) :
    ∃ rest, cs = xs ++ '\x7d' :: rest ∧ OnePass values rest out := by
  -- The induction is on the characters before the brace; a value would lie within them.
  induction xs generalizing cs with
  | nil =>
    generalize hout : [] ++ '\x7d' :: out = ds at h
    cases h with
    | nil => cases hout
    | fill hv h => exact absurd hout.symm (value_not_within (hvalue _ hv) (hforeign _ hv))
    | copy _ h =>
      cases hout
      exact ⟨_, rfl, h⟩
  | cons x xs ih =>
    generalize hout : x :: xs ++ '\x7d' :: out = ds at h
    cases h with
    | nil => cases hout
    | fill hv h => exact absurd hout.symm (value_not_within (hvalue _ hv) (hforeign _ hv))
    | copy _ h =>
      cases hout
      have hforeign' : ∀ v ∈ values, ∃ c ∈ v.2.toList, c ∉ xs := by
        intro v hv
        obtain ⟨c, hc, hxs⟩ := hforeign v hv
        exact ⟨c, hc, fun hm => hxs (List.mem_cons_of_mem x hm)⟩
      obtain ⟨rest, rfl, hrest⟩ := ih hforeign' h
      exact ⟨rest, rfl, hrest⟩

/-- A pass has one result, and it makes no difference in which order its values are. -/
theorem unique (hvalues : Inert values) (hfirst : first ⊆ values) (hsecond : second ⊆ first)
    (hsame : first ⊆ second) (h : OnePass first cs out) (h' : OnePass second cs out') :
    out = out' := by
  induction h generalizing out' with
  | nil => exact h'.eq_nil.symm
  | @fill v cs out hv h ih =>
    rw [placeholder_eq] at h'
    rcases h'.cons_cases with ⟨w, hw, rest, out₁, heq, rfl, h₁⟩ | ⟨hnone, -⟩
    · rw [placeholder_eq] at heq
      -- A name ends at the first closing brace.
      obtain ⟨hname, rfl⟩ := eq_of_append_brace (hvalues.name v (hfirst hv)).1
        (hvalues.name w (hfirst (hsecond hw))).1 (List.cons.inj heq).2
      obtain rfl :=
        hvalues.unique v (hfirst hv) w (hfirst (hsecond hw)) (String.toList_injective hname)
      rw [ih h₁]
    · exact absurd ⟨cs, placeholder_eq v.1 cs⟩ (hnone v (hsame hv))
  | @copy c cs out hnone h ih =>
    rcases h'.cons_cases with ⟨w, hw, rest, -, heq, -⟩ | ⟨-, out₁, rfl, h₁⟩
    · exact absurd ⟨rest, heq.symm⟩ (hnone w (hsecond hw))
    · rw [ih h₁]

/-- A pass over the result of a pass is one pass with the values of both. -/
theorem trans (hvalues : Inert values) (hfirst : first ⊆ values) (hsecond : second ⊆ values)
    (h : OnePass first cs mid) (h' : OnePass second mid out) :
    OnePass (first ++ second) cs out := by
  induction h generalizing out with
  | nil =>
    rw [h'.eq_nil]
    exact .nil
  | @fill v cs mid hv h ih =>
    -- The value is copied by the second pass.
    obtain ⟨out₁, rfl, h₁⟩ := h'.copied (hvalues.value v (hfirst hv)).2
    exact .fill (List.mem_append_left _ hv) (ih h₁)
  | @copy c cs mid hnone h ih =>
    rcases h'.cons_cases with ⟨w, hw, rest, out₁, heq, rfl, h₁⟩ | ⟨hnone', out₁, rfl, h₁⟩
    · -- What the second pass takes for a placeholder has been one before the first pass.
      rw [placeholder_eq] at heq
      obtain ⟨rfl, rfl⟩ := List.cons.inj heq
      have hforeign : ∀ v ∈ first, ∃ d ∈ v.2.toList, d ∉ w.1.toList := by
        intro v hv
        obtain ⟨d, hd, hno⟩ := hvalues.foreign v (hfirst hv)
        exact ⟨d, hd, hno w (hsecond hw)⟩
      obtain ⟨rest', rfl, hrest⟩ :=
        h.source (fun v hv => (hvalues.value v (hfirst hv)).1) hforeign
      have hname := (hvalues.name w (hsecond hw)).2
      obtain ⟨out', hout, hpass⟩ := (ih (h₁.copying_name hname)).copied_name hname
      obtain rfl := (List.cons.inj (List.append_cancel_left hout)).2
      rw [← placeholder_eq]
      exact .fill (List.mem_append_right _ hw) hpass
    · refine .copy (fun v hv => ?_) (ih h₁)
      rcases List.mem_append.1 hv with hv | hv
      · exact hnone v hv
      · rintro ⟨rest, heq⟩
        rw [placeholder_eq] at heq
        obtain ⟨rfl, rfl⟩ := List.cons.inj heq
        obtain ⟨mid', rfl, -⟩ := h.copied_name (hvalues.name v (hsecond hv)).2
        exact hnone' v hv ⟨mid', placeholder_eq v.1 mid'⟩

/-- Without placeholders everything is copied. -/
theorem of_none (cs : List Char) : OnePass [] cs cs := by
  induction cs with
  | nil => exact .nil
  | cons c cs ih => exact .copy (fun v hv => nomatch hv) ih

end OnePass

/-! ## Filling in one kind after the other -/

theorem replaceFrom_append (old new xs cs : List Char) :
    replaceFrom old new xs.length (xs ++ cs) = replaceFrom old new 0 cs := by
  induction xs with
  | nil => rfl
  | cons x xs ih => exact ih

theorem replaceFrom_placeholder (name : String) (new cs : List Char) :
    replaceFrom (placeholder name) new 0 (placeholder name ++ cs) =
      new ++ replaceFrom (placeholder name) new 0 cs := by
  have hprefix : (placeholder name).isPrefixOf (placeholder name ++ cs) := by simp
  have hsplit : placeholder name ++ cs = '\x7b' :: ((placeholder name).tail ++ cs) := by
    simp [placeholder]
  have hlength : (placeholder name).length - 1 = (placeholder name).tail.length := by simp
  rw [hsplit] at hprefix ⊢
  rw [replaceFrom, if_pos hprefix, hlength, replaceFrom_append]

/-- Filling in one kind of placeholder is a pass with its value. -/
theorem onePass_replaceFrom (v : String × String) (cs : List Char) :
    OnePass [v] cs (replaceFrom (placeholder v.1) v.2.toList 0 cs) := by
  -- The induction is on the length, since a pass goes over a placeholder at once.
  induction hn : cs.length using Nat.strongRecOn generalizing cs with
  | ind n ih =>
  cases cs with
  | nil => exact .nil
  | cons c cs =>
    by_cases hprefix : placeholder v.1 <+: c :: cs
    · obtain ⟨rest, heq⟩ := hprefix
      have hshorter : rest.length < n := by
        rw [← hn, ← heq, placeholder_eq, List.length_cons, List.length_append, List.length_cons]
        omega
      rw [← heq, replaceFrom_placeholder]
      exact .fill List.mem_cons_self (ih _ hshorter rest rfl)
    · have hshorter : cs.length < n := by
        rw [← hn]
        exact Nat.lt_succ_self _
      rw [replaceFrom, if_neg (by rwa [List.isPrefixOf_iff_prefix])]
      refine .copy (fun w hw => ?_) (ih _ hshorter cs rfl)
      rwa [List.mem_singleton.1 hw]

/-- Characters with placeholders filled in, one kind after the other. -/
def fillIn (order : List (String × String)) (cs : List Char) : List Char :=
  order.foldl (fun cs v => replaceFrom (placeholder v.1) v.2.toList 0 cs) cs

/-- Filling in one kind after the other is one pass. -/
theorem onePass_fillIn (hvalues : Inert values) {order : List (String × String)}
    (horder : order ⊆ values) (cs : List Char) : OnePass order cs (fillIn order cs) := by
  induction order generalizing cs with
  | nil => exact .of_none cs
  | cons v order ih =>
    rw [List.cons_subset] at horder
    have hv : [v] ⊆ values := by simpa using horder.1
    -- What comes after the first value is a pass already.
    exact (onePass_replaceFrom v cs).trans hvalues hv horder.2 (ih horder.2 _)

/-! ## The values of a proxy -/

variable {p : Proxy}

theorem render_eq (p : Proxy) (template : String) :
    p.render template = String.ofList (fillIn p.placeholders template.toList) := rfl

/-- A value as it may be: it has no braces, and a character that names do not have. -/
structure Foreign (value : String) : Prop where
  braces : '\x7d' ∉ value.toList ∧ '\x7b' ∉ value.toList
  foreign : ∃ c ∈ value.toList, c.isDigit ∨ c = '/' ∨ c = 'N'

theorem foreign_digits (n : Nat) : Foreign (toString n) := by
  have hdigit := Text.isDigit_toString n
  refine ⟨⟨fun h => absurd (hdigit _ h) (by decide), fun h => absurd (hdigit _ h) (by decide)⟩, ?_⟩
  have hne : (toString n).toList ≠ [] := by
    rw [Nat.toString_eq_repr, Nat.toList_repr]
    exact Nat.toDigits_ne_nil
  obtain ⟨c, cs, hcs⟩ := List.exists_cons_of_ne_nil hne
  have hc : c ∈ (toString n).toList := hcs ▸ List.mem_cons_self
  exact ⟨c, hc, .inl (hdigit c hc)⟩

theorem foreign_toString (n : Int) : Foreign (toString n) := by
  cases n with
  | ofNat n => exact foreign_digits n
  | negSucc n =>
    have hsigned : toString (Int.negSucc n) = "-" ++ toString (n + 1) := rfl
    obtain ⟨⟨hclose, hopen⟩, c, hc, hforeign⟩ := foreign_digits (n + 1)
    rw [hsigned]
    refine ⟨⟨?_, ?_⟩, c, ?_, hforeign⟩
    · rw [String.toList_append, List.mem_append, not_or]
      exact ⟨by decide, hclose⟩
    · rw [String.toList_append, List.mem_append, not_or]
      exact ⟨by decide, hopen⟩
    · rw [String.toList_append]
      exact List.mem_append_right _ hc

/-- The run root of a proxy, if there is one, is absolute and has no braces. -/
def PlainRoot (p : Proxy) : Prop :=
  ∀ root ∈ p.root, root.shown.toList.head? = some '/' ∧ '\x7d' ∉ root.shown.toList ∧
    '\x7b' ∉ root.shown.toList

theorem foreign_of_mem (h : p.PlainRoot) (hv : v ∈ p.placeholders) : Foreign v.2 := by
  simp only [placeholders, List.mem_cons, List.not_mem_nil, or_false] at hv
  rcases hv with rfl | rfl | rfl
  · cases hroot : p.root with
    | none => exact ⟨by decide, 'N', by decide, by decide⟩
    | some root =>
      obtain ⟨hslash, hbraces⟩ := h root hroot
      exact ⟨hbraces, '/', List.mem_of_mem_head? hslash, by decide⟩
  · exact foreign_toString p.port
  · exact foreign_toString p.originPort

theorem name_of_mem (hv : v ∈ p.placeholders) :
    ∀ c ∈ v.1.toList, c ≠ '\x7d' ∧ c ≠ '\x7b' ∧ ¬ (c.isDigit ∨ c = '/' ∨ c = 'N') := by
  simp only [placeholders, List.mem_cons, List.not_mem_nil, or_false] at hv
  rcases hv with rfl | rfl | rfl <;>
  · dsimp only
    exact List.all_iff_forall_prop.1 (by decide)

theorem eq_of_name_eq (hv : v ∈ p.placeholders) (hw : w ∈ p.placeholders) (h : v.1 = w.1) :
    v = w := by
  simp only [placeholders, List.mem_cons, List.not_mem_nil, or_false] at hv hw
  rcases hv with rfl | rfl | rfl <;> rcases hw with rfl | rfl | rfl <;>
    first
    | rfl
    | exact absurd h (by simp)

theorem inert_placeholders (h : p.PlainRoot) : Inert p.placeholders where
  name v hv :=
    ⟨fun hc => (name_of_mem hv _ hc).1 rfl, fun hc => (name_of_mem hv _ hc).2.1 rfl⟩
  value v hv := (foreign_of_mem h hv).braces
  foreign v hv := by
    obtain ⟨c, hc, hforeign⟩ := (foreign_of_mem h hv).foreign
    exact ⟨c, hc, fun w hw hc' => (name_of_mem hw c hc').2.2 hforeign⟩
  unique v hv w hw := eq_of_name_eq hv hw

/-- A text with its placeholders filled in is what one pass over it gives, whatever the order of the
values. Filling in once more changes nothing. -/
theorem render_one_pass (p : Proxy) (h : p.PlainRoot) (template : String) :
    (∀ out, OnePass p.placeholders template.toList out ↔ out = (p.render template).toList) ∧
      (∀ order, order.Perm p.placeholders →
        String.ofList (fillIn order template.toList) = p.render template) ∧
      p.render (p.render template) = p.render template := by
  have hvalues := inert_placeholders h
  have hpass := onePass_fillIn hvalues (List.Subset.refl _) template.toList
  have hrendered : (p.render template).toList = fillIn p.placeholders template.toList := by
    rw [render_eq, String.toList_ofList]
  refine ⟨fun out => ⟨fun hout => ?_, ?_⟩, fun order horder => ?_, ?_⟩
  · rw [hrendered]
    exact hout.unique hvalues (List.Subset.refl _) (List.Subset.refl _) (List.Subset.refl _) hpass
  · rintro rfl
    rwa [hrendered]
  · have hordered := onePass_fillIn hvalues horder.subset template.toList
    rw [render_eq, hordered.unique hvalues horder.subset horder.symm.subset horder.subset hpass]
  · -- Filling in again is a pass with the same values, each of them twice.
    have hagain := hpass.trans hvalues (List.Subset.refl _) (List.Subset.refl _)
      (onePass_fillIn hvalues (List.Subset.refl _) _)
    have htwice : p.placeholders ++ p.placeholders ⊆ p.placeholders :=
      List.append_subset.2 ⟨List.Subset.refl _, List.Subset.refl _⟩
    have hsame := hagain.unique hvalues htwice (List.subset_append_left _ _) htwice hpass
    rw [render_eq p (p.render template), hrendered, hsame, ← hrendered, String.ofList_toList]

/-- Placeholders in and around broken ones. -/
theorem render_one_pass_nested :
    let p : Proxy := { config := { command := [], port := 8080 }, originPort := 40000
                       root := some ⟨"/", ["tmp", "a"]⟩ }
    let template := "\x7btmp\x7bproxy_port\x7ddir\x7d\x7b\x7btmpdir\x7d\x7d"
    let rendered := "\x7btmp8080dir\x7d\x7b/tmp/a\x7d"
    p.PlainRoot ∧ OnePass p.placeholders template.toList rendered.toList ∧
      String.ofList (fillIn p.placeholders.reverse template.toList) = rendered ∧
      p.render rendered = rendered := by
  intro p template rendered
  have hroot : p.PlainRoot := by
    rintro root ⟨⟩
    decide
  have hrendered : p.render template = rendered := by decide +kernel
  obtain ⟨hpass, horder, hagain⟩ := render_one_pass p hroot template
  rw [hrendered] at hpass horder hagain
  exact ⟨hroot, (hpass _).2 rfl, horder _ (List.reverse_perm _), hagain⟩

end ProxyTrial.Proxy
