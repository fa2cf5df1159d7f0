import ProxyTrial.Proofs.Yaml.Scanning
import ProxyTrial.Yaml.Data
/-!
# Faults of values

A value is made of the nodes of a document. What is wrong with it is a flaw of the document, or it
is found in one of its nodes, which has the kind of a number, a truth value or a date, and does not
hold one, or which is its own main value.

## Main definitions

* `Node.Contains n x`: the node `x` is `n` or in it
* `Scalar.Unfit s k fault`: a scalar holds nothing of its kind

## Main results

* `Node.forall_contains_merged`: merging mappings brings no other nodes in
* `Node.value_eq_error`: what is wrong with a value
-/

namespace ProxyTrial.Yaml

/-- A node is another one or is in it. -/
inductive Node.Contains : (n x : Node) → Prop
  | self (n : Node) : Contains n n
  | item {k : Kind} {ns : List Node} {n x : Node} : n ∈ ns → Contains n x → Contains (.list k ns) x
  | key {k : Kind} {es : List (Node × Node)} {e : Node × Node} {x : Node} : e ∈ es →
      Contains e.1 x → Contains (.map k es) x
  | value {k : Kind} {es : List (Node × Node)} {e : Node × Node} {x : Node} : e ∈ es →
      Contains e.2 x → Contains (.map k es) x

/-- The characters of a scalar that is a date; a line feed at their end does not count. -/
def Scalar.dateChars (s : Scalar) : List Char :=
  if s.text.toList.getLast? = some '\n' then s.text.toList.dropLast else s.text.toList

/-- A scalar of this kind does not hold what its kind asks for. -/
inductive Scalar.Unfit (s : Scalar) : Kind → Fault → Prop
  | bool : boolWords.lookup (Text.lower s.text) = none →
      Unfit s .bool (.noBoolean (Text.lower s.text))
  | int {fault : Fault} : integer s.text = .error fault → Unfit s .int fault
  | float {fault : Fault} : Yaml.float s.text = .error fault → Unfit s .float fault
  | noDate : date? s.dateChars = none → Unfit s .timestamp .noDate
  | date {d : DateText} {fault : DateFault} : date? s.dateChars = some d → d.value = .error fault →
      Unfit s .timestamp (.date fault)

/-- A node of a document with these anchors holds nothing of its kind. -/
inductive Node.Unfit (anchors : List (String × Node)) : Node → Fault → Prop
  | scalar {x : Node} {s : Scalar} {fault : Fault} : x.scalarOf anchors = .ok s →
      s.Unfit x.kind fault → Unfit anchors x fault
  /-- A mapping has the kind of a date. -/
  | map {es : List (Node × Node)} : Unfit anchors (.map .timestamp es) .pairsForDate
  /-- The main values lead round in a circle. -/
  | circle {x : Node} : x.scalarOf anchors = .error .depth → Unfit anchors x .depth

variable {anchors : List (String × Node)} {n x : Node} {k : Kind} {s : Scalar} {fault : Fault}

/-! ## Scalars -/

theorem Node.scalarValue_eq_error (h : scalarValue k s = .error fault) :
    fault.IsFlaw ∨ s.Unfit k fault := by
  unfold scalarValue at h
  -- Text, null, then the kinds that ask something of the scalar, in the order of the definition.
  split at h
  · cases h
  · cases h
  · dsimp only at h
    split at h
    · cases h
    · next hnone =>
      obtain rfl := Except.error.inj h
      exact .inr (.bool hnone)
  · exact .inr (.int (map_eq_error.1 h))
  · exact .inr (.float (map_eq_error.1 h))
  · split at h
    · split at h
      · cases h
      · exact .inl ⟨_, (Except.error.inj h).symm⟩
    · exact .inl ⟨_, (Except.error.inj h).symm⟩
  · dsimp only at h
    split at h
    · next hnone =>
      obtain rfl := Except.error.inj h
      exact .inr (.noDate hnone)
    · next d hd =>
      obtain ⟨f, hf, rfl⟩ := mapError_eq_error.1 h
      exact .inr (.date hd hf)
  · exact .inl ⟨_, (Except.error.inj h).symm⟩

/-- A node stands for no scalar since it has not the form of one, or since its main values lead
round in a circle. -/
theorem Node.failsOnly_scalarWithin (top : Node) (steps : Nat) (n : Node) :
    FailsOnly (fun fault => fault.IsFlaw ∨ fault = .depth) (scalarWithin anchors top steps n) := by
  induction steps generalizing n with
  | zero => exact failsOnly_error (.inr rfl)
  | succ steps ih =>
    cases n with
    | scalar k s => exact failsOnly_ok _
    | list k ns => exact failsOnly_error (.inl (isFlaw_flawed _))
    | map k es =>
      rw [scalarWithin]
      split
      · exact ih _
      · exact failsOnly_error (.inl (isFlaw_flawed _))
    | within a =>
      rw [scalarWithin]
      split
      · exact failsOnly_error (.inl (isFlaw_flawed _))
      · exact ih _

theorem Node.scalarOf_eq_error (h : x.scalarOf anchors = .error fault) :
    fault.IsFlaw ∨ x.Unfit anchors fault := by
  rcases failsOnly_scalarWithin _ _ _ _ h with hflaw | rfl
  · exact .inl hflaw
  · exact .inr (.circle h)

/-- What is wrong with a node that has the kind of a scalar: a flaw, or it holds nothing of its
kind. -/
theorem Node.simpleValue_eq_error (h : simpleValue anchors x = .error fault) :
    fault.IsFlaw ∨ x.Unfit anchors fault := by
  unfold simpleValue at h
  -- Kinds without values, a mapping for a date, and the kinds that ask something of a scalar.
  split at h
  · exact .inl ⟨_, (Except.error.inj h).symm⟩
  · exact .inl ⟨_, (Except.error.inj h).symm⟩
  · exact .inl ⟨_, (Except.error.inj h).symm⟩
  · next hkind =>
    rcases bind_eq_error.1 h with hscalar | ⟨_, _, h⟩
    · exact scalarOf_eq_error hscalar
    · obtain rfl := Except.error.inj h
      obtain rfl : _ = Kind.timestamp := hkind
      exact .inr .map
  · rcases bind_eq_error.1 h with hscalar | ⟨s, hs, h⟩
    · exact scalarOf_eq_error hscalar
    · rcases scalarValue_eq_error h with hflaw | hunfit
      · exact .inl hflaw
      · exact .inr (.scalar hs hunfit)

/-! ## Mappings -/

/-- All nodes in both parts of the entries have a property. -/
def Node.AllParts (Q : Node → Prop) (es : List (Node × Node)) : Prop :=
  ∀ e ∈ es, (∀ x, e.1.Contains x → Q x) ∧ ∀ x, e.2.Contains x → Q x

section Merged

variable {Q : Node → Prop}

theorem Node.allParts_of_map {es : List (Node × Node)}
    (h : ∀ x, (Node.map k es).Contains x → Q x) : AllParts Q es :=
  fun _ he => ⟨fun x hx => h x (.key he hx), fun x hx => h x (.value he hx)⟩

theorem Node.allParts_append {es fs : List (Node × Node)} (hes : AllParts Q es)
    (hfs : AllParts Q fs) : AllParts Q (es ++ fs) := by
  intro e he
  rcases List.mem_append.1 he with he | he
  · exact hes e he
  · exact hfs e he

/-- The key of the main value is text when it is no key of its own kind any more. -/
def Node.asKey : Node → Node
  | .scalar .value s => .scalar .text s
  | n => n

theorem Node.mergedEntries_cons (k v : Node) (es : List (Node × Node)) :
    mergedEntries ((k, v) :: es) =
      if k.kind = .merge then do
        let first ← mergedFrom v
        let (merged, own) ← mergedEntries es
        return (first ++ merged, own)
      else do
        let (merged, own) ← mergedEntries es
        return (merged, (k.asKey, v) :: own) := by
  by_cases hvalue : ∃ s, k = .scalar .value s
  · obtain ⟨s, rfl⟩ := hvalue
    rw [mergedEntries]
    rfl
  · have hkey : k.asKey = k := by
      unfold asKey
      split
      · exact absurd ⟨_, rfl⟩ hvalue
      · rfl
    rw [mergedEntries, hkey]
    exact fun s hs => hvalue ⟨s, hs⟩

theorem Node.forall_contains_asKey (htext : ∀ s, Q (.scalar .text s))
    (h : ∀ x, n.Contains x → Q x) : ∀ x, n.asKey.Contains x → Q x := by
  unfold asKey
  split
  · intro x hx
    cases hx
    exact htext _
  · exact h

/-- Merging mappings brings no other nodes in, but for keys that are text. -/
theorem Node.forall_contains_merged (htext : ∀ s, Q (.scalar .text s)) :
    (∀ n es, mergedFrom n = .ok es → (∀ x, n.Contains x → Q x) → AllParts Q es) ∧
    (∀ ns ess, mergedFromAll ns = .ok ess → (∀ n ∈ ns, ∀ x, n.Contains x → Q x) →
      ∀ es ∈ ess, AllParts Q es) ∧
    ∀ es merged own, mergedEntries es = .ok (merged, own) → AllParts Q es →
      AllParts Q merged ∧ AllParts Q own := by
  apply mergedFrom.mutual_induct
  -- What mappings, lists and other nodes are merged from.
  case case1 =>
    intro k es ih fs h hn
    rw [mergedFrom] at h
    obtain ⟨⟨merged, own⟩, hes, hfs⟩ := bind_eq_ok.1 h
    obtain rfl := pure_eq_ok.1 hfs
    obtain ⟨hmerged, hown⟩ := ih merged own hes (allParts_of_map hn)
    exact allParts_append hmerged hown
  case case2 =>
    intro k ns ih fs h hn
    rw [mergedFrom] at h
    obtain ⟨ess, hess, hfs⟩ := bind_eq_ok.1 h
    obtain rfl := pure_eq_ok.1 hfs
    have hall := ih ess hess fun n hmem x hx => hn x (.item hmem hx)
    intro e he
    obtain ⟨es, hes, he⟩ := List.mem_flatten.1 he
    exact hall es (List.mem_reverse.1 hes) e he
  case case3 =>
    intro n hmap hlist fs h
    rw [mergedFrom] at h
    · cases h
    · exact hmap
    · exact hlist
  -- The mappings of a list, none of which may be anything else.
  case case4 =>
    intro ess h
    cases h
    simp
  case case5 =>
    intro k es ns ih ih' ess h hns
    obtain ⟨hn, hns⟩ := List.forall_mem_cons.1 hns
    rw [mergedFromAll] at h
    obtain ⟨⟨merged, own⟩, hes, h⟩ := bind_eq_ok.1 h
    obtain ⟨ess', hess, h⟩ := bind_eq_ok.1 h
    obtain rfl := pure_eq_ok.1 h
    obtain ⟨hmerged, hown⟩ := ih merged own hes (allParts_of_map hn)
    exact List.forall_mem_cons.2 ⟨allParts_append hmerged hown, ih' ess' hess hns⟩
  case case6 =>
    intro n ns hmap ess h
    rw [mergedFromAll] at h
    · cases h
    · exact hmap
  -- Entries: a key that merges brings in the entries of its value, any other stays.
  case case7 =>
    intro merged own h _
    cases h
    exact ⟨nofun, nofun⟩
  case case8 =>
    intro k v es hk ih ih' merged own h hes
    obtain ⟨he, hes⟩ := List.forall_mem_cons.1 hes
    rw [mergedEntries_cons, if_pos hk] at h
    obtain ⟨first, hfirst, h⟩ := bind_eq_ok.1 h
    obtain ⟨⟨merged', own'⟩, hrest, h⟩ := bind_eq_ok.1 h
    obtain ⟨rfl, rfl⟩ := Prod.mk.inj (pure_eq_ok.1 h)
    obtain ⟨hmerged, hown⟩ := ih' merged' own' hrest hes
    exact ⟨allParts_append (ih first hfirst he.2) hmerged, hown⟩
  case case9 =>
    intro k v es hk ih merged own h hes
    obtain ⟨he, hes⟩ := List.forall_mem_cons.1 hes
    rw [mergedEntries_cons, if_neg hk] at h
    obtain ⟨⟨merged', own'⟩, hrest, h⟩ := bind_eq_ok.1 h
    obtain ⟨rfl, rfl⟩ := Prod.mk.inj (pure_eq_ok.1 h)
    obtain ⟨hmerged, hown⟩ := ih merged' own' hrest hes
    exact ⟨hmerged, List.forall_mem_cons.2 ⟨⟨forall_contains_asKey htext he.1, he.2⟩, hown⟩⟩

/-- Merging fails for flaws only. -/
theorem Node.isFlaw_merged :
    (∀ n, FailsOnly Fault.IsFlaw (mergedFrom n)) ∧
    (∀ ns, FailsOnly Fault.IsFlaw (mergedFromAll ns)) ∧
    ∀ es, FailsOnly Fault.IsFlaw (mergedEntries es) := by
  -- The cases are those above; only where a node is no mapping does merging fail.
  apply mergedFrom.mutual_induct
  case case1 =>
    intro k es ih
    rw [mergedFrom]
    exact ih.bind fun _ => failsOnly_ok _
  case case2 =>
    intro k ns ih
    rw [mergedFrom]
    exact ih.bind fun _ => failsOnly_ok _
  case case3 =>
    intro n hmap hlist
    rw [mergedFrom]
    · exact failsOnly_error (isFlaw_flawed _)
    · exact hmap
    · exact hlist
  case case4 => exact failsOnly_ok _
  case case5 =>
    intro k es ns ih ih'
    rw [mergedFromAll]
    exact ih.bind fun _ => ih'.bind fun _ => failsOnly_ok _
  case case6 =>
    intro n ns hmap
    rw [mergedFromAll]
    · exact failsOnly_error (isFlaw_flawed _)
    · exact hmap
  case case7 => exact failsOnly_ok _
  case case8 =>
    intro k v es hk ih ih'
    rw [mergedEntries_cons, if_pos hk]
    exact ih.bind fun _ => ih'.bind fun _ => failsOnly_ok _
  case case9 =>
    intro k v es hk ih
    rw [mergedEntries_cons, if_neg hk]
    exact ih.bind fun _ => failsOnly_ok _

end Merged

/-! ## Values -/

section Made

variable {α β : Type} {P : LeveledFault → Prop} {G : Fault → Prop}

theorem FailsOnly.both {a : Made α} {b : Made β} (ha : FailsOnly P a) (hb : FailsOnly P b) :
    FailsOnly P (Made.both a b) := by
  unfold Made.both
  split
  · exact failsOnly_ok _
  · exact failsOnly_error (ha _ rfl)
  · exact failsOnly_error (hb _ rfl)
  · refine failsOnly_error ?_
    split
    · exact hb _ rfl
    · exact ha _ rfl

theorem failsOnly_madeAll {as : List (Made α)} (h : ∀ a ∈ as, FailsOnly P a) :
    FailsOnly P (Node.madeAll as) := by
  induction as with
  | nil => exact failsOnly_ok _
  | cons a as ih =>
    obtain ⟨ha, has⟩ := List.forall_mem_cons.1 h
    exact (FailsOnly.both ha (ih has)).map _

theorem Node.failsOnly_simpleMade (h : FailsOnly G (simpleValue anchors n)) (level : Nat) :
    FailsOnly (fun e => G e.fault) (simpleMade anchors level n) := by
  intro e he
  obtain ⟨fault, hfault, rfl⟩ := mapError_eq_error.1 he
  exact h fault hfault

theorem Node.failsOnly_keyMade (hflaw : ∀ f, G (.flawed f))
    (h : FailsOnly G (simpleValue anchors n)) (level : Nat) :
    FailsOnly (fun e => G e.fault) (keyMade anchors level n) := by
  unfold keyMade
  split
  · exact failsOnly_error (hflaw _)
  · exact failsOnly_simpleMade h level

/-- What is wrong with a value is a flaw or found in one of its scalars. -/
theorem Node.failsOnly_made (hflaw : ∀ f, G (.flawed f)) (depth level : Nat) {n : Node}
    (h : ∀ x, n.Contains x → FailsOnly G (simpleValue anchors x)) :
    FailsOnly (fun e => G e.fault) (made anchors depth level n) := by
  induction depth generalizing level n with
  | zero => exact failsOnly_error (hflaw _)
  | succ depth ih =>
    -- A node without the form of its kind is flawed, at whatever level.
    have hkind : ∀ {β : Type} (l : Nat), FailsOnly (fun e => G e.fault) (α := β)
        (faultAt l (.flawed .kind)) := fun l => failsOnly_error (hflaw _)
    unfold made
    extract_lets inner entries
    -- The entries of a mapping, those that are merged into it included.
    have hentries : FailsOnly (fun e => G e.fault) entries := by
      dsimp only [entries]
      split
      · next k es =>
        split
        · next e he =>
          obtain ⟨f, rfl⟩ := isFlaw_merged.2.2 es e he
          exact failsOnly_error (hflaw f)
        · next merged own he =>
          have htext (s : Scalar) : FailsOnly G (simpleValue anchors (.scalar .text s)) :=
            failsOnly_ok _
          obtain ⟨hmerged, hown⟩ := (forall_contains_merged htext).2.2 es merged own he
            (allParts_of_map h)
          refine (failsOnly_madeAll (List.forall_mem_map.2 fun e he => ?_)).map _
          obtain ⟨hkey, hvalue⟩ := allParts_append hmerged hown e he
          have hkey := failsOnly_keyMade hflaw (hkey _ (.self _)) inner
          exact FailsOnly.both hkey (ih inner hvalue)
      · exact hkind inner
    -- Then the kinds: lists, pairs, what is neither, mappings, sets, and scalars.
    clear_value entries
    split
    · refine (failsOnly_madeAll (List.forall_mem_map.2 fun y hy => ?_)).map _
      exact ih _ fun x hx => h x (.item hy hx)
    · refine (failsOnly_madeAll (List.forall_mem_map.2 fun y hy => ?_)).map _
      split
      · refine (FailsOnly.both (ih _ fun x hx => ?_) (ih _ fun x hx => ?_)).map _
        · exact h x (.item hy (.key List.mem_cons_self hx))
        · exact h x (.item hy (.value List.mem_cons_self hx))
      · exact hkind _
    · exact hkind _
    · exact hkind _
    · exact hentries.map _
    · exact hentries.map _
    · exact failsOnly_simpleMade (h _ (.self _)) level

end Made

/-- What is wrong with the value of a node: a flaw, or a node in it holds nothing of its kind. -/
theorem Node.value_eq_error (h : n.value anchors = .error fault) :
    fault.IsFlaw ∨ ∃ x, n.Contains x ∧ x.Unfit anchors fault := by
  obtain ⟨e, he, rfl⟩ := mapError_eq_error.1 h
  refine failsOnly_made (G := fun fault => fault.IsFlaw ∨ ∃ x, n.Contains x ∧ x.Unfit anchors fault)
    (fun f => .inl (isFlaw_flawed f)) _ _ (fun x hx fault hfault => ?_) e he
  rcases simpleValue_eq_error hfault with hflaw | hunfit
  · exact .inl hflaw
  · exact .inr ⟨x, hx, hunfit⟩

/-! ## What holds nothing of its kind is no flaw -/

theorem failsOnly_integerTo (base : Nat) (cs : List Char) :
    FailsOnly (¬ Fault.IsFlaw ·) (integerTo base cs) := by
  unfold integerTo
  dsimp only
  split
  · exact failsOnly_error nofun
  · exact failsOnly_error nofun
  · split
    · exact failsOnly_error nofun
    · exact failsOnly_ok _

theorem failsOnly_integer (s : String) : FailsOnly (¬ Fault.IsFlaw ·) (integer s) := by
  unfold integer
  split
  · exact failsOnly_error nofun
  · -- The sign taken off, the bases are told apart by what the digits begin with.
    dsimp only
    split
    · exact failsOnly_error nofun
    · exact (failsOnly_integerTo _ _).map _
    · exact (failsOnly_integerTo _ _).map _
    · exact failsOnly_ok _
    · exact (failsOnly_integerTo _ _).map _
    · split
      · exact ((failsOnly_mapM (failsOnly_integerTo 10) _).bind fun _ => failsOnly_ok _).map _
      · exact (failsOnly_integerTo _ _).map _

theorem failsOnly_decimal (cs : List Char) : FailsOnly (¬ Fault.IsFlaw ·) (decimal cs) := by
  unfold decimal
  dsimp only
  split
  · exact failsOnly_ok _
  · exact failsOnly_error nofun

theorem failsOnly_sixtieths (digits : List Float) :
    FailsOnly (¬ Fault.IsFlaw ·) (sixtieths digits) := by
  unfold sixtieths
  split
  · exact failsOnly_error nofun
  · exact failsOnly_ok _

theorem failsOnly_float (s : String) : FailsOnly (¬ Fault.IsFlaw ·) (Yaml.float s) := by
  unfold Yaml.float
  split
  · exact failsOnly_error nofun
  · dsimp only
    split
    · exact (failsOnly_ok _).map _
    · split
      · exact failsOnly_ok _
      · split
        · exact ((failsOnly_mapM failsOnly_decimal _).bind failsOnly_sixtieths).map _
        · exact (failsOnly_decimal _).map _

theorem Scalar.Unfit.not_isFlaw (h : s.Unfit k fault) : ¬ fault.IsFlaw := by
  cases h with
  | bool _ => nofun
  | int h => exact failsOnly_integer s.text _ h
  | float h => exact failsOnly_float s.text _ h
  | noDate _ => nofun
  | date _ _ => nofun

theorem Node.Unfit.not_isFlaw (h : x.Unfit anchors fault) : ¬ fault.IsFlaw := by
  cases h with
  | scalar _ hunfit => exact hunfit.not_isFlaw
  | map => nofun
  | circle _ => nofun

end ProxyTrial.Yaml
