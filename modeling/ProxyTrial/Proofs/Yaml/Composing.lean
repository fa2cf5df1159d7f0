import ProxyTrial.Proofs.Yaml.Scanning
/-!
# Faults of documents

What is wrong with a document is a flaw of it, or it is what ends its tokens.

## Main definitions

* `Compose.Passes m`: a part of a document has no faults of its own but flaws

## Main results

* `Compose.passesAll`: nodes and what they are made of
* `Document.ofTokens_eq_error`: documents
-/

namespace ProxyTrial.Yaml

namespace Compose

/-- A part of a document that begins at `s` fails for flaws, and for what ends the tokens; what ends
them stays as it is. -/
def PassesAt {α : Type} (s : Composing) (m : Compose α) : Prop :=
  (∀ a s', m.run s = .ok (a, s') → s'.fault = s.fault) ∧
    FailsOnly (fun fault => fault.IsFlaw ∨ s.fault = some fault) (m.run s)

/-- A part of a document has no faults of its own but flaws, wherever it begins. -/
def Passes {α : Type} (m : Compose α) : Prop := ∀ s, PassesAt s m

section Passes

variable {α β : Type} {s : Composing}

theorem passesAt_ok {m : Compose α} {a : α} {s' : Composing} (h : m.run s = .ok (a, s'))
    (hs' : s'.fault = s.fault) : PassesAt s m := by
  rw [PassesAt, h]
  refine ⟨fun _ _ h => ?_, failsOnly_ok _⟩
  cases h
  exact hs'

theorem PassesAt.bind {m : Compose α} {f : α → Compose β} (hm : PassesAt s m)
    (hf : ∀ a, Passes (f a)) : PassesAt s (m >>= f) := by
  constructor
  · intro b s' h
    obtain ⟨⟨a, t⟩, ha, hb⟩ := bind_eq_ok.1 h
    exact ((hf a t).1 b s' hb).trans (hm.1 a t ha)
  · intro fault h
    rcases bind_eq_error.1 h with h | ⟨⟨a, t⟩, ha, hb⟩
    · exact hm.2 fault h
    · exact hm.1 a t ha ▸ (hf a t).2 fault hb

theorem passes_pure (a : α) : Passes (pure a) := fun _ => passesAt_ok rfl rfl

theorem Passes.bind {m : Compose α} {f : α → Compose β} (hm : Passes m) (hf : ∀ a, Passes (f a)) :
    Passes (m >>= f) :=
  fun s => (hm s).bind hf

theorem passes_refuse (f : Flaw) : Passes (refuse f : Compose α) :=
  fun _ => ⟨nofun, failsOnly_error (.inl (isFlaw_flawed f))⟩

/-- A part that looks at the place where it begins. -/
theorem passes_get_bind {f : Composing → Compose α} (h : ∀ s, PassesAt s (f s)) :
    Passes (get >>= f) :=
  fun s => h s

theorem passesAt_set {t : Composing} (h : t.fault = s.fault) : PassesAt s (set t) :=
  passesAt_ok rfl h

theorem passes_modify {f : Composing → Composing} (hf : ∀ s, (f s).fault = s.fault) :
    Passes (modify f) :=
  fun s => passesAt_ok rfl (hf s)

theorem passes_ite {p : Prop} [Decidable p] {m m' : Compose α} (h : Passes m) (h' : Passes m') :
    Passes (if p then m else m') := by
  split
  · exact h
  · exact h'

theorem passes_peek : Passes peek := by
  refine passes_get_bind fun s => ?_
  split
  · next hfault => exact ⟨nofun, failsOnly_error (.inr hfault)⟩
  · exact passes_pure _ s

theorem passes_skip : Passes skip := passes_modify fun _ => rfl

theorem passes_comma : Passes comma := by
  refine passes_peek.bind fun t => ?_
  split
  · exact passes_skip
  · exact passes_refuse _

theorem passes_unlessAt (p : Token → Bool) {form : Compose Node} (h : Passes form) :
    Passes (unlessAt p form) :=
  (passes_peek.bind fun _ => passes_pure _).bind fun _ => passes_ite (passes_pure _) h

theorem passes_valuePart (ends : Token → Bool) {form : Compose Node} (h : Passes form) :
    Passes (valuePart ends form) := by
  refine passes_peek.bind fun t => ?_
  split
  · exact passes_skip.bind fun _ => passes_unlessAt ends h
  · exact passes_pure _

theorem passes_properties : Passes properties := by
  refine passes_peek.bind fun t => ?_
  split
  · refine passes_skip.bind fun _ => passes_peek.bind fun t => ?_
    split
    · exact passes_skip.bind fun _ => passes_pure _
    · exact passes_pure _
  · refine passes_skip.bind fun _ => passes_peek.bind fun t => ?_
    split
    · exact passes_skip.bind fun _ => passes_pure _
    · exact passes_pure _
  · exact passes_pure _

theorem passes_fullTag (t : TagName) : Passes (fullTag t) := by
  unfold fullTag
  split
  · exact passes_pure _
  · refine passes_get_bind fun s => ?_
    split
    · exact passes_pure _ s
    · exact passes_refuse _ s

theorem passes_tag (t : Option TagName) : Passes (t.mapM fullTag) := by
  cases t with
  | none => exact passes_pure _
  | some t => exact (passes_fullTag t).bind fun _ => passes_pure _

theorem passes_anchored (anchor : Option String) {form : Compose Node} (h : Passes form) :
    Passes (anchored anchor form) := by
  unfold anchored
  split
  · exact h
  · refine passes_get_bind fun s => ?_
    split
    · exact passes_refuse _ s
    · refine (passesAt_set rfl).bind fun _ => h.bind fun n => ?_
      refine Passes.bind (passes_modify ?_) fun _ => passes_pure n
      exact fun _ => rfl

theorem passes_named (a : String) : Passes (named a) := by
  refine passes_get_bind fun s => ?_
  split
  · exact passes_pure _ s
  · exact passes_ite (passes_pure _) (passes_refuse _) s

theorem passes_bare (anchor tag : Option String) : Passes (bare anchor tag) :=
  passes_ite (passes_refuse _) (passes_pure _)

/-- All parts of a document, with some fuel. -/
structure PassesAll (fuel : Nat) : Prop where
  node : ∀ inMap inFlow, Passes (Compose.node inMap inFlow fuel)
  items : Passes (items fuel)
  dashes : Passes (dashes fuel)
  entries : Passes (entries fuel)
  flowItems : ∀ first, Passes (flowItems first fuel)
  flowEntries : ∀ first, Passes (flowEntries first fuel)

theorem passesAll_zero : PassesAll 0 where
  node _ _ := passes_refuse _
  items := passes_refuse _
  dashes := passes_refuse _
  entries := passes_refuse _
  flowItems _ := passes_refuse _
  flowEntries _ := passes_refuse _

variable {fuel : Nat}

theorem PassesAll.node_succ (h : PassesAll fuel) (inMap inFlow : Bool) :
    Passes (Compose.node inMap inFlow (fuel + 1)) := by
  rw [Compose.node]
  refine passes_peek.bind fun t => ?_
  split
  · exact passes_skip.bind fun _ => passes_named _
  · refine passes_properties.bind fun ⟨anchor, t⟩ => (passes_tag t).bind fun tag => ?_
    refine passes_anchored anchor (passes_peek.bind fun t => ?_)
    have hbare := passes_bare anchor tag
    split
    · exact passes_skip.bind fun _ => passes_pure _
    · exact passes_skip.bind fun _ => (h.flowItems true).bind fun _ => passes_pure _
    · exact passes_skip.bind fun _ => (h.flowEntries true).bind fun _ => passes_pure _
    · exact passes_ite (h.dashes.bind fun _ => passes_pure _) hbare
    · exact passes_ite hbare (passes_skip.bind fun _ => h.items.bind fun _ => passes_pure _)
    · exact passes_ite hbare (passes_skip.bind fun _ => h.entries.bind fun _ => passes_pure _)
    · exact hbare

theorem PassesAll.items_succ (h : PassesAll fuel) : Passes (Compose.items (fuel + 1)) := by
  rw [Compose.items]
  refine passes_peek.bind fun t => ?_
  split
  · refine passes_skip.bind fun _ => (passes_unlessAt _ (h.node _ _)).bind fun _ => ?_
    exact h.items.bind fun _ => passes_pure _
  · exact passes_skip.bind fun _ => passes_pure _
  · exact passes_refuse _

theorem PassesAll.dashes_succ (h : PassesAll fuel) : Passes (Compose.dashes (fuel + 1)) := by
  rw [Compose.dashes]
  refine passes_peek.bind fun t => ?_
  split
  · refine passes_skip.bind fun _ => (passes_unlessAt _ (h.node _ _)).bind fun _ => ?_
    exact h.dashes.bind fun _ => passes_pure _
  · exact passes_pure _

theorem PassesAll.entries_succ (h : PassesAll fuel) : Passes (Compose.entries (fuel + 1)) := by
  rw [Compose.entries]
  refine passes_peek.bind fun t => ?_
  split
  · refine passes_skip.bind fun _ => (passes_unlessAt _ (h.node _ _)).bind fun _ => ?_
    refine (passes_valuePart _ (h.node _ _)).bind fun _ => ?_
    exact h.entries.bind fun _ => passes_pure _
  · exact passes_skip.bind fun _ => passes_pure _
  · exact passes_refuse _

theorem PassesAll.flowItems_succ (h : PassesAll fuel) (first : Bool) :
    Passes (Compose.flowItems first (fuel + 1)) := by
  rw [Compose.flowItems]
  refine passes_peek.bind fun t => ?_
  split
  · exact passes_skip.bind fun _ => passes_pure _
  · extract_lets item
    have hitem : Passes (item ()) := by
      refine passes_peek.bind fun t => ?_
      split
      · exact passes_skip.bind fun _ => passes_pure _
      · refine passes_skip.bind fun _ => (passes_unlessAt _ (h.node _ _)).bind fun _ => ?_
        refine (passes_valuePart _ (h.node _ _)).bind fun _ => ?_
        exact (h.flowItems false).bind fun _ => passes_pure _
      · exact (h.node _ _).bind fun _ => (h.flowItems false).bind fun _ => passes_pure _
    exact passes_ite hitem (passes_comma.bind fun _ => hitem)

theorem PassesAll.flowEntries_succ (h : PassesAll fuel) (first : Bool) :
    Passes (Compose.flowEntries first (fuel + 1)) := by
  rw [Compose.flowEntries]
  refine passes_peek.bind fun t => ?_
  split
  · exact passes_skip.bind fun _ => passes_pure _
  · extract_lets entry
    have hentry : Passes (entry ()) := by
      refine passes_peek.bind fun t => ?_
      split
      · exact passes_skip.bind fun _ => passes_pure _
      · refine passes_skip.bind fun _ => (passes_unlessAt _ (h.node _ _)).bind fun _ => ?_
        refine (passes_valuePart _ (h.node _ _)).bind fun _ => ?_
        exact (h.flowEntries false).bind fun _ => passes_pure _
      · exact (h.node _ _).bind fun _ => (h.flowEntries false).bind fun _ => passes_pure _
    exact passes_ite hentry (passes_comma.bind fun _ => hentry)

theorem passesAll (fuel : Nat) : PassesAll fuel := by
  induction fuel with
  | zero => exact passesAll_zero
  | succ fuel ih =>
    exact ⟨ih.node_succ, ih.items_succ, ih.dashes_succ, ih.entries_succ, ih.flowItems_succ,
      ih.flowEntries_succ⟩

theorem passes_directives (found : List (String × String)) (version : Bool) (fuel : Nat) :
    Passes (directives found version fuel) := by
  induction fuel generalizing found version with
  | zero => exact passes_refuse _
  | succ fuel ih =>
    rw [directives]
    refine passes_peek.bind fun t => ?_
    split
    · exact passes_skip.bind fun _ => passes_ite (passes_refuse _) (ih _ _)
    · exact passes_skip.bind fun _ => passes_ite (passes_refuse _) (ih _ _)
    · exact passes_skip.bind fun _ => ih _ _
    · exact passes_modify fun _ => rfl

theorem passes_ending (fuel : Nat) : Passes (ending fuel) := by
  induction fuel with
  | zero => exact passes_refuse _
  | succ fuel ih =>
    rw [ending]
    refine passes_peek.bind fun t => ?_
    split
    · exact passes_pure _
    · exact passes_skip.bind fun _ => ih
    · exact passes_refuse _

/-- The document after its directives, which a mark ends. -/
theorem passes_marked (fuel : Nat) : Passes (do
    directives [] false fuel
    match ← peek with
    | some .documentStart => skip
    | _ => refuse .noDocument
    let n ← match ← peek with
      | none => pure .nothing
      | some t => if t.endsDocument then pure .nothing else node false false fuel
    ending fuel
    return some n) := by
  refine (passes_directives _ _ _).bind fun _ => passes_peek.bind fun t => ?_
  extract_lets finish go
  have hfinish (n : Node) : Passes (finish n) := (passes_ending _).bind fun _ => passes_pure _
  have hgo : Passes (go ()) := by
    refine passes_peek.bind fun t => ?_
    split
    · exact hfinish _
    · exact passes_ite (hfinish _) (((passesAll _).node _ _).bind hfinish)
  split
  · exact passes_skip.bind fun _ => hgo
  · exact (passes_refuse _).bind fun _ => hgo

theorem passes_document (fuel : Nat) : Passes (document fuel) := by
  refine passes_peek.bind fun t => ?_
  split
  · exact passes_pure _
  · exact passes_marked fuel
  · exact passes_marked fuel
  · refine Passes.bind (passes_modify ?_) fun _ => ((passesAll fuel).node _ _).bind fun _ => ?_
    · exact fun _ => rfl
    · exact (passes_ending _).bind fun _ => passes_pure _

end Passes

end Compose

/-- What is wrong with a document: a flaw, or what ends its tokens. -/
theorem Document.ofTokens_eq_error {ts : Tokens} {fault : Fault}
    (h : Document.ofTokens ts = .error fault) : fault.IsFlaw ∨ ts.fault = some fault := by
  rcases bind_eq_error.1 h with h | ⟨_, -, h⟩
  · exact (Compose.passes_document _ _).2 fault h
  · cases h

end ProxyTrial.Yaml
