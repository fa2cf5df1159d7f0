import Mathlib.Data.List.Induction
import ProxyTrial.Origin.Server
/-!
# Which handler is responsible

An origin keeps its handlers in the order in which their paths were first added, and looks through
them for the longest path that begins the one that is asked for. The order shows nowhere: a handler
that has been replaced is gone, and of two paths that begin the same path one is longer. What is
responsible for a path thus depends only on the handler that was added last for each path.

## Main definitions

* `LastAdded hs h`: among handlers added in this order, `h` has not been replaced
* `Begins h path`: the path of `h` ends in a slash and begins `path`
* `Responsible P path r`: among the handlers with `P`, that is what is responsible for `path`

## Main results

* `Table.mem_insert`, `mem_foldl_insert`: what a table holds
* `Table.responsible_route?`: a table whose paths are distinct finds what is responsible
* `Responsible.unique`: nothing else is
* `OriginServer.route?_eq_iff_responsible`: an origin finds what is responsible among the handlers
  that have been added last
-/

namespace ProxyTrial.Origin

variable {hs : List Handler} {g h : Handler} {path : String} {P : Handler → Prop}

/-! ## What is responsible -/

/-- Among handlers that are added one after the other, one that has not been replaced: none that
comes after it has its path. -/
def LastAdded (hs : List Handler) (h : Handler) : Prop :=
  ∃ before after, hs = before ++ h :: after ∧ ∀ g ∈ after, g.path ≠ h.path

/-- The path of a handler ends in a slash and begins a path. -/
structure Begins (h : Handler) (path : String) : Prop where
  slash : ['/'] <:+ h.path.toList
  start : h.path.toList <+: path.toList

/-- What is responsible for a path among the handlers with a property. -/
inductive Responsible (P : Handler → Prop) (path : String) : Option Handler → Prop where
  /-- The handler with that very path. -/
  | same {h : Handler} : P h → h.path = path → Responsible P path (some h)
  /-- Without one, the handler with the longest path that ends in a slash and begins it. -/
  | longest {h : Handler} : (∀ g, P g → g.path ≠ path) → P h → Begins h path →
      (∀ g, P g → Begins g path → g.path.length ≤ h.path.length) → Responsible P path (some h)
  /-- Without any of these, nothing. -/
  | nothing : (∀ g, P g → g.path ≠ path) → (∀ g, P g → ¬ Begins g path) →
      Responsible P path none

/-- Of the paths that begin a path, no two are of the same length. -/
theorem Begins.path_eq (hg : Begins g path) (hh : Begins h path)
    (hlength : g.path.length = h.path.length) : g.path = h.path := by
  have hbegins : g.path.toList <+: h.path.toList :=
    List.prefix_of_prefix_length_le hg.start hh.start (Nat.le_of_eq hlength)
  exact String.toList_inj.1 (hbegins.eq_of_length hlength)

/-- If there is one handler at most for each path, one thing at most is responsible. -/
theorem Responsible.unique (hP : ∀ g h, P g → P h → g.path = h.path → g = h)
    {r r' : Option Handler} (hr : Responsible P path r) (hr' : Responsible P path r') :
    r = r' := by
  cases hr with
  | @same g hg hpath =>
    cases hr' with
    | @same h hh hpath' => exact congrArg some (hP g h hg hh (hpath.trans hpath'.symm))
    | longest hnone => exact absurd hpath (hnone g hg)
    | nothing hnone => exact absurd hpath (hnone g hg)
  | @longest g hnone hg hbegins hlongest =>
    cases hr' with
    | @same h hh hpath => exact absurd hpath (hnone h hh)
    | @longest h _ hh hbegins' hlongest' =>
      -- Each is at least as long as the other.
      have hlength : g.path.length = h.path.length :=
        Nat.le_antisymm (hlongest' g hg hbegins) (hlongest h hh hbegins')
      exact congrArg some (hP g h hg hh (hbegins.path_eq hbegins' hlength))
    | nothing _ hnothing => exact absurd hbegins (hnothing g hg)
  | nothing hnone hnothing =>
    cases hr' with
    | @same h hh hpath => exact absurd hpath (hnone h hh)
    | @longest h _ hh hbegins => exact absurd hbegins (hnothing h hh)
    | nothing => rfl

/-! ## What a table finds -/

namespace Table

variable {t : Table}

theorem covers_iff : covers h path = true ↔ Begins h path := by
  rw [covers, Bool.and_eq_true, beq_iff_eq, List.isPrefixOf_iff_prefix,
    List.getLast?_eq_some_iff]
  constructor
  · rintro ⟨⟨stem, hstem⟩, hstart⟩
    exact ⟨⟨stem, hstem.symm⟩, hstart⟩
  · rintro ⟨⟨stem, hstem⟩, hstart⟩
    exact ⟨⟨stem, hstem.symm⟩, hstart⟩

/-- The longest of handlers is one of them, and none is longer. -/
theorem foldl_longer_eq_some {best : Option Handler} (hf : hs.foldl longer best = some h) :
    (best = some h ∨ h ∈ hs) ∧
      ∀ g, best = some g ∨ g ∈ hs → g.path.length ≤ h.path.length := by
  induction hs generalizing best with
  | nil =>
    refine ⟨.inl hf, fun g hg => ?_⟩
    rcases hg with hbest | hmem
    · cases hf.symm.trans hbest
      exact Nat.le_refl _
    · cases hmem
  | cons f hs ih =>
    obtain ⟨hfound, hlongest⟩ := ih hf
    -- Of the best so far and the next handler one goes on, and the other is no longer.
    obtain ⟨b, hb, hsome, hle⟩ : ∃ b, longer best f = some b ∧ (best = some b ∨ b = f) ∧
        ∀ g, best = some g ∨ g = f → g.path.length ≤ b.path.length := by
      cases best with
      | none => exact ⟨f, rfl, .inr rfl, by simp⟩
      | some c =>
        by_cases hlt : c.path.length < f.path.length
        · refine ⟨f, if_pos hlt, .inr rfl, ?_⟩
          rintro g (hg | rfl)
          · exact Option.some.inj hg ▸ Nat.le_of_lt hlt
          · exact Nat.le_refl _
        · refine ⟨c, if_neg hlt, .inl rfl, ?_⟩
          rintro g (hg | rfl)
          · exact Option.some.inj hg ▸ Nat.le_refl _
          · exact Nat.le_of_not_lt hlt
    have hbest : b.path.length ≤ h.path.length := hlongest b (.inl hb)
    constructor
    · rcases hfound with heq | hmem
      · obtain rfl := Option.some.inj (hb.symm.trans heq)
        rcases hsome with hbest | rfl
        · exact .inl hbest
        · exact .inr List.mem_cons_self
      · exact .inr (List.mem_cons_of_mem f hmem)
    · rintro g (hg | hg)
      · exact Nat.le_trans (hle g (.inl hg)) hbest
      · rcases List.mem_cons.1 hg with rfl | hg
        · exact Nat.le_trans (hle g (.inr rfl)) hbest
        · exact hlongest g (.inr hg)

theorem foldl_longer_eq_none {best : Option Handler} (hf : hs.foldl longer best = none) :
    best = none ∧ hs = [] := by
  induction hs generalizing best with
  | nil => exact ⟨hf, rfl⟩
  | cons f hs ih =>
    have hlonger : longer best f = none := (ih hf).1
    cases best with
    | none => cases hlonger
    | some c =>
      rw [longer] at hlonger
      split at hlonger <;> cases hlonger

/-- What a table finds is responsible among its handlers. -/
theorem responsible_route? (t : Table) (path : String) :
    Responsible (· ∈ t) path (t.route? path) := by
  unfold route?
  split
  · next h hfind =>
    exact .same (List.mem_of_find?_eq_some hfind) (by simpa using List.find?_some hfind)
  · next hfind =>
    have hnone : ∀ g ∈ t, g.path ≠ path := by simpa using List.find?_eq_none.1 hfind
    have hmem : ∀ {g}, g ∈ (t.filter fun h => covers h path) ↔ g ∈ t ∧ Begins g path := by
      intro g
      rw [List.mem_filter, covers_iff]
    cases hf : (t.filter fun h => covers h path).foldl longer none with
    | none =>
      refine .nothing hnone fun g hg hbegins => ?_
      have hempty := (foldl_longer_eq_none hf).2
      exact List.not_mem_nil (hempty ▸ hmem.2 ⟨hg, hbegins⟩)
    | some h =>
      obtain ⟨hnil | hh, hlongest⟩ := foldl_longer_eq_some hf
      · cases hnil
      · obtain ⟨hh, hbegins⟩ := hmem.1 hh
        exact .longest hnone hh hbegins fun g hg hbegins' =>
          hlongest g (.inr (hmem.2 ⟨hg, hbegins'⟩))

theorem mem_of_route? (hr : t.route? path = some h) : h ∈ t := by
  have hresponsible := responsible_route? t path
  rw [hr] at hresponsible
  cases hresponsible with
  | same hmem _ => exact hmem
  | longest _ hmem _ _ => exact hmem

/-! ## What a table holds -/

theorem mem_insert : g ∈ t.insert h ↔ g = h ∨ g ∈ t ∧ g.path ≠ h.path := by
  unfold insert
  split
  · next hany =>
    -- The handler with this path gives way to the new one, wherever it stands.
    obtain ⟨f, hf, hpath⟩ := List.any_eq_true.1 hany
    rw [List.mem_map]
    constructor
    · rintro ⟨e, he, hreplaced⟩
      split at hreplaced
      · exact .inl hreplaced.symm
      · next hne => exact .inr (hreplaced ▸ ⟨he, by simpa using hne⟩)
    · rintro (rfl | ⟨hg, hne⟩)
      · exact ⟨f, hf, if_pos hpath⟩
      · exact ⟨g, hg, if_neg (by simpa using hne)⟩
  · next hany =>
    have hne : ∀ f ∈ t, f.path ≠ h.path := by simpa using hany
    rw [List.mem_append, List.mem_singleton, or_comm]
    exact or_congr_right (iff_self_and.2 (hne g))

end Table

theorem lastAdded_concat : LastAdded (hs ++ [h]) g ↔ g = h ∨ LastAdded hs g ∧ g.path ≠ h.path := by
  constructor
  · rintro ⟨before, after, heq, hlast⟩
    -- The handler is the last of all, or one of those before.
    rcases List.eq_nil_or_concat after with rfl | ⟨mid, f, rfl⟩
    · exact .inl (List.append_singleton_inj.1 heq).2.symm
    · rw [List.concat_eq_append] at heq hlast
      rw [← List.cons_append, ← List.append_assoc] at heq
      obtain ⟨rfl, rfl⟩ := List.append_singleton_inj.1 heq
      rw [List.forall_mem_append, List.forall_mem_singleton] at hlast
      exact .inr ⟨⟨before, mid, rfl, hlast.1⟩, hlast.2.symm⟩
  · rintro (rfl | ⟨⟨before, after, rfl, hlast⟩, hne⟩)
    · exact ⟨hs, [], rfl, List.forall_mem_nil _⟩
    · refine ⟨before, after ++ [h], by simp, ?_⟩
      exact List.forall_mem_append.2 ⟨hlast, List.forall_mem_singleton.2 hne.symm⟩

/-- A table holds the handlers that have been added last. -/
theorem mem_foldl_insert (hs : List Handler) (h : Handler) :
    h ∈ hs.foldl Table.insert [] ↔ LastAdded hs h := by
  induction hs using List.reverseRecOn with
  | nil => simp [LastAdded]
  | append_singleton hs g ih =>
    rw [List.foldl_append, List.foldl_cons, List.foldl_nil, Table.mem_insert, lastAdded_concat, ih]

theorem LastAdded.unique (hg : LastAdded hs g) (hh : LastAdded hs h) (hpath : g.path = h.path) :
    g = h := by
  induction hs using List.reverseRecOn with
  | nil => simp [LastAdded] at hg
  | append_singleton hs f ih =>
    rcases lastAdded_concat.1 hg with rfl | ⟨hg, hneg⟩ <;>
      rcases lastAdded_concat.1 hh with rfl | ⟨hh, hneh⟩
    · rfl
    · exact absurd hpath.symm hneh
    · exact absurd hpath hneg
    · exact ih hg hh

end ProxyTrial.Origin

namespace ProxyTrial.OriginServer

open Origin

theorem handlers_foldl_add (hs : List Handler) (o : OriginServer) :
    (hs.foldl add o).handlers = hs.foldl Table.insert o.handlers :=
  (List.foldl_hom OriginServer.handlers (fun _ _ => rfl)).symm

/-- An origin finds, for every path, just what is responsible among the handlers that have been
added last; it finds the same whenever these are the same. -/
theorem route?_eq_iff_responsible (requested : Int) (hs : List Handler) (path : String) :
    let o := hs.foldl add { requested }
    (∀ r, o.route? path = r ↔ Responsible (LastAdded hs) path r) ∧
      ∀ hs', (∀ h, LastAdded hs' h ↔ LastAdded hs h) →
        (hs'.foldl add { requested }).route? path = o.route? path := by
  have hroute : ∀ hs : List Handler,
      Responsible (LastAdded hs) path ((hs.foldl add { requested }).route? path) := by
    intro hs
    have hresponsible := Table.responsible_route? (hs.foldl Table.insert []) path
    simp only [mem_foldl_insert] at hresponsible
    rw [route?, handlers_foldl_add]
    exact hresponsible
  have hunique : ∀ g h, LastAdded hs g → LastAdded hs h → g.path = h.path → g = h :=
    fun g h => LastAdded.unique
  intro o
  refine ⟨fun r => ⟨fun heq => heq ▸ hroute hs, (hroute hs).unique hunique⟩, fun hs' hsame => ?_⟩
  have hlast : LastAdded hs' = LastAdded hs := funext fun h => propext (hsame h)
  exact Responsible.unique hunique (hlast ▸ hroute hs') (hroute hs)

end ProxyTrial.OriginServer
