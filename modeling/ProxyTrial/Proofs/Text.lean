import ProxyTrial.Text.Integer
import Mathlib.Data.List.DropRight
/-!
# Cutting and trimming

What is left of a list that has been cut at a separator, trimmed, or freed of a sign.

## Main results

* `cutAt_eq_some_iff`: a list is cut at the first separator
* `trimBy_idem`: trimming once is enough
-/

namespace ProxyTrial.Text

variable {α : Type}

/-! ## Cutting -/

section Cut

variable [BEq α] [LawfulBEq α]

theorem cutAt_eq_some_iff {c : α} {cs before after : List α} :
    cutAt c cs = (before, some after) ↔ cs = before ++ c :: after ∧ c ∉ before := by
  induction cs generalizing before with
  | nil => simp [cutAt]
  | cons d cs ih =>
    cases before with
    | nil =>
      by_cases h : d = c
      · simp [cutAt, h]
      · simp [cutAt, h]
    | cons b before =>
      by_cases h : d = c
      · simp only [cutAt, h, BEq.rfl, if_true, Prod.mk.injEq, reduceCtorEq, false_and, false_iff]
        rintro ⟨he, hn⟩
        exact hn ((List.cons.inj he).1 ▸ List.mem_cons_self)
      · have hb : (cutAt c (d :: cs) = (b :: before, some after)) ↔
            d = b ∧ cutAt c cs = (before, some after) := by
          simp [cutAt, h, Prod.ext_iff, and_assoc]
        rw [hb, ih]
        simp only [List.cons_append, List.cons.injEq, List.mem_cons, not_or]
        constructor
        · rintro ⟨rfl, rfl, hn⟩
          exact ⟨⟨rfl, rfl⟩, Ne.symm h, hn⟩
        · rintro ⟨⟨rfl, rfl⟩, -, hn⟩
          exact ⟨rfl, rfl, hn⟩

theorem cutAt_append {c : α} {before : List α} (h : c ∉ before) (after : List α) :
    cutAt c (before ++ c :: after) = (before, some after) :=
  cutAt_eq_some_iff.2 ⟨rfl, h⟩

theorem cutAt_of_notMem {c : α} {cs : List α} (h : c ∉ cs) : cutAt c cs = (cs, none) := by
  induction cs with
  | nil => rfl
  | cons d cs ih =>
    rw [List.mem_cons, not_or] at h
    simp [cutAt, Ne.symm h.1, ih h.2]

/-- What has no separator stays before the cut. -/
theorem cutAt_append_of_notMem {c : α} {before : List α} (h : c ∉ before) (rest : List α) :
    cutAt c (before ++ rest) = (before ++ (cutAt c rest).1, (cutAt c rest).2) := by
  induction before with
  | nil => rfl
  | cons d before ih =>
    rw [List.mem_cons, not_or] at h
    simp [cutAt, Ne.symm h.1, ih h.2]

end Cut

/-! ## Trimming -/

section Trim

variable (p : α → Bool) (xs : List α)

theorem trimBy_eq : trimBy p xs = (xs.dropWhile p).rdropWhile p := rfl

theorem trimBy_sublist : (trimBy p xs).Sublist xs :=
  (List.rdropWhile_prefix p _).sublist.trans (List.dropWhile_sublist p)

/-- Trimming once is enough. -/
theorem trimBy_idem : trimBy p (trimBy p xs) = trimBy p xs := by
  suffices (trimBy p xs).dropWhile p = trimBy p xs by
    rw [trimBy_eq, this, trimBy_eq, List.rdropWhile_idempotent]
  rw [List.dropWhile_eq_self_iff]
  intro hpos
  obtain ⟨suffix, hs⟩ := List.rdropWhile_prefix p (xs.dropWhile p)
  rw [← trimBy_eq] at hs
  have hne : 0 < (xs.dropWhile p).length := by
    rw [← hs, List.length_append]
    omega
  have hhead := List.dropWhile_get_zero_not p xs hne
  simpa [← hs, List.getElem_append_left hpos] using hhead

theorem trimBy_cons_of_pos {x : α} (h : p x) : trimBy p (x :: xs) = trimBy p xs := by
  rw [trimBy_eq, trimBy_eq, List.dropWhile_cons_of_pos h]

theorem trimBy_append_left {ws : List α} (h : ∀ w ∈ ws, p w) :
    trimBy p (ws ++ xs) = trimBy p xs := by
  rw [trimBy_eq, trimBy_eq, List.dropWhile_append_of_pos h]

/-- What is trimmed has nothing at either end that would be trimmed. -/
theorem ends_of_trimBy_eq_self {p : α → Bool} {xs : List α} (h : trimBy p xs = xs) :
    (∀ x ∈ xs.head?, p x = false) ∧ ∀ x ∈ xs.getLast?, p x = false := by
  constructor
  · intro x hx
    by_contra hp
    rw [Bool.not_eq_false] at hp
    obtain ⟨xs, rfl⟩ := List.head?_eq_some_iff.1 hx
    -- Trimming would make the list shorter.
    have hlen := (trimBy_sublist p xs).length_le
    rw [← trimBy_cons_of_pos p xs hp, h, List.length_cons] at hlen
    exact Nat.not_succ_le_self _ hlen
  · intro x hx
    by_contra hp
    rw [Bool.not_eq_false] at hp
    rw [trimBy_eq] at h
    have hfull : xs.dropWhile p = xs := by
      refine (List.dropWhile_sublist p).eq_of_length_le ?_
      conv_lhs => rw [← h]
      exact (List.rdropWhile_prefix p _).sublist.length_le
    rw [hfull, List.rdropWhile_eq_self_iff] at h
    have hne : xs ≠ [] := by
      rintro rfl
      cases hx
    rw [List.getLast?_eq_getLast_of_ne_nil hne] at hx
    cases hx
    exact h hne hp

/-- What has nothing at either end that would be trimmed stays as it is. -/
theorem trimBy_eq_self_of_ends {p : α → Bool} {xs : List α} (hfirst : xs.head?.any p = false)
    (hlast : xs.getLast?.any p = false) : trimBy p xs = xs := by
  have hdrop : xs.dropWhile p = xs := by
    cases xs with
    | nil => rfl
    | cons x xs => exact List.dropWhile_cons_of_neg (by simpa using hfirst)
  rw [trimBy_eq, hdrop, List.rdropWhile_eq_self_iff]
  intro hne
  rw [List.getLast?_eq_getLast_of_ne_nil hne] at hlast
  simpa using hlast

/-- What satisfies the predicate at the end goes, if nothing before it does. -/
theorem trimEndBy_append {p : α → Bool} {xs ws : List α} (hx : ∀ x ∈ xs, p x = false)
    (hw : ∀ w ∈ ws, p w) : trimEndBy p (xs ++ ws) = xs := by
  have hws : ∀ w ∈ ws.reverse, p w := fun w hm => hw w (List.mem_reverse.1 hm)
  rw [trimEndBy, List.reverse_append, List.dropWhile_append_of_pos hws]
  suffices xs.reverse.dropWhile p = xs.reverse by rw [this, List.reverse_reverse]
  rw [List.dropWhile_eq_self_iff]
  intro hpos
  rw [hx _ (List.mem_reverse.1 (List.getElem_mem hpos))]
  exact Bool.false_ne_true

theorem trimBy_append {p : α → Bool} {xs ws : List α} (hne : xs ≠ [])
    (hx : ∀ x ∈ xs, p x = false) (hw : ∀ w ∈ ws, p w) : trimBy p (xs ++ ws) = xs := by
  obtain ⟨x, xs, rfl⟩ := List.exists_cons_of_ne_nil hne
  have hdrop : (x :: xs ++ ws).dropWhile p = x :: xs ++ ws := by
    rw [List.cons_append, List.dropWhile_cons_of_neg]
    rw [hx x List.mem_cons_self]
    exact Bool.false_ne_true
  exact (congrArg (trimEndBy p) hdrop).trans (trimEndBy_append hx hw)

/-- What is trimmed at both ends of something is gone, even if nothing stands between. -/
theorem trimBy_between {p : α → Bool} {before xs after : List α} (hbefore : ∀ x ∈ before, p x)
    (hx : ∀ x ∈ xs, p x = false) (hafter : ∀ x ∈ after, p x) :
    trimBy p (before ++ (xs ++ after)) = xs := by
  rw [trimBy_append_left p _ hbefore]
  rcases eq_or_ne xs [] with rfl | hne
  · have hnone : (after.dropWhile p) = [] := List.dropWhile_eq_nil_iff.2 hafter
    rw [List.nil_append, trimBy_eq, hnone, List.rdropWhile_nil]
  · exact trimBy_append hne hx hafter

theorem trimBy_eq_self {p : α → Bool} {xs : List α} (h : ∀ x ∈ xs, p x = false) :
    trimBy p xs = xs := by
  cases xs with
  | nil => rfl
  | cons x xs =>
    have htrim : trimBy p (x :: xs ++ []) = x :: xs :=
      trimBy_append (List.cons_ne_nil x xs) h (by simp)
    simpa using htrim

theorem trim_eq_self {s : String} (h : ∀ c ∈ s.toList, isBlank c = false) : trim s = s := by
  rw [trim, trimBy_eq_self h, String.ofList_toList]

end Trim

/-! ## Signs and digits -/

theorem splitSign_of_notMem {cs : List Char} (hminus : '-' ∉ cs) (hplus : '+' ∉ cs) :
    splitSign cs = (false, cs) := by
  unfold splitSign
  split
  · exact absurd List.mem_cons_self hminus
  · exact absurd List.mem_cons_self hplus
  · rfl

/-- Characters satisfying `p`, with single underscores between them. -/
inductive Grouped (p : Char → Bool) : List Char → Prop
  | one {c : Char} : p c → Grouped p [c]
  | cons {c : Char} {cs : List Char} : p c → Grouped p cs → Grouped p (c :: cs)
  | underscore {c : Char} {cs : List Char} : p c → Grouped p cs → Grouped p (c :: '_' :: cs)

section Grouped

variable {p : Char → Bool} {c : Char} {cs : List Char}

theorem Grouped.exists_cons (h : Grouped p cs) : ∃ c more, cs = c :: more ∧ p c := by
  cases h with
  | one hc => exact ⟨_, _, rfl, hc⟩
  | cons hc _ => exact ⟨_, _, rfl, hc⟩
  | underscore hc _ => exact ⟨_, _, rfl, hc⟩

theorem Grouped.of_forall (hne : cs ≠ []) (h : ∀ c ∈ cs, p c) : Grouped p cs := by
  induction cs with
  | nil => exact absurd rfl hne
  | cons c cs ih =>
    obtain ⟨hc, hcs⟩ := List.forall_mem_cons.1 h
    rcases eq_or_ne cs [] with rfl | hmore
    · exact .one hc
    · exact .cons hc (ih hmore hcs)

theorem Grouped.forall_mem (h : Grouped p cs) : ∀ c ∈ cs, p c ∨ c = '_' := by
  induction h with
  | one hc => exact List.forall_mem_singleton.2 (.inl hc)
  | cons hc _ ih => exact List.forall_mem_cons.2 ⟨.inl hc, ih⟩
  | underscore hc _ ih =>
    exact List.forall_mem_cons.2 ⟨.inl hc, List.forall_mem_cons.2 ⟨.inr rfl, ih⟩⟩

variable {digit? : Char → Option Nat} (hnone : digit? '_' = none)
include hnone

theorem Grouped.groupedDigits (h : Grouped (fun c => (digit? c).isSome) cs) :
    groupedDigits digit? cs = some (cs.filterMap digit?) := by
  induction h with
  | one hc =>
    obtain ⟨d, hd⟩ := Option.isSome_iff_exists.1 hc
    simp [Text.groupedDigits, hd]
  | @cons c cs hc hcs ih =>
    obtain ⟨d, hd⟩ := Option.isSome_iff_exists.1 hc
    -- What follows begins with a digit, so that no underscore comes next.
    obtain ⟨b, more, rfl, hb⟩ := hcs.exists_cons
    have hne : b ≠ '_' := by
      rintro rfl
      rw [hnone] at hb
      cases hb
    rw [List.filterMap_cons_some hd]
    simp [Text.groupedDigits, hd, ih, hne]
  | underscore hc _ ih =>
    obtain ⟨d, hd⟩ := Option.isSome_iff_exists.1 hc
    rw [List.filterMap_cons_some hd, List.filterMap_cons_none hnone]
    simp [Text.groupedDigits, hd, ih]

/-- Digits are read if single underscores at most are between them. -/
theorem groupedDigits_eq_some_iff {ds : List Nat} : groupedDigits digit? cs = some ds ↔
    Grouped (fun c => (digit? c).isSome) cs ∧ cs.filterMap digit? = ds := by
  refine ⟨fun h => ?_, fun ⟨h, hds⟩ => hds ▸ h.groupedDigits hnone⟩
  suffices hgrouped : Grouped (fun c => (digit? c).isSome) cs from
    ⟨hgrouped, Option.some.inj ((hgrouped.groupedDigits hnone).symm.trans h)⟩
  -- One digit, one before an underscore, and one before another digit.
  fun_induction Text.groupedDigits digit? cs generalizing ds with
  | case1 => cases h
  | case2 c =>
    obtain ⟨d, hd, -⟩ := Option.map_eq_some_iff.1 h
    exact .one (Option.isSome_of_eq_some hd)
  | case3 c cs ih =>
    obtain ⟨d, hd, h⟩ := Option.bind_eq_some_iff.1 h
    obtain ⟨ds, hds, -⟩ := Option.bind_eq_some_iff.1 h
    exact .underscore (Option.isSome_of_eq_some hd) (ih hds)
  | case4 c cs _ _ ih =>
    obtain ⟨d, hd, h⟩ := Option.bind_eq_some_iff.1 h
    obtain ⟨ds, hds, -⟩ := Option.bind_eq_some_iff.1 h
    exact .cons (Option.isSome_of_eq_some hd) (ih hds)

end Grouped

end ProxyTrial.Text
