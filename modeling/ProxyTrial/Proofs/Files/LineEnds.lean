import ProxyTrial.Files.TextFile
/-!
# Line ends of texts in files

However the lines of a text end, each carriage return goes when the text is read from a file. One
that stands in front of a line feed leaves the line end to that; where all do, nothing but carriage
returns goes. Any other becomes a line end, so that there are more lines.

## Main definitions

* `unified s`: a text as it is read from a file that it has been written to
* `PairedReturns cs`: every carriage return stands in front of a line feed

## Main results

* `return_notMem_unifyLineEnds`: no carriage return is left
* `PairedReturns.unifyLineEnds_eq`: paired carriage returns are all that goes
* `pairedReturns_of_count_eq`: there are as many lines only if they are paired
-/

namespace ProxyTrial

/-- A text as it is read from a file that it has been written to. -/
def unified (s : String) : String := String.ofList (unifyLineEnds s.toList)

/-- Every carriage return stands in front of a line feed. -/
def PairedReturns (cs : List Char) : Prop :=
  ∀ before after, cs = before ++ '\r' :: after → after.head? = some '\n'

variable {c : Char} {cs xs ys : List Char}

theorem pairedReturns_nil : PairedReturns [] := by
  intro before after h
  simp at h

theorem pairedReturns_cons :
    PairedReturns (c :: cs) ↔ (c = '\r' → cs.head? = some '\n') ∧ PairedReturns cs := by
  constructor
  · intro h
    exact ⟨fun hc => h [] cs (hc ▸ rfl), fun before after heq => h (c :: before) after (heq ▸ rfl)⟩
  · rintro ⟨hfirst, hrest⟩ (_ | ⟨d, before⟩) after heq
    · obtain ⟨rfl, rfl⟩ := List.cons.inj heq
      exact hfirst rfl
    · exact hrest before after (List.cons.inj heq).2

/-- The first carriage return has its line feed behind it. -/
theorem PairedReturns.lineFeed (h : PairedReturns ('\r' :: cs)) : ∃ ds, cs = '\n' :: ds :=
  List.head?_eq_some_iff.1 ((pairedReturns_cons.1 h).1 rfl)

theorem PairedReturns.right (h : PairedReturns (xs ++ ys)) : PairedReturns ys :=
  fun before after heq => h (xs ++ before) after (by rw [heq, List.append_assoc])

theorem PairedReturns.behind_pair (h : PairedReturns ('\r' :: '\n' :: cs)) : PairedReturns cs :=
  (pairedReturns_cons.1 (pairedReturns_cons.1 h).2).2

/-- Carriage returns are paired in front of a cut that goes through no pair. -/
theorem PairedReturns.left (h : PairedReturns (xs ++ ys))
    (hcut : xs.getLast? ≠ some '\r' ∨ ys.head? ≠ some '\n') : PairedReturns xs := by
  intro before after heq
  have hafter := h before (after ++ ys) (by rw [heq, List.append_assoc, List.cons_append])
  cases after with
  | nil =>
    rcases hcut with hlast | hhead
    · exact absurd (by rw [heq, List.getLast?_concat]) hlast
    · exact absurd hafter hhead
  | cons d after => exact hafter

/-- Characters without carriage returns. -/
def withoutReturns (cs : List Char) : List Char := cs.filter (· != '\r')

@[simp] theorem withoutReturns_return (cs : List Char) :
    withoutReturns ('\r' :: cs) = withoutReturns cs := rfl

theorem withoutReturns_cons (hc : c ≠ '\r') (cs : List Char) :
    withoutReturns (c :: cs) = c :: withoutReturns cs :=
  List.filter_cons_of_pos (by simpa using hc)

@[simp] theorem withoutReturns_append (xs ys : List Char) :
    withoutReturns (xs ++ ys) = withoutReturns xs ++ withoutReturns ys :=
  List.filter_append ..

theorem withoutReturns_of_notMem (h : '\r' ∉ cs) : withoutReturns cs = cs :=
  List.filter_eq_self.2 fun _ hc => bne_iff_ne.2 fun heq => h (heq ▸ hc)

theorem mem_withoutReturns : c ∈ withoutReturns cs ↔ c ∈ cs ∧ c ≠ '\r' := by
  rw [withoutReturns, List.mem_filter, bne_iff_ne]

/-- Where all carriage returns are paired, they are all that goes. -/
theorem PairedReturns.unifyLineEnds_eq (h : PairedReturns cs) :
    unifyLineEnds cs = withoutReturns cs := by
  fun_induction unifyLineEnds cs with
  | case1 cs ih =>
    rw [ih h.behind_pair, withoutReturns_return,
      withoutReturns_cons (by decide)]
  | case2 cs hne ih =>
    obtain ⟨ds, rfl⟩ := h.lineFeed
    exact absurd rfl (hne ds)
  | case3 c cs _ hne ih =>
    rw [ih (pairedReturns_cons.1 h).2, withoutReturns_cons hne]
  | case4 => rfl

theorem return_notMem_unifyLineEnds (cs : List Char) : '\r' ∉ unifyLineEnds cs := by
  fun_induction unifyLineEnds cs with
  | case1 cs ih => simpa using ih
  | case2 cs hne ih => simpa using ih
  | case3 c cs _ hne ih => exact fun hmem =>
    (List.mem_cons.1 hmem).elim (fun heq => hne heq.symm) ih
  | case4 => exact List.not_mem_nil

theorem count_le_unifyLineEnds (cs : List Char) :
    cs.count '\n' ≤ (unifyLineEnds cs).count '\n' := by
  fun_induction unifyLineEnds cs with
  | case1 cs ih => simpa using ih
  | case2 cs hne ih =>
    rw [List.count_cons_of_ne (by decide), List.count_cons_self]
    exact Nat.le_succ_of_le ih
  | case3 c cs _ hne ih =>
    rw [List.count_cons, List.count_cons]
    exact Nat.add_le_add_right ih _
  | case4 => exact Nat.le_refl _

/-- There are as many line ends as there were line feeds only if all carriage returns are paired. -/
theorem pairedReturns_of_count_eq (h : (unifyLineEnds cs).count '\n' = cs.count '\n') :
    PairedReturns cs := by
  fun_induction unifyLineEnds cs with
  | case1 cs ih =>
    have hrest : PairedReturns cs := ih (by simpa using h)
    exact pairedReturns_cons.2 ⟨fun _ => rfl, pairedReturns_cons.2 ⟨nofun, hrest⟩⟩
  | case2 cs hne ih =>
    -- The carriage return has become a line end that was none.
    have hle := count_le_unifyLineEnds cs
    rw [List.count_cons_self, List.count_cons_of_ne (by decide)] at h
    omega
  | case3 c cs _ hne ih =>
    rw [List.count_cons, List.count_cons] at h
    exact pairedReturns_cons.2 ⟨fun hc => absurd hc hne, ih (Nat.add_right_cancel h)⟩
  | case4 => exact pairedReturns_nil

end ProxyTrial
