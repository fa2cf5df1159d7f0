import ProxyTrial.Yaml.Scalar
/-!
# What is ahead of a cursor

A cursor only goes forward: what is ahead of it later is an end of what is ahead of it now.

## Main definitions

* `Cursor.Reaches c c'`: the place `c'` is at `c` or behind it

## Main results

* `Cursor.rest_skip`, `Cursor.rest_span`: what is ahead of other places
* `Cursor.reaches_plainScalar`, `Cursor.reaches_blockLines`: the places behind scalars
-/

namespace ProxyTrial.Yaml

namespace Cursor

/-- A place is behind another, or it is the same. -/
def Reaches (c c' : Cursor) : Prop := c'.rest <:+ c.rest

variable {c c' c'' : Cursor}

theorem Reaches.refl (c : Cursor) : c.Reaches c := List.suffix_rfl

theorem Reaches.trans (h : c.Reaches c') (h' : c'.Reaches c'') : c.Reaches c'' :=
  List.IsSuffix.trans h' h

/-! ## Single steps -/

@[simp] theorem rest_next (c : Cursor) : c.next.rest = c.rest.tail := by
  unfold next
  split
  · next h => simp [h]
  · next h =>
    rw [h]
    split
    · rfl
    · split <;> rfl

@[simp] theorem rest_skip (n : Nat) (c : Cursor) : (c.skip n).rest = c.rest.drop n := by
  induction n generalizing c with
  | zero => rfl
  | succ n ih => rw [skip, ih, rest_next, List.drop_tail]

@[simp] theorem rest_span (p : Char → Bool) (c : Cursor) :
    (c.span p).2.rest = c.rest.dropWhile p := by
  have hdrop : (c.rest.takeWhile p ++ c.rest.dropWhile p).drop (c.rest.takeWhile p).length
      = c.rest.dropWhile p := List.drop_left
  rw [List.takeWhile_append_dropWhile] at hdrop
  rwa [span, rest_skip]

/-- A cursor sees the null character at the end only. -/
theorem rest_eq_cons {x : Char} (h : c.head = x) (hx : x ≠ '\x00') :
    c.rest = x :: c.next.rest := by
  rw [rest_next]
  unfold head at h
  cases hrest : c.rest with
  | nil =>
    rw [hrest] at h
    exact absurd h.symm hx
  | cons y rest =>
    rw [hrest] at h
    exact congrArg (· :: rest) h

theorem rest_eq_span (p : Char → Bool) (c : Cursor) :
    c.rest = (c.span p).1 ++ (c.span p).2.rest := by
  rw [rest_span]
  exact List.takeWhile_append_dropWhile.symm

theorem reaches_next (c : Cursor) : c.Reaches c.next := by
  rw [Reaches, rest_next]
  exact List.tail_suffix _

theorem reaches_skip (n : Nat) (c : Cursor) : c.Reaches (c.skip n) := by
  rw [Reaches, rest_skip]
  exact List.drop_suffix _ _

theorem reaches_span (p : Char → Bool) (c : Cursor) : c.Reaches (c.span p).2 := reaches_skip _ _

theorem reaches_skipWhile (p : Char → Bool) (c : Cursor) : c.Reaches (c.skipWhile p) :=
  reaches_span _ _

theorem reaches_skipSpaces (c : Cursor) : c.Reaches c.skipSpaces := reaches_skipWhile _ _

theorem reaches_skipIndent (column : Nat) (c : Cursor) : c.Reaches (c.skipIndent column) :=
  reaches_skip _ _

theorem reaches_lineBreak (c : Cursor) : c.Reaches c.lineBreak.2 := by
  unfold lineBreak
  split
  · exact reaches_skip _ _
  · split
    · exact reaches_next _
    · split
      · exact reaches_next _
      · exact .refl _
  · exact .refl _

/-- A comment is gone past, if there is one. -/
theorem reaches_comment (p : Char → Bool) (c : Cursor) :
    c.Reaches (if c.head == '#' then c.skipWhile p else c) := by
  split
  · exact reaches_skipWhile _ _
  · exact .refl _

/-! ## Scalars -/

theorem reaches_lineBreaks (p : Char → Bool) (fuel : Nat) (c : Cursor) :
    c.Reaches (lineBreaks p fuel c).2 := by
  induction fuel generalizing c with
  | zero => exact .refl _
  | succ fuel ih =>
    unfold lineBreaks
    dsimp only
    split
    · exact .refl _
    · have hskip := reaches_skipWhile p c
      have hbreak := hskip.trans (reaches_lineBreak _)
      split
      · exact hskip
      · next heq =>
        rw [heq] at hbreak
        exact hbreak.trans (ih _)

theorem reaches_plainGap (c : Cursor) : c.Reaches (plainGap c).2.1 := by
  unfold plainGap
  dsimp only
  have hspan := reaches_span (· == ' ') c
  have hbreak := hspan.trans (reaches_lineBreak _)
  split
  · exact hspan
  · next heq =>
    rw [heq] at hbreak
    exact hbreak.trans (reaches_lineBreaks _ _ _)

theorem reaches_plainRest (flow : Bool) (indent : Int) (fuel : Nat) (c : Cursor) :
    c.Reaches (plainRest flow indent fuel c).2.1 := by
  induction fuel generalizing c with
  | zero => exact .refl _
  | succ fuel ih =>
    unfold plainRest
    dsimp only
    have hgap := reaches_plainGap c
    split
    · exact hgap
    · exact (hgap.trans (reaches_skip _ _)).trans (ih _)

theorem reaches_plainScalar (flow : Bool) (indent : Int) (c : Cursor) :
    c.Reaches (plainScalar flow indent c).2.1 :=
  (reaches_skip _ _).trans (reaches_plainRest _ _ _ _)

theorem reaches_blankLines (fuel : Nat) (c : Cursor) : c.Reaches (blankLines fuel c).2.2 := by
  induction fuel generalizing c with
  | zero => exact .refl _
  | succ fuel ih =>
    unfold blankLines
    dsimp only
    have hskip := reaches_skipSpaces c
    have hbreak := hskip.trans (reaches_lineBreak _)
    split
    · exact hskip
    · next heq =>
      rw [heq] at hbreak
      exact hbreak.trans (ih _)

theorem reaches_emptyLines (indent fuel : Nat) (c : Cursor) :
    c.Reaches (emptyLines indent fuel c).2 := by
  induction fuel generalizing c with
  | zero => exact .refl _
  | succ fuel ih =>
    unfold emptyLines
    dsimp only
    have hskip := reaches_skipIndent indent c
    have hbreak := hskip.trans (reaches_lineBreak _)
    split
    · exact hskip
    · next heq =>
      rw [heq] at hbreak
      exact hbreak.trans (ih _)

theorem reaches_blockLines (fold : Bool) (chomping : Chomping) (indent fuel : Nat)
    (before : List Char) (c : Cursor) :
    c.Reaches (blockLines fold chomping indent fuel before c).2 := by
  induction fuel generalizing before c with
  | zero => exact .refl _
  | succ fuel ih =>
    unfold blockLines
    dsimp only
    have hline (fuel : Nat) : c.Reaches
        (emptyLines indent fuel (c.span (!endsLine ·)).2.lineBreak.2).2 :=
      ((reaches_span _ c).trans (reaches_lineBreak _)).trans (reaches_emptyLines indent fuel _)
    split
    · exact (hline _).trans (ih _ _)
    · exact hline _

end Cursor

end ProxyTrial.Yaml
