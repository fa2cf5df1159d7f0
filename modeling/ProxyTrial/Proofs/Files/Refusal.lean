import Mathlib.Data.List.Basic
import ProxyTrial.Proofs.Ascii
import ProxyTrial.Proofs.Files.System
import ProxyTrial.Run.Proxy
/-!
# Paths that reach the operating system

A path with a null character does not even reach the operating system. Every other path does, so
that whatever fails then is a refusal. The placeholders of a proxy stand for no null character: a
file that the proxy is to have is written or refused, unless its name has one of its own.

## Main definitions

* `Path.NullFree p`: there is no null character in the path

## Main results

* `FileSystem.failsOnly_write`, `FileSystem.failsOnly_makeDirectories`: operations are refused
* `Proxy.notMem_render`: a text has no other null characters than its template
* `Proxy.writeFiles_eq_error`: a file is refused unless its name has a null character
-/

namespace ProxyTrial

/-! ## Paths -/

/-- What stands in a text that is put together stands in the texts or between them. -/
theorem mem_intercalate {α : Type} {sep : List α} {xs : List (List α)} {a : α}
    (h : a ∈ sep.intercalate xs) : a ∈ sep ∨ ∃ x ∈ xs, a ∈ x := by
  induction xs with
  | nil => cases h
  | cons x xs ih =>
    cases xs with
    | nil =>
      rw [List.intercalate_singleton] at h
      exact .inr ⟨x, List.mem_cons_self, h⟩
    | cons y ys =>
      rw [List.intercalate_cons_cons, List.mem_append, List.mem_append] at h
      rcases h with (h | h) | h
      · exact .inr ⟨x, List.mem_cons_self, h⟩
      · exact .inl h
      · exact (ih h).imp_right fun ⟨z, hz, ha⟩ => ⟨z, List.mem_cons_of_mem _ hz, ha⟩

/-- What stands in a part of a list stands in the list. -/
theorem mem_of_mem_splitOnElem {α : Type} [BEq α] {sep a : α} {xs part : List α}
    (hpart : part ∈ Text.splitOnElem sep xs) (h : a ∈ part) : a ∈ xs := by
  induction xs generalizing part with
  | nil =>
    rw [Text.splitOnElem, List.mem_singleton] at hpart
    exact hpart ▸ h
  | cons x xs ih =>
    rw [Text.splitOnElem] at hpart
    split at hpart
    · rcases List.mem_cons.1 hpart with rfl | hpart
      · cases h
      · exact List.mem_cons_of_mem _ (ih hpart h)
    · split at hpart
      · rw [List.mem_singleton.1 hpart, List.mem_singleton] at h
        exact h ▸ List.mem_cons_self
      · next p ps heq =>
        rcases List.mem_cons.1 hpart with rfl | hpart
        · rcases List.mem_cons.1 h with rfl | h
          · exact List.mem_cons_self
          · exact List.mem_cons_of_mem _ (ih (heq ▸ List.mem_cons_self) h)
        · exact List.mem_cons_of_mem _ (ih (heq ▸ List.mem_cons_of_mem _ hpart) h)

namespace Path

variable {p q : Path}

/-- There is no null character in the path. -/
structure NullFree (p : Path) : Prop where
  root : '\x00' ∉ p.root.toList
  parts : ∀ name ∈ p.parts, '\x00' ∉ name.toList

theorem NullFree.shown (h : p.NullFree) : '\x00' ∉ p.shown.toList := by
  unfold Path.shown
  split
  · decide
  · rw [String.toList_append, List.mem_append, not_or, String.toList_intercalate]
    refine ⟨h.root, fun hmem => ?_⟩
    rcases mem_intercalate hmem with hmem | ⟨name, hname, hmem⟩
    · revert hmem
      decide
    · obtain ⟨part, hpart, rfl⟩ := List.mem_map.1 hname
      exact h.parts part hpart hmem

theorem NullFree.join (hp : p.NullFree) (hq : q.NullFree) : (p.join q).NullFree := by
  unfold Path.join
  split
  · exact ⟨hp.root, List.forall_mem_append.2 ⟨hp.parts, hq.parts⟩⟩
  · exact hq

theorem NullFree.parent (h : p.NullFree) : p.parent.NullFree :=
  ⟨h.root, fun name hname => h.parts name (List.dropLast_subset _ hname)⟩

theorem nullFree_ofText {s : String} (h : '\x00' ∉ s.toList) : (ofText s).NullFree where
  root := by
    unfold ofText
    dsimp only
    split
    · decide
    · split <;> decide
  parts name hname hmem := by
    obtain ⟨part, hpart, rfl⟩ := List.mem_map.1 (List.mem_of_mem_filter hname)
    rw [String.toList_ofList] at hmem
    exact h (mem_of_mem_splitOnElem hpart hmem)

end Path

/-! ## Operations -/

namespace FileSystem

variable {fs : FileSystem} {p : Path}

theorem follow_ne_nullCharacter (fs : FileSystem) (loc : Location) (names : List String) :
    fs.follow loc names ≠ .error .nullCharacter := by
  induction names generalizing loc with
  | nil => exact fun h => nomatch h
  | cons name names ih =>
    unfold follow
    split
    · exact fun h => nomatch h
    · exact fun h => nomatch h
    · split
      · exact ih _
      · split
        · exact fun h => nomatch h
        · exact ih _

/-- Only a path with a null character does not reach the operating system. -/
theorem locate_eq_nullCharacter_iff :
    fs.locate p = .error .nullCharacter ↔ '\x00' ∈ p.shown.toList := by
  rw [← List.contains_iff_mem, locate]
  split
  · next hnull => exact iff_of_true rfl hnull
  · next hnull =>
    refine iff_of_false ?_ hnull
    split
    · nofun
    · exact follow_ne_nullCharacter _ _ _

theorem isRefusal_of_locate {fault : FileFault} (h : p.NullFree)
    (hl : fs.locate p = .error fault) : FileError.isRefusal ⟨fault, p⟩ := by
  rw [FileError.isRefusal, bne_iff_ne]
  rintro rfl
  exact h.shown (locate_eq_nullCharacter_iff.1 hl)

/-- A file whose content cannot be had is refused, unless its path has a null character. -/
theorem read_not_isRefusal_iff {e : FileError} (h : fs.read p = .error e) :
    e.isRefusal = false ↔ '\x00' ∈ p.shown.toList := by
  have hnull : fs.locate p = .error .nullCharacter ↔ '\x00' ∈ p.shown.toList :=
    locate_eq_nullCharacter_iff
  rw [← hnull, FileError.isRefusal]
  unfold read at h
  split at h
  · next hl =>
    cases h
    rw [hl, bne_eq_false_iff_eq, Except.error.injEq]
  · next hl =>
    rw [hl]
    split at h <;> cases h <;> simp

theorem failsOnly_write (h : p.NullFree) (content : Bytes) :
    FailsOnly (·.isRefusal) (fs.write p content) := by
  unfold write
  split
  · next hl => exact failsOnly_error (isRefusal_of_locate h hl)
  · split
    · exact failsOnly_error rfl
    · exact failsOnly_ok _

theorem failsOnly_makeDirectory (h : p.NullFree) :
    FailsOnly (·.isRefusal) (fs.makeDirectory p) := by
  unfold makeDirectory
  split
  · next hl => exact failsOnly_error (isRefusal_of_locate h hl)
  · split
    · exact failsOnly_error rfl
    · exact failsOnly_ok _

theorem failsOnly_ensureDirectory (h : p.NullFree) :
    FailsOnly (·.isRefusal) (fs.ensureDirectory p) := by
  have hmake : FailsOnly (·.isRefusal) (fs.makeDirectory p) := failsOnly_makeDirectory h
  unfold ensureDirectory
  split
  · next e he =>
    split
    · exact failsOnly_ok _
    · exact failsOnly_error (hmake e he)
  · exact hmake

theorem failsOnly_makeDirectories (h : p.NullFree) :
    FailsOnly (·.isRefusal) (fs.makeDirectories p) := by
  unfold makeDirectories
  generalize p.parts.length = depth
  -- The induction is on the directories above that may have to be made first.
  induction depth generalizing p with
  | zero => exact failsOnly_ensureDirectory h
  | succ depth ih =>
    have hmake : FailsOnly (·.isRefusal) (fs.makeDirectory p) := failsOnly_makeDirectory h
    unfold ensureFrom
    split
    · next e he =>
      split
      · exact (ih h.parent).bind fun _ => failsOnly_ensureDirectory h
      · split
        · exact failsOnly_ok _
        · exact failsOnly_error (hmake e he)
    · exact hmake

end FileSystem

/-! ## Files of a proxy -/

namespace Proxy

variable {p : Proxy} {root : Path}

theorem mem_replaceFrom {old new cs : List Char} {skip : Nat} {c : Char}
    (h : c ∈ replaceFrom old new skip cs) : c ∈ new ∨ c ∈ cs := by
  induction cs generalizing skip with
  | nil => cases skip <;> cases h
  | cons d cs ih =>
    cases skip with
    | succ skip => exact (ih h).imp_right (List.mem_cons_of_mem _)
    | zero =>
      unfold replaceFrom at h
      split at h
      · rcases List.mem_append.1 h with h | h
        · exact .inl h
        · exact (ih h).imp_right (List.mem_cons_of_mem _)
      · rcases List.mem_cons.1 h with rfl | h
        · exact .inr List.mem_cons_self
        · exact (ih h).imp_right (List.mem_cons_of_mem _)

theorem notMem_digits (n : Nat) : '\x00' ∉ (toString n).toList :=
  fun h => absurd (Text.isDigit_toString n _ h) (by decide)

theorem notMem_toString (n : Int) : '\x00' ∉ (toString n).toList := by
  cases n with
  | ofNat n => exact notMem_digits n
  | negSucc n =>
    have hsigned : toString (Int.negSucc n) = "-" ++ toString (n + 1) := rfl
    rw [hsigned, String.toList_append, List.mem_append, not_or]
    exact ⟨by decide, notMem_digits (n + 1)⟩

theorem nullFree_makeRoot {m m' : Machine} (h : makeRoot m = (root, m')) : root.NullFree := by
  cases h
  refine ⟨(by decide : '\x00' ∉ "/".toList), ?_⟩
  simp only [temporary, List.singleton_append, List.forall_mem_cons, rootName,
    String.toList_append, String.toList_ofList, List.mem_append, not_or]
  refine ⟨by decide, ⟨⟨by decide, ?_⟩, notMem_digits _⟩, List.forall_mem_nil _⟩
  exact fun hmem => absurd (List.eq_of_mem_replicate hmem) (by decide)

/-- A text has no other null characters than its template. -/
theorem notMem_render (hroot : ∀ root ∈ p.root, root.NullFree) {template : String}
    (h : '\x00' ∉ template.toList) : '\x00' ∉ (p.render template).toList := by
  have hvalues : ∀ x ∈ p.placeholders, '\x00' ∉ x.2.toList := by
    have htmp : '\x00' ∉ ((p.root.map Path.shown).getD "None").toList := by
      cases hp : p.root with
      | none => decide
      | some root => exact (hroot root hp).shown
    simp only [placeholders, List.forall_mem_cons]
    exact ⟨htmp, notMem_toString _, notMem_toString _, List.forall_mem_nil _⟩
  have hfold : ∀ (xs : List (String × String)) (cs : List Char),
      (∀ x ∈ xs, '\x00' ∉ x.2.toList) → '\x00' ∉ cs →
        '\x00' ∉ xs.foldl (fun cs x => replaceFrom (placeholder x.1) x.2.toList 0 cs) cs := by
    intro xs
    induction xs with
    | nil => exact fun cs _ hcs => hcs
    | cons x xs ih =>
      intro cs hxs hcs
      rw [List.forall_mem_cons] at hxs
      refine ih _ hxs.2 fun hmem => ?_
      rcases mem_replaceFrom hmem with hmem | hmem
      · exact hxs.1 hmem
      · exact hcs hmem
  rw [render, String.toList_ofList]
  exact hfold _ _ hvalues h

/-- A file is written or refused, unless its name has a null character. -/
theorem failsOnly_writeFile (hroot : root.NullFree) (hp : p.root = some root) (fs : FileSystem)
    {file : String × String} (h : '\x00' ∉ file.1.toList) :
    FailsOnly (·.isFinding) (p.writeFile root fs file) := by
  have hrender := notMem_render (p := p) (fun r hr => Option.some.inj (hp.symm.trans hr) ▸ hroot) h
  have htarget := hroot.join (Path.nullFree_ofText hrender)
  intro e he
  rw [writeFile] at he
  obtain ⟨err, herr, rfl⟩ := mapError_eq_error.1 he
  rcases bind_eq_error.1 herr with hmake | ⟨fs', -, hwrite⟩
  · exact FileSystem.failsOnly_makeDirectories htarget.parent err hmake
  · exact FileSystem.failsOnly_write htarget _ err hwrite

/-- What is no finding about the files of a proxy is the fault of a name with a null character. -/
theorem writeFiles_eq_error (hroot : root.NullFree) (hp : p.root = some root) {fs : FileSystem}
    {files : List (String × String)} {e : ProxyError}
    (h : (p.writeFiles root fs files).1 = .error e) :
    e.isFinding ∨ ∃ file ∈ files, '\x00' ∈ file.1.toList ∧
      ∃ target err, err.fault = .nullCharacter ∧ e = .cannotWrite target err := by
  -- The induction is on the files, up to the first that cannot be written.
  induction files generalizing fs with
  | nil => cases h
  | cons file files ih =>
    unfold writeFiles at h
    split at h
    · refine (ih h).imp_right fun ⟨other, hother, hnull⟩ => ?_
      exact ⟨other, List.mem_cons_of_mem _ hother, hnull⟩
    · next e' he =>
      obtain rfl := Except.error.inj h
      by_cases hname : '\x00' ∈ file.1.toList
      · rw [writeFile] at he
        obtain ⟨err, -, rfl⟩ := mapError_eq_error.1 he
        by_cases hfault : err.fault = .nullCharacter
        · exact .inr ⟨file, List.mem_cons_self, hname, _, err, hfault, rfl⟩
        · exact .inl (bne_iff_ne.2 hfault)
      · exact .inl (failsOnly_writeFile hroot hp fs hname _ he)

end Proxy

end ProxyTrial
