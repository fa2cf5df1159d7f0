import ProxyTrial.Files.System
import ProxyTrial.Proofs.Basic
/-!
# What stays in a file system

Writing files and making directories changes what is at a location in one way only: something may
come to be there. A directory stays one, and only removing it, or one above it, takes it away.

## Main definitions

* `FileSystem.KeepsDirectories fs fs'`: what is a directory in `fs` is one in `fs'`

## Main results

* `entry?_put`: what is at a location after something has been put at another
* `keepsDirectories_write`, `keepsDirectories_makeDirectories`: directories stay
* `entry?_remove`, `entry?_remove_of_not_below`: nothing is left at a removed location or below it,
  and all else stays
-/

namespace ProxyTrial.FileSystem

variable {fs fs' fs'' : FileSystem} {loc : Location} {e : FileEntry} {p : Path}

/-! ## Entries -/

theorem lookup_map_replace (entries : List (Location × FileEntry)) (loc l : Location)
    (e : FileEntry) :
    (entries.map fun f => if f.1 == loc then (loc, e) else f).lookup l =
      if l = loc then (entries.lookup l).map fun _ => e else entries.lookup l := by
  induction entries with
  | nil => split <;> rfl
  | cons f entries ih =>
    obtain ⟨k, d⟩ := f
    by_cases hk : k = loc
    · -- The entry is replaced; it is looked up exactly if it is asked for.
      subst hk
      by_cases hl : l = k
      · simp [hl]
      · simp [hl, List.lookup_cons, beq_false_of_ne hl] at ih ⊢
        exact ih
    · have hreplaced : (if (k, d).1 == loc then (loc, e) else (k, d)) = (k, d) :=
        if_neg (by simpa using hk)
      rw [List.map_cons, hreplaced, List.lookup_cons, List.lookup_cons]
      cases hl : l == k with
      | false => exact ih
      | true =>
        obtain rfl := eq_of_beq hl
        simp [hk]

/-- What has been put at a location is there, and nothing has changed elsewhere. -/
theorem entry?_put (fs : FileSystem) (loc : Location) (e : FileEntry) {l : Location}
    (hl : l ≠ []) :
    FileSystem.entry? (fs.put loc e) l = if l = loc then some e else fs.entry? l := by
  have hempty : l.isEmpty = false := List.isEmpty_eq_false_iff.2 hl
  simp only [FileSystem.entry?, put, hempty, Bool.false_eq_true, if_false]
  split
  · next hsome =>
    rw [lookup_map_replace]
    split
    · next heq =>
      obtain ⟨d, hd⟩ := Option.isSome_iff_exists.1 hsome
      rw [heq, hd]
      rfl
    · rfl
  · next hnone =>
    rw [List.lookup_append]
    split
    · next heq =>
      rw [heq, Option.not_isSome_iff_eq_none.1 hnone]
      simp
    · next hne => simp [List.lookup_cons, beq_false_of_ne hne]

/-- Nothing is left at a removed location, or below it. -/
theorem entry?_remove (fs : FileSystem) {loc l : Location} (hloc : loc ≠ []) (h : loc <+: l) :
    FileSystem.entry? (fs.remove loc) l = none := by
  have hl : l.isEmpty = false := by
    rw [List.isEmpty_eq_false_iff]
    rintro rfl
    exact hloc (List.prefix_nil.1 h)
  simp only [FileSystem.entry?, remove, hl, Bool.false_eq_true, if_false]
  rw [List.lookup_eq_none_iff]
  intro f hf
  obtain ⟨-, hkept⟩ := List.mem_filter.1 hf
  rw [bne_iff_ne]
  rintro rfl
  rw [List.isPrefixOf_iff_prefix.2 h] at hkept
  cases hkept

/-- What is not below a removed location stays. -/
theorem entry?_remove_of_not_below (fs : FileSystem) {loc l : Location} (h : ¬ loc <+: l) :
    FileSystem.entry? (fs.remove loc) l = fs.entry? l := by
  have hkept : loc.isPrefixOf l = false := by
    rwa [← Bool.not_eq_true, List.isPrefixOf_iff_prefix]
  have hlookup : ∀ entries : List (Location × FileEntry),
      (entries.filter fun f => !loc.isPrefixOf f.1).lookup l = entries.lookup l := by
    intro entries
    induction entries with
    | nil => rfl
    | cons f entries ih =>
      obtain ⟨k, d⟩ := f
      rw [List.filter_cons]
      by_cases hk : l = k
      · subst hk
        simp [hkept]
      · split <;> simp [List.lookup_cons, beq_false_of_ne hk, ih]
  rw [FileSystem.entry?, FileSystem.entry?, remove, hlookup]

/-- A file is read where its path leads. -/
theorem read_of_locate {content : Bytes} (hlocate : fs.locate p = .ok loc)
    (hentry : fs.entry? loc = some (.file content)) : fs.read p = .ok content := by
  simp only [read, hlocate, hentry]

/-! ## Directories -/

/-- What is a directory in one file system is one in the other. -/
def KeepsDirectories (fs fs' : FileSystem) : Prop :=
  ∀ l, fs.entry? l = some .directory → fs'.entry? l = some .directory

theorem KeepsDirectories.refl (fs : FileSystem) : KeepsDirectories fs fs := fun _ h => h

theorem KeepsDirectories.trans (h : KeepsDirectories fs fs') (h' : KeepsDirectories fs' fs'') :
    KeepsDirectories fs fs'' := fun l hl => h' l (h l hl)

/-- No directory goes when another one is put somewhere, or anything where there is none. -/
theorem keepsDirectories_put (h : e = .directory ∨ fs.entry? loc ≠ some .directory) :
    KeepsDirectories fs (fs.put loc e) := by
  intro l hl
  by_cases hroot : l = []
  · rw [hroot]
    rfl
  · rw [entry?_put fs loc e hroot]
    split
    · next heq =>
      rcases h with rfl | hne
      · rfl
      · exact absurd (heq ▸ hl) hne
    · exact hl

theorem keepsDirectories_write {content : Bytes} (h : fs.write p content = .ok fs') :
    KeepsDirectories fs fs' := by
  unfold write at h
  split at h
  · cases h
  · split at h
    · cases h
    · next hne =>
      cases h
      exact keepsDirectories_put (.inr (by simpa using hne))

theorem keepsDirectories_makeDirectory (h : fs.makeDirectory p = .ok fs') :
    KeepsDirectories fs fs' := by
  unfold makeDirectory at h
  split at h
  · cases h
  · split at h
    · cases h
    · cases h
      exact keepsDirectories_put (.inl rfl)

theorem keepsDirectories_ensureDirectory (h : fs.ensureDirectory p = .ok fs') :
    KeepsDirectories fs fs' := by
  unfold ensureDirectory at h
  split at h
  · split at h
    · cases h
      exact .refl fs
    · cases h
  · exact keepsDirectories_makeDirectory h

theorem keepsDirectories_ensureFrom {depth : Nat} (h : fs.ensureFrom depth p = .ok fs') :
    KeepsDirectories fs fs' := by
  -- The induction is on the directories above that may have to be made first.
  induction depth generalizing p fs' with
  | zero => exact keepsDirectories_ensureDirectory h
  | succ depth ih =>
    unfold ensureFrom at h
    split at h
    · split at h
      · obtain ⟨fs₁, habove, hbelow⟩ := bind_eq_ok.1 h
        exact (ih habove).trans (keepsDirectories_ensureDirectory hbelow)
      · split at h
        · cases h
          exact .refl fs
        · cases h
    · exact keepsDirectories_makeDirectory h

theorem keepsDirectories_makeDirectories (h : fs.makeDirectories p = .ok fs') :
    KeepsDirectories fs fs' := keepsDirectories_ensureFrom h

end ProxyTrial.FileSystem
