import Mathlib.Data.List.Infix
import ProxyTrial.Proofs.Files.System
/-!
# What writing changes

A path leads to one location, whatever else there is: where its names lead by themselves, a double
dot taking the name before it away. Writing a file changes what is at that location and nothing
else; making directories changes no file, and nothing but on the way to the last of them.

## Main definitions

* `FileSystem.resolve loc names`: where names lead by themselves
* `FileSystem.content?`: what is in the file at a location
* `FileSystem.OnTheWay p l`: a location to which the first names of a path lead
* `FileSystem.OnlyDirectories L fs fs'`: at locations with a property there may be new directories

## Main results

* `locate_eq_resolve`: a path leads where its names lead by themselves
* `locate_of_keepsDirectories`: it still leads there when there is more
* `onlyDirectories_makeDirectories`, `write_eq_ok`: what has changed afterwards
* `makeDirectories_write_eq_ok`: what has changed after both
-/

namespace ProxyTrial

@[simp] theorem Path.parent_root (p : Path) : p.parent.root = p.root := rfl

namespace FileSystem

variable {fs fs' fs'' : FileSystem} {l loc : Location} {p : Path} {names : List String}
  {content : Bytes}

/-! ## Where paths lead -/

/-- Where names lead from a directory by themselves. -/
def resolve (loc : Location) (names : List String) : Location :=
  names.foldl (fun loc name => if name == ".." then loc.dropLast else loc ++ [name]) loc

/-- Names without double dots are the location to which they lead. -/
theorem resolve_of_ne (h : ".." ∉ names) (loc : Location) : resolve loc names = loc ++ names := by
  induction names generalizing loc with
  | nil => rw [List.append_nil]; rfl
  | cons name names ih =>
    obtain ⟨hname, hnames⟩ := List.ne_and_not_mem_of_not_mem_cons h
    have hstep : resolve loc (name :: names) = resolve (loc ++ [name]) names := by
      rw [resolve, List.foldl_cons, if_neg (by simpa using hname.symm)]
      rfl
    rw [hstep, ih hnames, List.append_assoc, List.singleton_append]

theorem follow_eq_resolve (h : fs.follow loc names = .ok l) : l = resolve loc names := by
  induction names generalizing loc with
  | nil =>
    cases h
    rfl
  | cons name names ih =>
    unfold follow at h
    rw [resolve, List.foldl_cons]
    split at h
    · cases h
    · cases h
    · split at h
      · next hup =>
        rw [if_pos hup]
        exact ih h
      · next hup =>
        rw [if_neg hup]
        split at h
        · cases h
        · exact ih h

/-- An absolute path leads where its names lead by themselves. -/
theorem locate_eq_resolve (hp : p.root ≠ "") (h : fs.locate p = .ok l) :
    l = resolve [] p.parts := by
  unfold locate at h
  split at h
  · cases h
  · split at h
    · cases h
    · rw [if_neg (by simpa using hp)] at h
      exact follow_eq_resolve h

/-- Where a path has led, it still leads when there are more directories. -/
theorem follow_of_keepsDirectories (hkeeps : fs.KeepsDirectories fs')
    (h : fs.follow loc names = .ok l) : fs'.follow loc names = .ok l := by
  -- Names are followed from directories, and these are still there.
  induction names generalizing loc with
  | nil => exact h
  | cons name names ih =>
    unfold follow at h ⊢
    split at h
    · cases h
    · cases h
    · next hdirectory =>
      rw [hkeeps loc hdirectory]
      simp only
      split at h
      · next hup =>
        rw [if_pos hup]
        exact ih h
      · next hup =>
        rw [if_neg hup]
        split at h
        · cases h
        · next hlong =>
          rw [if_neg hlong]
          exact ih h

theorem locate_of_keepsDirectories (hp : p.root ≠ "") (hkeeps : fs.KeepsDirectories fs')
    (h : fs.locate p = .ok l) : fs'.locate p = .ok l := by
  unfold locate at h ⊢
  have hroot : (p.root == "") = false := by simpa using hp
  simp only [hroot, Bool.false_eq_true, if_false] at h ⊢
  split at h
  · cases h
  · split at h
    · cases h
    · next hnull hlong =>
      rw [if_neg hnull, if_neg hlong]
      exact follow_of_keepsDirectories hkeeps h

/-! ## Contents -/

/-- What is in the file at a location, if there is one. -/
def content? (fs : FileSystem) (l : Location) : Option Bytes :=
  match fs.entry? l with
  | some (.file content) => some content
  | _ => none

theorem content?_eq_some_iff :
    fs.content? l = some content ↔ fs.entry? l = some (.file content) := by
  unfold content?
  split
  · next heq => simp [heq]
  · next hne =>
    constructor
    · intro h
      cases h
    · intro h
      exact absurd h (hne content)

theorem content?_congr (h : fs'.entry? l = fs.entry? l) : fs'.content? l = fs.content? l := by
  rw [content?, content?, h]

theorem content?_of_directory (h : fs.entry? l = some .directory) : fs.content? l = none := by
  rw [content?, h]

theorem content?_of_none (h : fs.entry? l = none) : fs.content? l = none := by
  rw [content?, h]

/-- Nothing changes but at the location where something is put. -/
theorem entry?_put_of_ne (fs : FileSystem) (e : FileEntry) (h : l ≠ loc) :
    FileSystem.entry? (fs.put loc e) l = fs.entry? l := by
  by_cases hroot : l = []
  · rw [hroot]
    rfl
  · rw [entry?_put fs loc e hroot, if_neg h]

/-! ## New directories -/

/-- No file has changed, and nothing at all but at locations with a property. -/
structure OnlyDirectories (L : Location → Prop) (fs fs' : FileSystem) : Prop where
  content : ∀ l, fs'.content? l = fs.content? l
  unchanged : ∀ l, ¬ L l → fs'.entry? l = fs.entry? l

variable {L L' : Location → Prop}

theorem OnlyDirectories.refl (L : Location → Prop) (fs : FileSystem) : OnlyDirectories L fs fs :=
  ⟨fun _ => rfl, fun _ _ => rfl⟩

theorem OnlyDirectories.trans (h : OnlyDirectories L fs fs') (h' : OnlyDirectories L fs' fs'') :
    OnlyDirectories L fs fs'' where
  content l := (h'.content l).trans (h.content l)
  unchanged l hl := (h'.unchanged l hl).trans (h.unchanged l hl)

theorem OnlyDirectories.mono (h : OnlyDirectories L fs fs') (hL : ∀ l, L l → L' l) :
    OnlyDirectories L' fs fs' where
  content := h.content
  unchanged l hl := h.unchanged l fun hl' => hl (hL l hl')

/-- A directory put where there is nothing. -/
theorem onlyDirectories_put (h : fs.entry? loc = none) :
    OnlyDirectories (· = loc) fs (fs.put loc .directory) := by
  refine ⟨fun l => ?_, fun l => entry?_put_of_ne fs .directory⟩
  by_cases hl : l = loc
  · subst hl
    have hroot : l ≠ [] := by
      rintro rfl
      cases h
    rw [content?_of_none h, content?_of_directory]
    rw [entry?_put fs l .directory hroot, if_pos rfl]
  · exact content?_congr (entry?_put_of_ne fs .directory hl)

/-- A location to which the first names of a path lead. -/
def OnTheWay (p : Path) (l : Location) : Prop := ∃ names, names <+: p.parts ∧ l = resolve [] names

theorem onTheWay_iff : OnTheWay p l ↔ l ∈ p.parts.inits.map (resolve []) := by
  simp only [OnTheWay, List.mem_map, List.mem_inits, eq_comm]

theorem onTheWay_end (p : Path) : OnTheWay p (resolve [] p.parts) := ⟨_, List.prefix_rfl, rfl⟩

theorem OnTheWay.of_parent (h : OnTheWay p.parent l) : OnTheWay p l := by
  obtain ⟨names, hnames, rfl⟩ := h
  exact ⟨names, hnames.trans (List.dropLast_prefix p.parts), rfl⟩

theorem onlyDirectories_makeDirectory (hp : p.root ≠ "") (h : fs.makeDirectory p = .ok fs') :
    OnlyDirectories (OnTheWay p) fs fs' := by
  unfold makeDirectory at h
  split at h
  · cases h
  · next loc hlocate =>
    obtain rfl := locate_eq_resolve hp hlocate
    split at h
    · cases h
    · next hnone =>
      cases h
      refine (onlyDirectories_put (by simpa using hnone)).mono ?_
      rintro _ rfl
      exact onTheWay_end p

theorem onlyDirectories_ensureDirectory (hp : p.root ≠ "") (h : fs.ensureDirectory p = .ok fs') :
    OnlyDirectories (OnTheWay p) fs fs' := by
  unfold ensureDirectory at h
  split at h
  · split at h
    · cases h
      exact .refl _ fs
    · cases h
  · exact onlyDirectories_makeDirectory hp h

theorem onlyDirectories_ensureFrom {depth : Nat} (hp : p.root ≠ "")
    (h : fs.ensureFrom depth p = .ok fs') : OnlyDirectories (OnTheWay p) fs fs' := by
  -- The induction is on the directories above that may have to be made first.
  induction depth generalizing p fs' with
  | zero => exact onlyDirectories_ensureDirectory hp h
  | succ depth ih =>
    unfold ensureFrom at h
    split at h
    · split at h
      · obtain ⟨fs₁, habove, hbelow⟩ := bind_eq_ok.1 h
        exact ((ih (by rwa [Path.parent_root]) habove).mono fun _ => .of_parent).trans
          (onlyDirectories_ensureDirectory hp hbelow)
      · split at h
        · cases h
          exact .refl _ fs
        · cases h
    · exact onlyDirectories_makeDirectory hp h

/-- Making directories changes nothing but on the way to the last of them. -/
theorem onlyDirectories_makeDirectories (hp : p.root ≠ "") (h : fs.makeDirectories p = .ok fs') :
    OnlyDirectories (OnTheWay p) fs fs' := onlyDirectories_ensureFrom hp h

/-! ## Written files -/

/-- What has been written is where the path leads, and all else is as it was. -/
theorem write_eq_ok (hp : p.root ≠ "") (h : fs.write p content = .ok fs') :
    fs'.locate p = .ok (resolve [] p.parts) ∧
      (∀ l, l ≠ resolve [] p.parts → fs'.entry? l = fs.entry? l) ∧
      ∀ l, fs'.content? l = if l = resolve [] p.parts then some content else fs.content? l := by
  have hkeeps := keepsDirectories_write h
  unfold write at h
  split at h
  · cases h
  · next loc hlocate =>
    obtain rfl := locate_eq_resolve hp hlocate
    split at h
    · cases h
    · next hne =>
      cases h
      -- The topmost directory is no place for a file.
      have hroot : resolve [] p.parts ≠ [] := by
        intro hnil
        rw [hnil] at hne
        exact hne rfl
      refine ⟨locate_of_keepsDirectories hp hkeeps hlocate,
        fun l => entry?_put_of_ne fs (.file content), fun l => ?_⟩
      split
      · next hl =>
        rw [hl, content?_eq_some_iff, entry?_put fs _ _ hroot, if_pos rfl]
      · next hl => exact content?_congr (entry?_put_of_ne fs (.file content) hl)

/-- A file is written where its path leads, the directories above being made first. But for these
nothing else changes. -/
theorem makeDirectories_write_eq_ok (hp : p.root ≠ "")
    (hmade : fs.makeDirectories p.parent = .ok fs') (hwritten : fs'.write p content = .ok fs'') :
    fs''.locate p = .ok (resolve [] p.parts) ∧
      (∀ l, ¬ OnTheWay p l → fs''.entry? l = fs.entry? l) ∧
      ∀ l, fs''.content? l = if l = resolve [] p.parts then some content else fs.content? l := by
  have hdirectories := onlyDirectories_makeDirectories (by rwa [Path.parent_root]) hmade
  obtain ⟨hlocate, hother, hcontent⟩ := write_eq_ok hp hwritten
  refine ⟨hlocate, fun l hl => ?_, fun l => ?_⟩
  · have hne : l ≠ resolve [] p.parts := by
      rintro rfl
      exact hl (onTheWay_end p)
    rw [hother l hne]
    exact hdirectories.unchanged l fun hway => hl hway.of_parent
  · rw [hcontent l, hdirectories.content l]

end FileSystem

end ProxyTrial
