import Mathlib.Data.List.Infix
import ProxyTrial.Proofs.Files.Writing
import ProxyTrial.Proofs.Run.Release
/-!
# What is in a run root

A start that comes to the command has written the files of the configuration, in order, and the
empty log of the process after them. Where two of them lead to one location, the later one is
there. So each file is there as configured if their names lead to locations of their own in the run
root, none of them that of the log. Nothing keeps a name from leading elsewhere: to the log, which
takes its place, to another file, or out of the run root.

## Main definitions

* `Proxy.place p root name`: the location to which the name of a file leads
* `Proxy.lastWritten`: what is the last to be written at a location
* `Proxy.Apart`: names lead to locations of their own in the run root
* `Proxy.CameToCommand r`: a start got as far as to spawn the command

## Main results

* `Filled.cons`, `filled_writeFiles`: what writing the first file, and all of them, comes to
* `cameToCommand_iff`: when a start comes to the command
* `start_fills_root`: what there is when the command is spawned
-/

namespace ProxyTrial.Proxy

open FileSystem (resolve OnTheWay OnlyDirectories)

variable {p p' : Proxy} {root : Path} {m m' : Machine} {fs fs' fs'' : FileSystem}
  {file : String × String} {files : List (String × String)} {l : Location}

/-! ## Where names lead -/

/-- The path of a file. -/
def target (p : Proxy) (root : Path) (name : String) : Path :=
  root.join (Path.ofText (p.render name))

/-- The location to which the name of a file leads. -/
def place (p : Proxy) (root : Path) (name : String) : Location :=
  resolve [] (p.target root name).parts

theorem target_root_ne (hroot : root.root ≠ "") (p : Proxy) (name : String) :
    (p.target root name).root ≠ "" := by
  unfold target Path.join
  split
  · exact hroot
  · next h => simpa using h

/-! ## Files written in order -/

/-- What is the last of some files to be written at a location, if any is. -/
def lastWritten (p : Proxy) (root : Path) : List (String × String) → Location → Option Bytes
  | [], _ => none
  | file :: files, l =>
    (p.lastWritten root files l).or
      (if l = p.place root file.1 then some (Text.utf8 (p.render file.2)) else none)

theorem exists_of_lastWritten {content : Bytes} (h : p.lastWritten root files l = some content) :
    ∃ file ∈ files, l = p.place root file.1 ∧ content = Text.utf8 (p.render file.2) := by
  induction files with
  | nil => cases h
  | cons file files ih =>
    rw [lastWritten, Option.or_eq_some_iff] at h
    rcases h with h | ⟨-, h⟩
    · obtain ⟨g, hg, hl, hcontent⟩ := ih h
      exact ⟨g, List.mem_cons_of_mem file hg, hl, hcontent⟩
    · split at h
      · next hl =>
        cases h
        exact ⟨file, List.mem_cons_self, hl, rfl⟩
      · cases h

theorem lastWritten_of_forall_ne (h : ∀ file ∈ files, l ≠ p.place root file.1) :
    p.lastWritten root files l = none := by
  cases hwritten : p.lastWritten root files l with
  | none => rfl
  | some content =>
    obtain ⟨file, hfile, hl, -⟩ := exists_of_lastWritten hwritten
    exact absurd hl (h file hfile)

/-- A file that has a location of its own is the last one to be written there. -/
theorem lastWritten_of_mem
    (h : files.Pairwise fun f g => p.place root f.1 ≠ p.place root g.1) (hfile : file ∈ files) :
    p.lastWritten root files (p.place root file.1) = some (Text.utf8 (p.render file.2)) := by
  induction files with
  | nil => cases hfile
  | cons g files ih =>
    rw [List.pairwise_cons] at h
    rw [lastWritten]
    rcases List.mem_cons.1 hfile with rfl | hfile
    · rw [lastWritten_of_forall_ne h.1, if_pos rfl]
      rfl
    · rw [ih h.2 hfile]
      rfl

/-- What has come of writing files in a file system. -/
structure Filled (p : Proxy) (root : Path) (files : List (String × String))
    (fs fs' : FileSystem) : Prop where
  content : ∀ l, fs'.content? l = (p.lastWritten root files l).or (fs.content? l)
  unchanged : ∀ l, (∀ file ∈ files, ¬ OnTheWay (p.target root file.1) l) →
    fs'.entry? l = fs.entry? l
  reached : ∀ file ∈ files, fs'.locate (p.target root file.1) = .ok (p.place root file.1)

theorem filled_nil (fs : FileSystem) : p.Filled root [] fs fs where
  content _ := rfl
  unchanged _ _ := rfl
  reached _ h := nomatch h

theorem writeFile_eq_ok_iff :
    p.writeFile root fs file = .ok fs' ↔
      ∃ fs₁, fs.makeDirectories (p.target root file.1).parent = .ok fs₁ ∧
        fs₁.write (p.target root file.1) (Text.utf8 (p.render file.2)) = .ok fs' := by
  rw [writeFile, mapError_eq_ok]
  exact bind_eq_ok

/-- A file is written where its name leads, and but for directories on the way to it nothing else
changes. -/
theorem writeFile_eq_ok (hroot : root.root ≠ "") (h : p.writeFile root fs file = .ok fs') :
    fs'.locate (p.target root file.1) = .ok (p.place root file.1) ∧
      (∀ l, ¬ OnTheWay (p.target root file.1) l → fs'.entry? l = fs.entry? l) ∧
      ∀ l, fs'.content? l =
        if l = p.place root file.1 then some (Text.utf8 (p.render file.2)) else fs.content? l := by
  obtain ⟨fs₁, hmade, hwritten⟩ := writeFile_eq_ok_iff.1 h
  exact FileSystem.makeDirectories_write_eq_ok (target_root_ne hroot p file.1) hmade hwritten

/-- Writing one more file before the others. -/
theorem Filled.cons (hroot : root.root ≠ "") (hfile : p.writeFile root fs file = .ok fs')
    (hkeeps : fs'.KeepsDirectories fs'') (h : p.Filled root files fs' fs'') :
    p.Filled root (file :: files) fs fs'' := by
  obtain ⟨hlocate, hother, hcontent⟩ := writeFile_eq_ok hroot hfile
  refine ⟨fun l => ?_, fun l hl => ?_, fun g hg => ?_⟩
  · rw [h.content l, hcontent l, lastWritten, Option.or_assoc]
    split <;> rfl
  · rw [List.forall_mem_cons] at hl
    rw [h.unchanged l hl.2, hother l hl.1]
  · rcases List.mem_cons.1 hg with rfl | hg
    · exact FileSystem.locate_of_keepsDirectories (target_root_ne hroot p _) hkeeps hlocate
    · exact h.reached g hg

theorem filled_writeFiles (hroot : root.root ≠ "")
    (h : p.writeFiles root fs files = (.ok (), fs')) : p.Filled root files fs fs' := by
  -- The induction is on the files, all of which can be written.
  induction files generalizing fs with
  | nil =>
    cases h
    exact filled_nil _
  | cons file files ih =>
    have hkeeps : ∀ fs₁ : FileSystem, p.writeFiles root fs₁ files = (.ok (), fs') →
        fs₁.KeepsDirectories fs' := by
      intro fs₁ hrest
      have hkept := keepsDirectories_writeFiles p root fs₁ files
      rwa [hrest] at hkept
    unfold writeFiles at h
    split at h
    · next fs₁ hfile => exact (ih h).cons hroot hfile (hkeeps fs₁ h)
    · cases h

/-! ## Starting -/

/-- A start got as far as to spawn the command: what ended it, if anything, was neither the want of
a run root nor a file of the configuration nor the log. -/
structure CameToCommand (r : Except ProxyError Unit) : Prop where
  made : ∀ reason, r ≠ .error (.noRoot reason)
  written : ∀ target e, r ≠ .error (.cannotWrite target e)
  logged : ∀ command e, r ≠ .error (.cannotLog command e)

theorem cameToCommand_awaitReady (p : Proxy) (m : Machine) : CameToCommand (p.awaitReady m).1 := by
  unfold awaitReady
  extract_lets url alive
  split <;> exact ⟨nofun, nofun, nofun⟩

/-- Writing ends with a file that cannot be written, if not with the last. -/
theorem writeFiles_error {e : ProxyError} (h : p.writeFiles root fs files = (.error e, fs')) :
    ∃ target e', e = .cannotWrite target e' := by
  induction files generalizing fs with
  | nil => cases h
  | cons file files ih =>
    unfold writeFiles at h
    split at h
    · exact ih h
    · next heq =>
      cases h
      rw [writeFile] at heq
      obtain ⟨e', -, rfl⟩ := mapError_eq_error.1 heq
      exact ⟨_, e', rfl⟩

/-- A proxy that is started on a machine, with its new run root. -/
def rooted (p : Proxy) (m : Machine) : Proxy := { p with root := some (runRoot m.roots.length) }

section Start

variable {fs₁ : FileSystem} {e : ProxyError}

/-- What comes of writing the files of the configuration. -/
def filesWritten (p : Proxy) (m : Machine) : Except ProxyError Unit × FileSystem :=
  (p.rooted m).writeFiles (runRoot m.roots.length) (makeRoot m).2.files p.config.files

/-- A start for which a run root can be made, in terms of its parts. -/
theorem start_in_parts (hnone : m.noRoot = none) (p : Proxy) :
    p.start m =
      match p.filesWritten m with
      | (.error e, fs) => (.error e, p.rooted m, { (makeRoot m).2 with files := fs })
      | (.ok (), fs) =>
        match (p.rooted m).spawn (runRoot m.roots.length) { (makeRoot m).2 with files := fs } with
        | (.error e, p', m') => (.error e, p', m')
        | (.ok (), p', m') => ((p'.awaitReady m').1, p', (p'.awaitReady m').2) := by
  rw [start, hnone]
  rcases hmade : makeRoot m with ⟨root, m₁⟩
  obtain ⟨rfl, -⟩ := makeRoot_spec hmade
  show p.startIn (runRoot m.roots.length) m₁ = _
  unfold startIn
  -- Both sides take the cases of what comes of the files, and of the command after them.
  rcases hfiles : p.filesWritten m with ⟨e | _, fs⟩ <;>
    simp only [filesWritten, rooted, hmade] at hfiles
  · simp only [hfiles, rooted]
  · rcases hspawn : (p.rooted m).spawn (runRoot m.roots.length) { m₁ with files := fs } with
      ⟨e | _, p', m'⟩ <;>
    · simp only [rooted] at hspawn
      simp only [hfiles, hspawn, rooted]

/-- The files of the configuration have been written in a new run root, and the empty log after
them. -/
def Prepared (p : Proxy) (m : Machine) (fs : FileSystem) : Prop :=
  m.noRoot = none ∧ ∃ fs₁, p.filesWritten m = (.ok (), fs₁) ∧
    fs₁.write (logFile (runRoot m.roots.length)) [] = .ok fs

/-- With the log there, the command is spawned in the run root. -/
theorem spawn_of_logged (h : m.files.write (logFile root) [] = .ok fs) :
    CameToCommand (p.spawn root m).1 ∧ (p.spawn root m).2.1.root = p.root ∧
      (p.spawn root m).2.1.attempt = some ⟨p.config.command.map p.render, root⟩ ∧
      (p.spawn root m).2.2.files = fs := by
  rcases hspawn : p.spawn root m with ⟨r, p', m'⟩
  rcases spawn_cases hspawn with
    ⟨e, hlog, -⟩ |
      ⟨files, hlog, ⟨-, rfl, rfl, rfl⟩ | ⟨-, rfl, rfl, rfl⟩ | ⟨-, rfl, rfl, rfl⟩⟩
  · rw [h] at hlog
    cases hlog
  · exact ⟨⟨nofun, nofun, nofun⟩, rfl, rfl, Except.ok.inj (hlog.symm.trans h)⟩
  · exact ⟨⟨nofun, nofun, nofun⟩, rfl, rfl, Except.ok.inj (hlog.symm.trans h)⟩
  · exact ⟨⟨nofun, nofun, nofun⟩, rfl, rfl, Except.ok.inj (hlog.symm.trans h)⟩

theorem spawn_of_unlogged {e : FileError} (h : m.files.write (logFile root) [] = .error e) :
    p.spawn root m = (.error (.cannotLog ((p.config.command.map p.render).headD "") e), p, m) := by
  rw [spawn, h]

/-- Waiting for the proxy changes neither the proxy nor the files. -/
theorem start_of_prepared (h : p.Prepared m fs) :
    CameToCommand (p.start m).1 ∧ (p.start m).2.1.root = some (runRoot m.roots.length) ∧
      (p.start m).2.1.attempt =
        some ⟨p.config.command.map (p.rooted m).render, runRoot m.roots.length⟩ ∧
      (p.start m).2.2.files = fs := by
  obtain ⟨hnone, fs₁, hfiles, hlog⟩ := h
  rcases hspawn : (p.rooted m).spawn (runRoot m.roots.length)
    { (makeRoot m).2 with files := fs₁ } with ⟨r, p', m'⟩
  have hspawned :=
    spawn_of_logged (p := p.rooted m) (m := { (makeRoot m).2 with files := fs₁ }) hlog
  rw [hspawn] at hspawned
  obtain ⟨hcame, hroot, hattempt, hsame⟩ := hspawned
  rw [start_in_parts hnone, hfiles]
  simp only [hspawn]
  cases r with
  | error e => exact ⟨hcame, hroot, hattempt, hsame⟩
  | ok u =>
    refine ⟨cameToCommand_awaitReady p' m', hroot, hattempt, ?_⟩
    exact (Machine.steady_spares.awaitReady p' m').files.trans hsame

/-- A start comes to the command if a run root can be made, and all files can be written, and the
log. -/
theorem cameToCommand_iff : CameToCommand (p.start m).1 ↔ ∃ fs, p.Prepared m fs := by
  constructor
  · intro h
    have hnone : m.noRoot = none := by
      cases hroot : m.noRoot with
      | none => rfl
      | some reason =>
        rw [start, hroot] at h
        exact absurd rfl (h.made reason)
    rw [start_in_parts hnone] at h
    rcases hfiles : p.filesWritten m with ⟨e | _, fs₁⟩
    · obtain ⟨target, e', rfl⟩ := writeFiles_error hfiles
      rw [hfiles] at h
      exact absurd rfl (h.written target e')
    · cases hlog : fs₁.write (logFile (runRoot m.roots.length)) [] with
      | ok fs => exact ⟨fs, hnone, fs₁, hfiles, hlog⟩
      | error e =>
        have hspawn := spawn_of_unlogged (p := p.rooted m)
          (m := { (makeRoot m).2 with files := fs₁ }) hlog
        rw [hfiles] at h
        simp only [hspawn] at h
        exact absurd rfl (h.logged _ e)
  · rintro ⟨fs, h⟩
    exact (start_of_prepared h).1

end Start

/-! ## What there is when the command is spawned -/

theorem rootName_ne (n : Nat) : rootName n ≠ ".." := by
  intro h
  have hchars := congrArg String.toList h
  simp [rootName] at hchars

theorem notMem_runRoot (n : Nat) : ".." ∉ (runRoot n).parts := by
  simp [runRoot, temporary, (rootName_ne n).symm]

theorem logFile_parts (root : Path) : (logFile root).parts = root.parts ++ ["proxy.log"] := rfl

theorem resolve_logFile (n : Nat) :
    resolve [] (logFile (runRoot n)).parts = (logFile (runRoot n)).parts := by
  rw [logFile_parts]
  refine FileSystem.resolve_of_ne ?_ []
  simp [notMem_runRoot n]

/-- A new run root, and where it has been made, are directories. All else is as it was. -/
theorem entry?_makeRoot (m : Machine) (hl : l ≠ []) :
    (makeRoot m).2.files.entry? l =
      if l = (runRoot m.roots.length).parts ∨ l = temporary then some .directory
      else m.files.entry? l := by
  have hmade : (makeRoot m).2.files =
      (m.files.put temporary .directory).put (runRoot m.roots.length).parts .directory := rfl
  rw [hmade, FileSystem.entry?_put _ _ _ hl, FileSystem.entry?_put _ _ _ hl]
  by_cases hroot : l = (runRoot m.roots.length).parts
  · rw [if_pos hroot, if_pos (.inl hroot)]
  · by_cases htemporary : l = temporary
    · rw [if_neg hroot, if_pos htemporary, if_pos (.inr htemporary)]
    · rw [if_neg hroot, if_neg htemporary, if_neg (by simp [hroot, htemporary])]

/-- The files of the configuration and the log are all that has been written. -/
theorem Prepared.spec (h : p.Prepared m fs) :
    (∀ l, fs.content? l = if l = (logFile (runRoot m.roots.length)).parts then some []
      else ((p.rooted m).lastWritten (runRoot m.roots.length) p.config.files l).or
        ((makeRoot m).2.files.content? l)) ∧
      (∀ l, l ≠ (logFile (runRoot m.roots.length)).parts →
        (∀ file ∈ p.config.files,
          ¬ OnTheWay ((p.rooted m).target (runRoot m.roots.length) file.1) l) →
        fs.entry? l = (makeRoot m).2.files.entry? l) ∧
      (∀ file ∈ p.config.files, fs.locate ((p.rooted m).target (runRoot m.roots.length) file.1) =
        .ok ((p.rooted m).place (runRoot m.roots.length) file.1)) ∧
      fs.locate (logFile (runRoot m.roots.length)) =
        .ok (logFile (runRoot m.roots.length)).parts := by
  obtain ⟨-, fs₁, hfiles, hlog⟩ := h
  have hroot : (runRoot m.roots.length).root ≠ "" := by simp [runRoot]
  have hfilled := filled_writeFiles hroot hfiles
  have hkeeps := FileSystem.keepsDirectories_write hlog
  obtain ⟨hlocate, hother, hcontent⟩ := FileSystem.write_eq_ok (by exact hroot) hlog
  rw [resolve_logFile] at hlocate hother hcontent
  refine ⟨fun l => ?_, fun l hl hway => ?_, fun file hfile => ?_, hlocate⟩
  · rw [hcontent l, hfilled.content l]
  · rw [hother l hl, hfilled.unchanged l hway]
  · exact FileSystem.locate_of_keepsDirectories (target_root_ne hroot _ _) hkeeps
      (hfilled.reached file hfile)

/-! ## Names that lead to locations of their own -/

/-- The names of files lead to locations of their own in the run root, by ways that do not leave it,
and none of them leads to the log. -/
structure Apart (p : Proxy) (root : Path) (files : List (String × String)) : Prop where
  inside : ∀ file ∈ files, root.parts <+: p.place root file.1
  not_leaving : ∀ file ∈ files, ∀ l, OnTheWay (p.target root file.1) l →
    l <+: root.parts ∨ root.parts <+: l
  own : files.Pairwise fun f g => p.place root f.1 ≠ p.place root g.1
  not_log : ∀ file ∈ files, p.place root file.1 ≠ (logFile root).parts

theorem apart_iff :
    p.Apart root files ↔
      (∀ file ∈ files, root.parts <+: p.place root file.1) ∧
      (∀ file ∈ files, ∀ l ∈ (p.target root file.1).parts.inits.map (resolve []),
        l <+: root.parts ∨ root.parts <+: l) ∧
      files.Pairwise (fun f g => p.place root f.1 ≠ p.place root g.1) ∧
      ∀ file ∈ files, p.place root file.1 ≠ (logFile root).parts := by
  simp only [← FileSystem.onTheWay_iff]
  constructor
  · rintro ⟨hinside, hleaving, hown, hlog⟩
    exact ⟨hinside, hleaving, hown, hlog⟩
  · rintro ⟨hinside, hleaving, hown, hlog⟩
    exact ⟨hinside, hleaving, hown, hlog⟩

instance (p : Proxy) (root : Path) (files : List (String × String)) :
    Decidable (p.Apart root files) := decidable_of_iff _ apart_iff.symm

/-- A run root is as configured: each file is there, with its content, and besides the log there is
no other. Outside of it nothing has changed. -/
structure AsConfigured (p : Proxy) (root : Path) (before after : FileSystem) : Prop where
  present : ∀ file ∈ p.config.files,
    after.read (root.join (Path.ofText (p.render file.1))) = .ok (Text.utf8 (p.render file.2)) ∧
      root.parts <+: p.place root file.1
  log : after.read (logFile root) = .ok []
  nothing_else : ∀ l content, root.parts <+: l → after.entry? l = some (.file content) →
    l = (logFile root).parts ∨ ∃ file ∈ p.config.files, l = p.place root file.1
  outside : ∀ l, ¬ root.parts <+: l → l ≠ temporary → after.entry? l = before.entry? l

/-- Above a run root there are the topmost directory and that of all run roots. -/
theorem eq_of_prefix_runRoot {n : Nat} (h : l <+: (runRoot n).parts) :
    l = [] ∨ l = temporary ∨ (runRoot n).parts <+: l := by
  cases l with
  | nil => exact .inl rfl
  | cons a l =>
    have hparts : (runRoot n).parts = ["tmp", rootName n] := rfl
    rw [hparts, List.cons_prefix_cons] at h
    obtain ⟨rfl, hname⟩ := h
    cases l with
    | nil => exact .inr (.inl rfl)
    | cons b l =>
      obtain ⟨rfl, -⟩ := List.cons_prefix_cons.1 hname
      exact .inr (.inr ⟨l, rfl⟩)

theorem asConfigured_of_prepared (h : p.Prepared m fs)
    (hfresh : ∀ l, (runRoot m.roots.length).parts <+: l → m.files.entry? l = none)
    (hapart : (p.rooted m).Apart (runRoot m.roots.length) p.config.files) :
    (p.rooted m).AsConfigured (runRoot m.roots.length) m.files fs := by
  obtain ⟨hcontent, hunchanged, hreached, hlog⟩ := h.spec
  refine ⟨fun file hfile => ⟨?_, hapart.inside file hfile⟩, ?_, fun l content hl hentry => ?_,
    fun l hl htemporary => ?_⟩
  · refine FileSystem.read_of_locate (hreached file hfile) ?_
    rw [← FileSystem.content?_eq_some_iff, hcontent, if_neg (hapart.not_log file hfile),
      lastWritten_of_mem hapart.own hfile]
    rfl
  · refine FileSystem.read_of_locate hlog ?_
    rw [← FileSystem.content?_eq_some_iff, hcontent, if_pos rfl]
  · rw [← FileSystem.content?_eq_some_iff, hcontent] at hentry
    split at hentry
    · next heq => exact .inl heq
    · right
      rcases Option.or_eq_some_iff.1 hentry with hwritten | ⟨-, hbefore⟩
      · obtain ⟨file, hfile, heq, -⟩ := exists_of_lastWritten hwritten
        exact ⟨file, hfile, heq⟩
      · -- There has been no file in the run root before.
        have hne : l ≠ [] := by
          rintro rfl
          exact runRoot_parts_ne_nil _ (List.prefix_nil.1 hl)
        rw [FileSystem.content?_eq_some_iff, entry?_makeRoot m hne, hfresh l hl] at hbefore
        split at hbefore <;> cases hbefore
  · by_cases hne : l = []
    · rw [hne]
      rfl
    · have hlog' : l ≠ (logFile (runRoot m.roots.length)).parts := by
        rintro rfl
        exact hl (List.prefix_append _ _)
      have hroot : l ≠ (runRoot m.roots.length).parts := by
        rintro rfl
        exact hl List.prefix_rfl
      -- A way to a file goes by what is above the run root, and by nothing else outside of it.
      have hway : ∀ file ∈ p.config.files,
          ¬ OnTheWay ((p.rooted m).target (runRoot m.roots.length) file.1) l := by
        intro file hfile hway
        rcases hapart.not_leaving file hfile l hway with habove | hbelow
        · rcases eq_of_prefix_runRoot habove with hnil | htemporary' | hbelow
          · exact hne hnil
          · exact htemporary htemporary'
          · exact hl hbelow
        · exact hl hbelow
      rw [hunchanged l hlog' hway, entry?_makeRoot m hne, if_neg (by simp [hroot, htemporary])]

/-- A start that comes to the command spawns it in its new run root, with the placeholders filled
in. At every location there is what has been written there last, which is the log after the files.
If the run root is new, and the names of the files lead to locations of their own in it, then it is
as configured. -/
theorem start_fills_root (p : Proxy) (m : Machine) (h : CameToCommand (p.start m).1) :
    let root := runRoot m.roots.length
    let q := { p with root := some root }
    let fs := (p.start m).2.2.files
    (p.start m).2.1.root = some root ∧
      (p.start m).2.1.attempt = some ⟨p.config.command.map q.render, root⟩ ∧
      (∀ l, fs.content? l = if l = (logFile root).parts then some []
        else (q.lastWritten root p.config.files l).or ((makeRoot m).2.files.content? l)) ∧
      ((∀ l, root.parts <+: l → m.files.entry? l = none) → q.Apart root p.config.files →
        q.AsConfigured root m.files fs) := by
  intro root q fs
  obtain ⟨fs', hprepared⟩ := cameToCommand_iff.1 h
  obtain ⟨-, hroot, hattempt, hfiles⟩ := start_of_prepared hprepared
  obtain rfl : fs = fs' := hfiles
  exact ⟨hroot, hattempt, hprepared.spec.1, asConfigured_of_prepared hprepared⟩

/-- Names that lead into the run root, one of them although it is absolute and the other although
it goes back. -/
theorem start_fills_root_absolute :
    let config : ProxyConfig := {
      command := ["proxy", "\x7btmpdir\x7d"], port := 8080
      files := [("\x7btmpdir\x7d/etc/\x7bproxy_port\x7d.conf", "map \x7borigin_port\x7d"),
        ("etc/../a", "\x7btmpdir\x7d")] }
    let p : Proxy := { config, originPort := 40000 }
    let m : Machine := { probes := [(8080, [some 200])] }
    let root := runRoot 0
    let q := { p with root := some root }
    CameToCommand (p.start m).1 ∧ (∀ l, root.parts <+: l → m.files.entry? l = none) ∧
      q.Apart root config.files ∧ q.AsConfigured root m.files (p.start m).2.2.files := by
  intro config p m root q
  have hcame : CameToCommand (p.start m).1 := by
    have hok : (p.start m).1.toOption.isSome := by decide +kernel
    cases hr : (p.start m).1 with
    | error e =>
      rw [hr] at hok
      cases hok
    | ok u => exact ⟨nofun, nofun, nofun⟩
  have hfresh : ∀ l, root.parts <+: l → m.files.entry? l = none := by
    rintro l ⟨rest, rfl⟩
    rfl
  have hapart : q.Apart root config.files := by decide +kernel
  exact ⟨hcame, hfresh, hapart, (start_fills_root p m hcame).2.2.2 hfresh hapart⟩

/-- A file with the name of the log is lost to it, and one whose name goes back is written outside
of the run root. -/
theorem start_loses_file :
    let p : Proxy := {
      config := {
        command := ["proxy"], port := 8080, files := [("proxy.log", "x"), ("../y", "z")] }
      originPort := 40000 }
    let m : Machine := { probes := [(8080, [some 200])] }
    let root := runRoot 0
    let q := { p with root := some root }
    let fs := (p.start m).2.2.files
    (p.start m).1.toOption = some () ∧
      fs.read (root.join (Path.ofText (q.render "proxy.log"))) ≠ .ok (Text.utf8 (q.render "x")) ∧
      m.files.entry? ["tmp", "y"] = none ∧
      fs.entry? ["tmp", "y"] = some (.file (Text.utf8 "z")) := by
  intro p m root q fs
  have hfacts : (p.start m).1.toOption = some () ∧
      (fs.read (root.join (Path.ofText (q.render "proxy.log")))).toOption = some [] ∧
      Text.utf8 (q.render "x") ≠ [] ∧
      m.files.entry? ["tmp", "y"] = none ∧
      fs.entry? ["tmp", "y"] = some (.file (Text.utf8 "z")) := by
    decide +kernel
  obtain ⟨hok, hlog, hne, hnone, hfile⟩ := hfacts
  refine ⟨hok, ?_, hnone, hfile⟩
  intro hread
  rw [hread] at hlog
  exact hne (Option.some.inj hlog)

end ProxyTrial.Proxy
