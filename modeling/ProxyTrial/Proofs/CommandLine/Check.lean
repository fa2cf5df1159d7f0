import Mathlib.Data.List.Forall2
import ProxyTrial.CommandLine.Session
import ProxyTrial.Proofs.CommandLine.Arguments
import ProxyTrial.Proofs.Files.Refusal
import ProxyTrial.Proofs.Script.Limits
import ProxyTrial.Proofs.Script.LineEnds
/-!
# Checking files

What is written about a file is found in that file alone. A session that checks files writes it in
the order of the files, and says in the end whether all of them hold scripts. A file can also break
the session off: its path has a null character, its content is no text, or a token of the text
exceeds a limit. What is written about the files before it stands then, and there is nothing about
those behind it.

## Main definitions

* `Diagnosis fs p d`: what is found in a file, or why it breaks a session off
* `summary reports`: what comes of files that all have a report

## Main results

* `diagnosis_iff`: the check of a file comes to its diagnosis
* `checkFrom_append`: the reports on files are written one after another
* `session_check`: what a session that checks files comes to
-/

namespace ProxyTrial.CommandLine

open Script

/-- What is written about a file. -/
structure Report where
  /-- Whether the file holds a script. -/
  good : Bool
  out : String := ""
  err : String := ""

/-- What is found in a file: a script, a fault in the text that it holds, or that it cannot be read.
Else the error with which it breaks a session off. -/
inductive Diagnosis (fs : FileSystem) (p : Path) : Except ScriptFileError Report → Prop
  | script {source : String} {s : Script} : fs.read p = .ok (Text.utf8 source) →
      parse (unified source) = .ok s → Diagnosis fs p (.ok { good := true, out := countLine p s })
  | fault {source : String} {f : Fault} {t : Token} : fs.read p = .ok (Text.utf8 source) →
      parse (unified source) = .error (.faultAt f t) →
      Diagnosis fs p (.ok { good := false, err := errorLine p (.script (.faultAt f t)) })
  | refused {e : FileError} : fs.read p = .error e → '\x00' ∉ p.shown.toList →
      Diagnosis fs p (.ok { good := false, err := errorLine p (.file p (.file e)) })
  | nullCharacter {e : FileError} : fs.read p = .error e → '\x00' ∈ p.shown.toList →
      Diagnosis fs p (.error (.file p (.file e)))
  | encoding {bs : Bytes} {e : Text.Utf8Error} : fs.read p = .ok bs →
      (∀ source, bs ≠ Text.utf8 source) → Text.ofUtf8 bs = .error e →
      Diagnosis fs p (.error (.file p (.encoding e)))
  | limit {source : String} {e : ScriptError} : fs.read p = .ok (Text.utf8 source) →
      parse (unified source) = .error e → Excess (lineTokens (unified source)) e →
      Diagnosis fs p (.error (.script e))

/-- What comes of files that all have a report. -/
def summary (reports : List Report) : Outcome where
  ending := .exit (if reports.all (·.good) then 0 else 1)
  out := String.join (reports.map (·.out)) ++
    if reports.all (·.good) then "No issues found.\n" else ""
  err := String.join (reports.map (·.err))

variable {fs : FileSystem} {p : Path} {d : Except ScriptFileError Report} {r : Report}
  {e : ScriptFileError} {ps qs : List Path} {rs : List Report} {args names : List String}

/-! ## One file -/

/-- The check of one file. -/
def diagnose (fs : FileSystem) (p : Path) : Except ScriptFileError Report :=
  match fs.readScript p with
  | .ok s => .ok { good := true, out := countLine p s }
  | .error e => if e.isFinding then .ok { good := false, err := errorLine p e } else .error e

theorem diagnose_of_error (h : fs.readScript p = .error e) :
    diagnose fs p =
      if e.isFinding then .ok { good := false, err := errorLine p e } else .error e := by
  rw [diagnose, h]

/-- A file that cannot be read has no script. -/
theorem readScript_of_read_error {e : FileError} (h : fs.read p = .error e) :
    fs.readScript p = .error (.file p (.file e)) := by
  rw [FileSystem.readScript, FileSystem.readText, h]

theorem isFinding_file (p : Path) (e : FileError) :
    ScriptFileError.isFinding (.file p (.file e)) = e.isRefusal := by
  cases h : e.isRefusal <;> simp [ScriptFileError.isFinding, ReadError.refusal?, h]

theorem isFinding_of_excess {ts : List Token} {e : ScriptError} (h : Excess ts e) :
    ScriptFileError.isFinding (.script e) = false := by
  cases h <;> rfl

theorem Diagnosis.diagnose_eq (h : Diagnosis fs p d) : diagnose fs p = d := by
  cases h with
  | script hread hparse =>
    rw [diagnose, FileSystem.readScript_eq hread, hparse]
    rfl
  | fault hread hparse =>
    have hscript := FileSystem.readScript_eq hread
    rw [hparse] at hscript
    exact diagnose_of_error hscript
  | refused hread hnull =>
    rw [diagnose_of_error (readScript_of_read_error hread), isFinding_file, if_pos]
    exact Bool.of_not_eq_false (mt (FileSystem.read_not_isRefusal_iff hread).1 hnull)
  | nullCharacter hread hnull =>
    rw [diagnose_of_error (readScript_of_read_error hread), isFinding_file,
      (FileSystem.read_not_isRefusal_iff hread).2 hnull]
    rfl
  | @encoding bs e hread _ htext =>
    have hscript : fs.readScript p = .error (.file p (.encoding e)) := by
      rw [FileSystem.readScript, FileSystem.readText, hread]
      simp only [htext]
    exact diagnose_of_error hscript
  | limit hread hparse hexcess =>
    have hscript := FileSystem.readScript_eq hread
    rw [hparse] at hscript
    rw [diagnose_of_error hscript, isFinding_of_excess hexcess]
    rfl

/-- Every file has a diagnosis. -/
theorem exists_diagnosis (fs : FileSystem) (p : Path) : ∃ d, Diagnosis fs p d := by
  -- A file is read, its content decoded and the text parsed; each of these may fail in two ways.
  cases hread : fs.read p with
  | error e =>
    by_cases hnull : '\x00' ∈ p.shown.toList
    · exact ⟨_, .nullCharacter hread hnull⟩
    · exact ⟨_, .refused hread hnull⟩
  | ok bs =>
    cases htext : Text.ofUtf8 bs with
    | error e => exact ⟨_, .encoding hread (Text.ne_utf8_of_error htext) htext⟩
    | ok source =>
      obtain rfl := Text.ofUtf8_eq_ok_iff.1 htext
      cases hparse : parse (unified source) with
      | ok s => exact ⟨_, .script hread hparse⟩
      | error e =>
        rcases stanzas_explained (faces_lineTokens _) hparse with ⟨f, t, rfl⟩ | hexcess
        · exact ⟨_, .fault hread hparse⟩
        · exact ⟨_, .limit hread hparse hexcess⟩

/-- The check of a file comes to its diagnosis. -/
theorem diagnosis_iff : Diagnosis fs p d ↔ diagnose fs p = d := by
  refine ⟨Diagnosis.diagnose_eq, fun h => ?_⟩
  obtain ⟨d', hd⟩ := exists_diagnosis fs p
  rwa [← h, hd.diagnose_eq]

/-! ## One file after another -/

/-- A file is checked on its own; the others have been or will be. -/
theorem checkFrom_cons (fs : FileSystem) (good : Bool) (out err : String) (p : Path)
    (ps : List Path) :
    checkFrom fs good out err (p :: ps) =
      match diagnose fs p with
      | .ok r => checkFrom fs (good && r.good) (out ++ r.out) (err ++ r.err) ps
      | .error e => { ending := .breakdown (.script e), out, err } := by
  rw [checkFrom, diagnose]
  cases fs.readScript p with
  | ok s => simp
  | error e => cases hfinding : e.isFinding <;> simp [hfinding]

/-- The reports on files are written one after another. -/
theorem checkFrom_append (h : List.Forall₂ (fun p r => Diagnosis fs p (.ok r)) ps rs) (good : Bool)
    (out err : String) (qs : List Path) :
    checkFrom fs good out err (ps ++ qs) =
      checkFrom fs (good && rs.all (·.good)) (out ++ String.join (rs.map (·.out)))
        (err ++ String.join (rs.map (·.err))) qs := by
  -- The induction is on the files; what has been written about those before is carried along.
  induction h generalizing good out err with
  | nil => simp
  | cons hp _ ih =>
    rw [List.cons_append, checkFrom_cons, hp.diagnose_eq]
    dsimp only
    rw [ih]
    simp [String.join_cons, String.append_assoc, Bool.and_assoc]

/-- All files have a report, or there is a first one that breaks the session off. -/
theorem exists_reports (fs : FileSystem) (ps : List Path) :
    (∃ rs, List.Forall₂ (fun p r => Diagnosis fs p (.ok r)) ps rs) ∨
      ∃ before p after rs e, ps = before ++ p :: after ∧
        List.Forall₂ (fun p r => Diagnosis fs p (.ok r)) before rs ∧ Diagnosis fs p (.error e) := by
  induction ps with
  | nil => exact .inl ⟨[], .nil⟩
  | cons p ps ih =>
    obtain ⟨e | r, hp⟩ := exists_diagnosis fs p
    · exact .inr ⟨[], p, ps, [], e, rfl, .nil, hp⟩
    · rcases ih with ⟨rs, hall⟩ | ⟨before, q, after, rs, e, rfl, hbefore, hq⟩
      · exact .inl ⟨r :: rs, .cons hp hall⟩
      · exact .inr ⟨p :: before, q, after, r :: rs, e, rfl, .cons hp hbefore, hq⟩

/-- A check of files that all have a report comes to the summary of the reports. -/
theorem check_of_reports (h : List.Forall₂ (fun p r => Diagnosis fs p (.ok r)) ps rs) :
    check fs ps = summary rs := by
  have hcheck := checkFrom_append h true "" "" []
  rw [List.append_nil, Bool.true_and, String.empty_append, String.empty_append] at hcheck
  rw [check, hcheck, checkFrom, summary]
  split <;> simp_all

/-- A check breaks off at a file without a report, with the reports on those before it. -/
theorem check_of_breakdown (h : List.Forall₂ (fun p r => Diagnosis fs p (.ok r)) ps rs)
    (hp : Diagnosis fs p (.error e)) (after : List Path) :
    check fs (ps ++ p :: after) =
      { ending := .breakdown (.script e), out := String.join (rs.map (·.out))
        err := String.join (rs.map (·.err)) } := by
  rw [check, checkFrom_append h, checkFrom_cons, hp.diagnose_eq]
  simp

/-! ## Sessions -/

/-- A command line that asks for a check of files has them checked, and that is all. -/
theorem AsksToCheck.session_eq (h : AsksToCheck args names) (m : Machine) :
    session args m = (check m.files (names.map Path.ofText), m) := by
  rw [session, h.ofArguments_eq]

/-- A session that checks files leaves the machine as it is. What is found in each file depends on
that file alone. If all files have a report, the session ends with the summary of the reports; else
it breaks off at the first file without one, with the reports on those before it. -/
theorem session_check (m : Machine) (h : AsksToCheck args names) :
    (session args m).2 = m ∧ (∀ p, ∃! d, Diagnosis m.files p d) ∧
      ((∃ reports,
          List.Forall₂ (fun p r => Diagnosis m.files p (.ok r)) (names.map Path.ofText) reports ∧
            (session args m).1 = summary reports) ∨
        ∃ before p after reports e, names.map Path.ofText = before ++ p :: after ∧
          List.Forall₂ (fun p r => Diagnosis m.files p (.ok r)) before reports ∧
          Diagnosis m.files p (.error e) ∧
          (session args m).1 =
            { ending := .breakdown (.script e), out := String.join (reports.map (·.out))
              err := String.join (reports.map (·.err)) }) := by
  rw [h.session_eq]
  refine ⟨rfl, fun p => ?_, ?_⟩
  · obtain ⟨d, hd⟩ := exists_diagnosis m.files p
    exact ⟨d, hd, fun d' hd' => (diagnosis_iff.1 hd').symm.trans hd.diagnose_eq⟩
  · rcases exists_reports m.files (names.map Path.ofText) with
      ⟨rs, hall⟩ | ⟨before, p, after, rs, e, hfiles, hbefore, hp⟩
    · exact .inl ⟨rs, hall, check_of_reports hall⟩
    · refine .inr ⟨before, p, after, rs, e, hfiles, hbefore, hp, ?_⟩
      rw [hfiles]
      exact check_of_breakdown hbefore hp after

/-- A script, and a file that is not there. -/
theorem session_check_missing :
    let m : Machine := { files := { entries := [
      (["a.htc"], .file (Text.utf8 "client \"c\" \x7b\x7d"))] } }
    let args := ["check", "a.htc", "b.htc"]
    AsksToCheck args ["a.htc", "b.htc"] ∧ (session args m).2 = m ∧
      (session args m).1.out = "a.htc: 0 handler(s), 1 client(s)\n" ∧
      (session args m).1.err = "Error: b.htc: Cannot read script 'b.htc': " ++
        "[Errno 2] No such file or directory: 'b.htc'\n" := by
  intro m args
  have hasks : AsksToCheck args ["a.htc", "b.htc"] := .plain nofun (by decide)
  exact ⟨hasks, (session_check m hasks).1, by decide +kernel, by decide +kernel⟩

/-- A file that holds no text breaks the session off in front of a script. -/
theorem session_check_no_text :
    let m : Machine := { files := { entries := [(["a.htc"], .file [0xff]),
      (["b.htc"], .file (Text.utf8 "client \"c\" \x7b\x7d"))] } }
    let args := ["check", "a.htc", "b.htc"]
    AsksToCheck args ["a.htc", "b.htc"] ∧ (∀ code, (session args m).1.ending ≠ .exit code) ∧
      (session args m).1.out = "" ∧ (session args m).1.err = "" := by
  intro m args
  have hasks : AsksToCheck args ["a.htc", "b.htc"] := .plain nofun (by decide)
  have hread : m.files.read (.ofText "a.htc") = .ok [0xff] := by decide +kernel
  obtain ⟨e, htext⟩ : ∃ e, Text.ofUtf8 [0xff] = .error e := ⟨_, rfl⟩
  have hcheck := check_of_breakdown .nil
    (.encoding hread (Text.ne_utf8_of_error htext) htext) [.ofText "b.htc"]
  have hsession : (session args m).1 = { ending := .breakdown (.script _) } :=
    (congrArg Prod.fst (hasks.session_eq m)).trans hcheck
  rw [hsession]
  exact ⟨hasks, fun code => by simp, rfl, rfl⟩

end ProxyTrial.CommandLine
