import ProxyTrial.CommandLine.Session
import ProxyTrial.Proofs.CommandLine.Request
/-!
# Running a script

A session that runs a script passes if the configuration that is chosen for the run and the script
can be read and the run of them has a result without failures. Else it reports what has been found.
Nothing but the contexts of failures depends on whether one asks for them: they stand in front of
the entries for the failures.

## Main definitions

* `Chosen fs path c`: the configuration that is chosen for a run
* `Passes m r`: the run has a result without failures
* `Reported m r entries`: what is found if it has none

## Main results

* `run_cases`: what comes of a run, with and without contexts
* `exits_zero_iff`: the runs that pass
* `session_run`: what a session that runs a script comes to
-/

namespace ProxyTrial.CommandLine

/-! ## Passing runs and reports -/

/-- The file for the configuration of runs from the current directory. -/
def usualConfig (fs : FileSystem) : Path :=
  ({ root := "/", parts := fs.current } : Path).join (.ofText Invocation.defaultConfig)

/-- The configuration that is chosen for a run, or why it cannot be had: from the file that is asked
for, else from the usual file if it is there, else the one that has every default. -/
inductive Chosen (fs : FileSystem) : Option Path → Except ConfigError RunConfig → Prop
  | named (p : Path) : Chosen fs (some p) (fs.readConfig p)
  | usual : fs.contains (usualConfig fs) → Chosen fs none (fs.readConfig (usualConfig fs))
  | default : ¬ fs.contains (usualConfig fs) → Chosen fs none (.ok {})

/-- The configuration and the script can be had, and this is what the run of them comes to. An
address that is asked for takes the place of the proxy. -/
def RunsTo (m : Machine) (r : RunRequest) (x : Except RunError RunResult) : Prop :=
  ∃ config s, Chosen m.files r.config (.ok config) ∧ m.files.readScript r.script = .ok s ∧
    (Run.run s (withAddress config r.proxyAddress) m).1 = x

/-- The run has a result without failures. -/
def Passes (m : Machine) (r : RunRequest) : Prop :=
  ∃ result, RunsTo m r (.ok result) ∧ result.failures = []

/-- An entry of a report. The context stands in front of it if one asks for contexts. -/
structure Entry where
  context : String := ""
  text : String

/-- An entry as it is written. -/
def Entry.written (verbose : Bool) (e : Entry) : String :=
  if verbose then e.context ++ e.text else e.text

/-- The entry for a failure. -/
def Entry.ofFailure (f : RunFailure) : Entry where
  context := if f.context = "" then "" else f.context ++ "\n"
  text := "  " ++ f.shown ++ "\n"

/-- What is found by a run that does not pass: that there is no configuration, no script or no
result, or the failures of the result in their order and the run root that is kept. -/
inductive Reported (m : Machine) (r : RunRequest) : List Entry → Prop
  | config {e : ConfigError} : Chosen m.files r.config (.error e) →
      Reported m r [{ text := "Error: " ++ e.message ++ "\n" }]
  | script {config : RunConfig} {e : ScriptFileError} : Chosen m.files r.config (.ok config) →
      m.files.readScript r.script = .error e →
      Reported m r [{ text := "Error: " ++ r.script.shown ++ ": " ++ e.message ++ "\n" }]
  | noResult {e : RunError} : RunsTo m r (.error e) →
      Reported m r [{ text := "FAIL " ++ r.script.shown ++ "\nError: " ++ e.message ++ "\n" }]
  | failures {result : RunResult} : RunsTo m r (.ok result) → result.failures ≠ [] →
      Reported m r ({ text := "FAIL " ++ r.script.shown ++ "\n" } ::
        (result.failures.map Entry.ofFailure ++ result.root.toList.map fun root =>
          { text := "Proxy run root kept at " ++ root.shown ++ "\n" }))

/-- Entries as they are written one after another. -/
def written (verbose : Bool) (entries : List Entry) : String :=
  String.join (entries.map (·.written verbose))

variable {fs : FileSystem} {path : Option Path} {c : Except ConfigError RunConfig} {m : Machine}
  {r : RunRequest} {args args' : List String}

theorem chosen_iff : Chosen fs path c ↔ chosenConfig fs path = c := by
  constructor
  · intro h
    cases h with
    | named p => rfl
    | usual hthere => exact if_pos hthere
    | default hmissing => exact if_neg hmissing
  · rintro rfl
    cases path with
    | some p => exact .named p
    | none =>
      by_cases hthere : fs.contains (usualConfig fs)
      · rw [show chosenConfig fs none = _ from if_pos hthere]
        exact .usual hthere
      · rw [show chosenConfig fs none = _ from if_neg hthere]
        exact .default hthere

/-! ## Outcomes -/

theorem failureLines_eq (verbose : Bool) (f : RunFailure) :
    failureLines verbose f = (Entry.ofFailure f).written verbose := by
  unfold failureLines Entry.written Entry.ofFailure
  cases verbose with
  | false => simp only [Bool.false_and, Bool.false_eq_true, if_false, String.empty_append]
  | true =>
    by_cases hcontext : f.context = ""
    · simp [hcontext]
    · simp only [Bool.true_and, bne_iff_ne, ne_eq, hcontext, not_false_eq_true, if_true, if_false,
        String.append_assoc]

theorem failureReport_eq (script : Path) (verbose : Bool) (result : RunResult) :
    failureReport script verbose result =
      written verbose ({ text := "FAIL " ++ script.shown ++ "\n" } ::
        (result.failures.map Entry.ofFailure ++ result.root.toList.map fun root =>
          { text := "Proxy run root kept at " ++ root.shown ++ "\n" })) := by
  have hplain (text : String) : ({ text } : Entry).written verbose = text := by
    cases verbose <;> simp [Entry.written]
  have hfailures : (result.failures.map Entry.ofFailure).map (·.written verbose) =
      result.failures.map (failureLines verbose) := by
    rw [List.map_map]
    exact List.map_congr_left fun f _ => (failureLines_eq verbose f).symm
  rw [written, List.map_cons, List.map_append, hplain, hfailures, String.join_cons,
    String.join_append, failureReport, String.append_assoc]
  cases result.root with
  | none => rfl
  | some root => simp [hplain]

/-- A run that passes is said to do so. -/
theorem run_of_passes (h : Passes m r) :
    (run m r).1 = { ending := .exit 0, out := "PASS " ++ r.script.shown ++ "\n" } := by
  obtain ⟨result, ⟨config, s, hconfig, hs, hrun⟩, hnone⟩ := h
  rw [run, chosen_iff.1 hconfig]
  dsimp only
  rw [hs]
  dsimp only
  rw [hrun, runOutcome, RunResult.passed, hnone]
  rfl

/-- What is left of the machine has nothing to do with contexts. -/
theorem run_verbose_machine (m : Machine) (r : RunRequest) (verbose : Bool) :
    (run m { r with verbose }).2 = (run m r).2 := by
  unfold run
  dsimp only
  cases chosenConfig m.files r.config with
  | error e => rfl
  | ok config => cases m.files.readScript r.script <;> rfl

/-- A run passes, or there is a report on it, or it breaks down; contexts are in the report only. -/
theorem run_cases (m : Machine) (r : RunRequest) :
    (Passes m r ∧ ∀ verbose, (run m { r with verbose }).1 =
      { ending := .exit 0, out := "PASS " ++ r.script.shown ++ "\n" }) ∨
    (∃ entries, Reported m r entries ∧ ∀ verbose, (run m { r with verbose }).1 =
      { ending := .exit 1, err := written verbose entries }) ∨
    ∃ b, ∀ verbose, (run m { r with verbose }).1 = { ending := .breakdown b } := by
  have hentry (verbose : Bool) (text : String) : written verbose [{ text }] = text := by
    cases verbose <;> simp [written, Entry.written]
  -- What stops the program at one of its stages is reported if it is a finding; else the program
  -- breaks down.
  cases hconfig : chosenConfig m.files r.config with
  | error e =>
    cases hfinding : e.isFinding with
    | true =>
      refine .inr (.inl ⟨_, .config (chosen_iff.2 hconfig), fun verbose => ?_⟩)
      rw [hentry]
      simp [run, hconfig, hfinding, Outcome.failed]
    | false =>
      refine .inr (.inr ⟨.config e, fun verbose => ?_⟩)
      simp [run, hconfig, hfinding]
  | ok config =>
    cases hscript : m.files.readScript r.script with
    | error e =>
      cases hfinding : e.isFinding with
      | true =>
        refine .inr (.inl ⟨_, .script (chosen_iff.2 hconfig) hscript, fun verbose => ?_⟩)
        rw [hentry]
        simp [run, hconfig, hscript, hfinding, Outcome.failed, errorLine]
      | false =>
        refine .inr (.inr ⟨.script e, fun verbose => ?_⟩)
        simp [run, hconfig, hscript, hfinding]
    | ok s =>
      have hto : RunsTo m r (Run.run s (withAddress config r.proxyAddress) m).1 :=
        ⟨config, s, chosen_iff.2 hconfig, hscript, rfl⟩
      cases hresult : (Run.run s (withAddress config r.proxyAddress) m).1 with
      | error e =>
        rw [hresult] at hto
        cases hfinding : e.isFinding with
        | true =>
          refine .inr (.inl ⟨_, .noResult hto, fun verbose => ?_⟩)
          rw [hentry]
          simp [run, hconfig, hscript, hresult, runOutcome, hfinding, Outcome.failed]
        | false =>
          refine .inr (.inr ⟨.run e, fun verbose => ?_⟩)
          simp [run, hconfig, hscript, hresult, runOutcome, hfinding]
      | ok result =>
        rw [hresult] at hto
        by_cases hnone : result.failures = []
        · refine .inl ⟨⟨result, hto, hnone⟩, fun verbose => ?_⟩
          simp [run, hconfig, hscript, hresult, runOutcome, RunResult.passed, hnone]
        · refine .inr (.inl ⟨_, .failures hto hnone, fun verbose => ?_⟩)
          rw [← failureReport_eq]
          simp [run, hconfig, hscript, hresult, runOutcome, RunResult.passed, hnone,
            Outcome.failed]

theorem exits_zero_iff : (run m r).1.ending = .exit 0 ↔ Passes m r := by
  constructor
  · intro hcode
    rcases run_cases m r with ⟨hpasses, -⟩ | ⟨entries, -, hrun⟩ | ⟨b, hrun⟩
    · exact hpasses
    · rw [show (run m r).1 = _ from hrun r.verbose] at hcode
      cases hcode
    · rw [show (run m r).1 = _ from hrun r.verbose] at hcode
      cases hcode
  · intro hpasses
    rw [run_of_passes hpasses]

/-- A run that ends with another exit code is reported on. -/
theorem reported_of_exit {code : Nat} (hcode : (run m r).1.ending = .exit code) (hne : code ≠ 0) :
    code = 1 ∧ (run m r).1.out = "" ∧
      ∃ entries, Reported m r entries ∧ (run m r).1.err = written r.verbose entries := by
  rcases run_cases m r with ⟨hpasses, -⟩ | ⟨entries, hreport, hrun⟩ | ⟨b, hrun⟩
  · rw [run_of_passes hpasses] at hcode
    exact absurd (Ending.exit.inj hcode).symm hne
  · rw [show (run m r).1 = _ from hrun r.verbose] at hcode ⊢
    exact ⟨(Ending.exit.inj hcode).symm, rfl, entries, hreport, rfl⟩
  · rw [show (run m r).1 = _ from hrun r.verbose] at hcode
    cases hcode

/-- Asking for contexts changes what is written for the entries of the report, if there is one. -/
theorem run_verbose_outcome (m : Machine) (r : RunRequest) (verbose : Bool) :
    (run m { r with verbose }).1.ending = (run m r).1.ending ∧
      (run m { r with verbose }).1.out = (run m r).1.out ∧
      ∃ entries, (entries = [] ∨ Reported m r entries) ∧
        (run m r).1.err = written r.verbose entries ∧
        (run m { r with verbose }).1.err = written verbose entries := by
  rcases run_cases m r with ⟨-, hrun⟩ | ⟨entries, hreport, hrun⟩ | ⟨b, hrun⟩
  · rw [hrun verbose, show (run m r).1 = _ from hrun r.verbose]
    exact ⟨rfl, rfl, [], .inl rfl, rfl, rfl⟩
  · rw [hrun verbose, show (run m r).1 = _ from hrun r.verbose]
    exact ⟨rfl, rfl, entries, .inr hreport, rfl, rfl⟩
  · rw [hrun verbose, show (run m r).1 = _ from hrun r.verbose]
    exact ⟨rfl, rfl, [], .inl rfl, rfl, rfl⟩

/-! ## Sessions -/

/-- A session that runs a script ends with the exit code zero if and only if the run passes; then
that is all it says. If it ends with another exit code, that is one, and it reports what has been
found. Asking for contexts changes neither the machine nor the end of the session: nothing but the
contexts of failures is added, each in front of the entry for its failure.

The report is text without colours. The text of a failure is what its expectation and the message
hold, so that an entry may take more than one line. -/
theorem session_run (h : Invocation.ofArguments ("run" :: args) = .ok (.run r)) (m : Machine) :
    ((session ("run" :: args) m).1.ending = .exit 0 ↔ Passes m r) ∧
    (Passes m r → (session ("run" :: args) m).1.out = "PASS " ++ r.script.shown ++ "\n" ∧
      (session ("run" :: args) m).1.err = "") ∧
    (∀ code, (session ("run" :: args) m).1.ending = .exit code → code ≠ 0 →
      code = 1 ∧ (session ("run" :: args) m).1.out = "" ∧
        ∃ entries, Reported m r entries ∧
          (session ("run" :: args) m).1.err = written r.verbose entries) ∧
    Invocation.ofArguments ("run" :: "--verbose" :: args) =
      .ok (.run { r with verbose := true }) ∧
    ∀ args', Invocation.ofArguments args' = .ok (.run { r with verbose := true }) →
      (session args' m).2 = (session ("run" :: args) m).2 ∧
      (session args' m).1.ending = (session ("run" :: args) m).1.ending ∧
      (session args' m).1.out = (session ("run" :: args) m).1.out ∧
      ∃ entries, (entries = [] ∨ Reported m r entries) ∧
        (session ("run" :: args) m).1.err = written r.verbose entries ∧
        (session args' m).1.err = written true entries := by
  have hsession : session ("run" :: args) m = run m r := by rw [session, h]
  rw [hsession]
  refine ⟨exits_zero_iff, fun hpasses => ?_, fun code => reported_of_exit, ofArguments_verbose h,
    fun args' h' => ?_⟩
  · rw [run_of_passes hpasses]
    exact ⟨rfl, rfl⟩
  · have hsession' : session args' m = run m { r with verbose := true } := by rw [session, h']
    rw [hsession']
    exact ⟨run_verbose_machine m r true, run_verbose_outcome m r true⟩

/-- A client and the origin find a failure each: the report without contexts and with them. -/
theorem session_run_failing :
    let m : Machine := { files := { entries := [(["a.htc"], .file (Text.utf8
      ("handle \"/\" \x7b expect req.method eq \"PUT\" \x7d\n" ++
        "client \"c\" \x7b expect resp.status eq 201 \x7d")))] } }
    let r : RunRequest := { script := .ofText "a.htc" }
    let context := "GET /\n\nHTTP 200\nserver: BaseHTTP/0.6 Python\n" ++
      "date: Thu, 01 Jan 1970 00:00:00 GMT\ncontent-length: 0\n"
    let failures := "  client 'c': FAILED: \"resp.status eq 201\" (actual='200')\n" ++
      "  origin: FAILED: \"req.method eq \"PUT\"\" (actual='GET')\n"
    Invocation.ofArguments ["run", "a.htc"] = .ok (.run r) ∧ ¬ Passes m r ∧
      ∃ entries, Reported m r entries ∧ written false entries = "FAIL a.htc\n" ++ failures ∧
        written true entries = "FAIL a.htc\n" ++ context ++ failures := by
  intro m r context failures
  have h : Invocation.ofArguments ["run", "a.htc"] = .ok (.run r) := rfl
  obtain ⟨-, hpass, -, hverbose, hsame⟩ := session_run h m
  obtain ⟨-, -, -, entries, hentries, hplain, hcontexts⟩ := hsame _ hverbose
  have hplain' : (session ["run", "a.htc"] m).1.err = "FAIL a.htc\n" ++ failures := by
    decide +kernel
  have hcontexts' : (session ["run", "--verbose", "a.htc"] m).1.err =
      "FAIL a.htc\n" ++ context ++ failures := by
    decide +kernel
  have hsome : (session ["run", "a.htc"] m).1.err ≠ "" := by
    rw [hplain']
    decide
  have hne : entries ≠ [] := by
    rintro rfl
    exact hsome hplain
  exact ⟨h, fun hpasses => hsome (hpass hpasses).2, entries, hentries.resolve_left hne,
    hplain.symm.trans hplain', hcontexts.symm.trans hcontexts'⟩

end ProxyTrial.CommandLine
