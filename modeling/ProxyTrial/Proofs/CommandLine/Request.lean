import ProxyTrial.Proofs.CommandLine.Arguments
import ProxyTrial.Proofs.Text
/-!
# Command lines that ask for a run

A run is asked for with a configuration file and an address, or without them. Asking for contexts,
too, leaves the rest of the request as it is.

## Main definitions

* `Reading.verbosely r`: what arguments give, and that contexts are asked for

## Main results

* `Form.readFrom_verbosely`: options and operands are taken the same
* `ofArguments_run_iff`: the requests for runs
* `ofArguments_verbose`: a request, and that contexts are asked for
-/

namespace ProxyTrial.CommandLine

/-- What arguments give, and that contexts are asked for. -/
def Reading.verbosely (r : Reading) : Reading := { r with verbose := true }

variable {f : Form} {args : List String} {kinds : List (String × ArgumentKind)} {r : RunRequest}

namespace Form

theorem names_of_classifyAll (h : f.classifyAll args = .ok kinds) : kinds.map (·.1) = args := by
  induction args generalizing kinds with
  | nil =>
    cases h
    rfl
  | cons arg args ih =>
    rw [classifyAll] at h
    obtain ⟨kind, -, h⟩ := bind_eq_ok.1 h
    split at h
    · cases h
      simp [Function.comp_def]
    · obtain ⟨rest, hrest, h⟩ := bind_eq_ok.1 h
      cases h
      rw [List.map_cons, ih hrest]

theorem classifyAll_option {arg : String} {o : Opt} {attached : Option String}
    (harg : f.classify arg = .ok (.option o attached)) (hargs : f.classifyAll args = .ok kinds) :
    f.classifyAll (arg :: args) = .ok ((arg, .option o attached) :: kinds) := by
  rw [classifyAll, harg, ok_bind, hargs]
  rfl

/-- Arguments are read one by one; a command other than that of the program needs operands. -/
theorem read_eq_ok {r : Reading} : f.read args = .ok r ↔
    ∃ kinds, f.classifyAll args = .ok kinds ∧ f.readFrom kinds.length.succ {} kinds = .ok r ∧
      ¬ (f.operands ≠ .command ∧ r.operands.isEmpty) := by
  constructor
  · intro h
    obtain ⟨kinds, hkinds, h⟩ := bind_eq_ok.1 h
    obtain ⟨r', hfrom, h⟩ := bind_eq_ok.1 h
    dsimp only at h
    split at h
    · cases h
    · next hsome =>
      cases h
      exact ⟨kinds, mapError_eq_ok.1 hkinds, hfrom, hsome⟩
  · rintro ⟨kinds, hkinds, hfrom, hsome⟩
    rw [read, hkinds, mapError_eq_ok.2 rfl, ok_bind, hfrom, ok_bind]
    exact if_neg hsome

theorem set_verbosely (r : Reading) (o : Opt) (value : String) :
    r.verbosely.set o value = (r.set o value).map Reading.verbosely := by
  cases o <;> rfl

theorem takeOperands_verbosely (r : Reading) (kinds : List (String × ArgumentKind)) :
    f.takeOperands r.verbosely kinds =
      ((f.takeOperands r kinds).1.verbosely, (f.takeOperands r kinds).2) := by
  unfold takeOperands Reading.verbosely
  dsimp only
  generalize (if r.operands.isEmpty then f.operands.count (kinds.map (·.2)) else 0) = n
  split <;> rfl

/-- Taking an option and going on. -/
theorem set_bind_verbosely {r : Reading} {o : Opt} {value : String} {fuel : Nat}
    {rest : List (String × ArgumentKind)}
    (ih : ∀ r, f.readFrom fuel r.verbosely rest = (f.readFrom fuel r rest).map Reading.verbosely) :
    (do f.readFrom fuel (← r.verbosely.set o value) rest) =
      Except.map Reading.verbosely (do f.readFrom fuel (← r.set o value) rest) := by
  rw [set_verbosely]
  cases r.set o value with
  | error e => rfl
  | ok r' => exact ih r'

/-- Options and operands are taken the same if contexts are asked for. -/
theorem readFrom_verbosely (f : Form) (fuel : Nat) (r : Reading)
    (kinds : List (String × ArgumentKind)) :
    f.readFrom fuel r.verbosely kinds = (f.readFrom fuel r kinds).map Reading.verbosely := by
  induction fuel generalizing r kinds with
  | zero => rfl
  | succ fuel ih =>
    cases kinds with
    | nil => rfl
    | cons first rest =>
      obtain ⟨arg, kind⟩ := first
      -- Operands are taken from here on, or what is free is left over.
      have hoperands : ∀ kind, kind = .operand ∨ kind = .separator →
          f.readFrom (fuel + 1) r.verbosely ((arg, kind) :: rest) =
            (f.readFrom (fuel + 1) r ((arg, kind) :: rest)).map Reading.verbosely := by
        rintro kind (rfl | rfl) <;>
        · rw [readFrom, readFrom, takeOperands_verbosely]
          dsimp only
          split
          · exact ih _ _
          · exact ih { (f.takeOperands r _).1 with extra := _ } _
      cases kind with
      | option o attached =>
        cases attached with
        | some value =>
          rw [readFrom, readFrom]
          split
          · exact set_bind_verbosely (ih · rest)
          · rfl
        | none =>
          unfold readFrom
          dsimp only
          split
          · split
            · exact set_bind_verbosely (ih · _)
            · rfl
          · exact set_bind_verbosely (ih · rest)
      | cluster letters => rfl
      | unknown =>
        rw [readFrom, readFrom]
        exact ih { r with extra := _ } _
      | operand => exact hoperands _ (.inl rfl)
      | separator => exact hoperands _ (.inr rfl)

end Form

/-! ## The program -/

/-- Only one option of the program begins with two hyphens. -/
theorem program_candidates (cs : List Char) :
    (Scope.program.form.spellings.filter fun e => ('-' :: '-' :: cs).isPrefixOf e.1.toList) = [] ∨
      ∃ e, (Scope.program.form.spellings.filter fun e =>
        ('-' :: '-' :: cs).isPrefixOf e.1.toList) = [e] := by
  have hspellings : Scope.program.form.spellings = [("-h", .help), ("--help", .help)] := rfl
  have hshort : List.isPrefixOf ('-' :: '-' :: cs) "-h".toList = false := rfl
  rw [hspellings]
  cases hlong : List.isPrefixOf ('-' :: '-' :: cs) "--help".toList with
  | false => exact .inl (by simp only [List.filter, hshort, hlong])
  | true => exact .inr ⟨("--help", .help), by simp only [List.filter, hshort, hlong]⟩

theorem exists_classify_program (arg : String) :
    ∃ kind, Scope.program.form.classify arg = .ok kind := by
  unfold Form.classify
  dsimp only
  split
  · next second more heq =>
    split
    · exact ⟨_, rfl⟩
    · split
      · exact ⟨_, rfl⟩
      · split
        · exact ⟨_, rfl⟩
        · split
          · next hdash =>
            obtain rfl := eq_of_beq hdash
            have hstem : (String.ofList (Text.cutAt '=' arg.toList).1).toList =
                '-' :: '-' :: (Text.cutAt '=' more).1 := by
              rw [heq, String.toList_ofList]
              rfl
            rw [hstem]
            rcases program_candidates (Text.cutAt '=' more).1 with hnone | ⟨e, hone⟩
            · rw [hnone]
              exact ⟨_, rfl⟩
            · rw [hone]
              exact ⟨_, rfl⟩
          · split
            · exact ⟨_, rfl⟩
            · exact ⟨_, rfl⟩
  · exact ⟨_, rfl⟩

/-- The program finds no argument ambiguous. -/
theorem exists_classifyAll_program (args : List String) :
    ∃ kinds, Scope.program.form.classifyAll args = .ok kinds := by
  induction args with
  | nil => exact ⟨_, rfl⟩
  | cons arg args ih =>
    obtain ⟨kind, hkind⟩ := exists_classify_program arg
    obtain ⟨kinds, hkinds⟩ := ih
    rw [Form.classifyAll, hkind, ok_bind]
    split
    · exact ⟨_, rfl⟩
    · rw [hkinds]
      exact ⟨_, rfl⟩

/-! ## Runs -/

/-- The run that is asked for by what arguments give. -/
def Reading.request (r : Reading) : RunRequest where
  script := .ofText (r.operands.headD "")
  config := r.config.map Path.ofText
  proxyAddress := r.proxyAddress
  verbose := r.verbose

theorem ofCommand_run (args : List String) : Invocation.ofCommand "run" args =
    ((Scope.run.form.read args).mapError (⟨.run, ·⟩)).map fun r => (.run r.request, r.extra) := by
  rw [Invocation.ofCommand, if_neg (by decide), if_pos (by decide)]
  cases Scope.run.form.read args <;> rfl

/-- A run is asked for by arguments that the command can read, if all are of use. -/
theorem ofArguments_run_iff : Invocation.ofArguments ("run" :: args) = .ok (.run r) ↔
    ∃ reading, Scope.run.form.read args = .ok reading ∧ reading.extra = [] ∧
      r = reading.request := by
  obtain ⟨kinds, hkinds⟩ := exists_classifyAll_program args
  have heq : Invocation.ofArguments ("run" :: args) =
      Invocation.ofCommand "run" args >>= fun x =>
        if x.2.isEmpty then .ok x.1 else .error ⟨.program, .misuse (.unrecognized x.2)⟩ := by
    rw [Invocation.ofArguments, read_command (by decide) hkinds (Form.names_of_classifyAll hkinds)]
    rfl
  rw [heq, ofCommand_run]
  constructor
  · intro h
    obtain ⟨⟨invocation, extra⟩, hcommand, h⟩ := bind_eq_ok.1 h
    obtain ⟨reading, hread, hinvocation⟩ := map_eq_ok.1 hcommand
    obtain ⟨rfl, rfl⟩ := Prod.mk.inj hinvocation
    refine ⟨reading, mapError_eq_ok.1 hread, ?_⟩
    dsimp only at h
    split at h
    · next hextra =>
      cases h
      exact ⟨List.isEmpty_iff.1 hextra, rfl⟩
    · cases h
  · rintro ⟨reading, hread, hextra, rfl⟩
    rw [hread]
    show (if reading.extra.isEmpty then _ else _) = _
    rw [hextra]
    rfl

/-- A request, and that contexts are asked for. -/
theorem ofArguments_verbose (h : Invocation.ofArguments ("run" :: args) = .ok (.run r)) :
    Invocation.ofArguments ("run" :: "--verbose" :: args) =
      .ok (.run { r with verbose := true }) := by
  obtain ⟨reading, hread, hextra, rfl⟩ := ofArguments_run_iff.1 h
  obtain ⟨kinds, hkinds, hfrom, hsome⟩ := Form.read_eq_ok.1 hread
  refine ofArguments_run_iff.2 ⟨reading.verbosely, Form.read_eq_ok.2
    ⟨_, Form.classifyAll_option rfl hkinds, ?_, hsome⟩, hextra, rfl⟩
  have hverbose := Form.readFrom_verbosely Scope.run.form kinds.length.succ {} kinds
  rw [hfrom] at hverbose
  exact hverbose

end ProxyTrial.CommandLine
