import ProxyTrial.CommandLine.Invocation
import ProxyTrial.Proofs.Basic
/-!
# Command lines that ask for a check

Names of files that are no options are all operands of the command in front of them, in their
order. After two hyphens a name may be any text.

## Main definitions

* `AsksToCheck args names`: the arguments are the command, and the names that it is to check

## Main results

* `Form.read_of_count`: arguments of which all are operands from the first one on
* `AsksToCheck.ofArguments_eq`: what is asked for
-/

namespace ProxyTrial.CommandLine

/-- An argument does not look like an option: it does not begin with a hyphen, or is nothing
else. -/
def IsPlain (arg : String) : Prop := arg = "-" ∨ arg.toList.head? ≠ some '-'

instance (arg : String) : Decidable (IsPlain arg) := inferInstanceAs (Decidable (_ ∨ _))

/-- A command line asks for a check of files: with names that do not look like options, or after two
hyphens. -/
inductive AsksToCheck : (args names : List String) → Prop
  | plain {names : List String} : names ≠ [] → (∀ name ∈ names, IsPlain name) →
      AsksToCheck ("check" :: names) names
  | separated {names : List String} : names ≠ [] → AsksToCheck ("check" :: "--" :: names) names

variable {f : Form} {arg : String} {args names : List String}

namespace Form

theorem classify_plain (f : Form) (h : IsPlain arg) : f.classify arg = .ok .operand := by
  unfold classify
  dsimp only
  split
  · next heq =>
    rcases h with rfl | hhead
    · exact absurd (congrArg List.length heq) (by simp)
    · exact absurd (by rw [heq]; rfl) hhead
  · rfl

theorem classify_separator (f : Form) : f.classify "--" = .ok .separator := rfl

theorem classifyAll_plain (f : Form) (h : ∀ arg ∈ args, IsPlain arg) :
    f.classifyAll args = .ok (args.map (·, .operand)) := by
  induction args with
  | nil => rfl
  | cons arg args ih =>
    obtain ⟨harg, hargs⟩ := List.forall_mem_cons.1 h
    rw [classifyAll, classify_plain f harg, ok_bind, ih hargs]
    rfl

theorem classifyAll_separator (f : Form) (args : List String) :
    f.classifyAll ("--" :: args) = .ok (("--", .separator) :: args.map (·, .operand)) := by
  rw [classifyAll, classify_separator, ok_bind]
  rfl

theorem takeOperands_all {kinds : List (String × ArgumentKind)} (hne : kinds ≠ [])
    (hcount : f.operands.count (kinds.map (·.2)) = kinds.length) :
    f.takeOperands {} kinds = ({ operands := f.operands.among (kinds.map (·.1)) }, []) := by
  have hlen : kinds.length ≠ 0 := mt List.length_eq_zero_iff.1 hne
  simp only [takeOperands, List.isEmpty_nil, if_true, hcount, if_neg hlen, List.take_length,
    List.drop_length]

/-- Arguments that are operands from the first one on are all that is read. -/
theorem read_of_count {first : String × ArgumentKind} {rest : List (String × ArgumentKind)}
    (hkinds : f.classifyAll args = .ok (first :: rest)) (hfree : first.2.isFree)
    (hnames : (first :: rest).map (·.1) = args)
    (hcount : f.operands.count ((first :: rest).map (·.2)) = (first :: rest).length)
    (hsome : f.operands.among args ≠ []) :
    f.read args = .ok { operands := f.operands.among args } := by
  have htake := takeOperands_all (List.cons_ne_nil first rest) hcount
  rw [hnames] at htake
  -- Nothing is left when the operands have been taken, at the first argument.
  have hread : ∀ fuel, f.readFrom fuel { operands := f.operands.among args } [] =
      .ok { operands := f.operands.among args } := by
    rintro (_ | fuel) <;> rfl
  have hfrom : ∀ fuel, f.readFrom (fuel + 1) {} (first :: rest) =
      .ok { operands := f.operands.among args } := by
    intro fuel
    obtain ⟨arg, kind⟩ := first
    cases kind with
    | operand | separator =>
      rw [readFrom, htake]
      exact hread fuel
    | option o attached => cases hfree
    | cluster letters => cases hfree
    | unknown => cases hfree
  have hclassified : (Except.ok (first :: rest) : Except Misuse _).mapError Stop.misuse =
      .ok (first :: rest) := rfl
  rw [read, hkinds, hclassified, ok_bind, hfrom, ok_bind, if_neg (by simpa using fun _ => hsome)]
  rfl

end Form

/-! ## The command and its files -/

theorem isPlain_check : IsPlain "check" := by decide

/-- A command and all that comes after it are read. -/
theorem read_command {name : String} {kinds : List (String × ArgumentKind)} (hname : IsPlain name)
    (hkinds : Scope.program.form.classifyAll args = .ok kinds) (hnames : kinds.map (·.1) = args) :
    Scope.program.form.read (name :: args) = .ok { operands := name :: args } := by
  have hall : Scope.program.form.classifyAll (name :: args) = .ok ((name, .operand) :: kinds) := by
    rw [Form.classifyAll, Form.classify_plain _ hname, ok_bind, hkinds]
    rfl
  exact Form.read_of_count hall rfl (by rw [List.map_cons, hnames]) (List.length_map _) nofun

theorem takeWhile_operands (names : List String) :
    (names.map fun _ => ArgumentKind.operand).takeWhile ArgumentKind.isFree =
      names.map fun _ => .operand := by
  induction names with
  | nil => rfl
  | cons name names ih =>
    rw [List.map_cons, List.takeWhile_cons_of_pos rfl, ih]

/-- A check has several operands. All of them count, and so does a separator in front. -/
theorem count_check (names : List String) :
    Scope.check.form.operands.count (.operand :: names.map fun _ => .operand) = names.length + 1 ∧
      Scope.check.form.operands.count (.separator :: .operand :: names.map fun _ => .operand) =
        names.length + 1 + 1 := by
  have hlength : ((names.map fun _ => ArgumentKind.operand).takeWhile ArgumentKind.isFree).length =
      names.length := by
    rw [takeWhile_operands, List.length_map]
  constructor
  · show 0 + 1 + List.length _ = _
    rw [hlength]
    omega
  · show 1 + 1 + List.length _ = _
    rw [hlength]
    omega

/-- Names that do not look like options are read. -/
theorem read_plain (hne : names ≠ []) (h : ∀ name ∈ names, IsPlain name) :
    Scope.check.form.read names = .ok { operands := names } := by
  have hall := Scope.check.form.classifyAll_plain h
  have hnone : "--" ∉ names := fun hmem => absurd (h _ hmem) (by decide)
  have hamong : Scope.check.form.operands.among names = names := List.erase_of_not_mem hnone
  obtain ⟨first, rest, rfl⟩ := List.exists_cons_of_ne_nil hne
  have hcount := (count_check rest).1
  have hread := Form.read_of_count hall rfl (by simp [Function.comp_def])
    (by simpa [Function.comp_def] using hcount) (hamong.symm ▸ hne)
  rwa [hamong] at hread

/-- Any names are read after two hyphens. -/
theorem read_separated (hne : names ≠ []) :
    Scope.check.form.read ("--" :: names) = .ok { operands := names } := by
  have hall := Scope.check.form.classifyAll_separator names
  have hamong : Scope.check.form.operands.among ("--" :: names) = names :=
    List.erase_cons_head "--" names
  obtain ⟨first, rest, rfl⟩ := List.exists_cons_of_ne_nil hne
  have hcount := (count_check rest).2
  have hread := Form.read_of_count hall rfl (by simp [Function.comp_def])
    (by simpa [Function.comp_def] using hcount) (hamong.symm ▸ hne)
  rwa [hamong] at hread

/-- What the command is given is what is asked for. -/
theorem ofArguments_check (hread : Scope.program.form.read ("check" :: args) =
      .ok { operands := "check" :: args })
    (hnames : Scope.check.form.read args = .ok { operands := names }) :
    Invocation.ofArguments ("check" :: args) = .ok (.check (names.map Path.ofText)) := by
  have hcommand : Invocation.ofCommand "check" args = .ok (.check (names.map Path.ofText), []) := by
    rw [Invocation.ofCommand, if_pos (by decide), hnames]
    rfl
  rw [Invocation.ofArguments, hread]
  show (Invocation.ofCommand "check" args >>= _) = _
  rw [hcommand]
  rfl

/-- What is asked for is a check of the files with the names. -/
theorem AsksToCheck.ofArguments_eq (h : AsksToCheck args names) :
    Invocation.ofArguments args = .ok (.check (names.map Path.ofText)) := by
  cases h with
  | plain hne hplain =>
    have hread := read_command isPlain_check (Scope.program.form.classifyAll_plain hplain)
      (by simp [Function.comp_def])
    exact ofArguments_check hread (read_plain hne hplain)
  | separated hne =>
    have hread := read_command isPlain_check (Scope.program.form.classifyAll_separator names)
      (by simp [Function.comp_def])
    exact ofArguments_check hread (read_separated hne)

end ProxyTrial.CommandLine
