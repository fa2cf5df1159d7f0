import ProxyTrial.Text.Letter
import ProxyTrial.Text.Quoted
import ProxyTrial.Text.Blank
/-!
# Arguments of a command

An argument is an option, the value of one, or an operand.  A long option may
be shortened as long as it is the only one that begins so, and its value may be
attached with an equals sign.  After two hyphens there are no options.

## Main definitions

* `Form.classify`: what an argument is
* `Form.read`: the options and operands that arguments give
-/

namespace ProxyTrial.CommandLine

/-- An option. -/
inductive Opt where
  | help
  | config
  | proxyAddress
  | verbose
  deriving DecidableEq, Repr

namespace Opt

/-- The spellings of an option. -/
def names : Opt → List String
  | help => ["-h", "--help"]
  | config => ["--config"]
  | proxyAddress => ["--proxy-address"]
  | verbose => ["--verbose"]

/-- Whether an option has a value. -/
def takesValue : Opt → Bool
  | config | proxyAddress => true
  | help | verbose => false

/-- An option in messages. -/
def title (o : Opt) : String := "/".intercalate o.names

end Opt

/-- Which operands a command has. -/
inductive Operands where
  /-- The name of a command and all that comes after it. -/
  | command
  | one
  | several
  deriving DecidableEq, Repr

/-- The arguments that a command takes. -/
structure Form where
  options : List Opt
  operands : Operands

/-- What is wrong with arguments. -/
inductive Misuse where
  | unrecognized (args : List String)
  | missingOperand
  | missingValue (o : Opt)
  /-- A value is attached to an option that has none. -/
  | unwantedValue (o : Opt) (value : String)
  | ambiguous (arg : String) (candidates : List String)
  | noSuchCommand (name : String)
  deriving DecidableEq, Repr

/-- The wording of a misuse. -/
def Misuse.message : Misuse → String
  | unrecognized args => "unrecognized arguments: " ++ " ".intercalate args
  | missingOperand => "the following arguments are required: FILE"
  | missingValue o => "argument " ++ o.title ++ ": expected one argument"
  | unwantedValue o value =>
    "argument " ++ o.title ++ ": ignored explicit argument " ++ Text.quoted value
  | ambiguous arg candidates =>
    "ambiguous option: " ++ arg ++ " could match " ++ ", ".intercalate candidates
  | noSuchCommand name =>
    "argument COMMAND: invalid choice: " ++ Text.quoted name
      ++ " (choose from 'check', 'run')"

/-- Why there are no options and operands to go on with. -/
inductive Stop where
  | help
  | misuse (m : Misuse)
  deriving DecidableEq, Repr

/-- What an argument is. -/
inductive ArgumentKind where
  /-- The two hyphens after which there are no options. -/
  | separator
  | operand
  | option (o : Opt) (attached : Option String)
  /-- The short spelling of the option for help and letters after it. -/
  | cluster (letters : List Char)
  /-- An option that the command does not have. -/
  | unknown
  deriving DecidableEq, Repr

namespace ArgumentKind

/-- Whether an argument is no option. -/
def isFree : ArgumentKind → Bool
  | separator | operand => true
  | _ => false

end ArgumentKind

/-- Whether a text is a number below zero: a hyphen and digits, with a point
before some of them at most. -/
def isNegativeNumber (cs : List Char) : Bool :=
  match cs with
  | '-' :: ds =>
    match Text.cutAt '.' ds with
    | (whole, none) => !whole.isEmpty && whole.all Text.isDecimal
    | (whole, some fraction) =>
      whole.all Text.isDecimal && !fraction.isEmpty && fraction.all Text.isDecimal
  | _ => false

namespace Form

/-- The options of a form by their spellings. -/
def spellings (f : Form) : List (String × Opt) :=
  f.options.flatMap fun o => o.names.map (·, o)

/-- What an argument is before any separator. -/
def classify (f : Form) (arg : String) : Except Misuse ArgumentKind :=
  let cs := arg.toList
  let (stem, attached) := Text.cutAt '=' cs
  let stem := String.ofList stem
  let attached := attached.map String.ofList
  let otherwise := .ok (if isNegativeNumber cs || cs.contains ' ' then .operand else .unknown)
  match cs with
  | '-' :: second :: more =>
    if arg == "--" then .ok .separator
    else if let some o := f.spellings.lookup arg then .ok (.option o none)
    else if let (some o, some _) := (f.spellings.lookup stem, attached) then
      .ok (.option o attached)
    else if second == '-' then
      match f.spellings.filter fun e => stem.toList.isPrefixOf e.1.toList with
      | [] => otherwise
      | [(_, o)] => .ok (.option o attached)
      | es => .error (.ambiguous arg (es.map (·.1)))
    else if (f.spellings.lookup (String.ofList ['-', second])).isSome then .ok (.cluster more)
    else otherwise
  | _ => .ok .operand

/-- Arguments with what they are. -/
def classifyAll (f : Form) : List String → Except Misuse (List (String × ArgumentKind))
  | [] => .ok []
  | arg :: args => do
    match ← f.classify arg with
    | .separator => return (arg, .separator) :: args.map (·, .operand)
    | k => return (arg, k) :: (← f.classifyAll args)

end Form

/-- What arguments give. -/
structure Reading where
  /-- The operands, none as long as they have not been found. -/
  operands : List String := []
  config : Option String := none
  proxyAddress : Option String := none
  verbose : Bool := false
  /-- The arguments for which there is no use. -/
  extra : List String := []
  deriving DecidableEq, Repr

namespace Reading

/-- Takes an option with its value, which is empty if it has none. -/
def set (r : Reading) (o : Opt) (value : String) : Except Stop Reading :=
  match o with
  | .help => .error .help
  | .config => .ok { r with config := some value }
  | .proxyAddress => .ok { r with proxyAddress := some value }
  | .verbose => .ok { r with verbose := true }

end Reading

/-- What the letters after the short spelling of the option for help mean: the
same option again, or a value attached to it.  Other letters come too late. -/
def afterHelp : List Char → Stop
  | [] => .help
  | '=' :: value => .misuse (.unwantedValue .help (String.ofList value))
  | '-' :: more => .misuse (.unwantedValue .help (String.ofList ('-' :: more)))
  | 'h' :: more => afterHelp more
  | _ :: _ => .help

namespace Operands

/-- How many arguments from here on are operands, with the separators among
them. -/
def count (k : Operands) (kinds : List ArgumentKind) : Nat :=
  let before := (kinds.takeWhile (· == .separator)).length
  match kinds.drop before with
  | .operand :: rest =>
    match k with
    | .command => kinds.length
    | .one => before + 1 + (rest.takeWhile (· == .separator)).length
    | .several => before + 1 + (rest.takeWhile ArgumentKind.isFree).length
  | _ => 0

/-- The operands among arguments.  The separator is none of them, but it counts
as the name of a command. -/
def among (k : Operands) (args : List String) : List String :=
  if k = .command then args else args.erase "--"

end Operands

namespace Form

/-- Takes the operands from here on, unless they have been found. -/
def takeOperands (f : Form) (r : Reading) (args : List (String × ArgumentKind)) :
    Reading × List (String × ArgumentKind) :=
  let n := if r.operands.isEmpty then f.operands.count (args.map (·.2)) else 0
  if n = 0 then (r, args)
  else ({ r with operands := f.operands.among ((args.take n).map (·.1)) }, args.drop n)

/-- Takes options and operands in turn. -/
def readFrom (f : Form) :
    (fuel : Nat) → Reading → List (String × ArgumentKind) → Except Stop Reading
  | 0, r, _ => .ok r
  | _ + 1, r, [] => .ok r
  | fuel + 1, r, (arg, kind) :: rest =>
    match kind with
    | .option o (some value) =>
      if o.takesValue then do f.readFrom fuel (← r.set o value) rest
      else .error (.misuse (.unwantedValue o value))
    | .option o none =>
      if o.takesValue then
        match rest with
        | (value, .operand) :: rest => do f.readFrom fuel (← r.set o value) rest
        | _ => .error (.misuse (.missingValue o))
      else do f.readFrom fuel (← r.set o "") rest
    | .cluster letters => .error (afterHelp letters)
    | .unknown => f.readFrom fuel { r with extra := r.extra ++ [arg] } rest
    | .operand | .separator =>
      let args := (arg, kind) :: rest
      let (r, after) := f.takeOperands r args
      if after.length < args.length then f.readFrom fuel r after
      else
        let free := args.takeWhile (·.2.isFree)
        f.readFrom fuel { r with extra := r.extra ++ free.map (·.1) } (args.drop free.length)

/-- The options and operands that arguments give; a form with operands of its
own must have some. -/
def read (f : Form) (args : List String) : Except Stop Reading := do
  let args ← (f.classifyAll args).mapError .misuse
  let r ← f.readFrom args.length.succ {} args
  if f.operands ≠ .command ∧ r.operands.isEmpty then throw (.misuse .missingOperand)
  return r

end Form

end ProxyTrial.CommandLine
