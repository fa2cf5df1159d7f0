import ProxyTrial.Schema.Complaint
/-!
# Complaints in words

A report names the model and counts the complaints.  Each complaint is told
with its path, its wording and the value that it is about; of a long value
only the two ends are shown.
-/

namespace ProxyTrial.Schema

/-- A step as reports show it: a name with a dot in it stands between back
quotes. -/
def Step.shown : Step → String
  | .name s => if s.toList.contains '.' then "\x60" ++ s ++ "\x60" else s
  | .index n => toString n

/-- The first characters, as many as do not take more than `room` octets. -/
def fitting (room : Nat) : List Char → List Char
  | [] => []
  | c :: cs => if c.utf8Size ≤ room then c :: fitting (room - c.utf8Size) cs else []

/-- A text of at most fifty octets; of a longer one the two ends. -/
def shortened (s : String) : String :=
  if s.utf8ByteSize ≤ 50 then s
  else
    String.ofList (fitting 25 s.toList) ++ "..."
      ++ String.ofList (fitting 24 s.toList.reverse).reverse

/-- A complaint in a report. -/
def Complaint.shown (c : Complaint) : String :=
  let place := if c.path.isEmpty then "" else ".".intercalate (c.path.map Step.shown) ++ "\n"
  place ++ "  " ++ c.problem.message ++ " [type=" ++ c.problem.code ++ ", input_value="
    ++ shortened c.input.shown ++ ", input_type=" ++ c.input.typeName ++ "]"

/-- A report of complaints about data for a model. -/
def report (model : String) (cs : List Complaint) : String :=
  let count := if cs.length = 1 then "1 validation error" else s!"{cs.length} validation errors"
  "\n".intercalate ((count ++ " for " ++ model) :: cs.map Complaint.shown)

end ProxyTrial.Schema
