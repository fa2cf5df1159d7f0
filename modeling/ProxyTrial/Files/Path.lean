import ProxyTrial.Text.Blank
/-!
# Paths

A path is absolute or relative.  Repeated slashes and single dots in it do not
count; double dots do.
-/

namespace ProxyTrial

/-- A path. -/
structure Path where
  /-- The slashes at the start of an absolute path; two of them are kept apart
  from one. -/
  root : String
  parts : List String
  deriving DecidableEq, Repr

namespace Path

/-- The path that a text spells. -/
def ofText (s : String) : Path :=
  let slashes := (s.toList.takeWhile (· == '/')).length
  let parts := (Text.splitOnElem '/' s.toList).map String.ofList
  { root := if slashes = 0 then "" else if slashes = 2 then "//" else "/"
    parts := parts.filter fun p => p != "" && p != "." }

/-- A path as text; the empty path is a dot. -/
def shown (p : Path) : String :=
  if p.root == "" && p.parts.isEmpty then "." else p.root ++ "/".intercalate p.parts

/-- A path below another; an absolute one is not. -/
def join (p q : Path) : Path := if q.root == "" then { p with parts := p.parts ++ q.parts } else q

/-- The path without its last part. -/
def parent (p : Path) : Path := { p with parts := p.parts.dropLast }

end Path

end ProxyTrial
