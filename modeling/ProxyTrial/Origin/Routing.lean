import ProxyTrial.Script.Basic
/-!
# Routing

A path belongs to the handler with that very path or, failing that, to the one
with the longest path that ends in a slash and begins it.
-/

namespace ProxyTrial.Origin

/-- The handlers of an origin, their paths distinct. -/
abbrev Table := List Handler

namespace Table

/-- Adds a handler; it takes the place of one with the same path. -/
def insert (t : Table) (h : Handler) : Table :=
  if t.any fun g => g.path == h.path then t.map fun g => if g.path == h.path then h else g
  else t ++ [h]

/-- Whether a handler is responsible for everything below its path, this path
included. -/
def covers (h : Handler) (path : String) : Bool :=
  h.path.toList.getLast? == some '/' && h.path.toList.isPrefixOf path.toList

/-- The longer of two paths, the first one if they are equally long. -/
def longer (best : Option Handler) (h : Handler) : Option Handler :=
  match best with
  | none => some h
  | some b => if b.path.length < h.path.length then some h else some b

/-- The handler responsible for a path. -/
def route? (t : Table) (path : String) : Option Handler :=
  match t.find? fun h => h.path == path with
  | some h => some h
  | none => (t.filter fun h => covers h path).foldl longer none

end Table

end ProxyTrial.Origin
