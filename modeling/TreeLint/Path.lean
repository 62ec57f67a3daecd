import TreeLint.Text

/-!
# Paths

A path is an anchor, which is empty for a relative path, and the names below it. Empty names and
single dots are dropped when a path is read; double dots are kept.

## Main definitions

* `Path`: an anchor and names
* `Path.ofString`, `Path.render`: reading and writing a path
* `Path.stem`, `Path.suffix`: the last name cut at its last dot
* `Path.parent`, `Path.child`: one name less and one name more
-/

namespace TreeLint

/-- A path of names. -/
structure Path where
  anchor : String
  names : List String
  deriving DecidableEq, Repr

/-- The last dot of a name divides it, unless it is the first or the last character. -/
def splitSuffix (name : String) : String × String :=
  let cs := name.toList
  let after := (cs.reverse.takeWhile (· != '.')).reverse
  let before := cs.take (cs.length - after.length - 1)
  if after.isEmpty || before.isEmpty || !cs.contains '.' then (name, "")
  else (String.ofList before, String.ofList ('.' :: after))

namespace Path

/-- The anchor of a path: two slashes in front are kept, any other number of them counts as one. -/
def anchorOf : List Char → String
  | '/' :: '/' :: '/' :: _ => "/"
  | '/' :: '/' :: _ => "//"
  | '/' :: _ => "/"
  | _ => ""

/-- The path that a text writes. -/
def ofString (s : String) : Path where
  anchor := anchorOf s.toList
  names := ((Text.pieces '/' s.toList).map String.ofList).filter fun name =>
    name != "" && name != "."

/-- The text of a path. -/
def render (p : Path) : String :=
  if p.anchor.isEmpty && p.names.isEmpty then "." else p.anchor ++ "/".intercalate p.names

/-- The last name of a path, which is empty when there is none. -/
def name (p : Path) : String :=
  p.names.getLast?.getD ""

/-- The last name without its suffix. -/
def stem (p : Path) : String :=
  (splitSuffix p.name).1

/-- The suffix of the last name with its dot, which is empty when there is none. -/
def suffix (p : Path) : String :=
  (splitSuffix p.name).2

/-- The path without its last name. -/
def parent (p : Path) : Path :=
  { p with names := p.names.dropLast }

/-- The path followed by more names. -/
def child (p : Path) (names : List String) : Path :=
  { p with names := p.names ++ names }

end Path

end TreeLint
