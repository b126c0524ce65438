import BlockCalc.Text.Split

/-! # Paths

A path is a root, empty for a relative path, and the names below it. Empty names and names of a
single point are dropped when a path is read; a name of two points stays, since only the disk knows
where it leads. -/

namespace BlockCalc

/-- A path of a disk. -/
structure Path where
  root : String
  names : List String
deriving DecidableEq, Repr

namespace Path

/-- The root of a path: two slashes in front of it differ from one and from three. -/
def rootOf : List Char → String
  | '/' :: '/' :: '/' :: _ => "/"
  | '/' :: '/' :: _ => "//"
  | '/' :: _ => "/"
  | _ => ""

/-- The path that a text spells. -/
def ofText (s : String) : Path :=
  ⟨rootOf s.toList, (splitAtMark '/' s.toList).filterMap fun n =>
    if n == [] || n == ['.'] then none else some (String.ofList n)⟩

/-- A path as text; the empty one is a point. -/
def text (p : Path) : String :=
  if p.root = "" ∧ p.names = [] then "." else p.root ++ "/".intercalate p.names

/-- The path without its last name. -/
def parent (p : Path) : Path := ⟨p.root, p.names.dropLast⟩

/-- The path one name further. -/
def child (p : Path) (name : String) : Path := ⟨p.root, p.names ++ [name]⟩

end Path

end BlockCalc
