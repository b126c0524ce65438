/-! # Locations in a source text

A location is a line and a column, both counted from one, with the text of that line and the name
of the source when they are known. `Location.ofOffset` finds the location of an offset; only a line
feed ends a line. `Location.render` writes a location, and below it the line with a caret under the
column. -/

namespace BlockCalc

/-- A place in a source text. -/
structure Location where
  line : Int
  column : Int
  snippet : Option String
  file : Option String
deriving DecidableEq, Repr

namespace Location

/-- An integer brought into the offsets of a text of a given length. -/
def clamp (offset : Int) (length : Nat) : Nat := min offset.toNat length

/-- The characters of the line in progress at the end of a text. -/
def lineBefore (before : List Char) : List Char :=
  (before.reverse.takeWhile (· != '\n')).reverse

/-- The characters up to the end of the line. -/
def lineAfter (after : List Char) : List Char := after.takeWhile (· != '\n')

/-- The location of an offset, which is first brought into the text. -/
def ofOffset (source : List Char) (offset : Int) (file : Option String) : Location :=
  let p := clamp offset source.length
  let before := source.take p
  let left := lineBefore before
  { line := before.count '\n' + 1
    column := left.length + 1
    snippet := some (String.ofList (left ++ lineAfter (source.drop p)))
    file := file }

/-- A text moved to the right end of a field. -/
def padLeft (width : Nat) (s : String) : String :=
  String.ofList (List.replicate (width - s.length) ' ') ++ s

/-- The line number in a field of four and a bar. -/
def gutter (line : Int) : String := padLeft 4 (toString line) ++ " | "

/-- The caret below a column of the snippet. -/
def caret (line column : Int) : String :=
  String.ofList (List.replicate ((gutter line).length + column - 1).toNat ' ') ++ "^"

/-- The name of the source; one without a name is called `<source>`. -/
def sourceName (file : Option String) : String :=
  match file with
  | none => "<source>"
  | some name => if name = "" then "<source>" else name

/-- A location as text. -/
def render (l : Location) : String :=
  let place := sourceName l.file ++ ":" ++ toString l.line ++ ":" ++ toString l.column
  match l.snippet with
  | none => place
  | some snippet => place ++ "\n" ++ gutter l.line ++ snippet ++ "\n" ++ caret l.line l.column

end Location

end BlockCalc
