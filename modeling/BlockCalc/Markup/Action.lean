import BlockCalc.Markup.Literal
import BlockCalc.Text.WordChar

/-! # Actions

An action of a tag is a name, with or without arguments in parentheses, or a literal alone. What
stands in the parentheses has to make up a literal together with them. -/

namespace BlockCalc

namespace Action

/-- Characters of the name of an action. -/
def isNameChar (c : Char) : Bool := c == '.' || wordChars.contains c

/-- A text that is an action. -/
def isWellFormed (cs : List Char) : Bool :=
  match cs.dropWhile isNameChar with
  | [] => true
  | '(' :: r =>
    if r.getLast? = some ')' && !r.contains '\n' then isLiteral ('(' :: r) else isLiteral cs
  | _ => isLiteral cs

end Action

end BlockCalc
