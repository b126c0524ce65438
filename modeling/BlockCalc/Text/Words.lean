import BlockCalc.Text.Blank

/-! # Words

The words of a text, with the blanks around them or without. -/

namespace BlockCalc

/-- A text cut before every character that is not blank and follows a blank. -/
def cutWords : List Char → List (List Char)
  | [] => []
  | c :: r =>
    match cutWords r with
    | [] => [[c]]
    | w :: ws => if isBlank c && !w.head?.any isBlank then [c] :: w :: ws else (c :: w) :: ws

/-- The words of a text, each with the blanks behind it, the first also with those before it. -/
def words (cs : List Char) : List (List Char) :=
  match cutWords cs with
  | v :: w :: ws => if v.all isBlank then (v ++ w) :: ws else v :: w :: ws
  | ws => ws

/-- A text without the blanks at its end. -/
def trimEnd (cs : List Char) : List Char := (cs.reverse.dropWhile isBlank).reverse

/-- A text without the blanks at its two ends. -/
def trim (cs : List Char) : List Char := trimEnd (cs.dropWhile isBlank)

/-- A string without the blanks at its two ends. -/
def trimBlanks (s : String) : String := String.ofList (trim s.toList)

/-- The words of a text without any blanks. -/
def bareWords (cs : List Char) : List (List Char) :=
  ((words cs).map trim).filter fun w => !w.isEmpty

end BlockCalc
