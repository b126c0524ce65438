/-! # Text files

A text file is UTF-8 in which a carriage return, with or without a line feed behind it, ends a line
just as a line feed does. -/

namespace BlockCalc

/-- Every end of a line as a line feed. -/
def unifyNewlines : List Char → List Char
  | '\r' :: '\n' :: r => '\n' :: unifyNewlines r
  | '\r' :: r => '\n' :: unifyNewlines r
  | c :: r => c :: unifyNewlines r
  | [] => []

/-- The text of a file, if its bytes are text. -/
def decodeText (bytes : ByteArray) : Option (List Char) :=
  (String.fromUTF8? bytes).map fun s => unifyNewlines s.toList

end BlockCalc
