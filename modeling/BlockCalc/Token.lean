import BlockCalc.Number.Text
import BlockCalc.Text.Quoted

/-! # Tokens

A token is a lexeme and the offset at which it starts. Ten lexemes are single characters, two carry
a payload, a number or a name, and one stands for the end of the input. The *kind* of a token
forgets the payload; kinds are what the grammar and its error messages speak of.

* `Token.same`: equality that ignores offsets and compares numbers numerically.
* `Token.text`, `Token.detail`: the two texts of a token, without and with its offset. -/

namespace BlockCalc

/-- The kinds of tokens. -/
inductive Kind
  | openBrace
  | closeBrace
  | semicolon
  | equals
  | plus
  | minus
  | times
  | slash
  | openParen
  | closeParen
  | number
  | name
  | endOfInput
deriving DecidableEq, Repr

namespace Kind

/-- All kinds. -/
def all : List Kind :=
  [openBrace, closeBrace, semicolon, equals, plus, minus, times, slash, openParen, closeParen,
    number, name, endOfInput]

/-- The word that messages use for a kind. -/
def label : Kind → String
  | openBrace => "begin"
  | closeBrace => "end"
  | semicolon => "semicolon"
  | equals => "assign"
  | plus => "add"
  | minus => "sub"
  | times => "mul"
  | slash => "div"
  | openParen => "lpar"
  | closeParen => "rpar"
  | number => "number"
  | name => "identifier"
  | endOfInput => "eof"

/-- The kind that a word stands for. -/
def ofLabel? (s : String) : Option Kind := all.find? fun k => k.label == s

theorem ofLabel?_label (k : Kind) : ofLabel? k.label = some k := by cases k <;> decide

end Kind

/-- What a token says, wherever it stands. -/
inductive Lexeme
  | openBrace
  | closeBrace
  | semicolon
  | equals
  | plus
  | minus
  | times
  | slash
  | openParen
  | closeParen
  | number (value : Binary64)
  | name (text : String)
  | endOfInput
deriving DecidableEq

namespace Lexeme

/-- The kind of a lexeme. -/
def kind : Lexeme → Kind
  | openBrace => .openBrace
  | closeBrace => .closeBrace
  | semicolon => .semicolon
  | equals => .equals
  | plus => .plus
  | minus => .minus
  | times => .times
  | slash => .slash
  | openParen => .openParen
  | closeParen => .closeParen
  | number _ => .number
  | name _ => .name
  | endOfInput => .endOfInput

/-- The lexeme of a kind without payload. -/
def ofKind? : Kind → Option Lexeme
  | .openBrace => some openBrace
  | .closeBrace => some closeBrace
  | .semicolon => some semicolon
  | .equals => some equals
  | .plus => some plus
  | .minus => some minus
  | .times => some times
  | .slash => some slash
  | .openParen => some openParen
  | .closeParen => some closeParen
  | .number => none
  | .name => none
  | .endOfInput => some endOfInput

/-- Equality of lexemes, numbers compared numerically. -/
def same : Lexeme → Lexeme → Bool
  | number x, number y => x.numEq y
  | name s, name t => s == t
  | number _, _ => false
  | name _, _ => false
  | a, b => a == b

/-- The payload as a token's text shows it. -/
def payloadText : Lexeme → String
  | number x => x.text
  | name s => s
  | _ => "null"

/-- The payload as a token's detailed text shows it. -/
def payloadDetail : Lexeme → String
  | number x => x.pointText
  | name s => quoted s
  | _ => "None"

end Lexeme

/-- A lexeme at an offset. -/
structure Token where
  lexeme : Lexeme
  offset : Int
deriving DecidableEq

namespace Token

/-- The kind of a token. -/
abbrev kind (t : Token) : Kind := t.lexeme.kind

/-- Equality that ignores where the tokens stand. -/
def same (s t : Token) : Bool := s.lexeme.same t.lexeme

/-- A token as text. -/
def text (t : Token) : String :=
  "Token(" ++ t.kind.label ++ ", " ++ t.lexeme.payloadText ++ ")"

/-- A token as text, with its offset. -/
def detail (t : Token) : String :=
  "Token(" ++ t.kind.label ++ ", " ++ t.lexeme.payloadDetail ++ ", pos=" ++ toString t.offset ++ ")"

/-- The tokens of a list without those that equal an earlier one. -/
def distinct (ts : List Token) : List Token :=
  ts.foldl (fun seen t => if seen.any (·.same t) then seen else seen ++ [t]) []

end Token

end BlockCalc
