import BlockCalc.Proofs.Token.Feed

/-! # What is open at a place

Parentheses, braces and prefix signs enclose what comes behind them: a bracket up to the one that
closes it, a sign up to the end of its operand. `Opened` keeps what is open at a place among tokens,
the innermost first, and `Opened.after` goes one token further. It works for all tokens in any order;
a bracket that closes ends the signs before it, too.

`Opened.deepest` is the greatest number of them that are open at once, and `nesting` is this number
for all tokens of a text, up to its end or its first fault. Operators, separators and operands do not
count, however many there are. -/

namespace BlockCalc

/-- The kinds of the signs. -/
def Kind.isSign : Kind → Bool
  | .plus | .minus => true
  | _ => false

/-- The brackets and prefix signs that are open at a place, the innermost first, and whether an
operand has just come to its end there, so that a plus or a minus is no sign. -/
structure Opened where
  stack : List Kind
  afterOperand : Bool

namespace Opened

/-- Nothing is open. -/
def start : Opened := ⟨[], false⟩

/-- An operand ends the signs right before it. -/
def operandEnds (stack : List Kind) : Opened := ⟨stack.dropWhile Kind.isSign, true⟩

/-- The stack without its innermost bracket. -/
def closed (stack : List Kind) : List Kind := (stack.dropWhile Kind.isSign).drop 1

/-- What is open behind a token of a given kind. -/
def after (o : Opened) : Kind → Opened
  | .plus => if o.afterOperand then ⟨o.stack, false⟩ else ⟨.plus :: o.stack, false⟩
  | .minus => if o.afterOperand then ⟨o.stack, false⟩ else ⟨.minus :: o.stack, false⟩
  | .number | .name => operandEnds o.stack
  | .openParen => ⟨.openParen :: o.stack, false⟩
  | .closeParen => operandEnds (closed o.stack)
  | .openBrace => ⟨.openBrace :: o.stack, false⟩
  | .closeBrace => ⟨closed o.stack, false⟩
  | .times | .slash | .equals | .semicolon | .endOfInput => ⟨o.stack, false⟩

/-- The greatest number of things that are open at once, here or behind any of these tokens. -/
def deepest (o : Opened) : List Token → Nat
  | [] => o.stack.length
  | t :: ts => max o.stack.length ((o.after t.kind).deepest ts)

theorem length_le_deepest (o : Opened) (ts : List Token) : o.stack.length ≤ o.deepest ts := by
  cases ts with
  | nil => exact Nat.le_refl _
  | cons t ts => exact Nat.le_max_left _ _

theorem deepest_after_le (o : Opened) (t : Token) (ts : List Token) :
    (o.after t.kind).deepest ts ≤ o.deepest (t :: ts) := Nat.le_max_right _ _

end Opened

/-- How deeply the tokens of a text are nested. -/
def nesting (source : List Char) : Nat := Opened.start.deepest (Cursor.start source).feed.1

end BlockCalc
