import BlockCalc.Token.Stream
import BlockCalc.Tree.Bounded

/-! # Parsing

The grammar, by increasing precedence:

    program     = block end
    block       = "{" statement (";" statement)* "}"
    statement   = assignment | block | nothing
    assignment  = name "=" expression
    expression  = term (("+" | "-") term)*
    term        = factor (("*" | "/") factor)*
    factor      = ("+" | "-") factor | number | name | "(" expression ")"

Every rule is an action on a token stream. A token is read only when the one before it is taken, so
a fault of the text shows up only when the grammar gets that far.

Nesting is bounded by a depth limit: a factor inside a sign or parentheses and a block inside a
block are one level deeper. Chains such as `1 + 1 + 1` take no depth. -/

namespace BlockCalc

namespace Parse

/-! ### Expressions -/

/-- The operations of an expression. -/
def additive? : Kind → Option Operator
  | .plus => some .add
  | .minus => some .sub
  | _ => none

/-- The operations of a term. -/
def multiplicative? : Kind → Option Operator
  | .times => some .mul
  | .slash => some .div
  | _ => none

/-- Operands with operators between them, grouped from the left. -/
def chain (operators : Kind → Option Operator) (operand : Parse Tree) : Parse Tree := do
  let first ← operand
  loop operators (fun left t op => do return .binary op t.offset left (← operand)) first

/-- A term over given factors. -/
def termOf (factor : Parse Tree) : Parse Tree := chain multiplicative? factor

/-- An expression over given factors. -/
def expressionOf (factor : Parse Tree) : Parse Tree := chain additive? (termOf factor)

/-- The kinds of tokens with which a factor starts. -/
def factorStarts : List Kind := [.plus, .minus, .number, .name, .openParen]

/-- A factor. -/
def factor : Nat → Parse Tree
  | 0 => stop .depth
  | d + 1 => do
    let t ← current
    match t.lexeme with
    | .plus =>
      let _ ← eat .plus
      return .unary .plus t.offset (← factor d)
    | .minus =>
      let _ ← eat .minus
      return .unary .minus t.offset (← factor d)
    | .number x =>
      let _ ← eat .number
      return .number x t.offset
    | .name s =>
      let _ ← eat .name
      return .name s t.offset
    | .openParen =>
      let _ ← eat .openParen
      let inner ← expressionOf (factor d)
      let _ ← eat .closeParen
      return inner
    | _ => refuse (.oneOf factorStarts)

/-- A term. -/
def term (d : Nat) : Parse Tree := termOf (factor d)

/-- An expression. -/
def expression (d : Nat) : Parse Tree := expressionOf (factor d)

/-! ### Statements -/

/-- Takes a name. -/
def eatName : Parse (String × Int) := do
  let t ← current
  match t.lexeme with
  | .name s =>
    let _ ← eat .name
    return (s, t.offset)
  | _ => refuse (.exactly .name)

/-- An assignment. -/
def assignment (d : Nat) : Parse Tree := do
  let (x, q) ← eatName
  let t ← eat .equals
  return .assign x q t.offset (← expression d)

/-- A statement over given assignments and blocks. -/
def statementOf (assignment block : Parse Tree) : Parse Tree := do
  let t ← current
  match t.kind with
  | .name => assignment
  | .openBrace => block
  | _ => return .empty

/-- The kind of token that separates statements. -/
def separator? (k : Kind) : Option Unit := if k = .semicolon then some () else none

/-- A block. -/
def block : Nat → Parse Tree
  | 0 => stop .depth
  | d + 1 => do
    let t ← eat .openBrace
    let first ← statementOf (assignment d) (block d)
    let children ← loop separator?
      (fun cs _ _ => do return cs ++ [← statementOf (assignment d) (block d)]) [first]
    let _ ← eat .closeBrace
    return .block t.offset children

/-- A statement. -/
def statement (d : Nat) : Parse Tree := statementOf (assignment d) (block d)

/-! ### Whole sources -/

/-- A block and nothing after it. -/
def program (d : Nat) : Parse Tree := do
  let t ← block d
  let _ ← eat .endOfInput
  return t

/-- An expression and nothing after it. -/
def soleExpression (d : Nat) : Parse Tree := do
  let t ← expression d
  let _ ← eat .endOfInput
  return t

end Parse

/-- The fault of a named source text for which parsing stopped at a stream: what is nested too
deeply is the token that comes next. -/
def Stop.toFault (source : List Char) (file : Option String) (s : TokenStream) :
    Stop SourceFault → Fault
  | .fault e => e.locate source file
  | .depth => SourceFault.locate source file ⟨.nestingTooDeep, s.front⟩

/-- The outcome of an action on a whole source text. -/
def Parse.onSource (x : Parse α) (source : List Char) (file : Option String) : Except Fault α :=
  match x.run (TokenStream.start source) with
  | (.ok a, _) => .ok a
  | (.error e, s) => .error (e.toFault source file s)

/-- The outcome of a text that is nested beyond a limit: it is faulted where the limit was
reached. -/
def TooDeep (r : Except Fault α) : Prop := ∃ l, r = .error ⟨.nestingTooDeep, some l⟩

/-- The tree of a program. -/
def parseProgram (limit : Nat) (source : List Char) (file : Option String) : Except Fault Tree :=
  (Parse.program limit).onSource source file

/-- The tree of an expression. -/
def parseExpression (limit : Nat) (source : List Char) : Except Fault Tree :=
  (Parse.soleExpression limit).onSource source none

end BlockCalc
