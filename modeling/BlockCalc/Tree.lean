import BlockCalc.Token

/-! # Syntax trees

A tree of the language: numbers, names, binary and unary operations, assignments, blocks and the
empty statement. Every node but the empty one keeps the offset of the token it was made from; the
token itself is determined by the node. Expressions and statements share one type: nothing keeps a
block from standing under a sign, and it is evaluation that refuses it.

* `Tree.render`: a tree on one line, every binary operation in parentheses.
* `Tree.outline`: one line for every node, indented by depth.
* `Tree.same`: equality that ignores offsets and compares numbers numerically.
* `Tree.height`: the depth of the deepest node. -/

namespace BlockCalc

/-- The operations of two operands. -/
inductive Operator
  | add
  | sub
  | mul
  | div
deriving DecidableEq, Repr

namespace Operator

/-- The character of an operation. -/
def symbol : Operator → Char
  | add => '+'
  | sub => '-'
  | mul => '*'
  | div => '/'

/-- The operation that a kind of token stands for. -/
def ofKind? : Kind → Option Operator
  | .plus => some add
  | .minus => some sub
  | .times => some mul
  | .slash => some div
  | _ => none

end Operator

/-- The signs before an operand. -/
inductive Sign
  | plus
  | minus
deriving DecidableEq, Repr

namespace Sign

/-- The character of a sign. -/
def symbol : Sign → Char
  | plus => '+'
  | minus => '-'

/-- The sign that a kind of token stands for. -/
def ofKind? : Kind → Option Sign
  | .plus => some plus
  | .minus => some minus
  | _ => none

end Sign

/-- The types of nodes. -/
inductive Shape
  | number
  | name
  | binary
  | unary
  | assign
  | block
  | empty
deriving DecidableEq, Repr

/-- The word that messages and outlines use for a type of node. -/
def Shape.label : Shape → String
  | number => "Number"
  | name => "Variable"
  | binary => "BinOp"
  | unary => "UnaryOp"
  | assign => "Assign"
  | block => "Block"
  | empty => "NoOp"

/-- A syntax tree. -/
inductive Tree
  | number (value : Binary64) (offset : Int)
  | name (text : String) (offset : Int)
  | binary (op : Operator) (offset : Int) (left right : Tree)
  | unary (sign : Sign) (offset : Int) (operand : Tree)
  | assign (target : String) (targetOffset offset : Int) (value : Tree)
  | block (offset : Int) (children : List Tree)
  | empty

namespace Tree

/-- The type of the root. -/
def shape : Tree → Shape
  | number _ _ => .number
  | name _ _ => .name
  | binary _ _ _ _ => .binary
  | unary _ _ _ => .unary
  | assign _ _ _ _ => .assign
  | block _ _ => .block
  | empty => .empty

mutual

/-- The depth of the deepest node, the root being at depth one. -/
def height : Tree → Nat
  | number _ _ => 1
  | name _ _ => 1
  | binary _ _ l r => max l.height r.height + 1
  | unary _ _ t => t.height + 1
  | assign _ _ _ v => max 1 v.height + 1
  | block _ cs => heights cs + 1
  | empty => 1

/-- The greatest height in a list of trees. -/
def heights : List Tree → Nat
  | [] => 0
  | t :: ts => max t.height (heights ts)

end

/-! ### One line -/

mutual

/-- A tree on one line. -/
def render : Tree → List Char
  | number x _ => x.chars
  | name s _ => s.toList
  | binary op _ l r => '(' :: (l.render ++ ' ' :: op.symbol :: ' ' :: (r.render ++ [')']))
  | unary s _ t => s.symbol :: t.render
  | assign x _ _ v => x.toList ++ ' ' :: '=' :: ' ' :: v.render
  | block _ cs => '{' :: ' ' :: (renderAll cs ++ [' ', '}'])
  | empty => []

/-- Statements with semicolons between them. -/
def renderAll : List Tree → List Char
  | [] => []
  | [t] => t.render
  | t :: u :: ts => t.render ++ ';' :: ' ' :: renderAll (u :: ts)

end

/-! ### One line for every node -/

/-- Two spaces for every level; none at a level below zero. -/
def indent (level : Int) : String := String.ofList (List.replicate (2 * level.toNat) ' ')

/-- What a line of an outline says of a node. -/
def caption : Tree → String
  | number x _ => "Number(" ++ x.text ++ ")"
  | name s _ => "Variable(" ++ s ++ ")"
  | binary op _ _ _ => "BinOp(" ++ String.singleton op.symbol ++ ")"
  | unary s _ _ => "UnaryOp(" ++ String.singleton s.symbol ++ ")"
  | assign _ _ _ _ => "Assign"
  | block _ _ => "Block"
  | empty => "NoOp"

mutual

/-- The lines of an outline whose root is at a given level. -/
def outlineLines (level : Int) : Tree → List String
  | number x p => [indent level ++ caption (number x p)]
  | name s p => [indent level ++ caption (name s p)]
  | binary op p l r =>
    (indent level ++ caption (binary op p l r))
      :: (outlineLines (level + 1) l ++ outlineLines (level + 1) r)
  | unary s p t => (indent level ++ caption (unary s p t)) :: outlineLines (level + 1) t
  | assign x q p v =>
    (indent level ++ caption (assign x q p v))
      :: (indent (level + 1) ++ caption (name x q)) :: outlineLines (level + 1) v
  | block p cs => (indent level ++ caption (block p cs)) :: outlineAll (level + 1) cs
  | empty => [indent level ++ caption empty]

/-- The lines of trees that stand side by side. -/
def outlineAll (level : Int) : List Tree → List String
  | [] => []
  | t :: ts => outlineLines level t ++ outlineAll level ts

end

/-- One line for every node, in preorder, the root at a given level. -/
def outline (level : Int) (t : Tree) : String := "\n".intercalate (t.outlineLines level)

mutual

/-- The offsets of all nodes in preorder; the empty statement has none. -/
def offsets : Tree → List (Option Int)
  | number _ p => [some p]
  | name _ p => [some p]
  | binary _ p l r => some p :: (l.offsets ++ r.offsets)
  | unary _ p t => some p :: t.offsets
  | assign _ q p v => some p :: some q :: v.offsets
  | block p cs => some p :: offsetsAll cs
  | empty => [none]

/-- The offsets of trees that stand side by side. -/
def offsetsAll : List Tree → List (Option Int)
  | [] => []
  | t :: ts => t.offsets ++ offsetsAll ts

end

/-! ### Equality -/

mutual

/-- Equality that ignores offsets and compares numbers numerically. -/
def same : Tree → Tree → Bool
  | number x _, number y _ => x.numEq y
  | name s _, name t _ => s == t
  | binary a _ l r, binary b _ m s => a == b && l.same m && r.same s
  | unary a _ t, unary b _ u => a == b && t.same u
  | assign x _ _ v, assign y _ _ w => x == y && v.same w
  | block _ cs, block _ ds => sameAll cs ds
  | empty, empty => true
  | _, _ => false

/-- Equality of lists of trees, place by place. -/
def sameAll : List Tree → List Tree → Bool
  | [], [] => true
  | t :: ts, u :: us => t.same u && sameAll ts us
  | _, _ => false

end

end Tree

end BlockCalc
