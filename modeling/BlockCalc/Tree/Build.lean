import BlockCalc.Fault
import BlockCalc.Tree

/-! # Building trees from parts

A node is made from a token and smaller trees. `Tree.build` checks that all parts are there, then
that the token is of a kind the node can have, then that an assignment has a name on its left. -/

namespace BlockCalc

/-- The parts that a node may be made from; children default to none. -/
structure Parts where
  token : Option Token
  left : Option Tree
  right : Option Tree
  operand : Option Tree
  children : List Tree

namespace Tree

/-- The fault of a node whose token is of a wrong kind. -/
def badToken (shape : Shape) (token : Token) : Failure :=
  .fault (Fault.of (.badToken shape.label token.kind.label))

/-- Makes a node of a given type. A part that the type does not have is ignored. -/
def build (shape : Shape) (parts : Parts) : Except Failure Tree :=
  match shape, parts.token, parts.left, parts.right, parts.operand with
  | .empty, _, _, _, _ => .ok empty
  | .number, some t, _, _, _ =>
    match t.lexeme with
    | .number x => .ok (number x t.offset)
    | _ => .error (badToken .number t)
  | .name, some t, _, _, _ =>
    match t.lexeme with
    | .name s => .ok (name s t.offset)
    | _ => .error (badToken .name t)
  | .binary, some t, some l, some r, _ =>
    match Operator.ofKind? t.kind with
    | some op => .ok (binary op t.offset l r)
    | none => .error (badToken .binary t)
  | .unary, some t, _, _, some u =>
    match Sign.ofKind? t.kind with
    | some s => .ok (unary s t.offset u)
    | none => .error (badToken .unary t)
  | .assign, some t, some l, some r, _ =>
    if t.kind = .equals then
      match l with
      | name x q => .ok (assign x q t.offset r)
      | _ => .error (.fault (Fault.of (.badTarget l.shape.label)))
    else .error (badToken .assign t)
  | .block, some t, _, _, _ =>
    if t.kind = .openBrace then .ok (block t.offset parts.children)
    else .error (badToken .block t)
  | _, _, _, _, _ => .error .missingPart

end Tree

end BlockCalc
