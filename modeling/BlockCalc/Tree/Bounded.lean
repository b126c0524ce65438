import BlockCalc.Fault
import BlockCalc.Tree

/-! # Trees within a depth limit

Walking a tree takes one level of depth for every level of the tree. The operations here stop with
`Failure.depth` where the walk would go below the limit. -/

namespace BlockCalc

/-- The depth to which sources and trees may be nested. -/
def depthLimit : Nat := 1000

namespace Tree

/-- The result of a walk through the whole of a tree. -/
def within (limit : Nat) (walk : Tree → α) (t : Tree) : Except Failure α :=
  if t.height ≤ limit then .ok (walk t) else .error .depth

/-- Compares place by place and stops at the first difference. -/
def sameEach (eq : Tree → Tree → Option Bool) : List Tree → List Tree → Option Bool
  | [], [] => some true
  | t :: ts, u :: us => (eq t u).bind fun b => if b then sameEach eq ts us else some false
  | _, _ => some false

/-- As `same`, from left to right up to the first difference; no answer where that lies below the
limit. -/
def sameWithin : Nat → Tree → Tree → Option Bool
  | 0, _, _ => none
  | n + 1, binary a _ l r, binary b _ m s =>
    if a = b then sameEach (sameWithin n) [l, r] [m, s] else some false
  | n + 1, unary a _ t, unary b _ u => if a = b then sameWithin n t u else some false
  | n + 1, assign x _ _ v, assign y _ _ w => if x = y then sameWithin n v w else some false
  | n + 1, block _ cs, block _ ds =>
    if cs.length = ds.length then sameEach (sameWithin n) cs ds else some false
  | _ + 1, t, u => some (t.same u)

end Tree

end BlockCalc
