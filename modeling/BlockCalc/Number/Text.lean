import BlockCalc.Number.Decimal

/-! # The text of a number

Two texts are in use. `pointText` always shows that a number is not a whole-number type: `2.0`,
`1e+16`, `-0.0`. `text` writes a whole number with all its digits and nothing else (`2`,
`10000000000000000`, `0` for both zeros) and any other number as `pointText` does. Both take the
shortest digits that read back, and both spell the special values `inf`, `-inf` and `nan`. -/

namespace BlockCalc

/-! ### Layout of digits -/

/-- Which decimal exponents are written positionally, and how wide an exponent is at least. -/
structure Layout where
  positionalFrom : Int
  positionalBelow : Int
  exponentWidth : Nat

/-- Exponents from -4 to 15 are written positionally, others with two digits or more. -/
def Layout.standard : Layout := ⟨-4, 16, 2⟩

/-- Zeros. -/
def zeros (n : Nat) : List Char := List.replicate n '0'

/-- Digits with the point after the first `point` places, zeros filling the gap on either side. -/
def positional (digits : List Char) (point : Int) : List Char :=
  if point ≤ 0 then '0' :: '.' :: (zeros (-point).toNat ++ digits)
  else if digits.length ≤ point.toNat then
    digits ++ zeros (point.toNat - digits.length) ++ ['.', '0']
  else digits.take point.toNat ++ '.' :: digits.drop point.toNat

/-- Digits with the point after the first of them, then a power of ten. -/
def scientific (width : Nat) (digits : List Char) (exponent : Int) : List Char :=
  let mantissa := match digits.drop 1 with
    | [] => digits
    | rest => digits.take 1 ++ '.' :: rest
  let power := Nat.toDigits 10 exponent.natAbs
  mantissa ++ 'e' :: (if exponent < 0 then '-' else '+') :: (zeros (width - power.length) ++ power)

/-- A positive decimal in a layout. -/
def Layout.write (layout : Layout) (d : Decimal) : List Char :=
  let digits := Nat.toDigits 10 d.digits
  let point := digits.length + d.exponent
  if layout.positionalFrom ≤ point - 1 ∧ point - 1 < layout.positionalBelow then
    positional digits point
  else scientific layout.exponentWidth digits (point - 1)

namespace Binary64

/-- A minus sign where one is due. -/
def signed (negative : Bool) (cs : List Char) : List Char := if negative then '-' :: cs else cs

/-- The characters of `pointText`. -/
def pointChars : Binary64 → List Char
  | nan => ['n', 'a', 'n']
  | infinity s => signed s ['i', 'n', 'f']
  | finite s r =>
    signed s (if r.val = 0 then ['0', '.', '0']
      else Layout.standard.write (Decimal.shortest r).trim)

/-- The characters of `text`. -/
def chars : Binary64 → List Char
  | finite s r =>
    if units r % one = 0 then
      signed (s && r.val != 0) (Nat.toDigits 10 (units r / one))
    else pointChars (finite s r)
  | x => pointChars x

/-- A number, always with a point or an exponent. -/
def pointText (x : Binary64) : String := String.ofList x.pointChars

/-- A number, whole ones without a point. -/
def text (x : Binary64) : String := String.ofList x.chars

end Binary64

end BlockCalc
