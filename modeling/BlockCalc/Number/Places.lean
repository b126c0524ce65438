import BlockCalc.Number.Text

/-! # Numbers with a given number of digits

A magnitude, given in units, is written with as many digits as are asked for. The last one is rounded
to the nearest, a tie going to the even digit.

* `fixed`: the number of digits behind the point is given.
* `powered`: so is it, with the point behind the first digit and a power of ten.
* `general`: the number of all digits is given. The size of the number decides between the two, and
  zeros at the end are left out.

A point that no digit follows is left out, too; `pointed` keeps it, and these zeros. -/

namespace BlockCalc

namespace Binary64

/-- Digits behind a point, which may stand alone. -/
def behindPoint (pointed : Bool) : List Char → List Char
  | [] => if pointed then ['.'] else []
  | digits => '.' :: digits

/-- Decimal digits, filled with zeros up to a width. -/
def digitsOf (width n : Nat) : List Char :=
  let digits := Nat.toDigits 10 n
  zeros (width - digits.length) ++ digits

/-- The exponent of a power of ten, with two digits or more. -/
def power (exponent : Int) : List Char :=
  'e' :: (if exponent < 0 then '-' else '+') :: digitsOf 2 exponent.natAbs

/-- A magnitude with the given number of digits behind the point. -/
def fixed (pointed : Bool) (places units : Nat) : List Char :=
  let n := halfEven (units * Nat.pow 10 places) one
  let part := if places = 0 then [] else digitsOf places (n % Nat.pow 10 places)
  Nat.toDigits 10 (n / Nat.pow 10 places) ++ behindPoint pointed part

/-- The first digit of a magnitude, the given number of digits behind it, and the power of ten. -/
def leading (places units : Nat) : List Char × Int :=
  if units = 0 then (digitsOf (places + 1) 0, 0)
  else
    let exponent := Decimal.magnitude units - 1
    let grid := exponent - places
    let n := halfEven (units * Nat.pow 10 (-grid).toNat) (one * Nat.pow 10 grid.toNat)
    if n = Nat.pow 10 (places + 1) then (digitsOf (places + 1) (n / 10), exponent + 1)
    else (digitsOf (places + 1) n, exponent)

/-- A magnitude with the given number of digits behind the point, and a power of ten. -/
def powered (pointed : Bool) (places units : Nat) : List Char :=
  let (digits, exponent) := leading places units
  digits.take 1 ++ behindPoint pointed (digits.drop 1) ++ power exponent

/-- Digits behind a point without the zeros at their end. -/
def trimZeros (digits : List Char) : List Char := (digits.reverse.dropWhile (· == '0')).reverse

/-- A magnitude with the given number of digits, at least one. -/
def general (pointed : Bool) (count units : Nat) : List Char :=
  let places := count - 1
  let (digits, exponent) := leading places units
  let tidy := fun part => if pointed then part else trimZeros part
  if exponent < -4 ∨ (places : Int) < exponent then
    digits.take 1 ++ behindPoint pointed (tidy (digits.drop 1)) ++ power exponent
  else if exponent < 0 then
    '0' :: behindPoint pointed (zeros (-exponent - 1).toNat ++ tidy digits)
  else
    digits.take (exponent.toNat + 1) ++
      behindPoint pointed (tidy (digits.drop (exponent.toNat + 1)))

end Binary64

end BlockCalc
