import BlockCalc.Number.Binary64

/-! # Decimals

A decimal is a natural number times a power of ten. This module goes both ways between decimals and
binary numbers.

* `Decimal.toBinary64`: the nearest binary number.
* `Decimal.shortest`: of the decimals that read back as a given magnitude, one with the fewest
  digits, and of those the nearest; an exact tie goes to the even last digit.
* `Decimal.ofLiteral`: the decimal that digits with at most one point spell. -/

namespace BlockCalc

/-- The number `digits * 10 ^ exponent`. -/
structure Decimal where
  digits : Nat
  exponent : Int
deriving DecidableEq, Repr

namespace Decimal

open Binary64 (one nearestRank nearest halfEven)

/-! ### Decimal to binary -/

/-- The numerator of the value in units. -/
def num (d : Decimal) : Nat := d.digits * Nat.pow 10 d.exponent.toNat * one

/-- The denominator of the value in units. -/
def den (d : Decimal) : Nat := Nat.pow 10 (-d.exponent).toNat

/-- The rank nearest to the decimal. -/
def rank (d : Decimal) : Nat := nearestRank d.num d.den

/-- The binary number nearest to the decimal, with a sign. -/
def toBinary64 (negative : Bool) (d : Decimal) : Binary64 := nearest negative d.num d.den

/-- The decimal that digits with at most one point spell. -/
def ofLiteral (text : List Char) : Decimal :=
  let whole := text.takeWhile (· != '.')
  let part := (text.dropWhile (· != '.')).drop 1
  ⟨Nat.ofDigitChars 10 (whole ++ part) 0, -(part.length : Int)⟩

/-- As `toBinary64`, but exponents far outside the range of binary numbers cost nothing: the value
is then infinite or zero whatever the digits are. -/
def toBinary64Clamped (negative : Bool) (d : Decimal) : Binary64 :=
  let top := (Nat.toDigits 10 d.digits).length + d.exponent
  if d.digits = 0 ∨ top < -400 then .zero negative
  else if 400 < top then .infinity negative
  else d.toBinary64 negative

/-! ### Binary to decimal -/

/-- How many digits the decimal notation of a number has. -/
def digitCount (n : Nat) : Nat := (Nat.toDigits 10 n).length

/-- The `k` for which a positive number of units lies in `[10 ^ (k - 1), 10 ^ k)`. -/
def magnitude (units : Nat) : Int :=
  if one ≤ units then digitCount (units / one) else 1 - (digitCount ((one - 1) / units) : Int)

/-- Of the two multiples of `10 ^ grid` around a magnitude, the nearer one that reads back as its
rank, if one does. -/
def onGrid (rank units : Nat) (grid : Int) : Option Decimal :=
  let num := units * Nat.pow 10 (-grid).toNat
  let den := one * Nat.pow 10 grid.toNat
  let low : Decimal := ⟨num / den, grid⟩
  let high : Decimal := ⟨num / den + 1, grid⟩
  if low.rank = rank then
    if high.rank = rank then some ⟨halfEven num den, grid⟩ else some low
  else if high.rank = rank then some high else none

/-- All digits of a magnitude. -/
def exact (units : Nat) : Decimal := ⟨units * Nat.pow 5 1074, -1074⟩

/-- The decimal of the first grid, from coarse to fine, that has one which reads back. -/
def shortest (rank : Nat) : Decimal :=
  let units := Binary64.units rank
  let k := magnitude units
  ((List.range 17).findSome? fun (i : Nat) => onGrid rank units (k - 1 - i)).getD (exact units)

/-- The same value with no zero at the end of its digits. -/
def trim (d : Decimal) : Decimal :=
  if h : d.digits ≠ 0 ∧ d.digits % 10 = 0 then trim ⟨d.digits / 10, d.exponent + 1⟩ else d
termination_by d.digits
decreasing_by exact Nat.div_lt_self (Nat.pos_of_ne_zero h.1) (by decide)

end Decimal

end BlockCalc
