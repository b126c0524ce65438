/-! # Binary64 numbers

The numbers of the language: 53 bits of precision, gradual underflow, signed zeros, two infinities
and one NaN. A finite number is a sign and a *rank*, its place in the increasing list of all finite
magnitudes: rank `0` is zero, rank `1` the least positive number `2 ^ (-1074)`, and the step from
one rank to the next doubles every `2 ^ 52` ranks. Every finite magnitude is a whole number of
*units* of `2 ^ (-1074)`, so all arithmetic is exact arithmetic of natural numbers followed by one
rounding, `nearestRank`.

* `units`: the magnitude of a rank, in units.
* `nearestRank`: the rank nearest to a quotient of natural numbers, a tie going to the even rank.
* `add`, `sub`, `mul`, `div`, `neg`: the exact result rounded once, with the usual rules for signed
  zeros, infinities and NaN; `div` is total.
* `ofBits`, `toBits`: the interchange form in 64 bits. -/

namespace BlockCalc

/-- The number of ranks from one doubling of the step to the next, which is `2 ^ 52`. -/
abbrev binade : Nat := 0x10000000000000

/-- The number of finite magnitudes. -/
abbrev rankCount : Nat := 2047 * binade

/-- A number of the language. -/
inductive Binary64
  | nan
  | infinity (negative : Bool)
  | finite (negative : Bool) (rank : Fin rankCount)
deriving DecidableEq

namespace Binary64

/-! ### Magnitudes -/

/-- How many units make the number one. -/
abbrev one : Nat := Nat.pow 2 1074

/-- The magnitude of a rank, in units: the low 52 bits of a rank count steps, the others say how
often the step was doubled. -/
def units (rank : Nat) : Nat :=
  if rank < binade then rank
  else (rank % binade + binade) * Nat.pow 2 (rank / binade - 1)

/-- The natural number nearest to `num / den`; of two equally near ones, the even one. -/
def halfEven (num den : Nat) : Nat :=
  let q := num / den
  let r := num % den
  if 2 * r < den then q else if den < 2 * r then q + 1 else q + q % 2

/-- How many bits of `num / den` lie below the 53 that a number keeps. -/
def excess (num den : Nat) : Nat := Nat.log2 (num / den) - 52

/-- The rank nearest to `num / den` units, were there no largest one. A mantissa that rounds up to
`2 ^ 53` carries into the exponent by itself. -/
def nearestRank (num den : Nat) : Nat :=
  excess num den * binade + halfEven num (den * Nat.pow 2 (excess num den))

/-- The number of a given sign whose magnitude is nearest to `num / den` units; beyond the largest
finite number it is infinite. -/
def nearest (negative : Bool) (num den : Nat) : Binary64 :=
  if h : nearestRank num den < rankCount then finite negative ⟨nearestRank num den, h⟩
  else infinity negative

/-- The zero of a given sign. -/
def zero (negative : Bool) : Binary64 := finite negative ⟨0, by decide⟩

/-- The value of a finite number, in units. -/
def signedUnits (negative : Bool) (rank : Nat) : Int :=
  if negative then -(units rank : Int) else units rank

/-! ### Arithmetic -/

/-- The number with the opposite sign; NaN has none. -/
def neg : Binary64 → Binary64
  | nan => nan
  | infinity s => infinity !s
  | finite s r => finite (!s) r

/-- An exact zero sum is negative only if both terms are. -/
def addFinite (s : Bool) (a : Nat) (t : Bool) (b : Nat) : Binary64 :=
  let sum := signedUnits s a + signedUnits t b
  if sum = 0 then zero (s && t)
  else nearest (decide (sum < 0)) sum.natAbs 1

/-- Addition. -/
def add : Binary64 → Binary64 → Binary64
  | nan, _ => nan
  | _, nan => nan
  | infinity s, infinity t => if s = t then infinity s else nan
  | infinity s, finite _ _ => infinity s
  | finite _ _, infinity t => infinity t
  | finite s a, finite t b => addFinite s a t b

/-- Subtraction. -/
def sub (x y : Binary64) : Binary64 := add x (neg y)

/-- Multiplication. -/
def mul : Binary64 → Binary64 → Binary64
  | nan, _ => nan
  | _, nan => nan
  | infinity s, infinity t => infinity (s != t)
  | infinity s, finite t b => if b.val = 0 then nan else infinity (s != t)
  | finite s a, infinity t => if a.val = 0 then nan else infinity (s != t)
  | finite s a, finite t b => nearest (s != t) (units a * units b) one

/-- Division. A zero divisor gives an infinity, or NaN when the dividend is zero too. -/
def div : Binary64 → Binary64 → Binary64
  | nan, _ => nan
  | _, nan => nan
  | infinity _, infinity _ => nan
  | infinity s, finite t _ => infinity (s != t)
  | finite s _, infinity t => zero (s != t)
  | finite s a, finite t b =>
    if b.val = 0 then (if a.val = 0 then nan else infinity (s != t))
    else nearest (s != t) (units a * one) (units b)

/-- Numeric equality: the two zeros are equal, and NaN differs from everything. -/
def numEq : Binary64 → Binary64 → Bool
  | infinity s, infinity t => s == t
  | finite s a, finite t b => a == b && (s == t || a.val == 0)
  | _, _ => false

/-! ### Interchange form -/

/-- The weight of the sign, which is `2 ^ 63`. -/
abbrev signBit : Nat := 0x8000000000000000

/-- The number that 64 bits stand for: a sign bit above 63 bits of rank. Every pattern above that of
infinity is NaN. -/
def ofBits (bits : Nat) : Binary64 :=
  let negative := bits / signBit % 2 == 1
  let rank := bits % signBit
  if h : rank < rankCount then finite negative ⟨rank, h⟩
  else if rank = rankCount then infinity negative else nan

/-- The 64 bits of a number; NaN has the quiet pattern. -/
def toBits : Binary64 → Nat
  | nan => rankCount + binade / 2
  | infinity s => s.toNat * signBit + rankCount
  | finite s r => s.toNat * signBit + r

end Binary64

end BlockCalc
