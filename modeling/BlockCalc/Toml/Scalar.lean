import BlockCalc.Toml

/-! # Scalars of TOML

Numbers, dates and times at the start of a text, each with what follows it. All of these are read as
far as they go: what cannot belong to them is left for what comes next. -/

namespace BlockCalc

namespace Toml

/-- ASCII digits. -/
def isDecimal (c : Char) : Bool := '0' ≤ c && c ≤ '9'

/-- Hexadecimal digits. -/
def isHex (c : Char) : Bool := isDecimal c || ('a' ≤ c && c ≤ 'f') || ('A' ≤ c && c ≤ 'F')

/-- Octal digits. -/
def isOctal (c : Char) : Bool := '0' ≤ c && c ≤ '7'

/-- Binary digits. -/
def isBinary (c : Char) : Bool := c == '0' || c == '1'

/-- The value of a hexadecimal digit. -/
def digitValue (c : Char) : Nat :=
  if isDecimal c then c.toNat - '0'.toNat
  else if 'a' ≤ c then c.toNat - 'a'.toNat + 10
  else c.toNat - 'A'.toNat + 10

/-- The number that digits spell in a base. -/
def ofDigits (base : Nat) (ds : List Char) : Nat := ds.foldl (fun n c => base * n + digitValue c) 0

/-! ### Numbers -/

/-- Digits of a class, with single underscores between them allowed. -/
def underscored (p : Char → Bool) : List Char → List Char × List Char
  | '_' :: c :: r =>
    if p c then
      let (ds, rest) := underscored p r
      (c :: ds, rest)
    else ([], '_' :: c :: r)
  | c :: r =>
    if p c then
      let (ds, rest) := underscored p r
      (c :: ds, rest)
    else ([], c :: r)
  | [] => ([], [])

/-- Digits of a class, of which the first stands without an underscore before it. -/
def digitRun? (p : Char → Bool) : List Char → Option (List Char × List Char)
  | c :: r => if p c then some (underscored p (c :: r)) else none
  | [] => none

/-- A whole number in base sixteen, eight or two. -/
def readRadix? : List Char → Option (Toml × List Char)
  | '0' :: 'x' :: r => (digitRun? isHex r).map fun (ds, rest) => (.integer (ofDigits 16 ds), rest)
  | '0' :: 'o' :: r => (digitRun? isOctal r).map fun (ds, rest) => (.integer (ofDigits 8 ds), rest)
  | '0' :: 'b' :: r => (digitRun? isBinary r).map fun (ds, rest) => (.integer (ofDigits 2 ds), rest)
  | _ => none

/-- A sign, if there is one. -/
def readSign : List Char → Bool × List Char
  | '+' :: r => (false, r)
  | '-' :: r => (true, r)
  | r => (false, r)

/-- The whole part of a decimal number: a zero alone, or digits of which the first is none. -/
def readWhole? : List Char → Option (List Char × List Char)
  | '0' :: r => some (['0'], r)
  | r => digitRun? isDecimal r

/-- The part after the point, if there is one. -/
def readFraction (cs : List Char) : Option (List Char) × List Char :=
  match cs with
  | '.' :: r =>
    match digitRun? isDecimal r with
    | some (ds, rest) => (some ds, rest)
    | none => (none, cs)
  | _ => (none, cs)

/-- The power of ten, if there is one. -/
def readExponent (cs : List Char) : Option Int × List Char :=
  match cs with
  | e :: r =>
    if e == 'e' || e == 'E' then
      let (negative, body) := readSign r
      match digitRun? isDecimal body with
      | some (ds, rest) =>
        (some (if negative then -(ofDigits 10 ds : Int) else ofDigits 10 ds), rest)
      | none => (none, cs)
    else (none, cs)
  | [] => (none, cs)

/-- A decimal number: whole if it has neither a point nor a power of ten. -/
def readDecimal? (cs : List Char) : Option (Toml × List Char) :=
  let (negative, body) := readSign cs
  (readWhole? body).map fun (whole, r) =>
    let (fraction, r) := readFraction r
    let (power, r) := readExponent r
    match fraction, power with
    | none, none =>
      (.integer (if negative then -(ofDigits 10 whole : Int) else ofDigits 10 whole), r)
    | _, _ =>
      let part := fraction.getD []
      let d : Decimal := ⟨ofDigits 10 (whole ++ part), power.getD 0 - part.length⟩
      (.float (d.toBinary64Clamped negative), r)

/-- The words for infinity and NaN, with an optional sign. -/
def readSpecial? (cs : List Char) : Option (Toml × List Char) :=
  let (negative, body) := readSign cs
  match body with
  | 'i' :: 'n' :: 'f' :: r => some (.float (.infinity negative), r)
  | 'n' :: 'a' :: 'n' :: r => some (.float .nan, r)
  | _ => none

/-- A number. -/
def readNumber? (cs : List Char) : Option (Toml × List Char) :=
  (readRadix? cs).orElse fun _ => (readDecimal? cs).orElse fun _ => readSpecial? cs

/-! ### Dates and times -/

/-- Two digits within bounds. -/
def readTwo? (low high : Nat) : List Char → Option (Nat × List Char)
  | a :: b :: r =>
    if isDecimal a && isDecimal b then
      let n := ofDigits 10 [a, b]
      if low ≤ n ∧ n ≤ high then some (n, r) else none
    else none
  | _ => none

/-- A given character. -/
def readMark? (mark : Char) : List Char → Option (List Char)
  | c :: r => if c = mark then some r else none
  | [] => none

/-- The fraction of a second, of which six digits count. -/
def readMicros (cs : List Char) : Nat × List Char :=
  match cs with
  | '.' :: r =>
    match r.takeWhile isDecimal with
    | [] => (0, cs)
    | ds => (ofDigits 10 ((ds ++ zeros 6).take 6), r.dropWhile isDecimal)
  | _ => (0, cs)

/-- A time of the day. -/
def readTime? (cs : List Char) : Option (Time × List Char) := do
  let (h, r) ← readTwo? 0 23 cs
  let r ← readMark? ':' r
  let (m, r) ← readTwo? 0 59 r
  let r ← readMark? ':' r
  let (s, r) ← readTwo? 0 59 r
  let (u, r) := readMicros r
  return (⟨h, m, s, u⟩, r)

/-- A day: four digits, two and two, whether or not it exists. -/
def readDate? (cs : List Char) : Option (Date × List Char) := do
  let (century, r) ← readTwo? 0 99 cs
  let (year, r) ← readTwo? 0 99 r
  let r ← readMark? '-' r
  let (month, r) ← readTwo? 1 12 r
  let r ← readMark? '-' r
  let (day, r) ← readTwo? 1 31 r
  return (⟨100 * century + year, month, day⟩, r)

/-- The distance from the zero meridian, if it is given. -/
def readOffset (cs : List Char) : Option Int × List Char :=
  match cs with
  | [] => (none, cs)
  | c :: r =>
    if c == 'Z' || c == 'z' then (some 0, r)
    else if c == '+' || c == '-' then
      let found : Option (Int × List Char) := do
        let (h, r) ← readTwo? 0 23 r
        let r ← readMark? ':' r
        let (m, r) ← readTwo? 0 59 r
        let minutes : Int := 60 * h + m
        return (if c == '-' then -minutes else minutes, r)
      match found with
      | some (o, r) => (some o, r)
      | none => (none, cs)
    else (none, cs)

/-- A day with or without a time. -/
def readMoment? (cs : List Char) : Option (Date × Toml × List Char) := do
  let (d, r) ← readDate? cs
  match r with
  | c :: r' =>
    if c == 'T' || c == 't' || c == ' ' then
      match readTime? r' with
      | some (t, r'') =>
        let (o, r'') := readOffset r''
        return (d, .moment d t o, r'')
      | none => return (d, .date d, r)
    else return (d, .date d, r)
  | [] => return (d, .date d, r)

end Toml

end BlockCalc
