import BlockCalc.Logging.Record
import BlockCalc.Number.Places
import BlockCalc.Text.WordChar

/-! # Log templates

A log line is written after a template: plain text with *conversions* of the form
`%(field)[flags][width][.precision]type`, and `%%` for a percent sign. A template is accepted if it
is empty, or if one conversion can be found in it (`Template.isAccepted`); the empty one stands for
the message alone.

Whether a template can be used is another matter. `Template.pieces` cuts it into characters and
conversions, and `Template.render?` fails if some conversion is incomplete, names a field that a
record does not have, or is of a type that does not suit its field. -/

namespace BlockCalc

namespace Template

/-! ### Acceptance -/

/-- The flags of a conversion. -/
def isFlag (c : Char) : Bool := c == '#' || c == '0' || c == '+' || c == ' ' || c == '-'

/-- The letters that end a conversion, in upper and lower case, and the characters that differ from
one of them in case only. -/
def isType (c : Char) : Bool :=
  "diouxefgcrsaDIOUXEFGCRSA%".toList.contains c || c == 'İ' || c == 'ı' || c == 'ſ'

/-- What follows an asterisk or digits, if one of them comes next. -/
def skipCount? (cs : List Char) : Option (List Char) :=
  match cs with
  | [] => none
  | c :: r =>
    if c == '*' then some r
    else if decimalDigits.contains c then some (r.dropWhile decimalDigits.contains)
    else none

/-- What follows a precision, if one comes next. -/
def skipPrecision (cs : List Char) : List Char :=
  match cs with
  | '.' :: r => (skipCount? r).getD cs
  | _ => cs

/-- Flags, a width and a precision, all optional, and the letter of a type. -/
def isConversionTail (cs : List Char) : Bool :=
  let r := cs.dropWhile isFlag
  match skipPrecision ((skipCount? r).getD r) with
  | c :: _ => isType c
  | [] => false

/-- A text that starts with a conversion of some field. -/
def startsConversion : List Char → Bool
  | '%' :: '(' :: r =>
    let name := r.takeWhile wordChars.contains
    match r.dropWhile wordChars.contains with
    | ')' :: tail => !name.isEmpty && isConversionTail tail
    | _ => false
  | _ => false

/-- A conversion stands somewhere in a text. -/
def hasConversion : List Char → Bool
  | [] => false
  | c :: r => startsConversion (c :: r) || hasConversion r

/-- A template that settings may have. -/
def isAccepted (template : String) : Bool :=
  template.toList.isEmpty || hasConversion template.toList

/-! ### Reading -/

/-- A conversion: its field, if it names one, and how the value is to be written. -/
structure Conversion where
  field : Option String
  flags : List Char
  width : Nat
  precision : Option Nat
  type : Char

/-- A piece of a template. -/
inductive Piece
  | char (c : Char)
  | conversion (c : Conversion)

/-- ASCII digits at the start of a text, with what follows them. An asterisk in their place would
take the value of the field for itself and leave nothing to write, so it is left to be a type, which
suits no value. -/
def takeCount (cs : List Char) : Nat × List Char :=
  (Nat.ofDigitChars 10 (cs.takeWhile Char.isDigit) 0, cs.dropWhile Char.isDigit)

/-- A precision at the start of a text, with what follows it. -/
def takePrecision : List Char → Option Nat × List Char
  | '.' :: r => (some (takeCount r).1, (takeCount r).2)
  | cs => (none, cs)

/-- What follows a letter for the size of a number, which says nothing. -/
def skipSize : List Char → List Char
  | 'h' :: r => r
  | 'l' :: r => r
  | 'L' :: r => r
  | r => r

/-- What stands behind the name of a field, up to the letter of the type. -/
def conversion? (field : Option String) (cs : List Char) : Option (Conversion × List Char) :=
  let width := takeCount (cs.dropWhile isFlag)
  let precision := takePrecision width.2
  match skipSize precision.2 with
  | [] => none
  | c :: r => some (⟨field, cs.takeWhile isFlag, width.1, precision.1, c⟩, r)

/-- The conversion behind a percent sign, with what follows it. -/
def conversionAt? : List Char → Option (Conversion × List Char)
  | '(' :: r =>
    match r.dropWhile (· != ')') with
    | _ :: tail => conversion? (some (String.ofList (r.takeWhile (· != ')')))) tail
    | [] => none
  | r => conversion? none r

/-- The pieces of a text. A count of the characters left bounds the number of pieces. -/
def piecesWithin : Nat → List Char → Option (List Piece)
  | _, [] => some []
  | 0, _ => none
  | n + 1, '%' :: '%' :: r => (piecesWithin n r).map (.char '%' :: ·)
  | n + 1, '%' :: r =>
    match conversionAt? r with
    | some (c, rest) => (piecesWithin n rest).map (.conversion c :: ·)
    | none => none
  | n + 1, c :: r => (piecesWithin n r).map (.char c :: ·)

/-- The pieces of a template; the empty one stands for the message alone. -/
def pieces (template : String) : Option (List Piece) :=
  let cs := template.toList
  if cs.isEmpty then some [.conversion ⟨some "message", [], 0, none, 's'⟩]
  else piecesWithin cs.length cs

/-! ### Writing values -/

/-- A text in which only ASCII stands for itself. -/
def asciiOnly (s : String) : String :=
  String.ofList (s.toList.flatMap fun c => if c.toNat < 128 then [c] else escapeCode c.toNat)

/-- A text moved to one end of its room. -/
def padded (c : Conversion) (s : String) : String :=
  let space := String.ofList (List.replicate (c.width - s.length) ' ')
  if c.flags.contains '-' then s ++ space else space ++ s

/-- At most as many characters as the precision says. -/
def cut (c : Conversion) (s : String) : String :=
  match c.precision with
  | some n => String.ofList (s.toList.take n)
  | none => s

/-- Digits with a sign if one is due or wanted, and a mark of their base. Zeros may fill the room. -/
def numeral (c : Conversion) (negative : Bool) (mark digits : List Char) : String :=
  let sign := if negative then ['-'] else if c.flags.contains '+' then ['+']
    else if c.flags.contains ' ' then [' '] else []
  let filled := if c.flags.contains '0' && !c.flags.contains '-' then c.width else 0
  let fill := zeros (filled - sign.length - mark.length - digits.length)
  padded c (String.ofList (sign ++ mark ++ fill ++ digits))

/-- The base of a type of whole numbers, and its mark. -/
def baseOf : Char → Nat × List Char
  | 'o' => (8, ['0', 'o'])
  | 'x' => (16, ['0', 'x'])
  | 'X' => (16, ['0', 'X'])
  | _ => (10, [])

/-- Digits with their letters in the case of the type. -/
def casedAs (type : Char) (digits : List Char) : List Char :=
  if type.isUpper then digits.map Char.toUpper else digits

/-- The greatest precision of a whole number. -/
def wholePrecision : Nat := 0x7ffffffc

/-- A whole number with at least as many digits as the precision says. -/
def whole? (c : Conversion) (negative : Bool) (n : Nat) : Option String :=
  let precision := c.precision.getD 0
  if precision ≤ wholePrecision then
    let (base, mark) := baseOf c.type
    let digits := casedAs c.type (Nat.toDigits base n)
    some (numeral c negative (if c.flags.contains '#' then mark else [])
      (zeros (precision - digits.length) ++ digits))
  else none

/-- A number with as many digits as the precision says, or six. -/
def decimal (c : Conversion) : Binary64 → String
  | .nan => numeral c false [] (casedAs c.type ['n', 'a', 'n'])
  | .infinity negative => numeral c negative [] (casedAs c.type ['i', 'n', 'f'])
  | .finite negative rank =>
    let precision := c.precision.getD 6
    let pointed := c.flags.contains '#'
    let units := Binary64.units rank
    let digits :=
      if c.type = 'e' ∨ c.type = 'E' then Binary64.powered pointed precision units
      else if c.type = 'f' ∨ c.type = 'F' then Binary64.fixed pointed precision units
      else Binary64.general pointed precision units
    numeral c negative [] (casedAs c.type digits)

/-- The ways to write a value. -/
inductive Manner
  | plain
  | shown
  | ascii
  | whole
  | based
  | decimal
  | single
deriving DecidableEq

/-- The way that a type stands for. -/
def Manner.ofType? : Char → Option Manner
  | 's' => some plain
  | 'r' => some shown
  | 'a' => some ascii
  | 'd' | 'i' | 'u' => some whole
  | 'o' | 'x' | 'X' => some based
  | 'e' | 'E' | 'f' | 'F' | 'g' | 'G' => some decimal
  | 'c' => some single
  | _ => none

/-- A value, written in a way that suits it. -/
def write? (c : Conversion) : Manner → FieldValue → Option String
  | .plain, .text s => some (padded c (cut c s))
  | .plain, v | .shown, v => some (padded c (cut c v.shown))
  | .ascii, v => some (padded c (cut c (asciiOnly v.shown)))
  | .whole, .number n | .based, .number n => whole? c false n.toNat
  | .whole, .real (.finite negative rank) =>
    let n := Binary64.units rank / Binary64.one
    whole? c (negative && n != 0) n
  | .decimal, .number n => some (decimal c (.nearest false (n.toNat * Binary64.one) 1))
  | .decimal, .real x => some (decimal c x)
  | .single, .text s => if s.length = 1 then some (padded c s) else none
  | .single, .number n =>
    if n.toNat < 0x110000 then some (padded c (String.singleton (Char.ofNat n.toNat))) else none
  | _, _ => none

/-! ### Use -/

/-- The greatest width. -/
def widthBound : Nat := 0x7fffffffffffffff

/-- The greatest precision. -/
def precisionBound : Nat := 0x7fffffff

/-- A value in a conversion, if the counts are not too large and the type suits the value. -/
def convert? (c : Conversion) (v : FieldValue) : Option String :=
  if c.width ≤ widthBound ∧ c.precision.getD 0 ≤ precisionBound then
    (Manner.ofType? c.type).bind fun m => write? c m v
  else none

/-- The value that a conversion takes: the field it names, or what is at hand. -/
def Conversion.value? (c : Conversion) (r : Record) (atHand : Option FieldValue) :
    Option FieldValue :=
  match c.field with
  | some name => r.field? name
  | none => atHand

/-- The texts of pieces. Behind a conversion, nothing is at hand. -/
def renderPieces (r : Record) : Option FieldValue → List Piece → Option (List String)
  | _, [] => some []
  | atHand, .char c :: ps => (renderPieces r atHand ps).map (String.singleton c :: ·)
  | atHand, .conversion c :: ps => do
    let s ← convert? c (← c.value? r atHand)
    return s :: (← renderPieces r none ps)

/-- Whether a template asks for the time. -/
def isTimed : List Char → Bool
  | [] => false
  | c :: r => "%(asctime)".toList.isPrefixOf (c :: r) || isTimed r

/-- The line of a record, if the template can be used for it. At first the record as a whole is at
hand. -/
def render? (template : String) (r : Record) : Option String := do
  let ps ← pieces template
  return String.join (← renderPieces r (some (r.whole (isTimed template.toList))) ps)

end Template

end BlockCalc
