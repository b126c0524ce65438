import BlockCalc.Text.Newline
import BlockCalc.Text.Quoted
import BlockCalc.Toml.Scalar

/-! # Literals

The arguments of an action are literals: numbers, real or imaginary, and sums of one of each; texts
and byte strings in quotes; words that are values; and tuples, sets and tables of literals. There
are no lists, since a tag holds no opening bracket. A text is first cut into pieces, and `isLiteral`
then tells whether these make up a literal. The members of a set and the keys of a table have to be
fixed, which sets and tables are not. Characters that a text names are not looked up. -/

namespace BlockCalc

namespace Literal

open Toml (isDecimal isHex isOctal isBinary)

/-- The pieces of which literals are made. -/
inductive Piece where
  /-- A number, which may be imaginary. -/
  | number (isImaginary : Bool)
  /-- A text or a byte string in quotes. -/
  | text (isBytes : Bool)
  /-- A word that is a value, or an ellipsis. -/
  | constant
  /-- The word of which a call makes the empty set. -/
  | maker
  /-- A bracket, a comma, a colon or a sign. -/
  | mark (c : Char)
deriving DecidableEq, Repr

/-! ### Numbers -/

/-- What follows digits of a class. -/
def afterDigits? (p : Char → Bool) (cs : List Char) : Option (List Char) :=
  (Toml.digitRun? p cs).map (·.2)

/-- A number, once its digits and its power of ten are read. -/
def ended : List Char → Piece × List Char
  | 'j' :: r => (.number true, r)
  | 'J' :: r => (.number true, r)
  | r => (.number false, r)

/-- A number from behind its whole part on, and whether a point, a power of ten or a mark for
imaginary numbers belongs to it. -/
def tail (cs : List Char) : Bool × Piece × List Char :=
  let fraction := match cs with
    | '.' :: r => (afterDigits? isDecimal r).getD r
    | r => r
  let (piece, rest) := ended (Toml.readExponent fraction).2
  (rest.length < cs.length, piece, rest)

/-- A decimal number. Only zero starts with a zero, unless something belongs to the number that
whole numbers do not have. -/
def decimal? (cs : List Char) : Option (Piece × List Char) :=
  match afterDigits? isDecimal cs with
  | some r =>
    let (isMore, piece, rest) := tail r
    let digits := cs.takeWhile fun c => isDecimal c || c == '_'
    let misleading := cs.head? = some '0' && digits.any fun c => c != '0' && c != '_'
    if misleading && !isMore then none else some (piece, rest)
  | none =>
    match cs with
    | '.' :: r => if (afterDigits? isDecimal r).isSome then some (tail cs).2 else none
    | _ => none

/-- The digits of the base that a letter stands for. -/
def base? (c : Char) : Option (Char → Bool) :=
  if c = 'x' || c = 'X' then some isHex
  else if c = 'o' || c = 'O' then some isOctal
  else if c = 'b' || c = 'B' then some isBinary
  else none

/-- A number. -/
def number? (cs : List Char) : Option (Piece × List Char) :=
  match cs with
  | '0' :: c :: r =>
    match base? c with
    | some p =>
      let digits := if r.head? = some '_' then r.tail else r
      (afterDigits? p digits).map (.number false, ·)
    | none => decimal? cs
  | _ => decimal? cs

/-! ### Texts -/

/-- How a text is quoted: whether backslashes stand for themselves, whether it is a byte string,
and whether there are three quotes on each side. -/
structure Quotation where
  isRaw : Bool
  isBytes : Bool
  isLong : Bool
  quote : Char

/-- The letters that stand before quotes: raw or not, bytes or not. -/
def quotation? (word : List Char) : Option (Bool × Bool) :=
  match word.map Char.toLower with
  | [] | ['u'] => some (false, false)
  | ['r'] => some (true, false)
  | ['b'] => some (false, true)
  | ['b', 'r'] | ['r', 'b'] => some (true, true)
  | _ => none

/-- A given number of hexadecimal digits comes next. -/
def hasHex (n : Nat) (cs : List Char) : Bool :=
  (cs.take n).length = n && (cs.take n).all isHex

/-- The name of a character comes next, between braces. -/
def hasName : List Char → Bool
  | '\x7b' :: r =>
    let name := r.takeWhile fun c => c.isAlphanum || c == ' ' || c == '-'
    !name.isEmpty && (r.drop name.length).head? = some '\x7d'
  | _ => false

/-- A backslash may stand before a character, with what comes behind that. -/
def isEscape (q : Quotation) (c : Char) (r : List Char) : Bool :=
  if q.isBytes && 128 ≤ c.toNat then false
  else if q.isRaw then true
  else if c = 'x' then hasHex 2 r
  else if q.isBytes then true
  else if c = 'u' then hasHex 4 r
  else if c = 'U' then hasHex 8 r && Toml.ofDigits 16 (r.take 8) < 0x110000
  else if c = 'N' then hasName r
  else true

/-- What follows a text behind its closing quotes. -/
def afterText? (q : Quotation) : List Char → Option (List Char)
  | [] => none
  | '\\' :: c :: r => if isEscape q c r then afterText? q r else none
  | c :: r =>
    if c = q.quote && !q.isLong then some r
    else if c = q.quote && r.take 2 = [c, c] then some (r.drop 2)
    else if c = '\n' && !q.isLong || q.isBytes && 128 ≤ c.toNat then none
    else afterText? q r

/-- A text, from its opening quotes on. -/
def text? (isRaw isBytes : Bool) (quote : Char) (r : List Char) : Option (Piece × List Char) :=
  let isLong := r.take 2 = [quote, quote]
  let body := if isLong then r.drop 2 else r
  (afterText? ⟨isRaw, isBytes, isLong, quote⟩ body).map (.text isBytes, ·)

/-! ### Pieces -/

/-- The piece that a word is. -/
def word? (word : List Char) : Option Piece :=
  if word = "True".toList || word = "False".toList || word = "None".toList then some .constant
  else if word = "set".toList then some .maker
  else none

/-- The characters of words. -/
def isWordChar (c : Char) : Bool := c.isAlphanum || c == '_'

/-- The first piece of a text that starts with no blank, and what follows it. -/
def piece? (cs : List Char) : Option (Piece × List Char) :=
  let word := cs.takeWhile isWordChar
  match cs with
  | '.' :: '.' :: '.' :: r => some (.constant, r)
  | c :: r =>
    if "()\x7b\x7d,:+-".toList.contains c then some (.mark c, r)
    else
      match cs.drop word.length, quotation? word with
      | q :: s, some (isRaw, isBytes) =>
        if q = '"' || q = singleQuote then text? isRaw isBytes q s
        else (number? cs).orElse fun _ => (word? word).map (·, q :: s)
      | s, _ => (number? cs).orElse fun _ => (word? word).map (·, s)
  | [] => none

/-- Blanks within a line. -/
def isGap (c : Char) : Bool := c == ' ' || c == '\t' || c.toNat == 12

/-- How many brackets are open behind a piece. -/
def Piece.opened (depth : Nat) : Piece → Nat
  | .mark c =>
    if c = '(' || c = '\x7b' then depth + 1
    else if c = ')' || c = '\x7d' then depth - 1
    else depth
  | _ => depth

/-- The pieces of a text, after brackets that are open. Within brackets, ends of lines are blanks;
outside of them nothing comes behind the first one. Every step takes a character, and a count bounds
the steps. -/
def pieces? : Nat → Nat → List Char → Option (List Piece)
  | 0, _, _ => none
  | n + 1, depth, cs =>
    match cs.dropWhile isGap with
    | [] => some []
    | '#' :: r => pieces? n depth (r.dropWhile (· != '\n'))
    | '\n' :: r =>
      if depth = 0 then (pieces? n 0 r).filter List.isEmpty else pieces? n depth r
    | '\\' :: '\n' :: r => if r.isEmpty then none else pieces? n depth r
    | c :: r =>
      match piece? (c :: r) with
      | some (p, rest) => (pieces? n (p.opened depth) rest).map (p :: ·)
      | none => none

/-- The text from its first line on that is neither blank nor a comment; this line must not be
indented. -/
def unindented? : Nat → List Char → Option (List Char)
  | 0, _ => none
  | n + 1, cs =>
    let isIndented := (cs.takeWhile isGap).getLast?.any (·.toNat != 12)
    match cs.dropWhile isGap with
    | '#' :: r => unindented? n ((r.dropWhile (· != '\n')).drop 1)
    | '\n' :: r => unindented? n r
    | r =>
      if isIndented then none
      else
        match r with
        | '\\' :: '\n' :: r => unindented? n r
        | _ => some r

/-! ### Values -/

/-- What there is to know about an item. -/
inductive Kind where
  /-- A real number without a sign. -/
  | real
  /-- A real number behind a sign. -/
  | signed
  /-- An imaginary number without a sign. -/
  | imaginary
  /-- Any other value that is fixed. -/
  | fixed
  /-- A value that can be changed. -/
  | loose
  /-- A key with its value. -/
  | entry
  /-- The word of which a call makes the empty set. -/
  | maker
deriving DecidableEq, Repr

/-- A value that may be a member of a set. -/
def Kind.isFixed (k : Kind) : Bool := k ∈ [real, signed, imaginary, fixed]

/-- A value of its own. -/
def Kind.isValue (k : Kind) : Bool := k.isFixed || k == loose

/-- A sign. -/
def Piece.isSign (p : Piece) : Bool := p = mark '+' || p = mark '-'

/-- A number of a kind behind a sign. -/
def Kind.behindSign? : Kind → Option Kind
  | real => some signed
  | imaginary => some fixed
  | _ => none

/-- What stands in parentheses: an item alone is itself, and with a comma there is a tuple. -/
def tuple? (ks : List Kind) (comma : Bool) : Option Kind :=
  if !comma then ks.head?.filter (· != .entry)
  else if ks.all Kind.isFixed then some .fixed
  else if ks.all Kind.isValue then some .loose
  else none

/-- What stands in braces. -/
def table? (ks : List Kind) : Option Kind :=
  if ks.all (· = .entry) || ks.all Kind.isFixed then some .loose else none

/-- A value, where brackets behind the word for the empty set are its call. -/
def called : Kind × List Piece → Kind × List Piece
  | (.maker, .mark '(' :: .mark ')' :: r) => (.loose, r)
  | found => found

mutual

/-- A value that is neither behind a sign nor a sum, and what follows it. A count bounds the steps
of all four functions. -/
def atom? : Nat → List Piece → Option (Kind × List Piece)
  | n + 1, p :: r =>
    match p with
    | .number isImaginary => some (if isImaginary then .imaginary else .real, r)
    | .text isBytes =>
      let more := r.takeWhile fun p => p = .text true || p = .text false
      if more.all (· = .text isBytes) then some (.fixed, r.drop more.length) else none
    | .constant => some (.fixed, r)
    | .maker => some (.maker, r)
    | .mark '(' =>
      if r.head? = some (.mark ')') then some (.fixed, r.tail)
      else
        match items? n ')' r with
        | some (ks, comma, rest) => (tuple? ks comma).map (·, rest)
        | none => none
    | .mark '\x7b' =>
      if r.head? = some (.mark '\x7d') then some (.loose, r.tail)
      else
        match items? n '\x7d' r with
        | some (ks, _, rest) => (table? ks).map (·, rest)
        | none => none
    | .mark _ => none
  | _, _ => none

/-- A value that may be behind a sign, and what follows it. -/
def factor? : Nat → List Piece → Option (Kind × List Piece)
  | 0, _ => none
  | n + 1, ps =>
    if ps.head?.any Piece.isSign then
      match atom? n ps.tail with
      | some (k, rest) => k.behindSign?.map (·, rest)
      | none => none
    else (atom? n ps).map called

/-- A value that may be the sum of a real and an imaginary number, and what follows it. -/
def value? : Nat → List Piece → Option (Kind × List Piece)
  | 0, _ => none
  | n + 1, ps =>
    match factor? n ps with
    | some (k, p :: r) =>
      if p.isSign then
        match atom? n r with
        | some (.imaginary, rest) => if k = .real || k = .signed then some (.fixed, rest) else none
        | _ => none
      else some (k, p :: r)
    | found => found

/-- Items up to a closing bracket: their kinds, whether there is a comma, and what follows. -/
def items? : Nat → Char → List Piece → Option (List Kind × Bool × List Piece)
  | 0, _, _ => none
  | n + 1, close, ps =>
    let item : Option (Kind × List Piece) := match value? n ps with
      | some (key, .mark ':' :: r) =>
        match value? n r with
        | some (k, rest) => if key.isFixed && k.isValue then some (.entry, rest) else none
        | none => none
      | found => found
    match item with
    | some (k, .mark c :: r) =>
      if c = close then some ([k], false, r)
      else if c = ',' then
        if r.head? = some (.mark close) then some ([k], true, r.tail)
        else (items? n close r).map fun (ks, _, rest) => (k :: ks, true, rest)
      else none
    | _ => none

end

/-- Pieces that make up a literal: what would make up one in parentheses. -/
def isWhole (ps : List Piece) : Bool :=
  match items? (4 * ps.length + 4) ')' (ps ++ [.mark ')']) with
  | some (ks, _, []) => ks.all Kind.isValue
  | _ => false

end Literal

open Literal in
/-- A text that is a literal. -/
def isLiteral (cs : List Char) : Bool :=
  let cs := unifyNewlines cs
  match (unindented? (cs.length + 1) cs).bind fun r => pieces? (r.length + 1) 0 r with
  | some ps => isWhole ps
  | none => false

end BlockCalc
