import BlockCalc.Fault
import BlockCalc.Text.Blank

/-! # Lexing

A cursor stands at an offset of a source text and knows what is left of it. `Cursor.next` skips
blanks and reads one token: the longest name, the longest run of digits and points, or a single
symbol. A symbol that starts no token leaves the cursor on it; a run of digits and points that
spells no number is passed over.

* `Cursor.next_remaining_lt`: a token other than the end of the input leaves less to read.
* `Cursor.drain`: all tokens up to the end of the input or the first fault.
* `tokenize`: all tokens of a source text. -/

namespace BlockCalc

/-! ### Characters -/

/-- ASCII digits. -/
def isDigit (c : Char) : Bool := '0' ≤ c && c ≤ '9'

/-- A character that starts a name: an ASCII letter or the underscore. -/
def isNameStart (c : Char) : Bool := ('a' ≤ c && c ≤ 'z') || ('A' ≤ c && c ≤ 'Z') || c == '_'

/-- A character that goes on with a name. -/
def isNameChar (c : Char) : Bool := isNameStart c || isDigit c

/-- A name of the language. -/
def isName : List Char → Bool
  | [] => false
  | c :: cs => isNameStart c && cs.all isNameChar

/-- A character of a number. -/
def isNumberChar (c : Char) : Bool := isDigit c || c == '.'

/-- The lexeme of a single symbol. -/
def Lexeme.ofSymbol? : Char → Option Lexeme
  | '{' => some .openBrace
  | '}' => some .closeBrace
  | ';' => some .semicolon
  | '=' => some .equals
  | '+' => some .plus
  | '-' => some .minus
  | '*' => some .times
  | '/' => some .slash
  | '(' => some .openParen
  | ')' => some .closeParen
  | _ => none

/-- A run of digits and points that spells a number: at most one point, and not a point alone. -/
def isNumeral (cs : List Char) : Bool := cs.count '.' ≤ 1 && cs != ['.']

/-- The value of a numeral. -/
def numeralValue (cs : List Char) : Binary64 := (Decimal.ofLiteral cs).toBinary64 false

/-! ### The cursor -/

/-- An offset in a source text and what is left to read there. -/
structure Cursor where
  offset : Nat
  rest : List Char

namespace Cursor

/-- The cursor at the start of a text. -/
def start (source : List Char) : Cursor := ⟨0, source⟩

/-- How many characters are left to read. -/
abbrev remaining (c : Cursor) : Nat := c.rest.length

/-- The cursor after the longest run of characters of a class. -/
def skip (p : Char → Bool) (c : Cursor) : Cursor :=
  ⟨c.offset + (c.rest.takeWhile p).length, c.rest.dropWhile p⟩

/-- The token at a cursor that stands on no blank, with the cursor behind it. -/
def read (c : Cursor) : Except SourceFault Token × Cursor :=
  match c.rest with
  | [] => (.ok ⟨.endOfInput, c.offset⟩, c)
  | x :: rest =>
    match Lexeme.ofSymbol? x with
    | some l => (.ok ⟨l, c.offset⟩, ⟨c.offset + 1, rest⟩)
    | none =>
      if isNameStart x then
        (.ok ⟨.name (String.ofList (c.rest.takeWhile isNameChar)), c.offset⟩, c.skip isNameChar)
      else if isNumberChar x then
        let run := c.rest.takeWhile isNumberChar
        if isNumeral run then (.ok ⟨.number (numeralValue run), c.offset⟩, c.skip isNumberChar)
        else (.error ⟨.malformedNumber (String.ofList run), c.offset⟩, c.skip isNumberChar)
      else (.error ⟨.unknownSymbol (String.singleton x), c.offset⟩, c)

/-- The next token and the cursor after it. -/
def next (c : Cursor) : Except SourceFault Token × Cursor := (c.skip isBlank).read

/-! ### Progress -/

theorem skip_remaining_le (p : Char → Bool) (c : Cursor) : (c.skip p).remaining ≤ c.remaining :=
  (List.dropWhile_sublist p).length_le

theorem skip_remaining_lt {p : Char → Bool} {c : Cursor} {x : Char} {rest : List Char}
    (h : c.rest = x :: rest) (hx : p x = true) : (c.skip p).remaining < c.remaining := by
  simp only [skip, remaining, h, List.dropWhile_cons_of_pos hx, List.length_cons]
  exact Nat.lt_succ_of_le (List.dropWhile_sublist p).length_le

theorem read_remaining_le (c : Cursor) : c.read.2.remaining ≤ c.remaining := by
  unfold read
  split
  · exact Nat.le_refl _
  · next x rest h =>
    split
    · simp [remaining, h]
    · split
      · exact skip_remaining_le _ _
      · split
        · dsimp only
          split <;> exact skip_remaining_le _ _
        · exact Nat.le_refl _

theorem read_remaining_lt {c c' : Cursor} {t : Token} (h : c.read = (.ok t, c'))
    (ht : t.kind ≠ .endOfInput) : c'.remaining < c.remaining := by
  unfold read at h
  split at h
  · obtain ⟨h1, -⟩ := Prod.mk.inj h
    cases h1
    exact absurd rfl ht
  · next x rest hr =>
    split at h
    · obtain ⟨-, rfl⟩ := Prod.mk.inj h
      simp [remaining, hr]
    · split at h
      · next hx =>
        obtain ⟨-, rfl⟩ := Prod.mk.inj h
        exact skip_remaining_lt hr (by simp [isNameChar, hx])
      · split at h
        · next hx =>
          dsimp only at h
          split at h
          · obtain ⟨-, rfl⟩ := Prod.mk.inj h
            exact skip_remaining_lt hr hx
          · cases (Prod.mk.inj h).1
        · cases (Prod.mk.inj h).1

theorem next_remaining_le (c : Cursor) : c.next.2.remaining ≤ c.remaining :=
  Nat.le_trans (read_remaining_le _) (skip_remaining_le _ _)

/-- A token other than the end of the input leaves less to read. -/
theorem next_remaining_lt {c c' : Cursor} {t : Token} (h : c.next = (.ok t, c'))
    (ht : t.kind ≠ .endOfInput) : c'.remaining < c.remaining :=
  Nat.lt_of_lt_of_le (read_remaining_lt h ht) (skip_remaining_le _ _)

/-! ### All tokens -/

/-- The tokens from a cursor up to and including the end of the input, or up to the first fault,
with the cursor then. -/
def drain (c : Cursor) : List Token × Option SourceFault × Cursor :=
  match _h : c.next with
  | (.error e, c') => ([], some e, c')
  | (.ok t, c') =>
    if _ht : t.kind = .endOfInput then ([t], none, c')
    else
      let (ts, e, c'') := drain c'
      (t :: ts, e, c'')
termination_by c.remaining
decreasing_by exact next_remaining_lt ‹_› ‹_›

end Cursor

/-- The tokens of a source text, the last one being the end of the input. -/
def tokenize (source : List Char) : Except SourceFault (List Token) :=
  match (Cursor.start source).drain with
  | (ts, none, _) => .ok ts
  | (_, some e, _) => .error e

end BlockCalc
