import BlockCalc.Text.Blank
import BlockCalc.Text.EmojiNames
import BlockCalc.Text.Glyph
import BlockCalc.Text.LowerCase

/-! # Emoji by name

A name between two colons, as in `:smile:`, stands for an emoji. Upper and lower case do not matter,
`-emoji` and `-text` behind the name ask for one of the two ways to draw it, the emoji of people
have names with a tone of skin, and the flag of a country is also called `flag_for_` and the
country. A name that no emoji has stands for itself, colons included. -/

namespace BlockCalc

namespace Emoji

/-! ### Tables -/

/-- The value of a digit in base sixteen, in lower case. -/
def digit (c : Char) : Nat := if c.isDigit then c.toNat - 48 else c.toNat - 87

/-- The characters whose code points are given. -/
def ofCode (code : String) : List Char :=
  (code.splitOn "-").map fun point =>
    Char.ofNat (point.toList.foldl (fun n c => 16 * n + digit c) 0)

/-- The emoji under a name in a list of names and code points in turn. -/
def find? (name : List Char) : List String → Option (List Char)
  | key :: code :: rest => if key.toList = name then some (ofCode code) else find? name rest
  | _ => none

/-- The words of a table. -/
def tableWords (table : String) : List String :=
  (table.splitOn "\n").flatMap fun line => (line.splitOn " ").filter (· ≠ "")

/-- Emoji that come in tones of skin. -/
def toned : List String := tableWords tonedEmojiTable

/-- Flags of countries. -/
def flags : List String := tableWords flagTable

/-- All other emoji. -/
def others : List String := tableWords emojiTable

/-! ### Names -/

/-- A text without a given end. -/
def withoutEnd? (ending : String) (cs : List Char) : Option (List Char) :=
  if ending.toList.isSuffixOf cs then some (cs.take (cs.length - ending.length)) else none

/-- A text without a given start. -/
def withoutStart? (start : String) (cs : List Char) : Option (List Char) :=
  if start.toList.isPrefixOf cs then some (cs.drop start.length) else none

/-- The tones of skin, with the ends of names that ask for them. -/
def tones : List (String × Char) :=
  [("_light_skin_tone", Char.ofNat 0x1f3fb), ("_medium-light_skin_tone", Char.ofNat 0x1f3fc),
    ("_medium_skin_tone", Char.ofNat 0x1f3fd), ("_medium-dark_skin_tone", Char.ofNat 0x1f3fe),
    ("_dark_skin_tone", Char.ofNat 0x1f3ff)]

/-- The tone of skin goes behind the first character, in the place of a selector. -/
def withTone (tone : Char) : List Char → List Char
  | [] => []
  | c :: r => c :: tone :: (if r.head? = some emojiSelector then r.drop 1 else r)

/-- The emoji of a name in lower case. -/
def named? (name : List Char) : Option (List Char) :=
  (find? name others).orElse fun _ => (find? name flags).orElse fun _ =>
    (find? name toned).orElse fun _ =>
      ((withoutStart? "flag_for_" name).bind (find? · flags)).orElse fun _ =>
        tones.findSome? fun (ending, tone) =>
          ((withoutEnd? ending name).bind (find? · toned)).map (withTone tone)

/-- The selectors of the two ways to draw an emoji, with the ends of names that ask for them. -/
def selectors : List (String × Char) := [("-emoji", emojiSelector), ("-text", Char.ofNat 0xfe0e)]

/-- What stands for a name between colons. -/
def ofName (name : List Char) : List Char :=
  let drawn := selectors.findSome? fun (ending, selector) =>
    (withoutEnd? ending name).map (·, [selector])
  let (base, selector) := drawn.getD (name, [])
  match named? (lowerCase base) with
  | some cs => cs ++ selector
  | none => ':' :: name ++ [':']

/-! ### Texts -/

/-- Characters that a name may have. -/
def isNameChar (c : Char) : Bool := c != ':' && !isBlank c

/-- A name and what follows the colon behind it, if there is one. -/
def name? (cs : List Char) : Option (List Char × List Char) :=
  match cs.dropWhile isNameChar with
  | ':' :: rest => some (cs.takeWhile isNameChar, rest)
  | _ => none

theorem name?_length {cs name rest : List Char} (h : name? cs = some (name, rest)) :
    rest.length < cs.length := by
  have hle := (List.dropWhile_suffix isNameChar (l := cs)).length_le
  unfold name? at h
  split at h
  · rename_i r hr
    simp only [Option.some.injEq, Prod.mk.injEq] at h
    rw [← h.2]
    rw [hr] at hle
    simp only [List.length_cons] at hle
    omega
  · cases h

/-- A text with its emoji in the place of their names. -/
def expand : List Char → List Char
  | [] => []
  | c :: r =>
    if c = ':' then
      match h : name? r with
      | some (name, rest) =>
        have := Nat.lt_succ_of_lt (name?_length h)
        ofName name ++ expand rest
      | none => c :: expand r
    else c :: expand r
termination_by cs => cs.length
decreasing_by
  · assumption
  · exact Nat.lt_succ_self r.length
  · exact Nat.lt_succ_self r.length

end Emoji

end BlockCalc
