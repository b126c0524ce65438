import BlockCalc.Text.CellWidth

/-! # Glyphs

What a terminal draws in one go: a character with the characters of no width behind it, or several
characters joined to one picture. A joiner makes one glyph of its two neighbours, and the emoji
selector widens the character before it if that can be drawn as an emoji.

* `glyphs`: the glyphs of a text.
* `cells`: the cells that a text takes. -/

namespace BlockCalc

/-- The character that joins its two neighbours. -/
abbrev joiner : Char := Char.ofNat 0x200d

/-- The character that asks for the character before it to be drawn as an emoji. -/
abbrev emojiSelector : Char := Char.ofNat 0xfe0f

/-- Characters that are drawn in one go, with the cells that they take. -/
structure Glyph where
  chars : List Char
  width : Nat
deriving DecidableEq, Repr

namespace Glyph

/-- Adds characters to the last of the glyphs so far, the last one first. -/
def extend (cs : List Char) (more : Nat) : List Glyph → List Glyph
  | [] => [⟨cs, more⟩]
  | g :: gs => ⟨g.chars ++ cs, g.width + more⟩ :: gs

/-- The glyphs of a text after those so far, the last one first. The last character that took a cell
is kept for an emoji selector. -/
def collect (done : List Glyph) (last : Option Char) : List Char → List Glyph
  | [] => done
  | c :: r =>
    if c = joiner then
      match r with
      | [] => extend [c] 0 done
      | d :: r' => collect (extend [c, d] 0 done) last r'
    else if c = emojiSelector then
      let more := if last.any emojiCapableChars.contains then 1 else 0
      collect (extend [c] more done) none r
    else if cellWidth c = 0 then collect (extend [c] 0 done) last r
    else collect (⟨[c], cellWidth c⟩ :: done) (some c) r

end Glyph

/-- The glyphs of a text. -/
def glyphs (cs : List Char) : List Glyph := (Glyph.collect [] none cs).reverse

/-- The cells that a text takes. -/
def cells (cs : List Char) : Nat := (glyphs cs).foldl (fun n g => n + g.width) 0

end BlockCalc
