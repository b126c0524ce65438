import BlockCalc.Text.Glyph
import BlockCalc.Text.Split
import BlockCalc.Text.Words

/-! # Lines of a given width

A text is laid out in lines of a width counted in cells. A line goes on as long as the next word
fits, where the blanks behind a word belong to it and need not fit; a word wider than a line is cut
wherever the lines end. Blanks at the end of a line are dropped, and every line is moved to the
middle.

* `wrap`: the lines of a text without line feeds.
* `centredLines`: the lines of any text, in the middle of their width. -/

namespace BlockCalc

namespace Wrap

/-- Puts glyphs on lines of a width, after a line begun already. -/
def fold (width : Nat) (line : List Char) (used : Nat) : List Glyph → List (List Char)
  | [] => [line]
  | g :: gs =>
    if used + g.width ≤ width then fold width (line ++ g.chars) (used + g.width) gs
    else line :: fold width g.chars g.width gs

/-- The lines so far: those that are finished, the last one first, and the one that goes on, with
the cells that it takes. -/
structure Layout where
  finished : List (List Char)
  line : List Char
  used : Nat

namespace Layout

/-- Finishes the line that goes on, unless there is nothing on it. -/
def broken (l : Layout) : List (List Char) :=
  if l.line.isEmpty then l.finished else l.line :: l.finished

/-- Adds a word: to the line if it fits, to the next one if it fits there, and else cut to pieces
from the next one on. -/
def add (width : Nat) (l : Layout) (word : List Char) : Layout :=
  let needed := cells (trimEnd word)
  if l.used + needed ≤ width then ⟨l.finished, l.line ++ word, l.used + cells word⟩
  else if needed ≤ width then ⟨l.broken, word, cells word⟩
  else
    match (fold width [] 0 (glyphs word)).reverse with
    | [] => ⟨l.broken, [], 0⟩
    | piece :: pieces => ⟨pieces ++ l.broken, piece, cells piece⟩

/-- All lines in their order. -/
def lines (l : Layout) : List (List Char) := (l.line :: l.finished).reverse

end Layout

end Wrap

/-- The lines of a text, which has no line feeds. -/
def wrap (width : Nat) (cs : List Char) : List (List Char) :=
  ((words cs).foldl (Wrap.Layout.add width) ⟨[], [], 0⟩).lines

/-- The distance between the stops of the tabulator. -/
def tabDistance : Nat := 8

/-- A line in which spaces stand for tabs: one at least, and as many as lead to the next stop. The
part since the last tab comes first. -/
def expandTabs (position : Nat) (part : List Char) : List Char → List Char
  | [] => part
  | c :: r =>
    if c = '\t' then
      let part := part ++ [' ']
      let reached := position + cells part
      let space := (tabDistance - reached % tabDistance) % tabDistance
      part ++ List.replicate space ' ' ++ expandTabs (reached + space) [] r
    else expandTabs position (part ++ [c]) r

/-- A text without blanks at its end, in the middle of a line; an odd space goes to the right. -/
def centred (width : Nat) (cs : List Char) : List Char :=
  let text := trimEnd cs
  let space := width - cells text
  List.replicate (space / 2) ' ' ++ text ++ List.replicate (space - space / 2) ' '

/-- The lines of a text, each in the middle of its width. -/
def centredLines (width : Nat) (cs : List Char) : List (List Char) :=
  (splitAtMark '\n' cs).flatMap fun line => (wrap width (expandTabs 0 [] line)).map (centred width)

end BlockCalc
