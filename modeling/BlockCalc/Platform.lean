import BlockCalc.Markup

/-! # Platforms

What a command needs of the machinery under it, whatever the disk and the arguments are: how deep
each kind of work may go before there is no room left for it, and how the title of a table is
rendered. The kinds of work take their room in different amounts, so each has a depth of its own. -/

namespace BlockCalc

/-- The machinery under a command. -/
structure Platform where
  /-- How deep sources may be nested to be parsed. -/
  parsing : Nat
  /-- How high trees may be to be shown. -/
  showing : Nat
  /-- How high trees may be to be executed and evaluated. -/
  running : Nat
  /-- How deep the values of a document may be nested to be read. -/
  reading : Nat
  /-- How deep a value may be nested to be shown in a message. -/
  quoting : Nat
  /-- The title of a table, without its marks. -/
  title : List Char → Except Failure (List Char)

namespace Platform

/-- The same depth for all work, and marked text for titles. -/
def uniform (depth : Nat) : Platform := ⟨depth, depth, depth, depth, depth, Markup.render⟩

/-- A depth stands for the platform that has it for all work. -/
instance : Coe Nat Platform := ⟨uniform⟩

end Platform

end BlockCalc
