import BlockCalc.Fault
import BlockCalc.Markup.Action
import BlockCalc.Markup.Style
import BlockCalc.Text.Emoji

/-! # Marked text

Text may be marked with tags in brackets: `[bold]` opens a style, `[/bold]` closes the last one of
that name and `[/]` the last one of any name. A style may be left open. A tag starts with a small
letter, a number sign, a slash or an at sign and holds no opening bracket; other brackets are just
text. A backslash before a tag makes it text, and two of them stand for one. A tag with an at sign
has an action behind an equals sign, which is looked at when the tag is closed.

On an output without styles nothing is left of the tags. `Markup.render` is what is left of a text:
its words with their emoji. It fails if a tag closes what is not open or if its action is
malformed. -/

namespace BlockCalc

namespace Markup

/-! ### Tags -/

/-- Characters with which a tag starts. -/
def isTagStart (c : Char) : Bool := ('a' ≤ c && c ≤ 'z') || c == '#' || c == '/' || c == '@'

/-- Characters that neither open nor close a tag. -/
def isInner (c : Char) : Bool := c != '[' && c != ']'

/-- The inside of a tag and what follows it, behind its opening bracket. -/
def tag? : List Char → Option (List Char × List Char)
  | c :: r =>
    match r.dropWhile isInner with
    | ']' :: rest => if isTagStart c then some (c :: r.takeWhile isInner, rest) else none
    | _ => none
  | [] => none

/-- A tag with the number of backslashes before it and what follows it, if a text starts so. -/
def marked? (cs : List Char) : Option (Nat × List Char × List Char) :=
  match cs.dropWhile (· == '\\') with
  | '[' :: r =>
    (tag? r).map fun (inside, rest) => ((cs.takeWhile (· == '\\')).length, inside, rest)
  | _ => none

theorem tag?_length {cs inside rest : List Char} (h : tag? cs = some (inside, rest)) :
    rest.length < cs.length := by
  unfold tag? at h
  split at h
  · rename_i c r
    have hle := (List.dropWhile_suffix isInner (l := r)).length_le
    split at h
    · rename_i rest' hr
      rw [hr] at hle
      split at h
      · simp only [Option.some.injEq, Prod.mk.injEq] at h
        rw [← h.2]
        simp only [List.length_cons] at hle ⊢
        omega
      · cases h
    · cases h
  · cases h

theorem marked?_length {cs inside rest : List Char} {n : Nat}
    (h : marked? cs = some (n, inside, rest)) : rest.length < cs.length := by
  have hle := (List.dropWhile_suffix (· == '\\') (l := cs)).length_le
  unfold marked? at h
  split at h
  · rename_i r hr
    rw [hr] at hle
    cases ht : tag? r with
    | none => simp [ht] at h
    | some p =>
      obtain ⟨i, r'⟩ := p
      have hlt := tag?_length ht
      simp only [ht, Option.map_some, Option.some.injEq, Prod.mk.injEq] at h
      rw [← h.2.2]
      simp only [List.length_cons] at hle
      omega
  · cases h

/-- A piece of marked text. -/
inductive Piece
  | text (cs : List Char)
  | tag (inside : List Char)
deriving DecidableEq, Repr

/-- A tag behind backslashes: half of them stay, and one left over makes it text. -/
def ofMarked (slashes : Nat) (inside : List Char) : List Piece :=
  .text (List.replicate (slashes / 2) '\\') ::
    [if slashes % 2 = 1 then .text ('[' :: inside ++ [']']) else .tag inside]

/-- The pieces of a text, after text so far, of which the last character comes first. -/
def pieces (before : List Char) : List Char → List Piece
  | [] => [.text before.reverse]
  | c :: r =>
    match h : marked? (c :: r) with
    | some (n, inside, rest) =>
      have := marked?_length h
      .text before.reverse :: ofMarked n inside ++ pieces [] rest
    | none => pieces (c :: before) r
termination_by cs => cs.length
decreasing_by
  · assumption
  · exact Nat.lt_succ_self r.length

/-! ### Text -/

/-- A backslash before any opening bracket is dropped. -/
def unescape : List Char → List Char
  | '\\' :: '[' :: r => '[' :: unescape r
  | c :: r => c :: unescape r
  | [] => []

/-- Bell, backspace, vertical tab, form feed and carriage return are never shown. -/
def isHidden (c : Char) : Bool :=
  c.toNat == 7 || c.toNat == 8 || c.toNat == 11 || c.toNat == 12 || c.toNat == 13

/-- A piece of text as it is shown. -/
def shown (cs : List Char) : List Char := (Emoji.expand (unescape cs)).filter (!isHidden ·)

/-! ### Open tags -/

/-- A tag that is open: the normal name of its style, and its action if it has one. -/
structure OpenTag where
  name : List Char
  action : Option (List Char)
deriving DecidableEq, Repr

/-- A tag that is being closed has to have a well-formed action, if it is one with an at sign. -/
def checkClosed (t : OpenTag) : Except Failure Unit :=
  match t.action with
  | some action =>
    if t.name.head? = some '@' && !action.isEmpty && !Action.isWellFormed (trim action) then
      .error .markup
    else .ok ()
  | none => .ok ()

/-- Closes the last open tag, or the last one of a name. The last open tag comes first. -/
def close (name : List Char) (opened : List OpenTag) : Except Failure (List OpenTag) :=
  if name.isEmpty then
    match opened with
    | [] => .error .markup
    | t :: rest => (checkClosed t).map fun _ => rest
  else
    match Style.normalName name with
    | none => .error .numeral
    | some name =>
      match opened.find? (·.name = name) with
      | none => .error .markup
      | some t => (checkClosed t).map fun _ => opened.eraseP (·.name = name)

/-- The open tags after one more tag. -/
def follow (opened : List OpenTag) (inside : List Char) : Except Failure (List OpenTag) :=
  let name := inside.takeWhile (· != '=')
  let action := match inside.dropWhile (· != '=') with
    | [] => none
    | _ :: r => some r
  match name with
  | '/' :: closed => close (trim closed) opened
  | _ =>
    match Style.normalName name with
    | none => .error .numeral
    | some name => .ok (⟨name, action⟩ :: opened)

/-- The text of pieces, after tags that are open. -/
def renderPieces (opened : List OpenTag) : List Piece → Except Failure (List Char)
  | [] => .ok []
  | .text cs :: rest => (renderPieces opened rest).map (shown cs ++ ·)
  | .tag inside :: rest =>
    match follow opened inside with
    | .ok opened => renderPieces opened rest
    | .error why => .error why

/-- What is left of a marked text on an output without styles. -/
def render (cs : List Char) : Except Failure (List Char) := renderPieces [] (pieces [] cs)

end Markup

end BlockCalc
