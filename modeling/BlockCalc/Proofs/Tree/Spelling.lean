import BlockCalc.Proofs.Tree.Likeness
import BlockCalc.Proofs.Tree.Tokens

/-! # The text of a tree as tokens

`Tree.spelling` lists the lexemes as which the text of a tree is read: those of its nodes, with
parentheses around every operation of two operands, semicolons between statements and braces around
blocks. A number of the tree need not be read as one lexeme (`Binary64.spelling`).

* `reads_render`: the text of a tree is read as its spelling, provided that its names and numbers are
  spelled as the language has them.
* `exists_feed_render`: so this is what the tokens of the whole text are. -/

namespace BlockCalc

namespace Tree

mutual

/-- The lexemes as which the text of a tree is read. -/
def spelling : Tree → List Lexeme
  | number x _ => x.spelling
  | name s _ => [.name s]
  | binary op _ l r => .openParen :: (l.spelling ++ op.lexeme :: (r.spelling ++ [.closeParen]))
  | unary s _ t => s.lexeme :: t.spelling
  | assign x _ _ v => .name x :: .equals :: v.spelling
  | block _ cs => .openBrace :: (spellingAll cs ++ [.closeBrace])
  | empty => []

/-- The lexemes of statements with semicolons between them. -/
def spellingAll : List Tree → List Lexeme
  | [] => []
  | t :: ts => t.spelling ++ spellingRest ts

/-- The lexemes of statements each of which comes after a semicolon. -/
def spellingRest : List Tree → List Lexeme
  | [] => []
  | t :: ts => .semicolon :: (t.spelling ++ spellingRest ts)

end

/-- Names and numbers are spelled as the language has them. -/
def Spelled (ks : List Token) : Prop := ∀ k ∈ ks, k.lexeme.Spelled

theorem Spelled.tail {k : Token} {ks : List Token} (h : Spelled (k :: ks)) : Spelled ks :=
  (List.forall_mem_cons.mp h).2

theorem isLiteral_of_spelled {x : Binary64} (h : (Lexeme.number x).Spelled) :
    x.isLiteral = true := by
  obtain ⟨run, -, -, -, rfl⟩ := h
  exact Binary64.isLiteral_numeralValue run

mutual

theorem literal_of_spelled : ∀ t : Tree, Spelled t.tokens → Literal t.numbers
  | number x _, h => by
    intro y hy
    cases List.mem_singleton.mp hy
    exact isLiteral_of_spelled (h _ List.mem_cons_self)
  | name _ _, _ => nofun
  | binary _ _ l r, h => by
    obtain ⟨hl, hr⟩ := List.forall_mem_append.mp h
    exact List.forall_mem_append.mpr ⟨literal_of_spelled l hl,
      literal_of_spelled r (Spelled.tail hr)⟩
  | unary _ _ t, h => literal_of_spelled t h.tail
  | assign _ _ _ v, h => literal_of_spelled v h.tail.tail
  | block _ cs, h => literal_of_spelledAll cs h.tail
  | empty, _ => nofun

theorem literal_of_spelledAll : ∀ ts : List Tree, Spelled (tokensAll ts) → Literal (numbersAll ts)
  | [], _ => nofun
  | t :: ts, h => by
    obtain ⟨ht, hts⟩ := List.forall_mem_append.mp h
    exact List.forall_mem_append.mpr ⟨literal_of_spelled t ht, literal_of_spelledAll ts hts⟩

end

/-! ### Reading a text -/

open Cursor

theorem ofSymbol?_operator (op : Operator) : Lexeme.ofSymbol? op.symbol = some op.lexeme := by
  cases op <;> rfl

theorem ofSymbol?_sign (s : Sign) : Lexeme.ofSymbol? s.symbol = some s.lexeme := by
  cases s <;> rfl

theorem reads_nameText {s : String} {rest : List Char} (h : (Lexeme.name s).Spelled)
    (hr : Stops isWordlike rest) : Reads s.toList rest [.name s] := by
  have := reads_name s.toList h hr.name
  rwa [String.ofList_toList] at this

theorem stops_renderRest {rest : List Char} (hr : Stops isWordlike rest) (ts : List Tree) :
    Stops isWordlike (renderRest ts ++ rest) := by
  cases ts with
  | nil => exact hr
  | cons t ts => exact stops_cons rfl

mutual

/-- **The text of a tree is read as its spelling**, if what follows does not go on with it. -/
theorem reads_render : ∀ (t : Tree) {rest : List Char}, Spelled t.tokens → Stops isWordlike rest →
    Reads t.render rest t.spelling
  | number x _, _, h, hr => reads_chars hr x (isLiteral_of_spelled (h _ List.mem_cons_self))
  | name _ _, _, h, hr => reads_nameText (h _ List.mem_cons_self) hr
  | binary op _ l r, rest, h, _ => by
    obtain ⟨hl, hr⟩ := List.forall_mem_append.mp h
    have hclose : Reads [')'] rest [.closeParen] := reads_symbol rfl (reads_nil rest)
    have hright := (reads_render r (Spelled.tail hr) (stops_cons rfl)).append hclose
    have hop := reads_space (reads_symbol (ofSymbol?_operator op) (reads_space hright))
    have hleft := (reads_render l hl (stops_cons rfl)).append hop
    exact reads_symbol rfl hleft
  | unary s _ t, _, h, hr => reads_symbol (ofSymbol?_sign s) (reads_render t h.tail hr)
  | assign _ _ _ v, _, h, hr => by
    have hvalue := reads_space (reads_render v h.tail.tail hr)
    have hequals := reads_space (reads_symbol (x := '=') rfl hvalue)
    exact (reads_nameText (h _ List.mem_cons_self) (stops_cons rfl)).append hequals
  | block _ cs, rest, h, _ => by
    have hclose : Reads [' ', '}'] rest [.closeBrace] :=
      reads_space (reads_symbol rfl (reads_nil rest))
    have hall := (reads_renderAll cs h.tail (stops_cons rfl)).append hclose
    exact reads_symbol rfl (reads_space hall)
  | empty, _, _, _ => reads_nil _

theorem reads_renderAll : ∀ (ts : List Tree) {rest : List Char}, Spelled (tokensAll ts) →
    Stops isWordlike rest → Reads (renderAll ts) rest (spellingAll ts)
  | [], _, _, _ => reads_nil _
  | t :: ts, _, h, hr => by
    obtain ⟨ht, hts⟩ := List.forall_mem_append.mp h
    rw [renderAll_cons]
    exact (reads_render t ht (stops_renderRest hr ts)).append (reads_renderRest ts hts hr)

theorem reads_renderRest : ∀ (ts : List Tree) {rest : List Char}, Spelled (tokensAll ts) →
    Stops isWordlike rest → Reads (renderRest ts) rest (spellingRest ts)
  | [], _, _, _ => reads_nil _
  | t :: ts, _, h, hr => by
    obtain ⟨ht, hts⟩ := List.forall_mem_append.mp h
    have hfirst := reads_render t ht (stops_renderRest hr ts)
    exact reads_symbol rfl (reads_space (hfirst.append (reads_renderRest ts hts hr)))

end

/-- The tokens of the whole text. -/
theorem exists_feed_render {t : Tree} (h : Spelled t.tokens) :
    ∃ ts p, ts.map Token.lexeme = t.spelling ∧
      (Cursor.start t.render).feed = (ts ++ [⟨.endOfInput, p⟩], none) := by
  have hstops : Stops isWordlike [] := nofun
  obtain ⟨ts, hts, hf⟩ := reads_render t h hstops 0
  refine ⟨ts, (0 + t.render.length : Nat), hts, ?_⟩
  rw [List.append_nil] at hf
  rw [Cursor.start, hf, feed_of_end (next_of_rest_nil rfl) rfl]

end Tree

end BlockCalc
