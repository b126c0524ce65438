import BlockCalc.Proofs.Parsing.Outcome

/-! # The tokens of a tree

Every node of a tree but the empty one stands for a token, an assignment for two. `Tree.tokens` lists
them in the order in which they stand in the source: an operator between its operands, a sign before
its operand, a brace before the statements of its block. Parentheses, semicolons, closing braces and
the end of the input leave no node.

* `Program.tokens`, `SoleExpression.tokens`: the tokens of the tree of a sentence are the tokens of
  the sentence that leave a node. None is lost, doubled or moved.
* `Program.shape`, `SoleExpression.shape`: a parsed expression holds no statement.
* `placed_of_parseProgram`, `placed_of_parseExpression`: so the offsets in a parsed tree increase in
  that order, and its names and numbers are spelled as the language has them. -/

namespace BlockCalc

/-- The lexeme of an operation. -/
def Operator.lexeme : Operator → Lexeme
  | add => .plus
  | sub => .minus
  | mul => .times
  | div => .slash

/-- The lexeme of a sign. -/
def Sign.lexeme : Sign → Lexeme
  | plus => .plus
  | minus => .minus

/-- Whether a token of this kind leaves a node. -/
def Kind.leavesNode : Kind → Bool
  | openParen | closeParen | semicolon | closeBrace | endOfInput => false
  | _ => true

namespace Tree

mutual

/-- The tokens of all nodes, in the order in which they stand in the source. -/
def tokens : Tree → List Token
  | number x p => [⟨.number x, p⟩]
  | name s p => [⟨.name s, p⟩]
  | binary op p l r => l.tokens ++ ⟨op.lexeme, p⟩ :: r.tokens
  | unary s p t => ⟨s.lexeme, p⟩ :: t.tokens
  | assign x q p v => ⟨.name x, q⟩ :: ⟨.equals, p⟩ :: v.tokens
  | block p cs => ⟨.openBrace, p⟩ :: tokensAll cs
  | empty => []

/-- The tokens of trees that stand side by side. -/
def tokensAll : List Tree → List Token
  | [] => []
  | t :: ts => t.tokens ++ tokensAll ts

end

/-- A tree of numbers, names and operations. -/
def isExpression : Tree → Bool
  | number _ _ => true
  | name _ _ => true
  | binary _ _ l r => l.isExpression && r.isExpression
  | unary _ _ t => t.isExpression
  | assign _ _ _ _ => false
  | block _ _ => false
  | empty => false

mutual

/-- A tree of assignments of expressions, of blocks with at least one statement, and of empty
statements. -/
def isStatement : Tree → Bool
  | assign _ _ _ v => v.isExpression
  | block _ cs => !cs.isEmpty && areStatements cs
  | empty => true
  | number _ _ => false
  | name _ _ => false
  | binary _ _ _ _ => false
  | unary _ _ _ => false

/-- Trees that all are statements. -/
def areStatements : List Tree → Bool
  | [] => true
  | t :: ts => t.isStatement && areStatements ts

end

end Tree

namespace Grammar

/-! ### The tokens of a sentence -/

/-- The tokens of a list that leave a node. -/
abbrev nodeTokens (ts : List Token) : List Token := ts.filter (·.kind.leavesNode)

theorem Additive.lexeme {k : Lexeme} {op : Operator} (h : Additive k op) : op.lexeme = k := by
  cases h <;> rfl

theorem Multiplicative.lexeme {k : Lexeme} {op : Operator} (h : Multiplicative k op) :
    op.lexeme = k := by
  cases h <;> rfl

theorem Signed.lexeme {k : Lexeme} {s : Sign} (h : Signed k s) : s.lexeme = k := by
  cases h <;> rfl

theorem nodeTokens_operator (op : Operator) (p : Int) (ts : List Token) :
    nodeTokens (⟨op.lexeme, p⟩ :: ts) = ⟨op.lexeme, p⟩ :: nodeTokens ts := by
  cases op <;> rfl

theorem nodeTokens_sign (s : Sign) (p : Int) (ts : List Token) :
    nodeTokens (⟨s.lexeme, p⟩ :: ts) = ⟨s.lexeme, p⟩ :: nodeTokens ts := by
  cases s <;> rfl

theorem nodeTokens_append (ts us : List Token) :
    nodeTokens (ts ++ us) = nodeTokens ts ++ nodeTokens us :=
  List.filter_append ts us

mutual

theorem Factor.tokens : ∀ {ts : List Token} {t : Tree}, Factor ts t → nodeTokens ts = t.tokens
  | _, _, .sign hk h => by
    obtain rfl := hk.lexeme
    rw [nodeTokens_sign, h.tokens, Tree.tokens]
  | _, _, .number => rfl
  | _, _, .name => rfl
  | _, _, @Factor.parens _ _ ts _ h => by
    rw [← h.tokens]
    exact (nodeTokens_append ts _).trans (List.append_nil _)

theorem Products.tokens : ∀ {l t : Tree} {ts : List Token}, Products l ts t →
    l.tokens ++ nodeTokens ts = t.tokens
  | l, _, _, .done => List.append_nil _
  | l, _, _, .more hk hf h => by
    obtain rfl := hk.lexeme
    rw [← h.tokens, Tree.tokens, nodeTokens_operator, nodeTokens_append, hf.tokens,
      List.append_assoc, List.cons_append]

theorem Term.tokens : ∀ {ts : List Token} {t : Tree}, Term ts t → nodeTokens ts = t.tokens
  | _, _, .chain hf h => by rw [nodeTokens_append, hf.tokens, h.tokens]

theorem Sums.tokens : ∀ {l t : Tree} {ts : List Token}, Sums l ts t →
    l.tokens ++ nodeTokens ts = t.tokens
  | l, _, _, .done => List.append_nil _
  | l, _, _, .more hk ht h => by
    obtain rfl := hk.lexeme
    rw [← h.tokens, Tree.tokens, nodeTokens_operator, nodeTokens_append, ht.tokens,
      List.append_assoc, List.cons_append]

theorem Expression.tokens : ∀ {ts : List Token} {t : Tree}, Expression ts t →
    nodeTokens ts = t.tokens
  | _, _, .chain ht h => by rw [nodeTokens_append, ht.tokens, h.tokens]

end

theorem Assignment.tokens {ts : List Token} {t : Tree} (h : Assignment ts t) :
    nodeTokens ts = t.tokens := by
  obtain @⟨x, q, p, us, v, h⟩ := h
  rw [Tree.tokens, ← h.tokens]
  rfl

mutual

theorem Statement.tokens : ∀ {ts : List Token} {t : Tree}, Statement ts t →
    nodeTokens ts = t.tokens
  | _, _, .assignment h => h.tokens
  | _, _, .block h => h.tokens
  | _, _, .empty => rfl

theorem Statements.tokens : ∀ {ts : List Token} {cs : List Tree}, Statements ts cs →
    nodeTokens ts = Tree.tokensAll cs
  | _, _, .done => rfl
  | _, _, @Statements.more _ ts _ _ _ hs h => by
    rw [Tree.tokensAll, ← hs.tokens, ← h.tokens]
    exact nodeTokens_append ts _

theorem Block.tokens : ∀ {ts : List Token} {t : Tree}, Block ts t → nodeTokens ts = t.tokens
  | _, _, @Block.mk p q ts us _ _ hs h => by
    have hq : nodeTokens (us ++ [⟨.closeBrace, q⟩]) = nodeTokens us :=
      (nodeTokens_append us _).trans (List.append_nil _)
    have hb : nodeTokens (ts ++ (us ++ [⟨.closeBrace, q⟩])) = nodeTokens ts ++ nodeTokens us := by
      rw [nodeTokens_append, hq]
    rw [Tree.tokens, Tree.tokensAll, ← hs.tokens, ← h.tokens, ← hb]
    rfl

end

/-- **No token of a program is lost, doubled or moved.** -/
theorem Program.tokens {ts : List Token} {t : Tree} (h : Program ts t) : nodeTokens ts = t.tokens := by
  obtain ⟨h⟩ := h
  rw [nodeTokens_append, h.tokens]
  exact List.append_nil _

/-- **No token of an expression is lost, doubled or moved.** -/
theorem SoleExpression.tokens {ts : List Token} {t : Tree} (h : SoleExpression ts t) :
    nodeTokens ts = t.tokens := by
  obtain ⟨h⟩ := h
  rw [nodeTokens_append, h.tokens]
  exact List.append_nil _

/-! ### The shape of a tree -/

mutual

theorem Factor.shape : ∀ {ts : List Token} {t : Tree}, Factor ts t → t.isExpression = true
  | _, _, .sign _ h => by rw [Tree.isExpression, h.shape]
  | _, _, .number => rfl
  | _, _, .name => rfl
  | _, _, .parens h => h.shape

theorem Products.shape : ∀ {l t : Tree} {ts : List Token}, Products l ts t →
    l.isExpression = true → t.isExpression = true
  | _, _, _, .done, hl => hl
  | _, _, _, .more _ hf h, hl => h.shape (by rw [Tree.isExpression, hl, hf.shape]; rfl)

theorem Term.shape : ∀ {ts : List Token} {t : Tree}, Term ts t → t.isExpression = true
  | _, _, .chain hf h => h.shape hf.shape

theorem Sums.shape : ∀ {l t : Tree} {ts : List Token}, Sums l ts t →
    l.isExpression = true → t.isExpression = true
  | _, _, _, .done, hl => hl
  | _, _, _, .more _ ht h, hl => h.shape (by rw [Tree.isExpression, hl, ht.shape]; rfl)

theorem Expression.shape : ∀ {ts : List Token} {t : Tree}, Expression ts t →
    t.isExpression = true
  | _, _, .chain ht h => h.shape ht.shape

end

mutual

theorem Statement.shape : ∀ {ts : List Token} {t : Tree}, Statement ts t → t.isStatement = true
  | _, _, .assignment (.mk h) => by rw [Tree.isStatement, h.shape]
  | _, _, .block h => h.shape
  | _, _, .empty => rfl

theorem Statements.shape : ∀ {ts : List Token} {cs : List Tree}, Statements ts cs →
    Tree.areStatements cs = true
  | _, _, .done => rfl
  | _, _, .more hs h => by rw [Tree.areStatements, hs.shape, h.shape]; rfl

theorem Block.shape : ∀ {ts : List Token} {t : Tree}, Block ts t → t.isStatement = true
  | _, _, .mk hs h => by rw [Tree.isStatement, Tree.areStatements, hs.shape, h.shape]; rfl

end

theorem Program.shape {ts : List Token} {t : Tree} (h : Program ts t) : t.isStatement = true := by
  obtain ⟨h⟩ := h
  exact h.shape

theorem SoleExpression.shape {ts : List Token} {t : Tree} (h : SoleExpression ts t) :
    t.isExpression = true := by
  obtain ⟨h⟩ := h
  exact h.shape

end Grammar

/-! ### Parsed trees -/

namespace Tree

/-- What the tokens of a parsed tree are like. -/
structure Placed (t : Tree) : Prop where
  increasing : t.tokens.Pairwise fun a b => a.offset < b.offset
  spelled : ∀ k ∈ t.tokens, k.lexeme.Spelled

theorem placed_of_tokens {t : Tree} {source : List Char} {ts : List Token}
    (hts : tokenize source = .ok ts) (ht : Grammar.nodeTokens ts = t.tokens) : t.Placed := by
  have hf : (Cursor.start source).feed.1 = ts := by rw [Cursor.tokenize_eq_ok_iff.mp hts]
  have hsub : t.tokens.Sublist ts := ht ▸ List.filter_sublist
  constructor
  · exact List.Pairwise.sublist hsub (hf ▸ Cursor.pairwise_feed _)
  · intro k hk
    exact Cursor.spelled_feed (Cursor.start source) k (hf ▸ hsub.subset hk)

end Tree

theorem sentence_of_parseProgram {limit : Nat} {source : List Char} {file : Option String} {t : Tree}
    (h : parseProgram limit source file = .ok t) :
    ∃ ts, tokenize source = .ok ts ∧ Grammar.Program ts t :=
  ((verdict_program (by rw [h]; nofun)).ok_iff Grammar.Program.unique).mp h

theorem sentence_of_parseExpression {limit : Nat} {source : List Char} {t : Tree}
    (h : parseExpression limit source = .ok t) :
    ∃ ts, tokenize source = .ok ts ∧ Grammar.SoleExpression ts t :=
  ((verdict_soleExpression (by rw [h]; nofun)).ok_iff Grammar.SoleExpression.unique).mp h

/-- **The tree of a program**: statements, whose tokens stand in the order of the source. -/
theorem placed_of_parseProgram {limit : Nat} {source : List Char} {file : Option String} {t : Tree}
    (h : parseProgram limit source file = .ok t) : t.isStatement = true ∧ t.Placed := by
  obtain ⟨ts, hts, hp⟩ := sentence_of_parseProgram h
  exact ⟨hp.shape, Tree.placed_of_tokens hts hp.tokens⟩

/-- **The tree of an expression**, whose tokens stand in the order of the source. -/
theorem placed_of_parseExpression {limit : Nat} {source : List Char} {t : Tree}
    (h : parseExpression limit source = .ok t) : t.isExpression = true ∧ t.Placed := by
  obtain ⟨ts, hts, hp⟩ := sentence_of_parseExpression h
  exact ⟨hp.shape, Tree.placed_of_tokens hts hp.tokens⟩

end BlockCalc
