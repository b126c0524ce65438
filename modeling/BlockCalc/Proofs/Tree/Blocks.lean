import BlockCalc.Proofs.Execution
import BlockCalc.Proofs.Parsing.SideBySide
import BlockCalc.Proofs.Token.Brackets
import BlockCalc.Proofs.Tree.Tokens

/-! # The blocks of a tree

A block keeps the token of its opening brace, and its semicolons leave no node. What is left of them
is the number of its statements. `Spans ts p cs` says of a block at the offset `p` that its brace and
the brace that closes it stand in the tokens `ts`, and that between them there is one semicolon fewer
than the block has statements, not counting what stands inside of further braces.

Counting goes along the grammar: `Separated n ts` says that `ts` closes the braces it opens and has
`n` semicolons outside of them. Statements have none, and so a list of statements has those that
separate them.

* `Block.separated`, `Statements.separated`: the semicolons of a block.
* `Program.spans`: every block of a program stands between its braces.
* `parsed_tree_accounts`: the tokens of a parsed tree, and its blocks. -/

namespace BlockCalc

open Brackets (braces)

namespace Tree

mutual

/-- All nodes, the root first; the target of an assignment is a node. -/
def nodes : Tree → List Tree
  | number x p => [number x p]
  | name s p => [name s p]
  | binary op p l r => binary op p l r :: (l.nodes ++ r.nodes)
  | unary s p t => unary s p t :: t.nodes
  | assign x q p v => assign x q p v :: name x q :: v.nodes
  | block p cs => block p cs :: nodesAll cs
  | empty => [empty]

/-- The nodes of trees that stand side by side. -/
def nodesAll : List Tree → List Tree
  | [] => []
  | t :: ts => t.nodes ++ nodesAll ts

end

theorem block_notMem_nodes (p : Int) (cs : List Tree) : ∀ {t : Tree}, t.isExpression = true →
    block p cs ∉ t.nodes
  | number _ _, _ => by simp [nodes]
  | name _ _, _ => by simp [nodes]
  | binary _ _ l r, h => by
    rw [isExpression, Bool.and_eq_true] at h
    have hl := block_notMem_nodes p cs h.1
    have hr := block_notMem_nodes p cs h.2
    simp [nodes, hl, hr]
  | unary _ _ t, h => by
    rw [isExpression] at h
    simp [nodes, block_notMem_nodes p cs h]

end Tree

namespace Grammar

/-! ### Semicolons -/

/-- Braces that are closed, and a number of semicolons outside of them. -/
structure Separated (n : Nat) (ts : List Token) : Prop where
  balanced : braces.Balanced ts
  count : braces.direct .semicolon 0 ts = n

theorem separated_nil : Separated 0 [] := ⟨Brackets.balanced_nil, rfl⟩

theorem separated_semicolon (p : Int) : Separated 1 [⟨.semicolon, p⟩] :=
  ⟨Brackets.balanced_singleton rfl, rfl⟩

theorem Separated.append {m n : Nat} {ts us : List Token} (h : Separated m ts)
    (h' : Separated n us) : Separated (m + n) (ts ++ us) := by
  refine ⟨h.balanced.append h'.balanced, ?_⟩
  rw [Brackets.direct_append, h.count, h.balanced.settled, Int.add_zero, h'.count]

theorem Separated.enclose {n : Nat} {ts : List Token} (h : Separated n ts) (p q : Int) :
    Separated 0 (⟨.openBrace, p⟩ :: (ts ++ [⟨.closeBrace, q⟩])) :=
  ⟨h.balanced.enclose rfl rfl, h.balanced.direct_enclose rfl nofun nofun⟩

mutual

theorem Factor.inside : ∀ {ts : List Token} {t : Tree}, Factor ts t →
    ∀ k ∈ ts, k.kind.isOutside = false
  | _, _, .sign hk h => by
    refine List.forall_mem_cons.mpr ⟨?_, h.inside⟩
    cases hk <;> rfl
  | _, _, .number => List.forall_mem_singleton.mpr rfl
  | _, _, .name => List.forall_mem_singleton.mpr rfl
  | _, _, .parens h => by
    refine List.forall_mem_cons.mpr ⟨rfl, List.forall_mem_append.mpr ⟨h.inside, ?_⟩⟩
    exact List.forall_mem_singleton.mpr rfl

theorem Products.inside : ∀ {l t : Tree} {ts : List Token}, Products l ts t →
    ∀ k ∈ ts, k.kind.isOutside = false
  | _, _, _, .done => nofun
  | _, _, _, .more hk hf h => by
    refine List.forall_mem_cons.mpr ⟨?_, List.forall_mem_append.mpr ⟨hf.inside, h.inside⟩⟩
    cases hk <;> rfl

theorem Term.inside : ∀ {ts : List Token} {t : Tree}, Term ts t →
    ∀ k ∈ ts, k.kind.isOutside = false
  | _, _, .chain hf h => List.forall_mem_append.mpr ⟨hf.inside, h.inside⟩

theorem Sums.inside : ∀ {l t : Tree} {ts : List Token}, Sums l ts t →
    ∀ k ∈ ts, k.kind.isOutside = false
  | _, _, _, .done => nofun
  | _, _, _, .more hk ht h => by
    refine List.forall_mem_cons.mpr ⟨?_, List.forall_mem_append.mpr ⟨ht.inside, h.inside⟩⟩
    cases hk <;> rfl

theorem Expression.inside : ∀ {ts : List Token} {t : Tree}, Expression ts t →
    ∀ k ∈ ts, k.kind.isOutside = false
  | _, _, .chain ht h => List.forall_mem_append.mpr ⟨ht.inside, h.inside⟩

end

theorem Assignment.separated {ts : List Token} {t : Tree} (h : Assignment ts t) :
    Separated 0 ts := by
  obtain @⟨x, q, p, us, v, h⟩ := h
  have hus : ∀ k ∈ us, braces.weight k.kind = 0 ∧ k.kind ≠ .semicolon := by
    intro k hk
    have hin := h.inside k hk
    constructor
    · apply Brackets.weight_other <;> rintro hkind <;> rw [hkind] at hin <;> cases hin
    · intro hkind
      rw [hkind] at hin
      cases hin
  refine ⟨.cons rfl (.cons rfl (Brackets.balanced_of_forall fun k hk => (hus k hk).1)), ?_⟩
  refine Brackets.direct_of_forall 0 (List.forall_mem_cons.mpr ⟨nofun, ?_⟩)
  exact List.forall_mem_cons.mpr ⟨nofun, fun k hk => (hus k hk).2⟩

mutual

theorem Statement.separated : ∀ {ts : List Token} {t : Tree}, Statement ts t → Separated 0 ts
  | _, _, .assignment h => h.separated
  | _, _, .block h => h.separated
  | _, _, .empty => separated_nil

/-- **As many semicolons as statements**, since each comes behind one. -/
theorem Statements.separated : ∀ {ts : List Token} {cs : List Tree}, Statements ts cs →
    Separated cs.length ts
  | _, _, .done => separated_nil
  | _, _, @Statements.more p ts us c cs hs h => by
    have := (separated_semicolon p).append (hs.separated.append h.separated)
    rwa [Nat.zero_add, Nat.add_comm] at this

theorem Block.separated : ∀ {ts : List Token} {t : Tree}, Block ts t → Separated 0 ts
  | _, _, @Block.mk p q ts us c cs hs h => by
    rw [← List.append_assoc]
    exact (hs.separated.append h.separated).enclose p q

end

/-! ### Blocks between their braces -/

/-- The braces of a block at an offset, with one semicolon fewer between them than it has
statements. -/
def Spans (ts : List Token) (p : Int) (cs : List Tree) : Prop :=
  ∃ before inner q after,
    ts = before ++ ⟨.openBrace, p⟩ :: (inner ++ ⟨.closeBrace, q⟩ :: after) ∧
    braces.Balanced inner ∧ cs.length = braces.direct .semicolon 0 inner + 1

theorem Spans.widen {ts : List Token} {p : Int} {cs : List Tree} (h : Spans ts p cs)
    (us vs : List Token) : Spans (us ++ (ts ++ vs)) p cs := by
  obtain ⟨before, inner, q, after, rfl, hinner, hlen⟩ := h
  exact ⟨us ++ before, inner, q, after ++ vs, by simp, hinner, hlen⟩

mutual

theorem Statement.spans : ∀ {ts : List Token} {t : Tree}, Statement ts t →
    ∀ p cs, .block p cs ∈ t.nodes → Spans ts p cs
  | _, _, .assignment (.mk h), p, cs, hmem => by
    simp [Tree.nodes, Tree.block_notMem_nodes p cs h.shape] at hmem
  | _, _, .block h, p, cs, hmem => h.spans p cs hmem
  | _, _, .empty, p, cs, hmem => by simp [Tree.nodes] at hmem

theorem Statements.spans : ∀ {ts : List Token} {ds : List Tree}, Statements ts ds →
    ∀ p cs, .block p cs ∈ Tree.nodesAll ds → Spans ts p cs
  | _, _, .done, p, cs, hmem => by simp [Tree.nodesAll] at hmem
  | _, _, @Statements.more q ts us c ds hs h, p, cs, hmem => by
    rw [Tree.nodesAll, List.mem_append] at hmem
    rcases hmem with hmem | hmem
    · exact (hs.spans p cs hmem).widen [⟨.semicolon, q⟩] us
    · have := (h.spans p cs hmem).widen (⟨.semicolon, q⟩ :: ts) []
      rwa [List.append_nil] at this

theorem Block.spans : ∀ {ts : List Token} {t : Tree}, Block ts t →
    ∀ p cs, .block p cs ∈ t.nodes → Spans ts p cs
  | _, _, @Block.mk o q ts us c ds hs h, p, cs, hmem => by
    rw [Tree.nodes, Tree.nodesAll, List.mem_cons, List.mem_append] at hmem
    -- The block itself, or a block inside of its first statement or of another one.
    rcases hmem with hroot | hmem | hmem
    · obtain ⟨rfl, rfl⟩ := Tree.block.inj hroot
      have hinner := hs.separated.append h.separated
      refine ⟨[], ts ++ us, q, [], by simp, hinner.balanced, ?_⟩
      rw [hinner.count, Nat.zero_add, List.length_cons]
    · exact (hs.spans p cs hmem).widen [⟨.openBrace, o⟩] (us ++ [⟨.closeBrace, q⟩])
    · have := (h.spans p cs hmem).widen (⟨.openBrace, o⟩ :: ts) [⟨.closeBrace, q⟩]
      exact this

end

/-- **Every block of a program stands between its braces.** -/
theorem Program.spans {ts : List Token} {t : Tree} (h : Program ts t) (p : Int) (cs : List Tree)
    (hmem : .block p cs ∈ t.nodes) : Spans ts p cs := by
  obtain ⟨h⟩ := h
  exact (h.spans p cs hmem).widen [] _

end Grammar

/-! ### Parsed trees -/

open Grammar

/-- **No token is lost, doubled or moved.** The tokens of a parsed tree, in the order of the source,
are the tokens of the source without parentheses, semicolons, closing braces and the end of the
input, so that their offsets increase. Every block of the tree stands between its brace and the one
that closes it, and has one statement more than there are semicolons right between these. -/
theorem parsed_tree_accounts {limit : Nat} {source : List Char} {file : Option String} {t : Tree}
    (h : parseProgram limit source file = .ok t ∨ parseExpression limit source = .ok t) :
    ∃ ts, tokenize source = .ok ts ∧ t.tokens = ts.filter (·.kind.leavesNode) ∧
      t.tokens.Pairwise (fun a b => a.offset < b.offset) ∧
      ∀ p cs, .block p cs ∈ t.nodes → cs ≠ [] ∧ Spans ts p cs := by
  have key : ∃ ts, tokenize source = .ok ts ∧ nodeTokens ts = t.tokens ∧
      ∀ p cs, .block p cs ∈ t.nodes → Spans ts p cs := by
    rcases h with h | h
    · obtain ⟨ts, hts, hp⟩ := sentence_of_parseProgram h
      exact ⟨ts, hts, hp.tokens, hp.spans⟩
    · obtain ⟨ts, hts, hp⟩ := sentence_of_parseExpression h
      exact ⟨ts, hts, hp.tokens, fun p cs hmem => (Tree.block_notMem_nodes p cs hp.shape hmem).elim⟩
  obtain ⟨ts, hts, htokens, hspans⟩ := key
  refine ⟨ts, hts, htokens.symm, (Tree.placed_of_tokens hts htokens).increasing, ?_⟩
  intro p cs hmem
  have h := hspans p cs hmem
  refine ⟨?_, h⟩
  rintro rfl
  obtain ⟨_, _, _, _, _, _, hlen⟩ := h
  cases hlen

/-- Parentheses and semicolons are passed over, and an empty statement stands on each side of the
semicolons that nothing else stands beside. -/
theorem parsed_tree_accounts_nested : ∃ (t : Tree) (ts : List Token),
    tokenize "\x7b x = -(1 + y); \x7b ; x = 2 \x7d; \x7d".toList = .ok ts ∧
    t.render = "\x7b x = -(1 + y); \x7b ; x = 2 \x7d;  \x7d".toList ∧
    t.tokens = ts.filter (·.kind.leavesNode) ∧
    ∀ p cs, .block p cs ∈ t.nodes → cs ≠ [] ∧ Spans ts p cs := by
  obtain ⟨t, ht, hrender⟩ := exists_ok_of_map
    (r := parseProgram depthLimit "\x7b x = -(1 + y); \x7b ; x = 2 \x7d; \x7d".toList none)
    (f := Tree.render) (b := "\x7b x = -(1 + y); \x7b ; x = 2 \x7d;  \x7d".toList)
    (by decide +kernel)
  obtain ⟨ts, hts, htokens, -, hblocks⟩ := parsed_tree_accounts (.inl ht)
  exact ⟨t, ts, hts, hrender, htokens, hblocks⟩

end BlockCalc
