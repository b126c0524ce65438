import BlockCalc.Proofs.Number.Written
import BlockCalc.Proofs.Tree.Blocks
import BlockCalc.Proofs.Tree.Equality
import BlockCalc.Text.Split

/-! # Outlines

An outline has one line for every node, and the indentation of the line is the level of the node. So
it is the text of a list of *entries*, a level and a caption each, and two outlines are the same
exactly if their entries are: captions do not begin with a blank, and no line has a newline in it as
long as the names have none.

The entries of a tree tell the tree. A caption tells what type of node it belongs to and what the node
itself holds (`caption_eq_iff`), and where the entries of the statements of a block end is seen from
the level of the entry after them. The induction carries what comes after the tree: entries of two
trees, with more entries after them the first of which is no deeper than the root, agree only if the
trees are equal and what comes after them agrees too (`entries_cancel`).

* `leveled_nodes`: the nodes of an outline are the nodes of the tree, in preorder.
* `outline_faithful`: two outlines are the same exactly if the trees are equal. -/

namespace BlockCalc

theorem Operator.symbol_inj {op op' : Operator} (h : op.symbol = op'.symbol) : op = op' := by
  revert h
  cases op <;> cases op' <;> decide

theorem Sign.symbol_inj {sign sign' : Sign} (h : sign.symbol = sign'.symbol) : sign = sign' := by
  revert h
  cases sign <;> cases sign' <;> decide

namespace Tree

/-! ### Nodes and their levels -/

theorem nodesAll_eq (ts : List Tree) : nodesAll ts = ts.flatMap nodes := by
  induction ts with
  | nil => rfl
  | cons t ts ih => rw [nodesAll, ih, List.flatMap_cons]

theorem nodes_eq (t : Tree) : t.nodes = t :: t.children.flatMap nodes := by
  cases t <;> simp [nodes, children, nodesAll_eq]

theorem outlineAll_eq (level : Int) (ts : List Tree) :
    outlineAll level ts = ts.flatMap (outlineLines level) := by
  induction ts with
  | nil => rfl
  | cons t ts ih => rw [outlineAll, ih, List.flatMap_cons]

theorem outlineLines_eq (level : Int) (t : Tree) : t.outlineLines level =
    (indent level ++ t.caption) :: t.children.flatMap (outlineLines (level + 1)) := by
  cases t <;> simp [outlineLines, children, outlineAll_eq]

mutual

/-- All nodes with their levels, the root first and at a given level. -/
def leveled (level : Nat) : Tree → List (Nat × Tree)
  | number x p => [(level, number x p)]
  | name s p => [(level, name s p)]
  | binary op p l r => (level, binary op p l r) :: (leveled (level + 1) l ++ leveled (level + 1) r)
  | unary s p t => (level, unary s p t) :: leveled (level + 1) t
  | assign x q p v => (level, assign x q p v) :: (level + 1, name x q) :: leveled (level + 1) v
  | block p cs => (level, block p cs) :: leveledAll (level + 1) cs
  | empty => [(level, empty)]

/-- The nodes of trees that stand side by side, with their levels. -/
def leveledAll (level : Nat) : List Tree → List (Nat × Tree)
  | [] => []
  | t :: ts => leveled level t ++ leveledAll level ts

end

theorem leveledAll_eq (level : Nat) (ts : List Tree) :
    leveledAll level ts = ts.flatMap (leveled level) := by
  induction ts with
  | nil => rfl
  | cons t ts ih => rw [leveledAll, ih, List.flatMap_cons]

theorem leveled_eq (level : Nat) (t : Tree) :
    t.leveled level = (level, t) :: t.children.flatMap (leveled (level + 1)) := by
  cases t <;> simp [leveled, children, leveledAll_eq]

/-- **The nodes of an outline are the nodes of the tree, in preorder.** -/
theorem leveled_nodes (t : Tree) : ∀ level, (t.leveled level).map Prod.snd = t.nodes := by
  induction t using children_induction with
  | h t ih =>
    intro level
    rw [leveled_eq, nodes_eq, List.map_cons, List.map_flatMap]
    exact congrArg _ (List.flatMap_congr fun u hu => ih u hu _)

/-- What an outline says of a node at a level. -/
def entry (u : Nat × Tree) : Nat × String := (u.1, u.2.caption)

/-- The line of an entry. -/
def line (e : Nat × String) : String := indent e.1 ++ e.2

/-- The entries of an outline. -/
def entries (level : Nat) (t : Tree) : List (Nat × String) := (t.leveled level).map entry

theorem entries_eq (level : Nat) (t : Tree) :
    t.entries level = (level, t.caption) :: t.children.flatMap (entries (level + 1)) := by
  rw [entries, leveled_eq, List.map_cons, List.map_flatMap]
  rfl

theorem outlineLines_entries (t : Tree) : ∀ level : Nat,
    t.outlineLines level = (t.entries level).map line := by
  induction t using children_induction with
  | h t ih =>
    intro level
    rw [outlineLines_eq, entries_eq, List.map_cons, List.map_flatMap]
    exact congrArg _ (List.flatMap_congr fun u hu => ih u hu (level + 1))

/-! ### Captions -/

/-- A node whose line is seen as it was: a number that is not NaN, or a name without a newline. -/
def Clear : Tree → Prop
  | number x _ => x ≠ .nan
  | name s _ => '\n' ∉ s.toList
  | _ => True

/-- All nodes are seen as they were. -/
def Legible (t : Tree) : Prop := ∀ u ∈ t.nodes, u.Clear

theorem legible_iff {t : Tree} : t.Legible ↔ t.Clear ∧ ∀ u ∈ t.children, u.Legible := by
  rw [Legible, nodes_eq, List.forall_mem_cons, List.forall_mem_flatMap]
  rfl

theorem take_caption (t : Tree) : t.caption.toList.take 2 = t.shape.label.toList.take 2 := by
  cases t <;> simp [caption, shape, Shape.label]

theorem shape_of_caption {a b : Tree} (h : a.caption = b.caption) : a.shape = b.shape := by
  have hlabel : ∀ k m : Shape, k.label.toList.take 2 = m.label.toList.take 2 → k = m := by
    intro k m
    cases k <;> cases m <;> decide
  refine hlabel _ _ ?_
  rw [← take_caption, ← take_caption, h]

theorem caption_of_sameRoot {a b : Tree} (h : a.sameRoot b = true) : a.caption = b.caption := by
  cases paired_of_shape (shape_of_sameRoot h) with
  | number => rw [caption, caption, Binary64.text_eq_of_numEq h]
  | name => rw [caption, caption, eq_of_beq h]
  | binary => rw [caption, caption, eq_of_beq h]
  | unary => rw [caption, caption, eq_of_beq h]
  | assign => rfl
  | block => rfl
  | empty => rfl

/-- **A caption tells what the node itself holds.** -/
theorem caption_eq_iff {a b : Tree} (ha : a.Clear) (hb : b.Clear) :
    a.caption = b.caption ↔ a.sameRoot b = true := by
  refine ⟨?_, caption_of_sameRoot⟩
  intro h
  cases paired_of_shape (shape_of_caption h) with
  | @number x y _ _ =>
    have htext : x.text = y.text := by simpa [caption] using h
    exact (Binary64.text_eq_iff ha hb).mp htext
  | @name s t _ _ =>
    have htext : s = t := by simpa [caption] using h
    exact beq_iff_eq.mpr htext
  | @binary op op' _ _ _ _ _ _ =>
    have hsymbol : op.symbol = op'.symbol := by simpa [caption] using h
    exact beq_iff_eq.mpr (Operator.symbol_inj hsymbol)
  | @unary sign sign' _ _ _ _ =>
    have hsymbol : sign.symbol = sign'.symbol := by simpa [caption] using h
    exact beq_iff_eq.mpr (Sign.symbol_inj hsymbol)
  | assign => rfl
  | block => rfl
  | empty => rfl

/-! ### Entries -/

/-- The first entry, if there is one, stands above a level. -/
def Shallow (level : Nat) (es : List (Nat × String)) : Prop := ∀ e ∈ es.head?, e.1 < level

theorem Shallow.entries {level : Nat} {ts : List Tree} {es : List (Nat × String)}
    (h : Shallow level es) : Shallow (level + 1) (ts.flatMap (Tree.entries level) ++ es) := by
  intro e he
  rcases ts with _ | ⟨t, ts⟩
  · have hlt := h e he
    omega
  · rw [List.flatMap_cons, entries_eq] at he
    cases he
    exact Nat.lt_succ_self level

/-- Before an entry that is no deeper than the root, the entries of the tree tell the tree. -/
def Cancels (a : Tree) : Prop :=
  ∀ (b : Tree) (level : Nat) (es fs : List (Nat × String)), b.Legible → Shallow (level + 1) es →
    Shallow (level + 1) fs → a.entries level ++ es = b.entries level ++ fs →
      a.same b = true ∧ es = fs

/-- The entries of trees that stand side by side end where an entry comes that stands above them. -/
theorem cancels_all {level : Nat} {es fs : List (Nat × String)} (hes : Shallow level es)
    (hfs : Shallow level fs) : ∀ {cs ds : List Tree}, (∀ c ∈ cs, c.Cancels) →
    (∀ d ∈ ds, d.Legible) → cs.flatMap (entries level) ++ es = ds.flatMap (entries level) ++ fs →
    sameAll cs ds = true ∧ es = fs
  | [], [], _, _, h => ⟨rfl, h⟩
  | [], d :: ds, _, _, h => by
    rw [List.flatMap_nil, List.nil_append, List.flatMap_cons, entries_eq] at h
    subst h
    exact absurd (hes _ rfl) (Nat.lt_irrefl level)
  | c :: cs, [], _, _, h => by
    rw [List.flatMap_nil, List.nil_append, List.flatMap_cons, entries_eq] at h
    subst h
    exact absurd (hfs _ rfl) (Nat.lt_irrefl level)
  | c :: cs, d :: ds, hcs, hds, h => by
    obtain ⟨hc, hcs⟩ := List.forall_mem_cons.mp hcs
    obtain ⟨hd, hds⟩ := List.forall_mem_cons.mp hds
    rw [List.flatMap_cons, List.flatMap_cons, List.append_assoc, List.append_assoc] at h
    obtain ⟨hsame, hrest⟩ := hc d level _ _ hd hes.entries hfs.entries h
    obtain ⟨hall, hend⟩ := cancels_all hes hfs hcs hds hrest
    exact ⟨by rw [sameAll, hsame, hall]; rfl, hend⟩

/-- **The entries of a tree tell the tree.** -/
theorem entries_cancel (a : Tree) (ha : a.Legible) : a.Cancels := by
  induction a using children_induction with
  | h a ih =>
    intro b level es fs hb hes hfs h
    obtain ⟨hroot, hchildren⟩ := legible_iff.mp ha
    obtain ⟨hroot', hchildren'⟩ := legible_iff.mp hb
    rw [entries_eq, entries_eq, List.cons_append, List.cons_append, List.cons.injEq,
      Prod.mk.injEq] at h
    obtain ⟨⟨-, hcaption⟩, hrest⟩ := h
    have hcancels : ∀ c ∈ a.children, c.Cancels := fun c hc => ih c hc (hchildren c hc)
    obtain ⟨hall, hend⟩ := cancels_all hes hfs hcancels hchildren' hrest
    refine ⟨?_, hend⟩
    rw [same_eq, (caption_eq_iff hroot hroot').mp hcaption, hall]
    rfl

theorem sameAll_flatMap {level : Nat} : ∀ {cs ds : List Tree},
    (∀ c ∈ cs, ∀ d, c.same d = true → c.entries level = d.entries level) → sameAll cs ds = true →
    cs.flatMap (entries level) = ds.flatMap (entries level)
  | [], [], _, _ => rfl
  | [], _ :: _, _, h => by cases h
  | _ :: _, [], _, h => by cases h
  | c :: cs, d :: ds, hcs, h => by
    obtain ⟨hc, hcs⟩ := List.forall_mem_cons.mp hcs
    rw [sameAll, Bool.and_eq_true] at h
    rw [List.flatMap_cons, List.flatMap_cons, hc d h.1, sameAll_flatMap hcs h.2]

theorem entries_of_same (a : Tree) : ∀ (b : Tree) (level : Nat), a.same b = true →
    a.entries level = b.entries level := by
  induction a using children_induction with
  | h a ih =>
    intro b level h
    rw [same_eq, Bool.and_eq_true] at h
    rw [entries_eq, entries_eq, caption_of_sameRoot h.1,
      sameAll_flatMap (fun c hc d => ih c hc d (level + 1)) h.2]

theorem entries_eq_iff {a b : Tree} (ha : a.Legible) (hb : b.Legible) {level : Nat} :
    a.entries level = b.entries level ↔ a.same b = true := by
  constructor
  · intro h
    have hnil : Shallow (level + 1) [] := by simp [Shallow]
    exact (entries_cancel a ha b level [] [] hb hnil hnil (by rw [h])).1
  · exact entries_of_same a b level

/-! ### The text of an outline -/

/-- The entry of a line: half as many levels as there are spaces, and what follows them. -/
def unline (s : String) : Nat × String :=
  let c := (Cursor.start s.toList).skip (· == ' ')
  (c.offset / 2, String.ofList c.rest)

theorem stops_caption (t : Tree) : Cursor.Stops (· == ' ') t.caption.toList := by
  cases t <;> simp [Cursor.Stops, caption]

theorem unline_line (level : Nat) (t : Tree) :
    unline (line (level, t.caption)) = (level, t.caption) := by
  have hline : (line (level, t.caption)).toList =
      List.replicate (2 * level) ' ' ++ t.caption.toList := by
    simp [line, indent]
  have hspaces : ∀ c ∈ List.replicate (2 * level) ' ', (c == ' ') = true := by
    intro c hc
    rw [List.eq_of_mem_replicate hc]
    rfl
  rw [unline, hline, Cursor.start, Cursor.skip_append_stops 0 _ hspaces t.stops_caption]
  simp

theorem map_unline (level : Nat) (t : Tree) :
    ((t.entries level).map line).map unline = t.entries level := by
  rw [entries, List.map_map, List.map_map]
  refine List.map_congr_left fun u _ => ?_
  exact unline_line u.1 u.2

theorem newline_notMem_caption {t : Tree} (h : t.Clear) : '\n' ∉ t.caption.toList := by
  cases t with
  | number x _ =>
    have hx := Binary64.newline_notMem_chars h
    simpa [caption, Binary64.text] using hx
  | name s _ =>
    have hs : '\n' ∉ s.toList := h
    simpa [caption] using hs
  | binary op _ _ _ => cases op <;> simp [caption, Operator.symbol]
  | unary sign _ _ => cases sign <;> simp [caption, Sign.symbol]
  | assign _ _ _ _ => simp [caption]
  | block _ _ => simp [caption]
  | empty => simp [caption]

theorem newline_notMem_line {t : Tree} (h : t.Legible) {level : Nat} :
    ∀ s ∈ t.outlineLines level, '\n' ∉ s.toList := by
  intro s hs
  rw [outlineLines_entries, entries, List.map_map] at hs
  obtain ⟨u, hu, rfl⟩ := List.mem_map.mp hs
  have hnode : u.2 ∈ t.nodes := by
    rw [← leveled_nodes t level]
    exact List.mem_map_of_mem hu
  have hcaption := newline_notMem_caption (h u.2 hnode)
  simp [entry, line, indent, hcaption]

/-- The lines of an outline are found again in its text. -/
theorem splitAtMark_outline {t : Tree} (h : t.Legible) (level : Nat) :
    splitAtMark '\n' (t.outline level).toList = (t.outlineLines level).map String.toList := by
  rw [outline, String.toList_intercalate]
  refine splitAtMark_intercalate ?_ ?_
  · rw [outlineLines_eq]
    exact List.cons_ne_nil _ _
  · intro part hpart
    obtain ⟨s, hs, rfl⟩ := List.mem_map.mp hpart
    exact newline_notMem_line h s hs

/-- **An outline has one line for every node.** -/
theorem splitAtMark_outline_leveled {t : Tree} (h : t.Legible) (level : Nat) :
    splitAtMark '\n' (t.outline level).toList =
      (t.leveled level).map fun u => (indent u.1 ++ u.2.caption).toList := by
  rw [splitAtMark_outline h, outlineLines_entries, entries, List.map_map, List.map_map]
  rfl

theorem outline_of_same {a b : Tree} (h : a.same b = true) (level : Nat) :
    a.outline level = b.outline level := by
  rw [outline, outline, outlineLines_entries, outlineLines_entries, entries_of_same a b level h]

/-- **Two outlines are the same exactly if the trees are equal.** -/
theorem outline_eq_iff {a b : Tree} (ha : a.Legible) (hb : b.Legible) (level : Nat) :
    a.outline level = b.outline level ↔ a.same b = true := by
  refine ⟨?_, fun h => outline_of_same h level⟩
  intro h
  have hlines : a.outlineLines level = b.outlineLines level := by
    have hparts := splitAtMark_outline ha level
    rw [h, splitAtMark_outline hb level] at hparts
    exact ((List.map_inj_right fun _ _ => String.toList_inj.mp).mp hparts).symm
  have hentries := congrArg (List.map unline) hlines
  rw [outlineLines_entries, outlineLines_entries, map_unline, map_unline] at hentries
  exact (entries_eq_iff ha hb).mp hentries

/-! ### Outlines and equality -/

/-- **An outline is a faithful picture of its tree.** Two outlines are the same exactly if the trees
are found equal, and an outline has one line for every node, in preorder. -/
theorem outline_faithful {a b : Tree} (ha : a.Legible) (hb : b.Legible) (level : Nat)
    {limit limit' limit'' : Nat} {s s' : String} {r : Bool}
    (hs : a.within limit (outline level) = .ok s) (hs' : b.within limit' (outline level) = .ok s')
    (hr : sameWithin limit'' a b = some r) :
    (s = s' ↔ r = true) ∧
    splitAtMark '\n' s.toList =
      (a.leveled level).map (fun u => (indent u.1 ++ u.2.caption).toList) ∧
    (a.leveled level).map Prod.snd = a.nodes := by
  obtain ⟨-, rfl⟩ := within_eq_ok_iff.mp hs
  obtain ⟨-, rfl⟩ := within_eq_ok_iff.mp hs'
  have hsame := same_of_sameWithin hr
  refine ⟨?_, splitAtMark_outline_leveled ha level, leveled_nodes a level⟩
  rw [outline_eq_iff ha hb, hsame]

/-- The two zeros are written the same. A block without statements and a block with the empty one
are not. -/
theorem outline_faithful_zeros :
    (assign "x" 0 2 (number (.zero false) 4)).outline 1 =
      (assign "x" 0 1 (number (.zero true) 2)).outline 1 ∧
    (block 0 []).outline 0 ≠ (block 0 [empty]).outline 0 := by
  constructor
  · have ha : (assign "x" 0 2 (number (.zero false) 4)).Legible := by
      simp [Legible, nodes, Clear, Binary64.zero]
    have hb : (assign "x" 0 1 (number (.zero true) 2)).Legible := by
      simp [Legible, nodes, Clear, Binary64.zero]
    have hr : sameWithin 2 (assign "x" 0 2 (number (.zero false) 4))
        (assign "x" 0 1 (number (.zero true) 2)) = some true := rfl
    exact (outline_faithful ha hb 1 (within_height _ _) (within_height _ _) hr).1.mpr rfl
  · have ha : (block 0 []).Legible := by simp [Legible, nodes, nodesAll, Clear]
    have hb : (block 0 [empty]).Legible := by simp [Legible, nodes, nodesAll, Clear]
    have hr : sameWithin 1 (block 0 []) (block 0 [empty]) = some false := rfl
    intro heq
    have h := (outline_faithful ha hb 0 (within_height _ _) (within_height _ _) hr).1.mp heq
    exact Bool.false_ne_true h

end Tree

end BlockCalc
