import BlockCalc.Proofs.Layout
import BlockCalc.Proofs.RoundTrip
import BlockCalc.Proofs.Tree.Outline

/-! # Equality of parsed trees

Numbers are compared as numbers, and so trees that are equal need not be the same: the two zeros are
equal and differ as divisors, and NaN is not equal to itself. No numeral has a sign or spells NaN,
though, so on parsed trees equality is equality up to offsets, and whatever does not see offsets is
the same for equal trees (`Synonymous`).

* `outlineLines_unplaced`, `height_unplaced`: outlines and heights do not see offsets.
* `parsed_same_iff_identical`: equality of parsed trees. -/

namespace BlockCalc

namespace Tree

/-! ### Trees without their offsets -/

theorem unplacedAll_eq (ts : List Tree) : unplacedAll ts = ts.map unplaced := by
  induction ts with
  | nil => rfl
  | cons t ts ih => rw [unplacedAll, ih, List.map_cons]

theorem children_unplaced (t : Tree) : t.unplaced.children = t.children.map unplaced := by
  cases t <;> simp [unplaced, children, unplacedAll_eq]

theorem caption_unplaced (t : Tree) : t.unplaced.caption = t.caption := by
  cases t <;> rfl

theorem outlineLines_unplaced (t : Tree) : ∀ level : Int,
    t.unplaced.outlineLines level = t.outlineLines level := by
  induction t using children_induction with
  | h t ih =>
    intro level
    rw [outlineLines_eq, outlineLines_eq level t, children_unplaced, caption_unplaced,
      List.flatMap_map]
    exact congrArg _ (List.flatMap_congr fun u hu => ih u hu (level + 1))

theorem heights_map {f : Tree → Tree} : ∀ {ts : List Tree}, (∀ t ∈ ts, (f t).height = t.height) →
    heights (ts.map f) = heights ts
  | [], _ => rfl
  | t :: ts, h => by
    obtain ⟨ht, hts⟩ := List.forall_mem_cons.mp h
    rw [List.map_cons, heights, heights, ht, heights_map hts]

theorem height_unplaced (t : Tree) : t.unplaced.height = t.height := by
  induction t using children_induction with
  | h t ih => rw [height_eq, height_eq t, children_unplaced, heights_map ih]

/-! ### Nothing but offsets -/

/-- Within any limit, two trees are written the same, have the same values, and do the same. -/
structure Synonymous (a b : Tree) : Prop where
  render : ∀ limit, a.within limit render = b.within limit render
  outline : ∀ limit level, a.within limit (outline level) = b.within limit (outline level)
  evaluate : ∀ limit env, evaluate limit a env = evaluate limit b env
  execute : ∀ limit p, execute limit a p = execute limit b p

/-- A walk that does not see offsets, within a limit. -/
theorem within_congr {α : Type} {a b : Tree} {walk : Tree → α} (h : a.unplaced = b.unplaced)
    (hwalk : ∀ t : Tree, walk t.unplaced = walk t) (limit : Nat) :
    a.within limit walk = b.within limit walk := by
  have hheight : a.height = b.height := by rw [← height_unplaced a, h, height_unplaced b]
  have hresult : walk a = walk b := by rw [← hwalk a, h, hwalk b]
  rw [within, within, hheight, hresult]

theorem synonymous_of_unplaced {a b : Tree} (h : a.unplaced = b.unplaced) : a.Synonymous b where
  render := within_congr h render_unplaced
  outline limit level := by
    refine within_congr h (fun t => ?_) limit
    rw [Tree.outline, Tree.outline, outlineLines_unplaced]
  evaluate limit env := by
    rw [BlockCalc.evaluate, BlockCalc.evaluate, ← value_unplaced, h, value_unplaced]
  execute limit p := by rw [← execute_unplaced, h, execute_unplaced]

/-! ### Parsed trees -/

/-- The tree of a program or of an expression. -/
def Parsed (t : Tree) : Prop :=
  ∃ limit source, (∃ file, parseProgram limit source file = .ok t) ∨
    parseExpression limit source = .ok t

theorem Parsed.literal {t : Tree} (h : t.Parsed) : Literal t.numbers := by
  obtain ⟨limit, source, ⟨file, h⟩ | h⟩ := h
  · exact literal_of_spelled t (placed_of_parseProgram h).2.spelled
  · exact literal_of_spelled t (placed_of_parseExpression h).2.spelled

theorem Parsed.same_iff {a b : Tree} (ha : a.Parsed) (hb : b.Parsed) :
    a.same b = true ↔ a.unplaced = b.unplaced :=
  same_iff_unplaced a b ha.literal hb.literal

theorem equivalence_same : Equivalence fun a b : {t : Tree // t.Parsed} => a.1.same b.1 = true where
  refl a := (a.2.same_iff a.2).mpr rfl
  symm {a b} h := (b.2.same_iff a.2).mpr ((a.2.same_iff b.2).mp h).symm
  trans {a b c} h h' :=
    (a.2.same_iff c.2).mpr (((a.2.same_iff b.2).mp h).trans ((b.2.same_iff c.2).mp h'))

/-- A number divided by a zero of either sign. -/
def quotient (negative : Bool) : Tree :=
  binary .div 0 (number (.finite false ⟨1, by decide⟩) 0) (number (.zero negative) 0)

theorem evaluate_quotient (negative : Bool) (env : Environment) :
    evaluate 2 (quotient negative) env = .ok (.infinity negative) := by
  rcases negative with _ | _ <;> rfl

/-- **Equality of parsed trees is identity up to offsets**, and so it is an equivalence, and equal
trees mean the same. Of trees at large neither is true: a zero divisor tells the two zeros apart, and
NaN is not equal to itself. -/
theorem parsed_same_iff_identical :
    (∀ a b : Tree, a.Parsed → b.Parsed → (a.same b = true ↔ a.unplaced = b.unplaced) ∧ ∀ limit,
      (sameWithin limit a b = some true ↔ a.unplaced = b.unplaced ∧ a.height ≤ limit) ∧
      (sameWithin limit a b = some false → a.unplaced ≠ b.unplaced) ∧
      (a.height ≤ limit → sameWithin limit a b ≠ none)) ∧
    (Equivalence fun a b : {t : Tree // t.Parsed} => a.1.same b.1 = true) ∧
    (∀ a b : Tree, a.Parsed → b.Parsed → a.same b = true → a.Synonymous b) ∧
    (∃ a b : Tree, a.same b = true ∧ ∃ limit env, evaluate limit a env ≠ evaluate limit b env) ∧
    ∃ a : Tree, a.same a = false := by
  refine ⟨?_, equivalence_same, ?_, ?_, number .nan 0, rfl⟩
  · intro a b ha hb
    refine ⟨ha.same_iff hb, fun limit => ⟨?_, ?_, sameWithin_ne_none⟩⟩
    · rw [sameWithin_eq_true_iff, ha.same_iff hb]
    · intro h heq
      have hsame := (ha.same_iff hb).mpr heq
      rw [same_of_sameWithin h] at hsame
      cases hsame
  · intro a b ha hb h
    exact synonymous_of_unplaced ((ha.same_iff hb).mp h)
  · refine ⟨quotient false, quotient true, rfl, 2, .empty, ?_⟩
    rw [evaluate_quotient, evaluate_quotient]
    nofun

/-- The same program with other blanks and another numeral for one half. -/
theorem parsed_same_iff_identical_blanks :
    ∃ a b, parseProgram 9 "\x7b x = 1 / 0.5 \x7d".toList none = .ok a ∧
      parseProgram 9 "\x7bx=1/.50\x7d".toList none = .ok b ∧ a.unplaced = b.unplaced ∧
      a.Synonymous b := by
  obtain ⟨a, ha, hany⟩ := exists_ok_of_any
    (r := parseProgram 9 "\x7b x = 1 / 0.5 \x7d".toList none)
    (P := fun a => (parseProgram 9 "\x7bx=1/.50\x7d".toList none).toOption.any fun b => a.same b)
    (by decide +kernel)
  obtain ⟨b, hb, hsame⟩ := exists_ok_of_any hany
  have hpa : a.Parsed := ⟨9, _, .inl ⟨none, ha⟩⟩
  have hpb : b.Parsed := ⟨9, _, .inl ⟨none, hb⟩⟩
  obtain ⟨hidentical, -, hsynonymous, -⟩ := parsed_same_iff_identical
  exact ⟨a, b, ha, hb, (hidentical a b hpa hpb).1.mp hsame, hsynonymous a b hpa hpb hsame⟩

end Tree

end BlockCalc
