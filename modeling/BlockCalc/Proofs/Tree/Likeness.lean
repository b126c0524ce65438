import BlockCalc.Proofs.Token.Spelling
import BlockCalc.Tree

/-! # Trees up to offsets

`Tree.unplaced` forgets the offsets of a tree. Rendering does not see them (`render_unplaced`), and
for trees whose numbers come from numerals, equality of trees is equality up to offsets
(`same_iff_unplaced`): such numbers have no sign and are not NaN, so numeric equality is identity.

`Tree.nameInfinite` replaces every infinite number by the name `inf`. The text of the tree stays the
same (`render_nameInfinite`), the tree does so only if there was nothing to replace
(`unplaced_nameInfinite_iff`). -/

namespace BlockCalc

namespace Tree

mutual

/-- The tree without its offsets. -/
def unplaced : Tree → Tree
  | number x _ => number x 0
  | name s _ => name s 0
  | binary op _ l r => binary op 0 l.unplaced r.unplaced
  | unary s _ t => unary s 0 t.unplaced
  | assign x _ _ v => assign x 0 0 v.unplaced
  | block _ cs => block 0 (unplacedAll cs)
  | empty => empty

/-- Trees that stand side by side, without their offsets. -/
def unplacedAll : List Tree → List Tree
  | [] => []
  | t :: ts => t.unplaced :: unplacedAll ts

end

mutual

/-- The numbers of a tree, from left to right. -/
def numbers : Tree → List Binary64
  | number x _ => [x]
  | name _ _ => []
  | binary _ _ l r => l.numbers ++ r.numbers
  | unary _ _ t => t.numbers
  | assign _ _ _ v => v.numbers
  | block _ cs => numbersAll cs
  | empty => []

/-- The numbers of trees that stand side by side. -/
def numbersAll : List Tree → List Binary64
  | [] => []
  | t :: ts => t.numbers ++ numbersAll ts

end

mutual

/-- The tree with the name `inf` in the place of every infinite number. -/
def nameInfinite : Tree → Tree
  | number x p => if x.isInfinite then name "inf" p else number x p
  | name s p => name s p
  | binary op p l r => binary op p l.nameInfinite r.nameInfinite
  | unary s p t => unary s p t.nameInfinite
  | assign x q p v => assign x q p v.nameInfinite
  | block p cs => block p (nameInfiniteAll cs)
  | empty => empty

/-- Trees that stand side by side, with the name `inf` in the place of every infinite number. -/
def nameInfiniteAll : List Tree → List Tree
  | [] => []
  | t :: ts => t.nameInfinite :: nameInfiniteAll ts

end

/-! ### Rendering -/

/-- Statements after the first, each after a semicolon. -/
def renderRest (ts : List Tree) : List Char := ts.flatMap fun t => ';' :: ' ' :: t.render

theorem renderAll_cons : ∀ (t : Tree) (ts : List Tree),
    renderAll (t :: ts) = t.render ++ renderRest ts
  | t, [] => by rw [renderAll, renderRest, List.flatMap_nil, List.append_nil]
  | t, u :: ts => by
    rw [renderAll, renderAll_cons u ts, renderRest, renderRest, List.flatMap_cons]
    rfl

mutual

theorem render_unplaced : ∀ t : Tree, t.unplaced.render = t.render
  | number _ _ => rfl
  | name _ _ => rfl
  | binary _ _ l r => by
    rw [unplaced, render, render, render_unplaced l, render_unplaced r]
  | unary _ _ t => by rw [unplaced, render, render, render_unplaced t]
  | assign _ _ _ v => by rw [unplaced, render, render, render_unplaced v]
  | block _ cs => by rw [unplaced, render, render, renderAll_unplaced cs]
  | empty => rfl

theorem renderAll_unplaced : ∀ ts : List Tree, renderAll (unplacedAll ts) = renderAll ts
  | [] => rfl
  | t :: ts => by
    rw [unplacedAll, renderAll_cons, renderAll_cons, render_unplaced t, renderRest_unplaced ts]

theorem renderRest_unplaced : ∀ ts : List Tree, renderRest (unplacedAll ts) = renderRest ts
  | [] => rfl
  | t :: ts => by
    have ih := renderRest_unplaced ts
    rw [renderRest] at ih ⊢
    rw [unplacedAll, List.flatMap_cons, render_unplaced t, ih]
    rfl

end

/-- All numbers of the tree come from numerals. -/
def Literal (ns : List Binary64) : Prop := ∀ x ∈ ns, x.isLiteral = true

theorem chars_of_isInfinite {x : Binary64} (hl : x.isLiteral = true) (hi : x.isInfinite = true) :
    x.chars = "inf".toList := by
  rcases x with _ | (_ | _) | _
  · cases hi
  · rfl
  · cases hl
  · cases hi

mutual

/-- The text of a tree does not say whether `inf` is a number or a name. -/
theorem render_nameInfinite : ∀ t : Tree, Literal t.numbers → t.nameInfinite.render = t.render
  | number x _, h => by
    rw [nameInfinite]
    split
    · next hi => exact (chars_of_isInfinite (h x List.mem_cons_self) hi).symm
    · rfl
  | name _ _, _ => rfl
  | binary _ _ l r, h => by
    obtain ⟨hl, hr⟩ := List.forall_mem_append.mp h
    rw [nameInfinite, render, render, render_nameInfinite l hl, render_nameInfinite r hr]
  | unary _ _ t, h => by rw [nameInfinite, render, render, render_nameInfinite t h]
  | assign _ _ _ v, h => by rw [nameInfinite, render, render, render_nameInfinite v h]
  | block _ cs, h => by rw [nameInfinite, render, render, renderAll_nameInfinite cs h]
  | empty, _ => rfl

theorem renderAll_nameInfinite : ∀ ts : List Tree, Literal (numbersAll ts) →
    renderAll (nameInfiniteAll ts) = renderAll ts
  | [], _ => rfl
  | t :: ts, h => by
    obtain ⟨ht, hts⟩ := List.forall_mem_append.mp h
    rw [nameInfiniteAll, renderAll_cons, renderAll_cons, render_nameInfinite t ht,
      renderRest_nameInfinite ts hts]

theorem renderRest_nameInfinite : ∀ ts : List Tree, Literal (numbersAll ts) →
    renderRest (nameInfiniteAll ts) = renderRest ts
  | [], _ => rfl
  | t :: ts, h => by
    obtain ⟨ht, hts⟩ := List.forall_mem_append.mp h
    have ih := renderRest_nameInfinite ts hts
    rw [renderRest] at ih ⊢
    rw [nameInfiniteAll, List.flatMap_cons, render_nameInfinite t ht, ih]
    rfl

end

/-! ### Equality -/

theorem numEq_iff {x y : Binary64} (hx : x.isLiteral = true) (hy : y.isLiteral = true) :
    x.numEq y = true ↔ x = y := by
  rcases x with _ | (_ | _) | ⟨_ | _, a⟩ <;> rcases y with _ | (_ | _) | ⟨_ | _, b⟩ <;>
    simp_all [Binary64.numEq, Binary64.isLiteral]

mutual

/-- **Equality of trees is equality up to offsets**, for numbers that come from numerals. -/
theorem same_iff_unplaced : ∀ u t : Tree, Literal u.numbers → Literal t.numbers →
    (u.same t = true ↔ u.unplaced = t.unplaced)
  | number x _, t, hu, ht => by
    cases t with
    | number y _ =>
      have h := numEq_iff (hu x List.mem_cons_self) (ht y List.mem_cons_self)
      simp [same, unplaced, h]
    | _ => simp [same, unplaced]
  | name s _, t, _, _ => by cases t <;> simp [same, unplaced]
  | binary a _ l r, t, hu, ht => by
    cases t with
    | binary b _ m s =>
      obtain ⟨hul, hur⟩ := List.forall_mem_append.mp hu
      obtain ⟨htl, htr⟩ := List.forall_mem_append.mp ht
      have hl := same_iff_unplaced l m hul htl
      have hr := same_iff_unplaced r s hur htr
      simp [same, unplaced, hl, hr, and_assoc]
    | _ => simp [same, unplaced]
  | unary a _ u, t, hu, ht => by
    cases t with
    | unary b _ v =>
      have h := same_iff_unplaced u v hu ht
      simp [same, unplaced, h]
    | _ => simp [same, unplaced]
  | assign x _ _ v, t, hu, ht => by
    cases t with
    | assign y _ _ w =>
      have h := same_iff_unplaced v w hu ht
      simp [same, unplaced, h]
    | _ => simp [same, unplaced]
  | block _ cs, t, hu, ht => by
    cases t with
    | block _ ds =>
      have h := sameAll_iff_unplaced cs ds hu ht
      simp [same, unplaced, h]
    | _ => simp [same, unplaced]
  | empty, t, _, _ => by cases t <;> simp [same, unplaced]

theorem sameAll_iff_unplaced : ∀ us ts : List Tree, Literal (numbersAll us) →
    Literal (numbersAll ts) → (sameAll us ts = true ↔ unplacedAll us = unplacedAll ts)
  | [], [], _, _ => by simp [sameAll]
  | [], _ :: _, _, _ => by simp [sameAll, unplacedAll]
  | _ :: _, [], _, _ => by simp [sameAll, unplacedAll]
  | u :: us, t :: ts, hu, ht => by
    obtain ⟨hu, hus⟩ := List.forall_mem_append.mp hu
    obtain ⟨ht, hts⟩ := List.forall_mem_append.mp ht
    have h := same_iff_unplaced u t hu ht
    have hs := sameAll_iff_unplaced us ts hus hts
    simp [sameAll, unplacedAll, h, hs]

end

mutual

theorem numbers_unplaced : ∀ t : Tree, t.unplaced.numbers = t.numbers
  | number _ _ => rfl
  | name _ _ => rfl
  | binary _ _ l r => by
    rw [unplaced, numbers, numbers, numbers_unplaced l, numbers_unplaced r]
  | unary _ _ t => by rw [unplaced, numbers, numbers, numbers_unplaced t]
  | assign _ _ _ v => by rw [unplaced, numbers, numbers, numbers_unplaced v]
  | block _ cs => by rw [unplaced, numbers, numbers, numbersAll_unplaced cs]
  | empty => rfl

theorem numbersAll_unplaced : ∀ ts : List Tree, numbersAll (unplacedAll ts) = numbersAll ts
  | [] => rfl
  | t :: ts => by
    rw [unplacedAll, numbersAll, numbersAll, numbers_unplaced t, numbersAll_unplaced ts]

end

mutual

theorem numbers_nameInfinite : ∀ t : Tree,
    t.nameInfinite.numbers = t.numbers.filter fun x => !x.isInfinite
  | number x _ => by
    rcases hx : x.isInfinite with _ | _ <;> simp [nameInfinite, numbers, hx]
  | name _ _ => rfl
  | binary _ _ l r => by
    rw [nameInfinite, numbers, numbers, numbers_nameInfinite l, numbers_nameInfinite r,
      List.filter_append]
  | unary _ _ t => by rw [nameInfinite, numbers, numbers, numbers_nameInfinite t]
  | assign _ _ _ v => by rw [nameInfinite, numbers, numbers, numbers_nameInfinite v]
  | block _ cs => by rw [nameInfinite, numbers, numbers, numbersAll_nameInfinite cs]
  | empty => rfl

theorem numbersAll_nameInfinite : ∀ ts : List Tree,
    numbersAll (nameInfiniteAll ts) = (numbersAll ts).filter fun x => !x.isInfinite
  | [] => rfl
  | t :: ts => by
    rw [nameInfiniteAll, numbersAll, numbersAll, numbers_nameInfinite t,
      numbersAll_nameInfinite ts, List.filter_append]

end

mutual

theorem nameInfinite_eq : ∀ t : Tree, (∀ x ∈ t.numbers, x.isInfinite = false) → t.nameInfinite = t
  | number x _, h => by rw [nameInfinite, h x List.mem_cons_self, if_neg Bool.false_ne_true]
  | name _ _, _ => rfl
  | binary _ _ l r, h => by
    obtain ⟨hl, hr⟩ := List.forall_mem_append.mp h
    rw [nameInfinite, nameInfinite_eq l hl, nameInfinite_eq r hr]
  | unary _ _ t, h => by rw [nameInfinite, nameInfinite_eq t h]
  | assign _ _ _ v, h => by rw [nameInfinite, nameInfinite_eq v h]
  | block _ cs, h => by rw [nameInfinite, nameInfiniteAll_eq cs h]
  | empty, _ => rfl

theorem nameInfiniteAll_eq : ∀ ts : List Tree, (∀ x ∈ numbersAll ts, x.isInfinite = false) →
    nameInfiniteAll ts = ts
  | [], _ => rfl
  | t :: ts, h => by
    obtain ⟨ht, hts⟩ := List.forall_mem_append.mp h
    rw [nameInfiniteAll, nameInfinite_eq t ht, nameInfiniteAll_eq ts hts]

end

/-- Nothing changes only if no number is infinite. -/
theorem unplaced_nameInfinite_iff (t : Tree) :
    t.nameInfinite.unplaced = t.unplaced ↔ ∀ x ∈ t.numbers, x.isInfinite = false := by
  constructor
  · intro h
    have hn := congrArg numbers h
    rw [numbers_unplaced, numbers_unplaced, numbers_nameInfinite, List.filter_eq_self] at hn
    exact fun x hx => by simpa using hn x hx
  · intro h
    rw [nameInfinite_eq t h]

end Tree

end BlockCalc
