import BlockCalc.Proofs.Tree.Likeness
import BlockCalc.Tree.Bounded

/-! # Equality of trees

Two trees are equal if their roots are and the trees below the roots are, place by place
(`same_eq`). `Tree.children` lists the trees below a root, whatever its type, so that a fact about
trees which goes from these to the tree is proved without cases (`children_induction`).

Equality within a limit walks through both trees from left to right. Each of its steps either sees the
answer from the roots or goes on with trees below them (`sameWithin_succ`).

* `sameWithin_ne_none`, `same_of_sameWithin`: a tree within the limit is compared, and an answer is
  right.
* `sameWithin_eq_true_iff`: two trees are found equal exactly if they are and are within the limit. -/

namespace BlockCalc

namespace Tree

/-! ### Children -/

/-- The trees right below the root, from left to right; the target of an assignment is one of them. -/
def children : Tree → List Tree
  | number _ _ => []
  | name _ _ => []
  | binary _ _ l r => [l, r]
  | unary _ _ t => [t]
  | assign x q _ v => [name x q, v]
  | block _ cs => cs
  | empty => []

theorem height_eq (t : Tree) : t.height = heights t.children + 1 := by
  cases t <;> simp [height, heights, children]

theorem height_le_of_mem {u : Tree} : ∀ {ts : List Tree}, u ∈ ts → u.height ≤ heights ts
  | t :: ts, h => by
    rw [heights]
    rcases List.mem_cons.mp h with rfl | h
    · exact Nat.le_max_left _ _
    · exact (height_le_of_mem h).trans (Nat.le_max_right _ _)

/-- A property holds of all trees if it goes from the trees below a root to the tree. -/
theorem children_induction {P : Tree → Prop} (h : ∀ t, (∀ u ∈ t.children, P u) → P t) (t : Tree) :
    P t := by
  induction hn : t.height using Nat.strongRecOn generalizing t with
  | ind n ih =>
    refine h t fun u hu => ih u.height ?_ u rfl
    have hle := height_le_of_mem hu
    have heq := height_eq t
    omega

/-! ### Roots -/

/-- Equality of the roots alone. -/
def sameRoot : Tree → Tree → Bool
  | number x _, number y _ => x.numEq y
  | name s _, name t _ => s == t
  | binary a _ _ _, binary b _ _ _ => a == b
  | unary a _ _, unary b _ _ => a == b
  | assign _ _ _ _, assign _ _ _ _ => true
  | block _ _, block _ _ => true
  | empty, empty => true
  | _, _ => false

/-- Trees whose roots are of one type. -/
inductive Paired : Tree → Tree → Prop
  | number {x y : Binary64} {p q : Int} : Paired (number x p) (number y q)
  | name {s t : String} {p q : Int} : Paired (name s p) (name t q)
  | binary {op op' : Operator} {p q : Int} {l r m s : Tree} :
      Paired (binary op p l r) (binary op' q m s)
  | unary {sign sign' : Sign} {p q : Int} {t u : Tree} : Paired (unary sign p t) (unary sign' q u)
  | assign {x y : String} {o p o' p' : Int} {v w : Tree} : Paired (assign x o p v) (assign y o' p' w)
  | block {p q : Int} {cs ds : List Tree} : Paired (block p cs) (block q ds)
  | empty : Paired empty empty

theorem paired_of_shape {a b : Tree} (h : a.shape = b.shape) : Paired a b := by
  cases a <;> cases b <;> first | constructor | cases h

theorem shape_of_sameRoot {a b : Tree} (h : a.sameRoot b = true) : a.shape = b.shape := by
  cases a <;> cases b <;> first | rfl | cases h

theorem same_eq (a b : Tree) : a.same b = (a.sameRoot b && sameAll a.children b.children) := by
  cases a <;> cases b <;> simp [same, sameRoot, sameAll, children, Bool.and_assoc]

/-! ### Equality within a limit -/

theorem within_eq_ok_iff {α : Type} {limit : Nat} {walk : Tree → α} {t : Tree} {x : α} :
    t.within limit walk = .ok x ↔ t.height ≤ limit ∧ walk t = x := by
  unfold within
  split_ifs with h <;> simp [h]

theorem within_height {α : Type} (walk : Tree → α) (t : Tree) :
    t.within t.height walk = .ok (walk t) :=
  within_eq_ok_iff.mpr ⟨le_rfl, rfl⟩

theorem sameAll_length : ∀ {cs ds : List Tree}, sameAll cs ds = true → cs.length = ds.length
  | [], [], _ => rfl
  | [], _ :: _, h => by cases h
  | _ :: _, [], h => by cases h
  | _ :: cs, _ :: ds, h => by
    rw [sameAll, Bool.and_eq_true] at h
    rw [List.length_cons, List.length_cons, sameAll_length h.2]

theorem sameEach_singleton (eq : Tree → Tree → Option Bool) (t u : Tree) :
    sameEach eq [t] [u] = eq t u := by
  rcases h : eq t u with _ | _ | _ <;> simp [sameEach, h]

theorem sameAll_of_sameEach {eq : Tree → Tree → Option Bool}
    (heq : ∀ t u r, eq t u = some r → t.same u = r) :
    ∀ {cs ds : List Tree} {r : Bool}, sameEach eq cs ds = some r → sameAll cs ds = r
  | [], [], r, h => by
    cases h
    rfl
  | [], _ :: _, r, h => by
    cases h
    rfl
  | _ :: _, [], r, h => by
    cases h
    rfl
  | c :: cs, d :: ds, r, h => by
    rw [sameEach, Option.bind_eq_some_iff] at h
    obtain ⟨b, hb, hr⟩ := h
    rw [sameAll, heq c d b hb]
    rcases b with _ | _
    · cases hr
      rfl
    · exact sameAll_of_sameEach heq hr

theorem sameEach_ne_none {eq : Tree → Tree → Option Bool} : ∀ {cs ds : List Tree},
    (∀ c ∈ cs, ∀ d, eq c d ≠ none) → sameEach eq cs ds ≠ none
  | [], [], _ => nofun
  | [], _ :: _, _ => nofun
  | _ :: _, [], _ => nofun
  | c :: cs, d :: ds, h => by
    obtain ⟨hc, hcs⟩ := List.forall_mem_cons.mp h
    obtain ⟨b, hb⟩ := Option.ne_none_iff_exists'.mp (hc d)
    rw [sameEach, hb, Option.bind_some]
    split_ifs
    · exact sameEach_ne_none hcs
    · nofun

theorem heights_le_of_sameEach {n : Nat} {eq : Tree → Tree → Option Bool}
    (heq : ∀ t u, eq t u = some true → t.height ≤ n) :
    ∀ {cs ds : List Tree}, sameEach eq cs ds = some true → heights cs ≤ n
  | [], _, _ => Nat.zero_le n
  | _ :: _, [], h => by cases h
  | c :: cs, d :: ds, h => by
    rw [sameEach, Option.bind_eq_some_iff] at h
    obtain ⟨b, hb, hrest⟩ := h
    rcases b with _ | _
    · cases hrest
    · exact Nat.max_le.mpr ⟨heq c d hb, heights_le_of_sameEach heq hrest⟩

theorem sameWithin_of_shape_ne {a b : Tree} (n : Nat) (h : a.shape ≠ b.shape) :
    sameWithin (n + 1) a b = some (a.same b) ∧ a.same b = false := by
  cases a <;> cases b <;> first | exact ⟨rfl, rfl⟩ | exact absurd rfl h

/-- Equality within a limit is seen from the roots, or it goes on with the trees below them. -/
theorem sameWithin_succ (n : Nat) (a b : Tree) :
    (sameWithin (n + 1) a b = some (a.same b) ∧ (a.same b = true → a.height = 1)) ∨
    ∃ cs ds, sameWithin (n + 1) a b = sameEach (sameWithin n) cs ds ∧ a.same b = sameAll cs ds ∧
      a.height = heights cs + 1 := by
  by_cases hshape : a.shape = b.shape
  · cases paired_of_shape hshape with
    | number => exact .inl ⟨rfl, fun _ => rfl⟩
    | name => exact .inl ⟨rfl, fun _ => rfl⟩
    | @binary op op' _ _ l r m s =>
      by_cases hop : op = op'
      · refine .inr ⟨[l, r], [m, s], ?_, by simp [same, sameAll, hop], by simp [height, heights]⟩
        rw [sameWithin, if_pos hop]
      · exact .inl (by simp [sameWithin, same, hop])
    | @unary sign sign' _ _ t u =>
      by_cases hsign : sign = sign'
      · refine .inr ⟨[t], [u], ?_, by simp [same, sameAll, hsign], by simp [height, heights]⟩
        rw [sameWithin, if_pos hsign, sameEach_singleton]
      · exact .inl (by simp [sameWithin, same, hsign])
    | @assign x y _ _ _ _ v w =>
      by_cases hname : x = y
      · -- The target counts for the height of the tree, but the value is at least as high.
        have hv := height_eq v
        refine .inr ⟨[v], [w], ?_, by simp [same, sameAll, hname], ?_⟩
        · rw [sameWithin, if_pos hname, sameEach_singleton]
        · simp only [height, heights]
          omega
      · exact .inl (by simp [sameWithin, same, hname])
    | @block _ _ cs ds =>
      by_cases hlength : cs.length = ds.length
      · refine .inr ⟨cs, ds, ?_, by simp [same], by simp [height]⟩
        rw [sameWithin, if_pos hlength]
      · have hall : sameAll cs ds = false := by
          rw [← Bool.not_eq_true]
          exact fun hall => hlength (sameAll_length hall)
        exact .inl (by simp [sameWithin, same, hlength, hall])
    | empty => exact .inl ⟨rfl, fun _ => rfl⟩
  · obtain ⟨hroot, hfalse⟩ := sameWithin_of_shape_ne n hshape
    exact .inl ⟨hroot, fun h => by rw [hfalse] at h; cases h⟩

/-- Where equality within a limit answers, the answer is right. -/
theorem same_of_sameWithin {n : Nat} : ∀ {a b : Tree} {r : Bool}, sameWithin n a b = some r →
    a.same b = r := by
  induction n with
  | zero => nofun
  | succ n ih =>
    intro a b r h
    obtain ⟨hroot, -⟩ | ⟨cs, ds, heach, hsame, -⟩ := sameWithin_succ n a b
    · rw [hroot] at h
      exact Option.some.inj h
    · rw [heach] at h
      rw [hsame]
      exact sameAll_of_sameEach (fun _ _ _ => ih) h

theorem sameWithin_ne_none {n : Nat} : ∀ {a b : Tree}, a.height ≤ n → sameWithin n a b ≠ none := by
  induction n with
  | zero =>
    intro a b h
    have := height_eq a
    omega
  | succ n ih =>
    intro a b h
    obtain ⟨hroot, -⟩ | ⟨cs, ds, heach, -, hheight⟩ := sameWithin_succ n a b
    · rw [hroot]
      nofun
    · rw [heach]
      refine sameEach_ne_none fun c hc d => ih ?_
      have hle := height_le_of_mem hc
      omega

theorem height_le_of_sameWithin {n : Nat} : ∀ {a b : Tree}, sameWithin n a b = some true →
    a.height ≤ n := by
  induction n with
  | zero => nofun
  | succ n ih =>
    intro a b h
    obtain ⟨hroot, hone⟩ | ⟨cs, ds, heach, -, hheight⟩ := sameWithin_succ n a b
    · have hheight := hone (same_of_sameWithin h)
      omega
    · rw [heach] at h
      have hle := heights_le_of_sameEach (fun _ _ => ih) h
      omega

/-- **Two trees are found equal exactly if they are and are within the limit.** -/
theorem sameWithin_eq_true_iff {n : Nat} {a b : Tree} :
    sameWithin n a b = some true ↔ a.same b = true ∧ a.height ≤ n := by
  constructor
  · exact fun h => ⟨same_of_sameWithin h, height_le_of_sameWithin h⟩
  · rintro ⟨hsame, hheight⟩
    obtain ⟨r, hr⟩ := Option.ne_none_iff_exists'.mp (sameWithin_ne_none (b := b) hheight)
    rw [hr, ← same_of_sameWithin hr, hsame]

end Tree

end BlockCalc
