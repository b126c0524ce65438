/-! # Splitting at a mark

The parts of a text between the occurrences of a character: the names of a path, the lines of a
text, the items of a list. There is always one part more than marks. -/

namespace BlockCalc

/-- The parts of a text between the occurrences of a mark. -/
def splitAtMark (mark : Char) : List Char → List (List Char)
  | [] => [[]]
  | c :: r =>
    match splitAtMark mark r with
    | [] => [[c]]
    | p :: ps => if c = mark then [] :: p :: ps else (c :: p) :: ps

theorem splitAtMark_ne_nil (mark : Char) (cs : List Char) : splitAtMark mark cs ≠ [] := by
  cases cs with
  | nil => simp [splitAtMark]
  | cons c r =>
    unfold splitAtMark
    split
    · simp
    · split <;> simp

theorem length_splitAtMark (mark : Char) (cs : List Char) :
    (splitAtMark mark cs).length = cs.count mark + 1 := by
  induction cs with
  | nil => rfl
  | cons c r ih =>
    unfold splitAtMark
    split
    · rename_i h
      exact absurd h (splitAtMark_ne_nil mark r)
    · rename_i p ps h
      rw [h] at ih
      by_cases hc : c = mark
      · simp_all
      · simp_all

section

variable {mark : Char}

theorem splitAtMark_of_notMem : ∀ {cs : List Char}, mark ∉ cs → splitAtMark mark cs = [cs]
  | [], _ => rfl
  | c :: cs, h => by
    rw [List.mem_cons, not_or] at h
    rw [splitAtMark, splitAtMark_of_notMem h.2]
    exact if_neg (Ne.symm h.1)

theorem splitAtMark_append : ∀ {cs : List Char} (rest : List Char), mark ∉ cs →
    splitAtMark mark (cs ++ mark :: rest) = cs :: splitAtMark mark rest
  | [], rest, _ => by
    obtain ⟨part, parts, hparts⟩ := List.exists_cons_of_ne_nil (splitAtMark_ne_nil mark rest)
    rw [List.nil_append, splitAtMark, hparts]
    exact if_pos rfl
  | c :: cs, rest, h => by
    rw [List.mem_cons, not_or] at h
    rw [List.cons_append, splitAtMark, splitAtMark_append rest h.2]
    exact if_neg (Ne.symm h.1)

/-- Parts that are put together with marks between them are found again. -/
theorem splitAtMark_intercalate : ∀ {parts : List (List Char)}, parts ≠ [] →
    (∀ part ∈ parts, mark ∉ part) → splitAtMark mark ([mark].intercalate parts) = parts
  | [], hne, _ => absurd rfl hne
  | [part], _, h => by
    rw [List.intercalate_singleton]
    exact splitAtMark_of_notMem (h part List.mem_cons_self)
  | part :: next :: parts, _, h => by
    obtain ⟨hpart, hparts⟩ := List.forall_mem_cons.mp h
    rw [List.intercalate_cons_cons, List.append_assoc, List.singleton_append,
      splitAtMark_append _ hpart, splitAtMark_intercalate (List.cons_ne_nil _ _) hparts]

/-- Parts that end with a mark each are found again before what comes behind them. -/
theorem splitAtMark_flatMap : ∀ {parts : List (List Char)} (rest : List Char),
    (∀ part ∈ parts, mark ∉ part) →
    splitAtMark mark (parts.flatMap (· ++ [mark]) ++ rest) = parts ++ splitAtMark mark rest
  | [], _, _ => rfl
  | part :: parts, rest, h => by
    obtain ⟨hpart, hparts⟩ := List.forall_mem_cons.mp h
    have ih := splitAtMark_flatMap rest hparts
    rw [List.flatMap_cons, List.append_assoc, List.append_assoc, List.singleton_append,
      splitAtMark_append _ hpart, ih, List.cons_append]

end

end BlockCalc
