import BlockCalc.Location
import BlockCalc.Text.Split
import Mathlib.Algebra.GroupWithZero.Nat
import Mathlib.Data.Int.ConditionallyCompleteOrder
import Mathlib.Data.List.Induction
import Mathlib.Order.ConditionallyCompleteLattice.Basic

/-! # Exact locations

The lines of a text are its parts between newlines. Before an offset there are some whole lines,
each with its newline, and then the beginning of the line on which the offset lies
(`Location.exists_above`); what comes behind the offset goes on with this line up to its end. So a
location tells its offset: `Lies source p i j line` says that the offset `p` is the place `j` of the
line `i`, both counted from zero, by the lengths of the lines before.

A rendered location ends with two lines, the line of the source behind a gutter and a caret below it
(`ShowsCaret`). The gutter is as wide as the number of the line makes it, and the blanks before the
caret make up for it whatever its width is.

* `ofOffset_append`: what comes behind an offset does not move it.
* `location_exact`: a location is that of its offset and of no other, and the caret is below it. -/

namespace BlockCalc

theorem mem_toString_int {n : Int} {c : Char} (h : c ∈ (toString n).toList) :
    c = '-' ∨ c.isDigit = true := by
  have hdigits : ∀ m : Nat, c ∈ m.repr.toList → c.isDigit = true := by
    intro m hm
    rw [Nat.repr_eq_ofList_toDigits, String.toList_ofList] at hm
    exact Nat.isDigit_of_mem_toDigits (by decide) (by decide) hm
  rw [Int.toString_eq_repr, Int.repr_eq_if] at h
  split at h
  · exact .inr (hdigits _ h)
  · rw [String.toList_append, List.mem_append] at h
    rcases h with h | h
    · exact .inl (List.mem_singleton.mp h)
    · exact .inr (hdigits _ h)

namespace Location

/-! ### Lines around an offset -/

theorem newline_notMem_lineAfter (after : List Char) : '\n' ∉ lineAfter after := by
  intro h
  have hall := List.all_eq_true.mp (List.all_takeWhile (p := (· != '\n')) (l := after)) _ h
  simp at hall

theorem lineBefore_concat (before : List Char) (x : Char) :
    lineBefore (before ++ [x]) = if x = '\n' then [] else lineBefore before ++ [x] := by
  unfold lineBefore
  rw [List.reverse_concat, List.takeWhile_cons]
  by_cases hx : x = '\n'
  · simp [hx]
  · simp [hx]

/-- **Before an offset** there are whole lines and the beginning of one more. -/
theorem exists_above (before : List Char) : ∃ above : List (List Char),
    before = above.flatMap (· ++ ['\n']) ++ lineBefore before ∧
      ∀ line ∈ above ++ [lineBefore before], '\n' ∉ line := by
  -- By induction from the end: a newline completes the line in progress, anything else goes on with
  -- it.
  induction before using List.reverseRecOn with
  | nil => exact ⟨[], rfl, by simp [lineBefore]⟩
  | append_singleton before x ih =>
    obtain ⟨above, hbefore, hlines⟩ := ih
    rw [lineBefore_concat]
    by_cases hx : x = '\n'
    · refine ⟨above ++ [lineBefore before], ?_, ?_⟩
      · rw [if_pos hx, hx, List.append_nil, List.flatMap_append, List.flatMap_singleton,
          ← List.append_assoc, ← hbefore]
      · rw [if_pos hx]
        intro line hline
        rcases List.mem_append.mp hline with hline | hline
        · exact hlines line hline
        · simp [List.mem_singleton.mp hline]
    · refine ⟨above, ?_, ?_⟩
      · rw [if_neg hx, ← List.append_assoc, ← hbefore]
      · rw [if_neg hx]
        intro line hline
        rcases List.mem_append.mp hline with hline | hline
        · exact hlines line (List.mem_append_left _ hline)
        · have hleft := hlines (lineBefore before) (by simp)
          rw [List.mem_singleton.mp hline, List.mem_append, not_or, List.mem_singleton]
          exact ⟨hleft, fun h => hx h.symm⟩

theorem newline_notMem_of_mem {source line : List Char} (h : line ∈ splitAtMark '\n' source) :
    '\n' ∉ line := by
  obtain ⟨above, hsource, hlines⟩ := exists_above source
  have habove : ∀ line ∈ above, '\n' ∉ line := fun line h => hlines line (List.mem_append_left _ h)
  have hleft : '\n' ∉ lineBefore source := hlines _ (by simp)
  rw [hsource, splitAtMark_flatMap _ habove, splitAtMark_of_notMem hleft] at h
  exact hlines line h

theorem exists_below {left : List Char} (h : '\n' ∉ left) (after : List Char) :
    ∃ below, splitAtMark '\n' (left ++ after) = (left ++ lineAfter after) :: below := by
  have hline : '\n' ∉ left ++ lineAfter after := by
    rw [List.mem_append, not_or]
    exact ⟨h, newline_notMem_lineAfter after⟩
  have hafter : lineAfter after ++ after.dropWhile (· != '\n') = after :=
    List.takeWhile_append_dropWhile
  rcases hrest : after.dropWhile (· != '\n') with _ | ⟨x, rest⟩
  · rw [hrest, List.append_nil] at hafter
    rw [hafter] at hline ⊢
    exact ⟨[], splitAtMark_of_notMem hline⟩
  · have hx : x = '\n' := by
      have := List.head?_dropWhile_not (· != '\n') after
      rw [hrest] at this
      simpa using this
    rw [hrest, hx] at hafter
    refine ⟨splitAtMark '\n' rest, ?_⟩
    have hsplit := splitAtMark_append rest hline
    rwa [List.append_assoc, hafter] at hsplit

/-! ### The line and the place of an offset -/

/-- The offset `p` is the place `j` of the line `i`, both counted from zero. If a character of the
line stands there, it is that of the source. -/
structure Lies (source : List Char) (p i j : Nat) (line : List Char) : Prop where
  line_eq : (splitAtMark '\n' source)[i]? = some line
  place_le : j ≤ line.length
  offset_eq : p = (((splitAtMark '\n' source).take i).map fun l => l.length + 1).sum + j
  char_eq : ∀ x, (line)[j]? = some x → source[p]? = some x

theorem lies_of_append (before after : List Char) :
    Lies (before ++ after) before.length (before.count '\n') (lineBefore before).length
      (lineBefore before ++ lineAfter after) := by
  obtain ⟨above, hbefore, hlines⟩ := exists_above before
  have habove : ∀ line ∈ above, '\n' ∉ line := fun line h => hlines line (List.mem_append_left _ h)
  have hleft : '\n' ∉ lineBefore before := hlines _ (by simp)
  obtain ⟨below, hbelow⟩ := exists_below hleft after
  generalize hl : lineBefore before = left at hbefore hleft hbelow ⊢
  have hsource : splitAtMark '\n' (before ++ after) =
      above ++ (left ++ lineAfter after) :: below := by
    rw [hbefore, List.append_assoc, splitAtMark_flatMap _ habove, hbelow]
  have hcount : before.count '\n' = above.length := by
    have hparts := length_splitAtMark '\n' before
    rw [hbefore, splitAtMark_flatMap _ habove, splitAtMark_of_notMem hleft, ← hbefore,
      List.length_append, List.length_singleton] at hparts
    omega
  have hlength : before.length = (above.map fun l => l.length + 1).sum + left.length := by
    conv_lhs => rw [hbefore]
    simp only [List.length_append, List.length_flatMap, List.length_singleton]
  rw [hcount]
  constructor
  · rw [hsource]
    simp
  · simp
  · rw [hsource, List.take_left, hlength]
  · intro x hx
    rw [List.getElem?_append_right (Nat.le_refl _), Nat.sub_self] at hx ⊢
    unfold lineAfter at hx
    rcases after with _ | ⟨y, after⟩
    · cases hx
    · rw [List.takeWhile_cons] at hx
      split at hx
      · exact hx
      · cases hx

theorem clamp_le (pos : Int) (length : Nat) : clamp pos length ≤ length := Nat.min_le_right _ _

theorem coe_clamp (pos : Int) (length : Nat) :
    (clamp pos length : Int) = max 0 (min pos length) := by
  unfold clamp
  omega

/-- **The location of an offset** is its line and its place in it. -/
theorem exists_lies (source : List Char) (pos : Int) (file : Option String) : ∃ i j line,
    Lies source (clamp pos source.length) i j line ∧
      ofOffset source pos file = ⟨i + 1, j + 1, some (String.ofList line), file⟩ := by
  generalize hp : clamp pos source.length = p
  have hle : p ≤ source.length := hp ▸ clamp_le pos source.length
  have hlies := lies_of_append (source.take p) (source.drop p)
  rw [List.take_append_drop, List.length_take, Nat.min_eq_left hle] at hlies
  refine ⟨_, _, _, hlies, ?_⟩
  rw [ofOffset, hp]

theorem Lies.offset_unique {source line line' : List Char} {p p' i j : Nat}
    (h : Lies source p i j line) (h' : Lies source p' i j line') : p = p' := by
  rw [h.offset_eq, h'.offset_eq]

/-- Lines and columns are counted up to the offset, so it does not matter what comes behind it. -/
theorem ofOffset_append {source : List Char} {p : Nat} (h : p ≤ source.length) (more : List Char)
    (file : Option String) :
    (ofOffset (source ++ more) p file).line = (ofOffset source p file).line ∧
      (ofOffset (source ++ more) p file).column = (ofOffset source p file).column := by
  have hp : clamp p (source ++ more).length = clamp p source.length := by
    simp only [clamp, List.length_append]
    omega
  have hle := clamp_le p source.length
  simp only [ofOffset, hp, List.take_append_of_le_length hle, and_self]

/-! ### The caret -/

/-- The last lines of the text are a line of a source behind the gutter with its number, and a caret
below the place `j` of it. -/
def ShowsCaret (text : String) (number : Int) (line : List Char) (j : Nat) : Prop :=
  ∃ front, splitAtMark '\n' text.toList = front ++ [(gutter number).toList ++ line,
    List.replicate ((gutter number).length + j) ' ' ++ ['^']]

theorem newline_notMem_gutter (number : Int) : '\n' ∉ (gutter number).toList := by
  intro h
  simp only [gutter, padLeft, String.toList_append, String.toList_ofList, List.mem_append,
    List.mem_replicate] at h
  rcases h with (⟨-, h⟩ | h) | h
  · exact absurd h (by decide)
  · rcases mem_toString_int h with h | h
    · exact absurd h (by decide)
    · exact absurd h (by decide)
  · exact absurd h (by decide)

theorem caret_toList (number : Int) (j : Nat) : (caret number (j + 1)).toList =
    List.replicate ((gutter number).length + j) ' ' ++ ['^'] := by
  have hwidth : (((gutter number).length : Int) + (j + 1) - 1).toNat =
      (gutter number).length + j := by
    omega
  rw [caret, hwidth, String.toList_append, String.toList_ofList]
  rfl

/-- **The caret is below the place**, whatever the number of the line and the name of the file are.
-/
theorem showsCaret_render {line : List Char} (h : '\n' ∉ line) (number : Int) (j : Nat)
    (file : Option String) :
    ShowsCaret (render ⟨number, j + 1, some (String.ofList line), file⟩) number line j := by
  have hline : '\n' ∉ (gutter number).toList ++ line := by
    rw [List.mem_append, not_or]
    exact ⟨newline_notMem_gutter number, h⟩
  have hcaret : '\n' ∉ List.replicate ((gutter number).length + j) ' ' ++ ['^'] := by simp
  -- The name of a file may have newlines, so its lines are whatever they are.
  generalize hplace : (sourceName file ++ ":" ++ toString number ++ ":" ++
    toString ((j : Int) + 1)).toList = place
  obtain ⟨above, habove, hlines⟩ := exists_above place
  have hrender : (render ⟨number, j + 1, some (String.ofList line), file⟩).toList =
      (above ++ [lineBefore place]).flatMap (· ++ ['\n']) ++ ((gutter number).toList ++ line ++
        '\n' :: (List.replicate ((gutter number).length + j) ' ' ++ ['^'])) := by
    rw [List.flatMap_append, List.flatMap_singleton, ← List.append_assoc (above.flatMap _),
      ← habove, ← hplace, ← caret_toList]
    simp [render]
  refine ⟨above ++ [lineBefore place], ?_⟩
  rw [hrender, splitAtMark_flatMap _ hlines, splitAtMark_append _ hline,
    splitAtMark_of_notMem hcaret]

end Location

open Location

/-- **A location is exact.** An offset, brought into the text, lies on the line and at the place
that its location names, the snippet is that line, and the caret of the rendered location stands
below the place. Offsets of the text have different locations. -/
theorem location_exact (source : List Char) (file : Option String) :
    (∀ pos : Int, ∃ (p i j : Nat) (line : List Char), (p : Int) = max 0 (min pos source.length) ∧
      Lies source p i j line ∧
      ofOffset source pos file = ⟨i + 1, j + 1, some (String.ofList line), file⟩ ∧
      ShowsCaret (ofOffset source pos file).render (i + 1) line j) ∧
    Set.InjOn
      (fun pos : Int => ((ofOffset source pos file).line, (ofOffset source pos file).column))
      (Set.Icc 0 source.length) := by
  constructor
  · intro pos
    obtain ⟨i, j, line, hlies, hof⟩ := exists_lies source pos file
    have hline := newline_notMem_of_mem (List.mem_of_getElem? hlies.line_eq)
    refine ⟨_, i, j, line, coe_clamp pos source.length, hlies, hof, ?_⟩
    rw [hof]
    exact showsCaret_render hline _ j file
  · intro pos hpos pos' hpos' hsame
    obtain ⟨i, j, line, hlies, hof⟩ := exists_lies source pos file
    obtain ⟨i', j', line', hlies', hof'⟩ := exists_lies source pos' file
    simp only [hof, hof', Prod.mk.injEq, add_left_inj, Int.natCast_inj] at hsame
    obtain ⟨rfl, rfl⟩ := hsame
    have hp := hlies.offset_unique hlies'
    have h := coe_clamp pos source.length
    have h' := coe_clamp pos' source.length
    rw [Set.mem_Icc] at hpos hpos'
    omega

/-- An offset behind the end of the text is brought to its last line, which is empty here. The end
of the first line and the beginning of the second are two places. -/
theorem location_exact_end :
    ShowsCaret (ofOffset "a\nb\n".toList 9 none).render 3 [] 0 ∧
    ((ofOffset "a\nb\n".toList 1 none).line, (ofOffset "a\nb\n".toList 1 none).column) ≠
      ((ofOffset "a\nb\n".toList 2 none).line, (ofOffset "a\nb\n".toList 2 none).column) := by
  obtain ⟨hexact, hinj⟩ := location_exact "a\nb\n".toList none
  constructor
  · obtain ⟨p, i, j, line, -, -, hof, hcaret⟩ := hexact 9
    have hend : ofOffset "a\nb\n".toList 9 none = ⟨3, 1, some "", none⟩ := by decide
    rw [hend, Location.mk.injEq, Option.some.injEq] at hof
    obtain ⟨hi, hj, hline, -⟩ := hof
    obtain rfl : i = 2 := by omega
    obtain rfl : j = 0 := by omega
    obtain rfl : line = [] := by
      have := congrArg String.toList hline
      simpa using this.symm
    exact hcaret
  · intro hsame
    have h := hinj (by decide) (by decide) hsame
    exact absurd h (by decide)

end BlockCalc
