import BlockCalc.Token.Lexer
import Mathlib.Tactic.Common

/-! # One step of lexing

`Cursor.Reading c r` lists the six things that can stand at a cursor `c` and what reading then gives:
the end of the text, a symbol, a name, a numeral, a run of digits and points that is no numeral, or a
character that starts no token. `Cursor.reading_read` says that this is all `Cursor.read` does, so
that facts about a step are proved by cases.

* `Cursor.offset_le_of_next`, `Cursor.offset_lt_of_next`: a token stands at or behind the cursor,
  and the cursor goes past it.
* `Lexeme.Spelled`, `Cursor.spelled_of_next`: names are names of the language, and numbers are the
  values of numerals.
* `Cursor.next_symbol`, `Cursor.next_name`, `Cursor.next_numeral`, `Cursor.next_blank`: the step at a
  given text. -/

namespace BlockCalc

namespace Cursor

/-- What stands at a cursor on no blank, and what reading then gives. -/
inductive Reading : Cursor → Except SourceFault Token × Cursor → Prop
  | ended {o} : Reading ⟨o, []⟩ (.ok ⟨.endOfInput, o⟩, ⟨o, []⟩)
  | symbol {o x rest l} : Lexeme.ofSymbol? x = some l →
      Reading ⟨o, x :: rest⟩ (.ok ⟨l, o⟩, ⟨o + 1, rest⟩)
  | name {o x rest} : Lexeme.ofSymbol? x = none → isNameStart x = true →
      Reading ⟨o, x :: rest⟩ (.ok ⟨.name (String.ofList ((x :: rest).takeWhile isNameChar)), o⟩,
        skip isNameChar ⟨o, x :: rest⟩)
  | number {o x rest} : Lexeme.ofSymbol? x = none → isNameStart x = false →
      isNumberChar x = true → isNumeral ((x :: rest).takeWhile isNumberChar) = true →
      Reading ⟨o, x :: rest⟩
        (.ok ⟨.number (numeralValue ((x :: rest).takeWhile isNumberChar)), o⟩,
          skip isNumberChar ⟨o, x :: rest⟩)
  | malformed {o x rest} : Lexeme.ofSymbol? x = none → isNameStart x = false →
      isNumberChar x = true → isNumeral ((x :: rest).takeWhile isNumberChar) = false →
      Reading ⟨o, x :: rest⟩
        (.error ⟨.malformedNumber (String.ofList ((x :: rest).takeWhile isNumberChar)), o⟩,
          skip isNumberChar ⟨o, x :: rest⟩)
  | unknown {o x rest} : Lexeme.ofSymbol? x = none → isNameStart x = false →
      isNumberChar x = false →
      Reading ⟨o, x :: rest⟩ (.error ⟨.unknownSymbol (String.singleton x), o⟩, ⟨o, x :: rest⟩)

/-- **A reading is one of six.** -/
theorem reading_read (c : Cursor) : Reading c c.read := by
  rcases c with ⟨o, _ | ⟨x, rest⟩⟩
  · exact .ended
  · unfold read
    dsimp only
    rcases hs : Lexeme.ofSymbol? x with _ | l
    · dsimp only
      rcases hn : isNameStart x with _ | _
      · rw [if_neg (by decide)]
        rcases hd : isNumberChar x with _ | _
        · rw [if_neg (by decide)]
          exact .unknown hs hn hd
        · rw [if_pos rfl]
          rcases hm : isNumeral ((x :: rest).takeWhile isNumberChar) with _ | _
          · rw [if_neg (by decide)]
            exact .malformed hs hn hd hm
          · rw [if_pos rfl]
            exact .number hs hn hd hm
      · rw [if_pos rfl]
        exact .name hs hn
    · exact .symbol hs

theorem kind_of_ofSymbol? {x : Char} {l : Lexeme} (h : Lexeme.ofSymbol? x = some l) :
    l.kind ≠ .endOfInput ∧ l.kind ≠ .number ∧ l.kind ≠ .name := by
  unfold Lexeme.ofSymbol? at h
  split at h <;> cases h <;> exact ⟨nofun, nofun, nofun⟩

/-- The end of the input is read only where nothing is left. -/
theorem rest_of_end {c c' : Cursor} {t : Token} (h : c.next = (.ok t, c'))
    (ht : t.kind = .endOfInput) : c'.rest = [] := by
  have hr := reading_read (c.skip isBlank)
  rw [show (c.skip isBlank).read = _ from h] at hr
  generalize c.skip isBlank = d at hr
  cases hr with
  | ended => rfl
  | symbol hs => exact absurd ht (kind_of_ofSymbol? hs).1
  | name _ _ => cases ht
  | number _ _ _ _ => cases ht

theorem next_of_rest_nil {c : Cursor} (h : c.rest = []) :
    c.next = (.ok ⟨.endOfInput, c.offset⟩, c) := by
  rcases c with ⟨o, rest⟩
  cases h
  rfl

/-- What a text is faulted for is lexical. -/
theorem family_of_next {c c' : Cursor} {e : SourceFault} (h : c.next = (.error e, c')) :
    e.cause.family = .lexical := by
  have hr := reading_read (c.skip isBlank)
  rw [show (c.skip isBlank).read = _ from h] at hr
  generalize c.skip isBlank = d at hr
  cases hr <;> rfl

/-! ### Offsets -/

theorem offset_skip (p : Char → Bool) (c : Cursor) : c.offset ≤ (c.skip p).offset :=
  Nat.le_add_right _ _

theorem offset_lt_skip {p : Char → Bool} {o : Nat} {x : Char} {rest : List Char} (hx : p x = true) :
    o < (skip p ⟨o, x :: rest⟩).offset := by
  simp only [skip, List.takeWhile_cons_of_pos hx, List.length_cons]
  omega

theorem offset_le_of_next {c c' : Cursor} {t : Token} (h : c.next = (.ok t, c')) :
    (c.offset : Int) ≤ t.offset := by
  have hb := offset_skip isBlank c
  have hr := reading_read (c.skip isBlank)
  rw [show (c.skip isBlank).read = _ from h] at hr
  generalize c.skip isBlank = d at hr hb
  cases hr <;> exact Int.ofNat_le.mpr hb

/-- The cursor goes past a token other than the end of the input. -/
theorem offset_lt_of_next {c c' : Cursor} {t : Token} (h : c.next = (.ok t, c'))
    (ht : t.kind ≠ .endOfInput) : t.offset < (c'.offset : Int) := by
  have hr := reading_read (c.skip isBlank)
  rw [show (c.skip isBlank).read = _ from h] at hr
  generalize c.skip isBlank = d at hr
  cases hr with
  | ended => exact absurd rfl ht
  | symbol _ => exact Int.ofNat_lt.mpr (Nat.lt_succ_self _)
  | name _ hn => exact Int.ofNat_lt.mpr (offset_lt_skip (by simp [isNameChar, hn]))
  | number _ _ hd _ => exact Int.ofNat_lt.mpr (offset_lt_skip hd)

end Cursor

/-! ### Spelling -/

/-- A name is a name of the language, and a number is the value of a numeral. -/
def Lexeme.Spelled : Lexeme → Prop
  | .name s => isName s.toList = true
  | .number x => ∃ run, run ≠ [] ∧ run.all isNumberChar = true ∧ isNumeral run = true ∧
      x = numeralValue run
  | _ => True

theorem spelled_of_ofSymbol? {x : Char} {l : Lexeme} (h : Lexeme.ofSymbol? x = some l) :
    l.Spelled := by
  unfold Lexeme.ofSymbol? at h
  split at h <;> cases h <;> trivial

/-- Whatever is read is spelled as the language has it. -/
theorem Cursor.spelled_of_next {c c' : Cursor} {t : Token} (h : c.next = (.ok t, c')) :
    t.lexeme.Spelled := by
  have hr := reading_read (c.skip isBlank)
  rw [show (c.skip isBlank).read = _ from h] at hr
  generalize c.skip isBlank = d at hr
  cases hr with
  | ended => trivial
  | symbol hs => exact spelled_of_ofSymbol? hs
  | @name o x rest _ hn =>
    have hx : isNameChar x = true := by simp [isNameChar, hn]
    simp only [Lexeme.Spelled, String.toList_ofList, List.takeWhile_cons_of_pos hx, isName, hn,
      List.all_takeWhile, Bool.and_self]
  | @number o x rest _ _ hd hm =>
    refine ⟨_, ?_, List.all_takeWhile, hm, rfl⟩
    rw [List.takeWhile_cons_of_pos hd]
    exact List.cons_ne_nil _ _

/-! ### Classes of characters -/

theorem class_of_symbol {x : Char} {l : Lexeme} (h : Lexeme.ofSymbol? x = some l) :
    isBlank x = false ∧ isNameStart x = false ∧ isNumberChar x = false := by
  unfold Lexeme.ofSymbol? at h
  split at h <;> first | exact ⟨rfl, rfl, rfl⟩ | cases h

theorem isBlank_of_visible {x : Char} (h1 : 33 ≤ x.toNat) (h2 : x.toNat ≤ 126) :
    isBlank x = false := by
  simp only [isBlank, Bool.or_eq_false_iff, Bool.and_eq_false_iff, decide_eq_false_iff_not,
    beq_eq_false_iff_ne]
  omega

theorem le_toNat {x y : Char} (h : x ≤ y) : x.toNat ≤ y.toNat := h

theorem toNat_of_isNameStart {x : Char} (h : isNameStart x = true) :
    65 ≤ x.toNat ∧ x.toNat ≤ 122 := by
  simp only [isNameStart, Bool.or_eq_true, Bool.and_eq_true, decide_eq_true_iff, beq_iff_eq] at h
  rcases h with (⟨h1, h2⟩ | ⟨h1, h2⟩) | rfl
  · exact ⟨Nat.le_trans (by decide) (le_toNat h1), le_toNat h2⟩
  · exact ⟨le_toNat h1, Nat.le_trans (le_toNat h2) (by decide)⟩
  · decide

theorem toNat_of_isNumberChar {x : Char} (h : isNumberChar x = true) :
    46 ≤ x.toNat ∧ x.toNat ≤ 57 := by
  simp only [isNumberChar, isDigit, Bool.or_eq_true, Bool.and_eq_true, decide_eq_true_iff,
    beq_iff_eq] at h
  rcases h with ⟨h1, h2⟩ | rfl
  · exact ⟨Nat.le_trans (by decide) (le_toNat h1), le_toNat h2⟩
  · decide

theorem class_of_nameStart {x : Char} (h : isNameStart x = true) :
    isBlank x = false ∧ Lexeme.ofSymbol? x = none := by
  have hx := toNat_of_isNameStart h
  refine ⟨isBlank_of_visible (by omega) (by omega), ?_⟩
  by_contra hs
  obtain ⟨l, hl⟩ := Option.ne_none_iff_exists'.mp hs
  rw [(class_of_symbol hl).2.1] at h
  cases h

theorem class_of_numberChar {x : Char} (h : isNumberChar x = true) :
    isBlank x = false ∧ Lexeme.ofSymbol? x = none ∧ isNameStart x = false := by
  have hx := toNat_of_isNumberChar h
  refine ⟨isBlank_of_visible (by omega) (by omega), ?_, ?_⟩
  · by_contra hs
    obtain ⟨l, hl⟩ := Option.ne_none_iff_exists'.mp hs
    rw [(class_of_symbol hl).2.2] at h
    cases h
  · by_contra hs
    have := toNat_of_isNameStart (Bool.not_eq_false _ ▸ hs)
    omega

/-! ### The step at a given text -/

namespace Cursor

/-- No character of the class comes first. -/
def Stops (p : Char → Bool) (rest : List Char) : Prop := ∀ x ∈ rest.head?, p x = false

theorem takeWhile_append_stops {p : Char → Bool} {run rest : List Char} (h : ∀ x ∈ run, p x = true)
    (hr : Stops p rest) : (run ++ rest).takeWhile p = run := by
  rw [List.takeWhile_append_of_pos h]
  rcases rest with _ | ⟨x, rest⟩
  · simp
  · have hx : p x = false := hr x rfl
    rw [List.takeWhile_cons, hx]
    simp

theorem dropWhile_append_stops {p : Char → Bool} {run rest : List Char} (h : ∀ x ∈ run, p x = true)
    (hr : Stops p rest) : (run ++ rest).dropWhile p = rest := by
  rw [List.dropWhile_append_of_pos h]
  rcases rest with _ | ⟨x, rest⟩
  · simp
  · have hx : p x = false := hr x rfl
    rw [List.dropWhile_cons, hx]
    simp

theorem stops_dropWhile (p : Char → Bool) (cs : List Char) : Stops p (cs.dropWhile p) := by
  intro x hx
  have h := List.head?_dropWhile_not p cs
  rw [hx] at h
  exact h

theorem skip_append_stops {p : Char → Bool} {rest : List Char} (o : Nat) (run : List Char)
    (h : ∀ x ∈ run, p x = true) (hr : Stops p rest) :
    skip p ⟨o, run ++ rest⟩ = ⟨o + run.length, rest⟩ := by
  simp only [skip, takeWhile_append_stops h hr, dropWhile_append_stops h hr]

theorem skip_nothing {p : Char → Bool} {o : Nat} {rest : List Char} (hr : Stops p rest) :
    skip p ⟨o, rest⟩ = ⟨o, rest⟩ :=
  skip_append_stops o [] (by simp) hr

theorem next_blank {o : Nat} {x : Char} {rest : List Char} (hx : isBlank x = true) :
    next ⟨o, x :: rest⟩ = next ⟨o + 1, rest⟩ := by
  have : skip isBlank ⟨o, x :: rest⟩ = skip isBlank ⟨o + 1, rest⟩ := by
    simp only [skip, List.takeWhile_cons_of_pos hx, List.dropWhile_cons_of_pos hx,
      List.length_cons, Cursor.mk.injEq, and_true]
    omega
  unfold next
  rw [this]

theorem next_eq_read {o : Nat} {rest : List Char} (hr : Stops isBlank rest) :
    next ⟨o, rest⟩ = read ⟨o, rest⟩ := by
  rw [next, skip_nothing hr]

theorem stops_cons {p : Char → Bool} {x : Char} {rest : List Char} (h : p x = false) :
    Stops p (x :: rest) := by
  intro y hy
  cases hy
  exact h

theorem next_symbol {x : Char} {l : Lexeme} (hx : Lexeme.ofSymbol? x = some l) (o : Nat)
    (rest : List Char) : next ⟨o, x :: rest⟩ = (.ok ⟨l, o⟩, ⟨o + 1, rest⟩) := by
  rw [next_eq_read (stops_cons (class_of_symbol hx).1), read]
  dsimp only
  rw [hx]

theorem next_name {name rest : List Char} (hn : isName name = true) (hr : Stops isNameChar rest)
    (o : Nat) :
    next ⟨o, name ++ rest⟩ = (.ok ⟨.name (String.ofList name), o⟩, ⟨o + name.length, rest⟩) := by
  rcases name with _ | ⟨x, name⟩
  · cases hn
  · rw [isName, Bool.and_eq_true, List.all_eq_true] at hn
    obtain ⟨hx, hxs⟩ := hn
    have hall : ∀ y ∈ x :: name, isNameChar y = true := by
      intro y hy
      rcases List.mem_cons.mp hy with rfl | hy
      · rw [isNameChar, hx]
        rfl
      · exact hxs y hy
    rw [← skip_append_stops o (x :: name) hall hr, List.cons_append,
      next_eq_read (stops_cons (class_of_nameStart hx).1), read]
    dsimp only
    rw [(class_of_nameStart hx).2, if_pos hx, ← List.cons_append,
      takeWhile_append_stops hall hr]

theorem next_numeral {run rest : List Char} (hne : run ≠ [])
    (hall : ∀ x ∈ run, isNumberChar x = true) (hs : isNumeral run = true)
    (hr : Stops isNumberChar rest) (o : Nat) :
    next ⟨o, run ++ rest⟩ = (.ok ⟨.number (numeralValue run), o⟩, ⟨o + run.length, rest⟩) := by
  rcases run with _ | ⟨x, run⟩
  · exact absurd rfl hne
  · have hx := hall x List.mem_cons_self
    obtain ⟨hb, ho, hn⟩ := class_of_numberChar hx
    rw [← skip_append_stops o (x :: run) hall hr, List.cons_append,
      next_eq_read (stops_cons hb), read]
    dsimp only
    rw [ho, hn, if_neg Bool.false_ne_true, if_pos hx, ← List.cons_append,
      takeWhile_append_stops hall hr, if_pos hs]

end Cursor

end BlockCalc
