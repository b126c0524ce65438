import BlockCalc.Proofs.Token.Spelling

/-! # How numbers are written and read

A number is written as a minus sign if it is below zero, and then as its magnitude is; of the two
zeros neither is below zero. A magnitude is written as a name, as a numeral, or as a numeral with a
power of ten behind it (`Shown`), and the text tells which number it was: a numeral is read back, and
so is the decimal that a power of ten gives (`Shown.unique`).

The language reads numerals and no powers of ten, and a sign is a token of its own.

* `text_eq_iff`: two numbers have the same text exactly if they are equal.
* `number_text_tokens`: the tokens of the text of a number. -/

namespace BlockCalc

namespace Binary64

/-! ### Values -/

/-- The value of a finite number. -/
def rational? : Binary64 → Option ℚ
  | finite s r => some (if s then -amount r else amount r)
  | _ => none

theorem amount_nonneg (rank : Nat) : 0 ≤ amount rank := by
  unfold amount
  positivity

theorem amount_eq_zero_iff {rank : Nat} : amount rank = 0 ↔ rank = 0 := by
  have hone : (one : ℚ) ≠ 0 := Nat.cast_ne_zero.mpr Decimal.one_pos.ne'
  have hunits : units rank = 0 ↔ rank = 0 := by
    constructor
    · intro h
      by_contra hne
      have := units_pos hne
      omega
    · rintro rfl
      exact units_zero
  rw [amount, div_eq_zero_iff, or_iff_left hone, Nat.cast_eq_zero, hunits]

theorem amount_pos_iff {rank : Nat} : 0 < amount rank ↔ rank ≠ 0 := by
  rw [(amount_nonneg rank).lt_iff_ne', ne_eq, amount_eq_zero_iff]

theorem isPlain_iff_rational {x : Binary64} : x.isPlain = true ↔
    ∃ v, x.rational? = some v ∧ (v = 0 ∨ (10 : ℚ) ^ (-4 : ℤ) ≤ v) := by
  rcases x with _ | s | ⟨s, r⟩
  · simp [isPlain, rational?]
  · simp [isPlain, rational?]
  · simp only [isPlain, rational?, Option.some.injEq, exists_eq_left', Bool.or_eq_true, beq_iff_eq,
      Bool.and_eq_true, Bool.not_eq_true', decide_eq_true_eq]
    rcases s with _ | _
    · simp only [Bool.false_eq_true, if_false, true_and, amount_eq_zero_iff, ten_pow_le_iff]
    · have hpower : (0 : ℚ) < 10 ^ (-4 : ℤ) := by positivity
      have hnonneg := amount_nonneg r
      have hnot : ¬ (10 : ℚ) ^ (-4 : ℤ) ≤ -amount r := by linarith
      simp only [if_true, Bool.true_eq_false, false_and, neg_eq_zero, amount_eq_zero_iff, hnot]

theorem isTiny_iff_rational {x : Binary64} : x.isTiny = true ↔
    ∃ v, x.rational? = some v ∧ 0 < v ∧ v < (10 : ℚ) ^ (-4 : ℤ) := by
  rcases x with _ | s | ⟨_ | _, r⟩
  · simp [isTiny, rational?]
  · simp [isTiny, rational?]
  · have hlt : amount r < (10 : ℚ) ^ (-4 : ℤ) ↔ units r * 10000 < one := by
      rw [← not_le, ten_pow_le_iff, Nat.not_le]
    simp only [isTiny, rational?, Option.some.injEq, exists_eq_left', Bool.false_eq_true, if_false,
      Bool.and_eq_true, bne_iff_ne, decide_eq_true_eq, amount_pos_iff, hlt]
  · have hnonneg := amount_nonneg r
    have hnot : ¬ 0 < -amount r := by linarith
    simp only [isTiny, rational?, Option.some.injEq, exists_eq_left', if_true, hnot,
      Bool.false_eq_true, false_and]

/-! ### Signs -/

/-- Less than zero. -/
def isBelowZero : Binary64 → Bool
  | nan => false
  | infinity s => s
  | finite s r => s && r.val != 0

/-- The number without its sign. -/
def unsigned : Binary64 → Binary64
  | nan => nan
  | infinity _ => infinity false
  | finite _ r => finite false r

theorem isLiteral_unsigned {x : Binary64} (hx : x ≠ nan) : x.unsigned.isLiteral = true := by
  rcases x with _ | s | ⟨s, r⟩
  · exact absurd rfl hx
  · rfl
  · rfl

theorem isBelowZero_iff_rational {x : Binary64} : x.isBelowZero = true ↔
    x = infinity true ∨ ∃ v, x.rational? = some v ∧ v < 0 := by
  rcases x with _ | s | ⟨s, r⟩
  · simp [isBelowZero, rational?]
  · simp [isBelowZero, rational?]
  · rcases s with _ | _
    · simp [isBelowZero, rational?, amount_nonneg r]
    · simp [isBelowZero, rational?, amount_pos_iff]

theorem isBelowZero_of_isPlain {x : Binary64} (h : x.isPlain = true) : x.isBelowZero = false := by
  obtain ⟨v, hv, hplain⟩ := isPlain_iff_rational.mp h
  rw [← Bool.not_eq_true, isBelowZero_iff_rational]
  rintro (rfl | ⟨w, hw, hneg⟩)
  · cases hv
  · have hpower : (0 : ℚ) < 10 ^ (-4 : ℤ) := by positivity
    rw [hv] at hw
    cases hw
    rcases hplain with rfl | hplain
    · exact lt_irrefl _ hneg
    · linarith

theorem neg_of_isBelowZero {x : Binary64} (h : x.isBelowZero = true) : x.neg = x.unsigned := by
  rcases x with _ | (_ | _) | ⟨_ | _, r⟩
  · cases h
  · cases h
  · rfl
  · cases h
  · rfl

/-- Numbers are equal if they have the same magnitude and are on the same side of zero. -/
theorem numEq_iff_unsigned {x y : Binary64} (hx : x ≠ nan) (hy : y ≠ nan) :
    x.numEq y = true ↔ x.isBelowZero = y.isBelowZero ∧ x.unsigned = y.unsigned := by
  rcases x with _ | s | ⟨s, a⟩
  · exact absurd rfl hx
  · rcases y with _ | t | ⟨t, b⟩
    · exact absurd rfl hy
    · simp [numEq, isBelowZero, unsigned]
    · simp [numEq, unsigned]
  · rcases y with _ | t | ⟨t, b⟩
    · exact absurd rfl hy
    · simp [numEq, unsigned]
    · simp only [numEq, isBelowZero, unsigned, Bool.and_eq_true, Bool.or_eq_true, beq_iff_eq,
        finite.injEq, true_and]
      by_cases hab : a = b
      · subst hab
        by_cases ha : a.val = 0
        · simp [ha]
        · have hne : (a.val != 0) = true := bne_iff_ne.mpr ha
          simp [ha, hne]
      · simp [hab]

theorem numEq_unsigned {x : Binary64} (hx : x ≠ nan) (h : x.isBelowZero = false) :
    x.unsigned.numEq x = true := by
  rcases x with _ | s | ⟨s, r⟩
  · exact absurd rfl hx
  · have hs : s = false := h
    simp [unsigned, numEq, hs]
  · have hs : s = true → r.val = 0 := by simpa [isBelowZero] using h
    rcases s with _ | _
    · simp [unsigned, numEq]
    · simp [unsigned, numEq, hs rfl]

/-- A number is written as its magnitude, behind a minus sign if it is below zero. -/
theorem chars_eq_signed (x : Binary64) : x.chars = signed x.isBelowZero x.unsigned.chars := by
  rcases x with _ | s | ⟨s, r⟩
  · rfl
  · rcases s with _ | _ <;> rfl
  · by_cases hw : units r % one = 0
    · rw [unsigned, chars_whole hw, isBelowZero, chars]
      exact if_pos hw
    · have hr : r.val ≠ 0 := by
        intro h0
        rw [h0, units_zero, Nat.zero_mod] at hw
        exact hw rfl
      have hne : (r.val != 0) = true := bne_iff_ne.mpr hr
      rw [unsigned, chars_not_whole hw, isBelowZero, hne, Bool.and_true, chars, if_neg hw,
        pointChars, if_neg hr]

/-! ### Magnitudes -/

/-- How a number that is not below zero is written: with digits and points, which may be none, and
something after them. -/
inductive Shown : Binary64 → List Char → List Char → Prop
  | name : Shown (infinity false) [] ['i', 'n', 'f']
  | numeral {r : Fin rankCount} {run : List Char} : Numeral run →
      numeralValue run = finite false r → Shown (finite false r) run []
  | power {r : Fin rankCount} {mantissa power : List Char} {d : Decimal} : Numeral mantissa →
      Numeral power → d.rank = r → d.value = Decimal.scaled mantissa power →
      Shown (finite false r) mantissa ('e' :: '-' :: power)

theorem exists_shown {x : Binary64} (h : x.isLiteral = true) :
    ∃ run tail, x.chars = run ++ tail ∧ Shown x run tail := by
  rcases x with _ | (_ | _) | ⟨_ | _, r⟩
  · cases h
  · exact ⟨_, _, rfl, .name⟩
  · cases h
  · by_cases ht : (finite false r).isTiny = true
    · obtain ⟨mantissa, power, hc, hm, hp, d, hd, hv⟩ := numeral_chars_tiny ht
      exact ⟨_, _, hc, .power hm hp hd hv⟩
    · have hplain : (finite false r).isPlain = true := by
        rw [isPlain_finite]
        simpa using ht
      obtain ⟨hn, hv⟩ := numeral_chars hplain
      exact ⟨_, _, (List.append_nil _).symm, .numeral hn hv⟩
  · cases h

variable {x y : Binary64} {run run' tail tail' : List Char}

theorem Shown.chars (h : Shown x run tail) : ∀ c ∈ run, isNumberChar c = true := by
  rcases h with _ | ⟨hn, -⟩ | ⟨hn, -, -, -⟩
  · nofun
  · exact hn.chars
  · exact hn.chars

theorem Shown.stops (h : Shown x run tail) : Cursor.Stops isNumberChar tail := by
  rcases h with _ | _ | _
  · exact Cursor.stops_cons rfl
  · nofun
  · exact Cursor.stops_cons rfl

theorem Shown.head_ne (h : Shown x run tail) : (run ++ tail).head? ≠ some '-' := by
  intro hminus
  have hrun : run ≠ [] → False := by
    intro hne
    obtain ⟨c, rest, rfl⟩ := List.exists_cons_of_ne_nil hne
    have hc := h.chars c List.mem_cons_self
    cases hminus
    cases hc
  rcases h with _ | ⟨hn, -⟩ | ⟨hn, -, -, -⟩
  · cases hminus
  · exact hrun hn.nonempty
  · exact hrun hn.nonempty

/-- The two parts of the text of a magnitude tell the number: a numeral is read back, and so is the
decimal that a power of ten gives. -/
theorem Shown.unique (hx : Shown x run tail) (hy : Shown y run tail) : x = y := by
  rcases hx with _ | ⟨-, hv⟩ | ⟨-, -, hd, hv⟩
  · cases hy
    rfl
  · cases hy with
    | numeral _ hw => exact hv.symm.trans hw
  · cases hy with
    | power _ _ he hw =>
      have hrank := Decimal.rank_congr (hv.trans hw.symm)
      rw [hd, he] at hrank
      rw [Fin.ext hrank]

theorem isNumberChar_newline : ¬ isNumberChar '\n' = true := by decide

theorem Shown.newline_notMem (h : Shown x run tail) : '\n' ∉ run ++ tail := by
  rcases h with _ | ⟨hn, -⟩ | ⟨hn, hp, -, -⟩
  · decide
  · intro hmem
    rw [List.append_nil] at hmem
    exact isNumberChar_newline (hn.chars _ hmem)
  · intro hmem
    rcases List.mem_append.mp hmem with hmem | hmem
    · exact isNumberChar_newline (hn.chars _ hmem)
    · exact isNumberChar_newline (hp.chars _ (by simpa using hmem))

theorem Shown.inj (hx : Shown x run tail) (hy : Shown y run' tail')
    (h : run ++ tail = run' ++ tail') : x = y := by
  have hrun : run = run' := by
    rw [← Cursor.takeWhile_append_stops hx.chars hx.stops, h,
      Cursor.takeWhile_append_stops hy.chars hy.stops]
  subst hrun
  rw [List.append_cancel_left_eq] at h
  subst h
  exact hx.unique hy

/-- **Two numbers have the same text exactly if they are equal.** -/
theorem text_eq_iff (hx : x ≠ nan) (hy : y ≠ nan) : x.text = y.text ↔ x.numEq y = true := by
  rw [numEq_iff_unsigned hx hy, text, text, String.ofList_inj, chars_eq_signed x, chars_eq_signed y]
  obtain ⟨run, tail, hc, hs⟩ := exists_shown (isLiteral_unsigned hx)
  obtain ⟨run', tail', hc', hs'⟩ := exists_shown (isLiteral_unsigned hy)
  rw [hc, hc']
  constructor
  · intro h
    rcases hbx : x.isBelowZero with _ | _ <;> rcases hby : y.isBelowZero with _ | _
    · rw [hbx, hby] at h
      exact ⟨rfl, hs.inj hs' h⟩
    · rw [hbx, hby] at h
      exact absurd (congrArg List.head? h) hs.head_ne
    · rw [hbx, hby] at h
      exact absurd (congrArg List.head? h).symm hs'.head_ne
    · rw [hbx, hby] at h
      exact ⟨rfl, hs.inj hs' (List.cons.inj h).2⟩
  · rintro ⟨hsign, heq⟩
    rw [hsign, ← hc, ← hc', heq]

theorem text_eq_of_numEq (h : x.numEq y = true) : x.text = y.text := by
  refine (text_eq_iff ?_ ?_).mpr h
  · rintro rfl
    cases h
  · rintro rfl
    cases x <;> cases h

theorem newline_notMem_chars (hx : x ≠ nan) : '\n' ∉ x.chars := by
  obtain ⟨run, tail, hc, hs⟩ := exists_shown (isLiteral_unsigned hx)
  have hmagnitude := hs.newline_notMem
  rw [← hc] at hmagnitude
  rw [chars_eq_signed x, signed]
  split
  · simpa using hmagnitude
  · exact hmagnitude

/-! ### Tokens -/

/-- The lexemes of the text of a number, the end of the text included. -/
def textLexemes (x : Binary64) : Except SourceFault (List Lexeme) :=
  (tokenize x.text.toList).map (List.map Token.lexeme)

theorem textLexemes_of_reads {ls : List Lexeme} (h : Cursor.Reads x.chars [] ls) :
    x.textLexemes = .ok (ls ++ [.endOfInput]) := by
  obtain ⟨ts, hts, hfeed⟩ := h 0
  have hend : (⟨0 + x.chars.length, []⟩ : Cursor).feed = _ :=
    Cursor.feed_of_end (Cursor.next_of_rest_nil rfl) rfl
  rw [List.append_nil, hend] at hfeed
  rw [textLexemes, text, String.toList_ofList, Cursor.tokenize_eq_ok_iff.mpr hfeed]
  simp [Except.map, hts]

theorem textLexemes_magnitude (hx : x ≠ nan) (h : x.isBelowZero = false) :
    x.textLexemes = .ok (x.unsigned.spelling ++ [.endOfInput]) := by
  have hchars : x.chars = x.unsigned.chars := by
    rw [chars_eq_signed x, h]
    rfl
  have hstops : Cursor.Stops Cursor.isWordlike [] := nofun
  have hreads := Cursor.reads_chars hstops _ (isLiteral_unsigned hx)
  rw [← hchars] at hreads
  exact textLexemes_of_reads hreads

theorem textLexemes_nan : nan.textLexemes = .ok [.name "nan", .endOfInput] := by
  have hreads : Cursor.Reads ['n', 'a', 'n'] [] [.name "nan"] :=
    Cursor.reads_name ['n', 'a', 'n'] rfl (by simp [Cursor.Stops])
  exact textLexemes_of_reads (x := nan) hreads

theorem textLexemes_infinity : (infinity false).textLexemes = .ok [.name "inf", .endOfInput] :=
  textLexemes_magnitude nofun rfl

theorem textLexemes_tiny (h : x.isTiny = true) :
    ∃ a b, x.textLexemes = .ok [.number a, .name "e", .minus, .number b, .endOfInput] := by
  rcases x with _ | s | ⟨_ | _, r⟩
  · cases h
  · cases h
  · have hlexemes := textLexemes_magnitude (x := finite false r) nofun rfl
    rw [unsigned, spelling_tiny rfl h] at hlexemes
    exact ⟨_, _, hlexemes⟩
  · cases h

theorem textLexemes_plain (h : x.isPlain = true) :
    x.textLexemes = .ok [.number x.unsigned, .endOfInput] := by
  have hsign := isBelowZero_of_isPlain h
  rcases x with _ | s | ⟨s, r⟩
  · cases h
  · cases h
  · have htiny : (finite false r).isTiny = false := by
      rcases s with _ | _
      · exact ((isPlain_iff rfl).mp h).1
      · rw [isPlain, Bool.not_true, Bool.false_and, Bool.or_false, beq_iff_eq] at h
        rw [isTiny, h]
        rfl
    have hnan : finite s r ≠ nan := by simp
    have hlexemes := textLexemes_magnitude hnan hsign
    rw [unsigned, spelling_plain rfl htiny] at hlexemes
    exact hlexemes

theorem tokenize_minus {cs : List Char} {ts : List Token} (h : tokenize cs = .ok ts) :
    tokenize ('-' :: cs) = .ok (⟨.minus, 0⟩ :: ts.map (Token.moved 1)) := by
  rw [Cursor.tokenize_eq_ok_iff] at h ⊢
  have hmoved := Cursor.feed_moved 1 (Cursor.start cs)
  rw [h] at hmoved
  have hfeed := Cursor.feed_of_token (Cursor.next_symbol (x := '-') rfl 0 cs) nofun
  rw [show (⟨0 + 1, cs⟩ : Cursor) = (Cursor.start cs).moved 1 from rfl, hmoved] at hfeed
  exact hfeed

theorem exists_tokens_of_textLexemes {ls : List Lexeme} (h : x.textLexemes = .ok ls) :
    ∃ ts, tokenize x.text.toList = .ok ts ∧ ts.map Token.lexeme = ls := by
  unfold textLexemes at h
  rcases ht : tokenize x.text.toList with e | ts
  · rw [ht] at h
    cases h
  · rw [ht] at h
    cases h
    exact ⟨ts, rfl, rfl⟩

/-- A number below zero is read as a sign before its negation. -/
theorem tokenize_below (h : x.isBelowZero = true) : ∃ ts, tokenize x.neg.text.toList = .ok ts ∧
    tokenize x.text.toList = .ok (⟨.minus, 0⟩ :: ts.map (Token.moved 1)) := by
  have hx : x ≠ nan := by
    rintro rfl
    cases h
  have hneg : x.neg ≠ nan ∧ x.neg.isBelowZero = false := by
    rw [neg_of_isBelowZero h]
    rcases x with _ | s | ⟨s, r⟩
    · exact absurd rfl hx
    · exact ⟨nofun, rfl⟩
    · exact ⟨nofun, rfl⟩
  obtain ⟨ts, hts, -⟩ := exists_tokens_of_textLexemes (textLexemes_magnitude hneg.1 hneg.2)
  have htext : x.text.toList = '-' :: x.neg.text.toList := by
    rw [text, text, String.toList_ofList, String.toList_ofList, chars_eq_signed x, h,
      neg_of_isBelowZero h]
    rfl
  exact ⟨ts, hts, by rw [htext, tokenize_minus hts]⟩

/-- A number is one of five kinds. -/
theorem kinds (x : Binary64) : x = nan ∨ x = infinity false ∨ x.isBelowZero = true ∨
    x.isTiny = true ∨ x.isPlain = true := by
  rcases x with _ | (_ | _) | ⟨_ | _, r⟩
  · simp
  · simp
  · simp [isBelowZero]
  · rcases ht : (finite false r).isTiny with _ | _
    · have hplain := isPlain_finite r
      simp [hplain, ht]
    · simp
  · by_cases hr : r.val = 0
    · have hplain : (finite true r).isPlain = true := by
        rw [isPlain, hr]
        rfl
      simp [hplain]
    · simp [isBelowZero, hr]

/-- **What the text of a number is read as.** It is one number, and equal to the one written, exactly
if this is zero or at least `10 ^ (-4)`. Below that it has a power of ten, which is read as a name, a
sign and a number; infinity and NaN are names; and a number below zero is a sign before its negation.
But for NaN, only numbers that are equal have the same text. -/
theorem number_text_tokens (x : Binary64) :
    ((∃ v, x.textLexemes = .ok [.number v, .endOfInput] ∧ v.numEq x = true) ↔
      ∃ v, x.rational? = some v ∧ (v = 0 ∨ (10 : ℚ) ^ (-4 : ℤ) ≤ v)) ∧
    ((∃ v, x.rational? = some v ∧ 0 < v ∧ v < (10 : ℚ) ^ (-4 : ℤ)) →
      ∃ a b, x.textLexemes = .ok [.number a, .name "e", .minus, .number b, .endOfInput]) ∧
    (x = infinity false ∨ x = nan → ∃ s, x.textLexemes = .ok [.name s, .endOfInput]) ∧
    (x = infinity true ∨ (∃ v, x.rational? = some v ∧ v < 0) →
      ∃ ts, tokenize x.neg.text.toList = .ok ts ∧
        tokenize x.text.toList = .ok (⟨.minus, 0⟩ :: ts.map (Token.moved 1))) ∧
    ∀ y, x ≠ nan → y ≠ nan → (x.text = y.text ↔ x.numEq y = true) := by
  rw [← isPlain_iff_rational, ← isTiny_iff_rational, ← isBelowZero_iff_rational]
  refine ⟨⟨?_, ?_⟩, textLexemes_tiny, ?_, tokenize_below, fun y => text_eq_iff⟩
  · rintro ⟨v, hv, -⟩
    obtain rfl | rfl | h | h | h := kinds x
    · rw [textLexemes_nan] at hv
      cases hv
    · rw [textLexemes_infinity] at hv
      cases hv
    · obtain ⟨ts, -, ht⟩ := tokenize_below h
      rw [textLexemes, ht] at hv
      cases hv
    · obtain ⟨a, b, ht⟩ := textLexemes_tiny h
      rw [ht] at hv
      cases hv
    · exact h
  · intro h
    have hx : x ≠ nan := by
      rintro rfl
      cases h
    exact ⟨x.unsigned, textLexemes_plain h, numEq_unsigned hx (isBelowZero_of_isPlain h)⟩
  · rintro (rfl | rfl)
    · exact ⟨_, textLexemes_infinity⟩
    · exact ⟨_, textLexemes_nan⟩

/-- The least numeral that is read back and a smaller one, NaN, infinity below zero, and the two
zeros. -/
theorem number_text_tokens_bounds :
    (∃ v, (numeralValue "0.0001".toList).textLexemes = .ok [.number v, .endOfInput] ∧
      v.numEq (numeralValue "0.0001".toList) = true) ∧
    (∃ a b, (numeralValue "0.00005".toList).textLexemes =
      .ok [.number a, .name "e", .minus, .number b, .endOfInput]) ∧
    (∃ s, nan.textLexemes = .ok [.name s, .endOfInput]) ∧
    (∃ ts, tokenize (infinity false).text.toList = .ok ts ∧
      tokenize (infinity true).text.toList = .ok (⟨.minus, 0⟩ :: ts.map (Token.moved 1))) ∧
    (zero true).text = (zero false).text := by
  refine ⟨?_, ?_, ?_, ?_, ?_⟩
  · exact (number_text_tokens _).1.mpr (isPlain_iff_rational.mp (by decide +kernel))
  · exact (number_text_tokens _).2.1 (isTiny_iff_rational.mp (by decide +kernel))
  · exact (number_text_tokens nan).2.2.1 (.inr rfl)
  · exact (number_text_tokens (infinity true)).2.2.2.1 (.inl rfl)
  · exact ((number_text_tokens (zero true)).2.2.2.2 (zero false) nofun nofun).mpr (by decide)

end Binary64

end BlockCalc
