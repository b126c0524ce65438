import BlockCalc.Proofs.Number.Rounding
import BlockCalc.Token.Lexer

/-! # The text of a number as a numeral

A number of the language is written in one of three ways. A whole number and a number that is at least
`10 ^ (-4)` are written as a numeral, which has the number for its value (`numeral_chars`). A smaller
number is written with an exponent: a numeral, the letter `e`, a minus sign and a numeral
(`numeral_chars_tiny`). Infinity is written as a name.

Only numbers that are not whole are written with a point, and these are less than `2 ^ 53`, so an
exponent is never positive. -/

namespace BlockCalc

namespace Binary64

/-- Finite, and zero or at least `10 ^ (-4)`. -/
def isPlain : Binary64 → Bool
  | finite s r => r.val == 0 || (!s && decide (one ≤ units r * 10000))
  | _ => false

/-- Strictly between zero and `10 ^ (-4)`. -/
def isTiny : Binary64 → Bool
  | finite false r => r.val != 0 && decide (units r * 10000 < one)
  | _ => false

/-- An infinity of either sign. -/
def isInfinite : Binary64 → Bool
  | infinity _ => true
  | _ => false

end Binary64

/-! ### Numerals -/

/-- Digits and points that spell a number. -/
structure Numeral (run : List Char) : Prop where
  nonempty : run ≠ []
  chars : ∀ c ∈ run, isNumberChar c = true
  spells : isNumeral run = true

theorem isNumberChar_of_isDigit {c : Char} (h : isDigit c = true) : isNumberChar c = true := by
  rw [isNumberChar, h]
  rfl

theorem ne_point_of_isDigit {c : Char} (h : isDigit c = true) : c ≠ '.' := by
  rintro rfl
  cases h

theorem isDigit_of_mem_toDigits {n : Nat} {c : Char} (h : c ∈ Nat.toDigits 10 n) :
    isDigit c = true :=
  Nat.isDigit_of_mem_toDigits (by decide) (by decide) h

theorem isDigit_of_mem_zeros {n : Nat} {c : Char} (h : c ∈ zeros n) : isDigit c = true := by
  rw [List.eq_of_mem_replicate h]
  rfl

theorem count_point_digits {ds : List Char} (h : ∀ c ∈ ds, isDigit c = true) : ds.count '.' = 0 :=
  List.count_eq_zero.mpr fun hm => ne_point_of_isDigit (h _ hm) rfl

theorem numeral_digits {ds : List Char} (hne : ds ≠ []) (h : ∀ c ∈ ds, isDigit c = true) :
    Numeral ds where
  nonempty := hne
  chars c hc := isNumberChar_of_isDigit (h c hc)
  spells := by
    rw [isNumeral, count_point_digits h, Bool.and_eq_true]
    refine ⟨rfl, ?_⟩
    rw [bne_iff_ne]
    rintro rfl
    exact ne_point_of_isDigit (h '.' List.mem_cons_self) rfl

theorem numeral_point {ws ps : List Char} (hne : ws ≠ []) (hw : ∀ c ∈ ws, isDigit c = true)
    (hp : ∀ c ∈ ps, isDigit c = true) : Numeral (ws ++ '.' :: ps) where
  nonempty := by simp
  chars c hc := by
    rcases List.mem_append.mp hc with hc | hc
    · exact isNumberChar_of_isDigit (hw c hc)
    · rcases List.mem_cons.mp hc with rfl | hc
      · rfl
      · exact isNumberChar_of_isDigit (hp c hc)
  spells := by
    rw [isNumeral, List.count_append, List.count_cons_self, count_point_digits hw,
      count_point_digits hp, Bool.and_eq_true]
    refine ⟨rfl, ?_⟩
    rw [bne_iff_ne]
    intro he
    obtain ⟨w, ws, rfl⟩ := List.exists_cons_of_ne_nil hne
    exact ne_point_of_isDigit (hw w List.mem_cons_self) (List.cons.inj he).1

theorem ofLiteral_digits {ds : List Char} (h : ∀ c ∈ ds, isDigit c = true) :
    Decimal.ofLiteral ds = ⟨Nat.ofDigitChars 10 ds 0, 0⟩ := by
  have hd : ∀ c ∈ ds, (c != '.') = true := fun c hc => bne_iff_ne.mpr (ne_point_of_isDigit (h c hc))
  have h1 : ds.takeWhile (· != '.') = ds := by
    simpa using @List.takeWhile_append_of_pos _ _ ds [] hd
  have h2 : ds.dropWhile (· != '.') = [] := by
    simpa using @List.dropWhile_append_of_pos _ _ ds [] hd
  simp [Decimal.ofLiteral, h1, h2]

theorem ofLiteral_point {ws ps : List Char} (h : ∀ c ∈ ws, isDigit c = true) :
    Decimal.ofLiteral (ws ++ '.' :: ps) = ⟨Nat.ofDigitChars 10 (ws ++ ps) 0, -(ps.length : Int)⟩ := by
  have hd : ∀ c ∈ ws, (c != '.') = true := fun c hc => bne_iff_ne.mpr (ne_point_of_isDigit (h c hc))
  have h1 : (ws ++ '.' :: ps).takeWhile (· != '.') = ws := by
    simpa using @List.takeWhile_append_of_pos _ _ ws ('.' :: ps) hd
  have h2 : (ws ++ '.' :: ps).dropWhile (· != '.') = '.' :: ps := by
    simpa using @List.dropWhile_append_of_pos _ _ ws ('.' :: ps) hd
  simp only [Decimal.ofLiteral, h1, h2, List.drop_succ_cons, List.drop_zero]

/-! ### Digits with a point, and with an exponent -/

theorem ofDigitChars_zeros (n : Nat) (cs : List Char) :
    Nat.ofDigitChars 10 (zeros n ++ cs) 0 = Nat.ofDigitChars 10 cs 0 := by
  rw [Nat.ofDigitChars_append, zeros, Nat.ofDigitChars_replicate_zero, Nat.mul_zero]

/-- Digits with a point between them spell a number, and this is its value. -/
theorem numeral_point_value (ws ps : List Char) {v : ℚ} (hne : ws ≠ [])
    (hw : ∀ c ∈ ws, isDigit c = true) (hp : ∀ c ∈ ps, isDigit c = true)
    (hv : Decimal.value ⟨Nat.ofDigitChars 10 (ws ++ ps) 0, -(ps.length : Int)⟩ = v) :
    Numeral (ws ++ '.' :: ps) ∧ (Decimal.ofLiteral (ws ++ '.' :: ps)).value = v :=
  ⟨numeral_point hne hw hp, by rw [ofLiteral_point hw, hv]⟩

theorem isDigit_append {cs ds : List Char} (hc : ∀ c ∈ cs, isDigit c = true)
    (hd : ∀ c ∈ ds, isDigit c = true) : ∀ c ∈ cs ++ ds, isDigit c = true :=
  fun c h => (List.mem_append.mp h).elim (hc c) (hd c)

/-- Digits with a point have the value of the decimal. -/
theorem numeral_positional (d : Decimal) :
    Numeral (positional (Nat.toDigits 10 d.digits) (Decimal.digitCount d.digits + d.exponent)) ∧
      (Decimal.ofLiteral (positional (Nat.toDigits 10 d.digits)
        (Decimal.digitCount d.digits + d.exponent))).value = d.value := by
  have hds : ∀ c ∈ Nat.toDigits 10 d.digits, isDigit c = true := fun c => isDigit_of_mem_toDigits
  have hval : Nat.ofDigitChars 10 (Nat.toDigits 10 d.digits) 0 = d.digits :=
    Nat.ofDigitChars_ten_toDigits
  have hne : Nat.toDigits 10 d.digits ≠ [] := Nat.toDigits_ne_nil
  rw [show Decimal.digitCount d.digits = (Nat.toDigits 10 d.digits).length from rfl]
  generalize Nat.toDigits 10 d.digits = ds at hds hval hne
  unfold positional
  split_ifs with h0 h1
  · -- The point stands before the digits.
    refine numeral_point_value ['0'] (zeros (-((ds.length : ℤ) + d.exponent)).toNat ++ ds) nofun
      (by simp [isDigit]) (isDigit_append (fun c => isDigit_of_mem_zeros) hds) ?_
    have hz : ['0'] ++ (zeros (-((ds.length : ℤ) + d.exponent)).toNat ++ ds) =
        zeros ((-((ds.length : ℤ) + d.exponent)).toNat + 1) ++ ds := rfl
    have he : -((zeros (-((ds.length : ℤ) + d.exponent)).toNat ++ ds).length : ℤ) = d.exponent := by
      rw [List.length_append, zeros, List.length_replicate]
      omega
    rw [hz, ofDigitChars_zeros, hval, he]
  · -- The point stands behind the digits and more zeros.
    obtain ⟨k, hk⟩ : ∃ k : ℕ, d.exponent = k := ⟨d.exponent.toNat, by omega⟩
    have hk' : ((ds.length : ℤ) + d.exponent).toNat - ds.length = k := by omega
    rw [hk']
    refine numeral_point_value (ds ++ zeros k) ['0'] (by simp [hne])
      (isDigit_append hds fun c => isDigit_of_mem_zeros) (by simp [isDigit]) ?_
    have hz : ds ++ zeros k ++ ['0'] = ds ++ zeros (k + 1) := by
      rw [List.append_assoc, zeros, zeros, List.replicate_succ']
    have hn : Nat.ofDigitChars 10 (ds ++ zeros k ++ ['0']) 0 = 10 ^ (k + 1) * d.digits := by
      rw [hz, Nat.ofDigitChars_append, hval, zeros, Nat.ofDigitChars_replicate_zero]
    rw [hn, Decimal.value, Decimal.value, hk, zpow_natCast]
    push_cast
    rw [List.length_singleton, Nat.cast_one, zpow_neg_one]
    ring
  · -- The point stands among the digits.
    have hn : ((ds.length : ℤ) + d.exponent).toNat < ds.length := Nat.lt_of_not_le h1
    refine numeral_point_value _ _ ?_ (fun c hc => hds c (List.mem_of_mem_take hc))
      (fun c hc => hds c (List.mem_of_mem_drop hc)) ?_
    · intro h
      have := congrArg List.length h
      rw [List.length_take, List.length_nil] at this
      omega
    · have he : -((ds.drop ((ds.length : ℤ) + d.exponent).toNat).length : ℤ) = d.exponent := by
        rw [List.length_drop]
        omega
      rw [List.take_append_drop, hval, he]

/-- The value of a numeral times a negative power of ten. -/
def Decimal.scaled (mantissa power : List Char) : ℚ :=
  (Decimal.ofLiteral mantissa).value * (10 : ℚ) ^ (-(Nat.ofDigitChars 10 power 0 : ℤ))

/-- Digits with an exponent begin with a numeral, in which the point stands after the first digit. -/
theorem numeral_mantissa {ds : List Char} (hne : ds ≠ []) (hds : ∀ c ∈ ds, isDigit c = true) :
    ∃ mantissa, Numeral mantissa ∧ (Decimal.ofLiteral mantissa).value =
        Decimal.value ⟨Nat.ofDigitChars 10 ds 0, 1 - (ds.length : ℤ)⟩ ∧
      ∀ width exponent, scientific width ds exponent =
        mantissa ++ 'e' :: (if exponent < 0 then '-' else '+') ::
          (zeros (width - (Nat.toDigits 10 exponent.natAbs).length) ++
            Nat.toDigits 10 exponent.natAbs) := by
  obtain ⟨c, rest, rfl⟩ := List.exists_cons_of_ne_nil hne
  rcases rest with _ | ⟨d, rest⟩
  · exact ⟨[c], numeral_digits hne hds, by rw [ofLiteral_digits hds]; rfl, fun _ _ => rfl⟩
  · have hc : ∀ x ∈ [c], isDigit x = true := fun x hx => hds x (List.mem_of_mem_take (i := 1) hx)
    have hrest : ∀ x ∈ d :: rest, isDigit x = true := fun x hx => hds x (List.mem_cons_of_mem c hx)
    have hlength : -((d :: rest).length : ℤ) = 1 - ((c :: d :: rest).length : ℤ) := by
      simp only [List.length_cons]
      omega
    obtain ⟨hnumeral, hvalue⟩ := numeral_point_value [c] (d :: rest) (by simp) hc hrest rfl
    rw [hlength] at hvalue
    exact ⟨_, hnumeral, hvalue, fun _ _ => rfl⟩

/-- Digits with a negative exponent are a numeral, a letter, a sign and a numeral, and have the value
of the first numeral times the power of ten that the second one gives. -/
theorem numeral_scientific (width n : Nat) {exponent : ℤ} (he : exponent < 0) :
    ∃ mantissa power, scientific width (Nat.toDigits 10 n) exponent = mantissa ++ 'e' :: '-' :: power ∧
      Numeral mantissa ∧ Numeral power ∧
      Decimal.scaled mantissa power = Decimal.value ⟨n, exponent + 1 - Decimal.digitCount n⟩ := by
  have hds : ∀ c ∈ Nat.toDigits 10 n, isDigit c = true := fun c => isDigit_of_mem_toDigits
  obtain ⟨mantissa, hmantissa, hvalue, htext⟩ := numeral_mantissa Nat.toDigits_ne_nil hds
  refine ⟨mantissa, _, by rw [htext, if_pos he], hmantissa, ?_, ?_⟩
  · refine numeral_digits (fun h => ?_)
      (isDigit_append (fun c => isDigit_of_mem_zeros) fun c => isDigit_of_mem_toDigits)
    exact Nat.toDigits_ne_nil (List.append_eq_nil_iff.mp h).2
  · have hpower : -((exponent.natAbs : ℕ) : ℤ) = exponent := by omega
    have hexponent : (1 - ((Nat.toDigits 10 n).length : ℤ)) + exponent =
        exponent + 1 - Decimal.digitCount n := by
      unfold Decimal.digitCount
      omega
    rw [Decimal.scaled, hvalue, ofDigitChars_zeros, Nat.ofDigitChars_ten_toDigits,
      Nat.ofDigitChars_ten_toDigits, hpower, Decimal.value, Decimal.value, mul_assoc,
      ← zpow_add₀ (by norm_num), hexponent]

theorem write_positional {d : Decimal} (hd : 0 < d.digits) (h1 : (10 : ℚ) ^ (-4 : ℤ) ≤ d.value)
    (h2 : d.value < (10 : ℚ) ^ (16 : ℤ)) :
    Layout.standard.write d =
      positional (Nat.toDigits 10 d.digits) (Decimal.digitCount d.digits + d.exponent) := by
  obtain ⟨hb1, hb2⟩ := Decimal.value_bounds hd
  have hlow := (zpow_lt_zpow_iff_right₀ (by norm_num)).mp (lt_of_le_of_lt h1 hb2)
  have hhigh := (zpow_lt_zpow_iff_right₀ (by norm_num)).mp (lt_of_le_of_lt hb1 h2)
  have hc : (-4 : ℤ) ≤ Decimal.digitCount d.digits + d.exponent - 1 ∧
      Decimal.digitCount d.digits + d.exponent - 1 < (16 : ℤ) := by omega
  exact if_pos hc

theorem write_scientific {d : Decimal} (hd : 0 < d.digits) (h : d.value < (10 : ℚ) ^ (-4 : ℤ)) :
    ∃ mantissa power, Layout.standard.write d = mantissa ++ 'e' :: '-' :: power ∧
      Numeral mantissa ∧ Numeral power ∧ d.value = Decimal.scaled mantissa power := by
  obtain ⟨hb1, -⟩ := Decimal.value_bounds hd
  have hhigh := (zpow_lt_zpow_iff_right₀ (by norm_num)).mp (lt_of_le_of_lt hb1 h)
  have he : Decimal.digitCount d.digits + d.exponent - 1 < 0 := by omega
  have hc : ¬ ((-4 : ℤ) ≤ Decimal.digitCount d.digits + d.exponent - 1 ∧
      Decimal.digitCount d.digits + d.exponent - 1 < (16 : ℤ)) := by omega
  have hwrite : Layout.standard.write d =
      scientific 2 (Nat.toDigits 10 d.digits) (Decimal.digitCount d.digits + d.exponent - 1) :=
    if_neg hc
  obtain ⟨mantissa, power, htext, hm, hp, hvalue⟩ := numeral_scientific 2 d.digits he
  refine ⟨mantissa, power, hwrite.trans htext, hm, hp, ?_⟩
  rw [hvalue, sub_add_cancel, add_sub_cancel_left]

/-! ### The text of a number -/

namespace Binary64

theorem numeralValue_of_rank {run : List Char} {r : Fin rankCount}
    (h : (Decimal.ofLiteral run).rank = r) : numeralValue run = finite false r := by
  have hlt : (Decimal.ofLiteral run).rank < rankCount := h ▸ r.isLt
  rw [numeralValue, Decimal.toBinary64, nearest]
  refine (dif_pos hlt).trans ?_
  congr 1
  exact Fin.ext h

theorem ten_pow_le_iff {rank : Nat} :
    (10 : ℚ) ^ (-4 : ℤ) ≤ amount rank ↔ one ≤ units rank * 10000 := by
  have hone : (0 : ℚ) < one := Nat.cast_pos.mpr Decimal.one_pos
  rw [amount, le_div_iff₀ hone, ← Nat.cast_le (α := ℚ), Nat.cast_mul]
  generalize one = o
  constructor <;> intro h <;> norm_num at h ⊢ <;> linarith

theorem amount_lt_of_not_whole {rank : Nat} (h : units rank % one ≠ 0) :
    amount rank < (10 : ℚ) ^ (16 : ℤ) := by
  have hlt : units rank < 10 ^ 16 * one := by
    unfold units at h ⊢
    split_ifs at h ⊢ with hr
    · have : one ≤ 10 ^ 16 * one := Nat.le_mul_of_pos_left _ (by decide)
      have hb : binade ≤ one := by decide +kernel
      omega
    · have hm : rank % binade < binade := Nat.mod_lt _ (by decide)
      have he : rank / binade - 1 < 1074 := by
        by_contra hge
        refine h (Nat.mod_eq_zero_of_dvd (Dvd.dvd.mul_left ?_ _))
        exact Nat.pow_dvd_pow 2 (Nat.le_of_not_lt hge)
      calc (rank % binade + binade) * Nat.pow 2 (rank / binade - 1)
          ≤ (rank % binade + binade) * one :=
            Nat.mul_le_mul_left _ (Nat.pow_le_pow_right (by decide) he.le)
        _ < 10 ^ 16 * one := by
            have hb : binade + binade ≤ 10 ^ 16 := by decide
            exact Nat.mul_lt_mul_of_pos_right (by omega) Decimal.one_pos
  have hone : (0 : ℚ) < one := Nat.cast_pos.mpr Decimal.one_pos
  rw [amount, div_lt_iff₀ hone]
  exact_mod_cast hlt

theorem units_zero : units 0 = 0 := rfl

theorem units_pos {rank : Nat} (h : rank ≠ 0) : 0 < units rank := by
  unfold units
  split
  · omega
  · exact Nat.mul_pos (Nat.add_pos_right _ (by decide)) (Nat.two_pow_pos _)

theorem units_pos_of_not_whole {rank : Nat} (h : units rank % one ≠ 0) : 0 < units rank := by
  rcases Nat.eq_zero_or_pos (units rank) with h0 | hp
  · rw [h0] at h
    exact absurd (Nat.zero_mod _) h
  · exact hp

theorem chars_whole {r : Fin rankCount} (h : units r % one = 0) :
    (finite false r).chars = Nat.toDigits 10 (units r / one) := by
  unfold chars
  dsimp only
  rw [if_pos h, Bool.false_and, signed, if_neg Bool.false_ne_true]

theorem chars_not_whole {r : Fin rankCount} (h : units r % one ≠ 0) :
    (finite false r).chars = Layout.standard.write (Decimal.shortest r).trim := by
  have hr : r.val ≠ 0 := by
    intro h0
    rw [h0, units_zero, Nat.zero_mod] at h
    exact h rfl
  unfold chars
  dsimp only
  rw [if_neg h, pointChars, if_neg hr, signed, if_neg Bool.false_ne_true]

theorem numeral_chars_whole {r : Fin rankCount} (h : units r % one = 0) :
    Numeral (finite false r).chars ∧ numeralValue (finite false r).chars = finite false r := by
  have hds : ∀ c ∈ Nat.toDigits 10 (units r / one), isDigit c = true :=
    fun c => isDigit_of_mem_toDigits
  have hone : (one : ℚ) ≠ 0 := Nat.cast_ne_zero.mpr Decimal.one_pos.ne'
  rw [chars_whole h]
  refine ⟨numeral_digits Nat.toDigits_ne_nil hds, numeralValue_of_rank (Decimal.rank_of_value ?_)⟩
  rw [ofLiteral_digits hds, Nat.ofDigitChars_ten_toDigits, Decimal.value, zpow_zero, mul_one, amount,
    eq_div_iff hone, ← Nat.cast_mul, Nat.div_mul_cancel (Nat.dvd_of_mod_eq_zero h)]

theorem near_trim_shortest {r : Fin rankCount} (h : units r % one ≠ 0) :
    Decimal.Near r (Decimal.shortest r).trim :=
  (Decimal.near_shortest (units_pos_of_not_whole h)).trim

/-- **A plain number is written as a numeral that has it for its value.** -/
theorem numeral_chars {r : Fin rankCount} (h : (finite false r).isPlain = true) :
    Numeral (finite false r).chars ∧ numeralValue (finite false r).chars = finite false r := by
  by_cases hw : units r % one = 0
  · exact numeral_chars_whole hw
  · have hu := units_pos_of_not_whole hw
    have hn := near_trim_shortest hw
    have hge : one ≤ units r * 10000 := by
      rw [isPlain, Bool.or_eq_true, Bool.not_false, Bool.true_and, decide_eq_true_iff] at h
      refine h.resolve_left fun h0 => hw ?_
      rw [eq_of_beq h0, units_zero, Nat.zero_mod]
    have hne : r.val ≠ Decimal.rank ⟨1, 16⟩ := by
      intro he
      rw [he] at hw
      exact hw (by decide +kernel)
    rw [chars_not_whole hw, write_positional hn.digits_pos (hn.pow_le hu (ten_pow_le_iff.mpr hge))
      (hn.lt_pow hu (amount_lt_of_not_whole hw) hne)]
    obtain ⟨hnum, hval⟩ := numeral_positional (Decimal.shortest r).trim
    exact ⟨hnum, numeralValue_of_rank ((Decimal.rank_congr hval).trans hn.reads)⟩

/-- **A tiny number is written with a negative exponent**, in digits that read back as it. -/
theorem numeral_chars_tiny {r : Fin rankCount} (h : (finite false r).isTiny = true) :
    ∃ mantissa power, (finite false r).chars = mantissa ++ 'e' :: '-' :: power ∧
      Numeral mantissa ∧ Numeral power ∧
      ∃ d : Decimal, d.rank = r ∧ d.value = Decimal.scaled mantissa power := by
  rw [isTiny, Bool.and_eq_true, decide_eq_true_iff] at h
  have hlt : amount r < (10 : ℚ) ^ (-4 : ℤ) := by
    rw [← not_le, ten_pow_le_iff]
    exact Nat.not_le.mpr h.2
  have hu : 0 < units r := units_pos (bne_iff_ne.mp h.1)
  have hw : units r % one ≠ 0 := by
    rw [Nat.mod_eq_of_lt (by omega)]
    exact hu.ne'
  have hn := near_trim_shortest hw
  have hne : r.val ≠ Decimal.rank ⟨1, -4⟩ := by
    intro he
    have hle : one ≤ units (Decimal.rank ⟨1, -4⟩) * 10000 := by decide +kernel
    rw [← he] at hle
    omega
  obtain ⟨mantissa, power, hwrite, hm, hp, hvalue⟩ :=
    write_scientific hn.digits_pos (hn.lt_pow hu hlt hne)
  refine ⟨mantissa, power, ?_, hm, hp, _, hn.reads, hvalue⟩
  rw [chars_not_whole hw, hwrite]

end Binary64

end BlockCalc
