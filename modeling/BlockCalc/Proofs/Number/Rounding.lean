import BlockCalc.Number.Decimal
import Mathlib.Algebra.Order.Field.Power
import Mathlib.Algebra.Order.Field.Rat
import Mathlib.Tactic.FieldSimp
import Mathlib.Tactic.Linarith
import Mathlib.Tactic.Positivity
import Mathlib.Tactic.Ring

/-! # Decimals that read back

The value of a decimal is a rational number, and so is the value of a rank. Reading a decimal rounds
its value, and the rank depends on nothing else (`Decimal.rank_congr`); the value of a rank is rounded
to this rank (`Decimal.rank_of_value`).

* `Decimal.near_shortest`: the shortest decimal of a rank reads back as this rank, and no power of
  ten lies strictly between the two.
* `Decimal.value_trim`: leaving out zeros at the end does not change the value. -/

namespace BlockCalc

namespace Binary64

/-! ### Rounding -/

theorem halfEven_mul_right (num den : Nat) {c : Nat} (hc : 0 < c) :
    halfEven (num * c) (den * c) = halfEven num den := by
  simp only [halfEven, Nat.mul_div_mul_right _ _ hc, Nat.mul_mod_mul_right, ← Nat.mul_assoc,
    Nat.mul_lt_mul_right hc]

theorem halfEven_mul_self (q : Nat) {den : Nat} (h : 0 < den) : halfEven (q * den) den = q := by
  simp [halfEven, Nat.mul_div_cancel _ h, h]

theorem halfEven_cases (num den : Nat) :
    halfEven num den = num / den ∨ halfEven num den = num / den + 1 := by
  unfold halfEven
  dsimp only
  split_ifs
  · exact .inl rfl
  · exact .inr rfl
  · omega

theorem nearestRank_mul_right (num den : Nat) {c : Nat} (hc : 0 < c) :
    nearestRank (num * c) (den * c) = nearestRank num den := by
  have he : excess (num * c) (den * c) = excess num den := by
    rw [excess, excess, Nat.mul_div_mul_right _ _ hc]
  rw [nearestRank, nearestRank, he, Nat.mul_right_comm, halfEven_mul_right _ _ hc]

theorem nearestRank_congr {a b c d : Nat} (hb : 0 < b) (hd : 0 < d) (h : a * d = c * b) :
    nearestRank a b = nearestRank c d := by
  rw [← nearestRank_mul_right a b hd, ← nearestRank_mul_right c d hb, h, Nat.mul_comm b d]

theorem log2_mul_two_pow {m e : Nat} (h1 : binade ≤ m) (h2 : m < 2 * binade) :
    Nat.log2 (m * 2 ^ e) = 52 + e := by
  have hm : m * 2 ^ e ≠ 0 := Nat.mul_ne_zero (by omega) (Nat.two_pow_pos e).ne'
  have h52 : binade = 2 ^ 52 := rfl
  rw [h52] at h1 h2
  rw [Nat.log2_eq_iff hm]
  constructor
  · rw [Nat.pow_add]
    exact Nat.mul_le_mul_right _ h1
  · calc m * 2 ^ e < 2 * 2 ^ 52 * 2 ^ e := Nat.mul_lt_mul_of_pos_right h2 (Nat.two_pow_pos e)
      _ = 2 ^ (52 + e + 1) := by rw [Nat.pow_succ, Nat.pow_add]; ring

/-- **A magnitude is rounded to its own rank.** -/
theorem nearestRank_units (rank : Nat) : nearestRank (units rank) 1 = rank := by
  unfold units
  split
  · next h =>
    have hl : Nat.log2 rank - 52 = 0 := by
      rcases Nat.eq_zero_or_pos rank with rfl | hp
      · rfl
      · have := (Nat.log2_lt hp.ne').mpr (show rank < 2 ^ 52 from h)
        omega
    have he : excess rank 1 = 0 := by rw [excess, Nat.div_one, hl]
    have := halfEven_mul_self rank Nat.one_pos
    rw [Nat.mul_one] at this
    rw [nearestRank, he, show 1 * Nat.pow 2 0 = 1 from rfl, this, Nat.zero_mul, Nat.zero_add]
  · next h =>
    have hm : rank % binade < binade := Nat.mod_lt _ (by decide)
    have he : excess ((rank % binade + binade) * Nat.pow 2 (rank / binade - 1)) 1 =
        rank / binade - 1 := by
      rw [excess, Nat.div_one]
      exact (congrArg (· - 52) (log2_mul_two_pow (by omega) (by omega))).trans (by omega)
    have hp : 0 < Nat.pow 2 (rank / binade - 1) := Nat.two_pow_pos _
    rw [nearestRank, he, Nat.one_mul, halfEven_mul_self _ hp]
    have hd := Nat.div_add_mod rank binade
    have hq : 1 ≤ rank / binade := Nat.div_pos (by omega) (by decide)
    rw [Nat.sub_mul, Nat.mul_comm]
    have : binade ≤ binade * (rank / binade) := Nat.le_mul_of_pos_right _ hq
    omega

/-- The value of a rank. -/
def amount (rank : Nat) : ℚ := units rank / one

end Binary64

namespace Decimal

open Binary64

/-! ### Values -/

/-- The value of a decimal. -/
def value (d : Decimal) : ℚ := d.digits * 10 ^ d.exponent

theorem one_pos : 0 < one := by decide +kernel

theorem den_pos (d : Decimal) : 0 < d.den := Nat.pow_pos (by decide)

theorem ten_zpow (e : ℤ) : (10 : ℚ) ^ e * (10 : ℚ) ^ (-e).toNat = (10 : ℚ) ^ e.toNat := by
  rw [← zpow_natCast, ← zpow_natCast, ← zpow_add₀ (by norm_num)]
  congr 1
  omega

theorem value_mul (d : Decimal) : d.value * one * d.den = d.num := by
  have h := ten_zpow d.exponent
  have hd : (d.den : ℚ) = 10 ^ (-d.exponent).toNat := Nat.cast_pow 10 _
  have hn : (d.num : ℚ) = d.digits * 10 ^ d.exponent.toNat * one := by
    rw [num, Nat.cast_mul, Nat.cast_mul]
    congr 2
    exact Nat.cast_pow 10 _
  rw [hd, hn, ← h, value]
  ring

/-- **The rank of a decimal depends on its value only.** -/
theorem rank_congr {c d : Decimal} (h : c.value = d.value) : c.rank = d.rank := by
  refine nearestRank_congr c.den_pos d.den_pos ?_
  have : (c.num : ℚ) * d.den = d.num * c.den := by
    rw [← value_mul c, ← value_mul d, h]
    ring
  exact_mod_cast this

/-- **A decimal with the value of a rank reads back as it.** -/
theorem rank_of_value {d : Decimal} {rank : Nat} (h : d.value = amount rank) : d.rank = rank := by
  have hone : (one : ℚ) ≠ 0 := Nat.cast_ne_zero.mpr one_pos.ne'
  have hn : (d.num : ℚ) = units rank * d.den := by
    rw [← value_mul d, h, amount, div_mul_cancel₀ _ hone]
  have hn' : d.num * 1 = units rank * d.den := by rw [Nat.mul_one]; exact_mod_cast hn
  exact (nearestRank_congr d.den_pos Nat.one_pos hn').trans (nearestRank_units rank)

/-! ### Digits -/

theorem lt_pow_digitCount (n : Nat) : n < 10 ^ digitCount n :=
  (Nat.length_toDigits_le_iff (by decide) Nat.length_toDigits_pos).mp le_rfl

theorem pow_digitCount_le {n : Nat} (hn : 0 < n) : 10 ^ (digitCount n - 1) ≤ n := by
  rcases Nat.eq_zero_or_pos (digitCount n - 1) with h0 | hp
  · rw [h0]
    exact hn
  · by_contra hlt
    have := (Nat.length_toDigits_le_iff (b := 10) (by decide) hp).mpr (Nat.lt_of_not_le hlt)
    rw [← digitCount] at this
    omega

theorem value_bounds {d : Decimal} (hd : 0 < d.digits) :
    (10 : ℚ) ^ (digitCount d.digits + d.exponent - 1) ≤ d.value ∧
      d.value < (10 : ℚ) ^ (digitCount d.digits + d.exponent) := by
  have hpos : (0 : ℚ) < 10 ^ d.exponent := by positivity
  have hc : 0 < digitCount d.digits := Nat.length_toDigits_pos
  have h1 : ((10 ^ (digitCount d.digits - 1) : ℕ) : ℚ) ≤ d.digits :=
    Nat.cast_le.mpr (pow_digitCount_le hd)
  have h2 : (d.digits : ℚ) < (10 ^ digitCount d.digits : ℕ) :=
    Nat.cast_lt.mpr (lt_pow_digitCount d.digits)
  rw [Nat.cast_pow, Nat.cast_ofNat, ← zpow_natCast] at h1 h2
  constructor
  · calc (10 : ℚ) ^ (digitCount d.digits + d.exponent - 1)
        = 10 ^ ((digitCount d.digits - 1 : ℕ) : ℤ) * 10 ^ d.exponent := by
          rw [← zpow_add₀ (by norm_num)]
          congr 1
          omega
      _ ≤ d.value := mul_le_mul_of_nonneg_right h1 hpos.le
  · calc d.value < 10 ^ (digitCount d.digits : ℤ) * 10 ^ d.exponent :=
          mul_lt_mul_of_pos_right h2 hpos
      _ = 10 ^ (digitCount d.digits + d.exponent) := (zpow_add₀ (by norm_num) _ _).symm

theorem value_trim (d : Decimal) : d.trim.value = d.value ∧ (0 < d.digits → 0 < d.trim.digits) := by
  induction d using trim.induct with
  | case1 d h ih =>
    rw [trim, dif_pos h]
    obtain ⟨h0, h10⟩ := h
    have hd : d.digits = d.digits / 10 * 10 := by omega
    refine ⟨ih.1.trans ?_, fun _ => ih.2 (by dsimp only; omega)⟩
    rw [value, value, zpow_add_one₀ (by norm_num)]
    conv_rhs => rw [hd, Nat.cast_mul]
    push_cast
    ring
  | case2 d h =>
    rw [trim, dif_neg h]
    exact ⟨rfl, id⟩

/-! ### The shortest decimal -/

/-- The magnitude of a number says between which powers of ten it lies. -/
theorem magnitude_bounds {u : Nat} (hu : 0 < u) :
    (10 : ℚ) ^ (magnitude u - 1) ≤ u / one ∧ (u / one : ℚ) < 10 ^ magnitude u := by
  have hone : (0 : ℚ) < one := Nat.cast_pos.mpr one_pos
  rw [le_div_iff₀ hone, div_lt_iff₀ hone]
  unfold magnitude
  split
  · next h =>
    have hq : 0 < u / one := Nat.div_pos h one_pos
    have h1 := (Nat.le_div_iff_mul_le one_pos).mp (pow_digitCount_le hq)
    have h2 := (Nat.div_lt_iff_lt_mul one_pos).mp (lt_pow_digitCount (u / one))
    have hc : 0 < digitCount (u / one) := Nat.length_toDigits_pos
    rw [← Nat.cast_le (α := ℚ), Nat.cast_mul, Nat.cast_pow, Nat.cast_ofNat, ← zpow_natCast] at h1
    rw [← Nat.cast_lt (α := ℚ), Nat.cast_mul, Nat.cast_pow, Nat.cast_ofNat, ← zpow_natCast] at h2
    rw [Nat.cast_sub hc] at h1
    exact ⟨h1, h2⟩
  · next h =>
    have hq : 0 < (one - 1) / u := Nat.div_pos (by omega) hu
    have h1 := (Nat.le_div_iff_mul_le hu).mp (pow_digitCount_le hq)
    have h2 := (Nat.div_lt_iff_lt_mul hu).mp (lt_pow_digitCount ((one - 1) / u))
    have hc : 0 < digitCount ((one - 1) / u) := Nat.length_toDigits_pos
    generalize digitCount ((one - 1) / u) = D at h1 h2 hc
    have h1' : 10 ^ (D - 1) * u < one := by omega
    have h2' : one ≤ 10 ^ D * u := by omega
    rw [← Nat.cast_lt (α := ℚ), Nat.cast_mul, Nat.cast_pow, Nat.cast_ofNat, ← zpow_natCast,
      Nat.cast_sub hc] at h1'
    rw [← Nat.cast_le (α := ℚ), Nat.cast_mul, Nat.cast_pow, Nat.cast_ofNat, ← zpow_natCast] at h2'
    constructor
    · calc (10 : ℚ) ^ ((1 - D : ℤ) - 1) * one ≤ 10 ^ ((1 - D : ℤ) - 1) * (10 ^ (D : ℤ) * u) :=
            mul_le_mul_of_nonneg_left h2' (by positivity)
        _ = u := by
            rw [← mul_assoc, ← zpow_add₀ (by norm_num), show (1 - D : ℤ) - 1 + D = 0 by omega,
              zpow_zero, one_mul]
    · calc (u : ℚ) = 10 ^ (1 - D : ℤ) * (10 ^ ((D : ℤ) - (1 : ℕ)) * u) := by
            rw [← mul_assoc, ← zpow_add₀ (by norm_num), show (1 - D : ℤ) + (D - (1 : ℕ)) = 0 by omega,
              zpow_zero, one_mul]
        _ < 10 ^ (1 - D : ℤ) * one := mul_lt_mul_of_pos_left h1' (by positivity)

/-- A decimal that reads back as a rank, with no power of ten strictly between the two. -/
structure Near (rank : Nat) (d : Decimal) : Prop where
  reads : d.rank = rank
  below : (10 : ℚ) ^ (magnitude (units rank) - 1) ≤ d.value
  above : d.value ≤ 10 ^ magnitude (units rank)

/-- The lower neighbour of a number on a grid, counted in steps of the grid. -/
def floorAt (u : Nat) (grid : ℤ) : Nat :=
  u * Nat.pow 10 (-grid).toNat / (one * Nat.pow 10 grid.toNat)

/-- What a grid gives is one of the two neighbours on it, and reads back. -/
theorem onGrid_cases {rank u : Nat} {grid : ℤ} {d : Decimal} (h : onGrid rank u grid = some d) :
    d.rank = rank ∧ d.exponent = grid ∧
      (d.digits = floorAt u grid ∨ d.digits = floorAt u grid + 1) := by
  unfold onGrid at h
  unfold floorAt
  generalize u * Nat.pow 10 (-grid).toNat = a, one * Nat.pow 10 grid.toNat = b at *
  dsimp only at h
  have hc := halfEven_cases a b
  split_ifs at h with hl hh hh <;> obtain rfl := Option.some.inj h
  · refine ⟨?_, rfl, hc⟩
    rcases hc with he | he
    · rw [he, hl]
    · rw [he, hh]
  · exact ⟨hl, rfl, .inl rfl⟩
  · exact ⟨hh, rfl, .inr rfl⟩

theorem cast_pow_ten (n : Nat) : ((Nat.pow 10 n : ℕ) : ℚ) = 10 ^ n := Nat.cast_pow 10 n

theorem grid_quotient (u : Nat) (grid : ℤ) :
    (u / one : ℚ) * (one * Nat.pow 10 grid.toNat : ℕ) =
      10 ^ grid * (u * Nat.pow 10 (-grid).toNat : ℕ) := by
  have hone : (one : ℚ) ≠ 0 := Nat.cast_ne_zero.mpr one_pos.ne'
  rw [Nat.cast_mul, Nat.cast_mul, cast_pow_ten, cast_pow_ten, ← ten_zpow grid]
  field_simp

/-- A power of ten on the grid is at most a number exactly if it is at most its lower neighbour. -/
theorem pow_le_floorAt_iff (u i : Nat) (grid : ℤ) :
    10 ^ i ≤ floorAt u grid ↔ (10 : ℚ) ^ (grid + i) ≤ u / one := by
  have hden : 0 < one * Nat.pow 10 grid.toNat := Nat.mul_pos one_pos (Nat.pow_pos (by decide))
  have hg : (0 : ℚ) < 10 ^ grid := by positivity
  rw [floorAt, Nat.le_div_iff_mul_le hden, ← Nat.cast_le (α := ℚ), ← mul_le_mul_iff_right₀ hg,
    ← grid_quotient, Nat.cast_mul, ← mul_assoc, mul_le_mul_iff_left₀ (Nat.cast_pos.mpr hden),
    zpow_add₀ (by norm_num), zpow_natCast, Nat.cast_pow, Nat.cast_ofNat]

theorem near_grid {rank i : Nat} (hu : 0 < units rank) {d : Decimal}
    (h : onGrid rank (units rank) (magnitude (units rank) - 1 - i) = some d) : Near rank d := by
  obtain ⟨hlow, hhigh⟩ := magnitude_bounds hu
  obtain ⟨hr, he, hd⟩ := onGrid_cases h
  generalize hk : magnitude (units rank) = k at hlow hhigh he hd
  have h1 := (pow_le_floorAt_iff (units rank) i (k - 1 - i)).mpr (by rw [sub_add_cancel]; exact hlow)
  have h2 := (pow_le_floorAt_iff (units rank) (i + 1) (k - 1 - i)).not.mpr (by
    rw [not_le, show k - 1 - i + ((i + 1 : ℕ) : ℤ) = k by push_cast; ring]
    exact hhigh)
  have hg : (0 : ℚ) < 10 ^ (k - 1 - i : ℤ) := by positivity
  have hd1 : 10 ^ i ≤ d.digits := by omega
  have hd2 : d.digits ≤ 10 ^ (i + 1) := by omega
  rw [← Nat.cast_le (α := ℚ), Nat.cast_pow, Nat.cast_ofNat, ← zpow_natCast] at hd1 hd2
  have hv : d.value = d.digits * 10 ^ (k - 1 - i : ℤ) := by rw [value, he]
  refine ⟨hr, ?_, ?_⟩
  · have := mul_le_mul_of_nonneg_right hd1 hg.le
    rw [← zpow_add₀ (by norm_num), ← hv, show (i : ℤ) + (k - 1 - i) = k - 1 by ring, ← hk] at this
    exact this
  · have := mul_le_mul_of_nonneg_right hd2 hg.le
    rw [← zpow_add₀ (by norm_num), ← hv, show ((i + 1 : ℕ) : ℤ) + (k - 1 - i) = k by push_cast; ring,
      ← hk] at this
    exact this

theorem value_five_pow (u n : Nat) :
    value ⟨u * Nat.pow 5 n, -(n : ℤ)⟩ = u / (Nat.pow 2 n : ℕ) := by
  have h5 : ((Nat.pow 5 n : ℕ) : ℚ) = 5 ^ n := Nat.cast_pow 5 n
  have h2 : ((Nat.pow 2 n : ℕ) : ℚ) = 2 ^ n := Nat.cast_pow 2 n
  have h10 : (10 : ℚ) ^ n = 5 ^ n * 2 ^ n := by rw [← mul_pow]; norm_num
  rw [value, Nat.cast_mul, h5, h2, zpow_neg, zpow_natCast, h10]
  field_simp

theorem value_exact (rank : Nat) : (exact (units rank)).value = amount rank :=
  value_five_pow (units rank) 1074

theorem near_exact {rank : Nat} (hu : 0 < units rank) : Near rank (exact (units rank)) := by
  obtain ⟨hlow, hhigh⟩ := magnitude_bounds hu
  have hv := value_exact rank
  exact ⟨rank_of_value hv, hv ▸ hlow, hv ▸ hhigh.le⟩

theorem near_shortest {rank : Nat} (hu : 0 < units rank) : Near rank (shortest rank) := by
  unfold shortest
  dsimp only
  rcases hf : (List.range 17).findSome? fun (i : Nat) =>
      onGrid rank (units rank) (magnitude (units rank) - 1 - i) with _ | d
  · exact near_exact hu
  · obtain ⟨i, -, hi⟩ := List.exists_of_findSome?_eq_some hf
    exact near_grid hu hi

theorem Near.trim {rank : Nat} {d : Decimal} (h : Near rank d) : Near rank d.trim := by
  have hv := (value_trim d).1
  exact ⟨(rank_congr hv).trans h.reads, hv ▸ h.below, hv ▸ h.above⟩

theorem Near.digits_pos {rank : Nat} {d : Decimal} (h : Near rank d) : 0 < d.digits := by
  have hv : 0 < d.value := lt_of_lt_of_le (by positivity) h.below
  rcases Nat.eq_zero_or_pos d.digits with h0 | hp
  · rw [value, h0] at hv
    simp at hv
  · exact hp

/-- A power of ten that is at most a number is at most its decimal. -/
theorem Near.pow_le {rank : Nat} {d : Decimal} (h : Near rank d) (hu : 0 < units rank) {j : ℤ}
    (hj : (10 : ℚ) ^ j ≤ amount rank) : (10 : ℚ) ^ j ≤ d.value := by
  have hlt := lt_of_le_of_lt hj (magnitude_bounds hu).2
  have hjk : j < magnitude (units rank) := (zpow_lt_zpow_iff_right₀ (by norm_num)).mp hlt
  refine le_trans ?_ h.below
  exact (zpow_le_zpow_iff_right₀ (by norm_num)).mpr (by omega)

theorem Near.le_pow {rank : Nat} {d : Decimal} (h : Near rank d) (hu : 0 < units rank) {j : ℤ}
    (hj : amount rank < (10 : ℚ) ^ j) : d.value ≤ (10 : ℚ) ^ j := by
  have hlt := lt_of_le_of_lt (magnitude_bounds hu).1 hj
  have hjk : magnitude (units rank) - 1 < j := (zpow_lt_zpow_iff_right₀ (by norm_num)).mp hlt
  refine le_trans h.above ?_
  exact (zpow_le_zpow_iff_right₀ (by norm_num)).mpr (by omega)

theorem Near.lt_pow {rank : Nat} {d : Decimal} (h : Near rank d) (hu : 0 < units rank) {j : ℤ}
    (hj : amount rank < (10 : ℚ) ^ j) (hne : rank ≠ Decimal.rank ⟨1, j⟩) :
    d.value < (10 : ℚ) ^ j := by
  refine lt_of_le_of_ne (h.le_pow hu hj) fun he => hne ?_
  rw [← h.reads]
  refine rank_congr ?_
  rw [he, value, Nat.cast_one, one_mul]

end Decimal

end BlockCalc
