import Mathlib.Algebra.Order.Field.Power
import Mathlib.Data.Int.Log
import Mathlib.Data.Rat.Floor
import Mathlib.Tactic.FieldSimp
import Mathlib.Tactic.Positivity
import Mathlib.Tactic.Ring
import MountainRange.Number.Double
set_option autoImplicit false

/-!
# Doubles that are written read back

A ratio is rounded by its worth alone, however it is spelled, and a ratio that a double is
equal to is rounded to that double.  So the decimal that a double is written with reads back:
one of few digits was tried, and the exact one is what remains where none of these fits.
-/

namespace MountainRange.Number

/-! ## Rounding -/

variable {num den : Nat}

theorem lt_two_pow_bitLength (n : Nat) : n < 2 ^ bitLength n := by
  unfold bitLength
  split
  · simp_all
  · exact Nat.lt_log2_self

theorem two_pow_bitLength_le {n : Nat} (h : n ≠ 0) : 2 ^ bitLength n ≤ 2 * n := by
  have hlog : 2 ^ n.log2 ≤ n := Nat.log2_self_le h
  simp only [bitLength, if_neg h, Nat.pow_succ]
  omega

theorem roundDiv_mul_right (num den : Nat) {c : Nat} (hc : 0 < c) :
    roundDiv (num * c) (den * c) = roundDiv num den := by
  have hless : ∀ a b, a * c < b * c ↔ a < b := fun a b => Nat.mul_lt_mul_right hc
  simp only [roundDiv, Nat.mul_div_mul_right _ _ hc, Nat.mul_mod_mul_right, ← Nat.mul_assoc, hless]

theorem roundDiv_mul_self (m : Nat) {den : Nat} (hden : 0 < den) :
    roundDiv (m * den) den = m := by
  simp [roundDiv, Nat.mul_div_cancel m hden, hden]

namespace Double

/-- How many units `2 ^ e` a ratio holds is less than some number if the ratio is. -/
theorem units_lt_iff (hden : 0 < den) (k : Nat) (e : Int) :
    num <<< (-e).toNat / den <<< e.toNat < k ↔ (num / den : ℚ) < k * 2 ^ e := by
  have hden' : (0 : ℚ) < den := by exact_mod_cast hden
  obtain ⟨n, rfl | rfl⟩ := e.eq_nat_or_neg
  · have hpos : 0 < den * 2 ^ n := by positivity
    simp only [Int.toNat_neg_natCast, Int.toNat_natCast, Nat.shiftLeft_eq, Nat.pow_zero,
      Nat.mul_one, Nat.div_lt_iff_lt_mul hpos, zpow_natCast]
    rw [div_lt_iff₀ hden', mul_assoc, mul_comm ((2 : ℚ) ^ n)]
    exact_mod_cast Iff.rfl
  · simp only [Int.neg_neg, Int.toNat_neg_natCast, Int.toNat_natCast, Nat.shiftLeft_eq,
      Nat.pow_zero, Nat.mul_one, Nat.div_lt_iff_lt_mul hden, zpow_neg, zpow_natCast]
    rw [div_lt_iff₀ hden', ← div_eq_mul_inv, div_mul_eq_mul_div, lt_div_iff₀ (by positivity)]
    exact_mod_cast Iff.rfl

/-- A ratio between two powers of two that follow each other, for its binary logarithm. -/
theorem log_eq {v : ℚ} {e : Int} (hlow : 2 ^ e ≤ v) (hhigh : v < 2 ^ (e + 1)) :
    Int.log 2 v = e := by
  have hv : 0 < v := lt_of_lt_of_le (by positivity) hlow
  have hle := (Int.zpow_le_iff_le_log (b := 2) (by decide) hv).mp (by exact_mod_cast hlow)
  have hlt := (Int.lt_zpow_iff_log_lt (b := 2) (by decide) hv).mp (by exact_mod_cast hhigh)
  omega

/-- The numbers of binary digits bound a ratio. -/
theorem ratio_bounds (hnum : num ≠ 0) (hden : 0 < den) :
    (2 : ℚ) ^ ((bitLength num : Int) - bitLength den - 1) ≤ num / den ∧
      (num / den : ℚ) < 2 ^ ((bitLength num : Int) - bitLength den + 1) := by
  have hden' : (0 : ℚ) < den := by exact_mod_cast hden
  have hnumLow : (2 : ℚ) ^ bitLength num ≤ 2 * num := by exact_mod_cast two_pow_bitLength_le hnum
  have hnumHigh : (num : ℚ) < 2 ^ bitLength num := by exact_mod_cast lt_two_pow_bitLength num
  have hdenLow : (2 : ℚ) ^ bitLength den ≤ 2 * den := by
    exact_mod_cast two_pow_bitLength_le (Nat.ne_of_gt hden)
  have hdenHigh : (den : ℚ) < 2 ^ bitLength den := by exact_mod_cast lt_two_pow_bitLength den
  have hpos : (0 : ℚ) < 2 ^ bitLength den := by positivity
  constructor
  · rw [zpow_sub₀ two_ne_zero, zpow_sub₀ two_ne_zero, zpow_one, zpow_natCast, zpow_natCast,
      div_div, div_le_div_iff₀ (by positivity) hden']
    calc (2 : ℚ) ^ bitLength num * den ≤ 2 * num * 2 ^ bitLength den := by gcongr
      _ = num * (2 ^ bitLength den * 2) := by ring
  · rw [zpow_add₀ two_ne_zero, zpow_sub₀ two_ne_zero, zpow_one, zpow_natCast, zpow_natCast,
      div_mul_eq_mul_div, div_lt_div_iff₀ hden' hpos]
    calc (num : ℚ) * 2 ^ bitLength den < 2 ^ bitLength num * 2 ^ bitLength den := by gcongr
      _ ≤ 2 ^ bitLength num * (2 * den) := by gcongr
      _ = 2 ^ bitLength num * 2 * den := by ring

/-- A ratio is stored at the exponent that leaves 53 binary digits, or at the least one. -/
theorem storedExponent_eq (hnum : num ≠ 0) (hden : 0 < den) :
    storedExponent num den = max (Int.log 2 (num / den : ℚ) - 52) (-1074) := by
  obtain ⟨hlow, hhigh⟩ := ratio_bounds hnum hden
  unfold storedExponent
  dsimp only
  generalize hguess : (bitLength num : Int) - bitLength den - 53 = guess
  have hwhole : ((1 <<< 53 : Nat) : ℚ) * 2 ^ guess = 2 ^ (guess + 53) := by
    rw [zpow_add₀ two_ne_zero, mul_comm]
    rfl
  congr 1
  split
  · next hunits =>
      rw [units_lt_iff hden, hwhole] at hunits
      rw [log_eq (e := guess + 52) (by convert hlow using 2; omega)
        (by convert hunits using 2; omega)]
      omega
  · next hunits =>
      rw [units_lt_iff hden, hwhole, not_lt] at hunits
      rw [log_eq (e := guess + 53) hunits (by convert hhigh using 2; omega)]
      omega

variable {num' den' : Nat} (negative : Bool)

/-- A ratio is rounded by its worth, whatever its numerator and denominator are. -/
theorem ofRatio_congr (hden : 0 < den) (hden' : 0 < den') (h : num * den' = num' * den) :
    ofRatio negative num den = ofRatio negative num' den' := by
  have hzero : num = 0 ↔ num' = 0 := by
    constructor <;> rintro rfl <;> simp_all <;> omega
  have hworth : (num / den : ℚ) = num' / den' := by
    rw [div_eq_div_iff (by positivity) (by positivity)]
    exact_mod_cast h
  unfold ofRatio
  by_cases hnum : num = 0
  · rw [if_pos hnum, if_pos (hzero.mp hnum)]
  · have hnum' : num' ≠ 0 := mt hzero.mpr hnum
    have hexponent : storedExponent num den = storedExponent num' den' := by
      rw [storedExponent_eq hnum hden, storedExponent_eq hnum' hden', hworth]
    rw [if_neg hnum, if_neg hnum', hexponent]
    generalize storedExponent num' den' = e
    dsimp only
    have hround : roundDiv (num <<< (-e).toNat) (den <<< e.toNat) =
        roundDiv (num' <<< (-e).toNat) (den' <<< e.toNat) := by
      simp only [Nat.shiftLeft_eq]
      generalize 2 ^ (-e).toNat = p
      generalize 2 ^ e.toNat = q
      calc roundDiv (num * p) (den * q)
          = roundDiv (num * p * den') (den * q * den') := (roundDiv_mul_right _ _ hden').symm
        _ = roundDiv (num' * p * den) (den' * q * den) := by
          congr 1
          · calc num * p * den' = num * den' * p := by ring
              _ = num' * p * den := by rw [h]; ring
          · ring
        _ = roundDiv (num' * p) (den' * q) := roundDiv_mul_right _ _ hden
    rw [hround]

/-- The worth of a ratio of naturals that is equal to a mantissa and exponent. -/
theorem worth_eq {m : Nat} {e : Int} (hden : 0 < den)
    (h : num * 2 ^ (-e).toNat = m * (den * 2 ^ e.toNat)) : (num / den : ℚ) = m * 2 ^ e := by
  rw [div_eq_iff (by positivity), mul_right_comm]
  have hcast : (num : ℚ) * 2 ^ (-e).toNat = m * (den * 2 ^ e.toNat) := by exact_mod_cast h
  obtain ⟨n, rfl | rfl⟩ := e.eq_nat_or_neg
  · simp only [Int.toNat_neg_natCast, Int.toNat_natCast, pow_zero, mul_one] at hcast
    rw [hcast, zpow_natCast, mul_assoc]
  · simp only [Int.neg_neg, Int.toNat_neg_natCast, Int.toNat_natCast, pow_zero, mul_one] at hcast
    rw [zpow_neg, zpow_natCast, ← hcast, mul_inv_cancel_right₀ (by positivity)]

/-- What a double is equal to is stored at its exponent. -/
theorem storedExponent_of_canonical {m : Nat} {e : Int} (hnum : num ≠ 0) (hden : 0 < den)
    (hcanonical : Canonical m e) (hworth : (num / den : ℚ) = m * 2 ^ e) :
    storedExponent num den = e := by
  obtain ⟨hm, hleast, -, hnormal⟩ := hcanonical
  have hpos : 0 < (m : ℚ) * 2 ^ e := hworth ▸ by positivity
  have hhigh : (m : ℚ) * 2 ^ e < 2 ^ (e + 52 + 1) := by
    rw [add_assoc, zpow_add₀ two_ne_zero, mul_comm]
    gcongr
    exact_mod_cast hm
  rw [storedExponent_eq hnum hden, hworth]
  rcases hnormal with hnormal | rfl
  · have hlow : (2 : ℚ) ^ (e + 52) ≤ m * 2 ^ e := by
      rw [zpow_add₀ two_ne_zero, mul_comm]
      gcongr
      exact_mod_cast hnormal
    rw [log_eq hlow hhigh]
    omega
  · have hlog := (Int.lt_zpow_iff_log_lt (b := 2) (by decide) hpos).mp (by exact_mod_cast hhigh)
    omega

/-- A ratio that a double is equal to is rounded to that double. -/
theorem ofRatio_eq {m : Nat} {e : Int} (hden : 0 < den) (hcanonical : Canonical m e)
    (h : num * 2 ^ (-e).toNat = m * (den * 2 ^ e.toNat)) :
    ofRatio negative num den = .finite negative m e hcanonical := by
  have hpos : 0 < den * 2 ^ e.toNat := by positivity
  have hparts : ofParts negative m e = .finite negative m e hcanonical := dif_pos hcanonical
  rw [← hparts]
  unfold ofRatio
  split
  · next hnum =>
      have hm : m = 0 := by
        rw [hnum, Nat.zero_mul, eq_comm, Nat.mul_eq_zero] at h
        exact h.resolve_right (Nat.ne_of_gt hpos)
      have he : e = -1074 := hcanonical.2.2.2.resolve_left (by rw [hm]; decide)
      rw [hm, he, zero]
  · next hnum =>
      have hround : roundDiv (num <<< (-e).toNat) (den <<< e.toNat) = m := by
        rw [Nat.shiftLeft_eq, Nat.shiftLeft_eq, h]
        exact roundDiv_mul_self m hpos
      have hbelow : m ≠ 1 <<< 53 := Nat.ne_of_lt hcanonical.1
      rw [storedExponent_of_canonical hnum hden hcanonical (worth_eq hden h)]
      dsimp only
      rw [hround, if_neg hbelow]

/-! ## Decimals -/

variable {n : Nat}

/-- Zeros behind the digits of a number multiply it by powers of ten. -/
theorem toDigits_mul_ten_pow (hn : n ≠ 0) (k : Nat) :
    Nat.toDigits 10 (n * 10 ^ k) = Nat.toDigits 10 n ++ List.replicate k '0' := by
  induction k with
  | zero => simp
  | succ k ih =>
      have hpos : 0 < n * 10 ^ k := by positivity
      have hzero : Nat.toDigits 10 0 = ['0'] := Nat.toDigits_zero 10
      have happend := Nat.toDigits_append_toDigits (b := 10) (by decide) hpos (by decide : 0 < 10)
      rw [hzero, Nat.add_zero, ih, List.append_assoc, ← List.replicate_succ'] at happend
      rw [happend, pow_succ]
      ring_nf

theorem decimalLength_mul_ten_pow (hn : n ≠ 0) (k : Nat) :
    decimalLength (n * 10 ^ k) = decimalLength n + k := by
  simp [decimalLength, toDigits_mul_ten_pow hn]

theorem decimalLength_le_iff {k : Nat} (hk : 0 < k) : decimalLength n ≤ k ↔ n < 10 ^ k :=
  Nat.length_toDigits_le_iff (by decide) hk

/-- A power of ten may stand in the digits or in the exponent. -/
theorem ofDecimal_mul_ten_pow (n k : Nat) (e : Int) :
    ofDecimal negative (n * 10 ^ k) e = ofDecimal negative n (e + k) := by
  unfold ofDecimal
  rcases Nat.eq_zero_or_pos n with rfl | hpos
  · simp
  · have hn : n ≠ 0 := Nat.ne_of_gt hpos
    have hzero : n * 10 ^ k = 0 ↔ n = 0 := by simp
    have hmagnitude : (decimalLength (n * 10 ^ k) : Int) + e = decimalLength n + (e + k) := by
      rw [decimalLength_mul_ten_pow hn]
      omega
    have hexponents : k + e.toNat + (-(e + k)).toNat = (e + k).toNat + (-e).toNat := by omega
    dsimp only
    rw [hmagnitude]
    simp only [hzero]
    congr 2
    refine ofRatio_congr negative (Nat.pow_pos (by decide)) (Nat.pow_pos (by decide)) ?_
    show n * 10 ^ k * 10 ^ e.toNat * 10 ^ (-(e + k)).toNat =
      n * 10 ^ (e + k).toNat * 10 ^ (-e).toNat
    calc n * 10 ^ k * 10 ^ e.toNat * 10 ^ (-(e + k)).toNat
        = n * 10 ^ (k + e.toNat + (-(e + k)).toNat) := by ring
      _ = n * 10 ^ (e + k).toNat * 10 ^ (-e).toNat := by rw [hexponents]; ring

variable {m : Nat} {e : Int}

theorem decimalLength_mul_two_pow_le {n : Nat} (hm : m < 2 ^ 53) (hn : n ≤ 971) :
    decimalLength (m * 2 ^ n) ≤ 310 := by
  rw [decimalLength_le_iff (by decide)]
  calc m * 2 ^ n < 2 ^ 53 * 2 ^ n := by gcongr
    _ ≤ 2 ^ 53 * 2 ^ 971 := by gcongr; decide
    _ = 2 ^ 1024 := by rw [← pow_add]
    _ ≤ 10 ^ 310 := by decide +kernel

theorem decimalLength_mul_five_pow_le (n : Nat) (hm : m < 2 ^ 53) :
    decimalLength (m * 5 ^ n) ≤ n + 16 := by
  rw [decimalLength_le_iff (by omega)]
  have hlong : (2 : Nat) ^ 53 < 10 ^ 16 := by norm_num
  calc m * 5 ^ n < 10 ^ 16 * 5 ^ n := by gcongr; omega
    _ ≤ 10 ^ 16 * 10 ^ n := by gcongr; decide
    _ = 10 ^ (n + 16) := by rw [← pow_add, Nat.add_comm]

/-- Powers of five are not much shorter than those of ten, as far as the exponents reach. -/
theorem le_decimalLength_mul_five_pow {n : Nat} (hm : m ≠ 0) (hn : n ≤ 1074) :
    n ≤ decimalLength (m * 5 ^ n) + 330 := by
  by_contra hlong
  obtain ⟨k, rfl⟩ : ∃ k, n = k + 331 := ⟨n - 331, by omega⟩
  have hk : decimalLength (m * 5 ^ (k + 331)) ≤ k := by omega
  have hfirst : 0 < decimalLength (m * 5 ^ (k + 331)) := Nat.length_toDigits_pos
  rw [decimalLength_le_iff (by omega)] at hk
  have hten : (10 : Nat) ^ (k + 331) = 5 ^ (k + 331) * 2 ^ (k + 331) := by rw [← Nat.mul_pow]
  have hless : 5 ^ (k + 331) * 10 ^ 331 < 5 ^ (k + 331) * 2 ^ (k + 331) :=
    calc 5 ^ (k + 331) * 10 ^ 331 ≤ m * 5 ^ (k + 331) * 10 ^ 331 := by
          gcongr
          exact Nat.le_mul_of_pos_left _ (Nat.pos_of_ne_zero hm)
      _ < 10 ^ k * 10 ^ 331 := by gcongr
      _ = 5 ^ (k + 331) * 2 ^ (k + 331) := by rw [← pow_add, hten]
  have hpow : 10 ^ 331 < 2 ^ (k + 331) := Nat.lt_of_mul_lt_mul_left hless
  have hsmall : ∀ j ≤ 1074, ¬(10 : Nat) ^ 331 < 2 ^ j := fun j hj hless =>
    absurd (lt_of_lt_of_le hless (Nat.pow_le_pow_right (by decide) hj)) (by decide +kernel)
  exact hsmall _ hn hpow

/-- The exact decimal of a double has as many digits as the reader takes. -/
theorem exactDecimal_magnitude (hcanonical : Canonical m e) (hm : m ≠ 0) :
    -330 ≤ (decimalLength (exactDecimal m e).digits : Int) + (exactDecimal m e).exponent ∧
      (decimalLength (exactDecimal m e).digits : Int) + (exactDecimal m e).exponent ≤ 310 := by
  obtain ⟨hbelow, hleast, hgreatest, -⟩ := hcanonical
  have hbelow : m < 2 ^ 53 := hbelow
  obtain ⟨n, rfl | rfl⟩ := e.eq_nat_or_neg
  · have hdigits : (exactDecimal m n).digits = m * 2 ^ n := by
      simp [exactDecimal, Nat.shiftLeft_eq]
    have hexponent : (exactDecimal m n).exponent = 0 := by
      simp [exactDecimal]
    have hhigh := decimalLength_mul_two_pow_le hbelow (n := n) (by omega)
    rw [hdigits, hexponent]
    omega
  · have hdigits : (exactDecimal m (-n)).digits = m * 5 ^ n := by
      simp [exactDecimal]
    have hexponent : (exactDecimal m (-n)).exponent = -n := by
      simp [exactDecimal]
    have hlow := le_decimalLength_mul_five_pow hm (n := n) (by omega)
    have hhigh := decimalLength_mul_five_pow_le n hbelow
    rw [hdigits, hexponent]
    omega

/-- The exact decimal of a double reads back. -/
theorem ofDecimal_exactDecimal (hcanonical : Canonical m e) (hm : m ≠ 0) :
    ofDecimal negative (exactDecimal m e).digits (exactDecimal m e).exponent =
      .finite negative m e hcanonical := by
  obtain ⟨hlow, hhigh⟩ := exactDecimal_magnitude hcanonical hm
  have hdigits : (exactDecimal m e).digits ≠ 0 := by
    simp [exactDecimal, Nat.shiftLeft_eq, hm]
  unfold ofDecimal
  dsimp only
  rw [if_neg (by omega), if_neg (by omega)]
  refine ofRatio_eq negative (Nat.pow_pos (by decide)) hcanonical ?_
  obtain ⟨n, rfl | rfl⟩ := e.eq_nat_or_neg
  · simp [scaled, exactDecimal, Nat.shiftLeft_eq]
  · have hten : (10 : Nat) ^ n = 5 ^ n * 2 ^ n := by rw [← Nat.mul_pow]
    simp [scaled, exactDecimal, hten, Nat.mul_assoc]

/-- A decimal of few digits is taken only if it reads back. -/
theorem ofDecimal_withDigits? {x : Double} {count : Nat} {d : Decimal}
    (h : withDigits? x negative num den count = some d) :
    ofDecimal negative d.digits d.exponent = x := by
  unfold withDigits? at h
  obtain ⟨c, hc, rfl⟩ := Option.map_eq_some_iff.mp h
  have hback := List.find?_some hc
  exact of_decide_eq_true hback

/-- The decimal that a double is written with reads back. -/
theorem ofDecimal_shortest {x : Double} (hcanonical : Canonical m e) (hm : m ≠ 0)
    (hx : x = .finite negative m e hcanonical) :
    ofDecimal negative (shortest x negative m e).digits (shortest x negative m e).exponent = x := by
  have hshortest : shortest x negative m e = ((List.range 17).findSome? fun k =>
      withDigits? x negative (scaled m 2 e).1 (scaled m 2 e).2 (k + 1)).getD (exactDecimal m e) :=
    if_neg hm
  -- The decimal is kept as one variable, for it is a long way to what it computes to.
  generalize shortest x negative m e = d at hshortest ⊢
  cases hfound : (List.range 17).findSome? fun k =>
      withDigits? x negative (scaled m 2 e).1 (scaled m 2 e).2 (k + 1) with
  | none =>
      rw [hfound, Option.getD_none] at hshortest
      rw [hshortest, hx]
      exact ofDecimal_exactDecimal negative hcanonical hm
  | some c =>
      rw [hfound, Option.getD_some] at hshortest
      obtain ⟨k, -, hk⟩ := List.exists_of_findSome?_eq_some hfound
      rw [hshortest]
      exact ofDecimal_withDigits? negative hk

theorem shortest_digits_ne_zero (hcanonical : Canonical m e) (hm : m ≠ 0) :
    (shortest (.finite negative m e hcanonical) negative m e).digits ≠ 0 := by
  intro hzero
  have hback := ofDecimal_shortest negative hcanonical hm rfl
  rw [hzero, ofDecimal, if_pos (.inl rfl)] at hback
  have hfinite : zero negative = .finite negative 0 (-1074) (by decide) := rfl
  rw [hfinite] at hback
  injection hback with _ hmantissa
  exact hm hmantissa.symm

end Double

end MountainRange.Number
