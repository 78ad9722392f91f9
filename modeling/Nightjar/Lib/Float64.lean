import Mathlib.Data.Int.Log
import Mathlib.Data.Rat.Floor
import Mathlib.Tactic.Linarith
import Mathlib.Tactic.FieldSimp

namespace Nightjar.Lib.Float64

def roundEven (m : Rat) : Int :=
  if m - ⌊m⌋ < 1 / 2 then ⌊m⌋
  else if 1 / 2 < m - ⌊m⌋ then ⌊m⌋ + 1
  else if ⌊m⌋ % 2 = 0 then ⌊m⌋ else ⌊m⌋ + 1

theorem floor_le_roundEven (m : Rat) : ⌊m⌋ ≤ roundEven m := by
  unfold roundEven
  split_ifs <;> omega

theorem roundEven_le_floor_add_one (m : Rat) : roundEven m ≤ ⌊m⌋ + 1 := by
  unfold roundEven
  split_ifs <;> omega

@[simp] theorem roundEven_intCast (k : Int) : roundEven (k : Rat) = k := by
  simp [roundEven]

theorem roundEven_mono {m n : Rat} (h : m ≤ n) : roundEven m ≤ roundEven n := by
  rcases (Int.floor_mono h).lt_or_eq with hlt | heq
  · have hm := roundEven_le_floor_add_one m
    have hn := floor_le_roundEven n
    omega
  · unfold roundEven
    rw [heq]
    split_ifs <;> first | omega | (exfalso; linarith)

/-- The binary64 number nearest to a rational whose magnitude is in the range
of normal numbers. -/
def round (q : Rat) : Rat :=
  if q = 0 then 0
  else roundEven (q / 2 ^ (Int.log 2 |q| - 52)) * 2 ^ (Int.log 2 |q| - 52)

theorem half_le_round {q : Rat} (hq : 0 ≤ q) : q / 2 ≤ round q := by
  rcases hq.eq_or_lt with rfl | hpos
  · simp [round]
  rw [round, if_neg hpos.ne', abs_of_pos hpos]
  have hunit : (0 : Rat) < 2 ^ (Int.log 2 q - 52) := zpow_pos two_pos _
  have hscaled : 2 ≤ q / 2 ^ (Int.log 2 q - 52) := by
    have hlog : (2 : Rat) ^ Int.log 2 q ≤ q := by exact_mod_cast Int.zpow_log_le_self one_lt_two hpos
    have hexp : (2 : Rat) * 2 ^ (Int.log 2 q - 52) ≤ 2 ^ Int.log 2 q := by
      rw [← zpow_one_add₀ two_ne_zero]
      exact zpow_le_zpow_right₀ one_le_two (by omega)
    rw [le_div_iff₀ hunit]
    exact hexp.trans hlog
  have hround : q / 2 ^ (Int.log 2 q - 52) / 2 ≤ roundEven (q / 2 ^ (Int.log 2 q - 52)) := by
    have hfloor : ((⌊q / 2 ^ (Int.log 2 q - 52)⌋ : Int) : Rat) ≤ roundEven (q / 2 ^ (Int.log 2 q - 52)) := by
      exact_mod_cast floor_le_roundEven _
    have hless := Int.lt_floor_add_one (q / (2 : Rat) ^ (Int.log 2 q - 52))
    linarith
  calc q / 2 = q / 2 ^ (Int.log 2 q - 52) / 2 * 2 ^ (Int.log 2 q - 52) := by field_simp
    _ ≤ _ := mul_le_mul_of_nonneg_right hround hunit.le

theorem round_eq_of_pos {q : Rat} (hq : 0 < q) :
    round q = roundEven (q / 2 ^ (Int.log 2 q - 52)) * 2 ^ (Int.log 2 q - 52) := by
  rw [round, if_neg hq.ne', abs_of_pos hq]

/-- The multiples of the unit in the last place are bounds that rounding does not cross. -/
theorem mul_unit_le_round {q : Rat} (hq : 0 < q) {k : Int} (h : k * 2 ^ (Int.log 2 q - 52) ≤ q) :
    k * 2 ^ (Int.log 2 q - 52) ≤ round q := by
  have hunit : (0 : Rat) < 2 ^ (Int.log 2 q - 52) := zpow_pos two_pos _
  have hround := roundEven_mono ((le_div_iff₀ hunit).mpr h)
  rw [roundEven_intCast] at hround
  rw [round_eq_of_pos hq]
  exact mul_le_mul_of_nonneg_right (by exact_mod_cast hround) hunit.le

theorem round_le_mul_unit {q : Rat} (hq : 0 < q) {k : Int} (h : q ≤ k * 2 ^ (Int.log 2 q - 52)) :
    round q ≤ k * 2 ^ (Int.log 2 q - 52) := by
  have hunit : (0 : Rat) < 2 ^ (Int.log 2 q - 52) := zpow_pos two_pos _
  have hround := roundEven_mono ((div_le_iff₀ hunit).mpr h)
  rw [roundEven_intCast] at hround
  rw [round_eq_of_pos hq]
  exact mul_le_mul_of_nonneg_right (by exact_mod_cast hround) hunit.le

theorem pow_mul_unit (k : Nat) (e : Int) : ((2 ^ k : Int) : Rat) * 2 ^ (e - 52) = 2 ^ (e - 52 + k) := by
  rw [zpow_add₀ two_ne_zero, zpow_natCast, mul_comm]
  push_cast
  rfl

theorem zpow_log_le_round {q : Rat} (hq : 0 < q) : 2 ^ Int.log 2 q ≤ round q := by
  have hlog : (2 : Rat) ^ Int.log 2 q ≤ q := by exact_mod_cast Int.zpow_log_le_self one_lt_two hq
  have hexp := pow_mul_unit 52 (Int.log 2 q)
  rw [show Int.log 2 q - 52 + (52 : Nat) = Int.log 2 q by omega] at hexp
  rw [← hexp] at hlog ⊢
  exact mul_unit_le_round hq hlog

theorem round_le_zpow_log {q : Rat} (hq : 0 < q) : round q ≤ 2 ^ (Int.log 2 q + 1) := by
  have hlog : q < (2 : Rat) ^ (Int.log 2 q + 1) := by exact_mod_cast Int.lt_zpow_succ_log_self one_lt_two q
  have hexp := pow_mul_unit 53 (Int.log 2 q)
  rw [show Int.log 2 q - 52 + (53 : Nat) = Int.log 2 q + 1 by omega] at hexp
  rw [← hexp] at hlog ⊢
  exact round_le_mul_unit hq hlog.le

theorem round_mono {p q : Rat} (hp : 0 ≤ p) (h : p ≤ q) : round p ≤ round q := by
  rcases hp.eq_or_lt with rfl | hpos
  · have hhalf := half_le_round h
    have hzero : round 0 = 0 := if_pos rfl
    linarith
  have hq : 0 < q := hpos.trans_le h
  rcases (Int.log_mono_right hpos h : Int.log 2 p ≤ Int.log 2 q).lt_or_eq with hlt | heq
  · calc round p ≤ 2 ^ (Int.log 2 p + 1) := round_le_zpow_log hpos
      _ ≤ 2 ^ Int.log 2 q := zpow_le_zpow_right₀ one_le_two hlt
      _ ≤ round q := zpow_log_le_round hq
  · rw [round_eq_of_pos hpos, round_eq_of_pos hq, heq]
    have hunit : (0 : Rat) < 2 ^ (Int.log 2 q - 52) := zpow_pos two_pos _
    refine mul_le_mul_of_nonneg_right ?_ hunit.le
    exact_mod_cast roundEven_mono (div_le_div_of_nonneg_right h hunit.le)

theorem round_nonneg {q : Rat} (hq : 0 ≤ q) : 0 ≤ round q := (by linarith : 0 ≤ q / 2).trans (half_le_round hq)

theorem round_nonpos {q : Rat} (hq : q ≤ 0) : round q ≤ 0 := by
  unfold round
  split_ifs
  · exact le_rfl
  · have hunit : (0 : Rat) < 2 ^ (Int.log 2 |q| - 52) := zpow_pos two_pos _
    have h := roundEven_mono (div_nonpos_of_nonpos_of_nonneg hq hunit.le)
    have hzero : roundEven 0 = 0 := roundEven_intCast 0
    rw [hzero] at h
    exact mul_nonpos_of_nonpos_of_nonneg (by exact_mod_cast h) hunit.le

/-- Whole numbers below 2⁵³ are binary64 numbers. -/
theorem round_natCast {n : Nat} (hn : n < 2 ^ 53) : round n = n := by
  rcases Nat.eq_zero_or_pos n with rfl | hpos
  · exact if_pos rfl
  have hq : (0 : Rat) < n := by exact_mod_cast hpos
  have hlog : Int.log 2 (n : Rat) ≤ 52 := by
    have hlt : (n : Rat) < ((2 : Nat) : Rat) ^ (53 : Int) := by exact_mod_cast hn
    have h := (Int.lt_zpow_iff_log_lt one_lt_two hq).mp hlt
    omega
  obtain ⟨k, hk⟩ := Int.le.dest hlog
  have hunits : ((n * 2 ^ k : Int) : Rat) * 2 ^ (Int.log 2 (n : Rat) - 52) = n := by
    rw [Int.cast_mul, mul_assoc, pow_mul_unit, show Int.log 2 (n : Rat) - 52 + k = 0 by omega]
    simp
  apply le_antisymm
  · have h := round_le_mul_unit hq hunits.ge
    rwa [hunits] at h
  · have h := mul_unit_le_round hq hunits.le
    rwa [hunits] at h

def ofInt (n : Int) : Rat := round n

def div (a b : Rat) : Rat := round (a / b)

def mul (a b : Rat) : Rat := round (a * b)

def truncate (q : Rat) : Int := q.num.tdiv q.den

end Nightjar.Lib.Float64
