import LumenHorizon.Shared.SlippyTiles
import Mathlib.Analysis.SpecialFunctions.Arsinh
import Mathlib.Analysis.SpecialFunctions.Trigonometric.Arctan
import Mathlib.Analysis.SpecialFunctions.Trigonometric.Bounds
import Mathlib.Analysis.Real.Pi.Bounds
import Mathlib.Analysis.Complex.ExponentialBounds

/-! # Two latitude projections

The Web Mercator formulas of the service are a `LatitudeProjection` over the reals. A linear
projection over the rationals has the same interface and can be evaluated.
-/

namespace LumenHorizon.SlippyTiles

/-- Latitude proportional to the row; the map square ends at 85 degrees. -/
def linearRow (φ : ℚ) : ℚ := 1 / 2 - φ / 170

def linearLatitude (t : ℚ) : ℚ := 85 - 170 * t

theorem linearRow_strictAntiOn : StrictAntiOn linearRow (Set.Ioo (-90) 90) := by
  intro φ _ ψ _ h
  change 1 / 2 - ψ / 170 < 1 / 2 - φ / 170
  linarith

theorem linearLatitude_mem (t : ℚ) (h0 : 0 ≤ t) (h1 : t ≤ 1) :
    linearLatitude t ∈ Set.Ioo (-90 : ℚ) 90 := by
  rw [linearLatitude]
  constructor <;> linarith

theorem linearRow_latitude (t : ℚ) (_ : 0 ≤ t) (_ : t ≤ 1) : linearRow (linearLatitude t) = t := by
  rw [linearRow, linearLatitude]
  ring

theorem linearRow_equator : linearRow 0 = 1 / 2 := by norm_num [linearRow]

theorem linearLatitude_north : 80 < linearLatitude 0 := by norm_num [linearLatitude]

theorem linearLatitude_south : linearLatitude 1 < -80 := by norm_num [linearLatitude]

def linearProjection : LatitudeProjection ℚ where
  row := linearRow
  latitude := linearLatitude
  row_strictAntiOn := linearRow_strictAntiOn
  latitude_mem := linearLatitude_mem
  row_latitude := linearRow_latitude
  row_equator := linearRow_equator
  north_edge := linearLatitude_north
  south_edge := linearLatitude_south

section Mercator
open Real

/-- `to_radians`. -/
noncomputable def radians (degrees : ℝ) : ℝ := degrees * (π / 180)

/-- `normalized` in `latitude_to_tile_y`. -/
noncomputable def mercatorRow (latitude : ℝ) : ℝ :=
  (1 - log (tan (radians latitude) + 1 / cos (radians latitude)) / π) / 2

/-- `tile_y_to_latitude` at the normalized row. -/
noncomputable def mercatorLatitude (t : ℝ) : ℝ := arctan (sinh (π * (1 - 2 * t))) * (180 / π)

theorem radians_mem {φ : ℝ} (hφ : φ ∈ Set.Ioo (-90 : ℝ) 90) :
    radians φ ∈ Set.Ioo (-(π / 2)) (π / 2) := by
  have hpi := pi_pos
  rw [radians]
  constructor
  · nlinarith [hφ.1]
  · nlinarith [hφ.2]

theorem radians_degrees (r : ℝ) : radians (r * (180 / π)) = r := by
  have hpi := pi_ne_zero
  rw [radians]
  field_simp

/-- The logarithm in the source is the inverse hyperbolic sine of the tangent. -/
theorem mercatorRow_eq_arsinh {φ : ℝ} (hφ : φ ∈ Set.Ioo (-90 : ℝ) 90) :
    mercatorRow φ = (1 - arsinh (tan (radians φ)) / π) / 2 := by
  have hcos : 0 < cos (radians φ) := cos_pos_of_mem_Ioo (radians_mem hφ)
  have hsec : 1 / cos (radians φ) = √(1 + tan (radians φ) ^ 2) := by
    rw [← inv_sqrt_one_add_tan_sq hcos, one_div, inv_inv]
  rw [mercatorRow, hsec, arsinh]

/-- The row of a latitude and a row are compared by the tangent of the latitude. -/
theorem lt_mercatorRow_iff {φ t : ℝ} (hφ : φ ∈ Set.Ioo (-90 : ℝ) 90) :
    t < mercatorRow φ ↔ tan (radians φ) < sinh (π * (1 - 2 * t)) := by
  have harsinh := @arsinh_lt_arsinh (tan (radians φ)) (sinh (π * (1 - 2 * t)))
  rw [arsinh_sinh] at harsinh
  rw [mercatorRow_eq_arsinh hφ, ← harsinh, lt_div_iff₀ two_pos, lt_sub_comm, div_lt_iff₀' pi_pos,
    mul_comm t]

theorem mercatorRow_lt_iff {φ t : ℝ} (hφ : φ ∈ Set.Ioo (-90 : ℝ) 90) :
    mercatorRow φ < t ↔ sinh (π * (1 - 2 * t)) < tan (radians φ) := by
  have harsinh := @arsinh_lt_arsinh (sinh (π * (1 - 2 * t))) (tan (radians φ))
  rw [arsinh_sinh] at harsinh
  rw [mercatorRow_eq_arsinh hφ, ← harsinh, div_lt_iff₀ two_pos, sub_lt_comm, lt_div_iff₀' pi_pos,
    mul_comm t]

theorem mercatorRow_strictAntiOn : StrictAntiOn mercatorRow (Set.Ioo (-90) 90) := by
  intro φ hφ ψ hψ h
  rw [mercatorRow_eq_arsinh hφ, mercatorRow_eq_arsinh hψ]
  have hrad : radians φ < radians ψ := by
    rw [radians, radians]
    exact mul_lt_mul_of_pos_right h (by positivity)
  have htan := strictMonoOn_tan (radians_mem hφ) (radians_mem hψ) hrad
  have harsinh := arsinh_strictMono htan
  have hdiv := div_lt_div_of_pos_right harsinh pi_pos
  linarith

theorem mercatorLatitude_mem (t : ℝ) : mercatorLatitude t ∈ Set.Ioo (-90 : ℝ) 90 := by
  have hpi := pi_pos
  have hlo := neg_pi_div_two_lt_arctan (sinh (π * (1 - 2 * t)))
  have hhi := arctan_lt_pi_div_two (sinh (π * (1 - 2 * t)))
  rw [mercatorLatitude]
  constructor
  · calc (-90 : ℝ) = -(π / 2) * (180 / π) := by field_simp; norm_num
      _ < _ := mul_lt_mul_of_pos_right hlo (by positivity)
  · calc _ < π / 2 * (180 / π) := mul_lt_mul_of_pos_right hhi (by positivity)
      _ = 90 := by field_simp; norm_num

theorem mercatorRow_mercatorLatitude (t : ℝ) : mercatorRow (mercatorLatitude t) = t := by
  rw [mercatorRow_eq_arsinh (mercatorLatitude_mem t), mercatorLatitude, radians_degrees,
    tan_arctan, arsinh_sinh]
  field_simp
  ring

theorem nine_lt_sinh_pi : 9 < sinh π := by
  have hpi := pi_gt_d2
  have hexp : 19 < exp π := by
    have h1 := exp_one_gt_d9
    have h3 : exp 3 = exp 1 ^ 3 := by
      rw [← exp_nat_mul]
      norm_num
    have hmono : exp 3 ≤ exp π := exp_le_exp.mpr (by linarith)
    have hcube : (2.7 : ℝ) ^ 3 ≤ exp 1 ^ 3 := pow_le_pow_left₀ (by norm_num) (by linarith) 3
    norm_num at hcube
    linarith
  have hneg : exp (-π) < 1 := exp_lt_one_iff.mpr (by linarith)
  rw [sinh_eq]
  linarith

/-- 82 degrees lie strictly inside the map square: `tan 82° < 9 < sinh π`. -/
theorem tan_eightyTwo_lt_sinh_pi : tan (radians 82) < sinh π := by
  have hpi := pi_gt_d2
  have hpi4 := pi_le_four
  have hcompl : radians 82 = π / 2 - 2 * π / 45 := by
    rw [radians]
    ring
  have hsin : 1 / 9 < sin (2 * π / 45) := by
    have h := sin_gt_sub_cube (show 0 < 2 * π / 45 by positivity)
    have hcube : (2 * π / 45) ^ 3 ≤ (8 / 45) ^ 3 :=
      pow_le_pow_left₀ (by positivity) (by linarith) 3
    norm_num at hcube
    linarith
  have htan : tan (radians 82) < 9 := by
    rw [hcompl, tan_eq_sin_div_cos, sin_pi_div_two_sub, cos_pi_div_two_sub,
      div_lt_iff₀ (by linarith)]
    linarith [cos_le_one (2 * π / 45)]
  exact htan.trans nine_lt_sinh_pi

theorem eightyTwo_lt_mercatorLatitude : 82 < mercatorLatitude 0 := by
  have h82 : (82 : ℝ) ∈ Set.Ioo (-90 : ℝ) 90 := by norm_num
  have hrow : 0 < mercatorRow 82 := by
    rw [lt_mercatorRow_iff h82, mul_zero, sub_zero, mul_one]
    exact tan_eightyTwo_lt_sinh_pi
  by_contra hle
  have hanti := mercatorRow_strictAntiOn.antitoneOn (mercatorLatitude_mem 0) h82 (not_lt.mp hle)
  rw [mercatorRow_mercatorLatitude] at hanti
  linarith

theorem mercator_north_edge : 80 < mercatorLatitude 0 := by
  have h := eightyTwo_lt_mercatorLatitude
  linarith

/-- The projection the service uses, with its own two formulas. -/
noncomputable def mercator : LatitudeProjection ℝ where
  row := mercatorRow
  latitude := mercatorLatitude
  row_strictAntiOn := mercatorRow_strictAntiOn
  latitude_mem t _ _ := mercatorLatitude_mem t
  row_latitude t _ _ := mercatorRow_mercatorLatitude t
  row_equator := by simp [mercatorRow, radians]
  north_edge := mercator_north_edge
  south_edge := by
    -- the square is symmetric about the equator
    have hsym : mercatorLatitude 1 = -mercatorLatitude 0 := by
      simp only [mercatorLatitude]
      norm_num [arctan_neg, sinh_neg]
    linarith [mercator_north_edge]

/-! ## The rows of two parallels -/

theorem sinh_pi_div_four_mem : sinh (π / 4) ∈ Set.Ioo 0.85 1 := by
  have hlo := pi_gt_d2
  have hhi := pi_lt_d2
  have hexp : 2.17 < exp (π / 4) := by
    have h := sum_le_exp_of_nonneg (show 0 ≤ π / 4 by positivity) 4
    simp only [Finset.sum_range_succ, Finset.sum_range_zero] at h
    norm_num [Nat.factorial] at h
    have hsq : 0.785 ^ 2 < (π / 4) ^ 2 := pow_lt_pow_left₀ (by linarith) (by norm_num) two_ne_zero
    have hcube : 0.785 ^ 3 < (π / 4) ^ 3 := pow_lt_pow_left₀ (by linarith) (by norm_num) (by norm_num)
    norm_num at hsq hcube ⊢
    linarith
  have hexp' : exp (π / 4) < 2.4 := by
    have hfifth : exp (0.8 : ℝ) ^ 5 = exp 1 ^ 4 := by
      rw [← exp_nat_mul, ← exp_nat_mul]
      norm_num
    have hfourth : exp 1 ^ 4 < 2.4 ^ 5 :=
      (pow_lt_pow_left₀ exp_one_lt_d9 (exp_pos 1).le (by norm_num)).trans (by norm_num)
    have h : exp (0.8 : ℝ) < 2.4 := lt_of_pow_lt_pow_left₀ 5 (by norm_num) (hfifth ▸ hfourth)
    exact (exp_lt_exp.mpr (by linarith)).trans h
  have hinv : exp (-(π / 4)) * exp (π / 4) = 1 := by rw [← exp_add, neg_add_cancel, exp_zero]
  rw [sinh_eq]
  constructor <;> nlinarith [exp_pos (-(π / 4))]

/-- `tan 80°` is the inverse of `tan 10°`, and twice 40 degrees are 80. -/
theorem tan_forty_mem : tan (radians 40) ∈ Set.Ioo 0 0.85 := by
  have hpi := pi_gt_d2
  have hforty : radians 40 = 2 * π / 9 := by
    rw [radians]
    ring
  have hpos : 0 < tan (radians 40) := by
    apply tan_pos_of_pos_of_lt_pi_div_two <;> linarith
  have hone : tan (radians 40) < 1 := by
    rw [← tan_pi_div_four]
    apply tan_lt_tan_of_nonneg_of_lt_pi_div_two <;> linarith
  have hten : 0.1744 < tan (π / 18) :=
    lt_trans (by linarith) (lt_tan (by positivity) (by linarith))
  have heighty : tan (2 * radians 40) = (tan (π / 18))⁻¹ := by
    rw [← tan_pi_div_two_sub, hforty]
    ring_nf
  rw [tan_two_mul, inv_eq_one_div, div_eq_div_iff (by nlinarith) (by linarith)] at heighty
  refine ⟨hpos, ?_⟩
  nlinarith

theorem tan_fifty_mem : tan (radians 50) ∈ Set.Ioo 1 2 := by
  have hpi := pi_pos
  have hfifty : radians 50 = 5 * π / 18 := by
    rw [radians]
    ring
  constructor
  · rw [← tan_pi_div_four, hfifty]
    apply tan_lt_tan_of_nonneg_of_lt_pi_div_two <;> linarith
  · calc tan (radians 50) < tan (π / 3) := by
          rw [hfifty]
          apply tan_lt_tan_of_nonneg_of_lt_pi_div_two <;> linarith
      _ = √3 := tan_pi_div_three
      _ < 2 := (sqrt_lt' two_pos).mpr (by norm_num)

theorem two_lt_sinh_pi_div_two : 2 < sinh (π / 2) := by
  have hsinh := sinh_pi_div_four_mem.1
  have hcosh : 1.2 < cosh (π / 4) := by
    have hsq := cosh_sq (π / 4)
    have hpos := cosh_pos (π / 4)
    nlinarith
  have hdouble : sinh (π / 2) = 2 * sinh (π / 4) * cosh (π / 4) := by
    rw [← sinh_two_mul]
    ring_nf
  rw [hdouble]
  nlinarith

theorem mercatorRow_forty_mem : mercatorRow 40 ∈ Set.Ioo (3 / 8) (1 / 2) := by
  have hmem : (40 : ℝ) ∈ Set.Ioo (-90 : ℝ) 90 := by norm_num
  constructor
  · rw [lt_mercatorRow_iff hmem, show π * (1 - 2 * (3 / 8)) = π / 4 by ring]
    exact tan_forty_mem.2.trans sinh_pi_div_four_mem.1
  · rw [mercatorRow_lt_iff hmem, show π * (1 - 2 * (1 / 2)) = 0 by ring, sinh_zero]
    exact tan_forty_mem.1

theorem mercatorRow_fifty_mem : mercatorRow 50 ∈ Set.Ioo (1 / 4) (3 / 8) := by
  have hmem : (50 : ℝ) ∈ Set.Ioo (-90 : ℝ) 90 := by norm_num
  constructor
  · rw [lt_mercatorRow_iff hmem, show π * (1 - 2 * (1 / 4)) = π / 2 by ring]
    exact tan_fifty_mem.2.trans two_lt_sinh_pi_div_two
  · rw [mercatorRow_lt_iff hmem, show π * (1 - 2 * (3 / 8)) = π / 4 by ring]
    exact sinh_pi_div_four_mem.2.trans tan_fifty_mem.1

end Mercator
end LumenHorizon.SlippyTiles
