import LumenHorizon.Foundation.Grid
import Mathlib.Algebra.Order.Floor.Semifield

/-! # Nearest-neighbour resampling of a window

A stretch of a one-dimensional raster is widened to whole samples and resized to `n` output
samples. The position that output sample `i` stands for and the source sample it is taken from
differ by less than one sample, and a second affine map with the same property for rasters of
every width is the same map.
-/

namespace LumenHorizon.Foundation.Resample

/-- The source sample behind output sample `i` when `width` samples from `offset` on are
resized to `n`: `offset + floor((i + 1/2) * width / n)`. -/
def sampleIndex (offset width n i : ℕ) : ℕ := offset + (2 * i + 1) * width / (2 * n)

variable {K : Type} [Field K] [LinearOrder K]

/-- The centre of cell `i` of `n` in the unit interval. -/
def centre (n i : ℕ) : K := (2 * i + 1) / (2 * n)

variable [IsStrictOrderedRing K]

theorem centre_pos {n i : ℕ} (hi : i < n) : (0 : K) < centre n i := by
  have hn : (0 : K) < n := Nat.cast_pos.mpr (by omega)
  unfold centre
  positivity

theorem centre_lt_one {n i : ℕ} (hi : i < n) : centre n i < (1 : K) := by
  have hn : (0 : K) < n := Nat.cast_pos.mpr (by omega)
  have hle : ((i : K) + 1) ≤ n := by exact_mod_cast hi
  rw [centre, div_lt_one (by positivity)]
  linarith

theorem centre_last {n : ℕ} (hn : 0 < n) : (centre n (n - 1) : K) = 1 - centre n 0 := by
  have hpos : (n : K) ≠ 0 := (Nat.cast_pos.mpr hn).ne'
  rw [centre, centre, Nat.cast_sub hn]
  field_simp
  push_cast
  ring

variable [FloorRing K]

/-- An output sample is taken from the sample that contains its scaled position. -/
theorem sampleIndex_eq_floor (offset width n i : ℕ) :
    sampleIndex offset width n i = ⌊(offset : K) + centre n i * width⌋₊ := by
  have hcast : (centre n i * width : K) = (((2 * i + 1) * width : ℕ) : K) / ((2 * n : ℕ) : K) := by
    rw [centre]
    push_cast
    ring
  have hnonneg : (0 : K) ≤ ((2 * i + 1) * width : ℕ) / ((2 * n : ℕ) : K) := by positivity
  rw [sampleIndex, hcast, add_comm (offset : K), Nat.floor_add_natCast hnonneg,
    Nat.floor_div_eq_div, add_comm]

/-- The widened window moves a position by less than one sample. -/
theorem widened_near {a b t : K} (ha : 0 ≤ a) (hab : a < b) (ht0 : 0 < t) (ht1 : t < 1) :
    a + t * (b - a) - 1 < (⌊a⌋₊ : K) + t * ((⌈b⌉₊ - ⌊a⌋₊ : ℕ) : K) ∧
      (⌊a⌋₊ : K) + t * ((⌈b⌉₊ - ⌊a⌋₊ : ℕ) : K) < a + t * (b - a) + 1 := by
  have hfloor := Nat.floor_le ha
  have hfloor' := Nat.lt_floor_add_one a
  have hceil := Nat.le_ceil b
  have hceil' := Nat.ceil_lt_add_one (ha.trans hab.le)
  have hle : ⌊a⌋₊ ≤ ⌈b⌉₊ := by
    have : (⌊a⌋₊ : K) ≤ ⌈b⌉₊ := hfloor.trans (hab.le.trans hceil)
    exact_mod_cast this
  rw [Nat.cast_sub hle]
  -- the shift is `(1 - t) * (floor a - a) + t * (ceil b - b)`
  constructor
  · nlinarith [mul_nonneg ht0.le (sub_nonneg.mpr hceil),
      mul_pos (sub_pos.mpr ht1) (sub_pos.mpr hfloor')]
  · nlinarith [mul_pos ht0 (sub_pos.mpr hceil'),
      mul_nonneg (sub_pos.mpr ht1).le (sub_nonneg.mpr hfloor)]

theorem sampleIndex_widened {a b : K} {n i : ℕ} (ha : 0 ≤ a) (hab : a < b) (hi : i < n) :
    (sampleIndex ⌊a⌋₊ (⌈b⌉₊ - ⌊a⌋₊) n i : K) < a + centre n i * (b - a) + 1 ∧
      a + centre n i * (b - a) < sampleIndex ⌊a⌋₊ (⌈b⌉₊ - ⌊a⌋₊) n i + 2 := by
  obtain ⟨hlo, hhi⟩ := widened_near ha hab (centre_pos hi) (centre_lt_one hi)
  rw [sampleIndex_eq_floor (K := K)]
  have hnonneg : (0 : K) ≤ ⌊a⌋₊ + centre n i * ((⌈b⌉₊ - ⌊a⌋₊ : ℕ) : K) :=
    add_nonneg (Nat.cast_nonneg _) (mul_nonneg (centre_pos hi).le (Nat.cast_nonneg _))
  have hfloor := Nat.floor_le hnonneg
  have hfloor' := Nat.lt_floor_add_one ((⌊a⌋₊ : K) + centre n i * ((⌈b⌉₊ - ⌊a⌋₊ : ℕ) : K))
  constructor <;> linarith

/-- The sample read is at most one away from each sample whose interval contains the position. -/
theorem sampleIndex_near {a b : K} {n i c : ℕ} (ha : 0 ≤ a) (hab : a < b) (hi : i < n)
    (hc : (c : K) ≤ a + centre n i * (b - a)) (hc' : a + centre n i * (b - a) ≤ c + 1) :
    sampleIndex ⌊a⌋₊ (⌈b⌉₊ - ⌊a⌋₊) n i ≤ c + 1 ∧
      c ≤ sampleIndex ⌊a⌋₊ (⌈b⌉₊ - ⌊a⌋₊) n i + 1 := by
  obtain ⟨hlt, hgt⟩ := sampleIndex_widened ha hab hi
  constructor
  · have h : (sampleIndex ⌊a⌋₊ (⌈b⌉₊ - ⌊a⌋₊) n i : K) < (c + 1 + 1 : ℕ) := by
      push_cast
      linarith
    exact Nat.lt_succ_iff.mp (Nat.cast_lt.mp h)
  · have h : (c : K) < (sampleIndex ⌊a⌋₊ (⌈b⌉₊ - ⌊a⌋₊) n i + 1 + 1 : ℕ) := by
      push_cast
      linarith
    exact Nat.lt_succ_iff.mp (Nat.cast_lt.mp h)

/-- Two positions that stay a bounded number of samples apart on rasters of every width are
the same fraction of the raster. -/
theorem fraction_eq_of_bounded {r s m : K} (h : ∀ w : ℕ, 1 ≤ w → |r * w - s * w| < m) : r = s := by
  by_contra hne
  have hpos : 0 < |r - s| := abs_pos.mpr (sub_ne_zero.mpr hne)
  obtain ⟨w, hw⟩ := exists_nat_gt (m / |r - s|)
  have hw1 : m < (w + 1 : ℕ) * |r - s| := by
    rw [div_lt_iff₀ hpos] at hw
    push_cast
    linarith
  have hlt := h (w + 1) (by omega)
  rw [← sub_mul, abs_mul, Nat.abs_cast] at hlt
  linarith

/-- A window from fraction `x` to `y` of every raster reads, up to one sample, from fraction
`q` only if `q` is the position of the output sample in the window. -/
theorem window_fraction_eq {x y q : K} {n i : ℕ} (hx : 0 ≤ x) (hxy : x < y) (hi : i < n)
    (hq0 : 0 ≤ q) (hq1 : q ≤ 1)
    (h : ∀ w : ℕ, 1 ≤ w → ∀ c < w, (c : K) / w ≤ q → q ≤ ((c : K) + 1) / w →
      sampleIndex ⌊x * w⌋₊ (⌈y * w⌉₊ - ⌊x * w⌋₊) n i ≤ c + 1 ∧
        c ≤ sampleIndex ⌊x * w⌋₊ (⌈y * w⌉₊ - ⌊x * w⌋₊) n i + 1) :
    x + centre n i * (y - x) = q := by
  apply fraction_eq_of_bounded (m := 4)
  intro w hw
  have hpos : (0 : K) < w := Nat.cast_pos.mpr hw
  have hcell : q ≤ ((Grid.cell q w : K) + 1) / w := by
    rcases hq1.lt_or_eq with hlt | rfl
    · exact (Grid.lt_cell_succ_div hw hlt).le
    · rw [Grid.cell_eq_last le_rfl, Nat.cast_sub hw]
      apply le_of_eq
      field_simp
      ring
  have hcell' := Grid.cell_div_le hw hq0
  obtain ⟨hle, hge⟩ := h w hw (Grid.cell q w) (Grid.cell_lt hw) hcell' hcell
  have hle' : (sampleIndex ⌊x * w⌋₊ (⌈y * w⌉₊ - ⌊x * w⌋₊) n i : K) ≤ Grid.cell q w + 1 := by
    exact_mod_cast hle
  have hge' : (Grid.cell q w : K) ≤ sampleIndex ⌊x * w⌋₊ (⌈y * w⌉₊ - ⌊x * w⌋₊) n i + 1 := by
    exact_mod_cast hge
  obtain ⟨hlt, hgt⟩ := sampleIndex_widened (mul_nonneg hx hpos.le)
    (mul_lt_mul_of_pos_right hxy hpos) hi
  rw [div_le_iff₀ hpos] at hcell'
  rw [le_div_iff₀ hpos] at hcell
  have hfactor : (x + centre n i * (y - x)) * w = x * w + centre n i * (y * w - x * w) := by ring
  rw [hfactor, abs_lt]
  constructor <;> linarith

end LumenHorizon.Foundation.Resample
