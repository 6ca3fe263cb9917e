import Mathlib.Algebra.Order.Floor.Ring
import Mathlib.Tactic

/-! # Uniform grids on the unit interval

A grid of `n` equal cells, the saturating cell index of a point, and the range of cells that
an inclusive index range selects. Points may lie outside the unit interval: the index is
clamped to the first or the last cell.
-/

namespace LumenHorizon.Foundation.Grid

variable {K : Type} [Field K] [LinearOrder K] [FloorRing K]

/-- The cell that contains `t`, clamped to the grid at both ends. -/
def cell (t : K) (n : ℕ) : ℕ := min ⌊t * n⌋.toNat (n - 1)

theorem cell_lt {t : K} {n : ℕ} (hn : 0 < n) : cell t n < n := by
  unfold cell
  omega

variable [IsStrictOrderedRing K]

theorem cell_mono {s t : K} (h : s ≤ t) (n : ℕ) : cell s n ≤ cell t n := by
  have hmul : s * n ≤ t * n := mul_le_mul_of_nonneg_right h (Nat.cast_nonneg n)
  have hfloor := Int.floor_mono hmul
  unfold cell
  omega

theorem cell_eq_zero {t : K} (ht : t ≤ 0) (n : ℕ) : cell t n = 0 := by
  have hmul : t * n ≤ 0 := mul_nonpos_of_nonpos_of_nonneg ht (Nat.cast_nonneg n)
  have hfloor : ⌊t * n⌋ ≤ 0 := Int.floor_le_iff.mpr (by push_cast; linarith)
  unfold cell
  omega

theorem cell_eq_last {t : K} (ht : 1 ≤ t) (n : ℕ) : cell t n = n - 1 := by
  have hmul : (n : K) ≤ t * n := by
    have := mul_le_mul_of_nonneg_right ht (Nat.cast_nonneg (α := K) n)
    simpa using this
  have hfloor : (n : ℤ) ≤ ⌊t * n⌋ := Int.le_floor.mpr (by exact_mod_cast hmul)
  unfold cell
  omega

theorem cell_div_le {t : K} {n : ℕ} (hn : 0 < n) (ht : 0 ≤ t) : (cell t n : K) / n ≤ t := by
  have hpos : (0 : K) < n := Nat.cast_pos.mpr hn
  rw [div_le_iff₀ hpos]
  have hfloor0 : 0 ≤ ⌊t * n⌋ := Int.floor_nonneg.mpr (mul_nonneg ht hpos.le)
  have hcell : (cell t n : ℤ) ≤ ⌊t * n⌋ := by
    unfold cell
    omega
  calc (cell t n : K) = ((cell t n : ℤ) : K) := by push_cast; rfl
    _ ≤ (⌊t * n⌋ : K) := by exact_mod_cast hcell
    _ ≤ t * n := Int.floor_le _

/-- The right edge of its cell is strictly right of a point of the half-open unit interval. -/
theorem lt_cell_succ_div {t : K} {n : ℕ} (hn : 0 < n) (ht : t < 1) :
    t < ((cell t n : K) + 1) / n := by
  have hpos : (0 : K) < n := Nat.cast_pos.mpr hn
  rw [lt_div_iff₀ hpos]
  have hfloor : ⌊t * n⌋ < (n : ℤ) := by
    apply Int.floor_lt.mpr
    have := mul_lt_mul_of_pos_right ht hpos
    push_cast
    linarith
  have hcell : ⌊t * n⌋ ≤ (cell t n : ℤ) := by
    unfold cell
    omega
  calc t * n < ⌊t * n⌋ + 1 := Int.lt_floor_add_one _
    _ ≤ ((cell t n : ℤ) : K) + 1 := by
        have : ((⌊t * n⌋ : ℤ) : K) ≤ ((cell t n : ℤ) : K) := by exact_mod_cast hcell
        linarith
    _ = (cell t n : K) + 1 := by push_cast; rfl

theorem cell_eq {t : K} {k n : ℕ} (hk : k < n) (hleft : (k : K) / n ≤ t)
    (hright : t < ((k : K) + 1) / n) : cell t n = k := by
  have hpos : (0 : K) < n := Nat.cast_pos.mpr (by omega)
  rw [div_le_iff₀ hpos] at hleft
  rw [lt_div_iff₀ hpos] at hright
  have hfloor : ⌊t * n⌋ = (k : ℤ) := by
    rw [Int.floor_eq_iff]
    push_cast
    exact ⟨hleft, hright⟩
  unfold cell
  omega

theorem cell_boundary {k n : ℕ} (hk : k < n) : cell ((k : K) / n) n = k := by
  have hpos : (0 : K) < n := Nat.cast_pos.mpr (by omega)
  exact cell_eq hk le_rfl (div_lt_div_of_pos_right (lt_add_one _) hpos)

/-- Cell `k` meets the interval from `a` to `b` in more than an edge. -/
def Overlaps (a b : K) (k n : ℕ) : Prop := (k : K) / n < b ∧ a < ((k : K) + 1) / n

/-- A cell that meets an interval is in the inclusive range from the cell of its left end to the
cell of its right end. -/
theorem mem_range_of_overlaps {a b : K} {k n : ℕ} (hk : k < n) (h : Overlaps a b k n) :
    cell a n ≤ k ∧ k ≤ cell b n := by
  obtain ⟨hleft, hright⟩ := h
  have hpos : (0 : K) < n := Nat.cast_pos.mpr (by omega)
  rw [div_lt_iff₀ hpos] at hleft
  rw [lt_div_iff₀ hpos] at hright
  have hfloor : ⌊a * n⌋ < (k : ℤ) + 1 := by
    apply Int.floor_lt.mpr
    push_cast
    exact hright
  have hfloor' : (k : ℤ) ≤ ⌊b * n⌋ := Int.le_floor.mpr (by exact_mod_cast hleft.le)
  unfold cell
  omega

/-- The inclusive range from the cell of `g` to the cell of `h` consists of cells that overlap
an enclosing interval exactly when `h` is not the interval's right end on a cell boundary. -/
theorem range_overlaps_iff {a b g h : K} {n : ℕ} (hn : 0 < n) (ha : a < 1) (hb : 0 < b)
    (hag : a ≤ g) (hhb : h ≤ b) (hgh : g ≤ h) :
    (∀ k, cell g n ≤ k → k ≤ cell h n → Overlaps a b k n) ↔
      ¬ (h = b ∧ ∃ k < n, (k : K) / n = b) := by
  have hpos : (0 : K) < n := Nat.cast_pos.mpr hn
  constructor
  · rintro hall ⟨rfl, k, hk, hkb⟩
    have hcell : cell h n = k := by rw [← hkb, cell_boundary hk]
    have hoverlap := hall k (hcell ▸ cell_mono hgh n) hcell.ge
    exact absurd hkb hoverlap.1.ne
  · intro hedge k hgk hkh
    refine ⟨?_, ?_⟩
    · rcases le_or_gt 0 h with hh | hh
      · have hleft : (k : K) / n ≤ h :=
          (div_le_div_of_nonneg_right (Nat.cast_le.mpr hkh) hpos.le).trans (cell_div_le hn hh)
        refine lt_of_le_of_ne (hleft.trans hhb) fun heq => ?_
        exact hedge ⟨le_antisymm hhb (heq ▸ hleft), k, hkh.trans_lt (cell_lt hn), heq⟩
      · have hk0 : k = 0 := by
          rw [cell_eq_zero hh.le] at hkh
          omega
        simpa [hk0] using hb
    · have hright : ((cell g n : K) + 1) / n ≤ ((k : K) + 1) / n := by
        have : (cell g n : K) ≤ k := Nat.cast_le.mpr hgk
        exact div_le_div_of_nonneg_right (by linarith) hpos.le
      rcases lt_or_ge g 1 with hg | hg
      · exact (hag.trans_lt (lt_cell_succ_div hn hg)).trans_le hright
      · have hlast : ((cell g n : K) + 1) / n = 1 := by
          rw [cell_eq_last hg, Nat.cast_sub hn]
          field_simp
          ring
        exact (ha.trans_eq hlast.symm).trans_le hright

theorem mul_sub_one_div {k : ℕ} (hk : 0 < k) (n : ℕ) : (k * n - 1) / k = n - 1 := by
  rcases Nat.eq_zero_or_pos n with rfl | hn
  · simp
  · obtain ⟨m, rfl⟩ := Nat.exists_eq_add_of_lt hn
    have hsplit : k * (0 + m + 1) - 1 = (k - 1) + k * m := by
      have : k * (0 + m + 1) = k * m + k := by ring
      omega
    rw [hsplit, Nat.add_mul_div_left _ _ hk, Nat.div_eq_of_lt (by omega)]
    omega

/-- The cell of a point in a grid that is `k` times as fine is one of the `k` in its cell. -/
theorem cell_mul_div {k : ℕ} (hk : 0 < k) (t : K) (n : ℕ) : cell t (k * n) / k = cell t n := by
  have hpos : (k : K) ≠ 0 := (Nat.cast_pos.mpr hk).ne'
  have hfloor : ⌊t * n⌋ = ⌊t * (k * n : ℕ)⌋ / (k : ℤ) := by
    rw [← Int.floor_div_natCast]
    congr 1
    push_cast
    field_simp
  have hnat : (⌊t * (k * n : ℕ)⌋ / (k : ℤ)).toNat = ⌊t * (k * n : ℕ)⌋.toNat / k := by
    rcases le_or_gt 0 ⌊t * (k * n : ℕ)⌋ with h | h
    · obtain ⟨m, hm⟩ := Int.eq_ofNat_of_zero_le h
      rw [hm]
      norm_cast
    · have hdiv : ⌊t * (k * n : ℕ)⌋ / (k : ℤ) < 0 :=
        Int.ediv_neg_of_neg_of_pos h (by exact_mod_cast hk)
      rw [Int.toNat_of_nonpos hdiv.le, Int.toNat_of_nonpos h.le, Nat.zero_div]
  unfold cell
  rw [hfloor, hnat, ← mul_sub_one_div hk n]
  exact (Monotone.map_min fun _ _ h => Nat.div_le_div_right h)

/-- The coarse cells between two are those of the fine cells between. -/
theorem exists_div_eq_iff {a b j k : ℕ} (hk : 0 < k) (hab : a ≤ b) :
    (∃ i, (a ≤ i ∧ i ≤ b) ∧ i / k = j) ↔ a / k ≤ j ∧ j ≤ b / k := by
  constructor
  · rintro ⟨i, ⟨hai, hib⟩, rfl⟩
    exact ⟨Nat.div_le_div_right hai, Nat.div_le_div_right hib⟩
  · rintro ⟨haj, hjb⟩
    have hmul : j * k / k = j := Nat.mul_div_cancel j hk
    refine ⟨max a (j * k), ⟨le_max_left _ _, max_le hab ?_⟩, ?_⟩
    · exact (Nat.mul_le_mul_right k hjb).trans (Nat.div_mul_le_self b k)
    · rw [Monotone.map_max (f := fun i => i / k) fun _ _ h => Nat.div_le_div_right h, hmul]
      exact max_eq_right haj

end LumenHorizon.Foundation.Grid
