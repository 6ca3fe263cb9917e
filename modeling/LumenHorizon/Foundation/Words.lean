import Mathlib.Tactic

/-! # Arithmetic of machine words

Unsigned words of any width, with the operations that a program picks by what they do when the
result does not fit: checked ones stop, saturating ones stay at the bound, and a change of width
drops the high bits.
-/

namespace LumenHorizon.Foundation.Words

/-- Which operation did not fit. -/
inductive Overflow where
  | add
  | subtract
  | multiply
  | shiftLeft
deriving DecidableEq, Repr

/-- A check at run time that fails. -/
inductive Panic where
  | indexOutOfBounds
  | arithmetic (overflow : Overflow)
deriving DecidableEq, Repr

variable {w : ℕ}

def checkedAdd (a b : BitVec w) : Except Overflow (BitVec w) :=
  if a.toNat + b.toNat < 2 ^ w then .ok (a + b) else .error .add

def checkedSub (a b : BitVec w) : Except Overflow (BitVec w) :=
  if b ≤ a then .ok (a - b) else .error .subtract

def checkedMul (a b : BitVec w) : Except Overflow (BitVec w) :=
  if a.toNat * b.toNat < 2 ^ w then .ok (a * b) else .error .multiply

/-- Bits may be lost, but the distance must be below the width. -/
def checkedShiftLeft {v : ℕ} (a : BitVec w) (distance : BitVec v) : Except Overflow (BitVec w) :=
  if distance.toNat < w then .ok (a <<< distance.toNat) else .error .shiftLeft

/-- The result of an operation on signed words, which are kept as the integers they stand for. -/
def checkedSigned (width : ℕ) (operation : Overflow) (result : ℤ) : Except Overflow ℤ :=
  if -2 ^ (width - 1) ≤ result ∧ result < 2 ^ (width - 1) then .ok result else .error operation

def saturatingSub (a b : BitVec w) : BitVec w := if b ≤ a then a - b else 0

def saturatingMul (a b : BitVec w) : BitVec w :=
  if a.toNat * b.toNat < 2 ^ w then a * b else BitVec.allOnes w

def lesser (a b : BitVec w) : BitVec w := if b < a then b else a

theorem checkedAdd_eq_ok {a b : BitVec w} (h : a.toNat + b.toNat < 2 ^ w) :
    ∃ sum, checkedAdd a b = .ok sum ∧ sum.toNat = a.toNat + b.toNat := by
  refine ⟨a + b, if_pos h, ?_⟩
  rw [BitVec.toNat_add, Nat.mod_eq_of_lt h]

theorem checkedSub_eq_ok {a b : BitVec w} (h : b.toNat ≤ a.toNat) :
    ∃ difference, checkedSub a b = .ok difference ∧ difference.toNat = a.toNat - b.toNat :=
  ⟨a - b, if_pos h, BitVec.toNat_sub_of_le h⟩

theorem checkedMul_eq_ok {a b : BitVec w} (h : a.toNat * b.toNat < 2 ^ w) :
    ∃ product, checkedMul a b = .ok product ∧ product.toNat = a.toNat * b.toNat := by
  refine ⟨a * b, if_pos h, ?_⟩
  rw [BitVec.toNat_mul, Nat.mod_eq_of_lt h]

theorem checkedSigned_eq_ok {width : ℕ} {result : ℤ} (hlower : -2 ^ (width - 1) ≤ result)
    (hupper : result < 2 ^ (width - 1)) (operation : Overflow) :
    checkedSigned width operation result = .ok result := if_pos ⟨hlower, hupper⟩

theorem checkedShiftLeft_one {v : ℕ} {distance : BitVec v} (h : distance.toNat < w) :
    ∃ power : BitVec w, checkedShiftLeft 1 distance = .ok power ∧
      power.toNat = 2 ^ distance.toNat := by
  have hwide : 1 < 2 ^ w := Nat.one_lt_two_pow (by omega)
  have hone : (1 : BitVec w).toNat = 1 := by
    simpa using Nat.mod_eq_of_lt hwide
  have hfits : 2 ^ distance.toNat < 2 ^ w := Nat.pow_lt_pow_right (by omega) h
  refine ⟨(1 : BitVec w) <<< distance.toNat, if_pos h, ?_⟩
  rw [BitVec.toNat_shiftLeft, hone, Nat.one_shiftLeft, Nat.mod_eq_of_lt hfits]

@[simp] theorem toNat_saturatingSub (a b : BitVec w) :
    (saturatingSub a b).toNat = a.toNat - b.toNat := by
  unfold saturatingSub
  by_cases h : b ≤ a
  · rw [if_pos h, BitVec.toNat_sub_of_le h]
  · rw [if_neg h]
    have hlt : a.toNat < b.toNat := by simpa [BitVec.le_def] using h
    simp [Nat.sub_eq_zero_of_le hlt.le]

@[simp] theorem toNat_saturatingMul (a b : BitVec w) :
    (saturatingMul a b).toNat = min (a.toNat * b.toNat) (2 ^ w - 1) := by
  have hpos : 0 < 2 ^ w := Nat.two_pow_pos w
  unfold saturatingMul
  by_cases h : a.toNat * b.toNat < 2 ^ w
  · rw [if_pos h, BitVec.toNat_mul, Nat.mod_eq_of_lt h]
    omega
  · rw [if_neg h, BitVec.toNat_allOnes]
    omega

@[simp] theorem toNat_lesser (a b : BitVec w) : (lesser a b).toNat = min a.toNat b.toNat := by
  unfold lesser
  by_cases h : b < a
  · have hlt : b.toNat < a.toNat := by simpa [BitVec.lt_def] using h
    rw [if_pos h, min_eq_right hlt.le]
  · have hle : a.toNat ≤ b.toNat := by simpa [BitVec.lt_def] using h
    rw [if_neg h, min_eq_left hle]

theorem toNat_setWidth_of_lt {v : ℕ} {a : BitVec w} (h : a.toNat < 2 ^ v) :
    (a.setWidth v).toNat = a.toNat := by
  rw [BitVec.toNat_setWidth, Nat.mod_eq_of_lt h]

end LumenHorizon.Foundation.Words
