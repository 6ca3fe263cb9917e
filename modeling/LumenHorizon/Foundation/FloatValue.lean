import Mathlib.Tactic

/-! # Values of a floating-point type

A value is a rational number, an infinity or not a number. Comparisons are those of IEEE 754: they
are false as soon as one side is not a number, so the negation of one is not the opposite one.
-/

namespace LumenHorizon.Foundation

inductive FloatValue where
  | nan
  | negInf
  | posInf
  | finite (value : ℚ)
deriving DecidableEq, Repr

namespace FloatValue

/-- `==` -/
def eq : FloatValue → FloatValue → Bool
  | finite a, finite b => a = b
  | posInf, posInf | negInf, negInf => true
  | _, _ => false

/-- `<` -/
def lt : FloatValue → FloatValue → Bool
  | finite a, finite b => a < b
  | negInf, finite _ | negInf, posInf | finite _, posInf => true
  | _, _ => false

/-- `>=`, which is not the negation of `<`. -/
def ge : FloatValue → FloatValue → Bool
  | nan, _ | _, nan => false
  | a, b => !a.lt b

def isFinite : FloatValue → Bool
  | finite _ => true
  | _ => false

@[simp] theorem eq_finite_finite (a b : ℚ) : eq (finite a) (finite b) = decide (a = b) := rfl

@[simp] theorem lt_finite_finite (a b : ℚ) : lt (finite a) (finite b) = decide (a < b) := rfl

@[simp] theorem ge_finite_finite (a b : ℚ) : ge (finite a) (finite b) = decide (b ≤ a) := by
  simp [ge, ← decide_not]

@[simp] theorem eq_nan_left (a : FloatValue) : eq nan a = false := by cases a <;> rfl

@[simp] theorem lt_nan_left (a : FloatValue) : lt nan a = false := by cases a <;> rfl

@[simp] theorem isFinite_finite (a : ℚ) : isFinite (finite a) = true := rfl

theorem eq_finite_iff {a : FloatValue} {b : ℚ} : a.eq (finite b) = true ↔ a = finite b := by
  cases a <;> simp [eq]

/-- What is not below a number is a number from there on, the positive infinity, or no number. -/
theorem lt_finite_eq_false_iff {a : FloatValue} {b : ℚ} :
    a.lt (finite b) = false ↔ a = nan ∨ a = posInf ∨ ∃ value, a = finite value ∧ b ≤ value := by
  cases a <;> simp [lt]

end FloatValue
end LumenHorizon.Foundation
