import Mathlib.Data.List.TakeWhile
import Mathlib.Tactic

/-! # Reading a text back

A text that is put together from parts and separators is taken apart again where the parts do not
contain the separator; a decimal number is taken back from its digits.
-/

namespace LumenHorizon.Foundation.Text

variable {α : Type} [DecidableEq α]

theorem takeWhile_append_separator {a : α} {l r : List α} (h : a ∉ l) :
    (l ++ a :: r).takeWhile (· ≠ a) = l := by
  rw [List.takeWhile_append_of_pos]
  · simp
  · intro c hc
    simpa using fun heq : c = a => h (heq ▸ hc)

theorem dropWhile_append_separator {a : α} {l r : List α} (h : a ∉ l) :
    (l ++ a :: r).dropWhile (· ≠ a) = a :: r := by
  rw [List.dropWhile_append_of_pos]
  · simp
  · intro c hc
    simpa using fun heq : c = a => h (heq ▸ hc)

/-- Two texts are the same up to and after the first separator. -/
theorem append_separator_inj {a : α} {l l' r r' : List α} (h : a ∉ l) (h' : a ∉ l') :
    l ++ a :: r = l' ++ a :: r' ↔ l = l' ∧ r = r' := by
  constructor
  · intro heq
    have hbefore := congrArg (List.takeWhile (· ≠ a)) heq
    rw [takeWhile_append_separator h, takeWhile_append_separator h'] at hbefore
    subst hbefore
    simpa using heq
  · rintro ⟨rfl, rfl⟩
    rfl

/-- Two texts are the same up to and after the last separator. -/
theorem separator_append_inj {a : α} {l l' r r' : List α} (h : a ∉ r) (h' : a ∉ r') :
    l ++ a :: r = l' ++ a :: r' ↔ l = l' ∧ r = r' := by
  rw [← List.reverse_inj]
  simp only [List.reverse_append, List.reverse_cons, List.append_assoc, List.singleton_append]
  rw [append_separator_inj (by simpa using h) (by simpa using h'), List.reverse_inj,
    List.reverse_inj]
  exact and_comm

omit [DecidableEq α] in
/-- A pair that is in neither part and does not start at the end of the first is not in both. -/
theorem pair_not_infix_append {a b : α} {l r : List α} (hl : ¬ [a, b] <:+: l)
    (hr : ¬ [a, b] <:+: r) (hlast : l.getLast? ≠ some a) : ¬ [a, b] <:+: l ++ r := by
  rw [List.infix_append_iff_ne_nil]
  rintro (h | h | ⟨l₁, l₂, hl₁, hl₂, heq, hsuffix, -⟩)
  · exact hl h
  · exact hr h
  · cases l₁ with
    | nil => exact hl₁ rfl
    | cons c l₁ =>
      obtain ⟨rfl, htail⟩ := List.cons.inj heq
      cases l₁ with
      | nil =>
        obtain ⟨before, rfl⟩ := hsuffix
        simp at hlast
      | cons d l₁ =>
        obtain ⟨rfl, hnil⟩ := List.cons.inj htail
        exact hl₂ (List.append_eq_nil_iff.mp hnil.symm).2

@[simp] theorem toList_toString (n : ℕ) : (toString n).toList = Nat.toDigits 10 n := by
  rw [Nat.toString_eq_repr, Nat.repr_eq_ofList_toDigits, String.toList_ofList]

theorem isDigit_of_mem_toString {n : ℕ} {c : Char} (h : c ∈ (toString n).toList) :
    c.isDigit = true := by
  rw [toList_toString] at h
  exact Nat.isDigit_of_mem_toDigits (by decide) (by decide) h

theorem notMem_of_forall_isDigit {l : List Char} {c : Char} (h : ∀ d ∈ l, d.isDigit = true)
    (hc : c.isDigit = false) : c ∉ l := by
  intro hmem
  rw [h c hmem] at hc
  cases hc

def value (l : List Char) : ℕ := Nat.ofDigitChars 10 l 0

theorem value_toString (n : ℕ) : value (toString n).toList = n := by
  rw [toList_toString]
  exact Nat.ofDigitChars_ten_toDigits

theorem value_replicate_append (k n : ℕ) :
    value (List.replicate k '0' ++ (toString n).toList) = n := by
  rw [value, Nat.ofDigitChars_append, Nat.ofDigitChars_replicate_zero]
  exact value_toString n

theorem toString_inj {m n : ℕ} (h : toString m = toString n) : m = n := by
  rw [← value_toString m, h, value_toString]

theorem exists_digitChar {c : Char} (h : c.isDigit = true) :
    ∃ d, d < 10 ∧ c = Nat.digitChar d ∧ c.toNat - 48 = d := by
  have hbounds := Char.isDigit_iff_toNat.mp h
  simp only [Char.reduceToNat] at hbounds
  have hlt : c.toNat - 48 < 10 := by omega
  refine ⟨c.toNat - 48, hlt, ?_, rfl⟩
  apply Char.toNat_inj.mp
  have hvalue := Nat.toNat_digitChar_sub_48_of_lt_ten hlt
  have hdigit := Char.isDigit_iff_toNat.mp
    ((Nat.isDigit_digitChar (n := c.toNat - 48)).trans (decide_eq_true hlt))
  simp only [Char.reduceToNat] at hdigit
  omega

theorem value_concat (l : List Char) (c : Char) : value (l ++ [c]) = 10 * value l + (c.toNat - 48) := by
  rw [value, Nat.ofDigitChars_append, Nat.ofDigitChars_cons, Nat.ofDigitChars_nil]
  rfl

/-- A list of digits is the number it writes behind some zeros. The induction takes off the last
digit; before it stands a number, or zeros alone. -/
theorem exists_replicate_append {l : List Char} (hne : l ≠ []) (hdigits : ∀ c ∈ l, c.isDigit = true) :
    ∃ k, l = List.replicate k '0' ++ (toString (value l)).toList := by
  induction l using List.reverseRecOn with
  | nil => exact absurd rfl hne
  | append_singleton l c ih =>
    obtain ⟨d, hd, rfl, hvalue⟩ := exists_digitChar (hdigits c (by simp))
    rw [value_concat, hvalue]
    by_cases hl : l = []
    · subst hl
      refine ⟨0, ?_⟩
      simp [value, Nat.toDigits_of_lt_base hd]
    · obtain ⟨k, hk⟩ := ih hl fun c hc => hdigits c (List.mem_append_left _ hc)
      rw [toList_toString] at hk ⊢
      by_cases hzero : value l = 0
      · refine ⟨k + 1, ?_⟩
        rw [hzero] at hk ⊢
        rw [hk, List.replicate_succ', Nat.toDigits_zero, Nat.mul_zero, Nat.zero_add,
          Nat.toDigits_of_lt_base hd]
      · refine ⟨k, ?_⟩
        rw [← Nat.toDigits_append_toDigits (by decide) (Nat.pos_of_ne_zero hzero) hd,
          Nat.toDigits_of_lt_base hd, ← List.append_assoc, ← hk]

end LumenHorizon.Foundation.Text
