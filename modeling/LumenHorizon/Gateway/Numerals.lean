import LumenHorizon.Foundation.Text
import LumenHorizon.Processing.Config

/-! # Numbers in requests

Parsing an unsigned number takes a plus sign and further zeros before it, so that one number has
many spellings.
-/

namespace LumenHorizon.Gateway
open Foundation Processing

structure Spelling where
  plus : Bool
  zeros : ℕ
deriving DecidableEq, Repr

namespace Spelling

/-- The spelling that `to_string` uses. -/
def plain : Spelling := ⟨false, 0⟩

def digits (spelling : Spelling) (n : ℕ) : List Char :=
  List.replicate spelling.zeros '0' ++ (toString n).toList

def write (spelling : Spelling) (n : ℕ) : String :=
  String.ofList (if spelling.plus then '+' :: spelling.digits n else spelling.digits n)

variable {spelling spelling' : Spelling} {m n : ℕ}

@[simp] theorem write_plain : plain.write n = toString n := by
  apply String.toList_injective
  simp [plain, write, digits]

theorem digits_ne_nil : spelling.digits n ≠ [] := by
  simp [digits]

theorem isDigit_of_mem_digits {c : Char} (h : c ∈ spelling.digits n) : c.isDigit = true := by
  rcases List.mem_append.mp h with h | h
  · rw [List.eq_of_mem_replicate h]
    decide
  · exact Text.isDigit_of_mem_toString h

@[simp] theorem value_digits : Text.value (spelling.digits n) = n :=
  Text.value_replicate_append _ _

end Spelling

def stripPlus : List Char → List Char
  | '+' :: rest => rest
  | all => all

theorem stripPlus_of_isDigit {l : List Char} (h : ∀ c ∈ l, c.isDigit = true) : stripPlus l = l := by
  cases l with
  | nil => rfl
  | cons c l =>
    have hc : c ≠ '+' := by
      rintro rfl
      exact absurd (h '+' List.mem_cons_self) (by decide)
    simp [stripPlus, hc]

theorem eq_or_eq_cons_stripPlus (l : List Char) : l = stripPlus l ∨ l = '+' :: stripPlus l := by
  unfold stripPlus
  split
  · exact .inr rfl
  · exact .inl rfl

theorem parseUnsigned_eq (max : ℕ) (text : String) :
    parseUnsigned max text =
      if stripPlus text.toList ≠ [] ∧ (stripPlus text.toList).all Char.isDigit ∧
          Text.value (stripPlus text.toList) ≤ max then
        some (Text.value (stripPlus text.toList))
      else none := by
  have hvalue : ∀ l : List Char,
      l.foldl (fun n c => n * 10 + (c.toNat - 48)) 0 = Text.value l := by
    intro l
    simp only [Text.value, Nat.ofDigitChars, Nat.mul_comm 10, Char.reduceToNat]
  unfold parseUnsigned
  simp only [hvalue]
  rfl

/-- A text parses as a number exactly when it is a spelling of it. -/
theorem parseUnsigned_eq_some_iff {max n : ℕ} {text : String} :
    parseUnsigned max text = some n ↔ n ≤ max ∧ ∃ spelling : Spelling, text = spelling.write n := by
  rw [parseUnsigned_eq]
  constructor
  · intro h
    split at h
    · rename_i hparse
      obtain ⟨hne, hall, hmax⟩ := hparse
      cases h
      obtain ⟨k, hk⟩ := Text.exists_replicate_append hne (List.all_eq_true.mp hall)
      refine ⟨hmax, ?_⟩
      rcases eq_or_eq_cons_stripPlus text.toList with hplus | hplus
      · refine ⟨⟨false, k⟩, String.toList_injective ?_⟩
        simp only [Spelling.write, Spelling.digits, String.toList_ofList]
        rw [← hk]
        exact hplus
      · refine ⟨⟨true, k⟩, String.toList_injective ?_⟩
        simp only [Spelling.write, Spelling.digits, String.toList_ofList]
        rw [← hk]
        exact hplus
    · cases h
  · rintro ⟨hmax, spelling, rfl⟩
    have hstrip : stripPlus (spelling.write n).toList = spelling.digits n := by
      rw [Spelling.write, String.toList_ofList]
      split
      · rfl
      · exact stripPlus_of_isDigit fun c hc => Spelling.isDigit_of_mem_digits hc
    rw [hstrip, Spelling.value_digits, if_pos]
    exact ⟨Spelling.digits_ne_nil,
      List.all_eq_true.mpr fun c hc => Spelling.isDigit_of_mem_digits hc, hmax⟩

theorem parseUnsigned_toString {max n : ℕ} (h : n ≤ max) :
    parseUnsigned max (toString n) = some n :=
  parseUnsigned_eq_some_iff.mpr ⟨h, .plain, Spelling.write_plain.symm⟩

theorem Spelling.write_inj {spelling spelling' : Spelling} {m n : ℕ} :
    spelling.write m = spelling'.write n ↔ spelling = spelling' ∧ m = n := by
  constructor
  · intro h
    have hm := parseUnsigned_eq_some_iff.mpr ⟨le_max_left m n, spelling, rfl⟩
    rw [h, parseUnsigned_eq_some_iff.mpr ⟨le_max_right m n, spelling', rfl⟩] at hm
    obtain rfl : n = m := Option.some.inj hm
    refine ⟨?_, rfl⟩
    obtain ⟨plus, zeros⟩ := spelling
    obtain ⟨plus', zeros'⟩ := spelling'
    have hchars := congrArg String.toList h
    simp only [write, String.toList_ofList] at hchars
    have hplus : ∀ k k' : ℕ, '+' :: (Spelling.mk true k).digits n ≠ (Spelling.mk false k').digits n := by
      intro k k' heq
      have hdigit : '+'.isDigit = true :=
        Spelling.isDigit_of_mem_digits (heq ▸ List.mem_cons_self)
      exact absurd hdigit (by decide)
    have hlength := congrArg List.length hchars
    cases plus <;> cases plus'
    · simpa [digits] using hlength
    · exact absurd hchars.symm (hplus _ _)
    · exact absurd hchars (hplus _ _)
    · simpa [digits] using hlength
  · rintro ⟨rfl, rfl⟩
    rfl

end LumenHorizon.Gateway
