import LumenHorizon.Foundation.Text
import Mathlib.Data.Prod.Lex
import Mathlib.Tactic

/-! # Points in time as the services use them

A granule date is compared, printed as a calendar date, and stored in whole microseconds. It is
kept as its calendar fields.
-/

namespace LumenHorizon.Shared
open Foundation

/-- `{:0width}` on an unsigned number. -/
def pad (width n : ℕ) : String :=
  let digits := toString n
  String.ofList (List.replicate (width - digits.length) '0') ++ digits

/-- `{:02}` on a signed number: the sign counts towards the width. -/
def pad2 (n : ℤ) : String := if n < 0 then toString n else pad 2 n.toNat

structure DateTime where
  year : ℤ
  month : ℕ
  day : ℕ
  nanoOfDay : ℕ
deriving DecidableEq, Repr

namespace DateTime

/-- The fields from the most to the least significant. -/
def key (t : DateTime) : ℤ ×ₗ ℕ ×ₗ ℕ ×ₗ ℕ :=
  toLex (t.year, toLex (t.month, toLex (t.day, t.nanoOfDay)))

theorem key_injective : Function.Injective key := by
  rintro ⟨y, m, d, n⟩ ⟨y', m', d', n'⟩ h
  simpa [key] using h

instance : LinearOrder DateTime := LinearOrder.lift' key key_injective

/-- `%Y-%m-%d`: a year outside four digits carries its sign. -/
def formatDate (t : DateTime) : String :=
  let year := if 0 ≤ t.year ∧ t.year ≤ 9999 then pad 4 t.year.toNat
    else (if t.year < 0 then "-" else "+") ++ pad 4 t.year.natAbs
  year ++ "-" ++ pad 2 t.month ++ "-" ++ pad 2 t.day

def nanosPerDay : ℕ := 86400000000000

def daysInMonth (year : ℤ) (month : ℕ) : ℕ :=
  if month = 2 then if year % 4 = 0 ∧ (year % 100 ≠ 0 ∨ year % 400 = 0) then 29 else 28
  else if month = 4 ∨ month = 6 ∨ month = 9 ∨ month = 11 then 30
  else 31

def nextDay (t : DateTime) : DateTime :=
  if t.day < daysInMonth t.year t.month then { t with day := t.day + 1 }
  else if t.month < 12 then { t with month := t.month + 1, day := 1 }
  else { t with year := t.year + 1, month := 1, day := 1 }

/-- A leap second at the end of a day is the first second of the next. -/
def carry (t : DateTime) : DateTime :=
  { nextDay^[t.nanoOfDay / nanosPerDay] t with nanoOfDay := t.nanoOfDay % nanosPerDay }

/-- What the column keeps: whole microseconds, cut off towards the beginning of 2000, from which
they are counted. -/
def timestamptz (t : DateTime) : DateTime :=
  let t := t.carry
  let micros := if t.year < 2000 then (t.nanoOfDay + 999) / 1000 else t.nanoOfDay / 1000
  carry { t with nanoOfDay := 1000 * micros }

theorem carry_of_lt {t : DateTime} (h : t.nanoOfDay < nanosPerDay) : t.carry = t := by
  rw [carry, Nat.div_eq_of_lt h, Nat.mod_eq_of_lt h]
  rfl

theorem timestamptz_of_dvd {t : DateTime} (h : t.nanoOfDay < nanosPerDay)
    (hmicros : 1000 ∣ t.nanoOfDay) : t.timestamptz = t := by
  obtain ⟨k, hk⟩ := hmicros
  have hup : (t.nanoOfDay + 999) / 1000 = k := by omega
  have hdown : t.nanoOfDay / 1000 = k := by omega
  simp only [timestamptz, carry_of_lt h, hup, hdown, ite_self, ← hk]

@[simp] theorem timestamptz_timestamptz (t : DateTime) :
    t.timestamptz.timestamptz = t.timestamptz := by
  apply timestamptz_of_dvd
  · exact Nat.mod_lt _ (by decide)
  · exact (Nat.dvd_mod_iff (by decide)).mpr (Nat.dvd_mul_right 1000 _)

example : timestamptz ⟨1999, 12, 31, 86399999999999⟩ = ⟨2000, 1, 1, 0⟩ ∧
    timestamptz ⟨2024, 5, 21, 123456789⟩ = ⟨2024, 5, 21, 123456000⟩ := by decide

end DateTime

theorem toList_pad (width n : ℕ) : ∃ zeros, (pad width n).toList =
    List.replicate zeros '0' ++ (toString n).toList :=
  ⟨_, by rw [pad, String.toList_append, String.toList_ofList]⟩

theorem isDigit_of_mem_pad {width n : ℕ} {c : Char} (h : c ∈ (pad width n).toList) :
    c.isDigit = true := by
  obtain ⟨zeros, heq⟩ := toList_pad width n
  rw [heq] at h
  rcases List.mem_append.mp h with h | h
  · rw [List.eq_of_mem_replicate h]
    decide
  · exact Text.isDigit_of_mem_toString h

theorem value_pad (width n : ℕ) : Text.value (pad width n).toList = n := by
  obtain ⟨zeros, heq⟩ := toList_pad width n
  rw [heq, Text.value_replicate_append]

theorem pad_inj {width m n : ℕ} : pad width m = pad width n ↔ m = n := by
  constructor
  · intro h
    rw [← value_pad width m, h, value_pad]
  · rintro rfl
    rfl

theorem notMem_pad {c : Char} (hc : c.isDigit = false) (width n : ℕ) :
    c ∉ (pad width n).toList :=
  Text.notMem_of_forall_isDigit (fun _ h => isDigit_of_mem_pad h) hc

theorem toList_pad_two {n : ℕ} (hn : n < 100) :
    (pad 2 n).toList = [Nat.digitChar (n / 10), Nat.digitChar (n % 10)] := by
  have hall : ∀ m : Fin 100, (pad 2 m).toList = [Nat.digitChar (m / 10), Nat.digitChar (m % 10)] := by
    decide +kernel
  exact hall ⟨n, hn⟩

namespace DateTime

/-- The year in `%Y-%m-%d`. -/
def formatYear (year : ℤ) : String :=
  if 0 ≤ year ∧ year ≤ 9999 then pad 4 year.toNat
  else (if year < 0 then "-" else "+") ++ pad 4 year.natAbs

theorem toList_formatDate (t : DateTime) : t.formatDate.toList =
    ((formatYear t.year).toList ++ '-' :: (pad 2 t.month).toList) ++ '-' :: (pad 2 t.day).toList := by
  have hhyphen : "-".toList = ['-'] := by decide
  simp only [formatDate, formatYear, String.toList_append, hhyphen, List.append_assoc,
    List.cons_append, List.nil_append]

theorem toList_formatYear (year : ℤ) :
    ((0 ≤ year ∧ year ≤ 9999) ∧ (formatYear year).toList = (pad 4 year.toNat).toList) ∨
      (¬ (0 ≤ year ∧ year ≤ 9999) ∧ (formatYear year).toList =
        (if year < 0 then '-' else '+') :: (pad 4 year.natAbs).toList) := by
  unfold formatYear
  by_cases hyear : 0 ≤ year ∧ year ≤ 9999
  · rw [if_pos hyear]
    exact .inl ⟨hyear, rfl⟩
  · rw [if_neg hyear]
    refine .inr ⟨hyear, ?_⟩
    by_cases hneg : year < 0 <;> simp [hneg, String.toList_append]

theorem formatYear_inj {year year' : ℤ} : formatYear year = formatYear year' ↔ year = year' := by
  constructor
  · intro h
    have hlist := congrArg String.toList h
    -- a sign is not a digit
    have hsign (year : ℤ) : (if year < 0 then '-' else '+').isDigit = false := by
      split <;> decide
    rcases toList_formatYear year with ⟨hpos, heq⟩ | ⟨hyear, heq⟩ <;>
      rcases toList_formatYear year' with ⟨hpos', heq'⟩ | ⟨hyear', heq'⟩
    · rw [heq, heq'] at hlist
      have hnat := pad_inj.mp (String.toList_injective hlist)
      omega
    · rw [heq, heq'] at hlist
      exact absurd (hlist ▸ List.mem_cons_self) (notMem_pad (hsign year') 4 year.toNat)
    · rw [heq, heq'] at hlist
      exact absurd (hlist ▸ List.mem_cons_self) (notMem_pad (hsign year) 4 year'.toNat)
    · rw [heq, heq'] at hlist
      obtain ⟨hsigns, habs⟩ := List.cons.inj hlist
      have hnat := pad_inj.mp (String.toList_injective habs)
      by_cases hneg : year < 0 <;> by_cases hneg' : year' < 0
      · omega
      · simp [hneg, hneg'] at hsigns
      · simp [hneg, hneg'] at hsigns
      · omega
  · rintro rfl
    rfl

theorem formatDate_inj {t t' : DateTime} : t.formatDate = t'.formatDate ↔
    t.year = t'.year ∧ t.month = t'.month ∧ t.day = t'.day := by
  have hhyphen : '-'.isDigit = false := by decide
  rw [← String.toList_inj, toList_formatDate, toList_formatDate,
    Text.separator_append_inj (notMem_pad hhyphen _ _) (notMem_pad hhyphen _ _),
    Text.separator_append_inj (notMem_pad hhyphen _ _) (notMem_pad hhyphen _ _),
    String.toList_inj, String.toList_inj, String.toList_inj, formatYear_inj, pad_inj, pad_inj,
    and_assoc]

theorem mem_formatDate {t : DateTime} {c : Char} (h : c ∈ t.formatDate.toList) :
    c.isDigit = true ∨ c = '-' ∨ c = '+' := by
  rw [toList_formatDate] at h
  simp only [List.mem_append, List.mem_cons] at h
  rcases h with (h | rfl | h) | rfl | h
  · rcases toList_formatYear t.year with ⟨-, heq⟩ | ⟨-, heq⟩
    · exact .inl (isDigit_of_mem_pad (heq ▸ h))
    · rw [heq] at h
      rcases List.mem_cons.mp h with rfl | h
      · split <;> simp
      · exact .inl (isDigit_of_mem_pad h)
  · exact .inr (.inl rfl)
  · exact .inl (isDigit_of_mem_pad h)
  · exact .inr (.inl rfl)
  · exact .inl (isDigit_of_mem_pad h)

end DateTime
end LumenHorizon.Shared
