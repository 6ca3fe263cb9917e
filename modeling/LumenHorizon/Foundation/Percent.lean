import Mathlib.Tactic

/-! # Percent-encoding

Bytes that are not kept are written as `%` and two hexadecimal digits. What is encoded is decoded to
itself as long as the percent sign is not kept.
-/

namespace LumenHorizon.Foundation.Percent

def percentSign : UInt8 := 0x25

def hexDigit (n : ℕ) : UInt8 := if n < 10 then UInt8.ofNat (0x30 + n) else UInt8.ofNat (0x37 + n)

def hexValue (b : UInt8) : Option ℕ :=
  if 0x30 ≤ b.toNat ∧ b.toNat ≤ 0x39 then some (b.toNat - 0x30)
  else if 0x41 ≤ b.toNat ∧ b.toNat ≤ 0x46 then some (b.toNat - 0x37)
  else if 0x61 ≤ b.toNat ∧ b.toNat ≤ 0x66 then some (b.toNat - 0x57)
  else none

def encodeByte (keep : UInt8 → Bool) (b : UInt8) : List UInt8 :=
  if keep b then [b] else [percentSign, hexDigit (b.toNat / 16), hexDigit (b.toNat % 16)]

def encode (keep : UInt8 → Bool) (bytes : List UInt8) : List UInt8 :=
  bytes.flatMap (encodeByte keep)

/-- A percent sign without two digits behind it stands for itself. -/
def decode : List UInt8 → List UInt8
  | [] => []
  | [b] => [b]
  | [b, c] => [b, c]
  | b :: high :: low :: rest =>
    if b = percentSign then
      match hexValue high, hexValue low with
      | some h, some l => UInt8.ofNat (h * 16 + l) :: decode rest
      | _, _ => b :: decode (high :: low :: rest)
    else b :: decode (high :: low :: rest)

theorem decode_cons {b : UInt8} (h : b ≠ percentSign) (rest : List UInt8) :
    decode (b :: rest) = b :: decode rest := by
  match rest with
  | [] => rfl
  | [_] => rfl
  | _ :: _ :: _ => rw [decode, if_neg h]

theorem hexValue_hexDigit {n : ℕ} (h : n < 16) : hexValue (hexDigit n) = some n := by
  have hall : ∀ n : Fin 16, hexValue (hexDigit n) = some n.val := by decide
  exact hall ⟨n, h⟩

theorem decode_encodeByte {keep : UInt8 → Bool} (h : keep percentSign = false) (b : UInt8)
    (rest : List UInt8) : decode (encodeByte keep b ++ rest) = b :: decode rest := by
  unfold encodeByte
  split_ifs with hkeep
  · have hne : b ≠ percentSign := by
      rintro rfl
      rw [h] at hkeep
      cases hkeep
    exact decode_cons hne rest
  · have hlt : b.toNat < 256 := b.toNat_lt
    have hvalue : b.toNat / 16 * 16 + b.toNat % 16 = b.toNat := by omega
    rw [List.cons_append, List.cons_append, List.singleton_append, decode, if_pos rfl,
      hexValue_hexDigit (by omega), hexValue_hexDigit (by omega)]
    simp only [hvalue, UInt8.ofNat_toNat]

@[simp] theorem encode_nil (keep : UInt8 → Bool) : encode keep [] = [] := rfl

theorem decode_encode_append {keep : UInt8 → Bool} (h : keep percentSign = false)
    (bytes rest : List UInt8) : decode (encode keep bytes ++ rest) = bytes ++ decode rest := by
  induction bytes with
  | nil => rfl
  | cons b bytes ih =>
    rw [encode, List.flatMap_cons, List.append_assoc, decode_encodeByte h]
    exact congrArg (b :: ·) ih

theorem decode_encode {keep : UInt8 → Bool} (h : keep percentSign = false) (bytes : List UInt8) :
    decode (encode keep bytes) = bytes := by
  simpa [decode] using decode_encode_append h bytes []

@[simp] theorem encode_append (keep : UInt8 → Bool) (bytes bytes' : List UInt8) :
    encode keep (bytes ++ bytes') = encode keep bytes ++ encode keep bytes' :=
  List.flatMap_append

theorem encode_of_keep {keep : UInt8 → Bool} {bytes : List UInt8} (h : ∀ b ∈ bytes, keep b = true) :
    encode keep bytes = bytes := by
  induction bytes with
  | nil => rfl
  | cons b bytes ih =>
    rw [encode, List.flatMap_cons, encodeByte, if_pos (h b (by simp))]
    exact congrArg (b :: ·) (ih fun b hb => h b (List.mem_cons_of_mem _ hb))

/-- An encoded text has kept bytes, percent signs and digits only. -/
theorem mem_encode {keep : UInt8 → Bool} {bytes : List UInt8} {b : UInt8} (h : b ∈ encode keep bytes) :
    (keep b = true ∧ b ∈ bytes) ∨ b = percentSign ∨ ∃ n < 16, b = hexDigit n := by
  obtain ⟨a, ha, hb⟩ := List.mem_flatMap.mp h
  have hlt : a.toNat < 256 := a.toNat_lt
  unfold encodeByte at hb
  split_ifs at hb with hkeep
  · obtain rfl := List.mem_singleton.mp hb
    exact .inl ⟨hkeep, ha⟩
  · simp only [List.mem_cons, List.not_mem_nil, or_false] at hb
    rcases hb with rfl | rfl | rfl
    · exact .inr (.inl rfl)
    · exact .inr (.inr ⟨_, by omega, rfl⟩)
    · exact .inr (.inr ⟨_, by omega, rfl⟩)

/-- A byte that is not kept does not occur, unless it is one of those that encoding writes. -/
theorem notMem_encode {keep : UInt8 → Bool} {b : UInt8} (hkeep : keep b = false)
    (hpercent : b ≠ percentSign) (hdigit : ∀ n < 16, b ≠ hexDigit n) (bytes : List UInt8) :
    b ∉ encode keep bytes := by
  intro h
  rcases mem_encode h with ⟨hkept, -⟩ | rfl | ⟨n, hn, rfl⟩
  · rw [hkeep] at hkept
    cases hkept
  · exact hpercent rfl
  · exact hdigit n hn rfl

/-- A kept byte that encoding does not write by itself is there where it was before. -/
theorem mem_encode_iff {keep : UInt8 → Bool} {b : UInt8} (hkeep : keep b = true)
    (hpercent : b ≠ percentSign) (hdigit : ∀ n < 16, b ≠ hexDigit n) {bytes : List UInt8} :
    b ∈ encode keep bytes ↔ b ∈ bytes := by
  constructor
  · intro h
    rcases mem_encode h with ⟨-, hmem⟩ | rfl | ⟨n, hn, rfl⟩
    · exact hmem
    · exact absurd rfl hpercent
    · exact absurd rfl (hdigit n hn)
  · intro h
    exact List.mem_flatMap.mpr ⟨b, h, by rw [encodeByte, if_pos hkeep]; exact List.mem_singleton_self b⟩

theorem lt_of_mem_encode {keep : UInt8 → Bool} (hkeep : ∀ b, keep b = true → b.toNat < 128)
    {bytes : List UInt8} {b : UInt8} (h : b ∈ encode keep bytes) : b.toNat < 128 := by
  have hdigit : ∀ n < 16, (hexDigit n).toNat < 128 := by decide
  rcases mem_encode h with ⟨hkept, -⟩ | rfl | ⟨n, hn, rfl⟩
  · exact hkeep b hkept
  · decide
  · exact hdigit n hn

end LumenHorizon.Foundation.Percent
