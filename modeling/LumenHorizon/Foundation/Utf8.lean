import Mathlib.Tactic

/-! # Bytes of a text

A character below 128 is one byte of that value; the bytes of any other character are 128 or more.
-/

namespace LumenHorizon.Foundation.Utf8

def encodeChars (l : List Char) : List UInt8 := l.flatMap String.utf8EncodeChar

/-- `str::as_bytes`. -/
def asBytes (text : String) : List UInt8 := encodeChars text.toList

/-- The byte of a character that has one. -/
def asciiByte (c : Char) : UInt8 := UInt8.ofNat c.toNat

@[simp] theorem encodeChars_nil : encodeChars [] = [] := rfl

@[simp] theorem encodeChars_cons (c : Char) (l : List Char) :
    encodeChars (c :: l) = String.utf8EncodeChar c ++ encodeChars l := rfl

theorem utf8EncodeChar_ascii {c : Char} (h : c.toNat < 128) :
    String.utf8EncodeChar c = [asciiByte c] := by
  have hle : c.val.toNat ≤ 0x7f := by
    change c.toNat ≤ 127
    omega
  simp only [String.utf8EncodeChar, if_pos hle]
  rfl

@[simp] theorem toNat_asciiByte {c : Char} (h : c.toNat < 128) : (asciiByte c).toNat = c.toNat := by
  rw [asciiByte, UInt8.toNat_ofNat']
  omega

theorem le_of_mem_utf8EncodeChar {c : Char} (h : 128 ≤ c.toNat) {b : UInt8}
    (hb : b ∈ String.utf8EncodeChar c) : 128 ≤ b.toNat := by
  have hbound {high low : ℕ} (hhigh : 128 ≤ high) (hsum : low + high < 256) :
      128 ≤ (UInt8.ofNat (low + high)).toNat := by
    rw [UInt8.toNat_ofNat']
    omega
  have hgt : ¬ c.val.toNat ≤ 0x7f := by
    change ¬ c.toNat ≤ 127
    omega
  simp only [String.utf8EncodeChar, if_neg hgt] at hb
  -- two, three or four bytes
  split_ifs at hb
  all_goals simp only [List.mem_cons, List.not_mem_nil, or_false] at hb
  · rcases hb with rfl | rfl <;> exact hbound (by decide) (by omega)
  · rcases hb with rfl | rfl | rfl <;> exact hbound (by decide) (by omega)
  · rcases hb with rfl | rfl | rfl | rfl <;> exact hbound (by decide) (by omega)

theorem toByteArray_asBytes (text : String) : (asBytes text).toByteArray = text.toByteArray :=
  String.utf8Encode_toList

theorem asBytes_injective : Function.Injective asBytes := by
  intro text text' h
  apply String.toByteArray_inj.mp
  rw [← toByteArray_asBytes, h, toByteArray_asBytes]

def decodeBytes (bytes : List UInt8) : Option String := String.fromUTF8? bytes.toByteArray

theorem decodeBytes_asBytes (text : String) : decodeBytes (asBytes text) = some text := by
  have hvalid : ByteArray.IsValidUTF8 text.toByteArray := text.isValidUTF8
  rw [decodeBytes, toByteArray_asBytes, String.fromUTF8?, dif_pos hvalid]
  exact congrArg some (String.toByteArray_inj.mp rfl)

def asciiText (bytes : List UInt8) : List Char := bytes.map fun b => Char.ofNat b.toNat

theorem asciiByte_ofNat (b : UInt8) (h : b.toNat < 128) :
    (Char.ofNat b.toNat).toNat < 128 ∧ asciiByte (Char.ofNat b.toNat) = b := by
  have hvalid : b.toNat.isValidChar := .inl (by omega)
  have hnat : (Char.ofNat b.toNat).toNat = b.toNat := by
    rw [Char.ofNat, dif_pos hvalid]
    rfl
  refine ⟨by omega, UInt8.toNat_inj.mp ?_⟩
  rw [toNat_asciiByte (by omega), hnat]

theorem encodeChars_asciiText {bytes : List UInt8} (h : ∀ b ∈ bytes, b.toNat < 128) :
    encodeChars (asciiText bytes) = bytes := by
  induction bytes with
  | nil => rfl
  | cons b bytes ih =>
    obtain ⟨hlt, hbyte⟩ := asciiByte_ofNat b (h b (by simp))
    rw [asciiText, List.map_cons, encodeChars_cons, utf8EncodeChar_ascii hlt, hbyte]
    exact congrArg (b :: ·) (ih fun b hb => h b (List.mem_cons_of_mem _ hb))

theorem asciiText_map_asciiByte {l : List Char} (h : ∀ c ∈ l, c.toNat < 128) :
    asciiText (l.map asciiByte) = l := by
  rw [asciiText, List.map_map]
  conv_rhs => rw [← List.map_id l]
  apply List.map_congr_left
  intro c hc
  rw [Function.comp_apply, toNat_asciiByte (h c hc), Char.ofNat_toNat, id]

theorem encodeChars_of_ascii {l : List Char} (h : ∀ c ∈ l, c.toNat < 128) :
    encodeChars l = l.map asciiByte := by
  induction l with
  | nil => rfl
  | cons c l ih =>
    rw [encodeChars_cons, utf8EncodeChar_ascii (h c (by simp)),
      ih fun c hc => h c (List.mem_cons_of_mem _ hc)]
    rfl

theorem asciiByte_mem_encodeChars {c : Char} (hc : c.toNat < 128) {l : List Char} :
    asciiByte c ∈ encodeChars l ↔ c ∈ l := by
  induction l with
  | nil => simp
  | cons d l ih =>
    rw [encodeChars_cons, List.mem_append, ih, List.mem_cons]
    apply or_congr_left
    rcases lt_or_ge d.toNat 128 with hd | hd
    · rw [utf8EncodeChar_ascii hd, List.mem_singleton, ← UInt8.toNat_inj, toNat_asciiByte hc,
        toNat_asciiByte hd, Char.toNat_inj]
    · refine iff_of_false (fun hmem => ?_) (fun heq => ?_)
      · have hbyte := le_of_mem_utf8EncodeChar hd hmem
        rw [toNat_asciiByte hc] at hbyte
        omega
      · rw [heq] at hc
        omega

end LumenHorizon.Foundation.Utf8
