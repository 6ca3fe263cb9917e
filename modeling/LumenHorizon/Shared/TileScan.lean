import LumenHorizon.Foundation.Fallible
import LumenHorizon.Foundation.Scan
import LumenHorizon.Foundation.Utf8
import LumenHorizon.Foundation.Words
import LumenHorizon.Shared.ProcessingMessage

/-! # The tile in a path, byte by byte

`parse_first_tile` goes over windows of six bytes and computes the two numbers in checked machine
arithmetic. It finds what the scan over characters finds, whatever else the path contains.
-/

namespace LumenHorizon.Shared.TileScan
open Foundation Scan Utf8 Words

/-- `u8::is_ascii_digit`. -/
def isAsciiDigit (b : UInt8) : Bool := 48 ≤ b.toNat ∧ b.toNat ≤ 57

/-- In `i16`, the differences in `u8`. -/
def parseTwoDigits (tens ones : UInt8) : Except Overflow ℤ := do
  let tens ← checkedSub tens.toBitVec 48
  let product ← checkedSigned 16 .multiply (tens.toNat * 10)
  let ones ← checkedSub ones.toBitVec 48
  checkedSigned 16 .add (product + ones.toNat)

def parseFirstTileLoop : List (List UInt8) → Except Panic (Option (ℤ × ℤ))
  | [] => .ok none
  | window :: windows =>
    match window with
    | [w0, w1, w2, w3, w4, w5] =>
      if w0 = asciiByte 'h' ∧ w3 = asciiByte 'v' ∧ isAsciiDigit w1 ∧ isAsciiDigit w2 ∧
          isAsciiDigit w4 ∧ isAsciiDigit w5 then
        match parseTwoDigits w1 w2, parseTwoDigits w4 w5 with
        | .ok tileH, .ok tileV => .ok (some (tileH, tileV))
        | .error overflow, _ | _, .error overflow => .error (.arithmetic overflow)
      else parseFirstTileLoop windows
    | _ => .error .indexOutOfBounds

def parseFirstTile (path : List UInt8) : Except Panic (Option (ℤ × ℤ)) :=
  parseFirstTileLoop (windows 6 path)

def tileTests : List (UInt8 → Bool) :=
  [(· = asciiByte 'h'), isAsciiDigit, isAsciiDigit, (· = asciiByte 'v'), isAsciiDigit, isAsciiDigit]

def digits (tens ones : UInt8) : ℕ := (tens.toNat - 48) * 10 + (ones.toNat - 48)

def tileNumbers : List UInt8 → ℕ × ℕ
  | [_, h₁, h₀, _, v₁, v₀] => (digits h₁ h₀, digits v₁ v₀)
  | _ => (0, 0)

def findTile (path : List UInt8) : Option (ℕ × ℕ) := (scan tileTests path).map tileNumbers

theorem isAsciiDigit_iff {b : UInt8} : isAsciiDigit b = true ↔ 48 ≤ b.toNat ∧ b.toNat ≤ 57 := by
  simp [isAsciiDigit]

theorem digits_lt {tens ones : UInt8} (htens : isAsciiDigit tens = true)
    (hones : isAsciiDigit ones = true) : digits tens ones < 100 := by
  rw [isAsciiDigit_iff] at htens hones
  unfold digits
  omega

theorem matchNext_tileTests (b0 b1 b2 b3 b4 b5 : UInt8) (rest : List UInt8) :
    matchNext tileTests (b0 :: b1 :: b2 :: b3 :: b4 :: b5 :: rest) =
      if b0 = asciiByte 'h' ∧ isAsciiDigit b1 ∧ isAsciiDigit b2 ∧ b3 = asciiByte 'v' ∧
        isAsciiDigit b4 ∧ isAsciiDigit b5 then some [b0, b1, b2, b3, b4, b5] else none := by
  simp only [tileTests, matchNext]
  grind

theorem checkedSub_digit {b : UInt8} (h : isAsciiDigit b = true) :
    ∃ difference, checkedSub b.toBitVec 48 = .ok difference ∧ difference.toNat = b.toNat - 48 :=
  checkedSub_eq_ok (isAsciiDigit_iff.mp h).1

theorem parseTwoDigits_eq_ok {tens ones : UInt8} (htens : isAsciiDigit tens = true)
    (hones : isAsciiDigit ones = true) : parseTwoDigits tens ones = .ok (digits tens ones : ℕ) := by
  obtain ⟨high, hhigh, hhighNat⟩ := checkedSub_digit htens
  obtain ⟨low, hlow, hlowNat⟩ := checkedSub_digit hones
  have hlt := digits_lt htens hones
  rw [isAsciiDigit_iff] at htens hones
  have hvalue : (high.toNat * 10 + low.toNat : ℤ) = (digits tens ones : ℕ) := by
    unfold digits
    omega
  have hproduct : checkedSigned 16 .multiply (high.toNat * 10) = .ok (high.toNat * 10 : ℤ) := by
    apply checkedSigned_eq_ok <;> norm_num <;> omega
  have hsum : checkedSigned 16 .add (high.toNat * 10 + low.toNat : ℤ) =
      .ok (digits tens ones : ℕ) := by
    rw [hvalue]
    apply checkedSigned_eq_ok
    · norm_num
    · norm_num
      omega
  exact bind_eq_ok_iff.mpr ⟨high, hhigh, bind_eq_ok_iff.mpr
    ⟨high.toNat * 10, hproduct, bind_eq_ok_iff.mpr ⟨low, hlow, hsum⟩⟩⟩

theorem parseFirstTileLoop_eq (windows : List (List UInt8))
    (h : ∀ window ∈ windows, window.length = 6) :
    parseFirstTileLoop windows = .ok (((windows.findSome? (matchNext tileTests)).map tileNumbers).map
      fun numbers => ((numbers.1 : ℤ), (numbers.2 : ℤ))) := by
  induction windows with
  | nil => rfl
  | cons window windows ih =>
    have hlength : window.length = 6 := h window (by simp)
    have hrest := ih fun window hwindow => h window (List.mem_cons_of_mem _ hwindow)
    match window, hlength with
    | [w0, w1, w2, w3, w4, w5], _ =>
      rw [List.findSome?_cons, matchNext_tileTests, parseFirstTileLoop]
      by_cases hmatch : w0 = asciiByte 'h' ∧ isAsciiDigit w1 ∧ isAsciiDigit w2 ∧
          w3 = asciiByte 'v' ∧ isAsciiDigit w4 ∧ isAsciiDigit w5
      · have ⟨h0, h1, h2, h3, h4, h5⟩ := hmatch
        rw [if_pos hmatch, if_pos ⟨h0, h3, h1, h2, h4, h5⟩, parseTwoDigits_eq_ok h1 h2,
          parseTwoDigits_eq_ok h4 h5]
        rfl
      · rw [if_neg hmatch, if_neg fun ⟨h0, h3, h1, h2, h4, h5⟩ => hmatch ⟨h0, h1, h2, h3, h4, h5⟩,
          hrest]

theorem length_of_mem_windows {α : Type} {size : ℕ} {l window : List α}
    (h : window ∈ windows size l) : window.length = size := by
  obtain ⟨index, hindex, rfl⟩ := List.mem_map.mp h
  rw [List.mem_range] at hindex
  rw [List.length_take, List.length_drop]
  omega

/-- The loop over the windows finds the first tile, and does not panic. -/
theorem parseFirstTile_eq (path : List UInt8) : parseFirstTile path =
    .ok ((findTile path).map fun numbers => ((numbers.1 : ℤ), (numbers.2 : ℤ))) := by
  rw [parseFirstTile, parseFirstTileLoop_eq _ fun _ => length_of_mem_windows,
    ← scan_eq_windows (show tileTests.length = 6 from rfl), findTile]

def charTests : List (Char → Bool) :=
  [(· = 'h'), Char.isDigit, Char.isDigit, (· = 'v'), Char.isDigit, Char.isDigit]

theorem coded_eq {c : Char} (hc : c.toNat < 128) :
    Coded String.utf8EncodeChar asciiByte (fun a => decide (a = c))
      (fun b => decide (b = asciiByte c)) := by
  intro a
  rcases lt_or_ge a.toNat 128 with ha | ha
  · refine .inl ⟨utf8EncodeChar_ascii ha, ?_⟩
    have hiff : asciiByte a = asciiByte c ↔ a = c := by
      rw [← UInt8.toNat_inj, toNat_asciiByte ha, toNat_asciiByte hc, Char.toNat_inj]
    simp [hiff]
  · refine .inr ⟨String.utf8EncodeChar_ne_nil, fun b hb => ?_, ?_⟩
    · have hb := le_of_mem_utf8EncodeChar ha hb
      simp only [decide_eq_false_iff_not, ← UInt8.toNat_inj, toNat_asciiByte hc]
      omega
    · simp only [decide_eq_false_iff_not]
      rintro rfl
      omega

theorem coded_isDigit : Coded String.utf8EncodeChar asciiByte Char.isDigit isAsciiDigit := by
  intro a
  rcases lt_or_ge a.toNat 128 with ha | ha
  · refine .inl ⟨utf8EncodeChar_ascii ha, ?_⟩
    rw [Bool.eq_iff_iff, isAsciiDigit_iff, toNat_asciiByte ha, Char.isDigit_iff_toNat]
    rfl
  · refine .inr ⟨String.utf8EncodeChar_ne_nil, fun b hb => ?_, ?_⟩
    · have hb := le_of_mem_utf8EncodeChar ha hb
      rw [Bool.eq_false_iff, Ne, isAsciiDigit_iff]
      omega
    · have hnine : '9'.toNat = 57 := by decide
      rw [Bool.eq_false_iff, Ne, Char.isDigit_iff_toNat]
      omega

theorem scan_asBytes (l : List Char) :
    scan tileTests (encodeChars l) = (scan charTests l).map (List.map asciiByte) :=
  scan_encode (.cons (coded_eq (by decide)) (.cons coded_isDigit (.cons coded_isDigit
    (.cons (coded_eq (by decide)) (.cons coded_isDigit (.cons coded_isDigit .nil)))))) l

theorem matchNext_charTests (c0 c1 c2 c3 c4 c5 : Char) (rest : List Char) :
    matchNext charTests (c0 :: c1 :: c2 :: c3 :: c4 :: c5 :: rest) =
      if c0 = 'h' ∧ c1.isDigit ∧ c2.isDigit ∧ c3 = 'v' ∧ c4.isDigit ∧ c5.isDigit then
        some [c0, c1, c2, c3, c4, c5] else none := by
  simp only [charTests, matchNext]
  grind

theorem digits_asciiByte {tens ones : Char} (htens : tens.isDigit = true)
    (hones : ones.isDigit = true) :
    ((digits (asciiByte tens) (asciiByte ones) : ℕ) : ℤ) = Shared.parseTwoDigits tens ones ∧
      digits (asciiByte tens) (asciiByte ones) =
        (tens.toNat - 48) * 10 + (ones.toNat - 48) := by
  have hnine : '9'.toNat = 57 := by decide
  have hzero : '0'.toNat = 48 := by decide
  rw [Char.isDigit_iff_toNat] at htens hones
  unfold digits Shared.parseTwoDigits
  rw [toNat_asciiByte (by omega), toNat_asciiByte (by omega)]
  omega

/-- A text that does not start with six characters is too short for a tile. -/
theorem scan_charTests_of_short {l : List Char}
    (hshort : ∀ c0 c1 c2 c3 c4 c5 rest, l ≠ c0 :: c1 :: c2 :: c3 :: c4 :: c5 :: rest) :
    scan charTests l = none := by
  apply scan_of_short
  rcases l with _ | ⟨c0, _ | ⟨c1, _ | ⟨c2, _ | ⟨c3, _ | ⟨c4, _ | ⟨c5, rest⟩⟩⟩⟩⟩⟩
  iterate 6 · simp [charTests]
  · exact absurd rfl (hshort c0 c1 c2 c3 c4 c5 rest)

theorem parseFirstTile_eq_findTile (l : List Char) : Shared.parseFirstTile l =
    (findTile (encodeChars l)).map fun numbers => ((numbers.1 : ℤ), (numbers.2 : ℤ)) := by
  rw [findTile, scan_asBytes]
  fun_induction Shared.parseFirstTile l with
  | case1 c0 c1 c2 c3 c4 c5 rest hmatch =>
    obtain ⟨h0, h3, h1, h2, h4, h5⟩ := hmatch
    rw [scan_cons, matchNext_charTests, if_pos ⟨h0, h1, h2, h3, h4, h5⟩]
    simp only [Option.some_or, Option.map_some, List.map_cons, List.map_nil, tileNumbers,
      (digits_asciiByte h1 h2).1, (digits_asciiByte h4 h5).1]
  | case2 c0 c1 c2 c3 c4 c5 rest hmatch ih =>
    have htests : ¬ (c0 = 'h' ∧ c1.isDigit = true ∧ c2.isDigit = true ∧ c3 = 'v' ∧
        c4.isDigit = true ∧ c5.isDigit = true) := by
      rintro ⟨h0, h1, h2, h3, h4, h5⟩
      exact hmatch ⟨h0, h3, h1, h2, h4, h5⟩
    rw [scan_cons, matchNext_charTests, if_neg htests, Option.none_or]
    exact ih
  | case3 l hshort =>
    rw [scan_charTests_of_short hshort]
    rfl

end LumenHorizon.Shared.TileScan
