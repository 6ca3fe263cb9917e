import LumenHorizon.Gateway.Numerals
import LumenHorizon.Gateway.TileRequests

/-! # The URLs of a tile

A coordinate is read from three parts of the path. Every spelling of its numbers is accepted, and
the suffix of the file as often as it comes.
-/

namespace LumenHorizon.Gateway
open Foundation Shared SlippyTiles Processing

/-- The file of a row under its suffix, the numbers as `format!` writes them. -/
def canonicalParts (coord : TileCoord) : String × String × String :=
  (toString coord.z, toString coord.x, toString coord.y ++ ".png")

/-- How the parts of a path spell a coordinate: each number, and how often the suffix comes after
the first. -/
structure TileSpelling where
  z : Spelling
  x : Spelling
  y : Spelling
  extraSuffixes : ℕ
deriving DecidableEq, Repr

namespace TileSpelling

def plain : TileSpelling := ⟨.plain, .plain, .plain, 0⟩

def write (spelling : TileSpelling) (coord : TileCoord) : String × String × String :=
  (spelling.z.write coord.z, spelling.x.write coord.x,
    spelling.y.write coord.y ++ repeated ".png" (spelling.extraSuffixes + 1))

@[simp] theorem write_plain (coord : TileCoord) : plain.write coord = canonicalParts coord := by
  simp [plain, write, canonicalParts, repeated]

end TileSpelling

theorem png_ne_empty : ".png" ≠ "" := by decide

theorem parsePart_eq_ok_iff {max n : ℕ} {part message : String} :
    parsePart max part message = .ok n ↔ n ≤ max ∧ ∃ spelling : Spelling, part = spelling.write n := by
  rw [← parseUnsigned_eq_some_iff, parsePart]
  cases parseUnsigned max part with
  | none => simp
  | some value => simp

theorem write_ne_empty (spelling : Spelling) (n : ℕ) : spelling.write n ≠ "" := by
  intro h
  have hchars := congrArg String.toList h
  simp only [Spelling.write, String.toList_ofList, String.toList_empty] at hchars
  split at hchars
  · cases hchars
  · exact Spelling.digits_ne_nil hchars

/-- A written number ends with a digit, so not like an image. -/
theorem endsWith_png_write (spelling : Spelling) (n : ℕ) :
    endsWith (spelling.write n) ".png" = false := by
  have hlast : ∃ front, ∃ c : Char, c.isDigit = true ∧ (spelling.write n).toList = front ++ [c] := by
    obtain ⟨front, c, hdigits⟩ :=
      (List.eq_nil_or_concat (spelling.digits n)).resolve_left Spelling.digits_ne_nil
    rw [List.concat_eq_append] at hdigits
    have hc : c.isDigit = true := by
      have hmem : c ∈ spelling.digits n := by
        rw [hdigits]
        simp
      exact Spelling.isDigit_of_mem_digits hmem
    cases hplus : spelling.plus with
    | false => exact ⟨front, c, hc, by simp [Spelling.write, hplus, hdigits]⟩
    | true => exact ⟨'+' :: front, c, hc, by simp [Spelling.write, hplus, hdigits]⟩
  obtain ⟨front, c, hc, hchars⟩ := hlast
  rw [endsWith_eq_false_iff, hchars]
  rintro ⟨rest, hrest⟩
  have hg : 'g' = c := by simpa using congrArg List.head? hrest
  subst hg
  exact absurd hc (by decide)

theorem slash_notMem_write (spelling : Spelling) (n : ℕ) : '/' ∉ (spelling.write n).toList := by
  have hdigits : '/' ∉ spelling.digits n :=
    Text.notMem_of_forall_isDigit (fun c hc => Spelling.isDigit_of_mem_digits hc) (by decide)
  rw [Spelling.write, String.toList_ofList]
  split
  · simpa using hdigits
  · exact hdigits

theorem slash_notMem_repeated_png (k : ℕ) : '/' ∉ (repeated ".png" k).toList := by
  simp [repeated]

theorem parseTileCoord_append_repeated {z x front : String} (hslash : '/' ∉ front.toList)
    (hfront : endsWith front ".png" = false) (hne : front ≠ "") (k : ℕ) :
    parseTileCoord z x (front ++ repeated ".png" (k + 1)) = (do
      let z ← parsePart 255 z "invalid tile zoom"
      let x ← parsePart (2 ^ 32 - 1) x "invalid tile x coordinate"
      let y ← parsePart (2 ^ 32 - 1) front "invalid tile y coordinate"
      match validateTileCoord { z := z, x := x, y := y } with
      | .error error => .error (tileMathErrorResponse error)
      | .ok () => .ok { z := z, x := x, y := y }) := by
  have hguard : ¬ ('/' ∈ (front ++ repeated ".png" (k + 1)).toList ∨
      endsWith (front ++ repeated ".png" (k + 1)) ".png" = false) := by
    rw [repeated_succ, ← String.append_assoc, endsWith_append, String.toList_append,
      String.toList_append]
    simp [hslash, slash_notMem_repeated_png]
  rw [parseTileCoord, if_neg hguard, trimEndMatches_append_repeated png_ne_empty hfront]
  exact if_neg hne

/-- The coordinate of a path is the one that its parts spell. -/
theorem parseTileCoord_eq_ok_iff {z x tileFile : String} {coord : TileCoord} :
    parseTileCoord z x tileFile = .ok coord ↔
      validateTileCoord coord = .ok () ∧
        ∃ spelling : TileSpelling, (z, x, tileFile) = spelling.write coord := by
  constructor
  · intro h
    by_cases hguard : '/' ∈ tileFile.toList ∨ endsWith tileFile ".png" = false
    · rw [parseTileCoord, if_pos hguard] at h
      cases h
    obtain ⟨k, hfile, hlast⟩ := trimEndMatches_spec tileFile png_ne_empty
    rw [parseTileCoord, if_neg hguard] at h
    generalize trimEndMatches tileFile ".png" = front at h hfile hlast
    subst hfile
    cases k with
    | zero => exact absurd (.inr (by simpa [repeated] using hlast)) hguard
    | succ k =>
      by_cases hne : front = ""
      · simp [hne] at h
      rw [if_neg hne] at h
      obtain ⟨z', hz, hrest⟩ := bind_eq_ok_iff.mp h
      obtain ⟨x', hx, hrest⟩ := bind_eq_ok_iff.mp hrest
      obtain ⟨y', hy, hcoord⟩ := bind_eq_ok_iff.mp hrest
      obtain ⟨-, spellingZ, rfl⟩ := parsePart_eq_ok_iff.mp hz
      obtain ⟨-, spellingX, rfl⟩ := parsePart_eq_ok_iff.mp hx
      obtain ⟨-, spellingY, rfl⟩ := parsePart_eq_ok_iff.mp hy
      cases hvalid : validateTileCoord ⟨z', x', y'⟩ with
      | error error =>
        rw [hvalid] at hcoord
        cases hcoord
      | ok =>
        rw [hvalid] at hcoord
        obtain rfl := Except.ok.inj hcoord
        exact ⟨hvalid, ⟨spellingZ, spellingX, spellingY, k⟩, rfl⟩
  · rintro ⟨hvalid, spelling, hwrite⟩
    obtain ⟨hz, hx, hy⟩ := (validateTileCoord_eq_ok_iff coord).mp hvalid
    obtain ⟨rfl, rfl, rfl⟩ : z = spelling.z.write coord.z ∧ x = spelling.x.write coord.x ∧
        tileFile = spelling.y.write coord.y ++ repeated ".png" (spelling.extraSuffixes + 1) := by
      simpa [TileSpelling.write] using hwrite
    have hsize : 2 ^ coord.z ≤ 2 ^ 22 := Nat.pow_le_pow_right (by decide) hz
    have hz' : coord.z ≤ 255 := hz.trans (by decide)
    rw [parseTileCoord_append_repeated (slash_notMem_write _ _) (endsWith_png_write _ _)
      (write_ne_empty _ _),
      parsePart_eq_ok_iff.mpr ⟨hz', spelling.z, rfl⟩,
      parsePart_eq_ok_iff.mpr ⟨by omega, spelling.x, rfl⟩,
      parsePart_eq_ok_iff.mpr ⟨by omega, spelling.y, rfl⟩]
    simp only [bind, Except.bind, hvalid]

theorem TileSpelling.write_inj {spelling spelling' : TileSpelling} {coord coord' : TileCoord} :
    spelling.write coord = spelling'.write coord' ↔ spelling = spelling' ∧ coord = coord' := by
  constructor
  · intro h
    simp only [write, Prod.mk.injEq] at h
    obtain ⟨hz, hx, hy⟩ := h
    obtain ⟨hextra, hy⟩ :=
      append_repeated_inj (endsWith_png_write _ _) (endsWith_png_write _ _) hy
    obtain ⟨hz, hz'⟩ := Spelling.write_inj.mp hz
    obtain ⟨hx, hx'⟩ := Spelling.write_inj.mp hx
    obtain ⟨hy, hy'⟩ := Spelling.write_inj.mp hy
    cases spelling
    cases spelling'
    cases coord
    cases coord'
    simp_all
  · rintro ⟨rfl, rfl⟩
    rfl

/-- The parts are the canonical ones of whatever coordinate they are read as. -/
def Canonical (z x tileFile : String) : Prop :=
  ∀ coord, parseTileCoord z x tileFile = .ok coord → (z, x, tileFile) = canonicalParts coord

/-- The parts spell a coordinate inside its zoom range, but a number with a plus sign or with
further zeros before it, or with the suffix more than once. -/
def SpelledOtherwise (z x tileFile : String) : Prop :=
  ∃ coord spelling, validateTileCoord coord = .ok () ∧ spelling ≠ TileSpelling.plain ∧
    (z, x, tileFile) = spelling.write coord

theorem parseTileCoord_canonicalParts {coord : TileCoord} (h : validateTileCoord coord = .ok ()) :
    parseTileCoord (canonicalParts coord).1 (canonicalParts coord).2.1 (canonicalParts coord).2.2 =
      .ok coord :=
  parseTileCoord_eq_ok_iff.mpr ⟨h, .plain, (TileSpelling.write_plain coord).symm⟩

/-- Canonical parts are read back, and parts are read as canonical ones only, unless they spell a
tile otherwise. -/
theorem canonical_iff (z x tileFile : String) :
    (Canonical z x tileFile ∧ ∀ coord, validateTileCoord coord = .ok () →
      parseTileCoord (canonicalParts coord).1 (canonicalParts coord).2.1 (canonicalParts coord).2.2 =
        .ok coord) ↔ ¬ SpelledOtherwise z x tileFile := by
  constructor
  · rintro ⟨hcanonical, -⟩ ⟨coord, spelling, hvalid, hspelling, hparts⟩
    have hread := hcanonical coord (parseTileCoord_eq_ok_iff.mpr ⟨hvalid, spelling, hparts⟩)
    rw [hparts, ← TileSpelling.write_plain] at hread
    exact hspelling (TileSpelling.write_inj.mp hread).1
  · intro hplain
    refine ⟨?_, fun coord hvalid => parseTileCoord_canonicalParts hvalid⟩
    intro coord hread
    obtain ⟨hvalid, spelling, hparts⟩ := parseTileCoord_eq_ok_iff.mp hread
    by_cases hspelling : spelling = .plain
    · rw [hparts, hspelling, TileSpelling.write_plain]
    · exact absurd ⟨coord, spelling, hvalid, hspelling, hparts⟩ hplain

/-- One tile, under its canonical parts and under others. -/
theorem not_canonical :
    parseTileCoord "3" "1" "2.png" = .ok ⟨3, 1, 2⟩ ∧
      parseTileCoord "+3" "01" "2.png.png" = .ok ⟨3, 1, 2⟩ ∧ ¬ Canonical "+3" "01" "2.png.png" := by
  have hread : parseTileCoord "+3" "01" "2.png.png" = .ok ⟨3, 1, 2⟩ := by decide +kernel
  refine ⟨by decide +kernel, hread, ?_⟩
  intro hcanonical
  exact absurd (congrArg Prod.fst (hcanonical _ hread)) (by decide)

end LumenHorizon.Gateway
