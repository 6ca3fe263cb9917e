import LumenHorizon.Ingest.RawPaths
import LumenHorizon.Shared.TileScan

/-! # The validators of the two services

Ingest has its own scan for a tile and its own check of a raw path, next to those in the shared
crate that every message passes. The scan runs over indices instead of windows and computes in
bytes; both find the same tile, and both checks accept the same paths.
-/

namespace LumenHorizon.Ingest
open Foundation Scan Utf8 Words Shared
open TileScan (isAsciiDigit tileTests tileNumbers findTile)

/-- In `u8`. -/
def parseTwoDigitBytes (tens ones : UInt8) : Except Overflow ℕ := do
  let tens ← checkedSub tens.toBitVec 48
  let product ← checkedMul tens 10
  let ones ← checkedSub ones.toBitVec 48
  let sum ← checkedAdd product ones
  .ok sum.toNat

/-- The loop over the indices, each of which must leave six bytes to read. -/
def parseFromLoop (bytes : List UInt8) : List ℕ → Except Panic (Option TileCoordinate)
  | [] => .ok none
  | index :: indices =>
    match bytes.drop index with
    | b0 :: b1 :: b2 :: b3 :: b4 :: b5 :: _ =>
      if b0 = asciiByte 'h' ∧ isAsciiDigit b1 ∧ isAsciiDigit b2 ∧ b3 = asciiByte 'v' ∧
          isAsciiDigit b4 ∧ isAsciiDigit b5 then
        match parseTwoDigitBytes b1 b2, parseTwoDigitBytes b4 b5 with
        | .ok h, .ok v => .ok (some { h := h, v := v })
        | .error overflow, _ | _, .error overflow => .error (.arithmetic overflow)
      else parseFromLoop bytes indices
    | _ => .error .indexOutOfBounds

/-- `TileCoordinate::parse_from`, on the bytes of the text. -/
def TileCoordinate.parseFromBytes (bytes : List UInt8) : Except Panic (Option TileCoordinate) :=
  if bytes.length < 6 then .ok none
  else parseFromLoop bytes (List.range (bytes.length - 6 + 1))

def TileCoordinate.ofNumbers (numbers : ℕ × ℕ) : TileCoordinate where
  h := numbers.1
  v := numbers.2

theorem parseTwoDigitBytes_eq_ok {tens ones : UInt8} (htens : isAsciiDigit tens = true)
    (hones : isAsciiDigit ones = true) :
    parseTwoDigitBytes tens ones = .ok (TileScan.digits tens ones) := by
  obtain ⟨high, hhigh, hhighNat⟩ := TileScan.checkedSub_digit htens
  obtain ⟨low, hlow, hlowNat⟩ := TileScan.checkedSub_digit hones
  have hlt := TileScan.digits_lt htens hones
  have hten : (10 : BitVec 8).toNat = 10 := by decide
  have hvalue : high.toNat * 10 + low.toNat = TileScan.digits tens ones := by
    unfold TileScan.digits
    omega
  obtain ⟨product, hproduct, hproductNat⟩ := checkedMul_eq_ok (a := high) (b := 10)
    (by rw [hten]; omega)
  rw [hten] at hproductNat
  obtain ⟨sum, hsum, hsumNat⟩ := checkedAdd_eq_ok (a := product) (b := low) (by omega)
  have hresult : sum.toNat = TileScan.digits tens ones := by omega
  rw [← hresult]
  exact bind_eq_ok_iff.mpr ⟨high, hhigh, bind_eq_ok_iff.mpr ⟨product, hproduct,
    bind_eq_ok_iff.mpr ⟨low, hlow, bind_eq_ok_iff.mpr ⟨sum, hsum, rfl⟩⟩⟩⟩

theorem parseFromLoop_eq (bytes : List UInt8) (indices : List ℕ)
    (h : ∀ index ∈ indices, index + 6 ≤ bytes.length) :
    parseFromLoop bytes indices =
      .ok (((indices.findSome? fun index => matchNext tileTests (bytes.drop index)).map
        tileNumbers).map TileCoordinate.ofNumbers) := by
  induction indices with
  | nil => rfl
  | cons index indices ih =>
    have hindex := h index (by simp)
    have hrest := ih fun index hindex => h index (List.mem_cons_of_mem _ hindex)
    have hlength : 6 ≤ (bytes.drop index).length := by
      rw [List.length_drop]
      omega
    rw [List.findSome?_cons, parseFromLoop]
    match bytes.drop index, hlength with
    | b0 :: b1 :: b2 :: b3 :: b4 :: b5 :: rest, _ =>
      rw [TileScan.matchNext_tileTests]
      by_cases hmatch : b0 = asciiByte 'h' ∧ isAsciiDigit b1 ∧ isAsciiDigit b2 ∧
          b3 = asciiByte 'v' ∧ isAsciiDigit b4 ∧ isAsciiDigit b5
      · have ⟨h0, h1, h2, h3, h4, h5⟩ := hmatch
        rw [if_pos hmatch]
        simp only [if_pos hmatch, parseTwoDigitBytes_eq_ok h1 h2, parseTwoDigitBytes_eq_ok h4 h5]
        rfl
      · simp only [if_neg hmatch, hrest]

/-- The loop over the indices finds the first tile, and does not panic. -/
theorem TileCoordinate.parseFromBytes_eq (bytes : List UInt8) :
    parseFromBytes bytes = .ok ((findTile bytes).map ofNumbers) := by
  have hscan := scan_eq_range (show tileTests.length = 6 from rfl) bytes
  unfold parseFromBytes
  split_ifs with hshort
  · have hempty : bytes.length + 1 - 6 = 0 := by omega
    rw [findTile, hscan, hempty]
    rfl
  · have hlength : bytes.length - 6 + 1 = bytes.length + 1 - 6 := by omega
    rw [parseFromLoop_eq, findTile, hscan, hlength]
    intro index hindex
    rw [List.mem_range] at hindex
    omega

/-- `validate_blob_path` of the shared crate. -/
def validateBlobPath (path : String) : Except ProcessingMessageValidationError Unit :=
  if path = "" ∨ startsWith path "/" ∨ startsWith path "http://" ∨ startsWith path "https://" ∨
      startsWith path "raw-viirs/" then .error (.invalidBlobPath path)
  else .ok ()

theorem validateBlobPath_eq_ok_iff (path : String) :
    validateBlobPath path = .ok () ↔ RelativeBlobPath path := by
  unfold validateBlobPath RelativeBlobPath
  split_ifs with h
  · simp only [false_iff]
    tauto
  · simp only [true_iff]
    tauto

/-- What is promised of the two pairs of validators on a text. -/
structure ValidatorsAgree (s : String) : Prop where
  tile : ∃ tile : Option TileCoordinate, TileCoordinate.parseFromBytes (asBytes s) = .ok tile ∧
    TileScan.parseFirstTile (asBytes s) = .ok (tile.map fun tile => ((tile.h : ℤ), (tile.v : ℤ)))
  path : validateRawBlobPath s = .ok () ↔ validateBlobPath s = .ok ()
  message : ∀ (ingestId : Uuid) (granule : GranuleCandidate), Supported granule.product →
    TileCoordinate.parseFromBytes (asBytes s) = .ok (some granule.tile) →
      (validateRawBlobPath s = .ok () ↔
        ∃ message, processingMessageFromGranule ingestId granule s = .ok message)

/-- The validators agree on every text. -/
theorem validators_agree (s : String) : ValidatorsAgree s := by
  have hpath : validateRawBlobPath s = .ok () ↔ validateBlobPath s = .ok () := by
    rw [validateRawBlobPath_eq_ok_iff, validateBlobPath_eq_ok_iff]
  refine ⟨⟨(findTile (asBytes s)).map TileCoordinate.ofNumbers,
    TileCoordinate.parseFromBytes_eq (asBytes s), ?_⟩, hpath, ?_⟩
  · rw [TileScan.parseFirstTile_eq, Option.map_map]
    rfl
  · rintro ingestId granule ⟨product, hproduct⟩ htile
    have hfound : (findTile (asBytes s)).map TileCoordinate.ofNumbers = some granule.tile :=
      Except.ok.inj ((TileCoordinate.parseFromBytes_eq (asBytes s)).symm.trans htile)
    obtain ⟨numbers, hnumbers, hgranule⟩ := Option.map_eq_some_iff.mp hfound
    have hshared : Shared.parseFirstTile s.toList =
        some ((granule.tile.h : ℤ), (granule.tile.v : ℤ)) := by
      rw [TileScan.parseFirstTile_eq_findTile, show encodeChars s.toList = asBytes s from rfl,
        hnumbers, ← hgranule]
      rfl
    rw [validateRawBlobPath_eq_ok_iff]
    constructor
    · intro hrelative
      rw [processingMessageFromGranule, hproduct]
      exact ⟨_, ProcessingMessage.new_of_valid ingestId product granule.granuleDate hrelative hshared⟩
    · rintro ⟨message, hmessage⟩
      by_contra hrelative
      rw [processingMessageFromGranule, ProcessingMessage.new, dif_neg hrelative] at hmessage
      cases hmessage

end LumenHorizon.Ingest
