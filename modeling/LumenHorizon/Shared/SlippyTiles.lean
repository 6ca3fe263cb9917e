import LumenHorizon.Foundation.Fallible
import LumenHorizon.Foundation.Grid
import Mathlib.Order.Interval.Set.Basic

/-! # Slippy-map tile arithmetic

Longitudes and normalized Mercator rows live in an arbitrary ordered field with a
floor, so that the same functions run on rationals and are reasoned about on reals.
The latitude formula is a parameter: a strictly decreasing map with its inverse.
-/

namespace LumenHorizon.SlippyTiles
open Foundation

/-- `MAX_SUPPORTED_ZOOM`. -/
def maxSupportedZoom : ℕ := 22

structure TileCoord where
  z : ℕ
  x : ℕ
  y : ℕ
deriving DecidableEq, Repr

structure GeographicBounds (K : Type) where
  west : K
  south : K
  east : K
  north : K
deriving DecidableEq, Repr

structure TileRange where
  z : ℕ
  minX : ℕ
  maxX : ℕ
  minY : ℕ
  maxY : ℕ
deriving DecidableEq, Repr

inductive TileMathError where
  | invalidBounds
  | invalidViirsTile (tileH tileV : ℤ)
  | invalidTileSetId
  | xOutOfRange (z x max : ℕ)
  | yOutOfRange (z y max : ℕ)
  | zoomTooLarge (z : ℕ)
deriving DecidableEq, Repr

-- The numerals of the formulas rest on one proof wherever they are written.
instance atLeastTwo_two : Nat.AtLeastTwo 2 := ⟨le_rfl⟩

instance atLeastTwo_180 : Nat.AtLeastTwo 180 := ⟨by decide⟩

variable {K : Type} [Field K] [LinearOrder K]

/-- `WEB_MERCATOR_LATITUDE_LIMIT`, 85.051_128_78 degrees. -/
def webMercatorLatitudeLimit : K := 8505112878 / 100000000

/-- The latitude-to-row map of the projection, normalized so that the map square is `[0, 1]`
from north to south, together with its inverse. The poles are outside its domain, the
equator is the middle row, and the square reaches past 80 degrees on both sides. -/
structure LatitudeProjection (K : Type) [Field K] [LinearOrder K] where
  row : K → K
  latitude : K → K
  row_strictAntiOn : StrictAntiOn row (Set.Ioo (-90) 90)
  latitude_mem : ∀ t, 0 ≤ t → t ≤ 1 → latitude t ∈ Set.Ioo (-90 : K) 90
  row_latitude : ∀ t, 0 ≤ t → t ≤ 1 → row (latitude t) = t
  row_equator : row 0 = 1 / 2
  north_edge : 80 < latitude 0
  south_edge : latitude 1 < -80

def tilesPerAxis (z : ℕ) : Except TileMathError ℕ :=
  if z > maxSupportedZoom then .error (.zoomTooLarge z) else .ok (2 ^ z)

def validateTileCoord (coord : TileCoord) : Except TileMathError Unit := do
  let n ← tilesPerAxis coord.z
  if coord.x > n - 1 then .error (.xOutOfRange coord.z coord.x (n - 1))
  else if coord.y > n - 1 then .error (.yOutOfRange coord.z coord.y (n - 1))
  else .ok ()

/-- `f64::from(x) / tiles_per_axis * 360.0 - 180.0`, the longitude of column boundary `x`. -/
def tileXToLongitude (x n : ℕ) : K := (x : K) / n * 360 - 180

def tileYToLatitude (P : LatitudeProjection K) (y n : ℕ) : K := P.latitude ((y : K) / n)

def tileBounds (P : LatitudeProjection K) (coord : TileCoord) :
    Except TileMathError (GeographicBounds K) := do
  validateTileCoord coord
  let n ← tilesPerAxis coord.z
  .ok {
    west := tileXToLongitude coord.x n
    south := tileYToLatitude P (coord.y + 1) n
    east := tileXToLongitude (coord.x + 1) n
    north := tileYToLatitude P coord.y n }

def clipBounds (bounds clipTo : GeographicBounds K) : Option (GeographicBounds K) :=
  let clipped : GeographicBounds K := {
    west := max bounds.west clipTo.west
    south := max bounds.south clipTo.south
    east := min bounds.east clipTo.east
    north := min bounds.north clipTo.north }
  if clipped.west < clipped.east ∧ clipped.south < clipped.north then some clipped else none

def viirsTileBounds (tileH tileV : ℤ) : Except TileMathError (GeographicBounds K) :=
  if ¬ (0 ≤ tileH ∧ tileH ≤ 35) ∨ ¬ (0 ≤ tileV ∧ tileV ≤ 17) then
    .error (.invalidViirsTile tileH tileV)
  else
    let west : K := -180 + tileH * 10
    let rawNorth : K := 90 - tileV * 10
    let rawSouth := rawNorth - 10
    .ok {
      west := west
      south := max rawSouth (-webMercatorLatitudeLimit)
      east := west + 10
      north := min rawNorth webMercatorLatitudeLimit }

def validateBounds (bounds : GeographicBounds K) : Except TileMathError Unit :=
  if (-180 ≤ bounds.west ∧ bounds.west ≤ 180) ∧ (-180 ≤ bounds.east ∧ bounds.east ≤ 180) ∧
      (-webMercatorLatitudeLimit ≤ bounds.south ∧ bounds.south ≤ webMercatorLatitudeLimit) ∧
      (-webMercatorLatitudeLimit ≤ bounds.north ∧ bounds.north ≤ webMercatorLatitudeLimit) ∧
      bounds.west < bounds.east ∧ bounds.south < bounds.north then
    .ok ()
  else
    .error .invalidBounds

/-- `f64::clamp`. -/
def clamp (value lo hi : K) : K := max lo (min value hi)

section Floor

variable [FloorRing K]

/-- The float-to-`u32` cast saturates at zero, and above it at a value past the last tile, so
`(normalized * tiles_per_axis).floor() as u32` with `.min(tiles_per_axis - 1)` is a grid cell. -/
def longitudeToTileX (longitude : K) (n : ℕ) : ℕ :=
  Grid.cell (clamp ((longitude + 180) / 360) 0 1) n

def latitudeToTileY (P : LatitudeProjection K) (latitude : K) (n : ℕ) : ℕ :=
  Grid.cell (P.row (clamp latitude (-webMercatorLatitudeLimit) webMercatorLatitudeLimit)) n

def tileRangeForBounds (P : LatitudeProjection K) (bounds : GeographicBounds K) (z : ℕ) :
    Except TileMathError TileRange := do
  validateBounds bounds
  let n ← tilesPerAxis z
  let minX := longitudeToTileX bounds.west n
  let maxX := longitudeToTileX bounds.east n
  let minY := latitudeToTileY P bounds.north n
  let maxY := latitudeToTileY P bounds.south n
  .ok {
    z := z
    minX := min minX maxX
    maxX := max minX maxX
    minY := min minY maxY
    maxY := max minY maxY }

end Floor

theorem tilesPerAxis_ok {z : ℕ} (hz : z ≤ maxSupportedZoom) : tilesPerAxis z = .ok (2 ^ z) := by
  simp [tilesPerAxis, Nat.not_lt.mpr hz]

theorem validateTileCoord_eq_ok_iff (coord : TileCoord) :
    validateTileCoord coord = .ok () ↔
      coord.z ≤ maxSupportedZoom ∧ coord.x < 2 ^ coord.z ∧ coord.y < 2 ^ coord.z := by
  have hpos : 0 < 2 ^ coord.z := by positivity
  unfold validateTileCoord tilesPerAxis
  by_cases hz : coord.z > maxSupportedZoom
  · simp only [hz, if_true, bind, Except.bind]
    simp only [reduceCtorEq, false_iff]
    omega
  · simp only [hz, if_false, bind, Except.bind]
    split_ifs with hx hy
    · simp only [false_iff]
      omega
    · simp only [false_iff]
      omega
    · simp only [true_iff]
      omega

theorem tileBounds_ok (P : LatitudeProjection K) {coord : TileCoord}
    (h : validateTileCoord coord = .ok ()) :
    tileBounds P coord = .ok {
      west := tileXToLongitude coord.x (2 ^ coord.z)
      south := tileYToLatitude P (coord.y + 1) (2 ^ coord.z)
      east := tileXToLongitude (coord.x + 1) (2 ^ coord.z)
      north := tileYToLatitude P coord.y (2 ^ coord.z) } := by
  have hz := ((validateTileCoord_eq_ok_iff coord).mp h).1
  simp [tileBounds, h, tilesPerAxis_ok hz, bind, Except.bind]

theorem tileBounds_error (P : LatitudeProjection K) {coord : TileCoord} {e : TileMathError}
    (h : validateTileCoord coord = .error e) : tileBounds P coord = .error e := by
  simp [tileBounds, h, bind, Except.bind]

omit [Field K] in
theorem clipBounds_eq_some_iff (bounds clipTo clipped : GeographicBounds K) :
    clipBounds bounds clipTo = some clipped ↔
      clipped = {
        west := max bounds.west clipTo.west
        south := max bounds.south clipTo.south
        east := min bounds.east clipTo.east
        north := min bounds.north clipTo.north } ∧
      clipped.west < clipped.east ∧ clipped.south < clipped.north := by
  simp only [clipBounds]
  split_ifs with h
  · constructor
    · rintro ⟨rfl⟩
      exact ⟨rfl, h⟩
    · rintro ⟨rfl, -⟩
      rfl
  · constructor
    · rintro ⟨⟩
    · rintro ⟨rfl, h'⟩
      exact absurd h' h

theorem viirsTileBounds_eq_ok_iff (tileH tileV : ℤ) (bounds : GeographicBounds K) :
    viirsTileBounds tileH tileV = .ok bounds ↔
      (0 ≤ tileH ∧ tileH ≤ 35) ∧ (0 ≤ tileV ∧ tileV ≤ 17) ∧
        bounds = {
          west := -180 + tileH * 10
          south := max (90 - tileV * 10 - 10) (-webMercatorLatitudeLimit)
          east := -180 + tileH * 10 + 10
          north := min (90 - tileV * 10) webMercatorLatitudeLimit } := by
  unfold viirsTileBounds
  split_ifs with h
  · simp only [false_iff]
    tauto
  · simp only [Except.ok.injEq]
    constructor
    · rintro rfl
      tauto
    · rintro ⟨-, -, rfl⟩
      rfl

omit [Field K] in
theorem clamp_eq_self {value lo hi : K} (hlo : lo ≤ value) (hhi : value ≤ hi) :
    clamp value lo hi = value := by
  rw [clamp, min_eq_left hhi, max_eq_right hlo]

namespace LatitudeProjection

variable (P : LatitudeProjection K)

theorem latitude_lt_iff {t φ : K} (h0 : 0 ≤ t) (h1 : t ≤ 1) (hφ : φ ∈ Set.Ioo (-90 : K) 90) :
    P.latitude t < φ ↔ P.row φ < t := by
  rw [← P.row_strictAntiOn.lt_iff_gt hφ (P.latitude_mem t h0 h1), P.row_latitude t h0 h1]

theorem lt_latitude_iff {t φ : K} (h0 : 0 ≤ t) (h1 : t ≤ 1) (hφ : φ ∈ Set.Ioo (-90 : K) 90) :
    φ < P.latitude t ↔ t < P.row φ := by
  rw [← P.row_strictAntiOn.lt_iff_gt (P.latitude_mem t h0 h1) hφ, P.row_latitude t h0 h1]

theorem latitude_strictAnti {s t : K} (h0 : 0 ≤ s) (hst : s < t) (h1 : t ≤ 1) :
    P.latitude t < P.latitude s := by
  rw [P.latitude_lt_iff (h0.trans hst.le) h1 (P.latitude_mem s h0 (hst.le.trans h1)),
    P.row_latitude s h0 (hst.le.trans h1)]
  exact hst

theorem latitude_eq_iff {t φ : K} (h0 : 0 ≤ t) (h1 : t ≤ 1) (hφ : φ ∈ Set.Ioo (-90 : K) 90) :
    P.latitude t = φ ↔ t = P.row φ := by
  have hlt := P.latitude_lt_iff h0 h1 hφ
  have hgt := P.lt_latitude_iff h0 h1 hφ
  constructor
  · intro h
    exact le_antisymm (not_lt.mp fun hl => (hlt.mpr hl).ne h)
      (not_lt.mp fun hl => (hgt.mpr hl).ne' h)
  · intro h
    exact le_antisymm (not_lt.mp fun hl => (hgt.mp hl).ne h)
      (not_lt.mp fun hl => (hlt.mp hl).ne' h)

end LatitudeProjection

variable [IsStrictOrderedRing K]

theorem webMercatorLatitudeLimit_bounds :
    (80 : K) < webMercatorLatitudeLimit ∧ (webMercatorLatitudeLimit : K) < 90 := by
  constructor <;> norm_num [webMercatorLatitudeLimit]

/-- A latitude the service accepts lies in the domain of the projection. -/
theorem mem_domain_of_limit {latitude : K} (hlo : -webMercatorLatitudeLimit ≤ latitude)
    (hhi : latitude ≤ webMercatorLatitudeLimit) : latitude ∈ Set.Ioo (-90 : K) 90 := by
  have h := (webMercatorLatitudeLimit_bounds (K := K)).2
  exact ⟨by linarith, by linarith⟩

/-- Up to 80 degrees a latitude lies below the map square's top edge. -/
theorem LatitudeProjection.row_pos (P : LatitudeProjection K) {φ : K}
    (hφ : φ ∈ Set.Ioo (-90 : K) 90) (h : φ ≤ 80) : 0 < P.row φ :=
  (P.lt_latitude_iff le_rfl zero_le_one hφ).mp (h.trans_lt P.north_edge)

theorem LatitudeProjection.row_lt_one (P : LatitudeProjection K) {φ : K}
    (hφ : φ ∈ Set.Ioo (-90 : K) 90) (h : -80 ≤ φ) : P.row φ < 1 :=
  (P.latitude_lt_iff zero_le_one le_rfl hφ).mp (P.south_edge.trans_le h)

/-- The edges of cell `k` of `n`, in order inside the unit interval. -/
theorem cell_edges {k n : ℕ} (hk : k < n) :
    (0 : K) ≤ (k : K) / n ∧ (k : K) / n < ((k : K) + 1) / n ∧ ((k : K) + 1) / n ≤ 1 := by
  have hpos : (0 : K) < n := Nat.cast_pos.mpr (by omega)
  refine ⟨by positivity, div_lt_div_of_pos_right (by linarith) hpos, ?_⟩
  rw [div_le_one hpos]
  exact_mod_cast hk

/-- Every tile box has a positive extent in both directions. -/
theorem tileBounds_nonempty {P : LatitudeProjection K} {coord : TileCoord}
    {tile : GeographicBounds K} (h : tileBounds P coord = .ok tile) :
    validateTileCoord coord = .ok () ∧ tile.west < tile.east ∧ tile.south < tile.north := by
  obtain ⟨_, hv⟩ | ⟨e, he⟩ := eq_ok_or_eq_error (validateTileCoord coord)
  · obtain ⟨-, hx, hy⟩ := (validateTileCoord_eq_ok_iff coord).mp hv
    obtain ⟨-, hx, -⟩ := cell_edges (K := K) hx
    obtain ⟨h0, hy, h1⟩ := cell_edges (K := K) hy
    rw [tileBounds_ok P hv] at h
    cases h
    refine ⟨hv, ?_, ?_⟩
    · simp only [tileXToLongitude, Nat.cast_add, Nat.cast_one]
      linarith
    · simpa only [tileYToLatitude, Nat.cast_add, Nat.cast_one] using P.latitude_strictAnti h0 hy h1
  · rw [tileBounds_error P he] at h
    cases h

section Ranges

variable [FloorRing K]

/-- The range `tile_range_for_bounds` answers when nothing fails. -/
def boundsRange (P : LatitudeProjection K) (bounds : GeographicBounds K) (z : ℕ) : TileRange where
  z := z
  minX := Grid.cell ((bounds.west + 180) / 360) (2 ^ z)
  maxX := Grid.cell ((bounds.east + 180) / 360) (2 ^ z)
  minY := Grid.cell (P.row bounds.north) (2 ^ z)
  maxY := Grid.cell (P.row bounds.south) (2 ^ z)

omit [IsStrictOrderedRing K] [FloorRing K] in
theorem validateBounds_eq_ok_iff (bounds : GeographicBounds K) :
    validateBounds bounds = .ok () ↔
      (-180 ≤ bounds.west ∧ bounds.west ≤ 180) ∧ (-180 ≤ bounds.east ∧ bounds.east ≤ 180) ∧
      (-webMercatorLatitudeLimit ≤ bounds.south ∧ bounds.south ≤ webMercatorLatitudeLimit) ∧
      (-webMercatorLatitudeLimit ≤ bounds.north ∧ bounds.north ≤ webMercatorLatitudeLimit) ∧
      bounds.west < bounds.east ∧ bounds.south < bounds.north := by
  unfold validateBounds
  split_ifs with h
  · simp only [true_iff]
    exact h
  · simp only [false_iff]
    exact h

theorem tileRangeForBounds_ok (P : LatitudeProjection K) {bounds : GeographicBounds K} {z : ℕ}
    (hb : validateBounds bounds = .ok ()) (hz : z ≤ maxSupportedZoom) :
    tileRangeForBounds P bounds z = .ok (boundsRange P bounds z) := by
  obtain ⟨hw, he, hs, hn, hwe, hsn⟩ := (validateBounds_eq_ok_iff bounds).mp hb
  have hx : Grid.cell ((bounds.west + 180) / 360) (2 ^ z) ≤
      Grid.cell ((bounds.east + 180) / 360) (2 ^ z) := by
    apply Grid.cell_mono
    linarith
  have hy : Grid.cell (P.row bounds.north) (2 ^ z) ≤ Grid.cell (P.row bounds.south) (2 ^ z) := by
    apply Grid.cell_mono
    exact (P.row_strictAntiOn (mem_domain_of_limit hs.1 hs.2)
      (mem_domain_of_limit hn.1 hn.2) hsn).le
  have hwest : clamp ((bounds.west + 180) / 360) 0 1 = (bounds.west + 180) / 360 :=
    clamp_eq_self (by linarith) (by linarith)
  have heast : clamp ((bounds.east + 180) / 360) 0 1 = (bounds.east + 180) / 360 :=
    clamp_eq_self (by linarith) (by linarith)
  simp [tileRangeForBounds, hb, tilesPerAxis_ok hz, bind, Except.bind, longitudeToTileX,
    latitudeToTileY, hwest, heast, clamp_eq_self hs.1 hs.2, clamp_eq_self hn.1 hn.2, boundsRange,
    min_eq_left hx, max_eq_right hx, min_eq_left hy, max_eq_right hy]

end Ranges
end LumenHorizon.SlippyTiles
