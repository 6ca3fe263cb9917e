import LumenHorizon.Processing.Config
import LumenHorizon.Shared.Projections

/-! # Planning tiles and mapping them to raster windows

The planner turns the generation bounds into inclusive tile ranges; the window mapper then
asks, for each planned tile, which part of the source raster it covers. The two are computed
independently. This module embeds both and says exactly when they agree.
-/

namespace LumenHorizon.Processing
open Foundation SlippyTiles

structure RasterShape where
  width : ℕ
  height : ℕ
deriving DecidableEq, Repr

structure RasterWindow where
  xOffset : ℕ
  yOffset : ℕ
  width : ℕ
  height : ℕ
deriving DecidableEq, Repr

structure TileGenerationPlan where
  ranges : List TileRange
  tileCount : ℕ
deriving DecidableEq, Repr

inductive RenderError where
  | invalidClassColor (colorHex : String)
  | invalidTileSize
  | pixelCountMismatch (tileSize expected actual : ℕ)
deriving DecidableEq, Repr

/-- The last case is the panic of an index past the end of a slice. -/
inductive GenerateError (K : Type) where
  | configuredBoundsOutsideSource (sourceBounds configuredBounds : GeographicBounds K)
  | renderTile (coord : TileCoord) (source : RenderError)
  | sampleCountMismatch (radiance quality : ℕ) (cloud observationCount : Option ℕ)
  | tileCountOverflow (tileCount : ℕ)
  | tileMath (error : TileMathError)
  | tileOutsideSourceBounds (coord : TileCoord) (sourceBounds : GeographicBounds K)
  | indexOutOfBounds (index : ℕ)
deriving DecidableEq, Repr

/-- `?` through `#[from] TileMathError`. -/
def liftTileMath {K α : Type} : Except TileMathError α → Except (GenerateError K) α
  | .ok a => .ok a
  | .error e => .error (.tileMath e)

@[simp] theorem liftTileMath_eq_ok_iff {K α : Type} {x : Except TileMathError α} {a : α} :
    liftTileMath (K := K) x = .ok a ↔ x = .ok a := by
  cases x <;> simp [liftTileMath]

variable {K : Type} [Field K] [LinearOrder K] [FloorRing K]

/-- Maps a normalized start fraction to an inclusive raster start index. -/
def floorToRasterIndex (fraction : K) (rasterSize : ℕ) : ℕ :=
  min ⌊clamp fraction 0 1 * rasterSize⌋.toNat rasterSize

/-- Maps a normalized end fraction to an exclusive raster end index. -/
def ceilToRasterIndex (fraction : K) (rasterSize : ℕ) : ℕ :=
  min ⌈clamp fraction 0 1 * rasterSize⌉.toNat rasterSize

/-- The window of the source raster that a clipped extent covers. -/
def clippedWindow (sourceBounds clipped : GeographicBounds K) (rasterShape : RasterShape) :
    RasterWindow :=
  let sourceWidth := sourceBounds.east - sourceBounds.west
  let sourceHeight := sourceBounds.north - sourceBounds.south
  let xStartFraction := (clipped.west - sourceBounds.west) / sourceWidth
  let xEndFraction := (clipped.east - sourceBounds.west) / sourceWidth
  let yStartFraction := (sourceBounds.north - clipped.north) / sourceHeight
  let yEndFraction := (sourceBounds.north - clipped.south) / sourceHeight
  let xOffset := floorToRasterIndex xStartFraction rasterShape.width
  let yOffset := floorToRasterIndex yStartFraction rasterShape.height
  let xEnd := ceilToRasterIndex xEndFraction rasterShape.width
  let yEnd := ceilToRasterIndex yEndFraction rasterShape.height
  { xOffset := xOffset
    yOffset := yOffset
    width := max (xEnd - xOffset) 1
    height := max (yEnd - yOffset) 1 }

def rasterWindowForTile (P : LatitudeProjection K) (coord : TileCoord)
    (sourceBounds : GeographicBounds K) (rasterShape : RasterShape) :
    Except (GenerateError K) RasterWindow := do
  let bounds ← liftTileMath (tileBounds P coord)
  match clipBounds bounds sourceBounds with
  | none => .error (.tileOutsideSourceBounds coord sourceBounds)
  | some clipped => .ok (clippedWindow sourceBounds clipped rasterShape)

def tileRangeTileCount (range : TileRange) : ℕ :=
  (range.maxX - range.minX + 1) * (range.maxY - range.minY + 1)

/-- The loop over the remaining zoom levels, with the ranges and the `u64` count so far. -/
def planRanges (P : LatitudeProjection K) (bounds : GeographicBounds K) :
    List ℕ → List TileRange → ℕ → Except (GenerateError K) (List TileRange × ℕ)
  | [], ranges, tileCount => .ok (ranges, tileCount)
  | z :: zooms, ranges, tileCount => do
    let range ← liftTileMath (tileRangeForBounds P bounds z)
    planRanges P bounds zooms (ranges ++ [range]) (tileCount + tileRangeTileCount range)

/-- `min..=max`. -/
def inclusive (min max : ℕ) : List ℕ := List.range' min (max + 1 - min)

theorem mem_inclusive {min max n : ℕ} : n ∈ inclusive min max ↔ min ≤ n ∧ n ≤ max := by
  simp only [inclusive, List.mem_range'_1]
  omega

def planTileGenerationForBounds (P : LatitudeProjection K) (bounds : GeographicBounds K)
    (minZoom maxNativeZoom : ℕ) : Except (GenerateError K) TileGenerationPlan := do
  let (ranges, tileCount) ← planRanges P bounds (inclusive minZoom maxNativeZoom) [] 0
  if tileCount > 2 ^ 32 - 1 then .error (.tileCountOverflow tileCount)
  else .ok { ranges := ranges, tileCount := tileCount }

/-- The coordinates of a range in the order of the two nested loops. -/
def rangeCoords (range : TileRange) : List TileCoord :=
  (inclusive range.minX range.maxX).flatMap fun x =>
    (inclusive range.minY range.maxY).map fun y => { z := range.z, x := x, y := y }

def TileGenerationPlan.coords (plan : TileGenerationPlan) : List TileCoord :=
  plan.ranges.flatMap rangeCoords

def tileRenderJobs (P : LatitudeProjection K) (sourceBounds : GeographicBounds K)
    (rasterShape : RasterShape) (plan : TileGenerationPlan) :
    Except (GenerateError K) (List (ℕ × TileCoord × RasterWindow)) :=
  pushLoop (fun coord => rasterWindowForTile P coord sourceBounds rasterShape)
    (fun index coord window => (index, coord, window)) [] plan.coords

/-! ## The plan and the windows agree away from two edges -/

/-- The tile and the source share more than an edge. -/
def StrictlyOverlaps (tile source : GeographicBounds K) : Prop :=
  (tile.west < source.east ∧ source.west < tile.east) ∧
    (tile.south < source.north ∧ source.south < tile.north)

/-- The planned coordinate has bounds, and they strictly overlap the source. -/
def CoordOverlaps (P : LatitudeProjection K) (coord : TileCoord) (source : GeographicBounds K) :
    Prop := ∃ tile, tileBounds P coord = .ok tile ∧ StrictlyOverlaps tile source

instance (tile source : GeographicBounds K) : Decidable (StrictlyOverlaps tile source) :=
  inferInstanceAs (Decidable ((_ ∧ _) ∧ _ ∧ _))

instance (P : LatitudeProjection K) (coord : TileCoord) (source : GeographicBounds K) :
    Decidable (CoordOverlaps P coord source) :=
  match h : tileBounds P coord with
  | .ok tile => decidable_of_iff (StrictlyOverlaps tile source) (by simp [CoordOverlaps, h])
  | .error _ => isFalse (by simp [CoordOverlaps, h])

/-- The generation bounds reach the source's east edge and a planned column starts there. -/
def EastEdgeOnColumn (source : GeographicBounds K) (configured : TileBounds K) (z : ℕ) : Prop :=
  source.east ≤ configured.east ∧ ∃ k < 2 ^ z, tileXToLongitude k (2 ^ z) = source.east

/-- The generation bounds reach the source's south edge and a planned row starts there. -/
def SouthEdgeOnRow (P : LatitudeProjection K) (source : GeographicBounds K)
    (configured : TileBounds K) (z : ℕ) : Prop :=
  configured.south ≤ source.south ∧ ∃ k < 2 ^ z, tileYToLatitude P k (2 ^ z) = source.south

instance (source : GeographicBounds K) (configured : TileBounds K) (z : ℕ) :
    Decidable (EastEdgeOnColumn source configured z) :=
  inferInstanceAs (Decidable (_ ∧ ∃ k < 2 ^ z, _))

instance (P : LatitudeProjection K) (source : GeographicBounds K) (configured : TileBounds K)
    (z : ℕ) : Decidable (SouthEdgeOnRow P source configured z) :=
  inferInstanceAs (Decidable (_ ∧ ∃ k < 2 ^ z, _))

/-- The facts about a VIIRS source box the planner's answer depends on. -/
structure SourceBox (source : GeographicBounds K) : Prop where
  west_ge : -180 ≤ source.west
  east_le : source.east ≤ 180
  west_lt_east : source.west < source.east
  south_ge : -webMercatorLatitudeLimit ≤ source.south
  north_le : source.north ≤ webMercatorLatitudeLimit
  south_lt_north : source.south < source.north
  south_le : source.south ≤ 80
  north_ge : -80 ≤ source.north

variable [IsStrictOrderedRing K]

omit [FloorRing K] in
theorem viirsTileBounds_sourceBox {tileH tileV : ℤ} {source : GeographicBounds K}
    (h : viirsTileBounds tileH tileV = .ok source) : SourceBox source := by
  obtain ⟨⟨hh0, hh1⟩, ⟨hv0, hv1⟩, rfl⟩ := (viirsTileBounds_eq_ok_iff _ _ _).mp h
  have hh0' : (0 : K) ≤ tileH := by exact_mod_cast hh0
  have hh1' : (tileH : K) ≤ 35 := by exact_mod_cast hh1
  have hv0' : (0 : K) ≤ tileV := by exact_mod_cast hv0
  have hv1' : (tileV : K) ≤ 17 := by exact_mod_cast hv1
  have hlimit := (webMercatorLatitudeLimit_bounds (K := K)).1
  constructor
  · linarith
  · linarith
  · linarith
  · exact le_max_right _ _
  · exact min_le_right _ _
  · exact max_lt (lt_min (by linarith) (by linarith)) (lt_min (by linarith) (by linarith))
  · exact max_le (by linarith) (by linarith)
  · exact le_min (by linarith) (by linarith)

omit [FloorRing K] in
theorem SourceBox.south_mem {source : GeographicBounds K} (hs : SourceBox source) :
    source.south ∈ Set.Ioo (-90 : K) 90 :=
  mem_domain_of_limit hs.south_ge (hs.south_lt_north.le.trans hs.north_le)

omit [FloorRing K] in
theorem SourceBox.north_mem {source : GeographicBounds K} (hs : SourceBox source) :
    source.north ∈ Set.Ioo (-90 : K) 90 :=
  mem_domain_of_limit (hs.south_ge.trans hs.south_lt_north.le) hs.north_le

omit [FloorRing K] in
theorem validateBounds_of_clip {source generation : GeographicBounds K} {configured : TileBounds K}
    (hs : SourceBox source) (hg : clipBounds source configured.toGeographic = some generation) :
    validateBounds generation = .ok () := by
  obtain ⟨hgen, hwe, hsn⟩ := (clipBounds_eq_some_iff _ _ _).mp hg
  have hw : source.west ≤ generation.west := by rw [hgen]; exact le_max_left _ _
  have he : generation.east ≤ source.east := by rw [hgen]; exact min_le_left _ _
  have hso : source.south ≤ generation.south := by rw [hgen]; exact le_max_left _ _
  have hn : generation.north ≤ source.north := by rw [hgen]; exact min_le_left _ _
  have h1 := hs.west_ge
  have h2 := hs.east_le
  have h3 := hs.south_ge
  have h4 := hs.north_le
  rw [validateBounds_eq_ok_iff]
  refine ⟨⟨?_, ?_⟩, ⟨?_, ?_⟩, ⟨?_, ?_⟩, ⟨?_, ?_⟩, hwe, hsn⟩ <;> linarith

omit [FloorRing K] in
/-- Column `x` overlaps the source in longitude when its grid cell does. -/
theorem column_overlaps_iff (source : GeographicBounds K) (x n : ℕ) :
    (tileXToLongitude x n < source.east ∧ source.west < tileXToLongitude (x + 1) n) ↔
      Grid.Overlaps ((source.west + 180) / 360) ((source.east + 180) / 360) x n := by
  unfold tileXToLongitude Grid.Overlaps
  push_cast
  constructor
  · rintro ⟨h1, h2⟩
    constructor <;> linarith
  · rintro ⟨h1, h2⟩
    constructor <;> linarith

omit [FloorRing K] in
/-- Row `y` overlaps the source in latitude when its grid cell does, north at the top. -/
theorem row_overlaps_iff (P : LatitudeProjection K) {source : GeographicBounds K}
    (hs : SourceBox source) {y n : ℕ} (hy : y < n) :
    (tileYToLatitude P (y + 1) n < source.north ∧ source.south < tileYToLatitude P y n) ↔
      Grid.Overlaps (P.row source.north) (P.row source.south) y n := by
  obtain ⟨h0, hlt, h1⟩ := cell_edges (K := K) hy
  unfold tileYToLatitude Grid.Overlaps
  push_cast
  rw [P.latitude_lt_iff (h0.trans hlt.le) h1 hs.north_mem,
    P.lt_latitude_iff h0 (hlt.le.trans h1) hs.south_mem]
  exact and_comm

omit [FloorRing K] in
theorem coordOverlaps_iff (P : LatitudeProjection K) {source : GeographicBounds K}
    (hs : SourceBox source) {coord : TileCoord} (hv : validateTileCoord coord = .ok ()) :
    CoordOverlaps P coord source ↔
      Grid.Overlaps ((source.west + 180) / 360) ((source.east + 180) / 360) coord.x
          (2 ^ coord.z) ∧
        Grid.Overlaps (P.row source.north) (P.row source.south) coord.y (2 ^ coord.z) := by
  obtain ⟨hz, hx, hy⟩ := (validateTileCoord_eq_ok_iff coord).mp hv
  rw [← column_overlaps_iff source, ← row_overlaps_iff P hs hy]
  simp [CoordOverlaps, tileBounds_ok P hv, StrictlyOverlaps]

omit [Field K] [FloorRing K] [IsStrictOrderedRing K] in
theorem clipBounds_isSome_iff {tile source : GeographicBounds K} (hwe : tile.west < tile.east)
    (hsn : tile.south < tile.north) (hwe' : source.west < source.east)
    (hsn' : source.south < source.north) :
    (∃ clipped, clipBounds tile source = some clipped) ↔ StrictlyOverlaps tile source := by
  simp only [clipBounds_eq_some_iff, StrictlyOverlaps]
  constructor
  · rintro ⟨clipped, rfl, hx, hy⟩
    simp only [max_lt_iff, lt_min_iff] at hx hy
    exact ⟨⟨hx.2.1, hx.1.2⟩, hy.2.1, hy.1.2⟩
  · rintro ⟨⟨h1, h2⟩, h3, h4⟩
    exact ⟨_, rfl, max_lt (lt_min hwe h1) (lt_min h2 hwe'), max_lt (lt_min hsn h3) (lt_min h4 hsn')⟩

omit [IsStrictOrderedRing K] in
theorem rasterWindowForTile_eq_ok_iff (P : LatitudeProjection K) (coord : TileCoord)
    (source : GeographicBounds K) (rasterShape : RasterShape) (window : RasterWindow) :
    rasterWindowForTile P coord source rasterShape = .ok window ↔
      ∃ tile clipped, tileBounds P coord = .ok tile ∧ clipBounds tile source = some clipped ∧
        window = clippedWindow source clipped rasterShape := by
  unfold rasterWindowForTile
  rw [bind_eq_ok_iff]
  constructor
  · rintro ⟨tile, htile, h⟩
    split at h
    · cases h
    · next clipped hclipped =>
      cases h
      exact ⟨tile, clipped, liftTileMath_eq_ok_iff.mp htile, hclipped, rfl⟩
  · rintro ⟨tile, clipped, htile, hclipped, rfl⟩
    refine ⟨tile, liftTileMath_eq_ok_iff.mpr htile, ?_⟩
    rw [hclipped]

/-- A window exists exactly for the coordinates that strictly overlap the source. -/
theorem rasterWindowForTile_isOk_iff (P : LatitudeProjection K) {source : GeographicBounds K}
    (hs : SourceBox source) (coord : TileCoord) (rasterShape : RasterShape) :
    (∃ window, rasterWindowForTile P coord source rasterShape = .ok window) ↔
      CoordOverlaps P coord source := by
  simp only [rasterWindowForTile_eq_ok_iff, CoordOverlaps]
  constructor
  · rintro ⟨_, tile, clipped, htile, hclipped, -⟩
    obtain ⟨-, hwe, hsn⟩ := tileBounds_nonempty htile
    exact ⟨tile, htile,
      (clipBounds_isSome_iff hwe hsn hs.west_lt_east hs.south_lt_north).mp ⟨clipped, hclipped⟩⟩
  · rintro ⟨tile, htile, hoverlap⟩
    obtain ⟨-, hwe, hsn⟩ := tileBounds_nonempty htile
    obtain ⟨clipped, hclipped⟩ :=
      (clipBounds_isSome_iff hwe hsn hs.west_lt_east hs.south_lt_north).mpr hoverlap
    exact ⟨_, tile, clipped, htile, hclipped, rfl⟩

theorem rasterWindowForTile_error (P : LatitudeProjection K) {source : GeographicBounds K}
    (hs : SourceBox source) {coord : TileCoord} (hv : validateTileCoord coord = .ok ())
    (h : ¬ CoordOverlaps P coord source) (rasterShape : RasterShape) :
    rasterWindowForTile P coord source rasterShape =
      .error (.tileOutsideSourceBounds coord source) := by
  have htile := tileBounds_ok P hv
  rw [rasterWindowForTile, htile]
  simp only [liftTileMath, ok_bind]
  split
  · rfl
  · next clipped hclipped =>
    have hwindow := (rasterWindowForTile_eq_ok_iff P coord source rasterShape _).mpr
      ⟨_, clipped, htile, hclipped, rfl⟩
    exact absurd ((rasterWindowForTile_isOk_iff P hs coord rasterShape).mp ⟨_, hwindow⟩) h

/-! ## The coordinates of a plan -/

structure RangeWithin (z : ℕ) (range : TileRange) : Prop where
  zoom_le : z ≤ maxSupportedZoom
  x_le : range.minX ≤ range.maxX
  x_lt : range.maxX < 2 ^ z
  y_le : range.minY ≤ range.maxY
  y_lt : range.maxY < 2 ^ z

theorem within_of_tileRangeForBounds {P : LatitudeProjection K} {bounds : GeographicBounds K}
    {z : ℕ} {range : TileRange}
    (h : tileRangeForBounds P bounds z = .ok range) : RangeWithin z range := by
  obtain ⟨⟨⟩, hbounds, hrange⟩ := bind_eq_ok_iff.mp h
  obtain ⟨n, hn, -⟩ := bind_eq_ok_iff.mp hrange
  have hz : z ≤ maxSupportedZoom := by
    unfold tilesPerAxis at hn
    split_ifs at hn with hlarge
    omega
  cases (tileRangeForBounds_ok P hbounds hz).symm.trans h
  obtain ⟨-, -, hs, hn, hwe, hsn⟩ := (validateBounds_eq_ok_iff bounds).mp hbounds
  have hpos : 0 < 2 ^ z := by positivity
  refine ⟨hz, Grid.cell_mono (by linarith) _, Grid.cell_lt hpos, Grid.cell_mono ?_ _,
    Grid.cell_lt hpos⟩
  exact (P.row_strictAntiOn (mem_domain_of_limit hs.1 hs.2)
    (mem_domain_of_limit hn.1 hn.2) hsn).le

theorem RangeWithin.count_le {range : TileRange} {z : ℕ} (h : RangeWithin z range) :
    tileRangeTileCount range ≤ 4 ^ z := by
  have hx : range.maxX - range.minX + 1 ≤ 2 ^ z := by
    have := h.x_lt
    omega
  have hy : range.maxY - range.minY + 1 ≤ 2 ^ z := by
    have := h.y_lt
    omega
  calc tileRangeTileCount range ≤ 2 ^ z * 2 ^ z := Nat.mul_le_mul hx hy
    _ = 4 ^ z := by rw [← Nat.mul_pow]

theorem planRanges_ok (P : LatitudeProjection K) {bounds : GeographicBounds K}
    (hb : validateBounds bounds = .ok ()) {zooms : List ℕ} (hz : ∀ z ∈ zooms, z ≤ maxSupportedZoom)
    (ranges : List TileRange) (tileCount : ℕ) :
    ∃ total ≤ tileCount + (zooms.map (4 ^ ·)).sum, planRanges P bounds zooms ranges tileCount =
      .ok (ranges ++ zooms.map (boundsRange P bounds), total) := by
  induction zooms generalizing ranges tileCount with
  | nil => exact ⟨tileCount, le_rfl, by simp [planRanges]⟩
  | cons z zooms ih =>
    have hrange := tileRangeForBounds_ok P hb (hz z List.mem_cons_self)
    obtain ⟨total, htotal, h⟩ := ih (fun w hw => hz w (List.mem_cons_of_mem z hw))
      (ranges ++ [boundsRange P bounds z]) (tileCount + tileRangeTileCount (boundsRange P bounds z))
    refine ⟨total, ?_, ?_⟩
    · have hcount := (within_of_tileRangeForBounds hrange).count_le
      rw [List.map_cons, List.sum_cons]
      omega
    · rw [planRanges, hrange]
      simp only [liftTileMath, bind, Except.bind, h]
      simp

/-- Zooms that have fewer than `2 ^ 32` tiles in all can be planned. -/
theorem planTileGenerationForBounds_ok (P : LatitudeProjection K) {bounds : GeographicBounds K}
    (hb : validateBounds bounds = .ok ()) {minZoom maxNativeZoom : ℕ}
    (hz : maxNativeZoom ≤ maxSupportedZoom)
    (hcount : ((inclusive minZoom maxNativeZoom).map (4 ^ ·)).sum < 2 ^ 32) :
    ∃ plan, planTileGenerationForBounds P bounds minZoom maxNativeZoom = .ok plan := by
  obtain ⟨total, htotal, h⟩ := planRanges_ok P hb
    (fun z hmem => (mem_inclusive.mp hmem).2.trans hz : ∀ z ∈ inclusive minZoom maxNativeZoom, _)
    [] 0
  refine ⟨⟨(inclusive minZoom maxNativeZoom).map (boundsRange P bounds), total⟩, ?_⟩
  rw [planTileGenerationForBounds, h, ok_bind]
  exact if_neg (by omega)

theorem planTileGenerationForBounds_ranges (P : LatitudeProjection K) {bounds : GeographicBounds K}
    (hb : validateBounds bounds = .ok ()) {minZoom maxNativeZoom : ℕ}
    (hz : maxNativeZoom ≤ maxSupportedZoom) {plan : TileGenerationPlan}
    (hp : planTileGenerationForBounds P bounds minZoom maxNativeZoom = .ok plan) :
    plan.ranges = (inclusive minZoom maxNativeZoom).map (boundsRange P bounds) := by
  obtain ⟨total, -, h⟩ := planRanges_ok P hb
    (fun z hmem => (mem_inclusive.mp hmem).2.trans hz : ∀ z ∈ inclusive minZoom maxNativeZoom, _)
    [] 0
  rw [planTileGenerationForBounds, h] at hp
  simp only [List.nil_append, bind, Except.bind] at hp
  split_ifs at hp
  cases hp
  rfl

theorem mem_rangeCoords {range : TileRange} {coord : TileCoord} :
    coord ∈ rangeCoords range ↔ coord.z = range.z ∧
      (range.minX ≤ coord.x ∧ coord.x ≤ range.maxX) ∧
        (range.minY ≤ coord.y ∧ coord.y ≤ range.maxY) := by
  simp only [rangeCoords, List.mem_flatMap, List.mem_map, mem_inclusive]
  constructor
  · rintro ⟨x, hx, y, hy, rfl⟩
    exact ⟨rfl, hx, hy⟩
  · rintro ⟨hz, hx, hy⟩
    exact ⟨coord.x, hx, coord.y, hy, by rw [← hz]⟩

theorem mem_coords (P : LatitudeProjection K) {bounds : GeographicBounds K}
    (hb : validateBounds bounds = .ok ()) {minZoom maxNativeZoom : ℕ}
    (hz : maxNativeZoom ≤ maxSupportedZoom) {plan : TileGenerationPlan}
    (hp : planTileGenerationForBounds P bounds minZoom maxNativeZoom = .ok plan)
    (coord : TileCoord) :
    coord ∈ plan.coords ↔ (minZoom ≤ coord.z ∧ coord.z ≤ maxNativeZoom) ∧
      coord ∈ rangeCoords (boundsRange P bounds coord.z) := by
  rw [TileGenerationPlan.coords, planTileGenerationForBounds_ranges P hb hz hp]
  simp only [List.mem_flatMap, List.mem_map, mem_inclusive]
  constructor
  · rintro ⟨_, ⟨z, hz, rfl⟩, hmem⟩
    obtain rfl : coord.z = z := (mem_rangeCoords.mp hmem).1
    exact ⟨hz, hmem⟩
  · rintro ⟨hz, hmem⟩
    exact ⟨_, ⟨coord.z, hz, rfl⟩, hmem⟩

/-! ## Exactly when every planned coordinate has a window -/

variable (P : LatitudeProjection K) {source generation : GeographicBounds K}
  {configured : TileBounds K}

theorem columns_overlap_iff (hs : SourceBox source)
    (hg : clipBounds source configured.toGeographic = some generation) (z : ℕ) :
    (∀ x, (boundsRange P generation z).minX ≤ x → x ≤ (boundsRange P generation z).maxX →
        Grid.Overlaps ((source.west + 180) / 360) ((source.east + 180) / 360) x (2 ^ z)) ↔
      ¬ EastEdgeOnColumn source configured z := by
  obtain ⟨hgen, hwe, -⟩ := (clipBounds_eq_some_iff _ _ _).mp hg
  have hw : source.west ≤ generation.west := by rw [hgen]; exact le_max_left _ _
  have he : generation.east = min source.east configured.east := by rw [hgen]; rfl
  have h1 := hs.west_ge
  have h2 := hs.east_le
  have h3 := hs.west_lt_east
  have h4 : generation.east ≤ source.east := he ▸ min_le_left _ _
  have hgrid := Grid.range_overlaps_iff (a := (source.west + 180) / 360)
    (b := (source.east + 180) / 360) (g := (generation.west + 180) / 360)
    (h := (generation.east + 180) / 360) (n := 2 ^ z) (by positivity) (by linarith) (by linarith)
    (by linarith) (by linarith) (by linarith)
  refine hgrid.trans (not_congr (and_congr ?_ (exists_congr fun k => and_congr_right fun _ => ?_)))
  · rw [← min_eq_left_iff, ← he]
    constructor <;> intro h <;> linarith
  · unfold tileXToLongitude
    constructor <;> intro h <;> linarith

theorem rows_overlap_iff (hs : SourceBox source)
    (hg : clipBounds source configured.toGeographic = some generation) (z : ℕ) :
    (∀ y, (boundsRange P generation z).minY ≤ y → y ≤ (boundsRange P generation z).maxY →
        Grid.Overlaps (P.row source.north) (P.row source.south) y (2 ^ z)) ↔
      ¬ SouthEdgeOnRow P source configured z := by
  obtain ⟨hgen, -, hsn⟩ := (clipBounds_eq_some_iff _ _ _).mp hg
  obtain ⟨-, -, hgs, hgn, -⟩ := (validateBounds_eq_ok_iff _).mp (validateBounds_of_clip hs hg)
  have hn : generation.north ≤ source.north := by rw [hgen]; exact min_le_left _ _
  have hso : generation.south = max source.south configured.south := by rw [hgen]; rfl
  have hsouth := mem_domain_of_limit hgs.1 hgs.2
  have hnorth := mem_domain_of_limit hgn.1 hgn.2
  have hanti := P.row_strictAntiOn
  have hgrid := Grid.range_overlaps_iff (a := P.row source.north) (b := P.row source.south)
    (g := P.row generation.north) (h := P.row generation.south) (n := 2 ^ z) (by positivity)
    (P.row_lt_one hs.north_mem hs.north_ge) (P.row_pos hs.south_mem hs.south_le)
    ((hanti.le_iff_ge hs.north_mem hnorth).mpr hn)
    ((hanti.le_iff_ge hsouth hs.south_mem).mpr (hso ▸ le_max_left _ _))
    ((hanti.le_iff_ge hnorth hsouth).mpr hsn.le)
  refine hgrid.trans (not_congr (and_congr ?_ (exists_congr fun k => and_congr_right fun hk => ?_)))
  · rw [hanti.injOn.eq_iff hsouth hs.south_mem, hso, max_eq_left_iff]
  · obtain ⟨h0, hlt, h1⟩ := cell_edges (K := K) hk
    rw [tileYToLatitude, P.latitude_eq_iff h0 (hlt.le.trans h1) hs.south_mem]

/-- Every planned coordinate overlaps the source exactly when at no planned zoom the
generation bounds end on a tile boundary that is also the source's own edge. -/
theorem plan_overlaps_iff (hs : SourceBox source)
    (hg : clipBounds source configured.toGeographic = some generation)
    {minZoom maxNativeZoom : ℕ} (hz : maxNativeZoom ≤ maxSupportedZoom) {plan : TileGenerationPlan}
    (hp : planTileGenerationForBounds P generation minZoom maxNativeZoom = .ok plan) :
    (∀ coord ∈ plan.coords, CoordOverlaps P coord source) ↔
      ∀ z, minZoom ≤ z → z ≤ maxNativeZoom →
        ¬ EastEdgeOnColumn source configured z ∧ ¬ SouthEdgeOnRow P source configured z := by
  have hb := validateBounds_of_clip hs hg
  obtain ⟨⟨_, _⟩, ⟨_, _⟩, ⟨hs0, hs1⟩, ⟨hn0, hn1⟩, hwe, hsn⟩ := (validateBounds_eq_ok_iff _).mp hb
  have hvalid (z x y : ℕ) (hz : z ≤ maxSupportedZoom)
      (hmem : (⟨z, x, y⟩ : TileCoord) ∈ rangeCoords (boundsRange P generation z)) :
      validateTileCoord ⟨z, x, y⟩ = .ok () := by
    obtain ⟨-, ⟨-, hx⟩, -, hy⟩ := mem_rangeCoords.mp hmem
    exact (validateTileCoord_eq_ok_iff _).mpr
      ⟨hz, hx.trans_lt (Grid.cell_lt (by positivity)), hy.trans_lt (Grid.cell_lt (by positivity))⟩
  have hx0 (z : ℕ) : (boundsRange P generation z).minX ≤ (boundsRange P generation z).maxX :=
    Grid.cell_mono (by linarith) _
  have hy0 (z : ℕ) : (boundsRange P generation z).minY ≤ (boundsRange P generation z).maxY :=
    Grid.cell_mono (P.row_strictAntiOn (mem_domain_of_limit hs0 hs1)
      (mem_domain_of_limit hn0 hn1) hsn).le _
  simp only [← columns_overlap_iff P hs hg, ← rows_overlap_iff P hs hg]
  constructor
  · intro hall z hmin hmax
    -- each direction is read off along one edge of the range
    refine ⟨fun x hx hx' => ?_, fun y hy hy' => ?_⟩
    · have hrange : (⟨z, x, (boundsRange P generation z).minY⟩ : TileCoord) ∈
          rangeCoords (boundsRange P generation z) :=
        mem_rangeCoords.mpr ⟨rfl, ⟨hx, hx'⟩, le_rfl, hy0 z⟩
      have hmem := (mem_coords P hb hz hp _).mpr ⟨⟨hmin, hmax⟩, hrange⟩
      exact ((coordOverlaps_iff P hs (hvalid _ _ _ (hmax.trans hz) hrange)).mp (hall _ hmem)).1
    · have hrange : (⟨z, (boundsRange P generation z).minX, y⟩ : TileCoord) ∈
          rangeCoords (boundsRange P generation z) :=
        mem_rangeCoords.mpr ⟨rfl, ⟨le_rfl, hx0 z⟩, hy, hy'⟩
      have hmem := (mem_coords P hb hz hp _).mpr ⟨⟨hmin, hmax⟩, hrange⟩
      exact ((coordOverlaps_iff P hs (hvalid _ _ _ (hmax.trans hz) hrange)).mp (hall _ hmem)).2
  · intro hall coord hmem
    obtain ⟨⟨hmin, hmax⟩, hrange⟩ := (mem_coords P hb hz hp coord).mp hmem
    obtain ⟨-, ⟨hx, hx'⟩, hy, hy'⟩ := mem_rangeCoords.mp hrange
    obtain ⟨hcols, hrows⟩ := hall coord.z hmin hmax
    exact (coordOverlaps_iff P hs (hvalid _ _ _ (hmax.trans hz) hrange)).mpr
      ⟨hcols _ hx hx', hrows _ hy hy'⟩

/-- The job list is complete or missing: it exists exactly when every planned coordinate
overlaps the source, and then names the plan's coordinates in order. -/
theorem tileRenderJobs_isOk_iff (hs : SourceBox source) (rasterShape : RasterShape)
    (plan : TileGenerationPlan) :
    (∃ jobs, tileRenderJobs P source rasterShape plan = .ok jobs ∧
        jobs.map (fun job => job.2.1) = plan.coords) ↔
      ∀ coord ∈ plan.coords, CoordOverlaps P coord source := by
  simp only [← rasterWindowForTile_isOk_iff P hs _ rasterShape]
  rw [← pushLoop_isOk_iff (fun coord => rasterWindowForTile P coord source rasterShape)
    (fun index coord window => (index, coord, window)) []]
  constructor
  · rintro ⟨jobs, hjobs, -⟩
    exact ⟨jobs, hjobs⟩
  · rintro ⟨jobs, hjobs⟩
    exact ⟨jobs, hjobs, by simpa using pushLoop_map (fun _ _ _ => rfl) hjobs⟩

/-- Tile generation never fails on a coordinate it planned itself exactly when the east and
south edges of the generation bounds are not edges of the source on a tile boundary. -/
theorem tileGeneration_ok_iff {tileH tileV : ℤ} (hsource : viirsTileBounds tileH tileV = .ok source)
    (hg : clipBounds source configured.toGeographic = some generation) (zooms : TileZooms)
    {plan : TileGenerationPlan}
    (hp : planTileGenerationForBounds P generation zooms.minZoom zooms.maxNativeZoom = .ok plan)
    (rasterShape : RasterShape) :
    ((∀ coord ∈ plan.coords, CoordOverlaps P coord source) ∧
        ∃ jobs, tileRenderJobs P source rasterShape plan = .ok jobs ∧
          jobs.map (fun job => job.2.1) = plan.coords) ↔
      ∀ z, zooms.minZoom ≤ z → z ≤ zooms.maxNativeZoom →
        ¬ EastEdgeOnColumn source configured z ∧ ¬ SouthEdgeOnRow P source configured z := by
  have hs := viirsTileBounds_sourceBox hsource
  rw [tileRenderJobs_isOk_iff P hs, and_self, plan_overlaps_iff P hs hg zooms.native_le hp]

/-! ## Two source tiles at zoom 3 -/

section Samples

/-- The row of the 50th parallel is 2, the row of the 40th is 3. -/
theorem boundsRange_mercator (west east : ℝ) :
    boundsRange mercator ⟨west, 40, east, 50⟩ 3 =
      ⟨3, Grid.cell ((west + 180) / 360) 8, Grid.cell ((east + 180) / 360) 8, 2, 3⟩ := by
  obtain ⟨hforty, hforty'⟩ := mercatorRow_forty_mem
  obtain ⟨hfifty, hfifty'⟩ := mercatorRow_fifty_mem
  have hnorth : Grid.cell (mercatorRow 50) 8 = 2 := Grid.cell_eq (by decide)
    (by norm_num; linarith) (by norm_num; linarith)
  have hsouth : Grid.cell (mercatorRow 40) 8 = 3 := Grid.cell_eq (by decide)
    (by norm_num; linarith) (by norm_num; linarith)
  rw [boundsRange]
  exact congrArg₂ (fun minY maxY => (⟨3, _, _, minY, maxY⟩ : TileRange)) hnorth hsouth

theorem coordOverlaps_mercator_iff {west east : ℝ} (hs : SourceBox ⟨west, 40, east, 50⟩) {x y : ℕ}
    (hx : x < 8) (hy : y = 2 ∨ y = 3) :
    CoordOverlaps mercator ⟨3, x, y⟩ ⟨west, 40, east, 50⟩ ↔
      Grid.Overlaps ((west + 180) / 360) ((east + 180) / 360) x 8 := by
  obtain ⟨hforty, hforty'⟩ := mercatorRow_forty_mem
  obtain ⟨hfifty, hfifty'⟩ := mercatorRow_fifty_mem
  have hv : validateTileCoord ⟨3, x, y⟩ = .ok () :=
    (validateTileCoord_eq_ok_iff _).mpr ⟨(by decide : 3 ≤ 22), hx, show y < 8 by omega⟩
  rw [coordOverlaps_iff mercator hs hv]
  refine and_iff_left ?_
  change (y : ℝ) / (2 ^ 3 : ℕ) < mercatorRow 40 ∧ mercatorRow 50 < ((y : ℝ) + 1) / (2 ^ 3 : ℕ)
  rcases hy with rfl | rfl <;> constructor <;> norm_num <;> linarith

theorem not_southEdgeOnRow_mercator (west east : ℝ) (configured : TileBounds ℝ) :
    ¬ SouthEdgeOnRow mercator ⟨west, 40, east, 50⟩ configured 3 := by
  rintro ⟨-, k, hk, hrow⟩
  obtain ⟨hforty, hforty'⟩ := mercatorRow_forty_mem
  obtain ⟨h0, hlt, h1⟩ := cell_edges (K := ℝ) hk
  rw [tileYToLatitude, mercator.latitude_eq_iff h0 (hlt.le.trans h1) (by norm_num)] at hrow
  change _ = mercatorRow 40 at hrow
  rw [← hrow] at hforty hforty'
  norm_num [div_lt_div_iff₀] at hforty hforty'
  have hlow : 3 < k := by
    rify
    linarith
  have hhigh : k < 4 := by
    rify
    linarith
  omega

theorem viirsTileBounds_h07v04 :
    viirsTileBounds 7 4 = .ok (⟨-110, 40, -100, 50⟩ : GeographicBounds ℝ) := by
  rw [viirsTileBounds_eq_ok_iff]
  norm_num [webMercatorLatitudeLimit]

theorem planTileGenerationForBounds_h07v04 :
    planTileGenerationForBounds mercator ⟨-110, 40, -100, 50⟩ 3 3 =
      .ok ⟨[⟨3, 1, 1, 2, 3⟩], 2⟩ := by
  have hb : validateBounds (⟨-110, 40, -100, 50⟩ : GeographicBounds ℝ) = .ok () := by
    rw [validateBounds_eq_ok_iff]
    norm_num [webMercatorLatitudeLimit]
  have hwest : Grid.cell ((-110 + 180 : ℝ) / 360) 8 = 1 := Grid.cell_eq (by decide)
    (by norm_num) (by norm_num)
  have heast : Grid.cell ((-100 + 180 : ℝ) / 360) 8 = 1 := Grid.cell_eq (by decide)
    (by norm_num) (by norm_num)
  have hrange := tileRangeForBounds_ok mercator hb (show 3 ≤ maxSupportedZoom by decide)
  rw [boundsRange_mercator, hwest, heast] at hrange
  rw [planTileGenerationForBounds, show inclusive 3 3 = [3] from rfl, planRanges, hrange]
  rfl

/-- Tile h07v04 has no edge on a column or row of zoom 3. -/
theorem tileGeneration_ok_h07v04 :
    (∀ coord ∈ [(⟨3, 1, 2⟩ : TileCoord), ⟨3, 1, 3⟩],
        CoordOverlaps mercator coord ⟨-110, 40, -100, 50⟩) ∧
      ∃ jobs, tileRenderJobs mercator ⟨-110, 40, -100, 50⟩ ⟨2400, 2400⟩
        ⟨[⟨3, 1, 1, 2, 3⟩], 2⟩ = .ok jobs ∧
          jobs.map (fun job => job.2.1) = [⟨3, 1, 2⟩, ⟨3, 1, 3⟩] := by
  have hg : clipBounds ⟨-110, 40, -100, 50⟩ (defaultTileBounds : TileBounds ℝ).toGeographic =
      some ⟨-110, 40, -100, 50⟩ := by
    rw [clipBounds_eq_some_iff]
    norm_num [defaultTileBounds, TileBounds.toGeographic]
  apply (tileGeneration_ok_iff mercator viirsTileBounds_h07v04 hg
    ⟨3, 3, 3, le_rfl, le_rfl, by decide⟩ planTileGenerationForBounds_h07v04 ⟨2400, 2400⟩).mpr
  intro z hmin hmax
  obtain rfl : z = 3 := le_antisymm hmax hmin
  refine ⟨?_, not_southEdgeOnRow_mercator _ _ _⟩
  rintro ⟨-, k, -, hk⟩
  have hcolumn : (9 * k : ℝ) = 16 := by
    norm_num [tileXToLongitude] at hk
    linarith
  have : 9 * k = 16 := by exact_mod_cast hcolumn
  omega

/-- Columns 1 and 2 of zoom 3 come first, from north to south. -/
theorem firstCoords_h08v04 {plan : TileGenerationPlan}
    (hb : validateBounds (⟨-100, 40, -90, 50⟩ : GeographicBounds ℝ) = .ok ())
    (hp : planTileGenerationForBounds mercator ⟨-100, 40, -90, 50⟩ 3 10 = .ok plan) :
    ∃ rest, plan.coords = ⟨3, 1, 2⟩ :: ⟨3, 1, 3⟩ :: ⟨3, 2, 2⟩ :: rest := by
  have hwest : Grid.cell ((-100 + 180 : ℝ) / 360) 8 = 1 := Grid.cell_eq (by decide)
    (by norm_num) (by norm_num)
  have heast : Grid.cell ((-90 + 180 : ℝ) / 360) 8 = 2 := Grid.cell_eq (by decide)
    (by norm_num) (by norm_num)
  rw [TileGenerationPlan.coords, planTileGenerationForBounds_ranges mercator hb (by decide) hp,
    show inclusive 3 10 = 3 :: inclusive 4 10 from rfl, List.map_cons, List.flatMap_cons,
    boundsRange_mercator, hwest, heast]
  exact ⟨_, rfl⟩

/-- The east edge of tile h08v04, 90 degrees west, is where column 2 of zoom 3 starts: the
column is planned and has no window. -/
theorem tileGeneration_fails_h08v04 :
    viirsTileBounds 8 4 = .ok (⟨-100, 40, -90, 50⟩ : GeographicBounds ℝ) ∧
      clipBounds ⟨-100, 40, -90, 50⟩ (defaultTileBounds : TileBounds ℝ).toGeographic =
        some ⟨-100, 40, -90, 50⟩ ∧
      ∃ plan, planTileGenerationForBounds mercator ⟨-100, 40, -90, 50⟩
          defaultTileZooms.minZoom defaultTileZooms.maxNativeZoom = .ok plan ∧
        ⟨3, 2, 2⟩ ∈ plan.coords ∧
        ¬ CoordOverlaps mercator ⟨3, 2, 2⟩ ⟨-100, 40, -90, 50⟩ ∧
        tileRenderJobs mercator ⟨-100, 40, -90, 50⟩ ⟨2400, 2400⟩ plan =
          .error (.tileOutsideSourceBounds ⟨3, 2, 2⟩ ⟨-100, 40, -90, 50⟩) := by
  have hsource : viirsTileBounds 8 4 = .ok (⟨-100, 40, -90, 50⟩ : GeographicBounds ℝ) := by
    rw [viirsTileBounds_eq_ok_iff]
    norm_num [webMercatorLatitudeLimit]
  have hg : clipBounds ⟨-100, 40, -90, 50⟩ (defaultTileBounds : TileBounds ℝ).toGeographic =
      some ⟨-100, 40, -90, 50⟩ := by
    rw [clipBounds_eq_some_iff]
    norm_num [defaultTileBounds, TileBounds.toGeographic]
  have hs := viirsTileBounds_sourceBox hsource
  have hb := validateBounds_of_clip hs hg
  obtain ⟨plan, hp⟩ : ∃ plan,
      planTileGenerationForBounds mercator ⟨-100, 40, -90, 50⟩ 3 10 = .ok plan :=
    planTileGenerationForBounds_ok mercator hb (by decide) (by decide)
  obtain ⟨rest, hcoords⟩ := firstCoords_h08v04 hb hp
  have hfirst (y : ℕ) (hy : y = 2 ∨ y = 3) :=
    (rasterWindowForTile_isOk_iff mercator hs ⟨3, 1, y⟩ ⟨2400, 2400⟩).mpr
      ((coordOverlaps_mercator_iff hs (by decide) hy).mpr ⟨by norm_num, by norm_num⟩)
  have hout : ¬ CoordOverlaps mercator ⟨3, 2, 2⟩ ⟨-100, 40, -90, 50⟩ := by
    rw [coordOverlaps_mercator_iff hs (by decide) (.inl rfl)]
    norm_num [Grid.Overlaps]
  obtain ⟨window, hwindow⟩ := hfirst 2 (.inl rfl)
  obtain ⟨window', hwindow'⟩ := hfirst 3 (.inr rfl)
  refine ⟨hsource, hg, plan, hp, ?_, hout, ?_⟩
  · rw [hcoords]
    exact List.mem_cons_of_mem _ (List.mem_cons_of_mem _ List.mem_cons_self)
  · rw [tileRenderJobs, hcoords, pushLoop, hwindow, ok_bind, pushLoop, hwindow', ok_bind, pushLoop,
      rasterWindowForTile_error mercator hs (by decide) hout]
    rfl

end Samples

end LumenHorizon.Processing
