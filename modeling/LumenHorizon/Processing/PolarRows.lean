import LumenHorizon.Processing.RasterWindows

/-! # Which rows of a granule a window reads

The bounds of a VIIRS tile end at the Web Mercator limit, its raster goes on to the pole. A window
is a fraction of the bounds, so in the two polar tile rows it starts or ends too close to the
pole.
-/

namespace LumenHorizon.Processing
open Foundation SlippyTiles

variable {K : Type} [Field K] [LinearOrder K]

/-- The north edge of row `r` of `height` equal rows over the ten degrees of a tile row. -/
def granuleRowEdge (tileV : ℤ) (height r : ℕ) : K :=
  ((90 - tileV * 10 : ℤ) : K) - (r : K) / height * (10 : ℤ)

def RowMeets (tileV : ℤ) (height : ℕ) (extent : GeographicBounds K) (r : ℕ) : Prop :=
  granuleRowEdge tileV height (r + 1) ≤ extent.north ∧
    extent.south ≤ granuleRowEdge tileV height r

/-- Every row of the window meets the extent, or is next to a row that does. -/
def ReadsRightRows (tileV : ℤ) (height : ℕ) (window : RasterWindow)
    (extent : GeographicBounds K) : Prop :=
  ∀ r, window.yOffset ≤ r → r < window.yOffset + window.height →
    ∃ r' < height, (r ≤ r' + 1 ∧ r' ≤ r + 1) ∧ RowMeets tileV height extent r'

/-- How many rows south of the tile row's north edge a latitude is. -/
def rowPosition (tileV : ℤ) (height : ℕ) (latitude : K) : K :=
  (((90 - tileV * 10 : ℤ) : K) - latitude) / (10 : ℤ) * height

/-- In a polar tile row the clamped bounds move the edge of the extent that is nearer to the pole by
two rows at most. -/
def RowsAligned [FloorRing K] (tileV : ℤ) (height : ℕ) (extent : GeographicBounds K) : Prop :=
  (tileV = 0 → ((90 : ℤ) - extent.north) / (10 : ℤ) * (height : K) ≤
    ((⌊(webMercatorLatitudeLimit - extent.north) / (webMercatorLatitudeLimit - (80 : ℤ)) *
      (height : K)⌋₊ + 2 : ℕ) : K)) ∧
  (tileV = 17 →
    ⌈((-80 : ℤ) - extent.south) / (webMercatorLatitudeLimit - (80 : ℤ)) * (height : K)⌉₊ ≤
      ⌊((-80 : ℤ) - extent.south) / (10 : ℤ) * (height : K)⌋₊ + 2)

omit [LinearOrder K] in
theorem granuleRowEdge_eq (tileV : ℤ) (height r : ℕ) :
    granuleRowEdge tileV height r = (90 - tileV * 10 - (r : K) / height * 10 : K) := by
  simp [granuleRowEdge]

omit [LinearOrder K] in
theorem rowPosition_eq (tileV : ℤ) (height : ℕ) (latitude : K) :
    rowPosition tileV height latitude = (90 - tileV * 10 - latitude) / 10 * height := by
  simp [rowPosition]

theorem rowsAligned_iff [FloorRing K] {tileV : ℤ} {height : ℕ} {extent : GeographicBounds K} :
    RowsAligned tileV height extent ↔
      (tileV = 0 → (90 - extent.north) / 10 * (height : K) ≤
        ⌊(webMercatorLatitudeLimit - extent.north) / (webMercatorLatitudeLimit - 80) *
          (height : K)⌋₊ + 2) ∧
      (tileV = 17 → ⌈(-80 - extent.south) / (webMercatorLatitudeLimit - 80) * (height : K)⌉₊ ≤
        ⌊(-80 - extent.south) / 10 * (height : K)⌋₊ + 2) := by
  simp [RowsAligned]

variable [IsStrictOrderedRing K]

theorem rowMeets_iff {tileV : ℤ} {height r : ℕ} (hheight : 1 ≤ height)
    {extent : GeographicBounds K} :
    RowMeets tileV height extent r ↔
      rowPosition tileV height extent.north ≤ (r : K) + 1 ∧
        (r : K) ≤ rowPosition tileV height extent.south := by
  have hpos : (0 : K) < height := Nat.cast_pos.mpr (by omega)
  have hsouth : granuleRowEdge tileV height (r + 1) ≤ extent.north ↔
      rowPosition tileV height extent.north ≤ (r : K) + 1 := by
    rw [granuleRowEdge_eq, rowPosition_eq, ← le_div_iff₀ hpos]
    push_cast
    constructor <;> intro h <;> linarith
  have hnorth : extent.south ≤ granuleRowEdge tileV height r ↔
      (r : K) ≤ rowPosition tileV height extent.south := by
    rw [granuleRowEdge_eq, rowPosition_eq, ← div_le_iff₀ hpos]
    constructor <;> intro h <;> linarith
  rw [RowMeets, hsouth, hnorth]

variable [FloorRing K]

/-- The rows from `start` to `stop` are near rows that meet a stretch exactly if the first and the
last one are. -/
theorem near_rows_iff {u w : K} {start stop height : ℕ} (hu : 0 ≤ u) (huw : u < w)
    (hw : w ≤ height) (hlt : start < stop) (hstop : stop ≤ height) :
    (∀ r, start ≤ r → r < stop →
      ∃ r' < height, (r ≤ r' + 1 ∧ r' ≤ r + 1) ∧ u ≤ (r' : K) + 1 ∧ (r' : K) ≤ w) ↔
      u ≤ (start : K) + 2 ∧ stop ≤ ⌊w⌋₊ + 2 := by
  constructor
  · intro hnear
    constructor
    · obtain ⟨r', -, ⟨-, hr'⟩, hle, -⟩ := hnear start le_rfl hlt
      have hcast : (r' : K) ≤ start + 1 := by exact_mod_cast hr'
      linarith
    · obtain ⟨r', -, ⟨hr', -⟩, -, hle⟩ := hnear (stop - 1) (by omega) (by omega)
      have hfloor := Nat.le_floor hle
      omega
  · rintro ⟨hstart, hend⟩ r hr hr'
    have hfirst : ⌈u⌉₊ ≤ start + 2 := Nat.ceil_le.mpr (by push_cast; exact hstart)
    have hheight : ⌈u⌉₊ ≤ height := Nat.ceil_le.mpr (huw.le.trans hw)
    have hordered : ⌈u⌉₊ ≤ ⌊w⌋₊ + 1 :=
      (Nat.ceil_le_ceil huw.le).trans (Nat.ceil_le_floor_add_one w)
    -- the row that meets the stretch and is nearest to this one
    refine ⟨max (⌈u⌉₊ - 1) (min r (min ⌊w⌋₊ (height - 1))), by omega, ⟨by omega, by omega⟩, ?_, ?_⟩
    · have hge : ⌈u⌉₊ ≤ max (⌈u⌉₊ - 1) (min r (min ⌊w⌋₊ (height - 1))) + 1 := by omega
      exact_mod_cast Nat.ceil_le.mp hge
    · have hle : max (⌈u⌉₊ - 1) (min r (min ⌊w⌋₊ (height - 1))) ≤ ⌊w⌋₊ := by omega
      exact (Nat.le_floor_iff (hu.trans huw.le)).mp hle

section Tile

variable {tileH tileV : ℤ} {source clipped : GeographicBounds K} {rasterShape : RasterShape}
  (hsource : viirsTileBounds tileH tileV = .ok source)
include hsource

omit [IsStrictOrderedRing K] [FloorRing K] in
theorem viirsTileBounds_rows :
    90 - (tileV : K) * 10 - 10 ≤ source.south ∧ source.north ≤ 90 - (tileV : K) * 10 := by
  obtain ⟨-, -, rfl⟩ := (viirsTileBounds_eq_ok_iff _ _ _).mp hsource
  exact ⟨le_max_left _ _, min_le_left _ _⟩

/-- The window reads the right rows exactly if its first and its last row are near the extent. -/
theorem readsRightRows_iff_ends (hextent : ExtentIn clipped source)
    (hheight : 1 ≤ rasterShape.height) :
    ReadsRightRows tileV rasterShape.height (clippedWindow source clipped rasterShape) clipped ↔
      rowPosition tileV rasterShape.height clipped.north ≤
          (⌊rowFraction source clipped.north * (rasterShape.height : K)⌋₊ : K) + 2 ∧
        ⌈rowFraction source clipped.south * (rasterShape.height : K)⌉₊ ≤
          ⌊rowPosition tileV rasterShape.height clipped.south⌋₊ + 2 := by
  have hpos : (0 : K) < rasterShape.height := Nat.cast_pos.mpr (by omega)
  obtain ⟨hsouth, hnorth⟩ := viirsTileBounds_rows hsource
  have hrows := hextent.rows hheight
  have hu : 0 ≤ rowPosition tileV rasterShape.height clipped.north := by
    rw [rowPosition_eq]
    refine mul_nonneg (div_nonneg ?_ (by norm_num)) hpos.le
    linarith [hextent.north_le]
  have huw : rowPosition tileV rasterShape.height clipped.north <
      rowPosition tileV rasterShape.height clipped.south := by
    rw [rowPosition_eq, rowPosition_eq]
    refine mul_lt_mul_of_pos_right ?_ hpos
    linarith [hextent.south_lt_north]
  have hw : rowPosition tileV rasterShape.height clipped.south ≤ rasterShape.height := by
    rw [rowPosition_eq]
    refine mul_le_of_le_one_left hpos.le ?_
    linarith [hextent.south_le]
  have hpositive := hrows.size_pos
  rw [← hrows.offset_eq, ← hrows.stop_eq,
    ← near_rows_iff hu huw hw (by omega) hrows.stop_le]
  simp only [ReadsRightRows, rowMeets_iff hheight]

/-- Away from the poles a position in the window is a position in the granule. -/
theorem rowFraction_of_middle (h1 : 1 ≤ tileV) (h16 : tileV ≤ 16) (latitude : K) :
    rowFraction source latitude * (rasterShape.height : K) =
      rowPosition tileV rasterShape.height latitude := by
  have hlo : (1 : K) ≤ tileV := by exact_mod_cast h1
  have hhi : (tileV : K) ≤ 16 := by exact_mod_cast h16
  have hlimit := (webMercatorLatitudeLimit_bounds (K := K)).1
  obtain ⟨-, -, rfl⟩ := (viirsTileBounds_eq_ok_iff _ _ _).mp hsource
  have hnorth : min (90 - (tileV : K) * 10) webMercatorLatitudeLimit = 90 - (tileV : K) * 10 :=
    min_eq_left (by linarith)
  have hsouth : max (90 - (tileV : K) * 10 - 10) (-webMercatorLatitudeLimit) =
      90 - (tileV : K) * 10 - 10 := max_eq_left (by linarith)
  rw [rowFraction, rowPosition_eq]
  simp only [hnorth, hsouth, sub_sub_cancel]

end Tile

variable {source clipped : GeographicBounds K} {rasterShape : RasterShape} {tileH : ℤ}

omit [FloorRing K] in
theorem rowFraction_of_north (hsource : viirsTileBounds tileH 0 = .ok source) (latitude : K) :
    rowFraction source latitude =
        (webMercatorLatitudeLimit - latitude) / (webMercatorLatitudeLimit - 80) ∧
      source.south = 80 := by
  obtain ⟨hlo, hhi⟩ := webMercatorLatitudeLimit_bounds (K := K)
  obtain ⟨-, -, rfl⟩ := (viirsTileBounds_eq_ok_iff _ _ _).mp hsource
  have hnorth : min (90 - ((0 : ℤ) : K) * 10) webMercatorLatitudeLimit =
      webMercatorLatitudeLimit := min_eq_right (by push_cast; linarith)
  have hsouth : max (90 - ((0 : ℤ) : K) * 10 - 10) (-webMercatorLatitudeLimit) = 80 := by
    rw [max_eq_left (by push_cast; linarith)]
    norm_num
  rw [rowFraction]
  simp only [hnorth, hsouth, and_self]

omit [FloorRing K] in
theorem rowFraction_of_south (hsource : viirsTileBounds tileH 17 = .ok source) (latitude : K) :
    rowFraction source latitude = (-80 - latitude) / (webMercatorLatitudeLimit - 80) ∧
      source.north = -80 := by
  obtain ⟨hlo, hhi⟩ := webMercatorLatitudeLimit_bounds (K := K)
  obtain ⟨-, -, rfl⟩ := (viirsTileBounds_eq_ok_iff _ _ _).mp hsource
  have hnorth : min (90 - ((17 : ℤ) : K) * 10) webMercatorLatitudeLimit = -80 := by
    rw [min_eq_left (by push_cast; linarith)]
    norm_num
  have hsouth : max (90 - ((17 : ℤ) : K) * 10 - 10) (-webMercatorLatitudeLimit) =
      -webMercatorLatitudeLimit := max_eq_right (by push_cast; linarith)
  rw [rowFraction]
  simp only [hnorth, hsouth, and_true]
  ring

/-- A window reads the right rows exactly if its rows are aligned with those of the granule, which
they are outside the polar tile rows. -/
theorem readsRightRows_iff {tileV : ℤ} (hsource : viirsTileBounds tileH tileV = .ok source)
    (hextent : ExtentIn clipped source) (hheight : 1 ≤ rasterShape.height) :
    ReadsRightRows tileV rasterShape.height (clippedWindow source clipped rasterShape) clipped ↔
      RowsAligned tileV rasterShape.height clipped := by
  have hpos : (0 : K) < rasterShape.height := Nat.cast_pos.mpr (by omega)
  obtain ⟨hlo, hhi⟩ := webMercatorLatitudeLimit_bounds (K := K)
  have hspan : (0 : K) < webMercatorLatitudeLimit - 80 := sub_pos.mpr hlo
  have hrange := ((viirsTileBounds_eq_ok_iff _ _ _).mp hsource).2.1
  rw [readsRightRows_iff_ends hsource hextent hheight, rowsAligned_iff]
  by_cases h0 : tileV = 0
  · subst h0
    obtain ⟨hfraction, hsouth⟩ := rowFraction_of_north hsource clipped.north
    have hend : ⌈rowFraction source clipped.south * (rasterShape.height : K)⌉₊ ≤
        ⌊rowPosition 0 rasterShape.height clipped.south⌋₊ + 2 := by
      have hle : rowFraction source clipped.south * (rasterShape.height : K) ≤
          rowPosition 0 rasterShape.height clipped.south := by
        rw [rowPosition_eq]
        refine mul_le_mul_of_nonneg_right ?_ hpos.le
        rw [(rowFraction_of_north hsource clipped.south).1, div_le_div_iff₀ hspan (by norm_num)]
        have hclipped := hsouth ▸ hextent.south_le
        push_cast
        nlinarith
      exact ((Nat.ceil_le_ceil hle).trans (Nat.ceil_le_floor_add_one _)).trans (Nat.le_succ _)
    rw [hfraction, rowPosition_eq]
    simp [hend]
  · by_cases h17 : tileV = 17
    · subst h17
      obtain ⟨hfraction, hnorth⟩ := rowFraction_of_south hsource clipped.south
      have hstart : rowPosition 17 rasterShape.height clipped.north ≤
          (⌊rowFraction source clipped.north * (rasterShape.height : K)⌋₊ : K) + 2 := by
        have hle : rowPosition 17 rasterShape.height clipped.north ≤
            rowFraction source clipped.north * (rasterShape.height : K) := by
          rw [rowPosition_eq]
          refine mul_le_mul_of_nonneg_right ?_ hpos.le
          rw [(rowFraction_of_south hsource clipped.north).1, div_le_div_iff₀ (by norm_num) hspan]
          have hclipped := hnorth ▸ hextent.north_le
          push_cast
          nlinarith
        have hfloor := Nat.lt_floor_add_one (rowFraction source clipped.north *
          (rasterShape.height : K))
        linarith
      have hposition : rowPosition 17 rasterShape.height clipped.south =
          (-80 - clipped.south) / 10 * (rasterShape.height : K) := by
        rw [rowPosition_eq]
        push_cast
        ring
      rw [hfraction, hposition]
      simp [hstart]
    · have hmiddle (latitude : K) : rowFraction source latitude * (rasterShape.height : K) =
          rowPosition tileV rasterShape.height latitude :=
        rowFraction_of_middle hsource (by omega) (by omega) latitude
      rw [hmiddle, hmiddle]
      refine iff_of_true ⟨?_, ?_⟩ ⟨fun h => absurd h h0, fun h => absurd h h17⟩
      · have hfloor := Nat.lt_floor_add_one (rowPosition tileV rasterShape.height clipped.north)
        linarith
      · exact (Nat.ceil_le_floor_add_one _).trans (Nat.le_succ _)

/-- The window of a coordinate that overlaps a VIIRS tile reads the right rows of its granule
exactly if its rows are aligned with those of the granule. -/
theorem windowRows_iff (P : LatitudeProjection K) {tileV : ℤ} {tile : GeographicBounds K}
    {coord : TileCoord} (hsource : viirsTileBounds tileH tileV = .ok source)
    (htile : tileBounds P coord = .ok tile) (hoverlap : SharesInterior tile source)
    (hheight : 1 ≤ rasterShape.height) :
    ∃ clipped window, clipBounds tile source = some clipped ∧
      rasterWindowForTile P coord source rasterShape = .ok window ∧
      (ReadsRightRows tileV rasterShape.height window clipped ↔
        RowsAligned tileV rasterShape.height clipped) := by
  obtain ⟨clipped, hclipped⟩ := hoverlap.exists_clipped
  exact ⟨clipped, _, hclipped, (rasterWindowForTile_eq_ok_iff P coord source rasterShape _).mpr
    ⟨tile, clipped, htile, hclipped, rfl⟩,
    readsRightRows_iff hsource (extentIn_of_clipBounds hclipped) hheight⟩

/-- The window of a tile of zoom 3 over tile h07v04. -/
theorem windowRows_h07v04 : ReadsRightRows 4 2400 ⟨0, 0, 2400, 1800⟩
    (⟨-110, 85 / 2, -100, 50⟩ : GeographicBounds ℚ) := by
  have hsource : viirsTileBounds 7 4 = .ok (⟨-110, 40, -100, 50⟩ : GeographicBounds ℚ) := by
    decide +kernel
  have htile : tileBounds linearProjection ⟨3, 1, 1⟩ = .ok ⟨-135, 85 / 2, -90, 255 / 4⟩ := by
    decide +kernel
  have hoverlap : SharesInterior (⟨-135, 85 / 2, -90, 255 / 4⟩ : GeographicBounds ℚ)
      ⟨-110, 40, -100, 50⟩ := ⟨-105, 45, by constructor <;> norm_num, by constructor <;> norm_num⟩
  obtain ⟨clipped, window, hclipped, hwindow, hiff⟩ := windowRows_iff linearProjection hsource htile
    hoverlap (show 1 ≤ (⟨2400, 2400⟩ : RasterShape).height by decide)
  have hclipped' : clipBounds (⟨-135, 85 / 2, -90, 255 / 4⟩ : GeographicBounds ℚ)
      ⟨-110, 40, -100, 50⟩ = some ⟨-110, 85 / 2, -100, 50⟩ := by decide +kernel
  have hwindow' : rasterWindowForTile linearProjection ⟨3, 1, 1⟩
      (⟨-110, 40, -100, 50⟩ : GeographicBounds ℚ) ⟨2400, 2400⟩ = .ok ⟨0, 0, 2400, 1800⟩ := by
    decide +kernel
  cases hclipped.symm.trans hclipped'
  cases hwindow.symm.trans hwindow'
  exact hiff.mpr ⟨nofun, nofun⟩

/-- The tile of zoom 0 over the northernmost tiles: its window of 2400 rows starts hundreds of rows
too far north. -/
theorem not_readsRightRows_h10v00 :
    ∃ source tile clipped window, viirsTileBounds (K := ℝ) 10 0 = .ok source ∧
      tileBounds mercator ⟨0, 0, 0⟩ = .ok tile ∧ SharesInterior tile source ∧
      clipBounds tile source = some clipped ∧
      rasterWindowForTile mercator ⟨0, 0, 0⟩ source ⟨2400, 2400⟩ = .ok window ∧
      ¬ ReadsRightRows 0 2400 window clipped := by
  have hnorth : (82 : ℝ) < mercator.latitude 0 := eightyTwo_lt_mercatorLatitude
  have hsouth : mercator.latitude 1 < -80 := mercator.south_edge
  have hlimit : (85 : ℝ) < webMercatorLatitudeLimit ∧
      (webMercatorLatitudeLimit : ℝ) < 851 / 10 := by
    norm_num [webMercatorLatitudeLimit]
  have hsource : viirsTileBounds (K := ℝ) 10 0 = .ok ⟨-80, 80, -70, webMercatorLatitudeLimit⟩ := by
    rw [viirsTileBounds_eq_ok_iff, GeographicBounds.mk.injEq]
    norm_num [webMercatorLatitudeLimit]
  have htile : tileBounds mercator ⟨0, 0, 0⟩ =
      .ok ⟨-180, mercator.latitude 1, 180, mercator.latitude 0⟩ := by
    rw [tileBounds_ok mercator rfl]
    norm_num [tileXToLongitude, tileYToLatitude]
  have hoverlap : SharesInterior ⟨-180, mercator.latitude 1, 180, mercator.latitude 0⟩
      ⟨-80, 80, -70, webMercatorLatitudeLimit⟩ := by
    refine ⟨-75, 81, ⟨by constructor <;> norm_num, ?_, ?_⟩, by constructor <;> norm_num, ?_, ?_⟩
    all_goals simp only; linarith
  obtain ⟨clipped, hclipped⟩ := hoverlap.exists_clipped
  refine ⟨_, _, clipped, _, hsource, htile, hoverlap, hclipped,
    (rasterWindowForTile_eq_ok_iff mercator _ _ ⟨2400, 2400⟩ _).mpr
      ⟨_, clipped, htile, hclipped, rfl⟩, ?_⟩
  intro hreads
  have hrows := (rowsAligned_iff.mp ((readsRightRows_iff hsource
    (extentIn_of_clipBounds hclipped) (by decide)).mp hreads)).1 rfl
  obtain ⟨hle, hge⟩ : clipped.north ≤ webMercatorLatitudeLimit ∧ 82 ≤ clipped.north := by
    rw [((clipBounds_eq_some_iff _ _ _).mp hclipped).1]
    exact ⟨min_le_right _ _, le_min hnorth.le (by linarith)⟩
  have hfloor := Nat.floor_le (show 0 ≤ (webMercatorLatitudeLimit - clipped.north) /
    (webMercatorLatitudeLimit - 80) * ((2400 : ℕ) : ℝ) by
      refine mul_nonneg (div_nonneg ?_ ?_) (Nat.cast_nonneg _) <;> linarith)
  have hquotient : (webMercatorLatitudeLimit - clipped.north) / (webMercatorLatitudeLimit - 80) ≤
      (webMercatorLatitudeLimit - clipped.north) / 5 :=
    div_le_div_of_nonneg_left (by linarith) (by norm_num) (by linarith)
  push_cast at hrows hfloor
  linarith

end LumenHorizon.Processing
