import LumenHorizon.Processing.GeoRegistration

/-! # Raster windows are tight and leave no gap

The window of a tile is the smallest range of whole columns and rows over its clipped extent. A
source sample whose centre lies in a tile is in the window of that tile, so tiles that cover the
source have windows that cover its raster.
-/

namespace LumenHorizon.Processing
open Foundation SlippyTiles

variable {K : Type} [Field K] [LinearOrder K]

/-- The west edge of source column `c` of `width`, and the east edge of the one before it. -/
def columnEdge (source : GeographicBounds K) (width c : ℕ) : K :=
  source.west + (c : K) / width * (source.east - source.west)

/-- The north edge of source row `r` of `height`, and the south edge of the one above it. -/
def rowEdge (source : GeographicBounds K) (height r : ℕ) : K :=
  source.north - (r : K) / height * (source.north - source.south)

/-- The columns and rows of the window reach over the extent. -/
structure CoversExtent (source : GeographicBounds K) (rasterShape : RasterShape)
    (window : RasterWindow) (extent : GeographicBounds K) : Prop where
  west : columnEdge source rasterShape.width window.xOffset ≤ extent.west
  east : extent.east ≤ columnEdge source rasterShape.width (window.xOffset + window.width)
  north : extent.north ≤ rowEdge source rasterShape.height window.yOffset
  south : rowEdge source rasterShape.height (window.yOffset + window.height) ≤ extent.south

/-- The window is not empty, lies in the raster, covers the extent, and lies in every window that
covers it. -/
structure TightWindow (source : GeographicBounds K) (rasterShape : RasterShape)
    (window : RasterWindow) (extent : GeographicBounds K) : Prop where
  width_pos : 0 < window.width
  height_pos : 0 < window.height
  columns_le : window.xOffset + window.width ≤ rasterShape.width
  rows_le : window.yOffset + window.height ≤ rasterShape.height
  covers : CoversExtent source rasterShape window extent
  columns_smallest : ∀ other, CoversExtent source rasterShape other extent →
    other.xOffset ≤ window.xOffset ∧
      window.xOffset + window.width ≤ other.xOffset + other.width
  rows_smallest : ∀ other, CoversExtent source rasterShape other extent →
    other.yOffset ≤ window.yOffset ∧
      window.yOffset + window.height ≤ other.yOffset + other.height

def RasterWindow.Contains (window : RasterWindow) (c r : ℕ) : Prop :=
  (window.xOffset ≤ c ∧ c < window.xOffset + window.width) ∧
    window.yOffset ≤ r ∧ r < window.yOffset + window.height

instance (window : RasterWindow) (c r : ℕ) : Decidable (window.Contains c r) :=
  inferInstanceAs (Decidable ((_ ∧ _) ∧ _ ∧ _))

/-- The point is inside the bounds, not on their edge. -/
def Inside (bounds : GeographicBounds K) (longitude latitude : K) : Prop :=
  (bounds.west < longitude ∧ longitude < bounds.east) ∧
    bounds.south < latitude ∧ latitude < bounds.north

/-- The point is inside the bounds or on their edge. -/
def Within (bounds : GeographicBounds K) (longitude latitude : K) : Prop :=
  (bounds.west ≤ longitude ∧ longitude ≤ bounds.east) ∧
    bounds.south ≤ latitude ∧ latitude ≤ bounds.north

def SharesInterior (tile source : GeographicBounds K) : Prop :=
  ∃ longitude latitude, Inside tile longitude latitude ∧ Inside source longitude latitude

/-- Every point inside the source lies in one of the tiles. -/
def CoversSource (P : LatitudeProjection K) (tiles : Set TileCoord)
    (source : GeographicBounds K) : Prop :=
  ∀ longitude latitude, Inside source longitude latitude →
    ∃ coord ∈ tiles, ∃ tile, tileBounds P coord = .ok tile ∧ Within tile longitude latitude

/-- A latitude as a fraction of the source's extent, from the north. -/
def rowFraction (source : GeographicBounds K) (latitude : K) : K :=
  (source.north - latitude) / (source.north - source.south)

section Rows

variable [IsStrictOrderedRing K] {source : GeographicBounds K}
  (h : source.south < source.north)
include h

theorem rowFraction_le_iff {latitude t : K} :
    rowFraction source latitude ≤ t ↔
      source.north - t * (source.north - source.south) ≤ latitude := by
  rw [rowFraction, div_le_iff₀ (sub_pos.mpr h)]
  constructor <;> intro hle <;> linarith

theorem le_rowFraction_iff {latitude t : K} :
    t ≤ rowFraction source latitude ↔
      latitude ≤ source.north - t * (source.north - source.south) := by
  rw [rowFraction, le_div_iff₀ (sub_pos.mpr h)]
  constructor <;> intro hle <;> linarith

theorem rowFraction_strictAnti : StrictAnti (rowFraction source) := by
  intro a b hab
  exact div_lt_div_of_pos_right (sub_lt_sub_left hab _) (sub_pos.mpr h)

end Rows

section Axis

variable [IsStrictOrderedRing K] [FloorRing K]

variable {s e : K} {n offset size : ℕ} (h : AxisWindow s e n offset size) (hn : 1 ≤ n)
include h hn

theorem AxisWindow.covers (h0 : 0 ≤ s) :
    (offset : K) / n ≤ s ∧ e ≤ ((offset + size : ℕ) : K) / n := by
  have hpos : (0 : K) < n := Nat.cast_pos.mpr (by omega)
  rw [div_le_iff₀ hpos, le_div_iff₀ hpos, h.stop_eq, h.offset_eq]
  exact ⟨Nat.floor_le (mul_nonneg h0 hpos.le), Nat.le_ceil _⟩

theorem AxisWindow.smallest {a b : ℕ} (ha : (a : K) / n ≤ s) (hb : e ≤ (b : K) / n) :
    a ≤ offset ∧ offset + size ≤ b := by
  have hpos : (0 : K) < n := Nat.cast_pos.mpr (by omega)
  rw [div_le_iff₀ hpos] at ha
  rw [le_div_iff₀ hpos] at hb
  rw [h.stop_eq, h.offset_eq]
  exact ⟨Nat.le_floor ha, Nat.ceil_le.mpr hb⟩

/-- A sample with its centre on the stretch is in the window. -/
theorem AxisWindow.mem {i : ℕ} (hs : s ≤ Resample.centre n i) (he : Resample.centre n i ≤ e) :
    offset ≤ i ∧ i < offset + size := by
  have hpos : (0 : K) < n := Nat.cast_pos.mpr (by omega)
  have hcentre : (Resample.centre n i : K) * n = i + 1 / 2 := by
    rw [Resample.centre]
    field_simp
  have hs' := mul_le_mul_of_nonneg_right hs hpos.le
  have he' := mul_le_mul_of_nonneg_right he hpos.le
  rw [hcentre] at hs' he'
  rw [h.stop_eq, h.offset_eq]
  constructor
  · have hlt : s * n < (i : K) + 1 := by linarith
    exact Nat.lt_succ_iff.mp (Nat.floor_lt' (Nat.succ_ne_zero i) |>.mpr (by exact_mod_cast hlt))
  · exact Nat.lt_ceil.mpr (by linarith)

end Axis

section Windows

variable [IsStrictOrderedRing K] {source tile clipped : GeographicBounds K}

omit [Field K] [IsStrictOrderedRing K] in
theorem SharesInterior.proper (h : SharesInterior tile source) :
    source.west < source.east ∧ source.south < source.north := by
  obtain ⟨longitude, latitude, -, hsource⟩ := h
  exact ⟨hsource.1.1.trans hsource.1.2, hsource.2.1.trans hsource.2.2⟩

omit [Field K] [IsStrictOrderedRing K] in
theorem SharesInterior.exists_clipped (h : SharesInterior tile source) :
    ∃ clipped, clipBounds tile source = some clipped := by
  obtain ⟨longitude, latitude, htile, hsource⟩ := h
  refine ⟨_, (clipBounds_eq_some_iff _ _ _).mpr ⟨rfl, ?_, ?_⟩⟩
  · exact (max_lt htile.1.1 hsource.1.1).trans (lt_min htile.1.2 hsource.1.2)
  · exact (max_lt htile.2.1 hsource.2.1).trans (lt_min htile.2.2 hsource.2.2)

structure ExtentIn (extent source : GeographicBounds K) : Prop where
  west_le : source.west ≤ extent.west
  west_lt_east : extent.west < extent.east
  east_le : extent.east ≤ source.east
  south_le : source.south ≤ extent.south
  south_lt_north : extent.south < extent.north
  north_le : extent.north ≤ source.north

omit [Field K] [IsStrictOrderedRing K] in
theorem extentIn_of_clipBounds (h : clipBounds tile source = some clipped) :
    ExtentIn clipped source := by
  obtain ⟨heq, hwe, hsn⟩ := (clipBounds_eq_some_iff _ _ _).mp h
  constructor
  · rw [heq]
    exact le_max_right _ _
  · exact hwe
  · rw [heq]
    exact min_le_right _ _
  · rw [heq]
    exact le_max_right _ _
  · exact hsn
  · rw [heq]
    exact min_le_right _ _

variable [FloorRing K] {rasterShape : RasterShape}

theorem ExtentIn.columns (h : ExtentIn clipped source) (hwidth : 1 ≤ rasterShape.width) :
    AxisWindow (fraction source clipped.west) (fraction source clipped.east) rasterShape.width
      (clippedWindow source clipped rasterShape).xOffset
      (clippedWindow source clipped rasterShape).width := by
  have hsource : source.west < source.east := h.west_le.trans_lt (h.west_lt_east.trans_le h.east_le)
  refine axisWindow ?_ (fraction_strictMono hsource h.west_lt_east) ?_ hwidth
  · rw [le_fraction_iff hsource]
    linarith [h.west_le]
  · rw [fraction_le_iff hsource]
    linarith [h.east_le]

theorem ExtentIn.rows (h : ExtentIn clipped source) (hheight : 1 ≤ rasterShape.height) :
    AxisWindow (rowFraction source clipped.north) (rowFraction source clipped.south)
      rasterShape.height (clippedWindow source clipped rasterShape).yOffset
      (clippedWindow source clipped rasterShape).height := by
  have hsource : source.south < source.north :=
    h.south_le.trans_lt (h.south_lt_north.trans_le h.north_le)
  refine axisWindow ?_ (rowFraction_strictAnti hsource h.south_lt_north) ?_ hheight
  · rw [le_rowFraction_iff hsource]
    linarith [h.north_le]
  · rw [rowFraction_le_iff hsource]
    linarith [h.south_le]

omit [FloorRing K] in
theorem coversExtent_iff (h : ExtentIn clipped source) {window : RasterWindow} :
    CoversExtent source rasterShape window clipped ↔
      ((window.xOffset : K) / rasterShape.width ≤ fraction source clipped.west ∧
        fraction source clipped.east ≤
          ((window.xOffset + window.width : ℕ) : K) / rasterShape.width) ∧
      ((window.yOffset : K) / rasterShape.height ≤ rowFraction source clipped.north ∧
        rowFraction source clipped.south ≤
          ((window.yOffset + window.height : ℕ) : K) / rasterShape.height) := by
  have hx : source.west < source.east := h.west_le.trans_lt (h.west_lt_east.trans_le h.east_le)
  have hy : source.south < source.north :=
    h.south_le.trans_lt (h.south_lt_north.trans_le h.north_le)
  rw [le_fraction_iff hx, fraction_le_iff hx, le_rowFraction_iff hy, rowFraction_le_iff hy]
  constructor
  · intro hcovers
    exact ⟨⟨hcovers.west, hcovers.east⟩, hcovers.north, hcovers.south⟩
  · rintro ⟨⟨hwest, heast⟩, hnorth, hsouth⟩
    exact ⟨hwest, heast, hnorth, hsouth⟩

theorem ExtentIn.tight (h : ExtentIn clipped source) (hwidth : 1 ≤ rasterShape.width)
    (hheight : 1 ≤ rasterShape.height) :
    TightWindow source rasterShape (clippedWindow source clipped rasterShape) clipped := by
  have hx : source.west < source.east := h.west_le.trans_lt (h.west_lt_east.trans_le h.east_le)
  have hy : source.south < source.north :=
    h.south_le.trans_lt (h.south_lt_north.trans_le h.north_le)
  have hcolumns := h.columns hwidth
  have hrows := h.rows hheight
  constructor
  · exact hcolumns.size_pos
  · exact hrows.size_pos
  · exact hcolumns.stop_le
  · exact hrows.stop_le
  · rw [coversExtent_iff h]
    refine ⟨hcolumns.covers hwidth ?_, hrows.covers hheight ?_⟩
    · rw [le_fraction_iff hx]
      linarith [h.west_le]
    · rw [le_rowFraction_iff hy]
      linarith [h.north_le]
  · intro other hother
    obtain ⟨⟨hwest, heast⟩, -⟩ := (coversExtent_iff h).mp hother
    exact hcolumns.smallest hwidth hwest heast
  · intro other hother
    obtain ⟨-, hnorth, hsouth⟩ := (coversExtent_iff h).mp hother
    exact hrows.smallest hheight hnorth hsouth

omit [FloorRing K] in
/-- The centre of sample `(c, r)` is inside the source. -/
theorem inside_centre (hx : source.west < source.east) (hy : source.south < source.north)
    {c r : ℕ} (hc : c < rasterShape.width) (hr : r < rasterShape.height) :
    Inside source
      (source.west + Resample.centre rasterShape.width c * (source.east - source.west))
      (source.north - Resample.centre rasterShape.height r * (source.north - source.south)) := by
  have hc0 : (0 : K) < Resample.centre rasterShape.width c := Resample.centre_pos hc
  have hc1 : Resample.centre rasterShape.width c < (1 : K) := Resample.centre_lt_one hc
  have hr0 : (0 : K) < Resample.centre rasterShape.height r := Resample.centre_pos hr
  have hr1 : Resample.centre rasterShape.height r < (1 : K) := Resample.centre_lt_one hr
  have hwidth := sub_pos.mpr hx
  have hheight := sub_pos.mpr hy
  refine ⟨⟨?_, ?_⟩, ?_, ?_⟩ <;> nlinarith

/-- A sample whose centre lies in a tile is in the window of the tile. -/
theorem contains_of_centre {P : LatitudeProjection K} {coord : TileCoord}
    (hx : source.west < source.east) (hy : source.south < source.north)
    (htile : tileBounds P coord = .ok tile) {c r : ℕ} (hc : c < rasterShape.width)
    (hr : r < rasterShape.height)
    (hcentre : Within tile
      (source.west + Resample.centre rasterShape.width c * (source.east - source.west))
      (source.north - Resample.centre rasterShape.height r * (source.north - source.south))) :
    ∃ window, rasterWindowForTile P coord source rasterShape = .ok window ∧
      window.Contains c r := by
  obtain ⟨⟨hwest, heast⟩, hsouth, hnorth⟩ := inside_centre hx hy hc hr
  obtain ⟨-, htwe, htsn⟩ := tileBounds_nonempty htile
  obtain ⟨clipped, hclipped⟩ := (clipBounds_isSome_iff htwe htsn hx hy).mpr
    ⟨⟨hcentre.1.1.trans_lt heast, hwest.trans_le hcentre.1.2⟩,
      hcentre.2.1.trans_lt hnorth, hsouth.trans_le hcentre.2.2⟩
  have hextent := extentIn_of_clipBounds hclipped
  refine ⟨_, (rasterWindowForTile_eq_ok_iff P coord source rasterShape _).mpr
    ⟨tile, clipped, htile, hclipped, rfl⟩, ?_, ?_⟩
  · apply (hextent.columns (by omega)).mem (by omega)
    · rw [fraction_le_iff hx, ((clipBounds_eq_some_iff _ _ _).mp hclipped).1]
      exact max_le hcentre.1.1 hwest.le
    · rw [le_fraction_iff hx, ((clipBounds_eq_some_iff _ _ _).mp hclipped).1]
      exact le_min hcentre.1.2 heast.le
  · apply (hextent.rows (by omega)).mem (by omega)
    · rw [rowFraction_le_iff hy, ((clipBounds_eq_some_iff _ _ _).mp hclipped).1]
      exact le_min hcentre.2.2 hnorth.le
    · rw [le_rowFraction_iff hy, ((clipBounds_eq_some_iff _ _ _).mp hclipped).1]
      exact max_le hcentre.2.1 hsouth.le

theorem coversSource_zoom (P : LatitudeProjection K) {z : ℕ} (hz : z ≤ maxSupportedZoom)
    (hwest : -180 ≤ source.west) (heast : source.east ≤ 180)
    (hsouth : P.latitude 1 ≤ source.south) (hnorth : source.north ≤ P.latitude 0) :
    CoversSource P {coord | coord.z = z} source := by
  intro longitude latitude hinside
  obtain ⟨⟨hw, he⟩, hs, hn⟩ := hinside
  have hpos : 0 < 2 ^ z := by positivity
  have hlatitude : latitude ∈ Set.Ioo (-90 : K) 90 :=
    ⟨(P.latitude_mem 1 zero_le_one le_rfl).1.trans (hsouth.trans_lt hs),
      (hn.trans_le hnorth).trans (P.latitude_mem 0 le_rfl zero_le_one).2⟩
  have hrow0 : 0 < P.row latitude :=
    (P.lt_latitude_iff le_rfl zero_le_one hlatitude).mp (hn.trans_le hnorth)
  have hrow1 : P.row latitude < 1 :=
    (P.latitude_lt_iff zero_le_one le_rfl hlatitude).mp (hsouth.trans_lt hs)
  have hx0 : 0 ≤ (longitude + 180) / 360 := by linarith
  have hx1 : (longitude + 180) / 360 < 1 := by linarith
  have hvalid : validateTileCoord ⟨z, Grid.cell ((longitude + 180) / 360) (2 ^ z),
      Grid.cell (P.row latitude) (2 ^ z)⟩ = .ok () :=
    (validateTileCoord_eq_ok_iff _).mpr ⟨hz, Grid.cell_lt hpos, Grid.cell_lt hpos⟩
  have hleft := Grid.cell_div_le hpos hx0
  have hright := Grid.lt_cell_succ_div hpos hx1
  have htop := Grid.cell_div_le hpos hrow0.le
  have hbottom := Grid.lt_cell_succ_div hpos hrow1
  obtain ⟨h0, hlt, h1⟩ := cell_edges (K := K) (Grid.cell_lt (t := P.row latitude) hpos)
  refine ⟨_, rfl, _, tileBounds_ok P hvalid, ⟨?_, ?_⟩, ?_, ?_⟩
  · simp only [tileXToLongitude]
    linarith
  · simp only [tileXToLongitude, Nat.cast_add, Nat.cast_one]
    linarith
  · simp only [tileYToLatitude, Nat.cast_add, Nat.cast_one]
    exact ((P.latitude_lt_iff (h0.trans hlt.le) h1 hlatitude).mpr hbottom).le
  · apply le_of_not_gt
    intro habove
    exact absurd ((P.latitude_lt_iff h0 (hlt.le.trans h1) hlatitude).mp habove) (not_lt.mpr htop)

/-- The window of a tile that overlaps the source is tight, and tiles that cover the source leave
no sample of its raster without a window. -/
theorem rasterWindows (P : LatitudeProjection K) {coord : TileCoord}
    (htile : tileBounds P coord = .ok tile) (hoverlap : SharesInterior tile source)
    (hwidth : 1 ≤ rasterShape.width) (hheight : 1 ≤ rasterShape.height) :
    (∃ clipped window, clipBounds tile source = some clipped ∧
      rasterWindowForTile P coord source rasterShape = .ok window ∧
      TightWindow source rasterShape window clipped) ∧
    ∀ tiles, CoversSource P tiles source →
      ∀ c < rasterShape.width, ∀ r < rasterShape.height,
        ∃ coord ∈ tiles, ∃ window,
          rasterWindowForTile P coord source rasterShape = .ok window ∧ window.Contains c r := by
  obtain ⟨hx, hy⟩ := hoverlap.proper
  constructor
  · obtain ⟨clipped, hclipped⟩ := hoverlap.exists_clipped
    refine ⟨clipped, _, hclipped, (rasterWindowForTile_eq_ok_iff P coord source rasterShape _).mpr
      ⟨tile, clipped, htile, hclipped, rfl⟩, ?_⟩
    exact (extentIn_of_clipBounds hclipped).tight hwidth hheight
  · intro tiles hcovers c hc r hr
    obtain ⟨coord', hcoord, tile', htile', hcentre⟩ := hcovers _ _ (inside_centre hx hy hc hr)
    exact ⟨coord', hcoord, contains_of_centre hx hy htile' hc hr hcentre⟩

end Windows

/-- The two tiles of zoom 3 over tile h07v04, and all tiles of that zoom. -/
theorem rasterWindows_h07v04 :
    TightWindow (⟨-110, 40, -100, 50⟩ : GeographicBounds ℚ) ⟨2400, 2400⟩ ⟨0, 0, 2400, 1800⟩
        ⟨-110, 85 / 2, -100, 50⟩ ∧
      ∀ c < 2400, ∀ r < 2400, ∃ coord ∈ {coord : TileCoord | coord.z = 3}, ∃ window,
        rasterWindowForTile linearProjection coord (⟨-110, 40, -100, 50⟩ : GeographicBounds ℚ)
          ⟨2400, 2400⟩ = .ok window ∧ window.Contains c r := by
  have htile : tileBounds linearProjection ⟨3, 1, 1⟩ = .ok ⟨-135, 85 / 2, -90, 255 / 4⟩ := by
    decide +kernel
  have hoverlap : SharesInterior (⟨-135, 85 / 2, -90, 255 / 4⟩ : GeographicBounds ℚ)
      ⟨-110, 40, -100, 50⟩ := ⟨-105, 45, by constructor <;> norm_num, by constructor <;> norm_num⟩
  obtain ⟨⟨clipped, window, hclipped, hwindow, htight⟩, hgapless⟩ :=
    rasterWindows linearProjection htile hoverlap
      (show 1 ≤ (⟨2400, 2400⟩ : RasterShape).width by decide) (by decide)
  refine ⟨?_, hgapless _ (coversSource_zoom linearProjection (by decide) ?_ ?_ ?_ ?_)⟩
  · have hclipped' : clipBounds (⟨-135, 85 / 2, -90, 255 / 4⟩ : GeographicBounds ℚ)
        ⟨-110, 40, -100, 50⟩ = some ⟨-110, 85 / 2, -100, 50⟩ := by decide +kernel
    have hwindow' : rasterWindowForTile linearProjection ⟨3, 1, 1⟩
        (⟨-110, 40, -100, 50⟩ : GeographicBounds ℚ) ⟨2400, 2400⟩ = .ok ⟨0, 0, 2400, 1800⟩ := by
      decide +kernel
    cases hclipped.symm.trans hclipped'
    cases hwindow.symm.trans hwindow'
    exact htight
  all_goals norm_num [linearProjection, linearLatitude]

end LumenHorizon.Processing
