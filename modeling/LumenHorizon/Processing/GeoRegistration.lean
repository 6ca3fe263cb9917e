import LumenHorizon.Processing.Rendering

/-! # Geo-registration of rendered tiles in longitude

The window of a tile is clipped to the source and then stretched over the whole tile. A tile
that lies within the source's longitudes is registered up to one source column; a tile that
reaches past them is not, whatever the raster.
-/

namespace LumenHorizon.Processing
open Foundation SlippyTiles

variable {K : Type} [Field K] [LinearOrder K]

/-- The longitude of the centre of output column `i`. -/
def columnLongitude (tile : GeographicBounds K) (tileSize i : ℕ) : K :=
  tile.west + Resample.centre tileSize i * (tile.east - tile.west)

/-- Source column `c` of `width` equal columns contains the longitude, edges included. -/
def ColumnContains (source : GeographicBounds K) (width c : ℕ) (longitude : K) : Prop :=
  source.west + (c : K) / width * (source.east - source.west) ≤ longitude ∧
    longitude ≤ source.west + ((c : K) + 1) / width * (source.east - source.west)

def InLongitudes (source : GeographicBounds K) (longitude : K) : Prop :=
  source.west ≤ longitude ∧ longitude ≤ source.east

/-- Every pixel of the tile is painted from the source column that contains its longitude, or
one next to it, and a pixel outside the source from none. -/
def GeoRegistered [FloorRing K] (P : LatitudeProjection K) (source : GeographicBounds K)
    (rasterShape : RasterShape) (coord : TileCoord) (tileSize : ℕ) : Prop :=
  ∀ tile window, tileBounds P coord = .ok tile →
    rasterWindowForTile P coord source rasterShape = .ok window →
      ∀ row < tileSize, ∀ i < tileSize,
        (¬ InLongitudes source (columnLongitude tile tileSize i) →
          sourceOfPixel window tileSize row i = none) ∧
        (InLongitudes source (columnLongitude tile tileSize i) →
          ∃ x y, sourceOfPixel window tileSize row i = some (x, y) ∧
            ∀ c < rasterShape.width,
              ColumnContains source rasterShape.width c (columnLongitude tile tileSize i) →
                x ≤ c + 1 ∧ c ≤ x + 1)

/-- The tile does not reach past the source's west or east edge. -/
def WithinLongitudes (tile source : GeographicBounds K) : Prop :=
  source.west ≤ tile.west ∧ tile.east ≤ source.east

/-- Tile and source have the same centre longitude. -/
def SameCentre (tile source : GeographicBounds K) : Prop :=
  tile.west + tile.east = source.west + source.east

/-- A longitude as a fraction of the source's extent. -/
def fraction (source : GeographicBounds K) (longitude : K) : K :=
  (longitude - source.west) / (source.east - source.west)

/-- The fractions between which the clipped extent of a tile lies. -/
def clippedWest (source tile : GeographicBounds K) : K := max (fraction source tile.west) 0

def clippedEast (source tile : GeographicBounds K) : K := min (fraction source tile.east) 1

omit [LinearOrder K] in
theorem fraction_west (source : GeographicBounds K) : fraction source source.west = 0 := by
  rw [fraction, sub_self, zero_div]

omit [LinearOrder K] in
theorem fraction_columnLongitude (source tile : GeographicBounds K) (tileSize i : ℕ) :
    fraction source (columnLongitude tile tileSize i) =
      fraction source tile.west +
        Resample.centre tileSize i * (fraction source tile.east - fraction source tile.west) := by
  simp only [fraction, columnLongitude]
  ring

section Fractions

variable [IsStrictOrderedRing K] {source tile : GeographicBounds K}
  (h : source.west < source.east)
include h

theorem fraction_le_iff {longitude t : K} :
    fraction source longitude ≤ t ↔
      longitude ≤ source.west + t * (source.east - source.west) := by
  rw [fraction, div_le_iff₀ (sub_pos.mpr h), sub_le_iff_le_add, add_comm]

theorem le_fraction_iff {longitude t : K} :
    t ≤ fraction source longitude ↔
      source.west + t * (source.east - source.west) ≤ longitude := by
  rw [fraction, le_div_iff₀ (sub_pos.mpr h), le_sub_iff_add_le, add_comm]

theorem fraction_strictMono : StrictMono (fraction source) := by
  intro a b hab
  exact div_lt_div_of_pos_right (sub_lt_sub_right hab _) (sub_pos.mpr h)

theorem fraction_east : fraction source source.east = 1 :=
  div_self (sub_pos.mpr h).ne'

theorem inLongitudes_iff {longitude : K} :
    InLongitudes source longitude ↔
      0 ≤ fraction source longitude ∧ fraction source longitude ≤ 1 := by
  rw [le_fraction_iff h, fraction_le_iff h, InLongitudes]
  simp

theorem columnContains_iff {width c : ℕ} {longitude : K} :
    ColumnContains source width c longitude ↔
      (c : K) / width ≤ fraction source longitude ∧
        fraction source longitude ≤ ((c : K) + 1) / width := by
  rw [le_fraction_iff h, fraction_le_iff h, ColumnContains]

theorem fraction_max_west : fraction source (max tile.west source.west) = clippedWest source tile := by
  rw [(fraction_strictMono h).monotone.map_max, fraction_west, clippedWest]

theorem fraction_min_east : fraction source (min tile.east source.east) = clippedEast source tile := by
  rw [(fraction_strictMono h).monotone.map_min, fraction_east h, clippedEast]

theorem clippedWest_lt_clippedEast (htile : tile.west < tile.east) (hw : tile.west < source.east)
    (he : source.west < tile.east) : clippedWest source tile < clippedEast source tile := by
  rw [← fraction_max_west h, ← fraction_min_east h]
  exact fraction_strictMono h (max_lt (lt_min htile hw) (lt_min he h))

theorem withinLongitudes_iff :
    WithinLongitudes tile source ↔
      clippedWest source tile = fraction source tile.west ∧
        clippedEast source tile = fraction source tile.east := by
  rw [WithinLongitudes, clippedWest, clippedEast, max_eq_left_iff, min_eq_left_iff,
    le_fraction_iff h, fraction_le_iff h]
  simp

theorem sameCentre_iff :
    SameCentre tile source ↔ fraction source tile.west + fraction source tile.east = 1 := by
  have hpos := sub_pos.mpr h
  rw [SameCentre, fraction, fraction, ← add_div, div_eq_one_iff_eq hpos.ne']
  constructor <;> intro heq <;> linarith

end Fractions

section Window

variable [IsStrictOrderedRing K] [FloorRing K]

theorem floorToRasterIndex_eq {t : K} (h0 : 0 ≤ t) (h1 : t ≤ 1) (rasterSize : ℕ) :
    floorToRasterIndex t rasterSize = ⌊t * rasterSize⌋₊ := by
  have hle : t * rasterSize ≤ (rasterSize : K) :=
    mul_le_of_le_one_left (Nat.cast_nonneg _) h1
  rw [floorToRasterIndex, clamp_eq_self h0 h1, Int.floor_toNat,
    min_eq_left (Nat.floor_le_of_le hle)]

theorem ceilToRasterIndex_eq {t : K} (h0 : 0 ≤ t) (h1 : t ≤ 1) (rasterSize : ℕ) :
    ceilToRasterIndex t rasterSize = ⌈t * rasterSize⌉₊ := by
  have hle : t * rasterSize ≤ (rasterSize : K) :=
    mul_le_of_le_one_left (Nat.cast_nonneg _) h1
  rw [ceilToRasterIndex, clamp_eq_self h0 h1, Int.ceil_toNat, min_eq_left (Nat.ceil_le.mpr hle)]

/-- A stretch of the unit interval, in whole samples. -/
structure AxisWindow (s e : K) (n offset size : ℕ) : Prop where
  offset_eq : offset = ⌊s * n⌋₊
  stop_eq : offset + size = ⌈e * n⌉₊
  size_pos : 0 < size
  stop_le : offset + size ≤ n

theorem axisWindow {s e : K} (h0 : 0 ≤ s) (hse : s < e) (h1 : e ≤ 1) {n : ℕ} (hn : 1 ≤ n) :
    AxisWindow s e n (floorToRasterIndex s n)
      (max (ceilToRasterIndex e n - floorToRasterIndex s n) 1) := by
  have hpos : (0 : K) < n := Nat.cast_pos.mpr (by omega)
  have hlt : ⌊s * n⌋₊ < ⌈e * n⌉₊ := by
    have hscaled := mul_lt_mul_of_pos_right hse hpos
    have hfloor := Nat.floor_le (mul_nonneg h0 hpos.le)
    have hceil := Nat.le_ceil (e * (n : K))
    exact Nat.cast_lt.mp (hfloor.trans_lt (hscaled.trans_le hceil))
  have hle : ⌈e * n⌉₊ ≤ n := Nat.ceil_le.mpr (mul_le_of_le_one_left hpos.le h1)
  rw [floorToRasterIndex_eq h0 (hse.le.trans h1), ceilToRasterIndex_eq (h0.trans hse.le) h1]
  refine ⟨rfl, ?_, ?_, ?_⟩ <;> omega

variable {P : LatitudeProjection K} {source tile : GeographicBounds K} {coord : TileCoord}

/-- The window of a tile starts and ends where its clipped extent does, in whole columns. -/
theorem window_columns {rasterShape : RasterShape} {window : RasterWindow}
    (h : source.west < source.east) (htile : tileBounds P coord = .ok tile)
    (hoverlap : StrictlyOverlaps tile source) (hwidth : 1 ≤ rasterShape.width)
    (hwindow : rasterWindowForTile P coord source rasterShape = .ok window) :
    window.xOffset = ⌊clippedWest source tile * rasterShape.width⌋₊ ∧
      window.width = ⌈clippedEast source tile * rasterShape.width⌉₊ -
        ⌊clippedWest source tile * rasterShape.width⌋₊ := by
  obtain ⟨tile', clipped, htile', hclipped, rfl⟩ :=
    (rasterWindowForTile_eq_ok_iff P coord source rasterShape window).mp hwindow
  obtain rfl : tile = tile' := by
    rw [htile] at htile'
    exact Except.ok.inj htile'
  obtain ⟨rfl, -, -⟩ := (clipBounds_eq_some_iff _ _ _).mp hclipped
  have hlt := clippedWest_lt_clippedEast h (tileBounds_nonempty htile).2.1 hoverlap.1.1 hoverlap.1.2
  have hw0 : 0 ≤ clippedWest source tile := le_max_right _ _
  have he1 : clippedEast source tile ≤ 1 := min_le_right _ _
  have haxis := axisWindow hw0 hlt he1 hwidth
  rw [← fraction_max_west h, ← fraction_min_east h] at haxis ⊢
  constructor
  · exact haxis.offset_eq
  · rw [← haxis.stop_eq, ← haxis.offset_eq, Nat.add_sub_cancel_left]
    rfl

variable (hs : SourceBox source) (htile : tileBounds P coord = .ok tile)
  (hoverlap : StrictlyOverlaps tile source)
include hs htile hoverlap

/-- Registration, column by column and in fractions of the source. -/
theorem geoRegistered_iff {rasterShape : RasterShape} {tileSize : ℕ} (hsize : 1 ≤ tileSize)
    (hwidth : 1 ≤ rasterShape.width) :
    GeoRegistered P source rasterShape coord tileSize ↔
      ∀ i < tileSize, InLongitudes source (columnLongitude tile tileSize i) ∧
        ∀ c < rasterShape.width,
          (c : K) / rasterShape.width ≤ fraction source (columnLongitude tile tileSize i) →
          fraction source (columnLongitude tile tileSize i) ≤ ((c : K) + 1) / rasterShape.width →
            Resample.sampleIndex ⌊clippedWest source tile * rasterShape.width⌋₊
              (⌈clippedEast source tile * rasterShape.width⌉₊ -
                ⌊clippedWest source tile * rasterShape.width⌋₊) tileSize i ≤ c + 1 ∧
            c ≤ Resample.sampleIndex ⌊clippedWest source tile * rasterShape.width⌋₊
              (⌈clippedEast source tile * rasterShape.width⌉₊ -
                ⌊clippedWest source tile * rasterShape.width⌋₊) tileSize i + 1 := by
  have h := hs.west_lt_east
  constructor
  · intro hregistered i hi
    obtain ⟨window, hwindow⟩ :=
      (rasterWindowForTile_isOk_iff P hs coord rasterShape).mpr ⟨tile, htile, hoverlap⟩
    obtain ⟨hoffset, hcount⟩ := window_columns h htile hoverlap hwidth hwindow
    obtain ⟨hout, hin⟩ := hregistered tile window htile hwindow 0 hsize i hi
    rw [sourceOfPixel_eq window hsize hi] at hout hin
    have hinside : InLongitudes source (columnLongitude tile tileSize i) := by
      by_contra hn
      exact Option.some_ne_none _ (hout hn)
    refine ⟨hinside, fun c hc hlo hhi => ?_⟩
    obtain ⟨x, y, hxy, hnear⟩ := hin hinside
    obtain ⟨rfl, rfl⟩ := Prod.mk.inj (Option.some.inj hxy)
    rw [← hcount, ← hoffset]
    exact hnear c hc ((columnContains_iff h).mpr ⟨hlo, hhi⟩)
  · intro hcolumns tile' window htile' hwindow row hrow i hi
    obtain rfl : tile = tile' := by
      rw [htile] at htile'
      exact Except.ok.inj htile'
    obtain ⟨hoffset, hcount⟩ := window_columns h htile hoverlap hwidth hwindow
    obtain ⟨hinside, hnear⟩ := hcolumns i hi
    refine ⟨fun hn => absurd hinside hn, fun _ => ?_⟩
    refine ⟨_, _, sourceOfPixel_eq window hrow hi, fun c hc hcontains => ?_⟩
    obtain ⟨hlo, hhi⟩ := (columnContains_iff h).mp hcontains
    rw [hcount, hoffset]
    exact hnear c hc hlo hhi

/-- A tile is registered when the stretched window puts each column where the tile does. -/
theorem geoRegistered_of_fraction_eq {rasterShape : RasterShape} {tileSize : ℕ}
    (hsize : 1 ≤ tileSize) (hwidth : 1 ≤ rasterShape.width)
    (heq : ∀ i < tileSize, clippedWest source tile +
      Resample.centre tileSize i * (clippedEast source tile - clippedWest source tile) =
        fraction source (columnLongitude tile tileSize i)) :
    GeoRegistered P source rasterShape coord tileSize := by
  have h := hs.west_lt_east
  have hlt := clippedWest_lt_clippedEast h (tileBounds_nonempty htile).2.1 hoverlap.1.1 hoverlap.1.2
  have hw0 : 0 ≤ clippedWest source tile := le_max_right _ _
  have he1 : clippedEast source tile ≤ 1 := min_le_right _ _
  have hpos : (0 : K) < rasterShape.width := Nat.cast_pos.mpr (by omega)
  rw [geoRegistered_iff hs htile hoverlap hsize hwidth]
  intro i hi
  have ht0 : (0 : K) < Resample.centre tileSize i := Resample.centre_pos hi
  have ht1 : Resample.centre tileSize i < (1 : K) := Resample.centre_lt_one hi
  have hspan := sub_pos.mpr hlt
  constructor
  · rw [inLongitudes_iff h, ← heq i hi]
    constructor
    · positivity
    · nlinarith
  · intro c hc hlo hhi
    rw [← heq i hi, div_le_iff₀ hpos] at hlo
    rw [← heq i hi, le_div_iff₀ hpos] at hhi
    apply Resample.sampleIndex_near (mul_nonneg hw0 hpos.le) (mul_lt_mul_of_pos_right hlt hpos) hi
    · linarith
    · linarith

/-- What registration on rasters of every width says about one column. -/
theorem fraction_eq_of_geoRegistered {tileSize i : ℕ} (hi : i < tileSize)
    (hall : ∀ rasterShape : RasterShape, 1 ≤ rasterShape.width → 1 ≤ rasterShape.height →
      GeoRegistered P source rasterShape coord tileSize) :
    clippedWest source tile +
      Resample.centre tileSize i * (clippedEast source tile - clippedWest source tile) =
        fraction source (columnLongitude tile tileSize i) := by
  have h := hs.west_lt_east
  have hlt := clippedWest_lt_clippedEast h (tileBounds_nonempty htile).2.1 hoverlap.1.1 hoverlap.1.2
  have hsize : 1 ≤ tileSize := by omega
  have hcolumns (w : ℕ) (hw : 1 ≤ w) :=
    (geoRegistered_iff hs htile hoverlap hsize hw).mp (hall ⟨w, 1⟩ hw le_rfl) i hi
  obtain ⟨hq0, hq1⟩ := (inLongitudes_iff h).mp (hcolumns 1 le_rfl).1
  exact Resample.window_fraction_eq (le_max_right _ _) hlt hi hq0 hq1
    fun w hw => (hcolumns w hw).2

end Window

/-! ## Which tiles are registered -/

section Exact

variable [IsStrictOrderedRing K]

/-- Two affine maps of the unit interval, one reaching further at both ends, agree on the
centres of `n` cells exactly when they are equal or one centre is all there is. -/
theorem centres_agree_iff {n : ℕ} (hn : 1 ≤ n) {x y u v : K} :
    (∀ i < n, x + Resample.centre n i * (y - x) = u + Resample.centre n i * (v - u)) ↔
      (x = u ∧ y = v) ∨ (n = 1 ∧ x - u = v - y) := by
  constructor
  · intro hall
    have hfirst := hall 0 hn
    have hlast := hall (n - 1) (by omega)
    rw [Resample.centre_last hn] at hlast
    -- the sum of the two equations
    have hsym : x - u = v - y := by linarith
    rcases hn.eq_or_lt with rfl | hn2
    · exact .inr ⟨rfl, hsym⟩
    · left
      have hhalf : (Resample.centre n 0 : K) < 1 / 2 := by
        have hcast : (1 : K) < n := by exact_mod_cast hn2
        rw [Resample.centre, div_lt_div_iff₀ (by linarith) two_pos]
        push_cast
        linarith
      have hzero : (1 - 2 * Resample.centre n 0) * (x - u) = 0 := by
        linear_combination hfirst - Resample.centre n 0 * hsym
      have hx : x - u = 0 := by
        rcases mul_eq_zero.mp hzero with h | h
        · linarith
        · exact h
      constructor <;> linarith
  · rintro (⟨rfl, rfl⟩ | ⟨rfl, hsym⟩) i hi
    · rfl
    · obtain rfl : i = 0 := by omega
      have hcentre : (Resample.centre 1 0 : K) = 1 / 2 := by norm_num [Resample.centre]
      rw [hcentre]
      linarith

/-- The clipped extent is the tile's own, or it is the source's with the tile centred on it. -/
theorem clipped_agree_iff (source tile : GeographicBounds K) (h : source.west < source.east)
    {n : ℕ} (hn : 1 ≤ n) :
    (∀ i < n, clippedWest source tile +
      Resample.centre n i * (clippedEast source tile - clippedWest source tile) =
        fraction source (columnLongitude tile n i)) ↔
      WithinLongitudes tile source ∨ (n = 1 ∧ SameCentre tile source) := by
  simp only [fraction_columnLongitude]
  rw [centres_agree_iff hn, withinLongitudes_iff h,
    sameCentre_iff h]
  constructor
  · rintro (hin | ⟨rfl, hsym⟩)
    · exact .inl hin
    · rcases le_total 0 (fraction source tile.west) with hw | hw
      · have hleft : clippedWest source tile = fraction source tile.west := max_eq_left hw
        exact .inl ⟨hleft, by linarith⟩
      · rcases le_total (fraction source tile.east) 1 with he | he
        · have hright : clippedEast source tile = fraction source tile.east := min_eq_left he
          exact .inl ⟨by linarith, hright⟩
        · have hleft : clippedWest source tile = 0 := max_eq_right hw
          have hright : clippedEast source tile = 1 := min_eq_right he
          exact .inr ⟨rfl, by linarith⟩
  · rintro (hin | ⟨rfl, hsame⟩)
    · exact .inl hin
    · refine .inr ⟨rfl, ?_⟩
      rcases le_total 0 (fraction source tile.west) with hw | hw
      · have hleft : clippedWest source tile = fraction source tile.west := max_eq_left hw
        have hright : clippedEast source tile = fraction source tile.east :=
          min_eq_left (by linarith)
        linarith
      · have hleft : clippedWest source tile = 0 := max_eq_right hw
        have hright : clippedEast source tile = 1 := min_eq_right (by linarith)
        linarith

/-- On the integer grid both families of edges live on, a tile whose `n` column centres all lie
in a ten-degree box lies in the box, from five columns on. -/
theorem columns_within_of_centres {h : ℤ} {k z n : ℕ} (hn : 5 ≤ n)
    (hwest : (n : ℤ) * (h * 2 ^ z - 36 * k) ≤ 18)
    (heast : (n : ℤ) * (36 * (k + 1) - (h + 1) * 2 ^ z) ≤ 18) :
    h * 2 ^ z ≤ 36 * k ∧ 36 * ((k : ℤ) + 1) ≤ (h + 1) * 2 ^ z := by
  have hsmall (m : ℤ) (hm : (n : ℤ) * m ≤ 18) : m ≤ 3 := by
    by_contra hlt
    have hn' : (5 : ℤ) ≤ n := by exact_mod_cast hn
    nlinarith
  have hw := hsmall _ hwest
  have he := hsmall _ heast
  match z with
  | 0 => omega
  | 1 => omega
  | z + 2 =>
    -- both differences are multiples of four
    have hpow : (2 : ℤ) ^ (z + 2) = 4 * 2 ^ z := by ring
    rw [hpow] at hw he ⊢
    have hx : h * (4 * 2 ^ z) = 4 * (h * 2 ^ z) := by ring
    have hy : (h + 1) * (4 * 2 ^ z) = 4 * ((h + 1) * 2 ^ z) := by ring
    rw [hx] at hw ⊢
    rw [hy] at he ⊢
    omega

theorem viirs_within_of_centres {P : LatitudeProjection K} {tileH tileV : ℤ}
    {source tile : GeographicBounds K} {coord : TileCoord} {n : ℕ}
    (hsource : viirsTileBounds tileH tileV = .ok source) (htile : tileBounds P coord = .ok tile)
    (hn : 5 ≤ n) (hall : ∀ i < n, InLongitudes source (columnLongitude tile n i)) :
    WithinLongitudes tile source := by
  obtain ⟨-, -, rfl⟩ := (viirsTileBounds_eq_ok_iff _ _ _).mp hsource
  rw [tileBounds_ok P (tileBounds_nonempty htile).1] at htile
  obtain rfl := Except.ok.inj htile
  have hnpos : (0 : K) < n := Nat.cast_pos.mpr (by omega)
  have hpow : (0 : K) < 2 ^ coord.z := by positivity
  have hfirst := (hall 0 (by omega)).1
  have hlast := (hall (n - 1) (by omega)).2
  rw [columnLongitude, Resample.centre_last (by omega)] at hlast
  rw [columnLongitude] at hfirst
  simp only [tileXToLongitude, Resample.centre, WithinLongitudes] at hfirst hlast ⊢
  push_cast at hfirst hlast ⊢
  have hscale : (0 : K) < 10 / (2 ^ coord.z * n) := by positivity
  have hwest : ((n * (tileH * 2 ^ coord.z - 36 * coord.x) : ℤ) : K) ≤ (18 : ℤ) := by
    rw [← sub_nonneg] at hfirst ⊢
    apply nonneg_of_mul_nonneg_left _ hscale
    convert hfirst using 1
    push_cast
    field_simp
    ring
  have heast : ((n * (36 * (coord.x + 1) - (tileH + 1) * 2 ^ coord.z) : ℤ) : K) ≤ (18 : ℤ) := by
    rw [← sub_nonneg] at hlast ⊢
    apply nonneg_of_mul_nonneg_left _ hscale
    convert hlast using 1
    push_cast
    field_simp
    ring
  obtain ⟨hw, he⟩ := columns_within_of_centres hn (Int.cast_le.mp hwest) (Int.cast_le.mp heast)
  have hw' : (tileH * 2 ^ coord.z : K) ≤ 36 * coord.x := by exact_mod_cast hw
  have he' : (36 * (coord.x + 1) : K) ≤ (tileH + 1) * 2 ^ coord.z := by exact_mod_cast he
  constructor
  · have hdiv : (tileH : K) ≤ 36 * (coord.x / 2 ^ coord.z) := by
      rw [mul_div_assoc', le_div_iff₀ hpow]
      exact hw'
    linarith
  · have hdiv : (36 : K) * ((coord.x + 1) / 2 ^ coord.z) ≤ tileH + 1 := by
      rw [mul_div_assoc', div_le_iff₀ hpow]
      exact he'
    linarith

variable [FloorRing K]

/-- A tile with a window is registered on rasters of every shape exactly when it lies within the
source's longitudes, or is a single pixel centred on the source. With five or more columns it
is registered on any one raster exactly when it lies within them. -/
theorem geoRegistered_viirs_iff {P : LatitudeProjection K} {tileH tileV : ℤ}
    {source tile : GeographicBounds K} {coord : TileCoord}
    (hsource : viirsTileBounds tileH tileV = .ok source) (htile : tileBounds P coord = .ok tile)
    (hoverlap : StrictlyOverlaps tile source) {tileSize : ℕ} (hsize : 1 ≤ tileSize) :
    ((∀ rasterShape : RasterShape, 1 ≤ rasterShape.width → 1 ≤ rasterShape.height →
        GeoRegistered P source rasterShape coord tileSize) ↔
      WithinLongitudes tile source ∨ (tileSize = 1 ∧ SameCentre tile source)) ∧
    (5 ≤ tileSize → ∀ rasterShape : RasterShape,
      1 ≤ rasterShape.width → 1 ≤ rasterShape.height →
        (GeoRegistered P source rasterShape coord tileSize ↔ WithinLongitudes tile source)) := by
  have hs := viirsTileBounds_sourceBox hsource
  have hagree := clipped_agree_iff source tile hs.west_lt_east hsize
  refine ⟨?_, fun hfive rasterShape hwidth _ => ?_⟩
  · rw [← hagree]
    constructor
    · intro hall i hi
      exact fraction_eq_of_geoRegistered hs htile hoverlap hi hall
    · intro heq rasterShape hwidth _
      exact geoRegistered_of_fraction_eq hs htile hoverlap hsize hwidth heq
  · constructor
    · intro hregistered
      have hcolumns := (geoRegistered_iff hs htile hoverlap hsize hwidth).mp hregistered
      exact viirs_within_of_centres hsource htile hfive fun i hi => (hcolumns i hi).1
    · intro hin
      exact geoRegistered_of_fraction_eq hs htile hoverlap hsize hwidth (hagree.mpr (.inl hin))

end Exact

/-- Column 25 of zoom 7 lies within tile h07v04. -/
theorem geoRegistered_viirs_h07v04 :
    GeoRegistered mercator (⟨-110, 40, -100, 50⟩ : GeographicBounds ℝ) ⟨2400, 2400⟩
      ⟨7, 25, 47⟩ 256 := by
  have hs := viirsTileBounds_sourceBox viirsTileBounds_h07v04
  have hv : validateTileCoord ⟨7, 25, 47⟩ = .ok () := by decide
  obtain ⟨tile, htile, hoverlap⟩ := (coordOverlaps_iff mercator hs hv).mpr (by
    have hforty := mercatorRow_forty_mem.1
    have hfifty := mercatorRow_fifty_mem.2
    change Grid.Overlaps ((-110 + 180 : ℝ) / 360) ((-100 + 180) / 360) 25 (2 ^ 7) ∧
      Grid.Overlaps (mercatorRow 50) (mercatorRow 40) 47 (2 ^ 7)
    norm_num [Grid.Overlaps]
    constructor <;> linarith)
  refine ((geoRegistered_viirs_iff viirsTileBounds_h07v04 htile hoverlap (by decide)).2 (by decide)
    ⟨2400, 2400⟩ (by decide) (by decide)).mpr ?_
  obtain rfl := Except.ok.inj ((tileBounds_ok mercator hv).symm.trans htile)
  norm_num [WithinLongitudes, tileXToLongitude]

/-- Column 1 of zoom 3 reaches past tile h07v04 on both sides. Its first pixel column lies
almost 25 degrees west of the source and is painted from the source. -/
theorem not_geoRegistered_h07v04 :
    planTileGenerationForBounds mercator (⟨-110, 40, -100, 50⟩ : GeographicBounds ℝ) 3 3 =
        .ok ⟨[⟨3, 1, 1, 2, 3⟩], 2⟩ ∧
      ⟨3, 1, 2⟩ ∈ (⟨[⟨3, 1, 1, 2, 3⟩], 2⟩ : TileGenerationPlan).coords ∧
      ¬ GeoRegistered mercator (⟨-110, 40, -100, 50⟩ : GeographicBounds ℝ) ⟨2400, 2400⟩
        ⟨3, 1, 2⟩ 256 := by
  refine ⟨planTileGenerationForBounds_h07v04, by decide, fun hregistered => ?_⟩
  have hs := viirsTileBounds_sourceBox viirsTileBounds_h07v04
  have hoverlap := (coordOverlaps_mercator_iff hs (by decide) (.inl rfl)).mpr
    (⟨by norm_num, by norm_num⟩ : Grid.Overlaps ((-110 + 180 : ℝ) / 360) ((-100 + 180) / 360) 1 8)
  obtain ⟨window, hwindow⟩ := (rasterWindowForTile_isOk_iff mercator hs _ ⟨2400, 2400⟩).mpr hoverlap
  have htile := tileBounds_ok mercator (by decide : validateTileCoord ⟨3, 1, 2⟩ = .ok ())
  have hout := (hregistered _ _ htile hwindow 0 (by decide) 0 (by decide)).1
  rw [sourceOfPixel_eq _ (by decide) (by decide)] at hout
  refine Option.some_ne_none _ (hout fun hin => ?_)
  have hwest := hin.1
  norm_num [columnLongitude, Resample.centre, tileXToLongitude] at hwest

end LumenHorizon.Processing
