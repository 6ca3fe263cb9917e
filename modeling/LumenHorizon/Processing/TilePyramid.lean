import LumenHorizon.Processing.ParallelRendering
import LumenHorizon.Processing.RasterWindows

/-! # The zoom levels of a plan

Every zoom level of a plan is computed on its own. The grid of one level refines that of the level
above it, so the planned tiles of each level are the ancestors of those of the last one.
-/

namespace LumenHorizon.SlippyTiles

/-- The tile of zoom `z` that a tile lies in. -/
def TileCoord.ancestor (coord : TileCoord) (z : ℕ) : TileCoord where
  z := z
  x := coord.x / 2 ^ (coord.z - z)
  y := coord.y / 2 ^ (coord.z - z)

structure GeographicBounds.Within {K : Type} [LE K] (inner outer : GeographicBounds K) : Prop where
  west : outer.west ≤ inner.west
  south : outer.south ≤ inner.south
  east : inner.east ≤ outer.east
  north : inner.north ≤ outer.north

section Ancestors

variable {K : Type} [Field K] [LinearOrder K] [IsStrictOrderedRing K]

theorem two_pow_split {z z' : ℕ} (h : z ≤ z') : 2 ^ z' = 2 ^ (z' - z) * 2 ^ z := by
  rw [← pow_add, Nat.sub_add_cancel h]

theorem cell_edges_within {i k n : ℕ} (hk : 0 < k) (hn : 0 < n) :
    ((i / k : ℕ) : K) / n ≤ (i : K) / (k * n : ℕ) ∧
      ((i : K) + 1) / (k * n : ℕ) ≤ (((i / k : ℕ) : K) + 1) / n := by
  have hkn : (0 : K) < (k * n : ℕ) := Nat.cast_pos.mpr (Nat.mul_pos hk hn)
  have hn' : (0 : K) < n := Nat.cast_pos.mpr hn
  have hlow : i / k * k ≤ i := Nat.div_mul_le_self i k
  have hhigh : i + 1 ≤ (i / k + 1) * k := Nat.lt_mul_of_div_lt (Nat.lt_succ_self _) hk
  constructor
  · rw [div_le_div_iff₀ hn' hkn]
    exact_mod_cast (by nlinarith : i / k * (k * n) ≤ i * n)
  · rw [div_le_div_iff₀ hkn hn']
    exact_mod_cast (by nlinarith : (i + 1) * n ≤ (i / k + 1) * (k * n))

theorem validateTileCoord_ancestor {coord : TileCoord} {z : ℕ}
    (h : validateTileCoord coord = .ok ()) (hz : z ≤ coord.z) :
    validateTileCoord (coord.ancestor z) = .ok () := by
  rw [validateTileCoord_eq_ok_iff] at h ⊢
  obtain ⟨hzoom, hx, hy⟩ := h
  rw [two_pow_split hz] at hx hy
  exact ⟨hz.trans hzoom, Nat.div_lt_of_lt_mul hx, Nat.div_lt_of_lt_mul hy⟩

omit [IsStrictOrderedRing K] in
theorem LatitudeProjection.latitude_anti (P : LatitudeProjection K) {s t : K} (h0 : 0 ≤ s)
    (hst : s ≤ t) (h1 : t ≤ 1) : P.latitude t ≤ P.latitude s := by
  rcases hst.eq_or_lt with rfl | hlt
  · exact le_rfl
  · exact (P.latitude_strictAnti h0 hlt h1).le

theorem tileBounds_ancestor (P : LatitudeProjection K) {coord : TileCoord} {z : ℕ}
    (h : validateTileCoord coord = .ok ()) (hz : z ≤ coord.z) :
    ∃ inner outer, tileBounds P coord = .ok inner ∧
      tileBounds P (coord.ancestor z) = .ok outer ∧ inner.Within outer := by
  refine ⟨_, _, tileBounds_ok P h, tileBounds_ok P (validateTileCoord_ancestor h hz), ?_⟩
  obtain ⟨-, hx, hy⟩ := (validateTileCoord_eq_ok_iff coord).mp h
  obtain ⟨-, -, hy'⟩ := (validateTileCoord_eq_ok_iff _).mp (validateTileCoord_ancestor h hz)
  have hk : 0 < 2 ^ (coord.z - z) := by positivity
  have hn : 0 < 2 ^ z := by positivity
  obtain ⟨hwest, heast⟩ := cell_edges_within (K := K) hk hn (i := coord.x)
  obtain ⟨hnorth, hsouth⟩ := cell_edges_within (K := K) hk hn (i := coord.y)
  obtain ⟨htop, -, -⟩ := cell_edges (K := K) hy'
  obtain ⟨-, hside, hbottom⟩ := cell_edges (K := K) hy
  obtain ⟨-, hside', hbottom'⟩ := cell_edges (K := K) hy'
  rw [two_pow_split hz] at hside hbottom
  simp only [TileCoord.ancestor] at htop hside' hbottom'
  constructor
  · simp only [tileXToLongitude, TileCoord.ancestor, two_pow_split hz]
    linarith
  · simp only [tileYToLatitude, TileCoord.ancestor, two_pow_split hz, Nat.cast_add, Nat.cast_one]
    exact P.latitude_anti ((htop.trans (hnorth.trans hside.le))) hsouth hbottom'
  · simp only [tileXToLongitude, TileCoord.ancestor, two_pow_split hz, Nat.cast_add, Nat.cast_one]
    linarith
  · simp only [tileYToLatitude, TileCoord.ancestor, two_pow_split hz]
    exact P.latitude_anti htop hnorth (hside.le.trans hbottom)

end Ancestors

end LumenHorizon.SlippyTiles

namespace LumenHorizon.Processing
open Foundation SlippyTiles

/-- The levels of a pyramid of tiles: each tile once, on the map and at one of the zooms, and each
level made of the tiles that those of the last level lie in. -/
structure IsPyramid {K : Type} [Field K] [LinearOrder K] (P : LatitudeProjection K)
    (coords : List TileCoord) (minZoom maxNativeZoom : ℕ) : Prop where
  nodup : coords.Nodup
  zooms : ∀ coord ∈ coords, minZoom ≤ coord.z ∧ coord.z ≤ maxNativeZoom
  onMap : ∀ coord ∈ coords, validateTileCoord coord = .ok ()
  ancestors : ∀ coord, minZoom ≤ coord.z → coord.z ≤ maxNativeZoom →
    (coord ∈ coords ↔ ∃ deep ∈ coords, deep.z = maxNativeZoom ∧ deep.ancestor coord.z = coord)
  within : ∀ coord ∈ coords, ∀ z ≤ coord.z, ∃ inner outer, tileBounds P coord = .ok inner ∧
    tileBounds P (coord.ancestor z) = .ok outer ∧ inner.Within outer

theorem nodup_inclusive (min max : ℕ) : (inclusive min max).Nodup := List.nodup_range'

theorem nodup_rangeCoords (range : TileRange) : (rangeCoords range).Nodup := by
  rw [rangeCoords, List.nodup_flatMap]
  constructor
  · intro x _
    exact (nodup_inclusive _ _).map fun y y' h => (TileCoord.mk.inj h).2.2
  · refine (nodup_inclusive _ _).imp fun {x x'} hne coord hcoord hcoord' => ?_
    obtain ⟨y, -, rfl⟩ := List.mem_map.mp hcoord
    obtain ⟨y', -, h⟩ := List.mem_map.mp hcoord'
    exact hne (TileCoord.mk.inj h).2.1.symm

variable {K : Type} [Field K] [LinearOrder K] [FloorRing K] [IsStrictOrderedRing K]
  {P : LatitudeProjection K} {bounds : GeographicBounds K}

/-- The columns and rows of a level are those that the ones of a deeper level lie in. -/
theorem mem_rangeCoords_boundsRange_iff (hb : validateBounds bounds = .ok ()) {z z' : ℕ}
    (hz : z ≤ z') {coord : TileCoord} :
    coord ∈ rangeCoords (boundsRange P bounds z) ↔
      ∃ deep ∈ rangeCoords (boundsRange P bounds z'), deep.ancestor z = coord := by
  obtain ⟨-, -, hs, hn, hwe, hsn⟩ := (validateBounds_eq_ok_iff bounds).mp hb
  have hk : 0 < 2 ^ (z' - z) := by positivity
  have hrows : P.row bounds.north ≤ P.row bounds.south :=
    (P.row_strictAntiOn (mem_domain_of_limit hs.1 hs.2) (mem_domain_of_limit hn.1 hn.2) hsn).le
  have hx := Grid.exists_div_eq_iff (j := coord.x) hk (Grid.cell_mono
    (by linarith : (bounds.west + 180) / 360 ≤ (bounds.east + 180) / 360) (2 ^ z'))
  have hy := Grid.exists_div_eq_iff (j := coord.y) hk (Grid.cell_mono hrows (2 ^ z'))
  simp only [two_pow_split hz, Grid.cell_mul_div hk] at hx hy
  simp only [mem_rangeCoords, boundsRange, ← hx, ← hy, two_pow_split hz]
  constructor
  · rintro ⟨rfl, ⟨x, hcolumn, hxeq⟩, y, hrow, hyeq⟩
    refine ⟨⟨z', x, y⟩, ⟨rfl, hcolumn, hrow⟩, ?_⟩
    simp only [TileCoord.ancestor, hxeq, hyeq]
  · rintro ⟨deep, ⟨hdeep, hcolumn, hrow⟩, rfl⟩
    simp only [TileCoord.ancestor, hdeep]
    exact ⟨trivial, ⟨_, hcolumn, rfl⟩, _, hrow, rfl⟩

/-- A level that could be planned has valid bounds and a supported zoom. -/
theorem valid_of_planRanges {zooms : List ℕ} {ranges : List TileRange} {tileCount : ℕ}
    {planned : List TileRange × ℕ} (h : planRanges P bounds zooms ranges tileCount = .ok planned) :
    ∀ z ∈ zooms, validateBounds bounds = .ok () ∧ z ≤ maxSupportedZoom := by
  induction zooms generalizing ranges tileCount with
  | nil => simp
  | cons z zooms ih =>
    obtain ⟨range, hrange, hrest⟩ := bind_eq_ok_iff.mp h
    have hrange := liftTileMath_eq_ok_iff.mp hrange
    obtain ⟨⟨⟩, hbounds, -⟩ := bind_eq_ok_iff.mp hrange
    rintro z' (_ | ⟨_, hmem⟩)
    · exact ⟨hbounds, (within_of_tileRangeForBounds hrange).zoom_le⟩
    · exact ih hrest z' hmem

theorem valid_of_plan {minZoom maxNativeZoom : ℕ} {plan : TileGenerationPlan}
    (h : planTileGenerationForBounds P bounds minZoom maxNativeZoom = .ok plan)
    (hzooms : minZoom ≤ maxNativeZoom) :
    validateBounds bounds = .ok () ∧ maxNativeZoom ≤ maxSupportedZoom := by
  obtain ⟨planned, hplanned, -⟩ := bind_eq_ok_iff.mp h
  exact valid_of_planRanges hplanned _ (mem_inclusive.mpr ⟨hzooms, le_rfl⟩)

/-- Whatever can be planned is a pyramid with as many tiles as were counted. -/
theorem plan_pyramid {minZoom maxNativeZoom : ℕ} {plan : TileGenerationPlan}
    (hzooms : minZoom ≤ maxNativeZoom)
    (h : planTileGenerationForBounds P bounds minZoom maxNativeZoom = .ok plan) :
    IsPyramid P plan.coords minZoom maxNativeZoom ∧ plan.coords.length = plan.tileCount := by
  obtain ⟨hb, hz⟩ := valid_of_plan h hzooms
  have hmem := mem_coords P hb hz h
  have honMap : ∀ coord ∈ plan.coords, validateTileCoord coord = .ok () := by
    intro coord hcoord
    obtain ⟨hzoom, hrange⟩ := (hmem coord).mp hcoord
    have hwithin := within_of_tileRangeForBounds (tileRangeForBounds_ok P hb (hzoom.2.trans hz))
    obtain ⟨-, hx, hy⟩ := mem_rangeCoords.mp hrange
    rw [validateTileCoord_eq_ok_iff]
    exact ⟨hwithin.zoom_le, hx.2.trans_lt hwithin.x_lt, hy.2.trans_lt hwithin.y_lt⟩
  refine ⟨{
    nodup := ?_
    zooms := fun coord hcoord => ((hmem coord).mp hcoord).1
    onMap := honMap
    ancestors := ?_
    within := fun coord hcoord z hle => tileBounds_ancestor P (honMap coord hcoord) hle },
    (length_coords h).1⟩
  · rw [TileGenerationPlan.coords, planTileGenerationForBounds_ranges P hb hz h, List.flatMap_map,
      List.nodup_flatMap]
    refine ⟨fun z _ => nodup_rangeCoords _, (nodup_inclusive _ _).imp fun {z z'} hne => ?_⟩
    intro coord hcoord hcoord'
    exact hne ((mem_rangeCoords.mp hcoord).1.symm.trans (mem_rangeCoords.mp hcoord').1)
  · intro coord hmin hmax
    rw [hmem, mem_rangeCoords_boundsRange_iff hb hmax]
    constructor
    · rintro ⟨-, deep, hdeep, hancestor⟩
      have hzoom : deep.z = maxNativeZoom := (mem_rangeCoords.mp hdeep).1
      exact ⟨deep, (hmem deep).mpr ⟨⟨hzoom ▸ hzooms, hzoom.le⟩, hzoom ▸ hdeep⟩, hzoom, hancestor⟩
    · rintro ⟨deep, hdeep, hzoom, hancestor⟩
      exact ⟨⟨hmin, hmax⟩, deep, hzoom ▸ ((hmem deep).mp hdeep).2, hancestor⟩

section TileSets

variable {V : Type} {science : SampleScience K V} {granule : GranuleRasters V}
  {sourceBounds : GeographicBounds K} {rasterShape : RasterShape}

omit [IsStrictOrderedRing K] in
theorem coords_of_generateTilesForPlan {plan : TileGenerationPlan} {tileSize : ℕ}
    {tiles : List RenderedTile}
    (h : generateTilesForPlan P science granule sourceBounds rasterShape plan tileSize =
      .ok tiles) : tiles.map RenderedTile.coord = plan.coords := by
  obtain ⟨jobs, hjobs, htiles⟩ := bind_eq_ok_iff.mp h
  have himage : tiles.map RenderedTile.coord = [].map RenderedTile.coord ++
      jobs.map fun job => job.2.1 :=
    pushLoop_image (fun _ _ _ hrender => coord_of_renderTileWindowFromGranule hrender) htiles
  rw [himage, coords_of_tileRenderJobs hjobs]
  rfl

/-- A generated tile set is a pyramid between the zooms of its manifest. -/
theorem generateTileSet_pyramid {settings : TileSettings K} {tileSetId : String}
    {tileSet : GeneratedTileSet K}
    (h : generateTileSet P science granule settings tileSetId sourceBounds rasterShape =
      .ok tileSet) :
    IsPyramid P (tileSet.tiles.map RenderedTile.coord) tileSet.manifest.minZoom
        tileSet.manifest.maxNativeZoom ∧
      tileSet.tiles.length = tileSet.plan.tileCount := by
  obtain ⟨generationBounds, -, hplan, htiles, hmanifest⟩ := generateTileSet_eq_ok h
  obtain ⟨-, hmanifest⟩ := TileSetManifest.fromConfig_eq_ok_iff.mp hmanifest
  obtain ⟨hpyramid, hcount⟩ := plan_pyramid settings.zooms.min_le_native hplan
  have hcoords := coords_of_generateTilesForPlan htiles
  rw [hcoords, hmanifest]
  exact ⟨hpyramid, by rw [← hcount, ← hcoords, List.length_map]⟩

end TileSets

section Sample

/-- Two tiles of one clear pixel at each of two zooms. -/
def pyramidTileSet : GeneratedTileSet ℚ where
  plan := ⟨[⟨2, 0, 0, 0, 1⟩, ⟨3, 1, 1, 1, 2⟩], 4⟩
  tiles := [⟨2, 0, 0⟩, ⟨2, 0, 1⟩, ⟨3, 1, 1⟩, ⟨3, 1, 2⟩].map fun coord => ⟨coord, [⟨0, 0, 0, 0⟩]⟩
  manifest := ⟨"sample", 2, 3, 3, ⟨-110, 40, -100, 50⟩,
    "https://tiles/tiles/sample/{z}/{x}/{y}.png"⟩

theorem generateTileSet_pyramid_h07v04 :
    IsPyramid linearProjection (pyramidTileSet.tiles.map RenderedTile.coord) 2 3 ∧
      pyramidTileSet.tiles.length = 4 := by
  have h : generateTileSet linearProjection ⟨fun _ _ _ _ => .ok false, fun _ => .ok none⟩
      ⟨fun _ _ => (), fun _ _ => (), none, none⟩
      ⟨⟨2, 3, 3, by decide, by decide, by decide⟩, 1, ⟨-110, 40, -100, 50⟩, "https://tiles"⟩
      "sample" ⟨-110, 40, -100, 50⟩ ⟨2, 2⟩ = .ok pyramidTileSet := by decide +kernel
  exact generateTileSet_pyramid h

end Sample

end LumenHorizon.Processing
