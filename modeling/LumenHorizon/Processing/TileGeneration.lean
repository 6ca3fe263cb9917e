import LumenHorizon.Foundation.History
import LumenHorizon.Processing.Publish
import LumenHorizon.Processing.Settings
import LumenHorizon.Shared.Strings

/-! # Generated tile sets

Planning, rendering and the manifest of one granule put together. The manifest names the bounds
that were planned for, and a coordinate that overlaps them at a planned zoom is planned.
-/

namespace LumenHorizon.Processing
open Foundation Shared SlippyTiles ProcessingProgram

structure TileSettings (K : Type) where
  zooms : TileZooms
  tileSize : ℕ
  tileBounds : TileBounds K
  tileCdnBaseUrl : String

structure TileSetManifest (K : Type) where
  tileSetId : String
  minZoom : ℕ
  maxNativeZoom : ℕ
  maxDisplayZoom : ℕ
  bounds : GeographicBounds K
  tileUrlTemplate : String
deriving DecidableEq, Repr

structure GeneratedTileSet (K : Type) where
  plan : TileGenerationPlan
  tiles : List RenderedTile
  manifest : TileSetManifest K
deriving DecidableEq

/-- The error of the manifest stands beside those of the generation. -/
inductive TileSetError (K : Type) where
  | generate (error : GenerateError K)
  | manifest (error : TileMathError)
deriving DecidableEq

def buildTileUrlTemplate (cdnBaseUrl tileSetId : String) : Except TileMathError String := do
  let _ ← Shared.manifestBlobPath tileSetId
  .ok (trimEndChar '/' cdnBaseUrl ++ "/tiles/" ++ tileSetId ++ "/\x7bz\x7d/\x7bx\x7d/\x7by\x7d.png")

section Generation

variable {K V : Type} [Field K] [LinearOrder K]

def TileSetManifest.fromConfig (settings : TileSettings K) (tileSetId : String)
    (bounds : GeographicBounds K) : Except TileMathError (TileSetManifest K) := do
  let tileUrlTemplate ← buildTileUrlTemplate settings.tileCdnBaseUrl tileSetId
  .ok {
    tileSetId := tileSetId
    minZoom := settings.zooms.minZoom
    maxNativeZoom := settings.zooms.maxNativeZoom
    maxDisplayZoom := settings.zooms.maxDisplayZoom
    bounds := bounds
    tileUrlTemplate := tileUrlTemplate }

variable [FloorRing K] (P : LatitudeProjection K) (science : SampleScience K V)
  (granule : GranuleRasters V)

/-- The jobs may be rendered in any order; their tiles are put into the order of the plan. -/
def generateTilesForPlan (sourceBounds : GeographicBounds K) (rasterShape : RasterShape)
    (plan : TileGenerationPlan) (tileSize : ℕ) : Except (GenerateError K) (List RenderedTile) := do
  let jobs ← tileRenderJobs P sourceBounds rasterShape plan
  pushLoop
    (fun job => renderTileWindowFromGranule science granule job.2.1 job.2.2 tileSize)
    (fun _ _ tile => tile) [] jobs

def renderPlannedTiles (settings : TileSettings K) (sourceBounds : GeographicBounds K)
    (rasterShape : RasterShape) :
    Except (GenerateError K) (GeographicBounds K × TileGenerationPlan × List RenderedTile) :=
  match clipBounds sourceBounds settings.tileBounds.toGeographic with
  | none =>
    .error (.configuredBoundsOutsideSource sourceBounds settings.tileBounds.toGeographic)
  | some generationBounds => do
    let plan ← planTileGenerationForBounds P generationBounds settings.zooms.minZoom
      settings.zooms.maxNativeZoom
    let tiles ← generateTilesForPlan P science granule sourceBounds rasterShape plan
      settings.tileSize
    .ok (generationBounds, plan, tiles)

/-- `generate_tile_set_for_granule_with_manifest`. -/
def generateTileSet (settings : TileSettings K) (tileSetId : String)
    (sourceBounds : GeographicBounds K) (rasterShape : RasterShape) :
    Except (TileSetError K) (GeneratedTileSet K) :=
  match renderPlannedTiles P science granule settings sourceBounds rasterShape with
  | .error error => .error (.generate error)
  | .ok (generationBounds, plan, tiles) =>
    match TileSetManifest.fromConfig settings tileSetId generationBounds with
    | .error error => .error (.manifest error)
    | .ok manifest => .ok { plan := plan, tiles := tiles, manifest := manifest }

variable {P : LatitudeProjection K} {science : SampleScience K V} {granule : GranuleRasters V}
  {sourceBounds : GeographicBounds K} {rasterShape : RasterShape} {plan : TileGenerationPlan}
  {tileSize : ℕ} {settings : TileSettings K} {tileSetId : String}

omit [Field K] [LinearOrder K] [FloorRing K] in
theorem coord_of_renderTileWindowFromGranule {coord : TileCoord} {window : RasterWindow}
    {tile : RenderedTile}
    (h : renderTileWindowFromGranule science granule coord window tileSize = .ok tile) :
    tile.coord = coord := by
  obtain ⟨pixels, -, h⟩ := bind_eq_ok_iff.mp h
  split at h
  · cases h
  · cases h
    rfl

theorem coords_of_tileRenderJobs {jobs : List (ℕ × TileCoord × RasterWindow)}
    (h : tileRenderJobs P sourceBounds rasterShape plan = .ok jobs) :
    jobs.map (fun job => job.2.1) = plan.coords := by
  simpa using pushLoop_map (fun _ _ _ => rfl) h

theorem exists_tile_of_mem_coords {tiles : List RenderedTile}
    (h : generateTilesForPlan P science granule sourceBounds rasterShape plan tileSize = .ok tiles)
    {coord : TileCoord} (hcoord : coord ∈ plan.coords) : ∃ tile ∈ tiles, tile.coord = coord := by
  obtain ⟨jobs, hjobs, htiles⟩ := bind_eq_ok_iff.mp h
  rw [← coords_of_tileRenderJobs hjobs] at hcoord
  obtain ⟨job, hjob, rfl⟩ := List.mem_map.mp hcoord
  obtain ⟨k, hk⟩ := List.getElem?_of_mem hjob
  obtain ⟨tile, hrender, hout⟩ := pushLoop_getElem? htiles hk
  exact ⟨tile, List.mem_of_getElem? hout, coord_of_renderTileWindowFromGranule hrender⟩

theorem generateTileSet_eq_ok {tileSet : GeneratedTileSet K}
    (h : generateTileSet P science granule settings tileSetId sourceBounds rasterShape =
      .ok tileSet) :
    ∃ generationBounds, clipBounds sourceBounds settings.tileBounds.toGeographic =
        some generationBounds ∧
      planTileGenerationForBounds P generationBounds settings.zooms.minZoom
        settings.zooms.maxNativeZoom = .ok tileSet.plan ∧
      generateTilesForPlan P science granule sourceBounds rasterShape tileSet.plan
        settings.tileSize = .ok tileSet.tiles ∧
      TileSetManifest.fromConfig settings tileSetId generationBounds = .ok tileSet.manifest := by
  unfold generateTileSet at h
  split at h
  · cases h
  next generationBounds plan tiles hrendered =>
  split at h
  · cases h
  next manifest hmanifest =>
  cases h
  unfold renderPlannedTiles at hrendered
  split at hrendered
  · cases hrendered
  next bounds hclip =>
  obtain ⟨plan', hplan, hrendered⟩ := bind_eq_ok_iff.mp hrendered
  obtain ⟨tiles', htiles, hrendered⟩ := bind_eq_ok_iff.mp hrendered
  cases hrendered
  exact ⟨_, hclip, hplan, htiles, hmanifest⟩

omit [Field K] [LinearOrder K] [FloorRing K] in
theorem TileSetManifest.fromConfig_eq_ok_iff {bounds : GeographicBounds K}
    {manifest : TileSetManifest K} : fromConfig settings tileSetId bounds = .ok manifest ↔
      ValidTileSetId tileSetId ∧ manifest = {
        tileSetId := tileSetId
        minZoom := settings.zooms.minZoom
        maxNativeZoom := settings.zooms.maxNativeZoom
        maxDisplayZoom := settings.zooms.maxDisplayZoom
        bounds := bounds
        tileUrlTemplate := trimEndChar '/' settings.tileCdnBaseUrl ++ "/tiles/" ++ tileSetId ++
          "/\x7bz\x7d/\x7bx\x7d/\x7by\x7d.png" } := by
  simp only [fromConfig, buildTileUrlTemplate, bind_eq_ok_iff, manifestBlobPath_eq_ok_iff,
    Except.ok.injEq]
  constructor
  · rintro ⟨_, ⟨path, ⟨hvalid, -⟩, rfl⟩, rfl⟩
    exact ⟨hvalid, rfl⟩
  · rintro ⟨hvalid, rfl⟩
    exact ⟨_, ⟨_, ⟨hvalid, rfl⟩, rfl⟩, rfl⟩

variable [IsStrictOrderedRing K]

/-- A coordinate at a planned zoom that overlaps the bounds planned for is planned. -/
theorem mem_coords_of_overlaps {generationBounds : GeographicBounds K}
    (hbounds : validateBounds generationBounds = .ok ()) {minZoom maxNativeZoom : ℕ}
    (hnative : maxNativeZoom ≤ maxSupportedZoom)
    (hplan : planTileGenerationForBounds P generationBounds minZoom maxNativeZoom = .ok plan)
    {coord : TileCoord} (hmin : minZoom ≤ coord.z) (hmax : coord.z ≤ maxNativeZoom)
    {tile : GeographicBounds K} (htile : tileBounds P coord = .ok tile)
    (hoverlaps : StrictlyOverlaps tile generationBounds) : coord ∈ plan.coords := by
  obtain ⟨-, -, hsouth, hnorth, -, -⟩ := (validateBounds_eq_ok_iff _).mp hbounds
  have hsouth := mem_domain_of_limit hsouth.1 hsouth.2
  have hnorth := mem_domain_of_limit hnorth.1 hnorth.2
  obtain ⟨hvalid, -, -⟩ := tileBounds_nonempty htile
  obtain ⟨-, hx, hy⟩ := (validateTileCoord_eq_ok_iff coord).mp hvalid
  cases (tileBounds_ok P hvalid).symm.trans htile
  obtain ⟨hcolumn, hrow⟩ := hoverlaps
  have hx' := Grid.mem_range_of_overlaps hx ((column_overlaps_iff generationBounds _ _).mp hcolumn)
  have hy' : Grid.Overlaps (P.row generationBounds.north) (P.row generationBounds.south) coord.y
      (2 ^ coord.z) := by
    obtain ⟨h0, hlt, h1⟩ := cell_edges (K := K) hy
    simp only [tileYToLatitude, Nat.cast_add, Nat.cast_one] at hrow
    exact ⟨(P.lt_latitude_iff h0 (hlt.le.trans h1) hsouth).mp hrow.2,
      (P.latitude_lt_iff (h0.trans hlt.le) h1 hnorth).mp hrow.1⟩
  have hrange : coord ∈ rangeCoords (boundsRange P generationBounds coord.z) :=
    mem_rangeCoords.mpr ⟨rfl, hx', Grid.mem_range_of_overlaps hy hy'⟩
  exact (mem_coords P hbounds hnative hplan coord).mpr ⟨⟨hmin, hmax⟩, hrange⟩

end Generation

theorem uploadTiles_follows_ok {tileSetId : String} {tiles : List RenderedTile}
    {t : Transcript ProcessingCall ProcessingCall.Reply}
    (h : (uploadTiles tileSetId tiles).Follows t (.done (.ok ()))) :
    ∀ tile ∈ tiles, ∃ path, tileBlobPath tileSetId tile.coord = .ok path ∧
      ⟨.uploadProcessedBlob path .tile, .ok ()⟩ ∈ t := by
  induction tiles generalizing t with
  | nil => simp
  | cons tile tiles ih =>
    unfold uploadTiles at h
    split at h
    · cases (Program.follows_done_iff.mp h).2
    next path hpath =>
    obtain ⟨reply, t', h', rfl⟩ := Program.follows_request_bind_done_iff.mp h
    cases reply with
    | error error => cases (Program.follows_done_iff.mp h').2
    | ok _ =>
      intro tile' htile'
      rcases List.mem_cons.mp htile' with rfl | htile'
      · exact ⟨path, hpath, List.mem_append_right _ (List.mem_singleton_self _)⟩
      · obtain ⟨path', hpath', hmem⟩ := ih h' tile' htile'
        exact ⟨path', hpath', List.mem_append_left _ hmem⟩

theorem publishTileSet_follows_ok {manifest : TileManifest} {tiles : List RenderedTile}
    {promotedAt : ℕ} {t : Transcript ProcessingCall ProcessingCall.Reply}
    {pointer : LatestManifestPointer}
    (h : (publishTileSet manifest tiles promotedAt).Follows t (.done (.ok pointer))) :
    ∀ tile ∈ tiles, ∃ path, tileBlobPath manifest.tileSetId tile.coord = .ok path ∧
      ⟨.uploadProcessedBlob path .tile, .ok ()⟩ ∈ t := by
  obtain ⟨outcome, t₁, t₂, h₁, h₂, rfl⟩ := Program.follows_bind_done_iff.mp h
  cases outcome with
  | error error => cases (Program.follows_done_iff.mp h₂).2
  | ok _ =>
    intro tile htile
    obtain ⟨path, hpath, hmem⟩ := uploadTiles_follows_ok h₁ tile htile
    exact ⟨path, hpath, List.mem_append_right _ hmem⟩

end LumenHorizon.Processing
