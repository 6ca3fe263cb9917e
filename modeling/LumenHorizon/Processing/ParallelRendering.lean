import LumenHorizon.Foundation.JoinSet
import LumenHorizon.Processing.TileGeneration

/-! # Parallel rendering

The renders of a plan are spawned up to a limit and joined in whatever order they finish. Sorted by
the index of their job they are the tiles of a sequential run, and a render that fails or panics
fails the whole call.
-/

namespace LumenHorizon.Processing
open Foundation Shared SlippyTiles

/-- What a spawned render ends with, besides a tile. -/
inductive RenderTaskError (K : Type) where
  | generate (error : GenerateError K)
  | renderWorker (source : String)
  | manifest (error : TileMathError)
deriving DecidableEq

/-- The index, the coordinate and the window of a planned tile. -/
abbrev RenderJob := ℕ × TileCoord × RasterWindow

/-- A run that has not ended by the end of its schedule shows how far its loop has got. -/
inductive RenderStatus (K α : Type) where
  | running (loop : JoinLoop RenderJob (ℕ × RenderedTile))
  | returned (result : Except (RenderTaskError K) α)
deriving DecidableEq

structure RenderedTileSet (K : Type) where
  plan : TileGenerationPlan
  tiles : List RenderedTile
  manifest : TileSetManifest K
  tileCount : ℕ
deriving DecidableEq

section Rendering

variable {K : Type} [Field K] [LinearOrder K] [FloorRing K] (P : LatitudeProjection K)
  (render : RenderJob → Except (RenderTaskError K) RenderedTile)

omit [Field K] [LinearOrder K] [FloorRing K] in
def renderTask (job : RenderJob) : Except (RenderTaskError K) (ℕ × RenderedTile) := do
  let renderedTile ← render job
  .ok (job.1, renderedTile)

/-- `tiles.sort_by_key`, after which the indices are dropped. -/
def collectTiles (tiles : List (ℕ × RenderedTile)) : List RenderedTile :=
  (tiles.insertionSort fun a b => a.1 ≤ b.1).map Prod.snd

def generateTilesForPlanWithRenderer (sourceBounds : GeographicBounds K)
    (rasterShape : RasterShape) (plan : TileGenerationPlan) (maxParallelism : ℕ)
    (schedule : List ℕ) : RenderStatus K (List RenderedTile) :=
  match tileRenderJobs P sourceBounds rasterShape plan with
  | .error error => .returned (.error (.generate error))
  | .ok jobs =>
    match (JoinLoop.start jobs).run (renderTask render) (max maxParallelism 1) schedule with
    | .running loop => .running loop
    | .returned (.error error) => .returned (.error error)
    | .returned (.ok tiles) => .returned (.ok (collectTiles tiles))

def generateTileSetWithRenderer (settings : TileSettings K) (tileSetId : String)
    (generationBounds sourceBounds : GeographicBounds K) (rasterShape : RasterShape)
    (maxParallelism : ℕ) (schedule : List ℕ) : RenderStatus K (RenderedTileSet K) :=
  match planTileGenerationForBounds P generationBounds settings.zooms.minZoom
      settings.zooms.maxNativeZoom with
  | .error error => .returned (.error (.generate error))
  | .ok plan =>
    match generateTilesForPlanWithRenderer P render sourceBounds rasterShape plan maxParallelism
        schedule with
    | .running loop => .running loop
    | .returned (.error error) => .returned (.error error)
    | .returned (.ok tiles) =>
      match TileSetManifest.fromConfig settings tileSetId generationBounds with
      | .error error => .returned (.error (.manifest error))
      | .ok manifest => .returned (.ok {
          plan := plan
          tiles := tiles
          manifest := manifest
          -- `tiles.len() as u32`
          tileCount := tiles.length % 2 ^ 32 })

omit [Field K] [LinearOrder K] [FloorRing K] in
def renderSequentially (jobs : List RenderJob) :
    Except (RenderTaskError K) (List RenderedTile) :=
  pushLoop render (fun _ _ tile => tile) [] jobs

variable {P render} {sourceBounds generationBounds : GeographicBounds K}
  {rasterShape : RasterShape} {plan : TileGenerationPlan} {jobs : List RenderJob}
  {maxParallelism : ℕ} {schedule : List ℕ}

omit [Field K] [LinearOrder K] [FloorRing K] in
theorem renderTask_eq_ok_iff {job : RenderJob} {tile : ℕ × RenderedTile} :
    renderTask render job = .ok tile ↔ tile.1 = job.1 ∧ render job = .ok tile.2 := by
  simp only [renderTask, bind_eq_ok_iff]
  constructor
  · rintro ⟨renderedTile, hrender, heq⟩
    cases heq
    exact ⟨rfl, hrender⟩
  · rintro ⟨hindex, hrender⟩
    exact ⟨tile.2, hrender, by rw [← hindex]⟩

omit [Field K] [LinearOrder K] [FloorRing K] in
theorem renderTask_eq_error_iff {job : RenderJob} {error : RenderTaskError K} :
    renderTask render job = .error error ↔ render job = .error error := by
  simp [renderTask, bind_eq_error_iff]

/-- The indices of the jobs are their places in the list. -/
theorem pairwise_tileRenderJobs (h : tileRenderJobs P sourceBounds rasterShape plan = .ok jobs) :
    jobs.Pairwise fun a b => a.1 < b.1 := by
  have hindex : jobs.map Prod.fst = List.range' 0 plan.coords.length :=
    pushLoop_index (fun _ _ _ => rfl) h
  have hlt : (jobs.map Prod.fst).Pairwise (· < ·) := hindex ▸ List.pairwise_lt_range'
  exact List.pairwise_map.mp hlt

omit [Field K] [LinearOrder K] [FloorRing K] in
/-- A loop that reports results for all of its jobs has their tiles, in the order of the jobs. -/
theorem collectTiles_of_reports {tiles : List (ℕ × RenderedTile)}
    (h : JoinLoop.Reports (renderTask render) jobs (.ok tiles))
    (hjobs : jobs.Pairwise fun a b => a.1 < b.1) :
    List.Forall₂ (fun job tile => render job = .ok tile) jobs (collectTiles tiles) := by
  have hsorted := h.sort hjobs fun job tile htile => (renderTask_eq_ok_iff.mp htile).1
  rw [collectTiles, List.forall₂_map_right_iff]
  exact hsorted.imp fun job tile htile => (renderTask_eq_ok_iff.mp htile).2

/-- No more renders are in flight than allowed, however far the loop has got. -/
theorem inFlight_le {loop : JoinLoop RenderJob (ℕ × RenderedTile)}
    (hrun : generateTilesForPlanWithRenderer P render sourceBounds rasterShape plan maxParallelism
      schedule = .running loop) : loop.inFlight.length ≤ max 1 maxParallelism := by
  unfold generateTilesForPlanWithRenderer at hrun
  split at hrun
  · cases hrun
  next jobs _ =>
  have hstart := JoinLoop.accounts_start (renderTask render) (max maxParallelism 1) jobs
  split at hrun
  next loop' hloop =>
    cases hrun
    have hend := hstart.run (lt_max_of_lt_right Nat.one_pos) hloop
    exact hend.bounded.trans (max_comm _ _).le
  · cases hrun
  · cases hrun

variable (hjobs : tileRenderJobs P sourceBounds rasterShape plan = .ok jobs)
include hjobs

/-- A schedule of two steps for each job, and one for the return, is enough. -/
theorem exists_result (hlong : 2 * jobs.length < schedule.length) :
    ∃ result, generateTilesForPlanWithRenderer P render sourceBounds rasterShape plan
      maxParallelism schedule = .returned result := by
  have hstart := JoinLoop.accounts_start (renderTask render) (max maxParallelism 1) jobs
  obtain ⟨result, hrun⟩ := hstart.run_ends (lt_max_of_lt_right Nat.one_pos) hlong
  unfold generateTilesForPlanWithRenderer
  rw [hjobs]
  simp only [hrun]
  cases result with
  | error error => exact ⟨_, rfl⟩
  | ok tiles => exact ⟨_, rfl⟩

/-- What a loop that has returned says of its jobs, whatever the order was. -/
theorem result_cases {result : Except (RenderTaskError K) (List RenderedTile)}
    (hresult : generateTilesForPlanWithRenderer P render sourceBounds rasterShape plan
      maxParallelism schedule = .returned result) :
    (∃ tiles, result = .ok tiles ∧
        List.Forall₂ (fun job tile => render job = .ok tile) jobs tiles) ∨
      ∃ error, result = .error error ∧ ∃ job ∈ jobs, render job = .error error := by
  have hstart := JoinLoop.accounts_start (renderTask render) (max maxParallelism 1) jobs
  unfold generateTilesForPlanWithRenderer at hresult
  rw [hjobs] at hresult
  cases hrun : (JoinLoop.start jobs).run (renderTask render) (max maxParallelism 1) schedule with
  | running s => simp [hrun] at hresult
  | returned outcome =>
    have hreports := hstart.run_returned (lt_max_of_lt_right Nat.one_pos) hrun
    simp only [hrun] at hresult
    cases outcome with
    | error error =>
      obtain ⟨job, hjob, herror⟩ := hreports
      cases hresult
      exact .inr ⟨error, rfl, job, hjob, renderTask_eq_error_iff.mp herror⟩
    | ok tiles =>
      cases hresult
      exact .inl ⟨_, rfl, collectTiles_of_reports hreports (pairwise_tileRenderJobs hjobs)⟩

/-- The tiles are those of rendering one job after the other. -/
theorem result_eq_ok_iff {result : Except (RenderTaskError K) (List RenderedTile)}
    (hresult : generateTilesForPlanWithRenderer P render sourceBounds rasterShape plan
      maxParallelism schedule = .returned result) (tiles : List RenderedTile) :
    result = .ok tiles ↔ renderSequentially render jobs = .ok tiles := by
  rw [renderSequentially, pushLoop_results_iff]
  rcases result_cases hjobs hresult with ⟨tiles', rfl, hrendered⟩ | ⟨error, rfl, job, hjob, herror⟩
  · rw [Except.ok.injEq]
    constructor
    · rintro rfl
      exact hrendered
    · intro h
      have hunique : Relator.RightUnique fun (job : RenderJob) tile => render job = .ok tile :=
        fun job tile tile' htile htile' => Except.ok.inj (htile.symm.trans htile')
      exact hunique.forall₂ hrendered h
  · refine iff_of_false nofun fun h => ?_
    obtain ⟨tile, htile⟩ := (pushLoop_isOk_iff render (fun _ _ tile => tile) [] jobs).mp
      ⟨tiles, pushLoop_results_iff.mpr h⟩ job hjob
    cases herror.symm.trans htile

theorem result_ok_of_rendered {result : Except (RenderTaskError K) (List RenderedTile)}
    (hresult : generateTilesForPlanWithRenderer P render sourceBounds rasterShape plan
      maxParallelism schedule = .returned result)
    (hall : ∀ job ∈ jobs, ∃ tile, render job = .ok tile) :
    ∃ tiles, result = .ok tiles ∧ renderSequentially render jobs = .ok tiles ∧
      List.Forall₂ (fun job tile => render job = .ok tile) jobs tiles := by
  obtain ⟨tiles, htiles⟩ := (pushLoop_isOk_iff render (fun _ _ tile => tile) [] jobs).mpr hall
  exact ⟨tiles, (result_eq_ok_iff hjobs hresult tiles).mpr htiles, htiles,
    pushLoop_results_iff.mp htiles⟩

theorem result_error_of_failed {result : Except (RenderTaskError K) (List RenderedTile)}
    (hresult : generateTilesForPlanWithRenderer P render sourceBounds rasterShape plan
      maxParallelism schedule = .returned result)
    (hfails : ∃ job ∈ jobs, ∃ error, render job = .error error) : ∃ error, result = .error error := by
  obtain ⟨job, hjob, error, herror⟩ := hfails
  rcases result_cases hjobs hresult with ⟨tiles, rfl, -⟩ | ⟨error', rfl, -⟩
  · have hsequential := (result_eq_ok_iff hjobs hresult tiles).mp rfl
    obtain ⟨tile, htile⟩ := (pushLoop_isOk_iff render (fun _ _ tile => tile) [] jobs).mp
      ⟨tiles, hsequential⟩ job hjob
    cases herror.symm.trans htile
  · exact ⟨error', rfl⟩

end Rendering

section Granule

variable {K V : Type} [Field K] [LinearOrder K] [FloorRing K]

def renderGranuleJob (science : SampleScience K V) (granule : GranuleRasters V) (tileSize : ℕ)
    (job : RenderJob) : Except (RenderTaskError K) RenderedTile :=
  match renderTileWindowFromGranule science granule job.2.1 job.2.2 tileSize with
  | .error error => .error (.generate error)
  | .ok tile => .ok tile

theorem generateTilesForPlan_of_result {P : LatitudeProjection K} {science : SampleScience K V}
    {granule : GranuleRasters V} {sourceBounds : GeographicBounds K} {rasterShape : RasterShape}
    {plan : TileGenerationPlan} {tileSize maxParallelism : ℕ} {schedule : List ℕ}
    {result : Except (RenderTaskError K) (List RenderedTile)}
    (hresult : generateTilesForPlanWithRenderer P (renderGranuleJob science granule tileSize)
      sourceBounds rasterShape plan maxParallelism schedule = .returned result)
    (tiles : List RenderedTile) :
    result = .ok tiles ↔
      generateTilesForPlan P science granule sourceBounds rasterShape plan tileSize =
        .ok tiles := by
  have hok (job : RenderJob) (tile : RenderedTile) :
      renderGranuleJob science granule tileSize job = .ok tile ↔
        renderTileWindowFromGranule science granule job.2.1 job.2.2 tileSize = .ok tile := by
    unfold renderGranuleJob
    cases renderTileWindowFromGranule science granule job.2.1 job.2.2 tileSize <;> simp
  cases hjobs : tileRenderJobs P sourceBounds rasterShape plan with
  | error error =>
    simp only [generateTilesForPlanWithRenderer, hjobs, RenderStatus.returned.injEq] at hresult
    simp [← hresult, generateTilesForPlan, hjobs, bind, Except.bind]
  | ok jobs =>
    rw [result_eq_ok_iff hjobs hresult, renderSequentially, pushLoop_results_iff,
      generateTilesForPlan, hjobs]
    simp only [bind, Except.bind, pushLoop_results_iff, hok]

end Granule

/-! ## Counting the tiles of a plan -/

section Counting

variable {K : Type} [Field K] [LinearOrder K] [FloorRing K]

/-- `tile_range_tile_count` in `u32` and `u64`; `none` is an overflow. -/
def checkedTileRangeTileCount (range : TileRange) : Option ℕ :=
  if range.minX ≤ range.maxX ∧ range.maxX - range.minX + 1 < 2 ^ 32 ∧
      range.minY ≤ range.maxY ∧ range.maxY - range.minY + 1 < 2 ^ 32 ∧
      (range.maxX - range.minX + 1) * (range.maxY - range.minY + 1) < 2 ^ 64
  then some (tileRangeTileCount range) else none

/-- The loop of the planner in `u64`. -/
def checkedPlanRanges (P : LatitudeProjection K) (bounds : GeographicBounds K) :
    List ℕ → List TileRange → ℕ → Option (Except (GenerateError K) (List TileRange × ℕ))
  | [], ranges, tileCount => some (.ok (ranges, tileCount))
  | z :: zooms, ranges, tileCount =>
    match liftTileMath (tileRangeForBounds P bounds z) with
    | .error error => some (.error error)
    | .ok range =>
      match checkedTileRangeTileCount range with
      | none => none
      | some count =>
        if tileCount + count < 2 ^ 64 then
          checkedPlanRanges P bounds zooms (ranges ++ [range]) (tileCount + count)
        else none

variable [IsStrictOrderedRing K] {P : LatitudeProjection K} {bounds : GeographicBounds K}

theorem RangeWithin.checked {range : TileRange} {z : ℕ} (h : RangeWithin z range) :
    checkedTileRangeTileCount range = some (tileRangeTileCount range) := by
  have haxis : 2 ^ z ≤ 2 ^ 22 := Nat.pow_le_pow_right two_pos h.zoom_le
  have hcount : 4 ^ z ≤ 4 ^ 22 := Nat.pow_le_pow_right (by norm_num) h.zoom_le
  have hx := h.x_lt
  have hy := h.y_lt
  refine if_pos ⟨h.x_le, by omega, h.y_le, by omega, ?_⟩
  calc (range.maxX - range.minX + 1) * (range.maxY - range.minY + 1) ≤ 4 ^ z := h.count_le
    _ ≤ 4 ^ 22 := hcount
    _ < 2 ^ 64 := by norm_num

/-- Before zoom `z` fewer than `4 ^ z` tiles have been counted, so no operation overflows. -/
theorem checkedPlanRanges_eq (P : LatitudeProjection K) (bounds : GeographicBounds K)
    (levels z : ℕ) (ranges : List TileRange) {tileCount : ℕ} (hcount : tileCount < 4 ^ z) :
    checkedPlanRanges P bounds (List.range' z levels) ranges tileCount =
      some (planRanges P bounds (List.range' z levels) ranges tileCount) := by
  induction levels generalizing z ranges tileCount with
  | zero => rfl
  | succ levels ih =>
    rw [List.range'_succ, checkedPlanRanges, planRanges]
    cases hrange : tileRangeForBounds P bounds z with
    | error error => rfl
    | ok range =>
      have hwithin := within_of_tileRangeForBounds hrange
      have hadded : tileCount + tileRangeTileCount range < 4 ^ (z + 1) := by
        have := hwithin.count_le
        rw [Nat.pow_succ]
        omega
      have hsmall : 4 ^ (z + 1) ≤ 4 ^ 23 :=
        Nat.pow_le_pow_right (by norm_num) (Nat.succ_le_succ hwithin.zoom_le)
      have hfits : tileCount + tileRangeTileCount range < 2 ^ 64 := by omega
      simp only [liftTileMath, hwithin.checked, if_pos hfits]
      exact ih (z + 1) (ranges ++ [range]) hadded

omit [Field K] [LinearOrder K] [FloorRing K] [IsStrictOrderedRing K] in
theorem RangeWithin.length_coords {range : TileRange} {z : ℕ} (h : RangeWithin z range) :
    (rangeCoords range).length = tileRangeTileCount range := by
  have hx : range.maxX + 1 - range.minX = range.maxX - range.minX + 1 := by
    have := h.x_le
    omega
  have hy : range.maxY + 1 - range.minY = range.maxY - range.minY + 1 := by
    have := h.y_le
    omega
  simp [rangeCoords, List.length_flatMap, inclusive, tileRangeTileCount, hx, hy]

theorem planRanges_count {zooms : List ℕ} {ranges ranges' : List TileRange} {count count' : ℕ}
    (h : planRanges P bounds zooms ranges count = .ok (ranges', count')) :
    (ranges'.flatMap rangeCoords).length + count =
      (ranges.flatMap rangeCoords).length + count' := by
  induction zooms generalizing ranges count with
  | nil =>
    cases h
    rfl
  | cons z zooms ih =>
    obtain ⟨range, hrange, hrest⟩ := bind_eq_ok_iff.mp h
    have hwithin := within_of_tileRangeForBounds (liftTileMath_eq_ok_iff.mp hrange)
    have hcounted := ih hrest
    simp only [List.flatMap_append, List.flatMap_cons, List.flatMap_nil, List.append_nil,
      List.length_append, hwithin.length_coords] at hcounted
    omega

theorem length_coords {minZoom maxNativeZoom : ℕ} {plan : TileGenerationPlan}
    (h : planTileGenerationForBounds P bounds minZoom maxNativeZoom = .ok plan) :
    plan.coords.length = plan.tileCount ∧ plan.tileCount < 2 ^ 32 := by
  obtain ⟨⟨ranges, count⟩, hranges, hplan⟩ := bind_eq_ok_iff.mp h
  have hcount := planRanges_count hranges
  simp only at hplan
  split_ifs at hplan with hlarge
  cases hplan
  refine ⟨?_, by simp only; omega⟩
  simpa [TileGenerationPlan.coords] using hcount

section TileSets

variable {render : RenderJob → Except (RenderTaskError K) RenderedTile} {settings : TileSettings K}
  {tileSetId : String} {generationBounds sourceBounds : GeographicBounds K}
  {rasterShape : RasterShape} {plan : TileGenerationPlan} {jobs : List RenderJob}
  {maxParallelism : ℕ} {schedule : List ℕ}
  (hplan : planTileGenerationForBounds P generationBounds settings.zooms.minZoom
    settings.zooms.maxNativeZoom = .ok plan)
include hplan

omit [IsStrictOrderedRing K] in
theorem inFlight_le_of_tileSet {loop : JoinLoop RenderJob (ℕ × RenderedTile)}
    (hrun : generateTileSetWithRenderer P render settings tileSetId generationBounds sourceBounds
      rasterShape maxParallelism schedule = .running loop) :
    loop.inFlight.length ≤ max 1 maxParallelism := by
  unfold generateTileSetWithRenderer at hrun
  simp only [hplan] at hrun
  split at hrun
  next loop' htiles =>
    cases hrun
    exact inFlight_le htiles
  · cases hrun
  · split at hrun <;> cases hrun

theorem generateTileSetWithRenderer_of_tiles {tiles : List RenderedTile}
    (htiles : generateTilesForPlanWithRenderer P render sourceBounds rasterShape plan maxParallelism
      schedule = .returned (.ok tiles)) (hlength : tiles.length = plan.tileCount) :
    generateTileSetWithRenderer P render settings tileSetId generationBounds sourceBounds rasterShape
        maxParallelism schedule =
      .returned (((TileSetManifest.fromConfig settings tileSetId generationBounds).mapError
        .manifest).map fun manifest =>
          { plan := plan, tiles := tiles, manifest := manifest, tileCount := plan.tileCount }) := by
  have hsmall := (length_coords hplan).2
  simp only [generateTileSetWithRenderer, hplan, htiles]
  cases TileSetManifest.fromConfig settings tileSetId generationBounds with
  | error error => rfl
  | ok manifest =>
    rw [hlength, Nat.mod_eq_of_lt hsmall]
    rfl

variable (hjobs : tileRenderJobs P sourceBounds rasterShape plan = .ok jobs)
include hjobs

theorem length_of_rendered {tiles : List RenderedTile}
    (h : List.Forall₂ (fun job tile => render job = .ok tile) jobs tiles) :
    tiles.length = plan.tileCount := by
  rw [← h.length_eq, ← (length_coords hplan).1, ← coords_of_tileRenderJobs hjobs, List.length_map]

theorem generateTileSetWithRenderer_counted {tileSet : RenderedTileSet K}
    (h : generateTileSetWithRenderer P render settings tileSetId generationBounds sourceBounds
      rasterShape maxParallelism schedule = .returned (.ok tileSet)) :
    tileSet.plan = plan ∧ tileSet.tiles.length = plan.tileCount ∧
      tileSet.tileCount = plan.tileCount := by
  cases htiles : generateTilesForPlanWithRenderer P render sourceBounds rasterShape plan
      maxParallelism schedule with
  | running loop => simp [generateTileSetWithRenderer, hplan, htiles] at h
  | returned result =>
    rcases result_cases hjobs htiles with ⟨tiles, rfl, hrendered⟩ | ⟨error, rfl, -⟩
    · have hlength := length_of_rendered hplan hjobs hrendered
      rw [generateTileSetWithRenderer_of_tiles hplan htiles hlength, RenderStatus.returned.injEq] at h
      cases hmanifest : TileSetManifest.fromConfig settings tileSetId generationBounds with
      | error error =>
        rw [hmanifest] at h
        cases h
      | ok manifest =>
        rw [hmanifest] at h
        cases h
        exact ⟨rfl, hlength, rfl⟩
    · simp [generateTileSetWithRenderer, hplan, htiles] at h

omit [IsStrictOrderedRing K] in
theorem generateTileSetWithRenderer_fails
    {result : Except (RenderTaskError K) (RenderedTileSet K)}
    (h : generateTileSetWithRenderer P render settings tileSetId generationBounds sourceBounds
      rasterShape maxParallelism schedule = .returned result)
    (hfails : ∃ job ∈ jobs, ∃ error, render job = .error error) : ∃ error, result = .error error := by
  cases htiles : generateTilesForPlanWithRenderer P render sourceBounds rasterShape plan
      maxParallelism schedule with
  | running loop => simp [generateTileSetWithRenderer, hplan, htiles] at h
  | returned outcome =>
    obtain ⟨error, rfl⟩ := result_error_of_failed hjobs htiles hfails
    simp only [generateTileSetWithRenderer, hplan, htiles, RenderStatus.returned.injEq] at h
    exact ⟨error, h.symm⟩

end TileSets
end Counting

/-! ## The promise of the parallel loop -/

section Promise

variable {K : Type} [Field K] [LinearOrder K] [FloorRing K]

/-- What the loop promises of a plan with these jobs: they are the coordinates of the plan in order;
no more of them are in flight than allowed; the loop ends; with every render it returns the tiles of
a sequential run, and with a failed or panicked one an error. -/
structure RendersPlan (P : LatitudeProjection K)
    (render : RenderJob → Except (RenderTaskError K) RenderedTile)
    (sourceBounds : GeographicBounds K) (rasterShape : RasterShape) (plan : TileGenerationPlan)
    (jobs : List RenderJob) (maxParallelism : ℕ) (schedule : List ℕ) : Prop where
  inPlanOrder : jobs.map (fun job => job.2.1) = plan.coords
  bounded : ∀ loop, generateTilesForPlanWithRenderer P render sourceBounds rasterShape plan
    maxParallelism schedule = .running loop → loop.inFlight.length ≤ max 1 maxParallelism
  ends : 2 * jobs.length < schedule.length → ∃ result, generateTilesForPlanWithRenderer P render
    sourceBounds rasterShape plan maxParallelism schedule = .returned result
  succeeds : ∀ result, generateTilesForPlanWithRenderer P render sourceBounds rasterShape plan
      maxParallelism schedule = .returned result →
    (∀ job ∈ jobs, ∃ tile, render job = .ok tile) →
    ∃ tiles, result = .ok tiles ∧ renderSequentially render jobs = .ok tiles ∧
      List.Forall₂ (fun job tile => render job = .ok tile) jobs tiles
  fails : ∀ result, generateTilesForPlanWithRenderer P render sourceBounds rasterShape plan
      maxParallelism schedule = .returned result →
    (∃ job ∈ jobs, ∃ error, render job = .error error) → ∃ error, result = .error error

/-- The same of the tile set that is made of the tiles: where every render succeeds, it is returned
with as many tiles as its plan and its manifest say, unless its id is refused. -/
structure BuildsTileSet (P : LatitudeProjection K)
    (render : RenderJob → Except (RenderTaskError K) RenderedTile) (settings : TileSettings K)
    (tileSetId : String) (generationBounds sourceBounds : GeographicBounds K)
    (rasterShape : RasterShape) (plan : TileGenerationPlan) (jobs : List RenderJob)
    (maxParallelism : ℕ) (schedule : List ℕ) : Prop where
  bounded : ∀ loop, generateTileSetWithRenderer P render settings tileSetId generationBounds
    sourceBounds rasterShape maxParallelism schedule = .running loop →
      loop.inFlight.length ≤ max 1 maxParallelism
  produced : 2 * jobs.length < schedule.length → (∀ job ∈ jobs, ∃ tile, render job = .ok tile) →
    ∃ tiles, renderSequentially render jobs = .ok tiles ∧ tiles.length = plan.tileCount ∧
      generateTileSetWithRenderer P render settings tileSetId generationBounds sourceBounds
          rasterShape maxParallelism schedule =
        .returned (((TileSetManifest.fromConfig settings tileSetId generationBounds).mapError
          .manifest).map fun manifest =>
            { plan := plan, tiles := tiles, manifest := manifest, tileCount := plan.tileCount })
  counted : ∀ tileSet, generateTileSetWithRenderer P render settings tileSetId generationBounds
      sourceBounds rasterShape maxParallelism schedule = .returned (.ok tileSet) →
    tileSet.plan = plan ∧ tileSet.tiles.length = plan.tileCount ∧
      tileSet.tileCount = plan.tileCount
  fails : ∀ result, generateTileSetWithRenderer P render settings tileSetId generationBounds
      sourceBounds rasterShape maxParallelism schedule = .returned result →
    (∃ job ∈ jobs, ∃ error, render job = .error error) → ∃ error, result = .error error

variable {P : LatitudeProjection K} {render : RenderJob → Except (RenderTaskError K) RenderedTile}
  {sourceBounds : GeographicBounds K} {rasterShape : RasterShape} {plan : TileGenerationPlan}
  {jobs : List RenderJob}

theorem rendersPlan (hjobs : tileRenderJobs P sourceBounds rasterShape plan = .ok jobs)
    (maxParallelism : ℕ) (schedule : List ℕ) :
    RendersPlan P render sourceBounds rasterShape plan jobs maxParallelism schedule where
  inPlanOrder := coords_of_tileRenderJobs hjobs
  bounded _ := inFlight_le
  ends := exists_result hjobs
  succeeds _ := result_ok_of_rendered hjobs
  fails _ := result_error_of_failed hjobs

variable [IsStrictOrderedRing K]

theorem buildsTileSet {settings : TileSettings K} {generationBounds : GeographicBounds K}
    (hplan : planTileGenerationForBounds P generationBounds settings.zooms.minZoom
      settings.zooms.maxNativeZoom = .ok plan)
    (hjobs : tileRenderJobs P sourceBounds rasterShape plan = .ok jobs) (tileSetId : String)
    (maxParallelism : ℕ) (schedule : List ℕ) :
    BuildsTileSet P render settings tileSetId generationBounds sourceBounds rasterShape plan jobs
      maxParallelism schedule where
  bounded _ := inFlight_le_of_tileSet hplan
  produced hlong hall := by
    have hends : ∃ result, generateTilesForPlanWithRenderer P render sourceBounds rasterShape plan
        maxParallelism schedule = .returned result := exists_result hjobs hlong
    obtain ⟨result, hresult⟩ := hends
    obtain ⟨tiles, rfl, hsequential, hrendered⟩ := result_ok_of_rendered hjobs hresult hall
    have hlength := length_of_rendered hplan hjobs hrendered
    exact ⟨tiles, hsequential, hlength, generateTileSetWithRenderer_of_tiles hplan hresult hlength⟩
  counted _ := generateTileSetWithRenderer_counted hplan hjobs
  fails _ := generateTileSetWithRenderer_fails hplan hjobs

/-- Rendering in parallel is rendering sequentially, for every limit and every schedule, and for a
granule it is the generation that renders one tile after the other; the tile set has as many tiles
as its plan and its manifest say, and the plan is counted without overflow. -/
theorem parallelRendering (P : LatitudeProjection K)
    (render : RenderJob → Except (RenderTaskError K) RenderedTile)
    (sourceBounds : GeographicBounds K) (rasterShape : RasterShape) (maxParallelism : ℕ)
    (schedule : List ℕ) :
    (∀ plan jobs, tileRenderJobs P sourceBounds rasterShape plan = .ok jobs →
      RendersPlan P render sourceBounds rasterShape plan jobs maxParallelism schedule) ∧
    (∀ (V : Type) (science : SampleScience K V) (granule : GranuleRasters V) plan tileSize result,
      generateTilesForPlanWithRenderer P (renderGranuleJob science granule tileSize) sourceBounds
          rasterShape plan maxParallelism schedule = .returned result → ∀ tiles,
        result = .ok tiles ↔
          generateTilesForPlan P science granule sourceBounds rasterShape plan tileSize =
            .ok tiles) ∧
    (∀ settings tileSetId generationBounds plan jobs,
      planTileGenerationForBounds P generationBounds settings.zooms.minZoom
        settings.zooms.maxNativeZoom = .ok plan →
      tileRenderJobs P sourceBounds rasterShape plan = .ok jobs →
      BuildsTileSet P render settings tileSetId generationBounds sourceBounds rasterShape plan jobs
        maxParallelism schedule) ∧
    ∀ bounds minZoom maxNativeZoom,
      checkedPlanRanges P bounds (inclusive minZoom maxNativeZoom) [] 0 =
        some (planRanges P bounds (inclusive minZoom maxNativeZoom) [] 0) :=
  ⟨fun _ _ hjobs => rendersPlan hjobs maxParallelism schedule,
    fun _ _ _ _ _ _ => generateTilesForPlan_of_result,
    fun _ tileSetId _ _ _ hplan hjobs =>
      buildsTileSet hplan hjobs tileSetId maxParallelism schedule,
    fun bounds minZoom _ => checkedPlanRanges_eq P bounds _ minZoom [] (by positivity)⟩

/-- Two tiles at a time, the second one finishing first. -/
theorem parallelRendering_h07v04 :
    generateTilesForPlanWithRenderer linearProjection
        (fun job => .ok { coord := job.2.1, pixels := [] }) ⟨-110, 40, -100, 50⟩ ⟨2400, 2400⟩
        ⟨[⟨3, 1, 1, 1, 2⟩], 2⟩ 2 [0, 0, 1, 0, 0] =
          .returned (.ok [⟨⟨3, 1, 1⟩, []⟩, ⟨⟨3, 1, 2⟩, []⟩]) ∧
      RendersPlan linearProjection (fun job => .ok { coord := job.2.1, pixels := [] })
        ⟨-110, 40, -100, 50⟩ ⟨2400, 2400⟩ ⟨[⟨3, 1, 1, 1, 2⟩], 2⟩
        [(0, ⟨3, 1, 1⟩, ⟨0, 0, 2400, 1800⟩), (1, ⟨3, 1, 2⟩, ⟨0, 1800, 2400, 600⟩)] 2
        [0, 0, 1, 0, 0] := by
  refine ⟨by decide +kernel, ?_⟩
  exact (parallelRendering linearProjection _ _ _ 2 _).1 _ _ (by decide +kernel)

end Promise
end LumenHorizon.Processing
