import LumenHorizon.Processing.Message

/-! # Retention cleanup

Raw granules and tile sets past their retention are selected from the tables; in execute mode
their blobs are deleted, each deletion leaves an event, and a cleaned tile set is marked.
-/

namespace LumenHorizon.Processing
open Foundation Shared ProcessingProgram

def rawReason : String :=
  "raw granule exceeds retention policy and requires re-ingest after deletion"

def tileSetReason : String :=
  "processed tile set exceeds retention policy and is outside latest/prior protection"

def skippedReason : String :=
  "tile set has more blobs than RETENTION_TILE_BLOB_LIMIT or requires paged deletion"

/-- The check on a candidate before anything of it is touched. -/
def validateManifestPath (candidate : TileSetRetentionCandidate) : Except RetentionError Unit :=
  if candidate.manifestBlobPath = latestManifestBlobPath then
    .error (.latestManifestSelected candidate.tileSetId)
  else
    match manifestBlobPath candidate.tileSetId with
    | .error error => .error (.tileMath error)
    | .ok expected =>
      if candidate.manifestBlobPath = expected then .ok ()
      else .error (.manifestPathMismatch candidate.tileSetId expected candidate.manifestBlobPath)

def tileSetPrefix (tileSetId : String) : Except RetentionError String :=
  match manifestBlobPath tileSetId with
  | .error error => .error (.tileMath error)
  | .ok _ => .ok ("tiles/" ++ tileSetId ++ "/")

structure Cleanup where
  runId : Uuid
  execute : Bool
deriving DecidableEq, Repr

def Cleanup.mode (cleanup : Cleanup) : RetentionEventMode :=
  if cleanup.execute then .execute else .dryRun

inductive TileSetCleanupOutcome where
  | deleted
  | skipped
deriving DecidableEq, Repr

def recordEvent (event : RetentionEvent) : ProcessingProgram (Except RetentionError Unit) := do
  match ← recordRetentionEvent event with
  | .error error => pure (.error (.database error))
  | .ok () => pure (.ok ())

def recordRawEvent (config : ProcessingConfig) (cleanup : Cleanup)
    (candidate : RawBlobRetentionCandidate) (action : RetentionEventAction) :
    ProcessingProgram (Except RetentionError Unit) :=
  recordEvent {
    cleanupRunId := cleanup.runId
    mode := cleanup.mode
    targetKind := .rawBlob
    targetIdentifier := candidate.blobPath
    blobContainer := some config.rawViirsContainer
    blobPath := some candidate.blobPath
    action := action
    reason := rawReason }

def recordTileSetEvent (cleanup : Cleanup) (candidate : TileSetRetentionCandidate)
    (action : RetentionEventAction) (reason : String) :
    ProcessingProgram (Except RetentionError Unit) :=
  recordEvent {
    cleanupRunId := cleanup.runId
    mode := cleanup.mode
    targetKind := .tileSet
    targetIdentifier := candidate.tileSetId
    blobContainer := none
    blobPath := none
    action := action
    reason := reason }

def DeleteBlobOutcome.action : DeleteBlobOutcome → RetentionEventAction
  | deleted => .deleted
  | missing => .missing

/-- Delete a tile or a manifest of a tile set and record it. -/
def Retention.deleteProcessedBlob (config : ProcessingConfig) (cleanup : Cleanup)
    (tileSetId path : String) (targetKind : RetentionTargetKind) : ProcessingProgram (Except RetentionError Unit) := do
  match ← ProcessingProgram.deleteProcessedBlob path with
  | .error error => pure (.error (.storage error))
  | .ok outcome =>
    recordEvent {
      cleanupRunId := cleanup.runId
      mode := cleanup.mode
      targetKind := targetKind
      targetIdentifier := tileSetId
      blobContainer := some config.processedTilesContainer
      blobPath := some path
      action := outcome.action
      reason := tileSetReason }

def removeTiles (config : ProcessingConfig) (cleanup : Cleanup) (tileSetId : String) :
    List String → ProcessingProgram (Except RetentionError Unit)
  | [] => pure (.ok ())
  | path :: paths => do
    match ← Retention.deleteProcessedBlob config cleanup tileSetId path .processedTile with
    | .error error => pure (.error error)
    | .ok () => removeTiles config cleanup tileSetId paths

/-- From the listed tiles on: delete them, then the manifest, and mark the row. -/
def removeTileSet (config : ProcessingConfig) (cleanup : Cleanup)
    (candidate : TileSetRetentionCandidate) (paths : List String) :
    ProcessingProgram (Except RetentionError TileSetCleanupOutcome) := do
  match ← removeTiles config cleanup candidate.tileSetId paths with
  | .error error => pure (.error error)
  | .ok () =>
    match ← Retention.deleteProcessedBlob config cleanup candidate.tileSetId candidate.manifestBlobPath
        .processedManifest with
    | .error error => pure (.error error)
    | .ok () =>
      match ← markTileSetRetentionDeleted candidate.tileSetId tileSetReason with
      | .error error => pure (.error (.database error))
      | .ok () =>
        match ← recordTileSetEvent cleanup candidate .deleted tileSetReason with
        | .error error => pure (.error error)
        | .ok () => pure (.ok .deleted)

def executeTileSetCleanup (config : ProcessingConfig) (cleanup : Cleanup)
    (candidate : TileSetRetentionCandidate) :
    ProcessingProgram (Except RetentionError TileSetCleanupOutcome) := do
  match tileSetPrefix candidate.tileSetId with
  | .error error => pure (.error error)
  | .ok pathPrefix =>
    match ← listProcessedBlobs pathPrefix config.retentionTileBlobLimit with
    | .error error => pure (.error (.storage error))
    | .ok (paths, hasMore) =>
      if hasMore ∨ config.retentionTileBlobLimit < paths.length then
        match ← recordTileSetEvent cleanup candidate .skipped skippedReason with
        | .error error => pure (.error error)
        | .ok () => pure (.ok .skipped)
      else removeTileSet config cleanup candidate paths

def removeRawBlob (config : ProcessingConfig) (cleanup : Cleanup)
    (candidate : RawBlobRetentionCandidate) : ProcessingProgram (Except RetentionError Unit) := do
  match ← deleteRawBlob candidate.blobPath with
  | .error error => pure (.error (.storage error))
  | .ok outcome => recordRawEvent config cleanup candidate outcome.action

def cleanRawBlobs (config : ProcessingConfig) (cleanup : Cleanup) :
    List RawBlobRetentionCandidate → ProcessingProgram (Except RetentionError Unit)
  | [] => pure (.ok ())
  | candidate :: candidates => do
    match ← recordRawEvent config cleanup candidate .selected with
    | .error error => pure (.error error)
    | .ok () =>
      match ← (if cleanup.execute then removeRawBlob config cleanup candidate
        else pure (.ok ())) with
      | .error error => pure (.error error)
      | .ok () => cleanRawBlobs config cleanup candidates

def cleanTileSets (config : ProcessingConfig) (cleanup : Cleanup) :
    List TileSetRetentionCandidate → ProcessingProgram (Except RetentionError Unit)
  | [] => pure (.ok ())
  | candidate :: candidates => do
    match validateManifestPath candidate with
    | .error error => pure (.error error)
    | .ok () =>
      match ← recordTileSetEvent cleanup candidate .selected tileSetReason with
      | .error error => pure (.error error)
      | .ok () =>
        match ← (if cleanup.execute then executeTileSetCleanup config cleanup candidate
          else pure (.ok .skipped)) with
        | .error error => pure (.error error)
        | .ok _ => cleanTileSets config cleanup candidates

/-- A storage client fails with storage errors only; any other error keeps its text. -/
def ToolError.toStorageError : ToolError → StorageError
  | generate error => ⟨error⟩
  | hdfCli error => ⟨error⟩
  | science error => ⟨error⟩
  | storage error => error

/-- `run_retention_cleanup`; its counters are only printed. -/
def runRetentionCleanup (config : ProcessingConfig) (cleanup : Cleanup) :
    ProcessingProgram (Except RetentionError Unit) := do
  match ← connect with
  | .error error => pure (.error (.database error))
  | .ok () =>
    match ← takeLocalStep .newBlobClient with
    | .error error => pure (.error (.storage error.toStorageError))
    | .ok () =>
      match ← selectRawBlobRetentionCandidates config.rawGranuleRetentionDays
          config.retentionBatchLimit with
      | .error error => pure (.error (.database error))
      | .ok rawCandidates =>
        match ← selectTileSetRetentionCandidates config.processedTileSetRetentionDays
            config.retentionProtectedPriorTileSets config.retentionBatchLimit with
        | .error error => pure (.error (.database error))
        | .ok tileSetCandidates =>
          match ← cleanRawBlobs config cleanup rawCandidates with
          | .error error => pure (.error error)
          | .ok () => cleanTileSets config cleanup tileSetCandidates

/-- A candidate that passes the check names the manifest of its own tile set. -/
theorem validateManifestPath_eq_ok_iff {candidate : TileSetRetentionCandidate} :
    validateManifestPath candidate = .ok () ↔
      candidate.manifestBlobPath ≠ latestManifestBlobPath ∧
        manifestBlobPath candidate.tileSetId = .ok candidate.manifestBlobPath := by
  unfold validateManifestPath
  by_cases hlatest : candidate.manifestBlobPath = latestManifestBlobPath
  · rw [if_pos hlatest]
    exact ⟨fun h => (nomatch h), fun h => absurd hlatest h.1⟩
  · rw [if_neg hlatest]
    cases hpath : manifestBlobPath candidate.tileSetId with
    | error error => exact ⟨fun h => (nomatch h), fun h => (nomatch h.2)⟩
    | ok expected =>
      by_cases heq : candidate.manifestBlobPath = expected
      · simp [heq, heq ▸ hlatest]
      · simp [heq, Ne.symm heq]

def RetentionCall : ProcessingCall → Prop
  | .connect => True
  | .takeLocalStep _ => True
  | .selectRawBlobRetentionCandidates _ _ => True
  | .selectTileSetRetentionCandidates _ _ _ => True
  | .recordRetentionEvent _ => True
  | .deleteRawBlob _ => True
  | .listProcessedBlobs _ _ => True
  | .deleteProcessedBlob _ => True
  | .markTileSetRetentionDeleted _ _ => True
  | _ => False

/-- A program that makes only the calls of a cleanup. -/
abbrev Cleans {α : Type} (p : ProcessingProgram α) : Prop := p.Always fun c _ => RetentionCall c

theorem Cleans.bind {α β : Type} {p : ProcessingProgram α} {f : α → ProcessingProgram β}
    (hp : Cleans p) (hf : ∀ a, Cleans (f a)) : Cleans (p >>= f) :=
  Program.Always.bind (fun _ _ _ h _ => h) hp hf

theorem recordEvent_cleans (event : RetentionEvent) : Cleans (recordEvent event) := by
  refine Program.Always.call trivial fun reply => ?_
  cases reply <;> trivial

variable (config : ProcessingConfig) (cleanup : Cleanup)

theorem deleteProcessedBlob_cleans (tileSetId path : String) (targetKind : RetentionTargetKind) :
    Cleans (Retention.deleteProcessedBlob config cleanup tileSetId path targetKind) := by
  refine Program.Always.call trivial fun reply => ?_
  cases reply with
  | error error => trivial
  | ok outcome => exact recordEvent_cleans _

theorem removeTiles_cleans (tileSetId : String) (paths : List String) :
    Cleans (removeTiles config cleanup tileSetId paths) := by
  induction paths with
  | nil => trivial
  | cons path paths ih =>
    refine Cleans.bind (deleteProcessedBlob_cleans config cleanup _ _ _) fun outcome => ?_
    cases outcome with
    | error error => trivial
    | ok _ => exact ih

theorem removeTileSet_cleans (candidate : TileSetRetentionCandidate) (paths : List String) :
    Cleans (removeTileSet config cleanup candidate paths) := by
  refine Cleans.bind (removeTiles_cleans config cleanup _ paths) fun outcome => ?_
  cases outcome with
  | error error => trivial
  | ok _ =>
    refine Cleans.bind (deleteProcessedBlob_cleans config cleanup _ _ _) fun outcome => ?_
    cases outcome with
    | error error => trivial
    | ok _ =>
      refine Program.Always.call trivial fun reply => ?_
      cases reply with
      | error error => trivial
      | ok _ =>
        change Cleans (recordTileSetEvent cleanup candidate _ _ >>= _)
        refine Cleans.bind (recordEvent_cleans _) fun outcome => ?_
        cases outcome <;> trivial

theorem executeTileSetCleanup_cleans (candidate : TileSetRetentionCandidate) :
    Cleans (executeTileSetCleanup config cleanup candidate) := by
  unfold executeTileSetCleanup
  split
  · trivial
  · refine Program.Always.call trivial fun reply => ?_
    cases reply with
    | error error => trivial
    | ok page =>
      obtain ⟨paths, hasMore⟩ := page
      dsimp only [Program.andThen]
      split
      · refine Cleans.bind (recordEvent_cleans _) fun outcome => ?_
        cases outcome <;> trivial
      · exact removeTileSet_cleans config cleanup candidate paths

theorem cleanRawBlobs_cleans (candidates : List RawBlobRetentionCandidate) :
    Cleans (cleanRawBlobs config cleanup candidates) := by
  induction candidates with
  | nil => trivial
  | cons candidate candidates ih =>
    refine Cleans.bind (recordEvent_cleans _) fun outcome => ?_
    cases outcome with
    | error error => trivial
    | ok _ =>
      refine Cleans.bind ?_ fun outcome => ?_
      · split
        · refine Program.Always.call trivial fun reply => ?_
          cases reply with
          | error error => trivial
          | ok outcome => exact recordEvent_cleans _
        · trivial
      · cases outcome with
        | error error => trivial
        | ok _ => exact ih

theorem cleanTileSets_cleans (candidates : List TileSetRetentionCandidate) :
    Cleans (cleanTileSets config cleanup candidates) := by
  induction candidates with
  | nil => trivial
  | cons candidate candidates ih =>
    unfold cleanTileSets
    split
    · trivial
    · refine Cleans.bind (recordEvent_cleans _) fun outcome => ?_
      cases outcome with
      | error error => trivial
      | ok _ =>
        refine Cleans.bind ?_ fun outcome => ?_
        · split
          · exact executeTileSetCleanup_cleans config cleanup candidate
          · trivial
        · cases outcome with
          | error error => trivial
          | ok _ => exact ih

theorem runRetentionCleanup_cleans : Cleans (runRetentionCleanup config cleanup) := by
  refine Program.Always.call trivial fun reply => ?_
  cases reply with
  | error error => trivial
  | ok _ =>
    refine Program.Always.call trivial fun reply => ?_
    cases reply with
    | error error => trivial
    | ok _ =>
      refine Program.Always.call trivial fun reply => ?_
      cases reply with
      | error error => trivial
      | ok rawCandidates =>
        refine Program.Always.call trivial fun reply => ?_
        cases reply with
        | error error => trivial
        | ok tileSetCandidates =>
          change Cleans (cleanRawBlobs config cleanup rawCandidates >>= _)
          refine Cleans.bind (cleanRawBlobs_cleans config cleanup _) fun outcome => ?_
          cases outcome with
          | error error => trivial
          | ok _ => exact cleanTileSets_cleans config cleanup _

end LumenHorizon.Processing
