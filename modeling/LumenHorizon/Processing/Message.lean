import LumenHorizon.Processing.Publish

/-! # Processing one message

`process_parsed_message` as a program, one function for each stretch: the start of the attempt,
the quality gate, and generation with publication.
-/

namespace LumenHorizon.Processing
open Foundation Shared SlippyTiles ProcessingProgram

structure ProcessingConfig where
  azureQueueName : String
  azureDeadletterQueueName : String
  rawViirsContainer : String
  processedTilesContainer : String
  maxCloudFraction : ℚ
  processingVisibilityTimeoutSeconds : ℕ
  processingMaxDequeueCount : ℕ
  tileClassificationVersion : String
  rawGranuleRetentionDays : ℕ
  processedTileSetRetentionDays : ℕ
  retentionProtectedPriorTileSets : ℕ
  retentionBatchLimit : ℕ
  retentionTileBlobLimit : ℕ
deriving DecidableEq, Repr

def exceedsMaxCloudFraction (summary : QualitySummary) (maxCloudFraction : ℚ) : Bool :=
  maxCloudFraction < summary.cloudFraction

def cloudRejectionReason (summary : QualitySummary) (maxCloudFraction : ℚ) : Option String :=
  if exceedsMaxCloudFraction summary maxCloudFraction then
    some "cloud fraction exceeds configured maximum"
  else none

def sampleWindow : RasterWindow := { xOffset := 0, yOffset := 0, width := 2, height := 2 }

def buildQualityMetadata (summary : QualitySummary) (maxCloudFraction : ℚ)
    (firstDarkSkyClass : Option ℕ) : QualityMetadata where
  sampleWindow := sampleWindow
  qualitySummary := summary
  maxCloudFraction := maxCloudFraction
  exceedsMaxCloudFraction := exceedsMaxCloudFraction summary maxCloudFraction
  firstDarkSkyClass := firstDarkSkyClass

def tileSetIdForMessage (config : ProcessingConfig) (message : ProcessingMessage)
    (attempt : ℕ) : String :=
  message.granuleDate.formatDate ++ "-" ++ config.tileClassificationVersion ++ "-" ++
    String.ofList ((uuidSimple message.ingestId).take 8) ++ "-a" ++ toString (max attempt 1)

def sourceGranuleForMessage (message : ProcessingMessage) : SourceGranule where
  ingestId := message.ingestId
  product := message.product.asStr
  blobPath := message.blobPath

/-- `TileManifest::from_config`, whose only check is that of the tile URL template. -/
def TileManifest.fromConfig (config : ProcessingConfig) (tileSetId : String) (tileCount : ℕ)
    (sourceGranules : List SourceGranule) (manifestSha256 : String) :
    Except TileMathError TileManifest := do
  let _ ← Shared.manifestBlobPath tileSetId
  .ok {
    tileSetId := tileSetId
    classificationVersion := config.tileClassificationVersion
    tileCount := tileCount
    sourceGranules := sourceGranules
    manifestSha256 := manifestSha256 }

/-- From the accepted granule on: generate the tiles, publish them, mark the row processed. -/
def publishGranule (config : ProcessingConfig) (message : ProcessingMessage) (promotedAt : ℕ)
    (inspection : Inspection) (processingLog : ProcessingLogRecord) :
    ProcessingProgram (Except ServiceError Unit) := do
  let tileSetId := tileSetIdForMessage config message processingLog.attempts
  match viirsTileBounds (K := ℚ) message.tileH message.tileV with
  | .error error => pure (.error (.generate (tileMathDisplay error)))
  | .ok _ =>
    match ← generateTiles message inspection with
    | .error error => pure (.error error.toServiceError)
    | .ok (tiles, manifestSha256) =>
      match TileManifest.fromConfig config tileSetId tiles.length
          [sourceGranuleForMessage message] manifestSha256 with
      | .error error => pure (.error (.generate (tileMathDisplay error)))
      | .ok manifest =>
        match ← publishTileSet manifest tiles promotedAt with
        | .error error => pure (.error (.publish error))
        | .ok _ =>
          match ← markProcessingProcessedWithTileSet message.ingestId manifest.tileSetId with
          | .error error => pure (.error (.database error))
          | .ok () => pure (.ok ())

/-- From the inspected granule on: record the quality evidence, and reject a cloudy granule. -/
def gateGranule (config : ProcessingConfig) (message : ProcessingMessage) (promotedAt : ℕ)
    (processingLog : ProcessingLogRecord) (inspection : Inspection) :
    ProcessingProgram (Except ServiceError Unit) := do
  let summary := inspection.qualitySummary
  match ← updateProcessingMetadata processingLog.id
      (buildQualityMetadata summary config.maxCloudFraction inspection.firstDarkSkyClass)
      summary.cloudFraction summary.validPixelCount summary.rejectedPixelCount with
  | .error error => pure (.error (.database error))
  | .ok () =>
    match cloudRejectionReason summary config.maxCloudFraction with
    | some reason =>
      match ← markProcessingRejected message.ingestId reason with
      | .error error => pure (.error (.database error))
      | .ok () => pure (.ok ())
    | none => publishGranule config message promotedAt inspection processingLog

/-- The steps before the inspection, in their order. -/
def takeLocalSteps : List LocalStep → ProcessingProgram (Except ServiceError Unit)
  | [] => pure (.ok ())
  | step :: steps => do
    match ← takeLocalStep step with
    | .error error => pure (.error error.toServiceError)
    | .ok () => takeLocalSteps steps

def runAttempt (config : ProcessingConfig) (message : ProcessingMessage) (promotedAt : ℕ)
    (processingLog : ProcessingLogRecord) : ProcessingProgram (Except ServiceError Unit) := do
  match ← takeLocalSteps [.verifyGdalinfo, .createWorkspace, .newBlobClient,
      .downloadRawBlob message.blobPath] with
  | .error error => pure (.error error)
  | .ok () =>
    match ← inspectGranule message with
    | .error error => pure (.error error.toServiceError)
    | .ok inspection => gateGranule config message promotedAt processingLog inspection

/-- `process_parsed_message`; `promotedAt` is the time its publication reads. -/
def processParsedMessage (config : ProcessingConfig) (message : ProcessingMessage)
    (promotedAt : ℕ) : ProcessingProgram (Except ServiceError Unit) := do
  match ← connect with
  | .error error => pure (.error (.database error))
  | .ok () =>
    match ← upsertProcessingStarted message with
    | .error error => pure (.error (.database error))
    | .ok processingLog => runAttempt config message promotedAt processingLog

end LumenHorizon.Processing
