import LumenHorizon.Processing.QueueWorker
import LumenHorizon.Processing.Retention

/-! # Processing commands running side by side

What can be started at any time: deliveries of the queue worker, messages given on the command
line, retention cleanups, and the producers that fill the ingest log and the queues. The worker
repeats one delivery, so each repetition is a start of its own.
-/

namespace LumenHorizon.Processing
open Foundation Shared SlippyTiles

inductive Command where
  | ingest (row : Ingest.IngestRow)
  | enqueue (queueName messageText : String)
  | processOnce (config : ProcessingConfig) (promotedAt : ℕ)
  | processMessage (config : ProcessingConfig) (message : String) (promotedAt : ℕ)
  | retentionCleanup (config : ProcessingConfig) (cleanup : Cleanup)

def Command.program (fromStr : String → Except String RawProcessingMessage) :
    Command → ProcessingProgram Unit
  | ingest row => do
    let _ ← ProcessingProgram.insertIngestRow row
  | enqueue queueName messageText => do
    let _ ← ProcessingProgram.enqueueMessage queueName messageText
  | processOnce config promotedAt => do
    let _ ← Processing.processOnce config fromStr promotedAt
  | processMessage config message promotedAt => do
    let _ ← processMessagePayload config fromStr promotedAt message
  | retentionCleanup config cleanup => do
    let _ ← runRetentionCleanup config cleanup

abbrev ProcessingPool := Pool ProcessingWorld ProcessingCall ProcessingCall.Reply

abbrev ProcessingEvent := PoolEvent ProcessingCall ProcessingCall.Reply Env

namespace ProcessingPool

/-- No command has run yet. -/
def empty : ProcessingPool where
  world := {
    ingestLog := []
    processingLog := []
    tileSets := []
    processedBlobs := []
    rawBlobs := []
    messages := []
    retentionEvents := []
    nextId := 0
    finished := [] }
  procs := []

def step : ProcessingPool → ProcessingEvent → Option ProcessingPool := Pool.step answer

def Starts (fromStr : String → Except String RawProcessingMessage) (event : ProcessingEvent) :
    Prop :=
  ∀ p, event = .spawn p → ∃ command : Command, p = command.program fromStr

theorem starts_act {fromStr : String → Except String RawProcessingMessage} (i : ℕ) (e : Env) :
    Starts fromStr (.act i e) := fun _ h => nomatch h

theorem starts_stop {fromStr : String → Except String RawProcessingMessage} (i : ℕ) :
    Starts fromStr (.stop i) := fun _ h => nomatch h

theorem starts_spawn {fromStr : String → Except String RawProcessingMessage} (command : Command) :
    Starts fromStr (.spawn (command.program fromStr)) := by
  intro p hp
  exact ⟨command, (PoolEvent.spawn.inj hp).symm⟩

end ProcessingPool

def sampleConfig : ProcessingConfig where
  azureQueueName := "viirs-processing"
  azureDeadletterQueueName := "viirs-processing-deadletter"
  rawViirsContainer := "raw-viirs"
  processedTilesContainer := "processed-tiles"
  maxCloudFraction := 2 / 5
  processingVisibilityTimeoutSeconds := 900
  processingMaxDequeueCount := 5
  tileClassificationVersion := "v1"
  rawGranuleRetentionDays := 30
  processedTileSetRetentionDays := 90
  retentionProtectedPriorTileSets := 0
  retentionBatchLimit := 100
  retentionTileBlobLimit := 1000

/-- The queue payload of a VNP46A2 granule of 21 May 2024 on tile h08v05. -/
def sampleMessage (ingestId : Uuid) : RawProcessingMessage where
  ingestId := ingestId
  blobPath := "h08v05.h5"
  product := "VNP46A2"
  granuleDate := { year := 2024, month := 5, day := 21, nanoOfDay := 0 }
  tileH := 8
  tileV := 5

/-- A decoder that knows two payloads. -/
def sampleFromStr (json : String) : Except String RawProcessingMessage :=
  if json = "a" then .ok (sampleMessage 1)
  else if json = "b" then .ok (sampleMessage 2)
  else .error "expected value at line 1 column 1"

/-- An environment that finds a clear granule without tiles, with the given outcome, at the
given time. -/
def sampleEnv (outcome : Outcome) (now pick : ℕ) : Env where
  outcome := outcome
  now := now
  pick := pick
  inspection := {
    radianceShape := { width := 2, height := 2 }
    qualitySummary := {
      totalPixelCount := 4
      validPixelCount := 4
      rejectedPixelCount := 0
      cloudContaminatedValidPixelCount := 0
      cloudFraction := 0 }
    firstDarkSkyClass := some 1 }
  tiles := []
  manifestSha256 := ""
  error := "connection reset"
  toolError := .hdfCli "gdalinfo is not available"

def sampleIngestRow (ingestId : Uuid) : Ingest.IngestRow where
  id := ingestId
  product := "VNP46A2"
  granuleTitle := "VNP46A2.A2024142.h08v05.002.h5"
  blobPath := "h08v05.h5"
  tileH := 8
  tileV := 5
  granuleDate := { year := 2024, month := 5, day := 21, nanoOfDay := 0 }
  status := .enqueued
  errorMessage := none
  createdAt := 0
  updatedAt := 0

def sampleProcessingMessage (ingestId : Uuid) : ProcessingMessage where
  ingestId := ingestId
  blobPath := "h08v05.h5"
  product := .vnp46A2
  granuleDate := { year := 2024, month := 5, day := 21, nanoOfDay := 0 }
  tileH := 8
  tileV := 5
  relative := by decide
  tileInPath := by decide

/-- A program as process `i`, with its calls in one environment. -/
def runThrough (p : ProcessingProgram Unit) (i acts : ℕ) (e : Env) : List ProcessingEvent :=
  .spawn p :: List.replicate acts (.act i e)

theorem eq_of_spawn_mem_runThrough {p q : ProcessingProgram Unit} {i acts : ℕ} {e : Env}
    (h : PoolEvent.spawn q ∈ runThrough p i acts e) : q = p := by
  simpa [runThrough] using h

/-- A command as process `i`, none of whose calls fails. -/
def commandThrough (command : Command) (i acts : ℕ) : List ProcessingEvent :=
  runThrough (command.program sampleFromStr) i acts (sampleEnv .ok 0 0)

theorem commandThrough_starts (command : Command) (i acts : ℕ) :
    ∀ event ∈ commandThrough command i acts, ProcessingPool.Starts sampleFromStr event := by
  intro event hevent q hq
  exact ⟨command, eq_of_spawn_mem_runThrough (hq ▸ hevent)⟩

end LumenHorizon.Processing
