import LumenHorizon.Foundation.Table
import LumenHorizon.Processing.Errors
import LumenHorizon.Processing.TilePlan

/-! # The processing log and its statements

One row for each ingest row that processing was started for. A start either creates the row or
takes it over; every other statement writes the columns of its own outcome.
-/

namespace LumenHorizon.Processing
open Foundation Shared

inductive ProcessingStatus where
  | processing
  | processed
  | rejected
  | failed
  | deadlettered
deriving DecidableEq, Repr

structure QualitySummary where
  totalPixelCount : ℕ
  validPixelCount : ℕ
  rejectedPixelCount : ℕ
  cloudContaminatedValidPixelCount : ℕ
  cloudFraction : ℚ
deriving DecidableEq, Repr

/-- The JSON of `build_quality_metadata`, the dark-sky class of the first sample by its number. -/
structure QualityMetadata where
  sampleWindow : RasterWindow
  qualitySummary : QualitySummary
  maxCloudFraction : ℚ
  exceedsMaxCloudFraction : Bool
  firstDarkSkyClass : Option ℕ
deriving DecidableEq, Repr

/-- `processing_log`; no metadata is the default `{}`. -/
structure ProcessingRow where
  id : Uuid
  ingestId : Uuid
  sourceBlobPath : String
  product : ProcessingProduct
  tileH : ℤ
  tileV : ℤ
  granuleDate : DateTime
  status : ProcessingStatus
  attempts : ℕ
  cloudFraction : Option ℚ
  validPixelCount : Option ℕ
  rejectedPixelCount : Option ℕ
  tileSetId : Option String
  metadata : Option QualityMetadata
  errorMessage : Option String
  startedAt : Option ℕ
  completedAt : Option ℕ
  createdAt : ℕ
  updatedAt : ℕ
deriving DecidableEq, Repr

structure ProcessingLogRecord where
  id : Uuid
  attempts : ℕ
deriving DecidableEq, Repr

/-- The largest value of the `INTEGER` column `attempts`. -/
def maxInteger : ℕ := 2 ^ 31 - 1

abbrev ProcessingLog := List ProcessingRow

namespace ProcessingLog

def startedRow (message : ProcessingMessage) (id : Uuid) (now : ℕ) : ProcessingRow where
  id := id
  ingestId := message.ingestId
  sourceBlobPath := message.blobPath
  product := message.product
  tileH := message.tileH
  tileV := message.tileV
  granuleDate := message.granuleDate.timestamptz
  status := .processing
  attempts := 1
  cloudFraction := none
  validPixelCount := none
  rejectedPixelCount := none
  tileSetId := none
  metadata := none
  errorMessage := none
  startedAt := some now
  completedAt := none
  createdAt := now
  updatedAt := now

def restart (message : ProcessingMessage) (now : ℕ) (row : ProcessingRow) : ProcessingRow :=
  { row with
    sourceBlobPath := message.blobPath
    product := message.product
    tileH := message.tileH
    tileV := message.tileV
    granuleDate := message.granuleDate.timestamptz
    status := .processing
    attempts := row.attempts + 1
    startedAt := some (row.startedAt.getD now)
    completedAt := none
    errorMessage := none
    updatedAt := now }

/-- `upsert_processing_started`; `known` says whether the ingest row exists. -/
def upsertProcessingStarted (log : ProcessingLog) (known : Bool) (message : ProcessingMessage)
    (id : Uuid) (now : ℕ) : ProcessingLog × Except DbError ProcessingLogRecord :=
  if known then
    match log.find? fun row => row.ingestId = message.ingestId with
    | some row =>
      if row.attempts < maxInteger then
        (Table.update (fun row => row.ingestId = message.ingestId) (restart message now) log,
          .ok { id := row.id, attempts := row.attempts + 1 })
      else (log, .error (.upsertProcessingLog "integer out of range"))
    | none =>
      (log ++ [startedRow message id now], .ok { id := id, attempts := 1 })
  else (log, .error (.missingIngestLog message.ingestId))

inductive Ending where
  | failed (errorMessage : String)
  | deadlettered (errorMessage : String)
  | rejected (reason : String)
  | processed (tileSetId : String)
deriving DecidableEq, Repr

def Ending.status : Ending → ProcessingStatus
  | failed _ => .failed
  | deadlettered _ => .deadlettered
  | rejected _ => .rejected
  | processed _ => .processed

/-- The assignments of `mark_processing_failed`, `mark_processing_deadlettered`,
`mark_processing_rejected` and `mark_processing_processed_with_tile_set`. -/
def Ending.set (ending : Ending) (now : ℕ) (row : ProcessingRow) : ProcessingRow :=
  match ending with
  | failed errorMessage =>
    { row with
      status := .failed, errorMessage := some errorMessage, completedAt := some now,
      updatedAt := now }
  | deadlettered errorMessage =>
    { row with
      status := .deadlettered, errorMessage := some errorMessage, completedAt := some now,
      updatedAt := now }
  | rejected reason =>
    { row with
      status := .rejected, errorMessage := some reason, completedAt := some now,
      updatedAt := now }
  | processed tileSetId =>
    { row with
      status := .processed, tileSetId := some tileSetId, errorMessage := none,
      completedAt := some now, updatedAt := now }

def markEnding (log : ProcessingLog) (ingestId : Uuid) (ending : Ending) (now : ℕ) :
    ProcessingLog :=
  Table.update (fun row => row.ingestId = ingestId) (ending.set now) log

/-- `update_processing_metadata`. -/
def updateProcessingMetadata (log : ProcessingLog) (processingLogId : Uuid)
    (metadata : QualityMetadata) (cloudFraction : ℚ) (validPixelCount rejectedPixelCount : ℕ)
    (now : ℕ) : ProcessingLog :=
  Table.update (fun row => row.id = processingLogId)
    (fun row => { row with
      metadata := some metadata
      cloudFraction := some cloudFraction
      validPixelCount := some validPixelCount
      rejectedPixelCount := some rejectedPixelCount
      updatedAt := now })
    log

@[simp] theorem Ending.set_status (ending : Ending) (now : ℕ) (row : ProcessingRow) :
    (ending.set now row).status = ending.status := by
  cases ending <;> rfl

@[simp] theorem Ending.set_ingestId (ending : Ending) (now : ℕ) (row : ProcessingRow) :
    (ending.set now row).ingestId = row.ingestId := by
  cases ending <;> rfl

/-- A start reports an error and changes nothing, inserts the first row, or takes the row over. -/
theorem upsertProcessingStarted_cases (log : ProcessingLog) (known : Bool)
    (message : ProcessingMessage) (id : Uuid) (now : ℕ) :
    (∃ error, upsertProcessingStarted log known message id now = (log, .error error) ∧
      (known = true → error = .upsertProcessingLog "integer out of range")) ∨
    (known = true ∧ (∀ row ∈ log, row.ingestId ≠ message.ingestId) ∧
      upsertProcessingStarted log known message id now =
        (log ++ [startedRow message id now], .ok { id := id, attempts := 1 })) ∨
    (known = true ∧ ∃ row ∈ log, row.ingestId = message.ingestId ∧ row.attempts < maxInteger ∧
      upsertProcessingStarted log known message id now =
        (Table.update (fun row => row.ingestId = message.ingestId) (restart message now) log,
          .ok { id := row.id, attempts := row.attempts + 1 })) := by
  unfold upsertProcessingStarted
  cases known with
  | false => exact .inl ⟨_, rfl, nofun⟩
  | true =>
    cases hfind : log.find? fun row => row.ingestId = message.ingestId with
    | none =>
      refine .inr (.inl ⟨rfl, fun row hrow => ?_, rfl⟩)
      simpa using List.find?_eq_none.mp hfind row hrow
    | some row =>
      have hid : row.ingestId = message.ingestId := by simpa using List.find?_some hfind
      by_cases hmax : row.attempts < maxInteger
      · refine .inr (.inr ⟨rfl, row, List.mem_of_find?_eq_some hfind, hid, hmax, ?_⟩)
        simp [hmax]
      · exact .inl ⟨_, by simp [hmax], fun _ => rfl⟩

end ProcessingLog
end LumenHorizon.Processing
