import LumenHorizon.Ingest.Pass

/-! # Recovery and replay

The operator commands that finish what a pass left behind: rows whose raw blob can be checked
again, outbox records whose message was not enqueued, and rejected rows to replay.
-/

namespace LumenHorizon.Ingest
open Foundation Shared IngestProgram

structure RecoverySummary where
  rawRowsExamined : ℕ
  rawRowsValidated : ℕ
  rawRowsRejected : ℕ
  outboxExamined : ℕ
  enqueued : ℕ
  failed : ℕ
deriving DecidableEq, Repr

def RecoverySummary.default : RecoverySummary :=
  { rawRowsExamined := 0, rawRowsValidated := 0, rawRowsRejected := 0, outboxExamined := 0,
    enqueued := 0, failed := 0 }

/-- The first loop of `run_recovery`, over the rows it selected. -/
def recoverRows :
    List IngestRecoveryRecord → RecoverySummary → IngestProgram (Except IngestError RecoverySummary)
  | [], summary => pure (.ok summary)
  | row :: rows, summary => do
    let summary := { summary with rawRowsExamined := summary.rawRowsExamined + 1 }
    match ← downloadRawBlob row.blobPath with
    | .error _ =>
      match ← markRecoveryPending row.id with
      | .error error => pure (.error (.database error))
      | .ok () => recoverRows rows { summary with failed := summary.failed + 1 }
    | .ok bytes =>
      match validateRawGranuleBytes bytes with
      | .error error =>
        match ← markRejected row.id (IngestFailureContext.rawValidation error).databaseMessage with
        | .error error => pure (.error (.database error))
        | .ok () =>
          recoverRows rows { summary with rawRowsRejected := summary.rawRowsRejected + 1 }
      | .ok () =>
        match ← markValidated row.id with
        | .error error => pure (.error (.database error))
        | .ok () =>
          match ← createPendingEnqueueOutbox row.id "recover_validated_raw_blob" with
          | .error error => pure (.error (.database error))
          | .ok _ =>
            recoverRows rows { summary with rawRowsValidated := summary.rawRowsValidated + 1 }

/-- The loop of `enqueue_pending_outbox`, over the records it selected. -/
def enqueueRecords (config : IngestConfig) :
    List PendingOutboxRecord → RecoverySummary → IngestProgram (Except IngestError RecoverySummary)
  | [], summary => pure (.ok summary)
  | record :: records, summary => do
    let summary := { summary with outboxExamined := summary.outboxExamined + 1 }
    match ProcessingMessage.new record.ingestId record.blobPath record.product record.granuleDate
        record.tileH record.tileV with
    | .error error =>
      match ← markOutboxFailed record.id error.display with
      | .error error => pure (.error (.database error))
      | .ok () => enqueueRecords config records { summary with failed := summary.failed + 1 }
    | .ok message =>
      match ← enqueueProcessingMessage config.azureQueueName message with
      | .error error =>
        match ← markOutboxFailed record.id
            (IngestFailureContext.queueEnqueue error).databaseMessage with
        | .error error => pure (.error (.database error))
        | .ok () => enqueueRecords config records { summary with failed := summary.failed + 1 }
      | .ok () =>
        match ← markEnqueued record.ingestId with
        | .error error => pure (.error (.database error))
        | .ok () =>
          match ← markOutboxCompleted record.id with
          | .error error => pure (.error (.database error))
          | .ok () =>
            enqueueRecords config records { summary with enqueued := summary.enqueued + 1 }

def enqueuePendingOutbox (config : IngestConfig) (summary : RecoverySummary) :
    IngestProgram (Except IngestError RecoverySummary) := do
  match ← pendingEnqueueOutbox with
  | .error error => pure (.error (.database error))
  | .ok records => enqueueRecords config records summary

def runRecovery (config : IngestConfig) : IngestProgram (Except IngestError RecoverySummary) := do
  match ← newStorageClient with
  | .error error => pure (.error (.storage error))
  | .ok () =>
    match ← newQueueClient with
    | .error error => pure (.error (.storage error))
    | .ok () =>
      match ← recoverableRawRows with
      | .error error => pure (.error (.database error))
      | .ok rows =>
        match ← recoverRows rows RecoverySummary.default with
        | .error error => pure (.error error)
        | .ok summary => enqueuePendingOutbox config summary

/-- `replay_rejected`: whether the row was rejected and now has a pending record. -/
def replayRejected (ingestId : Uuid) (reason : String) : IngestProgram (Except DbError Bool) := do
  match ← replayRejectedStatus ingestId with
  | .error error => pure (.error error)
  | .ok updated =>
    if updated = 0 then pure (.ok false)
    else
      match ← createPendingEnqueueOutbox ingestId reason with
      | .error error => pure (.error error)
      | .ok _ => pure (.ok true)

def replayRejectedGranule (config : IngestConfig) (ingestId : Uuid) :
    IngestProgram (Except IngestError RecoverySummary) := do
  match ← replayRejected ingestId "operator_replay_rejected" with
  | .error error => pure (.error (.database error))
  | .ok false => pure (.error (.replayNotRejected ingestId))
  | .ok true =>
    match ← newQueueClient with
    | .error error => pure (.error (.storage error))
    | .ok () => enqueuePendingOutbox config RecoverySummary.default

end LumenHorizon.Ingest
