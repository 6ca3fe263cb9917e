import LumenHorizon.Foundation.Pool
import LumenHorizon.Ingest.IngestLog

/-! # What ingest asks of its environment

Every database statement, storage request and queue request of the ingest service is a call.
A call may succeed, fail without effect, or take effect while its reply is lost; the caller sees
the last two as the same error.
-/

namespace LumenHorizon.Ingest
open Foundation Shared

inductive IngestCall where
  | insertDownloadingRow (granule : GranuleCandidate) (blobPath : String)
  | setStatus (ingestId : Uuid) (status : IngestStatus) (errorMessage : Option String)
  | recoverableRawRows
  | createPendingEnqueueOutbox (ingestId : Uuid) (reason : String)
  | pendingEnqueueOutbox
  | markOutboxCompleted (outboxId : Uuid)
  | markOutboxFailed (outboxId : Uuid) (errorMessage : String)
  | replayRejectedStatus (ingestId : Uuid)
  | newEarthdataClient
  | newStorageClient
  | newQueueClient
  | earthdataDownload (granule : GranuleCandidate)
  | uploadRawBlob (blobPath : String) (bytes : List UInt8)
  | downloadRawBlob (blobPath : String)
  | enqueueProcessingMessage (queueName : String) (message : ProcessingMessage)

namespace IngestCall

abbrev Reply : IngestCall → Type
  | insertDownloadingRow _ _ => Except DbError InsertDownloadingRowOutcome
  | setStatus _ _ _ => Except DbError Unit
  | recoverableRawRows => Except DbError (List IngestRecoveryRecord)
  | createPendingEnqueueOutbox _ _ => Except DbError Uuid
  | pendingEnqueueOutbox => Except DbError (List PendingOutboxRecord)
  | markOutboxCompleted _ => Except DbError Unit
  | markOutboxFailed _ _ => Except DbError Unit
  | replayRejectedStatus _ => Except DbError ℕ
  | newEarthdataClient => Except EarthdataError Unit
  | newStorageClient => Except StorageError Unit
  | newQueueClient => Except StorageError Unit
  | earthdataDownload _ => Except EarthdataError (List UInt8)
  | uploadRawBlob _ _ => Except StorageError Unit
  | downloadRawBlob _ => Except StorageError (List UInt8)
  | enqueueProcessingMessage _ _ => Except StorageError Unit

/-- The ingest row a call is about, where it names one. -/
def ingestId? : IngestCall → Option Uuid
  | setStatus ingestId _ _ => some ingestId
  | createPendingEnqueueOutbox ingestId _ => some ingestId
  | replayRejectedStatus ingestId => some ingestId
  | enqueueProcessingMessage _ message => some message.ingestId
  | _ => none

end IngestCall

/-- The tables, the next fresh UUID, and the messages put on each queue so far. -/
structure IngestWorld where
  tables : Tables
  nextId : ℕ
  queues : List (String × ProcessingMessage)
deriving DecidableEq

inductive Outcome where
  | ok
  | failed
  | lost
deriving DecidableEq, Repr

/-- What the environment decides about one call: its outcome, the time, the bytes a download
returns, and the error that is reported if the reply does not arrive. -/
structure Env where
  outcome : Outcome
  now : ℕ
  bytes : List UInt8
  dbError : DbError
  storageError : StorageError
  earthdataError : EarthdataError
deriving DecidableEq, Repr

/-- What a call changes when it takes effect. Blobs are not part of the world: a download may
return anything. -/
def effect (now : ℕ) (w : IngestWorld) : IngestCall → IngestWorld
  | .insertDownloadingRow granule blobPath =>
    { w with
      tables := (w.tables.insertDownloadingRow granule blobPath w.nextId now).1
      nextId := w.nextId + 1 }
  | .setStatus ingestId status errorMessage =>
    { w with tables := w.tables.setIngestStatus ingestId status errorMessage now }
  | .createPendingEnqueueOutbox ingestId reason =>
    { w with
      tables := (w.tables.createPendingEnqueueOutbox ingestId reason w.nextId now).1
      nextId := w.nextId + 1 }
  | .markOutboxCompleted outboxId =>
    { w with tables := w.tables.markOutboxCompleted outboxId now }
  | .markOutboxFailed outboxId errorMessage =>
    { w with tables := w.tables.markOutboxFailed outboxId errorMessage now }
  | .replayRejectedStatus ingestId =>
    { w with tables := (w.tables.replayRejectedStatus ingestId now).1 }
  | .enqueueProcessingMessage queueName message =>
    { w with queues := w.queues ++ [(queueName, message)] }
  | _ => w

/-- The reply to a call that succeeds. -/
def result (e : Env) (w : IngestWorld) : (c : IngestCall) → c.Reply
  | .insertDownloadingRow granule blobPath =>
    .ok (w.tables.insertDownloadingRow granule blobPath w.nextId e.now).2
  | .setStatus _ _ _ => .ok ()
  | .recoverableRawRows => .ok w.tables.recoverableRawRows
  | .createPendingEnqueueOutbox ingestId reason =>
    (w.tables.createPendingEnqueueOutbox ingestId reason w.nextId e.now).2
  | .pendingEnqueueOutbox => .ok w.tables.pendingEnqueueOutbox
  | .markOutboxCompleted _ => .ok ()
  | .markOutboxFailed _ _ => .ok ()
  | .replayRejectedStatus ingestId => .ok (w.tables.replayRejectedStatus ingestId e.now).2
  | .newEarthdataClient => .ok ()
  | .newStorageClient => .ok ()
  | .newQueueClient => .ok ()
  | .earthdataDownload _ => .ok e.bytes
  | .uploadRawBlob _ _ => .ok ()
  | .downloadRawBlob _ => .ok e.bytes
  | .enqueueProcessingMessage _ _ => .ok ()

/-- The reply to a call that fails, or whose own reply is lost. -/
def failure (e : Env) : (c : IngestCall) → c.Reply
  | .insertDownloadingRow _ _ => .error e.dbError
  | .setStatus _ _ _ => .error e.dbError
  | .recoverableRawRows => .error e.dbError
  | .createPendingEnqueueOutbox _ _ => .error e.dbError
  | .pendingEnqueueOutbox => .error e.dbError
  | .markOutboxCompleted _ => .error e.dbError
  | .markOutboxFailed _ _ => .error e.dbError
  | .replayRejectedStatus _ => .error e.dbError
  | .newEarthdataClient => .error e.earthdataError
  | .newStorageClient => .error e.storageError
  | .newQueueClient => .error e.storageError
  | .earthdataDownload _ => .error e.earthdataError
  | .uploadRawBlob _ _ => .error e.storageError
  | .downloadRawBlob _ => .error e.storageError
  | .enqueueProcessingMessage _ _ => .error e.storageError

def answer (c : IngestCall) (e : Env) (w : IngestWorld) : IngestWorld × c.Reply :=
  (if e.outcome = .failed then w else effect e.now w c,
    if e.outcome = .ok then result e w c else failure e c)

theorem answer_world_of_failed {c : IngestCall} {e : Env} (h : e.outcome = .failed)
    (w : IngestWorld) : (answer c e w).1 = w := if_pos h

theorem answer_world_of_applied {c : IngestCall} {e : Env} (h : e.outcome ≠ .failed)
    (w : IngestWorld) : (answer c e w).1 = effect e.now w c := if_neg h

theorem answer_reply_of_ok {c : IngestCall} {e : Env} (h : e.outcome = .ok) (w : IngestWorld) :
    (answer c e w).2 = result e w c := if_pos h

theorem answer_reply_of_error {c : IngestCall} {e : Env} (h : e.outcome ≠ .ok)
    (w : IngestWorld) : (answer c e w).2 = failure e c := if_neg h

abbrev IngestProgram := Program IngestCall IngestCall.Reply

namespace IngestProgram

def call (c : IngestCall) : IngestProgram c.Reply := Program.request c

def insertDownloadingRow (granule : GranuleCandidate) (blobPath : String) :
    IngestProgram (Except DbError InsertDownloadingRowOutcome) :=
  call (.insertDownloadingRow granule blobPath)

def markSuccessStatus (ingestId : Uuid) (status : IngestStatus) :
    IngestProgram (Except DbError Unit) :=
  call (.setStatus ingestId status none)

def markDownloaded (ingestId : Uuid) : IngestProgram (Except DbError Unit) :=
  markSuccessStatus ingestId .downloaded

def markValidated (ingestId : Uuid) : IngestProgram (Except DbError Unit) :=
  markSuccessStatus ingestId .validated

def markRecoveryPending (ingestId : Uuid) : IngestProgram (Except DbError Unit) :=
  markSuccessStatus ingestId .recoveryPending

def markEnqueued (ingestId : Uuid) : IngestProgram (Except DbError Unit) :=
  markSuccessStatus ingestId .enqueued

def markFailedStatus (ingestId : Uuid) (status : IngestStatus) (errorMessage : String) :
    IngestProgram (Except DbError Unit) :=
  call (.setStatus ingestId status (some (truncateErrorMessage errorMessage)))

def markFailed (ingestId : Uuid) (errorMessage : String) : IngestProgram (Except DbError Unit) :=
  markFailedStatus ingestId .failed errorMessage

def markRejected (ingestId : Uuid) (errorMessage : String) :
    IngestProgram (Except DbError Unit) :=
  markFailedStatus ingestId .rejected errorMessage

def recoverableRawRows : IngestProgram (Except DbError (List IngestRecoveryRecord)) :=
  call .recoverableRawRows

def createPendingEnqueueOutbox (ingestId : Uuid) (reason : String) :
    IngestProgram (Except DbError Uuid) :=
  call (.createPendingEnqueueOutbox ingestId reason)

def pendingEnqueueOutbox : IngestProgram (Except DbError (List PendingOutboxRecord)) :=
  call .pendingEnqueueOutbox

def markOutboxCompleted (outboxId : Uuid) : IngestProgram (Except DbError Unit) :=
  call (.markOutboxCompleted outboxId)

def markOutboxFailed (outboxId : Uuid) (errorMessage : String) :
    IngestProgram (Except DbError Unit) :=
  call (.markOutboxFailed outboxId errorMessage)

def replayRejectedStatus (ingestId : Uuid) : IngestProgram (Except DbError ℕ) :=
  call (.replayRejectedStatus ingestId)

def newEarthdataClient : IngestProgram (Except EarthdataError Unit) := call .newEarthdataClient

def newStorageClient : IngestProgram (Except StorageError Unit) := call .newStorageClient

def newQueueClient : IngestProgram (Except StorageError Unit) := call .newQueueClient

def earthdataDownload (granule : GranuleCandidate) :
    IngestProgram (Except EarthdataError (List UInt8)) :=
  call (.earthdataDownload granule)

def uploadRawBlob (blobPath : String) (bytes : List UInt8) :
    IngestProgram (Except StorageError Unit) :=
  call (.uploadRawBlob blobPath bytes)

def downloadRawBlob (blobPath : String) : IngestProgram (Except StorageError (List UInt8)) :=
  call (.downloadRawBlob blobPath)

def enqueueProcessingMessage (queueName : String) (message : ProcessingMessage) :
    IngestProgram (Except StorageError Unit) :=
  call (.enqueueProcessingMessage queueName message)

end IngestProgram
end LumenHorizon.Ingest
