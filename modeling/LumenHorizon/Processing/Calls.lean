import LumenHorizon.Foundation.Pool
import LumenHorizon.Ingest.IngestLog
import LumenHorizon.Processing.Rendering
import LumenHorizon.Processing.TileSets

/-! # What processing asks of its environment

Queue, database, storage and local tools as calls. A call may succeed, fail without effect, or
take effect while its reply is lost; a message that was received can be received again as long
as it is in the queue, as its visibility timeout may run out at any time.
-/

namespace LumenHorizon.Processing
open Foundation Shared

structure ReceivedQueueMessage where
  messageId : ℕ
  popReceipt : ℕ
  dequeueCount : ℕ
  messageText : String
deriving DecidableEq, Repr

structure QueueMessage extends ReceivedQueueMessage where
  queueName : String
deriving DecidableEq, Repr

inductive RetentionEventMode where
  | dryRun
  | execute
deriving DecidableEq, Repr

inductive RetentionTargetKind where
  | rawBlob
  | processedTile
  | processedManifest
  | tileSet
deriving DecidableEq, Repr

inductive RetentionEventAction where
  | selected
  | deleted
  | missing
  | skipped
deriving DecidableEq, Repr

structure RetentionEvent where
  cleanupRunId : Uuid
  mode : RetentionEventMode
  targetKind : RetentionTargetKind
  targetIdentifier : String
  blobContainer : Option String
  blobPath : Option String
  action : RetentionEventAction
  reason : String
deriving DecidableEq, Repr

inductive DeleteBlobOutcome where
  | deleted
  | missing
deriving DecidableEq, Repr

structure RawBlobRetentionCandidate where
  blobPath : String
  oldestCreatedAt : ℕ
  recordCount : ℕ
deriving DecidableEq, Repr

/-- The steps of a delivery that touch nothing shared. -/
inductive LocalStep where
  | verifyGdalinfo
  | createWorkspace
  | newBlobClient
  | downloadRawBlob (blobPath : String)
deriving DecidableEq, Repr

/-- An error of a local step, by the text it prints as. -/
inductive ToolError where
  | generate (error : String)
  | hdfCli (error : String)
  | science (error : String)
  | storage (error : StorageError)
deriving DecidableEq, Repr

def ToolError.toServiceError : ToolError → ServiceError
  | generate error => .generate error
  | hdfCli error => .hdfCli error
  | science error => .science error
  | storage error => .storage error

/-- What the inspection and the sampling of a granule come to. -/
structure Inspection where
  radianceShape : RasterShape
  qualitySummary : QualitySummary
  firstDarkSkyClass : Option ℕ
deriving DecidableEq, Repr

inductive ProcessingCall where
  | newQueueClient
  | receiveMessages (queueName : String) (maxMessages visibilityTimeoutSeconds : ℕ)
  | deleteMessage (queueName : String) (messageId popReceipt : ℕ)
  | enqueueMessage (queueName messageText : String)
  | connect
  | upsertProcessingStarted (message : ProcessingMessage)
  | updateProcessingMetadata (processingLogId : Uuid) (metadata : QualityMetadata)
      (cloudFraction : ℚ) (validPixelCount rejectedPixelCount : ℕ)
  | markEnding (ingestId : Uuid) (ending : ProcessingLog.Ending)
  | takeLocalStep (step : LocalStep)
  | inspectGranule (message : ProcessingMessage)
  | generateTiles (message : ProcessingMessage) (inspection : Inspection)
  | uploadProcessedBlob (path : String) (blob : ProcessedBlob)
  | insertTileSet (manifest : TileManifest)
  | promoteLatestTileSet (tileSetId : String)
  | selectRawBlobRetentionCandidates (rawRetentionDays batchLimit : ℕ)
  | selectTileSetRetentionCandidates (processedRetentionDays protectedPriorTileSets batchLimit : ℕ)
  | recordRetentionEvent (event : RetentionEvent)
  | deleteRawBlob (path : String)
  | listProcessedBlobs (pathPrefix : String) (maxResults : ℕ)
  | deleteProcessedBlob (path : String)
  | markTileSetRetentionDeleted (tileSetId reason : String)
  | insertIngestRow (row : Ingest.IngestRow)
  | uploadRawBlob (path : String)

namespace ProcessingCall

abbrev Reply : ProcessingCall → Type
  | newQueueClient => Except StorageError Unit
  | receiveMessages _ _ _ => Except StorageError (List ReceivedQueueMessage)
  | deleteMessage _ _ _ => Except StorageError Unit
  | enqueueMessage _ _ => Except StorageError Unit
  | connect => Except DbError Unit
  | upsertProcessingStarted _ => Except DbError ProcessingLogRecord
  | updateProcessingMetadata _ _ _ _ _ => Except DbError Unit
  | markEnding _ _ => Except DbError Unit
  | takeLocalStep _ => Except ToolError Unit
  | inspectGranule _ => Except ToolError Inspection
  | generateTiles _ _ => Except ToolError (List RenderedTile × String)
  | uploadProcessedBlob _ _ => Except StorageError Unit
  | insertTileSet _ => Except DbError Unit
  | promoteLatestTileSet _ => Except DbError Unit
  | selectRawBlobRetentionCandidates _ _ => Except DbError (List RawBlobRetentionCandidate)
  | selectTileSetRetentionCandidates _ _ _ => Except DbError (List TileSetRetentionCandidate)
  | recordRetentionEvent _ => Except DbError Unit
  | deleteRawBlob _ => Except StorageError DeleteBlobOutcome
  | listProcessedBlobs _ _ => Except StorageError (List String × Bool)
  | deleteProcessedBlob _ => Except StorageError DeleteBlobOutcome
  | markTileSetRetentionDeleted _ _ => Except DbError Unit
  | insertIngestRow _ => Except String Unit
  | uploadRawBlob _ => Except String Unit

end ProcessingCall

/-- The shared state. `finished` is a record for the statements: the ingests whose processed or
rejected status was confirmed to a delivery. -/
structure ProcessingWorld where
  ingestLog : List Ingest.IngestRow
  processingLog : ProcessingLog
  tileSets : TileSetTable
  processedBlobs : BlobStore
  rawBlobs : List String
  messages : List QueueMessage
  retentionEvents : List RetentionEvent
  nextId : ℕ
  finished : List Uuid
deriving DecidableEq

inductive Outcome where
  | ok
  | failed
  | lost
deriving DecidableEq, Repr

/-- What the environment decides about one call: its outcome, the time, which message a receive
returns, what the local tools find, and the error that is reported if there is one. -/
structure Env where
  outcome : Outcome
  now : ℕ
  pick : ℕ
  inspection : Inspection
  tiles : List RenderedTile
  manifestSha256 : String
  error : String
  toolError : ToolError
deriving DecidableEq, Repr

namespace ProcessingWorld

def Known (w : ProcessingWorld) (ingestId : Uuid) : Bool :=
  w.ingestLog.any fun row => row.id = ingestId

/-- The message a receive returns, with its new receipt and dequeue count. -/
def received (w : ProcessingWorld) (queueName : String) (pick : ℕ) : Option QueueMessage :=
  ((w.messages.filter fun message => message.queueName = queueName)[pick]?).map fun message =>
    { message with popReceipt := w.nextId, dequeueCount := message.dequeueCount + 1 }

def receive (w : ProcessingWorld) (queueName : String) (pick : ℕ) : List QueueMessage :=
  match w.received queueName pick with
  | none => w.messages
  | some taken => w.messages.map fun message =>
      if message.messageId = taken.messageId then taken else message

def IsMessage (queueName : String) (messageId popReceipt : ℕ) (message : QueueMessage) : Prop :=
  message.queueName = queueName ∧ message.messageId = messageId ∧ message.popReceipt = popReceipt

instance (queueName : String) (messageId popReceipt : ℕ) (message : QueueMessage) :
    Decidable (IsMessage queueName messageId popReceipt message) :=
  inferInstanceAs (Decidable (_ ∧ _))

/-- The condition of `select_raw_blob_retention_candidates` on one row. -/
def RawSelectable (w : ProcessingWorld) (rawRetentionDays now : ℕ) (row : Ingest.IngestRow) : Prop :=
  row.createdAt + rawRetentionDays * microsecondsPerDay < now ∧
    ¬ ∃ event ∈ w.retentionEvents, event.targetKind = .rawBlob ∧
      event.targetIdentifier = row.blobPath ∧ event.mode = .execute ∧
      (event.action = .deleted ∨ event.action = .missing)

instance (w : ProcessingWorld) (days now : ℕ) (row : Ingest.IngestRow) :
    Decidable (w.RawSelectable days now row) := inferInstanceAs (Decidable (_ ∧ _))

/-- The selected rows grouped by blob path, the oldest groups first. -/
def selectRawBlobRetentionCandidates (w : ProcessingWorld) (rawRetentionDays batchLimit now : ℕ) :
    List RawBlobRetentionCandidate :=
  let rows := w.ingestLog.filter fun row => w.RawSelectable rawRetentionDays now row
  let candidates := (rows.map Ingest.IngestRow.blobPath).dedup.map fun blobPath =>
    let group := rows.filter fun row => row.blobPath = blobPath
    { blobPath := blobPath
      oldestCreatedAt := ((group.map Ingest.IngestRow.createdAt).min?).getD 0
      recordCount := group.length : RawBlobRetentionCandidate }
  (candidates.insertionSort fun a b => a.oldestCreatedAt < b.oldestCreatedAt ∨
    (a.oldestCreatedAt = b.oldestCreatedAt ∧ a.blobPath ≤ b.blobPath)).take batchLimit

end ProcessingWorld

/-- What a call changes when it takes effect. -/
def effect (e : Env) (w : ProcessingWorld) : ProcessingCall → ProcessingWorld
  | .receiveMessages queueName _ _ =>
    { w with messages := w.receive queueName e.pick, nextId := w.nextId + 1 }
  | .deleteMessage queueName messageId popReceipt =>
    { w with
      messages := w.messages.filter fun message =>
        ¬ ProcessingWorld.IsMessage queueName messageId popReceipt message }
  | .enqueueMessage queueName messageText =>
    { w with
      messages := w.messages ++ [{
        messageId := w.nextId
        popReceipt := w.nextId
        dequeueCount := 0
        messageText := messageText
        queueName := queueName }]
      nextId := w.nextId + 1 }
  | .upsertProcessingStarted message =>
    { w with
      processingLog := (w.processingLog.upsertProcessingStarted (w.Known message.ingestId) message
        w.nextId e.now).1
      nextId := w.nextId + 1 }
  | .updateProcessingMetadata processingLogId metadata cloudFraction valid rejected =>
    { w with
      processingLog := w.processingLog.updateProcessingMetadata processingLogId metadata
        cloudFraction valid rejected e.now }
  | .markEnding ingestId ending =>
    { w with processingLog := w.processingLog.markEnding ingestId ending e.now }
  | .uploadProcessedBlob path blob =>
    { w with processedBlobs := w.processedBlobs.upload path blob }
  | .insertTileSet manifest =>
    { w with tileSets := (w.tileSets.insertTileSet manifest e.now).1 }
  | .promoteLatestTileSet tileSetId =>
    { w with tileSets := (w.tileSets.promoteLatestTileSet tileSetId).1 }
  | .recordRetentionEvent event =>
    { w with retentionEvents := w.retentionEvents ++ [event] }
  | .deleteRawBlob path => { w with rawBlobs := w.rawBlobs.filter (· ≠ path) }
  | .deleteProcessedBlob path => { w with processedBlobs := w.processedBlobs.delete path }
  | .markTileSetRetentionDeleted tileSetId reason =>
    { w with tileSets := (w.tileSets.markTileSetRetentionDeleted tileSetId reason e.now).1 }
  | .insertIngestRow row =>
    { w with ingestLog := if w.Known row.id then w.ingestLog else w.ingestLog ++ [row] }
  | .uploadRawBlob path => { w with rawBlobs := w.rawBlobs.filter (· ≠ path) ++ [path] }
  | _ => w

/-- The reply to a call that goes through. -/
def result (e : Env) (w : ProcessingWorld) : (c : ProcessingCall) → c.Reply
  | .newQueueClient => .ok ()
  | .receiveMessages queueName _ _ =>
    .ok ((w.received queueName e.pick).map QueueMessage.toReceivedQueueMessage).toList
  | .deleteMessage queueName messageId popReceipt =>
    if ∃ message ∈ w.messages, ProcessingWorld.IsMessage queueName messageId popReceipt message
    then .ok () else .error ⟨e.error⟩
  | .enqueueMessage _ _ => .ok ()
  | .connect => .ok ()
  | .upsertProcessingStarted message =>
    (w.processingLog.upsertProcessingStarted (w.Known message.ingestId) message w.nextId e.now).2
  | .updateProcessingMetadata _ _ _ _ _ => .ok ()
  | .markEnding _ _ => .ok ()
  | .takeLocalStep _ => .ok ()
  | .inspectGranule _ => .ok e.inspection
  | .generateTiles _ _ => .ok (e.tiles, e.manifestSha256)
  | .uploadProcessedBlob _ _ => .ok ()
  | .insertTileSet manifest => (w.tileSets.insertTileSet manifest e.now).2
  | .promoteLatestTileSet tileSetId => (w.tileSets.promoteLatestTileSet tileSetId).2
  | .selectRawBlobRetentionCandidates days limit =>
    .ok (w.selectRawBlobRetentionCandidates days limit e.now)
  | .selectTileSetRetentionCandidates days prior limit =>
    .ok (w.tileSets.selectTileSetRetentionCandidates days prior limit e.now)
  | .recordRetentionEvent _ => .ok ()
  | .deleteRawBlob path => .ok (if path ∈ w.rawBlobs then .deleted else .missing)
  | .listProcessedBlobs pathPrefix maxResults =>
    .ok (w.processedBlobs.listWithPrefix pathPrefix maxResults)
  | .deleteProcessedBlob path =>
    .ok (if w.processedBlobs.Exists path then .deleted else .missing)
  | .markTileSetRetentionDeleted tileSetId reason =>
    (w.tileSets.markTileSetRetentionDeleted tileSetId reason e.now).2
  | .insertIngestRow row =>
    if w.Known row.id then .error "duplicate key value violates unique constraint" else .ok ()
  | .uploadRawBlob _ => .ok ()

/-- The reply to a call that fails, or whose own reply is lost. -/
def failure (e : Env) : (c : ProcessingCall) → c.Reply
  | .newQueueClient => .error ⟨e.error⟩
  | .receiveMessages _ _ _ => .error ⟨e.error⟩
  | .deleteMessage _ _ _ => .error ⟨e.error⟩
  | .enqueueMessage _ _ => .error ⟨e.error⟩
  | .connect => .error (.connect e.error)
  | .upsertProcessingStarted _ => .error (.upsertProcessingLog e.error)
  | .updateProcessingMetadata _ _ _ _ _ => .error (.updateProcessingLog e.error)
  | .markEnding _ _ => .error (.updateProcessingLog e.error)
  | .takeLocalStep _ => .error e.toolError
  | .inspectGranule _ => .error e.toolError
  | .generateTiles _ _ => .error e.toolError
  | .uploadProcessedBlob _ _ => .error ⟨e.error⟩
  | .insertTileSet _ => .error (.insertTileSet e.error)
  | .promoteLatestTileSet _ => .error (.promoteTileSet e.error)
  | .selectRawBlobRetentionCandidates _ _ => .error (.selectRetentionCandidates e.error)
  | .selectTileSetRetentionCandidates _ _ _ => .error (.selectRetentionCandidates e.error)
  | .recordRetentionEvent _ => .error (.insertRetentionEvent e.error)
  | .deleteRawBlob _ => .error ⟨e.error⟩
  | .listProcessedBlobs _ _ => .error ⟨e.error⟩
  | .deleteProcessedBlob _ => .error ⟨e.error⟩
  | .markTileSetRetentionDeleted _ _ => .error (.updateRetentionMetadata e.error)
  | .insertIngestRow _ => .error e.error
  | .uploadRawBlob _ => .error e.error

/-- The record of a confirmed processed or rejected status. -/
def confirm (w : ProcessingWorld) : ProcessingCall → ProcessingWorld
  | .markEnding ingestId (.processed _) => { w with finished := ingestId :: w.finished }
  | .markEnding ingestId (.rejected _) => { w with finished := ingestId :: w.finished }
  | _ => w

def answer (c : ProcessingCall) (e : Env) (w : ProcessingWorld) : ProcessingWorld × c.Reply :=
  match e.outcome with
  | .ok => (confirm (effect e w c) c, result e w c)
  | .failed => (w, failure e c)
  | .lost => (effect e w c, failure e c)

theorem answer_of_ok {e : Env} (h : e.outcome = .ok) (c : ProcessingCall) (w : ProcessingWorld) :
    answer c e w = (confirm (effect e w c) c, result e w c) := by
  rw [answer, h]

theorem answer_of_failed {e : Env} (h : e.outcome = .failed) (c : ProcessingCall)
    (w : ProcessingWorld) : answer c e w = (w, failure e c) := by
  rw [answer, h]

theorem answer_of_lost {e : Env} (h : e.outcome = .lost) (c : ProcessingCall)
    (w : ProcessingWorld) : answer c e w = (effect e w c, failure e c) := by
  rw [answer, h]

theorem confirm_eq (w : ProcessingWorld) (c : ProcessingCall) :
    ∃ finished, confirm w c = { w with finished := finished } := by
  cases c with
  | markEnding ingestId ending => cases ending <;> exact ⟨_, rfl⟩
  | _ => exact ⟨w.finished, rfl⟩

/-- A failed call leaves the world as it is; any other has its effect, up to the record of
finished ingests. -/
theorem answer_effect (c : ProcessingCall) (e : Env) (w : ProcessingWorld) :
    (e.outcome = .failed ∧ (answer c e w).1 = w) ∨
      (e.outcome ≠ .failed ∧
        ∃ finished, (answer c e w).1 = { effect e w c with finished := finished }) := by
  cases ho : e.outcome with
  | ok =>
    rw [answer_of_ok ho]
    exact .inr ⟨nofun, confirm_eq _ c⟩
  | failed =>
    rw [answer_of_failed ho]
    exact .inl ⟨rfl, rfl⟩
  | lost =>
    rw [answer_of_lost ho]
    exact .inr ⟨nofun, _, rfl⟩

theorem effect_nextId (e : Env) (w : ProcessingWorld) (c : ProcessingCall) :
    w.nextId ≤ (effect e w c).nextId := by
  cases c with
  | receiveMessages | enqueueMessage | upsertProcessingStarted => exact Nat.le_succ _
  | _ => exact le_rfl

theorem answer_nextId (c : ProcessingCall) (e : Env) (w : ProcessingWorld) :
    w.nextId ≤ (answer c e w).1.nextId := by
  rcases answer_effect c e w with ⟨-, h⟩ | ⟨-, finished, h⟩
  · rw [h]
  · rw [h]
    exact effect_nextId e w c

abbrev ProcessingProgram := Program ProcessingCall ProcessingCall.Reply

/-! ## The calls under their names in the source -/

namespace ProcessingProgram

def call (c : ProcessingCall) : ProcessingProgram c.Reply := Program.request c

def newQueueClient : ProcessingProgram (Except StorageError Unit) := call .newQueueClient

def receiveMessages (queueName : String) (maxMessages visibilityTimeoutSeconds : ℕ) :
    ProcessingProgram (Except StorageError (List ReceivedQueueMessage)) :=
  call (.receiveMessages queueName maxMessages visibilityTimeoutSeconds)

def deleteMessage (queueName : String) (messageId popReceipt : ℕ) :
    ProcessingProgram (Except StorageError Unit) :=
  call (.deleteMessage queueName messageId popReceipt)

def enqueueMessage (queueName messageText : String) :
    ProcessingProgram (Except StorageError Unit) :=
  call (.enqueueMessage queueName messageText)

def connect : ProcessingProgram (Except DbError Unit) := call .connect

def upsertProcessingStarted (message : ProcessingMessage) :
    ProcessingProgram (Except DbError ProcessingLogRecord) :=
  call (.upsertProcessingStarted message)

def updateProcessingMetadata (processingLogId : Uuid) (metadata : QualityMetadata)
    (cloudFraction : ℚ) (validPixelCount rejectedPixelCount : ℕ) :
    ProcessingProgram (Except DbError Unit) :=
  call (.updateProcessingMetadata processingLogId metadata cloudFraction validPixelCount
    rejectedPixelCount)

def markProcessingFailed (ingestId : Uuid) (errorMessage : String) :
    ProcessingProgram (Except DbError Unit) :=
  call (.markEnding ingestId (.failed errorMessage))

def markProcessingDeadlettered (ingestId : Uuid) (errorMessage : String) :
    ProcessingProgram (Except DbError Unit) :=
  call (.markEnding ingestId (.deadlettered errorMessage))

def markProcessingRejected (ingestId : Uuid) (reason : String) :
    ProcessingProgram (Except DbError Unit) :=
  call (.markEnding ingestId (.rejected reason))

def markProcessingProcessedWithTileSet (ingestId : Uuid) (tileSetId : String) :
    ProcessingProgram (Except DbError Unit) :=
  call (.markEnding ingestId (.processed tileSetId))

def takeLocalStep (step : LocalStep) : ProcessingProgram (Except ToolError Unit) :=
  call (.takeLocalStep step)

def inspectGranule (message : ProcessingMessage) :
    ProcessingProgram (Except ToolError Inspection) :=
  call (.inspectGranule message)

def generateTiles (message : ProcessingMessage) (inspection : Inspection) :
    ProcessingProgram (Except ToolError (List RenderedTile × String)) :=
  call (.generateTiles message inspection)

def uploadProcessedBlob (path : String) (blob : ProcessedBlob) :
    ProcessingProgram (Except StorageError Unit) :=
  call (.uploadProcessedBlob path blob)

def insertTileSet (manifest : TileManifest) : ProcessingProgram (Except DbError Unit) :=
  call (.insertTileSet manifest)

def promoteLatestTileSet (tileSetId : String) : ProcessingProgram (Except DbError Unit) :=
  call (.promoteLatestTileSet tileSetId)

def selectRawBlobRetentionCandidates (rawRetentionDays batchLimit : ℕ) :
    ProcessingProgram (Except DbError (List RawBlobRetentionCandidate)) :=
  call (.selectRawBlobRetentionCandidates rawRetentionDays batchLimit)

def selectTileSetRetentionCandidates
    (processedRetentionDays protectedPriorTileSets batchLimit : ℕ) :
    ProcessingProgram (Except DbError (List TileSetRetentionCandidate)) :=
  call (.selectTileSetRetentionCandidates processedRetentionDays protectedPriorTileSets batchLimit)

def recordRetentionEvent (event : RetentionEvent) : ProcessingProgram (Except DbError Unit) :=
  call (.recordRetentionEvent event)

def deleteRawBlob (path : String) :
    ProcessingProgram (Except StorageError DeleteBlobOutcome) :=
  call (.deleteRawBlob path)

def listProcessedBlobs (pathPrefix : String) (maxResults : ℕ) :
    ProcessingProgram (Except StorageError (List String × Bool)) :=
  call (.listProcessedBlobs pathPrefix maxResults)

def deleteProcessedBlob (path : String) :
    ProcessingProgram (Except StorageError DeleteBlobOutcome) :=
  call (.deleteProcessedBlob path)

def markTileSetRetentionDeleted (tileSetId reason : String) :
    ProcessingProgram (Except DbError Unit) :=
  call (.markTileSetRetentionDeleted tileSetId reason)

def insertIngestRow (row : Ingest.IngestRow) : ProcessingProgram (Except String Unit) :=
  call (.insertIngestRow row)

def uploadRawBlob (path : String) : ProcessingProgram (Except String Unit) :=
  call (.uploadRawBlob path)

end ProcessingProgram
end LumenHorizon.Processing
