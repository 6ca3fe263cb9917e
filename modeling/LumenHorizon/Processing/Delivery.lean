import LumenHorizon.Foundation.History
import LumenHorizon.Processing.Commands

/-! # What a delivery does after what it did

The calls that publication, an attempt and a delivery may make next, as rules over the calls they
made so far and the replies they had. Each program keeps its rule for every reply its environment
can give.
-/

namespace LumenHorizon.Processing
open Foundation Shared ProcessingProgram Program

abbrev History := Transcript ProcessingCall ProcessingCall.Reply

/-- A reply that some environment gives in some world. -/
def Possible (c : ProcessingCall) (reply : c.Reply) : Prop := ∃ e w, (answer c e w).2 = reply

def Made (t : History) (c : ProcessingCall) (reply : c.Reply) : Prop := ⟨c, reply⟩ ∈ t

def Last (t : History) (c : ProcessingCall) (reply : c.Reply) : Prop := ∃ t', t = ⟨c, reply⟩ :: t'

theorem made_self (t : History) (c : ProcessingCall) (reply : c.Reply) :
    Made (⟨c, reply⟩ :: t) c reply := List.mem_cons_self

theorem Made.cons {t : History} {c : ProcessingCall} {reply : c.Reply} (h : Made t c reply)
    (entry : Σ c : ProcessingCall, c.Reply) : Made (entry :: t) c reply :=
  List.mem_cons_of_mem _ h

theorem last_self (t : History) (c : ProcessingCall) (reply : c.Reply) :
    Last (⟨c, reply⟩ :: t) c reply := ⟨t, rfl⟩

/-! ## Publication -/

/-- Each step of publication directly follows the one it builds on. -/
def PublishRule (t : History) : ProcessingCall → Prop
  | .uploadProcessedBlob path .tile => ∃ tileSetId coord, tileBlobPath tileSetId coord = .ok path
  | .uploadProcessedBlob path (.manifest manifest) =>
    manifest.tileSetId ≠ "latest" ∧ manifest.manifestBlobPath = .ok path
  | .uploadProcessedBlob path (.latestPointer pointer) =>
    path = latestManifestBlobPath ∧
      manifestBlobPath pointer.tileSetId = .ok pointer.manifestBlobPath ∧
      Last t (.promoteLatestTileSet pointer.tileSetId) (.ok ())
  | .insertTileSet manifest =>
    manifest.tileSetId ≠ "latest" ∧ ∃ path, manifest.manifestBlobPath = .ok path ∧
      Last t (.uploadProcessedBlob path (.manifest manifest)) (.ok ())
  | .promoteLatestTileSet tileSetId =>
    ∃ manifest, manifest.tileSetId = tileSetId ∧ Last t (.insertTileSet manifest) (.ok ())
  | _ => False

/-- The endings that are not failures. -/
def Final : ProcessingLog.Ending → Prop
  | .rejected _ => True
  | .processed _ => True
  | _ => False

/-- The calls of an attempt after its start was recorded. -/
def AttemptRule (message : ProcessingMessage) (processingLog : ProcessingLogRecord) (t : History) :
    ProcessingCall → Prop
  | .markEnding ingestId ending => ingestId = message.ingestId ∧ Final ending
  | .updateProcessingMetadata processingLogId _ _ _ _ => processingLogId = processingLog.id
  | .uploadProcessedBlob path blob => PublishRule t (.uploadProcessedBlob path blob)
  | .insertTileSet manifest => PublishRule t (.insertTileSet manifest)
  | .promoteLatestTileSet tileSetId => PublishRule t (.promoteLatestTileSet tileSetId)
  | .takeLocalStep _ => True
  | .inspectGranule _ => True
  | .generateTiles _ _ => True
  | _ => False

variable {config : ProcessingConfig} {message : ProcessingMessage} {promotedAt : ℕ}
  {processingLog : ProcessingLogRecord}

theorem publishTileManifest_meets {manifest : TileManifest} (hid : manifest.tileSetId ≠ "latest")
    (t : History) :
    (publishTileManifest manifest promotedAt).Meets Possible (AttemptRule message processingLog)
      (fun _ _ => True) t := by
  unfold publishTileManifest
  cases hpath : manifest.manifestBlobPath with
  | error error => trivial
  | ok path =>
    have hpublish : PublishRule t (.uploadProcessedBlob path (.manifest manifest)) := ⟨hid, hpath⟩
    refine Meets.call hpublish fun reply _ => ?_
    cases reply with
    | error error => trivial
    | ok _ =>
      refine Meets.call ⟨hid, path, hpath, last_self _ _ _⟩ fun reply _ => ?_
      cases reply with
      | error error => trivial
      | ok _ =>
        refine Meets.call ⟨manifest, rfl, last_self _ _ _⟩ fun reply _ => ?_
        cases reply with
        | error error => trivial
        | ok _ =>
          have hpointer : manifest.latestPointer promotedAt =
              .ok ⟨manifest.tileSetId, path, manifest.manifestSha256, promotedAt⟩ := by
            rw [TileManifest.latestPointer, hpath]
            rfl
          simp only [hpointer]
          refine Meets.call ⟨rfl, hpath, last_self _ _ _⟩ fun reply _ => ?_
          cases reply <;> trivial

theorem uploadTiles_meets (tileSetId : String) (tiles : List RenderedTile) (t : History) :
    (uploadTiles tileSetId tiles).Meets Possible (AttemptRule message processingLog)
      (fun _ _ => True) t := by
  induction tiles generalizing t with
  | nil => trivial
  | cons tile tiles ih =>
    unfold uploadTiles
    cases hpath : tileBlobPath tileSetId tile.coord with
    | error error => trivial
    | ok path =>
      refine Meets.call ⟨tileSetId, tile.coord, hpath⟩ fun reply _ => ?_
      cases reply with
      | error error => trivial
      | ok _ => exact ih _

theorem publishTileSet_meets {manifest : TileManifest} (hid : manifest.tileSetId ≠ "latest")
    (tiles : List RenderedTile) (t : History) :
    (publishTileSet manifest tiles promotedAt).Meets Possible (AttemptRule message processingLog)
      (fun _ _ => True) t := by
  refine Meets.bind (uploadTiles_meets _ tiles t) fun t' outcome _ => ?_
  cases outcome with
  | error error => trivial
  | ok _ => exact publishTileManifest_meets hid t'

/-! ## An attempt -/

/-- A date comes with its hyphens, so no tile set is called `latest`. -/
theorem tileSetIdForMessage_ne_latest (config : ProcessingConfig) (message : ProcessingMessage)
    (attempt : ℕ) : tileSetIdForMessage config message attempt ≠ "latest" := by
  intro h
  have hmem : '-' ∈ (tileSetIdForMessage config message attempt).toList := by
    simp [tileSetIdForMessage]
  rw [h] at hmem
  exact absurd hmem (by decide)

theorem TileManifest.fromConfig_tileSetId {tileSetId : String} {tileCount : ℕ}
    {sourceGranules : List SourceGranule} {manifestSha256 : String} {manifest : TileManifest}
    (h : fromConfig config tileSetId tileCount sourceGranules manifestSha256 = .ok manifest) :
    manifest.tileSetId = tileSetId := by
  simp only [fromConfig, bind_eq_ok_iff] at h
  obtain ⟨_, -, h⟩ := h
  rw [← Except.ok.inj h]

theorem possible_connect {error : DbError} (h : Possible .connect (.error error)) :
    isMissingIngestLogError (.database error) = false := by
  obtain ⟨e, w, h⟩ := h
  cases ho : e.outcome <;> rw [answer, ho] at h <;> cases h <;> rfl

theorem possible_updateProcessingMetadata {id : Uuid} {metadata : QualityMetadata}
    {cloudFraction : ℚ} {valid rejected : ℕ} {error : DbError}
    (h : Possible (.updateProcessingMetadata id metadata cloudFraction valid rejected)
      (.error error)) : isMissingIngestLogError (.database error) = false := by
  obtain ⟨e, w, h⟩ := h
  cases ho : e.outcome <;> rw [answer, ho] at h <;> cases h <;> rfl

theorem possible_markEnding {ingestId : Uuid} {ending : ProcessingLog.Ending} {error : DbError}
    (h : Possible (.markEnding ingestId ending) (.error error)) :
    isMissingIngestLogError (.database error) = false := by
  obtain ⟨e, w, h⟩ := h
  cases ho : e.outcome <;> rw [answer, ho] at h <;> cases h <;> rfl

/-- How an attempt ends: on the recorded processed or rejected status, or with an error other
than that of a missing ingest row. -/
def AttemptEnds (message : ProcessingMessage) (t : History) : Except ServiceError Unit → Prop
  | .ok () => ∃ ending, Final ending ∧ Last t (.markEnding message.ingestId ending) (.ok ())
  | .error error => isMissingIngestLogError error = false

/-- The last write of an attempt, before a continuation that only passes its outcome on. -/
theorem markFinal_meets {ending : ProcessingLog.Ending} (hfinal : Final ending) (t : History)
    {next : Except DbError Unit → ProcessingProgram (Except ServiceError Unit)}
    (herror : ∀ error, next (.error error) = .done (.error (.database error)))
    (hok : next (.ok ()) = .done (.ok ())) :
    (Program.call (.markEnding message.ingestId ending) next).Meets Possible
      (AttemptRule message processingLog) (AttemptEnds message) t := by
  refine Meets.call ⟨rfl, hfinal⟩ fun reply hreply => ?_
  cases reply with
  | error error =>
    rw [herror]
    exact possible_markEnding hreply
  | ok _ =>
    rw [hok]
    exact ⟨ending, hfinal, last_self _ _ _⟩

theorem ToolError.toServiceError_not_missing (error : ToolError) :
    isMissingIngestLogError error.toServiceError = false := by
  cases error <;> rfl

theorem publishGranule_meets (inspection : Inspection) (t : History) :
    (publishGranule config message promotedAt inspection processingLog).Meets Possible
      (AttemptRule message processingLog) (AttemptEnds message) t := by
  unfold publishGranule
  cases SlippyTiles.viirsTileBounds (K := ℚ) message.tileH message.tileV with
  | error error => rfl
  | ok bounds =>
    refine Meets.call trivial fun reply _ => ?_
    cases reply with
    | error error => exact error.toServiceError_not_missing
    | ok generated =>
      obtain ⟨tiles, manifestSha256⟩ := generated
      dsimp only [andThen]
      split
      · rfl
      · next manifest hmanifest =>
        have hid : manifest.tileSetId ≠ "latest" := by
          rw [TileManifest.fromConfig_tileSetId hmanifest]
          exact tileSetIdForMessage_ne_latest config message _
        refine Meets.bind (publishTileSet_meets hid tiles _) fun t' outcome _ => ?_
        cases outcome with
        | error error => rfl
        | ok _ =>
          have hfinal : Final (.processed manifest.tileSetId) := trivial
          exact markFinal_meets hfinal t' (fun _ => rfl) rfl

theorem gateGranule_meets (inspection : Inspection) (t : History) :
    (gateGranule config message promotedAt processingLog inspection).Meets Possible
      (AttemptRule message processingLog) (AttemptEnds message) t := by
  refine Meets.call rfl fun reply hreply => ?_
  cases reply with
  | error error => exact possible_updateProcessingMetadata hreply
  | ok _ =>
    dsimp only [andThen]
    split
    · next reason _ =>
      have hfinal : Final (.rejected reason) := trivial
      exact markFinal_meets hfinal _ (fun _ => rfl) rfl
    · exact publishGranule_meets inspection _

theorem takeLocalSteps_meets (steps : List LocalStep) (t : History) :
    (takeLocalSteps steps).Meets Possible (AttemptRule message processingLog)
      (fun _ outcome => ∀ error, outcome = .error error → isMissingIngestLogError error = false)
      t := by
  induction steps generalizing t with
  | nil => exact fun _ h => nomatch h
  | cons step steps ih =>
    refine Meets.call trivial fun reply _ => ?_
    cases reply with
    | error error =>
      intro _ h
      cases h
      exact error.toServiceError_not_missing
    | ok _ => exact ih _

theorem runAttempt_meets (t : History) :
    (runAttempt config message promotedAt processingLog).Meets Possible
      (AttemptRule message processingLog) (AttemptEnds message) t := by
  refine Meets.bind (takeLocalSteps_meets _ t) fun t' outcome hsteps => ?_
  cases outcome with
  | error error => exact hsteps error rfl
  | ok _ =>
    refine Meets.call trivial fun reply _ => ?_
    cases reply with
    | error error => exact error.toServiceError_not_missing
    | ok inspection => exact gateGranule_meets inspection _

/-! ## The processing of a message -/

/-- The calls that process a message: connect, start an attempt, and go through with it. -/
def ProcessingRule (message : ProcessingMessage) (t : History) (c : ProcessingCall) : Prop :=
  c = .connect ∨ c = .upsertProcessingStarted message ∨
    ∃ processingLog, Made t (.upsertProcessingStarted message) (.ok processingLog) ∧
      AttemptRule message processingLog t c

/-- How processing ends: as its attempt does, or with an error, which reports a missing ingest
row only if the start did. -/
def ProcessingEnds (message : ProcessingMessage) (t : History) : Except ServiceError Unit → Prop
  | .ok () => AttemptEnds message t (.ok ())
  | .error error => isMissingIngestLogError error = true →
      ∃ ingestId, Made t (.upsertProcessingStarted message) (.error (.missingIngestLog ingestId))

theorem ProcessingEnds.of_error {t : History} {error : ServiceError}
    (h : isMissingIngestLogError error = false) : ProcessingEnds message t (.error error) :=
  fun hmissing => absurd (h.symm.trans hmissing) nofun

/-- A start reports a missing ingest row only if that is what its reply says. -/
theorem ProcessingEnds.of_start {t : History} (error : DbError) :
    ProcessingEnds message (⟨.upsertProcessingStarted message, .error error⟩ :: t)
      (.error (.database error)) := by
  intro hmissing
  cases error with
  | missingIngestLog ingestId => exact ⟨ingestId, made_self _ _ _⟩
  | _ => cases hmissing

theorem processParsedMessage_meets (t : History) :
    (processParsedMessage config message promotedAt).Meets Possible (ProcessingRule message)
      (ProcessingEnds message) t := by
  refine Meets.call (.inl rfl) fun reply hreply => ?_
  cases reply with
  | error error => exact ProcessingEnds.of_error (possible_connect hreply)
  | ok _ =>
    refine Meets.call (.inr (.inl rfl)) fun reply _ => ?_
    cases reply with
    | ok processingLog =>
      refine (Meets.traced (runAttempt_meets ([] ++ _)) .start).mono ?_ ?_
      · rintro t' c ⟨hrule, t₁, rfl⟩
        exact .inr (.inr ⟨processingLog, List.mem_append_right t₁ List.mem_cons_self, hrule⟩)
      · rintro t' outcome ⟨hends, -⟩
        cases outcome with
        | error error => exact ProcessingEnds.of_error hends
        | ok _ => exact hends
    | error error => exact .of_start error

/-! ## A delivery -/

def Received (config : ProcessingConfig) (t : History) (message : ReceivedQueueMessage) : Prop :=
  ∃ messages, Made t (.receiveMessages config.azureQueueName 1
    config.processingVisibilityTimeoutSeconds) (.ok messages) ∧ messages.getLast? = some message

/-- Processing of the message returned `Ok`: its calls are a stretch of the history. -/
def ProcessedOk (config : ProcessingConfig)
    (fromStr : String → Except String RawProcessingMessage) (promotedAt : ℕ)
    (message : ReceivedQueueMessage) (t : History) : Prop :=
  ∃ processingMessage t₁ t₀,
    ProcessingMessage.parseJson fromStr message.messageText = .ok processingMessage ∧
      t = t₁ ++ t₀ ∧
      (processParsedMessage config processingMessage promotedAt).Follows t₁ (.done (.ok ())) ∧
      ProcessingEnds processingMessage t (.ok ())

/-- The unmodified text was just put on the dead-letter queue. -/
def Copied (config : ProcessingConfig) (message : ReceivedQueueMessage) (t : History) : Prop :=
  Last t (.enqueueMessage config.azureDeadletterQueueName message.messageText) (.ok ())

/-- The start of the processing of this message found no ingest row. -/
def IngestRowMissing (fromStr : String → Except String RawProcessingMessage)
    (message : ReceivedQueueMessage) (t : History) : Prop :=
  ∃ processingMessage ingestId,
    ProcessingMessage.parseJson fromStr message.messageText = .ok processingMessage ∧
      Made t (.upsertProcessingStarted processingMessage) (.error (.missingIngestLog ingestId))

/-- When a received message may be put on the dead-letter queue, and when it may be deleted. -/
def QueueRule (config : ProcessingConfig) (fromStr : String → Except String RawProcessingMessage)
    (promotedAt : ℕ) (message : ReceivedQueueMessage) (t : History) : ProcessingCall → Prop
  | .deleteMessage queueName messageId popReceipt =>
    queueName = config.azureQueueName ∧ messageId = message.messageId ∧
      popReceipt = message.popReceipt ∧
      (ProcessedOk config fromStr promotedAt message t ∨ Copied config message t)
  | .enqueueMessage queueName messageText =>
    queueName = config.azureDeadletterQueueName ∧ messageText = message.messageText ∧
      (config.processingMaxDequeueCount ≤ message.dequeueCount ∨
        IngestRowMissing fromStr message t)
  | _ => False

def FailureRule (message : ProcessingMessage) (c : ProcessingCall) : Prop :=
  c = .connect ∨ ∃ ending, ¬ Final ending ∧ c = .markEnding message.ingestId ending

/-- What a delivery may call once processing is over. -/
def SettlingRule (config : ProcessingConfig)
    (fromStr : String → Except String RawProcessingMessage) (promotedAt : ℕ)
    (message : ReceivedQueueMessage) (t : History) (c : ProcessingCall) : Prop :=
  QueueRule config fromStr promotedAt message t c ∨
    ∃ processingMessage,
      ProcessingMessage.parseJson fromStr message.messageText = .ok processingMessage ∧
        FailureRule processingMessage c

/-- What the handling of a received message may call. -/
def HandlingRule (config : ProcessingConfig)
    (fromStr : String → Except String RawProcessingMessage) (promotedAt : ℕ)
    (message : ReceivedQueueMessage) (t : History) (c : ProcessingCall) : Prop :=
  SettlingRule config fromStr promotedAt message t c ∨
    ∃ processingMessage,
      ProcessingMessage.parseJson fromStr message.messageText = .ok processingMessage ∧
        ProcessingRule processingMessage t c

/-- A handled message is one whose delete went through, last of all. -/
def HandlingEnds (config : ProcessingConfig) (message : ReceivedQueueMessage) (t : History)
    (outcome : Except ServiceError ProcessOnceOutcome) : Prop :=
  outcome = .ok .handledMessage →
    Last t (.deleteMessage config.azureQueueName message.messageId message.popReceipt) (.ok ())

/-- What a delivery may call: once a message is received, what its handling may. -/
def DeliveryRule (config : ProcessingConfig)
    (fromStr : String → Except String RawProcessingMessage) (promotedAt : ℕ) (t : History)
    (c : ProcessingCall) : Prop :=
  c = .newQueueClient ∨
    c = .receiveMessages config.azureQueueName 1 config.processingVisibilityTimeoutSeconds ∨
    ∃ message, Received config t message ∧ HandlingRule config fromStr promotedAt message t c

def DeliveryEnds (config : ProcessingConfig) (t : History)
    (outcome : Except ServiceError ProcessOnceOutcome) : Prop :=
  outcome = .ok .handledMessage → ∃ message, Received config t message ∧
    Last t (.deleteMessage config.azureQueueName message.messageId message.popReceipt) (.ok ())

variable {fromStr : String → Except String RawProcessingMessage}

/-- The calls that take a message off a queue or put one on it. -/
def MovesMessage : ProcessingCall → Prop
  | .deleteMessage _ _ _ => True
  | .enqueueMessage _ _ => True
  | _ => False

theorem ProcessingRule.not_movesMessage {t : History} {c : ProcessingCall}
    (h : ProcessingRule message t c) : ¬ MovesMessage c := by
  rcases h with rfl | rfl | ⟨processingLog, -, h⟩
  · exact id
  · exact id
  · cases c with
    | deleteMessage | enqueueMessage => exact h.elim
    | _ => exact id

/-- A delivery moves messages only as the rule for its own message says. -/
theorem DeliveryRule.queueRule {t : History} {c : ProcessingCall}
    (h : DeliveryRule config fromStr promotedAt t c) (hmoves : MovesMessage c) :
    ∃ received, Received config t received ∧ QueueRule config fromStr promotedAt received t c := by
  rcases h with rfl | rfl | ⟨received, hreceived, hrule⟩
  · exact hmoves.elim
  · exact hmoves.elim
  · rcases hrule with (hrule | ⟨_, -, rfl | ⟨_, -, rfl⟩⟩) | ⟨_, -, hrule⟩
    · exact ⟨received, hreceived, hrule⟩
    · exact hmoves.elim
    · exact hmoves.elim
    · exact absurd hmoves hrule.not_movesMessage

theorem Received.append {t : History} {received : ReceivedQueueMessage}
    (h : Received config t received) (t₁ : History) : Received config (t₁ ++ t) received := by
  obtain ⟨messages, hmade, hlast⟩ := h
  exact ⟨messages, List.mem_append_right t₁ hmade, hlast⟩

/-- A deletion that is called for, as the end of a delivery. -/
theorem acknowledge_meets {received : ReceivedQueueMessage} {t : History}
    (h : ProcessedOk config fromStr promotedAt received t ∨ Copied config received t)
    {next : Except StorageError Unit → ProcessingProgram (Except ServiceError ProcessOnceOutcome)}
    (herror : ∀ error, next (.error error) = .done (.error (.storage error)))
    (hok : next (.ok ()) = .done (.ok .handledMessage)) :
    (Program.call (.deleteMessage config.azureQueueName received.messageId received.popReceipt)
      next).Meets Possible (SettlingRule config fromStr promotedAt received)
      (HandlingEnds config received) t := by
  refine Meets.call (.inl ⟨rfl, rfl, rfl, h⟩) fun reply _ => ?_
  cases reply with
  | error error =>
    rw [herror]
    exact fun h => nomatch h
  | ok _ =>
    rw [hok]
    exact fun _ => last_self _ _ _

theorem deadletterMessage_meets {received : ReceivedQueueMessage} {t : History}
    (h : config.processingMaxDequeueCount ≤ received.dequeueCount ∨
      IngestRowMissing fromStr received t) :
    (deadletterMessage config received).Meets Possible
      (SettlingRule config fromStr promotedAt received) (HandlingEnds config received) t := by
  refine Meets.call (.inl ⟨rfl, rfl, h⟩) fun reply _ => ?_
  cases reply with
  | error error => exact fun h => nomatch h
  | ok _ => exact acknowledge_meets (.inr (last_self _ _ _)) (fun _ => rfl) rfl

theorem markProcessingFailure_meets {received : ReceivedQueueMessage}
    {processingMessage : ProcessingMessage}
    (hparse : ProcessingMessage.parseJson fromStr received.messageText = .ok processingMessage)
    (error : ServiceError) (deadlettered : Bool) (t : History) :
    (markProcessingFailure processingMessage error deadlettered).Meets Possible
      (SettlingRule config fromStr promotedAt received) (fun _ _ => True) t := by
  refine Meets.call (.inr ⟨processingMessage, hparse, .inl rfl⟩) fun reply _ => ?_
  cases reply with
  | error error => trivial
  | ok _ =>
    cases deadlettered with
    | true =>
      refine Meets.call (.inr ⟨processingMessage, hparse, .inr ⟨_, id, rfl⟩⟩) fun reply _ => ?_
      cases reply <;> trivial
    | false =>
      refine Meets.call (.inr ⟨processingMessage, hparse, .inr ⟨_, id, rfl⟩⟩) fun reply _ => ?_
      cases reply <;> trivial

theorem handleFailure_meets {received : ReceivedQueueMessage}
    {processingMessage : ProcessingMessage}
    (hparse : ProcessingMessage.parseJson fromStr received.messageText = .ok processingMessage)
    {error : ServiceError} {t : History} (hends : ProcessingEnds processingMessage t (.error error)) :
    (handleFailure config received processingMessage error).Meets Possible
      (SettlingRule config fromStr promotedAt received) (HandlingEnds config received) t := by
  unfold handleFailure
  split
  · next hmissing =>
    obtain ⟨ingestId, hmade⟩ := hends hmissing
    exact deadletterMessage_meets (.inr ⟨processingMessage, ingestId, hparse, hmade⟩)
  · split
    · next hmax =>
      refine Meets.bind (markProcessingFailure_meets hparse error true t) fun t' outcome _ => ?_
      cases outcome with
      | error error => exact fun h => nomatch h
      | ok _ => exact deadletterMessage_meets (.inl (of_decide_eq_true hmax))
    · refine Meets.bind (markProcessingFailure_meets hparse error false t) fun t' outcome _ => ?_
      cases outcome <;> exact fun h => nomatch h

theorem handleMessage_meets (received : ReceivedQueueMessage) (t : History) :
    (handleMessage config fromStr promotedAt received).Meets Possible
      (HandlingRule config fromStr promotedAt received) (HandlingEnds config received) t := by
  unfold handleMessage
  cases hparse : ProcessingMessage.parseJson fromStr received.messageText with
  | error error =>
    dsimp only
    split
    · next hmax =>
      exact (deadletterMessage_meets (.inl (of_decide_eq_true hmax))).mono (fun _ _ => .inl)
        fun _ _ => id
    · exact fun h => nomatch h
  | ok processingMessage =>
    have hprocess : (processParsedMessage config processingMessage promotedAt).Meets Possible
        (ProcessingRule processingMessage) (ProcessingEnds processingMessage) ([] ++ t) :=
      processParsedMessage_meets t
    refine Meets.bind ((hprocess.traced .start).mono
      (fun t' c h => .inr ⟨processingMessage, hparse, h.1⟩) fun _ _ h => h) fun t' outcome hpost => ?_
    obtain ⟨hends, t₁, rfl, hfollows⟩ := hpost
    cases outcome with
    | error error =>
      exact (handleFailure_meets hparse hends).mono (fun _ _ => .inl) fun _ _ => id
    | ok _ =>
      have hdone : ProcessedOk config fromStr promotedAt received (t₁ ++ t) :=
        ⟨processingMessage, t₁, t, hparse, rfl, hfollows, hends⟩
      exact (acknowledge_meets (.inl hdone) (fun _ => rfl) rfl).mono (fun _ _ => .inl)
        fun _ _ => id

theorem processOnceWithQueue_meets (t : History) :
    (processOnceWithQueue config fromStr promotedAt).Meets Possible
      (DeliveryRule config fromStr promotedAt) (DeliveryEnds config) t := by
  refine Meets.call (.inr (.inl rfl)) fun reply _ => ?_
  cases reply with
  | error error => exact fun h => nomatch h
  | ok messages =>
    dsimp only [andThen]
    cases hlast : messages.getLast? with
    | none => exact fun h => nomatch h
    | some received =>
      have hreceived : Received config (⟨.receiveMessages config.azureQueueName 1
          config.processingVisibilityTimeoutSeconds, .ok messages⟩ :: t) received :=
        ⟨messages, made_self _ _ _, hlast⟩
      refine (Meets.traced (handleMessage_meets received ([] ++ _)) .start).mono ?_ ?_
      · rintro t' c ⟨hrule, t₁, rfl⟩
        exact .inr (.inr ⟨received, hreceived.append t₁, hrule⟩)
      · rintro t' outcome ⟨hends, t₁, rfl, -⟩ hhandled
        exact ⟨received, hreceived.append t₁, hends hhandled⟩

theorem processOnce_meets (t : History) :
    (processOnce config fromStr promotedAt).Meets Possible
      (DeliveryRule config fromStr promotedAt) (DeliveryEnds config) t := by
  refine Meets.call (.inl rfl) fun reply _ => ?_
  cases reply with
  | error error => exact fun h => nomatch h
  | ok _ => exact processOnceWithQueue_meets _

/-! ## Commands -/

def CommandRule (fromStr : String → Except String RawProcessingMessage) :
    Command → History → ProcessingCall → Prop
  | .ingest row, _, c => c = .insertIngestRow row
  | .enqueue queueName messageText, _, c => c = .enqueueMessage queueName messageText
  | .processOnce config promotedAt, t, c => DeliveryRule config fromStr promotedAt t c
  | .processMessage _ message _, t, c => ∃ processingMessage,
      ProcessingMessage.parseJson fromStr message = .ok processingMessage ∧
        ProcessingRule processingMessage t c
  | .retentionCleanup _ _, _, c => RetentionCall c

theorem Command.program_meets (command : Command) (t : History) :
    (command.program fromStr).Meets Possible (CommandRule fromStr command) (fun _ _ => True) t := by
  cases command with
  | ingest row => exact Meets.call rfl fun _ _ => trivial
  | enqueue queueName messageText => exact Meets.call rfl fun _ _ => trivial
  | processOnce config promotedAt =>
    exact Meets.bind (processOnce_meets t) fun _ _ _ => trivial
  | processMessage config message promotedAt =>
    have hpayload : (processMessagePayload config fromStr promotedAt message).Meets Possible
        (CommandRule fromStr (.processMessage config message promotedAt)) (fun _ _ => True) t := by
      unfold processMessagePayload
      cases hparse : ProcessingMessage.parseJson fromStr message with
      | error error => trivial
      | ok processingMessage =>
        exact (processParsedMessage_meets t).mono (fun _ _ h => ⟨processingMessage, hparse, h⟩)
          fun _ _ _ => trivial
    exact hpayload.bind fun _ _ _ => trivial
  | retentionCleanup config cleanup =>
    have hcleans : Cleans (runRetentionCleanup config cleanup >>= fun _ => .done ()) :=
      (runRetentionCleanup_cleans config cleanup).bind fun _ => trivial
    exact Meets.of_always hcleans (fun _ _ h => h) t

end LumenHorizon.Processing
