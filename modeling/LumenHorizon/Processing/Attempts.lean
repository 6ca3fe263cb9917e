import LumenHorizon.Processing.Delivery

/-! # Overlapping attempts

The statements of an attempt name the row by its ingest or its own id, never by the attempt, so of
attempts that overlap the last write wins. What an attempt cannot touch is what only a start sets,
and the rows of other ingests; and a row that no delivery holds stays as it is.
-/

namespace LumenHorizon.Processing
open Foundation Shared Program

/-! ## The processing log after a call -/

structure StartColumns where
  id : Uuid
  ingestId : Uuid
  sourceBlobPath : String
  product : ProcessingProduct
  tileH : ℤ
  tileV : ℤ
  granuleDate : DateTime
  attempts : ℕ
  startedAt : Option ℕ
  createdAt : ℕ
deriving DecidableEq

def ProcessingRow.startColumns (row : ProcessingRow) : StartColumns where
  id := row.id
  ingestId := row.ingestId
  sourceBlobPath := row.sourceBlobPath
  product := row.product
  tileH := row.tileH
  tileV := row.tileV
  granuleDate := row.granuleDate
  attempts := row.attempts
  startedAt := row.startedAt
  createdAt := row.createdAt

@[simp] theorem ProcessingLog.Ending.set_startColumns (ending : ProcessingLog.Ending) (now : ℕ)
    (row : ProcessingRow) : (ending.set now row).startColumns = row.startColumns := by
  cases ending <;> rfl

def StartsNothing : ProcessingCall → Prop
  | .upsertProcessingStarted _ => False
  | _ => True

/-- The call does not write the row with these ids. -/
def Spares (ingestId processingLogId : Uuid) : ProcessingCall → Prop
  | .upsertProcessingStarted message => message.ingestId ≠ ingestId
  | .markEnding id _ => id ≠ ingestId
  | .updateProcessingMetadata id _ _ _ _ => id ≠ processingLogId
  | _ => True

variable {w : ProcessingWorld} {c : ProcessingCall} {e : Env}

theorem map_startColumns_answer (hc : StartsNothing c) (e : Env) (w : ProcessingWorld) :
    (answer c e w).1.processingLog.map ProcessingRow.startColumns =
      w.processingLog.map ProcessingRow.startColumns := by
  rcases answer_effect c e w with ⟨-, h⟩ | ⟨-, finished, h⟩
  · rw [h]
  · rw [h]
    cases c with
    | upsertProcessingStarted message => exact hc.elim
    | markEnding ingestId ending =>
      exact Table.map_update fun row _ => ending.set_startColumns e.now row
    | updateProcessingMetadata id metadata cloudFraction valid rejected =>
      exact Table.map_update fun row _ => rfl
    | _ => rfl

theorem mem_processingLog_answer {row : ProcessingRow} (hrow : row ∈ w.processingLog)
    (hc : Spares row.ingestId row.id c) (e : Env) : row ∈ (answer c e w).1.processingLog := by
  rcases answer_effect c e w with ⟨-, h⟩ | ⟨-, finished, h⟩
  · rw [h]
    exact hrow
  · rw [h]
    cases c with
    | upsertProcessingStarted message =>
      rcases w.processingLog.upsertProcessingStarted_cases (w.Known message.ingestId) message
        w.nextId e.now with ⟨error, heq, -⟩ | ⟨-, -, heq⟩ | ⟨-, _, -, -, -, heq⟩
      · simpa only [effect, heq] using hrow
      · simpa only [effect, heq] using List.mem_append_left _ hrow
      · simpa only [effect, heq] using Table.mem_update_of_not hrow fun h => hc h.symm
    | markEnding ingestId ending => exact Table.mem_update_of_not hrow (Ne.symm hc)
    | updateProcessingMetadata id metadata cloudFraction valid rejected =>
      exact Table.mem_update_of_not hrow (Ne.symm hc)
    | _ => exact hrow

/-! ## A started attempt -/

/-- What a delivery does once processing is over. -/
def settle (config : ProcessingConfig) (received : ReceivedQueueMessage)
    (message : ProcessingMessage) :
    Except ServiceError Unit → ProcessingProgram (Except ServiceError ProcessOnceOutcome)
  | .error error => handleFailure config received message error
  | .ok () => do
    match ← ProcessingProgram.deleteMessage config.azureQueueName received.messageId
        received.popReceipt with
    | .error error => pure (.error (.storage error))
    | .ok () => pure (.ok .handledMessage)

/-- A delivery whose attempt was just started. -/
structure Attempt where
  config : ProcessingConfig
  received : ReceivedQueueMessage
  message : ProcessingMessage
  promotedAt : ℕ
  processingLog : ProcessingLogRecord

def Attempt.program (attempt : Attempt) : ProcessingProgram Unit := do
  let _ ← runAttempt attempt.config attempt.message attempt.promotedAt attempt.processingLog >>=
    settle attempt.config attempt.received attempt.message

/-- What is left once a start is recorded may write the row of the record, but starts nothing
more. -/
def MayCall (message : ProcessingMessage) (processingLog : ProcessingLogRecord)
    (c : ProcessingCall) : Prop :=
  StartsNothing c ∧ ∀ ingestId processingLogId, ingestId ≠ message.ingestId →
    processingLogId ≠ processingLog.id → Spares ingestId processingLogId c

variable {fromStr : String → Except String RawProcessingMessage} {config : ProcessingConfig}
  {message : ProcessingMessage} {promotedAt : ℕ} {processingLog : ProcessingLogRecord}
  {received : ReceivedQueueMessage}

theorem AttemptRule.mayCall {t : History} (h : AttemptRule message processingLog t c) :
    MayCall message processingLog c := by
  cases c with
  | markEnding id ending => exact ⟨trivial, fun ingestId _ hid _ => h.1 ▸ hid.symm⟩
  | updateProcessingMetadata id metadata cloudFraction valid rejected =>
    have hid : id = processingLog.id := h
    exact ⟨trivial, fun _ processingLogId _ hlog => hid ▸ hlog.symm⟩
  | upsertProcessingStarted message => exact h.elim
  | _ => exact ⟨trivial, fun _ _ _ _ => trivial⟩

theorem FailureRule.mayCall (h : FailureRule message c) : MayCall message processingLog c := by
  rcases h with rfl | ⟨ending, -, rfl⟩
  · exact ⟨trivial, fun _ _ _ _ => trivial⟩
  · exact ⟨trivial, fun _ _ hid _ => hid.symm⟩

theorem MovesMessage.mayCall (h : MovesMessage c) : MayCall message processingLog c := by
  cases c with
  | deleteMessage | enqueueMessage => exact ⟨trivial, fun _ _ _ _ => trivial⟩
  | _ => exact h.elim

theorem SettlingRule.mayCall {t : History}
    (hparse : ProcessingMessage.parseJson fromStr received.messageText = .ok message)
    (h : SettlingRule config fromStr promotedAt received t c) : MayCall message processingLog c := by
  rcases h with h | ⟨processingMessage, hparse', h⟩
  · cases c with
    | deleteMessage | enqueueMessage => exact MovesMessage.mayCall trivial
    | _ => exact h.elim
  · obtain rfl : message = processingMessage := Except.ok.inj (hparse.symm.trans hparse')
    exact h.mayCall

theorem SettlingRule.startsNothing {t : History}
    (h : SettlingRule config fromStr promotedAt received t c) : StartsNothing c := by
  rcases h with h | ⟨processingMessage, -, rfl | ⟨ending, -, rfl⟩⟩
  · cases c with
    | deleteMessage | enqueueMessage => trivial
    | _ => exact h.elim
  · trivial
  · trivial

theorem runAttempt_settle_under
    (hparse : ProcessingMessage.parseJson fromStr received.messageText = .ok message) :
    (runAttempt config message promotedAt processingLog >>= fun outcome =>
      settle config received message outcome >>= fun _ => .done ()).Under Possible
        (MayCall message processingLog) := by
  have hsettle (t : History) (outcome : Except ServiceError Unit)
      (hends : AttemptEnds message t outcome) : (settle config received message outcome).Meets
        Possible (fun _ => MayCall message processingLog) (fun _ _ => True) t := by
    cases outcome with
    | error error =>
      have hmeets : (handleFailure config received message error).Meets Possible
          (SettlingRule config fromStr promotedAt received) (HandlingEnds config received) t :=
        handleFailure_meets hparse (ProcessingEnds.of_error hends)
      exact hmeets.mono (fun _ _ => SettlingRule.mayCall hparse) fun _ _ _ => trivial
    | ok _ =>
      refine Meets.call (MovesMessage.mayCall trivial) fun reply _ => ?_
      cases reply <;> trivial
  have hrun : (runAttempt config message promotedAt processingLog).Meets Possible
      (fun _ => MayCall message processingLog) (AttemptEnds message) [] :=
    (runAttempt_meets []).mono (fun _ _ => AttemptRule.mayCall) fun _ _ => id
  have hmeets : (runAttempt config message promotedAt processingLog >>= fun outcome =>
      settle config received message outcome >>= fun _ => .done ()).Meets Possible
        (fun _ => MayCall message processingLog) (fun _ _ => True) [] :=
    hrun.bind fun t outcome hends => (hsettle t outcome hends).bind fun _ _ _ => trivial
  exact hmeets.under (fun _ _ => id) (fun _ _ _ => id) fun _ h => absurd h List.not_mem_nil

/-! ## What is left after a start -/

/-- After a recorded start, what is left stays within what the attempt may call. -/
def AfterStart : (c : ProcessingCall) → c.Reply → ProcessingProgram Unit → Prop
  | .upsertProcessingStarted message, .ok processingLog, rest =>
      rest.Under Possible (MayCall message processingLog)
  | _, _, _ => True

theorem onward_of_startsNothing {p : ProcessingProgram Unit} (h : p.Under Possible StartsNothing) :
    p.Onward Possible AfterStart := by
  refine h.onward fun c reply rest hc => ?_
  cases c with
  | upsertProcessingStarted message => exact hc.elim
  | _ => trivial

theorem MayCall.onward {p : ProcessingProgram Unit}
    (h : p.Under Possible (MayCall message processingLog)) : p.Onward Possible AfterStart :=
  onward_of_startsNothing (h.mono (fun _ _ => id) fun _ hc => hc.1)

/-- Processing starts one attempt, and what follows is given by how it ends. -/
theorem processParsedMessage_onward
    {finish : Except ServiceError Unit → ProcessingProgram Unit}
    (hfailed : ∀ t error, (∀ entry ∈ t, Possible entry.1 entry.2) →
      ProcessingEnds message t (.error error) → (finish (.error error)).Under Possible StartsNothing)
    (hstarted : ∀ processingLog,
      (runAttempt config message promotedAt processingLog >>= finish).Under Possible
        (MayCall message processingLog)) :
    (processParsedMessage config message promotedAt >>= finish).Onward Possible AfterStart := by
  refine Onward.call fun reply hreply => ⟨trivial, ?_⟩
  cases reply with
  | error error =>
    have hends : ProcessingEnds message [] (.error (.database error)) :=
      ProcessingEnds.of_error (possible_connect hreply)
    exact onward_of_startsNothing (hfailed [] _ (fun _ h => absurd h List.not_mem_nil) hends)
  | ok _ =>
    refine Onward.call fun reply hreply => ?_
    cases reply with
    | error error =>
      refine ⟨trivial, onward_of_startsNothing (hfailed
        [⟨.upsertProcessingStarted message, .error error⟩] _ ?_ (.of_start error))⟩
      intro entry hentry
      rw [List.mem_singleton.mp hentry]
      exact hreply
    | ok processingLog => exact ⟨hstarted processingLog, MayCall.onward (hstarted processingLog)⟩

theorem handleMessage_onward (received : ReceivedQueueMessage) :
    (handleMessage config fromStr promotedAt received >>= fun _ => .done ()).Onward Possible
      AfterStart := by
  cases hparse : ProcessingMessage.parseJson fromStr received.messageText with
  | error error =>
    have hmeets : (handleMessage config fromStr promotedAt received >>= fun _ => .done ()).Meets
        Possible (HandlingRule config fromStr promotedAt received) (fun _ _ => True) [] :=
      (handleMessage_meets received []).bind fun _ _ _ => trivial
    refine onward_of_startsNothing (hmeets.under (fun _ _ => id) (fun t c _ hrule => ?_)
      fun _ h => absurd h List.not_mem_nil)
    rcases hrule with hrule | ⟨message, hparse', -⟩
    · exact hrule.startsNothing
    · cases hparse.symm.trans hparse'
  | ok message =>
    have hhandle : handleMessage config fromStr promotedAt received =
        processParsedMessage config message promotedAt >>= settle config received message := by
      unfold handleMessage
      rw [hparse]
      refine congrArg (processParsedMessage config message promotedAt >>= ·) (funext fun outcome => ?_)
      cases outcome <;> rfl
    rw [hhandle, bind_assoc]
    refine processParsedMessage_onward (fun t error ht hends => ?_) fun _ =>
      runAttempt_settle_under hparse
    have hmeets : (handleFailure config received message error >>= fun _ => .done ()).Meets
        Possible (SettlingRule config fromStr promotedAt received) (fun _ _ => True) t :=
      (handleFailure_meets hparse hends).bind fun _ _ _ => trivial
    exact hmeets.under (fun _ _ => id) (fun _ _ _ hrule => hrule.startsNothing) ht

/-- Every command goes on with no more than its attempt may call. -/
theorem Command.program_onward (command : Command) :
    (command.program fromStr).Onward Possible AfterStart := by
  cases command with
  | ingest row =>
    exact Onward.call fun reply _ => ⟨trivial, trivial⟩
  | enqueue queueName messageText => exact Onward.call fun reply _ => ⟨trivial, trivial⟩
  | processOnce config promotedAt =>
    refine Onward.call fun reply _ => ⟨trivial, ?_⟩
    cases reply with
    | error error => trivial
    | ok _ =>
      refine Onward.call fun reply _ => ⟨trivial, ?_⟩
      cases reply with
      | error error => trivial
      | ok messages =>
        dsimp only [andThen]
        cases messages.getLast? with
        | none => trivial
        | some received => exact handleMessage_onward received
  | processMessage config payload promotedAt =>
    have hpayload : (processMessagePayload config fromStr promotedAt payload >>= fun _ =>
        .done ()).Onward Possible AfterStart := by
      unfold processMessagePayload
      cases ProcessingMessage.parseJson fromStr payload with
      | error error => trivial
      | ok message =>
        refine processParsedMessage_onward (fun _ _ _ _ => trivial) fun processingLog => ?_
        have hmeets : (runAttempt config message promotedAt processingLog >>= fun _ =>
            .done ()).Meets Possible (fun _ => MayCall message processingLog) (fun _ _ => True) [] :=
          ((runAttempt_meets []).mono (fun _ _ => AttemptRule.mayCall) fun _ _ => id).bind
            fun _ _ _ => trivial
        exact hmeets.under (fun _ _ => id) (fun _ _ _ => id) fun _ h => absurd h List.not_mem_nil
    exact hpayload
  | retentionCleanup config cleanup =>
    refine onward_of_startsNothing (((Command.retentionCleanup config cleanup).program_meets
      []).under (fun _ _ => id) (fun _ c _ hrule => ?_) fun _ h => absurd h List.not_mem_nil)
    cases c with
    | upsertProcessingStarted message => exact hrule.elim
    | _ => trivial

/-! ## A row that no delivery holds -/

def Delivers (fromStr : String → Except String RawProcessingMessage) (ingestId : Uuid) :
    (c : ProcessingCall) → c.Reply → Prop
  | .receiveMessages _ _ _, .ok messages => ∃ received ∈ messages, ∃ message,
      ProcessingMessage.parseJson fromStr received.messageText = .ok message ∧
        message.ingestId = ingestId
  | _, _ => False

/-- A start of another ingest does not return the id of this row. -/
def OtherRecord (ingestId processingLogId : Uuid) : (c : ProcessingCall) → c.Reply → Prop
  | .upsertProcessingStarted message, .ok record =>
      message.ingestId ≠ ingestId → record.id ≠ processingLogId
  | _, _ => True

/-- Replies that give a program nothing to do with the row. -/
def Unrelated (fromStr : String → Except String RawProcessingMessage)
    (ingestId processingLogId : Uuid) (c : ProcessingCall) (reply : c.Reply) : Prop :=
  Possible c reply ∧ ¬ Delivers fromStr ingestId c reply ∧
    OtherRecord ingestId processingLogId c reply

/-- Without being handed another message of the ingest, the program never writes its row. -/
def Idle (fromStr : String → Except String RawProcessingMessage) (ingestId processingLogId : Uuid)
    (p : ProcessingProgram Unit) : Prop :=
  p.Under (Unrelated fromStr ingestId processingLogId) (Spares ingestId processingLogId)

/-- The command was given a message of the ingest when it was started. -/
def Command.Carries (fromStr : String → Except String RawProcessingMessage) (ingestId : Uuid) :
    Command → Prop
  | .processMessage _ payload _ => ∃ message,
      ProcessingMessage.parseJson fromStr payload = .ok message ∧ message.ingestId = ingestId
  | _ => False

variable {ingestId processingLogId : Uuid}

theorem ProcessingRule.spares {message : ProcessingMessage} {t : History}
    (h : ProcessingRule message t c) (hid : message.ingestId ≠ ingestId)
    (ht : ∀ entry ∈ t, Unrelated fromStr ingestId processingLogId entry.1 entry.2) :
    Spares ingestId processingLogId c := by
  rcases h with rfl | rfl | ⟨record, hmade, hrule⟩
  · trivial
  · exact hid
  · cases c with
    | markEnding id ending =>
      obtain ⟨rfl, -⟩ := hrule
      exact hid
    | updateProcessingMetadata id metadata cloudFraction valid rejected =>
      obtain rfl : id = record.id := hrule
      exact (ht _ hmade).2.2 hid
    | upsertProcessingStarted other => exact hrule.elim
    | _ => trivial

theorem SettlingRule.spares {config : ProcessingConfig} {promotedAt : ℕ}
    {received : ReceivedQueueMessage} {t : History}
    (h : SettlingRule config fromStr promotedAt received t c)
    (hid : ∀ message, ProcessingMessage.parseJson fromStr received.messageText = .ok message →
      message.ingestId ≠ ingestId) : Spares ingestId processingLogId c := by
  rcases h with h | ⟨message, hparse, rfl | ⟨ending, -, rfl⟩⟩
  · cases c with
    | deleteMessage | enqueueMessage => trivial
    | _ => exact h.elim
  · trivial
  · exact hid message hparse

/-- Every command leaves the row alone until it is handed a message of its ingest. -/
theorem Command.program_idle {command : Command} (h : ¬ command.Carries fromStr ingestId) :
    Idle fromStr ingestId processingLogId (command.program fromStr) := by
  refine (command.program_meets []).under (fun _ _ h => h.1) (fun t c ht hrule => ?_)
    fun _ h => absurd h List.not_mem_nil
  cases command with
  | ingest row =>
    obtain rfl : c = .insertIngestRow row := hrule
    trivial
  | enqueue queueName messageText =>
    obtain rfl : c = .enqueueMessage queueName messageText := hrule
    trivial
  | processOnce config promotedAt =>
    rcases hrule with rfl | rfl | ⟨received, ⟨messages, hmade, hlast⟩, hrule⟩
    · trivial
    · trivial
    · have hid (message : ProcessingMessage) (hparse : ProcessingMessage.parseJson fromStr
          received.messageText = .ok message) : message.ingestId ≠ ingestId := fun heq =>
        (ht _ hmade).2.1 ⟨received, List.mem_of_getLast? hlast, message, hparse, heq⟩
      rcases hrule with hrule | ⟨message, hparse, hrule⟩
      · exact hrule.spares hid
      · exact hrule.spares (hid message hparse) ht
  | processMessage config payload promotedAt =>
    obtain ⟨message, hparse, hrule⟩ := hrule
    exact hrule.spares (fun heq => h ⟨message, hparse, heq⟩) ht
  | retentionCleanup config cleanup =>
    cases c with
    | upsertProcessingStarted | markEnding | updateProcessingMetadata => exact hrule.elim
    | _ => trivial

/-! ## Row ids -/

/-- Row ids are fresh, and a row's id says which ingest it is of. -/
structure ProcessingWorld.LogOk (w : ProcessingWorld) : Prop where
  fresh : ∀ row ∈ w.processingLog, row.id < w.nextId
  distinct : ∀ row ∈ w.processingLog, ∀ row' ∈ w.processingLog, row.id = row'.id →
    row.ingestId = row'.ingestId

def ProcessingRow.ids (row : ProcessingRow) : Uuid × Uuid := (row.id, row.ingestId)

/-- The rows after a call carry the ids of the rows before it, and a newly started one fresh ids. -/
theorem map_ids_answer (c : ProcessingCall) (e : Env) (w : ProcessingWorld) :
    (answer c e w).1.processingLog.map ProcessingRow.ids = w.processingLog.map ProcessingRow.ids ∨
    ∃ message : ProcessingMessage, (answer c e w).1.nextId = w.nextId + 1 ∧
      (answer c e w).1.processingLog.map ProcessingRow.ids =
        w.processingLog.map ProcessingRow.ids ++ [(w.nextId, message.ingestId)] := by
  by_cases hc : StartsNothing c
  · have hcolumns := congrArg (List.map fun columns => (columns.id, columns.ingestId))
      (map_startColumns_answer hc e w)
    rw [List.map_map, List.map_map] at hcolumns
    exact .inl hcolumns
  · obtain ⟨message, rfl⟩ : ∃ message, c = .upsertProcessingStarted message := by
      cases c with
      | upsertProcessingStarted message => exact ⟨message, rfl⟩
      | _ => exact absurd trivial hc
    rcases answer_effect (.upsertProcessingStarted message) e w with ⟨-, h⟩ | ⟨-, finished, h⟩
    · rw [h]
      exact .inl rfl
    · rw [h]
      rcases w.processingLog.upsertProcessingStarted_cases (w.Known message.ingestId) message
        w.nextId e.now with ⟨error, heq, -⟩ | ⟨-, -, heq⟩ | ⟨-, _, -, -, -, heq⟩
      · left
        simp only [effect, heq]
      · right
        simp only [effect, heq, List.map_append]
        exact ⟨message, trivial, rfl⟩
      · simp only [effect, heq]
        exact .inl (Table.map_update fun row _ => rfl)

theorem mem_ids {row : ProcessingRow} (h : row ∈ w.processingLog) :
    (row.id, row.ingestId) ∈ w.processingLog.map ProcessingRow.ids :=
  List.mem_map_of_mem h

theorem exists_of_mem_ids {id ingestId : Uuid}
    (h : (id, ingestId) ∈ w.processingLog.map ProcessingRow.ids) :
    ∃ row ∈ w.processingLog, row.id = id ∧ row.ingestId = ingestId := by
  obtain ⟨row, hrow, heq⟩ := List.mem_map.mp h
  exact ⟨row, hrow, congrArg Prod.fst heq, congrArg Prod.snd heq⟩

theorem ProcessingWorld.LogOk.after (hw : w.LogOk) (c : ProcessingCall) (e : Env) :
    (answer c e w).1.LogOk := by
  have hold {id ingestId : Uuid} (h : (id, ingestId) ∈ w.processingLog.map ProcessingRow.ids) :
      id < w.nextId := by
    obtain ⟨row, hrow, rfl, rfl⟩ := exists_of_mem_ids h
    exact hw.fresh row hrow
  have hsame {id ingestId ingestId' : Uuid}
      (h : (id, ingestId) ∈ w.processingLog.map ProcessingRow.ids)
      (h' : (id, ingestId') ∈ w.processingLog.map ProcessingRow.ids) : ingestId = ingestId' := by
    obtain ⟨row, hrow, rfl, rfl⟩ := exists_of_mem_ids h
    obtain ⟨row', hrow', hid, rfl⟩ := exists_of_mem_ids h'
    exact hw.distinct row hrow row' hrow' hid.symm
  rcases map_ids_answer c e w with heq | ⟨message, hnext, heq⟩
  · refine ⟨fun row hrow => ?_, fun row hrow row' hrow' hid => ?_⟩
    · exact (hold (heq ▸ mem_ids hrow)).trans_le (answer_nextId c e w)
    · exact hsame (heq ▸ mem_ids hrow) (hid ▸ heq ▸ mem_ids hrow')
  · have hcases {row : ProcessingRow} (hrow : row ∈ (answer c e w).1.processingLog) :
        (row.id, row.ingestId) ∈ w.processingLog.map ProcessingRow.ids ∨
          (row.id = w.nextId ∧ row.ingestId = message.ingestId) := by
      have hmem := mem_ids hrow
      rw [heq] at hmem
      simpa using hmem
    refine ⟨fun row hrow => ?_, fun row hrow row' hrow' hid => ?_⟩
    · rw [hnext]
      rcases hcases hrow with hrow | ⟨hrow, -⟩
      · exact (hold hrow).trans (Nat.lt_succ_self _)
      · rw [hrow]
        exact Nat.lt_succ_self _
    · rcases hcases hrow with hrow | ⟨hnew, hingest⟩ <;>
        rcases hcases hrow' with hrow' | ⟨hnew', hingest'⟩
      · exact hsame hrow (hid ▸ hrow')
      · exact absurd (hid.trans hnew') (hold hrow).ne
      · exact absurd (hid.symm.trans hnew) (hold hrow').ne
      · rw [hingest, hingest']

def ProcessingWorld.Recorded (w : ProcessingWorld) (message : ProcessingMessage)
    (processingLog : ProcessingLogRecord) : Prop :=
  ∃ row ∈ w.processingLog, row.id = processingLog.id ∧ row.ingestId = message.ingestId

theorem recorded_of_start {message : ProcessingMessage} {processingLog : ProcessingLogRecord}
    (h : (answer (.upsertProcessingStarted message) e w).2 = .ok processingLog) :
    (answer (.upsertProcessingStarted message) e w).1.Recorded message processingLog := by
  cases ho : e.outcome with
  | failed =>
    rw [answer_of_failed ho] at h
    cases h
  | lost =>
    rw [answer_of_lost ho] at h
    cases h
  | ok =>
    rw [answer_of_ok ho] at h ⊢
    rcases w.processingLog.upsertProcessingStarted_cases (w.Known message.ingestId) message
      w.nextId e.now with ⟨error, heq, -⟩ | ⟨-, -, heq⟩ | ⟨-, row, hrow, hid, -, heq⟩
    · simp only [result, heq] at h
      cases h
    · simp only [result, heq] at h
      cases h
      refine ⟨ProcessingLog.startedRow message w.nextId e.now, ?_, rfl, rfl⟩
      simp [confirm, effect, heq]
    · simp only [result, heq] at h
      cases h
      refine ⟨ProcessingLog.restart message e.now row, ?_, rfl, hid⟩
      simp only [confirm, effect, heq]
      exact Table.mem_update.mpr ⟨row, hrow, .inl ⟨hid, rfl⟩⟩

theorem ProcessingWorld.Recorded.after {message : ProcessingMessage}
    {processingLog : ProcessingLogRecord} (h : w.Recorded message processingLog)
    (c : ProcessingCall) (e : Env) : (answer c e w).1.Recorded message processingLog := by
  obtain ⟨row, hrow, hid, hingest⟩ := h
  apply exists_of_mem_ids
  rw [← hid, ← hingest]
  rcases map_ids_answer c e w with heq | ⟨_, -, heq⟩
  · exact heq ▸ mem_ids hrow
  · rw [heq]
    exact List.mem_append_left _ (mem_ids hrow)

/-- A start of another ingest returns another id than that of this row. -/
theorem otherRecord_answer {row : ProcessingRow} (hw : w.LogOk) (hrow : row ∈ w.processingLog)
    (c : ProcessingCall) (e : Env) : OtherRecord row.ingestId row.id c (answer c e w).2 := by
  cases c with
  | upsertProcessingStarted message =>
    cases ho : e.outcome with
    | failed =>
      rw [answer_of_failed ho]
      trivial
    | lost =>
      rw [answer_of_lost ho]
      trivial
    | ok =>
      rw [answer_of_ok ho]
      rcases w.processingLog.upsertProcessingStarted_cases (w.Known message.ingestId) message
        w.nextId e.now with ⟨error, heq, -⟩ | ⟨-, -, heq⟩ | ⟨-, other, hother, hid, -, heq⟩
      · simp only [result, heq]
        trivial
      · simp only [result, heq]
        exact fun _ => (hw.fresh row hrow).ne'
      · simp only [result, heq]
        exact fun hne heq => hne (hid.symm.trans (hw.distinct other hother row hrow heq))
  | _ => trivial

namespace ProcessingPool

variable {pool pool' : ProcessingPool} {event : ProcessingEvent}

/-- The event hands nobody a message of the ingest. -/
def NotDelivered (fromStr : String → Except String RawProcessingMessage) (ingestId : Uuid)
    (pool : ProcessingPool) (event : ProcessingEvent) : Prop :=
  (∀ p, event = .spawn p → ∃ command : Command, ¬ command.Carries fromStr ingestId ∧
    p = command.program fromStr) ∧
  ∀ i e c, event = .act i e → pool.nextCall i = some c →
    ¬ Delivers fromStr ingestId c (answer c e pool.world).2

theorem notDelivered_spawn {command : Command} (h : ¬ command.Carries fromStr ingestId)
    (pool : ProcessingPool) :
    NotDelivered fromStr ingestId pool (.spawn (command.program fromStr)) := by
  refine ⟨fun p hp => ⟨command, h, (PoolEvent.spawn.inj hp).symm⟩, fun i e c hact => ?_⟩
  cases hact

theorem notDelivered_act {i : ℕ} {e : Env}
    (h : ∀ c, pool.nextCall i = some c → ¬ Delivers fromStr ingestId c (answer c e pool.world).2) :
    NotDelivered fromStr ingestId pool (.act i e) := by
  refine ⟨fun p hp => ?_, fun j e' c hact hj => ?_⟩
  · cases hp
  · cases hact
    exact h c hj

/-- Row ids are in order, the row is there, and no delivery holds it. -/
structure Settled (fromStr : String → Except String RawProcessingMessage) (row : ProcessingRow)
    (pool : ProcessingPool) : Prop where
  logOk : pool.world.LogOk
  present : row ∈ pool.world.processingLog
  idle : ∀ p ∈ pool.procs, Idle fromStr row.ingestId row.id p

theorem Settled.step {row : ProcessingRow} (h : pool.Settled fromStr row)
    (hguard : NotDelivered fromStr row.ingestId pool event) (hstep : pool.step event = some pool') :
    pool'.Settled fromStr row where
  logOk := by
    rcases Pool.step_cases hstep with
      ⟨p, rfl, rfl⟩ | ⟨i, e, c, next, rfl, hi, rfl⟩ | ⟨i, c, next, rfl, hi, rfl⟩
    · exact h.logOk
    · exact h.logOk.after c e
    · exact h.logOk
  present := by
    rcases Pool.step_cases hstep with
      ⟨p, rfl, rfl⟩ | ⟨i, e, c, next, rfl, hi, rfl⟩ | ⟨i, c, next, rfl, hi, rfl⟩
    · exact h.present
    · exact mem_processingLog_answer h.present (h.idle _ (List.mem_of_getElem? hi)).1 e
    · exact h.present
  idle := by
    refine Pool.under_step hstep (fun p hp => ?_) (fun i e c he hi => ?_) h.idle
    · obtain ⟨command, hcarries, rfl⟩ := hguard.1 p hp
      exact command.program_idle hcarries
    · exact ⟨⟨e, _, rfl⟩, hguard.2 i e c he hi, otherRecord_answer h.logOk h.present c e⟩

theorem logOk_of_reaches {guard : ProcessingPool → ProcessingEvent → Prop}
    (h : Reaches step guard empty pool) : pool.world.LogOk := by
  induction h with
  | start => exact ⟨fun _ h => absurd h List.not_mem_nil, fun _ h => absurd h List.not_mem_nil⟩
  | next _ _ hstep ih =>
    rcases Pool.step_cases hstep with
      ⟨p, rfl, rfl⟩ | ⟨i, e, c, next, rfl, hi, rfl⟩ | ⟨i, c, next, rfl, hi, rfl⟩
    · exact ih
    · exact ih.after c e
    · exact ih

theorem settled_of_reaches {row : ProcessingRow} (h : pool.Settled fromStr row)
    (h' : Reaches step (NotDelivered fromStr row.ingestId) pool pool') :
    pool'.Settled fromStr row :=
  h'.invariant h fun _ _ _ hsettled hguard hstep => hsettled.step hguard hstep

theorem onward_of_reaches (h : Reaches step (fun _ => Starts fromStr) empty pool) :
    ∀ p ∈ pool.procs, p.Onward Possible AfterStart := by
  apply h.invariant fun _ hp => absurd hp List.not_mem_nil
  intro pool event pool' hall hstarts hstep
  refine Pool.onward_step hstep (fun p hp => ?_) (fun c e => ⟨e, _, rfl⟩) hall
  obtain ⟨command, rfl⟩ := hstarts p hp
  exact command.program_onward

/-- Program `i` has recorded its start. -/
structure Started (i : ℕ) (message : ProcessingMessage) (processingLog : ProcessingLogRecord)
    (pool : ProcessingPool) : Prop where
  logOk : pool.world.LogOk
  recorded : pool.world.Recorded message processingLog
  under : ∃ p, pool.procs[i]? = some p ∧ p.Under Possible (MayCall message processingLog)

theorem started_of_start {i : ℕ} {e : Env} {message : ProcessingMessage}
    {processingLog : ProcessingLogRecord} (hreaches : Reaches step (fun _ => Starts fromStr) empty pool)
    (hcall : pool.nextCall i = some (.upsertProcessingStarted message))
    (hreply : (answer (.upsertProcessingStarted message) e pool.world).2 = .ok processingLog)
    (hstep : pool.step (.act i e) = some pool') : pool'.Started i message processingLog := by
  obtain ⟨next, hnext⟩ := Pool.nextCall_eq_some_iff.mp hcall
  rcases Pool.step_cases hstep with
    ⟨_, h, -⟩ | ⟨j, e', c, next', hact, hj, rfl⟩ | ⟨_, _, _, h, -⟩
  · cases h
  · cases hact
    obtain ⟨rfl, rfl⟩ : c = .upsertProcessingStarted message ∧ HEq next' next := by
      cases Option.some.inj (hj.symm.trans hnext)
      exact ⟨rfl, .rfl⟩
    have honward := onward_of_reaches hreaches _ (List.mem_of_getElem? hnext)
    have hafter := (honward _ ⟨e, pool.world, rfl⟩).1
    refine ⟨(logOk_of_reaches hreaches).after _ _, recorded_of_start hreply, _,
      List.getElem?_set_self (List.getElem?_eq_some_iff.mp hnext).1, ?_⟩
    rw [hreply] at hafter ⊢
    exact hafter
  · cases h

theorem Started.step {i : ℕ} {message : ProcessingMessage} {processingLog : ProcessingLogRecord}
    (h : pool.Started i message processingLog) (hstep : pool.step event = some pool') :
    pool'.Started i message processingLog := by
  have hunder := Pool.under_step_at hstep (fun e c _ _ => ⟨e, _, rfl⟩) h.under
  rcases Pool.step_cases hstep with
    ⟨p, rfl, rfl⟩ | ⟨j, e, c, next, rfl, hj, rfl⟩ | ⟨j, c, next, rfl, hj, rfl⟩
  · exact ⟨h.logOk, h.recorded, hunder⟩
  · exact ⟨h.logOk.after c e, h.recorded.after c e, hunder⟩
  · exact ⟨h.logOk, h.recorded, hunder⟩

theorem Started.keeps {i : ℕ} {e : Env} {message : ProcessingMessage}
    {processingLog : ProcessingLogRecord} (h : pool.Started i message processingLog)
    (hstep : pool.step (.act i e) = some pool') :
    pool'.world.processingLog.map ProcessingRow.startColumns =
        pool.world.processingLog.map ProcessingRow.startColumns ∧
      ∀ row ∈ pool.world.processingLog, row.ingestId ≠ message.ingestId →
        row ∈ pool'.world.processingLog := by
  obtain ⟨p, hp, hunder⟩ := h.under
  rcases Pool.step_cases hstep with
    ⟨_, h, -⟩ | ⟨j, e', c, next, hact, hj, rfl⟩ | ⟨_, _, _, h, -⟩
  · cases h
  · cases hact
    obtain rfl : p = .call c next := Option.some.inj (hp.symm.trans hj)
    refine ⟨map_startColumns_answer hunder.1.1 e _, fun row hrow hingest => ?_⟩
    -- the record's row is of the attempt's own ingest
    have hid : row.id ≠ processingLog.id := by
      intro hid
      obtain ⟨own, hown, hownId, hownIngest⟩ := h.recorded
      exact hingest ((h.logOk.distinct row hrow own hown (hid.trans hownId.symm)).trans hownIngest)
    exact mem_processingLog_answer hrow (hunder.1.2 _ _ hingest hid) e
  · cases h

/-- Attempts are not fenced against each other: what a started attempt leaves alone is the
columns that a start sets, and the rows of other ingests. A row whose ingest no delivery holds
keeps everything. -/
theorem attempts_unfenced (fromStr : String → Except String RawProcessingMessage) :
    (∀ pool₀ pool pool' pool'' i e₀ e message processingLog,
      Reaches step (fun _ => Starts fromStr) empty pool₀ →
      pool₀.nextCall i = some (.upsertProcessingStarted message) →
      (answer (.upsertProcessingStarted message) e₀ pool₀.world).2 = .ok processingLog →
      pool₀.step (.act i e₀) = some pool → Reaches step (fun _ _ => True) pool pool' →
      pool'.step (.act i e) = some pool'' →
        pool''.world.processingLog.map ProcessingRow.startColumns =
          pool'.world.processingLog.map ProcessingRow.startColumns ∧
        ∀ row ∈ pool'.world.processingLog, row.ingestId ≠ message.ingestId →
          row ∈ pool''.world.processingLog) ∧
    ∀ pool pool' row, Reaches step (fun _ => Starts fromStr) empty pool →
      row ∈ pool.world.processingLog →
      (∀ p ∈ pool.procs, Idle fromStr row.ingestId row.id p) →
      Reaches step (NotDelivered fromStr row.ingestId) pool pool' →
        row ∈ pool'.world.processingLog := by
  constructor
  · intro pool₀ pool pool' pool'' i e₀ e message processingLog hreaches hcall hreply hstart hrun hstep
    have hstarted : pool'.Started i message processingLog :=
      hrun.invariant (started_of_start hreaches hcall hreply hstart) fun _ _ _ h _ hstep =>
        h.step hstep
    exact hstarted.keeps hstep
  · intro pool pool' row hreaches hrow hidle hrun
    have hsettled : pool.Settled fromStr row := ⟨logOk_of_reaches hreaches, hrow, hidle⟩
    exact (settled_of_reaches hsettled hrun).present

/-! ## Two attempts that overlap -/

/-- Once the newest attempt has recorded a terminal status, no step of an older attempt changes
the row. -/
def StaleFenced (fromStr : String → Except String RawProcessingMessage) : Prop :=
  ∀ (pool₀ pool₁ pool₂ : ProcessingPool) (i j : ℕ) (old new : Attempt) (e : Env),
    Reaches step (fun _ => Starts fromStr) empty pool₀ →
    pool₀.procs[i]? = some old.program → pool₀.procs[j]? = some new.program →
    old.message.ingestId = new.message.ingestId →
    old.processingLog.attempts < new.processingLog.attempts →
    Reaches step (fun _ => Starts fromStr) pool₀ pool₁ →
    pool₁.step (.act i e) = some pool₂ →
    ∀ row ∈ pool₁.world.processingLog, row.ingestId = new.message.ingestId →
      row.attempts = new.processingLog.attempts → row.status ≠ .processing →
        row ∈ pool₂.world.processingLog

def oldAttempt : Attempt where
  config := sampleConfig
  received := { messageId := 0, popReceipt := 1, dequeueCount := 1, messageText := "a" }
  message := sampleProcessingMessage 1
  promotedAt := 0
  processingLog := { id := 2, attempts := 1 }

/-- The message again, after its visibility timeout. -/
def newAttempt : Attempt where
  config := sampleConfig
  received := { messageId := 0, popReceipt := 3, dequeueCount := 2, messageText := "a" }
  message := sampleProcessingMessage 1
  promotedAt := 0
  processingLog := { id := 2, attempts := 2 }

def overlappingRow : ProcessingRow :=
  { ProcessingLog.startedRow (sampleProcessingMessage 1) 2 0 with attempts := 2 }

def overlappingPool : ProcessingPool where
  world := { empty.world with
    ingestLog := [sampleIngestRow 1]
    processingLog := [overlappingRow]
    messages := [{ newAttempt.received with queueName := "viirs-processing" }]
    nextId := 5 }
  procs := [.done (), .done (), oldAttempt.program, newAttempt.program]

/-- The row and its message, then a delivery up to its start, and its redelivery up to the
second start. -/
def overlappingEvents : List ProcessingEvent :=
  commandThrough (.ingest (sampleIngestRow 1)) 0 1 ++
    (commandThrough (.enqueue "viirs-processing" "a") 1 1 ++
      (commandThrough (.processOnce sampleConfig 0) 2 4 ++
        commandThrough (.processOnce sampleConfig 0) 3 4))

theorem overlappingEvents_starts : ∀ event ∈ overlappingEvents, Starts sampleFromStr event := by
  rw [overlappingEvents, List.forall_mem_append, List.forall_mem_append, List.forall_mem_append]
  exact ⟨commandThrough_starts _ 0 1, commandThrough_starts _ 1 1, commandThrough_starts _ 2 4,
    commandThrough_starts _ 3 4⟩

theorem overlappingPool_reached :
    Reaches step (fun _ => Starts sampleFromStr) empty overlappingPool :=
  reaches_of_runSteps overlappingEvents (fun _ => overlappingEvents_starts) rfl

/-- The new attempt runs to its processed status; the old one fails and connects again. -/
def staleEvents : List ProcessingEvent :=
  List.replicate 12 (PoolEvent.act 3 (sampleEnv .ok 0 0)) ++
    [PoolEvent.act 2 (sampleEnv .failed 0 0), PoolEvent.act 2 (sampleEnv .ok 0 0)]

theorem staleEvents_starts : ∀ event ∈ staleEvents, Starts sampleFromStr event := by
  intro event hevent
  simp only [staleEvents, List.mem_append, List.mem_replicate, List.mem_cons, List.not_mem_nil,
    or_false] at hevent
  rcases hevent with ⟨-, rfl⟩ | rfl | rfl <;> exact starts_act _ _

/-- The old attempt's failure replaces the processed status of the new one. -/
theorem not_staleFenced : ¬ StaleFenced sampleFromStr := by
  intro h
  obtain ⟨pool₁, hreaches, htest⟩ := exists_reaches_of_runSteps staleEvents
    (fun _ => staleEvents_starts)
    (show (runSteps step overlappingPool staleEvents).any (fun pool₁ =>
      (pool₁.step (.act 2 (sampleEnv .ok 0 0))).any fun pool₂ => decide
        (∃ row ∈ pool₁.world.processingLog, row.ingestId = 1 ∧ row.attempts = 2 ∧
          row.status = .processed ∧ row ∉ pool₂.world.processingLog)) = true by decide +kernel)
  obtain ⟨pool₂, hstep, htest⟩ := (Option.any_eq_true _ _).mp htest
  obtain ⟨row, hrow, hid, hattempts, hstatus, habsent⟩ := of_decide_eq_true htest
  refine habsent (h overlappingPool pool₁ pool₂ 2 3 oldAttempt newAttempt _ overlappingPool_reached
    rfl rfl rfl (by decide) hreaches hstep row hrow hid hattempts ?_)
  rw [hstatus]
  exact nofun

def abandonedPool : ProcessingPool :=
  { overlappingPool with procs := [.done (), .done (), .done (), .done ()] }

theorem abandonedPool_reached :
    Reaches step (fun _ => Starts sampleFromStr) empty abandonedPool := by
  refine overlappingPool_reached.trans (reaches_of_runSteps [.stop 2, .stop 3] (fun _ => ?_) rfl)
  exact List.forall_mem_cons.mpr ⟨starts_stop _, List.forall_mem_cons.mpr ⟨starts_stop _, nofun⟩⟩

/-- Two messages of different ingests, and a delivery of the first up to its start. -/
def startingEvents : List ProcessingEvent :=
  commandThrough (.ingest (sampleIngestRow 1)) 0 1 ++
    (commandThrough (.ingest (sampleIngestRow 2)) 1 1 ++
      (commandThrough (.enqueue "viirs-processing" "a") 2 1 ++
        (commandThrough (.enqueue "viirs-processing" "b") 3 1 ++
          commandThrough (.processOnce sampleConfig 0) 4 3)))

def startingPool : ProcessingPool := (runSteps step empty startingEvents).getD empty

def startedPool : ProcessingPool := (startingPool.step (.act 4 (sampleEnv .ok 0 0))).getD empty

/-- A delivery of the second message records its start too. -/
def secondEvents : List ProcessingEvent :=
  runThrough ((Command.processOnce sampleConfig 0).program sampleFromStr) 5 4 (sampleEnv .ok 0 1)

theorem startingEvents_starts : ∀ event ∈ startingEvents, Starts sampleFromStr event := by
  rw [startingEvents, List.forall_mem_append, List.forall_mem_append, List.forall_mem_append,
    List.forall_mem_append]
  exact ⟨commandThrough_starts _ 0 1, commandThrough_starts _ 1 1, commandThrough_starts _ 2 1,
    commandThrough_starts _ 3 1, commandThrough_starts _ 4 3⟩

theorem startingPool_reached :
    Reaches step (fun _ => Starts sampleFromStr) empty startingPool := by
  apply reaches_of_runSteps startingEvents fun _ => startingEvents_starts
  with_unfolding_all rfl

/-- The first attempt's failure leaves the row of the second one; and the row of abandoned
deliveries stays while another message is enqueued. -/
theorem attempts_unfenced_overlapping :
    (∃ pool' pool'' : ProcessingPool, pool'.step (.act 4 (sampleEnv .failed 0 0)) = some pool'' ∧
      pool''.world.processingLog.map ProcessingRow.startColumns =
        pool'.world.processingLog.map ProcessingRow.startColumns ∧
      ∃ row ∈ pool''.world.processingLog, row.ingestId = 2) ∧
    ∃ pool' : ProcessingPool, pool'.world.messages.length = 2 ∧
      overlappingRow ∈ pool'.world.processingLog := by
  constructor
  · obtain ⟨pool', hreaches, htest⟩ := exists_reaches_of_runSteps secondEvents
      (fun _ _ _ => trivial : ∀ s, ∀ event ∈ secondEvents, True)
      (show (runSteps step startedPool secondEvents).any (fun pool' =>
        (pool'.step (.act 4 (sampleEnv .failed 0 0))).isSome &&
          decide (∃ row ∈ pool'.world.processingLog, row.ingestId = 2)) = true by decide +kernel)
    rw [Bool.and_eq_true, Option.isSome_iff_exists, decide_eq_true_eq] at htest
    obtain ⟨⟨pool'', hstep⟩, row, hrow, hingest⟩ := htest
    obtain ⟨hcolumns, hkeeps⟩ := (attempts_unfenced sampleFromStr).1 startingPool startedPool pool'
      pool'' 4 (sampleEnv .ok 0 0) _ (sampleProcessingMessage 1) { id := 3, attempts := 1 }
      startingPool_reached (by with_unfolding_all rfl) (by with_unfolding_all rfl)
      (by with_unfolding_all rfl) hreaches hstep
    exact ⟨pool', pool'', hstep, hcolumns, row, hkeeps row hrow (by rw [hingest]; decide), hingest⟩
  · have hidle : ∀ p ∈ abandonedPool.procs,
        Idle sampleFromStr overlappingRow.ingestId overlappingRow.id p := by
      intro p hp
      obtain rfl : p = .done () := by simpa [abandonedPool] using hp
      trivial
    have hrun : Reaches step (NotDelivered sampleFromStr overlappingRow.ingestId) abandonedPool _ :=
      reaches_of_guardedSteps
        [.spawn ((Command.enqueue "viirs-processing" "b").program sampleFromStr),
          .act 4 (sampleEnv .ok 0 0)]
        (.cons (notDelivered_spawn id _) rfl
          (.cons (notDelivered_act fun c hc => by cases hc; exact id) rfl rfl))
    exact ⟨_, rfl, (attempts_unfenced sampleFromStr).2 abandonedPool _ overlappingRow
      abandonedPool_reached List.mem_cons_self hidle hrun⟩

end ProcessingPool
end LumenHorizon.Processing
