import LumenHorizon.Foundation.Batches
import LumenHorizon.Ingest.ReplayBatch

/-! # The turns of a recovery

A recovery gives a turn to each row it selected, then to each record. A turn takes from the work
that is left: a row is written to and goes to the end of the line or leaves it, a record uses up an
attempt. Turns about one entry leave the others as they are.
-/

namespace LumenHorizon.Ingest
open Foundation Shared Program IngestProgram

/-! ## Recoveries in succession

No statement fails, and each finds a later time than the one before. What a download returns and
whether a message can be put on the queue is left open.
-/

structure ClockedWorld where
  ingest : IngestWorld
  clock : ℕ
deriving DecidableEq

/-- The requests that may fail or lose their reply. -/
def IngestCall.isRequest : IngestCall → Bool
  | downloadRawBlob _ => true
  | enqueueProcessingMessage _ _ => true
  | _ => false

/-- What a choice decides about a call: `now` is how much later than needed it comes. -/
def ClockedWorld.env (w : ClockedWorld) (c : IngestCall) (e : Env) : Env := { e with
  outcome := if c.isRequest then e.outcome else .ok
  now := w.clock + 1 + e.now }

def ClockedWorld.answer (c : IngestCall) (e : Env) (w : ClockedWorld) : ClockedWorld × c.Reply :=
  (⟨(Ingest.answer c (w.env c e) w.ingest).1, (w.env c e).now⟩,
    (Ingest.answer c (w.env c e) w.ingest).2)

/-- A world, and the calls of the recovery that led to it. -/
abbrev RecoveryState := ClockedWorld × IngestTranscript

abbrev RecoveryState.tables (s : RecoveryState) : Tables := s.1.ingest.tables

def recoveryRun (config : IngestConfig) (choices : ℕ → Env) (w : ClockedWorld) : RecoveryState :=
  ((runRecovery config).exec (recorded ClockedWorld.answer) choices (w, [])).1

/-- The world before recovery `r`, of which each makes its own choices. -/
def beforeRun (config : IngestConfig) (choices : ℕ → ℕ → Env) (w : ClockedWorld) : ℕ → ClockedWorld
  | 0 => w
  | r + 1 => (recoveryRun config (choices r) (beforeRun config choices w r)).1

/-- The calls of recovery `r`, the last one first. -/
def historyOfRun (config : IngestConfig) (choices : ℕ → ℕ → Env) (w : ClockedWorld) (r : ℕ) :
    IngestTranscript :=
  (recoveryRun config (choices r) (beforeRun config choices w r)).2

/-- The row's blob is downloaded, and what was found is written to the row. -/
def Examined (ingestId : Uuid) (blobPath : String) (t : IngestTranscript) : Prop :=
  ∃ status errorMessage reply download,
    [⟨.setStatus ingestId status errorMessage, reply⟩, ⟨.downloadRawBlob blobPath, download⟩] <:+: t

/-- The message of the record is tried, which ends with a strike or the record's completion. -/
def Attempted (outboxId : Uuid) (t : IngestTranscript) : Prop :=
  ∃ entry ∈ t, entry.1 = .markOutboxCompleted outboxId ∨
    ∃ errorMessage, entry.1 = .markOutboxFailed outboxId errorMessage

/-- The record is created, or the row's pending record taken for it. -/
def CreatedIn (outboxId ingestId : Uuid) (t : IngestTranscript) : Prop :=
  ∃ reason, ⟨.createPendingEnqueueOutbox ingestId reason, .ok outboxId⟩ ∈ t

/-- The record and its row are what `pending_enqueue_outbox` asks for. -/
def Tables.Selectable (t : Tables) (outboxId ingestId : Uuid) : Prop :=
  ∃ record ∈ t.outbox, ∃ row ∈ t.ingestLog, record.id = outboxId ∧ record.ingestId = ingestId ∧
    DeliverablePair (record, row)

instance (t : Tables) (ingestId : Uuid) : Decidable (t.HasPending ingestId) :=
  inferInstanceAs (Decidable (∃ record ∈ t.outbox, record.ingestId = ingestId ∧ Pending record))

def Tables.Unclaimed (t : Tables) (row : IngestRow) : Prop :=
  Recoverable row ∧ ¬ t.HasPending row.id

instance (t : Tables) : DecidablePred t.Unclaimed := fun _ => inferInstanceAs (Decidable (_ ∧ _))

/-- The records that are pending or can be created. -/
def Tables.claims (t : Tables) : ℕ :=
  (t.outbox.countP fun record => Pending record) + t.ingestLog.countP fun row => t.Unclaimed row

/-! ## Work -/

/-- The row has not been written to since. -/
def Stale (since : ℕ) (row : IngestRow) : Prop := Recoverable row ∧ row.updatedAt ≤ since

instance (since : ℕ) : DecidablePred (Stale since) := fun _ => inferInstanceAs (Decidable (_ ∧ _))

def Tables.stale (since : ℕ) (t : Tables) : ℕ := t.ingestLog.countP fun row => Stale since row

def tries (record : OutboxRow) : ℕ :=
  if Pending record then max 1 (outboxMaxAttempts - record.attempts) else 0

/-- The attempts left to the records that are pending or can be created. -/
def Tables.triesLeft (t : Tables) : ℕ :=
  (t.outbox.map tries).sum + outboxMaxAttempts * t.ingestLog.countP fun row => t.Unclaimed row

theorem tries_le (record : OutboxRow) :
    tries record ≤ outboxMaxAttempts * if Pending record then 1 else 0 := by
  unfold tries outboxMaxAttempts
  split <;> omega

theorem tries_pos {record : OutboxRow} (h : Pending record) : 0 < tries record := by
  rw [tries, if_pos h]
  exact (Nat.le_max_left _ _)

theorem Tables.triesLeft_le (t : Tables) : t.triesLeft ≤ outboxMaxAttempts * t.claims := by
  have hsum (records : List OutboxRow) : (records.map tries).sum ≤
      outboxMaxAttempts * records.countP fun record => Pending record := by
    induction records with
    | nil => exact Nat.zero_le _
    | cons record records ih =>
      have hfirst := tries_le record
      rw [List.map_cons, List.sum_cons, List.countP_cons]
      simp only [decide_eq_true_eq, Nat.mul_add]
      omega
  rw [triesLeft, claims, Nat.mul_add]
  exact Nat.add_le_add_right (hsum t.outbox) _

section Work

variable {t t' : Tables} {ingestId outboxId since now : ℕ} {status : IngestStatus}
  {errorMessage : Option String}

theorem Tables.stale_setIngestStatus_le (hnow : since < now) :
    (t.setIngestStatus ingestId status errorMessage now).stale since ≤ t.stale since := by
  apply Table.countP_update_le
  intro row _ hstale
  by_cases hid : row.id = ingestId
  · rw [if_pos hid] at hstale
    exact absurd hstale.2 (not_le.mpr hnow)
  · rwa [if_neg hid] at hstale

theorem Tables.stale_setIngestStatus_lt (hnow : since < now)
    (hrow : ∃ row ∈ t.ingestLog, row.id = ingestId ∧ Stale since row) :
    (t.setIngestStatus ingestId status errorMessage now).stale since < t.stale since := by
  apply Table.countP_update_lt
  · intro row _ hstale
    by_cases hid : row.id = ingestId
    · rw [if_pos hid] at hstale
      exact absurd hstale.2 (not_le.mpr hnow)
    · rwa [if_neg hid] at hstale
  · obtain ⟨row, hmem, hid, hstale⟩ := hrow
    refine ⟨row, hmem, hstale, fun hset => ?_⟩
    rw [if_pos hid] at hset
    exact absurd hset.2 (not_le.mpr hnow)

theorem Tables.triesLeft_setIngestStatus_le
    (hkept : ∀ row ∈ t.ingestLog, row.id = ingestId →
      Recoverable { row with status := status } → Recoverable row) :
    (t.setIngestStatus ingestId status errorMessage now).triesLeft ≤ t.triesLeft := by
  apply Nat.add_le_add_left
  apply Nat.mul_le_mul_left
  apply Table.countP_update_le
  rintro row hrow ⟨hrecoverable, hnone⟩
  by_cases hid : row.id = ingestId
  · rw [if_pos hid] at hrecoverable hnone
    exact ⟨hkept row hrow hid hrecoverable, hnone⟩
  · rw [if_neg hid] at hrecoverable hnone
    exact ⟨hrecoverable, hnone⟩

/-- A record that is kept pending by an insert for its row keeps its attempts. -/
theorem Tables.sum_tries_recycled {reason : String} :
    ((Table.update (fun record => record.ingestId = ingestId ∧ Pending record)
      (fun record => { record with reason := reason, updatedAt := now, errorMessage := none })
      t.outbox).map tries).sum = (t.outbox.map tries).sum :=
  congrArg List.sum (Table.map_update fun _ _ => rfl)

/-- A row that was recoverable uses its own claim for the record it gets. -/
theorem Tables.triesLeft_validated_le (now' : ℕ) (reason : String)
    (hrow : ∃ row ∈ t.ingestLog, row.id = ingestId ∧ Recoverable row) :
    ((t.setIngestStatus ingestId .validated errorMessage now).createPendingEnqueueOutbox ingestId
      reason outboxId now').1.triesLeft ≤ t.triesLeft := by
  have hshrinks (t'' : Tables)
      (hgrown : ∀ id, t.HasPending id → t''.HasPending id) :
      ∀ row ∈ t.ingestLog,
        t''.Unclaimed (if row.id = ingestId then { row with
          status := .validated
          errorMessage := errorMessage
          updatedAt := now } else row) → t.Unclaimed row := by
    rintro row - ⟨hrecoverable, hnone⟩
    by_cases hid : row.id = ingestId
    · rw [if_pos hid] at hrecoverable
      rcases hrecoverable with h | h | h <;> cases h
    · rw [if_neg hid] at hrecoverable hnone
      exact ⟨hrecoverable, mt (hgrown row.id) hnone⟩
  have hgrown (id : Uuid) (hp : t.HasPending id) :
      ((t.setIngestStatus ingestId .validated errorMessage now).createPendingEnqueueOutbox ingestId
        reason outboxId now').1.HasPending id :=
    Tables.HasPending.createPendingEnqueueOutbox
      (t := t.setIngestStatus ingestId .validated errorMessage now) hp reason
  rcases (t.setIngestStatus ingestId .validated errorMessage now).createPendingEnqueueOutbox_cases
      ingestId reason outboxId now' with ⟨existing, -, -, -, heq⟩ | ⟨hnone, heq⟩ | ⟨hno, -⟩
  · rw [heq] at hgrown ⊢
    apply Nat.add_le_add sum_tries_recycled.le
    apply Nat.mul_le_mul_left
    exact Table.countP_update_le (hshrinks _ hgrown)
  · rw [heq] at hgrown ⊢
    obtain ⟨row, hmem, hid, hrecoverable⟩ := hrow
    have hclaims := Table.countP_update_lt (hshrinks _ hgrown) (by
      refine ⟨row, hmem, ⟨hrecoverable, hid ▸ hnone⟩, ?_⟩
      rw [if_pos hid]
      rintro ⟨h | h | h, -⟩ <;> cases h)
    have hsum : ((t.outbox ++ [pendingRecord outboxId ingestId reason now']).map tries).sum =
        (t.outbox.map tries).sum + outboxMaxAttempts := by
      rw [List.map_append, List.sum_append]
      rfl
    refine (Nat.add_le_add_right hsum.le _).trans ?_
    rw [Nat.add_assoc, Nat.add_comm outboxMaxAttempts, ← Nat.mul_succ]
    apply Nat.add_le_add_left
    exact Nat.mul_le_mul_left _ hclaims
  · obtain ⟨row, hmem, hid, -⟩ := hrow
    exact absurd ⟨_, Table.mem_update_of hmem hid, hid⟩ hno

/-- Every pending record with the id belongs to a row that is not recoverable. -/
def Tables.ClaimedBy (t : Tables) (outboxId : Uuid) : Prop :=
  ∀ record ∈ t.outbox, record.id = outboxId → Pending record →
    ∀ row ∈ t.ingestLog, row.id = record.ingestId → ¬ Recoverable row

/-- An attempt is used up, and the rows that lose their pending record have no further claim. -/
theorem Tables.triesLeft_lt (hlog : t'.ingestLog = t.ingestLog)
    (hsum : (t'.outbox.map tries).sum + 1 ≤ (t.outbox.map tries).sum)
    (hpending : ∀ id, t.HasPending id → t'.HasPending id ∨
      ∃ record ∈ t.outbox, record.id = outboxId ∧ record.ingestId = id ∧ Pending record)
    (hclaimed : t.ClaimedBy outboxId) : t'.triesLeft < t.triesLeft := by
  apply Nat.add_lt_add_of_lt_of_le hsum
  apply Nat.mul_le_mul_left
  rw [hlog]
  apply List.countP_mono_left
  intro row hrow hunclaimed
  obtain ⟨hrecoverable, hnone⟩ := of_decide_eq_true hunclaimed
  refine decide_eq_true ⟨hrecoverable, fun hbefore => ?_⟩
  rcases hpending row.id hbefore with hafter | ⟨own, hown, hownId, hownRow, hp⟩
  · exact hnone hafter
  · exact hclaimed own hown hownId hp row hrow hownRow.symm hrecoverable

theorem tries_struck_le (record : OutboxRow) (message : String) :
    tries { record with
      attempts := record.attempts + 1
      status := if outboxMaxAttempts ≤ record.attempts + 1 then .failed else record.status
      errorMessage := some (truncateErrorMessage message)
      completedAt := if outboxMaxAttempts ≤ record.attempts + 1 then some now
        else record.completedAt
      updatedAt := now } ≤ tries record - 1 := by
  by_cases hlast : outboxMaxAttempts ≤ record.attempts + 1
  · simp [tries, Pending, hlast]
  · by_cases hp : record.status = .pending
    · simp only [tries, Pending, hlast, hp, if_true, if_false]
      unfold outboxMaxAttempts at *
      omega
    · simp [tries, Pending, hlast, hp]

theorem Tables.triesLeft_markOutboxFailed_lt (message : String)
    (hrecord : ∃ record ∈ t.outbox, record.id = outboxId ∧ Pending record)
    (hclaimed : t.ClaimedBy outboxId) :
    (t.markOutboxFailed outboxId message now).triesLeft < t.triesLeft := by
  obtain ⟨record, hmem, hid, hp⟩ := hrecord
  refine triesLeft_lt rfl ?_ (fun id hpending => ?_) hclaimed
  · exact Table.sum_update_add_le (fun other _ => tries_struck_le other message)
      ⟨record, hmem, hid, tries_pos hp⟩
  · refine (hpending.markOutboxFailed message).imp_right ?_
    rintro ⟨own, hown, hownId, hownRow, hownPending, -⟩
    exact ⟨own, hown, hownId, hownRow, hownPending⟩

theorem Tables.triesLeft_delivered_lt {now' : ℕ}
    (hrecord : ∃ record ∈ t.outbox, record.id = outboxId ∧ Pending record)
    (hclaimed : t.ClaimedBy outboxId) :
    ((t.setIngestStatus ingestId .enqueued none now).markOutboxCompleted outboxId now').triesLeft <
      t.triesLeft := by
  have hset : (t.setIngestStatus ingestId .enqueued none now).triesLeft ≤ t.triesLeft := by
    apply triesLeft_setIngestStatus_le
    rintro row - - (h | h | h) <;> cases h
  obtain ⟨record, hmem, hid, hp⟩ := hrecord
  apply lt_of_lt_of_le _ hset
  refine triesLeft_lt rfl ?_ (fun id hpending => hpending.markOutboxCompleted) ?_
  · exact Table.sum_update_add_le (fun _ _ => Nat.zero_le _) ⟨record, hmem, hid, tries_pos hp⟩
  · intro own hown hownId hownPending row hrow hrowId hrecoverable
    obtain ⟨old, hold, ⟨-, rfl⟩ | ⟨-, rfl⟩⟩ := Table.mem_update.mp hrow
    · rcases hrecoverable with h | h | h <;> cases h
    · exact hclaimed own hown hownId hownPending row hold hrowId hrecoverable

end Work

/-! ## What one call does -/

section After

abbrev RecoveryState.after (s : RecoveryState) (c : IngestCall) (e : Env) : RecoveryState :=
  (recorded ClockedWorld.answer c e s).1

def RecoveryState.time (s : RecoveryState) (e : Env) : ℕ := s.1.clock + 1 + e.now

variable {s : RecoveryState} {c : IngestCall} {e : Env} {since : ℕ}

theorem env_outcome (w : ClockedWorld) (h : c.isRequest = false) (e : Env) :
    (w.env c e).outcome = .ok := by simp [ClockedWorld.env, h]

theorem answer_of_statement (w : ClockedWorld) (h : c.isRequest = false) (e : Env) :
    ClockedWorld.answer c e w = (⟨effect (w.env c e).now w.ingest c, (w.env c e).now⟩,
      result (w.env c e) w.ingest c) := by
  rw [ClockedWorld.answer, answer_of_ok (env_outcome w h e)]

theorem ingest_after (s : RecoveryState) (h : c.isRequest = false) (e : Env) :
    (s.after c e).1.ingest = effect (s.time e) s.1.ingest c :=
  congrArg (fun answered => answered.1.ingest) (answer_of_statement s.1 h e)

theorem reply_of_statement (s : RecoveryState) (h : c.isRequest = false) (e : Env) :
    (recorded ClockedWorld.answer c e s).2 = result (s.1.env c e) s.1.ingest c :=
  congrArg Prod.snd (answer_of_statement s.1 h e)

theorem tables_after_of_isRequest (s : RecoveryState) (h : c.isRequest = true) (e : Env) :
    (s.after c e).tables = s.tables := by
  cases c with
  | downloadRawBlob blobPath => exact congrArg IngestWorld.tables (ite_self _)
  | enqueueProcessingMessage queueName message =>
    exact (apply_ite IngestWorld.tables _ _ _).trans (ite_self _)
  | _ => cases h

/-! The tables after each of the calls of a turn. -/

section Calls

variable (s) (e)

theorem tables_downloadRawBlob (blobPath : String) :
    (s.after (.downloadRawBlob blobPath) e).tables = s.tables :=
  tables_after_of_isRequest s rfl e

theorem tables_enqueueProcessingMessage (queueName : String) (message : ProcessingMessage) :
    (s.after (.enqueueProcessingMessage queueName message) e).tables = s.tables :=
  tables_after_of_isRequest s rfl e

theorem tables_setStatus (ingestId : Uuid) (status : IngestStatus) (errorMessage : Option String) :
    (s.after (.setStatus ingestId status errorMessage) e).tables =
      s.tables.setIngestStatus ingestId status errorMessage (s.time e) :=
  congrArg IngestWorld.tables (ingest_after s rfl e)

theorem tables_createPendingEnqueueOutbox (ingestId : Uuid) (reason : String) :
    (s.after (.createPendingEnqueueOutbox ingestId reason) e).tables =
      (s.tables.createPendingEnqueueOutbox ingestId reason s.1.ingest.nextId (s.time e)).1 :=
  congrArg IngestWorld.tables (ingest_after s rfl e)

theorem tables_markOutboxFailed (outboxId : Uuid) (errorMessage : String) :
    (s.after (.markOutboxFailed outboxId errorMessage) e).tables =
      s.tables.markOutboxFailed outboxId errorMessage (s.time e) :=
  congrArg IngestWorld.tables (ingest_after s rfl e)

theorem tables_markOutboxCompleted (outboxId : Uuid) :
    (s.after (.markOutboxCompleted outboxId) e).tables =
      s.tables.markOutboxCompleted outboxId (s.time e) :=
  congrArg IngestWorld.tables (ingest_after s rfl e)

end Calls

/-- The keys of the tables hold, and the clock has not gone back. -/
structure Sound (since : ℕ) (s : RecoveryState) : Prop where
  keyed : Keyed s.1.ingest
  since_le : since ≤ s.1.clock

theorem Sound.time (h : Sound since s) (e : Env) : since < s.time e := by
  have hle := h.since_le
  unfold RecoveryState.time
  omega

theorem Sound.after (h : Sound since s) (c : IngestCall) (e : Env) : Sound since (s.after c e) where
  keyed := by
    show Keyed (Ingest.answer c (s.1.env c e) s.1.ingest).1
    by_cases hfailed : (s.1.env c e).outcome = .failed
    · rw [answer_world_of_failed hfailed]
      exact h.keyed
    · rw [answer_world_of_applied hfailed]
      exact h.keyed.effect _ c
  since_le := (h.time e).le

theorem mem_ingestLog_after {row : IngestRow} (hrow : row ∈ s.tables.ingestLog)
    (hc : LeavesAlone row.id c) (e : Env) : row ∈ (s.after c e).tables.ingestLog := by
  cases hrequest : c.isRequest with
  | true =>
    rw [tables_after_of_isRequest s hrequest]
    exact hrow
  | false =>
    rw [RecoveryState.tables, ingest_after s hrequest]
    exact (Foreign.mem_ingestLog_effect hc rfl).mpr hrow

theorem hasRow_after {ingestId : Uuid} (h : s.tables.HasRow ingestId) (c : IngestCall) (e : Env) :
    (s.after c e).tables.HasRow ingestId := by
  cases hrequest : c.isRequest with
  | true =>
    rw [tables_after_of_isRequest s hrequest]
    exact h
  | false =>
    rw [RecoveryState.tables, ingest_after s hrequest]
    exact hasRow_effect h _ c

theorem selectable_after {outboxId ingestId : Uuid} (h : s.tables.Selectable outboxId ingestId)
    (hc : Foreign ingestId outboxId c) (e : Env) :
    (s.after c e).tables.Selectable outboxId ingestId := by
  cases hrequest : c.isRequest with
  | true =>
    rw [tables_after_of_isRequest s hrequest]
    exact h
  | false =>
    obtain ⟨record, hrecord, row, hrow, rfl, rfl, hid, hp, hdeliverable⟩ := h
    obtain ⟨record', hrecord', hstep⟩ := exists_mem_outbox_effect hrecord (s.time e) c
    obtain rfl := hstep.eq_of_foreign hc
    rw [RecoveryState.tables, ingest_after s hrequest]
    refine ⟨record', hrecord', row, ?_, rfl, rfl, hid, hp, hdeliverable⟩
    exact (Foreign.mem_ingestLog_effect hc.leavesAlone hid).mpr hrow

end After

/-! ## The turns of a recovery -/

/-- A row's turn: its blob is downloaded, and the row marked by what came back. -/
inductive RowTurn (row : IngestRecoveryRecord) : RecoveryState → RecoveryState → Prop
  | put (s : RecoveryState) (e e' : Env) {status : IngestStatus} (errorMessage : Option String)
    (hstatus : status = .recoveryPending ∨ status = .rejected) :
    RowTurn row s ((s.after (.downloadRawBlob row.blobPath) e).after
      (.setStatus row.id status errorMessage) e')
  | validated (s : RecoveryState) (e e' e'' : Env) (reason : String) :
    RowTurn row s (((s.after (.downloadRawBlob row.blobPath) e).after
      (.setStatus row.id .validated none) e').after (.createPendingEnqueueOutbox row.id reason) e'')

/-- A record's turn: a strike, with or without a message sent, or a message and its marks. -/
inductive RecordTurn (record : PendingOutboxRecord) : RecoveryState → RecoveryState → Prop
  | unsent (s : RecoveryState) (e : Env) (errorMessage : String) :
    RecordTurn record s (s.after (.markOutboxFailed record.id errorMessage) e)
  | struck (s : RecoveryState) (e e' : Env) (queueName : String) {message : ProcessingMessage}
    (hmessage : message.ingestId = record.ingestId) (errorMessage : String) :
    RecordTurn record s ((s.after (.enqueueProcessingMessage queueName message) e).after
      (.markOutboxFailed record.id errorMessage) e')
  | delivered (s : RecoveryState) (e e' e'' : Env) (queueName : String)
    {message : ProcessingMessage} (hmessage : message.ingestId = record.ingestId) :
    RecordTurn record s (((s.after (.enqueueProcessingMessage queueName message) e).after
      (.setStatus record.ingestId .enqueued none) e').after (.markOutboxCompleted record.id) e'')

/-- The program runs to its end without a database error, and ends in such a state. -/
abbrev Completes (p : IngestProgram (Except IngestError RecoverySummary))
    (post : RecoveryState → Prop) (s : RecoveryState) : Prop :=
  p.Alone (recorded ClockedWorld.answer) (fun _ => True) (fun _ => True)
    (fun s' outcome => post s' ∧ ∃ summary, outcome = .ok summary) s

theorem Completes.mono {p : IngestProgram (Except IngestError RecoverySummary)}
    {post post' : RecoveryState → Prop} {s : RecoveryState} (h : Completes p post s)
    (himp : ∀ s', post s' → post' s') : Completes p post' s :=
  Alone.mono h fun s' _ _ hpost => ⟨himp s' hpost.1, hpost.2⟩

theorem RowTurn.hasRow {row : IngestRecoveryRecord} {s s' : RecoveryState} (h : RowTurn row s s')
    {ingestId : Uuid} (hrow : s.tables.HasRow ingestId) : s'.tables.HasRow ingestId := by
  cases h with
  | put => exact hasRow_after (hasRow_after hrow _ _) _ _
  | validated => exact hasRow_after (hasRow_after (hasRow_after hrow _ _) _ _) _ _

/-- The insert for a row that is there comes back with the record. -/
theorem exists_created {s : RecoveryState} {ingestId : Uuid} (h : s.tables.HasRow ingestId)
    (reason : String) (e : Env) : ∃ outboxId,
      (recorded ClockedWorld.answer (.createPendingEnqueueOutbox ingestId reason) e s).2 =
        .ok outboxId := by
  obtain ⟨row, hmem, hid⟩ := List.mem_map.mp h
  rw [reply_of_statement s rfl]
  rcases s.tables.createPendingEnqueueOutbox_cases ingestId reason s.1.ingest.nextId
      (s.1.env (.createPendingEnqueueOutbox ingestId reason) e).now with
    ⟨existing, -, -, -, heq⟩ | ⟨-, heq⟩ | ⟨hno, -⟩
  · exact ⟨existing.id, congrArg Prod.snd heq⟩
  · exact ⟨s.1.ingest.nextId, congrArg Prod.snd heq⟩
  · exact absurd ⟨row, hmem, hid⟩ hno

theorem recoverRows_completes (rows : List IngestRecoveryRecord) (summary : RecoverySummary)
    {s : RecoveryState} (hrows : ∀ row ∈ rows, s.tables.HasRow row.id) :
    Completes (recoverRows rows summary) (Turns RowTurn rows s) s := by
  induction rows generalizing s summary with
  | nil => exact ⟨trivial, .done s, summary, rfl⟩
  | cons row rows ih =>
    have hrest (summary' : RecoverySummary) {s' : RecoveryState} (hturn : RowTurn row s s') :
        Completes (recoverRows rows summary') (Turns RowTurn (row :: rows) s) s' := by
      have hothers : ∀ other ∈ rows, s'.tables.HasRow other.id := fun other hother =>
        hturn.hasRow (hrows other (List.mem_cons_of_mem _ hother))
      exact (ih summary' hothers).mono fun _ => .next hturn
    refine ⟨trivial, fun e _ => ?_⟩
    cases (recorded ClockedWorld.answer (.downloadRawBlob row.blobPath) e s).2 with
    | error error =>
      refine ⟨trivial, fun e' _ => ?_⟩
      rw [reply_of_statement _ rfl]
      exact hrest _ (.put s e e' none (.inl rfl))
    | ok bytes =>
      simp only [Program.andThen]
      cases validateRawGranuleBytes bytes with
      | error error =>
        refine ⟨trivial, fun e' _ => ?_⟩
        rw [reply_of_statement _ rfl]
        exact hrest _ (.put s e e' _ (.inr rfl))
      | ok _ =>
        refine ⟨trivial, fun e' _ => ?_⟩
        rw [reply_of_statement _ rfl]
        refine ⟨trivial, fun e'' _ => ?_⟩
        have hrow := hasRow_after (hasRow_after (hrows row List.mem_cons_self)
          (.downloadRawBlob row.blobPath) e) (.setStatus row.id .validated none) e'
        obtain ⟨outboxId, hreply⟩ := exists_created hrow "recover_validated_raw_blob" e''
        rw [hreply]
        exact hrest _ (.validated s e e' e'' _)

theorem enqueueRecords_completes (config : IngestConfig) (records : List PendingOutboxRecord)
    (summary : RecoverySummary) (s : RecoveryState) :
    Completes (enqueueRecords config records summary) (Turns RecordTurn records s) s := by
  induction records generalizing s summary with
  | nil => exact ⟨trivial, .done s, summary, rfl⟩
  | cons record records ih =>
    have hrest (summary' : RecoverySummary) {s' : RecoveryState} (hturn : RecordTurn record s s') :
        Completes (enqueueRecords config records summary') (Turns RecordTurn (record :: records) s)
          s' := (ih summary' s').mono fun _ => .next hturn
    unfold enqueueRecords
    split
    · refine ⟨trivial, fun e _ => ?_⟩
      rw [reply_of_statement _ rfl]
      exact hrest _ (.unsent s e _)
    · next message hmessage =>
      have hid := ProcessingMessage.new_ingestId hmessage
      refine ⟨trivial, fun e _ => ?_⟩
      cases (recorded ClockedWorld.answer
          (.enqueueProcessingMessage config.azureQueueName message) e s).2 with
      | error error =>
        refine ⟨trivial, fun e' _ => ?_⟩
        rw [reply_of_statement _ rfl]
        exact hrest _ (.struck s e e' _ hid _)
      | ok _ =>
        refine ⟨trivial, fun e' _ => ?_⟩
        rw [reply_of_statement _ rfl]
        refine ⟨trivial, fun e'' _ => ?_⟩
        rw [reply_of_statement _ rfl]
        exact hrest _ (.delivered s e e' e'' _ hid)

/-- Only clients were made and tables read. -/
structure Quiet (s s' : RecoveryState) : Prop where
  ingest : s'.1.ingest = s.1.ingest
  clock : s.1.clock ≤ s'.1.clock
  history : s.2 <:+ s'.2
  created : ∀ outboxId ingestId, CreatedIn outboxId ingestId s'.2 → CreatedIn outboxId ingestId s.2

theorem Quiet.trans {s s' s'' : RecoveryState} (h : Quiet s s') (h' : Quiet s' s'') :
    Quiet s s'' where
  ingest := h'.ingest.trans h.ingest
  clock := h.clock.trans h'.clock
  history := h.history.trans h'.history
  created := fun outboxId ingestId hcreated =>
    h.created outboxId ingestId (h'.created outboxId ingestId hcreated)

/-- A call that is no insert brings no record to the history. -/
theorem createdIn_after {s : RecoveryState} {c : IngestCall} {e : Env} {outboxId ingestId : Uuid}
    (h : CreatedIn outboxId ingestId (s.after c e).2)
    (hc : ∀ reason, c ≠ .createPendingEnqueueOutbox ingestId reason) :
    CreatedIn outboxId ingestId s.2 := by
  obtain ⟨reason, hmem⟩ := h
  rcases List.mem_cons.mp hmem with heq | hmem
  · exact absurd (congrArg Sigma.fst heq).symm (hc reason)
  · exact ⟨reason, hmem⟩

def IngestCall.isRead : IngestCall → Bool
  | newStorageClient => true
  | newQueueClient => true
  | recoverableRawRows => true
  | pendingEnqueueOutbox => true
  | _ => false

theorem quiet_after (s : RecoveryState) {c : IngestCall} (hread : c.isRead = true) (e : Env) :
    Quiet s (s.after c e) where
  ingest := by
    cases c with
    | newStorageClient => exact ingest_after s rfl e
    | newQueueClient => exact ingest_after s rfl e
    | recoverableRawRows => exact ingest_after s rfl e
    | pendingEnqueueOutbox => exact ingest_after s rfl e
    | _ => cases hread
  clock := by
    show s.1.clock ≤ s.1.clock + 1 + e.now
    omega
  history := List.suffix_cons _ _
  created := by
    intro outboxId ingestId hcreated
    apply createdIn_after hcreated
    rintro reason rfl
    cases hread

/-- A recovery gives every selected row its turn, then every selected record. -/
def RecoveryRun (s s' : RecoveryState) : Prop :=
  ∃ s₁ s₂ s₃, Quiet s s₁ ∧ Turns RowTurn s.tables.recoverableRawRows s₁ s₂ ∧ Quiet s₂ s₃ ∧
    Turns RecordTurn s₂.tables.pendingEnqueueOutbox s₃ s'

theorem Tables.hasRow_of_mem_recoverableRawRows {t : Tables} {row : IngestRecoveryRecord}
    (h : row ∈ t.recoverableRawRows) : t.HasRow row.id := by
  obtain ⟨own, hown, hid, -⟩ := exists_of_mem_recoverableRawRows h
  exact List.mem_map.mpr ⟨own, hown, hid⟩

theorem enqueuePendingOutbox_completes (config : IngestConfig) (summary : RecoverySummary)
    (s : RecoveryState) : Completes (enqueuePendingOutbox config summary)
      (fun s' => ∃ s₁, Quiet s s₁ ∧ Turns RecordTurn s.tables.pendingEnqueueOutbox s₁ s') s := by
  refine ⟨trivial, fun e _ => ?_⟩
  rw [reply_of_statement _ rfl]
  apply (enqueueRecords_completes config s.tables.pendingEnqueueOutbox summary _).mono
  exact fun s' hturns => ⟨_, quiet_after s rfl e, hturns⟩

theorem runRecovery_completes (config : IngestConfig) (s : RecoveryState) :
    Completes (runRecovery config) (RecoveryRun s) s := by
  refine ⟨trivial, fun e _ => ?_⟩
  rw [reply_of_statement _ rfl]
  refine ⟨trivial, fun e' _ => ?_⟩
  rw [reply_of_statement _ rfl]
  refine ⟨trivial, fun e'' _ => ?_⟩
  rw [reply_of_statement _ rfl]
  have hquiet : Quiet s (((s.after .newStorageClient e).after .newQueueClient e').after
      .recoverableRawRows e'') :=
    ((quiet_after s rfl e).trans (quiet_after _ rfl e')).trans (quiet_after _ rfl e'')
  have hrows : ∀ row ∈ s.tables.recoverableRawRows, (((s.after .newStorageClient e).after
      .newQueueClient e').after .recoverableRawRows e'').tables.HasRow row.id := by
    intro row hrow
    rw [RecoveryState.tables, hquiet.ingest]
    exact Tables.hasRow_of_mem_recoverableRawRows hrow
  apply Alone.bind (recoverRows_completes s.tables.recoverableRawRows RecoverySummary.default hrows)
  rintro s₂ outcome - ⟨hturns, summary, rfl⟩
  apply (enqueuePendingOutbox_completes config summary s₂).mono
  rintro s' ⟨s₃, hquiet', hturns'⟩
  exact ⟨_, s₂, s₃, hquiet, hturns, hquiet', hturns'⟩

/-! ## What a turn does -/

/-- The record that comes back from an insert for a deliverable row can be selected. -/
theorem Tables.selectable_createPendingEnqueueOutbox {t : Tables}
    {ingestId outboxId freshId now : ℕ} {reason : String}
    (hrow : ∃ row ∈ t.ingestLog, row.id = ingestId ∧ Deliverable row)
    (hreply : (t.createPendingEnqueueOutbox ingestId reason freshId now).2 = .ok outboxId) :
    (t.createPendingEnqueueOutbox ingestId reason freshId now).1.Selectable outboxId ingestId := by
  obtain ⟨row, hmem, rfl, hdeliverable⟩ := hrow
  rcases t.createPendingEnqueueOutbox_cases row.id reason freshId now with
    ⟨existing, hexisting, hid, hp, heq⟩ | ⟨-, heq⟩ | ⟨hno, -⟩
  · rw [heq] at hreply ⊢
    cases hreply
    exact ⟨_, Table.mem_update_of hexisting ⟨hid, hp⟩, row, hmem, rfl, hid, hid.symm, hp,
      hdeliverable⟩
  · rw [heq] at hreply ⊢
    cases hreply
    exact ⟨_, List.mem_append_right _ (List.mem_singleton.mpr rfl), row, hmem, rfl, rfl, rfl, rfl,
      hdeliverable⟩
  · exact absurd ⟨row, hmem, rfl⟩ hno

theorem Deliverable.not_recoverable {row : IngestRow} (h : Deliverable row) :
    ¬ Recoverable row := by
  rintro (hs | hs | hs) <;> rcases h with h | h <;> rw [hs] at h <;> cases h

theorem Tables.Selectable.pending {t : Tables} {outboxId ingestId : Uuid}
    (h : t.Selectable outboxId ingestId) :
    ∃ record ∈ t.outbox, record.id = outboxId ∧ Pending record := by
  obtain ⟨record, hrecord, row, -, hid, -, -, hp, -⟩ := h
  exact ⟨record, hrecord, hid, hp⟩

theorem Tables.Selectable.claimedBy {w : IngestWorld} {outboxId ingestId : Uuid}
    (h : w.tables.Selectable outboxId ingestId) (hkeyed : Keyed w) :
    w.tables.ClaimedBy outboxId := by
  obtain ⟨record, hrecord, row, hrow, rfl, rfl, hid, hp, hdeliverable⟩ := h
  intro other hother hotherId _ otherRow hotherRow hotherRowId
  obtain rfl := hkeyed.outbox.eq_of_id_eq hother hrecord hotherId
  obtain rfl := hkeyed.log.eq_of_id_eq hotherRow hrow (hotherRowId.trans hid.symm)
  exact hdeliverable.not_recoverable

namespace RowTurn

variable {row : IngestRecoveryRecord} {s s' : RecoveryState} {since : ℕ}

theorem of_calls (h : RowTurn row s s') (inv : RecoveryState → Prop)
    (hcall : ∀ s c e, (∀ ingestId outboxId, row.id ≠ ingestId → Foreign ingestId outboxId c) →
      inv s → inv (s.after c e)) (hs : inv s) : inv s' := by
  have hdownload (s : RecoveryState) (e : Env) (hs : inv s) :
      inv (s.after (.downloadRawBlob row.blobPath) e) :=
    hcall s _ e (fun _ _ _ => ⟨.of_none id rfl, nofun, nofun⟩) hs
  have hset (s : RecoveryState) (e : Env) (status : IngestStatus) (errorMessage : Option String)
      (hs : inv s) : inv (s.after (.setStatus row.id status errorMessage) e) :=
    hcall s _ e (fun _ _ hne => ⟨.of_ne hne id rfl, nofun, nofun⟩) hs
  cases h with
  | put e e' errorMessage _ => exact hset _ e' _ errorMessage (hdownload s e hs)
  | validated e e' e'' reason =>
    apply hcall _ (.createPendingEnqueueOutbox row.id reason) e''
    · exact fun _ _ hne => ⟨.of_ne hne id rfl, nofun, nofun⟩
    · exact hset _ e' .validated none (hdownload s e hs)

theorem sound (h : RowTurn row s s') (hs : Sound since s) : Sound since s' :=
  h.of_calls (Sound since) (fun _ c e _ hs => hs.after c e) hs

theorem mem_ingestLog (h : RowTurn row s s') {other : IngestRow} (hne : row.id ≠ other.id)
    (hother : other ∈ s.tables.ingestLog) : other ∈ s'.tables.ingestLog :=
  h.of_calls (fun s => other ∈ s.tables.ingestLog)
    (fun _ _ e hc hs => mem_ingestLog_after hs (hc other.id 0 hne).leavesAlone e) hother

theorem selectable (h : RowTurn row s s') {outboxId ingestId : Uuid} (hne : row.id ≠ ingestId)
    (hs : s.tables.Selectable outboxId ingestId) : s'.tables.Selectable outboxId ingestId :=
  h.of_calls (fun s => s.tables.Selectable outboxId ingestId)
    (fun _ _ e hc hs => selectable_after hs (hc ingestId outboxId hne) e) hs

theorem history (h : RowTurn row s s') : s.2 <:+ s'.2 :=
  h.of_calls (fun s' => s.2 <:+ s'.2)
    (fun _ _ _ _ hs => hs.trans (List.suffix_cons _ _)) (List.suffix_refl _)

theorem stale_lt (h : RowTurn row s s') (hs : Sound since s)
    (hstale : ∃ own ∈ s.tables.ingestLog, own.id = row.id ∧ Stale since own) :
    s'.tables.stale since < s.tables.stale since := by
  cases h with
  | put e e' errorMessage _ =>
    rw [tables_setStatus, tables_downloadRawBlob]
    exact Tables.stale_setIngestStatus_lt ((hs.after _ e).time e') hstale
  | validated e e' e'' reason =>
    rw [tables_createPendingEnqueueOutbox, Tables.stale,
      Tables.createPendingEnqueueOutbox_ingestLog, ← Tables.stale, tables_setStatus,
      tables_downloadRawBlob]
    exact Tables.stale_setIngestStatus_lt ((hs.after _ e).time e') hstale

theorem triesLeft_le (h : RowTurn row s s') (hs : Sound since s)
    (hrecoverable : ∃ own ∈ s.tables.ingestLog, own.id = row.id ∧ Recoverable own) :
    s'.tables.triesLeft ≤ s.tables.triesLeft := by
  cases h with
  | put e e' errorMessage _ =>
    rw [tables_setStatus, tables_downloadRawBlob]
    apply Tables.triesLeft_setIngestStatus_le
    intro own hown hid _
    obtain ⟨selected, hselected, hselectedId, hrecoverable⟩ := hrecoverable
    exact hs.keyed.log.eq_of_id_eq hown hselected (hid.trans hselectedId.symm) ▸ hrecoverable
  | validated e e' e'' reason =>
    rw [tables_createPendingEnqueueOutbox, tables_setStatus, tables_downloadRawBlob]
    exact Tables.triesLeft_validated_le _ reason hrecoverable

theorem examined (h : RowTurn row s s') : Examined row.id row.blobPath s'.2 := by
  cases h with
  | put e e' errorMessage _ => exact ⟨_, _, _, _, [], s.2, rfl⟩
  | validated e e' e'' reason => exact ⟨_, _, _, _, [_], s.2, rfl⟩

/-- A record created in the turn is one that can be selected, with the row. -/
theorem created (h : RowTurn row s s') {outboxId ingestId : Uuid}
    (hrow : s.tables.HasRow row.id) (hcreated : CreatedIn outboxId ingestId s'.2) :
    CreatedIn outboxId ingestId s.2 ∨
      (ingestId = row.id ∧ s'.tables.Selectable outboxId ingestId) := by
  have hbefore (e e' : Env) (status : IngestStatus) (errorMessage : Option String)
      (hcreated : CreatedIn outboxId ingestId ((s.after (.downloadRawBlob row.blobPath) e).after
        (.setStatus row.id status errorMessage) e').2) : CreatedIn outboxId ingestId s.2 :=
    createdIn_after (createdIn_after hcreated nofun) nofun
  cases h with
  | put e e' errorMessage _ => exact .inl (hbefore e e' _ errorMessage hcreated)
  | validated e e' e'' reason =>
    obtain ⟨reason', hmem⟩ := hcreated
    rcases List.mem_cons.mp hmem with heq | hmem
    · obtain ⟨hcall, hreply⟩ := Sigma.mk.inj heq
      cases hcall
      have hok := (eq_of_heq hreply).symm
      rw [answer_of_statement _ rfl] at hok
      have hdeliverable : ∃ own ∈ ((s.after (.downloadRawBlob row.blobPath) e).after
          (.setStatus row.id .validated none) e').tables.ingestLog,
            own.id = row.id ∧ Deliverable own := by
        rw [tables_setStatus, tables_downloadRawBlob]
        obtain ⟨own, hown, hid⟩ := List.mem_map.mp hrow
        exact ⟨_, Table.mem_update_of hown hid, hid, .inl rfl⟩
      refine .inr ⟨rfl, ?_⟩
      rw [tables_createPendingEnqueueOutbox]
      exact Tables.selectable_createPendingEnqueueOutbox hdeliverable hok
    · exact .inl (hbefore e e' .validated none ⟨reason', hmem⟩)

end RowTurn

namespace RecordTurn

variable {record : PendingOutboxRecord} {s s' : RecoveryState} {since : ℕ}

theorem of_calls (h : RecordTurn record s s') (inv : RecoveryState → Prop)
    (hcall : ∀ s c e, (∀ ingestId outboxId, record.ingestId ≠ ingestId → record.id ≠ outboxId →
      Foreign ingestId outboxId c) →
      (∀ ingestId reason, c ≠ .createPendingEnqueueOutbox ingestId reason) →
      inv s → inv (s.after c e)) (hs : inv s) : inv s' := by
  have hstrike (s : RecoveryState) (e : Env) (message : String) (hs : inv s) :
      inv (s.after (.markOutboxFailed record.id message) e) := by
    refine hcall s _ e (fun _ _ _ hne => ⟨.of_none id rfl, nofun, ?_⟩) nofun hs
    rintro _ ⟨⟩
    exact hne rfl
  have hsend (s : RecoveryState) (e : Env) (queueName : String) {message : ProcessingMessage}
      (hmessage : message.ingestId = record.ingestId) (hs : inv s) :
      inv (s.after (.enqueueProcessingMessage queueName message) e) :=
    hcall s _ e (fun _ _ hne _ => ⟨.of_ne hne id (congrArg some hmessage), nofun, nofun⟩) nofun hs
  cases h with
  | unsent e message => exact hstrike s e message hs
  | struck e e' queueName hmessage message =>
    exact hstrike _ e' message (hsend s e queueName hmessage hs)
  | delivered e e' e'' queueName hmessage =>
    apply hcall _ (.markOutboxCompleted record.id) e''
    · refine fun _ _ _ hne => ⟨.of_none id rfl, ?_, nofun⟩
      rintro ⟨⟩
      exact hne rfl
    · exact nofun
    · apply hcall _ (.setStatus record.ingestId .enqueued none) e'
      · exact fun _ _ hne _ => ⟨.of_ne hne id rfl, nofun, nofun⟩
      · exact nofun
      · exact hsend s e queueName hmessage hs

theorem sound (h : RecordTurn record s s') (hs : Sound since s) : Sound since s' :=
  h.of_calls (Sound since) (fun _ c e _ _ hs => hs.after c e) hs

theorem mem_ingestLog (h : RecordTurn record s s') {row : IngestRow}
    (hne : record.ingestId ≠ row.id) (hrow : row ∈ s.tables.ingestLog) : row ∈ s'.tables.ingestLog :=
  h.of_calls (fun s => row ∈ s.tables.ingestLog) (fun _ _ e hc _ hs =>
    mem_ingestLog_after hs (hc row.id (record.id + 1) hne (Nat.succ_ne_self _).symm).leavesAlone e)
    hrow

theorem selectable (h : RecordTurn record s s') {outboxId ingestId : Uuid}
    (hrow : record.ingestId ≠ ingestId) (hne : record.id ≠ outboxId)
    (hs : s.tables.Selectable outboxId ingestId) : s'.tables.Selectable outboxId ingestId :=
  h.of_calls (fun s => s.tables.Selectable outboxId ingestId)
    (fun _ _ e hc _ hs => selectable_after hs (hc ingestId outboxId hrow hne) e) hs

theorem history (h : RecordTurn record s s') : s.2 <:+ s'.2 :=
  h.of_calls (fun s' => s.2 <:+ s'.2)
    (fun _ _ _ _ _ hs => hs.trans (List.suffix_cons _ _)) (List.suffix_refl _)

theorem created (h : RecordTurn record s s') {outboxId ingestId : Uuid}
    (hcreated : CreatedIn outboxId ingestId s'.2) : CreatedIn outboxId ingestId s.2 :=
  h.of_calls (fun s' => CreatedIn outboxId ingestId s'.2 → CreatedIn outboxId ingestId s.2)
    (fun _ _ _ _ hc hs hcreated => hs (createdIn_after hcreated (hc ingestId))) id hcreated

theorem attempted (h : RecordTurn record s s') : Attempted record.id s'.2 := by
  cases h with
  | unsent e message => exact ⟨_, List.mem_cons_self, .inr ⟨_, rfl⟩⟩
  | struck e e' queueName hmessage message => exact ⟨_, List.mem_cons_self, .inr ⟨_, rfl⟩⟩
  | delivered e e' e'' queueName hmessage => exact ⟨_, List.mem_cons_self, .inl rfl⟩

theorem stale_le (h : RecordTurn record s s') (hs : Sound since s) :
    s'.tables.stale since ≤ s.tables.stale since := by
  cases h with
  | unsent e message =>
    rw [tables_markOutboxFailed]
    exact le_rfl
  | struck e e' queueName hmessage message =>
    rw [tables_markOutboxFailed, tables_enqueueProcessingMessage]
    exact le_rfl
  | delivered e e' e'' queueName hmessage =>
    rw [tables_markOutboxCompleted, tables_setStatus, tables_enqueueProcessingMessage]
    exact Tables.stale_setIngestStatus_le ((hs.after _ e).time e')

theorem triesLeft_lt (h : RecordTurn record s s') (hs : Sound since s)
    (hselectable : s.tables.Selectable record.id record.ingestId) :
    s'.tables.triesLeft < s.tables.triesLeft := by
  have hclaimed := hselectable.claimedBy hs.keyed
  have hpending := hselectable.pending
  cases h with
  | unsent e message =>
    rw [tables_markOutboxFailed]
    exact Tables.triesLeft_markOutboxFailed_lt message hpending hclaimed
  | struck e e' queueName hmessage message =>
    rw [tables_markOutboxFailed, tables_enqueueProcessingMessage]
    exact Tables.triesLeft_markOutboxFailed_lt message hpending hclaimed
  | delivered e e' e'' queueName hmessage =>
    rw [tables_markOutboxCompleted, tables_setStatus, tables_enqueueProcessingMessage]
    exact Tables.triesLeft_delivered_lt hpending hclaimed

end RecordTurn

end LumenHorizon.Ingest
