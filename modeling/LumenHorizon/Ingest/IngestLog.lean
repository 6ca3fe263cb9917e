import LumenHorizon.Foundation.Table
import LumenHorizon.Ingest.Failures

/-! # The ingest tables and their statements

`ingest_log` and `ingest_recovery_outbox`, each statement as a function on them. A statement
that takes effect and one whose reply arrives are different things; here is only the effect.
-/

namespace LumenHorizon.Ingest
open Foundation Shared

/-- `ingest_log`; the times are kept in microseconds. -/
structure IngestRow where
  id : Uuid
  product : String
  granuleTitle : String
  blobPath : String
  tileH : ℤ
  tileV : ℤ
  granuleDate : DateTime
  status : IngestStatus
  errorMessage : Option String
  createdAt : ℕ
  updatedAt : ℕ
deriving DecidableEq, Repr

inductive OutboxStatus where
  | pending
  | completed
  | failed
deriving DecidableEq, Repr

/-- `ingest_recovery_outbox`; `enqueue_processing` is the only operation its check allows. -/
structure OutboxRow where
  id : Uuid
  ingestId : Uuid
  status : OutboxStatus
  reason : String
  attempts : ℕ
  errorMessage : Option String
  createdAt : ℕ
  updatedAt : ℕ
  completedAt : Option ℕ
deriving DecidableEq, Repr

structure Tables where
  ingestLog : List IngestRow
  outbox : List OutboxRow
deriving DecidableEq, Repr

def outboxMaxAttempts : ℕ := 3

/-- `LIMIT 100` of both recovery queries. -/
def recoveryBatchLimit : ℕ := 100

inductive InsertDownloadingRowOutcome where
  | created (ingestId : Uuid)
  | alreadyExists
deriving DecidableEq, Repr

/-- The columns of `uq_ingest_log_product_tile_date`. -/
def SameGranule (granule : GranuleCandidate) (row : IngestRow) : Prop :=
  row.product = granule.product ∧ row.tileH = granule.tile.h ∧ row.tileV = granule.tile.v ∧
    row.granuleDate = granule.granuleDate.timestamptz

instance (granule : GranuleCandidate) (row : IngestRow) : Decidable (SameGranule granule row) :=
  inferInstanceAs (Decidable (_ ∧ _))

def Tables.insertDownloadingRow (t : Tables) (granule : GranuleCandidate) (blobPath : String)
    (ingestId : Uuid) (now : ℕ) : Tables × InsertDownloadingRowOutcome :=
  if ∃ row ∈ t.ingestLog, SameGranule granule row then (t, .alreadyExists)
  else
    let row : IngestRow := {
      id := ingestId
      product := granule.product
      granuleTitle := granule.title
      blobPath := blobPath
      tileH := granule.tile.h
      tileV := granule.tile.v
      granuleDate := granule.granuleDate.timestamptz
      status := .downloading
      errorMessage := none
      createdAt := now
      updatedAt := now }
    ({ t with ingestLog := t.ingestLog ++ [row] }, .created ingestId)

/-- `UPDATE ingest_log SET status, error_message, updated_at WHERE id`, which both
`mark_success_status` and `mark_failed_status` run. -/
def Tables.setIngestStatus (t : Tables) (ingestId : Uuid) (status : IngestStatus)
    (errorMessage : Option String) (now : ℕ) : Tables :=
  { t with
    ingestLog := Table.update (fun row => row.id = ingestId)
      (fun row => { row with status := status, errorMessage := errorMessage, updatedAt := now })
      t.ingestLog }

structure IngestRecoveryRecord where
  id : Uuid
  blobPath : String
  status : IngestStatus
deriving DecidableEq, Repr

structure PendingOutboxRecord where
  id : Uuid
  ingestId : Uuid
  product : String
  blobPath : String
  granuleDate : DateTime
  tileH : ℤ
  tileV : ℤ
deriving DecidableEq, Repr

/-- The statuses `recoverable_raw_rows` asks for. -/
def Recoverable (row : IngestRow) : Prop :=
  row.status = .downloading ∨ row.status = .downloaded ∨ row.status = .recoveryPending

instance (row : IngestRow) : Decidable (Recoverable row) := inferInstanceAs (Decidable (_ ∨ _))

def Tables.recoverableRawRows (t : Tables) : List IngestRecoveryRecord :=
  (Table.select Recoverable
    (fun a b => a.updatedAt < b.updatedAt ∨ (a.updatedAt = b.updatedAt ∧ a.createdAt ≤ b.createdAt))
    recoveryBatchLimit t.ingestLog).map
      fun row => { id := row.id, blobPath := row.blobPath, status := row.status }

def Pending (record : OutboxRow) : Prop := record.status = .pending

instance (record : OutboxRow) : Decidable (Pending record) := inferInstanceAs (Decidable (_ = _))

/-- The insert of `create_pending_enqueue_outbox`: the partial unique index turns it into an
update of the row's pending record, and the foreign key refuses a row that is not there. -/
def Tables.createPendingEnqueueOutbox (t : Tables) (ingestId : Uuid) (reason : String)
    (outboxId : Uuid) (now : ℕ) : Tables × Except DbError Uuid :=
  match t.outbox.find? fun record => record.ingestId = ingestId ∧ Pending record with
  | some existing =>
    ({ t with
        outbox := Table.update (fun record => record.ingestId = ingestId ∧ Pending record)
          (fun record => { record with reason := reason, updatedAt := now, errorMessage := none })
          t.outbox },
      .ok existing.id)
  | none =>
    if ∃ row ∈ t.ingestLog, row.id = ingestId then
      let record : OutboxRow := {
        id := outboxId
        ingestId := ingestId
        status := .pending
        reason := reason
        attempts := 0
        errorMessage := none
        createdAt := now
        updatedAt := now
        completedAt := none }
      ({ t with outbox := t.outbox ++ [record] }, .ok outboxId)
    else
      (t, .error ⟨"insert or update on table \"ingest_recovery_outbox\" violates foreign key constraint"⟩)

/-- The statuses of an ingest row that `pending_enqueue_outbox` asks for. -/
def Deliverable (row : IngestRow) : Prop :=
  row.status = .validated ∨ row.status = .replayPending

instance (row : IngestRow) : Decidable (Deliverable row) := inferInstanceAs (Decidable (_ ∨ _))

/-- The joined rows `pending_enqueue_outbox` asks for, before order and limit. -/
def DeliverablePair (pair : OutboxRow × IngestRow) : Prop :=
  pair.2.id = pair.1.ingestId ∧ Pending pair.1 ∧ Deliverable pair.2

instance (pair : OutboxRow × IngestRow) : Decidable (DeliverablePair pair) :=
  inferInstanceAs (Decidable (_ ∧ _))

def Tables.pendingEnqueueOutbox (t : Tables) : List PendingOutboxRecord :=
  (Table.select DeliverablePair (fun a b => a.1.createdAt ≤ b.1.createdAt) recoveryBatchLimit
    (t.outbox ×ˢ t.ingestLog)).map fun pair => {
      id := pair.1.id
      ingestId := pair.2.id
      product := pair.2.product
      blobPath := pair.2.blobPath
      granuleDate := pair.2.granuleDate
      tileH := pair.2.tileH
      tileV := pair.2.tileV }

def Tables.markOutboxCompleted (t : Tables) (outboxId : Uuid) (now : ℕ) : Tables :=
  { t with
    outbox := Table.update (fun record => record.id = outboxId)
      (fun record => { record with
        status := .completed
        errorMessage := none
        completedAt := some now
        updatedAt := now })
      t.outbox }

def Tables.markOutboxFailed (t : Tables) (outboxId : Uuid) (errorMessage : String) (now : ℕ) :
    Tables :=
  { t with
    outbox := Table.update (fun record => record.id = outboxId)
      (fun record => { record with
        attempts := record.attempts + 1
        status := if outboxMaxAttempts ≤ record.attempts + 1 then .failed else record.status
        errorMessage := some (truncateErrorMessage errorMessage)
        completedAt := if outboxMaxAttempts ≤ record.attempts + 1 then some now
          else record.completedAt
        updatedAt := now })
      t.outbox }

/-- The update of `replay_rejected`, with the number of rows it affected. -/
def Tables.replayRejectedStatus (t : Tables) (ingestId : Uuid) (now : ℕ) : Tables × ℕ :=
  ({ t with
      ingestLog := Table.update (fun row => row.id = ingestId ∧ row.status = .rejected)
        (fun row => { row with status := .replayPending, errorMessage := none, updatedAt := now })
        t.ingestLog },
    (t.ingestLog.filter fun row => row.id = ingestId ∧ row.status = .rejected).length)

/-- `get_discovery_resume_points_for_products`: the latest granule date of a product's rows that
are neither failed nor rejected. -/
def Tables.resumePoint (t : Tables) (product : String) : Option DateTime :=
  ((t.ingestLog.filter fun row =>
    row.product = product ∧ row.status ≠ .failed ∧ row.status ≠ .rejected).map
      IngestRow.granuleDate).max?

namespace Tables

def HasStatus (t : Tables) (ingestId : Uuid) (status : IngestStatus) : Prop :=
  ∃ row ∈ t.ingestLog, row.id = ingestId ∧ row.status = status

def HasPending (t : Tables) (ingestId : Uuid) : Prop :=
  ∃ record ∈ t.outbox, record.ingestId = ingestId ∧ Pending record

theorem HasPending.of_outbox_eq {t t' : Tables} {ingestId : Uuid} (h : t.HasPending ingestId)
    (houtbox : t'.outbox = t.outbox) : t'.HasPending ingestId := by
  rw [HasPending, houtbox]
  exact h

variable {t : Tables} {ingestId outboxId id : Uuid} {status s : IngestStatus} {now : ℕ}

@[simp] theorem insertDownloadingRow_outbox (granule : GranuleCandidate) (blobPath : String) :
    (t.insertDownloadingRow granule blobPath ingestId now).1.outbox = t.outbox := by
  unfold insertDownloadingRow
  split <;> rfl

@[simp] theorem createPendingEnqueueOutbox_ingestLog (reason : String) :
    (t.createPendingEnqueueOutbox ingestId reason outboxId now).1.ingestLog = t.ingestLog := by
  unfold createPendingEnqueueOutbox
  split
  · rfl
  · split <;> rfl

@[simp] theorem setIngestStatus_outbox (errorMessage : Option String) :
    (t.setIngestStatus ingestId status errorMessage now).outbox = t.outbox := rfl

@[simp] theorem replayRejectedStatus_outbox :
    (t.replayRejectedStatus ingestId now).1.outbox = t.outbox := rfl

@[simp] theorem markOutboxCompleted_ingestLog :
    (t.markOutboxCompleted outboxId now).ingestLog = t.ingestLog := rfl

@[simp] theorem markOutboxFailed_ingestLog (errorMessage : String) :
    (t.markOutboxFailed outboxId errorMessage now).ingestLog = t.ingestLog := rfl

theorem hasStatus_insertDownloadingRow {granule : GranuleCandidate} {blobPath : String} :
    (t.insertDownloadingRow granule blobPath ingestId now).1.HasStatus id s →
      t.HasStatus id s ∨ s = .downloading := by
  unfold insertDownloadingRow HasStatus
  split
  · exact .inl
  · rintro ⟨row, hrow, hid, hs⟩
    rcases List.mem_append.mp hrow with hrow | hrow
    · exact .inl ⟨row, hrow, hid, hs⟩
    · rw [List.mem_singleton.mp hrow] at hs
      exact .inr hs.symm

theorem HasStatus.insertDownloadingRow (h : t.HasStatus id s) (granule : GranuleCandidate)
    (blobPath : String) :
    (t.insertDownloadingRow granule blobPath ingestId now).1.HasStatus id s := by
  obtain ⟨row, hrow, hid, hs⟩ := h
  unfold Tables.insertDownloadingRow
  split
  · exact ⟨row, hrow, hid, hs⟩
  · exact ⟨row, List.mem_append_left _ hrow, hid, hs⟩

theorem hasStatus_setIngestStatus_iff (errorMessage : Option String) :
    (t.setIngestStatus ingestId status errorMessage now).HasStatus id s ↔
      (id = ingestId ∧ s = status ∧ ∃ row ∈ t.ingestLog, row.id = ingestId) ∨
        (id ≠ ingestId ∧ t.HasStatus id s) := by
  simp only [HasStatus, setIngestStatus, Table.mem_update]
  constructor
  · rintro ⟨row, ⟨old, hold, ⟨heq, rfl⟩ | ⟨hne, rfl⟩⟩, rfl, rfl⟩
    · exact .inl ⟨heq, rfl, old, hold, heq⟩
    · exact .inr ⟨hne, row, hold, rfl, rfl⟩
  · rintro (⟨rfl, rfl, old, hold, heq⟩ | ⟨hne, row, hrow, rfl, rfl⟩)
    · exact ⟨_, ⟨old, hold, .inl ⟨heq, rfl⟩⟩, heq, rfl⟩
    · exact ⟨row, ⟨row, hrow, .inr ⟨hne, rfl⟩⟩, rfl, rfl⟩

theorem hasStatus_replayRejectedStatus :
    (t.replayRejectedStatus ingestId now).1.HasStatus id s →
      t.HasStatus id s ∨ s = .replayPending := by
  simp only [HasStatus, replayRejectedStatus, Table.mem_update]
  rintro ⟨row, ⟨old, hold, ⟨-, rfl⟩ | ⟨-, rfl⟩⟩, hid, hs⟩
  · exact .inr hs.symm
  · exact .inl ⟨row, hold, hid, hs⟩

theorem HasStatus.replayRejectedStatus (h : t.HasStatus id s) (hs : s ≠ .rejected) :
    (t.replayRejectedStatus ingestId now).1.HasStatus id s := by
  obtain ⟨row, hrow, hid, rfl⟩ := h
  exact ⟨row, Table.mem_update_of_not hrow fun h => hs h.2, hid, rfl⟩

/-- A pending record of one row survives an insert for any row. -/
theorem HasPending.createPendingEnqueueOutbox (h : t.HasPending id) (reason : String) :
    (t.createPendingEnqueueOutbox ingestId reason outboxId now).1.HasPending id := by
  obtain ⟨record, hrecord, hid, hp⟩ := h
  unfold Tables.createPendingEnqueueOutbox
  split
  · by_cases hmatch : record.ingestId = ingestId ∧ Pending record
    · exact ⟨_, Table.mem_update_of hrecord hmatch, hid, hp⟩
    · exact ⟨record, Table.mem_update_of_not hrecord hmatch, hid, hp⟩
  · split
    · exact ⟨record, List.mem_append_left _ hrecord, hid, hp⟩
    · exact ⟨record, hrecord, hid, hp⟩

/-- After the insert the row has a pending record, if there is a row. -/
theorem hasPending_createPendingEnqueueOutbox (hrow : ∃ row ∈ t.ingestLog, row.id = ingestId)
    (reason : String) :
    (t.createPendingEnqueueOutbox ingestId reason outboxId now).1.HasPending ingestId := by
  cases hfind : t.outbox.find? fun record => record.ingestId = ingestId ∧ Pending record with
  | some existing =>
    have hmatch := List.find?_some hfind
    simp only [decide_eq_true_eq] at hmatch
    exact HasPending.createPendingEnqueueOutbox
      ⟨existing, List.mem_of_find?_eq_some hfind, hmatch⟩ reason
  | none =>
    unfold createPendingEnqueueOutbox
    rw [hfind]
    simp only [hrow, if_true]
    exact ⟨_, List.mem_append_right _ (List.mem_singleton.mpr rfl), rfl, rfl⟩

/-- A pending record after the insert is the row's own or was pending before. -/
theorem pending_createPendingEnqueueOutbox {reason : String} {record : OutboxRow}
    (hmem : record ∈ (t.createPendingEnqueueOutbox ingestId reason outboxId now).1.outbox)
    (hp : Pending record) :
    record.ingestId = ingestId ∨ record ∈ t.outbox := by
  unfold createPendingEnqueueOutbox at hmem
  split at hmem
  · obtain ⟨old, hold, ⟨hmatch, rfl⟩ | ⟨-, rfl⟩⟩ := Table.mem_update.mp hmem
    · exact .inl hmatch.1
    · exact .inr hold
  · split at hmem
    · rcases List.mem_append.mp hmem with h | h
      · exact .inr h
      · rw [List.mem_singleton.mp h]
        exact .inl rfl
    · exact .inr hmem

theorem HasPending.markOutboxCompleted (h : t.HasPending id) :
    (t.markOutboxCompleted outboxId now).HasPending id ∨
      ∃ record ∈ t.outbox, record.id = outboxId ∧ record.ingestId = id ∧ Pending record := by
  obtain ⟨record, hrecord, hid, hp⟩ := h
  by_cases hmatch : record.id = outboxId
  · exact .inr ⟨record, hrecord, hmatch, hid, hp⟩
  · exact .inl ⟨record, Table.mem_update_of_not hrecord hmatch, hid, hp⟩

/-- Only the strike that exhausts the attempts ends a pending record. -/
theorem HasPending.markOutboxFailed (h : t.HasPending id) (errorMessage : String) :
    (t.markOutboxFailed outboxId errorMessage now).HasPending id ∨
      ∃ record ∈ t.outbox, record.id = outboxId ∧ record.ingestId = id ∧ Pending record ∧
        outboxMaxAttempts ≤ record.attempts + 1 := by
  obtain ⟨record, hrecord, hid, hp⟩ := h
  by_cases hmatch : record.id = outboxId
  · by_cases hlast : outboxMaxAttempts ≤ record.attempts + 1
    · exact .inr ⟨record, hrecord, hmatch, hid, hp, hlast⟩
    · refine .inl ⟨_, Table.mem_update_of hrecord hmatch, hid, ?_⟩
      simpa [Pending, hlast] using hp
  · exact .inl ⟨record, Table.mem_update_of_not hrecord hmatch, hid, hp⟩

end Tables
end LumenHorizon.Ingest
