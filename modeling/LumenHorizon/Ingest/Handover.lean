import LumenHorizon.Ingest.Commands

/-! # What recovery is handed and what it calls

Recovery learns of a row through its two queries only. Its loops call about the rows they are
given, and about no other.
-/

namespace LumenHorizon.Ingest
open Foundation Shared Program IngestProgram

/-- Replies that do not hand the row to recovery. -/
def HandsOther (ingestId : Uuid) : (c : IngestCall) → c.Reply → Prop
  | .recoverableRawRows, .ok records => ∀ record ∈ records, record.id ≠ ingestId
  | .pendingEnqueueOutbox, .ok records => ∀ record ∈ records, record.ingestId ≠ ingestId
  | _, _ => True

def TakesUp : IngestCall → Prop
  | .insertDownloadingRow _ _ => True
  | .earthdataDownload _ => True
  | _ => False

/-- The call is not about the row and takes up no granule. -/
def LeavesAlone (ingestId : Uuid) (c : IngestCall) : Prop :=
  ¬ TakesUp c ∧ c.ingestId? ≠ some ingestId

section Loops

variable {rely : (c : IngestCall) → c.Reply → Prop} {guar : IngestCall → Prop}

/-- The calls of the first loop: a download for each row, then what its bytes say of the row. -/
theorem recoverRows_calls {rows : List IngestRecoveryRecord}
    (hdownload : ∀ blobPath, guar (.downloadRawBlob blobPath))
    (hstatus : ∀ row ∈ rows, ∀ status errorMessage, status ≠ .enqueued →
      guar (.setStatus row.id status errorMessage))
    (hcreate : ∀ row ∈ rows, ∀ reason, guar (.createPendingEnqueueOutbox row.id reason))
    (summary : RecoverySummary) : (recoverRows rows summary).Under rely guar := by
  induction rows generalizing summary with
  | nil => trivial
  | cons row rows ih =>
    have hrow := hstatus row List.mem_cons_self
    have hrest := ih (fun r hr => hstatus r (List.mem_cons_of_mem _ hr))
      fun r hr => hcreate r (List.mem_cons_of_mem _ hr)
    refine Under.call (hdownload _) fun reply _ => ?_
    cases reply with
    | error error =>
      refine Under.call (hrow _ _ (by decide)) fun reply _ => ?_
      cases reply with
      | error error => trivial
      | ok _ => exact hrest _
    | ok bytes =>
      simp only [Program.andThen]
      cases validateRawGranuleBytes bytes with
      | error error =>
        refine Under.call (hrow _ _ (by decide)) fun reply _ => ?_
        cases reply with
        | error error => trivial
        | ok _ => exact hrest _
      | ok _ =>
        refine Under.call (hrow _ _ (by decide)) fun reply _ => ?_
        cases reply with
        | error error => trivial
        | ok _ =>
          refine Under.call (hcreate row List.mem_cons_self _) fun reply _ => ?_
          cases reply with
          | error error => trivial
          | ok _ => exact hrest _

/-- The calls of the second loop: for each record its message, and then that it was sent or not. -/
theorem enqueueRecords_calls (config : IngestConfig) {records : List PendingOutboxRecord}
    (hfailed : ∀ record ∈ records, ∀ errorMessage, guar (.markOutboxFailed record.id errorMessage))
    (hcompleted : ∀ record ∈ records, guar (.markOutboxCompleted record.id))
    (henqueue : ∀ record ∈ records, ∀ queueName (message : ProcessingMessage),
      message.ingestId = record.ingestId → guar (.enqueueProcessingMessage queueName message))
    (hmark : ∀ record ∈ records, guar (.setStatus record.ingestId .enqueued none))
    (summary : RecoverySummary) : (enqueueRecords config records summary).Under rely guar := by
  induction records generalizing summary with
  | nil => trivial
  | cons record records ih =>
    have hrest := ih (fun r hr => hfailed r (List.mem_cons_of_mem _ hr))
      (fun r hr => hcompleted r (List.mem_cons_of_mem _ hr))
      (fun r hr => henqueue r (List.mem_cons_of_mem _ hr))
      fun r hr => hmark r (List.mem_cons_of_mem _ hr)
    have hstrike := hfailed record List.mem_cons_self
    unfold enqueueRecords
    split
    · refine Under.call (hstrike _) fun reply _ => ?_
      cases reply with
      | error error => trivial
      | ok _ => exact hrest _
    · next message hmessage =>
      have hid := ProcessingMessage.new_ingestId hmessage
      refine Under.call (henqueue record List.mem_cons_self _ _ hid) fun reply _ => ?_
      cases reply with
      | error error =>
        refine Under.call (hstrike _) fun reply _ => ?_
        cases reply with
        | error error => trivial
        | ok _ => exact hrest _
      | ok _ =>
        refine Under.call (hmark record List.mem_cons_self) fun reply _ => ?_
        cases reply with
        | error error => trivial
        | ok _ =>
          refine Under.call (hcompleted record List.mem_cons_self) fun reply _ => ?_
          cases reply with
          | error error => trivial
          | ok _ => exact hrest _

/-- Recovery calls about the rows and records it is handed, and takes up no granule. -/
theorem enqueuePendingOutbox_calls (config : IngestConfig)
    (hfree : ∀ c, ¬ TakesUp c → c.ingestId? = none → guar c)
    (hrecords : ∀ records, rely .pendingEnqueueOutbox (.ok records) → ∀ record ∈ records,
      ∀ c, ¬ TakesUp c → c.ingestId? = some record.ingestId → guar c)
    (summary : RecoverySummary) : (enqueuePendingOutbox config summary).Under rely guar := by
  refine Under.call (hfree _ id rfl) fun reply hreply => ?_
  cases reply with
  | error error => trivial
  | ok records =>
    have hrecord := hrecords records hreply
    apply enqueueRecords_calls config
    · exact fun _ _ _ => hfree _ id rfl
    · exact fun _ _ => hfree _ id rfl
    · exact fun record hmem _ _ hid => hrecord record hmem _ id (congrArg some hid)
    · exact fun record hmem => hrecord record hmem _ id rfl

theorem runRecovery_calls (config : IngestConfig)
    (hfree : ∀ c, ¬ TakesUp c → c.ingestId? = none → guar c)
    (hrows : ∀ rows, rely .recoverableRawRows (.ok rows) → ∀ row ∈ rows,
      ∀ c, ¬ TakesUp c → c.ingestId? = some row.id → guar c)
    (hrecords : ∀ records, rely .pendingEnqueueOutbox (.ok records) → ∀ record ∈ records,
      ∀ c, ¬ TakesUp c → c.ingestId? = some record.ingestId → guar c) :
    (runRecovery config).Under rely guar := by
  refine Under.call (hfree _ id rfl) fun reply _ => ?_
  cases reply with
  | error error => trivial
  | ok _ =>
    refine Under.call (hfree _ id rfl) fun reply _ => ?_
    cases reply with
    | error error => trivial
    | ok _ =>
      refine Under.call (hfree _ id rfl) fun reply hreply => ?_
      cases reply with
      | error error => trivial
      | ok rows =>
        have hrow := hrows rows hreply
        change Under rely guar (recoverRows rows RecoverySummary.default >>= _)
        refine Under.bind (recoverRows_calls ?_ ?_ ?_ _) fun outcome => ?_
        · exact fun _ => hfree _ id rfl
        · exact fun row hmem _ _ _ => hrow row hmem _ id rfl
        · exact fun row hmem _ => hrow row hmem _ id rfl
        · cases outcome with
          | error error => trivial
          | ok summary => exact enqueuePendingOutbox_calls config hfree hrecords summary

end Loops

section LeavesAlone

variable {ingestId id : Uuid} {c : IngestCall}

theorem LeavesAlone.of_none (htakes : ¬ TakesUp c) (hid : c.ingestId? = none) :
    LeavesAlone ingestId c := by
  refine ⟨htakes, ?_⟩
  simp [hid]

theorem LeavesAlone.of_ne (hne : id ≠ ingestId) (htakes : ¬ TakesUp c)
    (hid : c.ingestId? = some id) : LeavesAlone ingestId c := by
  refine ⟨htakes, ?_⟩
  rw [hid]
  exact fun h => hne (Option.some.inj h)

theorem enqueuePendingOutbox_leavesAlone (config : IngestConfig) (summary : RecoverySummary) :
    (enqueuePendingOutbox config summary).Under (HandsOther ingestId) (LeavesAlone ingestId) := by
  apply enqueuePendingOutbox_calls config
  · exact fun _ => LeavesAlone.of_none
  · exact fun records hrecords record hmem _ => LeavesAlone.of_ne (hrecords record hmem)

theorem runRecovery_leavesAlone (config : IngestConfig) :
    (runRecovery config).Under (HandsOther ingestId) (LeavesAlone ingestId) := by
  apply runRecovery_calls config
  · exact fun _ => LeavesAlone.of_none
  · exact fun rows hrows row hmem _ => LeavesAlone.of_ne (hrows row hmem)
  · exact fun records hrecords record hmem _ => LeavesAlone.of_ne (hrecords record hmem)

end LeavesAlone

theorem Tables.exists_of_mem_recoverableRawRows {t : Tables} {record : IngestRecoveryRecord}
    (h : record ∈ t.recoverableRawRows) :
    ∃ row ∈ t.ingestLog, row.id = record.id ∧ Recoverable row := by
  obtain ⟨row, hrow, rfl⟩ := List.mem_map.mp h
  obtain ⟨hmem, hrecoverable⟩ := Table.mem_of_mem_select hrow
  exact ⟨row, hmem, rfl, hrecoverable⟩

theorem Tables.exists_of_mem_pendingEnqueueOutbox {t : Tables} {record : PendingOutboxRecord}
    (h : record ∈ t.pendingEnqueueOutbox) :
    ∃ row ∈ t.ingestLog, row.id = record.ingestId ∧ Deliverable row := by
  obtain ⟨pair, hpair, rfl⟩ := List.mem_map.mp h
  obtain ⟨hmem, -, -, hdeliverable⟩ := Table.mem_of_mem_select hpair
  exact ⟨pair.2, (List.mem_product.mp hmem).2, rfl, hdeliverable⟩

/-- A row that neither query asks for is not handed over, whatever the environment does. -/
theorem handsOther_answer {w : IngestWorld} {ingestId : Uuid}
    (h : ∀ row ∈ w.tables.ingestLog, row.id = ingestId → ¬ Recoverable row ∧ ¬ Deliverable row)
    (c : IngestCall) (e : Env) : HandsOther ingestId c (answer c e w).2 := by
  by_cases hok : e.outcome = .ok
  · rw [answer_reply_of_ok hok]
    cases c with
    | recoverableRawRows =>
      intro record hrecord hid
      obtain ⟨row, hrow, hrowId, hrecoverable⟩ :=
        Tables.exists_of_mem_recoverableRawRows hrecord
      exact (h row hrow (hrowId.trans hid)).1 hrecoverable
    | pendingEnqueueOutbox =>
      intro record hrecord hid
      obtain ⟨row, hrow, hrowId, hdeliverable⟩ :=
        Tables.exists_of_mem_pendingEnqueueOutbox hrecord
      exact (h row hrow (hrowId.trans hid)).2 hdeliverable
    | _ => trivial
  · rw [answer_reply_of_error hok]
    cases c <;> trivial

end LumenHorizon.Ingest
