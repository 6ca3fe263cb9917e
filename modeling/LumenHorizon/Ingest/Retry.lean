import LumenHorizon.Ingest.Handover

/-! # Failed rows

A row that is marked failed keeps the unique key of its granule: the insert of every later pass
finds it, and no recovery query asks for its status.
-/

namespace LumenHorizon.Ingest
open Foundation Shared Program IngestProgram

/-- The row records a failure that the pipeline classified as worth a retry. -/
def RetryEligible (row : IngestRow) : Prop :=
  ∃ failure : IngestFailureContext, failure.MarksFailed ∧ failure.retryEligible = true ∧
    row.errorMessage = some (truncateErrorMessage failure.databaseMessage)

/-- Replies that do not hand the row to a command. -/
def rowRely (row : IngestRow) : (c : IngestCall) → c.Reply → Prop
  | .insertDownloadingRow granule _, .ok (.created ingestId) =>
    ingestId ≠ row.id ∧ ¬ SameGranule granule row
  | .recoverableRawRows, .ok records => ∀ record ∈ records, record.id ≠ row.id
  | .pendingEnqueueOutbox, .ok records => ∀ record ∈ records, record.ingestId ≠ row.id
  | _, _ => True

/-- Calls that leave the row's status alone and do not download its granule. -/
def rowGuar (row : IngestRow) : IngestCall → Prop
  | .setStatus ingestId _ _ => ingestId ≠ row.id
  | .earthdataDownload granule => ¬ SameGranule granule row
  | _ => True

/-! ## A command that is not handed the row leaves it alone -/

section Under

variable {row : IngestRow}

theorem enqueueGranule_under (config : IngestConfig) (granule : GranuleCandidate)
    (blobPath : String) {ingestId : Uuid} (hid : ingestId ≠ row.id) (outboxId : Uuid) :
    (enqueueGranule config granule blobPath ingestId outboxId).Under (rowRely row) (rowGuar row) := by
  unfold enqueueGranule
  split
  · exact Under.call hid fun _ _ => trivial
  · refine Under.call trivial fun reply _ => ?_
    cases reply with
    | error error => exact Under.call hid fun _ _ => trivial
    | ok _ =>
      refine Under.call hid fun reply _ => ?_
      cases reply with
      | error error => trivial
      | ok _ =>
        refine Under.call trivial fun reply _ => ?_
        cases reply <;> trivial

theorem validateGranule_under (config : IngestConfig) (granule : GranuleCandidate)
    (blobPath : String) {ingestId : Uuid} (hid : ingestId ≠ row.id) :
    (validateGranule config granule blobPath ingestId).Under (rowRely row) (rowGuar row) := by
  refine Under.call hid fun reply _ => ?_
  cases reply with
  | error error => trivial
  | ok _ =>
    refine Under.call trivial fun reply _ => ?_
    cases reply with
    | error error => exact Under.call hid fun _ _ => trivial
    | ok outboxId => exact enqueueGranule_under config granule blobPath hid outboxId

theorem downloadGranule_under (config : IngestConfig) {granule : GranuleCandidate}
    (blobPath : String) {ingestId : Uuid} (hid : ingestId ≠ row.id)
    (hgranule : ¬ SameGranule granule row) :
    (downloadGranule config granule blobPath ingestId).Under (rowRely row) (rowGuar row) := by
  refine Under.call hgranule fun reply _ => ?_
  cases reply with
  | error error => exact Under.call hid fun _ _ => trivial
  | ok bytes =>
    refine Under.call trivial fun reply _ => ?_
    cases reply with
    | error error => exact Under.call hid fun _ _ => trivial
    | ok _ =>
      refine Under.call hid fun reply _ => ?_
      cases reply with
      | error error => trivial
      | ok _ =>
        cases validateRawGranuleBytes bytes with
        | error error => exact Under.call hid fun _ _ => trivial
        | ok _ => exact validateGranule_under config granule blobPath hid

theorem processGranule_under (config : IngestConfig) (granule : GranuleCandidate) :
    (processGranule config granule).Under (rowRely row) (rowGuar row) := by
  refine Under.call trivial fun reply hreply => ?_
  cases reply with
  | error error => trivial
  | ok outcome =>
    cases outcome with
    | created ingestId => exact downloadGranule_under config _ hreply.1 hreply.2
    | alreadyExists => trivial

theorem processGranules_under (config : IngestConfig) (granules : List GranuleCandidate)
    (summary : IngestSummary) :
    (processGranules config granules summary).Under (rowRely row) (rowGuar row) := by
  induction granules generalizing summary with
  | nil => trivial
  | cons granule granules ih =>
    exact Under.bind (processGranule_under config granule)
      fun outcome => ih (summary.recordAttempt outcome)

theorem ingestGranules_under (config : IngestConfig) (granules : List GranuleCandidate)
    (summary : IngestSummary) :
    (ingestGranules config granules summary).Under (rowRely row) (rowGuar row) := by
  refine Under.call trivial fun reply _ => ?_
  cases reply with
  | error error => trivial
  | ok _ =>
    refine Under.call trivial fun reply _ => ?_
    cases reply with
    | error error => trivial
    | ok _ =>
      refine Under.call trivial fun reply _ => ?_
      cases reply with
      | error error => trivial
      | ok _ =>
        change Under (rowRely row) (rowGuar row) (processGranules config granules summary >>= _)
        exact Under.bind (processGranules_under config granules summary) fun _ => trivial

theorem handsOther_of_rowRely {c : IngestCall} {reply : c.Reply} (h : rowRely row c reply) :
    HandsOther row.id c reply := by
  cases c with
  | recoverableRawRows => cases reply <;> exact h
  | pendingEnqueueOutbox => cases reply <;> exact h
  | _ => trivial

theorem rowGuar_of_leavesAlone {c : IngestCall} (h : LeavesAlone row.id c) : rowGuar row c := by
  cases c with
  | setStatus ingestId status errorMessage => exact fun hid => h.2 (congrArg some hid)
  | earthdataDownload granule => exact absurd trivial h.1
  | _ => trivial

theorem enqueuePendingOutbox_under (config : IngestConfig) (summary : RecoverySummary) :
    (enqueuePendingOutbox config summary).Under (rowRely row) (rowGuar row) :=
  (enqueuePendingOutbox_leavesAlone config summary).mono (fun _ _ => handsOther_of_rowRely)
    fun _ => rowGuar_of_leavesAlone

theorem runRecovery_under (config : IngestConfig) :
    (runRecovery config).Under (rowRely row) (rowGuar row) :=
  (runRecovery_leavesAlone config).mono (fun _ _ => handsOther_of_rowRely)
    fun _ => rowGuar_of_leavesAlone

theorem replayRejectedGranule_under (config : IngestConfig) (ingestId : Uuid) :
    (replayRejectedGranule config ingestId).Under (rowRely row) (rowGuar row) := by
  refine Under.bind ?_ fun outcome => ?_
  · refine Under.call trivial fun reply _ => ?_
    cases reply with
    | error error => trivial
    | ok updated =>
      change Under (rowRely row) (rowGuar row) (if updated = 0 then _ else _)
      split
      · trivial
      · refine Under.call trivial fun reply _ => ?_
        cases reply <;> trivial
  · cases outcome with
    | error error => trivial
    | ok replayed =>
      cases replayed with
      | false => trivial
      | true =>
        refine Under.call trivial fun reply _ => ?_
        cases reply with
        | error error => trivial
        | ok _ => exact enqueuePendingOutbox_under config _

theorem Command.program_under (command : Command) :
    command.program.Under (rowRely row) (rowGuar row) := by
  cases command with
  | ingest config granules =>
    exact Under.bind (ingestGranules_under config granules _) fun _ => trivial
  | recovery config => exact Under.bind (runRecovery_under config) fun _ => trivial
  | replay config ingestId =>
    exact Under.bind (replayRejectedGranule_under config ingestId) fun _ => trivial

end Under

/-! ## Ingest ids are unique -/

/-- The primary key of `ingest_log`, and ids not yet drawn are new. -/
structure FreshIds (w : IngestWorld) : Prop where
  nodup : (w.tables.ingestLog.map IngestRow.id).Nodup
  below : ∀ row ∈ w.tables.ingestLog, row.id < w.nextId

namespace FreshIds

variable {w : IngestWorld}

theorem of_map_id {t : Tables} {nextId : ℕ} {queues : List (String × ProcessingMessage)}
    (h : FreshIds w) (hid : t.ingestLog.map IngestRow.id = w.tables.ingestLog.map IngestRow.id)
    (hnext : w.nextId ≤ nextId) : FreshIds ⟨t, nextId, queues⟩ where
  nodup := by
    rw [hid]
    exact h.nodup
  below := by
    intro row hrow
    have hmem : row.id ∈ w.tables.ingestLog.map IngestRow.id := by
      rw [← hid]
      exact List.mem_map_of_mem hrow
    obtain ⟨old, hold, heq⟩ := List.mem_map.mp hmem
    exact heq ▸ (h.below old hold).trans_le hnext

theorem insertDownloadingRow (h : FreshIds w) (granule : GranuleCandidate) (blobPath : String)
    (now : ℕ) : FreshIds ⟨(w.tables.insertDownloadingRow granule blobPath w.nextId now).1,
      w.nextId + 1, w.queues⟩ := by
  unfold Tables.insertDownloadingRow
  split
  · exact h.of_map_id rfl (Nat.le_succ _)
  · constructor
    · simp only [List.map_append, List.map_cons, List.map_nil]
      refine List.nodup_append.mpr ⟨h.nodup, List.nodup_singleton _, ?_⟩
      intro id hid id' hid'
      obtain ⟨row, hrow, rfl⟩ := List.mem_map.mp hid
      rw [List.mem_singleton.mp hid']
      exact (h.below row hrow).ne
    · intro row hrow
      rcases List.mem_append.mp hrow with hrow | hrow
      · exact (h.below row hrow).trans (Nat.lt_succ_self _)
      · rw [List.mem_singleton.mp hrow]
        exact Nat.lt_succ_self _

theorem effect (h : FreshIds w) (now : ℕ) (c : IngestCall) : FreshIds (effect now w c) := by
  cases c with
  | insertDownloadingRow granule blobPath => exact h.insertDownloadingRow granule blobPath now
  | setStatus ingestId status errorMessage =>
    exact h.of_map_id (Table.map_update fun _ _ => rfl) le_rfl
  | replayRejectedStatus ingestId => exact h.of_map_id (Table.map_update fun _ _ => rfl) le_rfl
  | createPendingEnqueueOutbox ingestId reason =>
    refine h.of_map_id ?_ (Nat.le_succ _)
    rw [Tables.createPendingEnqueueOutbox_ingestLog]
  | _ => exact h.of_map_id rfl le_rfl

theorem answer (h : FreshIds w) (c : IngestCall) (e : Env) : FreshIds (answer c e w).1 := by
  by_cases hfailed : e.outcome = .failed
  · rw [answer_world_of_failed hfailed]
    exact h
  · rw [answer_world_of_applied hfailed]
    exact h.effect e.now c

theorem eq_of_id_eq (h : FreshIds w) {row row' : IngestRow} (hrow : row ∈ w.tables.ingestLog)
    (hrow' : row' ∈ w.tables.ingestLog) (hid : row.id = row'.id) : row = row' :=
  List.inj_on_of_nodup_map h.nodup hrow hrow' hid

end FreshIds

/-! ## A failed row stays -/

/-- The row is in the table, under its own id. -/
structure Holds (row : IngestRow) (w : IngestWorld) : Prop where
  fresh : FreshIds w
  mem : row ∈ w.tables.ingestLog

namespace Holds

variable {row : IngestRow} {w : IngestWorld}

theorem answer (h : Holds row w) (hfailed : row.status = .failed) {c : IngestCall}
    (hguar : rowGuar row c) (e : Env) : Holds row (answer c e w).1 where
  fresh := h.fresh.answer c e
  mem := by
    by_cases hno : e.outcome = .failed
    · rw [answer_world_of_failed hno]
      exact h.mem
    · rw [answer_world_of_applied hno]
      cases c with
      | insertDownloadingRow granule blobPath =>
        change row ∈ (w.tables.insertDownloadingRow granule blobPath w.nextId e.now).1.ingestLog
        unfold Tables.insertDownloadingRow
        split
        · exact h.mem
        · exact List.mem_append_left _ h.mem
      | setStatus ingestId status errorMessage =>
        exact Table.mem_update_of_not h.mem (Ne.symm hguar)
      | replayRejectedStatus ingestId =>
        refine Table.mem_update_of_not h.mem fun hmatch => ?_
        exact absurd (hfailed.symm.trans hmatch.2) (by decide)
      | createPendingEnqueueOutbox ingestId reason =>
        change row ∈ (w.tables.createPendingEnqueueOutbox ingestId reason w.nextId e.now).1.ingestLog
        rw [Tables.createPendingEnqueueOutbox_ingestLog]
        exact h.mem
      | _ => exact h.mem

theorem not_selected (h : Holds row w) (hfailed : row.status = .failed)
    {record : IngestRecoveryRecord} (hrecord : record ∈ w.tables.recoverableRawRows) :
    record.id ≠ row.id := by
  obtain ⟨selected, hmem, hselected, hrecoverable⟩ :=
    Tables.exists_of_mem_recoverableRawRows hrecord
  intro hid
  obtain rfl := h.fresh.eq_of_id_eq hmem h.mem (hselected.trans hid)
  rw [Recoverable, hfailed] at hrecoverable
  revert hrecoverable
  decide

theorem not_delivered (h : Holds row w) (hfailed : row.status = .failed)
    {record : PendingOutboxRecord} (hrecord : record ∈ w.tables.pendingEnqueueOutbox) :
    record.ingestId ≠ row.id := by
  obtain ⟨selected, hmem, hselected, hdeliverable⟩ :=
    Tables.exists_of_mem_pendingEnqueueOutbox hrecord
  intro hid
  obtain rfl := h.fresh.eq_of_id_eq hmem h.mem (hselected.trans hid)
  rw [Deliverable, hfailed] at hdeliverable
  revert hdeliverable
  decide

/-- Whatever the environment does, no reply hands a failed row to a command. -/
theorem reply (h : Holds row w) (hfailed : row.status = .failed) (c : IngestCall) (e : Env) :
    rowRely row c (Ingest.answer c e w).2 := by
  by_cases hok : e.outcome = .ok
  · rw [answer_reply_of_ok hok]
    cases c with
    | insertDownloadingRow granule blobPath =>
      simp only [result, Tables.insertDownloadingRow]
      split
      · trivial
      · next hnone =>
        exact ⟨(h.fresh.below row h.mem).ne', fun hsame => hnone ⟨row, h.mem, hsame⟩⟩
    | recoverableRawRows => exact fun record hrecord => h.not_selected hfailed hrecord
    | pendingEnqueueOutbox => exact fun record hrecord => h.not_delivered hfailed hrecord
    | _ => trivial
  · rw [answer_reply_of_error hok]
    cases c <;> trivial

end Holds

namespace IngestPool

variable {pool pool' : IngestPool} {row : IngestRow}

/-- A later run downloads the row's granule again, or reaches a state in which recovery selects
the row. -/
def Retried (pool : IngestPool) (row : IngestRow) : Prop :=
  ∃ later, Reaches step (fun _ event => Starts event) pool later ∧
    ((∃ granule, SameGranule granule row ∧ Pool.Pending later (.earthdataDownload granule)) ∨
      ∃ record ∈ later.world.tables.recoverableRawRows, record.id = row.id)

theorem freshIds_of_reaches (h : Reaches step (fun _ event => Starts event) empty pool) :
    FreshIds pool.world := by
  induction h with
  | start => exact ⟨List.nodup_nil, fun row hrow => nomatch hrow⟩
  | next _ _ hstep ih =>
    rcases Pool.step_cases hstep with
      ⟨p, rfl, rfl⟩ | ⟨i, e, c, next, rfl, hi, rfl⟩ | ⟨i, c, next, rfl, hi, rfl⟩
    · exact ih
    · exact ih.answer c e
    · exact ih

/-- The row is in the table and no live command holds it. -/
structure Dropped (row : IngestRow) (pool : IngestPool) : Prop where
  holds : Holds row pool.world
  free : ∀ p ∈ pool.procs, p.Under (rowRely row) (rowGuar row)

theorem dropped_of_quiescent (hfresh : FreshIds pool.world) (hquiet : Pool.Quiescent pool)
    (hrow : row ∈ pool.world.tables.ingestLog) : Dropped row pool where
  holds := ⟨hfresh, hrow⟩
  free := by
    intro p hp
    cases p with
    | done a => trivial
    | call c next => cases hquiet _ hp

theorem Dropped.step (hfailed : row.status = .failed) {event : IngestEvent}
    (h : Dropped row pool) (hstarts : Starts event) (hstep : pool.step event = some pool') :
    Dropped row pool' where
  holds := Pool.world_step hstep h.free h.holds fun _ e hguar => h.holds.answer hfailed hguar e
  free := by
    refine Pool.under_step hstep (fun p hp => ?_) (fun _ e c _ _ => h.holds.reply hfailed c e) h.free
    obtain ⟨command, rfl⟩ := hstarts p hp
    exact command.program_under

/-- A failed row that no live command holds is never picked up again. -/
theorem Dropped.not_retried (h : Dropped row pool) (hfailed : row.status = .failed) :
    ¬ pool.Retried row := by
  rintro ⟨later, hlater, hretried⟩
  have hdropped : Dropped row later := hlater.invariant h
    fun _ _ _ hinv hstarts hstep => hinv.step hfailed hstarts hstep
  rcases hretried with ⟨granule, hsame, i, hi⟩ | ⟨record, hrecord, hid⟩
  · obtain ⟨next, hp⟩ := Pool.nextCall_eq_some_iff.mp hi
    exact (hdropped.free _ (List.mem_of_getElem? hp)).1 hsame
  · exact hdropped.holds.not_selected hfailed hrecord hid

/-- Every row that failed for a reason worth a retry is retried by some later run. -/
def RetriesFailures (pool : IngestPool) : Prop :=
  ∀ row ∈ pool.world.tables.ingestLog, row.status = .failed → RetryEligible row → pool.Retried row

/-- After any history of commands, failures are retried only if there is none to retry. -/
theorem retriesFailures_iff
    (h : Reaches step (fun _ event => Starts event) empty pool) (hquiet : Pool.Quiescent pool) :
    pool.RetriesFailures ↔
      ∀ row ∈ pool.world.tables.ingestLog, row.status = .failed → ¬ RetryEligible row := by
  constructor
  · intro hretries row hrow hfailed hretry
    have hdropped := dropped_of_quiescent (freshIds_of_reaches h) hquiet hrow
    exact hdropped.not_retried hfailed (hretries row hrow hfailed hretry)
  · intro hnone row hrow hfailed hretry
    exact absurd hretry (hnone row hrow hfailed)

/-- The row of the sample granule after its download failed without a response. -/
def undownloadedRow : IngestRow where
  id := 0
  product := sampleGranule.product
  granuleTitle := sampleGranule.title
  blobPath := sampleGranule.rawBlobPath
  tileH := sampleGranule.tile.h
  tileV := sampleGranule.tile.v
  granuleDate := sampleGranule.granuleDate
  status := .failed
  errorMessage := some (truncateErrorMessage
    (IngestFailureContext.earthdataDownload (.request "connection reset")).databaseMessage)
  createdAt := 0
  updatedAt := 0

theorem retryEligible_undownloadedRow : RetryEligible undownloadedRow :=
  ⟨_, .download (.request "connection reset"), rfl, rfl⟩

/-- The table after the pass whose download failed. -/
def undownloadedPool : IngestPool := ⟨⟨⟨[undownloadedRow], []⟩, 1, []⟩, [.done ()]⟩

theorem quiescent_undownloadedPool : Pool.Quiescent undownloadedPool := by
  simp [Pool.Quiescent, undownloadedPool]

theorem reaches_undownloadedPool :
    Reaches step (fun _ event => Starts event) empty undownloadedPool := by
  refine reaches_of_runSteps [.spawn (Command.ingest sampleConfig [sampleGranule]).program,
    .act 0 (sampleEnv .ok), .act 0 (sampleEnv .ok), .act 0 (sampleEnv .ok),
    .act 0 (sampleEnv .ok), .act 0 (sampleEnv .failed), .act 0 (sampleEnv .ok)] ?_ rfl
  intro _ event hevent p hp
  subst hp
  exact ⟨_, by simpa using hevent⟩

/-- One connection reset, and the granule is never downloaded again. -/
theorem not_retriesFailures_undownloadedPool :
    ∃ pool, Reaches step (fun _ event => Starts event) empty pool ∧ Pool.Quiescent pool ∧
      ¬ pool.RetriesFailures := by
  refine ⟨_, reaches_undownloadedPool, quiescent_undownloadedPool, fun h => ?_⟩
  have hmem : undownloadedRow ∈ undownloadedPool.world.tables.ingestLog :=
    List.mem_singleton.mpr rfl
  have hdropped := dropped_of_quiescent (freshIds_of_reaches reaches_undownloadedPool)
    quiescent_undownloadedPool hmem
  exact hdropped.not_retried rfl (h _ hmem rfl retryEligible_undownloadedRow)

theorem retriesFailures_undownloadedPool_iff :
    undownloadedPool.RetriesFailures ↔
      ∀ row ∈ undownloadedPool.world.tables.ingestLog, row.status = .failed →
        ¬ RetryEligible row :=
  retriesFailures_iff reaches_undownloadedPool quiescent_undownloadedPool

end IngestPool
end LumenHorizon.Ingest
