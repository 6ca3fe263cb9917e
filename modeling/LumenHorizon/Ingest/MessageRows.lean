import LumenHorizon.Ingest.RowHistory

/-! # Rows and their messages

A command builds a message from a row that it inserted or was handed, and marks a row enqueued only
after its message is on a queue. Over a whole run the queues and the log therefore agree, however
the commands interleave and wherever they stop.
-/

namespace LumenHorizon.Ingest
open Foundation Shared Program IngestProgram

/-! ## The message of a row -/

def RowIdentity.message (identity : RowIdentity) : RawProcessingMessage where
  ingestId := identity.id
  blobPath := identity.blobPath
  product := identity.product
  granuleDate := identity.granuleDate
  tileH := identity.tileH
  tileV := identity.tileV

def PendingOutboxRecord.message (record : PendingOutboxRecord) : RawProcessingMessage where
  ingestId := record.ingestId
  blobPath := record.blobPath
  product := record.product
  granuleDate := record.granuleDate
  tileH := record.tileH
  tileV := record.tileV

def GranuleCandidate.message (granule : GranuleCandidate) (ingestId : Uuid) (blobPath : String) :
    RawProcessingMessage where
  ingestId := ingestId
  blobPath := blobPath
  product := granule.product
  granuleDate := granule.granuleDate
  tileH := granule.tile.h
  tileV := granule.tile.v

/-- The fields as a row keeps them. -/
def asStored (raw : RawProcessingMessage) : RawProcessingMessage :=
  { raw with granuleDate := raw.granuleDate.timestamptz }

theorem parse_eq_ok_iff {product : String} {kind : ProcessingProduct} :
    ProcessingProduct.parse product = .ok kind ↔ kind.asStr = product := by
  constructor
  · unfold ProcessingProduct.parse
    split_ifs with h₁ h₂ h₃ <;> intro h <;> cases h
    · exact h₁.symm
    · exact h₂.symm
    · exact h₃.symm
  · rintro rfl
    exact kind.parse_asStr

theorem toRaw_of_new {ingestId : Uuid} {blobPath product : String} {granuleDate : DateTime}
    {tileH tileV : ℤ} {message : ProcessingMessage}
    (h : ProcessingMessage.new ingestId blobPath product granuleDate tileH tileV = .ok message) :
    message.toRaw = ⟨ingestId, blobPath, product, granuleDate, tileH, tileV⟩ := by
  unfold ProcessingMessage.new at h
  split at h
  · split at h
    · cases h
    · next kind hkind =>
      split at h
      · cases h
      · split at h
        · cases h
          simp only [ProcessingMessage.toRaw, parse_eq_ok_iff.mp hkind]
        · cases h
  · cases h

theorem eq_of_toRaw_eq {message message' : ProcessingMessage} (h : message.toRaw = message'.toRaw) :
    message = message' := by
  obtain ⟨ingestId, blobPath, product, granuleDate, tileH, tileV, _, _⟩ := message
  obtain ⟨ingestId', blobPath', product', granuleDate', tileH', tileV', _, _⟩ := message'
  simp only [ProcessingMessage.toRaw, RawProcessingMessage.mk.injEq] at h
  obtain ⟨rfl, rfl, hproduct, rfl, rfl, rfl⟩ := h
  have hsame : product = product' := by
    cases product <;> cases product' <;> first | rfl | (revert hproduct; decide)
  rw [hsame]

/-! ## What a command calls about rows -/

section Programs

variable {t : IngestTranscript} {ingestId : Uuid} {raw : RawProcessingMessage}

/-- The fields are those of a row that the program inserted, or that a query handed to it. -/
def FromRow (raw : RawProcessingMessage) (t : IngestTranscript) : Prop :=
  (∃ granule blobPath ingestId,
    ⟨.insertDownloadingRow granule blobPath, .ok (.created ingestId)⟩ ∈ t ∧
      raw = granule.message ingestId blobPath) ∨
    ∃ records, ⟨.pendingEnqueueOutbox, .ok records⟩ ∈ t ∧ ∃ record ∈ records, raw = record.message

theorem FromRow.cons (h : FromRow raw t) (entry : Σ c : IngestCall, c.Reply) :
    FromRow raw (entry :: t) := by
  rcases h with ⟨granule, blobPath, ingestId, hmem, hraw⟩ | ⟨records, hmem, hrecord⟩
  · exact .inl ⟨granule, blobPath, ingestId, List.mem_cons_of_mem _ hmem, hraw⟩
  · exact .inr ⟨records, List.mem_cons_of_mem _ hmem, hrecord⟩

/-- The program put a message for the row on a queue. -/
def Announced (ingestId : Uuid) (t : IngestTranscript) : Prop :=
  ∃ queueName message, ⟨.enqueueProcessingMessage queueName message, .ok ()⟩ ∈ t ∧
    message.ingestId = ingestId

/-- Messages are of rows; a row is moved forward, and marked enqueued after its message. -/
def RowRule (t : IngestTranscript) : IngestCall → Prop
  | .enqueueProcessingMessage _ message => FromRow message.toRaw t
  | .setStatus ingestId status errorMessage =>
    SetsStage status errorMessage ∧ (status = .enqueued → Announced ingestId t)
  | _ => True

theorem setsStage_error {status : IngestStatus} (h : status.Unsuccessful) (errorMessage : String) :
    SetsStage status (some errorMessage) := by
  rcases h with rfl | rfl <;> simp [SetsStage, IngestStatus.Unsuccessful]

theorem rowRule_error {status : IngestStatus} (h : status.Unsuccessful) (errorMessage : String) :
    RowRule t (.setStatus ingestId status (some errorMessage)) := by
  refine ⟨setsStage_error h errorMessage, fun henqueued => ?_⟩
  rw [henqueued] at h
  exact absurd h (by decide)

theorem rowRule_failed (errorMessage : String) :
    RowRule t (.setStatus ingestId .failed (some errorMessage)) :=
  rowRule_error (.inl rfl) errorMessage

theorem rowRule_rejected (errorMessage : String) :
    RowRule t (.setStatus ingestId .rejected (some errorMessage)) :=
  rowRule_error (.inr rfl) errorMessage

/-- The program keeps to the rule, whatever the replies. -/
abbrev KeepsRows {α : Type} (p : IngestProgram α) (t : IngestTranscript) : Prop :=
  p.Meets (fun _ _ => True) RowRule (fun _ _ => True) t

theorem rowRule_downloaded : RowRule t (.setStatus ingestId .downloaded none) :=
  ⟨by simp [SetsStage, IngestStatus.Unsuccessful], fun h => by cases h⟩

theorem rowRule_validated : RowRule t (.setStatus ingestId .validated none) :=
  ⟨by simp [SetsStage, IngestStatus.Unsuccessful], fun h => by cases h⟩

theorem rowRule_recoveryPending : RowRule t (.setStatus ingestId .recoveryPending none) :=
  ⟨by simp [SetsStage, IngestStatus.Unsuccessful], fun h => by cases h⟩

theorem rowRule_enqueued (h : Announced ingestId t) :
    RowRule t (.setStatus ingestId .enqueued none) :=
  ⟨by simp [SetsStage, IngestStatus.Unsuccessful], fun _ => h⟩

theorem enqueueGranule_keepsRows (config : IngestConfig) (granule : GranuleCandidate)
    (blobPath : String) (outboxId : Uuid) (h : FromRow (granule.message ingestId blobPath) t) :
    KeepsRows (enqueueGranule config granule blobPath ingestId outboxId) t := by
  unfold enqueueGranule
  split
  · exact Meets.call (rowRule_failed _) fun _ _ => trivial
  · next message hmessage =>
    have hraw : message.toRaw = granule.message ingestId blobPath := toRaw_of_new hmessage
    have hrule : RowRule t (.enqueueProcessingMessage config.azureQueueName message) := by
      rw [RowRule, hraw]
      exact h
    refine Meets.call hrule fun reply _ => ?_
    cases reply with
    | error error => exact Meets.call (rowRule_failed _) fun _ _ => trivial
    | ok _ =>
      have hannounced : Announced ingestId
          (⟨.enqueueProcessingMessage config.azureQueueName message, .ok ()⟩ :: t) :=
        ⟨_, message, List.mem_cons_self, ProcessingMessage.new_ingestId hmessage⟩
      refine Meets.call (rowRule_enqueued hannounced) fun reply _ => ?_
      cases reply with
      | error error => trivial
      | ok _ =>
        refine Meets.call trivial fun reply _ => ?_
        cases reply <;> trivial

theorem validateGranule_keepsRows (config : IngestConfig) (granule : GranuleCandidate)
    (blobPath : String) (h : FromRow (granule.message ingestId blobPath) t) :
    KeepsRows (validateGranule config granule blobPath ingestId) t := by
  refine Meets.call rowRule_validated fun reply _ => ?_
  cases reply with
  | error error => trivial
  | ok _ =>
    refine Meets.call trivial fun reply _ => ?_
    cases reply with
    | error error => exact Meets.call (rowRule_failed _) fun _ _ => trivial
    | ok outboxId =>
      exact enqueueGranule_keepsRows config granule blobPath outboxId ((h.cons _).cons _)

theorem downloadGranule_keepsRows (config : IngestConfig) (granule : GranuleCandidate)
    (blobPath : String) (h : FromRow (granule.message ingestId blobPath) t) :
    KeepsRows (downloadGranule config granule blobPath ingestId) t := by
  refine Meets.call trivial fun reply _ => ?_
  cases reply with
  | error error => exact Meets.call (rowRule_failed _) fun _ _ => trivial
  | ok bytes =>
    refine Meets.call trivial fun reply _ => ?_
    cases reply with
    | error error => exact Meets.call (rowRule_failed _) fun _ _ => trivial
    | ok _ =>
      refine Meets.call rowRule_downloaded fun reply _ => ?_
      cases reply with
      | error error => trivial
      | ok _ =>
        cases validateRawGranuleBytes bytes with
        | error error => exact Meets.call (rowRule_rejected _) fun _ _ => trivial
        | ok _ => exact validateGranule_keepsRows config granule blobPath (((h.cons _).cons _).cons _)

theorem processGranules_keepsRows (config : IngestConfig) (granules : List GranuleCandidate)
    (summary : IngestSummary) (t : IngestTranscript) :
    KeepsRows (processGranules config granules summary) t := by
  induction granules generalizing summary t with
  | nil => trivial
  | cons granule granules ih =>
    have hgranule : KeepsRows (processGranule config granule) t := by
      refine Meets.call trivial fun reply _ => ?_
      cases reply with
      | error error => trivial
      | ok outcome =>
        cases outcome with
        | created ingestId =>
          apply downloadGranule_keepsRows
          exact .inl ⟨granule, granule.rawBlobPath, ingestId, List.mem_cons_self, rfl⟩
        | alreadyExists => trivial
    exact Meets.bind hgranule fun t' outcome _ => ih (summary.recordAttempt outcome) t'

theorem ingestGranules_keepsRows (config : IngestConfig) (granules : List GranuleCandidate)
    (summary : IngestSummary) (t : IngestTranscript) :
    KeepsRows (ingestGranules config granules summary) t := by
  refine Meets.call trivial fun reply _ => ?_
  cases reply with
  | error error => trivial
  | ok _ =>
    refine Meets.call trivial fun reply _ => ?_
    cases reply with
    | error error => trivial
    | ok _ =>
      refine Meets.call trivial fun reply _ => ?_
      cases reply with
      | error error => trivial
      | ok _ =>
        change KeepsRows (processGranules config granules summary >>= _) _
        exact Meets.bind (processGranules_keepsRows config granules summary _) fun _ _ _ => trivial

theorem recoverRows_keepsRows (rows : List IngestRecoveryRecord) (summary : RecoverySummary)
    (t : IngestTranscript) : KeepsRows (recoverRows rows summary) t := by
  induction rows generalizing summary t with
  | nil => trivial
  | cons row rows ih =>
    refine Meets.call trivial fun reply _ => ?_
    cases reply with
    | error error =>
      refine Meets.call rowRule_recoveryPending fun reply _ => ?_
      cases reply with
      | error error => trivial
      | ok _ => exact ih _ _
    | ok bytes =>
      simp only [Program.andThen]
      cases validateRawGranuleBytes bytes with
      | error error =>
        refine Meets.call (rowRule_rejected _) fun reply _ => ?_
        cases reply with
        | error error => trivial
        | ok _ => exact ih _ _
      | ok _ =>
        refine Meets.call rowRule_validated fun reply _ => ?_
        cases reply with
        | error error => trivial
        | ok _ =>
          refine Meets.call trivial fun reply _ => ?_
          cases reply with
          | error error => trivial
          | ok _ => exact ih _ _

theorem enqueueRecords_keepsRows (config : IngestConfig) (records : List PendingOutboxRecord)
    (summary : RecoverySummary) (t : IngestTranscript)
    (h : ∀ record ∈ records, FromRow record.message t) :
    KeepsRows (enqueueRecords config records summary) t := by
  induction records generalizing summary t with
  | nil => trivial
  | cons record records ih =>
    have hrest : ∀ other ∈ records, FromRow other.message t :=
      fun other hother => h other (List.mem_cons_of_mem _ hother)
    unfold enqueueRecords
    split
    · refine Meets.call trivial fun reply _ => ?_
      cases reply with
      | error error => trivial
      | ok _ => exact ih _ _ fun other hother => (hrest other hother).cons _
    · next message hmessage =>
      have hrule : RowRule t (.enqueueProcessingMessage config.azureQueueName message) := by
        rw [RowRule, toRaw_of_new hmessage]
        exact h record List.mem_cons_self
      refine Meets.call hrule fun reply _ => ?_
      cases reply with
      | error error =>
        refine Meets.call trivial fun reply _ => ?_
        cases reply with
        | error error => trivial
        | ok _ => exact ih _ _ fun other hother => ((hrest other hother).cons _).cons _
      | ok _ =>
        have hannounced : Announced record.ingestId
            (⟨.enqueueProcessingMessage config.azureQueueName message, .ok ()⟩ :: t) :=
          ⟨_, message, List.mem_cons_self, ProcessingMessage.new_ingestId hmessage⟩
        refine Meets.call (rowRule_enqueued hannounced) fun reply _ => ?_
        cases reply with
        | error error => trivial
        | ok _ =>
          refine Meets.call trivial fun reply _ => ?_
          cases reply with
          | error error => trivial
          | ok _ => exact ih _ _ fun other hother => (((hrest other hother).cons _).cons _).cons _

theorem enqueuePendingOutbox_keepsRows (config : IngestConfig) (summary : RecoverySummary)
    (t : IngestTranscript) : KeepsRows (enqueuePendingOutbox config summary) t := by
  refine Meets.call trivial fun reply _ => ?_
  cases reply with
  | error error => trivial
  | ok records =>
    apply enqueueRecords_keepsRows
    exact fun record hrecord => .inr ⟨records, List.mem_cons_self, record, hrecord, rfl⟩

theorem runRecovery_keepsRows (config : IngestConfig) (t : IngestTranscript) :
    KeepsRows (runRecovery config) t := by
  refine Meets.call trivial fun reply _ => ?_
  cases reply with
  | error error => trivial
  | ok _ =>
    refine Meets.call trivial fun reply _ => ?_
    cases reply with
    | error error => trivial
    | ok _ =>
      refine Meets.call trivial fun reply _ => ?_
      cases reply with
      | error error => trivial
      | ok rows =>
        change KeepsRows (recoverRows rows RecoverySummary.default >>= _) _
        refine Meets.bind (recoverRows_keepsRows rows _ _) fun t' outcome _ => ?_
        cases outcome with
        | error error => trivial
        | ok summary => exact enqueuePendingOutbox_keepsRows config summary t'

theorem replayRejectedGranule_keepsRows (config : IngestConfig) (ingestId : Uuid)
    (t : IngestTranscript) : KeepsRows (replayRejectedGranule config ingestId) t := by
  have hreplay : KeepsRows (replayRejected ingestId "operator_replay_rejected") t := by
    refine Meets.call trivial fun reply _ => ?_
    cases reply with
    | error error => trivial
    | ok updated =>
      change KeepsRows (if updated = 0 then _ else _) _
      split
      · trivial
      · refine Meets.call trivial fun reply _ => ?_
        cases reply <;> trivial
  refine Meets.bind hreplay fun t' outcome _ => ?_
  cases outcome with
  | error error => trivial
  | ok replayed =>
    cases replayed with
    | false => trivial
    | true =>
      refine Meets.call trivial fun reply _ => ?_
      cases reply with
      | error error => trivial
      | ok _ => exact enqueuePendingOutbox_keepsRows config _ _

theorem Command.keepsRows (command : Command) : KeepsRows command.program [] := by
  cases command with
  | ingest config granules =>
    exact Meets.bind (ingestGranules_keepsRows config granules _ []) fun _ _ _ => trivial
  | recovery config => exact Meets.bind (runRecovery_keepsRows config []) fun _ _ _ => trivial
  | replay config ingestId =>
    exact Meets.bind (replayRejectedGranule_keepsRows config ingestId []) fun _ _ _ => trivial

end Programs

/-! ## What a reply said of the rows -/

section Facts

variable {w w₀ : IngestWorld} {t : IngestTranscript} {c : IngestCall} {raw : RawProcessingMessage}

def HasMessageRow (w : IngestWorld) (raw : RawProcessingMessage) : Prop :=
  ∃ identity ∈ w.identities, asStored raw = asStored identity.message

def RowFact (w : IngestWorld) (_ : IngestTranscript) : (c : IngestCall) → c.Reply → Prop
  | .insertDownloadingRow granule blobPath, .ok (.created ingestId) =>
    HasMessageRow w (granule.message ingestId blobPath)
  | .pendingEnqueueOutbox, .ok records => ∀ record ∈ records, HasMessageRow w record.message
  | .enqueueProcessingMessage queueName message, .ok _ => (queueName, message) ∈ w.queues
  | _, _ => True

theorem HasMessageRow.effect (h : HasMessageRow w raw) (now : ℕ) (c : IngestCall) :
    HasMessageRow (effect now w c) raw := by
  obtain ⟨identity, hmem, hraw⟩ := h
  exact ⟨identity, mem_identities_effect hmem now c, hraw⟩

theorem mem_queues_effect {entry : String × ProcessingMessage} (h : entry ∈ w.queues) (now : ℕ)
    (c : IngestCall) : entry ∈ (effect now w c).queues := by
  obtain ⟨entries, hqueues⟩ := exists_append_queues_effect now w c
  rw [hqueues]
  exact List.mem_append_left _ h

theorem RowFact.effect {reply : c.Reply} (h : RowFact w t c reply) (now : ℕ) (c' : IngestCall) :
    RowFact (effect now w c') t c reply := by
  cases c with
  | insertDownloadingRow granule blobPath =>
    cases reply with
    | error error => trivial
    | ok outcome =>
      cases outcome with
      | created ingestId => exact HasMessageRow.effect h now c'
      | alreadyExists => trivial
  | pendingEnqueueOutbox =>
    cases reply with
    | error error => trivial
    | ok records => exact fun record hrecord => (h record hrecord).effect now c'
  | enqueueProcessingMessage queueName message =>
    cases reply with
    | error error => trivial
    | ok _ => exact mem_queues_effect h now c'
  | _ => trivial

/-- A record that is handed over carries the columns of its row. -/
theorem hasMessageRow_of_mem_pendingEnqueueOutbox {record : PendingOutboxRecord}
    (h : record ∈ w.tables.pendingEnqueueOutbox) : HasMessageRow w record.message := by
  obtain ⟨pair, hpair, rfl⟩ := List.mem_map.mp h
  obtain ⟨hmem, -⟩ := Table.mem_of_mem_select hpair
  exact ⟨_, List.mem_map_of_mem (List.mem_product.mp hmem).2, rfl⟩

theorem hasMessageRow_created {granule : GranuleCandidate} {blobPath : String} {ingestId : Uuid}
    {now : ℕ} (h : (w.tables.insertDownloadingRow granule blobPath w.nextId now).2 =
      .created ingestId) :
    HasMessageRow (effect now w (.insertDownloadingRow granule blobPath))
      (granule.message ingestId blobPath) := by
  rcases w.tables.insertDownloadingRow_cases granule blobPath w.nextId now with
    ⟨-, heq⟩ | ⟨-, heq⟩
  · rw [heq] at h
    cases h
  · rw [heq] at h
    cases h
    refine ⟨(downloadingRow granule blobPath w.nextId now).identity, ?_, ?_⟩
    · apply List.mem_map_of_mem
      rw [Ingest.effect, heq]
      exact List.mem_append_right _ (List.mem_singleton.mpr rfl)
    · simp [asStored, RowIdentity.message, GranuleCandidate.message, IngestRow.identity,
        downloadingRow]

theorem rowFact_answer (t : IngestTranscript) (c : IngestCall) (e : Env) (w : IngestWorld) :
    RowFact (answer c e w).1 t c (answer c e w).2 := by
  by_cases hok : e.outcome = .ok
  · rw [answer_of_ok hok]
    cases c with
    | insertDownloadingRow granule blobPath =>
      simp only [result]
      cases hreply : (w.tables.insertDownloadingRow granule blobPath w.nextId e.now).2 with
      | created ingestId => exact hasMessageRow_created hreply
      | alreadyExists => trivial
    | pendingEnqueueOutbox => exact fun record => hasMessageRow_of_mem_pendingEnqueueOutbox
    | enqueueProcessingMessage queueName message =>
      exact List.mem_append_right _ (List.mem_singleton.mpr rfl)
    | _ => trivial
  · rw [answer_reply_of_error hok]
    cases c <;> trivial

theorem hasMessageRow_of_fromRow (ht : Witnessed (RowFact w) t) (h : FromRow raw t) :
    HasMessageRow w raw := by
  rcases h with ⟨granule, blobPath, ingestId, hmem, rfl⟩ | ⟨records, hmem, record, hrecord, rfl⟩
  · obtain ⟨t', hfact⟩ := ht.of_mem hmem
    exact hfact
  · obtain ⟨t', hfact⟩ := ht.of_mem hmem
    exact hfact record hrecord

theorem exists_queued_of_announced {ingestId : Uuid} (ht : Witnessed (RowFact w) t)
    (h : Announced ingestId t) : ∃ entry ∈ w.queues, entry.2.ingestId = ingestId := by
  obtain ⟨queueName, message, hmem, hid⟩ := h
  obtain ⟨t', hfact⟩ := ht.of_mem hmem
  exact ⟨(queueName, message), hfact, hid⟩

end Facts

/-! ## What a call that keeps the rule preserves -/

section Sound

variable {w w₀ : IngestWorld} {c : IngestCall} {t : IngestTranscript}

structure RowsSound (w : IngestWorld) : Prop where
  fresh : FreshIds w
  granules : (w.identities.map RowIdentity.granuleKey).Nodup
  columns : ∀ row ∈ w.tables.ingestLog, row.StatusColumns
  dates : ∀ row ∈ w.tables.ingestLog, row.granuleDate.timestamptz = row.granuleDate
  outbox : ∀ record ∈ w.tables.outbox, w.tables.HasRow record.ingestId

/-- The log from one state to a later one: rows are only added, none changes what it is about, and
each goes through moves from its old status to its new one. -/
structure RowsHistory (w₀ w : IngestWorld) : Prop where
  identities : w₀.identities <+: w.identities
  moves : ∀ row ∈ w₀.tables.ingestLog, ∃ row' ∈ w.tables.ingestLog,
    row'.identity = row.identity ∧ Relation.ReflTransGen Moves row.status row'.status

/-- The queues and the log: a row keeps the fields of its messages, which therefore agree with one
another, and an enqueued row has one. -/
structure MessagesAgree (w : IngestWorld) : Prop where
  rowed : ∀ entry ∈ w.queues, ∃ row ∈ w.tables.ingestLog,
    asStored entry.2.toRaw = row.identity.message
  alike : ∀ entry ∈ w.queues, ∀ other ∈ w.queues, entry.2.ingestId = other.2.ingestId →
    asStored entry.2.toRaw = asStored other.2.toRaw
  copies : ∀ entry ∈ w.queues, ∀ other ∈ w.queues, entry.2.ingestId = other.2.ingestId →
    entry.2.granuleDate = other.2.granuleDate → entry.2 = other.2
  announced : ∀ row ∈ w.tables.ingestLog, row.status = .enqueued →
    ∃ entry ∈ w.queues, asStored entry.2.toRaw = row.identity.message

theorem setsStage_of_rule (hrule : RowRule t c) (ingestId : Uuid) (status : IngestStatus)
    (errorMessage : Option String) (hc : c = .setStatus ingestId status errorMessage) :
    SetsStage status errorMessage := by
  subst hc
  exact hrule.1

theorem RowsSound.effect (h : RowsSound w) (hrule : RowRule t c) (now : ℕ) :
    RowsSound (effect now w c) where
  fresh := h.fresh.effect now c
  granules := granuleKeys_nodup_effect h.granules now c
  columns := by
    intro row' hrow'
    rcases mem_ingestLog_effect hrow' with ⟨row, hrow, hstep⟩ | ⟨granule, blobPath, rfl, rfl⟩
    · exact hstep.statusColumns (setsStage_of_rule hrule) (h.columns row hrow)
    · simp [IngestRow.StatusColumns, IngestStatus.Unsuccessful, downloadingRow]
  dates := by
    intro row' hrow'
    rcases mem_ingestLog_effect hrow' with ⟨row, hrow, hstep⟩ | ⟨granule, blobPath, rfl, rfl⟩
    · have hdate : row'.granuleDate = row.granuleDate :=
        congrArg RowIdentity.granuleDate hstep.identity
      rw [hdate, h.dates row hrow]
    · exact DateTime.timestamptz_timestamptz _
  outbox := outbox_hasRow_effect h.outbox now c

theorem RowsHistory.refl (w : IngestWorld) : RowsHistory w w where
  identities := List.prefix_refl _
  moves := fun row hrow => ⟨row, hrow, rfl, .refl⟩

theorem RowsHistory.effect (h : RowsHistory w₀ w) (hrule : RowRule t c) (now : ℕ) :
    RowsHistory w₀ (effect now w c) where
  identities := h.identities.trans (identities_prefix_effect now w c)
  moves := by
    intro row hrow
    obtain ⟨between, hbetween, hidentity, hmoves⟩ := h.moves row hrow
    obtain ⟨row', hrow', hstep⟩ := exists_mem_ingestLog_effect hbetween now c
    refine ⟨row', hrow', hstep.identity.trans hidentity, ?_⟩
    exact hmoves.trans (hstep.moves (setsStage_of_rule hrule))

theorem RowsSound.asStored_message (h : RowsSound w) {row : IngestRow}
    (hrow : row ∈ w.tables.ingestLog) : asStored row.identity.message = row.identity.message := by
  have hdate : row.identity.granuleDate.timestamptz = row.identity.granuleDate := h.dates row hrow
  simp only [asStored, RowIdentity.message, hdate]

/-- Two messages of rows with one id are of the same row. -/
theorem RowsSound.asStored_eq (h : RowsSound w) {raw raw' : RawProcessingMessage}
    (hraw : HasMessageRow w raw) (hraw' : HasMessageRow w raw')
    (hid : raw.ingestId = raw'.ingestId) : asStored raw = asStored raw' := by
  obtain ⟨identity, hmem, heq⟩ := hraw
  obtain ⟨identity', hmem', heq'⟩ := hraw'
  obtain ⟨row, hrow, rfl⟩ := mem_identities_iff.mp hmem
  obtain ⟨row', hrow', rfl⟩ := mem_identities_iff.mp hmem'
  have hrowId : raw.ingestId = row.id := congrArg RawProcessingMessage.ingestId heq
  have hrowId' : raw'.ingestId = row'.id := congrArg RawProcessingMessage.ingestId heq'
  rw [heq, heq', h.fresh.eq_of_id_eq hrow hrow' (hrowId.symm.trans (hid.trans hrowId'))]

/-- What a run keeps of the queues; that messages agree follows from it. -/
structure QueuesSound (w : IngestWorld) : Prop where
  rowed : ∀ entry ∈ w.queues, HasMessageRow w entry.2.toRaw
  announced : ∀ row ∈ w.tables.ingestLog, row.status = .enqueued →
    ∃ entry ∈ w.queues, entry.2.ingestId = row.id

theorem QueuesSound.messagesAgree (h : QueuesSound w) (hrows : RowsSound w) : MessagesAgree w where
  rowed := by
    intro entry hentry
    obtain ⟨identity, hmem, hraw⟩ := h.rowed entry hentry
    obtain ⟨row, hrow, rfl⟩ := mem_identities_iff.mp hmem
    exact ⟨row, hrow, hraw.trans (hrows.asStored_message hrow)⟩
  alike := by
    intro entry hentry other hother hid
    exact hrows.asStored_eq (h.rowed entry hentry) (h.rowed other hother) hid
  copies := by
    intro entry hentry other hother hid hdate
    have halike := hrows.asStored_eq (h.rowed entry hentry) (h.rowed other hother) hid
    apply eq_of_toRaw_eq
    simp only [asStored, RawProcessingMessage.mk.injEq] at halike
    obtain ⟨hingestId, hblobPath, hproduct, -, htileH, htileV⟩ := halike
    exact (RawProcessingMessage.mk.injEq ..).mpr
      ⟨hingestId, hblobPath, hproduct, hdate, htileH, htileV⟩
  announced := by
    intro row hrow hstatus
    obtain ⟨entry, hentry, hid⟩ := h.announced row hrow hstatus
    refine ⟨entry, hentry, ?_⟩
    rw [← hrows.asStored_message hrow]
    exact hrows.asStored_eq (h.rowed entry hentry)
      ⟨row.identity, List.mem_map_of_mem hrow, rfl⟩ hid

theorem QueuesSound.effect (h : QueuesSound w) (hrule : RowRule t c)
    (ht : Witnessed (RowFact w) t) (now : ℕ) : QueuesSound (effect now w c) where
  rowed := by
    intro entry hentry
    have hold (hmem : entry ∈ w.queues) : HasMessageRow (Ingest.effect now w c) entry.2.toRaw :=
      (h.rowed entry hmem).effect now c
    cases c with
    | enqueueProcessingMessage queueName message =>
      rcases List.mem_append.mp hentry with hmem | hmem
      · exact hold hmem
      · rw [List.mem_singleton.mp hmem]
        exact (hasMessageRow_of_fromRow ht hrule).effect now _
    | _ => exact hold hentry
  announced := by
    intro row' hrow' hstatus
    rcases mem_ingestLog_effect hrow' with ⟨row, hrow, hstep⟩ | ⟨granule, blobPath, rfl, rfl⟩
    · have hid : row'.id = row.id := congrArg RowIdentity.id hstep.identity
      rw [hid]
      rcases hstep.status_enqueued hstatus with hbefore | ⟨errorMessage, rfl⟩
      · obtain ⟨entry, hentry, hmessage⟩ := h.announced row hrow hbefore
        exact ⟨entry, mem_queues_effect hentry now c, hmessage⟩
      · obtain ⟨entry, hentry, hmessage⟩ := exists_queued_of_announced ht (hrule.2 rfl)
        exact ⟨entry, mem_queues_effect hentry now _, hmessage⟩
    · cases hstatus

end Sound

/-! ## Runs -/

namespace IngestPool

variable {w₀ : IngestWorld} {pool pool' : IngestPool} {event : IngestEvent}

/-- What every run of commands keeps of rows and messages since `w₀`. -/
structure RowsInvariant (w₀ : IngestWorld) (pool : IngestPool) : Prop where
  vouched : ∀ p ∈ pool.procs, p.next? ≠ none →
    Pool.Vouched (fun p => ∃ command : Command, p = command.program) RowFact pool.world p
  rows : RowsSound pool.world
  history : RowsHistory w₀ pool.world
  queues : QueuesSound pool.world

theorem rowsInvariant_empty : RowsInvariant empty.world empty where
  vouched := fun _ h => absurd h List.not_mem_nil
  rows := {
    fresh := ⟨List.nodup_nil, fun _ h => absurd h List.not_mem_nil⟩
    granules := List.nodup_nil
    columns := fun _ h => absurd h List.not_mem_nil
    dates := fun _ h => absurd h List.not_mem_nil
    outbox := fun _ h => absurd h List.not_mem_nil }
  history := .refl _
  queues := ⟨fun _ h => absurd h List.not_mem_nil, fun _ h => absurd h List.not_mem_nil⟩

theorem RowsInvariant.restart (h : pool.RowsInvariant w₀) : pool.RowsInvariant pool.world :=
  { h with history := .refl _ }

theorem RowsInvariant.step (h : pool.RowsInvariant w₀) (hstarts : Starts event)
    (hstep : pool.step event = some pool') : pool'.RowsInvariant w₀ := by
  have hvouched : ∀ p ∈ pool'.procs, p.next? ≠ none →
      Pool.Vouched (fun p => ∃ command : Command, p = command.program) RowFact pool'.world p := by
    apply Pool.vouched_step hstep hstarts _ h.vouched
    intro p₀ t c next e _ _ _
    refine ⟨rowFact_answer t c e pool.world, fun t' c' reply hfact => ?_⟩
    by_cases hfailed : e.outcome = .failed
    · rw [answer_world_of_failed hfailed]
      exact hfact
    · rw [answer_world_of_applied hfailed]
      exact hfact.effect e.now c
  rcases Pool.step_cases hstep with
    ⟨p, rfl, rfl⟩ | ⟨i, e, c, next, rfl, hi, rfl⟩ | ⟨i, c, next, rfl, hi, rfl⟩
  · exact { h with vouched := hvouched }
  · -- the command kept to the rule up to this call
    obtain ⟨p₀, t, ⟨command, rfl⟩, hfollows, ht⟩ :=
      h.vouched _ (List.mem_of_getElem? hi) (by simp)
    have hmeets := command.keepsRows.of_follows hfollows fun _ _ => trivial
    rw [List.append_nil] at hmeets
    have hrule := hmeets.1
    by_cases hfailed : e.outcome = .failed
    · have hworld := answer_world_of_failed (c := c) hfailed pool.world
      refine ⟨hvouched, ?_, ?_, ?_⟩ <;> simp only [hworld]
      · exact h.rows
      · exact h.history
      · exact h.queues
    · have hworld := answer_world_of_applied (c := c) hfailed pool.world
      refine ⟨hvouched, ?_, ?_, ?_⟩ <;> simp only [hworld]
      · exact h.rows.effect hrule e.now
      · exact h.history.effect hrule e.now
      · exact h.queues.effect hrule ht e.now
  · exact { h with vouched := hvouched }

theorem RowsInvariant.run {later : IngestPool} (h : pool.RowsInvariant w₀)
    (hrun : Reaches IngestPool.step (fun _ event => Starts event) pool later) :
    later.RowsInvariant w₀ :=
  hrun.invariant h fun _ _ _ hinv hstarts hstep => hinv.step hstarts hstep

/-- In every run of commands the log keeps its keys and its columns in each state, and its rows from
each state to every later one. -/
theorem ingestRows_of_run (pool : IngestPool)
    (h : Reaches step (fun _ event => Starts event) empty pool) :
    RowsSound pool.world ∧ ∀ later, Reaches step (fun _ event => Starts event) pool later →
      RowsHistory pool.world later.world := by
  have hinv := rowsInvariant_empty.run h
  exact ⟨hinv.rows, fun later hlater => (hinv.restart.run hlater).history⟩

/-- In every run of commands a row keeps the fields of each queued message, the messages of one row
agree as it keeps them, and every enqueued row has its message on a queue. -/
theorem messagesAgree_of_run (pool : IngestPool)
    (h : Reaches step (fun _ event => Starts event) empty pool) : MessagesAgree pool.world := by
  have hinv := rowsInvariant_empty.run h
  exact hinv.queues.messagesAgree hinv.rows

/-- A granule whose time a row does not keep to the nanosecond. -/
def fineGranule : GranuleCandidate :=
  { contractGranule with
    granuleDate := { year := 2024, month := 5, day := 21, nanoOfDay := 123456789 } }

def passEvents (calls : ℕ) : List IngestEvent :=
  .spawn (Command.ingest sampleConfig [fineGranule]).program ::
    actsOk (List.replicate calls 0)

theorem starts_of_mem_passEvents {calls : ℕ} (h : event ∈ passEvents calls) : Starts event := by
  rintro p rfl
  rcases List.mem_cons.mp h with h | h
  · exact ⟨_, PoolEvent.spawn.inj h⟩
  · simp [actsOk] at h

/-- A pass that has put its message on the queue and marked its row. -/
theorem messagesAgree_pass : ∃ pool : IngestPool, MessagesAgree pool.world ∧
    pool.world.queues.map (fun entry => entry.2.granuleDate.nanoOfDay) = [123456789] ∧
    pool.world.tables.ingestLog.map (fun row => row.granuleDate.nanoOfDay) = [123456000] ∧
    pool.world.tables.HasStatus 0 .enqueued := by
  have hrun : ∃ pool, Reaches step (fun _ event => Starts event) empty pool ∧
      decide (pool.world.queues.map (fun entry => entry.2.granuleDate.nanoOfDay) = [123456789] ∧
        pool.world.tables.ingestLog.map (fun row => row.granuleDate.nanoOfDay) = [123456000] ∧
        pool.world.tables.HasStatus 0 .enqueued) = true := by
    apply exists_reaches_of_runSteps (passEvents 11)
    · exact fun _ _ => starts_of_mem_passEvents
    · decide +kernel
  obtain ⟨pool, hpool, htest⟩ := hrun
  exact ⟨pool, messagesAgree_of_run pool hpool, of_decide_eq_true htest⟩

/-- The row of a granule while it is downloaded, and after its pass. -/
theorem ingestRows_pass : ∃ pool later : IngestPool, RowsSound pool.world ∧
    RowsHistory pool.world later.world ∧ pool.world.tables.HasStatus 0 .downloading ∧
      later.world.tables.HasStatus 0 .enqueued := by
  have hrun : ∃ pool, Reaches step (fun _ event => Starts event) empty pool ∧
      (decide (pool.world.tables.HasStatus 0 .downloading) &&
        (runSteps step pool (actsOk (List.replicate 7 0))).any fun later =>
          decide (later.world.tables.HasStatus 0 .enqueued)) = true := by
    apply exists_reaches_of_runSteps (passEvents 4)
    · exact fun _ _ => starts_of_mem_passEvents
    · decide +kernel
  obtain ⟨pool, hpool, htest⟩ := hrun
  obtain ⟨hdownloading, hrest⟩ := Bool.and_eq_true_iff.mp htest
  have hlater : ∃ later, Reaches step (fun _ event => Starts event) pool later ∧
      decide (later.world.tables.HasStatus 0 .enqueued) = true := by
    apply exists_reaches_of_runSteps (actsOk (List.replicate 7 0)) _ hrest
    rintro _ _ hevent p rfl
    simp [actsOk] at hevent
  obtain ⟨later, hlater, hstatus⟩ := hlater
  obtain ⟨hsound, hhistory⟩ := ingestRows_of_run pool hpool
  exact ⟨pool, later, hsound, hhistory later hlater, of_decide_eq_true hdownloading,
    of_decide_eq_true hstatus⟩

end IngestPool

end LumenHorizon.Ingest
