import LumenHorizon.Ingest.Overlap
import LumenHorizon.Ingest.Stranding

/-! # The life of an outbox record

A record is created pending, struck by every attempt that fails, and completed by the one that
enqueues its message. The updates find it by its id alone, so what holds of a record over a whole
run depends on the status in which each of them finds it.
-/

namespace LumenHorizon.Ingest
open Foundation Shared Program IngestProgram

/-- The statuses in which a record is done with. -/
def Terminal (record : OutboxRow) : Prop := record.status = .completed ∨ record.status = .failed

instance (record : OutboxRow) : Decidable (Terminal record) := inferInstanceAs (Decidable (_ ∨ _))

/-- What one call that takes effect makes of a record. -/
inductive RecordStep (now : ℕ) : IngestCall → OutboxRow → OutboxRow → Prop
  | kept (c : IngestCall) (record : OutboxRow) : RecordStep now c record record
  | recycled (record : OutboxRow) (reason : String) (pending : Pending record) :
      RecordStep now (.createPendingEnqueueOutbox record.ingestId reason) record
        { record with reason := reason, updatedAt := now, errorMessage := none }
  | completed (record : OutboxRow) :
      RecordStep now (.markOutboxCompleted record.id) record
        { record with
          status := .completed
          errorMessage := none
          completedAt := some now
          updatedAt := now }
  | struck (record : OutboxRow) (errorMessage : String) :
      RecordStep now (.markOutboxFailed record.id errorMessage) record
        { record with
          attempts := record.attempts + 1
          status := if outboxMaxAttempts ≤ record.attempts + 1 then .failed else record.status
          errorMessage := some (truncateErrorMessage errorMessage)
          completedAt := if outboxMaxAttempts ≤ record.attempts + 1 then some now
            else record.completedAt
          updatedAt := now }

namespace RecordStep

variable {now : ℕ} {c : IngestCall} {record record' : OutboxRow}

theorem id (h : RecordStep now c record record') : record'.id = record.id := by
  cases h <;> rfl

theorem ingestId (h : RecordStep now c record record') : record'.ingestId = record.ingestId := by
  cases h <;> rfl

theorem pending (h : RecordStep now c record record') (hp : Pending record') : Pending record := by
  cases h with
  | kept => exact hp
  | recycled _ reason hpending => exact hpending
  | completed => cases hp
  | struck _ errorMessage =>
    simp only [Pending] at hp
    split at hp
    · cases hp
    · exact hp

/-- The time of completion and a terminal status come together. -/
theorem completedAt (h : RecordStep now c record record')
    (hrecord : record.completedAt.isSome ↔ Terminal record) :
    record'.completedAt.isSome ↔ Terminal record' := by
  cases h with
  | kept => exact hrecord
  | recycled _ reason hp => exact hrecord
  | completed => simp [Terminal]
  | struck _ errorMessage =>
    by_cases hlast : outboxMaxAttempts ≤ record.attempts + 1
    · simp [Terminal, hlast]
    · simpa [Terminal, hlast] using hrecord

theorem status_completed (h : RecordStep now c record record')
    (hstatus : record'.status = .completed) :
    record.status = .completed ∨ c = .markOutboxCompleted record.id := by
  cases h with
  | kept => exact .inl hstatus
  | recycled _ reason hp => exact .inl hstatus
  | completed => exact .inr rfl
  | struck _ errorMessage =>
    simp only at hstatus
    split at hstatus
    · cases hstatus
    · exact .inl hstatus

end RecordStep

/-- The record that `create_pending_enqueue_outbox` inserts. -/
def pendingRecord (outboxId ingestId : Uuid) (reason : String) (now : ℕ) : OutboxRow where
  id := outboxId
  ingestId := ingestId
  status := .pending
  reason := reason
  attempts := 0
  errorMessage := none
  createdAt := now
  updatedAt := now
  completedAt := none

theorem Tables.createPendingEnqueueOutbox_cases (t : Tables) (ingestId : Uuid) (reason : String)
    (outboxId : Uuid) (now : ℕ) :
    (∃ existing ∈ t.outbox, existing.ingestId = ingestId ∧ Pending existing ∧
      t.createPendingEnqueueOutbox ingestId reason outboxId now =
        ({ t with
            outbox := Table.update (fun record => record.ingestId = ingestId ∧ Pending record)
              (fun record => { record with reason := reason, updatedAt := now, errorMessage := none })
              t.outbox },
          .ok existing.id)) ∨
    (¬ t.HasPending ingestId ∧ t.createPendingEnqueueOutbox ingestId reason outboxId now =
      ({ t with outbox := t.outbox ++ [pendingRecord outboxId ingestId reason now] },
        .ok outboxId)) ∨
    ((¬ ∃ row ∈ t.ingestLog, row.id = ingestId) ∧
      ∃ error, t.createPendingEnqueueOutbox ingestId reason outboxId now = (t, .error error)) := by
  cases hfind : t.outbox.find? fun record => record.ingestId = ingestId ∧ Pending record with
  | some existing =>
    have hmatch := List.find?_some hfind
    simp only [decide_eq_true_eq] at hmatch
    refine .inl ⟨existing, List.mem_of_find?_eq_some hfind, hmatch.1, hmatch.2, ?_⟩
    rw [createPendingEnqueueOutbox, hfind]
  | none =>
    have hnone : ¬ t.HasPending ingestId := by
      rintro ⟨record, hrecord, hmatch⟩
      exact absurd (decide_eq_true hmatch) (List.find?_eq_none.mp hfind record hrecord)
    rw [createPendingEnqueueOutbox, hfind]
    by_cases hrow : ∃ row ∈ t.ingestLog, row.id = ingestId
    · exact .inr (.inl ⟨hnone, by rw [if_pos hrow]; rfl⟩)
    · exact .inr (.inr ⟨hrow, _, by rw [if_neg hrow]⟩)

section Effect

variable {w : IngestWorld} {c : IngestCall} {now : ℕ} {record' : OutboxRow}

/-- A record after a call was there before, or is the one the call created. -/
theorem mem_outbox_effect (h : record' ∈ (effect now w c).tables.outbox) :
    (∃ record ∈ w.tables.outbox, RecordStep now c record record') ∨
      ∃ ingestId reason, c = .createPendingEnqueueOutbox ingestId reason ∧
        ¬ w.tables.HasPending ingestId ∧
        record' = pendingRecord w.nextId ingestId reason now := by
  cases c with
  | insertDownloadingRow granule blobPath =>
    simp only [effect, Tables.insertDownloadingRow_outbox] at h
    exact .inl ⟨record', h, .kept _ _⟩
  | createPendingEnqueueOutbox ingestId reason =>
    simp only [effect] at h
    rcases w.tables.createPendingEnqueueOutbox_cases ingestId reason w.nextId now with
      ⟨existing, -, -, -, heq⟩ | ⟨hnone, heq⟩ | ⟨-, error, heq⟩
    · rw [heq] at h
      obtain ⟨record, hrecord, ⟨⟨rfl, hp⟩, rfl⟩ | ⟨-, rfl⟩⟩ := Table.mem_update.mp h
      · exact .inl ⟨record, hrecord, .recycled record reason hp⟩
      · exact .inl ⟨record', hrecord, .kept _ _⟩
    · rw [heq] at h
      rcases List.mem_append.mp h with h | h
      · exact .inl ⟨record', h, .kept _ _⟩
      · exact .inr ⟨ingestId, reason, rfl, hnone, List.mem_singleton.mp h⟩
    · rw [heq] at h
      exact .inl ⟨record', h, .kept _ _⟩
  | markOutboxCompleted outboxId =>
    obtain ⟨record, hrecord, ⟨rfl, rfl⟩ | ⟨-, rfl⟩⟩ := Table.mem_update.mp h
    · exact .inl ⟨record, hrecord, .completed record⟩
    · exact .inl ⟨record', hrecord, .kept _ _⟩
  | markOutboxFailed outboxId errorMessage =>
    obtain ⟨record, hrecord, ⟨rfl, rfl⟩ | ⟨-, rfl⟩⟩ := Table.mem_update.mp h
    · exact .inl ⟨record, hrecord, .struck record errorMessage⟩
    · exact .inl ⟨record', hrecord, .kept _ _⟩
  | _ => exact .inl ⟨record', h, .kept _ _⟩

theorem exists_mem_outbox_effect {record : OutboxRow} (h : record ∈ w.tables.outbox)
    (now : ℕ) (c : IngestCall) :
    ∃ record' ∈ (effect now w c).tables.outbox, RecordStep now c record record' := by
  cases c with
  | insertDownloadingRow granule blobPath =>
    refine ⟨record, ?_, .kept _ _⟩
    simpa only [effect, Tables.insertDownloadingRow_outbox] using h
  | createPendingEnqueueOutbox ingestId reason =>
    simp only [effect]
    rcases w.tables.createPendingEnqueueOutbox_cases ingestId reason w.nextId now with
      ⟨existing, -, -, -, heq⟩ | ⟨-, heq⟩ | ⟨-, error, heq⟩
    · rw [heq]
      by_cases hmatch : record.ingestId = ingestId ∧ Pending record
      · obtain ⟨rfl, hp⟩ := hmatch
        exact ⟨_, Table.mem_update_of h ⟨rfl, hp⟩, .recycled record reason hp⟩
      · exact ⟨record, Table.mem_update_of_not h hmatch, .kept _ _⟩
    · rw [heq]
      exact ⟨record, List.mem_append_left _ h, .kept _ _⟩
    · rw [heq]
      exact ⟨record, h, .kept _ _⟩
  | markOutboxCompleted outboxId =>
    by_cases hmatch : record.id = outboxId
    · subst hmatch
      exact ⟨_, Table.mem_update_of h rfl, .completed record⟩
    · exact ⟨record, Table.mem_update_of_not h hmatch, .kept _ _⟩
  | markOutboxFailed outboxId errorMessage =>
    by_cases hmatch : record.id = outboxId
    · subst hmatch
      exact ⟨_, Table.mem_update_of h rfl, .struck record errorMessage⟩
    · exact ⟨record, Table.mem_update_of_not h hmatch, .kept _ _⟩
  | _ => exact ⟨record, h, .kept _ _⟩

end Effect

/-! ## The keys of the table -/

/-- The primary key of `ingest_recovery_outbox`, and ids not yet drawn are new. -/
structure OutboxKeys (w : IngestWorld) : Prop where
  nodup : (w.tables.outbox.map OutboxRow.id).Nodup
  below : ∀ record ∈ w.tables.outbox, record.id < w.nextId

def Tables.pendingIngestIds (t : Tables) : List Uuid :=
  (t.outbox.filter fun record => Pending record).map OutboxRow.ingestId

theorem Tables.mem_pendingIngestIds_iff {t : Tables} {ingestId : Uuid} :
    ingestId ∈ t.pendingIngestIds ↔ t.HasPending ingestId := by
  simp only [pendingIngestIds, HasPending, List.mem_map, List.mem_filter, decide_eq_true_eq]
  constructor
  · rintro ⟨record, ⟨hrecord, hp⟩, hid⟩
    exact ⟨record, hrecord, hid, hp⟩
  · rintro ⟨record, hrecord, hid, hp⟩
    exact ⟨record, ⟨hrecord, hp⟩, hid⟩

section Keys

variable {w : IngestWorld} {record record' : OutboxRow}

theorem OutboxKeys.eq_of_id_eq (h : OutboxKeys w) (hrecord : record ∈ w.tables.outbox)
    (hrecord' : record' ∈ w.tables.outbox) (hid : record.id = record'.id) : record = record' :=
  List.inj_on_of_nodup_map h.nodup hrecord hrecord' hid

theorem nextId_le_effect (now : ℕ) (w : IngestWorld) (c : IngestCall) :
    w.nextId ≤ (effect now w c).nextId := by
  cases c <;> simp [effect]

theorem map_id_effect (now : ℕ) (w : IngestWorld) (c : IngestCall) :
    (effect now w c).tables.outbox.map OutboxRow.id = w.tables.outbox.map OutboxRow.id ∨
      ((effect now w c).tables.outbox.map OutboxRow.id =
          w.tables.outbox.map OutboxRow.id ++ [w.nextId] ∧
        (effect now w c).nextId = w.nextId + 1) := by
  cases c with
  | insertDownloadingRow granule blobPath => simp [effect]
  | createPendingEnqueueOutbox ingestId reason =>
    simp only [effect]
    rcases w.tables.createPendingEnqueueOutbox_cases ingestId reason w.nextId now with
      ⟨existing, -, -, -, heq⟩ | ⟨-, heq⟩ | ⟨-, error, heq⟩
    · rw [heq]
      exact .inl (Table.map_update fun _ _ => rfl)
    · rw [heq]
      simp [pendingRecord]
    · rw [heq]
      exact .inl rfl
  | markOutboxCompleted outboxId => exact .inl (Table.map_update fun _ _ => rfl)
  | markOutboxFailed outboxId errorMessage => exact .inl (Table.map_update fun _ _ => rfl)
  | _ => exact .inl rfl

theorem OutboxKeys.effect (h : OutboxKeys w) (now : ℕ) (c : IngestCall) :
    OutboxKeys (effect now w c) := by
  have hbelow : ∀ id ∈ w.tables.outbox.map OutboxRow.id, id < w.nextId := by
    intro id hid
    obtain ⟨record, hrecord, rfl⟩ := List.mem_map.mp hid
    exact h.below record hrecord
  have hnext := nextId_le_effect now w c
  rcases map_id_effect now w c with hids | ⟨hids, hnew⟩
  · constructor
    · rw [hids]
      exact h.nodup
    · intro record hrecord
      have hmem := List.mem_map_of_mem (f := OutboxRow.id) hrecord
      rw [hids] at hmem
      exact (hbelow _ hmem).trans_le hnext
  · constructor
    · rw [hids]
      apply List.nodup_append.mpr
      refine ⟨h.nodup, List.nodup_singleton _, fun id hid id' hid' => ?_⟩
      rw [List.mem_singleton.mp hid']
      exact (hbelow id hid).ne
    · intro record hrecord
      have hmem := List.mem_map_of_mem (f := OutboxRow.id) hrecord
      rw [hids] at hmem
      rw [hnew]
      rcases List.mem_append.mp hmem with hmem | hmem
      · exact (hbelow _ hmem).trans (Nat.lt_succ_self _)
      · rw [List.mem_singleton.mp hmem]
        exact Nat.lt_succ_self _

theorem pendingIngestIds_nodup_effect (h : w.tables.pendingIngestIds.Nodup) (now : ℕ)
    (c : IngestCall) : (effect now w c).tables.pendingIngestIds.Nodup := by
  cases c with
  | insertDownloadingRow granule blobPath =>
    simpa only [Tables.pendingIngestIds, effect, Tables.insertDownloadingRow_outbox] using h
  | createPendingEnqueueOutbox ingestId reason =>
    simp only [effect]
    rcases w.tables.createPendingEnqueueOutbox_cases ingestId reason w.nextId now with
      ⟨existing, -, -, -, heq⟩ | ⟨hnone, heq⟩ | ⟨-, error, heq⟩
    · rw [heq]
      apply List.Nodup.sublist _ h
      exact Table.filter_update_sublist (fun _ hmatch _ => hmatch.2) fun _ _ => rfl
    · rw [heq]
      have hmem := mt Tables.mem_pendingIngestIds_iff.mp hnone
      have hnew : Pending (pendingRecord w.nextId ingestId reason now) := rfl
      simp only [Tables.pendingIngestIds, List.filter_append, List.map_append]
      rw [List.filter_cons_of_pos (by simpa using hnew)]
      apply List.nodup_append.mpr
      refine ⟨h, List.nodup_singleton _, fun id hid id' hid' => ?_⟩
      rw [List.mem_singleton.mp hid']
      rintro rfl
      exact hmem hid
    · rw [heq]
      exact h
  | markOutboxCompleted outboxId =>
    apply List.Nodup.sublist _ h
    refine Table.filter_update_sublist (fun record _ hp => ?_) fun _ _ => rfl
    cases hp
  | markOutboxFailed outboxId errorMessage =>
    apply List.Nodup.sublist _ h
    refine Table.filter_update_sublist (fun record _ hp => ?_) fun _ _ => rfl
    simp only [Pending] at hp ⊢
    split at hp
    · cases hp
    · exact hp
  | _ => exact h

end Keys

/-! ## A completion comes after the message -/

section Programs

variable {t : IngestTranscript} {outboxId ingestId : Uuid}

/-- The program was told, by the record's creation or by a query, which row the record is of. -/
def Told (outboxId ingestId : Uuid) (t : IngestTranscript) : Prop :=
  (∃ reason, ⟨.createPendingEnqueueOutbox ingestId reason, .ok outboxId⟩ ∈ t) ∨
    ∃ records, ⟨.pendingEnqueueOutbox, .ok records⟩ ∈ t ∧
      ∃ record ∈ records, record.id = outboxId ∧ record.ingestId = ingestId

theorem Told.cons (h : Told outboxId ingestId t) (entry : Σ c : IngestCall, c.Reply) :
    Told outboxId ingestId (entry :: t) := by
  rcases h with ⟨reason, h⟩ | ⟨records, h, hrecord⟩
  · exact .inl ⟨reason, List.mem_cons_of_mem _ h⟩
  · exact .inr ⟨records, List.mem_cons_of_mem _ h, hrecord⟩

/-- A message for the record's row went out after the program was told of the record. -/
def SentFor (outboxId : Uuid) (t : IngestTranscript) : Prop :=
  ∃ t₁ t₂ queueName message, t = t₁ ++ ⟨.enqueueProcessingMessage queueName message, .ok ()⟩ :: t₂ ∧
    Told outboxId message.ingestId t₂

/-- A record is completed only once its message is sent. -/
def SendsFirst (t : IngestTranscript) (c : IngestCall) : Prop :=
  ∀ outboxId, c = .markOutboxCompleted outboxId → SentFor outboxId t

theorem sendsFirst_of_ne {c : IngestCall} (h : ∀ outboxId, c ≠ .markOutboxCompleted outboxId) :
    SendsFirst t c :=
  fun outboxId hc => absurd hc (h outboxId)

/-- The program completes no record before its message is sent, whatever the replies. -/
abbrev AlwaysSendsFirst {α : Type} (p : IngestProgram α) (t : IngestTranscript) : Prop :=
  p.Meets (fun _ _ => True) SendsFirst (fun _ _ => True) t

theorem enqueueGranule_sendsFirst (config : IngestConfig) (granule : GranuleCandidate)
    (blobPath : String) (h : Told outboxId ingestId t) :
    AlwaysSendsFirst (enqueueGranule config granule blobPath ingestId outboxId) t := by
  unfold enqueueGranule
  split
  · exact Meets.call (sendsFirst_of_ne nofun) fun _ _ => trivial
  · next message hmessage =>
    have hid := ProcessingMessage.new_ingestId hmessage
    refine Meets.call (sendsFirst_of_ne nofun) fun reply _ => ?_
    cases reply with
    | error error => exact Meets.call (sendsFirst_of_ne nofun) fun _ _ => trivial
    | ok _ =>
      refine Meets.call (sendsFirst_of_ne nofun) fun reply _ => ?_
      cases reply with
      | error error => trivial
      | ok _ =>
        refine Meets.call ?_ fun reply _ => ?_
        · rintro _ ⟨⟩
          exact ⟨[_], t, _, message, rfl, hid ▸ h⟩
        · cases reply <;> trivial

theorem validateGranule_sendsFirst (config : IngestConfig) (granule : GranuleCandidate)
    (blobPath : String) (ingestId : Uuid) (t : IngestTranscript) :
    AlwaysSendsFirst (validateGranule config granule blobPath ingestId) t := by
  refine Meets.call (sendsFirst_of_ne nofun) fun reply _ => ?_
  cases reply with
  | error error => trivial
  | ok _ =>
    refine Meets.call (sendsFirst_of_ne nofun) fun reply _ => ?_
    cases reply with
    | error error => exact Meets.call (sendsFirst_of_ne nofun) fun _ _ => trivial
    | ok outboxId =>
      apply enqueueGranule_sendsFirst
      exact .inl ⟨_, List.mem_cons_self⟩

theorem downloadGranule_sendsFirst (config : IngestConfig) (granule : GranuleCandidate)
    (blobPath : String) (ingestId : Uuid) (t : IngestTranscript) :
    AlwaysSendsFirst (downloadGranule config granule blobPath ingestId) t := by
  refine Meets.call (sendsFirst_of_ne nofun) fun reply _ => ?_
  cases reply with
  | error error => exact Meets.call (sendsFirst_of_ne nofun) fun _ _ => trivial
  | ok bytes =>
    refine Meets.call (sendsFirst_of_ne nofun) fun reply _ => ?_
    cases reply with
    | error error => exact Meets.call (sendsFirst_of_ne nofun) fun _ _ => trivial
    | ok _ =>
      refine Meets.call (sendsFirst_of_ne nofun) fun reply _ => ?_
      cases reply with
      | error error => trivial
      | ok _ =>
        cases validateRawGranuleBytes bytes with
        | error error => exact Meets.call (sendsFirst_of_ne nofun) fun _ _ => trivial
        | ok _ => exact validateGranule_sendsFirst config granule blobPath ingestId _

theorem processGranules_sendsFirst (config : IngestConfig) (granules : List GranuleCandidate)
    (summary : IngestSummary) (t : IngestTranscript) :
    AlwaysSendsFirst (processGranules config granules summary) t := by
  induction granules generalizing summary t with
  | nil => trivial
  | cons granule granules ih =>
    have hgranule : AlwaysSendsFirst (processGranule config granule) t := by
      refine Meets.call (sendsFirst_of_ne nofun) fun reply _ => ?_
      cases reply with
      | error error => trivial
      | ok outcome =>
        cases outcome with
        | created ingestId => exact downloadGranule_sendsFirst config granule _ ingestId _
        | alreadyExists => trivial
    exact Meets.bind hgranule fun t' outcome _ => ih (summary.recordAttempt outcome) t'

theorem enqueueRecords_sendsFirst (config : IngestConfig) (records : List PendingOutboxRecord)
    (summary : RecoverySummary) (t : IngestTranscript)
    (h : ∀ record ∈ records, Told record.id record.ingestId t) :
    AlwaysSendsFirst (enqueueRecords config records summary) t := by
  induction records generalizing summary t with
  | nil => trivial
  | cons record records ih =>
    have hrecord := h record List.mem_cons_self
    have hrest : ∀ other ∈ records, Told other.id other.ingestId t :=
      fun other hother => h other (List.mem_cons_of_mem _ hother)
    unfold enqueueRecords
    split
    · refine Meets.call (sendsFirst_of_ne nofun) fun reply _ => ?_
      cases reply with
      | error error => trivial
      | ok _ => exact ih _ _ fun other hother => (hrest other hother).cons _
    · next message hmessage =>
      have hid := ProcessingMessage.new_ingestId hmessage
      refine Meets.call (sendsFirst_of_ne nofun) fun reply _ => ?_
      cases reply with
      | error error =>
        refine Meets.call (sendsFirst_of_ne nofun) fun reply _ => ?_
        cases reply with
        | error error => trivial
        | ok _ => exact ih _ _ fun other hother => ((hrest other hother).cons _).cons _
      | ok _ =>
        refine Meets.call (sendsFirst_of_ne nofun) fun reply _ => ?_
        cases reply with
        | error error => trivial
        | ok _ =>
          refine Meets.call ?_ fun reply _ => ?_
          · rintro _ ⟨⟩
            exact ⟨[_], t, _, message, rfl, hid ▸ hrecord⟩
          · cases reply with
            | error error => trivial
            | ok _ => exact ih _ _ fun other hother => (((hrest other hother).cons _).cons _).cons _

theorem enqueuePendingOutbox_sendsFirst (config : IngestConfig) (summary : RecoverySummary)
    (t : IngestTranscript) :
    AlwaysSendsFirst (enqueuePendingOutbox config summary) t := by
  refine Meets.call (sendsFirst_of_ne nofun) fun reply _ => ?_
  cases reply with
  | error error => trivial
  | ok records =>
    apply enqueueRecords_sendsFirst
    exact fun record hrecord => .inr ⟨records, List.mem_cons_self, record, hrecord, rfl, rfl⟩

theorem runRecovery_sendsFirst (config : IngestConfig) (t : IngestTranscript) :
    AlwaysSendsFirst (runRecovery config) t := by
  refine Meets.call (sendsFirst_of_ne nofun) fun reply _ => ?_
  cases reply with
  | error error => trivial
  | ok _ =>
    refine Meets.call (sendsFirst_of_ne nofun) fun reply _ => ?_
    cases reply with
    | error error => trivial
    | ok _ =>
      refine Meets.call (sendsFirst_of_ne nofun) fun reply _ => ?_
      cases reply with
      | error error => trivial
      | ok rows =>
        have hrows : (recoverRows rows RecoverySummary.default).Under (fun _ _ => True)
            fun c => ∀ outboxId, c ≠ .markOutboxCompleted outboxId :=
          recoverRows_calls (fun _ => nofun) (fun _ _ _ _ _ => nofun) (fun _ _ _ => nofun) _
        change AlwaysSendsFirst (recoverRows rows RecoverySummary.default >>= _) _
        apply Meets.bind
        · exact (Meets.of_under hrows _).mono (fun _ _ h => sendsFirst_of_ne h.1) fun _ _ _ => trivial
        · intro t' outcome _
          cases outcome with
          | error error => trivial
          | ok summary => exact enqueuePendingOutbox_sendsFirst config summary t'

theorem replayRejectedGranule_sendsFirst (config : IngestConfig) (ingestId : Uuid)
    (t : IngestTranscript) :
    AlwaysSendsFirst (replayRejectedGranule config ingestId) t := by
  have hreplay : AlwaysSendsFirst (replayRejected ingestId "operator_replay_rejected") t := by
    refine Meets.call (sendsFirst_of_ne nofun) fun reply _ => ?_
    cases reply with
    | error error => trivial
    | ok updated =>
      change AlwaysSendsFirst (if updated = 0 then _ else _) _
      split
      · trivial
      · refine Meets.call (sendsFirst_of_ne nofun) fun reply _ => ?_
        cases reply <;> trivial
  apply Meets.bind hreplay
  · intro t' outcome _
    cases outcome with
    | error error => trivial
    | ok replayed =>
      cases replayed with
      | false => trivial
      | true =>
        refine Meets.call (sendsFirst_of_ne nofun) fun reply _ => ?_
        cases reply with
        | error error => trivial
        | ok _ => exact enqueuePendingOutbox_sendsFirst config _ _

theorem ingestGranules_sendsFirst (config : IngestConfig) (granules : List GranuleCandidate)
    (summary : IngestSummary) (t : IngestTranscript) :
    AlwaysSendsFirst (ingestGranules config granules summary) t := by
  refine Meets.call (sendsFirst_of_ne nofun) fun reply _ => ?_
  cases reply with
  | error error => trivial
  | ok _ =>
    refine Meets.call (sendsFirst_of_ne nofun) fun reply _ => ?_
    cases reply with
    | error error => trivial
    | ok _ =>
      refine Meets.call (sendsFirst_of_ne nofun) fun reply _ => ?_
      cases reply with
      | error error => trivial
      | ok _ =>
        change AlwaysSendsFirst (processGranules config granules summary >>= _) _
        exact Meets.bind (processGranules_sendsFirst config granules summary _) fun _ _ _ => trivial

theorem Command.sendsFirst (command : Command) : AlwaysSendsFirst command.program [] := by
  cases command with
  | ingest config granules =>
    exact Meets.bind (ingestGranules_sendsFirst config granules _ []) fun _ _ _ => trivial
  | recovery config => exact Meets.bind (runRecovery_sendsFirst config []) fun _ _ _ => trivial
  | replay config ingestId =>
    exact Meets.bind (replayRejectedGranule_sendsFirst config ingestId []) fun _ _ _ => trivial

end Programs

/-! ## What a reply said of the records -/

section Facts

variable {w₀ w : IngestWorld} {t : IngestTranscript} {c : IngestCall} {outboxId ingestId : Uuid}

def RecordOf (w : IngestWorld) (outboxId ingestId : Uuid) : Prop :=
  ∃ record ∈ w.tables.outbox, record.id = outboxId ∧ record.ingestId = ingestId

/-- A record that was not there at `w₀`. -/
def NewSince (w₀ : IngestWorld) (outboxId : Uuid) : Prop :=
  outboxId ∉ w₀.tables.outbox.map OutboxRow.id

/-- A message for the row is among those put on the queues since `w₀`. -/
def SentSince (w₀ w : IngestWorld) (ingestId : Uuid) : Prop :=
  ∃ entry ∈ w.queues.drop w₀.queues.length, entry.2.ingestId = ingestId

/-- What a reply after the calls `t` says of the records and the queues. -/
def OutboxFact (w₀ w : IngestWorld) (t : IngestTranscript) : (c : IngestCall) → c.Reply → Prop
  | .createPendingEnqueueOutbox ingestId _, .ok outboxId => RecordOf w outboxId ingestId
  | .pendingEnqueueOutbox, .ok records => ∀ record ∈ records, RecordOf w record.id record.ingestId
  | .enqueueProcessingMessage _ message, .ok _ => ∀ outboxId, Told outboxId message.ingestId t →
      NewSince w₀ outboxId → SentSince w₀ w message.ingestId
  | _, _ => True

theorem exists_append_queues_effect (now : ℕ) (w : IngestWorld) (c : IngestCall) :
    ∃ entries, (effect now w c).queues = w.queues ++ entries := by
  cases c with
  | enqueueProcessingMessage queueName message => exact ⟨[(queueName, message)], rfl⟩
  | _ => exact ⟨[], (List.append_nil _).symm⟩

theorem RecordOf.effect (h : RecordOf w outboxId ingestId) (now : ℕ) (c : IngestCall) :
    RecordOf (effect now w c) outboxId ingestId := by
  obtain ⟨record, hrecord, rfl, rfl⟩ := h
  obtain ⟨record', hrecord', hstep⟩ := exists_mem_outbox_effect hrecord now c
  exact ⟨record', hrecord', hstep.id, hstep.ingestId⟩

theorem SentSince.effect (h : SentSince w₀ w ingestId) (hgrown : w₀.queues.length ≤ w.queues.length)
    (now : ℕ) (c : IngestCall) : SentSince w₀ (effect now w c) ingestId := by
  obtain ⟨entry, hentry, hid⟩ := h
  obtain ⟨entries, hqueues⟩ := exists_append_queues_effect now w c
  refine ⟨entry, ?_, hid⟩
  rw [hqueues, List.drop_append_of_le_length hgrown]
  exact List.mem_append_left _ hentry

theorem OutboxFact.effect {reply : c.Reply} (h : OutboxFact w₀ w t c reply)
    (hgrown : w₀.queues.length ≤ w.queues.length) (now : ℕ) (c' : IngestCall) :
    OutboxFact w₀ (effect now w c') t c reply := by
  cases c with
  | createPendingEnqueueOutbox ingestId reason =>
    cases reply with
    | error error => trivial
    | ok outboxId => exact RecordOf.effect h now c'
  | pendingEnqueueOutbox =>
    cases reply with
    | error error => trivial
    | ok records => exact fun record hrecord => (h record hrecord).effect now c'
  | enqueueProcessingMessage queueName message =>
    cases reply with
    | error error => trivial
    | ok _ => exact fun outboxId htold hnew => (h outboxId htold hnew).effect hgrown now c'
  | _ => trivial

theorem recordOf_of_mem_pendingEnqueueOutbox {record : PendingOutboxRecord}
    (h : record ∈ w.tables.pendingEnqueueOutbox) : RecordOf w record.id record.ingestId := by
  obtain ⟨pair, hpair, rfl⟩ := List.mem_map.mp h
  obtain ⟨hmem, hid, -, -⟩ := Table.mem_of_mem_select hpair
  exact ⟨pair.1, (List.mem_product.mp hmem).1, rfl, hid.symm⟩

theorem recordOf_created {now : ℕ} {reason : String} {outboxId : Uuid}
    (h : (w.tables.createPendingEnqueueOutbox ingestId reason w.nextId now).2 = .ok outboxId) :
    RecordOf (effect now w (.createPendingEnqueueOutbox ingestId reason)) outboxId ingestId := by
  rcases w.tables.createPendingEnqueueOutbox_cases ingestId reason w.nextId now with
    ⟨existing, hmem, hid, hp, heq⟩ | ⟨-, heq⟩ | ⟨-, error, heq⟩
  · rw [heq] at h
    have hold : RecordOf w outboxId ingestId := ⟨existing, hmem, Except.ok.inj h, hid⟩
    exact hold.effect now _
  · rw [heq] at h
    refine ⟨pendingRecord w.nextId ingestId reason now, ?_, Except.ok.inj h, rfl⟩
    simp only [effect, heq]
    exact List.mem_append_right _ (List.mem_singleton.mpr rfl)
  · rw [heq] at h
    cases h

theorem outboxFact_answer (hgrown : w₀.queues.length ≤ w.queues.length) (t : IngestTranscript)
    (c : IngestCall) (e : Env) : OutboxFact w₀ (answer c e w).1 t c (answer c e w).2 := by
  by_cases hok : e.outcome = .ok
  · have happlied : e.outcome ≠ .failed := by
      rw [hok]
      decide
    rw [answer_reply_of_ok hok, answer_world_of_applied happlied]
    cases c with
    | createPendingEnqueueOutbox ingestId reason =>
      simp only [result]
      cases hreply : (w.tables.createPendingEnqueueOutbox ingestId reason w.nextId e.now).2 with
      | error error => trivial
      | ok outboxId => exact recordOf_created hreply
    | pendingEnqueueOutbox => exact fun record => recordOf_of_mem_pendingEnqueueOutbox
    | enqueueProcessingMessage queueName message =>
      intro outboxId _ _
      refine ⟨(queueName, message), ?_, rfl⟩
      simp only [effect]
      rw [List.drop_append_of_le_length hgrown]
      exact List.mem_append_right _ (List.mem_singleton.mpr rfl)
    | _ => trivial
  · rw [answer_reply_of_error hok]
    cases c <;> trivial

theorem recordOf_of_told (ht : Witnessed (OutboxFact w₀ w) t) (h : Told outboxId ingestId t) :
    RecordOf w outboxId ingestId := by
  rcases h with ⟨reason, hmem⟩ | ⟨records, hmem, record, hrecord, rfl, rfl⟩
  · obtain ⟨t', hfact⟩ := ht.of_mem hmem
    exact hfact
  · obtain ⟨t', hfact⟩ := ht.of_mem hmem
    exact hfact record hrecord

/-- A program that completes a record has sent its message, since `w₀` if the record is newer. -/
theorem sentSince_of_sentFor (ht : Witnessed (OutboxFact w₀ w) t) (h : SentFor outboxId t) :
    ∃ ingestId, RecordOf w outboxId ingestId ∧
      (NewSince w₀ outboxId → SentSince w₀ w ingestId) := by
  obtain ⟨t₁, t₂, queueName, message, rfl, htold⟩ := h
  obtain ⟨hsent, ht₂⟩ := ht.of_append
  exact ⟨message.ingestId, recordOf_of_told ht₂ htold, hsent outboxId htold⟩

/-- The facts may be told again from a later world: the records of before are none of the new
ones. -/
theorem witnessed_outboxFact_restart (ht : Witnessed (OutboxFact w₀ w) t) :
    Witnessed (OutboxFact w w) t := by
  apply ht.mono_of
  intro t' c reply ht' hfact
  cases c with
  | createPendingEnqueueOutbox ingestId reason => cases reply <;> exact hfact
  | pendingEnqueueOutbox => cases reply <;> exact hfact
  | enqueueProcessingMessage queueName message =>
    cases reply with
    | error error => trivial
    | ok _ =>
      intro outboxId htold hnew
      obtain ⟨record, hrecord, hid, -⟩ := recordOf_of_told ht' htold
      exact absurd (List.mem_map.mpr ⟨record, hrecord, hid⟩) hnew
  | _ => trivial

end Facts

/-! ## What every run keeps -/

section Sound

variable {w₀ w : IngestWorld} {c : IngestCall}

/-- What holds of the records since `w₀`, in whatever status the updates find them. -/
structure OutboxSound (w₀ w : IngestWorld) : Prop where
  keys : OutboxKeys w
  onePending : w.tables.pendingIngestIds.Nodup
  completedAt : ∀ record ∈ w.tables.outbox, record.completedAt.isSome ↔ Terminal record
  grown : w₀.queues.length ≤ w.queues.length
  sent : ∀ record ∈ w.tables.outbox, record.status = .completed → NewSince w₀ record.id →
    SentSince w₀ w record.ingestId

theorem OutboxSound.effect (h : OutboxSound w₀ w) (now : ℕ)
    (hsent : ∀ outboxId, c = .markOutboxCompleted outboxId → ∃ ingestId,
      RecordOf w outboxId ingestId ∧ (NewSince w₀ outboxId → SentSince w₀ w ingestId)) :
    OutboxSound w₀ (effect now w c) where
  keys := h.keys.effect now c
  onePending := pendingIngestIds_nodup_effect h.onePending now c
  completedAt := by
    intro record' hrecord'
    rcases mem_outbox_effect hrecord' with ⟨record, hrecord, hstep⟩ | ⟨ingestId, reason, -, -, rfl⟩
    · exact hstep.completedAt (h.completedAt record hrecord)
    · simp [Terminal, pendingRecord]
  grown := by
    obtain ⟨entries, hqueues⟩ := exists_append_queues_effect now w c
    rw [hqueues, List.length_append]
    exact h.grown.trans (Nat.le_add_right _ _)
  sent := by
    intro record' hrecord' hstatus hnew
    rcases mem_outbox_effect hrecord' with ⟨record, hrecord, hstep⟩ | ⟨ingestId, reason, -, -, rfl⟩
    · rw [hstep.id] at hnew
      rw [hstep.ingestId]
      rcases hstep.status_completed hstatus with hold | rfl
      · exact (h.sent record hrecord hold hnew).effect h.grown now c
      · obtain ⟨ingestId, ⟨other, hother, hid, rfl⟩, hsince⟩ := hsent record.id rfl
        obtain rfl := h.keys.eq_of_id_eq hother hrecord hid
        exact (hsince hnew).effect h.grown now _
    · cases hstatus

theorem OutboxSound.answer (h : OutboxSound w₀ w) (e : Env)
    (hsent : ∀ outboxId, c = .markOutboxCompleted outboxId → ∃ ingestId,
      RecordOf w outboxId ingestId ∧ (NewSince w₀ outboxId → SentSince w₀ w ingestId)) :
    OutboxSound w₀ (answer c e w).1 := by
  by_cases hfailed : e.outcome = .failed
  · rw [answer_world_of_failed hfailed]
    exact h
  · rw [answer_world_of_applied hfailed]
    exact h.effect e.now hsent

end Sound

namespace IngestPool

variable {w₀ : IngestWorld} {pool pool' : IngestPool} {event : IngestEvent}

/-- What every run of commands keeps of the records. -/
structure RecordsInvariant (w₀ : IngestWorld) (pool : IngestPool) : Prop where
  vouched : ∀ p ∈ pool.procs, p.next? ≠ none →
    Pool.Vouched (fun p => ∃ command : Command, p = command.program) (OutboxFact w₀) pool.world p
  sound : OutboxSound w₀ pool.world

theorem recordsInvariant_empty : RecordsInvariant empty.world empty where
  vouched := fun _ h => absurd h List.not_mem_nil
  sound := {
    keys := ⟨List.nodup_nil, fun _ h => absurd h List.not_mem_nil⟩
    onePending := List.nodup_nil
    completedAt := fun _ h => absurd h List.not_mem_nil
    grown := le_rfl
    sent := fun _ h => absurd h List.not_mem_nil }

theorem RecordsInvariant.restart (h : pool.RecordsInvariant w₀) :
    pool.RecordsInvariant pool.world where
  vouched := by
    intro p hp hlive
    obtain ⟨p₀, t, hp₀, hfollows, ht⟩ := h.vouched p hp hlive
    exact ⟨p₀, t, hp₀, hfollows, witnessed_outboxFact_restart ht⟩
  sound := { h.sound with
    grown := le_rfl
    sent := fun record hrecord _ hnew => absurd (List.mem_map_of_mem hrecord) hnew }

theorem RecordsInvariant.step (h : pool.RecordsInvariant w₀) (hstarts : Starts event)
    (hstep : pool.step event = some pool') : pool'.RecordsInvariant w₀ where
  vouched := by
    apply Pool.vouched_step hstep hstarts _ h.vouched
    intro p₀ t c next e _ _ _
    refine ⟨outboxFact_answer h.sound.grown t c e, fun t' c' reply hfact => ?_⟩
    by_cases hfailed : e.outcome = .failed
    · rw [answer_world_of_failed hfailed]
      exact hfact
    · rw [answer_world_of_applied hfailed]
      exact hfact.effect h.sound.grown e.now c
  sound := by
    rcases Pool.step_cases hstep with
      ⟨p, rfl, rfl⟩ | ⟨i, e, c, next, rfl, hi, rfl⟩ | ⟨i, c, next, rfl, hi, rfl⟩
    · exact h.sound
    · obtain ⟨p₀, t, ⟨command, rfl⟩, hfollows, ht⟩ := h.vouched _ (List.mem_of_getElem? hi) nofun
      have hmeets := command.sendsFirst.of_follows hfollows fun _ _ => trivial
      rw [List.append_nil] at hmeets
      exact h.sound.answer e fun outboxId hc => sentSince_of_sentFor ht (hmeets.1 outboxId hc)
    · exact h.sound

end IngestPool

/-! ## Terminal records and attempts -/

/-- The record counts no attempt too many, and fewer than all while it has not failed. -/
def Bounded (record : OutboxRow) : Prop :=
  record.attempts ≤ outboxMaxAttempts ∧
    (record.status ≠ .failed → record.attempts < outboxMaxAttempts)

/-- Where a call settles a record, its update does not find it failed; and where it counts a
failed attempt, the record is not completed on its last attempt either. -/
def SettlesOpen (e : Env) (w : IngestWorld) : IngestCall → Prop
  | .markOutboxCompleted outboxId => e.outcome ≠ .failed →
      ∀ record ∈ w.tables.outbox, record.id = outboxId → record.status ≠ .failed
  | .markOutboxFailed outboxId _ => e.outcome ≠ .failed →
      ∀ record ∈ w.tables.outbox, record.id = outboxId → record.status ≠ .failed ∧
        (record.status = .completed → record.attempts + 1 < outboxMaxAttempts)
  | _ => True

instance (e : Env) (w : IngestWorld) (c : IngestCall) : Decidable (SettlesOpen e w c) :=
  match c with
  | .markOutboxCompleted _ => inferInstanceAs (Decidable (_ → _))
  | .markOutboxFailed _ _ => inferInstanceAs (Decidable (_ → _))
  | .insertDownloadingRow _ _ | .setStatus _ _ _ | .recoverableRawRows
  | .createPendingEnqueueOutbox _ _ | .pendingEnqueueOutbox | .replayRejectedStatus _
  | .newEarthdataClient | .newStorageClient | .newQueueClient | .earthdataDownload _
  | .uploadRawBlob _ _ | .downloadRawBlob _ | .enqueueProcessingMessage _ _ =>
    inferInstanceAs (Decidable True)

section Open

variable {w₀ w : IngestWorld} {c : IngestCall} {e : Env} {record record' : OutboxRow}

theorem RecordStep.bounded (h : RecordStep e.now c record record') (happlied : e.outcome ≠ .failed)
    (hopen : SettlesOpen e w c) (hmem : record ∈ w.tables.outbox) (hrecord : Bounded record) :
    Bounded record' := by
  cases h with
  | kept => exact hrecord
  | recycled _ reason hp => exact hrecord
  | completed =>
    have hlt := hrecord.2 (hopen happlied record hmem rfl)
    exact ⟨hlt.le, fun _ => hlt⟩
  | struck _ errorMessage =>
    obtain ⟨hfailed, hcompleted⟩ := hopen happlied record hmem rfl
    have hlt := hrecord.2 hfailed
    refine ⟨hlt, fun hstatus => ?_⟩
    by_contra hlast
    exact hstatus (if_pos (not_lt.mp hlast))

theorem RecordStep.terminal (h : RecordStep e.now c record record')
    (happlied : e.outcome ≠ .failed) (hopen : SettlesOpen e w c) (hmem : record ∈ w.tables.outbox)
    (hterminal : Terminal record) : record'.status = record.status := by
  cases h with
  | kept => rfl
  | recycled _ reason hp => rfl
  | completed => exact (hterminal.resolve_right (hopen happlied record hmem rfl)).symm
  | struck _ errorMessage =>
    obtain ⟨hfailed, hcompleted⟩ := hopen happlied record hmem rfl
    exact if_neg (not_le.mpr (hcompleted (hterminal.resolve_right hfailed)))

/-- The records that were terminal have kept their status. -/
def KeepsTerminal (w₀ w : IngestWorld) : Prop :=
  ∀ record ∈ w₀.tables.outbox, Terminal record →
    ∃ record' ∈ w.tables.outbox, record'.id = record.id ∧ record'.status = record.status

instance (w₀ w : IngestWorld) : Decidable (KeepsTerminal w₀ w) :=
  inferInstanceAs (Decidable (∀ record ∈ w₀.tables.outbox, _))

theorem bounded_answer (h : ∀ record ∈ w.tables.outbox, Bounded record)
    (hopen : SettlesOpen e w c) : ∀ record ∈ (answer c e w).1.tables.outbox, Bounded record := by
  intro record' hrecord'
  by_cases hfailed : e.outcome = .failed
  · rw [answer_world_of_failed hfailed] at hrecord'
    exact h record' hrecord'
  · rw [answer_world_of_applied hfailed] at hrecord'
    rcases mem_outbox_effect hrecord' with ⟨record, hrecord, hstep⟩ | ⟨ingestId, reason, -, -, rfl⟩
    · exact hstep.bounded hfailed hopen hrecord (h record hrecord)
    · exact ⟨Nat.zero_le _, fun _ => Nat.zero_lt_succ _⟩

theorem KeepsTerminal.answer (h : KeepsTerminal w₀ w) (hopen : SettlesOpen e w c) :
    KeepsTerminal w₀ (answer c e w).1 := by
  by_cases hfailed : e.outcome = .failed
  · rw [answer_world_of_failed hfailed]
    exact h
  · rw [answer_world_of_applied hfailed]
    intro record hrecord hterminal
    obtain ⟨before, hbefore, hid, hstatus⟩ := h record hrecord hterminal
    obtain ⟨after, hafter, hstep⟩ := exists_mem_outbox_effect hbefore e.now c
    have hbeforeTerminal : Terminal before := by
      rw [Terminal, hstatus]
      exact hterminal
    refine ⟨after, hafter, hstep.id.trans hid, ?_⟩
    exact (hstep.terminal hfailed hopen hbefore hbeforeTerminal).trans hstatus

end Open

/-! ## Runs -/

structure OutboxMachine (w : IngestWorld) : Prop where
  nodup : (w.tables.outbox.map OutboxRow.id).Nodup
  onePending : w.tables.pendingIngestIds.Nodup
  attempts : ∀ record ∈ w.tables.outbox, record.attempts ≤ outboxMaxAttempts
  completedAt : ∀ record ∈ w.tables.outbox, record.completedAt.isSome ↔ Terminal record

/-- The record machine from one state to a later one: terminal records keep their status, and for
each record that was created and completed a message of its row was enqueued. -/
structure OutboxHistory (w₀ w : IngestWorld) : Prop where
  terminal : KeepsTerminal w₀ w
  sent : ∀ record ∈ w.tables.outbox, record.status = .completed → NewSince w₀ record.id →
    SentSince w₀ w record.ingestId

namespace IngestPool

variable {w₀ : IngestWorld} {pool pool' : IngestPool} {event : IngestEvent}

/-- The condition on a step: the call it answers settles an open record. -/
def EventSettlesOpen (pool : IngestPool) : IngestEvent → Prop
  | .act i e => ∀ c ∈ pool.nextCall i, SettlesOpen e pool.world c
  | _ => True

/-- Commands run, and every update that settles a record finds it open. -/
abbrev RunsOpen (pool : IngestPool) (event : IngestEvent) : Prop :=
  Starts event ∧ pool.EventSettlesOpen event

/-- What every run whose updates settle open records keeps since `w₀`. -/
structure OpenInvariant (w₀ : IngestWorld) (pool : IngestPool) : Prop where
  records : pool.RecordsInvariant w₀
  bounded : ∀ record ∈ pool.world.tables.outbox, Bounded record
  terminal : KeepsTerminal w₀ pool.world

theorem openInvariant_empty : OpenInvariant empty.world empty where
  records := recordsInvariant_empty
  bounded := fun _ h => absurd h List.not_mem_nil
  terminal := fun _ h => absurd h List.not_mem_nil

theorem OpenInvariant.restart (h : pool.OpenInvariant w₀) : pool.OpenInvariant pool.world where
  records := h.records.restart
  bounded := h.bounded
  terminal := fun record hrecord _ => ⟨record, hrecord, rfl, rfl⟩

theorem OpenInvariant.step (h : pool.OpenInvariant w₀) (hguard : pool.RunsOpen event)
    (hstep : pool.step event = some pool') : pool'.OpenInvariant w₀ := by
  have hrecords := h.records.step hguard.1 hstep
  rcases Pool.step_cases hstep with
    ⟨p, rfl, rfl⟩ | ⟨i, e, c, next, rfl, hi, rfl⟩ | ⟨i, c, next, rfl, hi, rfl⟩
  · exact ⟨hrecords, h.bounded, h.terminal⟩
  · have hopen := hguard.2 c (Pool.nextCall_eq_some_iff.mpr ⟨next, hi⟩)
    exact ⟨hrecords, bounded_answer h.bounded hopen, h.terminal.answer hopen⟩
  · exact ⟨hrecords, h.bounded, h.terminal⟩

theorem OpenInvariant.run {later : IngestPool} (h : pool.OpenInvariant w₀)
    (hrun : Reaches IngestPool.step RunsOpen pool later) : later.OpenInvariant w₀ :=
  hrun.invariant h fun _ _ _ hinv hguard hstep => hinv.step hguard hstep

/-- In every run whose updates settle open records, the records are a machine in each state, and
from each state to every later one. -/
theorem outboxMachine_of_run (pool : IngestPool) (h : Reaches step RunsOpen empty pool) :
    OutboxMachine pool.world ∧
      ∀ later, Reaches step RunsOpen pool later → OutboxHistory pool.world later.world := by
  have hinv := openInvariant_empty.run h
  constructor
  · exact ⟨hinv.records.sound.keys.nodup, hinv.records.sound.onePending,
      fun record hrecord => (hinv.bounded record hrecord).1, hinv.records.sound.completedAt⟩
  · intro later hlater
    have hlaterInv := hinv.restart.run hlater
    exact ⟨hlaterInv.terminal, hlaterInv.records.sound.sent⟩

/-- A pass that stops once its outbox record is there, and `n` recoveries that select the record. -/
def selectingEvents (n : ℕ) : List IngestEvent :=
  validatingEvents ++ [.act 0 (sampleEnv .ok), .stop 0] ++
    List.replicate n (.spawn (Command.recovery sampleConfig).program) ++
    actsOk ((List.range n).flatMap fun i => List.replicate 4 (i + 1))

/-- The queue refuses the message of each of these recoveries. -/
def strikes (recoveries : List ℕ) : List IngestEvent :=
  recoveries.flatMap fun i => [.act i (sampleEnv .failed), .act i (sampleEnv .ok)]

theorem starts_of_mem_selectingEvents {n : ℕ} (h : event ∈ selectingEvents n) : Starts event := by
  simp only [selectingEvents, List.mem_append] at h
  rcases h with ((h | h) | h) | h
  · exact validatingEvents_starts h
  · rintro p rfl
    simp at h
  · rintro p rfl
    rw [List.mem_replicate] at h
    exact ⟨_, PoolEvent.spawn.inj h.2⟩
  · rintro p rfl
    simp [actsOk] at h

theorem starts_of_mem_acts {recoveries calls : List ℕ}
    (h : event ∈ strikes recoveries ++ actsOk calls) : Starts event := by
  rintro p rfl
  simp [strikes, actsOk] at h

/-- Four recoveries select one record. Three strike it, and it has failed; the fourth enqueues its
message, and it is completed. -/
theorem not_outboxHistory_concurrent : ∃ pool later : IngestPool,
    Reaches step (fun _ event => Starts event) empty pool ∧
      Reaches step (fun _ event => Starts event) pool later ∧
        ¬ OutboxHistory pool.world later.world := by
  have hrun : ∃ pool, Reaches step (fun _ event => Starts event) empty pool ∧
      ((runSteps step pool (actsOk [4, 4, 4])).any fun later =>
        decide (¬ KeepsTerminal pool.world later.world)) = true := by
    apply exists_reaches_of_runSteps (selectingEvents 4 ++ strikes [1, 2, 3])
    · intro _ event hevent
      rcases List.mem_append.mp hevent with hevent | hevent
      · exact starts_of_mem_selectingEvents hevent
      · exact starts_of_mem_acts (List.mem_append_left (actsOk []) hevent)
    · decide +kernel
  obtain ⟨pool, hpool, hrest⟩ := hrun
  have hcompletes : ∃ later, Reaches step (fun _ event => Starts event) pool later ∧
      decide (¬ KeepsTerminal pool.world later.world) = true := by
    apply exists_reaches_of_runSteps (actsOk [4, 4, 4]) _ hrest
    exact fun _ event hevent => starts_of_mem_acts (List.mem_append_right (strikes []) hevent)
  obtain ⟨later, hlater, htest⟩ := hcompletes
  exact ⟨pool, later, hpool, hlater, fun h => of_decide_eq_true htest h.terminal⟩

def checkSettlesOpen (pool : IngestPool) : IngestEvent → Bool
  | .act i e => (pool.nextCall i).all fun c => decide (SettlesOpen e pool.world c)
  | _ => true

theorem eventSettlesOpen_of_check (h : pool.checkSettlesOpen event = true) :
    pool.EventSettlesOpen event := by
  cases event with
  | act i e =>
    intro c hc
    rw [checkSettlesOpen, Option.mem_def.mp hc] at h
    exact of_decide_eq_true h
  | _ => trivial

/-- Two recoveries select the record, one strikes it, and then the other completes it. -/
theorem outboxMachine_of_two : ∃ pool : IngestPool, OutboxMachine pool.world ∧
    (∀ later, Reaches step RunsOpen pool later → OutboxHistory pool.world later.world) ∧
      pool.world.tables.outbox.map (fun record => (record.status, record.attempts)) =
        [(.completed, 1)] := by
  have hrun : ∃ pool, Reaches step RunsOpen empty pool ∧
      decide (pool.world.tables.outbox.map (fun record => (record.status, record.attempts)) =
        [(.completed, 1)]) = true := by
    apply exists_reaches_of_checkedSteps checkSettlesOpen
      (selectingEvents 2 ++ (strikes [1] ++ actsOk [2, 2, 2]))
    · intro pool event hevent hcheck
      refine ⟨?_, eventSettlesOpen_of_check hcheck⟩
      rcases List.mem_append.mp hevent with hevent | hevent
      · exact starts_of_mem_selectingEvents hevent
      · exact starts_of_mem_acts hevent
    · decide +kernel
  obtain ⟨pool, hpool, htest⟩ := hrun
  obtain ⟨hmachine, hhistory⟩ := outboxMachine_of_run pool hpool
  exact ⟨pool, hmachine, hhistory, of_decide_eq_true htest⟩

end IngestPool

end LumenHorizon.Ingest
