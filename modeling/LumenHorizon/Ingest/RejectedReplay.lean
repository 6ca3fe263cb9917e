import LumenHorizon.Foundation.Alone
import LumenHorizon.Ingest.OutboxRecords

/-! # Replaying a rejected row

A replay sets the row to `replay_pending`, creates its outbox record and delivers a batch of
records. It may fail or stop between any two statements; what is left behind should be something
that a further replay or a recovery can go on from.
-/

namespace LumenHorizon.Ingest
open Foundation Shared Program IngestProgram

def Env.applied (e : Env) : Bool := e.outcome ≠ .failed

/-- A call fails and changes nothing, or takes effect and is noted. -/
theorem noted_cases (c : IngestCall) (e : Env) (s : IngestWorld × List IngestCall) :
    (e.outcome = .failed ∧ (noted answer Env.applied c e s).1 = s) ∨
      (e.outcome ≠ .failed ∧
        (noted answer Env.applied c e s).1 = (effect e.now s.1 c, s.2 ++ [c])) := by
  by_cases hfailed : e.outcome = .failed
  · refine .inl ⟨hfailed, ?_⟩
    simp [noted, Env.applied, hfailed, answer_world_of_failed hfailed]
  · refine .inr ⟨hfailed, ?_⟩
    simp [noted, Env.applied, hfailed, answer_world_of_applied hfailed]

/-- There is a row with the id, and every such row has the status. -/
structure Tables.StatusIs (t : Tables) (ingestId : Uuid) (status : IngestStatus) : Prop where
  exists_row : ∃ row ∈ t.ingestLog, row.id = ingestId
  status_eq : ∀ row ∈ t.ingestLog, row.id = ingestId → row.status = status

theorem Tables.StatusIs.hasStatus_iff {t : Tables} {ingestId : Uuid} {status s : IngestStatus}
    (h : t.StatusIs ingestId status) : t.HasStatus ingestId s ↔ s = status := by
  constructor
  · rintro ⟨row, hrow, hid, rfl⟩
    exact h.status_eq row hrow hid
  · rintro rfl
    obtain ⟨row, hrow, hid⟩ := h.exists_row
    exact ⟨row, hrow, hid, h.status_eq row hrow hid⟩

/-- Since `w₀` the row was left so that a replay can start over, its message went out, or a
recovery asks for its record. -/
def Continuable (w₀ w : IngestWorld) (ingestId : Uuid) : Prop :=
  w.tables.HasStatus ingestId .rejected ∨ w.tables.HasStatus ingestId .enqueued ∨
    SentSince w₀ w ingestId ∨
      (w.tables.HasStatus ingestId .replayPending ∧ w.tables.HasPending ingestId)

/-- The calls that took effect include one that puts the row's message on a queue. -/
def Enqueues (ingestId : Uuid) (calls : List IngestCall) : Prop :=
  ∃ queueName message, .enqueueProcessingMessage queueName message ∈ calls ∧
    message.ingestId = ingestId

def RecordKept (w₀ : IngestWorld) (ingestId : Uuid) (calls : List IngestCall) : Prop :=
  w₀.tables.HasPending ingestId ∨ ∃ reason, .createPendingEnqueueOutbox ingestId reason ∈ calls

/-- No strike was the last of the row's record, unless its message was enqueued all the same. -/
def NotStruckOut (w₀ : IngestWorld) (ingestId : Uuid) (calls : List IngestCall) : Prop :=
  ∀ record ∈ w₀.tables.outbox, record.ingestId = ingestId → Pending record →
    (∃ errorMessage, .markOutboxFailed record.id errorMessage ∈ calls) →
      record.attempts + 1 < outboxMaxAttempts ∨ Enqueues ingestId calls

/-- The condition on the calls that took effect: a status update goes with a pending record, and
the record is not struck for the last time. -/
def CarriedThrough (w₀ : IngestWorld) (ingestId : Uuid) (calls : List IngestCall) : Prop :=
  (.replayRejectedStatus ingestId ∈ calls → RecordKept w₀ ingestId calls) ∧
    NotStruckOut w₀ ingestId calls

/-- What the theorem says of the world and the calls that led to it. -/
def Agrees (w₀ : IngestWorld) (ingestId : Uuid) (s : IngestWorld × List IngestCall) : Prop :=
  Continuable w₀ s.1 ingestId ↔ CarriedThrough w₀ ingestId s.2

/-! ## Calls about other rows -/

/-- The call is about neither the row nor its record. -/
structure Foreign (ingestId outboxId : Uuid) (c : IngestCall) : Prop where
  leavesAlone : LeavesAlone ingestId c
  not_completed : c ≠ .markOutboxCompleted outboxId
  not_failed : ∀ errorMessage, c ≠ .markOutboxFailed outboxId errorMessage

section Foreign

variable {w₀ w : IngestWorld} {c : IngestCall} {ingestId outboxId : Uuid} {now : ℕ}

theorem Foreign.mem_ingestLog_effect (h : LeavesAlone ingestId c) {row : IngestRow}
    (hid : row.id = ingestId) :
    row ∈ (effect now w c).tables.ingestLog ↔ row ∈ w.tables.ingestLog := by
  cases c with
  | insertDownloadingRow granule blobPath => exact absurd trivial h.1
  | setStatus id status errorMessage =>
    have hother (other : IngestRow) (hmatch : other.id = id) : other.id ≠ row.id := by
      rw [hmatch, hid]
      exact fun hne => h.2 (congrArg some hne)
    exact Table.mem_update_iff_of_key hother fun _ _ => rfl
  | replayRejectedStatus id =>
    have hother (other : IngestRow) (hmatch : other.id = id ∧ other.status = .rejected) :
        other.id ≠ row.id := by
      rw [hmatch.1, hid]
      exact fun hne => h.2 (congrArg some hne)
    exact Table.mem_update_iff_of_key hother fun _ _ => rfl
  | createPendingEnqueueOutbox id reason => simp [effect]
  | _ => exact Iff.rfl

theorem Tables.StatusIs.effect {status : IngestStatus} (hstatus : w.tables.StatusIs ingestId status)
    (h : LeavesAlone ingestId c) : (effect now w c).tables.StatusIs ingestId status := by
  constructor
  · obtain ⟨row, hrow, hid⟩ := hstatus.exists_row
    exact ⟨row, (Foreign.mem_ingestLog_effect h hid).mpr hrow, hid⟩
  · intro row hrow hid
    exact hstatus.status_eq row ((Foreign.mem_ingestLog_effect h hid).mp hrow) hid

theorem Foreign.sentSince_effect (h : LeavesAlone ingestId c)
    (hgrown : w₀.queues.length ≤ w.queues.length) :
    SentSince w₀ (effect now w c) ingestId ↔ SentSince w₀ w ingestId := by
  constructor
  · rintro ⟨entry, hentry, hid⟩
    cases c with
    | enqueueProcessingMessage queueName message =>
      simp only [effect] at hentry
      rw [List.drop_append_of_le_length hgrown] at hentry
      rcases List.mem_append.mp hentry with hentry | hentry
      · exact ⟨entry, hentry, hid⟩
      · rw [List.mem_singleton.mp hentry] at hid
        exact absurd (congrArg some hid) h.2
    | _ => exact ⟨entry, hentry, hid⟩
  · exact fun hsent => hsent.effect hgrown now c

end Foreign

/-! ## Stages of a replay -/

section Stages

variable {w₀ : IngestWorld} {ingestId outboxId attempts : ℕ} {s : IngestWorld × List IngestCall}
  {c : IngestCall}

theorem grown_effect {w : IngestWorld} (h : w₀.queues.length ≤ w.queues.length) (now : ℕ)
    (c : IngestCall) : w₀.queues.length ≤ (effect now w c).queues.length := by
  obtain ⟨entries, hqueues⟩ := exists_append_queues_effect now w c
  rw [hqueues, List.length_append]
  exact h.trans (Nat.le_add_right _ _)

theorem Enqueues.append {calls : List IngestCall} (h : Enqueues ingestId calls) (c : IngestCall) :
    Enqueues ingestId (calls ++ [c]) := by
  obtain ⟨queueName, message, hmem, hid⟩ := h
  exact ⟨queueName, message, List.mem_append_left _ hmem, hid⟩

theorem RecordKept.append {calls : List IngestCall} (h : RecordKept w₀ ingestId calls)
    (c : IngestCall) : RecordKept w₀ ingestId (calls ++ [c]) := by
  rcases h with h | ⟨reason, h⟩
  · exact .inl h
  · exact .inr ⟨reason, List.mem_append_left _ h⟩

theorem CarriedThrough.of_enqueues {calls : List IngestCall} (hkept : RecordKept w₀ ingestId calls)
    (h : Enqueues ingestId calls) : CarriedThrough w₀ ingestId calls :=
  ⟨fun _ => hkept, fun _ _ _ _ _ => .inr h⟩

/-- The records that were pending before: the row's one has this id and has been attempted so
often. -/
def EarlierRecord (w₀ : IngestWorld) (ingestId outboxId attempts : ℕ) : Prop :=
  ∀ record ∈ w₀.tables.outbox, record.ingestId = ingestId → Pending record →
    record.id = outboxId ∧ record.attempts = attempts

structure MessageOut (w₀ : IngestWorld) (ingestId : Uuid) (s : IngestWorld × List IngestCall) :
    Prop where
  grown : w₀.queues.length ≤ s.1.queues.length
  sent : SentSince w₀ s.1 ingestId
  kept : RecordKept w₀ ingestId s.2
  enqueues : Enqueues ingestId s.2

theorem MessageOut.agrees (h : MessageOut w₀ ingestId s) : Agrees w₀ ingestId s :=
  iff_of_true (.inr (.inr (.inl h.sent))) (.of_enqueues h.kept h.enqueues)

theorem MessageOut.after (h : MessageOut w₀ ingestId s) (c : IngestCall) (e : Env) :
    MessageOut w₀ ingestId (noted answer Env.applied c e s).1 := by
  rcases noted_cases c e s with ⟨-, heq⟩ | ⟨-, heq⟩
  · rw [heq]
    exact h
  · rw [heq]
    exact ⟨grown_effect h.grown e.now c, h.sent.effect h.grown e.now c, h.kept.append c,
      h.enqueues.append c⟩

/-- The row waits for its record, which is pending. -/
structure RecordLive (w₀ : IngestWorld) (ingestId outboxId : Uuid)
    (s : IngestWorld × List IngestCall) : Prop where
  status : s.1.tables.StatusIs ingestId .replayPending
  pending : ∃ record ∈ s.1.tables.outbox, record.id = outboxId ∧ record.ingestId = ingestId ∧
    Pending record
  kept : RecordKept w₀ ingestId s.2
  notOut : NotStruckOut w₀ ingestId s.2

theorem RecordLive.agrees (h : RecordLive w₀ ingestId outboxId s) : Agrees w₀ ingestId s := by
  obtain ⟨record, hrecord, -, hid, hp⟩ := h.pending
  refine iff_of_true (.inr (.inr (.inr ⟨h.status.hasStatus_iff.mpr rfl, ?_⟩))) ⟨fun _ => h.kept, h.notOut⟩
  exact ⟨record, hrecord, hid, hp⟩

/-- A call that is not about a record leaves it as it is. -/
theorem RecordStep.eq_of_foreign {now : ℕ} {record record' : OutboxRow}
    (h : RecordStep now c record record') (hc : Foreign record.ingestId record.id c) :
    record' = record := by
  cases h with
  | kept => rfl
  | recycled _ reason hp => exact absurd rfl hc.leavesAlone.2
  | completed => exact absurd rfl hc.not_completed
  | struck _ errorMessage => exact absurd rfl (hc.not_failed errorMessage)

theorem pending_of_foreign (hc : Foreign ingestId outboxId c) {w : IngestWorld} {a : ℕ → Prop}
    (h : ∃ record ∈ w.tables.outbox, record.id = outboxId ∧ record.ingestId = ingestId ∧
      Pending record ∧ a record.attempts) (now : ℕ) :
    ∃ record ∈ (effect now w c).tables.outbox, record.id = outboxId ∧
      record.ingestId = ingestId ∧ Pending record ∧ a record.attempts := by
  obtain ⟨record, hrecord, rfl, rfl, hp⟩ := h
  obtain ⟨record', hrecord', hstep⟩ := exists_mem_outbox_effect hrecord now c
  obtain rfl := hstep.eq_of_foreign hc
  exact ⟨record', hrecord', rfl, rfl, hp⟩

theorem NotStruckOut.append (h : NotStruckOut w₀ ingestId s.2)
    (hearlier : EarlierRecord w₀ ingestId outboxId attempts) (hc : Foreign ingestId outboxId c) :
    NotStruckOut w₀ ingestId (s.2 ++ [c]) := by
  rintro record hrecord hid hp ⟨errorMessage, hmem⟩
  rcases List.mem_append.mp hmem with hmem | hmem
  · exact (h record hrecord hid hp ⟨errorMessage, hmem⟩).imp_right fun henqueues => henqueues.append c
  · rw [(hearlier record hrecord hid hp).1] at hmem
    exact absurd (List.mem_singleton.mp hmem).symm (hc.not_failed errorMessage)

theorem RecordLive.after (h : RecordLive w₀ ingestId outboxId s)
    (hearlier : EarlierRecord w₀ ingestId outboxId attempts) (hc : Foreign ingestId outboxId c)
    (e : Env) : RecordLive w₀ ingestId outboxId (noted answer Env.applied c e s).1 := by
  rcases noted_cases c e s with ⟨-, heq⟩ | ⟨-, heq⟩
  · rw [heq]
    exact h
  · rw [heq]
    refine ⟨h.status.effect hc.leavesAlone, ?_, h.kept.append c, h.notOut.append hearlier hc⟩
    obtain ⟨record, hrecord, hid, hown, hp⟩ := h.pending
    obtain ⟨record', hrecord', hid', hown', hp', -⟩ := pending_of_foreign (a := fun _ => True) hc
      ⟨record, hrecord, hid, hown, hp, trivial⟩ e.now
    exact ⟨record', hrecord', hid', hown', hp'⟩

/-- The record has failed, and no message of the row is on a queue. -/
structure RecordOut (w₀ : IngestWorld) (ingestId outboxId : Uuid)
    (s : IngestWorld × List IngestCall) : Prop where
  status : s.1.tables.StatusIs ingestId .replayPending
  none : ¬ s.1.tables.HasPending ingestId
  grown : w₀.queues.length ≤ s.1.queues.length
  unsent : ¬ SentSince w₀ s.1 ingestId
  notEnqueues : ¬ Enqueues ingestId s.2
  struckOut : ∃ record ∈ w₀.tables.outbox, record.ingestId = ingestId ∧ Pending record ∧
    (∃ errorMessage, .markOutboxFailed record.id errorMessage ∈ s.2) ∧
      outboxMaxAttempts ≤ record.attempts + 1

theorem RecordOut.agrees (h : RecordOut w₀ ingestId outboxId s) : Agrees w₀ ingestId s := by
  apply iff_of_false
  · rintro (hs | hs | hsent | ⟨-, hp⟩)
    · exact absurd (h.status.hasStatus_iff.mp hs) (by decide)
    · exact absurd (h.status.hasStatus_iff.mp hs) (by decide)
    · exact h.unsent hsent
    · exact h.none hp
  · rintro ⟨-, hout⟩
    obtain ⟨record, hrecord, hid, hp, hstruck, hlast⟩ := h.struckOut
    rcases hout record hrecord hid hp hstruck with hmore | henqueues
    · exact absurd hmore (not_lt.mpr hlast)
    · exact h.notEnqueues henqueues

theorem not_enqueues_append {calls : List IngestCall} (h : ¬ Enqueues ingestId calls)
    (hc : c.ingestId? ≠ some ingestId) : ¬ Enqueues ingestId (calls ++ [c]) := by
  rintro ⟨queueName, message, hmem, hid⟩
  rcases List.mem_append.mp hmem with hmem | hmem
  · exact h ⟨queueName, message, hmem, hid⟩
  · rw [← List.mem_singleton.mp hmem] at hc
    exact hc (congrArg some hid)

/-- No call but the row's own insert brings it a pending record. -/
theorem not_hasPending_effect {w : IngestWorld} (h : ¬ w.tables.HasPending ingestId)
    (hc : ∀ reason, c ≠ .createPendingEnqueueOutbox ingestId reason) (now : ℕ) :
    ¬ (effect now w c).tables.HasPending ingestId := by
  rintro ⟨record', hrecord', rfl, hp⟩
  rcases mem_outbox_effect hrecord' with ⟨record, hrecord, hstep⟩ | ⟨id, reason, rfl, -, rfl⟩
  · exact h ⟨record, hrecord, hstep.ingestId.symm, hstep.pending hp⟩
  · exact hc reason rfl

theorem RecordOut.after (h : RecordOut w₀ ingestId outboxId s) (hc : Foreign ingestId outboxId c)
    (e : Env) : RecordOut w₀ ingestId outboxId (noted answer Env.applied c e s).1 := by
  rcases noted_cases c e s with ⟨-, heq⟩ | ⟨-, heq⟩
  · rw [heq]
    exact h
  · rw [heq]
    have hcreates (reason : String) : c ≠ .createPendingEnqueueOutbox ingestId reason := by
      rintro rfl
      exact hc.leavesAlone.2 rfl
    refine ⟨h.status.effect hc.leavesAlone, not_hasPending_effect h.none hcreates e.now,
      grown_effect h.grown e.now c, ?_, not_enqueues_append h.notEnqueues hc.leavesAlone.2, ?_⟩
    · exact fun hsent => h.unsent ((Foreign.sentSince_effect hc.leavesAlone h.grown).mp hsent)
    · obtain ⟨record, hrecord, hid, hp, ⟨errorMessage, hmem⟩, hlast⟩ := h.struckOut
      exact ⟨record, hrecord, hid, hp, ⟨errorMessage, List.mem_append_left _ hmem⟩, hlast⟩

end Stages

/-! ## The row's own record in a batch -/

/-- What the keys of the two tables promise. -/
structure Keyed (w : IngestWorld) : Prop where
  log : FreshIds w
  outbox : OutboxKeys w
  onePending : w.tables.pendingIngestIds.Nodup

namespace Keyed

variable {w : IngestWorld}

theorem effect (h : Keyed w) (now : ℕ) (c : IngestCall) : Keyed (effect now w c) :=
  ⟨h.log.effect now c, h.outbox.effect now c, pendingIngestIds_nodup_effect h.onePending now c⟩

theorem pending_unique (h : Keyed w) {record record' : OutboxRow}
    (hrecord : record ∈ w.tables.outbox) (hp : Pending record)
    (hrecord' : record' ∈ w.tables.outbox) (hp' : Pending record')
    (hid : record.ingestId = record'.ingestId) : record = record' := by
  apply List.inj_on_of_nodup_map h.onePending _ _ hid
  · exact List.mem_filter.mpr ⟨hrecord, decide_eq_true hp⟩
  · exact List.mem_filter.mpr ⟨hrecord', decide_eq_true hp'⟩

theorem pairs_nodup (h : Keyed w) : (w.tables.outbox ×ˢ w.tables.ingestLog).Nodup :=
  h.outbox.nodup.of_map.product h.log.nodup.of_map

theorem batch_nodup (h : Keyed w) :
    (w.tables.pendingEnqueueOutbox.map PendingOutboxRecord.id).Nodup := by
  let selected := Table.select DeliverablePair
    (fun a b : OutboxRow × IngestRow => a.1.createdAt ≤ b.1.createdAt) recoveryBatchLimit
    (w.tables.outbox ×ˢ w.tables.ingestLog)
  have hselected : selected.Nodup := by
    apply List.Nodup.sublist (List.take_sublist _ _)
    exact (List.perm_insertionSort _ _).nodup_iff.mpr (h.pairs_nodup.filter _)
  have hids : (selected.map fun pair => pair.1.id).Nodup := by
    refine List.Nodup.map_on (fun a ha b hb hid => ?_) hselected
    obtain ⟨hamem, haid, -, -⟩ := Table.mem_of_mem_select ha
    obtain ⟨hbmem, hbid, -, -⟩ := Table.mem_of_mem_select hb
    obtain ⟨harecord, harow⟩ := List.mem_product.mp hamem
    obtain ⟨hbrecord, hbrow⟩ := List.mem_product.mp hbmem
    have hrecord : a.1 = b.1 := h.outbox.eq_of_id_eq harecord hbrecord hid
    have hrow : a.2 = b.2 := by
      apply h.log.eq_of_id_eq harow hbrow
      rw [haid, hbid, hrecord]
    exact Prod.ext hrecord hrow
  rw [Tables.pendingEnqueueOutbox, List.map_map]
  exact hids

end Keyed

section Own

variable {w₀ : IngestWorld} {ingestId outboxId attempts : ℕ} {s : IngestWorld × List IngestCall}
  {c : IngestCall}

/-- The row's record is pending with so many attempts, and not attempted in this replay. -/
structure Waiting (w₀ : IngestWorld) (ingestId outboxId attempts : ℕ)
    (s : IngestWorld × List IngestCall) : Prop where
  keyed : Keyed s.1
  status : s.1.tables.StatusIs ingestId .replayPending
  pending : ∃ record ∈ s.1.tables.outbox, record.id = outboxId ∧ record.ingestId = ingestId ∧
    Pending record ∧ record.attempts = attempts
  kept : RecordKept w₀ ingestId s.2
  grown : w₀.queues.length ≤ s.1.queues.length
  unsent : ¬ SentSince w₀ s.1 ingestId
  notEnqueues : ¬ Enqueues ingestId s.2
  unstruck : ∀ errorMessage, .markOutboxFailed outboxId errorMessage ∉ s.2

theorem Waiting.live (h : Waiting w₀ ingestId outboxId attempts s)
    (hearlier : EarlierRecord w₀ ingestId outboxId attempts) :
    RecordLive w₀ ingestId outboxId s := by
  obtain ⟨record, hrecord, hid, hown, hp, -⟩ := h.pending
  refine ⟨h.status, ⟨record, hrecord, hid, hown, hp⟩, h.kept, ?_⟩
  rintro earlier hmem hid hp ⟨errorMessage, hstruck⟩
  rw [(hearlier earlier hmem hid hp).1] at hstruck
  exact absurd hstruck (h.unstruck errorMessage)

theorem Waiting.after (h : Waiting w₀ ingestId outboxId attempts s)
    (hc : Foreign ingestId outboxId c) (e : Env) :
    Waiting w₀ ingestId outboxId attempts (noted answer Env.applied c e s).1 := by
  rcases noted_cases c e s with ⟨-, heq⟩ | ⟨-, heq⟩
  · rw [heq]
    exact h
  · rw [heq]
    refine ⟨h.keyed.effect e.now c, h.status.effect hc.leavesAlone,
      pending_of_foreign (a := (· = attempts)) hc h.pending e.now, h.kept.append c,
      grown_effect h.grown e.now c, ?_, not_enqueues_append h.notEnqueues hc.leavesAlone.2, ?_⟩
    · exact fun hsent => h.unsent ((Foreign.sentSince_effect hc.leavesAlone h.grown).mp hsent)
    · intro errorMessage hmem
      rcases List.mem_append.mp hmem with hmem | hmem
      · exact h.unstruck errorMessage hmem
      · exact hc.not_failed errorMessage (List.mem_singleton.mp hmem).symm

theorem Waiting.struck (h : Waiting w₀ ingestId outboxId attempts s)
    (hearlier : EarlierRecord w₀ ingestId outboxId attempts)
    (hnew : w₀.tables.HasPending ingestId ∨ attempts = 0) (errorMessage : String) (e : Env) :
    RecordLive w₀ ingestId outboxId
        (noted answer Env.applied (.markOutboxFailed outboxId errorMessage) e s).1 ∨
      RecordOut w₀ ingestId outboxId
        (noted answer Env.applied (.markOutboxFailed outboxId errorMessage) e s).1 := by
  rcases noted_cases (.markOutboxFailed outboxId errorMessage) e s with ⟨-, heq⟩ | ⟨-, heq⟩
  · rw [heq]
    exact .inl (h.live hearlier)
  · rw [heq]
    obtain ⟨record, hrecord, hid, hown, hp, hattempts⟩ := h.pending
    by_cases hlast : outboxMaxAttempts ≤ attempts + 1
    · right
      obtain ⟨earlier, hmem, hearlierId, hearlierPending⟩ : w₀.tables.HasPending ingestId := by
        apply hnew.resolve_right
        rintro rfl
        exact absurd hlast (by decide)
      obtain ⟨hearlierOwn, hearlierAttempts⟩ := hearlier earlier hmem hearlierId hearlierPending
      refine ⟨h.status.effect (.of_none id rfl), ?_, h.grown, h.unsent,
        not_enqueues_append h.notEnqueues nofun, earlier, hmem, hearlierId, hearlierPending, ⟨errorMessage, ?_⟩, ?_⟩
      · rintro ⟨record', hrecord', hown', hp'⟩
        obtain ⟨old, hold, ⟨hmatch, rfl⟩ | ⟨hne, rfl⟩⟩ := Table.mem_update.mp hrecord'
        · obtain rfl := h.keyed.outbox.eq_of_id_eq hold hrecord (hmatch.trans hid.symm)
          simp only [Pending, hattempts, hlast, if_true] at hp'
          cases hp'
        · obtain rfl := h.keyed.pending_unique hold hp' hrecord hp (hown'.trans hown.symm)
          exact hne hid
      · rw [hearlierOwn]
        exact List.mem_append_right _ (List.mem_singleton.mpr rfl)
      · rw [hearlierAttempts]
        exact hlast
    · left
      refine ⟨h.status.effect (.of_none id rfl),
        ⟨_, Table.mem_update_of hrecord hid, hid, hown, ?_⟩, h.kept.append _, ?_⟩
      · simpa [Pending, hattempts, hlast] using hp
      · intro earlier hmem hearlierId hearlierPending _
        rw [(hearlier earlier hmem hearlierId hearlierPending).2]
        exact .inl (not_le.mp hlast)

/-- Once the record has had its turn the rest of the batch is about others. -/
theorem agrees_of_foreign {α : Type} {p : IngestProgram α}
    (hearlier : EarlierRecord w₀ ingestId outboxId attempts)
    (hp : p.Under (fun _ _ => True) (Foreign ingestId outboxId))
    (h : RecordLive w₀ ingestId outboxId s ∨ RecordOut w₀ ingestId outboxId s) :
    p.Alone (noted answer Env.applied) (fun _ => True) (Agrees w₀ ingestId) (fun _ _ => True) s := by
  rcases h with h | h
  · exact (Alone.of_under hp h fun _ e _ hc _ hs => hs.after hearlier hc e).weaken
      fun _ hs => hs.agrees
  · exact (Alone.of_under hp h fun _ e _ hc _ hs => hs.after hc e).weaken fun _ hs => hs.agrees

/-- Once the message is out it does not matter what follows. -/
theorem agrees_of_messageOut {α : Type} (p : IngestProgram α) (h : MessageOut w₀ ingestId s) :
    p.Alone (noted answer Env.applied) (fun _ => True) (Agrees w₀ ingestId) (fun _ _ => True) s := by
  have hp : p.Under (fun _ _ => True) fun _ => True := by
    induction p with
    | done a => trivial
    | call c next ih => exact ⟨trivial, fun reply _ => ih reply⟩
  exact (Alone.of_under hp h fun c e _ _ _ hs => hs.after c e).weaken fun _ hs => hs.agrees

theorem Waiting.enqueued (h : Waiting w₀ ingestId outboxId attempts s) (queueName : String)
    {message : ProcessingMessage} (hid : message.ingestId = ingestId) (now : ℕ) :
    MessageOut w₀ ingestId (effect now s.1 (.enqueueProcessingMessage queueName message),
      s.2 ++ [.enqueueProcessingMessage queueName message]) where
  grown := grown_effect h.grown now _
  sent := by
    refine ⟨(queueName, message), ?_, hid⟩
    simp only [effect]
    rw [List.drop_append_of_le_length h.grown]
    exact List.mem_append_right _ (List.mem_singleton.mpr rfl)
  kept := h.kept.append _
  enqueues := ⟨queueName, message, List.mem_append_right _ (List.mem_singleton.mpr rfl), hid⟩

theorem foreign_enqueueRecords (config : IngestConfig) {records : List PendingOutboxRecord}
    (h : ∀ record ∈ records, record.ingestId ≠ ingestId ∧ record.id ≠ outboxId)
    (summary : RecoverySummary) :
    (enqueueRecords config records summary).Under (fun _ _ => True) (Foreign ingestId outboxId) := by
  apply enqueueRecords_calls config
  · intro record hrecord errorMessage
    refine ⟨.of_none id rfl, nofun, ?_⟩
    rintro _ ⟨⟩
    exact (h record hrecord).2 rfl
  · intro record hrecord
    refine ⟨.of_none id rfl, ?_, nofun⟩
    rintro ⟨⟩
    exact (h record hrecord).2 rfl
  · exact fun record hrecord _ _ hid =>
      ⟨.of_ne (h record hrecord).1 id (congrArg some hid), nofun, nofun⟩
  · exact fun record hrecord => ⟨.of_ne (h record hrecord).1 id rfl, nofun, nofun⟩

end Own

/-! ## The replay alone with its world -/

section Replay

variable {w₀ : IngestWorld} {ingestId outboxId attempts : ℕ}

/-- Between any two calls of a program the world and the calls that took effect agree. -/
abbrev AlwaysAgrees {α : Type} (w₀ : IngestWorld) (ingestId : Uuid) (p : IngestProgram α)
    (s : IngestWorld × List IngestCall) : Prop :=
  p.Alone (noted answer Env.applied) (fun _ => True) (Agrees w₀ ingestId) (fun _ _ => True) s

theorem Waiting.done {α : Type} {s : IngestWorld × List IngestCall}
    (h : Waiting w₀ ingestId outboxId attempts s)
    (hearlier : EarlierRecord w₀ ingestId outboxId attempts) (a : α) :
    AlwaysAgrees w₀ ingestId (.done a) s := ⟨(h.live hearlier).agrees, trivial⟩

theorem Waiting.call {α : Type} {s : IngestWorld × List IngestCall} {c : IngestCall}
    {next : c.Reply → IngestProgram α} (h : Waiting w₀ ingestId outboxId attempts s)
    (hearlier : EarlierRecord w₀ ingestId outboxId attempts) (hc : Foreign ingestId outboxId c)
    (hnext : ∀ reply s', Waiting w₀ ingestId outboxId attempts s' →
      AlwaysAgrees w₀ ingestId (next reply) s') : AlwaysAgrees w₀ ingestId (Program.call c next) s :=
  ⟨(h.live hearlier).agrees, fun e _ => hnext _ _ (h.after hc e)⟩

theorem Waiting.own (config : IngestConfig) {record : PendingOutboxRecord}
    {records : List PendingOutboxRecord} {s : IngestWorld × List IngestCall}
    (h : Waiting w₀ ingestId outboxId attempts s)
    (hearlier : EarlierRecord w₀ ingestId outboxId attempts)
    (hnew : w₀.tables.HasPending ingestId ∨ attempts = 0)
    (hid : record.id = outboxId) (hown : record.ingestId = ingestId)
    (hothers : ∀ other ∈ records, other.ingestId ≠ ingestId ∧ other.id ≠ outboxId)
    (summary : RecoverySummary) :
    AlwaysAgrees w₀ ingestId (enqueueRecords config (record :: records) summary) s := by
  have hagrees := (h.live hearlier).agrees
  have hrest := foreign_enqueueRecords config hothers
  unfold enqueueRecords
  split
  · refine ⟨hagrees, fun e _ => ?_⟩
    rw [hid]
    apply agrees_of_foreign hearlier _ (h.struck hearlier hnew _ e)
    cases (noted answer Env.applied (.markOutboxFailed outboxId _) e s).2 with
    | error error => trivial
    | ok _ => exact hrest _
  · next message hmessage =>
    have hmessageId := (ProcessingMessage.new_ingestId hmessage).trans hown
    refine ⟨hagrees, fun e _ => ?_⟩
    rcases noted_cases (.enqueueProcessingMessage config.azureQueueName message) e s with
      ⟨hfailed, heq⟩ | ⟨-, heq⟩
    · have hreply : (noted answer Env.applied
          (.enqueueProcessingMessage config.azureQueueName message) e s).2 =
            .error e.storageError :=
        answer_reply_of_error (by rw [hfailed]; decide) s.1
      rw [heq, hreply]
      refine ⟨hagrees, fun e' _ => ?_⟩
      rw [hid]
      apply agrees_of_foreign hearlier _ (h.struck hearlier hnew _ e')
      cases (noted answer Env.applied (.markOutboxFailed outboxId _) e' s).2 with
      | error error => trivial
      | ok _ => exact hrest _
    · rw [heq]
      exact agrees_of_messageOut _ (h.enqueued _ hmessageId e.now)

/-- The loop over a batch that may have the row's record in it, once. -/
theorem Waiting.enqueueRecords (config : IngestConfig)
    (hearlier : EarlierRecord w₀ ingestId outboxId attempts)
    (hnew : w₀.tables.HasPending ingestId ∨ attempts = 0) (records : List PendingOutboxRecord)
    (hown : ∀ record ∈ records, record.ingestId = ingestId ↔ record.id = outboxId)
    (hnodup : (records.map PendingOutboxRecord.id).Nodup) (summary : RecoverySummary)
    {s : IngestWorld × List IngestCall} (h : Waiting w₀ ingestId outboxId attempts s) :
    AlwaysAgrees w₀ ingestId (enqueueRecords config records summary) s := by
  induction records generalizing summary s with
  | nil => exact h.done hearlier _
  | cons record records ih =>
    obtain ⟨hhead, htail⟩ := List.nodup_cons.mp hnodup
    have hrest := ih (fun other hother => hown other (List.mem_cons_of_mem _ hother)) htail
    by_cases hid : record.id = outboxId
    · apply h.own config hearlier hnew hid ((hown record List.mem_cons_self).mpr hid)
      intro other hother
      have hne : other.id ≠ outboxId := by
        rintro hother'
        exact hhead (List.mem_map.mpr ⟨other, hother, hother'.trans hid.symm⟩)
      exact ⟨mt (hown other (List.mem_cons_of_mem _ hother)).mp hne, hne⟩
    · have hother : record.ingestId ≠ ingestId := mt (hown record List.mem_cons_self).mp hid
      have hstrike (errorMessage : String) :
          Foreign ingestId outboxId (.markOutboxFailed record.id errorMessage) := by
        refine ⟨.of_none (fun h => h) rfl, nofun, ?_⟩
        rintro _ ⟨⟩
        exact hid rfl
      have hcompleted : Foreign ingestId outboxId (.markOutboxCompleted record.id) := by
        refine ⟨.of_none (fun h => h) rfl, ?_, nofun⟩
        rintro ⟨⟩
        exact hid rfl
      unfold Ingest.enqueueRecords
      split
      · refine h.call hearlier (hstrike _) fun reply s h => ?_
        cases reply with
        | error error => exact h.done hearlier _
        | ok _ => exact hrest _ h
      · next message hmessage =>
        have hmessageId := ProcessingMessage.new_ingestId hmessage
        have henqueue : Foreign ingestId outboxId
            (.enqueueProcessingMessage config.azureQueueName message) :=
          ⟨.of_ne hother (fun h => h) (congrArg some hmessageId), nofun, nofun⟩
        have hmark : Foreign ingestId outboxId (.setStatus record.ingestId .enqueued none) :=
          ⟨.of_ne hother (fun h => h) rfl, nofun, nofun⟩
        refine h.call hearlier henqueue fun reply s h => ?_
        cases reply with
        | error error =>
          refine h.call hearlier (hstrike _) fun reply s h => ?_
          cases reply with
          | error error => exact h.done hearlier _
          | ok _ => exact hrest _ h
        | ok _ =>
          refine h.call hearlier hmark fun reply s h => ?_
          cases reply with
          | error error => exact h.done hearlier _
          | ok _ =>
            refine h.call hearlier hcompleted fun reply s h => ?_
            cases reply with
            | error error => exact h.done hearlier _
            | ok _ => exact hrest _ h

/-- What the query hands over of the row is its pending record. -/
theorem Waiting.own_iff {s : IngestWorld × List IngestCall}
    (h : Waiting w₀ ingestId outboxId attempts s) {record : PendingOutboxRecord}
    (hrecord : record ∈ s.1.tables.pendingEnqueueOutbox) :
    record.ingestId = ingestId ↔ record.id = outboxId := by
  obtain ⟨own, hown, hownId, hownRow, hownPending, -⟩ := h.pending
  obtain ⟨pair, hpair, rfl⟩ := List.mem_map.mp hrecord
  obtain ⟨hmem, hid, hp, -⟩ := Table.mem_of_mem_select hpair
  have hpairMem := (List.mem_product.mp hmem).1
  constructor
  · intro hrow
    obtain heq : pair.1 = own :=
      h.keyed.pending_unique hpairMem hp hown hownPending (hid.symm.trans (hrow.trans hownRow.symm))
    exact (congrArg OutboxRow.id heq).trans hownId
  · intro hpairId
    obtain heq : pair.1 = own := h.keyed.outbox.eq_of_id_eq hpairMem hown (hpairId.trans hownId.symm)
    exact hid.trans ((congrArg OutboxRow.ingestId heq).trans hownRow)

theorem Waiting.enqueuePendingOutbox (config : IngestConfig) {s : IngestWorld × List IngestCall}
    (h : Waiting w₀ ingestId outboxId attempts s)
    (hearlier : EarlierRecord w₀ ingestId outboxId attempts)
    (hnew : w₀.tables.HasPending ingestId ∨ attempts = 0) (summary : RecoverySummary) :
    AlwaysAgrees w₀ ingestId (enqueuePendingOutbox config summary) s := by
  refine ⟨(h.live hearlier).agrees, fun e _ => ?_⟩
  have hafter := h.after (c := .pendingEnqueueOutbox) ⟨.of_none (fun h => h) rfl, nofun, nofun⟩ e
  by_cases hok : e.outcome = .ok
  · have hreply : (noted answer Env.applied .pendingEnqueueOutbox e s).2 =
        .ok s.1.tables.pendingEnqueueOutbox := answer_reply_of_ok hok s.1
    rw [hreply]
    exact hafter.enqueueRecords config hearlier hnew _ (fun _ => h.own_iff) h.keyed.batch_nodup _
  · have hreply : (noted answer Env.applied .pendingEnqueueOutbox e s).2 = .error e.dbError :=
      answer_reply_of_error hok s.1
    rw [hreply]
    exact hafter.done hearlier _

/-- After the status update and before the insert only an earlier record makes the row
recoverable. -/
structure Updated (w₀ : IngestWorld) (ingestId : Uuid) (s : IngestWorld × List IngestCall) :
    Prop where
  keyed : Keyed s.1
  status : s.1.tables.StatusIs ingestId .replayPending
  outbox : s.1.tables.outbox = w₀.tables.outbox
  queues : s.1.queues = w₀.queues
  calls : s.2 = [.replayRejectedStatus ingestId]

section Updated

variable {s : IngestWorld × List IngestCall}

theorem Updated.unsent (h : Updated w₀ ingestId s) : ¬ SentSince w₀ s.1 ingestId := by
  rintro ⟨entry, hentry, -⟩
  rw [h.queues, List.drop_length] at hentry
  cases hentry

theorem Updated.agrees (h : Updated w₀ ingestId s) : Agrees w₀ ingestId s := by
  have hkept : CarriedThrough w₀ ingestId s.2 ↔ w₀.tables.HasPending ingestId := by
    rw [h.calls]
    constructor
    · rintro ⟨hkept, -⟩
      rcases hkept List.mem_cons_self with hp | ⟨reason, hmem⟩
      · exact hp
      · cases List.mem_singleton.mp hmem
    · intro hp
      refine ⟨fun _ => .inl hp, ?_⟩
      rintro record - - - ⟨errorMessage, hmem⟩
      cases List.mem_singleton.mp hmem
  have hpending : s.1.tables.HasPending ingestId ↔ w₀.tables.HasPending ingestId := by
    rw [Tables.HasPending, Tables.HasPending, h.outbox]
  rw [Agrees, hkept, ← hpending]
  constructor
  · rintro (hs | hs | hsent | ⟨-, hp⟩)
    · exact absurd (h.status.hasStatus_iff.mp hs) (by decide)
    · exact absurd (h.status.hasStatus_iff.mp hs) (by decide)
    · exact absurd hsent h.unsent
    · exact hp
  · exact fun hp => .inr (.inr (.inr ⟨h.status.hasStatus_iff.mpr rfl, hp⟩))

theorem Updated.notEnqueues (h : Updated w₀ ingestId s) : ¬ Enqueues ingestId s.2 := by
  rw [h.calls]
  rintro ⟨queueName, message, hmem, -⟩
  cases List.mem_singleton.mp hmem

/-- The insert leaves the row waiting for its record, be it the earlier one or a new one. -/
theorem Updated.waiting (h : Updated w₀ ingestId s) (hkeyed : Keyed w₀) (reason : String)
    (now : ℕ) : ∃ outboxId attempts, EarlierRecord w₀ ingestId outboxId attempts ∧
      (w₀.tables.HasPending ingestId ∨ attempts = 0) ∧
      Waiting w₀ ingestId outboxId attempts
        (effect now s.1 (.createPendingEnqueueOutbox ingestId reason),
          s.2 ++ [.createPendingEnqueueOutbox ingestId reason]) := by
  have hwaiting (outboxId attempts : ℕ)
      (hpending : ∃ record ∈ (effect now s.1 (.createPendingEnqueueOutbox ingestId reason)).tables.outbox,
        record.id = outboxId ∧ record.ingestId = ingestId ∧ Pending record ∧
          record.attempts = attempts) :
      Waiting w₀ ingestId outboxId attempts
        (effect now s.1 (.createPendingEnqueueOutbox ingestId reason),
          s.2 ++ [.createPendingEnqueueOutbox ingestId reason]) := by
    refine ⟨h.keyed.effect now (.createPendingEnqueueOutbox ingestId reason), ?_, hpending, ?_,
      (congrArg List.length h.queues).ge, h.unsent, ?_, ?_⟩
    · constructor
      · simpa [effect] using h.status.exists_row
      · simpa [effect] using h.status.status_eq
    · exact .inr ⟨reason, List.mem_append_right _ (List.mem_singleton.mpr rfl)⟩
    · rintro ⟨queueName, message, hmem, hid⟩
      rcases List.mem_append.mp hmem with hmem | hmem
      · exact h.notEnqueues ⟨queueName, message, hmem, hid⟩
      · cases List.mem_singleton.mp hmem
    · intro errorMessage hmem
      rw [h.calls] at hmem
      simp at hmem
  rcases s.1.tables.createPendingEnqueueOutbox_cases ingestId reason s.1.nextId now with
    ⟨existing, hmem, hid, hp, heq⟩ | ⟨hnone, heq⟩ | ⟨hnoRow, -⟩
  · rw [h.outbox] at hmem
    refine ⟨existing.id, existing.attempts, ?_, .inl ⟨existing, hmem, hid, hp⟩, hwaiting _ _ ?_⟩
    · intro record hrecord hrecordRow hrecordPending
      obtain rfl := hkeyed.pending_unique hrecord hrecordPending hmem hp (hrecordRow.trans hid.symm)
      exact ⟨rfl, rfl⟩
    · simp only [effect, heq, h.outbox]
      exact ⟨_, Table.mem_update_of hmem ⟨hid, hp⟩, rfl, hid, hp, rfl⟩
  · refine ⟨s.1.nextId, 0, ?_, .inr rfl, hwaiting _ _ ?_⟩
    · intro record hrecord hrecordRow hrecordPending
      rw [← h.outbox] at hrecord
      exact absurd ⟨record, hrecord, hrecordRow, hrecordPending⟩ hnone
    · simp only [effect, heq]
      exact ⟨_, List.mem_append_right _ (List.mem_singleton.mpr rfl), rfl, rfl, rfl, rfl⟩
  · exact absurd h.status.exists_row hnoRow

end Updated

theorem Keyed.statusIs {w : IngestWorld} (h : Keyed w) {status : IngestStatus}
    (hstatus : w.tables.HasStatus ingestId status) : w.tables.StatusIs ingestId status := by
  obtain ⟨row, hrow, rfl, rfl⟩ := hstatus
  refine ⟨⟨row, hrow, rfl⟩, fun other hother hid => ?_⟩
  rw [h.log.eq_of_id_eq hother hrow hid]

theorem updated_of_rejected {w : IngestWorld} (h : Keyed w)
    (hrejected : w.tables.HasStatus ingestId .rejected) (now : ℕ) :
    Updated w ingestId (effect now w (.replayRejectedStatus ingestId),
      [.replayRejectedStatus ingestId]) where
  keyed := h.effect now (.replayRejectedStatus ingestId)
  status := by
    have hstatus := h.statusIs hrejected
    obtain ⟨row, hrow, hid⟩ := hstatus.exists_row
    constructor
    · exact ⟨_, Table.mem_update_of hrow ⟨hid, hstatus.status_eq row hrow hid⟩, hid⟩
    · intro row' hrow' hid'
      obtain ⟨old, hold, ⟨-, rfl⟩ | ⟨hne, rfl⟩⟩ := Table.mem_update.mp hrow'
      · rfl
      · exact absurd ⟨hid', hstatus.status_eq row' hold hid'⟩ hne
  outbox := rfl
  queues := rfl
  calls := rfl

theorem replayRejectedStatus_count_ne_zero {w : IngestWorld}
    (h : w.tables.HasStatus ingestId .rejected) {now : ℕ} :
    (w.tables.replayRejectedStatus ingestId now).2 ≠ 0 := by
  obtain ⟨row, hrow, hid, hs⟩ := h
  have hmem : row ∈ w.tables.ingestLog.filter
      fun row => row.id = ingestId ∧ row.status = .rejected :=
    List.mem_filter.mpr ⟨hrow, decide_eq_true ⟨hid, hs⟩⟩
  exact (List.length_pos_of_mem hmem).ne'

theorem agrees_start {w : IngestWorld} (hrejected : w.tables.HasStatus ingestId .rejected) :
    Agrees w ingestId (w, []) := by
  refine iff_of_true (.inl hrejected) ⟨fun h => absurd h List.not_mem_nil, ?_⟩
  rintro record - - - ⟨errorMessage, h⟩
  exact absurd h List.not_mem_nil

/-- The row has a pending record that this replay has not attempted. -/
def ReadyToDeliver (w₀ : IngestWorld) (ingestId : Uuid) (s : IngestWorld × List IngestCall) : Prop :=
  ∃ outboxId attempts, EarlierRecord w₀ ingestId outboxId attempts ∧
    (w₀.tables.HasPending ingestId ∨ attempts = 0) ∧ Waiting w₀ ingestId outboxId attempts s

theorem ReadyToDeliver.agrees {s : IngestWorld × List IngestCall}
    (h : ReadyToDeliver w₀ ingestId s) : Agrees w₀ ingestId s := by
  obtain ⟨outboxId, attempts, hearlier, -, hwaiting⟩ := h
  exact (hwaiting.live hearlier).agrees

theorem Updated.insert_alone (h : Keyed w₀) {s : IngestWorld × List IngestCall}
    (hs : Updated w₀ ingestId s) (reason : String) :
    (createPendingEnqueueOutbox ingestId reason >>= fun reply =>
      match reply with
      | .error error => pure (.error error)
      | .ok _ => pure (.ok true) : IngestProgram (Except DbError Bool)).Alone
        (noted answer Env.applied) (fun _ => True) (Agrees w₀ ingestId)
        (fun s outcome => outcome = .ok true → ReadyToDeliver w₀ ingestId s) s := by
  refine ⟨hs.agrees, fun e _ => ?_⟩
  rcases noted_cases (.createPendingEnqueueOutbox ingestId reason) e s with
    ⟨hfailed, heq⟩ | ⟨-, heq⟩
  · have hreply : (noted answer Env.applied (.createPendingEnqueueOutbox ingestId reason) e s).2 =
        .error e.dbError := answer_reply_of_error (by rw [hfailed]; decide) s.1
    rw [heq, hreply]
    exact ⟨hs.agrees, nofun⟩
  · have hready : ReadyToDeliver w₀ ingestId (effect e.now s.1
        (.createPendingEnqueueOutbox ingestId reason),
          s.2 ++ [.createPendingEnqueueOutbox ingestId reason]) := hs.waiting h reason e.now
    rw [heq]
    cases (noted answer Env.applied (.createPendingEnqueueOutbox ingestId reason) e s).2 with
    | error error => exact ⟨hready.agrees, nofun⟩
    | ok _ => exact ⟨hready.agrees, fun _ => hready⟩

theorem replayRejected_alone {w : IngestWorld} (h : Keyed w)
    (hrejected : w.tables.HasStatus ingestId .rejected) (reason : String) :
    (replayRejected ingestId reason).Alone (noted answer Env.applied) (fun _ => True)
      (Agrees w ingestId) (fun s outcome => outcome = .ok true → ReadyToDeliver w ingestId s)
      (w, []) := by
  have hstart := agrees_start hrejected
  refine ⟨hstart, fun e _ => ?_⟩
  rcases noted_cases (.replayRejectedStatus ingestId) e (w, []) with ⟨hfailed, heq⟩ | ⟨-, heq⟩
  · have hreply : (noted answer Env.applied (.replayRejectedStatus ingestId) e (w, [])).2 =
        .error e.dbError := answer_reply_of_error (by rw [hfailed]; decide) w
    rw [heq, hreply]
    exact ⟨hstart, nofun⟩
  · have hupdated := updated_of_rejected h hrejected e.now
    rw [heq]
    by_cases hok : e.outcome = .ok
    · have hreply : (noted answer Env.applied (.replayRejectedStatus ingestId) e (w, [])).2 =
          .ok (w.tables.replayRejectedStatus ingestId e.now).2 := answer_reply_of_ok hok w
      rw [hreply]
      simp only [Program.andThen, replayRejectedStatus_count_ne_zero hrejected, if_false]
      exact hupdated.insert_alone h reason
    · have hreply : (noted answer Env.applied (.replayRejectedStatus ingestId) e (w, [])).2 =
          .error e.dbError := answer_reply_of_error hok w
      rw [hreply]
      exact ⟨hupdated.agrees, nofun⟩

theorem replayRejectedGranule_agrees (config : IngestConfig) {w : IngestWorld} (h : Keyed w)
    (hrejected : w.tables.HasStatus ingestId .rejected) :
    AlwaysAgrees w ingestId (replayRejectedGranule config ingestId) (w, []) := by
  apply Alone.bind (replayRejected_alone h hrejected "operator_replay_rejected")
  intro s outcome hagrees hready
  cases outcome with
  | error error => exact ⟨hagrees, trivial⟩
  | ok replayed =>
    cases replayed with
    | false => exact ⟨hagrees, trivial⟩
    | true =>
      obtain ⟨outboxId, attempts, hearlier, hnew, hwaiting⟩ := hready rfl
      refine hwaiting.call hearlier ⟨.of_none (fun h => h) rfl, nofun, nofun⟩ fun reply s' h' => ?_
      cases reply with
      | error error => exact h'.done hearlier _
      | ok _ => exact h'.enqueuePendingOutbox config hearlier hnew _

/-- Wherever a replay of a rejected row fails or stops, one can go on from there exactly if the
status update, where it took effect, goes with a pending record, and no strike was the last of the
row's record while its message was not enqueued. -/
theorem continuable_replay_iff (config : IngestConfig) (ingestId : Uuid) (w : IngestWorld)
    (hkeyed : Keyed w) (hrejected : w.tables.HasStatus ingestId .rejected) (choices : ℕ → Env)
    (n : ℕ) :
    Continuable w (worldAfter answer n (replayRejectedGranule config ingestId) choices w) ingestId ↔
      CarriedThrough w ingestId
        (effective answer Env.applied n (replayRejectedGranule config ingestId) choices w) := by
  have hagrees : Agrees w ingestId (worldAfter (noted answer Env.applied) n
      (replayRejectedGranule config ingestId) choices (w, [])) :=
    (replayRejectedGranule_agrees config hkeyed hrejected).worldAfter n fun _ => trivial
  rw [Agrees, worldAfter_noted] at hagrees
  exact hagrees

end Replay

/-! ## A replay that stops between its two statements -/

def rejectedRow : IngestRow := { IngestPool.validatedRow with
  status := .rejected
  errorMessage := some (truncateErrorMessage
    (IngestFailureContext.rawValidation .missingHdf5Magic).databaseMessage) }

def rejectedWorld : IngestWorld where
  tables := { ingestLog := [rejectedRow], outbox := [] }
  nextId := 1
  queues := []

theorem keyed_rejectedWorld : Keyed rejectedWorld where
  log := by
    refine ⟨List.nodup_singleton _, fun row hrow => ?_⟩
    rw [List.mem_singleton.mp hrow]
    exact Nat.zero_lt_one
  outbox := ⟨List.nodup_nil, fun _ h => absurd h List.not_mem_nil⟩
  onePending := List.nodup_nil

/-- The calls with these numbers fail, and the others succeed. -/
def failing (calls : List ℕ) (i : ℕ) : Env := sampleEnv (if i ∈ calls then .failed else .ok)

/-- The insert fails: the row is no longer rejected, so a replay refuses it, and neither recovery
query asks for it. -/
theorem not_continuable_of_insertFailure :
    rejectedWorld.tables.HasStatus 0 .rejected ∧
      ¬ Continuable rejectedWorld
        (worldAfter answer 2 (replayRejectedGranule sampleConfig 0) (failing [1]) rejectedWorld) 0 ∧
      (worldAfter answer 2 (replayRejectedGranule sampleConfig 0) (failing [1])
        rejectedWorld).tables.recoverableRawRows = [] ∧
      (worldAfter answer 2 (replayRejectedGranule sampleConfig 0) (failing [1])
        rejectedWorld).tables.pendingEnqueueOutbox = [] := by
  refine ⟨by decide, ?_, by decide, by decide⟩
  rintro (h | h | ⟨entry, hentry, -⟩ | ⟨-, h⟩)
  · revert h
    decide
  · revert h
    decide
  · cases hentry
  · obtain ⟨record, hrecord, -⟩ := h
    cases hrecord

/-- The queue refuses the message: the record is struck once, and stays pending. -/
theorem continuable_of_queueFailure :
    Continuable rejectedWorld
      (worldAfter answer 6 (replayRejectedGranule sampleConfig 0) (failing [4]) rejectedWorld) 0 := by
  apply (continuable_replay_iff sampleConfig 0 rejectedWorld keyed_rejectedWorld (by decide)
    (failing [4]) 6).mpr
  refine ⟨fun _ => .inr ⟨"operator_replay_rejected", ?_⟩, fun record hrecord => ?_⟩
  · exact List.mem_cons_of_mem _ List.mem_cons_self
  · exact absurd hrecord List.not_mem_nil

end LumenHorizon.Ingest
