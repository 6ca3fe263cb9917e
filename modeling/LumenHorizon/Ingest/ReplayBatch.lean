import LumenHorizon.Ingest.RejectedReplay

/-! # The batch a replay delivers

A replay of one row enqueues a batch of the oldest deliverable records, whichever rows they are of.
The row's own message is among those sent if its record has a place in the batch.
-/

namespace LumenHorizon.Ingest
open Foundation Shared Program IngestProgram

/-- `ProcessingMessage::new` accepts the fields of the record. -/
def PendingOutboxRecord.HasMessage (record : PendingOutboxRecord) : Prop :=
  ∃ message, ProcessingMessage.new record.ingestId record.blobPath record.product
    record.granuleDate record.tileH record.tileV = .ok message

theorem answer_ok_or_failure (c : IngestCall) (e : Env) (w : IngestWorld) :
    answer c e w = (effect e.now w c, result e w c) ∨ (answer c e w).2 = failure e c := by
  by_cases hok : e.outcome = .ok
  · left
    have happlied : e.outcome ≠ .failed := by
      rw [hok]
      decide
    exact Prod.ext (answer_world_of_applied happlied w) (answer_reply_of_ok hok w)
  · exact .inr (answer_reply_of_error hok w)

theorem answer_of_ok {e : Env} (h : e.outcome = .ok) (c : IngestCall) (w : IngestWorld) :
    answer c e w = (effect e.now w c, result e w c) := by
  have happlied : e.outcome ≠ .failed := by
    rw [h]
    decide
  exact Prod.ext (answer_world_of_applied happlied w) (answer_reply_of_ok h w)

/-! ## A batch without failures -/

/-- From `w` to `w'` every record's message was put on a queue, in order, and its row marked. -/
structure Delivered (records : List PendingOutboxRecord) (w w' : IngestWorld) : Prop where
  messages : ∀ record ∈ records, record.HasMessage
  queues : ∃ entries, w'.queues = w.queues ++ entries ∧
    entries.map (fun entry => entry.2.ingestId) = records.map PendingOutboxRecord.ingestId
  marked : ∀ record ∈ records, w.tables.HasRow record.ingestId →
    w'.tables.HasStatus record.ingestId .enqueued
  kept : ∀ ingestId, w.tables.HasStatus ingestId .enqueued → w'.tables.HasStatus ingestId .enqueued

theorem Delivered.nil (w : IngestWorld) : Delivered [] w w where
  messages := fun _ h => absurd h List.not_mem_nil
  queues := ⟨[], (List.append_nil _).symm, rfl⟩
  marked := fun _ h => absurd h List.not_mem_nil
  kept := fun _ h => h

section Batch

variable {config : IngestConfig} {record : PendingOutboxRecord} {records : List PendingOutboxRecord}
  {w w' : IngestWorld}

theorem hasRow_effect {ingestId : Uuid} (h : w.tables.HasRow ingestId) (now : ℕ) (c : IngestCall) :
    (effect now w c).tables.HasRow ingestId :=
  (hasRow_effect_iff (e := { sampleEnv .ok with now := now })).mpr (.inl h)

/-- One record's turn, when every call of it succeeds. -/
def delivered (config : IngestConfig) (record : PendingOutboxRecord) (message : ProcessingMessage)
    (now₀ now₁ now₂ : ℕ) (w : IngestWorld) : IngestWorld :=
  effect now₂ (effect now₁
    (effect now₀ w (.enqueueProcessingMessage config.azureQueueName message))
      (.setStatus record.ingestId .enqueued none)) (.markOutboxCompleted record.id)

theorem hasRow_delivered {ingestId : Uuid} (h : w.tables.HasRow ingestId)
    (message : ProcessingMessage) (now₀ now₁ now₂ : ℕ) :
    (delivered config record message now₀ now₁ now₂ w).tables.HasRow ingestId :=
  hasRow_effect (hasRow_effect (hasRow_effect h _ _) _ _) _ _

theorem hasStatus_delivered {ingestId : Uuid} (h : w.tables.HasStatus ingestId .enqueued)
    (message : ProcessingMessage) (now₀ now₁ now₂ : ℕ) :
    (delivered config record message now₀ now₁ now₂ w).tables.HasStatus ingestId .enqueued := by
  have hmarks : KeepsEnqueued ingestId (.setStatus record.ingestId .enqueued none) := by
    rintro status errorMessage ⟨⟩
    rfl
  apply hasStatus_enqueued_effect (c := .markOutboxCompleted record.id) _ nofun
  apply hasStatus_enqueued_effect _ hmarks
  exact hasStatus_enqueued_effect
    (c := .enqueueProcessingMessage config.azureQueueName message) h nofun now₀

theorem hasStatus_delivered_self (h : w.tables.HasRow record.ingestId)
    (message : ProcessingMessage) (now₀ now₁ now₂ : ℕ) :
    (delivered config record message now₀ now₁ now₂ w).tables.HasStatus record.ingestId .enqueued := by
  apply hasStatus_enqueued_effect (c := .markOutboxCompleted record.id) _ nofun
  obtain ⟨row, hmem, hid⟩ := List.mem_map.mp h
  exact ⟨_, Table.mem_update_of hmem hid, hid, rfl⟩

theorem Delivered.cons {message : ProcessingMessage} {now₀ now₁ now₂ : ℕ}
    (hmessage : ProcessingMessage.new record.ingestId record.blobPath record.product
      record.granuleDate record.tileH record.tileV = .ok message)
    (h : Delivered records (delivered config record message now₀ now₁ now₂ w) w') :
    Delivered (record :: records) w w' where
  messages := by
    intro other hother
    rcases List.mem_cons.mp hother with rfl | hother
    · exact ⟨message, hmessage⟩
    · exact h.messages other hother
  queues := by
    obtain ⟨entries, hqueues, hids⟩ := h.queues
    refine ⟨(config.azureQueueName, message) :: entries, ?_, ?_⟩
    · rw [hqueues]
      simp [delivered, effect]
    · simp [hids, ProcessingMessage.new_ingestId hmessage]
  marked := by
    intro other hother hrow
    rcases List.mem_cons.mp hother with rfl | hother
    · exact h.kept _ (hasStatus_delivered_self hrow message now₀ now₁ now₂)
    · exact h.marked other hother (hasRow_delivered hrow message now₀ now₁ now₂)
  kept := fun ingestId hstatus => h.kept ingestId (hasStatus_delivered hstatus message now₀ now₁ now₂)

/-- A run that ends well has the failures of `summary`, or more; with no more it has delivered every
record. -/
def DeliversUnlessFailed (records : List PendingOutboxRecord) (failed : ℕ) (w w' : IngestWorld)
    (outcome : Except IngestError RecoverySummary) : Prop :=
  ∀ s, outcome = .ok s → failed ≤ s.failed ∧ (s.failed = failed → Delivered records w w')

theorem DeliversUnlessFailed.of_more {failed : ℕ} {w₁ w₂ : IngestWorld}
    {records' : List PendingOutboxRecord} {outcome : Except IngestError RecoverySummary}
    (h : DeliversUnlessFailed records (failed + 1) w₁ w' outcome) :
    DeliversUnlessFailed records' failed w₂ w' outcome := by
  intro s hs
  have hle := (h s hs).1
  exact ⟨by omega, fun heq => by omega⟩

theorem deliversUnlessFailed_error {failed : ℕ} (error : IngestError) :
    DeliversUnlessFailed records failed w w' (.error error) := nofun

theorem enqueueRecords_delivers (config : IngestConfig) (records : List PendingOutboxRecord)
    (summary : RecoverySummary) (w : IngestWorld) :
    (enqueueRecords config records summary).Alone answer (fun _ => True) (fun _ => True)
      (DeliversUnlessFailed records summary.failed w) w := by
  induction records generalizing summary w with
  | nil =>
    refine ⟨trivial, fun s hs => ?_⟩
    obtain rfl : summary = s := Except.ok.inj hs
    exact ⟨le_rfl, fun _ => Delivered.nil w⟩
  | cons record records ih =>
    unfold enqueueRecords
    split
    · refine ⟨trivial, fun e _ => ?_⟩
      cases (answer (.markOutboxFailed record.id _) e w).2 with
      | error error => exact ⟨trivial, deliversUnlessFailed_error _⟩
      | ok _ => exact (ih _ _).mono fun _ _ _ h => h.of_more
    · next message hmessage =>
      refine ⟨trivial, fun e₀ _ => ?_⟩
      rcases answer_ok_or_failure (.enqueueProcessingMessage config.azureQueueName message) e₀ w with
        heq | heq
      · rw [heq]
        refine ⟨trivial, fun e₁ _ => ?_⟩
        rcases answer_ok_or_failure (.setStatus record.ingestId .enqueued none) e₁
          (effect e₀.now w (.enqueueProcessingMessage config.azureQueueName message)) with heq | heq
        · rw [heq]
          refine ⟨trivial, fun e₂ _ => ?_⟩
          rcases answer_ok_or_failure (.markOutboxCompleted record.id) e₂
            (effect e₁.now
              (effect e₀.now w (.enqueueProcessingMessage config.azureQueueName message))
                (.setStatus record.ingestId .enqueued none)) with heq | heq
          · rw [heq]
            refine (ih _ _).mono fun w' outcome _ h s hs => ?_
            exact ⟨(h s hs).1, fun hfailed => ((h s hs).2 hfailed).cons hmessage⟩
          · rw [heq]
            exact ⟨trivial, deliversUnlessFailed_error _⟩
        · rw [heq]
          exact ⟨trivial, deliversUnlessFailed_error _⟩
      · rw [heq]
        refine ⟨trivial, fun e _ => ?_⟩
        cases (answer (.markOutboxFailed record.id _) e _).2 with
        | error error => exact ⟨trivial, deliversUnlessFailed_error _⟩
        | ok _ => exact (ih _ _).mono fun _ _ _ h => h.of_more

/-- Where every call succeeds and every record has its message, nothing fails. -/
theorem enqueueRecords_succeeds (config : IngestConfig) (records : List PendingOutboxRecord)
    (summary : RecoverySummary) (w : IngestWorld) (h : ∀ record ∈ records, record.HasMessage) :
    (enqueueRecords config records summary).Alone answer (fun e => e.outcome = .ok) (fun _ => True)
      (fun _ outcome => ∃ s, outcome = .ok s ∧ s.failed = summary.failed) w := by
  induction records generalizing summary w with
  | nil => exact ⟨trivial, summary, rfl, rfl⟩
  | cons record records ih =>
    obtain ⟨message, hmessage⟩ := h record List.mem_cons_self
    have hrest := ih { summary with
      outboxExamined := summary.outboxExamined + 1
      enqueued := summary.enqueued + 1 }
    simp only [enqueueRecords, hmessage]
    refine ⟨trivial, fun e he => ?_⟩
    rw [answer_of_ok he]
    refine ⟨trivial, fun e he => ?_⟩
    rw [answer_of_ok he]
    refine ⟨trivial, fun e he => ?_⟩
    rw [answer_of_ok he]
    exact hrest _ fun other hother => h other (List.mem_cons_of_mem _ hother)

theorem exec_enqueueRecords_delivers (config : IngestConfig) (records : List PendingOutboxRecord)
    (summary : RecoverySummary) (choices : ℕ → Env) (w : IngestWorld) :
    DeliversUnlessFailed records summary.failed w
      ((enqueueRecords config records summary).exec answer choices w).1
      ((enqueueRecords config records summary).exec answer choices w).2 :=
  ((enqueueRecords_delivers config records summary w).exec fun _ => trivial).2

theorem exec_enqueueRecords_succeeds (config : IngestConfig) {records : List PendingOutboxRecord}
    (summary : RecoverySummary) {choices : ℕ → Env} (w : IngestWorld)
    (h : ∀ record ∈ records, record.HasMessage) (hok : ∀ i, (choices i).outcome = .ok) :
    ∃ s, ((enqueueRecords config records summary).exec answer choices w).2 = .ok s ∧
      s.failed = summary.failed :=
  ((enqueueRecords_succeeds config records summary w h).exec hok).2

end Batch

/-! ## The replay up to its batch -/

section Replay

variable {config : IngestConfig} {ingestId : Uuid} {w : IngestWorld}

/-- The world after the two statements of `replay_rejected`, at these times. -/
def replayedWorld (ingestId : Uuid) (w : IngestWorld) (now₀ now₁ : ℕ) : IngestWorld :=
  effect now₁ (effect now₀ w (.replayRejectedStatus ingestId))
    (.createPendingEnqueueOutbox ingestId "operator_replay_rejected")

/-- With a row there the insert does not violate the foreign key. -/
theorem createPendingEnqueueOutbox_ok {status : IngestStatus} (h : w.tables.HasStatus ingestId status)
    (now₀ now₁ : ℕ) (reason : String) :
    ∃ outboxId, ((effect now₀ w (.replayRejectedStatus ingestId)).tables.createPendingEnqueueOutbox
      ingestId reason (effect now₀ w (.replayRejectedStatus ingestId)).nextId now₁).2 =
        .ok outboxId := by
  rcases (effect now₀ w (.replayRejectedStatus ingestId)).tables.createPendingEnqueueOutbox_cases
    ingestId reason (effect now₀ w (.replayRejectedStatus ingestId)).nextId now₁ with
    ⟨existing, -, -, -, heq⟩ | ⟨-, heq⟩ | ⟨hnone, -⟩
  · exact ⟨_, congrArg Prod.snd heq⟩
  · exact ⟨_, congrArg Prod.snd heq⟩
  · obtain ⟨row, hrow, hid, -⟩ := h
    have hids : (effect now₀ w (.replayRejectedStatus ingestId)).tables.ingestLog.map IngestRow.id =
        w.tables.ingestLog.map IngestRow.id := Table.map_update fun _ _ => rfl
    have hmem : row.id ∈ w.tables.ingestLog.map IngestRow.id := List.mem_map_of_mem hrow
    rw [← hids] at hmem
    obtain ⟨row', hrow', hid'⟩ := List.mem_map.mp hmem
    exact absurd ⟨row', hrow', hid'.trans hid⟩ hnone

theorem exec_replay_of_ok (h : w.tables.HasStatus ingestId .rejected) {choices : ℕ → Env}
    (hok : ∀ i < 4, (choices i).outcome = .ok) :
    (replayRejectedGranule config ingestId).exec answer choices w =
      (enqueueRecords config
        (replayedWorld ingestId w (choices 0).now (choices 1).now).tables.pendingEnqueueOutbox
        RecoverySummary.default).exec answer (fun i => choices (i + 4))
        (replayedWorld ingestId w (choices 0).now (choices 1).now) := by
  simp only [replayRejectedGranule, replayRejected, IngestProgram.replayRejectedStatus,
    IngestProgram.call, Program.request_bind, Program.call_bind, Program.exec]
  rw [answer_of_ok (hok 0 (by omega))]
  simp only [result, replayRejectedStatus_count_ne_zero h, if_false,
    IngestProgram.createPendingEnqueueOutbox, IngestProgram.call, Program.request_bind,
    Program.call_bind, Program.exec]
  rw [answer_of_ok (hok 1 (by omega))]
  obtain ⟨outboxId, hcreated⟩ := createPendingEnqueueOutbox_ok h (choices 0).now
    (choices 1).now "operator_replay_rejected"
  simp only [result, hcreated, Program.pure_eq_done, Program.done_bind, IngestProgram.newQueueClient,
    IngestProgram.call, Program.request_bind, Program.exec]
  rw [answer_of_ok (hok 2 (by omega))]
  simp only [result, enqueuePendingOutbox, IngestProgram.pendingEnqueueOutbox, IngestProgram.call,
    Program.request_bind, Program.exec]
  rw [answer_of_ok (hok 3 (by omega))]
  rfl

/-- A replay that ends well found the row rejected, and its first four calls succeeded. -/
theorem replay_started {choices : ℕ → Env} {s : RecoverySummary}
    (h : ((replayRejectedGranule config ingestId).exec answer choices w).2 = .ok s) :
    w.tables.HasStatus ingestId .rejected ∧ ∀ i < 4, (choices i).outcome = .ok := by
  simp only [replayRejectedGranule, replayRejected, IngestProgram.replayRejectedStatus,
    IngestProgram.call, Program.request_bind, Program.call_bind, Program.exec] at h
  by_cases h₀ : (choices 0).outcome = .ok
  · rw [answer_of_ok h₀] at h
    simp only [result] at h
    by_cases hcount : (w.tables.replayRejectedStatus ingestId (choices 0).now).2 = 0
    · rw [if_pos hcount] at h
      cases h
    rw [if_neg hcount] at h
    simp only [IngestProgram.createPendingEnqueueOutbox, IngestProgram.call, Program.request_bind,
      Program.call_bind, Program.exec] at h
    by_cases h₁ : (choices 1).outcome = .ok
    · have hrejected : w.tables.HasStatus ingestId .rejected := by
        obtain ⟨row, hrow⟩ := List.exists_mem_of_ne_nil _ (mt List.length_eq_zero_iff.mpr hcount)
        obtain ⟨hmem, hmatch⟩ := List.mem_filter.mp hrow
        exact ⟨row, hmem, of_decide_eq_true hmatch⟩
      obtain ⟨outboxId, hcreated⟩ := createPendingEnqueueOutbox_ok hrejected (choices 0).now
        (choices 1).now "operator_replay_rejected"
      rw [answer_of_ok h₁] at h
      simp only [result, hcreated, Program.pure_eq_done, Program.done_bind,
        IngestProgram.newQueueClient, IngestProgram.call, Program.request_bind, Program.exec] at h
      by_cases h₂ : (choices 2).outcome = .ok
      · rw [answer_of_ok h₂] at h
        simp only [result, enqueuePendingOutbox, IngestProgram.pendingEnqueueOutbox,
          IngestProgram.call, Program.request_bind, Program.exec] at h
        by_cases h₃ : (choices 3).outcome = .ok
        · refine ⟨hrejected, fun i hi => ?_⟩
          interval_cases i
          · exact h₀
          · exact h₁
          · exact h₂
          · exact h₃
        · rw [answer_reply_of_error h₃] at h
          cases h
      · rw [answer_reply_of_error h₂] at h
        cases h
    · rw [answer_reply_of_error h₁] at h
      cases h
  · rw [answer_reply_of_error h₀] at h
    cases h

/-- The requested granule is replayed: with these times, whatever else the environment does, a
replay that ends well without failures has put the row's message on a queue and marked the row. -/
def ReplaysGranule (config : IngestConfig) (ingestId : Uuid) (w : IngestWorld) (clock : ℕ → ℕ) :
    Prop :=
  ∀ choices : ℕ → Env, (∀ i, (choices i).now = clock i) → ∀ s,
    ((replayRejectedGranule config ingestId).exec answer choices w).2 = .ok s → s.failed = 0 →
      SentSince w ((replayRejectedGranule config ingestId).exec answer choices w).1 ingestId ∧
        ((replayRejectedGranule config ingestId).exec answer choices w).1.tables.HasStatus ingestId
          .enqueued

/-- How many deliverable records `ORDER BY created_at` puts before the one of the row, those of
the same time in table order. -/
def Tables.ahead (t : Tables) (ingestId : Uuid) : ℕ :=
  let pairs := (t.outbox ×ˢ t.ingestLog).filter fun pair => DeliverablePair pair
  match pairs.dropWhile fun pair => pair.2.id ≠ ingestId with
  | [] => 0
  | own :: later =>
    ((pairs.takeWhile fun pair => pair.2.id ≠ ingestId).countP
        fun pair => pair.1.createdAt ≤ own.1.createdAt) +
      later.countP fun pair => pair.1.createdAt < own.1.createdAt

theorem Keyed.deliverable_unique (hkeyed : Keyed w) {a b : OutboxRow × IngestRow}
    (ha : a ∈ (w.tables.outbox ×ˢ w.tables.ingestLog).filter fun pair => DeliverablePair pair)
    (hb : b ∈ (w.tables.outbox ×ˢ w.tables.ingestLog).filter fun pair => DeliverablePair pair)
    (hid : a.2.id = b.2.id) : a = b := by
  obtain ⟨hamem, hapair⟩ := List.mem_filter.mp ha
  obtain ⟨hbmem, hbpair⟩ := List.mem_filter.mp hb
  obtain ⟨harow, hap, -⟩ := of_decide_eq_true hapair
  obtain ⟨hbrow, hbp, -⟩ := of_decide_eq_true hbpair
  obtain ⟨ha₁, ha₂⟩ := List.mem_product.mp hamem
  obtain ⟨hb₁, hb₂⟩ := List.mem_product.mp hbmem
  have hrecords : a.1.ingestId = b.1.ingestId := by rw [← harow, ← hbrow, hid]
  exact Prod.ext (hkeyed.pending_unique ha₁ hap hb₁ hbp hrecords)
    (hkeyed.log.eq_of_id_eq ha₂ hb₂ hid)

/-- A deliverable record of the row is in the batch if fewer records than the limit are ahead. -/
theorem mem_batch_iff (hkeyed : Keyed w) {record : OutboxRow} {row : IngestRow}
    (hrecord : record ∈ w.tables.outbox) (hrow : row ∈ w.tables.ingestLog)
    (hid : row.id = ingestId) (hpair : DeliverablePair (record, row)) :
    (∃ selected ∈ w.tables.pendingEnqueueOutbox, selected.ingestId = ingestId) ↔
      w.tables.ahead ingestId < recoveryBatchLimit := by
  have hunique := fun a b => hkeyed.deliverable_unique (a := a) (b := b)
  have hmem : (record, row) ∈ (w.tables.outbox ×ˢ w.tables.ingestLog).filter
      fun pair => DeliverablePair pair :=
    List.mem_filter.mpr ⟨List.mem_product.mpr ⟨hrecord, hrow⟩, decide_eq_true hpair⟩
  have hnodup : ((w.tables.outbox ×ˢ w.tables.ingestLog).filter
      fun pair => DeliverablePair pair).Nodup := hkeyed.pairs_nodup.filter _
  have hselected : (∃ selected ∈ w.tables.pendingEnqueueOutbox, selected.ingestId = ingestId) ↔
      ∃ pair ∈ Table.select DeliverablePair
        (fun a b : OutboxRow × IngestRow => a.1.createdAt ≤ b.1.createdAt) recoveryBatchLimit
        (w.tables.outbox ×ˢ w.tables.ingestLog), pair.2.id = ingestId := by
    simp [Tables.pendingEnqueueOutbox]
  rw [hselected, Tables.ahead]
  generalize hpairs : (w.tables.outbox ×ˢ w.tables.ingestLog).filter
    (fun pair => DeliverablePair pair) = pairs at hunique hmem hnodup
  have hsplit : pairs = (pairs.takeWhile fun pair => pair.2.id ≠ ingestId) ++
      pairs.dropWhile fun pair => pair.2.id ≠ ingestId := (List.takeWhile_append_dropWhile).symm
  have htake : ∀ pair ∈ pairs.takeWhile fun pair => pair.2.id ≠ ingestId, ¬ pair.2.id = ingestId :=
    fun pair hpair => by simpa using List.mem_takeWhile_imp hpair
  cases hdrop : pairs.dropWhile fun pair => pair.2.id ≠ ingestId with
  | nil =>
    rw [hdrop, List.append_nil] at hsplit
    rw [hsplit] at hmem
    exact absurd hid (htake _ hmem)
  | cons own later =>
    have hown : own.2.id = ingestId := by
      have hhead := List.head_dropWhile_not (fun pair : OutboxRow × IngestRow => pair.2.id ≠ ingestId)
        (by rw [hdrop]; exact List.cons_ne_nil own later)
      simp only [hdrop, List.head_cons] at hhead
      simpa using hhead
    rw [hdrop] at hsplit
    have hlater : ∀ pair ∈ later, ¬ pair.2.id = ingestId := by
      intro pair hlater hpairId
      rw [hsplit] at hnodup hunique
      have heq : own = pair := by
        apply hunique own pair _ _ (hown.trans hpairId.symm)
        · exact List.mem_append_right _ List.mem_cons_self
        · exact List.mem_append_right _ (List.mem_cons_of_mem _ hlater)
      obtain ⟨hnot, -⟩ := List.nodup_cons.mp (List.nodup_append.mp hnodup).2.1
      exact hnot (heq ▸ hlater)
    exact Table.exists_mem_select_iff (hpairs.trans hsplit) hown htake hlater

theorem keyed_replayedWorld (h : Keyed w) (now₀ now₁ : ℕ) :
    Keyed (replayedWorld ingestId w now₀ now₁) :=
  (h.effect now₀ _).effect now₁ _

/-- After its two statements the replay has a deliverable record of the row. -/
theorem exists_deliverable_replayedWorld (hkeyed : Keyed w)
    (hrejected : w.tables.HasStatus ingestId .rejected) (now₀ now₁ : ℕ) :
    ∃ record ∈ (replayedWorld ingestId w now₀ now₁).tables.outbox,
      ∃ row ∈ (replayedWorld ingestId w now₀ now₁).tables.ingestLog,
        row.id = ingestId ∧ DeliverablePair (record, row) := by
  obtain ⟨outboxId, attempts, -, -, hwaiting⟩ :=
    (updated_of_rejected hkeyed hrejected now₀).waiting hkeyed "operator_replay_rejected" now₁
  obtain ⟨record, hrecord, -, hown, hp, -⟩ := hwaiting.pending
  obtain ⟨row, hrow, hid⟩ := hwaiting.status.exists_row
  refine ⟨record, hrecord, row, hrow, hid, hid.trans hown.symm, hp, .inr ?_⟩
  exact hwaiting.status.status_eq row hrow hid

theorem queues_replayedWorld (now₀ now₁ : ℕ) :
    (replayedWorld ingestId w now₀ now₁).queues = w.queues := rfl

/-- A delivered batch sends the messages of its records and no others. -/
theorem sentSince_of_delivered {records : List PendingOutboxRecord} {w₁ w' : IngestWorld}
    (h : Delivered records w₁ w') (hqueues : w₁.queues = w.queues) :
    SentSince w w' ingestId ↔ ∃ record ∈ records, record.ingestId = ingestId := by
  obtain ⟨entries, heq, hids⟩ := h.queues
  have hmem : ingestId ∈ entries.map (fun entry => entry.2.ingestId) ↔
      ∃ record ∈ records, record.ingestId = ingestId := by
    rw [hids, List.mem_map]
  rw [SentSince, heq, hqueues, List.drop_left, ← hmem, List.mem_map]

/-- A replay that ends well without failures has delivered its batch. -/
theorem replay_delivers {choices : ℕ → Env} {s : RecoverySummary}
    (h : ((replayRejectedGranule config ingestId).exec answer choices w).2 = .ok s)
    (hfailed : s.failed = 0) :
    Delivered (replayedWorld ingestId w (choices 0).now (choices 1).now).tables.pendingEnqueueOutbox
      (replayedWorld ingestId w (choices 0).now (choices 1).now)
      ((replayRejectedGranule config ingestId).exec answer choices w).1 := by
  obtain ⟨hrejected, hok⟩ := replay_started h
  rw [exec_replay_of_ok hrejected hok] at h ⊢
  exact (exec_enqueueRecords_delivers config _ _ _ _ s h).2 hfailed

/-- When every call succeeds, a replay whose batch has messages only reports no failure. So the
requested row's record has to be in the batch. -/
theorem mem_batch_of_replaysGranule {clock : ℕ → ℕ}
    (hrejected : w.tables.HasStatus ingestId .rejected)
    (hmessages : ∀ record ∈
      (replayedWorld ingestId w (clock 0) (clock 1)).tables.pendingEnqueueOutbox, record.HasMessage)
    (h : ReplaysGranule config ingestId w clock) :
    ∃ record ∈ (replayedWorld ingestId w (clock 0) (clock 1)).tables.pendingEnqueueOutbox,
      record.ingestId = ingestId := by
  let choices (i : ℕ) : Env := { sampleEnv .ok with now := clock i }
  have hexec : (replayRejectedGranule config ingestId).exec answer choices w = _ :=
    exec_replay_of_ok hrejected fun _ _ => rfl
  obtain ⟨s, hs, hfailed⟩ := exec_enqueueRecords_succeeds config RecoverySummary.default
    (replayedWorld ingestId w (clock 0) (clock 1)) hmessages
    (show ∀ i, (choices (i + 4)).outcome = .ok from fun _ => rfl)
  have hend : ((replayRejectedGranule config ingestId).exec answer choices w).2 = .ok s := by
    rw [hexec]
    exact hs
  have hsent := (h choices (fun _ => rfl) s hend hfailed).1
  exact (sentSince_of_delivered (replay_delivers hend hfailed)
    (queues_replayedWorld (clock 0) (clock 1))).mp hsent

theorem not_replaysGranule_of_ahead {clock : ℕ → ℕ} (hkeyed : Keyed w)
    (hrejected : w.tables.HasStatus ingestId .rejected)
    (hmessages : ∀ record ∈
      (replayedWorld ingestId w (clock 0) (clock 1)).tables.pendingEnqueueOutbox, record.HasMessage)
    (hahead : recoveryBatchLimit ≤
      (replayedWorld ingestId w (clock 0) (clock 1)).tables.ahead ingestId) :
    ¬ ReplaysGranule config ingestId w clock := by
  intro h
  obtain ⟨own, hown, row, hrow, hid, hpair⟩ :=
    exists_deliverable_replayedWorld hkeyed hrejected (clock 0) (clock 1)
  have hbatch := mem_batch_iff (keyed_replayedWorld hkeyed (clock 0) (clock 1)) hown hrow hid hpair
  exact absurd (hbatch.mp (mem_batch_of_replaysGranule hrejected hmessages h)) (not_lt_of_ge hahead)

/-- With these times a replay that ends well without failures has replayed the requested granule,
in exactly the cases that the row is not rejected, that some record of the batch has no message, or
that fewer deliverable records than the batch limit are ahead of the row's own. -/
theorem replaysGranule_iff (config : IngestConfig) (ingestId : Uuid) (w : IngestWorld)
    (clock : ℕ → ℕ) (hkeyed : Keyed w) :
    ReplaysGranule config ingestId w clock ↔
      ¬ w.tables.HasStatus ingestId .rejected ∨
        (∃ record ∈ (replayedWorld ingestId w (clock 0) (clock 1)).tables.pendingEnqueueOutbox,
          ¬ record.HasMessage) ∨
        (replayedWorld ingestId w (clock 0) (clock 1)).tables.ahead ingestId <
          recoveryBatchLimit := by
  by_cases hrejected : w.tables.HasStatus ingestId .rejected
  · obtain ⟨own, hown, row, hrow, hid, hpair⟩ :=
      exists_deliverable_replayedWorld hkeyed hrejected (clock 0) (clock 1)
    have hbatch := mem_batch_iff (keyed_replayedWorld hkeyed (clock 0) (clock 1)) hown hrow hid hpair
    have hqueues := @queues_replayedWorld ingestId w (clock 0) (clock 1)
    rw [← hbatch]
    constructor
    · intro h
      right
      by_cases hmessages : ∀ record ∈
          (replayedWorld ingestId w (clock 0) (clock 1)).tables.pendingEnqueueOutbox,
            record.HasMessage
      · exact .inr (mem_batch_of_replaysGranule hrejected hmessages h)
      · left
        simpa using hmessages
    · intro h choices hclock s hs hfailed
      have hdelivered := replay_delivers hs hfailed
      rw [hclock 0, hclock 1] at hdelivered
      obtain ⟨record, hrecord, hrecordId⟩ : ∃ record ∈
          (replayedWorld ingestId w (clock 0) (clock 1)).tables.pendingEnqueueOutbox,
            record.ingestId = ingestId := by
        rcases h with hnot | ⟨record, hrecord, hnone⟩ | h
        · exact absurd hrejected hnot
        · exact absurd (hdelivered.messages record hrecord) hnone
        · exact h
      constructor
      · exact (sentSince_of_delivered hdelivered hqueues).mpr ⟨record, hrecord, hrecordId⟩
      · have hmarked := hdelivered.marked record hrecord
        rw [hrecordId] at hmarked
        exact hmarked (List.mem_map.mpr ⟨row, hrow, hid⟩)
  · refine iff_of_true (fun choices _ s hs => ?_) (.inl hrejected)
    exact absurd (replay_started hs).1 hrejected

/-- A rejected row without a backlog is replayed. -/
theorem replaysGranule_rejectedWorld :
    ReplaysGranule sampleConfig 0 rejectedWorld fun _ => 3600 :=
  (replaysGranule_iff sampleConfig 0 rejectedWorld (fun _ => 3600) keyed_rejectedWorld).mpr
    (.inr (.inr (by decide)))

end Replay

/-! ## A backlog -/

/-- The same tile on one of the first days of 2023's months, as many as there are. -/
def backlogGranule (i : ℕ) : GranuleCandidate := { sampleGranule with
  granuleDate := { year := 2023, month := i / 28 + 1, day := i % 28 + 1, nanoOfDay := 0 } }

def backlogRow (i : ℕ) : IngestRow := { IngestPool.validatedRow with
  id := i + 1
  blobPath := (backlogGranule i).rawBlobPath
  granuleDate := (backlogGranule i).granuleDate }

/-- The rejected row, and `n` validated rows whose records wait. -/
def backloggedWorld (n : ℕ) : IngestWorld where
  tables := {
    ingestLog := rejectedRow :: (List.range n).map backlogRow
    outbox := (List.range n).map fun i => pendingRecord (n + 1 + i) (i + 1) "ingest_validated" 0 }
  nextId := 2 * n + 1
  queues := []

/-- The rows of the backlog, and the rejected one, have the path of a granule on the sample tile. -/
theorem backlogged_row {n : ℕ} {row : IngestRow}
    (h : row ∈ (replayedWorld 0 (backloggedWorld n) 3600 3600).tables.ingestLog) :
    ∃ granuleDate, row.blobPath = { sampleGranule with granuleDate := granuleDate }.rawBlobPath ∧
      row.product = sampleGranule.product ∧ row.tileH = sampleGranule.tile.h ∧
        row.tileV = sampleGranule.tile.v := by
  simp only [replayedWorld, effect, Tables.createPendingEnqueueOutbox_ingestLog] at h
  have hall : ∀ old ∈ (backloggedWorld n).tables.ingestLog, ∃ granuleDate,
      old.blobPath = { sampleGranule with granuleDate := granuleDate }.rawBlobPath ∧
        old.product = sampleGranule.product ∧ old.tileH = sampleGranule.tile.h ∧
          old.tileV = sampleGranule.tile.v := by
    intro old hold
    rcases List.mem_cons.mp hold with rfl | hold
    · exact ⟨sampleGranule.granuleDate, rfl, rfl, rfl, rfl⟩
    · obtain ⟨i, -, rfl⟩ := List.mem_map.mp hold
      exact ⟨(backlogGranule i).granuleDate, rfl, rfl, rfl, rfl⟩
  obtain ⟨old, hold, ⟨-, rfl⟩ | ⟨-, rfl⟩⟩ := Table.mem_update.mp h
  · exact hall old hold
  · exact hall row hold

theorem backlogged_hasMessage {n : ℕ} {record : PendingOutboxRecord}
    (h : record ∈ (replayedWorld 0 (backloggedWorld n) 3600 3600).tables.pendingEnqueueOutbox) :
    record.HasMessage := by
  obtain ⟨pair, hpair, rfl⟩ := List.mem_map.mp h
  have hrow := (List.mem_product.mp (Table.mem_of_mem_select hpair).1).2
  obtain ⟨granuleDate, hpath, hproduct, hh, hv⟩ := backlogged_row hrow
  have hsupported : Supported sampleGranule.product := ⟨.vnp46A2, rfl⟩
  have hrelative := @rawBlobPath_relative { sampleGranule with granuleDate := granuleDate } hsupported
  have hparsed := @parseFirstTile_rawBlobPath { sampleGranule with granuleDate := granuleDate }
    hsupported (show sampleGranule.tile.h < 100 by decide)
    (show sampleGranule.tile.v < 100 by decide)
  unfold PendingOutboxRecord.HasMessage
  simp only [hpath, hproduct, hh, hv]
  exact ⟨_, ProcessingMessage.new_of_valid pair.2.id .vnp46A2 pair.2.granuleDate hrelative
    hparsed⟩

theorem keyed_backloggedWorld (n : ℕ) : Keyed (backloggedWorld n) := by
  have hsucc : Function.Injective fun i : ℕ => i + 1 := fun _ _ h => by simpa using h
  have hids : (backloggedWorld n).tables.ingestLog.map IngestRow.id =
      0 :: (List.range n).map fun i => i + 1 := by
    simp [backloggedWorld, rejectedRow, IngestPool.validatedRow, backlogRow, Function.comp_def]
  constructor
  · constructor
    · rw [hids]
      refine List.nodup_cons.mpr ⟨by simp, List.nodup_range.map hsucc⟩
    · intro row hrow
      have hmem : row.id ∈ (backloggedWorld n).tables.ingestLog.map IngestRow.id :=
        List.mem_map_of_mem hrow
      rw [hids] at hmem
      obtain hzero | hmem := List.mem_cons.mp hmem
      · rw [hzero]
        exact Nat.succ_pos _
      · obtain ⟨(i : ℕ), hi, hid⟩ := List.mem_map.mp hmem
        have hlt : i < n := List.mem_range.mp hi
        rw [← hid]
        show i + 1 < 2 * n + 1
        omega
  · constructor
    · simp only [backloggedWorld, List.map_map]
      exact List.nodup_range.map fun i j h => by simpa [pendingRecord] using h
    · intro record hrecord
      obtain ⟨(i : ℕ), hi, rfl⟩ := List.mem_map.mp hrecord
      have hlt : i < n := List.mem_range.mp hi
      show n + 1 + i < 2 * n + 1
      omega
  · have hpending : ((backloggedWorld n).tables.outbox.filter fun record => Pending record) =
        (backloggedWorld n).tables.outbox := by
      apply List.filter_eq_self.mpr
      intro record hrecord
      obtain ⟨i, -, rfl⟩ := List.mem_map.mp hrecord
      rfl
    rw [Tables.pendingIngestIds, hpending]
    simp only [backloggedWorld, List.map_map]
    exact List.nodup_range.map fun i j h => by simpa [pendingRecord] using h

theorem backlogged_ahead :
    (replayedWorld 0 (backloggedWorld 100) 3600 3600).tables.ahead 0 = recoveryBatchLimit := by
  decide +kernel

theorem hasStatus_backloggedWorld (n : ℕ) : (backloggedWorld n).tables.HasStatus 0 .rejected :=
  ⟨rejectedRow, List.mem_cons_self, rfl, rfl⟩

/-- A hundred older records are in front: all of them are delivered, nothing fails, and the requested
row's message is not sent. -/
theorem not_replaysGranule_backlogged :
    Keyed (backloggedWorld 100) ∧ (backloggedWorld 100).tables.HasStatus 0 .rejected ∧
      ¬ ReplaysGranule sampleConfig 0 (backloggedWorld 100) fun _ => 3600 := by
  have hkeyed := keyed_backloggedWorld 100
  have hrejected := hasStatus_backloggedWorld 100
  have hahead : recoveryBatchLimit ≤
      (replayedWorld 0 (backloggedWorld 100) 3600 3600).tables.ahead 0 := backlogged_ahead.ge
  exact ⟨hkeyed, hrejected, not_replaysGranule_of_ahead hkeyed hrejected
    (fun record => backlogged_hasMessage) hahead⟩

end LumenHorizon.Ingest
