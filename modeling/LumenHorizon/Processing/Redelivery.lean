import LumenHorizon.Processing.Attempts

/-! # Redelivery of a processed message

A start takes over the row whatever its status, so a message that is delivered again after it was
processed is processed again, with a tile set of its own. Only a delivery whose start does not
take effect leaves the record and the published tile sets alone.
-/

namespace LumenHorizon.Processing
open Foundation Shared Program

variable {w : ProcessingWorld} {c : ProcessingCall} {e : Env} {ingestId : Uuid}

/-- The ingest has a row, and its status is processed. -/
structure ProcessingWorld.Processed (w : ProcessingWorld) (ingestId : Uuid) : Prop where
  present : ∃ row ∈ w.processingLog, row.ingestId = ingestId
  status : ∀ row ∈ w.processingLog, row.ingestId = ingestId → row.status = .processed

/-- A start for the ingest would take its row over: the ingest row exists, and the attempts
number has room. -/
def ProcessingWorld.Startable (w : ProcessingWorld) (ingestId : Uuid) : Prop :=
  w.Known ingestId = true ∧
    ∃ row ∈ w.processingLog, row.ingestId = ingestId ∧ row.attempts < maxInteger

/-- A call that takes effect neither starts an attempt for the ingest nor records a failure or a
rejection of it. -/
def KeepsProcessed (ingestId : Uuid) (w : ProcessingWorld) : ProcessingCall → Prop
  | .upsertProcessingStarted message => message.ingestId = ingestId → ¬ w.Startable ingestId
  | .markEnding id ending => id = ingestId → ending.status = .processed
  | _ => True

def SparesPublished : ProcessingCall → Prop
  | .uploadProcessedBlob _ _ => False
  | .insertTileSet _ => False
  | .promoteLatestTileSet _ => False
  | .deleteProcessedBlob _ => False
  | .markTileSetRetentionDeleted _ _ => False
  | _ => True

theorem ProcessingWorld.Processed.of_update {w' : ProcessingWorld}
    {set : ProcessingRow → ProcessingRow} {where' : ProcessingRow → Prop} [DecidablePred where']
    (hw' : w'.processingLog = Table.update where' set w.processingLog) (h : w.Processed ingestId)
    (hid : ∀ row, (set row).ingestId = row.ingestId)
    (hstatus : ∀ row, where' row → row.ingestId = ingestId → row.status = .processed →
      (set row).status = .processed) : w'.Processed ingestId where
  present := by
    obtain ⟨row, hrow, hrowid⟩ := h.present
    rw [hw']
    by_cases hwhere : where' row
    · exact ⟨set row, Table.mem_update_of hrow hwhere, (hid row).trans hrowid⟩
    · exact ⟨row, Table.mem_update_of_not hrow hwhere, hrowid⟩
  status := by
    intro row hrow hrowid
    rw [hw'] at hrow
    obtain ⟨old, hold, ⟨hwhere, rfl⟩ | ⟨-, rfl⟩⟩ := Table.mem_update.mp hrow
    · rw [hid] at hrowid
      exact hstatus old hwhere hrowid (h.status old hold hrowid)
    · exact h.status row hold hrowid

/-- A call that keeps the processed status, or takes no effect, keeps it. -/
theorem ProcessingWorld.Processed.after (h : w.Processed ingestId)
    (hc : e.outcome ≠ .failed → KeepsProcessed ingestId w c) :
    (answer c e w).1.Processed ingestId := by
  rcases answer_effect c e w with ⟨-, hw⟩ | ⟨ho, finished, hw⟩
  · rwa [hw]
  · rw [hw]
    have hkeeps := hc ho
    cases c with
    | upsertProcessingStarted message =>
      rcases w.processingLog.upsertProcessingStarted_cases (w.Known message.ingestId) message
        w.nextId e.now with ⟨error, heq, -⟩ | ⟨-, hnew, heq⟩ | ⟨hknown, row, hrow, hid, hmax, heq⟩
      · exact ⟨by simpa only [effect, heq] using h.present,
          by simpa only [effect, heq] using h.status⟩
      · have hne : message.ingestId ≠ ingestId := by
          rintro rfl
          obtain ⟨row, hrow, hid⟩ := h.present
          exact hnew row hrow hid
        constructor
        · obtain ⟨row, hrow, hid⟩ := h.present
          simp only [effect, heq]
          exact ⟨row, List.mem_append_left _ hrow, hid⟩
        · intro row hrow hid
          simp only [effect, heq] at hrow
          rcases List.mem_append.mp hrow with hrow | hrow
          · exact h.status row hrow hid
          · rw [List.mem_singleton.mp hrow] at hid
            exact absurd hid hne
      · have hne : message.ingestId ≠ ingestId := by
          rintro rfl
          exact hkeeps rfl ⟨hknown, row, hrow, hid, hmax⟩
        have hlog : (effect e w (.upsertProcessingStarted message)).processingLog =
            Table.update (fun row => row.ingestId = message.ingestId)
              (ProcessingLog.restart message e.now) w.processingLog := by
          simp only [effect, heq]
        refine Processed.of_update hlog h (fun _ => rfl) fun row hwhere hrowid _ => ?_
        exact absurd (hwhere.symm.trans hrowid) hne
    | markEnding id ending =>
      refine Processed.of_update rfl h (ending.set_ingestId e.now) fun row hwhere hrowid _ => ?_
      rw [ending.set_status]
      exact hkeeps (hwhere.symm.trans hrowid)
    | updateProcessingMetadata id metadata cloudFraction valid rejected =>
      exact Processed.of_update rfl h (fun _ => rfl) fun _ _ _ hstatus => hstatus
    | _ => exact ⟨h.present, h.status⟩

theorem published_answer (hc : SparesPublished c) (e : Env) (w : ProcessingWorld) :
    (answer c e w).1.tileSets = w.tileSets ∧
      (answer c e w).1.processedBlobs = w.processedBlobs := by
  rcases answer_effect c e w with ⟨-, hw⟩ | ⟨-, finished, hw⟩
  · rw [hw]
    exact ⟨rfl, rfl⟩
  · rw [hw]
    cases c with
    | uploadProcessedBlob | insertTileSet | promoteLatestTileSet | deleteProcessedBlob
    | markTileSetRetentionDeleted => exact hc.elim
    | _ => exact ⟨rfl, rfl⟩

variable {config : ProcessingConfig} {fromStr : String → Except String RawProcessingMessage}
  {promotedAt : ℕ} {received : ReceivedQueueMessage} {message : ProcessingMessage}

def delivery (config : ProcessingConfig)
    (fromStr : String → Except String RawProcessingMessage) (promotedAt : ℕ)
    (received : ReceivedQueueMessage) : ProcessingProgram Unit := do
  let _ ← handleMessage config fromStr promotedAt received

def RefusesStart (ingestId : Uuid) : (c : ProcessingCall) → c.Reply → Prop
  | .upsertProcessingStarted message, .ok _ => message.ingestId ≠ ingestId
  | _, _ => True

theorem HandlingRule.sparesPublished {t : History}
    (h : HandlingRule config fromStr promotedAt received t c)
    (hparse : ProcessingMessage.parseJson fromStr received.messageText = .ok message)
    (ht : ∀ entry ∈ t, RefusesStart message.ingestId entry.1 entry.2) : SparesPublished c := by
  rcases h with (h | ⟨_, -, rfl | ⟨_, -, rfl⟩⟩) | ⟨other, hother, h⟩
  · cases c with
    | deleteMessage | enqueueMessage => trivial
    | _ => exact h.elim
  · trivial
  · trivial
  · rcases h with rfl | rfl | ⟨record, hmade, -⟩
    · trivial
    · trivial
    · obtain rfl : message = other := Except.ok.inj (hparse.symm.trans hother)
      exact absurd rfl (ht _ hmade)

theorem delivery_under
    (hparse : ProcessingMessage.parseJson fromStr received.messageText = .ok message) :
    (delivery config fromStr promotedAt received).Under
      (fun c reply => Possible c reply ∧ RefusesStart message.ingestId c reply)
      SparesPublished := by
  have hmeets : (delivery config fromStr promotedAt received).Meets Possible
      (HandlingRule config fromStr promotedAt received) (fun _ _ => True) [] :=
    (handleMessage_meets received []).bind fun _ _ _ => trivial
  refine hmeets.under (fun _ _ h => h.1) (fun t c ht hrule => ?_) fun _ h => absurd h List.not_mem_nil
  exact hrule.sparesPublished hparse fun entry hentry => (ht entry hentry).2

/-- Where no start of the ingest can take effect, none is confirmed. -/
theorem ProcessingWorld.Processed.refusesStart (h : w.Processed ingestId)
    (hc : e.outcome ≠ .failed → KeepsProcessed ingestId w c) :
    RefusesStart ingestId c (answer c e w).2 := by
  cases c with
  | upsertProcessingStarted message =>
    cases ho : e.outcome with
    | failed =>
      rw [answer_of_failed ho]
      trivial
    | lost =>
      rw [answer_of_lost ho]
      trivial
    | ok =>
      have hkeeps := hc (by rw [ho]; exact nofun)
      rw [answer_of_ok ho]
      rcases w.processingLog.upsertProcessingStarted_cases (w.Known message.ingestId) message
        w.nextId e.now with ⟨error, heq, -⟩ | ⟨-, hnew, heq⟩ | ⟨hknown, row, hrow, hid, hmax, heq⟩
      · simp only [result, heq]
        trivial
      · simp only [result, heq]
        rintro rfl
        obtain ⟨row, hrow, hid⟩ := h.present
        exact hnew row hrow hid
      · simp only [result, heq]
        rintro rfl
        exact hkeeps rfl ⟨hknown, row, hrow, hid, hmax⟩
  | _ => trivial

namespace ProcessingPool

variable {pool pool' : ProcessingPool} {event : ProcessingEvent}

/-- No step starts an attempt for the ingest, or records a failure or a rejection of it, with
effect. -/
def KeepsProcessedAt (fromStr : String → Except String RawProcessingMessage) (ingestId : Uuid)
    (pool : ProcessingPool) (event : ProcessingEvent) : Prop :=
  Starts fromStr event ∧ ∀ i e c, event = .act i e → pool.nextCall i = some c →
    e.outcome ≠ .failed → KeepsProcessed ingestId pool.world c

/-- The ingest is processed, and program `i` publishes nothing. -/
structure Spared (ingestId : Uuid) (i : ℕ) (pool : ProcessingPool) : Prop where
  processed : pool.world.Processed ingestId
  spares : ∃ p, pool.procs[i]? = some p ∧
    p.Under (fun c reply => Possible c reply ∧ RefusesStart ingestId c reply) SparesPublished

theorem Spared.step {i : ℕ} (h : pool.Spared ingestId i)
    (hguard : KeepsProcessedAt fromStr ingestId pool event) (hstep : pool.step event = some pool') :
    pool'.Spared ingestId i where
  processed := by
    rcases Pool.step_cases hstep with
      ⟨p, rfl, rfl⟩ | ⟨j, e, c, next, rfl, hj, rfl⟩ | ⟨j, c, next, rfl, hj, rfl⟩
    · exact h.processed
    · exact h.processed.after (hguard.2 j e c rfl (Pool.nextCall_eq_some_iff.mpr ⟨next, hj⟩))
    · exact h.processed
  spares := by
    refine Pool.under_step_at hstep (fun e c hact hc => ?_) h.spares
    exact ⟨⟨e, _, rfl⟩, h.processed.refusesStart (hguard.2 i e c hact hc)⟩

/-- While no start, failure or rejection of the ingest takes effect, a redelivered message leaves
the processed status as it is, and its delivery publishes nothing. -/
theorem redelivery_idempotent (fromStr : String → Except String RawProcessingMessage)
    (config : ProcessingConfig) (promotedAt : ℕ) (received : ReceivedQueueMessage)
    (message : ProcessingMessage) (i : ℕ) (pool pool' : ProcessingPool)
    (hparse : ProcessingMessage.parseJson fromStr received.messageText = .ok message)
    (hprocessed : pool.world.Processed message.ingestId)
    (hi : pool.procs[i]? = some (delivery config fromStr promotedAt received))
    (hrun : Reaches step (KeepsProcessedAt fromStr message.ingestId) pool pool') :
    pool'.world.Processed message.ingestId ∧
      ∀ e pool'', pool'.step (.act i e) = some pool'' →
        pool''.world.tileSets = pool'.world.tileSets ∧
          pool''.world.processedBlobs = pool'.world.processedBlobs := by
  have hspared : pool'.Spared message.ingestId i :=
    hrun.invariant ⟨hprocessed, _, hi, delivery_under hparse⟩
      fun _ _ _ hspared hguard hstep => hspared.step hguard hstep
  refine ⟨hspared.processed, fun e pool'' hstep => ?_⟩
  obtain ⟨p, hp, hunder⟩ := hspared.spares
  rcases Pool.step_cases hstep with ⟨_, h, -⟩ | ⟨j, e', c, next, hact, hj, rfl⟩ | ⟨_, _, _, h, -⟩
  · cases h
  · cases hact
    obtain rfl : p = .call c next := Option.some.inj (hp.symm.trans hj)
    exact published_answer hunder.1 e _
  · cases h

/-- Delivering a message whose ingest is processed changes neither the status nor the tile
sets. -/
def RedeliveryIdempotent (fromStr : String → Except String RawProcessingMessage) : Prop :=
  ∀ (config : ProcessingConfig) (promotedAt : ℕ) (received : ReceivedQueueMessage)
    (message : ProcessingMessage) (i : ℕ) (pool pool' : ProcessingPool),
    Reaches step (fun _ => Starts fromStr) empty pool →
    ProcessingMessage.parseJson fromStr received.messageText = .ok message →
    pool.world.Processed message.ingestId →
    pool.procs[i]? = some (delivery config fromStr promotedAt received) →
    Reaches step (fun _ event => ∃ e, event = .act i e) pool pool' →
      pool'.world.Processed message.ingestId ∧ pool'.world.tileSets = pool.world.tileSets

/-- A message is processed, its delete fails, and it is received again. -/
def processedEvents : List ProcessingEvent :=
  commandThrough (.ingest (sampleIngestRow 1)) 0 1 ++
    (commandThrough (.enqueue "viirs-processing" "a") 1 1 ++
      (commandThrough (.processOnce sampleConfig 0) 2 16 ++
        (PoolEvent.act 2 (sampleEnv .failed 0 0) ::
          commandThrough (.processOnce sampleConfig 0) 3 2)))

def processedPool : ProcessingPool := (runSteps step empty processedEvents).getD empty

def redelivered : ReceivedQueueMessage where
  messageId := 0
  popReceipt := 3
  dequeueCount := 2
  messageText := "a"

theorem processedPool_proc :
    processedPool.procs[3]? = some (delivery sampleConfig sampleFromStr 0 redelivered) := by
  with_unfolding_all rfl

theorem processedEvents_starts : ∀ event ∈ processedEvents, Starts sampleFromStr event := by
  rw [processedEvents, List.forall_mem_append, List.forall_mem_append, List.forall_mem_append,
    List.forall_mem_cons]
  exact ⟨commandThrough_starts _ 0 1, commandThrough_starts _ 1 1, commandThrough_starts _ 2 16,
    starts_act _ _, commandThrough_starts _ 3 2⟩

theorem processedPool_reached : Reaches step (fun _ => Starts sampleFromStr) empty processedPool := by
  apply reaches_of_runSteps processedEvents fun _ => processedEvents_starts
  with_unfolding_all rfl

theorem processedPool_processed : processedPool.world.Processed 1 where
  present := by decide +kernel
  status := by decide +kernel

theorem parse_redelivered : ProcessingMessage.parseJson sampleFromStr redelivered.messageText =
    .ok (sampleProcessingMessage 1) := by rfl

/-- The second delivery, from its start to its end. -/
def redeliveryActs : List ProcessingEvent := List.replicate 12 (.act 3 (sampleEnv .ok 0 0))

/-- The second delivery, its connection lost twice. -/
def refusedActs : List ProcessingEvent := List.replicate 2 (.act 3 (sampleEnv .failed 0 0))

/-- The second delivery records a start, publishes a second tile set and makes it the latest. -/
theorem not_redeliveryIdempotent : ¬ RedeliveryIdempotent sampleFromStr := by
  intro h
  have hrun : ∃ pool, Reaches step (fun _ event => ∃ e, event = .act 3 e) processedPool pool ∧
      decide (pool.world.tileSets.map TileSetRow.latest = [false, true] ∧
        processedPool.world.tileSets.map TileSetRow.latest = [true]) = true := by
    apply exists_reaches_of_runSteps redeliveryActs
    · intro _ event hevent
      exact ⟨sampleEnv .ok 0 0, (List.mem_replicate.mp hevent).2⟩
    · decide +kernel
  obtain ⟨pool, hreaches, htest⟩ := hrun
  obtain ⟨hafter, hbefore⟩ := of_decide_eq_true htest
  have hsame := (h sampleConfig 0 redelivered (sampleProcessingMessage 1) 3 processedPool pool
    processedPool_reached parse_redelivered processedPool_processed processedPool_proc hreaches).2
  rw [hsame, hbefore] at hafter
  exact absurd hafter (by decide)

/-- The second delivery loses its connection at the start, and cannot record its failure. -/
theorem redelivery_idempotent_refused :
    ∃ pool : ProcessingPool, pool.world.Processed 1 := by
  have hconnect (i : ℕ) (e : Env) (he : e.outcome = .failed) (pool : ProcessingPool) :
      KeepsProcessedAt sampleFromStr 1 pool (.act i e) :=
    ⟨starts_act i e, fun j e' c hact _ ho => by cases hact; exact absurd he ho⟩
  have hrun : Reaches step (KeepsProcessedAt sampleFromStr 1) processedPool
      ((runSteps step processedPool refusedActs).getD empty) := by
    apply reaches_of_guardedSteps refusedActs
    refine .cons (hconnect 3 _ rfl _) (by with_unfolding_all rfl) ?_
    exact .cons (hconnect 3 _ rfl _) (by with_unfolding_all rfl) (by with_unfolding_all rfl)
  exact ⟨_, (redelivery_idempotent sampleFromStr sampleConfig 0 redelivered
    (sampleProcessingMessage 1) 3 processedPool _ parse_redelivered processedPool_processed
    processedPool_proc hrun).1⟩

end ProcessingPool
end LumenHorizon.Processing
