import LumenHorizon.Ingest.Stranding

/-! # Pending outbox records and the rows they belong to

An outbox record and its row have independent statuses. A pending record can be delivered while
its row is validated or about to be replayed; otherwise it depends on a command that is about
to complete it.
-/

namespace LumenHorizon.Ingest
open Foundation Shared

/-- The record and some row are a pair `pending_enqueue_outbox` asks for. -/
def Tables.CanDeliver (t : Tables) (record : OutboxRow) : Prop :=
  ∃ row ∈ t.ingestLog, DeliverablePair (record, row)

namespace Tables

variable {t t' : Tables} {record record' : OutboxRow}

theorem CanDeliver.congr (h : t.CanDeliver record) (hlog : t'.ingestLog = t.ingestLog)
    (hid : record'.ingestId = record.ingestId) (hp : Pending record') : t'.CanDeliver record' := by
  obtain ⟨row, hrow, hrowId, -, hdeliverable⟩ := h
  exact ⟨row, by rw [hlog]; exact hrow, hrowId.trans hid.symm, hp, hdeliverable⟩

theorem CanDeliver.insertDownloadingRow (h : t.CanDeliver record) (granule : GranuleCandidate)
    (blobPath : String) (ingestId : Uuid) (now : ℕ) :
    (t.insertDownloadingRow granule blobPath ingestId now).1.CanDeliver record := by
  obtain ⟨row, hrow, hpair⟩ := h
  unfold Tables.insertDownloadingRow
  split
  · exact ⟨row, hrow, hpair⟩
  · exact ⟨row, List.mem_append_left _ hrow, hpair⟩

/-- A status update of another row, or one to `validated`, keeps a record deliverable. -/
theorem CanDeliver.setIngestStatus (h : t.CanDeliver record) {ingestId : Uuid}
    {status : IngestStatus} (hstatus : record.ingestId = ingestId → status = .validated)
    (errorMessage : Option String) (now : ℕ) :
    (t.setIngestStatus ingestId status errorMessage now).CanDeliver record := by
  obtain ⟨row, hrow, hid, hp, hdeliverable⟩ := h
  by_cases hmatch : row.id = ingestId
  · refine ⟨_, Table.mem_update_of hrow hmatch, hid, hp, .inl ?_⟩
    exact hstatus (hid.symm.trans hmatch)
  · exact ⟨row, Table.mem_update_of_not hrow hmatch, hid, hp, hdeliverable⟩

theorem CanDeliver.replayRejectedStatus (h : t.CanDeliver record) (ingestId : Uuid) (now : ℕ) :
    (t.replayRejectedStatus ingestId now).1.CanDeliver record := by
  obtain ⟨row, hrow, hid, hp, hdeliverable⟩ := h
  refine ⟨row, Table.mem_update_of_not hrow fun hmatch => ?_, hid, hp, hdeliverable⟩
  rcases hdeliverable with hs | hs
  · exact absurd (hmatch.2.symm.trans hs) (by decide)
  · exact absurd (hmatch.2.symm.trans hs) (by decide)

end Tables

namespace IngestPool

variable {pool pool' : IngestPool} {i : ℕ} {e : Env} {c : IngestCall}
  {next : c.Reply → IngestProgram Unit} {record : OutboxRow}

/-- A live command other than `i` is about to complete the record. -/
def CompletedByOther (pool : IngestPool) (i : ℕ) (record : OutboxRow) : Prop :=
  ∃ j, j ≠ i ∧ pool.nextCall j = some (.markOutboxCompleted record.id)

/-- Without command `i` the pending record can still be delivered, or is about to be completed. -/
def KeptWithout (pool : IngestPool) (i : ℕ) (record : OutboxRow) : Prop :=
  pool.world.tables.CanDeliver record ∨ pool.CompletedByOther i record

/-- The condition on one call of command `i`, given the calls its replies lead to:
a row with a pending record is not set to a status that hides the record, except to `enqueued`
by the command that completes the record next; a record is created for a deliverable row; and
completing a record does not fail. -/
def CallKeepsDelivery (pool : IngestPool) (i : ℕ) (e : Env) :
    (c : IngestCall) → (c.Reply → Option IngestCall) → Prop
  | .setStatus ingestId status _, following => e.outcome ≠ .failed → status ≠ .validated →
      ∀ record ∈ pool.world.tables.outbox, record.ingestId = ingestId → Pending record →
        pool.CompletedByOther i record ∨
          (e.outcome = .ok ∧ following (.ok ()) = some (.markOutboxCompleted record.id))
  | .createPendingEnqueueOutbox ingestId _, _ => e.outcome ≠ .failed →
      ∃ row ∈ pool.world.tables.ingestLog, row.id = ingestId ∧ Deliverable row
  | .markOutboxCompleted outboxId, _ => e.outcome = .failed →
      ∀ record ∈ pool.world.tables.outbox, record.id = outboxId → Pending record →
        pool.KeptWithout i record
  | _, _ => True

def KeepsDelivery (pool : IngestPool) : IngestEvent → Prop
  | .spawn _ => True
  | .act i e => ∀ c next, pool.procs[i]? = some (.call c next) →
      pool.CallKeepsDelivery i e c fun reply => (next reply).next?
  | .stop i => ∀ record ∈ pool.world.tables.outbox, Pending record →
      pool.nextCall i = some (.markOutboxCompleted record.id) → pool.KeptWithout i record

/-- Every pending record can be delivered or is about to be completed by a live command. -/
def Delivering (pool : IngestPool) : Prop :=
  ∀ record ∈ pool.world.tables.outbox, Pending record →
    pool.world.tables.CanDeliver record ∨
      ∃ i, pool.nextCall i = some (.markOutboxCompleted record.id)

theorem Delivering.without (h : pool.Delivering) (hi : pool.nextCall i = some c)
    (hrecord : record ∈ pool.world.tables.outbox) (hp : Pending record)
    (hother : ¬ pool.CompletedByOther i record) :
    pool.world.tables.CanDeliver record ∨ c = .markOutboxCompleted record.id := by
  rcases h record hrecord hp with hcan | ⟨j, hj⟩
  · exact .inl hcan
  · by_cases hij : j = i
    · subst hij
      rw [hi] at hj
      exact .inr (Option.some.inj hj)
    · exact absurd ⟨j, hij, hj⟩ hother

theorem CompletedByOther.set (h : pool.CompletedByOther i record) (p : IngestProgram Unit)
    (world : IngestWorld) : ∃ j, (⟨world, pool.procs.set i p⟩ : IngestPool).nextCall j =
      some (.markOutboxCompleted record.id) := by
  obtain ⟨j, hji, hj⟩ := h
  exact ⟨j, by rw [Pool.nextCall_set_of_ne (Ne.symm hji)]; exact hj⟩

/-- After a call that takes effect a pending record can be delivered, or is completed next. -/
theorem Delivering.act_applied (h : pool.Delivering) (hi : pool.nextCall i = some c)
    (hkeeps : pool.CallKeepsDelivery i e c fun reply => (next reply).next?)
    (happlied : e.outcome ≠ .failed)
    (hrecord : record ∈ (effect e.now pool.world c).tables.outbox) (hp : Pending record)
    (hother : ¬ pool.CompletedByOther i record) :
    (effect e.now pool.world c).tables.CanDeliver record ∨
      (next (answer c e pool.world).2).next? = some (.markOutboxCompleted record.id) := by
  cases c with
  | insertDownloadingRow granule blobPath =>
    have hbefore : record ∈ pool.world.tables.outbox := by simpa [effect] using hrecord
    rcases h.without hi hbefore hp hother with hcan | hc
    · exact .inl (hcan.insertDownloadingRow granule blobPath _ _)
    · cases hc
  | setStatus ingestId status errorMessage =>
    rcases h.without hi hrecord hp hother with hcan | hc
    · by_cases hhides : record.ingestId = ingestId ∧ status ≠ .validated
      · obtain ⟨hok, hnext⟩ :=
          (hkeeps happlied hhides.2 record hrecord hhides.1 hp).resolve_left hother
        rw [answer_reply_of_ok hok]
        exact .inr hnext
      · refine .inl (hcan.setIngestStatus (fun hid => ?_) errorMessage e.now)
        by_contra hne
        exact hhides ⟨hid, hne⟩
    · cases hc
  | createPendingEnqueueOutbox ingestId reason =>
    have hlog : (effect e.now pool.world (.createPendingEnqueueOutbox ingestId reason)).tables.ingestLog
        = pool.world.tables.ingestLog := by simp [effect]
    rcases Tables.pending_createPendingEnqueueOutbox hrecord hp with hid | hbefore
    · obtain ⟨row, hrow, hrowId, hdeliverable⟩ := hkeeps happlied
      exact .inl ⟨row, by rw [hlog]; exact hrow, hrowId.trans hid.symm, hp, hdeliverable⟩
    · rcases h.without hi hbefore hp hother with hcan | hc
      · exact .inl (hcan.congr hlog rfl hp)
      · cases hc
  | markOutboxCompleted outboxId =>
    obtain ⟨old, hold, ⟨-, rfl⟩ | ⟨hne, rfl⟩⟩ := Table.mem_update.mp hrecord
    · cases hp
    · rcases h.without hi hold hp hother with hcan | hc
      · exact .inl (hcan.congr rfl rfl hp)
      · exact absurd (IngestCall.markOutboxCompleted.inj hc).symm hne
  | markOutboxFailed outboxId errorMessage =>
    obtain ⟨old, hold, ⟨-, rfl⟩ | ⟨-, rfl⟩⟩ := Table.mem_update.mp hrecord
    · have hpOld : Pending old := by
        simp only [Pending] at hp ⊢
        split at hp
        · cases hp
        · exact hp
      rcases h.without hi hold hpOld hother with hcan | hc
      · exact .inl (hcan.congr rfl rfl hp)
      · cases hc
    · rcases h.without hi hold hp hother with hcan | hc
      · exact .inl (hcan.congr rfl rfl hp)
      · cases hc
  | replayRejectedStatus ingestId =>
    rcases h.without hi hrecord hp hother with hcan | hc
    · exact .inl (hcan.replayRejectedStatus ingestId e.now)
    · cases hc
  | _ =>
    rcases h.without hi hrecord hp hother with hcan | hc
    · exact .inl hcan
    · cases hc

theorem Delivering.act (h : pool.Delivering) (hi : pool.procs[i]? = some (.call c next))
    (hkeeps : pool.CallKeepsDelivery i e c fun reply => (next reply).next?) :
    Delivering ⟨(answer c e pool.world).1, pool.procs.set i (next (answer c e pool.world).2)⟩ := by
  intro record hrecord hp
  by_cases hother : pool.CompletedByOther i record
  · exact .inr (hother.set _ _)
  have hcall : pool.nextCall i = some c := Pool.nextCall_eq_some_iff.mpr ⟨next, hi⟩
  have hself := Pool.nextCall_set_self hi (next (answer c e pool.world).2)
    (answer c e pool.world).1
  by_cases hfailed : e.outcome = .failed
  · rw [answer_world_of_failed hfailed] at hrecord ⊢
    rcases h.without hcall hrecord hp hother with hcan | rfl
    · exact .inl hcan
    · exact .inl ((hkeeps hfailed record hrecord rfl hp).resolve_right hother)
  · rw [answer_world_of_applied hfailed] at hrecord hself ⊢
    rcases h.act_applied hcall hkeeps hfailed hrecord hp hother with hcan | hnext
    · exact .inl hcan
    · exact .inr ⟨i, hself.trans hnext⟩

theorem Delivering.step {event : IngestEvent} (h : pool.Delivering)
    (hkeeps : pool.KeepsDelivery event) (hstep : pool.step event = some pool') :
    pool'.Delivering := by
  rcases Pool.step_cases hstep with
    ⟨p, rfl, rfl⟩ | ⟨i, e, c, next, rfl, hi, rfl⟩ | ⟨i, c, next, rfl, hi, rfl⟩
  · intro record hrecord hp
    rcases h record hrecord hp with hcan | ⟨j, hj⟩
    · exact .inl hcan
    · exact .inr ⟨j, Pool.nextCall_spawn hj p⟩
  · exact h.act hi (hkeeps c next hi)
  · intro record hrecord hp
    by_cases hother : pool.CompletedByOther i record
    · exact .inr (hother.set _ _)
    have hcall := Pool.nextCall_eq_some_iff.mpr ⟨next, hi⟩
    rcases h.without hcall hrecord hp hother with hcan | rfl
    · exact .inl hcan
    · exact .inl ((hkeeps record hrecord hp hcall).resolve_right hother)

theorem delivering_empty : Delivering empty := by
  intro record hrecord
  cases hrecord

/-- In a quiescent state `pending_enqueue_outbox` asks for every pending record. -/
def PendingDeliverable (pool : IngestPool) : Prop :=
  Pool.Quiescent pool → ∀ record ∈ pool.world.tables.outbox, Pending record →
    pool.world.tables.CanDeliver record

theorem Delivering.pendingDeliverable (h : pool.Delivering) : pool.PendingDeliverable := by
  intro hquiet record hrecord hp
  rcases h record hrecord hp with hcan | hpending
  · exact hcan
  · exact absurd hpending (Pool.not_pending_of_quiescent hquiet _)

/-- In every run of ingest passes, recoveries and replays whose steps meet the condition, every
pending record of a quiescent state can be delivered. -/
theorem pendingDeliverable_of_run
    (h : Reaches step (fun pool event => Starts event ∧ pool.KeepsDelivery event) empty pool) :
    pool.PendingDeliverable := by
  have hinv : pool.Delivering := h.invariant delivering_empty
    fun _ _ _ hinv hguard hstep => hinv.step hguard.2 hstep
  exact hinv.pendingDeliverable

def createdRecord : OutboxRow where
  id := 1
  ingestId := 0
  status := .pending
  reason := "ingest_validated"
  attempts := 0
  errorMessage := none
  createdAt := 0
  updatedAt := 0
  completedAt := none

/-- The row after the pass that could not enqueue its message marked it failed. -/
def unqueuedRow : IngestRow := { validatedRow with
  status := .failed
  errorMessage := some (truncateErrorMessage
    (IngestFailureContext.queueEnqueue (sampleEnv .failed).storageError).databaseMessage) }

/-- The queue refuses the message and the row is marked failed: its record stays pending, and
no recovery delivers it. -/
theorem undeliverable_after_enqueueFailure :
    ∃ pool, Reaches step (fun _ event => Starts event) empty pool ∧ ¬ pool.PendingDeliverable := by
  refine ⟨⟨⟨⟨[unqueuedRow], [createdRecord]⟩, 2, []⟩, [.done ()]⟩,
    reaches_of_runSteps (validatingEvents ++
      [.act 0 (sampleEnv .ok), .act 0 (sampleEnv .failed), .act 0 (sampleEnv .ok)]) ?_ rfl,
    fun h => ?_⟩
  · intro _ event hevent
    rcases List.mem_append.mp hevent with hevent | hevent
    · exact validatingEvents_starts hevent
    · rintro p rfl
      simp at hevent
  · have hquiet : Pool.Quiescent
        (⟨⟨⟨[unqueuedRow], [createdRecord]⟩, 2, []⟩, [.done ()]⟩ : IngestPool) := by
      simp [Pool.Quiescent]
    obtain ⟨row, hrow, -, -, hdeliverable⟩ :=
      h hquiet createdRecord (List.mem_singleton.mpr rfl) rfl
    rw [List.mem_singleton.mp hrow] at hdeliverable
    revert hdeliverable
    decide

def Creates : IngestCall → Bool
  | .createPendingEnqueueOutbox _ _ => true
  | _ => false

theorem keepsDelivery_of_noOutbox (houtbox : pool.world.tables.outbox = [])
    (hcreates : (pool.nextCall i).any Creates = false) : pool.KeepsDelivery (.act i e) := by
  intro c next hi
  rw [Pool.nextCall_eq_some_iff.mpr ⟨next, hi⟩] at hcreates
  cases c with
  | setStatus ingestId status errorMessage =>
    intro _ _ record hrecord
    rw [houtbox] at hrecord
    cases hrecord
  | createPendingEnqueueOutbox ingestId reason => cases hcreates
  | markOutboxCompleted outboxId =>
    intro _ record hrecord
    rw [houtbox] at hrecord
    cases hrecord
  | _ => trivial

/-- The pass stops right after its outbox record is created: the next recovery delivers it. -/
theorem pendingDeliverable_after_outbox :
    PendingDeliverable ⟨⟨⟨[validatedRow], [createdRecord]⟩, 2, []⟩, [.done ()]⟩ := by
  apply pendingDeliverable_of_run
  apply reaches_of_guardedSteps (validatingEvents ++ [.act 0 (sampleEnv .ok), .stop 0])
  have hstarts : Starts (.act 0 (sampleEnv .ok)) := by
    intro p hp
    cases hp
  have hbefore (pool : IngestPool) (houtbox : pool.world.tables.outbox = [])
      (hcreates : (pool.nextCall 0).any Creates = false) :
      Starts (.act 0 (sampleEnv .ok)) ∧ pool.KeepsDelivery (.act 0 (sampleEnv .ok)) :=
    ⟨hstarts, keepsDelivery_of_noOutbox houtbox hcreates⟩
  refine .cons ⟨validatingEvents_starts List.mem_cons_self, trivial⟩ rfl ?_
  refine .cons (hbefore _ rfl rfl) rfl ?_
  refine .cons (hbefore _ rfl rfl) rfl ?_
  refine .cons (hbefore _ rfl rfl) rfl ?_
  refine .cons (hbefore _ rfl rfl) rfl ?_
  refine .cons (hbefore _ rfl rfl) rfl ?_
  refine .cons (hbefore _ rfl rfl) rfl ?_
  refine .cons (hbefore _ rfl rfl) rfl ?_
  refine .cons (hbefore _ rfl rfl) rfl ?_
  refine .cons ⟨hstarts, fun c next hi => ?_⟩ rfl ?_
  · obtain ⟨rfl, -⟩ := Program.call.inj (Option.some.inj hi)
    exact fun _ => ⟨validatedRow, List.mem_singleton.mpr rfl, rfl, .inl rfl⟩
  refine .cons ⟨fun p hp => (nomatch hp), fun record hrecord hp hcall => ?_⟩ rfl rfl
  cases hcall

end IngestPool
end LumenHorizon.Ingest
