import LumenHorizon.Ingest.Commands

/-! # Validated granules and their outbox records

Marking a row validated and creating its outbox record are two statements. Between them the row
depends on the run that has to make the second one; everywhere else it depends on its pending
record.
-/

namespace LumenHorizon.Ingest
open Foundation Shared Program IngestProgram

/-- After marking a row validated a command goes on to create its outbox record, and the
pipeline marks the row failed if that insert fails. -/
def windowRule : (c : IngestCall) → (c.Reply → Option IngestCall) → Prop
  | .setStatus ingestId .validated _, next =>
    ∃ reason, next (.ok ()) = some (.createPendingEnqueueOutbox ingestId reason)
  | .createPendingEnqueueOutbox ingestId reason, next =>
    reason = "ingest_validated" →
      ∀ error, ∃ message, next (.error error) = some (.setStatus ingestId .failed message)
  | _, _ => True

theorem windowRule_extensible : Extensible windowRule := by
  intro c next next' h hext
  cases c with
  | setStatus ingestId status errorMessage =>
    cases status with
    | validated =>
      obtain ⟨reason, hr⟩ := h
      exact ⟨reason, hext _ _ hr⟩
    | _ => trivial
  | createPendingEnqueueOutbox ingestId reason =>
    intro hreason error
    obtain ⟨message, hm⟩ := h hreason error
    exact ⟨message, hext _ _ hm⟩
  | _ => trivial

theorem enqueueGranule_always (config : IngestConfig) (granule : GranuleCandidate)
    (blobPath : String) (ingestId outboxId : Uuid) :
    (enqueueGranule config granule blobPath ingestId outboxId).Always windowRule := by
  unfold enqueueGranule
  split
  · exact Always.call trivial fun _ => trivial
  · refine Always.call trivial fun reply => ?_
    cases reply with
    | error error => exact Always.call trivial fun _ => trivial
    | ok _ =>
      refine Always.call trivial fun reply => ?_
      cases reply with
      | error error => trivial
      | ok _ =>
        refine Always.call trivial fun reply => ?_
        cases reply with
        | error error => trivial
        | ok _ => trivial

theorem validateGranule_always (config : IngestConfig) (granule : GranuleCandidate)
    (blobPath : String) (ingestId : Uuid) :
    (validateGranule config granule blobPath ingestId).Always windowRule := by
  refine Always.call ⟨_, rfl⟩ fun reply => ?_
  cases reply with
  | error error => trivial
  | ok _ =>
    refine Always.call (fun _ error => ⟨_, rfl⟩) fun reply => ?_
    cases reply with
    | error error => exact Always.call trivial fun _ => trivial
    | ok outboxId => exact enqueueGranule_always config granule blobPath ingestId outboxId

theorem downloadGranule_always (config : IngestConfig) (granule : GranuleCandidate)
    (blobPath : String) (ingestId : Uuid) :
    (downloadGranule config granule blobPath ingestId).Always windowRule := by
  refine Always.call trivial fun reply => ?_
  cases reply with
  | error error => exact Always.call trivial fun _ => trivial
  | ok bytes =>
    refine Always.call trivial fun reply => ?_
    cases reply with
    | error error => exact Always.call trivial fun _ => trivial
    | ok _ =>
      refine Always.call trivial fun reply => ?_
      cases reply with
      | error error => trivial
      | ok _ =>
        cases validateRawGranuleBytes bytes with
        | error error => exact Always.call trivial fun _ => trivial
        | ok _ => exact validateGranule_always config granule blobPath ingestId

theorem processGranule_always (config : IngestConfig) (granule : GranuleCandidate) :
    (processGranule config granule).Always windowRule := by
  refine Always.call trivial fun reply => ?_
  cases reply with
  | error error => trivial
  | ok outcome =>
    cases outcome with
    | created ingestId => exact downloadGranule_always config granule _ ingestId
    | alreadyExists => trivial

theorem processGranules_always (config : IngestConfig) (granules : List GranuleCandidate)
    (summary : IngestSummary) : (processGranules config granules summary).Always windowRule := by
  induction granules generalizing summary with
  | nil => trivial
  | cons granule granules ih =>
    exact Always.bind windowRule_extensible (processGranule_always config granule)
      fun outcome => ih (summary.recordAttempt outcome)

theorem ingestGranules_always (config : IngestConfig) (granules : List GranuleCandidate)
    (summary : IngestSummary) : (ingestGranules config granules summary).Always windowRule := by
  refine Always.call trivial fun reply => ?_
  cases reply with
  | error error => trivial
  | ok _ =>
    refine Always.call trivial fun reply => ?_
    cases reply with
    | error error => trivial
    | ok _ =>
      refine Always.call trivial fun reply => ?_
      cases reply with
      | error error => trivial
      | ok _ =>
        change Always windowRule (processGranules config granules summary >>= _)
        exact Always.bind windowRule_extensible (processGranules_always config granules summary)
          fun _ => trivial

theorem recoverRows_always (rows : List IngestRecoveryRecord) (summary : RecoverySummary) :
    (recoverRows rows summary).Always windowRule := by
  induction rows generalizing summary with
  | nil => trivial
  | cons row rows ih =>
    refine Always.call trivial fun reply => ?_
    cases reply with
    | error error =>
      refine Always.call trivial fun reply => ?_
      cases reply with
      | error error => trivial
      | ok _ => exact ih _
    | ok bytes =>
      simp only [Program.andThen]
      cases validateRawGranuleBytes bytes with
      | error error =>
        refine Always.call trivial fun reply => ?_
        cases reply with
        | error error => trivial
        | ok _ => exact ih _
      | ok _ =>
        refine Always.call ⟨_, rfl⟩ fun reply => ?_
        cases reply with
        | error error => trivial
        | ok _ =>
          refine Always.call (fun h => absurd h (by decide)) fun reply => ?_
          cases reply with
          | error error => trivial
          | ok _ => exact ih _

theorem enqueueRecords_always (config : IngestConfig) (records : List PendingOutboxRecord)
    (summary : RecoverySummary) : (enqueueRecords config records summary).Always windowRule := by
  induction records generalizing summary with
  | nil => trivial
  | cons record records ih =>
    unfold enqueueRecords
    split
    · refine Always.call trivial fun reply => ?_
      cases reply with
      | error error => trivial
      | ok _ => exact ih _
    · refine Always.call trivial fun reply => ?_
      cases reply with
      | error error =>
        refine Always.call trivial fun reply => ?_
        cases reply with
        | error error => trivial
        | ok _ => exact ih _
      | ok _ =>
        refine Always.call trivial fun reply => ?_
        cases reply with
        | error error => trivial
        | ok _ =>
          refine Always.call trivial fun reply => ?_
          cases reply with
          | error error => trivial
          | ok _ => exact ih _

theorem enqueuePendingOutbox_always (config : IngestConfig) (summary : RecoverySummary) :
    (enqueuePendingOutbox config summary).Always windowRule := by
  refine Always.call trivial fun reply => ?_
  cases reply with
  | error error => trivial
  | ok records => exact enqueueRecords_always config records summary

theorem runRecovery_always (config : IngestConfig) : (runRecovery config).Always windowRule := by
  refine Always.call trivial fun reply => ?_
  cases reply with
  | error error => trivial
  | ok _ =>
    refine Always.call trivial fun reply => ?_
    cases reply with
    | error error => trivial
    | ok _ =>
      refine Always.call trivial fun reply => ?_
      cases reply with
      | error error => trivial
      | ok rows =>
        change Always windowRule (recoverRows rows RecoverySummary.default >>= _)
        refine Always.bind windowRule_extensible (recoverRows_always rows _) fun outcome => ?_
        cases outcome with
        | error error => trivial
        | ok summary => exact enqueuePendingOutbox_always config summary

theorem replayRejectedGranule_always (config : IngestConfig) (ingestId : Uuid) :
    (replayRejectedGranule config ingestId).Always windowRule := by
  refine Always.bind windowRule_extensible ?_ fun outcome => ?_
  · refine Always.call trivial fun reply => ?_
    cases reply with
    | error error => trivial
    | ok updated =>
      change Always windowRule (if updated = 0 then _ else _)
      split
      · trivial
      · refine Always.call (fun h => absurd h (by decide)) fun reply => ?_
        cases reply <;> trivial
  · cases outcome with
    | error error => trivial
    | ok replayed =>
      cases replayed with
      | false => trivial
      | true =>
        refine Always.call trivial fun reply => ?_
        cases reply with
        | error error => trivial
        | ok _ => exact enqueuePendingOutbox_always config _

theorem Command.program_always (command : Command) : command.program.Always windowRule := by
  cases command with
  | ingest config granules =>
    exact Always.bind windowRule_extensible (ingestGranules_always config granules _)
      fun _ => trivial
  | recovery config =>
    exact Always.bind windowRule_extensible (runRecovery_always config) fun _ => trivial
  | replay config ingestId =>
    exact Always.bind windowRule_extensible (replayRejectedGranule_always config ingestId)
      fun _ => trivial

/-! ## What a validated row depends on -/

/-- A call that gives a validated row its pending record, or takes the status away. -/
def Covers (ingestId : Uuid) : IngestCall → Prop
  | .createPendingEnqueueOutbox id _ => id = ingestId
  | .setStatus id .failed _ => id = ingestId
  | _ => False

namespace IngestPool

variable {pool pool' : IngestPool}

/-- A live command other than `i` is about to cover the row. -/
def CoveredByOther (pool : IngestPool) (i : ℕ) (ingestId : Uuid) : Prop :=
  ∃ j, j ≠ i ∧ ∃ c, pool.nextCall j = some c ∧ Covers ingestId c

/-- Without command `i` a validated row still has its pending record or a command that is about
to cover it. -/
def SafeWithout (pool : IngestPool) (i : ℕ) (ingestId : Uuid) : Prop :=
  pool.world.tables.HasStatus ingestId .validated →
    pool.world.tables.HasPending ingestId ∨ pool.CoveredByOther i ingestId

/-- The condition on one call of command `i`: it does not leave the window between the two
statements by an error, and it does not settle the pending record of a validated row. -/
def CallKeepsCover (pool : IngestPool) (i : ℕ) (e : Env) : IngestCall → Prop
  | .setStatus ingestId .validated _ => e.outcome = .lost →
      pool.world.tables.HasPending ingestId ∨ pool.CoveredByOther i ingestId
  | .setStatus ingestId .failed _ => e.outcome = .failed → pool.SafeWithout i ingestId
  | .createPendingEnqueueOutbox ingestId reason =>
      e.outcome = .failed → reason ≠ "ingest_validated" → pool.SafeWithout i ingestId
  | .markOutboxCompleted outboxId => e.outcome ≠ .failed →
      ∀ record ∈ pool.world.tables.outbox, record.id = outboxId → Pending record →
        pool.world.tables.HasStatus record.ingestId .validated →
          pool.CoveredByOther i record.ingestId
  | .markOutboxFailed outboxId _ => e.outcome ≠ .failed →
      ∀ record ∈ pool.world.tables.outbox, record.id = outboxId → Pending record →
        outboxMaxAttempts ≤ record.attempts + 1 →
          pool.world.tables.HasStatus record.ingestId .validated →
            pool.CoveredByOther i record.ingestId
  | _ => True

def KeepsCover (pool : IngestPool) : IngestEvent → Prop
  | .spawn _ => True
  | .act i e => ∀ c, pool.nextCall i = some c → pool.CallKeepsCover i e c
  | .stop i => ∀ c ingestId, pool.nextCall i = some c → Covers ingestId c →
      pool.SafeWithout i ingestId

/-- Every validated row has a pending record or a live command that is about to cover it. -/
def Covered (pool : IngestPool) : Prop :=
  ∀ ingestId, pool.world.tables.HasStatus ingestId .validated →
    pool.world.tables.HasPending ingestId ∨ ∃ i c, pool.nextCall i = some c ∧ Covers ingestId c

/-- A row that no other command covers has its record, or command `i` covers it. -/
theorem Covered.without (h : pool.Covered) {i : ℕ} {c : IngestCall} {ingestId : Uuid}
    (hi : pool.nextCall i = some c) (hother : ¬ pool.CoveredByOther i ingestId)
    (hstatus : pool.world.tables.HasStatus ingestId .validated) :
    pool.world.tables.HasPending ingestId ∨ Covers ingestId c := by
  rcases h ingestId hstatus with hp | ⟨j, d, hj, hd⟩
  · exact .inl hp
  · by_cases hij : j = i
    · subst hij
      rw [hi] at hj
      obtain rfl := Option.some.inj hj
      exact .inr hd
    · exact absurd ⟨j, hij, d, hj, hd⟩ hother

theorem CoveredByOther.set {i : ℕ} {ingestId : Uuid} (h : pool.CoveredByOther i ingestId)
    (p : IngestProgram Unit) (world : IngestWorld) :
    ∃ j c, (⟨world, pool.procs.set i p⟩ : IngestPool).nextCall j = some c ∧ Covers ingestId c := by
  obtain ⟨j, hji, c, hj, hc⟩ := h
  exact ⟨j, c, by rw [Pool.nextCall_set_of_ne (Ne.symm hji)]; exact hj, hc⟩

variable {i : ℕ} {e : Env} {c : IngestCall} {next : c.Reply → IngestProgram Unit}
  {ingestId : Uuid}

/-- A call that has no effect leaves the row its record, or goes on to cover it. -/
theorem Covered.act_failed (hrule : (Program.call c next).Always windowRule)
    (hkeeps : pool.CallKeepsCover i e c) (hfailed : e.outcome = .failed)
    (hother : ¬ pool.CoveredByOther i ingestId)
    (hstatus : pool.world.tables.HasStatus ingestId .validated)
    (hwithout : pool.world.tables.HasPending ingestId ∨ Covers ingestId c) :
    pool.world.tables.HasPending ingestId ∨
      ∃ d, (next (answer c e pool.world).2).next? = some d ∧ Covers ingestId d := by
  rcases hwithout with hp | hcovers
  · exact .inl hp
  cases c with
  | setStatus id status errorMessage =>
    cases status with
    | failed =>
      obtain rfl : id = ingestId := hcovers
      exact .inl ((hkeeps hfailed hstatus).resolve_right hother)
    | _ => exact hcovers.elim
  | createPendingEnqueueOutbox id reason =>
    obtain rfl : id = ingestId := hcovers
    by_cases hreason : reason = "ingest_validated"
    · obtain ⟨message, hnext⟩ := hrule.1 hreason e.dbError
      rw [answer_reply_of_error (by rw [hfailed]; decide)]
      exact .inr ⟨_, hnext, rfl⟩
    · exact .inl ((hkeeps hfailed hreason hstatus).resolve_right hother)
  | _ => exact hcovers.elim

/-- A call that takes effect leaves the row its record, or goes on to cover it. -/
theorem Covered.act_applied (hrule : (Program.call c next).Always windowRule)
    (hkeeps : pool.CallKeepsCover i e c) (happlied : e.outcome ≠ .failed)
    (hother : ¬ pool.CoveredByOther i ingestId)
    (hstatus : (effect e.now pool.world c).tables.HasStatus ingestId .validated)
    (hwithout : pool.world.tables.HasStatus ingestId .validated →
      pool.world.tables.HasPending ingestId ∨ Covers ingestId c) :
    (effect e.now pool.world c).tables.HasPending ingestId ∨
      ∃ d, (next (answer c e pool.world).2).next? = some d ∧ Covers ingestId d := by
  cases c with
  | insertDownloadingRow granule blobPath =>
    have hbefore := (Tables.hasStatus_insertDownloadingRow hstatus).resolve_right (by decide)
    have hp := (hwithout hbefore).resolve_right id
    exact .inl (hp.of_outbox_eq (Tables.insertDownloadingRow_outbox _ _))
  | setStatus id status errorMessage =>
    rcases (Tables.hasStatus_setIngestStatus_iff _).mp hstatus with
      ⟨rfl, rfl, -⟩ | ⟨hne, hbefore⟩
    · by_cases hok : e.outcome = .ok
      · obtain ⟨reason, hnext⟩ := hrule.1
        rw [answer_reply_of_ok hok]
        exact .inr ⟨_, hnext, rfl⟩
      · have hlost : e.outcome = .lost := by
          cases houtcome : e.outcome with
          | ok => exact absurd houtcome hok
          | failed => exact absurd houtcome happlied
          | lost => rfl
        exact .inl ((hkeeps hlost).resolve_right hother)
    · refine .inl ((hwithout hbefore).resolve_right fun hcovers => ?_)
      cases status with
      | failed => exact hne (Eq.symm hcovers)
      | _ => exact hcovers
  | createPendingEnqueueOutbox id reason =>
    have hbefore : pool.world.tables.HasStatus ingestId .validated := by
      simpa [effect, Tables.HasStatus] using hstatus
    by_cases hid : id = ingestId
    · subst hid
      obtain ⟨row, hrow, hrowId, -⟩ := hbefore
      exact .inl (Tables.hasPending_createPendingEnqueueOutbox ⟨row, hrow, hrowId⟩ reason)
    · have hp := (hwithout hbefore).resolve_right hid
      exact .inl (hp.createPendingEnqueueOutbox reason)
  | markOutboxCompleted outboxId =>
    have hp := (hwithout hstatus).resolve_right id
    rcases hp.markOutboxCompleted with hp | ⟨record, hrecord, hid, rfl, hpending⟩
    · exact .inl hp
    · exact absurd (hkeeps happlied record hrecord hid hpending hstatus) hother
  | markOutboxFailed outboxId errorMessage =>
    have hp := (hwithout hstatus).resolve_right id
    rcases hp.markOutboxFailed errorMessage with hp | ⟨record, hrecord, hid, rfl, hpending, hlast⟩
    · exact .inl hp
    · exact absurd (hkeeps happlied record hrecord hid hpending hlast hstatus) hother
  | replayRejectedStatus id =>
    have hbefore := (Tables.hasStatus_replayRejectedStatus hstatus).resolve_right (by decide)
    exact .inl ((hwithout hbefore).resolve_right fun h => h)
  | _ => exact .inl ((hwithout hstatus).resolve_right id)

theorem Covered.act (h : pool.Covered) (hi : pool.procs[i]? = some (.call c next))
    (hrule : (Program.call c next).Always windowRule) (hkeeps : pool.CallKeepsCover i e c) :
    Covered ⟨(answer c e pool.world).1, pool.procs.set i (next (answer c e pool.world).2)⟩ := by
  intro ingestId hstatus
  by_cases hother : pool.CoveredByOther i ingestId
  · exact .inr (hother.set _ _)
  have hwithout := h.without (Pool.nextCall_eq_some_iff.mpr ⟨next, hi⟩) hother
  have hself := Pool.nextCall_set_self hi (next (answer c e pool.world).2)
    (answer c e pool.world).1
  by_cases hfailed : e.outcome = .failed
  · rw [answer_world_of_failed hfailed] at hstatus hself ⊢
    rcases act_failed hrule hkeeps hfailed hother hstatus (hwithout hstatus) with hp | ⟨d, hd, hcov⟩
    · exact .inl hp
    · exact .inr ⟨i, d, hself.trans hd, hcov⟩
  · rw [answer_world_of_applied hfailed] at hstatus hself ⊢
    rcases act_applied hrule hkeeps hfailed hother hstatus hwithout with hp | ⟨d, hd, hcov⟩
    · exact .inl hp
    · exact .inr ⟨i, d, hself.trans hd, hcov⟩

theorem Covered.step {event : IngestEvent} (h : pool.Covered)
    (hall : ∀ p ∈ pool.procs, p.Always windowRule) (hkeeps : pool.KeepsCover event)
    (hstep : pool.step event = some pool') : pool'.Covered := by
  rcases Pool.step_cases hstep with
    ⟨p, rfl, rfl⟩ | ⟨i, e, c, next, rfl, hi, rfl⟩ | ⟨i, c, next, rfl, hi, rfl⟩
  · intro ingestId hstatus
    rcases h ingestId hstatus with hp | ⟨j, d, hj, hd⟩
    · exact .inl hp
    · exact .inr ⟨j, d, Pool.nextCall_spawn hj p, hd⟩
  · exact h.act hi (hall _ (List.mem_of_getElem? hi))
      (hkeeps c (Pool.nextCall_eq_some_iff.mpr ⟨next, hi⟩))
  · intro ingestId hstatus
    have hcall := Pool.nextCall_eq_some_iff.mpr ⟨next, hi⟩
    by_cases hother : pool.CoveredByOther i ingestId
    · exact .inr (hother.set _ _)
    · rcases h.without hcall hother hstatus with hp | hcovers
      · exact .inl hp
      · exact .inl ((hkeeps c ingestId hcall hcovers hstatus).resolve_right hother)

/-- Every validated row that no live command is calling about has a pending record that
`pending_enqueue_outbox` asks for, or is asked for by `recoverable_raw_rows`. -/
def NoneStranded (pool : IngestPool) : Prop :=
  ∀ row ∈ pool.world.tables.ingestLog, row.status = .validated →
    (∀ i c, pool.nextCall i = some c → c.ingestId? ≠ some row.id) →
      (∃ record ∈ pool.world.tables.outbox, DeliverablePair (record, row)) ∨ Recoverable row

theorem ingestId?_of_covers {c : IngestCall} (h : Covers ingestId c) :
    c.ingestId? = some ingestId := by
  cases c with
  | setStatus id status errorMessage =>
    cases status with
    | failed => exact congrArg some h
    | _ => exact h.elim
  | createPendingEnqueueOutbox id reason => exact congrArg some h
  | _ => exact h.elim

theorem Covered.noneStranded (h : pool.Covered) : pool.NoneStranded := by
  intro row hrow hstatus hidle
  rcases h row.id ⟨row, hrow, rfl, hstatus⟩ with ⟨record, hrecord, hid, hp⟩ | ⟨i, c, hi, hc⟩
  · exact .inl ⟨record, hrecord, hid.symm, hp, .inl hstatus⟩
  · exact absurd (ingestId?_of_covers hc) (hidle i c hi)

structure WindowInvariant (pool : IngestPool) : Prop where
  covered : pool.Covered
  ruled : ∀ p ∈ pool.procs, p.Always windowRule

theorem windowInvariant_empty : WindowInvariant empty where
  covered := by
    rintro ingestId ⟨row, hrow, -⟩
    cases hrow
  ruled := by
    intro p hp
    cases hp

theorem WindowInvariant.step {event : IngestEvent} (h : pool.WindowInvariant)
    (hstarts : Starts event) (hkeeps : pool.KeepsCover event)
    (hstep : pool.step event = some pool') : pool'.WindowInvariant where
  covered := h.covered.step h.ruled hkeeps hstep
  ruled := by
    refine Pool.always_step hstep (fun p hp => ?_) h.ruled
    obtain ⟨command, rfl⟩ := hstarts p hp
    exact command.program_always

/-- In every run of ingest passes, recoveries and replays that never leaves the window between
marking a row validated and creating its outbox record, and never settles the pending record of
a validated row, no validated granule is stranded. -/
theorem noneStranded_of_run
    (h : Reaches step (fun pool event => Starts event ∧ pool.KeepsCover event) empty pool) :
    pool.NoneStranded := by
  have hinv : pool.WindowInvariant := h.invariant windowInvariant_empty
    fun _ _ _ hinv hguard hstep => hinv.step hguard.1 hguard.2 hstep
  exact hinv.covered.noneStranded

/-- The row of the sample granule after a pass marked it validated. -/
def validatedRow : IngestRow where
  id := 0
  product := sampleGranule.product
  granuleTitle := sampleGranule.title
  blobPath := sampleGranule.rawBlobPath
  tileH := sampleGranule.tile.h
  tileV := sampleGranule.tile.v
  granuleDate := sampleGranule.granuleDate
  status := .validated
  errorMessage := none
  createdAt := 0
  updatedAt := 0

def validatingEvents : List IngestEvent :=
  .spawn (Command.ingest sampleConfig [sampleGranule]).program ::
    List.replicate 8 (.act 0 (sampleEnv .ok))

theorem validatingEvents_starts {event : IngestEvent} (h : event ∈ validatingEvents) :
    Starts event := by
  rintro p rfl
  have hp : p = (Command.ingest sampleConfig [sampleGranule]).program := by
    simpa [validatingEvents] using h
  exact ⟨_, hp⟩

/-- The pass stops right after the row is marked validated: the row has no outbox record, no
command runs, and recovery does not ask for it. -/
theorem stranded_after_markValidated :
    ∃ pool, Reaches step (fun _ event => Starts event) empty pool ∧ ¬ pool.NoneStranded := by
  refine ⟨⟨⟨⟨[validatedRow], []⟩, 1, []⟩, [.done ()]⟩,
    reaches_of_runSteps (validatingEvents ++ [.stop 0]) ?_ rfl, fun h => ?_⟩
  · intro _ event hevent
    rcases List.mem_append.mp hevent with hevent | hevent
    · exact validatingEvents_starts hevent
    · rw [List.mem_singleton.mp hevent]
      intro p hp
      cases hp
  · have hquiet : Pool.Quiescent (⟨⟨⟨[validatedRow], []⟩, 1, []⟩, [.done ()]⟩ : IngestPool) := by
      simp [Pool.Quiescent]
    rcases h validatedRow (List.mem_singleton.mpr rfl) rfl
      (fun i c hi => absurd ⟨i, hi⟩ (Pool.not_pending_of_quiescent hquiet c)) with
      ⟨record, hrecord, -⟩ | hrecoverable
    · cases hrecord
    · revert hrecoverable
      decide

def Settles : IngestCall → Bool
  | .markOutboxCompleted _ => true
  | .markOutboxFailed _ _ => true
  | _ => false

/-- A call that succeeds and settles no record never breaks the condition. -/
theorem keepsCover_of_ok (hok : e.outcome = .ok)
    (hsettles : (pool.nextCall i).any Settles = false) : pool.KeepsCover (.act i e) := by
  intro c hc
  rw [hc] at hsettles
  cases c with
  | setStatus id status errorMessage =>
    cases status <;> simp [CallKeepsCover, hok]
  | createPendingEnqueueOutbox id reason => simp [CallKeepsCover, hok]
  | markOutboxCompleted outboxId => cases hsettles
  | markOutboxFailed outboxId message => cases hsettles
  | _ => trivial

/-- The pass stops right after its outbox record is created. -/
theorem noneStranded_after_outbox :
    NoneStranded ⟨⟨⟨[validatedRow], [{
      id := 1, ingestId := 0, status := .pending, reason := "ingest_validated", attempts := 0
      errorMessage := none, createdAt := 0, updatedAt := 0, completedAt := none }]⟩, 2, []⟩,
      [.done ()]⟩ := by
  apply noneStranded_of_run
  apply reaches_of_guardedSteps (validatingEvents ++ [.act 0 (sampleEnv .ok), .stop 0])
  have hstarts (i : ℕ) : Starts (.act i (sampleEnv .ok)) := by
    intro p hp
    cases hp
  refine .cons ⟨validatingEvents_starts List.mem_cons_self, trivial⟩ rfl ?_
  refine .cons ⟨hstarts 0, keepsCover_of_ok rfl rfl⟩ rfl ?_
  refine .cons ⟨hstarts 0, keepsCover_of_ok rfl rfl⟩ rfl ?_
  refine .cons ⟨hstarts 0, keepsCover_of_ok rfl rfl⟩ rfl ?_
  refine .cons ⟨hstarts 0, keepsCover_of_ok rfl rfl⟩ rfl ?_
  refine .cons ⟨hstarts 0, keepsCover_of_ok rfl rfl⟩ rfl ?_
  refine .cons ⟨hstarts 0, keepsCover_of_ok rfl rfl⟩ rfl ?_
  refine .cons ⟨hstarts 0, keepsCover_of_ok rfl rfl⟩ rfl ?_
  refine .cons ⟨hstarts 0, keepsCover_of_ok rfl rfl⟩ rfl ?_
  refine .cons ⟨hstarts 0, keepsCover_of_ok rfl rfl⟩ rfl ?_
  refine .cons ⟨fun p hp => (nomatch hp), fun c ingestId hc hcovers => ?_⟩ rfl rfl
  obtain rfl := Option.some.inj hc
  exact hcovers.elim

end IngestPool
end LumenHorizon.Ingest
