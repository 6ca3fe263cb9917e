import LumenHorizon.Foundation.History
import LumenHorizon.Ingest.RawPaths
import LumenHorizon.Ingest.Retry

/-! # A granule in flight beside a recovery

Recovery asks for rows by status only, so it can be handed a row whose granule is still in flight.
Then both take the row through the same stages, and neither update looks at the status it finds.
-/

namespace LumenHorizon.Ingest
open Foundation Shared Program IngestProgram

def messagesFor (ingestId : Uuid) (w : IngestWorld) : ℕ :=
  w.queues.countP fun entry => entry.2.ingestId = ingestId

def Tables.HasRow (t : Tables) (ingestId : Uuid) : Prop :=
  ingestId ∈ t.ingestLog.map IngestRow.id

instance (t : Tables) (ingestId : Uuid) : Decidable (t.HasRow ingestId) :=
  inferInstanceAs (Decidable (_ ∈ _))

instance (t : Tables) (ingestId : Uuid) (status : IngestStatus) :
    Decidable (t.HasStatus ingestId status) :=
  inferInstanceAs (Decidable (∃ row ∈ t.ingestLog, row.id = ingestId ∧ row.status = status))

/-! ## What one call does to the row -/

/-- How many messages for the row a call puts on a queue. -/
def sends (ingestId : Uuid) : IngestCall → ℕ
  | .enqueueProcessingMessage _ message => if message.ingestId = ingestId then 1 else 0
  | _ => 0

/-- The row that a call came back with as its own. -/
def created? : (c : IngestCall) → c.Reply → Option Uuid
  | .insertDownloadingRow _ _, .ok (.created ingestId) => some ingestId
  | _, _ => none

def Marks (ingestId : Uuid) (c : IngestCall) : Prop :=
  ∃ errorMessage, c = .setStatus ingestId .enqueued errorMessage

/-- The call sets the row to no other status than `enqueued`. -/
def KeepsEnqueued (ingestId : Uuid) (c : IngestCall) : Prop :=
  ∀ status errorMessage, c = .setStatus ingestId status errorMessage → status = .enqueued

theorem LeavesAlone.keepsEnqueued {ingestId : Uuid} {c : IngestCall} (h : LeavesAlone ingestId c) :
    KeepsEnqueued ingestId c := by
  rintro status errorMessage rfl
  exact absurd rfl h.2

theorem LeavesAlone.sends {ingestId : Uuid} {c : IngestCall} (h : LeavesAlone ingestId c) :
    sends ingestId c = 0 := by
  cases c with
  | enqueueProcessingMessage queueName message => exact if_neg fun hid => h.2 (congrArg some hid)
  | _ => rfl

section Effect

variable {ingestId : Uuid} {w : IngestWorld} {c : IngestCall}

theorem messagesFor_effect (ingestId : Uuid) (now : ℕ) (w : IngestWorld) (c : IngestCall) :
    messagesFor ingestId (effect now w c) = messagesFor ingestId w + sends ingestId c := by
  cases c with
  | enqueueProcessingMessage queueName message =>
    simp [messagesFor, effect, sends, List.countP_append, List.countP_singleton]
  | _ => rfl

theorem hasRow_insertDownloadingRow_iff {t : Tables} {granule : GranuleCandidate}
    {blobPath : String} {id : Uuid} {now : ℕ} :
    (t.insertDownloadingRow granule blobPath id now).1.HasRow ingestId ↔ t.HasRow ingestId ∨
      (t.insertDownloadingRow granule blobPath id now).2 = .created ingestId := by
  unfold Tables.insertDownloadingRow Tables.HasRow
  split
  · simp
  · simp [eq_comm]

/-- A row comes into the table by the insert that reports its id, and stays. -/
theorem hasRow_effect_iff {e : Env} :
    (effect e.now w c).tables.HasRow ingestId ↔
      w.tables.HasRow ingestId ∨ created? c (result e w c) = some ingestId := by
  cases c with
  | insertDownloadingRow granule blobPath =>
    apply hasRow_insertDownloadingRow_iff.trans
    simp only [result]
    cases (w.tables.insertDownloadingRow granule blobPath w.nextId e.now).2 <;> simp [created?]
  | setStatus id status errorMessage =>
    have hids : (w.tables.setIngestStatus id status errorMessage e.now).ingestLog.map IngestRow.id =
        w.tables.ingestLog.map IngestRow.id := Table.map_update fun _ _ => rfl
    simp [effect, Tables.HasRow, hids, created?]
  | createPendingEnqueueOutbox id reason => simp [effect, Tables.HasRow, created?]
  | replayRejectedStatus id =>
    have hids : (w.tables.replayRejectedStatus id e.now).1.ingestLog.map IngestRow.id =
        w.tables.ingestLog.map IngestRow.id := Table.map_update fun _ _ => rfl
    simp [effect, Tables.HasRow, hids, created?]
  | _ => simp [effect, Tables.HasRow, created?]

theorem hasStatus_enqueued_effect (h : w.tables.HasStatus ingestId .enqueued)
    (hc : KeepsEnqueued ingestId c) (now : ℕ) :
    (effect now w c).tables.HasStatus ingestId .enqueued := by
  cases c with
  | insertDownloadingRow granule blobPath => exact h.insertDownloadingRow granule blobPath
  | setStatus id status errorMessage =>
    apply (Tables.hasStatus_setIngestStatus_iff errorMessage).mpr
    by_cases hid : ingestId = id
    · subst hid
      obtain ⟨row, hrow, hrowId, -⟩ := h
      exact .inl ⟨rfl, (hc status errorMessage rfl).symm, row, hrow, hrowId⟩
    · exact .inr ⟨hid, h⟩
  | createPendingEnqueueOutbox id reason => simpa [effect, Tables.HasStatus] using h
  | replayRejectedStatus id => exact h.replayRejectedStatus (by decide)
  | _ => exact h

theorem hasStatus_enqueued_of_effect {now : ℕ}
    (h : (effect now w c).tables.HasStatus ingestId .enqueued) :
    w.tables.HasStatus ingestId .enqueued ∨ Marks ingestId c := by
  cases c with
  | insertDownloadingRow granule blobPath =>
    exact .inl ((Tables.hasStatus_insertDownloadingRow h).resolve_right (by decide))
  | setStatus id status errorMessage =>
    rcases (Tables.hasStatus_setIngestStatus_iff errorMessage).mp h with ⟨rfl, rfl, -⟩ | ⟨-, h⟩
    · exact .inr ⟨errorMessage, rfl⟩
    · exact .inl h
  | createPendingEnqueueOutbox id reason =>
    exact .inl (by simpa [effect, Tables.HasStatus] using h)
  | replayRejectedStatus id =>
    exact .inl ((Tables.hasStatus_replayRejectedStatus h).resolve_right (by decide))
  | _ => exact .inl h

end Effect

/-! ## Each of the two programs by itself -/

def granuleRun (config : IngestConfig) (granule : GranuleCandidate) : IngestProgram Unit := do
  let _ ← processGranule config granule

section Programs

variable {ingestId : Uuid} {rely : (c : IngestCall) → c.Reply → Prop}

theorem not_marks_of_ne {id : Uuid} {status : IngestStatus} (h : status ≠ .enqueued)
    (errorMessage : Option String) : ¬ Marks ingestId (.setStatus id status errorMessage) := by
  rintro ⟨_, hc⟩
  cases hc
  exact h rfl

/-- A program that ends by marking a row failed or rejected. -/
theorem markFailedStatus_thereafter {status : IngestStatus} (h : status ≠ .enqueued) (id : Uuid)
    (message : String) (outcome : GranuleProcessingOutcome) :
    (markFailedStatus id status message >>= fun _ => pure outcome : IngestProgram _).Thereafter
      (Marks ingestId) rely (KeepsEnqueued ingestId) :=
  Thereafter.call (fun hmarks => absurd hmarks (not_marks_of_ne h _)) fun _ => trivial

/-- After it marked the row enqueued, `process_granule` only completes the outbox record. -/
theorem enqueueGranule_thereafter (config : IngestConfig) (granule : GranuleCandidate)
    (blobPath : String) (id outboxId : Uuid) :
    (enqueueGranule config granule blobPath id outboxId).Thereafter (Marks ingestId) rely
      (KeepsEnqueued ingestId) := by
  unfold enqueueGranule
  split
  · exact markFailedStatus_thereafter (by decide) _ _ _
  · refine Thereafter.call (fun ⟨_, h⟩ => nomatch h) fun reply => ?_
    cases reply with
    | error error => exact markFailedStatus_thereafter (by decide) _ _ _
    | ok _ =>
      refine Thereafter.call (fun _ reply => ?_) fun reply => ?_
      · cases reply with
        | error error => trivial
        | ok _ =>
          refine Under.call (fun _ _ h => nomatch h) fun reply _ => ?_
          cases reply <;> trivial
      · cases reply with
        | error error => trivial
        | ok _ =>
          refine Thereafter.call (fun ⟨_, h⟩ => nomatch h) fun reply => ?_
          cases reply <;> trivial

theorem validateGranule_thereafter (config : IngestConfig) (granule : GranuleCandidate)
    (blobPath : String) (id : Uuid) :
    (validateGranule config granule blobPath id).Thereafter (Marks ingestId) rely
      (KeepsEnqueued ingestId) := by
  refine Thereafter.call (fun h => absurd h (not_marks_of_ne (by decide) _)) fun reply => ?_
  cases reply with
  | error error => trivial
  | ok _ =>
    refine Thereafter.call (fun ⟨_, h⟩ => nomatch h) fun reply => ?_
    cases reply with
    | error error => exact markFailedStatus_thereafter (by decide) _ _ _
    | ok outboxId => exact enqueueGranule_thereafter config granule blobPath id outboxId

theorem downloadGranule_thereafter (config : IngestConfig) (granule : GranuleCandidate)
    (blobPath : String) (id : Uuid) :
    (downloadGranule config granule blobPath id).Thereafter (Marks ingestId) rely
      (KeepsEnqueued ingestId) := by
  refine Thereafter.call (fun ⟨_, h⟩ => nomatch h) fun reply => ?_
  cases reply with
  | error error => exact markFailedStatus_thereafter (by decide) _ _ _
  | ok bytes =>
    refine Thereafter.call (fun ⟨_, h⟩ => nomatch h) fun reply => ?_
    cases reply with
    | error error => exact markFailedStatus_thereafter (by decide) _ _ _
    | ok _ =>
      refine Thereafter.call (fun h => absurd h (not_marks_of_ne (by decide) _)) fun reply => ?_
      cases reply with
      | error error => trivial
      | ok _ =>
        cases validateRawGranuleBytes bytes with
        | error error => exact markFailedStatus_thereafter (by decide) _ _ _
        | ok _ => exact validateGranule_thereafter config granule blobPath id

theorem granuleRun_thereafter (config : IngestConfig) (granule : GranuleCandidate) :
    (granuleRun config granule).Thereafter (Marks ingestId) rely (KeepsEnqueued ingestId) := by
  refine Thereafter.bind ?_ (fun _ => trivial) fun _ => trivial
  refine Thereafter.call (fun ⟨_, h⟩ => nomatch h) fun reply => ?_
  cases reply with
  | error error => trivial
  | ok outcome =>
    cases outcome with
    | created id => exact downloadGranule_thereafter config granule _ id
    | alreadyExists => trivial

/-- Once recovery marks rows enqueued, it sets no other status. -/
theorem enqueuePendingOutbox_keepsEnqueued (config : IngestConfig) (summary : RecoverySummary) :
    (enqueuePendingOutbox config summary).Under (fun _ _ => True) (KeepsEnqueued ingestId) := by
  refine Under.call (fun _ _ h => nomatch h) fun reply _ => ?_
  cases reply with
  | error error => trivial
  | ok records =>
    apply enqueueRecords_calls config
    · exact fun _ _ _ _ _ h => nomatch h
    · exact fun _ _ _ _ h => nomatch h
    · exact fun _ _ _ _ _ _ _ h => nomatch h
    · rintro record - status errorMessage ⟨⟩
      rfl

theorem runRecovery_thereafter (config : IngestConfig) :
    (runRecovery config).Thereafter (Marks ingestId) rely (KeepsEnqueued ingestId) := by
  refine Thereafter.call (fun ⟨_, h⟩ => nomatch h) fun reply => ?_
  cases reply with
  | error error => trivial
  | ok _ =>
    refine Thereafter.call (fun ⟨_, h⟩ => nomatch h) fun reply => ?_
    cases reply with
    | error error => trivial
    | ok _ =>
      refine Thereafter.call (fun ⟨_, h⟩ => nomatch h) fun reply => ?_
      cases reply with
      | error error => trivial
      | ok rows =>
        change Thereafter _ _ _ (recoverRows rows RecoverySummary.default >>= _)
        refine Thereafter.bind_of_never (recoverRows_calls ?_ ?_ ?_ _) fun outcome => ?_
        · exact fun _ ⟨_, h⟩ => nomatch h
        · exact fun _ _ _ _ hne => not_marks_of_ne hne _
        · exact fun _ _ _ ⟨_, h⟩ => nomatch h
        · cases outcome with
          | error error => trivial
          | ok summary => exact (enqueuePendingOutbox_keepsEnqueued config summary).thereafter

end Programs

/-! ## The two side by side -/

theorem handsOther_of_enqueued {w : IngestWorld} {ingestId : Uuid} (h : FreshIds w)
    (henqueued : w.tables.HasStatus ingestId .enqueued) (c : IngestCall) (e : Env) :
    HandsOther ingestId c (answer c e w).2 := by
  obtain ⟨row, hrow, rfl, hstatus⟩ := henqueued
  apply handsOther_answer
  intro row' hrow' hid
  obtain rfl := h.eq_of_id_eq hrow' hrow hid
  rw [Recoverable, Deliverable, hstatus]
  decide

namespace IngestPool

/-- A pass over one granule beside a recovery, neither of which has made a call. -/
def beside (world : IngestWorld) (config : IngestConfig) (granule : GranuleCandidate)
    (recoveryConfig : IngestConfig) : IngestPool where
  world := world
  procs := [granuleRun config granule, (Command.recovery recoveryConfig).program]

/-- No other program is started, and recovery is not handed the row while the granule is in
flight. -/
def KeepsApart (ingestId : Uuid) (pool : IngestPool) (event : IngestEvent) : Prop :=
  (∀ p, event ≠ .spawn p) ∧
    ∀ e c, event = .act 1 e → pool.nextCall 1 = some c → pool.nextCall 0 ≠ none →
      HandsOther ingestId c (answer c e pool.world).2

/-- While the granule is in flight, what is left of recovery leaves the row alone; once the row is
enqueued, what is left of either keeps it so. -/
structure Apart (ingestId : Uuid) (p q : IngestProgram Unit) (w : IngestWorld) : Prop where
  fresh : FreshIds w
  granule : p.Thereafter (Marks ingestId) (HandsOther ingestId) (KeepsEnqueued ingestId)
  recovery : q.Thereafter (Marks ingestId) (HandsOther ingestId) (KeepsEnqueued ingestId)
  outside : p.next? ≠ none → q.Under (HandsOther ingestId) (LeavesAlone ingestId)
  settled : w.tables.HasStatus ingestId .enqueued →
    p.Under (HandsOther ingestId) (KeepsEnqueued ingestId) ∧
      q.Under (HandsOther ingestId) (KeepsEnqueued ingestId)

section Apart

variable {ingestId : Uuid} {p q : IngestProgram Unit} {w : IngestWorld} {c : IngestCall}
  {next : c.Reply → IngestProgram Unit}

theorem hasStatus_enqueued_of_answer {e : Env}
    (h : (answer c e w).1.tables.HasStatus ingestId .enqueued) :
    w.tables.HasStatus ingestId .enqueued ∨ Marks ingestId c := by
  by_cases hfailed : e.outcome = .failed
  · rw [answer_world_of_failed hfailed] at h
    exact .inl h
  · rw [answer_world_of_applied hfailed] at h
    exact hasStatus_enqueued_of_effect h

theorem hasStatus_enqueued_answer (h : w.tables.HasStatus ingestId .enqueued)
    (hc : KeepsEnqueued ingestId c) (e : Env) :
    (answer c e w).1.tables.HasStatus ingestId .enqueued := by
  by_cases hfailed : e.outcome = .failed
  · rw [answer_world_of_failed hfailed]
    exact h
  · rw [answer_world_of_applied hfailed]
    exact hasStatus_enqueued_effect h hc e.now

theorem not_leavesAlone_of_marks (h : Marks ingestId c) : ¬ LeavesAlone ingestId c := by
  obtain ⟨errorMessage, rfl⟩ := h
  exact fun halone => halone.2 rfl

theorem Apart.act_granule (h : Apart ingestId (Program.call c next) q w) (e : Env) :
    Apart ingestId (next (answer c e w).2) q (answer c e w).1 where
  fresh := h.fresh.answer c e
  granule := h.granule.2 _
  recovery := h.recovery
  outside := fun _ => h.outside (by simp)
  settled := by
    intro henqueued
    rcases hasStatus_enqueued_of_answer henqueued with hbefore | hmarks
    · obtain ⟨hp, hq⟩ := h.settled hbefore
      exact ⟨hp.2 _ (handsOther_of_enqueued h.fresh hbefore c e), hq⟩
    · exact ⟨h.granule.1 hmarks _, (h.outside (by simp)).mono (fun _ _ hother => hother)
        fun _ halone => halone.keepsEnqueued⟩

/-- A call of recovery, which is not handed the row while the granule is in flight. -/
theorem Apart.act_recovery (h : Apart ingestId p (Program.call c next) w) {e : Env}
    (hreply : p.next? ≠ none → HandsOther ingestId c (answer c e w).2) :
    Apart ingestId p (next (answer c e w).2) (answer c e w).1 where
  fresh := h.fresh.answer c e
  granule := h.granule
  recovery := h.recovery.2 _
  outside := fun hlive => (h.outside hlive).2 _ (hreply hlive)
  settled := by
    intro henqueued
    rcases hasStatus_enqueued_of_answer henqueued with hbefore | hmarks
    · obtain ⟨hp, hq⟩ := h.settled hbefore
      exact ⟨hp, hq.2 _ (handsOther_of_enqueued h.fresh hbefore c e)⟩
    · refine ⟨?_, h.recovery.1 hmarks _⟩
      -- recovery marks the row only when the granule is no longer in flight
      cases p with
      | done a => trivial
      | call d rest => exact absurd (h.outside (by simp)).1 (not_leavesAlone_of_marks hmarks)

theorem Apart.stop_granule (h : Apart ingestId p q w) : Apart ingestId (.done ()) q w where
  fresh := h.fresh
  granule := trivial
  recovery := h.recovery
  outside := fun hlive => absurd rfl hlive
  settled := fun henqueued => ⟨trivial, (h.settled henqueued).2⟩

theorem Apart.stop_recovery (h : Apart ingestId p q w) : Apart ingestId p (.done ()) w where
  fresh := h.fresh
  granule := h.granule
  recovery := trivial
  outside := fun _ => trivial
  settled := fun henqueued => ⟨(h.settled henqueued).1, trivial⟩

theorem apart_beside (hfresh : FreshIds w) (hnew : ¬ w.tables.HasRow ingestId)
    (config : IngestConfig) (granule : GranuleCandidate) (recoveryConfig : IngestConfig) :
    Apart ingestId (granuleRun config granule) (Command.recovery recoveryConfig).program w where
  fresh := hfresh
  granule := granuleRun_thereafter config granule
  recovery := (runRecovery_thereafter recoveryConfig).bind (fun _ => trivial) fun _ => trivial
  outside := fun _ => (runRecovery_leavesAlone recoveryConfig).bind fun _ => trivial
  settled := by
    rintro ⟨row, hrow, rfl, -⟩
    exact absurd (List.mem_map_of_mem hrow) hnew

end Apart

variable {ingestId : Uuid} {pool pool' : IngestPool} {event : IngestEvent}

def TwoApart (ingestId : Uuid) (pool : IngestPool) : Prop :=
  ∃ p q, pool.procs = [p, q] ∧ Apart ingestId p q pool.world

theorem TwoApart.step (h : pool.TwoApart ingestId) (hguard : pool.KeepsApart ingestId event)
    (hstep : pool.step event = some pool') : pool'.TwoApart ingestId := by
  obtain ⟨world, procs⟩ := pool
  obtain ⟨p, q, rfl, hapart⟩ := h
  rcases Pool.step_pair_cases hstep hguard.1 with
    ⟨e, c, next, rfl, rfl, rfl⟩ | ⟨e, c, next, rfl, rfl, rfl⟩ | ⟨rfl, rfl⟩ | ⟨rfl, rfl⟩
  · exact ⟨_, q, rfl, hapart.act_granule e⟩
  · exact ⟨p, _, rfl, hapart.act_recovery (hguard.2 e c rfl rfl)⟩
  · exact ⟨_, q, rfl, hapart.stop_granule⟩
  · exact ⟨p, _, rfl, hapart.stop_recovery⟩

theorem TwoApart.enqueued_step (h : pool.TwoApart ingestId)
    (hguard : pool.KeepsApart ingestId event) (hstep : pool.step event = some pool')
    (henqueued : pool.world.tables.HasStatus ingestId .enqueued) :
    pool'.world.tables.HasStatus ingestId .enqueued := by
  obtain ⟨world, procs⟩ := pool
  obtain ⟨p, q, rfl, hapart⟩ := h
  obtain ⟨hp, hq⟩ := hapart.settled henqueued
  rcases Pool.step_pair_cases hstep hguard.1 with
    ⟨e, c, next, rfl, rfl, rfl⟩ | ⟨e, c, next, rfl, rfl, rfl⟩ | ⟨rfl, rfl⟩ | ⟨rfl, rfl⟩
  · exact hasStatus_enqueued_answer henqueued hp.1 e
  · exact hasStatus_enqueued_answer henqueued hq.1 e
  · exact henqueued
  · exact henqueued

end IngestPool

/-! ## What the granule has sent so far -/

abbrev IngestTranscript := Transcript IngestCall IngestCall.Reply

/-- The messages for the row that the calls of a transcript put on a queue. -/
def sent (ingestId : Uuid) (t : IngestTranscript) : ℕ :=
  (t.map fun entry => sends ingestId entry.1).sum

/-- The transcript has the insert of the row. -/
def Created (ingestId : Uuid) (t : IngestTranscript) : Prop :=
  ∃ entry ∈ t, created? entry.1 entry.2 = some ingestId

/-- Replies with which `process_granule` goes on to its next stage. -/
def GoesOn : (c : IngestCall) → c.Reply → Prop
  | .insertDownloadingRow _ _, .error _ => False
  | .setStatus _ _ _, .error _ => False
  | .createPendingEnqueueOutbox _ _, .error _ => False
  | .markOutboxCompleted _, .error _ => False
  | .earthdataDownload _, .error _ => False
  | .earthdataDownload _, .ok bytes => validateRawGranuleBytes bytes = .ok ()
  | .uploadRawBlob _ _, .error _ => False
  | .enqueueProcessingMessage _ _, .error _ => False
  | _, _ => True

def AboutCreated (t : IngestTranscript) (c : IngestCall) : Prop :=
  ∀ id, c.ingestId? = some id → Created id t

/-- For each row it created, the transcript sent one message and marked the row enqueued. -/
def SentOnce (t : IngestTranscript) (_ : Unit) : Prop :=
  ∀ id, Created id t → sent id t = 1 ∧ ∃ entry ∈ t, Marks id entry.1

/-- The transcript created this row alone and has not sent its message. -/
structure Opened (ingestId : Uuid) (t : IngestTranscript) : Prop where
  created : Created ingestId t
  only : ∀ id, Created id t → id = ingestId
  unsent : sent ingestId t = 0

section Transcript

variable {ingestId : Uuid} {t : IngestTranscript} {c : IngestCall} {reply : c.Reply}

@[simp] theorem sent_cons : sent ingestId (⟨c, reply⟩ :: t) = sends ingestId c + sent ingestId t := by
  simp [sent]

@[simp] theorem created_cons :
    Created ingestId (⟨c, reply⟩ :: t) ↔ created? c reply = some ingestId ∨ Created ingestId t := by
  simp [Created]

theorem Opened.cons (h : Opened ingestId t) (hc : created? c reply = none)
    (hsends : sends ingestId c = 0) : Opened ingestId (⟨c, reply⟩ :: t) where
  created := created_cons.mpr (.inr h.created)
  only := by
    intro id hid
    rcases created_cons.mp hid with hnew | hold
    · rw [hc] at hnew
      cases hnew
    · exact h.only id hold
  unsent := by rw [sent_cons, hsends, h.unsent]

theorem Opened.aboutCreated (h : Opened ingestId t) (hc : c.ingestId? = some ingestId) :
    AboutCreated t c := by
  intro id hid
  obtain rfl : ingestId = id := Option.some.inj (hc.symm.trans hid)
  exact h.created

theorem AboutCreated.cons {d : IngestCall} (h : AboutCreated t d) :
    AboutCreated (⟨c, reply⟩ :: t) d := by
  intro id hid
  exact created_cons.mpr (.inr (h id hid))

theorem aboutCreated_of_none (h : c.ingestId? = none) : AboutCreated t c := by
  intro id hid
  rw [h] at hid
  cases hid

/-- On replies with which it goes on, the granule's last stretch sends one message. -/
theorem enqueueGranule_meets (config : IngestConfig) {granule : GranuleCandidate}
    {blobPath : String} (outboxId : Uuid)
    (hmessage : ∃ message, processingMessageFromGranule ingestId granule blobPath = .ok message)
    (h : Opened ingestId t) :
    (enqueueGranule config granule blobPath ingestId outboxId).Meets GoesOn AboutCreated
      (fun t _ => SentOnce t ()) t := by
  obtain ⟨message, hmessage⟩ := hmessage
  have hid := ProcessingMessage.new_ingestId hmessage
  unfold enqueueGranule
  rw [hmessage]
  refine Meets.call (h.aboutCreated (congrArg some hid)) fun reply hreply => ?_
  cases reply with
  | error error => exact hreply.elim
  | ok _ =>
    refine Meets.call (h.aboutCreated rfl).cons fun reply hreply => ?_
    cases reply with
    | error error => exact hreply.elim
    | ok _ =>
      refine Meets.call (aboutCreated_of_none rfl) fun reply hreply => ?_
      cases reply with
      | error error => exact hreply.elim
      | ok _ =>
        intro id hcreated
        obtain rfl : id = ingestId := h.only id (by simpa [created?] using hcreated)
        refine ⟨by simp [sends, hid, h.unsent], ?_⟩
        exact ⟨_, List.mem_cons_of_mem _ List.mem_cons_self, none, rfl⟩

theorem validateGranule_meets (config : IngestConfig) {granule : GranuleCandidate}
    {blobPath : String}
    (hmessage : ∃ message, processingMessageFromGranule ingestId granule blobPath = .ok message)
    (h : Opened ingestId t) :
    (validateGranule config granule blobPath ingestId).Meets GoesOn AboutCreated
      (fun t _ => SentOnce t ()) t := by
  refine Meets.call (h.aboutCreated rfl) fun reply hreply => ?_
  cases reply with
  | error error => exact hreply.elim
  | ok _ =>
    refine Meets.call (h.aboutCreated rfl).cons fun reply hreply => ?_
    cases reply with
    | error error => exact hreply.elim
    | ok outboxId =>
      exact enqueueGranule_meets config outboxId hmessage ((h.cons rfl rfl).cons rfl rfl)

theorem downloadGranule_meets (config : IngestConfig) {granule : GranuleCandidate}
    {blobPath : String}
    (hmessage : ∃ message, processingMessageFromGranule ingestId granule blobPath = .ok message)
    (h : Opened ingestId t) :
    (downloadGranule config granule blobPath ingestId).Meets GoesOn AboutCreated
      (fun t _ => SentOnce t ()) t := by
  refine Meets.call (aboutCreated_of_none rfl) fun reply hreply => ?_
  cases reply with
  | error error => exact hreply.elim
  | ok bytes =>
    have hbytes : validateRawGranuleBytes bytes = .ok () := hreply
    refine Meets.call (aboutCreated_of_none rfl) fun reply hreply => ?_
    cases reply with
    | error error => exact hreply.elim
    | ok _ =>
      refine Meets.call (h.aboutCreated rfl).cons.cons fun reply hreply => ?_
      cases reply with
      | error error => exact hreply.elim
      | ok _ =>
        simp only [Program.andThen, hbytes]
        exact validateGranule_meets config hmessage
          (((h.cons rfl rfl).cons rfl rfl).cons rfl rfl)

theorem granuleRun_meets (config : IngestConfig) {granule : GranuleCandidate}
    (hmessage : ∀ id, ∃ message,
      processingMessageFromGranule id granule granule.rawBlobPath = .ok message) :
    (granuleRun config granule).Meets GoesOn AboutCreated SentOnce [] := by
  have hprocess : (processGranule config granule).Meets GoesOn AboutCreated
      (fun t _ => SentOnce t ()) [] := by
    refine Meets.call (aboutCreated_of_none rfl) fun reply hreply => ?_
    cases reply with
    | error error => exact hreply.elim
    | ok outcome =>
      cases outcome with
      | created id =>
        apply downloadGranule_meets config (hmessage id)
        exact ⟨by simp [created?], by simp [created?, Created, eq_comm], rfl⟩
      | alreadyExists =>
        intro id hcreated
        simp [created?, Created] at hcreated
  exact Meets.bind hprocess fun t' _ hpost => hpost

end Transcript

/-- A call that succeeds, with valid bytes, is one with which `process_granule` goes on. -/
theorem goesOn_answer {e : Env} {w : IngestWorld} {c : IngestCall} (hok : e.outcome = .ok)
    (hbytes : validateRawGranuleBytes e.bytes = .ok ())
    (hrow : ∀ id, c.ingestId? = some id → w.tables.HasRow id) : GoesOn c (answer c e w).2 := by
  rw [answer_reply_of_ok hok]
  cases c with
  | earthdataDownload granule => exact hbytes
  | createPendingEnqueueOutbox id reason =>
    obtain ⟨row, hmem, hid⟩ := List.mem_map.mp (hrow id rfl)
    have hexists : ∃ row ∈ w.tables.ingestLog, row.id = id := ⟨row, hmem, hid⟩
    simp only [result, Tables.createPendingEnqueueOutbox]
    split
    · trivial
    · rw [if_pos hexists]
      trivial
  | _ => trivial

/-- What holds of the granule's program after a transcript of calls that succeeded: its rows are in
the table, and at least the messages it sent are on the queues. -/
structure Forward (ingestId : Uuid) (before : ℕ) (t : IngestTranscript) (p : IngestProgram Unit)
    (w : IngestWorld) : Prop where
  meets : p.Meets GoesOn AboutCreated SentOnce t
  rows : ∀ id, Created id t → w.tables.HasRow id
  created : w.tables.HasRow ingestId → Created ingestId t
  counted : before + sent ingestId t ≤ messagesFor ingestId w

namespace Forward

variable {ingestId : Uuid} {before : ℕ} {t : IngestTranscript} {p : IngestProgram Unit}
  {w : IngestWorld} {c : IngestCall} {next : c.Reply → IngestProgram Unit} {e : Env}

theorem act_granule (h : Forward ingestId before t (Program.call c next) w) (hok : e.outcome = .ok)
    (hbytes : validateRawGranuleBytes e.bytes = .ok ()) :
    Forward ingestId before (⟨c, (answer c e w).2⟩ :: t) (next (answer c e w).2)
      (answer c e w).1 := by
  have hreply := goesOn_answer hok hbytes fun id hid => h.rows id (h.meets.1 id hid)
  have hmeets := h.meets.2 _ hreply
  rw [answer_reply_of_ok hok] at hmeets ⊢
  rw [answer_world_of_applied (by rw [hok]; decide)]
  refine ⟨hmeets, fun id hid => ?_, fun hrow => ?_, ?_⟩
  · apply hasRow_effect_iff.mpr
    exact (created_cons.mp hid).symm.imp_left (h.rows id)
  · apply created_cons.mpr
    exact (hasRow_effect_iff.mp hrow).symm.imp_right h.created
  · have := h.counted
    rw [messagesFor_effect, sent_cons]
    omega

theorem act_other (h : Forward ingestId before t p w) (hok : e.outcome = .ok)
    (hc : ∀ reply, created? c reply = none) : Forward ingestId before t p (answer c e w).1 := by
  rw [answer_world_of_applied (by rw [hok]; decide)]
  refine ⟨h.meets, fun id hid => ?_, fun hrow => ?_, ?_⟩
  · exact hasRow_effect_iff.mpr (.inl (h.rows id hid))
  · apply h.created
    refine (hasRow_effect_iff.mp hrow).resolve_right fun hnew => ?_
    rw [hc] at hnew
    cases hnew
  · have := h.counted
    rw [messagesFor_effect]
    omega

/-- Once the granule is finished, its message is on a queue. -/
theorem sent_of_done {a : Unit} (h : Forward ingestId before t (.done a) w)
    (hrow : w.tables.HasRow ingestId) : before + 1 ≤ messagesFor ingestId w := by
  have hsent := (h.meets ingestId (h.created hrow)).1
  have hcounted := h.counted
  rw [hsent] at hcounted
  exact hcounted

end Forward

/-! ## Runs in which no call fails -/

theorem created?_eq_none {c : IngestCall} (h : ¬ TakesUp c) (reply : c.Reply) :
    created? c reply = none := by
  cases c with
  | insertDownloadingRow granule blobPath => exact absurd trivial h
  | _ => rfl

theorem recovery_takesUp (config : IngestConfig) :
    (Command.recovery config).program.Under (fun _ _ => True) fun c => ¬ TakesUp c := by
  refine Under.bind ?_ fun _ => trivial
  apply runRecovery_calls config
  · exact fun _ htakes _ => htakes
  · exact fun _ _ _ _ _ htakes _ => htakes
  · exact fun _ _ _ _ _ htakes _ => htakes

namespace IngestPool

variable {ingestId : Uuid} {before : ℕ} {pool pool' : IngestPool} {event : IngestEvent}

/-- A call that succeeds, with bytes that are valid where the granule downloads them. -/
def Succeeds (event : IngestEvent) : Prop :=
  ∃ i e, event = .act i e ∧ e.outcome = .ok ∧ (i = 0 → validateRawGranuleBytes e.bytes = .ok ())

theorem Succeeds.not_spawn (h : Succeeds event) (p : IngestProgram Unit) : event ≠ .spawn p := by
  obtain ⟨i, e, rfl, -⟩ := h
  exact fun h => nomatch h

/-- The granule's program is where its own calls brought it, whatever recovery does. -/
def GoesForward (ingestId : Uuid) (before : ℕ) (pool : IngestPool) : Prop :=
  ∃ p q t, pool.procs = [p, q] ∧ Forward ingestId before t p pool.world ∧
    q.Under (fun _ _ => True) fun c => ¬ TakesUp c

theorem GoesForward.step (h : pool.GoesForward ingestId before) (hsucceeds : Succeeds event)
    (hstep : pool.step event = some pool') : pool'.GoesForward ingestId before := by
  obtain ⟨world, procs⟩ := pool
  obtain ⟨p, q, t, rfl, hforward, hrecovery⟩ := h
  have hspawn := hsucceeds.not_spawn
  obtain ⟨i, e, rfl, hok, hbytes⟩ := hsucceeds
  rcases Pool.step_pair_cases hstep hspawn with
    ⟨e, c, next, heq, rfl, rfl⟩ | ⟨e, c, next, heq, rfl, rfl⟩ | ⟨heq, -⟩ | ⟨heq, -⟩
  · obtain ⟨rfl, rfl⟩ := PoolEvent.act.inj heq
    exact ⟨_, q, _, rfl, hforward.act_granule hok (hbytes rfl), hrecovery⟩
  · obtain ⟨rfl, rfl⟩ := PoolEvent.act.inj heq
    exact ⟨p, _, t, rfl, hforward.act_other hok (created?_eq_none hrecovery.1),
      hrecovery.2 _ trivial⟩
  · cases heq
  · cases heq

theorem GoesForward.sent (h : pool.GoesForward ingestId before) (hdone : pool.nextCall 0 = none)
    (hrow : pool.world.tables.HasRow ingestId) : before + 1 ≤ messagesFor ingestId pool.world := by
  obtain ⟨world, procs⟩ := pool
  obtain ⟨p, q, t, rfl, hforward, -⟩ := h
  cases p with
  | done a => exact hforward.sent_of_done hrow
  | call c next => cases hdone

/-- While recovery is kept apart, only the granule sends a message for the row, and the row is
enqueued once the granule marked it. -/
structure SentByGranule (ingestId : Uuid) (before : ℕ) (t : IngestTranscript)
    (p q : IngestProgram Unit) (w : IngestWorld) : Prop where
  fresh : FreshIds w
  forward : Forward ingestId before t p w
  counted : messagesFor ingestId w = before + sent ingestId t
  marked : (∃ entry ∈ t, Marks ingestId entry.1) → w.tables.HasStatus ingestId .enqueued
  outside : q.Under (HandsOther ingestId) (LeavesAlone ingestId)

namespace SentByGranule

variable {t : IngestTranscript} {p q : IngestProgram Unit} {w : IngestWorld} {c : IngestCall}
  {next : c.Reply → IngestProgram Unit} {e : Env}

theorem marked_act (h : SentByGranule ingestId before t (Program.call c next) q w)
    (hok : e.outcome = .ok) (hmarks : Marks ingestId c) :
    (answer c e w).1.tables.HasStatus ingestId .enqueued := by
  obtain ⟨errorMessage, rfl⟩ := hmarks
  obtain ⟨row, hrow, hid⟩ :=
    List.mem_map.mp (h.forward.rows ingestId (h.forward.meets.1 ingestId rfl))
  rw [answer_world_of_applied (by rw [hok]; decide)]
  exact (Tables.hasStatus_setIngestStatus_iff errorMessage).mpr (.inl ⟨rfl, rfl, row, hrow, hid⟩)

theorem act_granule (h : SentByGranule ingestId before t (Program.call c next) q w)
    (hok : e.outcome = .ok) (hbytes : validateRawGranuleBytes e.bytes = .ok ())
    (hkeeps : w.tables.HasStatus ingestId .enqueued →
      (answer c e w).1.tables.HasStatus ingestId .enqueued) :
    SentByGranule ingestId before (⟨c, (answer c e w).2⟩ :: t) (next (answer c e w).2) q
      (answer c e w).1 where
  fresh := h.fresh.answer c e
  forward := h.forward.act_granule hok hbytes
  counted := by
    have := h.counted
    rw [answer_world_of_applied (by rw [hok]; decide), messagesFor_effect, sent_cons]
    omega
  marked := by
    rintro ⟨entry, hentry, hmarks⟩
    rcases List.mem_cons.mp hentry with rfl | hentry
    · exact h.marked_act hok hmarks
    · exact hkeeps (h.marked ⟨entry, hentry, hmarks⟩)
  outside := h.outside

/-- After the granule is finished, the row is enqueued or was never there. -/
theorem handsOther_of_done {a : Unit} (h : SentByGranule ingestId before t (.done a) q w)
    (c : IngestCall) (e : Env) : HandsOther ingestId c (answer c e w).2 := by
  by_cases hrow : w.tables.HasRow ingestId
  · exact handsOther_of_enqueued h.fresh
      (h.marked (h.forward.meets ingestId (h.forward.created hrow)).2) c e
  · apply handsOther_answer
    rintro row hmem rfl
    exact absurd (List.mem_map_of_mem hmem) hrow

theorem act_recovery (h : SentByGranule ingestId before t p (Program.call c next) w)
    (hok : e.outcome = .ok) (hreply : p.next? ≠ none → HandsOther ingestId c (answer c e w).2)
    (hkeeps : w.tables.HasStatus ingestId .enqueued →
      (answer c e w).1.tables.HasStatus ingestId .enqueued) :
    SentByGranule ingestId before t p (next (answer c e w).2) (answer c e w).1 where
  fresh := h.fresh.answer c e
  forward := h.forward.act_other hok (created?_eq_none h.outside.1.1)
  counted := by
    have := h.counted
    rw [answer_world_of_applied (by rw [hok]; decide), messagesFor_effect, h.outside.1.sends]
    omega
  marked := fun hmarks => hkeeps (h.marked hmarks)
  outside := by
    apply h.outside.2
    cases p with
    | done a => exact h.handsOther_of_done c e
    | call d rest => exact hreply (by simp)

end SentByGranule

def OneSender (ingestId : Uuid) (before : ℕ) (pool : IngestPool) : Prop :=
  ∃ p q t, pool.procs = [p, q] ∧ SentByGranule ingestId before t p q pool.world

theorem OneSender.step (h : pool.OneSender ingestId before) (hapart : pool.TwoApart ingestId)
    (hguard : pool.KeepsApart ingestId event) (hsucceeds : Succeeds event)
    (hstep : pool.step event = some pool') : pool'.OneSender ingestId before := by
  have hkeeps := hapart.enqueued_step hguard hstep
  obtain ⟨world, procs⟩ := pool
  obtain ⟨p, q, t, rfl, hsent⟩ := h
  obtain ⟨i, e, rfl, hok, hbytes⟩ := hsucceeds
  rcases Pool.step_pair_cases hstep hguard.1 with
    ⟨e, c, next, heq, rfl, rfl⟩ | ⟨e, c, next, heq, rfl, rfl⟩ | ⟨heq, -⟩ | ⟨heq, -⟩
  · obtain ⟨rfl, rfl⟩ := PoolEvent.act.inj heq
    exact ⟨_, q, _, rfl, hsent.act_granule hok (hbytes rfl) hkeeps⟩
  · obtain ⟨rfl, rfl⟩ := PoolEvent.act.inj heq
    exact ⟨p, _, t, rfl, hsent.act_recovery hok (hguard.2 _ _ rfl rfl) hkeeps⟩
  · cases heq
  · cases heq

theorem OneSender.sent (h : pool.OneSender ingestId before) (hdone : pool.nextCall 0 = none)
    (hrow : pool.world.tables.HasRow ingestId) : messagesFor ingestId pool.world = before + 1 := by
  obtain ⟨world, procs⟩ := pool
  obtain ⟨p, q, t, rfl, hsent⟩ := h
  cases p with
  | done a =>
    have hone := (hsent.forward.meets ingestId (hsent.forward.created hrow)).1
    rw [hsent.counted, hone]
  | call c next => cases hdone

section Runs

variable {world : IngestWorld} {config recoveryConfig : IngestConfig} {granule : GranuleCandidate}

theorem twoApart_beside (hfresh : FreshIds world) (hnew : ¬ world.tables.HasRow ingestId) :
    (beside world config granule recoveryConfig).TwoApart ingestId :=
  ⟨_, _, rfl, apart_beside hfresh hnew config granule recoveryConfig⟩

theorem forward_beside (hnew : ¬ world.tables.HasRow ingestId)
    (hmessage : ∀ id, ∃ message,
      processingMessageFromGranule id granule granule.rawBlobPath = .ok message) :
    Forward ingestId (messagesFor ingestId world) [] (granuleRun config granule) world where
  meets := granuleRun_meets config hmessage
  rows := fun _ ⟨_, hmem, _⟩ => nomatch hmem
  created := fun hrow => absurd hrow hnew
  counted := le_rfl

/-- Once enqueued, the row stays so in the rest of the run. -/
theorem TwoApart.enqueued_run (h : pool.TwoApart ingestId)
    (henqueued : pool.world.tables.HasStatus ingestId .enqueued)
    (hrun : Reaches IngestPool.step (KeepsApart ingestId) pool pool') :
    pool'.world.tables.HasStatus ingestId .enqueued := by
  have hboth : pool'.TwoApart ingestId ∧ pool'.world.tables.HasStatus ingestId .enqueued := by
    induction hrun with
    | start => exact ⟨h, henqueued⟩
    | next _ hguard hstep ih =>
      exact ⟨ih.1.step hguard hstep, ih.1.enqueued_step hguard hstep ih.2⟩
  exact hboth.2

theorem oneSender_beside (hfresh : FreshIds world) (hnew : ¬ world.tables.HasRow ingestId)
    (hmessage : ∀ id, ∃ message,
      processingMessageFromGranule id granule granule.rawBlobPath = .ok message) :
    (beside world config granule recoveryConfig).OneSender ingestId
      (messagesFor ingestId world) := by
  refine ⟨_, _, [], rfl, hfresh, forward_beside hnew hmessage, rfl, ?_, ?_⟩
  · rintro ⟨entry, hentry, -⟩
    cases hentry
  · exact (runRecovery_leavesAlone recoveryConfig).bind fun _ => trivial

end Runs

/-- A granule that discovery accepted runs beside a recovery, calls failing and programs stopping
anywhere. As long as recovery is not handed the row while the granule is in flight, the row stays
enqueued once it is, and if no call fails exactly one message is sent. Whatever recovery is handed,
at least one is sent if no call fails. -/
theorem enqueuedOnce_of_apart (parseTime : String → Option DateTime) (product : ProcessingProduct)
    (entry : CmrEntry) (granule : GranuleCandidate)
    (hparse : parseEntry parseTime product.asStr entry = some granule) (world : IngestWorld)
    (hfresh : FreshIds world) (ingestId : Uuid) (hnew : ¬ world.tables.HasRow ingestId)
    (config recoveryConfig : IngestConfig) :
    (∀ pool pool', Reaches step (KeepsApart ingestId)
        (beside world config granule recoveryConfig) pool →
      Reaches step (KeepsApart ingestId) pool pool' →
      pool.world.tables.HasStatus ingestId .enqueued →
      pool'.world.tables.HasStatus ingestId .enqueued) ∧
    (∀ pool, Reaches step (fun pool event => pool.KeepsApart ingestId event ∧ Succeeds event)
        (beside world config granule recoveryConfig) pool →
      pool.nextCall 0 = none → pool.world.tables.HasRow ingestId →
      messagesFor ingestId pool.world = messagesFor ingestId world + 1) ∧
    (∀ pool, Reaches step (fun _ event => Succeeds event)
        (beside world config granule recoveryConfig) pool →
      pool.nextCall 0 = none → pool.world.tables.HasRow ingestId →
      messagesFor ingestId world + 1 ≤ messagesFor ingestId pool.world) := by
  have hmessage (id : Uuid) : ∃ message,
      processingMessageFromGranule id granule granule.rawBlobPath = .ok message := by
    obtain ⟨message, hmessage, -⟩ := exists_processingMessageFromGranule hparse id
    exact ⟨message, hmessage⟩
  have hapart : (beside world config granule recoveryConfig).TwoApart ingestId :=
    twoApart_beside hfresh hnew
  refine ⟨fun pool pool' hrun hrest henqueued => ?_, fun pool hrun hdone hrow => ?_,
    fun pool hrun hdone hrow => ?_⟩
  · have hpool : pool.TwoApart ingestId :=
      hrun.invariant hapart fun _ _ _ h hguard hstep => h.step hguard hstep
    exact hpool.enqueued_run henqueued hrest
  · have hboth : pool.TwoApart ingestId ∧ pool.OneSender ingestId (messagesFor ingestId world) := by
      clear hdone hrow
      induction hrun with
      | start => exact ⟨hapart, oneSender_beside hfresh hnew hmessage⟩
      | next _ hguard hstep ih =>
        exact ⟨ih.1.step hguard.1 hstep, ih.2.step ih.1 hguard.1 hguard.2 hstep⟩
    exact hboth.2.sent hdone hrow
  · have hforward : pool.GoesForward ingestId (messagesFor ingestId world) := by
      refine hrun.invariant ?_ fun _ _ _ h hguard hstep => h.step hguard hstep
      exact ⟨_, _, [], rfl, forward_beside hnew hmessage, recovery_takesUp recoveryConfig⟩
    exact hforward.sent hdone hrow

def samplePair : IngestPool := beside empty.world sampleConfig contractGranule sampleConfig

/-- The two programs' calls in turn, none of which fails. -/
def actsOk (calls : List ℕ) : List IngestEvent := calls.map fun i => .act i (sampleEnv .ok)

theorem succeeds_of_mem_actsOk {calls : List ℕ} (h : event ∈ actsOk calls) : Succeeds event := by
  obtain ⟨i, -, rfl⟩ := List.mem_map.mp h
  exact ⟨i, _, rfl, rfl, fun _ => rfl⟩

/-- Recovery makes its calls after the granule is finished. -/
def granuleFirst (pool : IngestPool) : IngestEvent → Bool
  | .act 1 _ => (pool.nextCall 0).isNone
  | .act _ _ => true
  | _ => false

theorem keepsApart_of_granuleFirst (h : pool.granuleFirst event = true) :
    pool.KeepsApart ingestId event := by
  constructor
  · rintro p rfl
    cases h
  · rintro e c rfl - hlive
    exact absurd (Option.isNone_iff_eq_none.mp h) hlive

/-- The granule's nine calls, then recovery's four. -/
theorem enqueuedOnce_granuleFirst : ∃ pool : IngestPool, pool.Quiescent ∧
    pool.world.tables.HasStatus 0 .enqueued ∧ messagesFor 0 pool.world = 1 ∧
      1 ≤ messagesFor 0 pool.world := by
  have hrun : ∃ pool, Reaches step (fun pool event => pool.KeepsApart 0 event ∧ Succeeds event)
      samplePair pool ∧ decide (pool.Quiescent ∧ pool.world.tables.HasRow 0 ∧
        pool.world.tables.HasStatus 0 .enqueued ∧ (pool.nextCall 0).isNone) = true := by
    apply exists_reaches_of_checkedSteps granuleFirst
      (actsOk (List.replicate 9 0 ++ List.replicate 4 1))
    · exact fun _ event hevent hcheck =>
        ⟨keepsApart_of_granuleFirst hcheck, succeeds_of_mem_actsOk hevent⟩
    · decide +kernel
  obtain ⟨pool, hreaches, htest⟩ := hrun
  obtain ⟨hquiescent, hrow, henqueued, hdone⟩ := of_decide_eq_true htest
  have hdone := Option.isNone_iff_eq_none.mp hdone
  have hfresh : FreshIds empty.world :=
    ⟨List.nodup_nil, fun _ h => absurd h List.not_mem_nil⟩
  obtain ⟨hkeeps, honce, hleast⟩ := enqueuedOnce_of_apart parseSampleTime .vnp46A2 contractEntry
    contractGranule (by decide +kernel) empty.world hfresh 0 List.not_mem_nil sampleConfig
    sampleConfig
  refine ⟨pool, hquiescent, ?_, honce pool hreaches hdone hrow, ?_⟩
  · exact hkeeps pool pool (hreaches.mono fun _ _ h => h.1) .start henqueued
  · exact hleast pool (hreaches.mono fun _ _ h => h.2) hdone hrow

/-- The granule up to its download, recovery up to its selection, and the granule up to the mark. -/
def markedCalls : List ℕ := List.replicate 4 0 ++ List.replicate 3 1 ++ List.replicate 4 0

/-- Recovery is handed the row while the granule is in flight. It moves the enqueued row back to
`validated`, and in the end sends a second message; and no message is sent for a granule whose bytes
are not valid, though no call fails. -/
theorem not_enqueuedOnce :
    (∃ pool pool' : IngestPool, Reaches step (fun _ event => Succeeds event) samplePair pool ∧
      pool.world.tables.HasStatus 0 .enqueued ∧ messagesFor 0 pool.world = 1 ∧
      Reaches step (fun _ event => Succeeds event) pool pool' ∧
      pool'.world.tables.HasStatus 0 .validated) ∧
    (∃ pool : IngestPool, Reaches step (fun _ event => Succeeds event) samplePair pool ∧
      pool.Quiescent ∧ messagesFor 0 pool.world = 2) ∧
    ∃ pool : IngestPool, Reaches step
        (fun _ event => ∃ i e, event = .act i e ∧ e.outcome = .ok) samplePair pool ∧
      pool.Quiescent ∧ pool.world.tables.HasRow 0 ∧ messagesFor 0 pool.world = 0 := by
  refine ⟨?_, ?_, ?_⟩
  · have hmarked : ∃ pool, Reaches step (fun _ event => Succeeds event) samplePair pool ∧
        (decide (pool.world.tables.HasStatus 0 .enqueued ∧ messagesFor 0 pool.world = 1) &&
          (runSteps step pool (actsOk [1, 1])).any fun pool' =>
            decide (pool'.world.tables.HasStatus 0 .validated)) = true := by
      apply exists_reaches_of_runSteps (actsOk markedCalls)
      · exact fun _ _ => succeeds_of_mem_actsOk
      · decide +kernel
    obtain ⟨pool, hreaches, htest⟩ := hmarked
    obtain ⟨htest, hback⟩ := Bool.and_eq_true_iff.mp htest
    obtain ⟨henqueued, hone⟩ := of_decide_eq_true htest
    have hrest : ∃ pool', Reaches step (fun _ event => Succeeds event) pool pool' ∧
        decide (pool'.world.tables.HasStatus 0 .validated) = true :=
      exists_reaches_of_runSteps (actsOk [1, 1]) (fun _ _ => succeeds_of_mem_actsOk) hback
    obtain ⟨pool', hrest, hvalidated⟩ := hrest
    exact ⟨pool, pool', hreaches, henqueued, hone, hrest, of_decide_eq_true hvalidated⟩
  · have hrun : ∃ pool, Reaches step (fun _ event => Succeeds event) samplePair pool ∧
        decide (pool.Quiescent ∧ messagesFor 0 pool.world = 2) = true := by
      apply exists_reaches_of_runSteps (actsOk (markedCalls ++ [1, 1, 0, 1, 1, 1, 1, 1]))
      · exact fun _ _ => succeeds_of_mem_actsOk
      · decide +kernel
    obtain ⟨pool, hreaches, htest⟩ := hrun
    exact ⟨pool, hreaches, of_decide_eq_true htest⟩
  · have hrun : ∃ pool, Reaches step
        (fun _ event => ∃ i e, event = .act i e ∧ e.outcome = .ok) samplePair pool ∧
        decide (pool.Quiescent ∧ pool.world.tables.HasRow 0 ∧ messagesFor 0 pool.world = 0)
          = true := by
      apply exists_reaches_of_runSteps ((List.replicate 5 0 ++ List.replicate 4 1).map fun i =>
        .act i { sampleEnv .ok with bytes := [] })
      · intro _ event hevent
        obtain ⟨i, -, rfl⟩ := List.mem_map.mp hevent
        exact ⟨i, _, rfl, rfl⟩
      · decide +kernel
    obtain ⟨pool, hreaches, htest⟩ := hrun
    exact ⟨pool, hreaches, of_decide_eq_true htest⟩

end IngestPool

end LumenHorizon.Ingest
