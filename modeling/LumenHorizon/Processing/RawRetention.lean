import LumenHorizon.Processing.Publishers

/-! # What the selection of stale raw granules deletes

A path is selected if one of its rows is older than the window and no execute-mode cleanup recorded
that its blob is gone. Several rows may share a path, and a blob may be uploaded again.
-/

namespace LumenHorizon.Processing
open Foundation Shared ProcessingProgram Program

def RecordsRawGone (path : String) (event : RetentionEvent) : Prop :=
  event.targetKind = .rawBlob ∧ event.targetIdentifier = path ∧ event.mode = .execute ∧
    (event.action = .deleted ∨ event.action = .missing)

instance (path : String) (event : RetentionEvent) : Decidable (RecordsRawGone path event) :=
  inferInstanceAs (Decidable (_ ∧ _))

def StaleRow (days now : ℕ) (row : Ingest.IngestRow) : Prop :=
  row.createdAt + days * microsecondsPerDay < now

namespace ProcessingWorld

def RawGone (w : ProcessingWorld) (path : String) : Prop :=
  ∃ event ∈ w.retentionEvents, RecordsRawGone path event

instance (w : ProcessingWorld) (path : String) : Decidable (w.RawGone path) :=
  inferInstanceAs (Decidable (∃ event ∈ w.retentionEvents, RecordsRawGone path event))

theorem rawSelectable_iff {w : ProcessingWorld} {days now : ℕ} {row : Ingest.IngestRow} :
    w.RawSelectable days now row ↔ StaleRow days now row ∧ ¬ w.RawGone row.blobPath := Iff.rfl

/-- Every row of the path is older than the window. -/
def OnlyStale (w : ProcessingWorld) (days now : ℕ) (path : String) : Prop :=
  ∀ row ∈ w.ingestLog, row.blobPath = path → StaleRow days now row

/-- No path that is selected has a row inside the window. -/
def SelectsOnlyStale (w : ProcessingWorld) (days limit now : ℕ) : Prop :=
  ∀ candidate ∈ w.selectRawBlobRetentionCandidates days limit now,
    w.OnlyStale days now candidate.blobPath

/-- No path has both a row older than the window and one inside it, unless its blob was recorded
as gone. -/
def AgesAgree (w : ProcessingWorld) (days now : ℕ) : Prop :=
  ∀ old ∈ w.ingestLog, ∀ row ∈ w.ingestLog, old.blobPath = row.blobPath →
    StaleRow days now old → StaleRow days now row ∨ w.RawGone row.blobPath

variable {w : ProcessingWorld} {days limit now : ℕ} {path : String}

theorem mem_rawCandidates {candidate : RawBlobRetentionCandidate}
    (h : candidate ∈ w.selectRawBlobRetentionCandidates days limit now) :
    ∃ row ∈ w.ingestLog, row.blobPath = candidate.blobPath ∧ w.RawSelectable days now row := by
  have hcandidate := List.mem_of_mem_take h
  rw [List.mem_insertionSort, List.mem_map] at hcandidate
  obtain ⟨path, hpath, rfl⟩ := hcandidate
  obtain ⟨row, hrow, rfl⟩ := List.mem_map.mp (List.mem_dedup.mp hpath)
  obtain ⟨hmem, hselectable⟩ := List.mem_filter.mp hrow
  exact ⟨row, hmem, rfl, of_decide_eq_true hselectable⟩

theorem exists_rawCandidate {row : Ingest.IngestRow} (hrow : row ∈ w.ingestLog)
    (h : w.RawSelectable days now row) :
    ∃ candidate ∈ w.selectRawBlobRetentionCandidates days w.ingestLog.length now,
      candidate.blobPath = row.blobPath := by
  have hselected : row ∈ w.ingestLog.filter fun row => w.RawSelectable days now row :=
    List.mem_filter.mpr ⟨hrow, decide_eq_true h⟩
  unfold selectRawBlobRetentionCandidates
  rw [List.take_of_length_le]
  · refine ⟨_, (List.mem_insertionSort _).mpr (List.mem_map_of_mem (List.mem_dedup.mpr
      (List.mem_map_of_mem hselected))), rfl⟩
  · rw [List.length_insertionSort, List.length_map]
    calc _ ≤ ((w.ingestLog.filter fun row => w.RawSelectable days now row).map
          Ingest.IngestRow.blobPath).length := (List.dedup_sublist _).length_le
      _ ≤ w.ingestLog.length := by
        rw [List.length_map]
        exact List.length_filter_le _ _

/-- Whatever the limit, only stale paths are selected exactly when the ages of each path agree. -/
theorem selectsOnlyStale_iff (w : ProcessingWorld) (days now : ℕ) :
    (∀ limit, w.SelectsOnlyStale days limit now) ↔ w.AgesAgree days now := by
  constructor
  · intro h old hold row hrow hpath hstale
    by_cases hgone : w.RawGone row.blobPath
    · exact .inr hgone
    · obtain ⟨candidate, hcandidate, hid⟩ :=
        exists_rawCandidate hold (rawSelectable_iff.mpr ⟨hstale, hpath ▸ hgone⟩)
      exact .inl (h _ candidate hcandidate row hrow (hpath.symm.trans hid.symm))
  · intro h limit candidate hcandidate row hrow hpath
    obtain ⟨old, hold, hid, hstale, hgone⟩ := mem_rawCandidates hcandidate
    have hsame : old.blobPath = row.blobPath := hid.trans hpath.symm
    exact (h old hold row hrow hsame hstale).resolve_right (hsame ▸ hgone)

/-- Each blob whose rows are all older than the window is selected, once the limit allows it. -/
def StaleSelected (w : ProcessingWorld) (days now : ℕ) : Prop :=
  ∀ path ∈ w.rawBlobs, (∃ row ∈ w.ingestLog, row.blobPath = path) → w.OnlyStale days now path →
    ∃ limit, ∃ candidate ∈ w.selectRawBlobRetentionCandidates days limit now,
      candidate.blobPath = path

/-- That is so while no blob is there that was recorded as gone. -/
theorem staleSelected_of_not_rawGone (h : ∀ path ∈ w.rawBlobs, ¬ w.RawGone path) :
    w.StaleSelected days now := by
  rintro path hpath ⟨row, hrow, rfl⟩ hstale
  exact ⟨_, exists_rawCandidate hrow (rawSelectable_iff.mpr ⟨hstale row hrow rfl, h _ hpath⟩)⟩

end ProcessingWorld

/-- A program that neither deletes raw blobs nor records cleanups: an ingest, or a delivery. -/
def KeepsRaw (p : ProcessingProgram Unit) : Prop :=
  p.Always fun c _ => (∀ path, c ≠ .deleteRawBlob path) ∧ ∀ event, c ≠ .recordRetentionEvent event

def IngestingOrCleaning (p : ProcessingProgram Unit) : Prop :=
  KeepsRaw p ∨ ∃ config cleanup, p = (runRetentionCleanup config cleanup >>= fun _ => pure ())

variable {w : ProcessingWorld} {path : String}

/-- A record that a raw blob is gone directly follows its delete. -/
theorem IngestingOrCleaning.last_delete {p : ProcessingProgram Unit} {t : History}
    {event : RetentionEvent} {next : (ProcessingCall.recordRetentionEvent event).Reply →
      ProcessingProgram Unit} (h : IngestingOrCleaning p)
    (hfollows : p.Follows t (Program.call (.recordRetentionEvent event) next))
    (ht : ∀ entry ∈ t, Possible entry.1 entry.2) (hgone : RecordsRawGone path event) :
    ∃ outcome, Last t (.deleteRawBlob path) (.ok outcome) := by
  rcases h with hkeeps | ⟨config, cleanup, rfl⟩
  · have hmeets : p.Meets Possible (fun _ c => ∀ event, c ≠ .recordRetentionEvent event)
        (fun _ _ => True) [] := Meets.of_always hkeeps (fun _ _ h => h.2) []
    exact absurd rfl ((hmeets.of_follows hfollows ht).1 event)
  · have hmeets : (runRetentionCleanup config cleanup >>= fun _ => pure ()).Meets Possible
        (CleanupRule config cleanup) (fun _ _ => True) [] :=
      (runRetentionCleanup_meets config cleanup []).bind fun _ _ _ => trivial
    have hrest := hmeets.of_follows hfollows ht
    rw [List.append_nil] at hrest
    obtain ⟨hkind, rfl, -, haction⟩ := hgone
    rcases hrest.1.2 hkind with hselected | ⟨outcome, -, hlast⟩
    · rw [hselected] at haction
      rcases haction with h | h <;> cases h
    · exact ⟨outcome, hlast⟩

theorem mem_answer_rawBlobs {c : ProcessingCall} {e : Env}
    (h : path ∈ (answer c e w).1.rawBlobs) :
    path ∈ w.rawBlobs ∨ (c = .uploadRawBlob path ∧ e.outcome ≠ .failed) := by
  rcases answer_effect c e w with ⟨-, hw⟩ | ⟨ho, finished, hw⟩
  · rw [hw] at h
    exact .inl h
  · rw [hw] at h
    cases c with
    | deleteRawBlob path' => exact .inl (List.mem_filter.mp h).1
    | uploadRawBlob path' =>
      rcases List.mem_append.mp h with h | h
      · exact .inl (List.mem_filter.mp h).1
      · exact .inr ⟨by rw [List.mem_singleton.mp h], ho⟩
    | _ => exact .inl h

theorem notMem_of_deleted {e : Env} {outcome : DeleteBlobOutcome}
    (h : (answer (.deleteRawBlob path) e w).2 = .ok outcome) :
    path ∉ (answer (.deleteRawBlob path) e w).1.rawBlobs := by
  cases ho : e.outcome with
  | ok =>
    rw [answer_of_ok ho]
    exact fun hmem => of_decide_eq_true (List.mem_filter.mp hmem).2 rfl
  | failed =>
    rw [answer_of_failed ho] at h
    cases h
  | lost =>
    rw [answer_of_lost ho] at h
    cases h

theorem rawGone_answer {c : ProcessingCall} {e : Env} (h : (answer c e w).1.RawGone path) :
    w.RawGone path ∨ ∃ event, c = .recordRetentionEvent event ∧ RecordsRawGone path event := by
  obtain ⟨event, hevent, hgone⟩ := h
  rcases answer_effect c e w with ⟨-, hw⟩ | ⟨-, finished, hw⟩
  · rw [hw] at hevent
    exact .inl ⟨event, hevent, hgone⟩
  · rw [hw] at hevent
    cases c with
    | recordRetentionEvent event' =>
      rcases List.mem_append.mp hevent with hevent | hevent
      · exact .inl ⟨event, hevent, hgone⟩
      · exact .inr ⟨event', rfl, List.mem_singleton.mp hevent ▸ hgone⟩
    | _ => exact .inl ⟨event, hevent, hgone⟩

namespace ProcessingPool

variable {pool pool' : ProcessingPool} {event : ProcessingEvent}

/-- The raw blob was recorded as gone, or the next call of a program records it. -/
def RawGoneOrPending (pool : ProcessingPool) (path : String) : Prop :=
  pool.world.RawGone path ∨
    ∃ event, RecordsRawGone path event ∧ pool.Pending (.recordRetentionEvent event)

/-- An upload that takes effect is of a blob that no cleanup recorded as gone before. -/
def UploadsUnrecorded (pool : ProcessingPool) (event : ProcessingEvent) : Prop :=
  ∀ i e path, event = .act i e → pool.nextCall i = some (.uploadRawBlob path) →
    e.outcome ≠ .failed → ¬ pool.RawGoneOrPending path

/-- The steps of a history of ingests and cleanups that uploads no blob again once it is gone. -/
def UploadsOnce (pool : ProcessingPool) (event : ProcessingEvent) : Prop :=
  StartsOnly IngestingOrCleaning event ∧ pool.UploadsUnrecorded event

structure RawInvariant (pool : ProcessingPool) : Prop where
  vouched : ∀ p ∈ pool.procs, p.next? ≠ none →
    Pool.Vouched IngestingOrCleaning (fun _ _ c reply => Possible c reply) pool.world p
  absent : ∀ path, pool.RawGoneOrPending path → path ∉ pool.world.rawBlobs

theorem rawInvariant_empty : empty.RawInvariant where
  vouched := fun _ h => absurd h List.not_mem_nil
  absent := fun _ _ => List.not_mem_nil

/-- A record stays, is made by the call that was pending, or comes next after a delete. -/
theorem RawInvariant.gone_step (h : pool.RawInvariant)
    (hstarts : StartsOnly IngestingOrCleaning event) (hstep : pool.step event = some pool')
    {path : String} (hgone : pool'.RawGoneOrPending path) :
    pool.RawGoneOrPending path ∨ ∃ e outcome,
      (answer (.deleteRawBlob path) e pool.world).2 = .ok outcome ∧
        pool'.world = (answer (.deleteRawBlob path) e pool.world).1 := by
  rcases hgone with hgone | ⟨record, hrecord, hpending⟩
  · left
    rcases Pool.step_cases hstep with
      ⟨p, rfl, rfl⟩ | ⟨i, e, c, next, rfl, hi, rfl⟩ | ⟨i, c, next, rfl, hi, rfl⟩
    · exact .inl hgone
    · rcases rawGone_answer hgone with hgone | ⟨record, rfl, hrecord⟩
      · exact .inl hgone
      · exact .inr ⟨record, hrecord, i, Pool.nextCall_eq_some_iff.mpr ⟨next, hi⟩⟩
    · exact .inl hgone
  · rcases Pool.pending_step hstep hpending with
      hpending | ⟨p, rfl, hp⟩ | ⟨i, e, c, next, rfl, hi, hworld, next', hnext⟩
    · exact .inl (.inr ⟨record, hrecord, hpending⟩)
    · obtain ⟨next, rfl⟩ := next?_eq_some_iff.mp hp
      obtain ⟨_, _, hlast⟩ := (hstarts _ rfl).last_delete .start
        (fun _ h => absurd h List.not_mem_nil) hrecord
      cases hlast
    · obtain ⟨p₀, t, hp₀, hfollows, ht⟩ := h.vouched _ (List.mem_of_getElem? hi) nofun
      have hafter := hfollows.next (answer c e pool.world).2
      rw [hnext] at hafter
      obtain ⟨outcome, t', hlast⟩ := hp₀.last_delete hafter (possible_cons ht e) hrecord
      obtain ⟨rfl, hreply⟩ := Sigma.mk.inj_iff.mp (List.cons.inj hlast).1
      exact .inr ⟨e, outcome, eq_of_heq hreply, hworld⟩

theorem RawInvariant.step (h : pool.RawInvariant) (hguard : pool.UploadsOnce event)
    (hstep : pool.step event = some pool') : pool'.RawInvariant := by
  have hvouched : ∀ p ∈ pool'.procs, p.next? ≠ none →
      Pool.Vouched IngestingOrCleaning (fun _ _ c reply => Possible c reply) pool'.world p := by
    apply Pool.vouched_step hstep hguard.1 _ h.vouched
    exact fun _ _ c _ e _ _ _ => ⟨possible_answer c e _, fun _ _ _ h => h⟩
  refine ⟨hvouched, fun path hgone hmem => ?_⟩
  rcases h.gone_step hguard.1 hstep hgone with hbefore | ⟨e, outcome, hdeleted, hworld⟩
  · have habsent := h.absent path hbefore
    rcases Pool.step_cases hstep with
      ⟨p, rfl, rfl⟩ | ⟨i, e, c, next, rfl, hi, rfl⟩ | ⟨i, c, next, rfl, hi, rfl⟩
    · exact habsent hmem
    · rcases mem_answer_rawBlobs hmem with hmem | ⟨rfl, ho⟩
      · exact habsent hmem
      · exact hguard.2 i e path rfl (Pool.nextCall_eq_some_iff.mpr ⟨next, hi⟩) ho hbefore
    · exact habsent hmem
  · rw [hworld] at hmem
    exact notMem_of_deleted hdeleted hmem

/-- In every world only stale paths are selected exactly when the ages of each path agree; and in
every history that uploads no blob again once it is gone, every stale blob is selected. -/
theorem rawRetention (days now : ℕ) :
    (∀ w : ProcessingWorld, (∀ limit, w.SelectsOnlyStale days limit now) ↔ w.AgesAgree days now) ∧
    ∀ pool : ProcessingPool, Reaches step UploadsOnce empty pool →
      pool.world.StaleSelected days now := by
  refine ⟨fun w => w.selectsOnlyStale_iff days now, fun pool hrun => ?_⟩
  have hinvariant : pool.RawInvariant := hrun.invariant rawInvariant_empty
    fun _ _ _ h hguard hstep => h.step hguard hstep
  apply ProcessingWorld.staleSelected_of_not_rawGone
  exact fun path hmem hgone => hinvariant.absent path (.inl hgone) hmem

def sampleUpload : ProcessingProgram Unit := do
  let _ ← ProcessingProgram.insertIngestRow (sampleIngestRow 1)
  let _ ← ProcessingProgram.uploadRawBlob "h08v05.h5"

theorem keepsRaw_upload (row : Ingest.IngestRow) (path : String) :
    KeepsRaw (ProcessingProgram.insertIngestRow row >>= fun _ =>
      ProcessingProgram.uploadRawBlob path >>= fun _ => pure ()) := by
  have hinsert : ∀ path, ProcessingCall.insertIngestRow row ≠ .deleteRawBlob path := nofun
  have hupload : ∀ path', ProcessingCall.uploadRawBlob path ≠ .deleteRawBlob path' := nofun
  exact ⟨⟨hinsert, nofun⟩, fun _ => ⟨⟨hupload, nofun⟩, fun _ => trivial⟩⟩

def laterIngestRow : Ingest.IngestRow :=
  { sampleIngestRow 2 with
    blobPath := "h09v05.h5"
    tileH := 9
    createdAt := 90 * microsecondsPerDay }

def laterUpload : ProcessingProgram Unit := do
  let _ ← ProcessingProgram.insertIngestRow laterIngestRow
  let _ ← ProcessingProgram.uploadRawBlob "h09v05.h5"

def nothingRecorded (pool : ProcessingPool) : Bool :=
  pool.world.retentionEvents.isEmpty && pool.procs.all fun p =>
    match p.next? with
    | some (.recordRetentionEvent _) => false
    | _ => true

def uploadsFirst (pool : ProcessingPool) : ProcessingEvent → Bool
  | .act i _ => nothingRecorded pool || match pool.nextCall i with
    | some (.uploadRawBlob _) => false
    | _ => true
  | _ => true

theorem uploadsUnrecorded_of_uploadsFirst (h : uploadsFirst pool event = true) :
    pool.UploadsUnrecorded event := by
  rintro i e path rfl hi - (⟨record, hrecord, -⟩ | ⟨record, -, j, hj⟩) <;>
    simp only [uploadsFirst, hi, Bool.or_false] at h
  all_goals obtain ⟨hevents, hprocs⟩ := Bool.and_eq_true_iff.mp h
  · rw [List.isEmpty_iff.mp hevents] at hrecord
    cases hrecord
  · obtain ⟨next, hnext⟩ := Pool.nextCall_eq_some_iff.mp hj
    have hp := List.all_eq_true.mp hprocs _ (List.mem_of_getElem? hnext)
    cases hp

/-- A cleanup deletes the older of two blobs after 100 days. -/
def cleanedEvents : List ProcessingEvent :=
  runThrough sampleUpload 0 2 (sampleEnv .ok 0 0) ++
    (runThrough laterUpload 1 2 (sampleEnv .ok (90 * microsecondsPerDay) 0) ++
      runThrough (runRetentionCleanup sampleConfig sampleCleanup >>= fun _ => pure ()) 2 7
        (sampleEnv .ok (100 * microsecondsPerDay) 0))

theorem cleanedEvents_starts :
    ∀ event ∈ cleanedEvents, StartsOnly IngestingOrCleaning event := by
  rw [cleanedEvents, List.forall_mem_append, List.forall_mem_append]
  exact ⟨startsOnly_runThrough (.inl (keepsRaw_upload _ _)) _ _ _,
    startsOnly_runThrough (.inl (keepsRaw_upload _ _)) _ _ _,
    startsOnly_runThrough (.inr ⟨_, _, rfl⟩) _ _ _⟩

theorem rawRetention_cleaned : ∃ pool : ProcessingPool,
    (∀ days now, pool.world.StaleSelected days now) ∧ pool.world.rawBlobs = ["h09v05.h5"] ∧
      pool.world.RawGone "h08v05.h5" := by
  have hrun : ∃ pool, Reaches step UploadsOnce empty pool ∧
      decide (pool.world.rawBlobs = ["h09v05.h5"] ∧ pool.world.RawGone "h08v05.h5") = true := by
    apply exists_reaches_of_checkedSteps uploadsFirst cleanedEvents
    · exact fun _ event hevent hcheck =>
        ⟨cleanedEvents_starts event hevent, uploadsUnrecorded_of_uploadsFirst hcheck⟩
    · decide +kernel
  obtain ⟨pool, hreaches, htest⟩ := hrun
  obtain ⟨hblobs, hgone⟩ := of_decide_eq_true htest
  exact ⟨pool, fun days now => (rawRetention days now).2 pool hreaches, hblobs, hgone⟩

/-- Two rows of one path, the second of them inside the window. -/
def sharedPath : ProcessingWorld :=
  { empty.world with
    ingestLog := [sampleIngestRow 1,
      { sampleIngestRow 2 with
        granuleDate := { year := 2024, month := 5, day := 21, nanoOfDay := 1000 }
        createdAt := 40 * microsecondsPerDay }] }

/-- A cleanup deletes the blob after 100 days, and it is uploaded once more. -/
def uploadedAgainEvents : List ProcessingEvent :=
  runThrough sampleUpload 0 2 (sampleEnv .ok 0 0) ++
    (runThrough (runRetentionCleanup sampleConfig sampleCleanup >>= fun _ => pure ()) 1 7
        (sampleEnv .ok (100 * microsecondsPerDay) 0) ++
      runThrough sampleUpload 2 2 (sampleEnv .ok (100 * microsecondsPerDay) 0))

theorem uploadedAgainEvents_starts :
    ∀ event ∈ uploadedAgainEvents, StartsOnly IngestingOrCleaning event := by
  rw [uploadedAgainEvents, List.forall_mem_append, List.forall_mem_append]
  exact ⟨startsOnly_runThrough (.inl (keepsRaw_upload _ _)) _ _ _,
    startsOnly_runThrough (.inr ⟨_, _, rfl⟩) _ _ _,
    startsOnly_runThrough (.inl (keepsRaw_upload _ _)) _ _ _⟩

theorem not_rawRetention :
    (¬ ∀ (w : ProcessingWorld) days limit now, w.SelectsOnlyStale days limit now) ∧
    ¬ ∀ pool : ProcessingPool, Reaches step (fun _ => StartsOnly IngestingOrCleaning) empty pool →
      ∀ days now, pool.world.StaleSelected days now := by
  constructor
  · intro h
    have hcandidate : ∃ candidate ∈ sharedPath.selectRawBlobRetentionCandidates 30 100
        (50 * microsecondsPerDay), candidate.blobPath = "h08v05.h5" := by decide
    obtain ⟨candidate, hcandidate, hpath⟩ := hcandidate
    have hstale := h sharedPath 30 100 (50 * microsecondsPerDay) candidate hcandidate _
      (List.mem_cons_of_mem _ List.mem_cons_self) hpath.symm
    exact absurd hstale (by unfold StaleRow; decide)
  · intro h
    have hrun : ∃ pool, Reaches step (fun _ => StartsOnly IngestingOrCleaning) empty pool ∧
        decide (pool.world.rawBlobs = ["h08v05.h5"] ∧ pool.world.RawGone "h08v05.h5" ∧
          pool.world.ingestLog = [sampleIngestRow 1]) = true := by
      apply exists_reaches_of_runSteps uploadedAgainEvents fun _ => uploadedAgainEvents_starts
      decide +kernel
    obtain ⟨pool, hreaches, htest⟩ := hrun
    obtain ⟨hblobs, hgone, hrows⟩ := of_decide_eq_true htest
    have hselected := h pool hreaches 30 (100 * microsecondsPerDay) "h08v05.h5"
      (by rw [hblobs]; exact List.mem_cons_self) ⟨sampleIngestRow 1, by simp [hrows], rfl⟩ ?_
    · obtain ⟨limit, candidate, hcandidate, hpath⟩ := hselected
      obtain ⟨row, -, hrow, -, hnot⟩ := ProcessingWorld.mem_rawCandidates hcandidate
      rw [hrow, hpath] at hnot
      exact hnot hgone
    · intro row hrow _
      rw [hrows, List.mem_singleton] at hrow
      rw [hrow]
      unfold StaleRow
      decide

end ProcessingPool
end LumenHorizon.Processing
