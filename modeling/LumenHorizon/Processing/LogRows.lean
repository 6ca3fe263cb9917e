import LumenHorizon.Processing.Commands

/-! # The rows of the processing log

Any attempt may run any statement at any time. A row is followed through a run by its ingest id:
each statement either rewrites it as a whole or leaves it, and only a start inserts one.
-/

namespace LumenHorizon.Processing
open Foundation Shared

/-- The two tables that the statements on the processing log read and write. -/
structure LogTables where
  ingestIds : List Uuid
  log : ProcessingLog
deriving DecidableEq, Repr

inductive LogStatement where
  | insertIngestRow (ingestId : Uuid)
  | upsertProcessingStarted (message : ProcessingMessage) (id : Uuid) (now : ℕ)
  | updateProcessingMetadata (processingLogId : Uuid) (metadata : QualityMetadata)
      (cloudFraction : ℚ) (validPixelCount rejectedPixelCount now : ℕ)
  | markEnding (ingestId : Uuid) (ending : ProcessingLog.Ending) (now : ℕ)
deriving DecidableEq

namespace LogTables

def exec (s : LogTables) : LogStatement → LogTables
  | .insertIngestRow ingestId =>
    { s with ingestIds := if ingestId ∈ s.ingestIds then s.ingestIds else s.ingestIds ++ [ingestId] }
  | .upsertProcessingStarted message id now =>
    { s with
      log := (s.log.upsertProcessingStarted (decide (message.ingestId ∈ s.ingestIds)) message id
        now).1 }
  | .updateProcessingMetadata processingLogId metadata cloudFraction valid rejected now =>
    { s with
      log := s.log.updateProcessingMetadata processingLogId metadata cloudFraction valid rejected
        now }
  | .markEnding ingestId ending now => { s with log := s.log.markEnding ingestId ending now }

def run (s : LogTables) (statements : List LogStatement) : LogTables := statements.foldl exec s

/-- The statement is a start of this ingest, and it succeeds. -/
def starts (s : LogTables) (ingestId : Uuid) : LogStatement → Bool
  | .upsertProcessingStarted message id now =>
    message.ingestId = ingestId &&
      (s.log.upsertProcessingStarted (decide (message.ingestId ∈ s.ingestIds)) message id now).2.isOk
  | _ => false

def startCount (s : LogTables) (ingestId : Uuid) : List LogStatement → ℕ
  | [] => 0
  | statement :: statements =>
    (if s.starts ingestId statement then 1 else 0) +
      (s.exec statement).startCount ingestId statements

theorem run_append (s : LogTables) (before after : List LogStatement) :
    s.run (before ++ after) = (s.run before).run after := List.foldl_append ..

end LogTables

/-! ## One row -/

def ProcessingRow.StatusColumns (row : ProcessingRow) : Prop :=
  match row.status with
  | .processing => row.completedAt = none ∧ row.errorMessage = none
  | .processed => row.errorMessage = none ∧ row.completedAt ≠ none ∧ row.tileSetId ≠ none
  | .failed | .rejected | .deadlettered => row.errorMessage ≠ none ∧ row.completedAt ≠ none

structure ProcessingRow.Sound (row : ProcessingRow) : Prop where
  columns : row.StatusColumns
  attempts : 1 ≤ row.attempts
  startedAt : row.startedAt ≠ none

namespace ProcessingLog

theorem startedRow_sound (message : ProcessingMessage) (id : Uuid) (now : ℕ) :
    (startedRow message id now).Sound :=
  ⟨⟨rfl, rfl⟩, le_rfl, Option.some_ne_none now⟩

theorem restart_sound {row : ProcessingRow} (message : ProcessingMessage) (now : ℕ) :
    (restart message now row).Sound :=
  ⟨⟨rfl, rfl⟩, Nat.le_add_left 1 row.attempts, Option.some_ne_none _⟩

/-- Each way to end sets the columns of its own status, whatever the row held before. -/
theorem Ending.set_sound {row : ProcessingRow} (h : row.Sound) (ending : Ending) (now : ℕ) :
    (ending.set now row).Sound := by
  cases ending with
  | failed errorMessage =>
    exact ⟨⟨Option.some_ne_none _, Option.some_ne_none _⟩, h.attempts, h.startedAt⟩
  | deadlettered errorMessage =>
    exact ⟨⟨Option.some_ne_none _, Option.some_ne_none _⟩, h.attempts, h.startedAt⟩
  | rejected reason =>
    exact ⟨⟨Option.some_ne_none _, Option.some_ne_none _⟩, h.attempts, h.startedAt⟩
  | processed tileSetId =>
    exact ⟨⟨rfl, Option.some_ne_none _, Option.some_ne_none _⟩, h.attempts, h.startedAt⟩

end ProcessingLog

/-- What a later state of a row keeps of it, after so many more starts. -/
structure Continues (starts : ℕ) (row later : ProcessingRow) : Prop where
  ingestId : later.ingestId = row.ingestId
  startedAt : later.startedAt = row.startedAt
  attempts : later.attempts = row.attempts + starts

theorem Continues.refl (row : ProcessingRow) : Continues 0 row row := ⟨rfl, rfl, rfl⟩

theorem Continues.trans {m n : ℕ} {row later last : ProcessingRow} (h : Continues m row later)
    (h' : Continues n later last) : Continues (m + n) row last :=
  ⟨h'.ingestId.trans h.ingestId, h'.startedAt.trans h.startedAt, by
    rw [h'.attempts, h.attempts, Nat.add_assoc]⟩

/-! ## One statement -/

/-- At most one row for each ingest, each with its ingest row and with the columns of its status. -/
structure LogInvariant (s : LogTables) : Prop where
  unique : (s.log.map ProcessingRow.ingestId).Nodup
  known : ∀ row ∈ s.log, row.ingestId ∈ s.ingestIds
  sound : ∀ row ∈ s.log, row.Sound

structure Rewrites (s : LogTables) (statement : LogStatement) : Prop where
  rows : ∃ f : ProcessingRow → ProcessingRow, (s.exec statement).log = s.log.map f ∧
    ∀ row ∈ s.log, Continues (if s.starts row.ingestId statement then 1 else 0) row (f row) ∧
      (f row).Sound
  started : ∀ ingestId, s.starts ingestId statement = true → ∃ row ∈ s.log, row.ingestId = ingestId

def Inserts (s : LogTables) (statement : LogStatement) : Prop :=
  ∃ message id now, (s.exec statement).log = s.log ++ [ProcessingLog.startedRow message id now] ∧
    message.ingestId ∈ s.ingestIds ∧ (∀ row ∈ s.log, row.ingestId ≠ message.ingestId) ∧
    ∀ ingestId, s.starts ingestId statement = decide (message.ingestId = ingestId)

section Exec

variable {s : LogTables}

theorem ingestIds_subset_exec (s : LogTables) (statement : LogStatement) :
    s.ingestIds ⊆ (s.exec statement).ingestIds := by
  cases statement with
  | insertIngestRow ingestId =>
    simp only [LogTables.exec]
    split
    · exact List.Subset.refl _
    · exact List.subset_append_left _ _
  | _ => exact List.Subset.refl _

theorem rewrites_of_log_eq (h : LogInvariant s) {statement : LogStatement}
    (hlog : (s.exec statement).log = s.log)
    (hstarts : ∀ ingestId, s.starts ingestId statement = false) : Rewrites s statement where
  rows := by
    refine ⟨id, by rw [hlog, List.map_id], fun row hrow => ⟨?_, h.sound row hrow⟩⟩
    simpa [hstarts] using Continues.refl row
  started ingestId hstart := by
    rw [hstarts] at hstart
    cases hstart

/-- An update without a start keeps what rows are followed by. -/
theorem rewrites_of_update (h : LogInvariant s) {statement : LogStatement}
    {where' : ProcessingRow → Prop} [DecidablePred where'] {set : ProcessingRow → ProcessingRow}
    (hlog : (s.exec statement).log = Table.update where' set s.log)
    (hstarts : ∀ ingestId, s.starts ingestId statement = false)
    (hset : ∀ row ∈ s.log, Continues 0 row (set row) ∧ (set row).Sound) : Rewrites s statement where
  rows := by
    refine ⟨_, hlog, fun row hrow => ?_⟩
    rw [hstarts]
    by_cases hwhere : where' row
    · simpa [hwhere] using hset row hrow
    · simpa [hwhere] using And.intro (Continues.refl row) (h.sound row hrow)
  started ingestId hstart := by
    rw [hstarts] at hstart
    cases hstart

/-- What a start does: nothing with an error, the first row, or one more attempt of its row. -/
theorem upsert_rewrites_or_inserts (h : LogInvariant s) (message : ProcessingMessage) (id : Uuid)
    (now : ℕ) : Rewrites s (.upsertProcessingStarted message id now) ∨
      Inserts s (.upsertProcessingStarted message id now) := by
  rcases s.log.upsertProcessingStarted_cases (decide (message.ingestId ∈ s.ingestIds)) message id now
    with ⟨error, heq, -⟩ | ⟨hknown, hnone, heq⟩ | ⟨-, row, hrow, hid, -, heq⟩
  · refine .inl (rewrites_of_log_eq h ?_ ?_)
    · rw [LogTables.exec, heq]
    · intro ingestId
      simp [LogTables.starts, heq, Except.isOk, Except.toBool]
  · refine .inr ⟨message, id, now, ?_, of_decide_eq_true hknown, hnone, ?_⟩
    · rw [LogTables.exec, heq]
    · intro ingestId
      simp [LogTables.starts, heq, Except.isOk, Except.toBool]
  · have hstarts : ∀ ingestId, s.starts ingestId (.upsertProcessingStarted message id now) =
        decide (message.ingestId = ingestId) := by
      intro ingestId
      simp [LogTables.starts, heq, Except.isOk, Except.toBool]
    refine .inl ⟨⟨_, by rw [LogTables.exec, heq]; rfl, fun old hold => ?_⟩, ?_⟩
    · rw [hstarts]
      by_cases hold' : old.ingestId = message.ingestId
      · have hstart := (h.sound old hold).startedAt
        obtain ⟨startedAt, hstartedAt⟩ := Option.ne_none_iff_exists'.mp hstart
        simp only [hold', if_true, decide_true]
        exact ⟨⟨rfl, by simp [ProcessingLog.restart, hstartedAt], rfl⟩,
          ProcessingLog.restart_sound message now⟩
      · simp only [hold', Ne.symm hold', if_false, decide_false, Bool.false_eq_true]
        exact ⟨Continues.refl old, h.sound old hold⟩
    · intro ingestId hstart
      rw [hstarts, decide_eq_true_eq] at hstart
      exact ⟨row, hrow, hid.trans hstart⟩

/-- What one statement can do to the log. -/
theorem exec_cases (h : LogInvariant s) (statement : LogStatement) :
    Rewrites s statement ∨ Inserts s statement := by
  cases statement with
  | insertIngestRow ingestId => exact .inl (rewrites_of_log_eq h rfl fun _ => rfl)
  | upsertProcessingStarted message id now => exact upsert_rewrites_or_inserts h message id now
  | updateProcessingMetadata processingLogId metadata cloudFraction valid rejected now =>
    refine .inl (rewrites_of_update h rfl (fun _ => rfl) fun row hrow => ?_)
    exact ⟨⟨rfl, rfl, rfl⟩, (h.sound row hrow).columns, (h.sound row hrow).attempts,
      (h.sound row hrow).startedAt⟩
  | markEnding ingestId ending now =>
    refine .inl (rewrites_of_update h rfl (fun _ => rfl) fun row hrow => ?_)
    exact ⟨by cases ending <;> exact ⟨rfl, rfl, rfl⟩,
      ProcessingLog.Ending.set_sound (h.sound row hrow) ending now⟩

/-- Every row goes on after a statement, with one more attempt if it is started. -/
theorem exists_continues_exec (h : LogInvariant s) (statement : LogStatement) {row : ProcessingRow}
    (hrow : row ∈ s.log) : ∃ later ∈ (s.exec statement).log,
      Continues (if s.starts row.ingestId statement then 1 else 0) row later := by
  rcases exec_cases h statement with hrewrites | ⟨message, id, now, hlog, -, hnone, hstarts⟩
  · obtain ⟨f, hlog, hf⟩ := hrewrites.rows
    rw [hlog]
    exact ⟨f row, List.mem_map_of_mem hrow, (hf row hrow).1⟩
  · have hother : message.ingestId ≠ row.ingestId := (hnone row hrow).symm
    rw [hlog]
    exact ⟨row, List.mem_append_left _ hrow, by simpa [hstarts, hother] using Continues.refl row⟩

theorem LogInvariant.exec (h : LogInvariant s) (statement : LogStatement) :
    LogInvariant (s.exec statement) := by
  have hids := ingestIds_subset_exec s statement
  rcases exec_cases h statement with hrewrites | ⟨message, id, now, hlog, hknown, hnone, -⟩
  · obtain ⟨f, hlog, hf⟩ := hrewrites.rows
    constructor
    · have hmap : (s.log.map f).map ProcessingRow.ingestId = s.log.map ProcessingRow.ingestId := by
        rw [List.map_map]
        exact List.map_congr_left fun row hrow => (hf row hrow).1.ingestId
      rw [hlog, hmap]
      exact h.unique
    · intro later hlater
      rw [hlog] at hlater
      obtain ⟨row, hrow, rfl⟩ := List.mem_map.mp hlater
      rw [(hf row hrow).1.ingestId]
      exact hids (h.known row hrow)
    · intro later hlater
      rw [hlog] at hlater
      obtain ⟨row, hrow, rfl⟩ := List.mem_map.mp hlater
      exact (hf row hrow).2
  · constructor
    · rw [hlog, List.map_append, List.nodup_append]
      refine ⟨h.unique, by simp, ?_⟩
      intro ingestId hmem ingestId' hmem'
      obtain ⟨row, hrow, rfl⟩ := List.mem_map.mp hmem
      rw [List.map_singleton, List.mem_singleton] at hmem'
      rw [hmem']
      exact hnone row hrow
    · intro later hlater
      rw [hlog] at hlater
      rcases List.mem_append.mp hlater with hrow | hnew
      · exact hids (h.known later hrow)
      · rw [List.mem_singleton.mp hnew]
        exact hids hknown
    · intro later hlater
      rw [hlog] at hlater
      rcases List.mem_append.mp hlater with hrow | hnew
      · exact h.sound later hrow
      · rw [List.mem_singleton.mp hnew]
        exact ProcessingLog.startedRow_sound message id now

/-- The attempts of each row are the starts that succeeded, none where there is no row. -/
def Counted (s : LogTables) (count : Uuid → ℕ) : Prop :=
  (∀ row ∈ s.log, row.attempts = count row.ingestId) ∧
    ∀ ingestId, (∀ row ∈ s.log, row.ingestId ≠ ingestId) → count ingestId = 0

theorem Counted.exec {count : Uuid → ℕ} (h : LogInvariant s) (hcount : Counted s count)
    (statement : LogStatement) :
    Counted (s.exec statement)
      fun ingestId => count ingestId + if s.starts ingestId statement then 1 else 0 := by
  rcases exec_cases h statement with hrewrites | ⟨message, id, now, hlog, -, hnone, hstarts⟩
  · obtain ⟨f, hlog, hf⟩ := hrewrites.rows
    constructor
    · intro later hlater
      rw [hlog] at hlater
      obtain ⟨row, hrow, rfl⟩ := List.mem_map.mp hlater
      rw [(hf row hrow).1.attempts, (hf row hrow).1.ingestId, hcount.1 row hrow]
    · intro ingestId hnone
      have hbefore : ∀ row ∈ s.log, row.ingestId ≠ ingestId := by
        intro row hrow
        rw [← (hf row hrow).1.ingestId]
        exact hnone (f row) (by rw [hlog]; exact List.mem_map_of_mem hrow)
      have hstart : s.starts ingestId statement ≠ true := by
        intro hstart
        obtain ⟨row, hrow, hid⟩ := hrewrites.started ingestId hstart
        exact hbefore row hrow hid
      simp [hcount.2 ingestId hbefore, hstart]
  · constructor
    · intro later hlater
      rw [hlog] at hlater
      rcases List.mem_append.mp hlater with hrow | hnew
      · have hother : message.ingestId ≠ later.ingestId := (hnone later hrow).symm
        simpa [hstarts, hother] using hcount.1 later hrow
      · rw [List.mem_singleton.mp hnew]
        have hzero : count message.ingestId = 0 := hcount.2 message.ingestId hnone
        simp [hstarts, ProcessingLog.startedRow, hzero]
    · intro ingestId hafter
      have hother : message.ingestId ≠ ingestId :=
        hafter _ (by rw [hlog]; exact List.mem_append_right _ List.mem_cons_self)
      have hbefore : ∀ row ∈ s.log, row.ingestId ≠ ingestId := by
        intro row hrow
        exact hafter row (by rw [hlog]; exact List.mem_append_left _ hrow)
      simp [hstarts, hother, hcount.2 ingestId hbefore]

/-! ## Runs -/

theorem LogInvariant.run (h : LogInvariant s) (statements : List LogStatement) :
    LogInvariant (s.run statements) := by
  induction statements generalizing s with
  | nil => exact h
  | cons statement statements ih => exact ih (h.exec statement)

theorem exists_continues_run (h : LogInvariant s) (statements : List LogStatement)
    {row : ProcessingRow} (hrow : row ∈ s.log) : ∃ later ∈ (s.run statements).log,
      Continues (s.startCount row.ingestId statements) row later := by
  induction statements generalizing s row with
  | nil => exact ⟨row, hrow, Continues.refl row⟩
  | cons statement statements ih =>
    obtain ⟨later, hlater, hcontinues⟩ := exists_continues_exec h statement hrow
    obtain ⟨last, hlast, hcontinues'⟩ := ih (h.exec statement) hlater
    rw [hcontinues.ingestId] at hcontinues'
    exact ⟨last, hlast, hcontinues.trans hcontinues'⟩

theorem Counted.run {count : Uuid → ℕ} (h : LogInvariant s) (hcount : Counted s count)
    (statements : List LogStatement) :
    Counted (s.run statements)
      fun ingestId => count ingestId + s.startCount ingestId statements := by
  induction statements generalizing s count with
  | nil => exact hcount
  | cons statement statements ih =>
    have hrest := ih (h.exec statement) (hcount.exec h statement)
    simp only [Nat.add_assoc] at hrest
    exact hrest

end Exec

def LogTables.empty (ingestIds : List Uuid) : LogTables := ⟨ingestIds, []⟩

theorem logInvariant_empty (ingestIds : List Uuid) : LogInvariant (.empty ingestIds) where
  unique := List.nodup_nil
  known _ hrow := absurd hrow List.not_mem_nil
  sound _ hrow := absurd hrow List.not_mem_nil

/-! ## The statements of the processing commands -/

namespace ProcessingWorld

def logTables (w : ProcessingWorld) : LogTables :=
  ⟨w.ingestLog.map Ingest.IngestRow.id, w.processingLog⟩

theorem known_eq (w : ProcessingWorld) (ingestId : Uuid) :
    w.Known ingestId = decide (ingestId ∈ w.logTables.ingestIds) := by
  simp [Known, logTables, List.any_eq]

end ProcessingWorld

/-- Whatever a call changes in the two tables, one statement changes. -/
theorem logTables_effect (e : Env) (w : ProcessingWorld) (c : ProcessingCall) :
    (effect e w c).logTables = w.logTables ∨
      ∃ statement, (effect e w c).logTables = w.logTables.exec statement := by
  cases c with
  | upsertProcessingStarted message =>
    refine .inr ⟨.upsertProcessingStarted message w.nextId e.now, ?_⟩
    simp [ProcessingWorld.logTables, effect, LogTables.exec, ProcessingWorld.known_eq]
  | updateProcessingMetadata processingLogId metadata cloudFraction valid rejected =>
    exact .inr ⟨.updateProcessingMetadata processingLogId metadata cloudFraction valid rejected e.now,
      rfl⟩
  | markEnding ingestId ending => exact .inr ⟨.markEnding ingestId ending e.now, rfl⟩
  | insertIngestRow row =>
    refine .inr ⟨.insertIngestRow row.id, ?_⟩
    have hknown := w.known_eq row.id
    by_cases hmem : row.id ∈ w.logTables.ingestIds
    · rw [decide_eq_true hmem] at hknown
      simp [effect, LogTables.exec, hknown, hmem]
    · rw [decide_eq_false hmem] at hknown
      simp only [effect, LogTables.exec, hknown, hmem, if_false, Bool.false_eq_true]
      simp [ProcessingWorld.logTables]
  | _ => exact .inl rfl

theorem LogInvariant.answer {w : ProcessingWorld} (h : LogInvariant w.logTables) (c : ProcessingCall)
    (e : Env) : LogInvariant (answer c e w).1.logTables := by
  rcases answer_effect c e w with ⟨-, heq⟩ | ⟨-, finished, heq⟩
  · rw [heq]
    exact h
  · have hlog : (Processing.answer c e w).1.logTables = (effect e w c).logTables := by
      rw [heq]
      rfl
    rw [hlog]
    rcases logTables_effect e w c with heq | ⟨statement, heq⟩
    · rw [heq]
      exact h
    · rw [heq]
      exact h.exec statement

theorem ProcessingPool.logInvariant_of_run {guard : ProcessingPool → ProcessingEvent → Prop}
    {pool : ProcessingPool} (h : Reaches ProcessingPool.step guard .empty pool) :
    LogInvariant pool.world.logTables := by
  induction h with
  | start => exact logInvariant_empty []
  | next _ _ happens ih =>
    rcases Pool.step_cases happens with
      ⟨p, -, rfl⟩ | ⟨i, e, c, next, -, -, rfl⟩ | ⟨i, c, next, -, -, rfl⟩
    · exact ih
    · exact ih.answer c e
    · exact ih

/-- After any statements the log has one row at most for each ingest, with its ingest row, the
columns of its status and as many attempts as starts succeeded; and whatever statements follow, a
row stays, with the time it was first started at and one more attempt for each start that
succeeds. The log of any pool of commands keeps the same invariant. -/
theorem processingLog_rows (ingestIds : List Uuid) (before after : List LogStatement) :
    LogInvariant ((LogTables.empty ingestIds).run before) ∧
      (∀ row ∈ ((LogTables.empty ingestIds).run before).log,
        row.attempts = (LogTables.empty ingestIds).startCount row.ingestId before) ∧
      (∀ row ∈ ((LogTables.empty ingestIds).run before).log,
        ∃ later ∈ ((LogTables.empty ingestIds).run (before ++ after)).log,
          later.ingestId = row.ingestId ∧ later.startedAt = row.startedAt ∧
            later.attempts = row.attempts +
              ((LogTables.empty ingestIds).run before).startCount row.ingestId after) ∧
      ∀ pool : ProcessingPool, Reaches ProcessingPool.step (fun _ _ => True) .empty pool →
        LogInvariant pool.world.logTables := by
  have hinvariant := (logInvariant_empty ingestIds).run before
  have hcounted : Counted (.empty ingestIds) fun _ => 0 :=
    ⟨fun _ hrow => absurd hrow List.not_mem_nil, fun _ _ => rfl⟩
  refine ⟨hinvariant, ?_, ?_, fun pool hreaches => ProcessingPool.logInvariant_of_run hreaches⟩
  · intro row hrow
    simpa using (hcounted.run (logInvariant_empty ingestIds) before).1 row hrow
  · intro row hrow
    obtain ⟨later, hlater, hcontinues⟩ := exists_continues_run hinvariant after hrow
    rw [LogTables.run_append]
    exact ⟨later, hlater, hcontinues.ingestId, hcontinues.startedAt, hcontinues.attempts⟩

end LumenHorizon.Processing
