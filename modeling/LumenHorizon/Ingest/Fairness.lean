import LumenHorizon.Ingest.RecoveryTurns

/-! # Recovery in batches of one hundred

A recovery takes the longest untouched rows and the oldest deliverable records, a hundred of each.
Rows that keep failing go to the end of the line, while records stay in their place until they are
delivered or have failed three times. Neither starves the entries behind them.
-/

namespace LumenHorizon.Ingest
open Foundation Shared Program IngestProgram

/-! ## The two batches -/

section Batch

variable {w : IngestWorld} {outboxId ingestId since : ℕ}

/-- The order of `recoverable_raw_rows`. -/
abbrev writtenBefore (a b : IngestRow) : Prop :=
  a.updatedAt < b.updatedAt ∨ (a.updatedAt = b.updatedAt ∧ a.createdAt ≤ b.createdAt)

instance : Std.Total writtenBefore where
  total := by
    intro a b
    unfold writtenBefore
    omega

instance : IsTrans IngestRow writtenBefore where
  trans := by
    intro a b c hab hbc
    unfold writtenBefore at *
    omega

theorem Keyed.rows_pairwise (h : Keyed w) :
    w.tables.recoverableRawRows.Pairwise fun a b => a.id ≠ b.id := by
  apply List.pairwise_map.mp
  rw [Tables.recoverableRawRows, List.map_map]
  exact Table.nodup_map_select h.log.nodup

theorem Tables.selectable_of_mem_pendingEnqueueOutbox {t : Tables} {record : PendingOutboxRecord}
    (h : record ∈ t.pendingEnqueueOutbox) : t.Selectable record.id record.ingestId := by
  obtain ⟨pair, hpair, rfl⟩ := List.mem_map.mp h
  obtain ⟨hmem, hdeliverable⟩ := Table.mem_of_mem_select hpair
  obtain ⟨hrecord, hrow⟩ := List.mem_product.mp hmem
  exact ⟨pair.1, hrecord, pair.2, hrow, rfl, hdeliverable.1.symm, hdeliverable⟩

theorem Tables.Selectable.eq_of_ingestId_eq {x : Uuid} (hkeyed : Keyed w)
    (h : w.tables.Selectable outboxId ingestId) (hx : w.tables.Selectable x ingestId) :
    outboxId = x := by
  obtain ⟨record, hrecord, row, -, rfl, rfl, -, hp, -⟩ := h
  obtain ⟨other, hother, row', -, rfl, hid, -, hp', -⟩ := hx
  exact congrArg OutboxRow.id (hkeyed.pending_unique hrecord hp hother hp' hid.symm)

theorem Keyed.records_pairwise (h : Keyed w) : w.tables.pendingEnqueueOutbox.Pairwise
    fun a b => a.ingestId ≠ b.ingestId ∧ a.id ≠ b.id := by
  have hids : w.tables.pendingEnqueueOutbox.Pairwise fun a b => a.id ≠ b.id :=
    List.pairwise_map.mp h.batch_nodup
  apply hids.imp_of_mem
  intro a b ha hb hne
  refine ⟨fun hid => hne ?_, hne⟩
  apply (Tables.selectable_of_mem_pendingEnqueueOutbox ha).eq_of_ingestId_eq h
  rw [hid]
  exact Tables.selectable_of_mem_pendingEnqueueOutbox hb

/-- A stale row that is not selected waits behind a hundred others. -/
theorem Tables.stale_batch {t : Tables} {row : IngestRow} (hrow : row ∈ t.ingestLog)
    (hstale : Stale since row) (hwaits : ∀ selected ∈ t.recoverableRawRows, selected.id ≠ row.id) :
    t.recoverableRawRows.length = recoveryBatchLimit ∧
      ∀ selected ∈ t.recoverableRawRows,
        ∃ own ∈ t.ingestLog, own.id = selected.id ∧ Stale since own := by
  have hnot : row ∉ Table.select Recoverable writtenBefore recoveryBatchLimit t.ingestLog :=
    fun hmem => hwaits _ (List.mem_map.mpr ⟨row, hmem, rfl⟩) rfl
  constructor
  · rw [recoverableRawRows, List.length_map]
    exact Table.length_select_of_not_mem hrow hstale.1 hnot
  · intro selected hselected
    obtain ⟨own, hown, rfl⟩ := List.mem_map.mp hselected
    obtain ⟨hmem, hrecoverable⟩ := Table.mem_of_mem_select hown
    have hbefore : writtenBefore own row := Table.le_of_mem_select hrow hstale.1 hnot hown
    refine ⟨own, hmem, rfl, hrecoverable, ?_⟩
    exact (hbefore.elim le_of_lt fun h => h.1.le).trans hstale.2

theorem Tables.Selectable.batch {t : Tables} (h : t.Selectable outboxId ingestId)
    (hwaits : ∀ selected ∈ t.pendingEnqueueOutbox, selected.id ≠ outboxId) :
    t.pendingEnqueueOutbox.length = recoveryBatchLimit := by
  obtain ⟨record, hrecord, row, hrow, rfl, -, hdeliverable⟩ := h
  rw [pendingEnqueueOutbox, List.length_map]
  apply Table.length_select_of_not_mem (List.mem_product.mpr ⟨hrecord, hrow⟩) hdeliverable
  exact fun hmem => hwaits _ (List.mem_map.mpr ⟨_, hmem, rfl⟩) rfl

end Batch

/-! ## What a recovery does -/

section Phases

variable {s s' : RecoveryState} {rows : List IngestRecoveryRecord}
  {records : List PendingOutboxRecord} {since outboxId ingestId : ℕ}

/-- The row that a turn is for is still there and still has the property. -/
def HasRowWith (p : IngestRow → Prop) (s : RecoveryState) (row : IngestRecoveryRecord) : Prop :=
  ∃ own ∈ s.tables.ingestLog, own.id = row.id ∧ p own

theorem HasRowWith.rowTurn {p : IngestRow → Prop} {row other : IngestRecoveryRecord}
    (h : RowTurn row s s') (hne : row.id ≠ other.id) (hother : HasRowWith p s other) :
    HasRowWith p s' other := by
  obtain ⟨own, hown, hid, hp⟩ := hother
  exact ⟨own, h.mem_ingestLog (hid ▸ hne) hown, hid, hp⟩

theorem rowTurns_stale (h : Turns RowTurn rows s s') (hs : Sound since s)
    (hstale : ∀ row ∈ rows, HasRowWith (Stale since) s row)
    (hapart : rows.Pairwise fun a b => a.id ≠ b.id) :
    s'.tables.stale since + rows.length ≤ s.tables.stale since := by
  have hwork := h.work (Sound since) (HasRowWith (Stale since)) (fun s => s.tables.stale since) 1
    (fun row s s' hturn hs hready => ⟨hturn.sound hs, hturn.stale_lt hs hready,
      fun other hne => HasRowWith.rowTurn hturn hne⟩) hs hstale hapart
  simpa using hwork.2

theorem rowTurns_triesLeft (h : Turns RowTurn rows s s') (hs : Sound since s)
    (hrecoverable : ∀ row ∈ rows, HasRowWith Recoverable s row)
    (hapart : rows.Pairwise fun a b => a.id ≠ b.id) :
    s'.tables.triesLeft ≤ s.tables.triesLeft := by
  have hwork := h.work (Sound since) (HasRowWith Recoverable) (fun s => s.tables.triesLeft) 0
    (fun row s s' hturn hs hready => ⟨hturn.sound hs, hturn.triesLeft_le hs hready,
      fun other hne => HasRowWith.rowTurn hturn hne⟩) hs hrecoverable hapart
  simpa using hwork.2

theorem rowTurns_created (h : Turns RowTurn rows s s')
    (hrows : ∀ row ∈ rows, s.tables.HasRow row.id) (hapart : rows.Pairwise fun a b => a.id ≠ b.id)
    (hcreated : CreatedIn outboxId ingestId s'.2) :
    CreatedIn outboxId ingestId s.2 ∨ s'.tables.Selectable outboxId ingestId := by
  -- the rows still to come are other rows than the one the record is for
  let inv (rest : List IngestRecoveryRecord) (s₁ : RecoveryState) : Prop :=
    (∀ row ∈ rest, s₁.tables.HasRow row.id) ∧ rest.Pairwise (fun a b => a.id ≠ b.id) ∧
      (CreatedIn outboxId ingestId s₁.2 → CreatedIn outboxId ingestId s.2 ∨
        (s₁.tables.Selectable outboxId ingestId ∧ ∀ row ∈ rest, row.id ≠ ingestId))
  have hend : inv [] s' := by
    apply h.keeps inv _ ⟨hrows, hapart, .inl⟩
    rintro row rest s₁ s₂ hturn ⟨hrows, hapart, hbefore⟩
    obtain ⟨hhead, htail⟩ := List.pairwise_cons.mp hapart
    refine ⟨fun other hother => ?_, htail, fun hcreated => ?_⟩
    · exact hturn.hasRow (hrows other (List.mem_cons_of_mem _ hother))
    · rcases hturn.created (hrows row List.mem_cons_self) hcreated with hearlier | ⟨rfl, hnew⟩
      · refine (hbefore hearlier).imp_right ?_
        rintro ⟨hselectable, hothers⟩
        exact ⟨hturn.selectable (hothers row List.mem_cons_self) hselectable,
          fun other hother => hothers other (List.mem_cons_of_mem _ hother)⟩
      · exact .inr ⟨hnew, fun other hother => (hhead other hother).symm⟩
  exact (hend.2.2 hcreated).imp_right And.left

theorem recordTurns_triesLeft (h : Turns RecordTurn records s s') (hs : Sound since s)
    (hselectable : ∀ record ∈ records, s.tables.Selectable record.id record.ingestId)
    (hapart : records.Pairwise fun a b => a.ingestId ≠ b.ingestId ∧ a.id ≠ b.id) :
    s'.tables.triesLeft + records.length ≤ s.tables.triesLeft := by
  have hwork := h.work (Sound since)
    (fun s record => s.tables.Selectable record.id record.ingestId) (fun s => s.tables.triesLeft) 1
    (fun record s s' hturn hs hready => ⟨hturn.sound hs, hturn.triesLeft_lt hs hready,
      fun other hne => hturn.selectable hne.1 hne.2⟩) hs hselectable hapart
  simpa using hwork.2

end Phases

section Run

variable {s s' : RecoveryState} {since : ℕ}

theorem Quiet.tables (h : Quiet s s') : s'.tables = s.tables := congrArg IngestWorld.tables h.ingest

theorem Quiet.sound (h : Quiet s s') (hs : Sound since s) : Sound since s' where
  keyed := by
    rw [h.ingest]
    exact hs.keyed
  since_le := hs.since_le.trans h.clock

theorem Examined.mono {ingestId : Uuid} {blobPath : String} {t t' : IngestTranscript}
    (h : Examined ingestId blobPath t) (ht : t <:+ t') : Examined ingestId blobPath t' := by
  obtain ⟨status, errorMessage, reply, download, hinfix⟩ := h
  exact ⟨status, errorMessage, reply, download, hinfix.trans ht.isInfix⟩

theorem Attempted.mono {outboxId : Uuid} {t t' : IngestTranscript} (h : Attempted outboxId t)
    (ht : t <:+ t') : Attempted outboxId t' := by
  obtain ⟨entry, hentry, hmark⟩ := h
  exact ⟨entry, ht.subset hentry, hmark⟩

theorem rowTurns_sound {rows : List IngestRecoveryRecord} (h : Turns RowTurn rows s s')
    (hs : Sound since s) : Sound since s' :=
  h.invariant (Sound since) (fun _ _ _ _ hturn hs => hturn.sound hs) hs

theorem recordTurns_sound {records : List PendingOutboxRecord} (h : Turns RecordTurn records s s')
    (hs : Sound since s) : Sound since s' :=
  h.invariant (Sound since) (fun _ _ _ _ hturn hs => hturn.sound hs) hs

theorem RecoveryRun.sound (h : RecoveryRun s s') (hs : Sound since s) : Sound since s' := by
  obtain ⟨s₁, s₂, s₃, hquiet, hrows, hquiet', hrecords⟩ := h
  have hs₂ := rowTurns_sound hrows (hquiet.sound hs)
  exact recordTurns_sound hrecords (hquiet'.sound hs₂)

theorem RecoveryRun.examined (h : RecoveryRun s s') {selected : IngestRecoveryRecord}
    (hselected : selected ∈ s.tables.recoverableRawRows) :
    Examined selected.id selected.blobPath s'.2 := by
  obtain ⟨s₁, s₂, s₃, hquiet, hrows, hquiet', hrecords⟩ := h
  have hexamined : Examined selected.id selected.blobPath s₂.2 := by
    apply hrows.reached hselected (fun s => Examined selected.id selected.blobPath s.2)
    · exact fun _ _ hturn => hturn.examined
    · exact fun _ _ _ hturn hmark => hmark.mono hturn.history
  apply hrecords.invariant (fun s => Examined selected.id selected.blobPath s.2)
  · exact fun _ _ _ _ hturn hmark => hmark.mono hturn.history
  · exact hexamined.mono hquiet'.history

/-- A recoverable row that is not selected is left as it is. -/
theorem RecoveryRun.mem_ingestLog (h : RecoveryRun s s') (hs : Sound since s) {row : IngestRow}
    (hrow : row ∈ s.tables.ingestLog) (hrecoverable : Recoverable row)
    (hwaits : ∀ selected ∈ s.tables.recoverableRawRows, selected.id ≠ row.id) :
    row ∈ s'.tables.ingestLog := by
  obtain ⟨s₁, s₂, s₃, hquiet, hrows, hquiet', hrecords⟩ := h
  have hs₂ := rowTurns_sound hrows (hquiet.sound hs)
  have hrow₂ : row ∈ s₂.tables.ingestLog := by
    apply hrows.invariant (fun s => row ∈ s.tables.ingestLog)
    · exact fun selected hmem _ _ hturn => hturn.mem_ingestLog (hwaits selected hmem)
    · rw [hquiet.tables]
      exact hrow
  apply hrecords.invariant (fun s => row ∈ s.tables.ingestLog)
  · intro record hmem _ _ hturn
    apply hturn.mem_ingestLog
    -- the record's row is deliverable, and this one is not
    obtain ⟨own, -, ownRow, hown, -, howned, hid, -, hdeliverable⟩ :=
      Tables.selectable_of_mem_pendingEnqueueOutbox hmem
    intro hsame
    have heq := hs₂.keyed.log.eq_of_id_eq hown hrow₂ (hid.trans (howned.trans hsame))
    exact hdeliverable.not_recoverable (heq ▸ hrecoverable)
  · rw [hquiet'.tables]
    exact hrow₂

/-- A stale row that is not selected has a hundred other rows examined before it. -/
theorem RecoveryRun.stale_add_le (h : RecoveryRun s s') (hs : Sound since s) {row : IngestRow}
    (hrow : row ∈ s.tables.ingestLog) (hstale : Stale since row)
    (hwaits : ∀ selected ∈ s.tables.recoverableRawRows, selected.id ≠ row.id) :
    s'.tables.stale since + recoveryBatchLimit ≤ s.tables.stale since := by
  obtain ⟨s₁, s₂, s₃, hquiet, hrows, hquiet', hrecords⟩ := h
  have hs₁ := hquiet.sound hs
  have hs₃ := hquiet'.sound (rowTurns_sound hrows hs₁)
  obtain ⟨hlength, hbatch⟩ := Tables.stale_batch hrow hstale hwaits
  have hrowTurns : s₂.tables.stale since + s.tables.recoverableRawRows.length ≤
      s₁.tables.stale since := by
    apply rowTurns_stale hrows hs₁ _ hs.keyed.rows_pairwise
    intro selected hmem
    rw [HasRowWith, hquiet.tables]
    exact hbatch selected hmem
  have hrecordTurns : Sound since s' ∧ s'.tables.stale since ≤ s₃.tables.stale since := by
    apply hrecords.invariant fun s => Sound since s ∧ s.tables.stale since ≤ s₃.tables.stale since
    · exact fun _ _ _ _ hturn h => ⟨hturn.sound h.1, (hturn.stale_le h.1).trans h.2⟩
    · exact ⟨hs₃, le_rfl⟩
  rw [hquiet.tables, hlength] at hrowTurns
  rw [hquiet'.tables] at hrecordTurns
  omega

/-- A stale row is examined, or a hundred other rows are no longer stale. -/
theorem RecoveryRun.examines (h : RecoveryRun s s') (hs : Sound since s) {row : IngestRow}
    (hrow : row ∈ s.tables.ingestLog) (hstale : Stale since row) :
    Examined row.id row.blobPath s'.2 ∨ (row ∈ s'.tables.ingestLog ∧
      s'.tables.stale since + recoveryBatchLimit ≤ s.tables.stale since) := by
  by_cases hselected : ∃ selected ∈ s.tables.recoverableRawRows, selected.id = row.id
  · obtain ⟨selected, hmem, hid⟩ := hselected
    have hexamined := h.examined hmem
    obtain ⟨own, hown, rfl⟩ := List.mem_map.mp hmem
    obtain rfl := hs.keyed.log.eq_of_id_eq (Table.mem_of_mem_select hown).1 hrow hid
    exact .inl hexamined
  · have hwaits : ∀ selected ∈ s.tables.recoverableRawRows, selected.id ≠ row.id :=
      fun selected hmem hid => hselected ⟨selected, hmem, hid⟩
    exact .inr ⟨h.mem_ingestLog hs hrow hstale.1 hwaits, h.stale_add_le hs hrow hstale hwaits⟩

theorem Tables.Selectable.triesLeft_pos {t : Tables} {outboxId ingestId : Uuid}
    (h : t.Selectable outboxId ingestId) : 0 < t.triesLeft := by
  obtain ⟨record, hrecord, -, hp⟩ := h.pending
  have hone : tries record ≤ (t.outbox.map tries).sum :=
    List.single_le_sum (fun _ _ => Nat.zero_le _) _ (List.mem_map_of_mem hrecord)
  have hpos := tries_pos hp
  unfold triesLeft
  omega

/-- A record that can be selected stays so while rows have their turns. -/
theorem rowTurns_selectable {rows : List IngestRecoveryRecord} (h : Turns RowTurn rows s s')
    (hs : Sound since s) (hrecoverable : ∀ row ∈ rows, HasRowWith Recoverable s row)
    {outboxId ingestId : Uuid} (hselectable : s.tables.Selectable outboxId ingestId) :
    s'.tables.Selectable outboxId ingestId := by
  apply h.invariant (fun s => s.tables.Selectable outboxId ingestId) _ hselectable
  intro row hmem _ _ hturn
  apply hturn.selectable
  -- the row is recoverable, and the record's row is not
  obtain ⟨own, hown, hid, hownRecoverable⟩ := hrecoverable row hmem
  obtain ⟨record, -, recordRow, hrow, -, howned, hrowId, -, hdeliverable⟩ := hselectable
  intro hsame
  have heq := hs.keyed.log.eq_of_id_eq hown hrow
    (hid.trans (hsame.trans (hrowId.trans howned).symm))
  exact hdeliverable.not_recoverable (heq ▸ hownRecoverable)

/-- One record after another is attempted, and the others wait behind a full batch. -/
theorem recordTurns_attempts (h : Turns RecordTurn s.tables.pendingEnqueueOutbox s s')
    (hs : Sound since s) {outboxId ingestId : Uuid}
    (hselectable : s.tables.Selectable outboxId ingestId) :
    Attempted outboxId s'.2 ∨ (s'.tables.Selectable outboxId ingestId ∧
      s'.tables.triesLeft + recoveryBatchLimit ≤ s.tables.triesLeft) := by
  by_cases hselected : ∃ selected ∈ s.tables.pendingEnqueueOutbox, selected.id = outboxId
  · obtain ⟨selected, hmem, rfl⟩ := hselected
    left
    apply h.reached hmem (fun s => Attempted selected.id s.2)
    · exact fun _ _ hturn => hturn.attempted
    · exact fun _ _ _ hturn hmark => hmark.mono hturn.history
  · have hwaits : ∀ selected ∈ s.tables.pendingEnqueueOutbox, selected.id ≠ outboxId :=
      fun selected hmem hid => hselected ⟨selected, hmem, hid⟩
    refine .inr ⟨?_, ?_⟩
    · apply h.invariant (fun s => s.tables.Selectable outboxId ingestId) _ hselectable
      intro record hmem _ _ hturn
      apply hturn.selectable _ (hwaits record hmem)
      rintro rfl
      have hrecord := Tables.selectable_of_mem_pendingEnqueueOutbox hmem
      exact hwaits record hmem (hrecord.eq_of_ingestId_eq hs.keyed hselectable)
    · rw [← hselectable.batch hwaits]
      apply recordTurns_triesLeft h hs _ hs.keyed.records_pairwise
      exact fun _ => Tables.selectable_of_mem_pendingEnqueueOutbox

theorem recordTurns_created {records : List PendingOutboxRecord} (h : Turns RecordTurn records s s')
    {outboxId ingestId : Uuid} (hcreated : CreatedIn outboxId ingestId s'.2) :
    CreatedIn outboxId ingestId s.2 :=
  h.invariant (fun s' => CreatedIn outboxId ingestId s'.2 → CreatedIn outboxId ingestId s.2)
    (fun _ _ _ _ hturn hs hcreated => hs (hturn.created hcreated)) id hcreated

/-- The state in which a recovery selects records: what could be selected at the start still can,
and what the rows' turns created can too. -/
structure AtSelection (since : ℕ) (s s₃ : RecoveryState) : Prop where
  sound : Sound since s₃
  triesLeft_le : s₃.tables.triesLeft ≤ s.tables.triesLeft
  selectable : ∀ outboxId ingestId,
    s.tables.Selectable outboxId ingestId → s₃.tables.Selectable outboxId ingestId
  created : ∀ outboxId ingestId, CreatedIn outboxId ingestId s₃.2 →
    CreatedIn outboxId ingestId s.2 ∨ s₃.tables.Selectable outboxId ingestId

theorem RecoveryRun.exists_atSelection (h : RecoveryRun s s') (hs : Sound since s) :
    ∃ s₃, AtSelection since s s₃ ∧ Turns RecordTurn s₃.tables.pendingEnqueueOutbox s₃ s' := by
  obtain ⟨s₁, s₂, s₃, hquiet, hrows, hquiet', hrecords⟩ := h
  have hs₁ := hquiet.sound hs
  have hs₂ := rowTurns_sound hrows hs₁
  have hrecoverable : ∀ row ∈ s.tables.recoverableRawRows, HasRowWith Recoverable s₁ row := by
    intro row hmem
    rw [HasRowWith, hquiet.tables]
    exact Tables.exists_of_mem_recoverableRawRows hmem
  have hrowsHere : ∀ row ∈ s.tables.recoverableRawRows, s₁.tables.HasRow row.id := by
    intro row hmem
    rw [hquiet.tables]
    exact Tables.hasRow_of_mem_recoverableRawRows hmem
  rw [← hquiet'.tables] at hrecords
  refine ⟨s₃, ⟨hquiet'.sound hs₂, ?_, fun outboxId ingestId h => ?_, fun outboxId ingestId h => ?_⟩,
    hrecords⟩
  · rw [hquiet'.tables, ← hquiet.tables]
    exact rowTurns_triesLeft hrows hs₁ hrecoverable hs.keyed.rows_pairwise
  · rw [← hquiet.tables] at h
    rw [hquiet'.tables]
    exact rowTurns_selectable hrows hs₁ hrecoverable h
  · rw [hquiet'.tables]
    exact (rowTurns_created hrows hrowsHere hs.keyed.rows_pairwise (hquiet'.created _ _ h)).imp_left
      (hquiet.created _ _)

/-- A record that can be selected, or is created so, is attempted, or a hundred attempts of other
records are used up. -/
theorem RecoveryRun.attempts (h : RecoveryRun s s') (hs : Sound since s) {outboxId ingestId : Uuid}
    (hstart : ¬ CreatedIn outboxId ingestId s.2)
    (hwaits : s.tables.Selectable outboxId ingestId ∨ CreatedIn outboxId ingestId s'.2) :
    0 < s.tables.triesLeft ∧ (Attempted outboxId s'.2 ∨ (s'.tables.Selectable outboxId ingestId ∧
      s'.tables.triesLeft + recoveryBatchLimit ≤ s.tables.triesLeft)) := by
  obtain ⟨s₃, hat, hrecords⟩ := h.exists_atSelection hs
  have hselectable : s₃.tables.Selectable outboxId ingestId := by
    rcases hwaits with hselectable | hcreated
    · exact hat.selectable _ _ hselectable
    · exact (hat.created _ _ (recordTurns_created hrecords hcreated)).resolve_left hstart
  refine ⟨hselectable.triesLeft_pos.trans_le hat.triesLeft_le, ?_⟩
  refine (recordTurns_attempts hrecords hat.sound hselectable).imp_right ?_
  exact fun h => ⟨h.1, h.2.trans hat.triesLeft_le⟩

theorem RecoveryRun.triesLeft_le (h : RecoveryRun s s') (hs : Sound since s) :
    s'.tables.triesLeft ≤ s.tables.triesLeft := by
  obtain ⟨s₃, hat, hrecords⟩ := h.exists_atSelection hs
  have hturns := recordTurns_triesLeft hrecords hat.sound
    (fun _ => Tables.selectable_of_mem_pendingEnqueueOutbox) hat.sound.keyed.records_pairwise
  have hle := hat.triesLeft_le
  omega

end Run

/-! ## Recoveries in succession are fair -/

section Fair

variable (config : IngestConfig) (choices : ℕ → ℕ → Env) (w : ClockedWorld)

theorem recoveryRun_beforeRun (r : ℕ) : RecoveryRun (beforeRun config choices w r, [])
    (beforeRun config choices w (r + 1), historyOfRun config choices w r) :=
  ((runRecovery_completes config _).exec fun _ => trivial).2.1

theorem sound_beforeRun {w : ClockedWorld} (hkeyed : Keyed w.ingest) (r : ℕ)
    (t : IngestTranscript) : Sound w.clock (beforeRun config choices w r, t) := by
  induction r generalizing t with
  | zero => exact ⟨hkeyed, le_rfl⟩
  | succ r ih =>
    have hsound := (recoveryRun_beforeRun config choices w r).sound (ih [])
    exact ⟨hsound.keyed, hsound.since_le⟩

theorem triesLeft_beforeRun_le {w : ClockedWorld} (hkeyed : Keyed w.ingest) (r : ℕ) :
    (beforeRun config choices w r).ingest.tables.triesLeft ≤ w.ingest.tables.triesLeft := by
  induction r with
  | zero => exact le_rfl
  | succ r ih =>
    have hrun := recoveryRun_beforeRun config choices w r
    exact (hrun.triesLeft_le (sound_beforeRun config choices hkeyed r [])).trans ih

theorem le_batches (n : ℕ) : n ≤ recoveryBatchLimit * (n ⌈/⌉ recoveryBatchLimit) := by
  have h : n ≤ recoveryBatchLimit • (n ⌈/⌉ recoveryBatchLimit) := le_smul_ceilDiv (by decide)
  rwa [smul_eq_mul] at h

theorem exists_examined {w : ClockedWorld} (hkeyed : Keyed w.ingest)
    (hclock : ∀ row ∈ w.ingest.tables.ingestLog, row.updatedAt ≤ w.clock) {row : IngestRow}
    (hrow : row ∈ w.ingest.tables.ingestLog) (hrecoverable : Recoverable row) :
    ∃ r < (w.ingest.tables.ingestLog.countP fun row => Recoverable row) ⌈/⌉ recoveryBatchLimit,
      Examined row.id row.blobPath (historyOfRun config choices w r) := by
  have hstale : Stale w.clock row := ⟨hrecoverable, hclock row hrow⟩
  have hserved : ∃ r, 0 ≤ r ∧
      r < 0 + (w.ingest.tables.ingestLog.countP fun row => Recoverable row) ⌈/⌉ recoveryBatchLimit ∧
        Examined row.id row.blobPath (historyOfRun config choices w r) := by
    apply served_within (fun r => row ∈ (beforeRun config choices w r).ingest.tables.ingestLog)
      (fun r => Examined row.id row.blobPath (historyOfRun config choices w r))
      (fun r => (beforeRun config choices w r).ingest.tables.stale w.clock)
    · exact hrow
    · intro r hwaiting hunserved
      have hrun := recoveryRun_beforeRun config choices w r
      have hsound := sound_beforeRun config choices hkeyed r []
      exact (hrun.examines hsound hwaiting hstale).resolve_left hunserved
    · exact fun r hwaiting => List.countP_pos_iff.mpr ⟨row, hwaiting, decide_eq_true hstale⟩
    · refine le_trans ?_ (le_batches _)
      apply List.countP_mono_left
      exact fun other _ h => decide_eq_true (of_decide_eq_true h).1
  obtain ⟨r, -, hr, hexamined⟩ := hserved
  rw [Nat.zero_add] at hr
  exact ⟨r, hr, hexamined⟩

theorem exists_attempted {w : ClockedWorld} (hkeyed : Keyed w.ingest) (start : ℕ)
    {outboxId ingestId : Uuid}
    (hwaits : (beforeRun config choices w start).ingest.tables.Selectable outboxId ingestId ∨
      CreatedIn outboxId ingestId (historyOfRun config choices w start)) :
    ∃ r, start ≤ r ∧
      r < start + w.ingest.tables.claims ⌈/⌉ recoveryBatchLimit * outboxMaxAttempts ∧
      Attempted outboxId (historyOfRun config choices w r) := by
  have hround (r : ℕ)
      (hwaits : (beforeRun config choices w r).ingest.tables.Selectable outboxId ingestId ∨
        CreatedIn outboxId ingestId (historyOfRun config choices w r)) :=
    (recoveryRun_beforeRun config choices w r).attempts (sound_beforeRun config choices hkeyed r [])
      (fun ⟨_, hmem⟩ => absurd hmem List.not_mem_nil) hwaits
  apply served_within
    (fun r => (beforeRun config choices w r).ingest.tables.Selectable outboxId ingestId ∨
      CreatedIn outboxId ingestId (historyOfRun config choices w r))
    (fun r => Attempted outboxId (historyOfRun config choices w r))
    (fun r => (beforeRun config choices w r).ingest.tables.triesLeft) hwaits
  · intro r hwaiting hunserved
    exact ((hround r hwaiting).2.resolve_left hunserved).imp_left .inl
  · exact fun r hwaiting => (hround r hwaiting).1
  · calc (beforeRun config choices w start).ingest.tables.triesLeft
      _ ≤ w.ingest.tables.triesLeft := triesLeft_beforeRun_le config choices hkeyed start
      _ ≤ outboxMaxAttempts * w.ingest.tables.claims := w.ingest.tables.triesLeft_le
      _ ≤ outboxMaxAttempts *
          (recoveryBatchLimit * (w.ingest.tables.claims ⌈/⌉ recoveryBatchLimit)) :=
        Nat.mul_le_mul_left _ (le_batches _)
      _ = recoveryBatchLimit *
          (w.ingest.tables.claims ⌈/⌉ recoveryBatchLimit * outboxMaxAttempts) := by ring

/-- Every row that is recoverable at first is examined in the first recoveries, as many as its kind
fill batches. Every record that can be selected or is created in some recovery is attempted in this
one or one of the next, three for each batch that the pending and possible records fill. -/
theorem recovery_fair (hkeyed : Keyed w.ingest)
    (hclock : ∀ row ∈ w.ingest.tables.ingestLog, row.updatedAt ≤ w.clock) :
    (∀ row ∈ w.ingest.tables.ingestLog, Recoverable row →
      ∃ r < (w.ingest.tables.ingestLog.countP fun row => Recoverable row) ⌈/⌉ recoveryBatchLimit,
        Examined row.id row.blobPath (historyOfRun config choices w r)) ∧
    ∀ start outboxId ingestId,
      (beforeRun config choices w start).ingest.tables.Selectable outboxId ingestId ∨
        CreatedIn outboxId ingestId (historyOfRun config choices w start) →
      ∃ r, start ≤ r ∧
        r < start + w.ingest.tables.claims ⌈/⌉ recoveryBatchLimit * outboxMaxAttempts ∧
        Attempted outboxId (historyOfRun config choices w r) := by
  constructor
  · exact fun row hrow => exists_examined config choices hkeyed hclock hrow
  · exact fun start outboxId ingestId => exists_attempted config choices hkeyed start

end Fair

/-- A row whose blob may be there, and a validated row with its record. -/
def twoEntries : ClockedWorld where
  ingest := {
    tables := {
      ingestLog := [IngestPool.validatedRow, { IngestPool.validatedRow with
        id := 2
        tileV := 6
        status := .recoveryPending }]
      outbox := [pendingRecord 1 0 "ingest_validated" 0] }
    nextId := 3
    queues := [] }
  clock := 0

theorem keyed_twoEntries : Keyed twoEntries.ingest where
  log := ⟨by decide, by decide⟩
  outbox := ⟨by decide, by decide⟩
  onePending := by decide

/-- With no storage to be reached, the row is examined in the first recovery, and the record
attempted in one of the first three. -/
theorem recovery_fair_twoEntries :
    (∃ r < 1, Examined 2 IngestPool.validatedRow.blobPath
      (historyOfRun sampleConfig (fun _ _ => sampleEnv .failed) twoEntries r)) ∧
      ∃ r < 3, Attempted 1
        (historyOfRun sampleConfig (fun _ _ => sampleEnv .failed) twoEntries r) := by
  obtain ⟨hexamined, hattempted⟩ := recovery_fair sampleConfig (fun _ _ => sampleEnv .failed)
    twoEntries keyed_twoEntries (by decide)
  constructor
  · exact hexamined _ (List.mem_cons_of_mem _ List.mem_cons_self) (.inr (.inr rfl))
  · have hselectable : twoEntries.ingest.tables.Selectable 1 0 :=
      ⟨pendingRecord 1 0 "ingest_validated" 0, List.mem_cons_self, IngestPool.validatedRow,
        List.mem_cons_self, rfl, rfl, rfl, rfl, .inl rfl⟩
    obtain ⟨r, -, hr, hattempted⟩ := hattempted 0 1 0 (.inl hselectable)
    exact ⟨r, hr, hattempted⟩

end LumenHorizon.Ingest
