import LumenHorizon.Ingest.OutboxRecords
import LumenHorizon.Ingest.ReplayBatch

/-! # The life of an ingest row

A row is inserted once and then rewritten in place. What it is about never changes, so a row is
followed through a run by its identity; its status and its error change together.
-/

namespace LumenHorizon.Ingest
open Foundation Shared

/-- The columns that no statement rewrites. -/
structure RowIdentity where
  id : Uuid
  product : String
  granuleTitle : String
  blobPath : String
  tileH : ℤ
  tileV : ℤ
  granuleDate : DateTime
  createdAt : ℕ
deriving DecidableEq, Repr

def IngestRow.identity (row : IngestRow) : RowIdentity where
  id := row.id
  product := row.product
  granuleTitle := row.granuleTitle
  blobPath := row.blobPath
  tileH := row.tileH
  tileV := row.tileV
  granuleDate := row.granuleDate
  createdAt := row.createdAt

/-- The columns of `uq_ingest_log_product_tile_date`. -/
def RowIdentity.granuleKey (identity : RowIdentity) : String × ℤ × ℤ × DateTime :=
  (identity.product, identity.tileH, identity.tileV, identity.granuleDate)

theorem sameGranule_iff {granule : GranuleCandidate} {row : IngestRow} : SameGranule granule row ↔
    row.identity.granuleKey =
      (granule.product, (granule.tile.h : ℤ), (granule.tile.v : ℤ),
        granule.granuleDate.timestamptz) := by
  simp [SameGranule, RowIdentity.granuleKey, IngestRow.identity]

def IngestWorld.identities (w : IngestWorld) : List RowIdentity :=
  w.tables.ingestLog.map IngestRow.identity

def IngestStatus.Unsuccessful (status : IngestStatus) : Prop :=
  status = .failed ∨ status = .rejected

instance (status : IngestStatus) : Decidable status.Unsuccessful :=
  inferInstanceAs (Decidable (_ ∨ _))

def IngestRow.StatusColumns (row : IngestRow) : Prop :=
  row.errorMessage.isSome ↔ row.status.Unsuccessful

/-- The update moves a row forward, to a status that its error goes with. -/
def SetsStage (status : IngestStatus) (errorMessage : Option String) : Prop :=
  status ≠ .downloading ∧ status ≠ .replayPending ∧ (errorMessage.isSome ↔ status.Unsuccessful)

/-- What one call that takes effect makes of a row. -/
inductive RowStep (now : ℕ) : IngestCall → IngestRow → IngestRow → Prop
  | kept (c : IngestCall) (row : IngestRow) : RowStep now c row row
  | moved (row : IngestRow) (status : IngestStatus) (errorMessage : Option String) :
      RowStep now (.setStatus row.id status errorMessage) row
        { row with status := status, errorMessage := errorMessage, updatedAt := now }
  | replayed (row : IngestRow) (rejected : row.status = .rejected) :
      RowStep now (.replayRejectedStatus row.id) row
        { row with status := .replayPending, errorMessage := none, updatedAt := now }

/-- One change of status. None leads back to `downloading`, and only a rejection to a replay. -/
inductive Moves : IngestStatus → IngestStatus → Prop
  | staged (before after : IngestStatus) (fresh : after ≠ .downloading)
      (notReplayed : after ≠ .replayPending) : Moves before after
  | replayed : Moves .rejected .replayPending

section Step

variable {now : ℕ} {c : IngestCall} {row row' : IngestRow}

theorem RowStep.identity (h : RowStep now c row row') : row'.identity = row.identity := by
  cases h <;> rfl

theorem RowStep.statusColumns (h : RowStep now c row row')
    (hsets : ∀ ingestId status errorMessage, c = .setStatus ingestId status errorMessage →
      SetsStage status errorMessage)
    (hrow : row.StatusColumns) : row'.StatusColumns := by
  cases h with
  | kept => exact hrow
  | moved _ status errorMessage => exact (hsets _ _ _ rfl).2.2
  | replayed => simp [IngestRow.StatusColumns, IngestStatus.Unsuccessful]

theorem RowStep.moves (h : RowStep now c row row')
    (hsets : ∀ ingestId status errorMessage, c = .setStatus ingestId status errorMessage →
      SetsStage status errorMessage) :
    Relation.ReflTransGen Moves row.status row'.status := by
  cases h with
  | kept => exact .refl
  | moved _ status errorMessage =>
    obtain ⟨hfresh, hreplay, -⟩ := hsets _ _ _ rfl
    exact .single (.staged row.status status hfresh hreplay)
  | replayed _ hrejected =>
    rw [hrejected]
    exact .single .replayed

theorem RowStep.status_enqueued (h : RowStep now c row row') (hstatus : row'.status = .enqueued) :
    row.status = .enqueued ∨ Marks row.id c := by
  cases h with
  | kept => exact .inl hstatus
  | moved _ status errorMessage =>
    cases hstatus
    exact .inr ⟨errorMessage, rfl⟩
  | replayed => cases hstatus

end Step

/-- The row that `insert_downloading_row` inserts. -/
def downloadingRow (granule : GranuleCandidate) (blobPath : String) (ingestId : Uuid) (now : ℕ) :
    IngestRow where
  id := ingestId
  product := granule.product
  granuleTitle := granule.title
  blobPath := blobPath
  tileH := granule.tile.h
  tileV := granule.tile.v
  granuleDate := granule.granuleDate.timestamptz
  status := .downloading
  errorMessage := none
  createdAt := now
  updatedAt := now

theorem Tables.insertDownloadingRow_cases (t : Tables) (granule : GranuleCandidate)
    (blobPath : String) (ingestId : Uuid) (now : ℕ) :
    ((∃ row ∈ t.ingestLog, SameGranule granule row) ∧
      t.insertDownloadingRow granule blobPath ingestId now = (t, .alreadyExists)) ∨
    ((¬ ∃ row ∈ t.ingestLog, SameGranule granule row) ∧
      t.insertDownloadingRow granule blobPath ingestId now =
        ({ t with ingestLog := t.ingestLog ++ [downloadingRow granule blobPath ingestId now] },
          .created ingestId)) := by
  by_cases hrow : ∃ row ∈ t.ingestLog, SameGranule granule row
  · exact .inl ⟨hrow, if_pos hrow⟩
  · exact .inr ⟨hrow, if_neg hrow⟩

section Effect

variable {w w₀ : IngestWorld} {c : IngestCall} {now : ℕ} {identity : RowIdentity}

theorem exists_update_of_rowStep {where' : IngestRow → Prop} [DecidablePred where']
    {set : IngestRow → IngestRow} {rows : List IngestRow}
    (hset : ∀ row, where' row → RowStep now c row (set row)) :
    ∃ f : IngestRow → IngestRow, Table.update where' set rows = rows.map f ∧
      ∀ row, RowStep now c row (f row) := by
  refine ⟨_, rfl, fun row => ?_⟩
  by_cases hrow : where' row
  · rw [if_pos hrow]
    exact hset row hrow
  · rw [if_neg hrow]
    exact .kept c row

/-- A call rewrites the rows one by one, or inserts the row of a granule that has none. -/
theorem ingestLog_effect (now : ℕ) (w : IngestWorld) (c : IngestCall) :
    (∃ f : IngestRow → IngestRow,
      (effect now w c).tables.ingestLog = w.tables.ingestLog.map f ∧
        ∀ row, RowStep now c row (f row)) ∨
    ∃ granule blobPath, c = .insertDownloadingRow granule blobPath ∧
      (¬ ∃ row ∈ w.tables.ingestLog, SameGranule granule row) ∧
      (effect now w c).tables.ingestLog =
        w.tables.ingestLog ++ [downloadingRow granule blobPath w.nextId now] := by
  have hsame (c : IngestCall) (w' : IngestWorld) (h : w'.tables.ingestLog = w.tables.ingestLog) :
      ∃ f : IngestRow → IngestRow, w'.tables.ingestLog = w.tables.ingestLog.map f ∧
        ∀ row, RowStep now c row (f row) :=
    ⟨id, by rw [h, List.map_id], fun row => .kept c row⟩
  cases c with
  | insertDownloadingRow granule blobPath =>
    rcases w.tables.insertDownloadingRow_cases granule blobPath w.nextId now with
      ⟨-, heq⟩ | ⟨hnew, heq⟩
    · exact .inl (hsame _ _ (by rw [effect, heq]))
    · exact .inr ⟨granule, blobPath, rfl, hnew, by rw [effect, heq]⟩
  | setStatus ingestId status errorMessage =>
    apply Or.inl
    apply exists_update_of_rowStep
    rintro row rfl
    exact .moved row status errorMessage
  | replayRejectedStatus ingestId =>
    apply Or.inl
    apply exists_update_of_rowStep
    rintro row ⟨rfl, hrejected⟩
    exact .replayed row hrejected
  | createPendingEnqueueOutbox ingestId reason =>
    exact .inl (hsame _ _ (Tables.createPendingEnqueueOutbox_ingestLog reason))
  | _ => exact .inl (hsame _ _ rfl)

theorem map_identity_of_rowStep {f : IngestRow → IngestRow} (hf : ∀ row, RowStep now c row (f row))
    (rows : List IngestRow) : (rows.map f).map IngestRow.identity = rows.map IngestRow.identity := by
  rw [List.map_map]
  exact List.map_congr_left fun row _ => (hf row).identity

/-- Rows are followed by their identities, which are only ever added to. -/
theorem identities_prefix_effect (now : ℕ) (w : IngestWorld) (c : IngestCall) :
    w.identities <+: (effect now w c).identities := by
  unfold IngestWorld.identities
  rcases ingestLog_effect now w c with ⟨f, hlog, hf⟩ | ⟨granule, blobPath, -, -, hlog⟩
  · rw [hlog, map_identity_of_rowStep hf]
  · rw [hlog, List.map_append]
    exact List.prefix_append _ _

theorem mem_identities_effect (h : identity ∈ w.identities) (now : ℕ) (c : IngestCall) :
    identity ∈ (effect now w c).identities := (identities_prefix_effect now w c).subset h

theorem mem_identities_iff : identity ∈ w.identities ↔
    ∃ row ∈ w.tables.ingestLog, row.identity = identity := List.mem_map

/-- A row after a call was there before, or is the one the call inserted. -/
theorem mem_ingestLog_effect {row' : IngestRow}
    (h : row' ∈ (effect now w c).tables.ingestLog) :
    (∃ row ∈ w.tables.ingestLog, RowStep now c row row') ∨
      ∃ granule blobPath, c = .insertDownloadingRow granule blobPath ∧
        row' = downloadingRow granule blobPath w.nextId now := by
  rcases ingestLog_effect now w c with ⟨f, hlog, hf⟩ | ⟨granule, blobPath, rfl, -, hlog⟩
  · rw [hlog] at h
    obtain ⟨row, hrow, rfl⟩ := List.mem_map.mp h
    exact .inl ⟨row, hrow, hf row⟩
  · rw [hlog] at h
    rcases List.mem_append.mp h with h | h
    · exact .inl ⟨row', h, .kept _ _⟩
    · exact .inr ⟨granule, blobPath, rfl, List.mem_singleton.mp h⟩

theorem exists_mem_ingestLog_effect {row : IngestRow} (h : row ∈ w.tables.ingestLog) (now : ℕ)
    (c : IngestCall) : ∃ row' ∈ (effect now w c).tables.ingestLog, RowStep now c row row' := by
  rcases ingestLog_effect now w c with ⟨f, hlog, hf⟩ | ⟨granule, blobPath, rfl, -, hlog⟩
  · rw [hlog]
    exact ⟨f row, List.mem_map_of_mem h, hf row⟩
  · rw [hlog]
    exact ⟨row, List.mem_append_left _ h, .kept _ _⟩

/-- A record that an insert leaves in the outbox refers to a row, if those before it did. -/
theorem Tables.hasRow_of_mem_createPendingEnqueueOutbox {t : Tables} {ingestId outboxId : Uuid}
    {reason : String} {record : OutboxRow} (hold : ∀ old ∈ t.outbox, t.HasRow old.ingestId)
    (h : record ∈ (t.createPendingEnqueueOutbox ingestId reason outboxId now).1.outbox) :
    t.HasRow record.ingestId := by
  unfold createPendingEnqueueOutbox at h
  split at h
  · obtain ⟨old, hmem, ⟨-, rfl⟩ | ⟨-, rfl⟩⟩ := Table.mem_update.mp h
    · exact hold old hmem
    · exact hold record hmem
  · split at h
    · next hrow =>
      rcases List.mem_append.mp h with h | h
      · exact hold record h
      · rw [List.mem_singleton.mp h]
        exact List.mem_map.mpr hrow
    · exact hold record h

theorem outbox_hasRow_effect (h : ∀ record ∈ w.tables.outbox, w.tables.HasRow record.ingestId)
    (now : ℕ) (c : IngestCall) : ∀ record ∈ (effect now w c).tables.outbox,
      (effect now w c).tables.HasRow record.ingestId := by
  intro record hrecord
  apply hasRow_effect
  rcases mem_outbox_effect hrecord with ⟨old, hold, hstep⟩ | ⟨ingestId, reason, rfl, -, -⟩
  · rw [hstep.ingestId]
    exact h old hold
  · exact Tables.hasRow_of_mem_createPendingEnqueueOutbox h hrecord

theorem granuleKeys_nodup_effect (h : (w.identities.map RowIdentity.granuleKey).Nodup) (now : ℕ)
    (c : IngestCall) : ((effect now w c).identities.map RowIdentity.granuleKey).Nodup := by
  unfold IngestWorld.identities at h ⊢
  rcases ingestLog_effect now w c with ⟨f, hlog, hf⟩ | ⟨granule, blobPath, -, hnew, hlog⟩
  · rw [hlog, map_identity_of_rowStep hf]
    exact h
  · rw [hlog]
    simp only [List.map_append, List.map_cons, List.map_nil]
    apply List.nodup_append.mpr
    refine ⟨h, List.nodup_singleton _, fun key hkey key' hkey' => ?_⟩
    obtain ⟨_, hidentity, rfl⟩ := List.mem_map.mp hkey
    obtain ⟨row, hrow, rfl⟩ := List.mem_map.mp hidentity
    rw [List.mem_singleton.mp hkey']
    exact fun heq => hnew ⟨row, hrow, sameGranule_iff.mpr heq⟩

end Effect

end LumenHorizon.Ingest
