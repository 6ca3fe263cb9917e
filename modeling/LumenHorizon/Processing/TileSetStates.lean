import LumenHorizon.Foundation.Transition
import LumenHorizon.Processing.TileSets

/-! # The life of a tile set row

A row is inserted once, may become the latest, and may be marked as deleted. Marking asks for a
row that is not the latest; promotion asks for a row only.
-/

namespace LumenHorizon.Processing
open Foundation Shared

namespace TileSetTable

/-- `insert_tile_set` adds its row, or fails and changes nothing. -/
theorem insertTileSet_cases (rows : TileSetTable) (manifest : TileManifest) (now : ℕ) :
    (∃ error, rows.insertTileSet manifest now = (rows, .error error)) ∨
      ∃ path, manifest.manifestBlobPath = .ok path ∧ (∀ row ∈ rows, row.id ≠ manifest.tileSetId) ∧
        rows.insertTileSet manifest now = (rows ++ [insertedRow manifest path now], .ok ()) := by
  unfold insertTileSet
  by_cases hcount : maxInteger < manifest.tileCount
  · exact .inl ⟨_, if_pos hcount⟩
  · rw [if_neg hcount]
    cases hpath : manifest.manifestBlobPath with
    | error error => exact .inl ⟨_, rfl⟩
    | ok path =>
      by_cases hdup : ∃ row ∈ rows, row.id = manifest.tileSetId
      · exact .inl ⟨_, if_pos hdup⟩
      · exact .inr ⟨path, rfl, fun row hrow hid => hdup ⟨row, hrow, hid⟩, if_neg hdup⟩

def promoted (tileSetId : String) (row : TileSetRow) : TileSetRow :=
  { row with latest := decide (row.id = tileSetId) }

/-- `promote_latest_tile_set` sets the flag of every row, or fails and changes nothing. -/
theorem promoteLatestTileSet_cases (rows : TileSetTable) (tileSetId : String) :
    (rows.promoteLatestTileSet tileSetId = (rows, .error (.tileSetNotFound tileSetId)) ∧
      ∀ row ∈ rows, row.id ≠ tileSetId) ∨
    (rows.promoteLatestTileSet tileSetId = (rows.map (promoted tileSetId), .ok ()) ∧
      ∃ row ∈ rows, row.id = tileSetId) := by
  unfold promoteLatestTileSet
  by_cases h : ∃ row ∈ rows, row.id = tileSetId
  · refine .inr ⟨?_, h⟩
    rw [if_pos h]
    congr 1
    rw [Table.update, Table.update, List.map_map]
    apply List.map_congr_left
    rintro ⟨rowId, version, count, path, latest, created, deleted, reason⟩ _
    cases latest <;> by_cases hid : rowId = tileSetId <;> simp [promoted, hid]
  · exact .inl ⟨if_neg h, fun row hrow hid => h ⟨row, hrow, hid⟩⟩

def retentionDeleted (tileSetId reason : String) (now : ℕ) (row : TileSetRow) : TileSetRow :=
  if RetentionDeletable tileSetId row then
    { row with retentionDeletedAt := some now, retentionDeleteReason := some reason }
  else row

/-- `mark_tile_set_retention_deleted` marks its row, or fails and changes nothing. -/
theorem markTileSetRetentionDeleted_cases (rows : TileSetTable) (tileSetId reason : String)
    (now : ℕ) :
    (rows.markTileSetRetentionDeleted tileSetId reason now =
        (rows, .error (.tileSetNotFound tileSetId)) ∧
      ∀ row ∈ rows, ¬ RetentionDeletable tileSetId row) ∨
    (rows.markTileSetRetentionDeleted tileSetId reason now =
        (rows.map (retentionDeleted tileSetId reason now), .ok ()) ∧
      ∃ row ∈ rows, RetentionDeletable tileSetId row) := by
  unfold markTileSetRetentionDeleted
  by_cases h : ∃ row ∈ rows, RetentionDeletable tileSetId row
  · exact .inr ⟨if_pos h, h⟩
  · exact .inl ⟨if_neg h, fun row hrow hdel => h ⟨row, hrow, hdel⟩⟩

@[simp] theorem retentionDeleted_id (tileSetId reason : String) (now : ℕ) (row : TileSetRow) :
    (retentionDeleted tileSetId reason now row).id = row.id := by
  unfold retentionDeleted
  split <;> rfl

@[simp] theorem retentionDeleted_latest (tileSetId reason : String) (now : ℕ) (row : TileSetRow) :
    (retentionDeleted tileSetId reason now row).latest = row.latest := by
  unfold retentionDeleted
  split <;> rfl

theorem retentionDeleted_of_some {tileSetId reason : String} {now t : ℕ} {row : TileSetRow}
    (h : row.retentionDeletedAt = some t) :
    (retentionDeleted tileSetId reason now row).retentionDeletedAt = some t := by
  have hnot : ¬ RetentionDeletable tileSetId row := fun hdel => by
    rw [hdel.2.2] at h
    cases h
  rw [retentionDeleted, if_neg hnot, h]

theorem retentionDeleted_of_latest {tileSetId reason : String} {now : ℕ} {row : TileSetRow}
    (h : row.latest = true) : retentionDeleted tileSetId reason now row = row := by
  have hnot : ¬ RetentionDeletable tileSetId row := fun hdel => by
    rw [hdel.2.1] at h
    cases h
  rw [retentionDeleted, if_neg hnot]

inductive Statement where
  | insertTileSet (manifest : TileManifest) (now : ℕ)
  | promoteLatestTileSet (tileSetId : String)
  | markTileSetRetentionDeleted (tileSetId reason : String) (now : ℕ)

def execute (rows : TileSetTable) : Statement → TileSetTable × Except DbError Unit
  | .insertTileSet manifest now => rows.insertTileSet manifest now
  | .promoteLatestTileSet tileSetId => rows.promoteLatestTileSet tileSetId
  | .markTileSetRetentionDeleted tileSetId reason now =>
    rows.markTileSetRetentionDeleted tileSetId reason now

/-- The table after a statement, whether it succeeds or fails. -/
def step (rows : TileSetTable) (statement : Statement) : Option TileSetTable :=
  some (rows.execute statement).1

theorem execute_of_error {rows : TileSetTable} {statement : Statement} {error : DbError}
    (h : (rows.execute statement).2 = .error error) : (rows.execute statement).1 = rows := by
  cases statement with
  | insertTileSet manifest now =>
    rcases insertTileSet_cases rows manifest now with ⟨_, heq⟩ | ⟨_, -, -, heq⟩
    · rw [execute, heq]
    · rw [execute, heq] at h
      cases h
  | promoteLatestTileSet tileSetId =>
    rcases promoteLatestTileSet_cases rows tileSetId with ⟨heq, -⟩ | ⟨heq, -⟩
    · rw [execute, heq]
    · rw [execute, heq] at h
      cases h
  | markTileSetRetentionDeleted tileSetId reason now =>
    rcases markTileSetRetentionDeleted_cases rows tileSetId reason now with ⟨heq, -⟩ | ⟨heq, -⟩
    · rw [execute, heq]
    · rw [execute, heq] at h
      cases h

/-- A row may follow an earlier one: it has its id, and its time of deletion if that is set. -/
def Later (row row' : TileSetRow) : Prop :=
  row'.id = row.id ∧ ∀ t, row.retentionDeletedAt = some t → row'.retentionDeletedAt = some t

theorem Later.refl (row : TileSetRow) : Later row row := ⟨rfl, fun _ h => h⟩

theorem Later.trans {row row' row'' : TileSetRow} (h : Later row row') (h' : Later row' row'') :
    Later row row'' := ⟨h'.1.trans h.1, fun t ht => h'.2 t (h.2 t ht)⟩

/-- The rows a statement leaves: the old ones in their order, each in its later form, and new ones
of other ids. -/
theorem execute_rows (rows : TileSetTable) (statement : Statement) :
    ∃ change inserted, (rows.execute statement).1 = rows.map change ++ inserted ∧
      (∀ row, Later row (change row)) ∧
      (inserted = [] ∨ ∃ manifest path now, statement = .insertTileSet manifest now ∧
        inserted = [insertedRow manifest path now] ∧ ∀ row ∈ rows, row.id ≠ manifest.tileSetId) := by
  cases statement with
  | insertTileSet manifest now =>
    rcases insertTileSet_cases rows manifest now with ⟨_, heq⟩ | ⟨path, -, hnew, heq⟩
    · exact ⟨id, [], by simp [execute, heq], Later.refl, .inl rfl⟩
    · exact ⟨id, _, by rw [execute, heq, List.map_id], Later.refl,
        .inr ⟨manifest, path, now, rfl, rfl, hnew⟩⟩
  | promoteLatestTileSet tileSetId =>
    rcases promoteLatestTileSet_cases rows tileSetId with ⟨heq, -⟩ | ⟨heq, -⟩
    · exact ⟨id, [], by simp [execute, heq], Later.refl, .inl rfl⟩
    · exact ⟨promoted tileSetId, [], by simp [execute, heq], fun row => ⟨rfl, fun _ h => h⟩, .inl rfl⟩
  | markTileSetRetentionDeleted tileSetId reason now =>
    rcases markTileSetRetentionDeleted_cases rows tileSetId reason now with ⟨heq, -⟩ | ⟨heq, -⟩
    · exact ⟨id, [], by simp [execute, heq], Later.refl, .inl rfl⟩
    · exact ⟨retentionDeleted tileSetId reason now, [], by simp [execute, heq],
        fun row => ⟨retentionDeleted_id .., fun _ h => retentionDeleted_of_some h⟩, .inl rfl⟩

/-- A row after a statement is a later form of a row before it, or the one it inserts. -/
theorem mem_execute {rows : TileSetTable} {statement : Statement} {row' : TileSetRow}
    (h : row' ∈ (rows.execute statement).1) :
    (∃ row ∈ rows, Later row row') ∨ ∃ manifest path now,
      statement = .insertTileSet manifest now ∧ row' = insertedRow manifest path now := by
  obtain ⟨change, inserted, heq, hlater, hinserted⟩ := execute_rows rows statement
  rw [heq] at h
  rcases List.mem_append.mp h with h | h
  · obtain ⟨row, hrow, rfl⟩ := List.mem_map.mp h
    exact .inl ⟨row, hrow, hlater row⟩
  · rcases hinserted with rfl | ⟨manifest, path, now, rfl, rfl, -⟩
    · cases h
    · exact .inr ⟨manifest, path, now, rfl, List.mem_singleton.mp h⟩

/-- The primary key and the partial unique index. -/
structure Keyed (rows : TileSetTable) : Prop where
  distinct : (rows.map TileSetRow.id).Nodup
  oneLatest : ∀ a ∈ rows, ∀ b ∈ rows, a.latest = true → b.latest = true → a = b

theorem Keyed.eq_of_id {rows : TileSetTable} (h : rows.Keyed) {a b : TileSetRow} (ha : a ∈ rows)
    (hb : b ∈ rows) (hid : a.id = b.id) : a = b :=
  List.inj_on_of_nodup_map h.distinct ha hb hid

theorem keyed_nil : Keyed [] := ⟨List.nodup_nil, fun _ h => absurd h List.not_mem_nil⟩

theorem distinct_execute {rows : TileSetTable} (h : (rows.map TileSetRow.id).Nodup)
    (statement : Statement) : ((rows.execute statement).1.map TileSetRow.id).Nodup := by
  obtain ⟨change, inserted, heq, hlater, hinserted⟩ := execute_rows rows statement
  have hids : (rows.map change).map TileSetRow.id = rows.map TileSetRow.id := by
    rw [List.map_map]
    exact List.map_congr_left fun row _ => (hlater row).1
  rw [heq, List.map_append, hids]
  rcases hinserted with rfl | ⟨manifest, path, now, -, rfl, hnew⟩
  · simpa using h
  · refine h.append (List.nodup_singleton _) ?_
    intro id hid hid'
    obtain ⟨row, hrow, rfl⟩ := List.mem_map.mp hid
    exact hnew row hrow (List.mem_singleton.mp hid')

theorem Keyed.execute {rows : TileSetTable} (h : rows.Keyed) (statement : Statement) :
    (rows.execute statement).1.Keyed where
  distinct := distinct_execute h.distinct statement
  oneLatest := by
    cases statement with
    | insertTileSet manifest now =>
      rcases insertTileSet_cases rows manifest now with ⟨_, heq⟩ | ⟨path, -, -, heq⟩
      · rw [TileSetTable.execute, heq]
        exact h.oneLatest
      · rw [TileSetTable.execute, heq]
        -- the inserted row is not the latest
        have hold : ∀ row ∈ rows ++ [insertedRow manifest path now], row.latest = true → row ∈ rows := by
          intro row hrow hlatest
          rcases List.mem_append.mp hrow with hrow | hrow
          · exact hrow
          · rw [List.mem_singleton.mp hrow] at hlatest
            cases hlatest
        intro a ha b hb hla hlb
        exact h.oneLatest a (hold a ha hla) b (hold b hb hlb) hla hlb
    | promoteLatestTileSet tileSetId =>
      rcases promoteLatestTileSet_cases rows tileSetId with ⟨heq, -⟩ | ⟨heq, -⟩
      · rw [TileSetTable.execute, heq]
        exact h.oneLatest
      · rw [TileSetTable.execute, heq]
        intro a ha b hb hla hlb
        obtain ⟨a', ha', rfl⟩ := List.mem_map.mp ha
        obtain ⟨b', hb', rfl⟩ := List.mem_map.mp hb
        have hida : a'.id = tileSetId := of_decide_eq_true hla
        have hidb : b'.id = tileSetId := of_decide_eq_true hlb
        rw [h.eq_of_id ha' hb' (hida.trans hidb.symm)]
    | markTileSetRetentionDeleted tileSetId reason now =>
      rcases markTileSetRetentionDeleted_cases rows tileSetId reason now with ⟨heq, -⟩ | ⟨heq, -⟩
      · rw [TileSetTable.execute, heq]
        exact h.oneLatest
      · rw [TileSetTable.execute, heq]
        intro a ha b hb hla hlb
        obtain ⟨a', ha', rfl⟩ := List.mem_map.mp ha
        obtain ⟨b', hb', rfl⟩ := List.mem_map.mp hb
        rw [retentionDeleted_latest] at hla hlb
        rw [h.oneLatest a' ha' b' hb' hla hlb]

def LatestRetained (rows : TileSetTable) : Prop :=
  ∀ row ∈ rows, row.latest = true → row.retentionDeletedAt = none

/-- A promotion is of a row that is not marked as deleted. -/
def PromotesRetained (rows : TileSetTable) (statement : Statement) : Prop :=
  ∀ tileSetId, statement = .promoteLatestTileSet tileSetId →
    ∀ row ∈ rows, row.id = tileSetId → row.retentionDeletedAt = none

theorem LatestRetained.execute {rows : TileSetTable} (h : rows.LatestRetained)
    {statement : Statement} (hpromotes : PromotesRetained rows statement) :
    (rows.execute statement).1.LatestRetained := by
  cases statement with
  | insertTileSet manifest now =>
    rcases insertTileSet_cases rows manifest now with ⟨_, heq⟩ | ⟨path, -, -, heq⟩
    · rw [TileSetTable.execute, heq]
      exact h
    · rw [TileSetTable.execute, heq]
      intro row hrow hlatest
      rcases List.mem_append.mp hrow with hrow | hrow
      · exact h row hrow hlatest
      · rw [List.mem_singleton.mp hrow]
        rfl
  | promoteLatestTileSet tileSetId =>
    rcases promoteLatestTileSet_cases rows tileSetId with ⟨heq, -⟩ | ⟨heq, -⟩
    · rw [TileSetTable.execute, heq]
      exact h
    · rw [TileSetTable.execute, heq]
      intro row hrow hlatest
      obtain ⟨old, hold, rfl⟩ := List.mem_map.mp hrow
      exact hpromotes tileSetId rfl old hold (of_decide_eq_true hlatest)
  | markTileSetRetentionDeleted tileSetId reason now =>
    rcases markTileSetRetentionDeleted_cases rows tileSetId reason now with ⟨heq, -⟩ | ⟨heq, -⟩
    · rw [TileSetTable.execute, heq]
      exact h
    · rw [TileSetTable.execute, heq]
      intro row hrow hlatest
      obtain ⟨old, hold, rfl⟩ := List.mem_map.mp hrow
      rw [retentionDeleted_latest] at hlatest
      rw [retentionDeleted_of_latest hlatest]
      exact h old hold hlatest

/-- Every row of the first table is in the second, in a later form. -/
def Extends (rows rows' : TileSetTable) : Prop := ∀ row ∈ rows, ∃ row' ∈ rows', Later row row'

theorem extends_execute (rows : TileSetTable) (statement : Statement) :
    rows.Extends (rows.execute statement).1 := by
  obtain ⟨change, inserted, heq, hlater, -⟩ := execute_rows rows statement
  rw [heq]
  intro row hrow
  exact ⟨change row, List.mem_append_left _ (List.mem_map_of_mem hrow), hlater row⟩

theorem extends_of_reaches {guard : TileSetTable → Statement → Prop} {rows rows' : TileSetTable}
    (h : Reaches step guard rows rows') : rows.Extends rows' := by
  apply h.invariant (fun row hrow => ⟨row, hrow, Later.refl row⟩)
  intro before statement after hextends _ hstep row hrow
  obtain rfl := Option.some.inj hstep
  obtain ⟨mid, hmid, hlater⟩ := hextends row hrow
  obtain ⟨row', hrow', hlater'⟩ := extends_execute before statement mid hmid
  exact ⟨row', hrow', hlater.trans hlater'⟩

/-- What holds of the table after every sequence of statements: the keys, that the latest row is
not deleted, that times of deletion stay, and that a failed statement changes nothing. -/
structure Sound (rows : TileSetTable) : Prop where
  keyed : rows.Keyed
  latestRetained : rows.LatestRetained
  deletedStays : ∀ rows', Reaches step (fun _ _ => True) rows rows' → ∀ row ∈ rows, ∀ t,
    row.retentionDeletedAt = some t → ∃ row' ∈ rows', row'.id = row.id ∧
      row'.retentionDeletedAt = some t
  failedUnchanged : ∀ statement error, (rows.execute statement).2 = .error error →
    (rows.execute statement).1 = rows

/-- A sequence of statements that promotes only rows that are not deleted keeps the table sound,
from the empty table on. -/
theorem sound_of_promotesRetained (rows : TileSetTable) (hrun : Reaches step PromotesRetained [] rows) :
    rows.Sound := by
  have hinvariant : rows.Keyed ∧ rows.LatestRetained := by
    apply hrun.invariant ⟨keyed_nil, fun _ h => absurd h List.not_mem_nil⟩
    rintro before statement after ⟨hkeyed, hretained⟩ hpromotes hstep
    obtain rfl := Option.some.inj hstep
    exact ⟨hkeyed.execute statement, hretained.execute hpromotes⟩
  refine ⟨hinvariant.1, hinvariant.2, ?_, fun _ _ h => execute_of_error h⟩
  intro rows' hlater row hrow t ht
  obtain ⟨row', hrow', hid, hdeleted⟩ := extends_of_reaches hlater row hrow
  exact ⟨row', hrow', hid, hdeleted t ht⟩

def sampleManifest (tileSetId : String) : TileManifest where
  tileSetId := tileSetId
  classificationVersion := "v1"
  tileCount := 1
  sourceGranules := []
  manifestSha256 := ""

/-- A row is inserted, marked as deleted while it is not the latest, and promoted after all. -/
def promotedDeleted : List Statement :=
  [.insertTileSet (sampleManifest "a") 0, .markTileSetRetentionDeleted "a" "stale" 1,
    .promoteLatestTileSet "a"]

theorem not_sound_of_promoted_deleted :
    ¬ ∀ rows, Reaches step (fun _ _ => True) [] rows → rows.Sound := by
  intro h
  have hrun : Reaches step (fun _ _ => True) [] ((runSteps step [] promotedDeleted).getD []) :=
    reaches_of_runSteps promotedDeleted (fun _ _ _ => trivial) rfl
  have hdeleted := (h _ hrun).latestRetained _ (List.mem_singleton.mpr rfl) rfl
  cases hdeleted

/-- Two rows are promoted in turn, and the first is marked as deleted. -/
def promotedInTurn : List Statement :=
  [.insertTileSet (sampleManifest "a") 0, .promoteLatestTileSet "a",
    .insertTileSet (sampleManifest "b") 1, .promoteLatestTileSet "b",
    .markTileSetRetentionDeleted "a" "stale" 2]

theorem sound_of_promotesRetained_inTurn : Sound ((runSteps step [] promotedInTurn).getD []) := by
  apply sound_of_promotesRetained
  apply reaches_of_guardedSteps promotedInTurn
  refine .cons nofun rfl (.cons ?_ rfl (.cons nofun rfl (.cons ?_ rfl (.cons nofun rfl rfl))))
  · rintro _ - row hrow -
    rw [List.mem_singleton.mp hrow]
    rfl
  · rintro _ - row hrow -
    rcases List.mem_cons.mp hrow with rfl | hrow
    · rfl
    · rw [List.mem_singleton.mp hrow]
      rfl

end TileSetTable
end LumenHorizon.Processing
