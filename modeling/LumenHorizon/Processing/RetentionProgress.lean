import LumenHorizon.Foundation.Batches
import LumenHorizon.Processing.TileSetCleanup
import LumenHorizon.Processing.TileSetRetention

/-! # How far repeated cleanups come

A run takes the oldest of the selected tile sets, as many as its batch holds. A tile set over the
blob limit is skipped and keeps its place in the line, and a candidate that fails its check ends the
run. So what is behind them is reached in no run if they fill the batch, and in some run otherwise.
-/

namespace LumenHorizon.Processing
open Foundation Shared ProcessingProgram Program

namespace TileSetTable

/-! ## Ranks while rows are marked -/

variable {rows : TileSetTable} {tileSetId reason : String} {now n : ℕ} {row : TileSetRow}

def candidate (row : TileSetRow) : TileSetRetentionCandidate where
  tileSetId := row.id
  classificationVersion := row.classificationVersion
  manifestBlobPath := row.manifestBlobPath
  createdAt := row.createdAt
  tileCount := row.tileCount

theorem retentionKey_le_iff {a b : TileSetRow} : retentionKey a ≤ retentionKey b ↔
    a.createdAt < b.createdAt ∨ (a.createdAt = b.createdAt ∧ a.id ≤ b.id) :=
  Prod.Lex.toLex_le_toLex

theorem selectTileSetRetentionCandidates_eq (rows : TileSetTable) (days priors limit now : ℕ) :
    rows.selectTileSetRetentionCandidates days priors limit now =
      (Table.select (RetentionSelectable rows days priors now)
        (fun a b => retentionKey a ≤ retentionKey b) limit rows).map candidate := by
  rw [selectTileSetRetentionCandidates, Table.select_congr fun _ _ => retentionKey_le_iff.symm]
  rfl

theorem markTileSetRetentionDeleted_rows (rows : TileSetTable) (tileSetId reason : String) (now : ℕ) :
    (rows.markTileSetRetentionDeleted tileSetId reason now).1 =
      rows.map (retentionDeleted tileSetId reason now) := by
  rcases markTileSetRetentionDeleted_cases rows tileSetId reason now with ⟨heq, hnone⟩ | ⟨heq, -⟩
  · rw [heq]
    symm
    apply (List.map_congr_left fun row hrow => if_neg (hnone row hrow)).trans
    exact List.map_id rows
  · rw [heq]

theorem Keyed.map_retentionDeleted (h : rows.Keyed) (tileSetId reason : String) (now : ℕ) :
    Keyed (rows.map (retentionDeleted tileSetId reason now)) := by
  rw [← markTileSetRetentionDeleted_rows]
  exact h.execute (.markTileSetRetentionDeleted tileSetId reason now)

@[simp] theorem retentionKey_retentionDeleted (row : TileSetRow) :
    retentionKey (retentionDeleted tileSetId reason now row) = retentionKey row := by
  unfold retentionDeleted
  split <;> rfl

theorem undeleted_retentionDeleted {version : String} :
    Undeleted version (retentionDeleted tileSetId reason now row) ↔
      Undeleted version row ∧ ¬ RetentionDeletable tileSetId row := by
  unfold retentionDeleted Undeleted
  split
  · next h => simp [h]
  · next h => simp [h]

theorem retentionRank_map (rows : TileSetTable) (row : TileSetRow) :
    retentionRank (rows.map (retentionDeleted tileSetId reason now)) row =
      Table.above retentionKey (fun other => Undeleted row.classificationVersion other ∧
        ¬ RetentionDeletable tileSetId other) rows row + 1 := by
  rw [retentionRank_eq, Table.above, Table.above, List.countP_map]
  congr 1
  apply List.countP_congr
  intro other _
  simp [undeleted_retentionDeleted]

theorem retentionRank_map_le (rows : TileSetTable) (row : TileSetRow) :
    retentionRank (rows.map (retentionDeleted tileSetId reason now)) row ≤ retentionRank rows row := by
  rw [retentionRank_map, retentionRank_eq]
  apply Nat.succ_le_succ
  apply List.countP_mono_left
  intro other _ habove
  obtain ⟨⟨hundeleted, -⟩, hlt⟩ := of_decide_eq_true habove
  exact decide_eq_true ⟨hundeleted, hlt⟩

/-- A row that is protected by no rank takes no other row under the protection when it goes. -/
theorem lt_retentionRank_map (hkeyed : rows.Keyed) {marked : TileSetRow} (hmarked : marked ∈ rows)
    (hdeletable : RetentionDeletable tileSetId marked) (hrank : n < retentionRank rows marked)
    (h : n < retentionRank rows row) :
    n < retentionRank (rows.map (retentionDeleted tileSetId reason now)) row := by
  rw [retentionRank_eq] at h hrank
  rw [retentionRank_map]
  apply Nat.lt_succ_of_le
  have hq : ∀ other ∈ rows, Undeleted row.classificationVersion other → other ≠ marked →
      Undeleted row.classificationVersion other ∧ ¬ RetentionDeletable tileSetId other := by
    intro other hother hundeleted hne
    refine ⟨hundeleted, fun h => hne (hkeyed.eq_of_id hother hmarked ?_)⟩
    rw [h.1, hdeletable.1]
  apply Table.le_above_of_removed hq
  · intro hundeleted
    rw [hundeleted.2] at hrank
    exact Nat.le_of_lt_succ hrank
  · exact Nat.le_of_lt_succ h

end TileSetTable

/-! ## The turn of a candidate -/

/-- The tile set is marked as deleted, and no blob of it is left. -/
def ProcessingWorld.RetentionDeleted (w : ProcessingWorld) (tileSetId : String) : Prop :=
  w.Gone tileSetId ∧ ∃ row ∈ w.tileSets, row.id = tileSetId ∧ row.retentionDeletedAt ≠ none

/-- A candidate that passes the check has its turn, and nothing fails. -/
inductive CandidateTurn (config : ProcessingConfig) (candidate : TileSetRetentionCandidate)
    (w w' : ProcessingWorld) : Prop
  | deleted (hfew : ¬ TooMany config candidate.tileSetId w)
      (hcleaning : Cleaning candidate.tileSetId w w') (hcleaned : Cleaned candidate.tileSetId w w')
  | skipped (hmany : TooMany config candidate.tileSetId w) (huntouched : Untouched w w')

/-- Nothing that the cleanup of tile sets looks at has changed. -/
structure TilesUnchanged (before w : ProcessingWorld) : Prop where
  blobs : w.processedBlobs = before.processedBlobs
  rows : w.tileSets = before.tileSets

section Program

variable {allowed : Env → Prop} {config : ProcessingConfig} {runId : Uuid} {w : ProcessingWorld}

theorem recordEvent_unchanged (hno : NoFailure allowed) {before : ProcessingWorld}
    (h : TilesUnchanged before w) (event : RetentionEvent) :
    (recordEvent event).Alone answer allowed (TilesUnchanged before)
      (fun _ outcome => outcome = .ok ()) w := by
  refine ⟨h, fun e he => ?_⟩
  rw [answer_of_ok (hno e he)]
  exact ⟨⟨h.blobs, h.rows⟩, rfl⟩

theorem removeRawBlob_unchanged (hno : NoFailure allowed) (cleanup : Cleanup)
    (candidate : RawBlobRetentionCandidate) {before : ProcessingWorld}
    (h : TilesUnchanged before w) :
    (removeRawBlob config cleanup candidate).Alone answer allowed (TilesUnchanged before)
      (fun _ outcome => outcome = .ok ()) w := by
  refine ⟨h, fun e he => ?_⟩
  rw [answer_of_ok (hno e he)]
  have hafter : TilesUnchanged before (confirm (effect e w (.deleteRawBlob candidate.blobPath))
      (.deleteRawBlob candidate.blobPath)) := ⟨h.blobs, h.rows⟩
  exact recordEvent_unchanged hno hafter _

theorem cleanRawBlobs_unchanged (hno : NoFailure allowed) (cleanup : Cleanup)
    (candidates : List RawBlobRetentionCandidate) {before w : ProcessingWorld}
    (h : TilesUnchanged before w) :
    (cleanRawBlobs config cleanup candidates).Alone answer allowed (TilesUnchanged before)
      (fun _ outcome => outcome = .ok ()) w := by
  induction candidates generalizing w with
  | nil => exact ⟨h, rfl⟩
  | cons candidate candidates ih =>
    refine Alone.bind (recordEvent_unchanged hno h _) ?_
    rintro w₁ outcome h₁ rfl
    have hremove : (if cleanup.execute then removeRawBlob config cleanup candidate
        else pure (.ok ())).Alone answer allowed (TilesUnchanged before)
          (fun _ outcome => outcome = .ok ()) w₁ := by
      split
      · exact removeRawBlob_unchanged hno cleanup candidate h₁
      · exact ⟨h₁, rfl⟩
    refine Alone.bind hremove ?_
    rintro w₂ outcome h₂ rfl
    exact ih h₂

/-- The candidates that a run comes to: those before the first that fails the check. -/
def beforeUnchecked (candidates : List TileSetRetentionCandidate) :
    List TileSetRetentionCandidate :=
  candidates.takeWhile fun candidate => validateManifestPath candidate = .ok ()

theorem executeTileSetCleanup_turn (hno : NoFailure allowed)
    {candidate : TileSetRetentionCandidate} (hvalid : validateManifestPath candidate = .ok ())
    {w₁ : ProcessingWorld} (hcleaning : Cleaning candidate.tileSetId w w₁)
    (hunchanged : TilesUnchanged w w₁)
    (hdeletable : ∃ row ∈ w.tileSets, TileSetTable.RetentionDeletable candidate.tileSetId row) :
    (executeTileSetCleanup config ⟨runId, true⟩ candidate).Alone answer allowed (fun _ => True)
      (fun w' outcome => CandidateTurn config candidate w w' ∧ ∃ done, outcome = .ok done) w₁ := by
  by_cases hmany : TooMany config candidate.tileSetId w
  · have huntouched : Untouched w w₁ := ⟨hunchanged.blobs, hunchanged.rows, hcleaning.raw⟩
    have hid := (manifestBlobPath_eq_ok_iff.mp (validateManifestPath_eq_ok_iff.mp hvalid).2).1
    refine (executeTileSetCleanup_untouched hmany huntouched).atEnd.mono ?_
    rintro w' outcome - ⟨h', hskipped⟩
    exact ⟨.skipped hmany h', _, hskipped hno hid⟩
  · refine (executeTileSetCleanup_alone hvalid hcleaning hmany).atEnd.mono ?_
    rintro w' outcome - ⟨h', hends⟩
    obtain ⟨hcleaned, hdeleted⟩ := hends hno
    exact ⟨.deleted hmany h' hcleaned, _, hdeleted (hunchanged.rows ▸ hdeletable)⟩

theorem CandidateTurn.mem_tileSets {candidate : TileSetRetentionCandidate} {w' : ProcessingWorld}
    (h : CandidateTurn config candidate w w') {row : TileSetRow} (hrow : row ∈ w.tileSets)
    (hne : candidate.tileSetId ≠ row.id) : row ∈ w'.tileSets := by
  cases h with
  | deleted _ _ hcleaned =>
    obtain ⟨now, hrows⟩ := hcleaned.rows
    rw [hrows, ProcessingWorld.marked, TileSetTable.markTileSetRetentionDeleted_rows]
    exact List.mem_map.mpr ⟨row, hrow, if_neg fun hdeletable => hne hdeletable.1.symm⟩
  | skipped _ huntouched =>
    rw [huntouched.rows]
    exact hrow

/-- A row that can be marked stays so in the turn of another candidate. -/
theorem CandidateTurn.deletable {candidate : TileSetRetentionCandidate} {w' : ProcessingWorld}
    (h : CandidateTurn config candidate w w') {tileSetId : String}
    (hne : candidate.tileSetId ≠ tileSetId)
    (hrow : ∃ row ∈ w.tileSets, TileSetTable.RetentionDeletable tileSetId row) :
    ∃ row ∈ w'.tileSets, TileSetTable.RetentionDeletable tileSetId row := by
  obtain ⟨row, hmem, hdeletable⟩ := hrow
  exact ⟨row, h.mem_tileSets hmem (hdeletable.1 ▸ hne), hdeletable⟩

/-- A run gives each candidate before the first unchecked one its turn. -/
theorem cleanTileSets_alone (hno : NoFailure allowed) (candidates : List TileSetRetentionCandidate)
    {w : ProcessingWorld}
    (hdeletable : ∀ candidate ∈ candidates,
      ∃ row ∈ w.tileSets, TileSetTable.RetentionDeletable candidate.tileSetId row)
    (hapart : candidates.Pairwise fun a b => a.tileSetId ≠ b.tileSetId) :
    (cleanTileSets config ⟨runId, true⟩ candidates).Alone answer allowed (fun _ => True)
      (fun w' _ => Turns (CandidateTurn config) (beforeUnchecked candidates) w w') w := by
  induction candidates generalizing w with
  | nil => exact ⟨trivial, .done w⟩
  | cons candidate candidates ih =>
    obtain ⟨hhead, htail⟩ := List.pairwise_cons.mp hapart
    unfold cleanTileSets beforeUnchecked
    cases hvalid : validateManifestPath candidate with
    | error error =>
      rw [List.takeWhile_cons_of_neg (by simp [hvalid])]
      exact ⟨trivial, .done w⟩
    | ok _ =>
      rw [List.takeWhile_cons_of_pos (by simp [hvalid])]
      have hrow := hdeletable candidate List.mem_cons_self
      have hrecord (event : RetentionEvent) : (recordEvent event).Alone answer allowed (Untouched w)
          (fun _ outcome => NoFailure allowed → outcome = .ok ()) w := by
        rw [← answerAt_id]
        exact recordEvent_untouched ⟨rfl, rfl, rfl⟩ event
      refine Alone.bind (hrecord _).atEnd ?_
      rintro w₁ outcome - ⟨huntouched, hok⟩
      obtain rfl := hok hno
      refine Alone.bind (executeTileSetCleanup_turn hno hvalid huntouched.cleaning
        ⟨huntouched.blobs, huntouched.rows⟩ hrow) ?_
      rintro w₂ outcome - ⟨hturn, done, rfl⟩
      refine (ih (fun other hother => ?_) htail).mono fun w' _ _ hrest => .next hturn hrest
      exact hturn.deletable (hhead other hother) (hdeletable other (List.mem_cons_of_mem _ hother))

end Program

/-! ## What turns leave of a world -/

/-- Rows may have been marked and their blobs be gone; a row that is not marked is selected as
before and has as many blobs, up to the limit. -/
structure Thinned (config : ProcessingConfig) (before w : ProcessingWorld) : Prop where
  keyed : w.tileSets.Keyed
  kept : ∀ row ∈ w.tileSets, row.retentionDeletedAt = none → row ∈ before.tileSets
  rank_le : ∀ row, w.tileSets.retentionRank row ≤ before.tileSets.retentionRank row
  lt_rank : ∀ row,
    config.retentionProtectedPriorTileSets + 1 < before.tileSets.retentionRank row →
      config.retentionProtectedPriorTileSets + 1 < w.tileSets.retentionRank row
  tooMany_iff : ∀ row ∈ w.tileSets, row.retentionDeletedAt = none → ValidTileSetId row.id →
    (TooMany config row.id w ↔ TooMany config row.id before)

/-- The row of a candidate can be marked, and no rank protects it. -/
def Ready (config : ProcessingConfig) (w : ProcessingWorld)
    (candidate : TileSetRetentionCandidate) : Prop :=
  ∃ row ∈ w.tileSets, TileSetTable.RetentionDeletable candidate.tileSetId row ∧
    config.retentionProtectedPriorTileSets + 1 < w.tileSets.retentionRank row

section Turn

variable {config : ProcessingConfig} {candidate other : TileSetRetentionCandidate}
  {before w w' : ProcessingWorld}

theorem Thinned.refl (hkeyed : w.tileSets.Keyed) : Thinned config w w where
  keyed := hkeyed
  kept := fun _ h _ => h
  rank_le := fun _ => le_rfl
  lt_rank := fun _ h => h
  tooMany_iff := fun _ _ _ _ => Iff.rfl

theorem Thinned.of_unchanged (h : Thinned config before w) (hw : TilesUnchanged w w') :
    Thinned config before w' := by
  obtain ⟨hblobs, hrows⟩ := hw
  refine ⟨?_, ?_, ?_, ?_, ?_⟩
  · rw [hrows]
    exact h.keyed
  · rw [hrows]
    exact h.kept
  · rw [hrows]
    exact h.rank_le
  · rw [hrows]
    exact h.lt_rank
  · rw [hrows]
    unfold TooMany
    rw [hblobs]
    exact h.tooMany_iff

/-- The turn of a candidate leaves the blobs of other tile sets. -/
theorem CandidateTurn.tooMany_iff (h : CandidateTurn config candidate w w')
    (hvalid : validateManifestPath candidate = .ok ()) {tileSetId : String}
    (hid : ValidTileSetId tileSetId) (hne : candidate.tileSetId ≠ tileSetId) :
    TooMany config tileSetId w' ↔ TooMany config tileSetId w := by
  have hpaths : w'.processedBlobs.pathsWithPrefix ("tiles/" ++ tileSetId ++ "/") =
      w.processedBlobs.pathsWithPrefix ("tiles/" ++ tileSetId ++ "/") := by
    cases h with
    | deleted _ hcleaning _ =>
      have hown := (manifestBlobPath_eq_ok_iff.mp (validateManifestPath_eq_ok_iff.mp hvalid).2).1
      obtain ⟨gone, hgone, hblobs⟩ := hcleaning.blobs
      rw [hblobs, BlobStore.pathsWithPrefix, BlobStore.pathsWithPrefix, List.filter_map,
        List.filter_map, List.filter_filter]
      congr 1
      apply List.filter_congr
      intro entry _
      by_cases hstarts : startsWith entry.1 ("tiles/" ++ tileSetId ++ "/") = true
      · have hstays : entry.1 ∉ gone :=
          fun hmem => hne ((hgone _ hmem).eq hown hid (.inl hstarts))
        simp [hstarts, hstays]
      · simp [hstarts]
    | skipped _ huntouched => rw [huntouched.blobs]
  unfold TooMany
  rw [hpaths]

theorem CandidateTurn.rows (h : CandidateTurn config candidate w w') : w'.tileSets = w.tileSets ∨
    ∃ now, w'.tileSets =
      w.tileSets.map (TileSetTable.retentionDeleted candidate.tileSetId tileSetReason now) := by
  cases h with
  | deleted _ _ hcleaned =>
    obtain ⟨now, hrows⟩ := hcleaned.rows
    exact .inr ⟨now, hrows.trans (TileSetTable.markTileSetRetentionDeleted_rows ..)⟩
  | skipped _ huntouched => exact .inl huntouched.rows

theorem CandidateTurn.keyed (h : CandidateTurn config candidate w w') (hkeyed : w.tileSets.Keyed) :
    w'.tileSets.Keyed := by
  rcases h.rows with hrows | ⟨now, hrows⟩
  · rw [hrows]
    exact hkeyed
  · rw [hrows]
    exact hkeyed.map_retentionDeleted _ _ _

theorem CandidateTurn.rank_le (h : CandidateTurn config candidate w w') (row : TileSetRow) :
    w'.tileSets.retentionRank row ≤ w.tileSets.retentionRank row := by
  rcases h.rows with hrows | ⟨now, hrows⟩
  · rw [hrows]
  · rw [hrows]
    exact TileSetTable.retentionRank_map_le _ _

theorem CandidateTurn.lt_rank (h : CandidateTurn config candidate w w') (hkeyed : w.tileSets.Keyed)
    (hready : Ready config w candidate) (row : TileSetRow)
    (hrank : config.retentionProtectedPriorTileSets + 1 < w.tileSets.retentionRank row) :
    config.retentionProtectedPriorTileSets + 1 < w'.tileSets.retentionRank row := by
  rcases h.rows with hrows | ⟨now, hrows⟩
  · rw [hrows]
    exact hrank
  · obtain ⟨marked, hmarked, hdeletable, hunprotected⟩ := hready
    rw [hrows]
    exact TileSetTable.lt_retentionRank_map hkeyed hmarked hdeletable hunprotected hrank

theorem CandidateTurn.ready (h : CandidateTurn config candidate w w') (hkeyed : w.tileSets.Keyed)
    (hready : Ready config w candidate) (hne : candidate.tileSetId ≠ other.tileSetId)
    (hother : Ready config w other) : Ready config w' other := by
  obtain ⟨row, hrow, hdeletable, hrank⟩ := hother
  exact ⟨row, h.mem_tileSets hrow (hdeletable.1 ▸ hne), hdeletable, h.lt_rank hkeyed hready row hrank⟩

/-- A row that is not marked after the turn was there before. -/
theorem CandidateTurn.of_mem (h : CandidateTurn config candidate w w') {row : TileSetRow}
    (hrow : row ∈ w'.tileSets) (hundeleted : row.retentionDeletedAt = none) : row ∈ w.tileSets := by
  rcases h.rows with hrows | ⟨now, hrows⟩
  · rw [hrows] at hrow
    exact hrow
  · rw [hrows] at hrow
    obtain ⟨old, hold, rfl⟩ := List.mem_map.mp hrow
    unfold TileSetTable.retentionDeleted at hundeleted ⊢
    split
    · next hdeletable =>
      rw [if_pos hdeletable] at hundeleted
      cases hundeleted
    · exact hold

theorem CandidateTurn.retentionDeleted (h : CandidateTurn config candidate w w')
    (hready : Ready config w candidate) (hfew : ¬ TooMany config candidate.tileSetId w) :
    w'.RetentionDeleted candidate.tileSetId := by
  cases h with
  | deleted _ _ hcleaned =>
    obtain ⟨now, hrows⟩ := hcleaned.rows
    obtain ⟨row, hrow, hdeletable, -⟩ := hready
    refine ⟨hcleaned.gone,
      TileSetTable.retentionDeleted candidate.tileSetId tileSetReason now row, ?_, ?_, ?_⟩
    · rw [hrows, ProcessingWorld.marked, TileSetTable.markTileSetRetentionDeleted_rows]
      exact List.mem_map_of_mem hrow
    · rw [TileSetTable.retentionDeleted_id]
      exact hdeletable.1
    · rw [TileSetTable.retentionDeleted, if_pos hdeletable]
      exact Option.some_ne_none _
  | skipped hmany _ => exact absurd hmany hfew

theorem CandidateTurn.thinned (h : CandidateTurn config candidate w w')
    (hvalid : validateManifestPath candidate = .ok ()) (hready : Ready config w candidate)
    (hw : Thinned config before w) : Thinned config before w' where
  keyed := h.keyed hw.keyed
  kept := fun row hrow hundeleted => hw.kept row (h.of_mem hrow hundeleted) hundeleted
  rank_le := fun row => (h.rank_le row).trans (hw.rank_le row)
  lt_rank := fun row hrank => h.lt_rank hw.keyed hready row (hw.lt_rank row hrank)
  tooMany_iff := by
    intro row hrow hundeleted hid
    have hbefore := hw.tooMany_iff row (h.of_mem hrow hundeleted) hundeleted hid
    by_cases hne : candidate.tileSetId = row.id
    · by_cases hmany : TooMany config candidate.tileSetId w
      · have hblobs : w'.processedBlobs = w.processedBlobs := by
          cases h with
          | deleted hfew _ _ => exact absurd hmany hfew
          | skipped _ huntouched => exact huntouched.blobs
        unfold TooMany at hbefore ⊢
        rw [hblobs]
        exact hbefore
      · obtain ⟨-, marked, hmarked, hmarkedId, hdeleted⟩ := h.retentionDeleted hready hmany
        have heq := (h.keyed hw.keyed).eq_of_id hmarked hrow (hmarkedId.trans hne)
        exact absurd (heq ▸ hundeleted) hdeleted
    · exact (h.tooMany_iff hvalid hid hne).trans hbefore

theorem CandidateTurn.fewer (h : CandidateTurn config candidate w w') : Fewer w w' := by
  rintro path ⟨blob, hblob⟩
  cases h with
  | deleted _ hcleaning _ =>
    obtain ⟨gone, -, hblobs⟩ := hcleaning.blobs
    rw [hblobs] at hblob
    exact ⟨blob, (List.mem_filter.mp hblob).1⟩
  | skipped _ huntouched =>
    rw [huntouched.blobs] at hblob
    exact ⟨blob, hblob⟩

theorem CandidateTurn.keeps (h : CandidateTurn config candidate w w') {tileSetId : String}
    (hdeleted : w.RetentionDeleted tileSetId) : w'.RetentionDeleted tileSetId := by
  obtain ⟨hgone, row, hrow, hid, hmarked⟩ := hdeleted
  refine ⟨fun path hpath hexists => hgone path hpath (h.fewer path hexists), row, ?_, hid, hmarked⟩
  rcases h.rows with hrows | ⟨now, hrows⟩
  · rw [hrows]
    exact hrow
  · rw [hrows]
    exact List.mem_map.mpr ⟨row, hrow, if_neg fun hdeletable => hmarked hdeletable.2.2⟩

end Turn

/-! ## The turns of a run -/

abbrev Selectable (config : ProcessingConfig) (rows : TileSetTable) (now : ℕ) (row : TileSetRow) :
    Prop :=
  TileSetTable.RetentionSelectable rows config.processedTileSetRetentionDays
    config.retentionProtectedPriorTileSets now row

def comesTo (config : ProcessingConfig) (rows : TileSetTable) (now : ℕ) :
    List TileSetRetentionCandidate :=
  beforeUnchecked (rows.selectTileSetRetentionCandidates config.processedTileSetRetentionDays
    config.retentionProtectedPriorTileSets config.retentionBatchLimit now)

structure TurnsLeft (config : ProcessingConfig) (before : ProcessingWorld)
    (candidates : List TileSetRetentionCandidate) (w : ProcessingWorld) : Prop where
  thinned : Thinned config before w
  checked : ∀ candidate ∈ candidates, validateManifestPath candidate = .ok ()
  ready : ∀ candidate ∈ candidates, Ready config w candidate
  apart : candidates.Pairwise fun a b => a.tileSetId ≠ b.tileSetId

section Turns

variable {config : ProcessingConfig} {candidate : TileSetRetentionCandidate}
  {candidates : List TileSetRetentionCandidate} {before w w' : ProcessingWorld} {row : TileSetRow}
  {now : ℕ}

theorem CandidateTurn.turnsLeft (h : CandidateTurn config candidate w w')
    (hleft : TurnsLeft config before (candidate :: candidates) w) :
    TurnsLeft config before candidates w' := by
  have hchecked := hleft.checked candidate List.mem_cons_self
  have hready := hleft.ready candidate List.mem_cons_self
  obtain ⟨hhead, htail⟩ := List.pairwise_cons.mp hleft.apart
  refine ⟨h.thinned hchecked hready hleft.thinned, fun other hother => ?_, fun other hother => ?_,
    htail⟩
  · exact hleft.checked other (List.mem_cons_of_mem _ hother)
  · exact h.ready hleft.thinned.keyed hready (hhead other hother)
      (hleft.ready other (List.mem_cons_of_mem _ hother))

theorem validTileSetId_of_checked (h : validateManifestPath candidate = .ok ()) :
    ValidTileSetId candidate.tileSetId :=
  (manifestBlobPath_eq_ok_iff.mp (validateManifestPath_eq_ok_iff.mp h).2).1

/-- A candidate that is to have a turn has as many blobs as at first, up to the limit. -/
theorem TurnsLeft.tooMany_iff (h : TurnsLeft config before candidates w)
    (hmem : candidate ∈ candidates) :
    TooMany config candidate.tileSetId w ↔ TooMany config candidate.tileSetId before := by
  obtain ⟨row, hrow, ⟨hid, -, hundeleted⟩, -⟩ := h.ready candidate hmem
  have hvalid := validTileSetId_of_checked (h.checked candidate hmem)
  rw [← hid] at hvalid ⊢
  exact h.thinned.tooMany_iff row hrow hundeleted hvalid

theorem TurnsLeft.end (h : TurnsLeft config before candidates w)
    (hturns : Turns (CandidateTurn config) candidates w w') : Thinned config before w' := by
  have hend := hturns.keeps (TurnsLeft config before)
    (fun _ _ _ _ hturn hleft => hturn.turnsLeft hleft) h
  exact hend.thinned

theorem TurnsLeft.retentionDeleted (h : TurnsLeft config before candidates w)
    (hturns : Turns (CandidateTurn config) candidates w w') (hmem : candidate ∈ candidates)
    (hfew : ¬ TooMany config candidate.tileSetId before) :
    w'.RetentionDeleted candidate.tileSetId := by
  let inv (rest : List TileSetRetentionCandidate) (s : ProcessingWorld) : Prop :=
    TurnsLeft config before rest s ∧ (candidate ∈ rest ∨ s.RetentionDeleted candidate.tileSetId)
  have hend : inv [] w' := by
    apply hturns.keeps inv _ ⟨h, .inl hmem⟩
    rintro first rest s s' hturn ⟨hleft, hplace⟩
    refine ⟨hturn.turnsLeft hleft, ?_⟩
    rcases hplace with hplace | hdeleted
    · rcases List.mem_cons.mp hplace with rfl | hplace
      · right
        apply hturn.retentionDeleted (hleft.ready _ List.mem_cons_self)
        rwa [hleft.tooMany_iff List.mem_cons_self]
      · exact .inl hplace
    · exact .inr (hturn.keeps hdeleted)
  exact hend.2.resolve_left List.not_mem_nil

/-- A row stays if none of the candidates is for it, or its tile set is over the limit. -/
theorem TurnsLeft.mem_tileSets (h : TurnsLeft config before candidates w)
    (hturns : Turns (CandidateTurn config) candidates w w') (hrow : row ∈ w.tileSets)
    (hstays : ∀ candidate ∈ candidates, candidate.tileSetId = row.id →
      TooMany config candidate.tileSetId before) : row ∈ w'.tileSets := by
  let inv (rest : List TileSetRetentionCandidate) (s : ProcessingWorld) : Prop :=
    TurnsLeft config before rest s ∧ row ∈ s.tileSets ∧ ∀ candidate ∈ rest,
      candidate.tileSetId = row.id → TooMany config candidate.tileSetId before
  have hend : inv [] w' := by
    apply hturns.keeps inv _ ⟨h, hrow, hstays⟩
    rintro first rest s s' hturn ⟨hleft, hrow, hstays⟩
    refine ⟨hturn.turnsLeft hleft, ?_, fun other hother => ?_⟩
    · by_cases hid : first.tileSetId = row.id
      · have hmany := (hleft.tooMany_iff List.mem_cons_self).mpr (hstays first List.mem_cons_self hid)
        cases hturn with
        | deleted hfew _ _ => exact absurd hmany hfew
        | skipped _ huntouched =>
          rw [huntouched.rows]
          exact hrow
      · exact hturn.mem_tileSets hrow hid
    · exact hstays other (List.mem_cons_of_mem _ hother)
  exact hend.2.1

theorem candidates_pairwise {rows : TileSetTable} (hkeyed : rows.Keyed) {days priors limit : ℕ} :
    (rows.selectTileSetRetentionCandidates days priors limit now).Pairwise
      fun a b => a.tileSetId ≠ b.tileSetId := by
  rw [TileSetTable.selectTileSetRetentionCandidates_eq]
  apply List.pairwise_map.mpr
  exact List.pairwise_map.mp (Table.nodup_map_select hkeyed.distinct)

theorem turnsLeft_comesTo (hw : Thinned config before w) (now : ℕ) :
    TurnsLeft config before (comesTo config w.tileSets now) w := by
  refine ⟨hw, fun candidate hmem => ?_, fun candidate hmem => ?_, ?_⟩
  · have hpass := List.mem_takeWhile_imp
      (p := fun candidate => decide (validateManifestPath candidate = .ok ())) hmem
    exact of_decide_eq_true hpass
  · obtain ⟨row, hrow, hid, hundeleted, hnot, -, hrank⟩ :=
      TileSetTable.mem_candidates ((List.takeWhile_sublist _).mem hmem)
    exact ⟨row, hrow, ⟨hid, hnot, hundeleted⟩, hrank⟩
  · exact (candidates_pairwise hw.keyed).sublist (List.takeWhile_sublist _)

/-- A row's candidate is among them if those before it leave room in the batch and pass the check. -/
theorem mem_comesTo_iff {rows : TileSetTable} (hkeyed : rows.Keyed) (hrow : row ∈ rows)
    (h : Selectable config rows now row) :
    (∃ candidate ∈ comesTo config rows now, candidate.tileSetId = row.id) ↔
      (rows.countP fun other => Selectable config rows now other ∧
        TileSetTable.retentionKey other < TileSetTable.retentionKey row) <
          config.retentionBatchLimit ∧
      ∀ other ∈ rows, Selectable config rows now other →
        TileSetTable.retentionKey other ≤ TileSetTable.retentionKey row →
          validateManifestPath (TileSetTable.candidate other) = .ok () := by
  let checks (other : TileSetRow) : Bool :=
    decide (validateManifestPath (TileSetTable.candidate other) = .ok ())
  have hcomesTo : comesTo config rows now = ((Table.select (Selectable config rows now)
      (fun a b => TileSetTable.retentionKey a ≤ TileSetTable.retentionKey b)
      config.retentionBatchLimit rows).takeWhile checks).map TileSetTable.candidate := by
    rw [comesTo, beforeUnchecked, TileSetTable.selectTileSetRetentionCandidates_eq,
      List.takeWhile_map]
    rfl
  have hmem : (∃ candidate ∈ comesTo config rows now, candidate.tileSetId = row.id) ↔
      row ∈ (Table.select (Selectable config rows now)
        (fun a b => TileSetTable.retentionKey a ≤ TileSetTable.retentionKey b)
        config.retentionBatchLimit rows).takeWhile checks := by
    rw [hcomesTo]
    constructor
    · rintro ⟨_, hcandidate, hid⟩
      obtain ⟨own, hown, rfl⟩ := List.mem_map.mp hcandidate
      have hownRow := (Table.mem_of_mem_select ((List.takeWhile_sublist _).mem hown)).1
      obtain rfl := hkeyed.eq_of_id hownRow hrow hid
      exact hown
    · exact fun hown => ⟨_, List.mem_map_of_mem hown, rfl⟩
  rw [hmem, Table.mem_takeWhile_select_iff hkeyed.nodup_retentionKey hrow h]
  simp only [checks, decide_eq_true_eq]

/-- A run changes the tables only by the turns of the candidates it comes to. -/
theorem runRetentionCleanup_alone {allowed : Env → Prop} {since : ℕ} (hno : NoFailure allowed)
    (hsince : ∀ e, allowed e → since ≤ e.now) (hkeyed : w.tileSets.Keyed) {cleanup : Cleanup}
    (hexecute : cleanup.execute = true) :
    (runRetentionCleanup config cleanup).Alone answer allowed (fun _ => True)
      (fun w' _ => ∃ now, since ≤ now ∧ ∃ w₁, TilesUnchanged w w₁ ∧
        Turns (CandidateTurn config) (comesTo config w.tileSets now) w₁ w') w := by
  obtain ⟨runId, execute⟩ := cleanup
  obtain rfl : execute = true := hexecute
  refine ⟨trivial, fun e he => ?_⟩
  have hconnect : answer .connect e w = (w, .ok ()) := answer_of_ok (hno e he) _ _
  rw [hconnect]
  refine ⟨trivial, fun e he => ?_⟩
  have hclient : answer (.takeLocalStep .newBlobClient) e w = (w, .ok ()) :=
    answer_of_ok (hno e he) _ _
  rw [hclient]
  refine ⟨trivial, fun e he => ?_⟩
  have hraw (days limit : ℕ) : answer (.selectRawBlobRetentionCandidates days limit) e w =
      (w, .ok (w.selectRawBlobRetentionCandidates days limit e.now)) := answer_of_ok (hno e he) _ _
  rw [hraw]
  refine ⟨trivial, fun e he => ?_⟩
  have hselect (days priors limit : ℕ) :
      answer (.selectTileSetRetentionCandidates days priors limit) e w =
        (w, .ok (w.tileSets.selectTileSetRetentionCandidates days priors limit e.now)) :=
    answer_of_ok (hno e he) _ _
  rw [hselect]
  have hunchanged : TilesUnchanged w w := ⟨rfl, rfl⟩
  change (cleanRawBlobs config ⟨runId, true⟩ _ >>= _).Alone _ _ _ _ w
  refine Alone.bind (cleanRawBlobs_unchanged hno _ _ hunchanged).atEnd ?_
  rintro w₁ outcome - ⟨hw₁, rfl⟩
  have hdeletable : ∀ candidate ∈ w.tileSets.selectTileSetRetentionCandidates
      config.processedTileSetRetentionDays config.retentionProtectedPriorTileSets
      config.retentionBatchLimit e.now,
      ∃ row ∈ w₁.tileSets, TileSetTable.RetentionDeletable candidate.tileSetId row := by
    intro candidate hmem
    obtain ⟨row, hrow, hid, hundeleted, hnot, -⟩ := TileSetTable.mem_candidates hmem
    exact ⟨row, hw₁.rows ▸ hrow, hid, hnot, hundeleted⟩
  refine (cleanTileSets_alone hno _ hdeletable (candidates_pairwise hkeyed)).mono ?_
  exact fun w' outcome _ hturns => ⟨e.now, hsince e he, w₁, hw₁, hturns⟩

end Turns

/-! ## Runs in succession -/

/-- A run in execute mode in which nothing fails, none of its clock readings before `since`. -/
structure ExecuteRun (since : ℕ) extends CleanRun where
  execute : cleanup.execute = true
  since_le : ∀ i, since ≤ (choices i).now

/-- The world before run `n`. -/
def beforeCleanup {since : ℕ} (config : ProcessingConfig) (runs : ℕ → ExecuteRun since)
    (w : ProcessingWorld) : ℕ → ProcessingWorld
  | 0 => w
  | n + 1 => (exec answer (runRetentionCleanup config (runs n).cleanup) (runs n).choices
      (beforeCleanup config runs w n)).1

/-- The candidates up to a row pass the check, and fewer than a batch of those before it are over
the limit. -/
structure WithinReach (config : ProcessingConfig) (since : ℕ) (w : ProcessingWorld)
    (row : TileSetRow) : Prop where
  checked : ∀ other ∈ w.tileSets, Selectable config w.tileSets since other →
    TileSetTable.retentionKey other ≤ TileSetTable.retentionKey row →
      validateManifestPath (TileSetTable.candidate other) = .ok ()
  room : (w.tileSets.countP fun other => Selectable config w.tileSets since other ∧
    TileSetTable.retentionKey other < TileSetTable.retentionKey row ∧
      TooMany config other.id w) < config.retentionBatchLimit

/-- What a run makes of a world in which cleanups have been at work since an earlier one. -/
structure RunEffect (config : ProcessingConfig) (before : ProcessingWorld) (now : ℕ)
    (w w' : ProcessingWorld) : Prop where
  thinned : Thinned config before w'
  keeps : ∀ tileSetId, w.RetentionDeleted tileSetId → w'.RetentionDeleted tileSetId
  deletes : ∀ candidate ∈ comesTo config w.tileSets now,
    ¬ TooMany config candidate.tileSetId before → w'.RetentionDeleted candidate.tileSetId
  stays : ∀ row ∈ w.tileSets, (∀ candidate ∈ comesTo config w.tileSets now,
    candidate.tileSetId = row.id → TooMany config candidate.tileSetId before) → row ∈ w'.tileSets

section Progress

variable {config : ProcessingConfig} {since now : ℕ} {before w : ProcessingWorld}
  {row other : TileSetRow}

theorem ProcessingWorld.RetentionDeleted.of_unchanged {w' : ProcessingWorld} {tileSetId : String}
    (h : w.RetentionDeleted tileSetId) (hw : TilesUnchanged w w') :
    w'.RetentionDeleted tileSetId := by
  unfold ProcessingWorld.RetentionDeleted ProcessingWorld.Gone at h ⊢
  rw [hw.blobs, hw.rows]
  exact h

theorem exists_runEffect (hw : Thinned config before w) (run : ExecuteRun since) :
    ∃ now, since ≤ now ∧ RunEffect config before now w
      (exec answer (runRetentionCleanup config run.cleanup) run.choices w).1 := by
  have hrun : (runRetentionCleanup config run.cleanup).Alone answer
      (fun e => e.outcome = .ok ∧ since ≤ e.now) (fun _ => True) _ w :=
    runRetentionCleanup_alone (fun _ he => he.1) (fun _ he => he.2) hw.keyed run.execute
  obtain ⟨now, hsince, w₁, hw₁, hturns⟩ := (hrun.exec fun i => ⟨run.ok i, run.since_le i⟩).2
  have hleft := turnsLeft_comesTo (hw.of_unchanged hw₁) now
  rw [hw₁.rows] at hleft
  refine ⟨now, hsince, hleft.end hturns, fun tileSetId hdeleted => ?_, fun candidate hmem => ?_,
    fun row hrow => ?_⟩
  · exact hturns.invariant (fun s => s.RetentionDeleted tileSetId)
      (fun _ _ _ _ hturn => hturn.keeps) (hdeleted.of_unchanged hw₁)
  · exact hleft.retentionDeleted hturns hmem
  · rw [← hw₁.rows] at hrow
    exact hleft.mem_tileSets hturns hrow

theorem Thinned.selectable_iff (h : Thinned config before w) (hnow : since ≤ now)
    (hselectable : Selectable config before.tileSets since row)
    (hle : TileSetTable.retentionKey other ≤ TileSetTable.retentionKey row) :
    Selectable config w.tileSets now other ↔ Selectable config before.tileSets since other := by
  have hcreated : other.createdAt ≤ row.createdAt := Prod.Lex.monotone_fst _ _ hle
  obtain ⟨-, -, hstale, -⟩ := hselectable
  constructor
  · rintro ⟨hundeleted, hnot, -, hrank⟩
    exact ⟨hundeleted, hnot, by omega, hrank.trans_le (h.rank_le other)⟩
  · rintro ⟨hundeleted, hnot, -, hrank⟩
    exact ⟨hundeleted, hnot, by omega, h.lt_rank other hrank⟩

theorem TileSetTable.Keyed.nodup {rows : TileSetTable} (h : rows.Keyed) : rows.Nodup :=
  h.distinct.of_map

theorem thinned_beforeCleanup (config : ProcessingConfig) (runs : ℕ → ExecuteRun since)
    (hkeyed : w.tileSets.Keyed) (n : ℕ) : Thinned config w (beforeCleanup config runs w n) := by
  induction n with
  | zero => exact Thinned.refl hkeyed
  | succ n ih =>
    obtain ⟨now, -, heffect⟩ := exists_runEffect ih (runs n)
    exact heffect.thinned

variable (runs : ℕ → ExecuteRun since)

/-- A row whose tile set is over the limit, or that fails the check, is never marked. -/
theorem stays_of_skipped (hkeyed : w.tileSets.Keyed) (hrow : row ∈ w.tileSets)
    (hselectable : Selectable config w.tileSets since row)
    (hskipped : TooMany config row.id w ∨
      validateManifestPath (TileSetTable.candidate row) ≠ .ok ()) (n : ℕ) :
    row ∈ (beforeCleanup config runs w n).tileSets := by
  induction n with
  | zero => exact hrow
  | succ n ih =>
    have hthinned := thinned_beforeCleanup config runs hkeyed n
    obtain ⟨now, hsince, heffect⟩ := exists_runEffect hthinned (runs n)
    apply heffect.stays row ih
    intro candidate hmem hid
    rcases hskipped with hmany | hunchecked
    · exact hid ▸ hmany
    · have hselected := (hthinned.selectable_iff hsince hselectable le_rfl).mpr hselectable
      have hchecked := ((mem_comesTo_iff hthinned.keyed ih hselected).mp ⟨candidate, hmem, hid⟩).2
      exact absurd (hchecked row ih hselected le_rfl) hunchecked

theorem stays_of_not_withinReach (hkeyed : w.tileSets.Keyed) (hrow : row ∈ w.tileSets)
    (hselectable : Selectable config w.tileSets since row)
    (hreach : ¬ WithinReach config since w row) (n : ℕ) :
    row ∈ (beforeCleanup config runs w n).tileSets := by
  induction n with
  | zero => exact hrow
  | succ n ih =>
    have hthinned := thinned_beforeCleanup config runs hkeyed n
    obtain ⟨now, hsince, heffect⟩ := exists_runEffect hthinned (runs n)
    apply heffect.stays row ih
    intro candidate hmem hid
    have hselected := (hthinned.selectable_iff hsince hselectable le_rfl).mpr hselectable
    obtain ⟨hroom, hchecked⟩ :=
      (mem_comesTo_iff hthinned.keyed ih hselected).mp ⟨candidate, hmem, hid⟩
    refine absurd ⟨fun other hother hother' hle => ?_, lt_of_le_of_lt ?_ hroom⟩ hreach
    · by_contra hunchecked
      have hstill := stays_of_skipped runs hkeyed hother hother' (.inr hunchecked) n
      exact hunchecked (hchecked other hstill
        ((hthinned.selectable_iff hsince hselectable hle).mpr hother') hle)
    · apply countP_le_of_mem hkeyed.nodup
      rintro other hother ⟨hother', hlt, hmany⟩
      exact ⟨stays_of_skipped runs hkeyed hother hother' (.inl hmany) n,
        (hthinned.selectable_iff hsince hselectable hlt.le).mpr hother', hlt⟩

/-- A row within the limit stays until its tile set is deleted. -/
theorem mem_or_retentionDeleted (hkeyed : w.tileSets.Keyed) (hrow : row ∈ w.tileSets)
    (hfew : ¬ TooMany config row.id w) (n : ℕ) :
    row ∈ (beforeCleanup config runs w n).tileSets ∨
      (beforeCleanup config runs w n).RetentionDeleted row.id := by
  induction n with
  | zero => exact .inl hrow
  | succ n ih =>
    have hthinned := thinned_beforeCleanup config runs hkeyed n
    obtain ⟨now, -, heffect⟩ := exists_runEffect hthinned (runs n)
    rcases ih with hmem | hdeleted
    · by_cases hturn : ∃ candidate ∈ comesTo config (beforeCleanup config runs w n).tileSets now,
          candidate.tileSetId = row.id
      · obtain ⟨candidate, hcandidate, hid⟩ := hturn
        rw [← hid] at hfew ⊢
        exact .inr (heffect.deletes candidate hcandidate hfew)
      · exact .inl (heffect.stays row hmem fun candidate h hid => absurd ⟨candidate, h, hid⟩ hturn)
    · exact .inr (heffect.keeps row.id hdeleted)

/-- A row within reach is the next of the rows within the limit that a run comes to. -/
theorem WithinReach.exists_turn (hreach : WithinReach config since before row)
    (hw : Thinned config before w) (hnow : since ≤ now) (hrow : row ∈ w.tileSets)
    (hselectable : Selectable config before.tileSets since row)
    (hearlier : ∀ other ∈ w.tileSets, Selectable config before.tileSets since other →
      TileSetTable.retentionKey other < TileSetTable.retentionKey row →
        TooMany config other.id before) :
    ∃ candidate ∈ comesTo config w.tileSets now, candidate.tileSetId = row.id := by
  have hselected := (hw.selectable_iff hnow hselectable le_rfl).mpr hselectable
  apply (mem_comesTo_iff hw.keyed hrow hselected).mpr
  refine ⟨lt_of_le_of_lt ?_ hreach.room, fun other hother hother' hle => ?_⟩
  · apply countP_le_of_mem hw.keyed.nodup
    rintro other hother ⟨hother', hlt⟩
    have hbefore := (hw.selectable_iff hnow hselectable hlt.le).mp hother'
    exact ⟨hw.kept other hother hother'.1, hbefore, hlt, hearlier other hother hbefore hlt⟩
  · have hbefore := (hw.selectable_iff hnow hselectable hle).mp hother'
    exact hreach.checked other (hw.kept other hother hother'.1) hbefore hle

theorem WithinReach.of_le (h : WithinReach config since w row)
    (hle : TileSetTable.retentionKey other ≤ TileSetTable.retentionKey row) :
    WithinReach config since w other where
  checked := fun earlier hmem hselectable hle' => h.checked earlier hmem hselectable (hle'.trans hle)
  room := by
    apply lt_of_le_of_lt _ h.room
    apply List.countP_mono_left
    intro earlier _ hearlier
    obtain ⟨hselectable, hlt, hmany⟩ := of_decide_eq_true hearlier
    exact decide_eq_true ⟨hselectable, hlt.trans_le hle, hmany⟩

theorem not_retentionDeleted (hkeyed : w.tileSets.Keyed) (hrow : row ∈ w.tileSets)
    (hundeleted : row.retentionDeletedAt = none) : ¬ w.RetentionDeleted row.id := by
  rintro ⟨-, marked, hmarked, hid, hdeleted⟩
  rw [hkeyed.eq_of_id hmarked hrow hid] at hdeleted
  exact hdeleted hundeleted

theorem exists_retentionDeleted (hkeyed : w.tileSets.Keyed) (hrow : row ∈ w.tileSets)
    (hselectable : Selectable config w.tileSets since row) (hfew : ¬ TooMany config row.id w)
    (hreach : WithinReach config since w row) :
    ∃ n, (beforeCleanup config runs w n).RetentionDeleted row.id := by
  -- the rows up to this one that are to be deleted, each after those before it
  let rows := w.tileSets.filter fun other => Selectable config w.tileSets since other ∧
    TileSetTable.retentionKey other ≤ TileSetTable.retentionKey row ∧ ¬ TooMany config other.id w
  have hmem {other : TileSetRow} : other ∈ rows ↔ other ∈ w.tileSets ∧
      Selectable config w.tileSets since other ∧
      TileSetTable.retentionKey other ≤ TileSetTable.retentionKey row ∧
        ¬ TooMany config other.id w := by
    rw [List.mem_filter, decide_eq_true_eq]
  have hall : ∀ other ∈ rows, ∃ n, (beforeCleanup config runs w n).RetentionDeleted other.id := by
    apply exists_done TileSetTable.retentionKey
      fun n (other : TileSetRow) => (beforeCleanup config runs w n).RetentionDeleted other.id
    · intro n other hdeleted
      obtain ⟨now, -, heffect⟩ := exists_runEffect (thinned_beforeCleanup config runs hkeyed n) (runs n)
      exact heffect.keeps other.id hdeleted
    · intro other hother n hbefore
      obtain ⟨hotherRow, hother', hle, hotherFew⟩ := hmem.mp hother
      have hthinned := thinned_beforeCleanup config runs hkeyed n
      rcases mem_or_retentionDeleted runs hkeyed hotherRow hotherFew n with hstill | hdeleted
      · obtain ⟨now, hsince, heffect⟩ := exists_runEffect hthinned (runs n)
        have hturn := (hreach.of_le hle).exists_turn hthinned hsince hstill hother' ?_
        · obtain ⟨candidate, hcandidate, hid⟩ := hturn
          refine ⟨n + 1, ?_⟩
          rw [← hid] at hotherFew ⊢
          exact heffect.deletes candidate hcandidate hotherFew
        · intro earlier hearlier hearlier' hlt
          by_contra hearlierFew
          apply not_retentionDeleted hthinned.keyed hearlier hearlier'.1
          apply hbefore earlier _ hlt
          exact hmem.mpr ⟨hthinned.kept earlier hearlier hearlier'.1, hearlier', hlt.le.trans hle,
            hearlierFew⟩
      · exact ⟨n, hdeleted⟩
  exact hall row (hmem.mpr ⟨hrow, hselectable, le_rfl, hfew⟩)

/-- In every succession of execute-mode runs in which nothing fails, a tile set that is selected at
first and within the blob limit is deleted in some run exactly if it is within reach at first. -/
theorem retentionDeleted_iff_withinReach (hkeyed : w.tileSets.Keyed) (hrow : row ∈ w.tileSets)
    (hselectable : Selectable config w.tileSets since row) (hfew : ¬ TooMany config row.id w) :
    (∃ n, (beforeCleanup config runs w n).RetentionDeleted row.id) ↔
      WithinReach config since w row := by
  constructor
  · rintro ⟨n, hdeleted⟩
    by_contra hreach
    have hstill := stays_of_not_withinReach runs hkeyed hrow hselectable hreach n
    have hthinned := thinned_beforeCleanup config runs hkeyed n
    exact not_retentionDeleted hthinned.keyed hstill hselectable.1 hdeleted
  · exact exists_retentionDeleted runs hkeyed hrow hselectable hfew

end Progress

/-! ## A tile set behind one over the limit -/

def narrowConfig : ProcessingConfig :=
  { sampleConfig with retentionBatchLimit := 1, retentionTileBlobLimit := 1 }

/-- The oldest tile set has two tiles, the next one has one. -/
def oversizedFirst : ProcessingWorld :=
  { ProcessingPool.empty.world with
    tileSets := [TileSetTable.sampleRow "a" 0 false, TileSetTable.sampleRow "b" 1 false,
      TileSetTable.sampleRow "c" 2 true]
    processedBlobs := [("tiles/a/0/0/0.png", .tile), ("tiles/a/1/0/0.png", .tile),
      ("tiles/b/0/0/0.png", .tile)] }

def sampleRun : ExecuteRun (100 * microsecondsPerDay) where
  cleanup := ⟨0, true⟩
  choices := fun _ => sampleEnv .ok (100 * microsecondsPerDay) 0
  ok := fun _ => rfl
  execute := rfl
  since_le := fun _ => le_rfl

theorem keyed_oversizedFirst : oversizedFirst.tileSets.Keyed := ⟨by decide, by decide⟩

abbrev secondRow : TileSetRow := TileSetTable.sampleRow "b" 1 false

theorem mem_secondRow : secondRow ∈ oversizedFirst.tileSets := by decide

theorem selectable_secondRow :
    Selectable narrowConfig oversizedFirst.tileSets (100 * microsecondsPerDay) secondRow := by
  decide

theorem few_secondRow : ¬ TooMany narrowConfig secondRow.id oversizedFirst := by decide

theorem retentionDeleted_iff_withinReach_second :
    (∃ n, (beforeCleanup narrowConfig (fun _ => sampleRun) oversizedFirst n).RetentionDeleted
        secondRow.id) ↔
      WithinReach narrowConfig (100 * microsecondsPerDay) oversizedFirst secondRow :=
  retentionDeleted_iff_withinReach (fun _ => sampleRun) keyed_oversizedFirst mem_secondRow
    selectable_secondRow few_secondRow

/-- The skipped tile set fills the batch of every run. -/
theorem not_retentionDeleted_within_limit :
    ¬ ∀ (config : ProcessingConfig) (since : ℕ) (w : ProcessingWorld), w.tileSets.Keyed →
      ∀ (runs : ℕ → ExecuteRun since), ∀ row ∈ w.tileSets, Selectable config w.tileSets since row →
        ¬ TooMany config row.id w → ∃ n, (beforeCleanup config runs w n).RetentionDeleted row.id := by
  intro h
  obtain ⟨n, hdeleted⟩ := h narrowConfig (100 * microsecondsPerDay) oversizedFirst
    keyed_oversizedFirst (fun _ => sampleRun) secondRow mem_secondRow selectable_secondRow
    few_secondRow
  have hreach : ¬ WithinReach narrowConfig (100 * microsecondsPerDay) oversizedFirst secondRow :=
    fun hreach => absurd hreach.room (by decide)
  have hstill := stays_of_not_withinReach (fun _ => sampleRun) keyed_oversizedFirst mem_secondRow
    selectable_secondRow hreach n
  have hthinned := thinned_beforeCleanup narrowConfig (fun _ => sampleRun) keyed_oversizedFirst n
  exact not_retentionDeleted hthinned.keyed hstill rfl hdeleted

end LumenHorizon.Processing
