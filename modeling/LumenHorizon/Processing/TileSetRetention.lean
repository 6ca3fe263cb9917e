import LumenHorizon.Processing.TileSetStates
import Mathlib.Data.String.Basic

/-! # What the selection of stale tile sets protects

The selection spares the rows of the first ranks of each classification version. The policy is about
the latest row and those before it, which are the first ranks only if the latest row is the newest.
-/

namespace LumenHorizon.Processing
open Foundation Shared

namespace TileSetTable

/-- The order of the ranks, ascending. -/
def retentionKey (row : TileSetRow) : ℕ ×ₗ String := toLex (row.createdAt, row.id)

/-- A row of this version that is not marked as deleted. -/
def Undeleted (version : String) (row : TileSetRow) : Prop :=
  row.retentionDeletedAt = none ∧ row.classificationVersion = version

instance (version : String) (row : TileSetRow) : Decidable (Undeleted version row) :=
  inferInstanceAs (Decidable (_ ∧ _))

theorem retentionKey_lt_iff {row other : TileSetRow} : retentionKey row < retentionKey other ↔
    row.createdAt < other.createdAt ∨ (row.createdAt = other.createdAt ∧ row.id < other.id) :=
  Prod.Lex.toLex_lt_toLex

theorem retentionRank_eq (rows : TileSetTable) (row : TileSetRow) : retentionRank rows row =
    Table.above retentionKey (Undeleted row.classificationVersion) rows row + 1 := by
  rw [retentionRank, Table.above, List.countP_eq_length_filter]
  congr 2
  apply List.filter_congr
  intro other _
  simp only [Undeleted, retentionKey_lt_iff, and_assoc]

theorem Keyed.nodup_retentionKey {rows : TileSetTable} (h : rows.Keyed) :
    (rows.map retentionKey).Nodup := by
  have hids : ((rows.map retentionKey).map fun key => (ofLex key).2) = rows.map TileSetRow.id := by
    rw [List.map_map]
    rfl
  exact List.Nodup.of_map _ (hids ▸ h.distinct)

theorem mem_candidates {rows : TileSetTable} {days priors limit now : ℕ}
    {candidate : TileSetRetentionCandidate}
    (h : candidate ∈ rows.selectTileSetRetentionCandidates days priors limit now) :
    ∃ row ∈ rows, row.id = candidate.tileSetId ∧ RetentionSelectable rows days priors now row := by
  obtain ⟨row, hrow, rfl⟩ := List.mem_map.mp h
  obtain ⟨hmem, hselectable⟩ := Table.mem_of_mem_select hrow
  exact ⟨row, hmem, rfl, hselectable⟩

/-- With a limit that is large enough every selectable row is returned. -/
theorem exists_candidate {rows : TileSetTable} {days priors now : ℕ} {row : TileSetRow}
    (hrow : row ∈ rows) (h : RetentionSelectable rows days priors now row) :
    ∃ candidate ∈ rows.selectTileSetRetentionCandidates days priors rows.length now,
      candidate.tileSetId = row.id :=
  ⟨_, List.mem_map_of_mem (Table.mem_select_of_le (List.length_filter_le _ _) hrow h), rfl⟩

/-- A row of the version of the latest row that is older and not marked as deleted. -/
def Prior (latest row : TileSetRow) : Prop :=
  Undeleted latest.classificationVersion row ∧ retentionKey row < retentionKey latest

instance (latest row : TileSetRow) : Decidable (Prior latest row) :=
  inferInstanceAs (Decidable (_ ∧ _))

/-- One of the newest `priors` of them. -/
def ProtectedPrior (rows : TileSetTable) (priors : ℕ) (latest row : TileSetRow) : Prop :=
  Prior latest row ∧ Table.above retentionKey (Prior latest) rows row < priors

/-- The latest row and its `priors` newest prior ones; of a version that has no latest row the
newest `priors + 1`. -/
inductive Protected (rows : TileSetTable) (priors : ℕ) (row : TileSetRow) : Prop
  | latest (hlatest : row.latest = true)
  | prior (latest : TileSetRow) (hmem : latest ∈ rows) (hlatest : latest.latest = true)
      (hprior : ProtectedPrior rows priors latest row)
  | newest (hlatest : ∀ latest ∈ rows, latest.latest = true →
        latest.classificationVersion ≠ row.classificationVersion)
      (hundeleted : row.retentionDeletedAt = none)
      (hrank : Table.above retentionKey (Undeleted row.classificationVersion) rows row < priors + 1)

/-- No candidate is a row that the policy protects. -/
def SparesProtected (rows : TileSetTable) (days priors limit now : ℕ) : Prop :=
  ∀ candidate ∈ rows.selectTileSetRetentionCandidates days priors limit now,
    ∀ row ∈ rows, row.id = candidate.tileSetId → ¬ Protected rows priors row

/-- The latest row is the newest of its version (if it is not deleted, the only one from itself on),
or the version has no more rows than are spared, or the protected prior rows are not stale. -/
def RanksFromLatest (rows : TileSetTable) (days priors now : ℕ) : Prop :=
  ∀ latest ∈ rows, latest.latest = true →
    (rows.countP fun row => Undeleted latest.classificationVersion row ∧
      retentionKey latest ≤ retentionKey row) ≤ 1 ∨
    rows.countP (Undeleted latest.classificationVersion) ≤ priors + 1 ∨
    ∀ row ∈ rows, ProtectedPrior rows priors latest row →
      now ≤ row.createdAt + days * microsecondsPerDay

variable {rows : TileSetTable} {days priors limit now : ℕ}

/-- The rank of a prior row counts the rows from the latest one on, and the priors above. -/
theorem retentionRank_of_prior {latest row : TileSetRow} (h : Prior latest row) :
    retentionRank rows row =
      (rows.countP fun other => Undeleted latest.classificationVersion other ∧
        retentionKey latest ≤ retentionKey other) +
      Table.above retentionKey (Prior latest) rows row + 1 := by
  rw [retentionRank_eq, h.1.2, Table.above_eq_add h.2]
  rfl

theorem selectable_prior_iff (hkeyed : rows.Keyed) {latest row : TileSetRow} (hmem : latest ∈ rows)
    (hlatest : latest.latest = true) (hrow : row ∈ rows) (hprior : Prior latest row) :
    RetentionSelectable rows days priors now row ↔
      row.createdAt + days * microsecondsPerDay < now ∧
      priors < (rows.countP fun other => Undeleted latest.classificationVersion other ∧
        retentionKey latest ≤ retentionKey other) +
        Table.above retentionKey (Prior latest) rows row := by
  have hnot : row.latest = false := by
    by_contra h
    have heq := hkeyed.oneLatest row hrow latest hmem (Bool.not_eq_false _ ▸ h) hlatest
    exact absurd hprior.2 (heq ▸ lt_irrefl _)
  rw [RetentionSelectable, retentionRank_of_prior hprior]
  constructor
  · rintro ⟨-, -, hstale, hrank⟩
    exact ⟨hstale, by omega⟩
  · rintro ⟨hstale, hrank⟩
    exact ⟨hprior.1.1, hnot, hstale, by omega⟩

/-- The oldest of the protected prior rows has the greatest rank of them. -/
theorem exists_oldest_protected (hkeyed : rows.Keyed) {latest row : TileSetRow} (hrow : row ∈ rows)
    (h : ProtectedPrior rows priors latest row) :
    ∃ oldest ∈ rows, ProtectedPrior rows priors latest oldest ∧
      Table.above retentionKey (Prior latest) rows oldest + 1 =
        min priors (rows.countP (Prior latest)) ∧ retentionKey oldest ≤ retentionKey row := by
  have hlt : Table.above retentionKey (Prior latest) rows row < rows.countP (Prior latest) :=
    Table.above_lt_countP hrow h.1
  have hpriors := h.2
  obtain ⟨oldest, holdest, hprior, hrank⟩ := Table.exists_above_eq
    hkeyed.nodup_retentionKey
    (show min priors (rows.countP (Prior latest)) - 1 < rows.countP (Prior latest) by omega)
  refine ⟨oldest, holdest, ⟨hprior, by omega⟩, by omega, ?_⟩
  by_contra hle
  have habove := Table.above_lt_above holdest hprior (not_le.mp hle)
  omega

theorem RanksFromLatest.sparesProtected (hkeyed : rows.Keyed)
    (h : rows.RanksFromLatest days priors now) : rows.SparesProtected days priors limit now := by
  intro candidate hcandidate row hrow hid hprotected
  obtain ⟨row', hrow', hid', hselectable⟩ := mem_candidates hcandidate
  obtain rfl := hkeyed.eq_of_id hrow hrow' (hid.trans hid'.symm)
  cases hprotected with
  | latest hlatest =>
    rw [hselectable.2.1] at hlatest
    cases hlatest
  | prior latest hmem hlatest hprior =>
    obtain ⟨hstale, hrank⟩ := (selectable_prior_iff hkeyed hmem hlatest hrow hprior.1).mp hselectable
    have habove := hprior.2
    rcases h latest hmem hlatest with hone | hfew | hfresh
    · omega
    · have hlt : Table.above retentionKey (Undeleted latest.classificationVersion) rows row < _ :=
        Table.above_lt_countP hrow hprior.1.1
      have hsplit : retentionRank rows row = _ := retentionRank_of_prior hprior.1
      rw [retentionRank_eq, hprior.1.1.2] at hsplit
      omega
    · exact absurd (hfresh row hrow hprior) (by omega)
  | newest _ _ hnewest =>
    have hrank := hselectable.2.2.2
    rw [retentionRank_eq] at hrank
    omega

theorem ranksFromLatest_of_spares (hkeyed : rows.Keyed)
    (h : ∀ limit, rows.SparesProtected days priors limit now) :
    rows.RanksFromLatest days priors now := by
  intro latest hmem hlatest
  by_contra hnot
  push Not at hnot
  obtain ⟨hmore, hmany, row, hrow, hprior, hstale⟩ := hnot
  obtain ⟨oldest, holdest, hprotected, hrank, hle⟩ := exists_oldest_protected hkeyed hrow hprior
  have hcreated : oldest.createdAt ≤ row.createdAt := (Prod.Lex.monotone_fst _ _ hle)
  have hselectable : RetentionSelectable rows days priors now oldest := by
    apply (selectable_prior_iff hkeyed hmem hlatest holdest hprotected.1).mpr
    have hsplit : rows.countP (Undeleted latest.classificationVersion) =
        _ + rows.countP (Prior latest) := Table.countP_eq_add retentionKey _ rows latest
    omega
  obtain ⟨candidate, hcandidate, hid⟩ := exists_candidate holdest hselectable
  exact h rows.length candidate hcandidate oldest holdest hid.symm
    (.prior latest hmem hlatest hprotected)

/-- For a table with its keys, a window and a number of prior rows: whatever the limit, the
selection spares what the policy protects exactly when the ranks count from the latest row. -/
theorem sparesProtected_iff (rows : TileSetTable) (hkeyed : rows.Keyed) (days priors now : ℕ) :
    (∀ limit, rows.SparesProtected days priors limit now) ↔ rows.RanksFromLatest days priors now :=
  ⟨ranksFromLatest_of_spares hkeyed, fun h _ => h.sparesProtected hkeyed⟩

def sampleRow (id : String) (createdAt : ℕ) (latest : Bool) : TileSetRow where
  id := id
  classificationVersion := "v1"
  tileCount := 1
  manifestBlobPath := "manifests/" ++ id ++ ".json"
  latest := latest
  createdAt := createdAt
  retentionDeletedAt := none
  retentionDeleteReason := none

/-- The newest row was inserted but not promoted. -/
def unpromotedNewest : TileSetTable :=
  [sampleRow "c" 0 false, sampleRow "d" 1 false, sampleRow "a" 2 true, sampleRow "b" 3 false]

theorem unpromotedNewest_keyed : unpromotedNewest.Keyed := ⟨by decide, by decide⟩

theorem sparesProtected_iff_unpromoted :
    (∀ limit, unpromotedNewest.SparesProtected 90 1 limit (91 * microsecondsPerDay)) ↔
      unpromotedNewest.RanksFromLatest 90 1 (91 * microsecondsPerDay) :=
  sparesProtected_iff unpromotedNewest unpromotedNewest_keyed 90 1 (91 * microsecondsPerDay)

/-- Two prior rows are protected, but the second has the fourth rank and is selected. -/
theorem not_sparesProtected :
    ¬ ∀ (rows : TileSetTable), rows.Keyed → ∀ days priors limit now,
      rows.SparesProtected days priors limit now := by
  intro h
  have hcandidate : ∃ candidate ∈ unpromotedNewest.selectTileSetRetentionCandidates 90 2 100
      (91 * microsecondsPerDay), candidate.tileSetId = "c" := by decide
  obtain ⟨candidate, hcandidate, hid⟩ := hcandidate
  refine h unpromotedNewest unpromotedNewest_keyed 90 2 100 (91 * microsecondsPerDay) candidate
    hcandidate (sampleRow "c" 0 false) (by decide) hid.symm ?_
  exact .prior (sampleRow "a" 2 true) (by decide) rfl ⟨by decide, by decide⟩

end TileSetTable
end LumenHorizon.Processing
