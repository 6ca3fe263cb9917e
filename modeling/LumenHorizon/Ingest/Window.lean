import LumenHorizon.Ingest.Commands

/-! # The temporal window of the next discovery

The resume point of a product is the latest date among its rows that are neither failed nor
rejected. Granules are processed newest first, so a granule without such a row leaves the window
as soon as a newer one gets one, unless a running pass still comes to it.
-/

namespace LumenHorizon.Ingest
open Foundation Shared

/-- The row moves the resume point. -/
def Counts (status : IngestStatus) : Prop := status ≠ .failed ∧ status ≠ .rejected

instance : DecidablePred Counts := fun status =>
  inferInstanceAs (Decidable (status ≠ .failed ∧ status ≠ .rejected))

theorem counts_downloading : Counts .downloading := ⟨nofun, nofun⟩

namespace GranuleCandidate

/-- Two candidates for one row. -/
def SameKey (granule other : GranuleCandidate) : Prop :=
  granule.product = other.product ∧ granule.tile = other.tile ∧
    granule.granuleDate.timestamptz = other.granuleDate.timestamptz

end GranuleCandidate

theorem SameGranule.congr {granule other : GranuleCandidate} {row : IngestRow}
    (h : SameGranule granule row) (hkey : granule.SameKey other) : SameGranule other row := by
  obtain ⟨hproduct, htile, hdate⟩ := hkey
  obtain ⟨h1, h2, h3, h4⟩ := h
  exact ⟨h1.trans hproduct, by rw [h2, htile], by rw [h3, htile], h4.trans hdate⟩

namespace Tables

/-- The granule has a row that moves the resume point. -/
def Counted (t : Tables) (granule : GranuleCandidate) : Prop :=
  ∃ row ∈ t.ingestLog, SameGranule granule row ∧ Counts row.status

instance (t : Tables) : DecidablePred t.Counted := fun granule =>
  inferInstanceAs (Decidable (∃ row ∈ t.ingestLog, SameGranule granule row ∧ Counts row.status))

/-- The next discovery starts no later than the granule. -/
def InWindow (t : Tables) (granule : GranuleCandidate) : Prop :=
  ∀ point, t.resumePoint granule.product = some point → point ≤ granule.granuleDate

theorem inWindow_iff {t : Tables} {granule : GranuleCandidate} :
    t.InWindow granule ↔ ∀ row ∈ t.ingestLog, row.product = granule.product →
      Counts row.status → row.granuleDate ≤ granule.granuleDate := by
  unfold InWindow resumePoint
  constructor
  · intro h row hrow hproduct hcounts
    have hmem : row.granuleDate ∈ (t.ingestLog.filter fun row =>
        row.product = granule.product ∧ row.status ≠ .failed ∧ row.status ≠ .rejected).map
          IngestRow.granuleDate :=
      List.mem_map_of_mem (List.mem_filter.mpr ⟨hrow, by simpa using ⟨hproduct, hcounts⟩⟩)
    cases hmax : ((t.ingestLog.filter fun row =>
        row.product = granule.product ∧ row.status ≠ .failed ∧ row.status ≠ .rejected).map
          IngestRow.granuleDate).max? with
    | none =>
      rw [List.max?_eq_none_iff.mp hmax] at hmem
      cases hmem
    | some point => exact ((List.max?_le_iff hmax).mp le_rfl _ hmem).trans (h point hmax)
  · intro h point hpoint
    obtain ⟨row, hrow, rfl⟩ := List.mem_map.mp (List.max?_mem hpoint)
    obtain ⟨hrow, hmatch⟩ := List.mem_filter.mp hrow
    obtain ⟨hproduct, hcounts⟩ : row.product = granule.product ∧ Counts row.status := by
      simpa [Counts] using hmatch
    exact h row hrow hproduct hcounts

end Tables

def Inserts (granule : GranuleCandidate) : IngestCall → Prop
  | .insertDownloadingRow other _ => other.SameKey granule
  | _ => False

/-- The loop of a pass comes to every granule of its list. -/
theorem processGranules_inevitable (config : IngestConfig) {granules : List GranuleCandidate}
    {granule : GranuleCandidate} (hmem : granule ∈ granules) (summary : IngestSummary) :
    (processGranules config granules summary).Inevitable (Inserts granule) := by
  induction granules generalizing summary with
  | nil => cases hmem
  | cons first granules ih =>
    rcases List.mem_cons.mp hmem with rfl | hmem
    · have hfirst : (processGranule config granule).Inevitable (Inserts granule) :=
        Or.inl ⟨rfl, rfl, rfl⟩
      exact hfirst.bind_left _
    · exact Program.Inevitable.bind_right (fun outcome => ih hmem _) _

theorem PassConfig.take_of_uncut {config : PassConfig} {discovery : List ProductDiscovery}
    (h : ∀ limit, config.ingestMaxGranules = some limit →
      (discovery.flatMap ProductDiscovery.granules).length ≤ limit) :
    config.take discovery = discovery.flatMap ProductDiscovery.granules := by
  unfold PassConfig.take
  cases hlimit : config.ingestMaxGranules with
  | none => rfl
  | some limit => exact List.take_of_length_le (h limit hlimit)

theorem product_of_mem_granules {cmr : Cmr} {product : String} {granule : GranuleCandidate}
    (h : granule ∈ cmr.granules product) : granule.product = product := by
  obtain ⟨entry, -, hparse⟩ := List.mem_filterMap.mp h
  simp only [parseEntry, Option.bind_eq_bind, Option.bind_eq_some_iff, Option.pure_def] at hparse
  obtain ⟨_, -, _, -, _, -, hgranule⟩ := hparse
  rw [← Option.some.inj hgranule]

namespace IngestPool

variable {pool pool' : IngestPool} {i : ℕ} {e : Env} {c : IngestCall}
  {next : c.Reply → IngestProgram Unit} {granule : GranuleCandidate}

/-- Some running command is sure to insert the granule's row. -/
def Awaited (pool : IngestPool) (granule : GranuleCandidate) : Prop :=
  ∃ (i : ℕ) (p : IngestProgram Unit), pool.procs[i]? = some p ∧ p.Inevitable (Inserts granule)

def AwaitedByOther (pool : IngestPool) (i : ℕ) (granule : GranuleCandidate) : Prop :=
  ∃ (j : ℕ) (p : IngestProgram Unit), j ≠ i ∧ pool.procs[j]? = some p ∧ p.Inevitable (Inserts granule)

/-- The granule can go without a row: it stays in the window, or another command inserts it. -/
def Droppable (pool : IngestPool) (i : ℕ) (granule : GranuleCandidate) : Prop :=
  pool.world.tables.InWindow granule ∨ pool.AwaitedByOther i granule

section Catalogue

variable (cmr : Cmr) (products : List String)

/-- A catalogue granule of a selected product. -/
def Selected (granule : GranuleCandidate) : Prop :=
  ∃ product ∈ products, granule ∈ cmr.granules product

/-- Every older granule of the product has a row that counts, or will be inserted. -/
def OlderHandled (pool : IngestPool) (product : String) (date : DateTime) : Prop :=
  ∀ granule, Selected cmr products granule → granule.product = product →
    granule.granuleDate < date → pool.world.tables.Counted granule ∨ pool.Awaited granule

/-- The condition on one call of command `i`: a row starts to count only when every older
granule is handled, and a granule ends up without one only when it can go without. -/
def CallKeepsWindow (pool : IngestPool) (i : ℕ) (e : Env) : IngestCall → Prop
  | .insertDownloadingRow granule _ =>
    if e.outcome ≠ .failed ∧ ¬ ∃ row ∈ pool.world.tables.ingestLog, SameGranule granule row then
      OlderHandled cmr products pool granule.product granule.granuleDate.timestamptz
    else ∀ other, Selected cmr products other → granule.SameKey other →
      ¬ pool.world.tables.Counted other → pool.Droppable i other
  | .setStatus ingestId status _ => e.outcome ≠ .failed →
      ∀ row ∈ pool.world.tables.ingestLog, row.id = ingestId →
        (Counts status → ¬ Counts row.status →
          OlderHandled cmr products pool row.product row.granuleDate) ∧
        (¬ Counts status → Counts row.status → ∀ granule, Selected cmr products granule →
          SameGranule granule row → pool.world.tables.InWindow granule ∨ pool.Awaited granule)
  | .replayRejectedStatus ingestId => e.outcome ≠ .failed →
      ∀ row ∈ pool.world.tables.ingestLog, row.id = ingestId → row.status = .rejected →
        OlderHandled cmr products pool row.product row.granuleDate
  | _ => True

def KeepsWindow (pool : IngestPool) : IngestEvent → Prop
  | .spawn _ => True
  | .act i e => ∀ c, pool.nextCall i = some c → CallKeepsWindow cmr products pool i e c
  | .stop i => ∀ granule, Selected cmr products granule →
      ¬ pool.world.tables.Counted granule → pool.Droppable i granule

/-- Every granule without a row that counts is in the window or will be inserted. -/
def WindowKept (pool : IngestPool) : Prop :=
  ∀ granule, Selected cmr products granule → ¬ pool.world.tables.Counted granule →
    pool.world.tables.InWindow granule ∨ pool.Awaited granule

end Catalogue

theorem AwaitedByOther.set (h : pool.AwaitedByOther i granule) (p : IngestProgram Unit)
    (world : IngestWorld) : Awaited ⟨world, pool.procs.set i p⟩ granule := by
  obtain ⟨j, q, hji, hj, hq⟩ := h
  exact ⟨j, q, by rw [List.getElem?_set_ne (Ne.symm hji)]; exact hj, hq⟩

theorem Awaited.other (h : pool.Awaited granule)
    (hself : ∀ p, pool.procs[i]? = some p → ¬ p.Inevitable (Inserts granule)) :
    pool.AwaitedByOther i granule := by
  obtain ⟨j, p, hj, hp⟩ := h
  refine ⟨j, p, ?_, hj, hp⟩
  rintro rfl
  exact hself p hj hp

/-- A call that does not insert the granule leaves it to be inserted. -/
theorem Awaited.act (h : pool.Awaited granule) (hi : pool.procs[i]? = some (.call c next))
    (hinserts : ¬ Inserts granule c) (reply : c.Reply) (world : IngestWorld) :
    Awaited ⟨world, pool.procs.set i (next reply)⟩ granule := by
  by_cases hself : (Program.call c next).Inevitable (Inserts granule)
  · have hlt : i < pool.procs.length := (List.getElem?_eq_some_iff.mp hi).1
    exact ⟨i, next reply, by simp [hlt], (hself.resolve_left hinserts) reply⟩
  · refine AwaitedByOther.set (h.other fun p hp => ?_) _ _
    rw [hi] at hp
    obtain rfl := Option.some.inj hp
    exact hself

section Step

variable {cmr : Cmr} {products : List String}

/-- After a call that takes effect and inserts another granule or none, a granule without a row
that counts is in the window, or was awaited. -/
theorem WindowKept.effect (h : WindowKept cmr products pool)
    (hkeeps : CallKeepsWindow cmr products pool i e c) (happlied : e.outcome ≠ .failed)
    (hselected : Selected cmr products granule) (hinserts : ¬ Inserts granule c)
    (huncounted : ¬ (effect e.now pool.world c).tables.Counted granule) :
    (effect e.now pool.world c).tables.InWindow granule ∨ pool.Awaited granule := by
  cases c with
  | insertDownloadingRow other blobPath =>
    by_cases hexists : ∃ row ∈ pool.world.tables.ingestLog, SameGranule other row
    · simp only [Ingest.effect, Tables.insertDownloadingRow, hexists, if_true] at huncounted ⊢
      exact h granule hselected huncounted
    · have holder :
          OlderHandled cmr products pool other.product other.granuleDate.timestamptz := by
        simpa [CallKeepsWindow, happlied, hexists] using hkeeps
      simp only [Ingest.effect, Tables.insertDownloadingRow, hexists, if_false] at huncounted ⊢
      have hbefore : ¬ pool.world.tables.Counted granule := by
        rintro ⟨row, hrow, hsame, hcounts⟩
        exact huncounted ⟨row, List.mem_append_left _ hrow, hsame, hcounts⟩
      rcases h granule hselected hbefore with hwindow | hawaited
      · by_cases hnewer : other.product = granule.product ∧
            granule.granuleDate < other.granuleDate.timestamptz
        · exact .inr ((holder granule hselected hnewer.1.symm hnewer.2).resolve_left hbefore)
        · refine .inl (Tables.inWindow_iff.mpr fun row hrow hproduct hcounts => ?_)
          rcases List.mem_append.mp hrow with hrow | hrow
          · exact Tables.inWindow_iff.mp hwindow row hrow hproduct hcounts
          · rw [List.mem_singleton.mp hrow] at hproduct ⊢
            exact not_lt.mp fun hlt => hnewer ⟨hproduct, hlt⟩
      · exact .inr hawaited
  | setStatus ingestId status errorMessage =>
    have hrule := hkeeps happlied
    change (pool.world.tables.setIngestStatus ingestId status errorMessage e.now).InWindow granule ∨ _
    by_cases hcounted : pool.world.tables.Counted granule
    · obtain ⟨row, hrow, hsame, hcounts⟩ := hcounted
      by_cases hmatch : row.id = ingestId
      · by_cases hstatus : Counts status
        · exact absurd ⟨_, Table.mem_update_of hrow hmatch, hsame, hstatus⟩ huncounted
        · refine ((hrule row hrow hmatch).2 hstatus hcounts granule hselected hsame).imp_left ?_
          intro hwindow
          refine Tables.inWindow_iff.mpr fun row' hrow' hproduct hcounts' => ?_
          obtain ⟨old, hold, ⟨-, rfl⟩ | ⟨-, rfl⟩⟩ := Table.mem_update.mp hrow'
          · exact absurd hcounts' hstatus
          · exact Tables.inWindow_iff.mp hwindow _ hold hproduct hcounts'
      · exact absurd ⟨row, Table.mem_update_of_not hrow hmatch, hsame, hcounts⟩ huncounted
    · rcases h granule hselected hcounted with hwindow | hawaited
      · by_cases hawaited : pool.Awaited granule
        · exact .inr hawaited
        refine .inl (Tables.inWindow_iff.mpr fun row' hrow' hproduct hcounts' => ?_)
        obtain ⟨old, hold, ⟨hid, rfl⟩ | ⟨-, rfl⟩⟩ := Table.mem_update.mp hrow'
        · by_cases hold' : Counts old.status
          · exact Tables.inWindow_iff.mp hwindow old hold hproduct hold'
          · refine not_lt.mp fun hlt => ?_
            have holder := (hrule old hold hid).1 hcounts' hold'
            exact (holder granule hselected hproduct.symm hlt).elim hcounted hawaited
        · exact Tables.inWindow_iff.mp hwindow _ hold hproduct hcounts'
      · exact .inr hawaited
  | replayRejectedStatus ingestId =>
    have hrule := hkeeps happlied
    change (pool.world.tables.replayRejectedStatus ingestId e.now).1.InWindow granule ∨ _
    have hbefore : ¬ pool.world.tables.Counted granule := by
      rintro ⟨row, hrow, hsame, hcounts⟩
      refine huncounted ⟨row, Table.mem_update_of_not hrow fun hmatch => ?_, hsame, hcounts⟩
      exact hcounts.2 hmatch.2
    rcases h granule hselected hbefore with hwindow | hawaited
    · by_cases hawaited : pool.Awaited granule
      · exact .inr hawaited
      refine .inl (Tables.inWindow_iff.mpr fun row' hrow' hproduct hcounts' => ?_)
      obtain ⟨old, hold, ⟨⟨hid, hs⟩, rfl⟩ | ⟨-, rfl⟩⟩ := Table.mem_update.mp hrow'
      · refine not_lt.mp fun hlt => ?_
        have holder := hrule old hold hid hs
        exact (holder granule hselected hproduct.symm hlt).elim hbefore hawaited
      · exact Tables.inWindow_iff.mp hwindow _ hold hproduct hcounts'
    · exact .inr hawaited
  | createPendingEnqueueOutbox ingestId reason =>
    have hlog : (Ingest.effect e.now pool.world
        (.createPendingEnqueueOutbox ingestId reason)).tables.ingestLog =
          pool.world.tables.ingestLog := by simp [Ingest.effect]
    rw [Tables.Counted, hlog] at huncounted
    rw [Tables.inWindow_iff, hlog, ← Tables.inWindow_iff]
    exact h granule hselected huncounted
  | _ => exact h granule hselected huncounted

/-- An insert that leaves its granule without a row that counts changes nothing. -/
theorem droppable_of_inserts (hkeeps : CallKeepsWindow cmr products pool i e c)
    (hselected : Selected cmr products granule) (hinserts : Inserts granule c)
    (huncounted : ¬ (answer c e pool.world).1.tables.Counted granule) :
    (answer c e pool.world).1.tables.ingestLog = pool.world.tables.ingestLog ∧
      pool.Droppable i granule := by
  cases c with
  | insertDownloadingRow other blobPath =>
    have hkey : other.SameKey granule := hinserts
    by_cases hnew : e.outcome ≠ .failed ∧
        ¬ ∃ row ∈ pool.world.tables.ingestLog, SameGranule other row
    · refine absurd ?_ huncounted
      rw [answer_world_of_applied hnew.1]
      simp only [Ingest.effect, Tables.insertDownloadingRow, hnew.2, if_false]
      refine ⟨_, List.mem_append_right _ (List.mem_singleton.mpr rfl), ?_, counts_downloading⟩
      exact SameGranule.congr ⟨rfl, rfl, rfl, rfl⟩ hkey
    · have hlog : (answer (.insertDownloadingRow other blobPath) e
          pool.world).1.tables.ingestLog = pool.world.tables.ingestLog := by
        by_cases hfailed : e.outcome = .failed
        · rw [answer_world_of_failed hfailed]
        · rw [answer_world_of_applied hfailed]
          have hexists := not_not.mp fun h => hnew ⟨hfailed, h⟩
          simp only [Ingest.effect, Tables.insertDownloadingRow, hexists, if_true]
      refine ⟨hlog, ?_⟩
      rw [Tables.Counted, hlog] at huncounted
      rw [CallKeepsWindow, if_neg hnew] at hkeeps
      exact hkeeps granule hselected hkey huncounted
  | _ => exact hinserts.elim

theorem WindowKept.act (h : WindowKept cmr products pool)
    (hi : pool.procs[i]? = some (.call c next))
    (hkeeps : CallKeepsWindow cmr products pool i e c) :
    WindowKept cmr products
      ⟨(answer c e pool.world).1, pool.procs.set i (next (answer c e pool.world).2)⟩ := by
  intro granule hselected huncounted
  by_cases hinserts : Inserts granule c
  · obtain ⟨hlog, hwindow | hother⟩ := droppable_of_inserts hkeeps hselected hinserts huncounted
    · left
      rw [Tables.inWindow_iff, hlog, ← Tables.inWindow_iff]
      exact hwindow
    · exact .inr (hother.set _ _)
  · have hkept : (answer c e pool.world).1.tables.InWindow granule ∨ pool.Awaited granule := by
      by_cases hfailed : e.outcome = .failed
      · rw [answer_world_of_failed hfailed] at huncounted ⊢
        exact h granule hselected huncounted
      · rw [answer_world_of_applied hfailed] at huncounted ⊢
        exact h.effect hkeeps hfailed hselected hinserts huncounted
    exact hkept.imp_right fun hawaited => hawaited.act hi hinserts _ _

theorem WindowKept.step {event : IngestEvent} (h : WindowKept cmr products pool)
    (hkeeps : KeepsWindow cmr products pool event) (hstep : pool.step event = some pool') :
    WindowKept cmr products pool' := by
  rcases Pool.step_cases hstep with
    ⟨p, rfl, rfl⟩ | ⟨i, e, c, next, rfl, hi, rfl⟩ | ⟨i, c, next, rfl, hi, rfl⟩
  · intro granule hselected huncounted
    refine (h granule hselected huncounted).imp_right ?_
    rintro ⟨j, q, hj, hq⟩
    exact ⟨j, q, by rw [List.getElem?_append_left (List.getElem?_eq_some_iff.mp hj).1]; exact hj, hq⟩
  · exact h.act hi (hkeeps c (Pool.nextCall_eq_some_iff.mpr ⟨next, hi⟩))
  · intro granule hselected huncounted
    rcases hkeeps granule hselected huncounted with hwindow | hother
    · exact .inl hwindow
    · exact .inr (hother.set _ _)

end Step

/-- A pass of the service: discovery reads its resume points in the tables it starts from. -/
def PassStarts (config : PassConfig) (cmr : Cmr) (pool : IngestPool) (event : IngestEvent) : Prop :=
  ∀ p, event = .spawn p → ∃ request, cmr.Serves request ∧
    p = (runIngestInner config cmr request pool.world.tables >>= fun _ => pure ())

/-- Between passes, every catalogue granule that has no row, or only a failed or rejected one,
is in the window of the next discovery. -/
def NoGranuleLost (config : PassConfig) (cmr : Cmr) (pool : IngestPool) : Prop :=
  Pool.Quiescent pool → ∀ granule, Selected cmr config.ingestProducts granule →
    ¬ pool.world.tables.Counted granule → pool.world.tables.InWindow granule

/-- Between passes, every such granule is found by the next discovery that gets its answers, and a
pass that its limit does not cut comes to its insert. -/
def NextPassInserts (config : PassConfig) (cmr : Cmr) (pool : IngestPool) : Prop :=
  Pool.Quiescent pool → ∀ granule, Selected cmr config.ingestProducts granule →
    ¬ pool.world.tables.Counted granule → defaultTemporalStart ≤ granule.granuleDate →
    ∀ request, cmr.Serves request →
      (∃ error, discover cmr request pool.world.tables.resumePoint config.ingestProducts =
        some (.error error)) ∨
      ∃ discovery, discover cmr request pool.world.tables.resumePoint config.ingestProducts =
          some (.ok discovery) ∧
        granule ∈ discovery.flatMap ProductDiscovery.granules ∧
        ((∀ limit, config.ingestMaxGranules = some limit →
            (discovery.flatMap ProductDiscovery.granules).length ≤ limit) →
          ∀ summary, (processGranules config.toIngestConfig (config.take discovery)
            summary).Inevitable (Inserts granule))

theorem windowKept_empty (cmr : Cmr) (products : List String) : WindowKept cmr products empty := by
  intro granule _ _
  refine .inl (Tables.inWindow_iff.mpr fun row hrow => ?_)
  cases hrow

theorem WindowKept.noGranuleLost {config : PassConfig} {cmr : Cmr}
    (h : WindowKept cmr config.ingestProducts pool) : NoGranuleLost config cmr pool := by
  intro hquiet granule hselected huncounted
  refine (h granule hselected huncounted).resolve_right ?_
  rintro ⟨j, p, hj, hp⟩
  have hdone := hquiet p (List.mem_of_getElem? hj)
  cases p with
  | done a => exact hp
  | call c next => cases hdone

theorem NoGranuleLost.nextPassInserts {config : PassConfig} {cmr : Cmr}
    (h : NoGranuleLost config cmr pool) : NextPassInserts config cmr pool := by
  intro hquiet granule hselected huncounted hstart request hserves
  have hwindow := h hquiet granule hselected huncounted
  obtain ⟨product, hproduct, hgranule⟩ := hselected
  obtain rfl := product_of_mem_granules hgranule
  have hfrom : (pool.world.tables.resumePoint granule.product).getD defaultTemporalStart ≤
      granule.granuleDate := by
    cases hpoint : pool.world.tables.resumePoint granule.product with
    | none => exact hstart
    | some point => exact hwindow point hpoint
  cases hdiscover : discover cmr request pool.world.tables.resumePoint config.ingestProducts with
  | none => exact absurd hdiscover (discover_ne_none hserves _ _)
  | some outcome =>
    cases outcome with
    | error error => exact .inl ⟨error, rfl⟩
    | ok discovery =>
      have hfound := mem_discover hserves hdiscover hproduct hgranule hfrom
      refine .inr ⟨discovery, rfl, hfound, fun huncut summary => ?_⟩
      rw [PassConfig.take_of_uncut huncut]
      exact processGranules_inevitable _ hfound summary

/-- In every run of passes whose steps meet the condition, no granule is lost: the next discovery
finds those that are missing, and the next pass can insert them. -/
theorem noGranuleLost_of_run {config : PassConfig} {cmr : Cmr}
    (h : Reaches step (fun pool event => PassStarts config cmr pool event ∧
      KeepsWindow cmr config.ingestProducts pool event) empty pool) :
    NoGranuleLost config cmr pool ∧ NextPassInserts config cmr pool := by
  have hinv : WindowKept cmr config.ingestProducts pool :=
    h.invariant (windowKept_empty cmr config.ingestProducts)
      fun _ _ _ hinv hguard hstep => hinv.step hguard.2 hstep
  exact ⟨hinv.noGranuleLost, hinv.noGranuleLost.nextPassInserts⟩

end IngestPool

/-! ## A catalogue of two days -/

/-- The RFC 3339 parser on the two times of the sample catalogue. -/
def sampleParseTime (text : String) : Option DateTime :=
  if text = "2024-05-21T00:00:00Z" then
    some { year := 2024, month := 5, day := 21, nanoOfDay := 0 }
  else if text = "2024-05-22T00:00:00Z" then
    some { year := 2024, month := 5, day := 22, nanoOfDay := 0 }
  else none

def sampleEntry (title timeStart : String) : CmrEntry where
  title := title
  producerGranuleId := some title
  timeStart := timeStart
  links := [{ href := "https://archive.example.test/" ++ title, rel := some cmrDataLinkRel }]

def olderEntry : CmrEntry :=
  sampleEntry "VNP46A2.A2024142.h08v05.002.h5" "2024-05-21T00:00:00Z"

def newerEntry : CmrEntry :=
  sampleEntry "VNP46A2.A2024143.h08v05.002.h5" "2024-05-22T00:00:00Z"

/-- Two granules of tile h08v05, one of 21 and one of 22 May 2024. -/
def sampleCmr : Cmr where
  parseTime := sampleParseTime
  entries product :=
    if product = "VNP46A2" then
      [olderEntry, newerEntry]
    else []
  startDate entry := (sampleParseTime entry.timeStart).getD defaultTemporalStart
  startDate_eq entry date h := by simp [h]

def samplePassConfig : PassConfig where
  azureQueueName := "viirs-processing"
  ingestProducts := ["VNP46A2"]
  ingestMaxGranules := none

def sampleRequest : CmrRequest := fun product resumeFrom pageNum =>
  .ok (resultPage (sampleCmr.found product resumeFrom) pageNum)

def olderGranule : GranuleCandidate where
  product := "VNP46A2"
  title := "VNP46A2.A2024142.h08v05.002.h5"
  producerGranuleId := "VNP46A2.A2024142.h08v05.002.h5"
  dataHref := "https://archive.example.test/VNP46A2.A2024142.h08v05.002.h5"
  granuleDate := { year := 2024, month := 5, day := 21, nanoOfDay := 0 }
  tile := { h := 8, v := 5 }

def newerGranule : GranuleCandidate where
  product := "VNP46A2"
  title := "VNP46A2.A2024143.h08v05.002.h5"
  producerGranuleId := "VNP46A2.A2024143.h08v05.002.h5"
  dataHref := "https://archive.example.test/VNP46A2.A2024143.h08v05.002.h5"
  granuleDate := { year := 2024, month := 5, day := 22, nanoOfDay := 0 }
  tile := { h := 8, v := 5 }

theorem parseEntry_older :
    parseEntry sampleCmr.parseTime "VNP46A2" olderEntry = some olderGranule := by decide +kernel

theorem parseEntry_newer :
    parseEntry sampleCmr.parseTime "VNP46A2" newerEntry = some newerGranule := by decide +kernel

theorem sampleCmr_granules : sampleCmr.granules "VNP46A2" = [olderGranule, newerGranule] := by
  have hentries : sampleCmr.entries "VNP46A2" = [olderEntry, newerEntry] := rfl
  rw [Cmr.granules, hentries]
  simp [parseEntry_older, parseEntry_newer]

theorem discoverProduct_sample :
    discoverProduct sampleCmr.parseTime (sampleRequest "VNP46A2" none)
      (sampleCmr.pageBudget "VNP46A2") "VNP46A2" = some (.ok {
        product := "VNP46A2"
        granules := [newerGranule, olderGranule]
        skippedEntries := 0
        pagesFetched := 1 }) := by
  have hpage : sampleRequest "VNP46A2" none 1 = .ok [newerEntry, olderEntry] := by decide +kernel
  have hbudget : sampleCmr.pageBudget "VNP46A2" = 0 + 1 := rfl
  rw [hbudget, discoverProduct, discoverPages_ok _ _ _ hpage]
  simp [shouldFetchNextPage, pageSize, appendPageDiscovery, parseProductResponse,
    emptyProductDiscovery, parseEntry_older, parseEntry_newer]

/-- The first pass over the sample catalogue, newest granule first. -/
theorem runIngestInner_sample :
    runIngestInner samplePassConfig sampleCmr sampleRequest IngestPool.empty.world.tables =
      ingestGranules samplePassConfig.toIngestConfig [newerGranule, olderGranule]
        (IngestSummary.new 2) := by
  have hdiscover : discover sampleCmr sampleRequest IngestPool.empty.world.tables.resumePoint
      samplePassConfig.ingestProducts = some (.ok [{
        product := "VNP46A2"
        granules := [newerGranule, olderGranule]
        skippedEntries := 0
        pagesFetched := 1 }]) := by
    have hpoint : IngestPool.empty.world.tables.resumePoint "VNP46A2" = none := rfl
    simp [discover, samplePassConfig, hpoint, discoverProduct_sample]
  rw [runIngestInner, hdiscover]
  rfl

namespace IngestPool

def samplePass : IngestProgram Unit :=
  ingestGranules samplePassConfig.toIngestConfig [newerGranule, olderGranule]
    (IngestSummary.new 2) >>= fun _ => pure ()

theorem samplePass_starts : PassStarts samplePassConfig sampleCmr empty (.spawn samplePass) := by
  rintro p ⟨⟩
  refine ⟨sampleRequest, fun _ _ _ => .inr rfl, ?_⟩
  rw [runIngestInner_sample]
  rfl

/-- The newer granule is enqueued, then the insert of the older one fails: the next discovery
starts a day after it. -/
theorem not_noGranuleLost_halfPass :
    ∃ pool, Reaches step (PassStarts samplePassConfig sampleCmr) empty pool ∧
      ¬ NoGranuleLost samplePassConfig sampleCmr pool := by
  have hrun : ∃ pool, Reaches step (PassStarts samplePassConfig sampleCmr)
      ⟨empty.world, [samplePass]⟩ pool ∧ decide (Pool.Quiescent pool ∧
        ¬ pool.world.tables.Counted olderGranule ∧
        pool.world.tables.resumePoint olderGranule.product = some newerGranule.granuleDate) =
          true := by
    apply exists_reaches_of_runSteps (List.replicate 12 (PoolEvent.act 0 (sampleEnv .ok)) ++
      [PoolEvent.act 0 (sampleEnv .failed)])
    · rintro _ event hevent p rfl
      simp at hevent
    · decide +kernel
  obtain ⟨pool, hreaches, htest⟩ := hrun
  obtain ⟨hquiet, huncounted, hpoint⟩ := of_decide_eq_true htest
  refine ⟨pool, (Reaches.start.next samplePass_starts rfl).trans hreaches, fun h => ?_⟩
  have hselected : Selected sampleCmr samplePassConfig.ingestProducts olderGranule := by
    refine ⟨"VNP46A2", List.mem_singleton.mpr rfl, ?_⟩
    rw [sampleCmr_granules]
    exact List.mem_cons_self
  have hlate := h hquiet olderGranule hselected huncounted newerGranule.granuleDate hpoint
  exact absurd hlate (by decide)

theorem eq_of_selected_sample (h : Selected sampleCmr samplePassConfig.ingestProducts granule) :
    granule = olderGranule ∨ granule = newerGranule := by
  obtain ⟨product, hproduct, hgranule⟩ := h
  rw [List.mem_singleton.mp hproduct, sampleCmr_granules] at hgranule
  exact List.mem_pair.mp hgranule

/-- No row starts to count but the oldest one, and none stops to count. -/
def onlyOlderCounts (pool : IngestPool) (e : Env) : IngestCall → Bool
  | .insertDownloadingRow granule _ =>
    if e.outcome = .failed then pool.world.tables.ingestLog.isEmpty
    else decide (granule = olderGranule ∧
      ¬ ∃ row ∈ pool.world.tables.ingestLog, SameGranule granule row)
  | .setStatus _ status _ =>
    decide (Counts status ∧ ∀ row ∈ pool.world.tables.ingestLog, Counts row.status)
  | .replayRejectedStatus _ => false
  | _ => true

theorem callKeepsWindow_of_onlyOlderCounts (h : onlyOlderCounts pool e c = true) :
    CallKeepsWindow sampleCmr samplePassConfig.ingestProducts pool i e c := by
  cases c with
  | insertDownloadingRow granule blobPath =>
    rw [onlyOlderCounts] at h
    by_cases hfailed : e.outcome = .failed
    · rw [if_pos hfailed] at h
      rw [CallKeepsWindow, if_neg fun hinserts => hinserts.1 hfailed]
      intro other _ _ _
      refine .inl (Tables.inWindow_iff.mpr fun row hrow => ?_)
      rw [List.isEmpty_iff.mp h] at hrow
      cases hrow
    · rw [if_neg hfailed] at h
      obtain ⟨rfl, hnew⟩ := of_decide_eq_true h
      rw [CallKeepsWindow, if_pos ⟨hfailed, hnew⟩]
      intro granule hselected _ holder
      rcases eq_of_selected_sample hselected with rfl | rfl
      · exact absurd holder (by decide)
      · exact absurd holder (by decide)
  | setStatus ingestId status errorMessage =>
    obtain ⟨hcounts, hrows⟩ := of_decide_eq_true h
    intro _ row hrow _
    exact ⟨fun _ hrow' => absurd (hrows row hrow) hrow', fun hstatus => absurd hcounts hstatus⟩
  | replayRejectedStatus ingestId => cases h
  | _ => trivial

def onlyOlderCountsAt (pool : IngestPool) : IngestEvent → Bool
  | .act i e => (pool.nextCall i).all (onlyOlderCounts pool e)
  | _ => false

/-- The newer granule's insert fails and the older one is enqueued: the newer one, without a row,
is what the next pass inserts. -/
theorem noGranuleLost_failedInsert : ∃ pool : IngestPool,
    (NoGranuleLost samplePassConfig sampleCmr pool ∧
      NextPassInserts samplePassConfig sampleCmr pool) ∧
    Pool.Quiescent pool ∧ pool.world.tables.Counted olderGranule ∧
      ¬ pool.world.tables.Counted newerGranule := by
  have hstart : Reaches step (fun pool event => PassStarts samplePassConfig sampleCmr pool event ∧
      KeepsWindow sampleCmr samplePassConfig.ingestProducts pool event) empty
      ⟨empty.world, [samplePass]⟩ := Reaches.start.next ⟨samplePass_starts, trivial⟩ rfl
  have hrun : ∃ pool, Reaches step (fun pool event => PassStarts samplePassConfig sampleCmr pool
      event ∧ KeepsWindow sampleCmr samplePassConfig.ingestProducts pool event)
        ⟨empty.world, [samplePass]⟩ pool ∧
      decide (Pool.Quiescent pool ∧ pool.world.tables.Counted olderGranule ∧
        ¬ pool.world.tables.Counted newerGranule) = true := by
    apply exists_reaches_of_checkedSteps onlyOlderCountsAt
      (List.replicate 3 (PoolEvent.act 0 (sampleEnv .ok)) ++
        (PoolEvent.act 0 (sampleEnv .failed) ::
          List.replicate 9 (PoolEvent.act 0 (sampleEnv .ok))))
    · intro pool event _ hcheck
      cases event with
      | act i e =>
        refine ⟨nofun, fun c hc => callKeepsWindow_of_onlyOlderCounts ?_⟩
        rwa [onlyOlderCountsAt, hc] at hcheck
      | _ => cases hcheck
    · decide +kernel
  obtain ⟨pool, hreaches, htest⟩ := hrun
  obtain ⟨hquiet, holder, hnewer⟩ := of_decide_eq_true htest
  exact ⟨pool, noGranuleLost_of_run (hstart.trans hreaches), hquiet, holder, hnewer⟩

end IngestPool
end LumenHorizon.Ingest
