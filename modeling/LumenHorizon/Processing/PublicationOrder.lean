import LumenHorizon.Processing.Publishers

/-! # The order of publication

Each thing that is published is published after what it refers to: the manifest after its tiles,
the row after its manifest, the pointer and the processed status after the row. So without
cleanups nothing refers to something that is not there, after any prefix of any interleaving.
-/

namespace LumenHorizon.Processing
open Foundation Shared Program

def ProcessingWorld.TilesExist (w : ProcessingWorld) (publisher : Publisher) : Prop :=
  ∀ tile ∈ publisher.tiles, ∃ path, tileBlobPath publisher.tileSetId tile.coord = .ok path ∧
    w.processedBlobs.Exists path

/-- The immutable manifest of the tile set is there. -/
def ProcessingWorld.ManifestExists (w : ProcessingWorld) (tileSetId : String) : Prop :=
  ∃ path, manifestBlobPath tileSetId = .ok path ∧ w.processedBlobs.Exists path

def ProcessingWorld.RowExists (w : ProcessingWorld) (tileSetId : String) : Prop :=
  ∃ row ∈ w.tileSets, row.id = tileSetId

structure PublicationOrdered (publishers : Set Publisher) (w : ProcessingWorld) : Prop where
  manifestOfRow : ∀ row ∈ w.tileSets, w.ManifestExists row.id
  tilesOfManifest : ∀ publisher ∈ publishers, w.ManifestExists publisher.tileSetId →
    w.TilesExist publisher
  keyed : w.tileSets.Keyed
  pointer : ∀ blob, (latestManifestBlobPath, blob) ∈ w.processedBlobs →
    ∃ pointer, blob = .latestPointer pointer ∧
      manifestBlobPath pointer.tileSetId = .ok pointer.manifestBlobPath ∧
      w.processedBlobs.Exists pointer.manifestBlobPath ∧ w.RowExists pointer.tileSetId
  processed : ∀ row ∈ w.processingLog, row.status = .processed →
    ∃ tileSetId, row.tileSetId = some tileSetId ∧ w.RowExists tileSetId

def PublicationFact (w : ProcessingWorld) : (c : ProcessingCall) → c.Reply → Prop
  | .uploadProcessedBlob path _, .ok _ => w.processedBlobs.Exists path
  | .insertTileSet manifest, .ok _ => w.RowExists manifest.tileSetId
  | .promoteLatestTileSet tileSetId, .ok _ => w.RowExists tileSetId
  | _, _ => True

variable {w : ProcessingWorld} {c : ProcessingCall} {e : Env}

def KeepsBlobs (c : ProcessingCall) : Prop := ∀ path, c ≠ .deleteProcessedBlob path

theorem PublicationFact.after {c' : ProcessingCall} {reply : c'.Reply}
    (h : PublicationFact w c' reply) (hkeeps : KeepsBlobs c) :
    PublicationFact (answer c e w).1 c' reply := by
  cases c' with
  | uploadProcessedBlob path blob =>
    cases reply with
    | error error => trivial
    | ok _ => exact answer_exists h fun hdelete => absurd hdelete (hkeeps path)
  | insertTileSet manifest =>
    cases reply with
    | error error => trivial
    | ok _ => exact answer_row c e h
  | promoteLatestTileSet tileSetId =>
    cases reply with
    | error error => trivial
    | ok _ => exact answer_row c e h
  | _ => trivial

theorem publicationFact_answer (c : ProcessingCall) (e : Env) (w : ProcessingWorld) :
    PublicationFact (answer c e w).1 c (answer c e w).2 := by
  cases c with
  | uploadProcessedBlob path blob =>
    generalize hreply : (answer (.uploadProcessedBlob path blob) e w).2 = reply
    cases reply with
    | error error => trivial
    | ok _ => exact exists_of_uploaded hreply
  | insertTileSet manifest =>
    generalize hreply : (answer (.insertTileSet manifest) e w).2 = reply
    cases reply with
    | error error => trivial
    | ok _ =>
      obtain ⟨row, hrow, hid, -⟩ := mem_of_inserted hreply
      exact ⟨row, hrow, hid⟩
  | promoteLatestTileSet tileSetId =>
    generalize hreply : (answer (.promoteLatestTileSet tileSetId) e w).2 = reply
    cases reply with
    | error error => trivial
    | ok _ => exact answer_row _ e (row_of_promoted hreply)
  | _ => trivial

theorem PublisherRule.keepsBlobs {publisher : Publisher} {t : History}
    (h : PublisherRule publisher t c) : KeepsBlobs c := by
  rintro path rfl
  exact h

theorem keepsBlobs_of_not_onPublished (h : ¬ OnPublished c) : KeepsBlobs c := by
  rintro path rfl
  exact h trivial

theorem ProcessingWorld.ManifestExists.after {tileSetId : String} (h : w.ManifestExists tileSetId)
    (hkeeps : KeepsBlobs c) : (answer c e w).1.ManifestExists tileSetId := by
  obtain ⟨path, hpath, hexists⟩ := h
  exact ⟨path, hpath, answer_exists hexists fun hdelete => absurd hdelete (hkeeps path)⟩

theorem ProcessingWorld.TilesExist.after {publisher : Publisher} (h : w.TilesExist publisher)
    (hkeeps : KeepsBlobs c) : (answer c e w).1.TilesExist publisher := by
  intro tile htile
  obtain ⟨path, hpath, hexists⟩ := h tile htile
  exact ⟨path, hpath, answer_exists hexists fun hdelete => absurd hdelete (hkeeps path)⟩

theorem tilesExist_of_uploaded {publisher : Publisher} {t : History}
    (ht : Witnessed (fun _ c reply => PublicationFact w c reply) t)
    (h : TilesUploaded publisher.tileSetId publisher.tiles t) : w.TilesExist publisher := by
  intro tile htile
  obtain ⟨path, hpath, hmade⟩ := h tile htile
  obtain ⟨-, hexists⟩ := ht.of_mem hmade
  exact ⟨path, hpath, hexists⟩

/-- A processed row after a call was processed before it with the same tile set, or is marked by
it. -/
theorem mem_answer_processed {row' : ProcessingRow} (h : row' ∈ (answer c e w).1.processingLog)
    (hstatus : row'.status = .processed) :
    (∃ row ∈ w.processingLog, row.status = .processed ∧ row.tileSetId = row'.tileSetId) ∨
      ∃ ingestId tileSetId, c = .markEnding ingestId (.processed tileSetId) ∧
        row'.tileSetId = some tileSetId := by
  rcases answer_effect c e w with ⟨-, hw⟩ | ⟨-, finished, hw⟩
  · rw [hw] at h
    exact .inl ⟨row', h, hstatus, rfl⟩
  · rw [hw] at h
    cases c with
    | upsertProcessingStarted message =>
      rcases w.processingLog.upsertProcessingStarted_cases (w.Known message.ingestId) message
        w.nextId e.now with ⟨_, heq, -⟩ | ⟨-, -, heq⟩ | ⟨-, row, -, -, -, heq⟩
      · simp only [effect, heq] at h
        exact .inl ⟨row', h, hstatus, rfl⟩
      · simp only [effect, heq] at h
        rcases List.mem_append.mp h with h | h
        · exact .inl ⟨row', h, hstatus, rfl⟩
        · rw [List.mem_singleton.mp h] at hstatus
          cases hstatus
      · simp only [effect, heq] at h
        obtain ⟨old, hold, ⟨-, rfl⟩ | ⟨-, rfl⟩⟩ := Table.mem_update.mp h
        · cases hstatus
        · exact .inl ⟨row', hold, hstatus, rfl⟩
    | updateProcessingMetadata id metadata cloudFraction valid rejected =>
      obtain ⟨old, hold, ⟨-, rfl⟩ | ⟨-, rfl⟩⟩ := Table.mem_update.mp h
      · exact .inl ⟨old, hold, hstatus, rfl⟩
      · exact .inl ⟨row', hold, hstatus, rfl⟩
    | markEnding ingestId ending =>
      obtain ⟨old, hold, ⟨-, rfl⟩ | ⟨-, rfl⟩⟩ := Table.mem_update.mp h
      · cases ending with
        | processed tileSetId => exact .inr ⟨ingestId, tileSetId, rfl, rfl⟩
        | failed | deadlettered | rejected => cases hstatus
      · exact .inl ⟨row', hold, hstatus, rfl⟩
    | _ => exact .inl ⟨row', h, hstatus, rfl⟩

variable {publishers : Set Publisher} {t : History}

/-- What the calls keep, for a call that the rules allow after a history the world vouches for. -/
theorem PublicationOrdered.after (h : PublicationOrdered publishers w)
    (hdistinct : Set.InjOn Publisher.tileSetId publishers)
    (ht : Witnessed (fun _ c reply => PublicationFact w c reply) t)
    (hrule : (∃ publisher ∈ publishers, PublisherRule publisher t c) ∨ ¬ OnPublished c)
    (hkeeps : KeepsBlobs c) : PublicationOrdered publishers (answer c e w).1 where
  manifestOfRow := by
    intro row' hrow'
    rcases mem_answer_tileSets hrow' with ⟨row, hrow, hlater⟩ | ⟨manifest, path, rfl, rfl⟩
    · rw [hlater.1]
      exact (h.manifestOfRow row hrow).after hkeeps
    · rcases hrule with ⟨publisher, -, hmanifest, path, hpath, t', rfl⟩ | hrule
      · rw [← Publisher.manifest_tileSetId hmanifest] at hpath
        exact ProcessingWorld.ManifestExists.after ⟨path, hpath, ht.1⟩ hkeeps
      · exact absurd trivial hrule
  tilesOfManifest := by
    rintro publisher hmem ⟨path, hpath, blob, hblob⟩
    rcases mem_answer_processedBlobs hblob with hold | rfl
    · exact (h.tilesOfManifest publisher hmem ⟨path, hpath, blob, hold⟩).after hkeeps
    · rcases hrule with ⟨uploader, huploader, hrule⟩ | hrule
      · cases blob with
        | tile =>
          obtain ⟨tile, -, htile⟩ := hrule
          exact absurd rfl (tileBlobPath_ne_manifest htile hpath)
        | manifest manifest =>
          obtain ⟨-, hpath', htiles⟩ := hrule
          -- distinct tile sets have distinct manifests
          obtain rfl : uploader = publisher :=
            hdistinct huploader hmem (manifestBlobPath_injective hpath' hpath)
          exact (tilesExist_of_uploaded ht htiles).after hkeeps
        | latestPointer pointer =>
          exact absurd hrule.1 (manifestBlobPath_ne_latest hpath publisher.tileSetId_ne_latest)
      · exact absurd trivial hrule
  keyed := by
    rcases answer_tileSets c e w with hrows | ⟨-, statement, -, hrows⟩
    · rw [hrows]
      exact h.keyed
    · rw [hrows]
      exact h.keyed.execute statement
  pointer := by
    intro blob hblob
    rcases mem_answer_processedBlobs hblob with hold | rfl
    · obtain ⟨pointer, rfl, hpath, hexists, hrow⟩ := h.pointer blob hold
      exact ⟨pointer, rfl, hpath,
        answer_exists hexists fun hdelete => absurd hdelete (hkeeps _), answer_row c e hrow⟩
    · rcases hrule with ⟨publisher, -, hrule⟩ | hrule
      · obtain ⟨pointer, rfl, -, hpath⟩ := pointer_of_rule hrule
        obtain ⟨-, hid, -, t', rfl⟩ := hrule
        have hrow : w.RowExists pointer.tileSetId := hid ▸ ht.1
        obtain ⟨row, hmem, hrowId⟩ := hrow
        obtain ⟨path, hpath', hexists⟩ := h.manifestOfRow row hmem
        rw [hrowId] at hpath'
        cases hpath.symm.trans hpath'
        exact ⟨pointer, rfl, hpath, answer_exists hexists nofun, answer_row _ e ⟨row, hmem, hrowId⟩⟩
      · exact absurd trivial hrule
  processed := by
    intro row' hrow' hstatus
    rcases mem_answer_processed hrow' hstatus with
      ⟨row, hrow, hold, htile⟩ | ⟨ingestId, tileSetId, rfl, htile⟩
    · obtain ⟨tileSetId, hset, hexists⟩ := h.processed row hrow hold
      exact ⟨tileSetId, htile.symm.trans hset, answer_row c e hexists⟩
    · rcases hrule with ⟨publisher, -, -, -, hmade⟩ | hrule
      · obtain ⟨-, hexists⟩ := ht.of_mem hmade
        exact ⟨tileSetId, htile, answer_row _ e hexists⟩
      · exact absurd ⟨tileSetId, rfl⟩ hrule

namespace ProcessingPool

variable {pool pool' : ProcessingPool} {event : ProcessingEvent}

/-- What every run of publishers and bystanders keeps. -/
structure OrderInvariant (publishers : Set Publisher) (pool : ProcessingPool) : Prop where
  vouched : ∀ p ∈ pool.procs, p.next? ≠ none → Pool.Vouched (Publishing publishers)
    (fun w _ c reply => Possible c reply ∧ PublicationFact w c reply) pool.world p
  ordered : PublicationOrdered publishers pool.world

theorem orderInvariant_empty : empty.OrderInvariant publishers where
  vouched := fun _ h => absurd h List.not_mem_nil
  ordered := {
    manifestOfRow := fun _ h => absurd h List.not_mem_nil
    tilesOfManifest := fun _ _ ⟨_, _, _, h⟩ => absurd h List.not_mem_nil
    keyed := TileSetTable.keyed_nil
    pointer := fun _ h => absurd h List.not_mem_nil
    processed := fun _ h => absurd h List.not_mem_nil }

theorem OrderInvariant.step (h : pool.OrderInvariant publishers)
    (hdistinct : Set.InjOn Publisher.tileSetId publishers)
    (hstarts : StartsOnly (Publishing publishers) event) (hstep : pool.step event = some pool') :
    pool'.OrderInvariant publishers := by
  have hrule : ∀ {p₀ : ProcessingProgram Unit} {t : History} {c : ProcessingCall}
      {next : c.Reply → ProcessingProgram Unit}, Publishing publishers p₀ →
      p₀.Follows t (.call c next) →
      Witnessed (fun _ c reply => Possible c reply ∧ PublicationFact pool.world c reply) t →
      ((∃ publisher ∈ publishers, PublisherRule publisher t c) ∨ ¬ OnPublished c) ∧ KeepsBlobs c := by
    intro p₀ t c next hp₀ hfollows ht
    have hrule := hp₀.rule hfollows (possible_of_witnessed (ht.mono fun _ _ _ h => h.1))
    refine ⟨hrule, ?_⟩
    rcases hrule with ⟨publisher, -, hrule⟩ | hrule
    · exact hrule.keepsBlobs
    · exact keepsBlobs_of_not_onPublished hrule
  constructor
  · apply Pool.vouched_step hstep hstarts _ h.vouched
    intro p₀ t c next e hp₀ hfollows ht
    refine ⟨⟨possible_answer c e _, publicationFact_answer c e _⟩, fun t' c' reply hfact => ?_⟩
    exact ⟨hfact.1, hfact.2.after (hrule hp₀ hfollows ht).2⟩
  · rcases Pool.step_cases hstep with
      ⟨p, rfl, rfl⟩ | ⟨i, e, c, next, rfl, hi, rfl⟩ | ⟨i, c, next, rfl, hi, rfl⟩
    · exact h.ordered
    · obtain ⟨p₀, t, hp₀, hfollows, ht⟩ := h.vouched _ (List.mem_of_getElem? hi) nofun
      obtain ⟨hrule, hkeeps⟩ := hrule hp₀ hfollows ht
      exact h.ordered.after hdistinct (ht.mono fun _ _ _ h => h.2) hrule hkeeps
    · exact h.ordered

/-- Publishers with distinct tile set ids publish in order, whatever else runs beside them, short
of a cleanup. -/
theorem publicationOrdered_of_run (publishers : Set Publisher)
    (hdistinct : Set.InjOn Publisher.tileSetId publishers) (pool : ProcessingPool)
    (hrun : Reaches step (fun _ => StartsOnly (Publishing publishers)) empty pool) :
    PublicationOrdered publishers pool.world :=
  (hrun.invariant orderInvariant_empty
    fun _ _ _ h hstarts hstep => h.step hdistinct hstarts hstep).ordered

/-- Two attempts on one message, the first with a tile. -/
def samplePublishers : Set Publisher := {samplePublisher 1 [sampleTile], samplePublisher 2 []}

theorem samplePublishers_distinct : Set.InjOn Publisher.tileSetId samplePublishers := by
  have hne : (samplePublisher 1 [sampleTile]).tileSetId ≠ (samplePublisher 2 []).tileSetId := by
    decide
  rintro a (rfl | rfl) b (rfl | rfl) hid
  · rfl
  · exact absurd hid hne
  · exact absurd hid.symm hne
  · rfl

/-- The start of the ingest row and of its processing row. -/
def sampleStart : ProcessingProgram Unit := do
  let _ ← ProcessingProgram.insertIngestRow (sampleIngestRow 1)
  let _ ← ProcessingProgram.upsertProcessingStarted (sampleProcessingMessage 1)

theorem sampleStart_bystander : Bystander sampleStart :=
  ⟨fun h => h, fun _ => ⟨fun h => h, fun _ => trivial⟩⟩

/-- The two take turns; the second ends in an upload of the pointer that fails. -/
def inTurnEvents : List ProcessingEvent :=
  [.spawn sampleStart, .act 0 (sampleEnv .ok 0 0), .act 0 (sampleEnv .ok 0 0),
    .spawn (samplePublisher 1 [sampleTile]).program, .spawn (samplePublisher 2 []).program,
    .act 1 (sampleEnv .ok 0 0), .act 2 (sampleEnv .ok 0 0), .act 1 (sampleEnv .ok 0 0),
    .act 2 (sampleEnv .ok 0 0), .act 1 (sampleEnv .ok 0 0), .act 2 (sampleEnv .ok 0 0),
    .act 1 (sampleEnv .ok 0 0), .act 2 (sampleEnv .failed 0 0), .act 1 (sampleEnv .ok 0 0),
    .act 1 (sampleEnv .ok 0 0)]

theorem inTurnEvents_starts : ∀ event ∈ inTurnEvents,
    StartsOnly (Publishing samplePublishers) event := by
  intro event hevent p hp
  have hspawns : p = sampleStart ∨ p = (samplePublisher 1 [sampleTile]).program ∨
      p = (samplePublisher 2 []).program := by
    simpa [inTurnEvents, hp] using hevent
  rcases hspawns with rfl | rfl | rfl
  · exact .inr sampleStart_bystander
  · exact .inl ⟨_, .inl rfl, rfl⟩
  · exact .inl ⟨_, .inr rfl, rfl⟩

theorem publicationOrdered_inTurn : ∃ pool : ProcessingPool,
    PublicationOrdered samplePublishers pool.world ∧ pool.world.tileSets.length = 2 ∧
      pool.world.processingLog.map ProcessingRow.status = [.processed] := by
  have hrun : ∃ pool, Reaches step (fun _ => StartsOnly (Publishing samplePublishers)) empty pool ∧
      decide (pool.world.tileSets.length = 2 ∧
        pool.world.processingLog.map ProcessingRow.status = [.processed]) = true := by
    apply exists_reaches_of_runSteps inTurnEvents fun _ => inTurnEvents_starts
    decide +kernel
  obtain ⟨pool, hreaches, htest⟩ := hrun
  exact ⟨pool, publicationOrdered_of_run samplePublishers samplePublishers_distinct pool hreaches,
    of_decide_eq_true htest⟩

end ProcessingPool
end LumenHorizon.Processing
