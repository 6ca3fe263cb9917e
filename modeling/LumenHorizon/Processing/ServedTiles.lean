import LumenHorizon.Processing.PublicationOrder

/-! # The tiles of a served manifest

A cleanup deletes the tiles of a tile set before its manifest, and records that it selected the
tile set before it deletes anything. So a manifest that is there has its tiles, unless a cleanup
in execute mode selected the tile set.
-/

namespace LumenHorizon.Processing
open Foundation Shared Program

/-- A cleanup in execute mode recorded that it selected the tile set. -/
def ProcessingWorld.Selected (w : ProcessingWorld) (tileSetId : String) : Prop :=
  ∃ event ∈ w.retentionEvents, event.targetKind = .tileSet ∧
    event.targetIdentifier = tileSetId ∧ event.action = .selected ∧ event.mode = .execute

/-- A manifest that is there, of a tile set that no cleanup selected, has its tiles. -/
def ServesTiles (publishers : Set Publisher) (w : ProcessingWorld) : Prop :=
  ∀ publisher ∈ publishers, w.ManifestExists publisher.tileSetId →
    ¬ w.Selected publisher.tileSetId → w.TilesExist publisher

/-- What a cleanup may have deleted: a manifest, or a blob in the directory of a selected tile
set. -/
def ProcessingWorld.Removable (w : ProcessingWorld) (path : String) : Prop :=
  (∃ id, manifestBlobPath id = .ok path) ∨
    ∃ id, ValidTileSetId id ∧ startsWith path ("tiles/" ++ id ++ "/") = true ∧ w.Selected id

/-- What a reply says of the world, as far as no cleanup undid it. -/
def ServedFact (w : ProcessingWorld) : (c : ProcessingCall) → c.Reply → Prop
  | .uploadProcessedBlob path _, .ok _ => w.processedBlobs.Exists path ∨ w.Removable path
  | .recordRetentionEvent event, .ok _ => event ∈ w.retentionEvents
  | .listProcessedBlobs pathPrefix _, .ok page => ∀ path ∈ page.1, startsWith path pathPrefix = true
  | _, _ => True

def DeletesRemovable (w : ProcessingWorld) (c : ProcessingCall) : Prop :=
  ∀ path, c = .deleteProcessedBlob path → w.Removable path

variable {w : ProcessingWorld} {c : ProcessingCall} {e : Env} {path : String}

theorem mem_answer_retentionEvents {event : RetentionEvent} (h : event ∈ w.retentionEvents)
    (c : ProcessingCall) (e : Env) : event ∈ (answer c e w).1.retentionEvents := by
  rcases answer_effect c e w with ⟨-, hw⟩ | ⟨-, finished, hw⟩
  · rw [hw]
    exact h
  · rw [hw]
    cases c with
    | recordRetentionEvent recorded => exact List.mem_append_left _ h
    | _ => exact h

theorem ProcessingWorld.Selected.after {tileSetId : String} (h : w.Selected tileSetId)
    (c : ProcessingCall) (e : Env) : (answer c e w).1.Selected tileSetId := by
  obtain ⟨event, hevent, hselected⟩ := h
  exact ⟨event, mem_answer_retentionEvents hevent c e, hselected⟩

theorem ProcessingWorld.Removable.after (h : w.Removable path) (c : ProcessingCall) (e : Env) :
    (answer c e w).1.Removable path :=
  h.imp_right fun ⟨id, hvalid, hprefix, hselected⟩ => ⟨id, hvalid, hprefix, hselected.after c e⟩

theorem exists_or_removable_after (h : w.processedBlobs.Exists path ∨ w.Removable path)
    (hdeletes : DeletesRemovable w c) :
    (answer c e w).1.processedBlobs.Exists path ∨ (answer c e w).1.Removable path := by
  rcases h with h | h
  · by_cases hc : c = .deleteProcessedBlob path
    · exact .inr ((hdeletes path hc).after c e)
    · exact .inl (answer_exists h fun hdelete => absurd hdelete hc)
  · exact .inr (h.after c e)

theorem ServedFact.after {c' : ProcessingCall} {reply : c'.Reply} (h : ServedFact w c' reply)
    (hdeletes : DeletesRemovable w c) : ServedFact (answer c e w).1 c' reply := by
  cases c' with
  | uploadProcessedBlob path blob =>
    cases reply with
    | error error => trivial
    | ok _ => exact exists_or_removable_after h hdeletes
  | recordRetentionEvent event =>
    cases reply with
    | error error => trivial
    | ok _ => exact mem_answer_retentionEvents h c e
  | listProcessedBlobs pathPrefix maxResults =>
    cases reply with
    | error error => trivial
    | ok page => exact h
  | _ => trivial

theorem BlobStore.startsWith_of_mem_listWithPrefix {store : BlobStore} {pathPrefix : String}
    {maxResults : ℕ} (h : path ∈ (store.listWithPrefix pathPrefix maxResults).1) :
    startsWith path pathPrefix = true := by
  have hpath := List.mem_of_mem_take h
  rw [List.mem_insertionSort] at hpath
  exact (List.mem_filter.mp hpath).2

theorem servedFact_answer (c : ProcessingCall) (e : Env) (w : ProcessingWorld) :
    ServedFact (answer c e w).1 c (answer c e w).2 := by
  cases c with
  | uploadProcessedBlob path blob =>
    generalize hreply : (answer (.uploadProcessedBlob path blob) e w).2 = reply
    cases reply with
    | error error => trivial
    | ok _ => exact .inl (exists_of_uploaded hreply)
  | recordRetentionEvent event =>
    cases ho : e.outcome with
    | ok =>
      rw [answer_of_ok ho]
      exact List.mem_append_right _ List.mem_cons_self
    | failed =>
      rw [answer_of_failed ho]
      trivial
    | lost =>
      rw [answer_of_lost ho]
      trivial
  | listProcessedBlobs pathPrefix maxResults =>
    cases ho : e.outcome with
    | ok =>
      rw [answer_of_ok ho]
      exact fun path hpath => BlobStore.startsWith_of_mem_listWithPrefix hpath
    | failed =>
      rw [answer_of_failed ho]
      trivial
    | lost =>
      rw [answer_of_lost ho]
      trivial
  | _ => trivial

theorem tileSetPrefix_eq_ok_iff {tileSetId pathPrefix : String} :
    tileSetPrefix tileSetId = .ok pathPrefix ↔
      ValidTileSetId tileSetId ∧ pathPrefix = "tiles/" ++ tileSetId ++ "/" := by
  unfold tileSetPrefix
  cases hpath : manifestBlobPath tileSetId with
  | error error =>
    refine ⟨fun h => (nomatch h), fun ⟨hvalid, _⟩ => ?_⟩
    cases hpath.symm.trans (manifestBlobPath_eq_ok_iff.mpr ⟨hvalid, rfl⟩)
  | ok path =>
    have hvalid := (manifestBlobPath_eq_ok_iff.mp hpath).1
    exact ⟨fun h => ⟨hvalid, (Except.ok.inj h).symm⟩, fun h => congrArg Except.ok h.2.symm⟩

theorem CleanupRule.deletesRemovable {config : ProcessingConfig} {cleanup : Cleanup} {t : History}
    (h : CleanupRule config cleanup t c)
    (ht : Witnessed (fun _ c reply => ServedFact w c reply) t) : DeletesRemovable w c := by
  rintro path rfl
  obtain ⟨hexecute, candidate, hchosen, hpath⟩ := h
  rcases hpath with ⟨pathPrefix, paths, hprefix, hmem, hmade⟩ | rfl
  · obtain ⟨-, hrecorded⟩ := ht.of_mem hchosen.recorded
    obtain ⟨-, hlisted⟩ := ht.of_mem hmade
    obtain ⟨hvalid, rfl⟩ := tileSetPrefix_eq_ok_iff.mp hprefix
    refine .inr ⟨candidate.tileSetId, hvalid, hlisted path hmem, _, hrecorded, rfl, rfl, rfl, ?_⟩
    simp [tileSetEvent, Cleanup.mode, hexecute]
  · exact .inl ⟨candidate.tileSetId, (validateManifestPath_eq_ok_iff.mp hchosen.valid).2⟩

variable {publishers : Set Publisher} {t : History}

/-- Every tile of the publisher is there, or a cleanup may have deleted it. -/
def TilesKept (w : ProcessingWorld) (publisher : Publisher) : Prop :=
  ∀ tile ∈ publisher.tiles, ∃ path, tileBlobPath publisher.tileSetId tile.coord = .ok path ∧
    (w.processedBlobs.Exists path ∨ w.Removable path)

theorem TilesKept.after {publisher : Publisher} (h : TilesKept w publisher)
    (hdeletes : DeletesRemovable w c) : TilesKept (answer c e w).1 publisher := by
  intro tile htile
  obtain ⟨path, hpath, hkept⟩ := h tile htile
  exact ⟨path, hpath, exists_or_removable_after hkept hdeletes⟩

/-- The tile of a tile set that no cleanup selected is one that no cleanup may delete. -/
theorem TilesKept.tilesExist {publisher : Publisher} (h : TilesKept w publisher)
    (hselected : ¬ w.Selected publisher.tileSetId) : w.TilesExist publisher := by
  intro tile htile
  obtain ⟨path, hpath, hexists | ⟨id, hmanifest⟩ | ⟨id, hvalid, hstarts, hid⟩⟩ := h tile htile
  · exact ⟨path, hpath, hexists⟩
  · exact absurd rfl (tileBlobPath_ne_manifest hpath hmanifest)
  · rw [← tileSetId_eq_of_startsWith hpath hvalid hstarts] at hid
    exact absurd hid hselected

theorem tilesKept_after (hdistinct : Set.InjOn Publisher.tileSetId publishers)
    (h : ∀ publisher ∈ publishers, w.ManifestExists publisher.tileSetId → TilesKept w publisher)
    (ht : Witnessed (fun _ c reply => ServedFact w c reply) t)
    (hrule : (∃ publisher ∈ publishers, PublisherRule publisher t c) ∨ ¬ OnPublished c ∨
      ∃ config cleanup, CleanupRule config cleanup t c)
    (hdeletes : DeletesRemovable w c) {publisher : Publisher} (hmem : publisher ∈ publishers)
    (hmanifest : (answer c e w).1.ManifestExists publisher.tileSetId) :
    TilesKept (answer c e w).1 publisher := by
  obtain ⟨path, hpath, blob, hblob⟩ := hmanifest
  rcases mem_answer_processedBlobs hblob with hold | rfl
  · exact (h publisher hmem ⟨path, hpath, blob, hold⟩).after hdeletes
  · rcases hrule with ⟨uploader, huploader, hrule⟩ | hrule | ⟨_, _, hrule⟩
    · cases blob with
      | tile =>
        obtain ⟨tile, -, htile⟩ := hrule
        exact absurd rfl (tileBlobPath_ne_manifest htile hpath)
      | manifest manifest =>
        obtain ⟨-, hpath', htiles⟩ := hrule
        obtain rfl : uploader = publisher :=
          hdistinct huploader hmem (manifestBlobPath_injective hpath' hpath)
        have hkept : TilesKept w uploader := by
          intro tile htile
          obtain ⟨path, hpath, hmade⟩ := htiles tile htile
          obtain ⟨-, hkept⟩ := ht.of_mem hmade
          exact ⟨path, hpath, hkept⟩
        exact hkept.after hdeletes
      | latestPointer pointer =>
        exact absurd hrule.1 (manifestBlobPath_ne_latest hpath publisher.tileSetId_ne_latest)
    · exact absurd trivial hrule
    · exact hrule.elim

namespace ProcessingPool

variable {pool pool' : ProcessingPool} {event : ProcessingEvent}

/-- What every run of publishers, bystanders and cleanups keeps. -/
structure ServedInvariant (publishers : Set Publisher) (pool : ProcessingPool) : Prop where
  vouched : ∀ p ∈ pool.procs, p.next? ≠ none → Pool.Vouched (PublishingOrCleaning publishers)
    (fun w _ c reply => Possible c reply ∧ ServedFact w c reply) pool.world p
  kept : ∀ publisher ∈ publishers, pool.world.ManifestExists publisher.tileSetId →
    TilesKept pool.world publisher

theorem servedInvariant_empty : empty.ServedInvariant publishers where
  vouched := fun _ h => absurd h List.not_mem_nil
  kept := fun _ _ ⟨_, _, _, h⟩ => absurd h List.not_mem_nil

theorem ServedInvariant.step (h : pool.ServedInvariant publishers)
    (hdistinct : Set.InjOn Publisher.tileSetId publishers)
    (hstarts : StartsOnly (PublishingOrCleaning publishers) event)
    (hstep : pool.step event = some pool') : pool'.ServedInvariant publishers := by
  have hrule : ∀ {p₀ : ProcessingProgram Unit} {t : History} {c : ProcessingCall}
      {next : c.Reply → ProcessingProgram Unit}, PublishingOrCleaning publishers p₀ →
      p₀.Follows t (.call c next) →
      Witnessed (fun _ c reply => Possible c reply ∧ ServedFact pool.world c reply) t →
      ((∃ publisher ∈ publishers, PublisherRule publisher t c) ∨ ¬ OnPublished c ∨
        ∃ config cleanup, CleanupRule config cleanup t c) ∧ DeletesRemovable pool.world c := by
    intro p₀ t c next hp₀ hfollows ht
    have hrule := hp₀.rule hfollows (possible_of_witnessed (ht.mono fun _ _ _ h => h.1))
    refine ⟨hrule, ?_⟩
    rcases hrule with ⟨publisher, -, hrule⟩ | hrule | ⟨config, cleanup, hrule⟩
    · exact fun path hpath => absurd hpath (hrule.keepsBlobs path)
    · exact fun path hpath => absurd hpath (keepsBlobs_of_not_onPublished hrule path)
    · exact hrule.deletesRemovable (ht.mono fun _ _ _ h => h.2)
  constructor
  · apply Pool.vouched_step hstep hstarts _ h.vouched
    intro p₀ t c next e hp₀ hfollows ht
    refine ⟨⟨possible_answer c e _, servedFact_answer c e _⟩, fun t' c' reply hfact => ?_⟩
    exact ⟨hfact.1, hfact.2.after (hrule hp₀ hfollows ht).2⟩
  · rcases Pool.step_cases hstep with
      ⟨p, rfl, rfl⟩ | ⟨i, e, c, next, rfl, hi, rfl⟩ | ⟨i, c, next, rfl, hi, rfl⟩
    · exact h.kept
    · obtain ⟨p₀, t, hp₀, hfollows, ht⟩ := h.vouched _ (List.mem_of_getElem? hi) nofun
      obtain ⟨hrule, hdeletes⟩ := hrule hp₀ hfollows ht
      exact fun publisher hmem => tilesKept_after hdistinct h.kept (ht.mono fun _ _ _ h => h.2)
        hrule hdeletes hmem
    · exact h.kept

/-- Publishers with distinct tile set ids beside cleanups: a manifest that is there has its tiles,
unless a cleanup selected its tile set. -/
theorem servesTiles_of_run (publishers : Set Publisher)
    (hdistinct : Set.InjOn Publisher.tileSetId publishers) (pool : ProcessingPool)
    (hrun : Reaches step (fun _ => StartsOnly (PublishingOrCleaning publishers)) empty pool) :
    ServesTiles publishers pool.world := by
  have hinvariant : pool.ServedInvariant publishers := hrun.invariant servedInvariant_empty
    fun _ _ _ h hstarts hstep => h.step hdistinct hstarts hstep
  exact fun publisher hmem hmanifest hselected =>
    (hinvariant.kept publisher hmem hmanifest).tilesExist hselected

/-- Two attempts on one message publish; a cleanup selects the first and is stopped once its tile
is deleted. -/
def interruptedEvents : List ProcessingEvent :=
  runThrough (samplePublisher 1 [sampleTile]).program 0 6 (sampleEnv .ok 0 0) ++
    (runThrough (samplePublisher 2 []).program 1 5 (sampleEnv .ok 1 0) ++
      (runThrough (runRetentionCleanup sampleConfig sampleCleanup >>= fun _ => pure ()) 2 7
        (sampleEnv .ok (100 * microsecondsPerDay) 0) ++ [PoolEvent.stop 2]))

theorem interruptedEvents_starts : ∀ event ∈ interruptedEvents,
    StartsOnly (PublishingOrCleaning samplePublishers) event := by
  rw [interruptedEvents, List.forall_mem_append, List.forall_mem_append, List.forall_mem_append,
    List.forall_mem_singleton]
  exact ⟨startsOnly_runThrough (.inl (.inl ⟨_, .inl rfl, rfl⟩)) _ _ _,
    startsOnly_runThrough (.inl (.inl ⟨_, .inr rfl, rfl⟩)) _ _ _,
    startsOnly_runThrough (.inr ⟨_, _, rfl⟩) _ _ _, fun p hp => nomatch hp⟩

theorem manifestWithoutTiles_reached : ∃ pool,
    Reaches step (fun _ => StartsOnly (PublishingOrCleaning samplePublishers)) empty pool ∧
      pool.world.processedBlobs.Exists "manifests/2024-05-21-v1-00000000-a1.json" ∧
      ¬ pool.world.processedBlobs.Exists "tiles/2024-05-21-v1-00000000-a1/3/1/2.png" := by
  have hrun : ∃ pool,
      Reaches step (fun _ => StartsOnly (PublishingOrCleaning samplePublishers)) empty pool ∧
      decide (pool.world.processedBlobs.Exists "manifests/2024-05-21-v1-00000000-a1.json" ∧
        ¬ pool.world.processedBlobs.Exists "tiles/2024-05-21-v1-00000000-a1/3/1/2.png") = true := by
    apply exists_reaches_of_runSteps interruptedEvents fun _ => interruptedEvents_starts
    decide +kernel
  obtain ⟨pool, hreaches, htest⟩ := hrun
  exact ⟨pool, hreaches, of_decide_eq_true htest⟩

/-- A manifest may be there without its tiles. -/
theorem not_tilesOfManifest : ¬ ∀ (publishers : Set Publisher),
    Set.InjOn Publisher.tileSetId publishers → ∀ pool,
      Reaches step (fun _ => StartsOnly (PublishingOrCleaning publishers)) empty pool →
      ∀ publisher ∈ publishers, pool.world.ManifestExists publisher.tileSetId →
        pool.world.TilesExist publisher := by
  intro h
  obtain ⟨pool, hreaches, hmanifest, htile⟩ := manifestWithoutTiles_reached
  have htiles := h samplePublishers samplePublishers_distinct pool hreaches
    (samplePublisher 1 [sampleTile]) (.inl rfl) ⟨_, by decide +kernel, hmanifest⟩
  obtain ⟨path, hpath, hexists⟩ := htiles sampleTile List.mem_cons_self
  obtain rfl : path = "tiles/2024-05-21-v1-00000000-a1/3/1/2.png" := by
    apply Except.ok.inj (hpath.symm.trans _)
    decide +kernel
  exact htile hexists

/-- The manifest of the second attempt is served with its tiles all along. -/
theorem servesTiles_interrupted : ∃ pool : ProcessingPool,
    ServesTiles samplePublishers pool.world ∧
      pool.world.processedBlobs.Exists "manifests/2024-05-21-v1-00000000-a1.json" := by
  obtain ⟨pool, hreaches, hmanifest, -⟩ := manifestWithoutTiles_reached
  exact ⟨pool, servesTiles_of_run samplePublishers samplePublishers_distinct pool hreaches,
    hmanifest⟩

end ProcessingPool
end LumenHorizon.Processing
