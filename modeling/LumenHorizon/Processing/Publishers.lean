import LumenHorizon.Processing.Cleanup
import LumenHorizon.Processing.TileSetStates

/-! # Publishers beside retention cleanups

A publisher is an attempt from its generated tiles on: it uploads the tiles and the manifest,
inserts and promotes the row, moves the pointer and marks the processing row. Any number of them
run beside cleanups and beside programs that touch nothing that is published.
-/

namespace LumenHorizon.Processing
open Foundation Shared ProcessingProgram Program SlippyTiles

structure Publisher where
  config : ProcessingConfig
  message : ProcessingMessage
  attempt : ℕ
  tiles : List RenderedTile
  manifestSha256 : String
  promotedAt : ℕ

namespace Publisher

def tileSetId (publisher : Publisher) : String :=
  tileSetIdForMessage publisher.config publisher.message publisher.attempt

def manifest (publisher : Publisher) : Except TileMathError TileManifest :=
  TileManifest.fromConfig publisher.config publisher.tileSetId publisher.tiles.length
    [sourceGranuleForMessage publisher.message] publisher.manifestSha256

/-- The end of `publishGranule`. -/
@[irreducible] def publish (publisher : Publisher) : ProcessingProgram (Except ServiceError Unit) := do
  match publisher.manifest with
  | .error error => pure (.error (.generate (tileMathDisplay error)))
  | .ok manifest =>
    match ← publishTileSet manifest publisher.tiles publisher.promotedAt with
    | .error error => pure (.error (.publish error))
    | .ok _ =>
      match ← markProcessingProcessedWithTileSet publisher.message.ingestId manifest.tileSetId with
      | .error error => pure (.error (.database error))
      | .ok () => pure (.ok ())

def program (publisher : Publisher) : ProcessingProgram Unit := do
  let _ ← publisher.publish

end Publisher

theorem Publisher.manifest_tileSetId {publisher : Publisher} {manifest : TileManifest}
    (h : publisher.manifest = .ok manifest) : manifest.tileSetId = publisher.tileSetId :=
  TileManifest.fromConfig_tileSetId h

theorem Publisher.tileSetId_ne_latest (publisher : Publisher) : publisher.tileSetId ≠ "latest" :=
  tileSetIdForMessage_ne_latest _ _ _

/-! ## The calls of a publisher -/

def TilesUploaded (tileSetId : String) (tiles : List RenderedTile) (t : History) : Prop :=
  ∀ tile ∈ tiles, ∃ path, tileBlobPath tileSetId tile.coord = .ok path ∧
    Made t (.uploadProcessedBlob path .tile) (.ok ())

theorem TilesUploaded.cons {tileSetId : String} {tiles : List RenderedTile} {t : History}
    (h : TilesUploaded tileSetId tiles t) (entry : Σ c : ProcessingCall, c.Reply) :
    TilesUploaded tileSetId tiles (entry :: t) := by
  intro tile htile
  obtain ⟨path, hpath, hmade⟩ := h tile htile
  exact ⟨path, hpath, hmade.cons entry⟩

/-- The manifest comes after all tiles; each later step directly follows the one before it. -/
def PublisherRule (publisher : Publisher) (t : History) : ProcessingCall → Prop
  | .uploadProcessedBlob path .tile =>
    ∃ tile ∈ publisher.tiles, tileBlobPath publisher.tileSetId tile.coord = .ok path
  | .uploadProcessedBlob path (.manifest manifest) =>
    publisher.manifest = .ok manifest ∧ manifestBlobPath publisher.tileSetId = .ok path ∧
      TilesUploaded publisher.tileSetId publisher.tiles t
  | .insertTileSet manifest =>
    publisher.manifest = .ok manifest ∧ ∃ path,
      manifestBlobPath publisher.tileSetId = .ok path ∧
        Last t (.uploadProcessedBlob path (.manifest manifest)) (.ok ())
  | .promoteLatestTileSet tileSetId =>
    tileSetId = publisher.tileSetId ∧ ∃ manifest, publisher.manifest = .ok manifest ∧
      Last t (.insertTileSet manifest) (.ok ())
  | .uploadProcessedBlob path (.latestPointer pointer) =>
    path = latestManifestBlobPath ∧ pointer.tileSetId = publisher.tileSetId ∧
      manifestBlobPath publisher.tileSetId = .ok pointer.manifestBlobPath ∧
      Last t (.promoteLatestTileSet publisher.tileSetId) (.ok ())
  | .markEnding ingestId (.processed tileSetId) =>
    ingestId = publisher.message.ingestId ∧ tileSetId = publisher.tileSetId ∧
      Made t (.promoteLatestTileSet tileSetId) (.ok ())
  | _ => False

variable {publisher : Publisher}

theorem uploadTiles_uploads (uploaded tiles : List RenderedTile)
    (htiles : publisher.tiles = uploaded ++ tiles) {t : History}
    (ht : TilesUploaded publisher.tileSetId uploaded t) :
    (uploadTiles publisher.tileSetId tiles).Meets Possible (PublisherRule publisher)
      (fun t' outcome => outcome = .ok () → TilesUploaded publisher.tileSetId publisher.tiles t')
      t := by
  induction tiles generalizing uploaded t with
  | nil =>
    rw [List.append_nil] at htiles
    rw [htiles]
    exact fun _ => ht
  | cons tile tiles ih =>
    unfold uploadTiles
    cases hpath : tileBlobPath publisher.tileSetId tile.coord with
    | error error =>
      intro h
      cases h
    | ok path =>
      have hmem : tile ∈ publisher.tiles := by
        rw [htiles]
        exact List.mem_append_right _ List.mem_cons_self
      refine Meets.call ⟨tile, hmem, hpath⟩ fun reply _ => ?_
      cases reply with
      | error error =>
        intro h
        cases h
      | ok _ =>
        apply ih (uploaded ++ [tile]) (by simp [htiles])
        intro tile' htile'
        rcases List.mem_append.mp htile' with htile' | htile'
        · exact ht.cons _ tile' htile'
        · rw [List.mem_singleton.mp htile']
          exact ⟨path, hpath, made_self _ _ _⟩

/-- The last steps of publication, and what marking the processing row relies on. -/
theorem publishTileManifest_promotes {manifest : TileManifest}
    (hmanifest : publisher.manifest = .ok manifest) {t : History}
    (ht : TilesUploaded publisher.tileSetId publisher.tiles t) :
    (publishTileManifest manifest publisher.promotedAt).Meets Possible (PublisherRule publisher)
      (fun t' outcome => ∀ pointer, outcome = .ok pointer →
        Made t' (.promoteLatestTileSet publisher.tileSetId) (.ok ())) t := by
  have hid : manifest.tileSetId = publisher.tileSetId := Publisher.manifest_tileSetId hmanifest
  unfold publishTileManifest
  cases hpath : manifest.manifestBlobPath with
  | error error => exact fun _ h => nomatch h
  | ok path =>
    have hpublished : manifestBlobPath publisher.tileSetId = .ok path := hid ▸ hpath
    refine Meets.call ⟨hmanifest, hpublished, ht⟩ fun reply _ => ?_
    cases reply with
    | error error => exact fun _ h => nomatch h
    | ok _ =>
      refine Meets.call ⟨hmanifest, path, hpublished, last_self _ _ _⟩ fun reply _ => ?_
      cases reply with
      | error error => exact fun _ h => nomatch h
      | ok _ =>
        refine Meets.call ⟨hid, manifest, hmanifest, last_self _ _ _⟩ fun reply _ => ?_
        cases reply with
        | error error => exact fun _ h => nomatch h
        | ok _ =>
          have hpointer : manifest.latestPointer publisher.promotedAt =
              .ok ⟨manifest.tileSetId, path, manifest.manifestSha256, publisher.promotedAt⟩ := by
            rw [TileManifest.latestPointer, hpath]
            rfl
          simp only [hpointer]
          rw [hid]
          refine Meets.call ⟨rfl, rfl, hpublished, last_self _ _ _⟩ fun reply _ => ?_
          cases reply with
          | error error => exact fun _ h => nomatch h
          | ok _ => exact fun _ _ => (made_self _ _ _).cons _

theorem publish_meets (publisher : Publisher) :
    publisher.publish.Meets Possible (PublisherRule publisher) (fun _ _ => True) [] := by
  unfold Publisher.publish
  cases hmanifest : publisher.manifest with
  | error error => trivial
  | ok manifest =>
    have hid : manifest.tileSetId = publisher.tileSetId := Publisher.manifest_tileSetId hmanifest
    have htiles : (uploadTiles manifest.tileSetId publisher.tiles).Meets Possible
        (PublisherRule publisher) (fun t' outcome => outcome = .ok () →
          TilesUploaded publisher.tileSetId publisher.tiles t') [] := by
      rw [hid]
      exact uploadTiles_uploads [] publisher.tiles rfl fun _ h => absurd h List.not_mem_nil
    have hpublish : (publishTileSet manifest publisher.tiles publisher.promotedAt).Meets Possible
        (PublisherRule publisher) (fun t' outcome => ∀ pointer, outcome = .ok pointer →
          Made t' (.promoteLatestTileSet publisher.tileSetId) (.ok ())) [] := by
      refine htiles.bind fun t' outcome huploaded => ?_
      cases outcome with
      | error error => exact fun _ h => nomatch h
      | ok _ => exact publishTileManifest_promotes hmanifest (huploaded rfl)
    refine hpublish.bind fun t' outcome hpromoted => ?_
    cases outcome with
    | error error => trivial
    | ok pointer =>
      have hmade : Made t' (.promoteLatestTileSet manifest.tileSetId) (.ok ()) := by
        rw [hid]
        exact hpromoted pointer rfl
      refine Meets.call ⟨rfl, hid, hmade⟩ fun reply _ => ?_
      cases reply <;> trivial

theorem publisher_meets (publisher : Publisher) :
    publisher.program.Meets Possible (PublisherRule publisher) (fun _ _ => True) [] := by
  exact Meets.bind (publish_meets publisher) fun _ _ _ => trivial

/-! ## What runs together -/

/-- The calls on what is published: its blobs, its rows, and the processed status. -/
def OnPublished : ProcessingCall → Prop
  | .uploadProcessedBlob _ _ => True
  | .insertTileSet _ => True
  | .promoteLatestTileSet _ => True
  | .deleteProcessedBlob _ => True
  | .markTileSetRetentionDeleted _ _ => True
  | .markEnding _ ending => ∃ tileSetId, ending = .processed tileSetId
  | _ => False

/-- A program that touches nothing that is published. -/
def Bystander (p : ProcessingProgram Unit) : Prop := p.Always fun c _ => ¬ OnPublished c

def Publishing (publishers : Set Publisher) (p : ProcessingProgram Unit) : Prop :=
  (∃ publisher ∈ publishers, p = publisher.program) ∨ Bystander p

/-- Publishers of the given set, bystanders, and retention cleanups. -/
def PublishingOrCleaning (publishers : Set Publisher) (p : ProcessingProgram Unit) : Prop :=
  Publishing publishers p ∨
    ∃ config cleanup, p = (runRetentionCleanup config cleanup >>= fun _ => pure ())

section Rules

variable {publishers : Set Publisher} {p : ProcessingProgram Unit} {t : History}
  {c : ProcessingCall} {next : c.Reply → ProcessingProgram Unit}

theorem Publishing.rule (h : Publishing publishers p) (hfollows : p.Follows t (.call c next))
    (ht : ∀ entry ∈ t, Possible entry.1 entry.2) :
    (∃ publisher ∈ publishers, PublisherRule publisher t c) ∨ ¬ OnPublished c := by
  rcases h with ⟨publisher, hmem, hp⟩ | h
  · have hmeets : p.Meets Possible (PublisherRule publisher) (fun _ _ => True) [] := by
      rw [hp]
      exact publisher_meets publisher
    have hrest := hmeets.of_follows hfollows ht
    rw [List.append_nil] at hrest
    exact .inl ⟨publisher, hmem, hrest.1⟩
  · have hmeets : p.Meets Possible (fun _ c => ¬ OnPublished c) (fun _ _ => True) [] :=
      Meets.of_always h (fun _ _ h => h) []
    exact .inr (hmeets.of_follows hfollows ht).1

/-- The next call of a live publisher, bystander or cleanup. -/
theorem PublishingOrCleaning.rule (h : PublishingOrCleaning publishers p)
    (hfollows : p.Follows t (.call c next)) (ht : ∀ entry ∈ t, Possible entry.1 entry.2) :
    (∃ publisher ∈ publishers, PublisherRule publisher t c) ∨ ¬ OnPublished c ∨
      ∃ config cleanup, CleanupRule config cleanup t c := by
  rcases h with h | ⟨config, cleanup, hp⟩
  · exact (h.rule hfollows ht).imp_right .inl
  · have hmeets : p.Meets Possible (CleanupRule config cleanup) (fun _ _ => True) [] := by
      rw [hp]
      exact (runRetentionCleanup_meets config cleanup []).bind fun _ _ _ => trivial
    have hrest := hmeets.of_follows hfollows ht
    rw [List.append_nil] at hrest
    exact .inr (.inr ⟨config, cleanup, hrest.1⟩)

end Rules

theorem pointer_of_rule {publisher : Publisher} {t : History} {blob : ProcessedBlob}
    (h : PublisherRule publisher t (.uploadProcessedBlob latestManifestBlobPath blob)) :
    ∃ pointer, blob = .latestPointer pointer ∧
      pointer.manifestBlobPath ≠ latestManifestBlobPath ∧
      manifestBlobPath pointer.tileSetId = .ok pointer.manifestBlobPath := by
  cases blob with
  | tile =>
    obtain ⟨tile, -, hpath⟩ := h
    exact absurd rfl (tileBlobPath_ne_latest hpath)
  | manifest manifest =>
    exact absurd rfl (manifestBlobPath_ne_latest h.2.1 publisher.tileSetId_ne_latest)
  | latestPointer pointer =>
    obtain ⟨-, hid, hpath, -⟩ := h
    exact ⟨pointer, rfl, manifestBlobPath_ne_latest hpath publisher.tileSetId_ne_latest,
      hid ▸ hpath⟩

theorem possible_of_witnessed {t : History} (h : Witnessed (fun _ c reply => Possible c reply) t) :
    ∀ entry ∈ t, Possible entry.1 entry.2 := by
  intro entry hentry
  obtain ⟨-, hpossible⟩ := Witnessed.of_mem h hentry
  exact hpossible

theorem possible_answer (c : ProcessingCall) (e : Env) (w : ProcessingWorld) :
    Possible c (answer c e w).2 := ⟨e, w, rfl⟩

theorem possible_cons {t : History} (h : Witnessed (fun _ c reply => Possible c reply) t)
    {c : ProcessingCall} {w : ProcessingWorld} (e : Env) :
    ∀ entry ∈ (⟨c, (answer c e w).2⟩ :: t : History), Possible entry.1 entry.2 :=
  List.forall_mem_cons.mpr ⟨possible_answer c e w, possible_of_witnessed h⟩

def StartsOnly (Started : ProcessingProgram Unit → Prop) (event : ProcessingEvent) : Prop :=
  ∀ p, event = .spawn p → Started p

/-! ## What a call changes of what is published -/

variable {w : ProcessingWorld} {c : ProcessingCall} {e : Env} {path : String}

/-- The statement that a call executes on `tile_sets`. -/
def ProcessingCall.statement (now : ℕ) : ProcessingCall → Option TileSetTable.Statement
  | .insertTileSet manifest => some (.insertTileSet manifest now)
  | .promoteLatestTileSet tileSetId => some (.promoteLatestTileSet tileSetId)
  | .markTileSetRetentionDeleted tileSetId reason =>
    some (.markTileSetRetentionDeleted tileSetId reason now)
  | _ => none

theorem effect_tileSets (e : Env) (w : ProcessingWorld) (c : ProcessingCall) :
    (effect e w c).tileSets =
      match c.statement e.now with
      | none => w.tileSets
      | some statement => (w.tileSets.execute statement).1 := by
  cases c <;> rfl

/-- The rows after a call are those before it, or those after its statement. -/
theorem answer_tileSets (c : ProcessingCall) (e : Env) (w : ProcessingWorld) :
    (answer c e w).1.tileSets = w.tileSets ∨ (e.outcome ≠ .failed ∧ ∃ statement,
      c.statement e.now = some statement ∧
        (answer c e w).1.tileSets = (w.tileSets.execute statement).1) := by
  rcases answer_effect c e w with ⟨-, h⟩ | ⟨ho, finished, h⟩
  · exact .inl (by rw [h])
  · rw [h]
    cases hstatement : c.statement e.now with
    | none =>
      left
      rw [effect_tileSets, hstatement]
    | some statement =>
      right
      exact ⟨ho, statement, rfl, by rw [effect_tileSets, hstatement]⟩

theorem answer_extends (c : ProcessingCall) (e : Env) (w : ProcessingWorld) :
    w.tileSets.Extends (answer c e w).1.tileSets := by
  rcases answer_tileSets c e w with h | ⟨-, statement, -, h⟩
  · rw [h]
    exact fun row hrow => ⟨row, hrow, TileSetTable.Later.refl row⟩
  · rw [h]
    exact TileSetTable.extends_execute _ statement

theorem answer_row {tileSetId : String} (c : ProcessingCall) (e : Env)
    (h : ∃ row ∈ w.tileSets, row.id = tileSetId) :
    ∃ row ∈ (answer c e w).1.tileSets, row.id = tileSetId := by
  obtain ⟨row, hrow, rfl⟩ := h
  obtain ⟨row', hrow', hlater⟩ := answer_extends c e w row hrow
  exact ⟨row', hrow', hlater.1⟩

theorem answer_exists (h : w.processedBlobs.Exists path)
    (hdelete : c = .deleteProcessedBlob path → e.outcome = .failed) :
    (answer c e w).1.processedBlobs.Exists path := by
  rcases answer_effect c e w with ⟨-, hw⟩ | ⟨ho, finished, hw⟩
  · rw [hw]
    exact h
  · rw [hw]
    cases c with
    | uploadProcessedBlob path' blob => exact h.upload path' blob
    | deleteProcessedBlob path' =>
      have hne : path ≠ path' := fun heq => ho (hdelete (by rw [heq]))
      exact h.delete hne
    | _ => exact h

/-- A blob after a call was there before it, or was just uploaded. -/
theorem mem_answer_processedBlobs {blob : ProcessedBlob}
    (h : (path, blob) ∈ (answer c e w).1.processedBlobs) :
    (path, blob) ∈ w.processedBlobs ∨ c = .uploadProcessedBlob path blob := by
  rcases answer_effect c e w with ⟨-, hw⟩ | ⟨-, finished, hw⟩
  · rw [hw] at h
    exact .inl h
  · rw [hw] at h
    cases c with
    | uploadProcessedBlob path' blob' =>
      rcases BlobStore.mem_upload.mp h with ⟨h, -⟩ | ⟨rfl, rfl⟩
      · exact .inl h
      · exact .inr rfl
    | deleteProcessedBlob path' => exact .inl (BlobStore.mem_delete.mp h).1
    | _ => exact .inl h

theorem exists_of_uploaded {blob : ProcessedBlob}
    (h : (answer (.uploadProcessedBlob path blob) e w).2 = .ok ()) :
    (answer (.uploadProcessedBlob path blob) e w).1.processedBlobs.Exists path := by
  cases ho : e.outcome with
  | ok =>
    rw [answer_of_ok ho]
    exact BlobStore.exists_upload_self _ _ _
  | failed =>
    rw [answer_of_failed ho] at h
    cases h
  | lost =>
    rw [answer_of_lost ho] at h
    cases h

theorem mem_of_inserted {manifest : TileManifest}
    (h : (answer (.insertTileSet manifest) e w).2 = .ok ()) :
    ∃ row ∈ (answer (.insertTileSet manifest) e w).1.tileSets,
      row.id = manifest.tileSetId ∧ row.retentionDeletedAt = none := by
  cases ho : e.outcome with
  | ok =>
    rw [answer_of_ok ho] at h ⊢
    rcases TileSetTable.insertTileSet_cases w.tileSets manifest e.now with
      ⟨error, heq⟩ | ⟨path, -, -, heq⟩
    · change (w.tileSets.insertTileSet manifest e.now).2 = .ok () at h
      rw [heq] at h
      cases h
    · refine ⟨TileSetTable.insertedRow manifest path e.now, ?_, rfl, rfl⟩
      change _ ∈ (w.tileSets.insertTileSet manifest e.now).1
      rw [heq]
      exact List.mem_append_right _ List.mem_cons_self
  | failed =>
    rw [answer_of_failed ho] at h
    cases h
  | lost =>
    rw [answer_of_lost ho] at h
    cases h

theorem row_of_promoted {tileSetId : String}
    (h : (answer (.promoteLatestTileSet tileSetId) e w).2 = .ok ()) :
    ∃ row ∈ w.tileSets, row.id = tileSetId := by
  cases ho : e.outcome with
  | ok =>
    rw [answer_of_ok ho] at h
    rcases TileSetTable.promoteLatestTileSet_cases w.tileSets tileSetId with ⟨heq, -⟩ | ⟨-, hrow⟩
    · change (w.tileSets.promoteLatestTileSet tileSetId).2 = .ok () at h
      rw [heq] at h
      cases h
    · exact hrow
  | failed =>
    rw [answer_of_failed ho] at h
    cases h
  | lost =>
    rw [answer_of_lost ho] at h
    cases h

/-- A row after a call is a later form of one before it, or the one the call inserts. -/
theorem mem_answer_tileSets {row' : TileSetRow} (h : row' ∈ (answer c e w).1.tileSets) :
    (∃ row ∈ w.tileSets, TileSetTable.Later row row') ∨
      ∃ manifest path, c = .insertTileSet manifest ∧
        row' = TileSetTable.insertedRow manifest path e.now := by
  rcases answer_tileSets c e w with hrows | ⟨-, statement, hstatement, hrows⟩
  · rw [hrows] at h
    exact .inl ⟨row', h, TileSetTable.Later.refl row'⟩
  · rw [hrows] at h
    rcases TileSetTable.mem_execute h with hold | ⟨manifest, path, now, rfl, rfl⟩
    · exact .inl hold
    · cases c with
      | insertTileSet manifest' =>
        cases hstatement
        exact .inr ⟨manifest, path, rfl, rfl⟩
      | _ => cases hstatement

/-! ## Publishers and a cleanup to run -/

/-- An attempt on the sample message, with the given tiles. -/
def samplePublisher (attempt : ℕ) (tiles : List RenderedTile) : Publisher where
  config := sampleConfig
  message := sampleProcessingMessage 1
  attempt := attempt
  tiles := tiles
  manifestSha256 := ""
  promotedAt := 0

def sampleTile : RenderedTile where
  coord := { z := 3, x := 1, y := 2 }
  pixels := []

def sampleCleanup : Cleanup where
  runId := 0
  execute := true

theorem startsOnly_runThrough {Started : ProcessingProgram Unit → Prop}
    {p : ProcessingProgram Unit} (h : Started p) (i acts : ℕ) (e : Env) :
    ∀ event ∈ runThrough p i acts e, StartsOnly Started event := by
  intro event hevent q hq
  exact eq_of_spawn_mem_runThrough (hq ▸ hevent) ▸ h

end LumenHorizon.Processing
