import LumenHorizon.Processing.Delivery

/-! # What a cleanup does after what it did

A tile set is touched only in execute mode, after its candidate passed the check and its selection
was recorded; its tiles are those of a complete listing, its row comes after its manifest. Each
raw granule that is recorded as gone was deleted by the call before.
-/

namespace LumenHorizon.Processing
open Foundation Shared ProcessingProgram Program

/-- The event of `record_tile_set_event`. -/
def tileSetEvent (cleanup : Cleanup) (candidate : TileSetRetentionCandidate)
    (action : RetentionEventAction) (reason : String) : RetentionEvent where
  cleanupRunId := cleanup.runId
  mode := cleanup.mode
  targetKind := .tileSet
  targetIdentifier := candidate.tileSetId
  blobContainer := none
  blobPath := none
  action := action
  reason := reason

/-- The candidate was selected, passed the check, and its selection was recorded. -/
structure Chosen (config : ProcessingConfig) (cleanup : Cleanup)
    (candidate : TileSetRetentionCandidate) (t : History) : Prop where
  valid : validateManifestPath candidate = .ok ()
  selected : ∃ candidates, candidate ∈ candidates ∧
    Made t (.selectTileSetRetentionCandidates config.processedTileSetRetentionDays
      config.retentionProtectedPriorTileSets config.retentionBatchLimit) (.ok candidates)
  recorded : Made t (.recordRetentionEvent (tileSetEvent cleanup candidate .selected tileSetReason))
    (.ok ())

/-- The path is on the complete listing of the candidate's tiles. -/
def Listed (config : ProcessingConfig) (candidate : TileSetRetentionCandidate) (path : String)
    (t : History) : Prop :=
  ∃ pathPrefix paths, tileSetPrefix candidate.tileSetId = .ok pathPrefix ∧ path ∈ paths ∧
    Made t (.listProcessedBlobs pathPrefix config.retentionTileBlobLimit) (.ok (paths, false))

def RawChosen (config : ProcessingConfig) (path : String) (t : History) : Prop :=
  ∃ candidates candidate, candidate ∈ candidates ∧ candidate.blobPath = path ∧
    Made t (.selectRawBlobRetentionCandidates config.rawGranuleRetentionDays
      config.retentionBatchLimit) (.ok candidates)

def CleanupRule (config : ProcessingConfig) (cleanup : Cleanup) (t : History) :
    ProcessingCall → Prop
  | .deleteProcessedBlob path => cleanup.execute = true ∧ ∃ candidate,
      Chosen config cleanup candidate t ∧
        (Listed config candidate path t ∨ path = candidate.manifestBlobPath)
  | .markTileSetRetentionDeleted tileSetId _ => cleanup.execute = true ∧ ∃ candidate outcome,
      Chosen config cleanup candidate t ∧ tileSetId = candidate.tileSetId ∧
        Made t (.deleteProcessedBlob candidate.manifestBlobPath) (.ok outcome)
  | .deleteRawBlob path => cleanup.execute = true ∧ RawChosen config path t
  | .recordRetentionEvent event => event.mode = cleanup.mode ∧
      (event.targetKind = .rawBlob → event.action = .selected ∨
        ∃ outcome, event.action = outcome.action ∧
          Last t (.deleteRawBlob event.targetIdentifier) (.ok outcome))
  | .connect => True
  | .takeLocalStep _ => True
  | .selectRawBlobRetentionCandidates _ _ => True
  | .selectTileSetRetentionCandidates _ _ _ => True
  | .listProcessedBlobs _ _ => True
  | _ => False

variable {config : ProcessingConfig} {cleanup : Cleanup} {candidate : TileSetRetentionCandidate}
  {path : String} {t : History}

theorem Made.of_suffix {t' : History} {c : ProcessingCall} {reply : c.Reply} (h : Made t c reply)
    (ht : t <:+ t') : Made t' c reply := ht.subset h

theorem Chosen.of_suffix {t' : History} (h : Chosen config cleanup candidate t) (ht : t <:+ t') :
    Chosen config cleanup candidate t' where
  valid := h.valid
  selected := by
    obtain ⟨candidates, hmem, hmade⟩ := h.selected
    exact ⟨candidates, hmem, hmade.of_suffix ht⟩
  recorded := h.recorded.of_suffix ht

theorem Listed.of_suffix {t' : History} (h : Listed config candidate path t) (ht : t <:+ t') :
    Listed config candidate path t' := by
  obtain ⟨pathPrefix, paths, hprefix, hmem, hmade⟩ := h
  exact ⟨pathPrefix, paths, hprefix, hmem, hmade.of_suffix ht⟩

theorem RawChosen.of_suffix {t' : History} (h : RawChosen config path t) (ht : t <:+ t') :
    RawChosen config path t' := by
  obtain ⟨candidates, raw, hmem, hpath, hmade⟩ := h
  exact ⟨candidates, raw, hmem, hpath, hmade.of_suffix ht⟩

/-- The history so far, and what is known at the end. -/
def From {α : Type} (t : History) (post : History → α → Prop) (t' : History) (a : α) : Prop :=
  t <:+ t' ∧ post t' a

theorem recordEvent_meets {event : RetentionEvent}
    (h : CleanupRule config cleanup t (.recordRetentionEvent event)) :
    (recordEvent event).Meets Possible (CleanupRule config cleanup)
      (From t fun t' outcome => outcome = .ok () → Made t' (.recordRetentionEvent event) (.ok ()))
      t := by
  refine Meets.call h fun reply _ => ?_
  cases reply with
  | error error => exact ⟨List.suffix_cons _ _, fun h => nomatch h⟩
  | ok _ => exact ⟨List.suffix_cons _ _, fun _ => made_self _ _ _⟩

theorem recordTileSetEvent_meets (candidate : TileSetRetentionCandidate)
    (action : RetentionEventAction) (reason : String) (t : History) :
    (recordTileSetEvent cleanup candidate action reason).Meets Possible (CleanupRule config cleanup)
      (From t fun t' outcome => outcome = .ok () →
        Made t' (.recordRetentionEvent (tileSetEvent cleanup candidate action reason)) (.ok ())) t :=
  recordEvent_meets ⟨rfl, fun h => nomatch h⟩

theorem deleteProcessedBlob_meets (tileSetId : String) (targetKind : RetentionTargetKind)
    (hkind : targetKind ≠ .rawBlob)
    (h : CleanupRule config cleanup t (.deleteProcessedBlob path)) :
    (Retention.deleteProcessedBlob config cleanup tileSetId path targetKind).Meets Possible
      (CleanupRule config cleanup) (From t fun t' outcome => outcome = .ok () →
        ∃ gone, Made t' (.deleteProcessedBlob path) (.ok gone)) t := by
  refine Meets.call h fun reply _ => ?_
  cases reply with
  | error error => exact ⟨List.suffix_cons _ _, fun h => nomatch h⟩
  | ok gone =>
    refine (recordEvent_meets ⟨rfl, fun h => absurd h hkind⟩).mono (fun _ _ h => h) ?_
    rintro t' outcome ⟨ht', -⟩
    exact ⟨(List.suffix_cons _ _).trans ht', fun _ => ⟨gone, (made_self _ _ _).of_suffix ht'⟩⟩

theorem removeTiles_meets (hexecute : cleanup.execute = true) (paths : List String) {t : History}
    (hchosen : Chosen config cleanup candidate t)
    (hlisted : ∀ path ∈ paths, Listed config candidate path t) :
    (removeTiles config cleanup candidate.tileSetId paths).Meets Possible
      (CleanupRule config cleanup) (From t fun _ _ => True) t := by
  induction paths generalizing t with
  | nil => exact ⟨List.suffix_rfl, trivial⟩
  | cons path paths ih =>
    have hrule : CleanupRule config cleanup t (.deleteProcessedBlob path) :=
      ⟨hexecute, candidate, hchosen, .inl (hlisted path List.mem_cons_self)⟩
    refine Meets.bind (deleteProcessedBlob_meets _ .processedTile nofun hrule) ?_
    rintro t₁ outcome ⟨ht₁, -⟩
    cases outcome with
    | error error => exact ⟨ht₁, trivial⟩
    | ok _ =>
      have hrest := ih (hchosen.of_suffix ht₁) fun path hpath =>
        (hlisted path (List.mem_cons_of_mem _ hpath)).of_suffix ht₁
      exact hrest.mono (fun _ _ h => h) fun _ _ h => ⟨ht₁.trans h.1, trivial⟩

theorem removeTileSet_meets (hexecute : cleanup.execute = true) (paths : List String)
    (hchosen : Chosen config cleanup candidate t)
    (hlisted : ∀ path ∈ paths, Listed config candidate path t) :
    (removeTileSet config cleanup candidate paths).Meets Possible (CleanupRule config cleanup)
      (From t fun _ _ => True) t := by
  refine Meets.bind (removeTiles_meets hexecute paths hchosen hlisted) ?_
  rintro t₁ outcome ⟨ht₁, -⟩
  cases outcome with
  | error error => exact ⟨ht₁, trivial⟩
  | ok _ =>
    have hrule : CleanupRule config cleanup t₁ (.deleteProcessedBlob candidate.manifestBlobPath) :=
      ⟨hexecute, candidate, hchosen.of_suffix ht₁, .inr rfl⟩
    refine Meets.bind (deleteProcessedBlob_meets _ .processedManifest nofun hrule) ?_
    rintro t₂ outcome ⟨ht₂, hdeleted⟩
    cases outcome with
    | error error => exact ⟨ht₁.trans ht₂, trivial⟩
    | ok _ =>
      obtain ⟨gone, hmade⟩ := hdeleted rfl
      have ht₂ : t <:+ t₂ := ht₁.trans ht₂
      refine Meets.call ⟨hexecute, candidate, gone, hchosen.of_suffix ht₂, rfl, hmade⟩
        fun reply _ => ?_
      cases reply with
      | error error => exact ⟨ht₂.trans (List.suffix_cons _ _), trivial⟩
      | ok _ =>
        change (recordTileSetEvent cleanup candidate _ _ >>= _).Meets _ _ _ _
        refine Meets.bind (recordTileSetEvent_meets _ _ _ _) ?_
        rintro t₃ outcome ⟨ht₃, -⟩
        cases outcome <;> exact ⟨(ht₂.trans (List.suffix_cons _ _)).trans ht₃, trivial⟩

theorem executeTileSetCleanup_meets (hexecute : cleanup.execute = true)
    (hchosen : Chosen config cleanup candidate t) :
    (executeTileSetCleanup config cleanup candidate).Meets Possible (CleanupRule config cleanup)
      (From t fun _ _ => True) t := by
  unfold executeTileSetCleanup
  cases hprefix : tileSetPrefix candidate.tileSetId with
  | error error => exact ⟨List.suffix_rfl, trivial⟩
  | ok pathPrefix =>
    refine Meets.call trivial fun reply _ => ?_
    cases reply with
    | error error => exact ⟨List.suffix_cons _ _, trivial⟩
    | ok page =>
      obtain ⟨paths, hasMore⟩ := page
      dsimp only [andThen]
      split
      · refine Meets.bind (recordTileSetEvent_meets _ _ _ _) ?_
        rintro t₁ outcome ⟨ht₁, -⟩
        cases outcome <;> exact ⟨(List.suffix_cons _ _).trans ht₁, trivial⟩
      · next hlimit =>
        obtain rfl : hasMore = false := by simpa using fun h => hlimit (.inl h)
        have hchosen' := hchosen.of_suffix (List.suffix_cons (⟨.listProcessedBlobs pathPrefix
          config.retentionTileBlobLimit, .ok (paths, false)⟩ : Σ c : ProcessingCall, c.Reply) t)
        refine (removeTileSet_meets hexecute paths hchosen' fun path hpath =>
          ⟨pathPrefix, paths, hprefix, hpath, made_self _ _ _⟩).mono (fun _ _ h => h) ?_
        exact fun _ _ h => ⟨(List.suffix_cons _ _).trans h.1, trivial⟩

theorem recordRawEvent_meets {raw : RawBlobRetentionCandidate} {action : RetentionEventAction}
    (h : action = .selected ∨ ∃ outcome : DeleteBlobOutcome, action = outcome.action ∧
      Last t (.deleteRawBlob raw.blobPath) (.ok outcome)) :
    (recordRawEvent config cleanup raw action).Meets Possible (CleanupRule config cleanup)
      (From t fun _ _ => True) t :=
  (recordEvent_meets ⟨rfl, fun _ => h⟩).mono (fun _ _ h => h) fun _ _ h => ⟨h.1, trivial⟩

theorem removeRawBlob_meets {raw : RawBlobRetentionCandidate} (hexecute : cleanup.execute = true)
    (hchosen : RawChosen config raw.blobPath t) :
    (removeRawBlob config cleanup raw).Meets Possible (CleanupRule config cleanup)
      (From t fun _ _ => True) t := by
  refine Meets.call ⟨hexecute, hchosen⟩ fun reply _ => ?_
  cases reply with
  | error error => exact ⟨List.suffix_cons _ _, trivial⟩
  | ok gone =>
    refine (recordRawEvent_meets (.inr ⟨gone, rfl, last_self _ _ _⟩)).mono (fun _ _ h => h) ?_
    exact fun _ _ h => ⟨(List.suffix_cons _ _).trans h.1, trivial⟩

theorem cleanRawBlobs_meets (candidates : List RawBlobRetentionCandidate) {t : History}
    (hchosen : ∀ raw ∈ candidates, RawChosen config raw.blobPath t) :
    (cleanRawBlobs config cleanup candidates).Meets Possible (CleanupRule config cleanup)
      (From t fun _ _ => True) t := by
  induction candidates generalizing t with
  | nil => exact ⟨List.suffix_rfl, trivial⟩
  | cons raw candidates ih =>
    refine Meets.bind (recordRawEvent_meets (.inl rfl)) ?_
    rintro t₁ outcome ⟨ht₁, -⟩
    cases outcome with
    | error error => exact ⟨ht₁, trivial⟩
    | ok _ =>
      have hremove : (if cleanup.execute then removeRawBlob config cleanup raw
          else pure (.ok ())).Meets Possible (CleanupRule config cleanup)
          (From t₁ fun _ _ => True) t₁ := by
        split
        · next hexecute =>
          exact removeRawBlob_meets hexecute ((hchosen raw List.mem_cons_self).of_suffix ht₁)
        · exact ⟨List.suffix_rfl, trivial⟩
      refine Meets.bind hremove ?_
      rintro t₂ outcome ⟨ht₂, -⟩
      have ht₂ : t <:+ t₂ := ht₁.trans ht₂
      cases outcome with
      | error error => exact ⟨ht₂, trivial⟩
      | ok _ =>
        have hrest := ih fun raw' hraw' =>
          (hchosen raw' (List.mem_cons_of_mem _ hraw')).of_suffix ht₂
        exact hrest.mono (fun _ _ h => h) fun _ _ h => ⟨ht₂.trans h.1, trivial⟩

theorem cleanTileSets_meets (candidates : List TileSetRetentionCandidate) {t : History}
    (hselected : ∃ all, (∀ candidate ∈ candidates, candidate ∈ all) ∧
      Made t (.selectTileSetRetentionCandidates config.processedTileSetRetentionDays
        config.retentionProtectedPriorTileSets config.retentionBatchLimit) (.ok all)) :
    (cleanTileSets config cleanup candidates).Meets Possible (CleanupRule config cleanup)
      (fun _ _ => True) t := by
  induction candidates generalizing t with
  | nil => trivial
  | cons candidate candidates ih =>
    obtain ⟨all, hall, hmade⟩ := hselected
    unfold cleanTileSets
    cases hvalid : validateManifestPath candidate with
    | error error => trivial
    | ok _ =>
      refine Meets.bind (recordTileSetEvent_meets candidate .selected tileSetReason t) ?_
      rintro t₁ outcome ⟨ht₁, hrecorded⟩
      cases outcome with
      | error error => trivial
      | ok _ =>
        have hchosen : Chosen config cleanup candidate t₁ :=
          ⟨hvalid, ⟨all, hall candidate List.mem_cons_self, hmade.of_suffix ht₁⟩, hrecorded rfl⟩
        have hexecute : (if cleanup.execute then executeTileSetCleanup config cleanup candidate
            else pure (.ok .skipped)).Meets Possible (CleanupRule config cleanup)
            (From t₁ fun _ _ => True) t₁ := by
          split
          · next hexecute => exact executeTileSetCleanup_meets hexecute hchosen
          · exact ⟨List.suffix_rfl, trivial⟩
        refine Meets.bind hexecute ?_
        rintro t₂ outcome ⟨ht₂, -⟩
        cases outcome with
        | error error => trivial
        | ok _ =>
          exact ih ⟨all, fun candidate' h => hall candidate' (List.mem_cons_of_mem _ h),
            hmade.of_suffix (ht₁.trans ht₂)⟩

theorem runRetentionCleanup_meets (config : ProcessingConfig) (cleanup : Cleanup) (t : History) :
    (runRetentionCleanup config cleanup).Meets Possible (CleanupRule config cleanup)
      (fun _ _ => True) t := by
  refine Meets.call trivial fun reply _ => ?_
  cases reply with
  | error error => trivial
  | ok _ =>
    refine Meets.call trivial fun reply _ => ?_
    cases reply with
    | error error => trivial
    | ok _ =>
      refine Meets.call trivial fun reply _ => ?_
      cases reply with
      | error error => trivial
      | ok rawCandidates =>
        refine Meets.call trivial fun reply _ => ?_
        cases reply with
        | error error => trivial
        | ok tileSetCandidates =>
          change (cleanRawBlobs config cleanup rawCandidates >>= _).Meets _ _ _ _
          refine Meets.bind (cleanRawBlobs_meets rawCandidates fun raw hraw =>
            ⟨rawCandidates, raw, hraw, rfl, (made_self _ _ _).cons _⟩) ?_
          rintro t₁ outcome ⟨ht₁, -⟩
          cases outcome with
          | error error => trivial
          | ok _ =>
            exact cleanTileSets_meets tileSetCandidates
              ⟨tileSetCandidates, fun _ h => h, (made_self _ _ _).of_suffix ht₁⟩

end LumenHorizon.Processing
