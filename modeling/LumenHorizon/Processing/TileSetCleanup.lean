import LumenHorizon.Foundation.Alone
import LumenHorizon.Processing.ServedTiles
import LumenHorizon.Shared.BlobUrls

/-! # The cleanup of one tile set, cut off anywhere

The tiles and the manifest of a candidate are deleted one after another and its row is marked at
the end. A run may be cut off between any two calls, any of its calls may fail, and it is started
again on what is left. A delete goes to the URL of its path, and the blob at that URL may be one of
another path.
-/

namespace LumenHorizon.Processing
open Foundation Shared ProcessingProgram Program

/-! ## The blobs of one tile set -/

/-- The paths under `tiles/{id}/`, and that of the manifest. -/
def OfTileSet (tileSetId path : String) : Prop :=
  startsWith path ("tiles/" ++ tileSetId ++ "/") = true ∨
    path = "manifests/" ++ tileSetId ++ ".json"

theorem OfTileSet.eq {id id' path : String} (hid : ValidTileSetId id) (hid' : ValidTileSetId id')
    (h : OfTileSet id path) (h' : OfTileSet id' path) : id = id' := by
  have hslash : "/".toList = ['/'] := by decide
  -- a tile is no manifest
  have hkinds {a b : String} (ha : startsWith path ("tiles/" ++ a ++ "/") = true)
      (hb : path = "manifests/" ++ b ++ ".json") : False := by
    obtain ⟨rest, hrest⟩ := List.isPrefixOf_iff_prefix.mp ha
    have hheads := congrArg List.head? (hrest.trans (congrArg String.toList hb))
    simp [String.toList_append] at hheads
  rcases h with h | h <;> rcases h' with h' | h'
  · obtain ⟨rest, hrest⟩ := List.isPrefixOf_iff_prefix.mp h
    obtain ⟨rest', hrest'⟩ := List.isPrefixOf_iff_prefix.mp h'
    have hboth := hrest.trans hrest'.symm
    simp only [String.toList_append, List.append_assoc, List.append_cancel_left_eq, hslash,
      List.cons_append, List.nil_append] at hboth
    exact String.toList_injective
      ((Text.append_separator_inj hid.slash_notMem hid'.slash_notMem).mp hboth).1
  · exact (hkinds h h').elim
  · exact (hkinds h' h).elim
  · exact manifestBlobPath_injective (manifestBlobPath_eq_ok_iff.mpr ⟨hid, h⟩)
      (manifestBlobPath_eq_ok_iff.mpr ⟨hid', h'⟩)

def BlobStore.pathsWithPrefix (store : BlobStore) (pathPrefix : String) : List String :=
  (store.map Prod.fst).filter fun path => startsWith path pathPrefix

theorem BlobStore.mem_pathsWithPrefix {store : BlobStore} {pathPrefix path : String} :
    path ∈ store.pathsWithPrefix pathPrefix ↔
      store.Exists path ∧ startsWith path pathPrefix = true := by
  simp only [pathsWithPrefix, List.mem_filter, List.mem_map]
  constructor
  · rintro ⟨⟨⟨_, blob⟩, h, rfl⟩, hstarts⟩
    exact ⟨⟨blob, h⟩, hstarts⟩
  · rintro ⟨⟨blob, h⟩, hstarts⟩
    exact ⟨⟨_, h, rfl⟩, hstarts⟩

/-- A response of the storage service to a listing, once it is decoded. -/
structure BlobListResponse where
  blobs : Option (List String)
  nextMarker : Option String
deriving DecidableEq, Repr

/-- `parse_blob_list_response`: the names, and whether there are more. -/
def BlobListResponse.page (response : BlobListResponse) : List String × Bool :=
  (response.blobs.getD [], response.nextMarker.any fun marker => marker ≠ "")

/-- A listing is what is parsed of a response that returns the blobs with the prefix in order, and a
marker exactly if more remain. -/
theorem page_eq_listWithPrefix (store : BlobStore) (pathPrefix : String) (maxResults : ℕ)
    (response : BlobListResponse)
    (hblobs : response.blobs.getD [] =
      ((store.pathsWithPrefix pathPrefix).insertionSort (· ≤ ·)).take maxResults)
    (hmarker : (∃ marker, response.nextMarker = some marker ∧ marker ≠ "") ↔
      maxResults < (store.pathsWithPrefix pathPrefix).length) :
    response.page = store.listWithPrefix pathPrefix maxResults := by
  have hmore : response.nextMarker.any (fun marker => marker ≠ "") =
      decide (maxResults < (store.pathsWithPrefix pathPrefix).length) := by
    rw [Bool.eq_iff_iff, decide_eq_true_eq, ← hmarker]
    simp [Option.any_eq_true]
  rw [BlobListResponse.page, hblobs, hmore, ← List.length_insertionSort (· ≤ ·)]
  rfl

/-! ## Where a delete goes -/

section Address

variable (address : String → String)

/-- The call as the storage receives it, which deletes at the address of a path. -/
def redirect : ProcessingCall → ProcessingCall
  | .deleteProcessedBlob path => .deleteProcessedBlob (address path)
  | c => c

/-- The answers where a delete goes to the address of its path. -/
def answerAt : (c : ProcessingCall) → Env → ProcessingWorld → ProcessingWorld × c.Reply
  | .deleteProcessedBlob path, e, w => answer (.deleteProcessedBlob (address path)) e w
  | c, e, w => answer c e w

@[simp] theorem answerAt_deleteProcessedBlob (path : String) (e : Env) (w : ProcessingWorld) :
    answerAt address (.deleteProcessedBlob path) e w =
      answer (.deleteProcessedBlob (address path)) e w := rfl

@[simp] theorem answerAt_listProcessedBlobs (pathPrefix : String) (maxResults : ℕ) (e : Env)
    (w : ProcessingWorld) : answerAt address (.listProcessedBlobs pathPrefix maxResults) e w =
      answer (.listProcessedBlobs pathPrefix maxResults) e w := rfl

@[simp] theorem answerAt_recordRetentionEvent (event : RetentionEvent) (e : Env)
    (w : ProcessingWorld) : answerAt address (.recordRetentionEvent event) e w =
      answer (.recordRetentionEvent event) e w := rfl

@[simp] theorem answerAt_markTileSetRetentionDeleted (tileSetId reason : String) (e : Env)
    (w : ProcessingWorld) : answerAt address (.markTileSetRetentionDeleted tileSetId reason) e w =
      answer (.markTileSetRetentionDeleted tileSetId reason) e w := rfl

theorem answerAt_fst (c : ProcessingCall) (e : Env) (w : ProcessingWorld) :
    (answerAt address c e w).1 = (answer (redirect address c) e w).1 := by
  cases c <;> rfl

theorem answerAt_id : answerAt id = answer := by
  funext c e w
  cases c <;> rfl

end Address

def answerByUrl : (c : ProcessingCall) → Env → ProcessingWorld → ProcessingWorld × c.Reply :=
  answerAt addressedPath

/-! ## What a run leaves at any time -/

/-- No blob of the tile set remains. -/
def ProcessingWorld.Gone (w : ProcessingWorld) (tileSetId : String) : Prop :=
  ∀ path, OfTileSet tileSetId path → ¬ w.processedBlobs.Exists path

def ProcessingWorld.marked (w : ProcessingWorld) (tileSetId : String) (now : ℕ) : TileSetTable :=
  (w.tileSets.markTileSetRetentionDeleted tileSetId tileSetReason now).1

/-- Some blobs of the tile set are deleted, and its row is marked only where none is left. -/
structure Cleaning (tileSetId : String) (before w : ProcessingWorld) : Prop where
  blobs : ∃ gone : List String, (∀ path ∈ gone, OfTileSet tileSetId path) ∧
    w.processedBlobs = before.processedBlobs.filter fun entry => entry.1 ∉ gone
  rows : w.tileSets = before.tileSets ∨
    (w.Gone tileSetId ∧ ∃ now, w.tileSets = before.marked tileSetId now)
  raw : w.rawBlobs = before.rawBlobs

structure Cleaned (tileSetId : String) (before w : ProcessingWorld) : Prop where
  gone : w.Gone tileSetId
  rows : ∃ now, w.tileSets = before.marked tileSetId now

variable {tileSetId : String} {before w : ProcessingWorld} {path : String}

theorem Cleaning.refl (tileSetId : String) (w : ProcessingWorld) : Cleaning tileSetId w w where
  blobs := ⟨[], fun _ h => absurd h List.not_mem_nil, by simp⟩
  rows := .inl rfl
  raw := rfl

theorem TileSetTable.mark_mark (rows : TileSetTable) (tileSetId reason reason' : String)
    (now now' : ℕ) :
    ((rows.markTileSetRetentionDeleted tileSetId reason now).1.markTileSetRetentionDeleted tileSetId
      reason' now').1 = (rows.markTileSetRetentionDeleted tileSetId reason now).1 := by
  rcases markTileSetRetentionDeleted_cases rows tileSetId reason now with ⟨heq, hnone⟩ | ⟨heq, -⟩
  · rw [heq]
    rcases markTileSetRetentionDeleted_cases rows tileSetId reason' now' with
      ⟨heq', -⟩ | ⟨-, row, hrow, hdeletable⟩
    · rw [heq']
    · exact absurd hdeletable (hnone row hrow)
  · rw [heq]
    rcases markTileSetRetentionDeleted_cases (rows.map (retentionDeleted tileSetId reason now))
      tileSetId reason' now' with ⟨heq', -⟩ | ⟨-, row, hrow, hdeletable⟩
    · rw [heq']
    · obtain ⟨old, -, rfl⟩ := List.mem_map.mp hrow
      unfold retentionDeleted at hdeletable
      split at hdeletable
      · cases hdeletable.2.2
      · next hnot => exact absurd hdeletable hnot

/-- The manifest of the set, or a stored blob of it. -/
def Targeted (tileSetId : String) (before : ProcessingWorld) (path : String) : Prop :=
  OfTileSet tileSetId path ∧
    (before.processedBlobs.Exists path ∨ path = "manifests/" ++ tileSetId ++ ".json")

section Address

variable {address : String → String}

/-- Nothing is left where the deletes go. -/
def Erased (address : String → String) (tileSetId : String) (before w : ProcessingWorld) : Prop :=
  ∀ path, Targeted tileSetId before path → ¬ w.processedBlobs.Exists (address path)

/-- Some of what is at the addresses is deleted, and the row is marked only where all of it is. -/
structure Erasing (address : String → String) (tileSetId : String) (before w : ProcessingWorld) :
    Prop where
  blobs : ∃ gone : List String,
    (∀ path ∈ gone, ∃ target, Targeted tileSetId before target ∧ path = address target) ∧
      w.processedBlobs = before.processedBlobs.filter fun entry => entry.1 ∉ gone
  rows : w.tileSets = before.tileSets ∨
    (Erased address tileSetId before w ∧ ∃ now, w.tileSets = before.marked tileSetId now)
  raw : w.rawBlobs = before.rawBlobs

theorem Erasing.refl (address : String → String) (tileSetId : String) (w : ProcessingWorld) :
    Erasing address tileSetId w w where
  blobs := ⟨[], fun _ h => absurd h List.not_mem_nil, by simp⟩
  rows := .inl rfl
  raw := rfl

theorem Erasing.exists_before (h : Erasing address tileSetId before w)
    (hpath : w.processedBlobs.Exists path) : before.processedBlobs.Exists path := by
  obtain ⟨gone, -, hblobs⟩ := h.blobs
  obtain ⟨blob, hblob⟩ := hpath
  rw [hblobs] at hblob
  exact ⟨blob, List.mem_of_mem_filter hblob⟩

theorem Erasing.target_of_gone (h : Erasing address tileSetId before w)
    (hbefore : before.processedBlobs.Exists path) (hgone : ¬ w.processedBlobs.Exists path) :
    ∃ target, Targeted tileSetId before target ∧ path = address target := by
  obtain ⟨gone, htargets, hblobs⟩ := h.blobs
  obtain ⟨blob, hblob⟩ := hbefore
  apply htargets
  by_contra hmem
  apply hgone
  rw [hblobs]
  exact ⟨blob, List.mem_filter.mpr ⟨hblob, by simpa using hmem⟩⟩

theorem Erasing.marked_eq (h : Erasing address tileSetId before w) (now : ℕ) :
    ∃ now', w.marked tileSetId now = before.marked tileSetId now' := by
  rcases h.rows with hrows | ⟨-, now', hrows⟩
  · exact ⟨now, by rw [ProcessingWorld.marked, hrows]; rfl⟩
  · refine ⟨now', ?_⟩
    rw [ProcessingWorld.marked, hrows]
    exact TileSetTable.mark_mark _ _ _ _ _ _

def CleaningCall (address : String → String) (tileSetId : String) (before w : ProcessingWorld) :
    ProcessingCall → Prop
  | .listProcessedBlobs _ _ => True
  | .recordRetentionEvent _ => True
  | .deleteProcessedBlob path => Targeted tileSetId before path
  | .markTileSetRetentionDeleted id reason =>
    id = tileSetId ∧ reason = tileSetReason ∧ Erased address tileSetId before w
  | _ => False

theorem filter_delete {store : BlobStore} {gone : List String} :
    BlobStore.delete (store.filter fun entry => entry.1 ∉ gone) path =
      store.filter fun entry => entry.1 ∉ path :: gone := by
  rw [BlobStore.delete, List.filter_filter]
  apply List.filter_congr
  intro entry _
  simp [not_or]

theorem Erasing.after (h : Erasing address tileSetId before w) {c : ProcessingCall}
    (hc : CleaningCall address tileSetId before w c) (e : Env) :
    Erasing address tileSetId before (answerAt address c e w).1 := by
  rw [answerAt_fst]
  rcases answer_effect (redirect address c) e w with ⟨-, hw⟩ | ⟨-, finished, hw⟩
  · rw [hw]
    exact h
  · rw [hw]
    cases c with
    | listProcessedBlobs pathPrefix maxResults => exact ⟨h.blobs, h.rows, h.raw⟩
    | recordRetentionEvent event => exact ⟨h.blobs, h.rows, h.raw⟩
    | deleteProcessedBlob path =>
      obtain ⟨gone, hgone, hblobs⟩ := h.blobs
      refine ⟨⟨address path :: gone, List.forall_mem_cons.mpr ⟨⟨path, hc, rfl⟩, hgone⟩, ?_⟩, ?_,
        h.raw⟩
      · change w.processedBlobs.delete (address path) = _
        rw [hblobs, filter_delete]
      · refine h.rows.imp_right fun ⟨herased, hrows⟩ => ⟨fun target ht ⟨blob, hblob⟩ => ?_, hrows⟩
        exact herased target ht ⟨blob, (BlobStore.mem_delete.mp hblob).1⟩
    | markTileSetRetentionDeleted id reason =>
      obtain ⟨rfl, rfl, herased⟩ := hc
      obtain ⟨now, hmarked⟩ := h.marked_eq e.now
      exact ⟨h.blobs, .inr ⟨herased, now, hmarked⟩, h.raw⟩
    | _ => exact hc.elim

def Fewer (w w' : ProcessingWorld) : Prop :=
  ∀ path, w'.processedBlobs.Exists path → w.processedBlobs.Exists path

theorem Fewer.trans {w' w'' : ProcessingWorld} (h : Fewer w w') (h' : Fewer w' w'') :
    Fewer w w'' := fun path hpath => h path (h' path hpath)

theorem fewer_answerAt {c : ProcessingCall} (hc : CleaningCall address tileSetId before w c)
    (e : Env) : Fewer w (answerAt address c e w).1 := by
  rintro path ⟨blob, hblob⟩
  rw [answerAt_fst] at hblob
  rcases mem_answer_processedBlobs hblob with hblob | hupload
  · exact ⟨blob, hblob⟩
  · cases c with
    | uploadProcessedBlob path blob => exact hc.elim
    | _ => cases hupload

end Address

/-! ## One run by itself -/

section Alone

variable {address : String → String} {allowed : Env → Prop} {config : ProcessingConfig}
  {cleanup : Cleanup}
  {candidate : TileSetRetentionCandidate}

def NoFailure (allowed : Env → Prop) : Prop := ∀ e, allowed e → e.outcome = .ok

abbrev ErasesAlone {α : Type} (address : String → String) (allowed : Env → Prop)
    (tileSetId : String) (before : ProcessingWorld) (post : ProcessingWorld → α → Prop)
    (p : ProcessingProgram α) (w : ProcessingWorld) : Prop :=
  p.Alone (answerAt address) allowed (Erasing address tileSetId before) post w

theorem recordEvent_alone (h : Erasing address tileSetId before w) (event : RetentionEvent) :
    ErasesAlone address allowed tileSetId before (fun w' outcome =>
      w'.processedBlobs = w.processedBlobs ∧ w'.tileSets = w.tileSets ∧
        (NoFailure allowed → outcome = .ok ())) (recordEvent event) w := by
  refine ⟨h, fun e he => ?_⟩
  have hcall : CleaningCall address tileSetId before w (.recordRetentionEvent event) := trivial
  have hafter := h.after hcall e
  rw [answerAt_recordRetentionEvent] at hafter ⊢
  cases ho : e.outcome with
  | ok =>
    rw [answer_of_ok ho] at hafter ⊢
    exact ⟨hafter, rfl, rfl, fun _ => rfl⟩
  | failed =>
    rw [answer_of_failed ho] at hafter ⊢
    exact ⟨hafter, rfl, rfl, fun hno => absurd (hno e he) (by simp [ho])⟩
  | lost =>
    rw [answer_of_lost ho] at hafter ⊢
    exact ⟨hafter, rfl, rfl, fun hno => absurd (hno e he) (by simp [ho])⟩

theorem deleteProcessedBlob_alone (h : Erasing address tileSetId before w)
    (hpath : Targeted tileSetId before path) (targetKind : RetentionTargetKind) :
    ErasesAlone address allowed tileSetId before (fun w' outcome => Fewer w w' ∧
      w'.tileSets = w.tileSets ∧ (outcome = .ok () → ¬ w'.processedBlobs.Exists (address path)) ∧
        (NoFailure allowed → outcome = .ok ()))
      (Retention.deleteProcessedBlob config cleanup tileSetId path targetKind) w := by
  refine ⟨h, fun e he => ?_⟩
  have hcall : CleaningCall address tileSetId before w (.deleteProcessedBlob path) := hpath
  have hafter := h.after hcall e
  have hfewer := fewer_answerAt hcall e
  rw [answerAt_deleteProcessedBlob] at hafter hfewer ⊢
  cases ho : e.outcome with
  | ok =>
    rw [answer_of_ok ho] at hafter hfewer ⊢
    refine (recordEvent_alone hafter _).mono ?_
    rintro w' outcome - ⟨hblobs, hrows, hok⟩
    have hgone : w'.processedBlobs = w.processedBlobs.delete (address path) := hblobs
    refine ⟨fun path' h => hfewer path' ?_, hrows, fun _ ⟨blob, hblob⟩ => ?_, hok⟩
    · rw [hgone] at h
      exact h
    · rw [hgone] at hblob
      exact (BlobStore.mem_delete.mp hblob).2 rfl
  | failed =>
    rw [answer_of_failed ho] at hafter hfewer ⊢
    exact ⟨hafter, hfewer, rfl, nofun, fun hno => absurd (hno e he) (by simp [ho])⟩
  | lost =>
    rw [answer_of_lost ho] at hafter hfewer ⊢
    exact ⟨hafter, hfewer, rfl, nofun, fun hno => absurd (hno e he) (by simp [ho])⟩

theorem removeTiles_alone (paths : List String) {w : ProcessingWorld}
    (h : Erasing address tileSetId before w) (hpaths : ∀ path ∈ paths, Targeted tileSetId before path) :
    ErasesAlone address allowed tileSetId before (fun w' outcome => Fewer w w' ∧
      w'.tileSets = w.tileSets ∧
        (outcome = .ok () → ∀ path ∈ paths, ¬ w'.processedBlobs.Exists (address path)) ∧
        (NoFailure allowed → outcome = .ok ()))
      (removeTiles config cleanup tileSetId paths) w := by
  induction paths generalizing w with
  | nil => exact ⟨h, fun _ h => h, rfl, fun _ _ h => absurd h List.not_mem_nil, fun _ => rfl⟩
  | cons path paths ih =>
    refine Alone.bind (deleteProcessedBlob_alone h (hpaths path List.mem_cons_self) _) ?_
    rintro w₁ outcome h₁ ⟨hfewer, hrows, hpath, hok⟩
    cases outcome with
    | error error => exact ⟨h₁, hfewer, hrows, nofun, fun hno => absurd (hok hno) nofun⟩
    | ok _ =>
      refine (ih h₁ fun path' h => hpaths path' (List.mem_cons_of_mem _ h)).mono ?_
      rintro w₂ outcome - ⟨hfewer₂, hrows₂, hrest, hok₂⟩
      refine ⟨hfewer.trans hfewer₂, hrows₂.trans hrows, fun hdone path' hpath' => ?_, hok₂⟩
      rcases List.mem_cons.mp hpath' with rfl | hpath'
      · exact fun hexists => hpath rfl (hfewer₂ _ hexists)
      · exact hrest hdone path' hpath'

/-- Everything that the deletes go to is gone, and the row is marked. -/
structure ErasedAll (address : String → String) (tileSetId : String) (before w : ProcessingWorld) :
    Prop where
  erased : Erased address tileSetId before w
  rows : ∃ now, w.tileSets = before.marked tileSetId now

/-- From a complete listing on; a row that can be marked is. The blob at an address is at its own,
so a target that is gone left nothing at its address. -/
theorem removeTileSet_alone (hidem : ∀ path, address (address path) = address path)
    (paths : List String) (h : Erasing address candidate.tileSetId before w)
    (hmanifest : candidate.manifestBlobPath = "manifests/" ++ candidate.tileSetId ++ ".json")
    (hpaths : ∀ path, path ∈ paths ↔ w.processedBlobs.Exists path ∧
      startsWith path ("tiles/" ++ candidate.tileSetId ++ "/") = true) :
    ErasesAlone address allowed candidate.tileSetId before
      (fun w' outcome => NoFailure allowed → ErasedAll address candidate.tileSetId before w' ∧
        ((∃ row ∈ w.tileSets, TileSetTable.RetentionDeletable candidate.tileSetId row) →
          outcome = .ok .deleted))
      (removeTileSet config cleanup candidate paths) w := by
  have htargets : ∀ path ∈ paths, Targeted candidate.tileSetId before path := fun path hpath =>
    ⟨.inl ((hpaths path).mp hpath).2, .inl (h.exists_before ((hpaths path).mp hpath).1)⟩
  have htarget : Targeted candidate.tileSetId before candidate.manifestBlobPath :=
    ⟨.inr hmanifest, .inr hmanifest⟩
  refine Alone.bind (removeTiles_alone paths h htargets) ?_
  rintro w₁ outcome h₁ ⟨hfewer₁, hrows₁, htiles, hok₁⟩
  cases outcome with
  | error error => exact ⟨h₁, fun hno => absurd (hok₁ hno) nofun⟩
  | ok _ =>
    refine Alone.bind (deleteProcessedBlob_alone h₁ htarget _) ?_
    rintro w₂ outcome h₂ ⟨hfewer₂, hrows₂, hdeleted, hok₂⟩
    cases outcome with
    | error error => exact ⟨h₂, fun hno => absurd (hok₂ hno) nofun⟩
    | ok _ =>
      have herased : Erased address candidate.tileSetId before w₂ := by
        rintro path ⟨hpath, hstored⟩ hexists
        by_cases hown : path = candidate.manifestBlobPath
        · exact hdeleted rfl (hown ▸ hexists)
        · have hbefore := hstored.resolve_right fun heq => hown (heq.trans hmanifest.symm)
          have htile := hpath.resolve_right fun heq => hown (heq.trans hmanifest.symm)
          by_cases hlisted : w.processedBlobs.Exists path
          · exact htiles rfl path ((hpaths path).mpr ⟨hlisted, htile⟩) (hfewer₂ _ hexists)
          · obtain ⟨target, -, rfl⟩ := h.target_of_gone hbefore hlisted
            rw [hidem] at hexists
            exact hlisted (hfewer₁ _ (hfewer₂ _ hexists))
      refine ⟨h₂, fun e he => ?_⟩
      have hcall : CleaningCall address candidate.tileSetId before w₂
          (.markTileSetRetentionDeleted candidate.tileSetId tileSetReason) := ⟨rfl, rfl, herased⟩
      have hafter := h₂.after hcall e
      rw [answerAt_markTileSetRetentionDeleted] at hafter ⊢
      cases ho : e.outcome with
      | failed =>
        rw [answer_of_failed ho] at hafter ⊢
        exact ⟨hafter, fun hno => absurd (hno e he) (by simp [ho])⟩
      | lost =>
        rw [answer_of_lost ho] at hafter ⊢
        exact ⟨hafter, fun hno => absurd (hno e he) (by simp [ho])⟩
      | ok =>
        rw [answer_of_ok ho] at hafter ⊢
        have hall : ErasedAll address candidate.tileSetId before
            (confirm (effect e w₂ (.markTileSetRetentionDeleted candidate.tileSetId tileSetReason))
              (.markTileSetRetentionDeleted candidate.tileSetId tileSetReason)) :=
          ⟨herased, h₂.marked_eq e.now⟩
        have hmarks : (∃ row ∈ w.tileSets, TileSetTable.RetentionDeletable candidate.tileSetId row) →
            (w₂.tileSets.markTileSetRetentionDeleted candidate.tileSetId tileSetReason e.now).2 =
              .ok () := by
          intro hrow
          rw [hrows₂, hrows₁, TileSetTable.markTileSetRetentionDeleted, if_pos hrow]
        have hreply : result e w₂ (.markTileSetRetentionDeleted candidate.tileSetId tileSetReason) =
          (w₂.tileSets.markTileSetRetentionDeleted candidate.tileSetId tileSetReason e.now).2 := rfl
        rw [hreply]
        generalize (w₂.tileSets.markTileSetRetentionDeleted candidate.tileSetId tileSetReason
          e.now).2 = reply at hmarks ⊢
        cases reply with
        | error error =>
          -- an earlier run marked the row
          exact ⟨hafter, fun _ => ⟨hall, fun hrow => absurd (hmarks hrow) nofun⟩⟩
        | ok _ =>
          change (recordTileSetEvent cleanup candidate _ _ >>= _).Alone _ _ _ _ _
          refine Alone.bind (recordEvent_alone hafter _) ?_
          rintro w₃ outcome h₃ ⟨hblobs, hrows, hok₃⟩
          have hall₃ : ErasedAll address candidate.tileSetId before w₃ := by
            refine ⟨fun path hpath hexists => hall.erased path hpath ?_, ?_⟩
            · rw [BlobStore.Exists, hblobs] at hexists
              exact hexists
            · rw [hrows]
              exact hall.rows
          cases outcome with
          | error error => exact ⟨h₃, fun hno => absurd (hok₃ hno) nofun⟩
          | ok _ => exact ⟨h₃, fun _ => ⟨hall₃, fun _ => rfl⟩⟩

/-- More blobs than one listing returns. -/
def TooMany (config : ProcessingConfig) (tileSetId : String) (w : ProcessingWorld) : Prop :=
  config.retentionTileBlobLimit <
    (w.processedBlobs.pathsWithPrefix ("tiles/" ++ tileSetId ++ "/")).length

instance (config : ProcessingConfig) (tileSetId : String) (w : ProcessingWorld) :
    Decidable (TooMany config tileSetId w) := inferInstanceAs (Decidable (_ < _))

theorem Erasing.not_tooMany (h : Erasing address tileSetId before w)
    (hfew : ¬ TooMany config tileSetId before) : ¬ TooMany config tileSetId w := by
  obtain ⟨gone, -, hblobs⟩ := h.blobs
  have hsub : (w.processedBlobs.pathsWithPrefix ("tiles/" ++ tileSetId ++ "/")).Sublist
      (before.processedBlobs.pathsWithPrefix ("tiles/" ++ tileSetId ++ "/")) := by
    rw [hblobs]
    exact (List.filter_sublist.map _).filter _
  exact fun hmany => hfew (hmany.trans_le hsub.length_le)

/-- The listing of a tile set within the limit is complete. -/
theorem listWithPrefix_of_few (hfew : ¬ TooMany config tileSetId w) :
    ∃ paths, w.processedBlobs.listWithPrefix ("tiles/" ++ tileSetId ++ "/")
        config.retentionTileBlobLimit = (paths, false) ∧
      paths.length ≤ config.retentionTileBlobLimit ∧
      ∀ path, path ∈ paths ↔ w.processedBlobs.Exists path ∧
        startsWith path ("tiles/" ++ tileSetId ++ "/") = true := by
  let paths := (w.processedBlobs.pathsWithPrefix ("tiles/" ++ tileSetId ++ "/")).insertionSort (· ≤ ·)
  have hlength : paths.length ≤ config.retentionTileBlobLimit := by
    rw [List.length_insertionSort]
    exact not_lt.mp hfew
  refine ⟨paths, ?_, hlength, fun path => ?_⟩
  · have htake : paths.take config.retentionTileBlobLimit = paths := List.take_of_length_le hlength
    exact Prod.ext htake (decide_eq_false (not_lt.mpr hlength))
  · rw [List.mem_insertionSort, BlobStore.mem_pathsWithPrefix]

theorem executeTileSetCleanup_erases (hidem : ∀ path, address (address path) = address path)
    (hvalid : validateManifestPath candidate = .ok ())
    (h : Erasing address candidate.tileSetId before w)
    (hfew : ¬ TooMany config candidate.tileSetId before) :
    ErasesAlone address allowed candidate.tileSetId before
      (fun w' outcome => NoFailure allowed → ErasedAll address candidate.tileSetId before w' ∧
        ((∃ row ∈ w.tileSets, TileSetTable.RetentionDeletable candidate.tileSetId row) →
          outcome = .ok .deleted))
      (executeTileSetCleanup config cleanup candidate) w := by
  obtain ⟨hid, hmanifest⟩ := manifestBlobPath_eq_ok_iff.mp (validateManifestPath_eq_ok_iff.mp hvalid).2
  unfold executeTileSetCleanup
  rw [tileSetPrefix_eq_ok_iff.mpr ⟨hid, rfl⟩]
  refine ⟨h, fun e he => ?_⟩
  have hcall : CleaningCall address candidate.tileSetId before w (.listProcessedBlobs
      ("tiles/" ++ candidate.tileSetId ++ "/") config.retentionTileBlobLimit) := trivial
  have hafter := h.after hcall e
  rw [answerAt_listProcessedBlobs] at hafter ⊢
  cases ho : e.outcome with
  | failed =>
    rw [answer_of_failed ho] at hafter ⊢
    exact ⟨hafter, fun hno => absurd (hno e he) (by simp [ho])⟩
  | lost =>
    rw [answer_of_lost ho] at hafter ⊢
    exact ⟨hafter, fun hno => absurd (hno e he) (by simp [ho])⟩
  | ok =>
    rw [answer_of_ok ho] at hafter ⊢
    obtain ⟨paths, hlist, hlength, hpaths⟩ := listWithPrefix_of_few (h.not_tooMany hfew)
    have hcomplete : ¬ (false = true ∨ config.retentionTileBlobLimit < paths.length) := by
      simpa using hlength
    simp only [result, hlist, andThen, if_neg hcomplete]
    exact removeTileSet_alone hidem paths hafter hmanifest hpaths

/-- A tile set whose listing is not complete keeps its blobs and its row. -/
structure Untouched (before w : ProcessingWorld) : Prop where
  blobs : w.processedBlobs = before.processedBlobs
  rows : w.tileSets = before.tileSets
  raw : w.rawBlobs = before.rawBlobs

theorem Untouched.after (h : Untouched before w) {c : ProcessingCall}
    (hc : (∃ pathPrefix maxResults, c = .listProcessedBlobs pathPrefix maxResults) ∨
      ∃ event, c = .recordRetentionEvent event) (e : Env) :
    Untouched before (answerAt address c e w).1 := by
  rw [answerAt_fst]
  rcases answer_effect (redirect address c) e w with ⟨-, hw⟩ | ⟨-, finished, hw⟩
  · rw [hw]
    exact h
  · rw [hw]
    rcases hc with ⟨pathPrefix, maxResults, rfl⟩ | ⟨event, rfl⟩
    · exact ⟨h.blobs, h.rows, h.raw⟩
    · exact ⟨h.blobs, h.rows, h.raw⟩

theorem recordEvent_untouched (h : Untouched before w) (event : RetentionEvent) :
    (recordEvent event).Alone (answerAt address) allowed (Untouched before)
      (fun _ outcome => NoFailure allowed → outcome = .ok ()) w := by
  refine ⟨h, fun e he => ?_⟩
  have hafter : Untouched before (answerAt address (.recordRetentionEvent event) e w).1 :=
    h.after (.inr ⟨event, rfl⟩) e
  rw [answerAt_recordRetentionEvent] at hafter ⊢
  cases ho : e.outcome with
  | ok =>
    rw [answer_of_ok ho] at hafter ⊢
    exact ⟨hafter, fun _ => rfl⟩
  | failed =>
    rw [answer_of_failed ho] at hafter ⊢
    exact ⟨hafter, fun hno => absurd (hno e he) (by simp [ho])⟩
  | lost =>
    rw [answer_of_lost ho] at hafter ⊢
    exact ⟨hafter, fun hno => absurd (hno e he) (by simp [ho])⟩

/-- The cleanup goes no further than a listing that is not complete. -/
theorem executeTileSetCleanup_skips (hmany : TooMany config candidate.tileSetId before)
    (h : Untouched before w) :
    (executeTileSetCleanup config cleanup candidate).Alone (answerAt address) allowed
      (Untouched before) (fun _ outcome => NoFailure allowed →
        ValidTileSetId candidate.tileSetId → outcome = .ok .skipped) w := by
  unfold executeTileSetCleanup
  cases hfolder : tileSetPrefix candidate.tileSetId with
  | error error =>
    exact ⟨h, fun _ hid => absurd (tileSetPrefix_eq_ok_iff.mpr ⟨hid, rfl⟩) (by simp [hfolder])⟩
  | ok pathPrefix =>
    obtain ⟨-, rfl⟩ := tileSetPrefix_eq_ok_iff.mp hfolder
    refine ⟨h, fun e he => ?_⟩
    have hafter : Untouched before (answerAt address (.listProcessedBlobs
        ("tiles/" ++ candidate.tileSetId ++ "/") config.retentionTileBlobLimit) e w).1 :=
      h.after (.inl ⟨_, _, rfl⟩) e
    rw [answerAt_listProcessedBlobs] at hafter ⊢
    cases ho : e.outcome with
    | failed =>
      rw [answer_of_failed ho] at hafter ⊢
      exact ⟨hafter, fun hno => absurd (hno e he) (by simp [ho])⟩
    | lost =>
      rw [answer_of_lost ho] at hafter ⊢
      exact ⟨hafter, fun hno => absurd (hno e he) (by simp [ho])⟩
    | ok =>
      rw [answer_of_ok ho] at hafter ⊢
      have hlist : ∃ paths, w.processedBlobs.listWithPrefix ("tiles/" ++ candidate.tileSetId ++ "/")
          config.retentionTileBlobLimit = (paths, true) := by
        refine ⟨_, Prod.ext rfl (decide_eq_true ?_)⟩
        rw [List.length_insertionSort, h.blobs]
        exact hmany
      obtain ⟨paths, hlist⟩ := hlist
      simp only [result, hlist, andThen, true_or, if_true]
      refine Alone.bind (recordEvent_untouched hafter _) ?_
      intro w' outcome h' hok
      cases outcome with
      | error error => exact ⟨h', fun hno => absurd (hok hno) nofun⟩
      | ok _ => exact ⟨h', fun _ _ => rfl⟩

/-! ## Deletes that go to the paths themselves -/

theorem Erasing.cleaning_of (h : Erasing address tileSetId before w)
    (hown : ∀ target, Targeted tileSetId before target →
      before.processedBlobs.Exists (address target) → OfTileSet tileSetId (address target))
    (hgone : Erased address tileSetId before w → w.Gone tileSetId) :
    Cleaning tileSetId before w where
  blobs := by
    obtain ⟨gone, htargets, hblobs⟩ := h.blobs
    refine ⟨gone.filter fun path => before.processedBlobs.Exists path, fun path hpath => ?_, ?_⟩
    · obtain ⟨hmem, hexists⟩ := List.mem_filter.mp hpath
      obtain ⟨target, htarget, rfl⟩ := htargets path hmem
      exact hown target htarget (of_decide_eq_true hexists)
    · rw [hblobs]
      apply List.filter_congr
      intro entry hentry
      have hstored : before.processedBlobs.Exists entry.1 := ⟨entry.2, hentry⟩
      simp [hstored]
  rows := h.rows.imp_right fun ⟨herased, hrows⟩ => ⟨hgone herased, hrows⟩
  raw := h.raw

theorem Cleaning.erasing (h : Cleaning tileSetId before w) : Erasing id tileSetId before w where
  blobs := by
    obtain ⟨gone, hgone, hblobs⟩ := h.blobs
    refine ⟨gone.filter fun path => before.processedBlobs.Exists path, fun path hpath => ?_, ?_⟩
    · obtain ⟨hmem, hexists⟩ := List.mem_filter.mp hpath
      exact ⟨path, ⟨hgone path hmem, .inl (of_decide_eq_true hexists)⟩, rfl⟩
    · rw [hblobs]
      apply List.filter_congr
      intro entry hentry
      have hstored : before.processedBlobs.Exists entry.1 := ⟨entry.2, hentry⟩
      simp [hstored]
  rows := h.rows.imp_right fun ⟨hgone, hrows⟩ => ⟨fun path hpath => hgone path hpath.1, hrows⟩
  raw := h.raw

theorem Erasing.cleaning (h : Erasing id tileSetId before w) : Cleaning tileSetId before w :=
  h.cleaning_of (fun _ htarget _ => htarget.1) fun herased path hpath hexists =>
    herased path ⟨hpath, .inl (h.exists_before hexists)⟩ hexists

theorem executeTileSetCleanup_alone (hvalid : validateManifestPath candidate = .ok ())
    (h : Cleaning candidate.tileSetId before w)
    (hfew : ¬ TooMany config candidate.tileSetId before) :
    (executeTileSetCleanup config cleanup candidate).Alone answer allowed
      (Cleaning candidate.tileSetId before)
      (fun w' outcome => NoFailure allowed → Cleaned candidate.tileSetId before w' ∧
        ((∃ row ∈ w.tileSets, TileSetTable.RetentionDeletable candidate.tileSetId row) →
          outcome = .ok .deleted)) w := by
  have herases : ErasesAlone id allowed candidate.tileSetId before _
      (executeTileSetCleanup config cleanup candidate) w :=
    executeTileSetCleanup_erases (fun _ => rfl) hvalid h.erasing hfew
  rw [ErasesAlone, answerAt_id] at herases
  refine (herases.mono fun w' outcome herasing hends hno => ?_).weaken fun _ h => h.cleaning
  obtain ⟨hall, hdeleted⟩ := hends hno
  exact ⟨⟨fun path hpath hexists => hall.erased path
    ⟨hpath, .inl (herasing.exists_before hexists)⟩ hexists, hall.rows⟩, hdeleted⟩

theorem executeTileSetCleanup_untouched (hmany : TooMany config candidate.tileSetId before)
    (h : Untouched before w) :
    (executeTileSetCleanup config cleanup candidate).Alone answer allowed (Untouched before)
      (fun _ outcome => NoFailure allowed → ValidTileSetId candidate.tileSetId →
        outcome = .ok .skipped) w := by
  rw [← answerAt_id]
  exact executeTileSetCleanup_skips hmany h

end Alone

/-! ## Attempts that are cut off, and the run after them -/

/-- An attempt, the calls after which it is cut off, and what the environment does. -/
structure CleanupAttempt where
  cleanup : Cleanup
  calls : ℕ
  choices : ℕ → Env

def attemptCleanup (config : ProcessingConfig) (candidate : TileSetRetentionCandidate)
    (w : ProcessingWorld) (attempt : CleanupAttempt) : Option ProcessingWorld :=
  some (worldAfter answerByUrl attempt.calls (executeTileSetCleanup config attempt.cleanup candidate)
    attempt.choices w)

/-- What is left after some attempts, each cut off anywhere. -/
abbrev Interrupted (config : ProcessingConfig) (candidate : TileSetRetentionCandidate)
    (before w : ProcessingWorld) : Prop :=
  Reaches (attemptCleanup config candidate) (fun _ _ => True) before w

structure CleanRun where
  cleanup : Cleanup
  choices : ℕ → Env
  ok : ∀ i, (choices i).outcome = .ok

def CleanRun.world (run : CleanRun) (config : ProcessingConfig)
    (candidate : TileSetRetentionCandidate) (w : ProcessingWorld) : ProcessingWorld :=
  (exec answerByUrl (executeTileSetCleanup config run.cleanup candidate) run.choices w).1

/-- A row with its time of deletion reduced to whether there is one. -/
def TileSetRow.timeless (row : TileSetRow) : TileSetRow :=
  { row with retentionDeletedAt := row.retentionDeletedAt.map fun _ => 0 }

/-- The cleanup of a tile set in a world: what it may delete, when it marks the row, what it leaves
alone, and where it ends if it is started again on what any attempts left. -/
structure ResumableCleanup (config : ProcessingConfig) (candidate : TileSetRetentionCandidate)
    (before : ProcessingWorld) : Prop where
  confined : ∀ w, Interrupted config candidate before w → w.rawBlobs = before.rawBlobs ∧
    ∀ path blob, ¬ OfTileSet candidate.tileSetId path →
      ((path, blob) ∈ w.processedBlobs ↔ (path, blob) ∈ before.processedBlobs)
  separate : ¬ OfTileSet candidate.tileSetId latestManifestBlobPath ∧
    ∀ id, ValidTileSetId id → id ≠ candidate.tileSetId → ∀ path, OfTileSet id path →
      ¬ OfTileSet candidate.tileSetId path
  marked : ∀ w, Interrupted config candidate before w → w.tileSets = before.tileSets ∨
    (w.Gone candidate.tileSetId ∧ ∃ now, w.tileSets = before.marked candidate.tileSetId now)
  skipped : TooMany config candidate.tileSetId before → ∀ w, Interrupted config candidate before w →
    w.processedBlobs = before.processedBlobs ∧ w.tileSets = before.tileSets
  complete : ¬ TooMany config candidate.tileSetId before →
    ∀ w, Interrupted config candidate before w → ∀ run : CleanRun,
      Cleaned candidate.tileSetId before (run.world config candidate w)
  resumed : ∀ w, Interrupted config candidate before w → ∀ again direct : CleanRun,
    (again.world config candidate w).processedBlobs =
        (direct.world config candidate before).processedBlobs ∧
      (again.world config candidate w).tileSets.map TileSetRow.timeless =
        (direct.world config candidate before).tileSets.map TileSetRow.timeless

variable {config : ProcessingConfig} {candidate : TileSetRetentionCandidate}

theorem interrupted_untouched (hmany : TooMany config candidate.tileSetId before)
    (h : Interrupted config candidate before w) : Untouched before w := by
  apply h.invariant ⟨rfl, rfl, rfl⟩
  intro w₁ attempt w₂ h₁ _ hstep
  obtain rfl := Option.some.inj hstep
  have hrun : Alone answerByUrl (fun _ => True) (Untouched before) _
      (executeTileSetCleanup config attempt.cleanup candidate) w₁ :=
    executeTileSetCleanup_skips hmany h₁
  exact hrun.worldAfter _ fun _ => trivial

theorem Untouched.cleaning (h : Untouched before w) : Cleaning tileSetId before w where
  blobs := ⟨[], fun _ h => absurd h List.not_mem_nil, by simp [h.blobs]⟩
  rows := .inl h.rows
  raw := h.raw

theorem Untouched.erasing {address : String → String} (h : Untouched before w) :
    Erasing address tileSetId before w where
  blobs := ⟨[], fun _ h => absurd h List.not_mem_nil, by simp [h.blobs]⟩
  rows := .inl h.rows
  raw := h.raw

theorem interrupted_erasing (hvalid : validateManifestPath candidate = .ok ())
    (h : Interrupted config candidate before w) :
    Erasing addressedPath candidate.tileSetId before w := by
  by_cases hmany : TooMany config candidate.tileSetId before
  · exact (interrupted_untouched hmany h).erasing
  · apply h.invariant (Erasing.refl _ _ _)
    intro w₁ attempt w₂ h₁ _ hstep
    obtain rfl := Option.some.inj hstep
    have hrun : ErasesAlone addressedPath (fun _ => True) candidate.tileSetId before _
        (executeTileSetCleanup config attempt.cleanup candidate) w₁ :=
      executeTileSetCleanup_erases addressedPath_addressedPath hvalid h₁ hmany
    exact hrun.worldAfter _ fun _ => trivial

/-- A run without failures on what is left erases all that its deletes go to. -/
theorem CleanRun.erasedAll (run : CleanRun) (hvalid : validateManifestPath candidate = .ok ())
    (hfew : ¬ TooMany config candidate.tileSetId before)
    (h : Erasing addressedPath candidate.tileSetId before w) :
    Erasing addressedPath candidate.tileSetId before (run.world config candidate w) ∧
      ErasedAll addressedPath candidate.tileSetId before (run.world config candidate w) := by
  have hrun : ErasesAlone addressedPath (fun e => e.outcome = .ok) candidate.tileSetId before _
      (executeTileSetCleanup config run.cleanup candidate) w :=
    executeTileSetCleanup_erases addressedPath_addressedPath hvalid h hfew
  obtain ⟨herasing, hall⟩ := hrun.exec run.ok
  exact ⟨herasing, (hall fun _ he => he).1⟩

theorem CleanRun.untouched (run : CleanRun) (hmany : TooMany config candidate.tileSetId before)
    (h : Untouched before w) : Untouched before (run.world config candidate w) := by
  have hrun : Alone answerByUrl (fun _ => True) (Untouched before) _
      (executeTileSetCleanup config run.cleanup candidate) w :=
    executeTileSetCleanup_skips hmany h
  exact (hrun.exec fun _ => trivial).1

/-- A whole run is an attempt that is cut off after its last call. -/
theorem CleanRun.interrupted (run : CleanRun) (h : Interrupted config candidate before w) :
    Interrupted config candidate before (run.world config candidate w) := by
  let attempt : CleanupAttempt := {
    cleanup := run.cleanup
    calls := calls answerByUrl (executeTileSetCleanup config run.cleanup candidate) run.choices w
    choices := run.choices }
  have hstep : attemptCleanup config candidate w attempt = some (run.world config candidate w) :=
    congrArg some (worldAfter_calls _ _ _)
  exact h.next trivial hstep

/-- Which blobs are left at the end does not depend on the order in which they went. -/
theorem Cleaned.blobs_eq {w' : ProcessingWorld} (hcleaning : Cleaning tileSetId before w)
    (hcleaned : Cleaned tileSetId before w) (hcleaning' : Cleaning tileSetId before w')
    (hcleaned' : Cleaned tileSetId before w') : w.processedBlobs = w'.processedBlobs := by
  obtain ⟨gone, hgone, hblobs⟩ := hcleaning.blobs
  obtain ⟨gone', hgone', hblobs'⟩ := hcleaning'.blobs
  -- a blob of the set that stays contradicts the end of the run it stays in
  have hall {v : ProcessingWorld} {g : List String} (hcleaned : Cleaned tileSetId before v)
      (hblobs : v.processedBlobs = before.processedBlobs.filter fun entry => entry.1 ∉ g)
      {entry : String × ProcessedBlob} (hentry : entry ∈ before.processedBlobs)
      (hof : OfTileSet tileSetId entry.1) : entry.1 ∈ g := by
    by_contra hmem
    apply hcleaned.gone _ hof
    rw [hblobs]
    exact ⟨entry.2, List.mem_filter.mpr ⟨hentry, by simpa using hmem⟩⟩
  rw [hblobs, hblobs']
  apply List.filter_congr
  intro entry hentry
  have hiff : entry.1 ∈ gone ↔ entry.1 ∈ gone' :=
    ⟨fun h => hall hcleaned' hblobs' hentry (hgone _ h),
      fun h => hall hcleaned hblobs hentry (hgone' _ h)⟩
  simp [hiff]

theorem timeless_marked (w : ProcessingWorld) (tileSetId : String) (now now' : ℕ) :
    (w.marked tileSetId now).map TileSetRow.timeless =
      (w.marked tileSetId now').map TileSetRow.timeless := by
  unfold ProcessingWorld.marked TileSetTable.markTileSetRetentionDeleted
  by_cases h : ∃ row ∈ w.tileSets, TileSetTable.RetentionDeletable tileSetId row
  · rw [if_pos h, if_pos h, Table.update, Table.update, List.map_map, List.map_map]
    apply List.map_congr_left
    intro row _
    by_cases hrow : TileSetTable.RetentionDeletable tileSetId row <;>
      simp [hrow, TileSetRow.timeless]
  · rw [if_neg h, if_neg h]

/-! ## Sets whose blobs are at their own addresses -/

/-- Every stored blob of the set is at its own address, and no other blob is at that of the
manifest. -/
structure WellAddressed (tileSetId : String) (w : ProcessingWorld) : Prop where
  stored : ∀ path, OfTileSet tileSetId path → w.processedBlobs.Exists path →
    addressedPath path = path
  manifest : w.processedBlobs.Exists (addressedPath ("manifests/" ++ tileSetId ++ ".json")) →
    addressedPath ("manifests/" ++ tileSetId ++ ".json") = "manifests/" ++ tileSetId ++ ".json"

theorem WellAddressed.gone (h : WellAddressed tileSetId before)
    (herasing : Erasing addressedPath tileSetId before w)
    (herased : Erased addressedPath tileSetId before w) : w.Gone tileSetId := by
  intro path hpath hexists
  have hbefore := herasing.exists_before hexists
  apply herased path ⟨hpath, .inl hbefore⟩
  rw [h.stored path hpath hbefore]
  exact hexists

theorem WellAddressed.cleaning (h : WellAddressed tileSetId before)
    (herasing : Erasing addressedPath tileSetId before w) : Cleaning tileSetId before w := by
  refine herasing.cleaning_of (fun target ⟨hof, hstored⟩ hexists => ?_) (h.gone herasing)
  rcases hstored with hstored | rfl
  · rw [h.stored target hof hstored]
    exact hof
  · rw [h.manifest hexists]
    exact hof

theorem addressedPath_manifest {id : String} (hid : '/' ∉ id.toList) :
    addressedPath ("manifests/" ++ id ++ ".json") = "manifests/" ++ withoutTabs id ++ ".json" := by
  have hpath (text : String) :
      "manifests/" ++ text ++ ".json" = "manifests" ++ "/" ++ (text ++ ".json") := by
    rw [String.append_assoc]
    rfl
  have hjson : withoutTabs (id ++ ".json") = withoutTabs id ++ ".json" := withoutTabs_append id ".json"
  have hslash : '/' ∉ (id ++ ".json").toList := by
    simp [String.toList_append, hid]
  have hlength : 2 < (withoutTabs (id ++ ".json")).toList.length := by
    rw [hjson, String.toList_append, List.length_append]
    exact Nat.lt_add_left _ (by decide)
  rw [hpath, addressedPath_pair (by decide) (by decide) hslash hlength, hjson, ← hpath]

theorem not_ofTileSet_addressedPath_manifest {id : String} (hid : '/' ∉ id.toList)
    (hne : addressedPath ("manifests/" ++ id ++ ".json") ≠ "manifests/" ++ id ++ ".json") :
    ¬ OfTileSet id (addressedPath ("manifests/" ++ id ++ ".json")) := by
  rintro (h | h)
  · rw [addressedPath_manifest hid] at h
    exact absurd h (by simp [startsWith, String.toList_append])
  · exact hne h

theorem addressedPath_tile {id path : String} {coord : SlippyTiles.TileCoord} (hid : IsPlainSegment id)
    (h : tileBlobPath id coord = .ok path) : addressedPath path = path := by
  have hslash := (validTileSetId_of_tileBlobPath h).slash_notMem
  have hdigits (n : ℕ) : '/' ∉ (toString n).toList := fun hmem =>
    absurd (Text.isDigit_of_mem_toString hmem) (by decide)
  obtain ⟨-, -, h⟩ := bind_eq_ok_iff.mp h
  obtain ⟨-, -, h⟩ := bind_eq_ok_iff.mp h
  cases h
  have hjoin : "tiles/" ++ id ++ "/" ++ toString coord.z ++ "/" ++ toString coord.x ++ "/" ++
      toString coord.y ++ ".png" = joinSegments ["tiles", id, toString coord.z, toString coord.x,
        toString coord.y ++ ".png"] := by
    apply String.toList_inj.mp
    rw [joinSegments, String.toList_ofList]
    simp [List.intercalate, List.intersperse, String.toList_append]
  have hpng : IsPlainSegment (toString coord.y ++ ".png") := by
    have htabs : withoutTabs (toString coord.y ++ ".png") = toString coord.y ++ ".png" := by
      rw [withoutTabs_append, (isPlainSegment_toString _).2]
      rfl
    refine ⟨isDotSegment_eq_false_iff.mpr (ne_dots_of_length ?_), htabs⟩
    simp [String.toList_append]
  rw [hjoin]
  apply addressedPath_of_plain
  have hpngSlash : '/' ∉ (toString coord.y ++ ".png").toList := by
    rw [String.toList_append, List.mem_append, not_or]
    exact ⟨hdigits _, by decide⟩
  rw [splitSegments_joinSegments (List.cons_ne_nil _ _)]
  all_goals simp only [List.forall_mem_cons, List.not_mem_nil, IsEmpty.forall_iff, implies_true,
    and_true]
  · exact ⟨by decide, hid, isPlainSegment_toString _, isPlainSegment_toString _, hpng⟩
  · exact ⟨by decide, hslash, hdigits _, hdigits _, hpngSlash⟩

/-- A set under a plain id that has only its tiles and its manifest is at its own addresses. -/
theorem wellAddressed_of_plain {id : String} (hid : ValidTileSetId id) (hplain : IsPlainSegment id)
    (htiles : ∀ path, OfTileSet id path → w.processedBlobs.Exists path →
      path = "manifests/" ++ id ++ ".json" ∨ ∃ coord, tileBlobPath id coord = .ok path) :
    WellAddressed id w := by
  have hmanifest : addressedPath ("manifests/" ++ id ++ ".json") = "manifests/" ++ id ++ ".json" := by
    rw [addressedPath_manifest hid.slash_notMem, hplain.2]
  refine ⟨fun path hof hexists => ?_, fun _ => hmanifest⟩
  rcases htiles path hof hexists with rfl | ⟨coord, htile⟩
  · exact hmanifest
  · exact addressedPath_tile hplain htile

theorem executeTileSetCleanup_resumable_of (hvalid : validateManifestPath candidate = .ok ())
    (h : TooMany config candidate.tileSetId before ∨ WellAddressed candidate.tileSetId before) :
    ResumableCleanup config candidate before := by
  obtain ⟨hlatest, hpath⟩ := validateManifestPath_eq_ok_iff.mp hvalid
  obtain ⟨hid, hmanifest⟩ := manifestBlobPath_eq_ok_iff.mp hpath
  have hcleaning {w : ProcessingWorld} (hw : Interrupted config candidate before w) :
      Cleaning candidate.tileSetId before w := by
    rcases h with hmany | hwell
    · exact (interrupted_untouched hmany hw).cleaning
    · exact hwell.cleaning (interrupted_erasing hvalid hw)
  have hcleaned {w : ProcessingWorld} (hfew : ¬ TooMany config candidate.tileSetId before)
      (hw : Interrupted config candidate before w) (run : CleanRun) :
      Cleaning candidate.tileSetId before (run.world config candidate w) ∧
        Cleaned candidate.tileSetId before (run.world config candidate w) := by
    have hwell := h.resolve_left hfew
    obtain ⟨herasing, hall⟩ := run.erasedAll hvalid hfew (interrupted_erasing hvalid hw)
    exact ⟨hwell.cleaning herasing, hwell.gone herasing hall.erased, hall.rows⟩
  refine ⟨fun w hw => ?_, ⟨?_, ?_⟩, fun w hw => (hcleaning hw).rows, fun hmany w hw => ?_,
    fun hfew w hw run => (hcleaned hfew hw run).2, fun w hw again direct => ?_⟩
  · obtain ⟨gone, hgone, hblobs⟩ := (hcleaning hw).blobs
    refine ⟨(hcleaning hw).raw, fun path blob hnot => ?_⟩
    have hmem : path ∉ gone := fun h => hnot (hgone path h)
    rw [hblobs]
    simp [hmem]
  · rintro (h | h)
    · exact absurd h (by simp [startsWith, latestManifestBlobPath, String.toList_append])
    · exact hlatest (hmanifest.trans h.symm)
  · intro id hvalid hne path hof hof'
    exact hne (hof.eq hvalid hid hof')
  · have huntouched := interrupted_untouched hmany hw
    exact ⟨huntouched.blobs, huntouched.rows⟩
  · by_cases hmany : TooMany config candidate.tileSetId before
    · have hagain := again.untouched hmany (interrupted_untouched hmany hw)
      have hdirect := direct.untouched hmany ⟨rfl, rfl, rfl⟩
      exact ⟨hagain.blobs.trans hdirect.blobs.symm, by rw [hagain.rows, hdirect.rows]⟩
    · obtain ⟨hleft, hdone⟩ := hcleaned hmany hw again
      obtain ⟨hleft', hdone'⟩ := hcleaned hmany .start direct
      refine ⟨Cleaned.blobs_eq hleft hdone hleft' hdone', ?_⟩
      obtain ⟨now, hrows⟩ := hdone.rows
      obtain ⟨now', hrows'⟩ := hdone'.rows
      rw [hrows, hrows']
      exact timeless_marked before _ now now'

def okRun : CleanRun where
  cleanup := { runId := 0, execute := true }
  choices := fun _ => sampleEnv .ok 0 0
  ok := fun _ => rfl

theorem wellAddressed_of_resumable (hvalid : validateManifestPath candidate = .ok ())
    (hfew : ¬ TooMany config candidate.tileSetId before)
    (h : ResumableCleanup config candidate before) : WellAddressed candidate.tileSetId before := by
  have hid := (manifestBlobPath_eq_ok_iff.mp (validateManifestPath_eq_ok_iff.mp hvalid).2).1
  obtain ⟨herasing, hall⟩ := okRun.erasedAll hvalid hfew (Erasing.refl _ _ before)
  constructor
  · -- what went was at the address of something, and so is at its own
    intro path hof hexists
    have hgone := (h.complete hfew before .start okRun).gone path hof
    obtain ⟨target, -, rfl⟩ := herasing.target_of_gone hexists hgone
    exact addressedPath_addressedPath target
  · intro hexists
    by_contra hne
    have hgone := hall.erased _ ⟨.inr rfl, .inr rfl⟩
    obtain ⟨blob, hblob⟩ := hexists
    have hkept := (h.confined _ (okRun.interrupted .start)).2 _ blob
      (not_ofTileSet_addressedPath_manifest hid.slash_notMem hne)
    exact hgone ⟨blob, hkept.mpr hblob⟩

/-- For every world and every candidate that passes the check. -/
theorem executeTileSetCleanup_resumable_iff (config : ProcessingConfig)
    (candidate : TileSetRetentionCandidate) (hvalid : validateManifestPath candidate = .ok ())
    (before : ProcessingWorld) : ResumableCleanup config candidate before ↔
      TooMany config candidate.tileSetId before ∨ WellAddressed candidate.tileSetId before := by
  constructor
  · intro h
    by_cases hmany : TooMany config candidate.tileSetId before
    · exact .inl hmany
    · exact .inr (wellAddressed_of_resumable hvalid hmany h)
  · exact executeTileSetCleanup_resumable_of hvalid

def sampleCandidate : TileSetRetentionCandidate where
  tileSetId := "a"
  classificationVersion := "v1"
  manifestBlobPath := "manifests/a.json"
  createdAt := 0
  tileCount := 2

/-- Two tiles and the manifest of the candidate, and a tile of a set whose id goes on. -/
def staleTileSet : ProcessingWorld :=
  { ProcessingPool.empty.world with
    tileSets := [{
      id := "a"
      classificationVersion := "v1"
      tileCount := 2
      manifestBlobPath := "manifests/a.json"
      latest := false
      createdAt := 0
      retentionDeletedAt := none
      retentionDeleteReason := none }]
    processedBlobs := [("tiles/a/0/0/0.png", .tile), ("tiles/a/1/0/0.png", .tile),
      ("tiles/ab/0/0/0.png", .tile), ("manifests/a.json", .tile)] }

theorem wellAddressed_staleTileSet : WellAddressed "a" staleTileSet := by
  apply wellAddressed_of_plain (by decide) (by decide)
  rintro path hof ⟨blob, hblob⟩
  simp only [staleTileSet, List.mem_cons, Prod.mk.injEq, List.not_mem_nil, or_false] at hblob
  rcases hblob with ⟨rfl, -⟩ | ⟨rfl, -⟩ | ⟨rfl, -⟩ | ⟨rfl, -⟩
  · exact .inr ⟨{ z := 0, x := 0, y := 0 }, rfl⟩
  · exact .inr ⟨{ z := 1, x := 0, y := 0 }, rfl⟩
  · rcases hof with h | h <;> exact absurd h (by decide)
  · exact .inl rfl

theorem executeTileSetCleanup_resumable_stale :
    ResumableCleanup sampleConfig sampleCandidate staleTileSet :=
  (executeTileSetCleanup_resumable_iff sampleConfig sampleCandidate (by decide) staleTileSet).mpr
    (.inr wellAddressed_staleTileSet)

/-- A candidate under an id that is read without its tab. -/
def tabbedCandidate : TileSetRetentionCandidate :=
  { sampleCandidate with tileSetId := "latest\t", manifestBlobPath := "manifests/latest\t.json" }

def dotCandidate : TileSetRetentionCandidate :=
  { sampleCandidate with tileSetId := ".", manifestBlobPath := "manifests/..json" }

/-- A run without failures deletes what does not belong to the set. -/
theorem not_resumable_of {path : String} {blob : ProcessedBlob}
    (hpath : ¬ OfTileSet candidate.tileSetId path) (hbefore : (path, blob) ∈ before.processedBlobs)
    (hgone : ∀ entry ∈ (okRun.world config candidate before).processedBlobs, entry.1 ≠ path) :
    ¬ ResumableCleanup config candidate before := by
  intro h
  have hkept := (h.confined _ (okRun.interrupted .start)).2 path blob hpath
  exact hgone _ (hkept.mpr hbefore) rfl

/-- The tab takes the pointer with it, and the dot a tile of the set `0`. -/
theorem not_executeTileSetCleanup_resumable :
    (validateManifestPath tabbedCandidate = .ok () ∧
      ¬ ResumableCleanup sampleConfig tabbedCandidate
        { ProcessingPool.empty.world with processedBlobs := [(latestManifestBlobPath, .tile)] }) ∧
      validateManifestPath dotCandidate = .ok () ∧
        ¬ ResumableCleanup sampleConfig dotCandidate
          { ProcessingPool.empty.world with
            processedBlobs := [("tiles/0/0/0.png", .tile), ("tiles/./0/0/0.png", .tile)] } := by
  refine ⟨⟨by decide, ?_⟩, by decide, ?_⟩
  · apply not_resumable_of ?_ List.mem_cons_self (by decide +kernel)
    rintro (h | h) <;> exact absurd h (by decide)
  · apply not_resumable_of ?_ List.mem_cons_self (by decide +kernel)
    rintro (h | h) <;> exact absurd h (by decide)

end LumenHorizon.Processing
