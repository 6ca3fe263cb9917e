import LumenHorizon.Processing.RawRetention
import LumenHorizon.Processing.RetentionPreview
import LumenHorizon.Processing.ServedTiles

/-! # What the records of a cleanup show

A cleanup records a selection before it acts on it, and each act after it went through. So whatever
is gone was selected by a cleanup in execute mode, and the log of the records can be read alone:
each of them follows the ones that its cleanup made before.
-/

namespace LumenHorizon.Processing
open Foundation Shared ProcessingProgram Program

def RetentionTargetKind.selectedAs : RetentionTargetKind → RetentionTargetKind
  | rawBlob => .rawBlob
  | processedTile | processedManifest | tileSet => .tileSet

def RetentionEventAction.Gone (action : RetentionEventAction) : Prop :=
  action = .deleted ∨ action = .missing

theorem DeleteBlobOutcome.action_gone (outcome : DeleteBlobOutcome) : outcome.action.Gone := by
  cases outcome
  · exact .inl rfl
  · exact .inr rfl

structure CleanupRun where
  runId : Uuid
  mode : RetentionEventMode

def RetentionEvent.run (event : RetentionEvent) : CleanupRun := ⟨event.cleanupRunId, event.mode⟩

def Cleanup.run (cleanup : Cleanup) : CleanupRun := ⟨cleanup.runId, cleanup.mode⟩

/-- Among these events the run recorded such an action on the target. -/
def Recorded (events : Set RetentionEvent) (run : CleanupRun) (targetKind : RetentionTargetKind)
    (targetIdentifier : String) (actions : Set RetentionEventAction) : Prop :=
  ∃ event ∈ events, event.run = run ∧ event.targetKind = targetKind ∧
    event.targetIdentifier = targetIdentifier ∧ event.action ∈ actions

abbrev SelectedIn (events : Set RetentionEvent) (run : CleanupRun)
    (targetKind : RetentionTargetKind) (targetIdentifier : String) : Prop :=
  Recorded events run targetKind targetIdentifier {.selected}

abbrev ManifestGoneIn (events : Set RetentionEvent) (run : CleanupRun) (tileSetId : String) :
    Prop :=
  Recorded events run .processedManifest tileSetId {action | action.Gone}

/-- What the records before one of an act have to show. -/
structure Grounded (events : Set RetentionEvent) (event : RetentionEvent) : Prop where
  execute : event.mode = .execute
  selected : SelectedIn events event.run event.targetKind.selectedAs event.targetIdentifier
  manifest : event.targetKind = .tileSet → event.action = .deleted →
    ManifestGoneIn events event.run event.targetIdentifier

section Mono

variable {events events' : Set RetentionEvent}

theorem Recorded.mono {run : CleanupRun} {targetKind : RetentionTargetKind}
    {targetIdentifier : String} {actions : Set RetentionEventAction} (hsub : events ⊆ events')
    (h : Recorded events run targetKind targetIdentifier actions) :
    Recorded events' run targetKind targetIdentifier actions := by
  obtain ⟨event, hevent, hrest⟩ := h
  exact ⟨event, hsub hevent, hrest⟩

theorem Grounded.mono {event : RetentionEvent} (hsub : events ⊆ events')
    (h : Grounded events event) : Grounded events' event where
  execute := h.execute
  selected := h.selected.mono hsub
  manifest := fun hkind haction => (h.manifest hkind haction).mono hsub

end Mono

/-! ## The calls of a cleanup after its records -/

/-- The events whose record was confirmed. -/
def recorded (t : History) : Set RetentionEvent :=
  {event | Made t (.recordRetentionEvent event) (.ok ())}

theorem recorded_mono {t t' : History} (h : t <:+ t') : recorded t ⊆ recorded t' :=
  fun _ hevent => hevent.of_suffix h

def MarkMade (tileSetId : String) (t : History) : Prop :=
  ∃ reason, Made t (.markTileSetRetentionDeleted tileSetId reason) (.ok ())

/-- A run in execute mode recorded that it selected the target. -/
def Doomed (events : Set RetentionEvent) (targetKind : RetentionTargetKind)
    (targetIdentifier : String) : Prop :=
  ∃ runId, SelectedIn events ⟨runId, .execute⟩ targetKind targetIdentifier

/-- What comes before each call of a cleanup that changes something. -/
def RecordsRule (t : History) : ProcessingCall → Prop
  | .recordRetentionEvent event => event.action ≠ .selected → Grounded (recorded t) event ∧
      (event.targetKind = .tileSet → event.action = .deleted → MarkMade event.targetIdentifier t)
  | .deleteRawBlob path => Doomed (recorded t) .rawBlob path
  | .deleteProcessedBlob path => ∃ tileSetId, OfTileSet tileSetId path ∧
      Doomed (recorded t) .tileSet tileSetId
  | .markTileSetRetentionDeleted tileSetId _ => ∃ runId,
      ManifestGoneIn (recorded t) ⟨runId, .execute⟩ tileSetId
  | _ => True

section Walk

variable {config : ProcessingConfig} {cleanup : Cleanup} {candidate : TileSetRetentionCandidate}
  {t : History}

/-- A cleanup in execute mode that recorded the selection of the target. -/
structure Committed (cleanup : Cleanup) (targetKind : RetentionTargetKind)
    (targetIdentifier : String) (t : History) : Prop where
  execute : cleanup.execute = true
  selected : SelectedIn (recorded t) cleanup.run targetKind targetIdentifier

section Committed

variable {targetKind : RetentionTargetKind} {targetIdentifier : String}

theorem Committed.of_suffix {t' : History} (h : Committed cleanup targetKind targetIdentifier t)
    (ht : t <:+ t') : Committed cleanup targetKind targetIdentifier t' :=
  ⟨h.execute, h.selected.mono (recorded_mono ht)⟩

theorem Committed.mode (h : Committed cleanup targetKind targetIdentifier t) :
    cleanup.mode = .execute := by
  simp [Cleanup.mode, h.execute]

theorem Committed.doomed (h : Committed cleanup targetKind targetIdentifier t) :
    Doomed (recorded t) targetKind targetIdentifier := by
  have hselected := h.selected
  rw [Cleanup.run, h.mode] at hselected
  exact ⟨cleanup.runId, hselected⟩

/-- Its record of an act on that target, short of the deletion of a tile set. -/
theorem Committed.grounded (h : Committed cleanup targetKind targetIdentifier t)
    {event : RetentionEvent} (hrun : event.run = cleanup.run)
    (hkind : event.targetKind.selectedAs = targetKind)
    (hidentifier : event.targetIdentifier = targetIdentifier)
    (hmanifest : event.targetKind = .tileSet → event.action = .deleted →
      ManifestGoneIn (recorded t) event.run event.targetIdentifier) :
    Grounded (recorded t) event where
  execute := (congrArg CleanupRun.mode hrun).trans h.mode
  selected := by
    rw [hrun, hkind, hidentifier]
    exact h.selected
  manifest := hmanifest

end Committed

theorem recordEvent_records {event : RetentionEvent}
    (h : RecordsRule t (.recordRetentionEvent event)) :
    (recordEvent event).Meets Possible RecordsRule
      (From t fun t' outcome => outcome = .ok () → event ∈ recorded t') t := by
  refine Meets.call h fun reply _ => ?_
  cases reply with
  | error error => exact ⟨List.suffix_cons _ _, fun h => nomatch h⟩
  | ok _ => exact ⟨List.suffix_cons _ _, fun _ => made_self _ _ _⟩

theorem recordEvent_selects_meets {event : RetentionEvent} (haction : event.action = .selected)
    (hrun : event.run = cleanup.run) (t : History) :
    (recordEvent event).Meets Possible RecordsRule (From t fun t' outcome => outcome = .ok () →
      SelectedIn (recorded t') cleanup.run event.targetKind event.targetIdentifier) t := by
  refine (recordEvent_records fun h => absurd haction h).mono (fun _ _ h => h) ?_
  exact fun t' outcome h => ⟨h.1, fun hok => ⟨event, h.2 hok, hrun, rfl, rfl, haction⟩⟩

theorem deleteProcessedBlob_records {path : String} {targetKind : RetentionTargetKind}
    (hkind : targetKind.selectedAs = .tileSet) (hblob : targetKind ≠ .tileSet)
    (h : Committed cleanup .tileSet candidate.tileSetId t)
    (hpath : OfTileSet candidate.tileSetId path) :
    (Retention.deleteProcessedBlob config cleanup candidate.tileSetId path targetKind).Meets
      Possible RecordsRule (From t fun t' outcome => outcome = .ok () →
        Recorded (recorded t') cleanup.run targetKind candidate.tileSetId
          {action | action.Gone}) t := by
  refine Meets.call ⟨candidate.tileSetId, hpath, h.doomed⟩ fun reply _ => ?_
  cases reply with
  | error error => exact ⟨List.suffix_cons _ _, fun h => nomatch h⟩
  | ok gone =>
    have hstill := h.of_suffix (List.suffix_cons
      (⟨.deleteProcessedBlob path, .ok gone⟩ : Σ c : ProcessingCall, c.Reply) t)
    refine (recordEvent_records fun _ => ⟨?_, fun h => absurd h hblob⟩).mono (fun _ _ h => h) ?_
    · exact hstill.grounded rfl hkind rfl fun h => absurd h hblob
    · rintro t' outcome ⟨ht', hrecorded⟩
      exact ⟨(List.suffix_cons _ _).trans ht', fun hok =>
        ⟨_, hrecorded hok, rfl, rfl, rfl, gone.action_gone⟩⟩

theorem removeTiles_records (paths : List String)
    (h : Committed cleanup .tileSet candidate.tileSetId t)
    (hpaths : ∀ path ∈ paths, OfTileSet candidate.tileSetId path) :
    (removeTiles config cleanup candidate.tileSetId paths).Meets Possible RecordsRule
      (From t fun _ _ => True) t := by
  induction paths generalizing t with
  | nil => exact ⟨List.suffix_rfl, trivial⟩
  | cons path paths ih =>
    refine Meets.bind (deleteProcessedBlob_records rfl nofun h (hpaths path List.mem_cons_self)) ?_
    rintro t₁ outcome ⟨ht₁, -⟩
    cases outcome with
    | error error => exact ⟨ht₁, trivial⟩
    | ok _ =>
      have hrest := ih (h.of_suffix ht₁) fun path hpath =>
        hpaths path (List.mem_cons_of_mem _ hpath)
      exact hrest.mono (fun _ _ h => h) fun _ _ h => ⟨ht₁.trans h.1, trivial⟩

theorem removeTileSet_records (paths : List String)
    (hvalid : validateManifestPath candidate = .ok ())
    (h : Committed cleanup .tileSet candidate.tileSetId t)
    (hpaths : ∀ path ∈ paths, OfTileSet candidate.tileSetId path) :
    (removeTileSet config cleanup candidate paths).Meets Possible RecordsRule
      (From t fun _ _ => True) t := by
  refine Meets.bind (removeTiles_records paths h hpaths) ?_
  rintro t₁ outcome ⟨ht₁, -⟩
  cases outcome with
  | error error => exact ⟨ht₁, trivial⟩
  | ok _ =>
    have hmanifest : OfTileSet candidate.tileSetId candidate.manifestBlobPath :=
      .inr (manifestBlobPath_eq_ok_iff.mp (validateManifestPath_eq_ok_iff.mp hvalid).2).2
    refine Meets.bind (deleteProcessedBlob_records rfl nofun (h.of_suffix ht₁) hmanifest) ?_
    rintro t₂ outcome ⟨ht₂, hgone⟩
    have ht₂ : t <:+ t₂ := ht₁.trans ht₂
    cases outcome with
    | error error => exact ⟨ht₂, trivial⟩
    | ok _ =>
      have hgone := hgone rfl
      have hrule : ManifestGoneIn (recorded t₂) ⟨cleanup.runId, .execute⟩ candidate.tileSetId := by
        rw [← h.mode]
        exact hgone
      refine Meets.call ⟨cleanup.runId, hrule⟩ fun reply _ => ?_
      cases reply with
      | error error => exact ⟨ht₂.trans (List.suffix_cons _ _), trivial⟩
      | ok _ =>
        change (recordTileSetEvent cleanup candidate _ _ >>= _).Meets _ _ _ _
        have ht₃ : t <:+
            ⟨.markTileSetRetentionDeleted candidate.tileSetId tileSetReason, .ok ()⟩ :: t₂ :=
          ht₂.trans (List.suffix_cons _ _)
        refine Meets.bind (recordEvent_records fun _ => ⟨?_, fun _ _ => ?_⟩) ?_
        · exact (h.of_suffix ht₃).grounded rfl rfl rfl fun _ _ =>
            hgone.mono (recorded_mono (List.suffix_cons _ _))
        · exact ⟨tileSetReason, made_self _ _ _⟩
        · rintro t₄ outcome ⟨ht₄, -⟩
          cases outcome <;> exact ⟨ht₃.trans ht₄, trivial⟩

theorem ofTileSet_of_listed {pathPrefix path : String} {limit : ℕ} {page : List String × Bool}
    (hlisting : tileSetPrefix candidate.tileSetId = .ok pathPrefix)
    (h : Possible (.listProcessedBlobs pathPrefix limit) (.ok page)) (hpath : path ∈ page.1) :
    OfTileSet candidate.tileSetId path := by
  obtain ⟨e, w, hreply⟩ := h
  have hfact := servedFact_answer (.listProcessedBlobs pathPrefix limit) e w
  rw [hreply] at hfact
  obtain ⟨-, rfl⟩ := tileSetPrefix_eq_ok_iff.mp hlisting
  exact .inl (hfact path hpath)

theorem executeTileSetCleanup_records (hvalid : validateManifestPath candidate = .ok ())
    (h : Committed cleanup .tileSet candidate.tileSetId t) :
    (executeTileSetCleanup config cleanup candidate).Meets Possible RecordsRule
      (From t fun _ _ => True) t := by
  unfold executeTileSetCleanup
  cases hprefix : tileSetPrefix candidate.tileSetId with
  | error error => exact ⟨List.suffix_rfl, trivial⟩
  | ok pathPrefix =>
    refine Meets.call trivial fun reply hreply => ?_
    cases reply with
    | error error => exact ⟨List.suffix_cons _ _, trivial⟩
    | ok page =>
      have hstill := h.of_suffix (List.suffix_cons (⟨.listProcessedBlobs pathPrefix
        config.retentionTileBlobLimit, .ok page⟩ : Σ c : ProcessingCall, c.Reply) t)
      have hlisted : ∀ path ∈ page.1, OfTileSet candidate.tileSetId path :=
        fun path hpath => ofTileSet_of_listed hprefix hreply hpath
      obtain ⟨paths, hasMore⟩ := page
      dsimp only [andThen]
      split
      · refine Meets.bind (recordEvent_records fun _ => ⟨?_, fun _ h => nomatch h⟩) ?_
        · exact hstill.grounded rfl rfl rfl fun _ h => nomatch h
        · rintro t₁ outcome ⟨ht₁, -⟩
          cases outcome <;> exact ⟨(List.suffix_cons _ _).trans ht₁, trivial⟩
      · exact (removeTileSet_records paths hvalid hstill hlisted).mono (fun _ _ h => h)
          fun _ _ h => ⟨(List.suffix_cons _ _).trans h.1, trivial⟩

theorem removeRawBlob_records {raw : RawBlobRetentionCandidate}
    (h : Committed cleanup .rawBlob raw.blobPath t) :
    (removeRawBlob config cleanup raw).Meets Possible RecordsRule (From t fun _ _ => True) t := by
  refine Meets.call h.doomed fun reply _ => ?_
  cases reply with
  | error error => exact ⟨List.suffix_cons _ _, trivial⟩
  | ok gone =>
    have hstill := h.of_suffix (List.suffix_cons
      (⟨.deleteRawBlob raw.blobPath, .ok gone⟩ : Σ c : ProcessingCall, c.Reply) t)
    refine (recordEvent_records fun _ => ⟨?_, fun h => by cases h⟩).mono (fun _ _ h => h) ?_
    · exact hstill.grounded rfl rfl rfl fun h => by cases h
    · exact fun _ _ h => ⟨(List.suffix_cons _ _).trans h.1, trivial⟩

theorem cleanRawBlobs_records (candidates : List RawBlobRetentionCandidate) (t : History) :
    (cleanRawBlobs config cleanup candidates).Meets Possible RecordsRule
      (fun _ _ => True) t := by
  induction candidates generalizing t with
  | nil => trivial
  | cons raw candidates ih =>
    refine Meets.bind (recordEvent_selects_meets rfl rfl t) ?_
    rintro t₁ outcome ⟨-, hselected⟩
    cases outcome with
    | error error => trivial
    | ok _ =>
      have hremove : (if cleanup.execute then removeRawBlob config cleanup raw
          else pure (.ok ())).Meets Possible RecordsRule (From t₁ fun _ _ => True) t₁ := by
        split
        · next hexecute => exact removeRawBlob_records ⟨hexecute, hselected rfl⟩
        · exact ⟨List.suffix_rfl, trivial⟩
      refine Meets.bind hremove ?_
      rintro t₂ outcome -
      cases outcome with
      | error error => trivial
      | ok _ => exact ih t₂

theorem cleanTileSets_records (candidates : List TileSetRetentionCandidate) (t : History) :
    (cleanTileSets config cleanup candidates).Meets Possible RecordsRule
      (fun _ _ => True) t := by
  induction candidates generalizing t with
  | nil => trivial
  | cons candidate candidates ih =>
    unfold cleanTileSets
    cases hvalid : validateManifestPath candidate with
    | error error => trivial
    | ok _ =>
      refine Meets.bind (recordEvent_selects_meets rfl rfl t) ?_
      rintro t₁ outcome ⟨-, hselected⟩
      cases outcome with
      | error error => trivial
      | ok _ =>
        have hexecute : (if cleanup.execute then executeTileSetCleanup config cleanup candidate
            else pure (.ok .skipped)).Meets Possible RecordsRule (From t₁ fun _ _ => True) t₁ := by
          split
          · next hexecute => exact executeTileSetCleanup_records hvalid ⟨hexecute, hselected rfl⟩
          · exact ⟨List.suffix_rfl, trivial⟩
        refine Meets.bind hexecute ?_
        rintro t₂ outcome -
        cases outcome with
        | error error => trivial
        | ok _ => exact ih t₂

theorem runRetentionCleanup_records (config : ProcessingConfig) (cleanup : Cleanup) (t : History) :
    (runRetentionCleanup config cleanup).Meets Possible RecordsRule (fun _ _ => True) t := by
  refine Meets.call trivial fun reply _ => ?_
  cases reply with
  | error error => trivial
  | ok _ =>
    refine Meets.call trivial fun reply _ => ?_
    cases reply with
    | error error => trivial
    | ok _ =>
      refine Meets.call trivial fun reply _ => ?_
      cases reply with
      | error error => trivial
      | ok rawCandidates =>
        refine Meets.call trivial fun reply _ => ?_
        cases reply with
        | error error => trivial
        | ok tileSetCandidates =>
          change (cleanRawBlobs config cleanup rawCandidates >>= _).Meets _ _ _ _
          refine Meets.bind (cleanRawBlobs_records rawCandidates _) ?_
          rintro t₁ outcome -
          cases outcome with
          | error error => trivial
          | ok _ => exact cleanTileSets_records tileSetCandidates t₁

end Walk

/-! ## The tables and the records -/

def ProcessingWorld.events (w : ProcessingWorld) : Set RetentionEvent :=
  {event | event ∈ w.retentionEvents}

/-- The log shows why each tile set is marked, in an order in which each record of an act comes
after the records it needs; and a tile set recorded as deleted is marked. -/
structure CleanupRecorded (w : ProcessingWorld) : Prop where
  ordered : Preceded
    (fun before event => event.action ≠ .selected → Grounded {earlier | earlier ∈ before} event)
    w.retentionEvents
  marked : ∀ row ∈ w.tileSets, row.retentionDeletedAt ≠ none →
    ∃ runId, ManifestGoneIn w.events ⟨runId, .execute⟩ row.id
  deleted : ∀ event ∈ w.retentionEvents, event.targetKind = .tileSet → event.action = .deleted →
    w.Marked event.targetIdentifier

/-- Since `before` records were only added, and whatever is gone was selected in execute mode. -/
structure DeletionsRecorded (before w : ProcessingWorld) : Prop where
  events : before.retentionEvents <+: w.retentionEvents
  rawBlobs : ∀ path ∈ before.rawBlobs, path ∈ w.rawBlobs ∨ Doomed w.events .rawBlob path
  processedBlobs : ∀ path, before.processedBlobs.Exists path → w.processedBlobs.Exists path ∨
    ∃ tileSetId, OfTileSet tileSetId path ∧ Doomed w.events .tileSet tileSetId

/-- What a reply says of the records and the marks. -/
def RecordsFact (w : ProcessingWorld) : (c : ProcessingCall) → c.Reply → Prop
  | .recordRetentionEvent event, .ok _ => event ∈ w.retentionEvents
  | .markTileSetRetentionDeleted tileSetId _, .ok _ => w.Marked tileSetId
  | _, _ => True

section Answer

variable {w before : ProcessingWorld} {c : ProcessingCall} {e : Env} {t : History}

theorem answer_retentionEvents (c : ProcessingCall) (e : Env) (w : ProcessingWorld) :
    (answer c e w).1.retentionEvents = w.retentionEvents ∨ ∃ event,
      c = .recordRetentionEvent event ∧
        (answer c e w).1.retentionEvents = w.retentionEvents ++ [event] := by
  rcases answer_effect c e w with ⟨-, hw⟩ | ⟨-, finished, hw⟩
  · rw [hw]
    exact .inl rfl
  · rw [hw]
    cases c with
    | recordRetentionEvent event => exact .inr ⟨event, rfl, rfl⟩
    | _ => exact .inl rfl

theorem events_answer (c : ProcessingCall) (e : Env) (w : ProcessingWorld) :
    w.events ⊆ (answer c e w).1.events := fun _ h => mem_answer_retentionEvents h c e

theorem ProcessingWorld.Marked.answer {tileSetId : String} (h : w.Marked tileSetId)
    (c : ProcessingCall) (e : Env) : (answer c e w).1.Marked tileSetId := by
  obtain ⟨row, hrow, rfl, hmarked⟩ := h
  obtain ⟨row', hrow', hid, hlater⟩ := answer_extends c e w row hrow
  obtain ⟨at', hat⟩ := Option.ne_none_iff_exists'.mp hmarked
  refine ⟨row', hrow', hid, ?_⟩
  rw [hlater at' hat]
  nofun

theorem marked_of_confirmed {tileSetId reason : String}
    (h : (answer (.markTileSetRetentionDeleted tileSetId reason) e w).2 = .ok ()) :
    (answer (.markTileSetRetentionDeleted tileSetId reason) e w).1.Marked tileSetId := by
  cases ho : e.outcome with
  | ok =>
    rw [answer_of_ok ho] at h ⊢
    rcases TileSetTable.markTileSetRetentionDeleted_cases w.tileSets tileSetId reason e.now with
      ⟨heq, -⟩ | ⟨heq, row, hrow, hdeletable⟩
    · change (w.tileSets.markTileSetRetentionDeleted tileSetId reason e.now).2 = .ok () at h
      rw [heq] at h
      cases h
    · refine ⟨TileSetTable.retentionDeleted tileSetId reason e.now row, ?_, ?_, ?_⟩
      · change _ ∈ (w.tileSets.markTileSetRetentionDeleted tileSetId reason e.now).1
        rw [heq]
        exact List.mem_map_of_mem hrow
      · rw [TileSetTable.retentionDeleted_id]
        exact hdeletable.1
      · rw [TileSetTable.retentionDeleted, if_pos hdeletable]
        exact Option.some_ne_none _
  | failed =>
    rw [answer_of_failed ho] at h
    cases h
  | lost =>
    rw [answer_of_lost ho] at h
    cases h

theorem RecordsFact.answer {c' : ProcessingCall} {reply : c'.Reply} (h : RecordsFact w c' reply)
    (c : ProcessingCall) (e : Env) : RecordsFact (answer c e w).1 c' reply := by
  cases c' with
  | recordRetentionEvent event =>
    cases reply with
    | error error => trivial
    | ok _ => exact mem_answer_retentionEvents h c e
  | markTileSetRetentionDeleted tileSetId reason =>
    cases reply with
    | error error => trivial
    | ok _ => exact ProcessingWorld.Marked.answer h c e
  | _ => trivial

theorem recordsFact_answer (c : ProcessingCall) (e : Env) (w : ProcessingWorld) :
    RecordsFact (answer c e w).1 c (answer c e w).2 := by
  cases c with
  | recordRetentionEvent event =>
    have hfact := servedFact_answer (.recordRetentionEvent event) e w
    generalize (Processing.answer (.recordRetentionEvent event) e w).2 = reply at hfact ⊢
    cases reply with
    | error error => trivial
    | ok _ => exact hfact
  | markTileSetRetentionDeleted tileSetId reason =>
    generalize hreply : (Processing.answer (.markTileSetRetentionDeleted tileSetId reason) e w).2 = reply
    cases reply with
    | error error => trivial
    | ok _ => exact marked_of_confirmed hreply
  | _ => trivial

theorem recorded_subset (ht : Witnessed (fun _ c reply => RecordsFact w c reply) t) :
    recorded t ⊆ w.events := by
  intro event hmade
  obtain ⟨-, hfact⟩ := ht.of_mem hmade
  exact hfact

theorem Doomed.mono {events events' : Set RetentionEvent} {targetKind : RetentionTargetKind}
    {targetIdentifier : String} (hsub : events ⊆ events')
    (h : Doomed events targetKind targetIdentifier) :
    Doomed events' targetKind targetIdentifier := by
  obtain ⟨runId, hselected⟩ := h
  exact ⟨runId, hselected.mono hsub⟩

theorem mem_answer_marked {row' : TileSetRow} (h : row' ∈ (answer c e w).1.tileSets)
    (hmarked : row'.retentionDeletedAt ≠ none) :
    (∃ row ∈ w.tileSets, row.id = row'.id ∧ row.retentionDeletedAt ≠ none) ∨
      ∃ reason, c = .markTileSetRetentionDeleted row'.id reason := by
  rcases answer_tileSets c e w with hrows | ⟨-, statement, hstatement, hrows⟩
  · rw [hrows] at h
    exact .inl ⟨row', h, rfl, hmarked⟩
  · rw [hrows] at h
    cases c with
    | insertTileSet manifest =>
      cases hstatement
      rcases TileSetTable.insertTileSet_cases w.tileSets manifest e.now with
        ⟨_, heq⟩ | ⟨path, -, -, heq⟩
      · rw [TileSetTable.execute, heq] at h
        exact .inl ⟨row', h, rfl, hmarked⟩
      · rw [TileSetTable.execute, heq] at h
        rcases List.mem_append.mp h with h | h
        · exact .inl ⟨row', h, rfl, hmarked⟩
        · rw [List.mem_singleton.mp h] at hmarked
          exact absurd rfl hmarked
    | promoteLatestTileSet tileSetId =>
      cases hstatement
      rcases TileSetTable.promoteLatestTileSet_cases w.tileSets tileSetId with
        ⟨heq, -⟩ | ⟨heq, -⟩
      · rw [TileSetTable.execute, heq] at h
        exact .inl ⟨row', h, rfl, hmarked⟩
      · rw [TileSetTable.execute, heq] at h
        obtain ⟨row, hrow, rfl⟩ := List.mem_map.mp h
        exact .inl ⟨row, hrow, rfl, hmarked⟩
    | markTileSetRetentionDeleted tileSetId reason =>
      cases hstatement
      rcases TileSetTable.markTileSetRetentionDeleted_cases w.tileSets tileSetId reason e.now with
        ⟨heq, -⟩ | ⟨heq, -⟩
      · rw [TileSetTable.execute, heq] at h
        exact .inl ⟨row', h, rfl, hmarked⟩
      · rw [TileSetTable.execute, heq] at h
        obtain ⟨row, hrow, rfl⟩ := List.mem_map.mp h
        by_cases hdeletable : TileSetTable.RetentionDeletable tileSetId row
        · refine .inr ⟨reason, ?_⟩
          rw [TileSetTable.retentionDeleted_id, hdeletable.1]
        · rw [TileSetTable.retentionDeleted, if_neg hdeletable] at hmarked ⊢
          exact .inl ⟨row, hrow, rfl, hmarked⟩
    | _ => cases hstatement

theorem CleanupRecorded.answer (h : CleanupRecorded w) (hrule : RecordsRule t c)
    (ht : Witnessed (fun _ c reply => RecordsFact w c reply) t) (e : Env) :
    CleanupRecorded (answer c e w).1 where
  ordered := by
    rcases answer_retentionEvents c e w with heq | ⟨event, rfl, heq⟩
    · rw [heq]
      exact h.ordered
    · rw [heq]
      exact h.ordered.concat fun haction => (hrule haction).1.mono (recorded_subset ht)
  marked := by
    intro row' hrow' hmarked
    rcases mem_answer_marked hrow' hmarked with ⟨row, hrow, hid, hold⟩ | ⟨reason, rfl⟩
    · obtain ⟨runId, hgone⟩ := h.marked row hrow hold
      rw [← hid]
      exact ⟨runId, hgone.mono (events_answer c e w)⟩
    · obtain ⟨runId, hgone⟩ := hrule
      exact ⟨runId, hgone.mono ((recorded_subset ht).trans (events_answer _ e w))⟩
  deleted := by
    intro event hevent hkind haction
    rcases answer_retentionEvents c e w with heq | ⟨new, rfl, heq⟩
    · rw [heq] at hevent
      exact (h.deleted event hevent hkind haction).answer c e
    · rw [heq] at hevent
      rcases List.mem_append.mp hevent with hevent | hevent
      · exact (h.deleted event hevent hkind haction).answer _ e
      · obtain rfl := List.mem_singleton.mp hevent
        have hselected : event.action ≠ .selected := by
          rw [haction]
          nofun
        obtain ⟨reason, hmade⟩ := (hrule hselected).2 hkind haction
        obtain ⟨-, hfact⟩ := ht.of_mem hmade
        exact ProcessingWorld.Marked.answer hfact _ e

theorem DeletionsRecorded.refl (w : ProcessingWorld) : DeletionsRecorded w w where
  events := List.prefix_rfl
  rawBlobs := fun _ h => .inl h
  processedBlobs := fun _ h => .inl h

theorem mem_rawBlobs_answer {path : String} (h : path ∈ w.rawBlobs) (c : ProcessingCall) (e : Env) :
    path ∈ (answer c e w).1.rawBlobs ∨ c = .deleteRawBlob path := by
  rcases answer_effect c e w with ⟨-, hw⟩ | ⟨-, finished, hw⟩
  · rw [hw]
    exact .inl h
  · rw [hw]
    cases c with
    | deleteRawBlob path' =>
      by_cases hpath : path = path'
      · exact .inr (by rw [hpath])
      · exact .inl (List.mem_filter.mpr ⟨h, decide_eq_true hpath⟩)
    | uploadRawBlob path' =>
      by_cases hpath : path = path'
      · exact .inl (List.mem_append_right _ (List.mem_singleton.mpr hpath))
      · exact .inl (List.mem_append_left _ (List.mem_filter.mpr ⟨h, decide_eq_true hpath⟩))
    | _ => exact .inl h

/-- A call that the records allow deletes nothing that was not selected. -/
theorem DeletionsRecorded.answer (h : DeletionsRecorded before w) (hrule : RecordsRule t c)
    (ht : Witnessed (fun _ c reply => RecordsFact w c reply) t) (e : Env) :
    DeletionsRecorded before (answer c e w).1 where
  events := by
    rcases answer_retentionEvents c e w with heq | ⟨event, -, heq⟩
    · rw [heq]
      exact h.events
    · rw [heq]
      exact h.events.trans (List.prefix_append _ _)
  rawBlobs := by
    intro path hpath
    rcases h.rawBlobs path hpath with hthere | hdoomed
    · rcases mem_rawBlobs_answer hthere c e with hthere | rfl
      · exact .inl hthere
      · exact .inr (Doomed.mono ((recorded_subset ht).trans (events_answer _ e w)) hrule)
    · exact .inr (hdoomed.mono (events_answer c e w))
  processedBlobs := by
    intro path hpath
    rcases h.processedBlobs path hpath with hthere | ⟨tileSetId, hof, hdoomed⟩
    · by_cases hc : c = .deleteProcessedBlob path
      · subst hc
        obtain ⟨tileSetId, hof, hdoomed⟩ := hrule
        exact .inr ⟨tileSetId, hof, hdoomed.mono ((recorded_subset ht).trans (events_answer _ e w))⟩
      · exact .inl (answer_exists hthere fun hdelete => absurd hdelete hc)
    · exact .inr ⟨tileSetId, hof, hdoomed.mono (events_answer c e w)⟩

end Answer

/-! ## Runs -/

def CleanupCall : ProcessingCall → Prop
  | .recordRetentionEvent _ => True
  | .deleteRawBlob _ => True
  | .deleteProcessedBlob _ => True
  | .markTileSetRetentionDeleted _ _ => True
  | _ => False

theorem recordsRule_of_not_cleanupCall {t : History} {c : ProcessingCall} (h : ¬ CleanupCall c) :
    RecordsRule t c := by
  cases c with
  | recordRetentionEvent | deleteRawBlob | deleteProcessedBlob | markTileSetRetentionDeleted =>
    exact absurd trivial h
  | _ => trivial

theorem ProcessingRule.not_cleanupCall {message : ProcessingMessage} {t : History}
    {c : ProcessingCall} (h : ProcessingRule message t c) : ¬ CleanupCall c := by
  rcases h with rfl | rfl | ⟨processingLog, -, h⟩
  · exact id
  · exact id
  · cases c with
    | recordRetentionEvent | deleteRawBlob | deleteProcessedBlob | markTileSetRetentionDeleted =>
      exact h.elim
    | _ => exact id

section Commands

variable {fromStr : String → Except String RawProcessingMessage}

theorem DeliveryRule.not_cleanupCall {config : ProcessingConfig} {promotedAt : ℕ} {t : History}
    {c : ProcessingCall} (h : DeliveryRule config fromStr promotedAt t c) : ¬ CleanupCall c := by
  rcases h with rfl | rfl | ⟨received, -, hrule⟩
  · exact id
  · exact id
  · rcases hrule with (hrule | ⟨_, -, rfl | ⟨_, -, rfl⟩⟩) | ⟨_, -, hrule⟩
    · cases c with
      | deleteMessage | enqueueMessage => exact id
      | _ => exact hrule.elim
    · exact id
    · exact id
    · exact hrule.not_cleanupCall

theorem Command.program_records (command : Command) (t : History) :
    (command.program fromStr).Meets Possible RecordsRule (fun _ _ => True) t := by
  by_cases hcleanup : ∃ config cleanup, command = .retentionCleanup config cleanup
  · obtain ⟨config, cleanup, rfl⟩ := hcleanup
    exact (runRetentionCleanup_records config cleanup t).bind fun _ _ _ => trivial
  · refine (command.program_meets t).mono (fun t' c h => ?_) fun _ _ h => h
    apply recordsRule_of_not_cleanupCall
    cases command with
    | ingest row => exact h ▸ id
    | enqueue queueName messageText => exact h ▸ id
    | processOnce config promotedAt => exact h.not_cleanupCall
    | processMessage config message promotedAt =>
      obtain ⟨processingMessage, -, h⟩ := h
      exact h.not_cleanupCall
    | retentionCleanup config cleanup => exact absurd ⟨config, cleanup, rfl⟩ hcleanup

/-- The commands, and any other program that leaves cleanups to them, such as an upload. -/
def CommandOrBystander (fromStr : String → Except String RawProcessingMessage)
    (p : ProcessingProgram Unit) : Prop :=
  (∃ command : Command, p = command.program fromStr) ∨ p.Always fun c _ => ¬ CleanupCall c

theorem CommandOrBystander.records {p : ProcessingProgram Unit} (h : CommandOrBystander fromStr p) :
    p.Meets Possible RecordsRule (fun _ _ => True) [] := by
  rcases h with ⟨command, rfl⟩ | halways
  · exact command.program_records []
  · exact Meets.of_always halways (fun _ _ h => recordsRule_of_not_cleanupCall h) []

end Commands

namespace ProcessingPool

variable {fromStr : String → Except String RawProcessingMessage} {before : ProcessingWorld}
  {pool pool' : ProcessingPool} {event : ProcessingEvent}

/-- What every run keeps of the records since `before`. -/
structure RecordsInvariant (fromStr : String → Except String RawProcessingMessage)
    (before : ProcessingWorld) (pool : ProcessingPool) : Prop where
  vouched : ∀ p ∈ pool.procs, p.next? ≠ none → Pool.Vouched (CommandOrBystander fromStr)
    (fun w _ c reply => Possible c reply ∧ RecordsFact w c reply) pool.world p
  recorded : CleanupRecorded pool.world
  deletions : DeletionsRecorded before pool.world

theorem recordsInvariant_empty : RecordsInvariant fromStr empty.world empty where
  vouched := fun _ h => absurd h List.not_mem_nil
  recorded := {
    ordered := preceded_nil _
    marked := fun _ h => absurd h List.not_mem_nil
    deleted := fun _ h => absurd h List.not_mem_nil }
  deletions := .refl _

theorem RecordsInvariant.restart (h : pool.RecordsInvariant fromStr before) :
    pool.RecordsInvariant fromStr pool.world :=
  { h with deletions := .refl _ }

theorem RecordsInvariant.step (h : pool.RecordsInvariant fromStr before)
    (hstarts : StartsOnly (CommandOrBystander fromStr) event)
    (hstep : pool.step event = some pool') : pool'.RecordsInvariant fromStr before := by
  have hvouched : ∀ p ∈ pool'.procs, p.next? ≠ none → Pool.Vouched (CommandOrBystander fromStr)
      (fun w _ c reply => Possible c reply ∧ RecordsFact w c reply) pool'.world p := by
    apply Pool.vouched_step hstep hstarts _ h.vouched
    intro p₀ t c next e _ _ _
    refine ⟨⟨possible_answer c e _, recordsFact_answer c e _⟩, fun t' c' reply hfact => ?_⟩
    exact ⟨hfact.1, hfact.2.answer c e⟩
  rcases Pool.step_cases hstep with
    ⟨p, rfl, rfl⟩ | ⟨i, e, c, next, rfl, hi, rfl⟩ | ⟨i, c, next, rfl, hi, rfl⟩
  · exact { h with vouched := hvouched }
  · obtain ⟨p₀, t, hp₀, hfollows, ht⟩ := h.vouched _ (List.mem_of_getElem? hi) nofun
    have hmeets := hp₀.records.of_follows hfollows
      (possible_of_witnessed (ht.mono fun _ _ _ h => h.1))
    rw [List.append_nil] at hmeets
    have hfacts : Witnessed (fun _ c reply => RecordsFact pool.world c reply) t :=
      ht.mono fun _ _ _ h => h.2
    exact ⟨hvouched, h.recorded.answer hmeets.1 hfacts e, h.deletions.answer hmeets.1 hfacts e⟩
  · exact { h with vouched := hvouched }

theorem RecordsInvariant.run {later : ProcessingPool} (h : pool.RecordsInvariant fromStr before)
    (hrun : Reaches ProcessingPool.step (fun _ => StartsOnly (CommandOrBystander fromStr)) pool later) :
    later.RecordsInvariant fromStr before :=
  hrun.invariant h fun _ _ _ hinv hstarts hstep => hinv.step hstarts hstep

/-- In every run the log of the cleanups reads in order and explains each mark; and from each state
to every later one, what is gone was selected by a cleanup in execute mode. -/
theorem cleanupRecorded_of_run (fromStr : String → Except String RawProcessingMessage)
    (pool : ProcessingPool)
    (h : Reaches step (fun _ => StartsOnly (CommandOrBystander fromStr)) empty pool) :
    CleanupRecorded pool.world ∧
      ∀ later, Reaches step (fun _ => StartsOnly (CommandOrBystander fromStr)) pool later →
        DeletionsRecorded pool.world later.world := by
  have hinv := recordsInvariant_empty.run h
  exact ⟨hinv.recorded, fun later hlater => (hinv.restart.run hlater).deletions⟩

/-! ## A granule that is published twice and cleaned up -/

theorem sampleUpload_bystander : CommandOrBystander sampleFromStr sampleUpload :=
  .inr ⟨id, fun _ => ⟨id, fun _ => trivial⟩⟩

def tileEnv (day : ℕ) : Env :=
  { sampleEnv .ok (day * microsecondsPerDay) 0 with tiles := [sampleTile] }

def commandOnDay (command : Command) (i acts day : ℕ) : List ProcessingEvent :=
  runThrough (command.program sampleFromStr) i acts (tileEnv day)

theorem commandOnDay_starts {command : Command} {i acts day : ℕ} :
    ∀ event ∈ commandOnDay command i acts day,
      StartsOnly (CommandOrBystander sampleFromStr) event :=
  startsOnly_runThrough (.inl ⟨command, rfl⟩) i acts (tileEnv day)

/-- The granule is uploaded, published, and on the next day published again. -/
def publishedTwiceEvents : List ProcessingEvent :=
  runThrough sampleUpload 0 2 (tileEnv 0) ++
    (commandOnDay (.processMessage sampleConfig "a" 0) 1 15 0 ++
      commandOnDay (.processMessage sampleConfig "a" microsecondsPerDay) 2 15 1)

theorem publishedTwiceEvents_starts : ∀ event ∈ publishedTwiceEvents,
    StartsOnly (CommandOrBystander sampleFromStr) event := by
  rw [publishedTwiceEvents, List.forall_mem_append, List.forall_mem_append]
  exact ⟨startsOnly_runThrough sampleUpload_bystander _ _ _, commandOnDay_starts,
    commandOnDay_starts⟩

/-- A hundred days later the granule and the first tile set are gone, and the log holds the
selection of each and what was deleted. -/
theorem cleanupRecorded_publishedTwice : ∃ pool later : ProcessingPool,
    CleanupRecorded pool.world ∧ DeletionsRecorded pool.world later.world ∧
      pool.world.rawBlobs = ["h08v05.h5"] ∧ later.world.rawBlobs = [] ∧
      pool.world.tileSets.map (fun row => row.retentionDeletedAt.isSome) = [false, false] ∧
      later.world.tileSets.map (fun row => row.retentionDeletedAt.isSome) = [true, false] ∧
      later.world.retentionEvents.map (fun event => (event.targetKind, event.action)) =
        [(.rawBlob, .selected), (.rawBlob, .deleted), (.tileSet, .selected),
          (.processedTile, .deleted), (.processedManifest, .deleted), (.tileSet, .deleted)] := by
  have hrun : ∃ pool, Reaches step (fun _ => StartsOnly (CommandOrBystander sampleFromStr)) empty
      pool ∧ (decide (pool.world.rawBlobs = ["h08v05.h5"] ∧
          pool.world.tileSets.map (fun row => row.retentionDeletedAt.isSome) = [false, false]) &&
        (runSteps step pool
          (commandOnDay (.retentionCleanup sampleConfig sampleCleanup) 3 15 100)).any fun later =>
            decide (later.world.rawBlobs = [] ∧
              later.world.tileSets.map (fun row => row.retentionDeletedAt.isSome) = [true, false] ∧
              later.world.retentionEvents.map (fun event => (event.targetKind, event.action)) =
                [(.rawBlob, .selected), (.rawBlob, .deleted), (.tileSet, .selected),
                  (.processedTile, .deleted), (.processedManifest, .deleted),
                  (.tileSet, .deleted)])) = true := by
    apply exists_reaches_of_runSteps publishedTwiceEvents fun _ => publishedTwiceEvents_starts
    decide +kernel
  obtain ⟨pool, hpool, htest⟩ := hrun
  obtain ⟨hbefore, hrest⟩ := Bool.and_eq_true_iff.mp htest
  obtain ⟨later, hlater, hafter⟩ := exists_reaches_of_runSteps _
    (fun _ => commandOnDay_starts) hrest
  obtain ⟨hrecorded, hdeletions⟩ := cleanupRecorded_of_run sampleFromStr pool hpool
  obtain ⟨huploaded, hkept⟩ := of_decide_eq_true hbefore
  exact ⟨pool, later, hrecorded, hdeletions later hlater, huploaded,
    (of_decide_eq_true hafter).1, hkept, (of_decide_eq_true hafter).2⟩

end ProcessingPool

end LumenHorizon.Processing
