import LumenHorizon.Processing.RetentionProgress

/-! # What a dry run announces

A dry run goes through the selection of a cleanup and records it. Whatever the environment does it
changes nothing else, and where nothing fails its records are the deletions that a cleanup in
execute mode would make of the same world.
-/

namespace LumenHorizon.Processing
open Foundation Shared ProcessingProgram Program

/-! ## Selections -/

def RetentionEvent.target (event : RetentionEvent) : RetentionTargetKind × String :=
  (event.targetKind, event.targetIdentifier)

/-- The targets of the events that record a selection. -/
def selections (events : List RetentionEvent) : List (RetentionTargetKind × String) :=
  (events.filter fun event => event.action = .selected).map RetentionEvent.target

/-- The selections that a run from `before` to `w` recorded. -/
def announced (before w : ProcessingWorld) : List (RetentionTargetKind × String) :=
  selections (w.retentionEvents.drop before.retentionEvents.length)

/-- From `before` to `w` events were appended, and the selections among them are of these targets. -/
def Selects (targets : List (RetentionTargetKind × String)) (before w : ProcessingWorld) : Prop :=
  ∃ events, w.retentionEvents = before.retentionEvents ++ events ∧ selections events = targets

section Selects

variable {before w w' : ProcessingWorld} {targets targets' : List (RetentionTargetKind × String)}

theorem Selects.of_eq (h : w.retentionEvents = before.retentionEvents) : Selects [] before w :=
  ⟨[], h.trans (List.append_nil _).symm, rfl⟩

theorem Selects.trans (h : Selects targets before w) (h' : Selects targets' w w') :
    Selects (targets ++ targets') before w' := by
  obtain ⟨events, hevents, rfl⟩ := h
  obtain ⟨events', hevents', rfl⟩ := h'
  refine ⟨events ++ events', by rw [hevents', hevents, List.append_assoc], ?_⟩
  rw [selections, List.filter_append, List.map_append]
  rfl

theorem Selects.announced_eq (h : Selects targets before w) : announced before w = targets := by
  obtain ⟨events, hevents, rfl⟩ := h
  rw [announced, hevents, List.drop_left]

end Selects

/-! ## A dry run in any environment -/

/-- The calls of a dry run: its two selections and their records. -/
def DryRunCall : ProcessingCall → Prop
  | .connect => True
  | .takeLocalStep _ => True
  | .selectRawBlobRetentionCandidates _ _ => True
  | .selectTileSetRetentionCandidates _ _ _ => True
  | .recordRetentionEvent event => event.mode = .dryRun ∧ event.action = .selected
  | _ => False

/-- A dry run has been at work since `before`. -/
def DryChange (before w : ProcessingWorld) : Prop :=
  ∃ events, (∀ event ∈ events, event.mode = .dryRun ∧ event.action = .selected) ∧
    w = { before with retentionEvents := before.retentionEvents ++ events }

section DryRun

variable {before w : ProcessingWorld} {config : ProcessingConfig} {runId : Uuid}

theorem DryChange.refl (w : ProcessingWorld) : DryChange w w :=
  ⟨[], fun _ h => absurd h List.not_mem_nil, by rw [List.append_nil]⟩

/-- A call of a dry run changes nothing but the events, whoever else is at work. -/
theorem dryChange_answer {c : ProcessingCall} (hc : DryRunCall c) (e : Env) (w : ProcessingWorld) :
    DryChange w (answer c e w).1 := by
  have heffect : DryChange w (effect e w c) ∧ confirm (effect e w c) c = effect e w c := by
    cases c with
    | recordRetentionEvent event =>
      refine ⟨⟨[event], ?_, rfl⟩, rfl⟩
      intro other hother
      rw [List.mem_singleton.mp hother]
      exact hc
    | connect | takeLocalStep | selectRawBlobRetentionCandidates
    | selectTileSetRetentionCandidates => exact ⟨DryChange.refl w, rfl⟩
    | _ => exact hc.elim
  cases ho : e.outcome with
  | ok =>
    rw [answer_of_ok ho, heffect.2]
    exact heffect.1
  | failed =>
    rw [answer_of_failed ho]
    exact DryChange.refl w
  | lost =>
    rw [answer_of_lost ho]
    exact heffect.1

theorem DryChange.trans {w' : ProcessingWorld} (h : DryChange before w) (h' : DryChange w w') :
    DryChange before w' := by
  obtain ⟨events, hevents, rfl⟩ := h
  obtain ⟨events', hevents', rfl⟩ := h'
  refine ⟨events ++ events', fun event hevent => ?_, by simp only [List.append_assoc]⟩
  rcases List.mem_append.mp hevent with hevent | hevent
  · exact hevents event hevent
  · exact hevents' event hevent

/-- A program that makes only the calls of a dry run. -/
abbrev OnlyAnnounces {α : Type} (p : ProcessingProgram α) : Prop :=
  p.Under (fun _ _ => True) DryRunCall

theorem recordEvent_announces {event : RetentionEvent} (hmode : event.mode = .dryRun)
    (haction : event.action = .selected) : OnlyAnnounces (recordEvent event) := by
  refine Under.call ⟨hmode, haction⟩ fun reply _ => ?_
  cases reply <;> trivial

theorem cleanRawBlobs_announces (candidates : List RawBlobRetentionCandidate) :
    OnlyAnnounces (cleanRawBlobs config ⟨runId, false⟩ candidates) := by
  induction candidates with
  | nil => trivial
  | cons candidate candidates ih =>
    have hrecord : OnlyAnnounces (recordRawEvent config ⟨runId, false⟩ candidate .selected) :=
      recordEvent_announces rfl rfl
    refine Under.bind hrecord fun outcome => ?_
    cases outcome with
    | error error => trivial
    | ok _ => exact ih

theorem cleanTileSets_announces (candidates : List TileSetRetentionCandidate) :
    OnlyAnnounces (cleanTileSets config ⟨runId, false⟩ candidates) := by
  induction candidates with
  | nil => trivial
  | cons candidate candidates ih =>
    unfold cleanTileSets
    split
    · trivial
    · have hrecord : OnlyAnnounces
          (recordTileSetEvent ⟨runId, false⟩ candidate .selected tileSetReason) :=
        recordEvent_announces rfl rfl
      refine Under.bind hrecord fun outcome => ?_
      cases outcome with
      | error error => trivial
      | ok _ => exact ih

theorem dryRun_announces (config : ProcessingConfig) (runId : Uuid) :
    OnlyAnnounces (runRetentionCleanup config ⟨runId, false⟩) := by
  refine Under.call trivial fun reply _ => ?_
  cases reply with
  | error error => trivial
  | ok _ =>
    refine Under.call trivial fun reply _ => ?_
    cases reply with
    | error error => trivial
    | ok _ =>
      refine Under.call trivial fun reply _ => ?_
      cases reply with
      | error error => trivial
      | ok rawCandidates =>
        refine Under.call trivial fun reply _ => ?_
        cases reply with
        | error error => trivial
        | ok tileSetCandidates =>
          change OnlyAnnounces (cleanRawBlobs config ⟨runId, false⟩ rawCandidates >>= _)
          refine Under.bind (cleanRawBlobs_announces rawCandidates) fun outcome => ?_
          cases outcome with
          | error error => trivial
          | ok _ => exact cleanTileSets_announces tileSetCandidates

/-- Whatever fails, a dry run changes nothing but the events. -/
theorem dryRun_alone (config : ProcessingConfig) (runId : Uuid) (w : ProcessingWorld) :
    (runRetentionCleanup config ⟨runId, false⟩).Alone answer (fun _ => True) (DryChange w)
      (fun _ _ => True) w := by
  apply Alone.of_under (dryRun_announces config runId) (DryChange.refl w)
  exact fun c e w' hc _ h => h.trans (dryChange_answer hc e w')

end DryRun

/-! ## Runs without failures -/

section Loops

variable {allowed : Env → Prop} {config : ProcessingConfig} {cleanup : Cleanup} {runId : Uuid}
  {w : ProcessingWorld}

def cleanSelected (config : ProcessingConfig) (cleanup : Cleanup)
    (rawCandidates : List RawBlobRetentionCandidate)
    (tileSetCandidates : List TileSetRetentionCandidate) :
    ProcessingProgram (Except RetentionError Unit) := do
  match ← cleanRawBlobs config cleanup rawCandidates with
  | .error error => pure (.error error)
  | .ok () => cleanTileSets config cleanup tileSetCandidates

def selectedRawBlobs (config : ProcessingConfig) (w : ProcessingWorld) (now : ℕ) :
    List RawBlobRetentionCandidate :=
  w.selectRawBlobRetentionCandidates config.rawGranuleRetentionDays config.retentionBatchLimit now

def selectedTileSets (config : ProcessingConfig) (rows : TileSetTable) (now : ℕ) :
    List TileSetRetentionCandidate :=
  rows.selectTileSetRetentionCandidates config.processedTileSetRetentionDays
    config.retentionProtectedPriorTileSets config.retentionBatchLimit now

/-- A run in which nothing fails selects in the world it starts from. -/
theorem exec_runRetentionCleanup (config : ProcessingConfig) (cleanup : Cleanup)
    (w : ProcessingWorld) {choices : ℕ → Env} (hok : ∀ i, (choices i).outcome = .ok) :
    exec answer (runRetentionCleanup config cleanup) choices w =
      exec answer (cleanSelected config cleanup (selectedRawBlobs config w (choices 2).now)
        (selectedTileSets config w.tileSets (choices 3).now)) (fun i => choices (i + 4)) w := by
  have hconnect : answer .connect (choices 0) w = (w, .ok ()) := answer_of_ok (hok 0) _ _
  have hclient : answer (.takeLocalStep .newBlobClient) (choices 1) w = (w, .ok ()) :=
    answer_of_ok (hok 1) _ _
  have hraw := answer_of_ok (hok 2) (.selectRawBlobRetentionCandidates
    config.rawGranuleRetentionDays config.retentionBatchLimit) w
  have htileSets := answer_of_ok (hok 3) (.selectTileSetRetentionCandidates
    config.processedTileSetRetentionDays config.retentionProtectedPriorTileSets
    config.retentionBatchLimit) w
  change exec answer (Program.call .connect _) choices w = _
  rw [exec, hconnect]
  change exec answer (Program.call (.takeLocalStep .newBlobClient) _) _ w = _
  rw [exec, hclient]
  change exec answer (Program.call (.selectRawBlobRetentionCandidates _ _) _) _ w = _
  rw [exec, hraw]
  change exec answer (Program.call (.selectTileSetRetentionCandidates _ _ _) _) _ w = _
  rw [exec, htileSets]
  rfl

theorem recordEvent_selects (hno : NoFailure allowed) (event : RetentionEvent)
    (w : ProcessingWorld) :
    (recordEvent event).Alone answer allowed (fun _ => True) (fun w' outcome => outcome = .ok () ∧
      w' = { w with retentionEvents := w.retentionEvents ++ [event] }) w := by
  refine ⟨trivial, fun e he => ?_⟩
  rw [answer_of_ok (hno e he)]
  exact ⟨trivial, rfl, rfl⟩

theorem selects_recorded (event : RetentionEvent) (w : ProcessingWorld) :
    Selects (selections [event]) w
      { w with retentionEvents := w.retentionEvents ++ [event] } := ⟨[event], rfl, rfl⟩

/-- The event of `record_raw_event`. -/
def rawEvent (config : ProcessingConfig) (cleanup : Cleanup)
    (candidate : RawBlobRetentionCandidate) (action : RetentionEventAction) : RetentionEvent where
  cleanupRunId := cleanup.runId
  mode := cleanup.mode
  targetKind := .rawBlob
  targetIdentifier := candidate.blobPath
  blobContainer := some config.rawViirsContainer
  blobPath := some candidate.blobPath
  action := action
  reason := rawReason

theorem removeRawBlob_selects (hno : NoFailure allowed) (candidate : RawBlobRetentionCandidate)
    (w : ProcessingWorld) :
    (removeRawBlob config cleanup candidate).Alone answer allowed (fun _ => True)
      (fun w' outcome => outcome = .ok () ∧ TilesUnchanged w w' ∧ Selects [] w w' ∧
        w'.rawBlobs = w.rawBlobs.filter (· ≠ candidate.blobPath)) w := by
  refine ⟨trivial, fun e he => ?_⟩
  rw [answer_of_ok (hno e he)]
  simp only [result]
  have hnone (gone : DeleteBlobOutcome) : gone.action ≠ .selected := by cases gone <;> decide
  refine (recordEvent_selects hno _ _).mono ?_
  rintro w' outcome - ⟨rfl, rfl⟩
  refine ⟨rfl, ⟨rfl, rfl⟩, ⟨[_], rfl, ?_⟩, rfl⟩
  rw [selections, List.filter_cons_of_neg (by simpa using hnone _)]
  rfl

theorem cleanRawBlobs_selects (hno : NoFailure allowed)
    (candidates : List RawBlobRetentionCandidate) (w : ProcessingWorld) :
    (cleanRawBlobs config cleanup candidates).Alone answer allowed (fun _ => True)
      (fun w' outcome => outcome = .ok () ∧ TilesUnchanged w w' ∧
        Selects (candidates.map fun candidate => (.rawBlob, candidate.blobPath)) w w' ∧
        (cleanup.execute = true → ∀ path, path ∈ w'.rawBlobs ↔
          path ∈ w.rawBlobs ∧ ∀ candidate ∈ candidates, path ≠ candidate.blobPath)) w := by
  induction candidates generalizing w with
  | nil => exact ⟨trivial, rfl, ⟨rfl, rfl⟩, .of_eq rfl, by simp⟩
  | cons candidate candidates ih =>
    refine Alone.bind (recordEvent_selects hno _ w) ?_
    rintro w₁ outcome - ⟨rfl, rfl⟩
    have hselected := selects_recorded (rawEvent config cleanup candidate .selected) w
    by_cases hexecute : cleanup.execute = true
    · simp only [hexecute, if_true]
      refine Alone.bind (removeRawBlob_selects hno candidate _) ?_
      rintro w₂ outcome - ⟨rfl, hunchanged, hnone, hraw⟩
      refine (ih w₂).mono ?_
      rintro w₃ outcome - ⟨rfl, hrest, hselects, hrawRest⟩
      refine ⟨rfl, ⟨hrest.blobs.trans hunchanged.blobs, hrest.rows.trans hunchanged.rows⟩,
        hselected.trans (hnone.trans hselects), fun _ path => ?_⟩
      rw [hrawRest hexecute, hraw]
      simp [and_assoc]
    · simp only [hexecute, Bool.false_eq_true, if_false]
      refine (ih _).mono ?_
      rintro w₃ outcome - ⟨rfl, hrest, hselects, -⟩
      exact ⟨rfl, ⟨hrest.blobs, hrest.rows⟩, hselected.trans hselects, False.elim⟩

/-- The end of the loop over tile sets: the error of the first candidate that fails the check. -/
def checkAll : List TileSetRetentionCandidate → Except RetentionError Unit
  | [] => .ok ()
  | candidate :: candidates =>
    match validateManifestPath candidate with
    | .error error => .error error
    | .ok () => checkAll candidates

def tileSetTargets (candidates : List TileSetRetentionCandidate) :
    List (RetentionTargetKind × String) :=
  (beforeUnchecked candidates).map fun candidate => (.tileSet, candidate.tileSetId)

theorem beforeUnchecked_cons_ok {candidate : TileSetRetentionCandidate}
    (h : validateManifestPath candidate = .ok ()) (candidates : List TileSetRetentionCandidate) :
    beforeUnchecked (candidate :: candidates) = candidate :: beforeUnchecked candidates :=
  List.takeWhile_cons_of_pos (by simp [h])

theorem beforeUnchecked_cons_error {candidate : TileSetRetentionCandidate} {error : RetentionError}
    (h : validateManifestPath candidate = .error error)
    (candidates : List TileSetRetentionCandidate) :
    beforeUnchecked (candidate :: candidates) = [] :=
  List.takeWhile_cons_of_neg (by simp [h])

theorem cleanTileSets_dry (hno : NoFailure allowed) (candidates : List TileSetRetentionCandidate)
    (w : ProcessingWorld) :
    (cleanTileSets config ⟨runId, false⟩ candidates).Alone answer allowed (fun _ => True)
      (fun w' outcome => outcome = checkAll candidates ∧ Selects (tileSetTargets candidates) w w')
      w := by
  induction candidates generalizing w with
  | nil => exact ⟨trivial, rfl, .of_eq rfl⟩
  | cons candidate candidates ih =>
    unfold cleanTileSets checkAll tileSetTargets
    cases hvalid : validateManifestPath candidate with
    | error error =>
      rw [beforeUnchecked_cons_error hvalid]
      exact ⟨trivial, rfl, .of_eq rfl⟩
    | ok _ =>
      rw [beforeUnchecked_cons_ok hvalid]
      refine Alone.bind (recordEvent_selects hno _ w) ?_
      rintro w₁ outcome - ⟨rfl, rfl⟩
      refine (ih _).mono ?_
      rintro w₂ outcome - ⟨rfl, hselects⟩
      exact ⟨rfl, (selects_recorded _ w).trans hselects⟩

def SelectsNothing (c : ProcessingCall) : Prop :=
  ∀ event, c = .recordRetentionEvent event → event.action ≠ .selected

theorem recordEvent_selectsNothing {event : RetentionEvent} (h : event.action ≠ .selected) :
    (recordEvent event).Under (fun _ _ => True) SelectsNothing := by
  refine Under.call ?_ fun reply _ => ?_
  · rintro _ ⟨⟩
    exact h
  · cases reply <;> trivial

theorem deleteProcessedBlob_selectsNothing (tileSetId path : String)
    (targetKind : RetentionTargetKind) :
    (Retention.deleteProcessedBlob config cleanup tileSetId path targetKind).Under
      (fun _ _ => True) SelectsNothing := by
  refine Under.call (fun _ h => by cases h) fun reply _ => ?_
  cases reply with
  | error error => trivial
  | ok gone =>
    have hgone : gone.action ≠ .selected := by cases gone <;> decide
    exact recordEvent_selectsNothing hgone

theorem removeTiles_selectsNothing (tileSetId : String) (paths : List String) :
    (removeTiles config cleanup tileSetId paths).Under (fun _ _ => True) SelectsNothing := by
  induction paths with
  | nil => trivial
  | cons path paths ih =>
    refine Under.bind (deleteProcessedBlob_selectsNothing _ _ _) fun outcome => ?_
    cases outcome with
    | error error => trivial
    | ok _ => exact ih

theorem executeTileSetCleanup_selectsNothing (candidate : TileSetRetentionCandidate) :
    (executeTileSetCleanup config cleanup candidate).Under (fun _ _ => True) SelectsNothing := by
  have hrecord (action : RetentionEventAction) (reason : String) (haction : action ≠ .selected) :
      (recordTileSetEvent cleanup candidate action reason).Under (fun _ _ => True)
        SelectsNothing := recordEvent_selectsNothing haction
  unfold executeTileSetCleanup
  split
  · trivial
  · refine Under.call (fun _ h => by cases h) fun reply _ => ?_
    cases reply with
    | error error => trivial
    | ok page =>
      obtain ⟨paths, hasMore⟩ := page
      dsimp only [andThen]
      split
      · change Under _ _ (recordTileSetEvent cleanup candidate .skipped skippedReason >>= _)
        refine Under.bind (hrecord .skipped _ (by decide)) fun outcome => ?_
        cases outcome <;> trivial
      · refine Under.bind (removeTiles_selectsNothing _ paths) fun outcome => ?_
        cases outcome with
        | error error => trivial
        | ok _ =>
          refine Under.bind (deleteProcessedBlob_selectsNothing _ _ _) fun outcome => ?_
          cases outcome with
          | error error => trivial
          | ok _ =>
            refine Under.call (fun _ h => by cases h) fun reply _ => ?_
            cases reply with
            | error error => trivial
            | ok _ =>
              change Under _ _ (recordTileSetEvent cleanup candidate .deleted tileSetReason >>= _)
              refine Under.bind (hrecord .deleted _ (by decide)) fun outcome => ?_
              cases outcome <;> trivial

theorem selects_answer {c : ProcessingCall} (hc : SelectsNothing c) (e : Env)
    (w : ProcessingWorld) : Selects [] w (answer c e w).1 := by
  rcases answer_effect c e w with ⟨-, hw⟩ | ⟨-, finished, hw⟩
  · rw [hw]
    exact .of_eq rfl
  · rw [hw]
    cases c with
    | recordRetentionEvent event =>
      refine ⟨[event], rfl, ?_⟩
      rw [selections, List.filter_cons_of_neg (by simpa using hc event rfl)]
      rfl
    | _ => exact .of_eq rfl

theorem executeTileSetCleanup_selects (candidate : TileSetRetentionCandidate)
    (w : ProcessingWorld) :
    (executeTileSetCleanup config cleanup candidate).Alone answer allowed (Selects [] w)
      (fun _ _ => True) w := by
  apply Alone.of_under (executeTileSetCleanup_selectsNothing candidate) (.of_eq rfl)
  exact fun c e w' hc _ h => h.trans (selects_answer hc e w')

theorem CandidateTurn.rawBlobs {candidate : TileSetRetentionCandidate} {w' : ProcessingWorld}
    (h : CandidateTurn config candidate w w') : w'.rawBlobs = w.rawBlobs := by
  cases h with
  | deleted _ hcleaning _ => exact hcleaning.raw
  | skipped _ huntouched => exact huntouched.raw

theorem cleanTileSets_execute (hno : NoFailure allowed)
    (candidates : List TileSetRetentionCandidate) {w : ProcessingWorld}
    (hdeletable : ∀ candidate ∈ candidates,
      ∃ row ∈ w.tileSets, TileSetTable.RetentionDeletable candidate.tileSetId row)
    (hapart : candidates.Pairwise fun a b => a.tileSetId ≠ b.tileSetId) :
    (cleanTileSets config ⟨runId, true⟩ candidates).Alone answer allowed (fun _ => True)
      (fun w' outcome => outcome = checkAll candidates ∧
        Selects (tileSetTargets candidates) w w' ∧ w'.rawBlobs = w.rawBlobs ∧
        Turns (CandidateTurn config) (beforeUnchecked candidates) w w') w := by
  induction candidates generalizing w with
  | nil => exact ⟨trivial, rfl, .of_eq rfl, rfl, .done w⟩
  | cons candidate candidates ih =>
    obtain ⟨hhead, htail⟩ := List.pairwise_cons.mp hapart
    unfold cleanTileSets checkAll tileSetTargets
    cases hvalid : validateManifestPath candidate with
    | error error =>
      rw [beforeUnchecked_cons_error hvalid]
      exact ⟨trivial, rfl, .of_eq rfl, rfl, .done w⟩
    | ok _ =>
      rw [beforeUnchecked_cons_ok hvalid]
      have hrow := hdeletable candidate List.mem_cons_self
      refine Alone.bind (recordEvent_selects hno _ w) ?_
      rintro w₁ outcome - ⟨rfl, hw₁⟩
      have hselected : Selects [(.tileSet, candidate.tileSetId)] w w₁ := ⟨_, by rw [hw₁], rfl⟩
      have hcleaning : Cleaning candidate.tileSetId w w₁ := by
        obtain ⟨hblobs, hrows, hraw⟩ := Cleaning.refl candidate.tileSetId w
        rw [hw₁]
        exact ⟨hblobs, hrows, hraw⟩
      have hunchanged : TilesUnchanged w w₁ := by
        rw [hw₁]
        exact ⟨rfl, rfl⟩
      have hturn : (executeTileSetCleanup config ⟨runId, true⟩ candidate).Alone answer allowed
          (fun _ => True) (fun w' outcome => CandidateTurn config candidate w w' ∧
            ∃ done, outcome = .ok done) w₁ :=
        executeTileSetCleanup_turn hno hvalid hcleaning hunchanged hrow
      have hboth := hturn.and (executeTileSetCleanup_selects candidate w₁).atEnd
      refine Alone.bind (hboth.weaken fun _ _ => trivial) ?_
      rintro w₂ outcome - ⟨⟨hturn, done, rfl⟩, hnone, -⟩
      refine (ih (fun other hother => ?_) htail).mono ?_
      · exact hturn.deletable (hhead other hother) (hdeletable other (List.mem_cons_of_mem _ hother))
      · rintro w' outcome - ⟨rfl, hselects, hraw, hrest⟩
        exact ⟨rfl, hselected.trans (hnone.trans hselects), hraw.trans hturn.rawBlobs,
          .next hturn hrest⟩

end Loops

/-! ## What the turns of a run delete -/

section Turns

variable {config : ProcessingConfig} {candidates : List TileSetRetentionCandidate}
  {w w' : ProcessingWorld} {path : String} {blob : ProcessedBlob}

theorem CandidateTurn.mem_processedBlobs {candidate : TileSetRetentionCandidate}
    (h : CandidateTurn config candidate w w') : (path, blob) ∈ w'.processedBlobs ↔
      (path, blob) ∈ w.processedBlobs ∧
        ¬ (¬ TooMany config candidate.tileSetId w ∧ OfTileSet candidate.tileSetId path) := by
  cases h with
  | deleted hfew hcleaning hcleaned =>
    obtain ⟨gone, hgone, hblobs⟩ := hcleaning.blobs
    constructor
    · intro hmem
      refine ⟨?_, fun hof => hcleaned.gone path hof.2 ⟨blob, hmem⟩⟩
      rw [hblobs] at hmem
      exact (List.mem_filter.mp hmem).1
    · rintro ⟨hmem, hof⟩
      rw [hblobs]
      exact List.mem_filter.mpr ⟨hmem, by simpa using fun hpath => hof ⟨hfew, hgone path hpath⟩⟩
  | skipped hmany huntouched =>
    rw [huntouched.blobs]
    exact ⟨fun hmem => ⟨hmem, fun hof => hof.1 hmany⟩, And.left⟩

/-- The blobs of the tile sets that the run comes to and that are within the limit. -/
theorem mem_processedBlobs_of_turns (h : Turns (CandidateTurn config) candidates w w')
    (hchecked : ∀ candidate ∈ candidates, validateManifestPath candidate = .ok ())
    (hapart : candidates.Pairwise fun a b => a.tileSetId ≠ b.tileSetId) :
    (path, blob) ∈ w'.processedBlobs ↔ (path, blob) ∈ w.processedBlobs ∧
      ¬ ∃ candidate ∈ candidates,
        ¬ TooMany config candidate.tileSetId w ∧ OfTileSet candidate.tileSetId path := by
  induction h with
  | done s => simp
  | @next first rest s s' _ hturn _ ih =>
    obtain ⟨hhead, htail⟩ := List.pairwise_cons.mp hapart
    have hrest : ∀ candidate ∈ rest, validateManifestPath candidate = .ok () :=
      fun candidate hmem => hchecked candidate (List.mem_cons_of_mem _ hmem)
    have hsame : ∀ candidate ∈ rest,
        (TooMany config candidate.tileSetId s' ↔ TooMany config candidate.tileSetId s) :=
      fun candidate hmem => hturn.tooMany_iff (hchecked first List.mem_cons_self)
        (validTileSetId_of_checked (hrest candidate hmem)) (hhead candidate hmem)
    rw [ih hrest htail, hturn.mem_processedBlobs, and_assoc, ← not_or]
    apply and_congr_right
    intro _
    apply not_congr
    constructor
    · rintro (hfirst | ⟨candidate, hmem, hmany, hof⟩)
      · exact ⟨first, List.mem_cons_self, hfirst⟩
      · exact ⟨candidate, List.mem_cons_of_mem _ hmem, mt (hsame candidate hmem).mpr hmany, hof⟩
    · rintro ⟨candidate, hmem, hmany, hof⟩
      rcases List.mem_cons.mp hmem with rfl | hmem
      · exact .inl ⟨hmany, hof⟩
      · exact .inr ⟨candidate, hmem, mt (hsame candidate hmem).mp hmany, hof⟩

end Turns

/-! ## The preview -/

def ProcessingWorld.Marked (w : ProcessingWorld) (tileSetId : String) : Prop :=
  ∃ row ∈ w.tileSets, row.id = tileSetId ∧ row.retentionDeletedAt ≠ none

/-- The ends of a dry run and of a run in execute mode, both from `w`: they announce the same and
end alike, the dry run changes only the events, and the other deletes just what was announced,
except for tile sets over the limit. -/
structure Previews (config : ProcessingConfig) (w : ProcessingWorld)
    (dry execute : ProcessingWorld × Except RetentionError Unit) : Prop where
  unchanged : DryChange w dry.1
  result : execute.2 = dry.2
  selected : announced w execute.1 = announced w dry.1
  rawBlobs : ∀ path, path ∈ execute.1.rawBlobs ↔
    path ∈ w.rawBlobs ∧ (.rawBlob, path) ∉ announced w dry.1
  processedBlobs : ∀ path blob, (path, blob) ∈ execute.1.processedBlobs ↔
    (path, blob) ∈ w.processedBlobs ∧ ¬ ∃ tileSetId, (.tileSet, tileSetId) ∈ announced w dry.1 ∧
      ¬ TooMany config tileSetId w ∧ OfTileSet tileSetId path
  tileSets : ∀ row ∈ w.tileSets, row.retentionDeletedAt = none →
    (execute.1.Marked row.id ↔
      (.tileSet, row.id) ∈ announced w dry.1 ∧ ¬ TooMany config row.id w)

section Preview

variable {allowed : Env → Prop} {config : ProcessingConfig} {w : ProcessingWorld}

def targets (rawCandidates : List RawBlobRetentionCandidate)
    (tileSetCandidates : List TileSetRetentionCandidate) : List (RetentionTargetKind × String) :=
  (rawCandidates.map fun candidate => (.rawBlob, candidate.blobPath)) ++
    tileSetTargets tileSetCandidates

theorem mem_targets_rawBlob {rawCandidates : List RawBlobRetentionCandidate}
    {tileSetCandidates : List TileSetRetentionCandidate} {path : String} :
    (.rawBlob, path) ∈ targets rawCandidates tileSetCandidates ↔
      ∃ candidate ∈ rawCandidates, path = candidate.blobPath := by
  simp [targets, tileSetTargets, eq_comm]

theorem mem_targets_tileSet {rawCandidates : List RawBlobRetentionCandidate}
    {tileSetCandidates : List TileSetRetentionCandidate} {tileSetId : String} :
    (.tileSet, tileSetId) ∈ targets rawCandidates tileSetCandidates ↔
      ∃ candidate ∈ beforeUnchecked tileSetCandidates, candidate.tileSetId = tileSetId := by
  simp [targets, tileSetTargets]

theorem cleanSelected_dry (config : ProcessingConfig) (runId : Uuid) (hno : NoFailure allowed)
    (rawCandidates : List RawBlobRetentionCandidate)
    (tileSetCandidates : List TileSetRetentionCandidate) (w : ProcessingWorld) :
    (cleanSelected config ⟨runId, false⟩ rawCandidates tileSetCandidates).Alone answer allowed
      (fun _ => True) (fun w' outcome => outcome = checkAll tileSetCandidates ∧
        Selects (targets rawCandidates tileSetCandidates) w w') w := by
  refine Alone.bind (cleanRawBlobs_selects hno rawCandidates w) ?_
  rintro w₁ outcome - ⟨rfl, -, hselects, -⟩
  refine (cleanTileSets_dry hno tileSetCandidates w₁).mono ?_
  rintro w₂ outcome - ⟨rfl, hselects'⟩
  exact ⟨rfl, hselects.trans hselects'⟩

theorem cleanSelected_execute (config : ProcessingConfig) (runId : Uuid)
    (hno : NoFailure allowed) (rawCandidates : List RawBlobRetentionCandidate)
    (tileSetCandidates : List TileSetRetentionCandidate)
    (hdeletable : ∀ candidate ∈ tileSetCandidates,
      ∃ row ∈ w.tileSets, TileSetTable.RetentionDeletable candidate.tileSetId row)
    (hapart : tileSetCandidates.Pairwise fun a b => a.tileSetId ≠ b.tileSetId) :
    (cleanSelected config ⟨runId, true⟩ rawCandidates tileSetCandidates).Alone answer allowed
      (fun _ => True) (fun w' outcome => outcome = checkAll tileSetCandidates ∧
        Selects (targets rawCandidates tileSetCandidates) w w' ∧
        (∀ path, path ∈ w'.rawBlobs ↔
          path ∈ w.rawBlobs ∧ ∀ candidate ∈ rawCandidates, path ≠ candidate.blobPath) ∧
        ∃ w₁, TilesUnchanged w w₁ ∧
          Turns (CandidateTurn config) (beforeUnchecked tileSetCandidates) w₁ w') w := by
  refine Alone.bind (cleanRawBlobs_selects hno rawCandidates w) ?_
  rintro w₁ outcome - ⟨rfl, hunchanged, hselects, hraw⟩
  refine (cleanTileSets_execute hno tileSetCandidates (fun candidate hmem => ?_) hapart).mono ?_
  · rw [hunchanged.rows]
    exact hdeletable candidate hmem
  · rintro w₂ outcome - ⟨rfl, hselects', hrawRest, hturns⟩
    refine ⟨rfl, hselects.trans hselects', fun path => ?_, w₁, hunchanged, hturns⟩
    rw [hrawRest]
    exact hraw rfl path

theorem marked_iff_of_turns (hkeyed : w.tileSets.Keyed) {now : ℕ} {w₁ w' : ProcessingWorld}
    (hunchanged : TilesUnchanged w w₁)
    (hturns : Turns (CandidateTurn config) (comesTo config w.tileSets now) w₁ w')
    {row : TileSetRow} (hrow : row ∈ w.tileSets) (hundeleted : row.retentionDeletedAt = none) :
    w'.Marked row.id ↔ (∃ candidate ∈ comesTo config w.tileSets now, candidate.tileSetId = row.id) ∧
      ¬ TooMany config row.id w := by
  have hthinned : Thinned config w w₁ := (Thinned.refl hkeyed).of_unchanged hunchanged
  have hleft := turnsLeft_comesTo hthinned now
  rw [hunchanged.rows] at hleft
  constructor
  · rintro ⟨marked, hmarked, hid, hdeleted⟩
    by_contra hnot
    have hstays : row ∈ w'.tileSets := by
      apply hleft.mem_tileSets hturns (hunchanged.rows ▸ hrow)
      intro candidate hmem hcandidate
      by_contra hfew
      exact hnot ⟨⟨candidate, hmem, hcandidate⟩, hcandidate ▸ hfew⟩
    rw [(hleft.end hturns).keyed.eq_of_id hmarked hstays hid] at hdeleted
    exact hdeleted hundeleted
  · rintro ⟨⟨candidate, hmem, hcandidate⟩, hfew⟩
    rw [← hcandidate] at hfew ⊢
    exact (hleft.retentionDeleted hturns hmem hfew).2

theorem previews_of_ends (hkeyed : w.tileSets.Keyed)
    (rawCandidates : List RawBlobRetentionCandidate) (now : ℕ)
    {dry execute : ProcessingWorld × Except RetentionError Unit} (hunchanged : DryChange w dry.1)
    (hdry : dry.2 = checkAll (selectedTileSets config w.tileSets now) ∧
      Selects (targets rawCandidates (selectedTileSets config w.tileSets now)) w dry.1)
    (hexecute : execute.2 = checkAll (selectedTileSets config w.tileSets now) ∧
      Selects (targets rawCandidates (selectedTileSets config w.tileSets now)) w execute.1 ∧
      (∀ path, path ∈ execute.1.rawBlobs ↔
        path ∈ w.rawBlobs ∧ ∀ candidate ∈ rawCandidates, path ≠ candidate.blobPath) ∧
      ∃ w₁, TilesUnchanged w w₁ ∧
        Turns (CandidateTurn config) (comesTo config w.tileSets now) w₁ execute.1) :
    Previews config w dry execute := by
  obtain ⟨hresult, hselects⟩ := hdry
  obtain ⟨hresult', hselects', hraw, w₁, hw₁, hturns⟩ := hexecute
  have hannounced := hselects.announced_eq
  refine ⟨hunchanged, hresult'.trans hresult.symm, hselects'.announced_eq.trans hannounced.symm,
    fun path => ?_, fun path blob => ?_, fun row hrow hundeleted => ?_⟩
  · rw [hannounced, mem_targets_rawBlob, hraw]
    simp
  · have hleft : TurnsLeft config w (comesTo config w.tileSets now) w :=
      turnsLeft_comesTo (Thinned.refl hkeyed) now
    rw [mem_processedBlobs_of_turns hturns hleft.checked hleft.apart, hw₁.blobs, hannounced]
    apply and_congr_right
    intro _
    apply not_congr
    simp only [mem_targets_tileSet, TooMany, hw₁.blobs]
    constructor
    · rintro ⟨candidate, hmem, hof⟩
      exact ⟨candidate.tileSetId, ⟨candidate, hmem, rfl⟩, hof⟩
    · rintro ⟨_, ⟨candidate, hmem, rfl⟩, hof⟩
      exact ⟨candidate, hmem, hof⟩
  · rw [hannounced, mem_targets_tileSet]
    exact marked_iff_of_turns hkeyed hw₁ hturns hrow hundeleted

/-- Cut off anywhere and whatever fails, a dry run appends records of its own selections and changes
nothing else. Where nothing fails, it announces exactly what a run in execute mode deletes that
starts from the same world and selects at the same times. -/
theorem dryRun_previews (config : ProcessingConfig) (runId runId' : Uuid) (w : ProcessingWorld)
    (hkeyed : w.tileSets.Keyed) :
    (∀ choices n, DryChange w
      (worldAfter answer n (runRetentionCleanup config ⟨runId, false⟩) choices w)) ∧
    ∀ dryChoices choices : ℕ → Env, (∀ i, (dryChoices i).outcome = .ok) →
      (∀ i, (choices i).outcome = .ok) → (∀ i < 4, (dryChoices i).now = (choices i).now) →
      Previews config w
        (exec answer (runRetentionCleanup config ⟨runId, false⟩) dryChoices w)
        (exec answer (runRetentionCleanup config ⟨runId', true⟩) choices w) := by
  have hdry := dryRun_alone config runId w
  refine ⟨fun choices n => hdry.worldAfter n fun _ => trivial,
    fun dryChoices choices hdryOk hok htimes => ?_⟩
  have hunchanged : DryChange w
      (exec answer (runRetentionCleanup config ⟨runId, false⟩) dryChoices w).1 :=
    (hdry.exec fun _ => trivial).1
  have hno : NoFailure fun e => e.outcome = .ok := fun _ he => he
  have hdeletable : ∀ candidate ∈ selectedTileSets config w.tileSets (choices 3).now,
      ∃ row ∈ w.tileSets, TileSetTable.RetentionDeletable candidate.tileSetId row := by
    intro candidate hmem
    obtain ⟨row, hrow, hid, hundeleted, hnot, -⟩ := TileSetTable.mem_candidates hmem
    exact ⟨row, hrow, hid, hnot, hundeleted⟩
  rw [exec_runRetentionCleanup config _ w hdryOk, htimes 2 (by decide), htimes 3 (by decide)]
    at hunchanged ⊢
  rw [exec_runRetentionCleanup config _ w hok]
  have hdryRun := cleanSelected_dry config runId hno (selectedRawBlobs config w (choices 2).now)
    (selectedTileSets config w.tileSets (choices 3).now) w
  have hrun := cleanSelected_execute config runId' hno (selectedRawBlobs config w (choices 2).now)
    (selectedTileSets config w.tileSets (choices 3).now) hdeletable (candidates_pairwise hkeyed)
  apply previews_of_ends hkeyed (selectedRawBlobs config w (choices 2).now) (choices 3).now hunchanged
  · exact (hdryRun.exec fun i => hdryOk (i + 4)).2
  · exact (hrun.exec fun i => hok (i + 4)).2

end Preview

/-- Every call of a run succeeds, a hundred days later. -/
def fineChoices (_ : ℕ) : Env := sampleEnv .ok (100 * microsecondsPerDay) 0

/-- Of two stale tile sets, the one over the limit is announced and stays. -/
theorem dryRun_previews_oversized :
    (∀ choices n, DryChange oversizedFirst (worldAfter answer n
      (runRetentionCleanup narrowConfig ⟨0, false⟩) choices oversizedFirst)) ∧
    Previews narrowConfig oversizedFirst
      (exec answer (runRetentionCleanup narrowConfig ⟨0, false⟩) fineChoices oversizedFirst)
      (exec answer (runRetentionCleanup narrowConfig ⟨1, true⟩) fineChoices oversizedFirst) := by
  obtain ⟨hharmless, hpreviews⟩ :=
    dryRun_previews narrowConfig 0 1 oversizedFirst keyed_oversizedFirst
  exact ⟨hharmless, hpreviews fineChoices fineChoices (fun _ => rfl) (fun _ => rfl) fun _ _ => rfl⟩

end LumenHorizon.Processing
