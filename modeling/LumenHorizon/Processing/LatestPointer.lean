import LumenHorizon.Processing.Publishers

/-! # The pointer and what it names

The flag in the table and the pointer blob are moved by two calls, and a cleanup goes by the flag.
While cleanups take nothing that the pointer names or that a publisher is about to make it name,
the pointer names a manifest that is there, of a row that is not deleted.
-/

namespace LumenHorizon.Processing
open Foundation Shared Program

/-- The manifest exists, and the row is there and not marked as deleted. -/
structure ProcessingWorld.Retained (w : ProcessingWorld) (tileSetId : String) : Prop where
  manifest : ∃ path, manifestBlobPath tileSetId = .ok path ∧ w.processedBlobs.Exists path
  row : ∃ row ∈ w.tileSets, row.id = tileSetId ∧ row.retentionDeletedAt = none

/-- `manifests/latest.json`, if it exists, names a retained immutable manifest. -/
def ProcessingWorld.PointerRetained (w : ProcessingWorld) : Prop :=
  ∀ blob, (latestManifestBlobPath, blob) ∈ w.processedBlobs →
    ∃ pointer, blob = .latestPointer pointer ∧
      pointer.manifestBlobPath ≠ latestManifestBlobPath ∧
      manifestBlobPath pointer.tileSetId = .ok pointer.manifestBlobPath ∧
      w.Retained pointer.tileSetId

/-- The pointer names the tile set. -/
def ProcessingWorld.Names (w : ProcessingWorld) (tileSetId : String) : Prop :=
  ∃ pointer, (latestManifestBlobPath, .latestPointer pointer) ∈ w.processedBlobs ∧
    pointer.tileSetId = tileSetId

/-- The calls between the upload of a manifest and that of the pointer to it. -/
def Publishes (tileSetId : String) : ProcessingCall → Prop
  | .insertTileSet manifest => manifest.tileSetId = tileSetId
  | .promoteLatestTileSet id => id = tileSetId
  | .uploadProcessedBlob _ (.latestPointer pointer) => pointer.tileSetId = tileSetId
  | _ => False

/-- The calls of a cleanup that take away the manifest or the row. -/
def Removes (tileSetId : String) : ProcessingCall → Prop
  | .deleteProcessedBlob path => manifestBlobPath tileSetId = .ok path
  | .markTileSetRetentionDeleted id _ => id = tileSetId
  | _ => False

def ProcessingWorld.Linked (w : ProcessingWorld) : ProcessingCall → Prop
  | .insertTileSet manifest =>
    ∃ path, manifestBlobPath manifest.tileSetId = .ok path ∧ w.processedBlobs.Exists path
  | .promoteLatestTileSet tileSetId => w.Retained tileSetId
  | .uploadProcessedBlob _ (.latestPointer pointer) => w.Retained pointer.tileSetId
  | _ => True

/-! ## What a call keeps -/

/-- A row that is not deleted stays so, unless it is marked. -/
theorem TileSetTable.retained_execute {rows : TileSetTable} {statement : Statement}
    {tileSetId : String} (h : ∃ row ∈ rows, row.id = tileSetId ∧ row.retentionDeletedAt = none)
    (hmark : ∀ reason now, statement ≠ .markTileSetRetentionDeleted tileSetId reason now) :
    ∃ row ∈ (rows.execute statement).1, row.id = tileSetId ∧ row.retentionDeletedAt = none := by
  obtain ⟨row, hrow, hid, hretained⟩ := h
  cases statement with
  | insertTileSet manifest now =>
    rcases insertTileSet_cases rows manifest now with ⟨_, heq⟩ | ⟨path, -, -, heq⟩
    · exact ⟨row, by rw [execute, heq]; exact hrow, hid, hretained⟩
    · exact ⟨row, by rw [execute, heq]; exact List.mem_append_left _ hrow, hid, hretained⟩
  | promoteLatestTileSet id =>
    rcases promoteLatestTileSet_cases rows id with ⟨heq, -⟩ | ⟨heq, -⟩
    · exact ⟨row, by rw [execute, heq]; exact hrow, hid, hretained⟩
    · exact ⟨promoted id row, by rw [execute, heq]; exact List.mem_map_of_mem hrow, hid, hretained⟩
  | markTileSetRetentionDeleted id reason now =>
    rcases markTileSetRetentionDeleted_cases rows id reason now with ⟨heq, -⟩ | ⟨heq, -⟩
    · exact ⟨row, by rw [execute, heq]; exact hrow, hid, hretained⟩
    · have hother : ¬ RetentionDeletable id row := fun hdeletable =>
        hmark reason now (by rw [← hid, ← hdeletable.1])
      refine ⟨row, ?_, hid, hretained⟩
      rw [execute, heq]
      have hkeep : retentionDeleted id reason now row = row := if_neg hother
      rw [← hkeep]
      exact List.mem_map_of_mem hrow

variable {w : ProcessingWorld} {c c' : ProcessingCall} {e : Env} {tileSetId : String}

theorem ProcessingWorld.Retained.after (h : w.Retained tileSetId)
    (hkeeps : e.outcome ≠ .failed → ¬ Removes tileSetId c) :
    (answer c e w).1.Retained tileSetId where
  manifest := by
    obtain ⟨path, hpath, hexists⟩ := h.manifest
    refine ⟨path, hpath, answer_exists hexists fun hdelete => ?_⟩
    by_contra ho
    exact hkeeps ho (hdelete ▸ hpath)
  row := by
    rcases answer_tileSets c e w with hrows | ⟨ho, statement, hstatement, hrows⟩
    · rw [hrows]
      exact h.row
    · rw [hrows]
      apply TileSetTable.retained_execute h.row
      rintro reason now rfl
      cases c with
      | markTileSetRetentionDeleted id reason' =>
        cases hstatement
        exact hkeeps ho rfl
      | _ => cases hstatement

theorem ProcessingWorld.Linked.after (h : w.Linked c')
    (hkeeps : e.outcome ≠ .failed → ∀ tileSetId, Removes tileSetId c → ¬ Publishes tileSetId c') :
    (answer c e w).1.Linked c' := by
  cases c' with
  | insertTileSet manifest =>
    obtain ⟨path, hpath, hexists⟩ := h
    refine ⟨path, hpath, answer_exists hexists fun hdelete => ?_⟩
    by_contra ho
    exact hkeeps ho manifest.tileSetId (hdelete ▸ hpath) rfl
  | promoteLatestTileSet id =>
    exact Retained.after h fun ho hremoves => hkeeps ho id hremoves rfl
  | uploadProcessedBlob path blob =>
    cases blob with
    | latestPointer pointer =>
      exact Retained.after h fun ho hremoves => hkeeps ho pointer.tileSetId hremoves rfl
    | tile | manifest => trivial
  | _ => trivial

theorem eq_of_last {t : History} {reply : c.Reply} {reply' : c'.Reply}
    (h : Last (⟨c, reply⟩ :: t) c' reply') :
    (⟨c, reply⟩ : Σ c : ProcessingCall, c.Reply) = ⟨c', reply'⟩ := by
  obtain ⟨t', heq⟩ := h
  exact (List.cons.inj heq).1

/-- A publisher's next call has what it relies on, once the call before it is answered. -/
theorem linked_next {publisher : Publisher} {t : History} (hlinked : w.Linked c)
    (hrule : PublisherRule publisher (⟨c, (answer c e w).2⟩ :: t) c') :
    (answer c e w).1.Linked c' := by
  generalize hreply : (answer c e w).2 = reply at hrule
  cases c' with
  | insertTileSet manifest =>
    obtain ⟨hmanifest, path, hpath, hlast⟩ := hrule
    cases eq_of_last hlast
    rw [← Publisher.manifest_tileSetId hmanifest] at hpath
    exact ⟨path, hpath, exists_of_uploaded hreply⟩
  | promoteLatestTileSet id =>
    obtain ⟨rfl, manifest, hmanifest, hlast⟩ := hrule
    cases eq_of_last hlast
    have hid : manifest.tileSetId = publisher.tileSetId := Publisher.manifest_tileSetId hmanifest
    obtain ⟨path, hpath, hexists⟩ := hlinked
    refine ⟨⟨path, hid ▸ hpath, answer_exists hexists nofun⟩, ?_⟩
    rw [← hid]
    exact mem_of_inserted hreply
  | uploadProcessedBlob path blob =>
    cases blob with
    | latestPointer pointer =>
      obtain ⟨-, hid, -, hlast⟩ := hrule
      cases eq_of_last hlast
      rw [← hid] at hlinked
      exact ProcessingWorld.Retained.after (c := .promoteLatestTileSet publisher.tileSetId) hlinked
        fun _ hremoves => hremoves
    | tile | manifest => trivial
  | _ => trivial

theorem linked_of_not_onPublished (h : ¬ OnPublished c) : w.Linked c := by
  cases c with
  | insertTileSet | promoteLatestTileSet | uploadProcessedBlob => exact absurd trivial h
  | _ => trivial

theorem linked_of_cleanupRule {config : ProcessingConfig} {cleanup : Cleanup} {t : History}
    (h : CleanupRule config cleanup t c) : w.Linked c := by
  cases c with
  | insertTileSet | promoteLatestTileSet | uploadProcessedBlob => exact h.elim
  | _ => trivial

/-! ## Runs -/

namespace ProcessingPool

variable {pool pool' : ProcessingPool} {event : ProcessingEvent}

/-- The pointer does not name the tile set, and no publisher is about to make it. -/
def Unreferenced (pool : ProcessingPool) (tileSetId : String) : Prop :=
  ¬ pool.world.Names tileSetId ∧ ∀ c, pool.Pending c → ¬ Publishes tileSetId c

def RemovesUnreferenced (pool : ProcessingPool) (event : ProcessingEvent) : Prop :=
  ∀ i e c, event = .act i e → pool.nextCall i = some c → e.outcome ≠ .failed →
    ∀ tileSetId, Removes tileSetId c → pool.Unreferenced tileSetId

structure PointerInvariant (pool : ProcessingPool) : Prop where
  vouched : ∀ p ∈ pool.procs, p.next? ≠ none →
    Pool.Vouched (PublishingOrCleaning Set.univ) (fun _ _ c reply => Possible c reply) pool.world p
  linked : ∀ c, pool.Pending c → pool.world.Linked c
  retained : pool.world.PointerRetained

theorem linked_start {p : ProcessingProgram Unit} (h : PublishingOrCleaning Set.univ p)
    {c : ProcessingCall} (hc : p.next? = some c) (w : ProcessingWorld) : w.Linked c := by
  cases p with
  | done a => cases hc
  | call c' next =>
    cases hc
    rcases h.rule .start (fun _ hentry => absurd hentry List.not_mem_nil) with
      ⟨publisher, -, hrule⟩ | h | ⟨_, _, h⟩
    · cases c with
      | insertTileSet manifest =>
        obtain ⟨-, _, -, _, hlast⟩ := hrule
        cases hlast
      | promoteLatestTileSet id =>
        obtain ⟨-, _, -, _, hlast⟩ := hrule
        cases hlast
      | uploadProcessedBlob path blob =>
        cases blob with
        | latestPointer pointer =>
          obtain ⟨-, -, -, _, hlast⟩ := hrule
          cases hlast
        | tile | manifest => trivial
      | _ => trivial
    · exact linked_of_not_onPublished h
    · exact linked_of_cleanupRule h

theorem pointerInvariant_empty : empty.PointerInvariant where
  vouched := nofun
  linked := fun c hc =>
    absurd hc (Pool.not_pending_of_quiescent (fun _ h => absurd h List.not_mem_nil) c)
  retained := nofun

theorem PointerInvariant.step (h : pool.PointerInvariant)
    (hstarts : StartsOnly (PublishingOrCleaning Set.univ) event)
    (hremoves : pool.RemovesUnreferenced event) (hstep : pool.step event = some pool') :
    pool'.PointerInvariant where
  vouched := Pool.vouched_step hstep hstarts
    (fun _ _ c _ e _ _ _ => ⟨possible_answer c e _, fun _ _ _ h => h⟩) h.vouched
  linked := by
    intro c' hc'
    rcases Pool.pending_step hstep hc' with hold | ⟨p, rfl, hp⟩ |
      ⟨i, e, c, next, rfl, hi, hworld, next', hnext⟩
    · rcases Pool.step_cases hstep with
        ⟨p, rfl, rfl⟩ | ⟨i, e, c, next, rfl, hi, rfl⟩ | ⟨i, c, next, rfl, hi, rfl⟩
      · exact h.linked c' hold
      · refine (h.linked c' hold).after fun ho id hid => ?_
        have hc : pool.nextCall i = some c := Pool.nextCall_eq_some_iff.mpr ⟨next, hi⟩
        exact (hremoves i e c rfl hc ho id hid).2 c' hold
      · exact h.linked c' hold
    · exact linked_start (hstarts p rfl) hp _
    · obtain ⟨p₀, t, hp₀, hfollows, ht⟩ := h.vouched _ (List.mem_of_getElem? hi) nofun
      have hc : pool.Pending c := ⟨i, Pool.nextCall_eq_some_iff.mpr ⟨next, hi⟩⟩
      have hfollows' := hfollows.next (answer c e pool.world).2
      rw [hnext] at hfollows'
      rw [hworld]
      rcases hp₀.rule hfollows' (possible_cons ht e) with
        ⟨publisher, -, hrule⟩ | hrule | ⟨_, _, hrule⟩
      · exact linked_next (h.linked c hc) hrule
      · exact linked_of_not_onPublished hrule
      · exact linked_of_cleanupRule hrule
  retained := by
    rcases Pool.step_cases hstep with
      ⟨p, rfl, rfl⟩ | ⟨i, e, c, next, rfl, hi, rfl⟩ | ⟨i, c, next, rfl, hi, rfl⟩
    · exact h.retained
    · have hc : pool.nextCall i = some c := Pool.nextCall_eq_some_iff.mpr ⟨next, hi⟩
      intro blob hblob
      rcases mem_answer_processedBlobs hblob with hold | rfl
      · obtain ⟨pointer, rfl, hne, hpath, hretained⟩ := h.retained blob hold
        refine ⟨pointer, rfl, hne, hpath, hretained.after fun ho hid => ?_⟩
        exact (hremoves i e c rfl hc ho _ hid).1 ⟨pointer, hold, rfl⟩
      · obtain ⟨p₀, t, hp₀, hfollows, ht⟩ := h.vouched _ (List.mem_of_getElem? hi) nofun
        rcases hp₀.rule hfollows (possible_of_witnessed ht) with
          ⟨publisher, -, hrule⟩ | hrule | ⟨_, _, hrule⟩
        · obtain ⟨pointer, rfl, hne, hpath⟩ := pointer_of_rule hrule
          have hretained : pool.world.Retained pointer.tileSetId := h.linked _ ⟨i, hc⟩
          exact ⟨pointer, rfl, hne, hpath, hretained.after fun _ hremoved => hremoved⟩
        · exact absurd trivial hrule
        · exact hrule.elim
    · exact h.retained

/-- While every removal that takes effect is of an unreferenced tile set, the pointer names a
retained manifest. -/
theorem pointerRetained_of_run (pool : ProcessingPool)
    (hrun : Reaches step (fun pool event => StartsOnly (PublishingOrCleaning Set.univ) event ∧
      pool.RemovesUnreferenced event) empty pool) : pool.world.PointerRetained :=
  (hrun.invariant pointerInvariant_empty
    fun _ _ _ h hguard hstep => h.step hguard.1 hguard.2 hstep).retained

/-! ## Publishers and a cleanup beside them -/

def pointers (w : ProcessingWorld) : List LatestManifestPointer :=
  w.processedBlobs.filterMap fun entry =>
    match entry.2 with
    | .latestPointer pointer => if entry.1 = latestManifestBlobPath then some pointer else none
    | _ => none

theorem mem_of_mem_pointers {w : ProcessingWorld} {pointer : LatestManifestPointer}
    (h : pointer ∈ pointers w) : (latestManifestBlobPath, .latestPointer pointer) ∈ w.processedBlobs := by
  obtain ⟨⟨path, blob⟩, hentry, hblob⟩ := List.mem_filterMap.mp h
  cases blob with
  | latestPointer pointer' =>
    dsimp only at hblob
    split at hblob
    · next hpath =>
      cases hblob
      rw [← hpath]
      exact hentry
    · cases hblob
  | tile | manifest => cases hblob

theorem mem_pointers {w : ProcessingWorld} {pointer : LatestManifestPointer}
    (h : (latestManifestBlobPath, .latestPointer pointer) ∈ w.processedBlobs) :
    pointer ∈ pointers w :=
  List.mem_filterMap.mpr ⟨_, h, if_pos rfl⟩

/-- The tile set whose publication a call goes on with. -/
def published? : ProcessingCall → Option String
  | .insertTileSet manifest => some manifest.tileSetId
  | .promoteLatestTileSet tileSetId => some tileSetId
  | .uploadProcessedBlob _ (.latestPointer pointer) => some pointer.tileSetId
  | _ => none

theorem published?_of_publishes {c : ProcessingCall} {tileSetId : String}
    (h : Publishes tileSetId c) : published? c = some tileSetId := by
  cases c with
  | insertTileSet manifest => exact congrArg some h
  | promoteLatestTileSet id => exact congrArg some h
  | uploadProcessedBlob path blob =>
    cases blob with
    | latestPointer pointer => exact congrArg some h
    | tile | manifest => exact h.elim
  | _ => exact h.elim

def removes (tileSetId : String) : ProcessingCall → Bool
  | .deleteProcessedBlob path => manifestBlobPath tileSetId = .ok path
  | .markTileSetRetentionDeleted id _ => id = tileSetId
  | _ => false

theorem removes_iff {tileSetId : String} {c : ProcessingCall} :
    removes tileSetId c = true ↔ Removes tileSetId c := by
  cases c <;> simp [removes, Removes]

/-- The tile sets that the pointer names or that a publisher is about to make it name. -/
def referenced (pool : ProcessingPool) : List String :=
  (pointers pool.world).map LatestManifestPointer.tileSetId ++
    (pool.procs.filterMap Program.next?).filterMap published?

def sparesReferenced (pool : ProcessingPool) : ProcessingEvent → Bool
  | .act i _ => (pool.nextCall i).all fun c =>
    pool.referenced.all fun tileSetId => !removes tileSetId c
  | _ => true

theorem removesUnreferenced_of_spares (h : sparesReferenced pool event = true) :
    pool.RemovesUnreferenced event := by
  rintro i e c rfl hc - tileSetId hremoves
  simp only [sparesReferenced, hc, Option.all_some, List.all_eq_true, Bool.not_eq_true'] at h
  have hnot : tileSetId ∉ pool.referenced := by
    intro hmem
    rw [← removes_iff, h tileSetId hmem] at hremoves
    cases hremoves
  refine ⟨?_, ?_⟩
  · rintro ⟨pointer, hpointer, rfl⟩
    exact hnot (List.mem_append_left _ (List.mem_map_of_mem (mem_pointers hpointer)))
  · rintro c' ⟨j, hj⟩ hpublishes
    obtain ⟨q, hq, hnext⟩ := Option.bind_eq_some_iff.mp hj
    have hcall : c' ∈ pool.procs.filterMap Program.next? :=
      List.mem_filterMap.mpr ⟨q, List.mem_of_getElem? hq, hnext⟩
    exact hnot (List.mem_append_right _
      (List.mem_filterMap.mpr ⟨c', hcall, published?_of_publishes hpublishes⟩))

def cleanupEvents (calls : ℕ) : List ProcessingEvent :=
  runThrough (runRetentionCleanup sampleConfig sampleCleanup >>= fun _ => pure ()) 2 calls
    (sampleEnv .ok (100 * microsecondsPerDay) 0)

theorem cleanupEvents_start (calls : ℕ) : ∀ event ∈ cleanupEvents calls,
    StartsOnly (PublishingOrCleaning Set.univ) event :=
  startsOnly_runThrough (.inr ⟨_, _, rfl⟩) _ _ _

/-- An attempt on the sample message, with its first calls. -/
def attemptEvents (attempt i acts : ℕ) : List ProcessingEvent :=
  runThrough (samplePublisher attempt []).program i acts (sampleEnv .ok i 0)

theorem attemptEvents_start (attempt i acts : ℕ) : ∀ event ∈ attemptEvents attempt i acts,
    StartsOnly (PublishingOrCleaning Set.univ) event :=
  startsOnly_runThrough (.inl (.inl ⟨_, Set.mem_univ _, rfl⟩)) _ _ _

/-- Two attempts publish and move the pointer one after the other. -/
def publishedEvents : List ProcessingEvent :=
  attemptEvents 1 0 5 ++ attemptEvents 2 1 5

/-- The pointer is there, and a row is marked whose manifest is gone. -/
def Superseded (w : ProcessingWorld) : Prop :=
  w.processedBlobs.Exists latestManifestBlobPath ∧ ∃ row ∈ w.tileSets,
    row.retentionDeletedAt ≠ none ∧ ¬ w.processedBlobs.Exists row.manifestBlobPath

instance (w : ProcessingWorld) : Decidable (Superseded w) := inferInstanceAs (Decidable (_ ∧ _))

/-- A cleanup takes the tile set that the pointer has left. -/
theorem pointerRetained_superseded : ∃ pool : ProcessingPool,
    pool.world.PointerRetained ∧ Superseded pool.world := by
  have hrun : ∃ pool, Reaches step (fun pool event =>
      StartsOnly (PublishingOrCleaning Set.univ) event ∧ pool.RemovesUnreferenced event) empty pool ∧
      decide (Superseded pool.world) = true := by
    apply exists_reaches_of_checkedSteps sparesReferenced (publishedEvents ++ cleanupEvents 10)
    · have hstarts : ∀ event ∈ publishedEvents ++ cleanupEvents 10,
          StartsOnly (PublishingOrCleaning Set.univ) event := by
        rw [publishedEvents, List.forall_mem_append, List.forall_mem_append]
        exact ⟨⟨attemptEvents_start 1 0 5, attemptEvents_start 2 1 5⟩, cleanupEvents_start 10⟩
      exact fun pool event hevent hcheck =>
        ⟨hstarts event hevent, removesUnreferenced_of_spares hcheck⟩
    · decide +kernel
  obtain ⟨pool, hreaches, htest⟩ := hrun
  exact ⟨pool, pointerRetained_of_run pool hreaches, of_decide_eq_true htest⟩

/-! ## A pointer that stays behind -/

/-- A pointer names a manifest that does not exist. -/
def Dangling (w : ProcessingWorld) : Prop :=
  ∃ pointer ∈ pointers w, ¬ w.processedBlobs.Exists pointer.manifestBlobPath

instance (w : ProcessingWorld) : Decidable (Dangling w) :=
  inferInstanceAs (Decidable (∃ pointer ∈ pointers w,
    ¬ w.processedBlobs.Exists pointer.manifestBlobPath))

theorem not_pointerRetained_of_dangling {w : ProcessingWorld} (h : Dangling w) :
    ¬ w.PointerRetained := by
  obtain ⟨pointer, hpointer, hmissing⟩ := h
  intro hretained
  obtain ⟨pointer', heq, -, hpath, hretained⟩ := hretained _ (mem_of_mem_pointers hpointer)
  cases heq
  obtain ⟨path, hpath', hexists⟩ := hretained.manifest
  cases hpath.symm.trans hpath'
  exact hmissing hexists

def danglingEvents : List ProcessingEvent :=
  attemptEvents 1 0 5 ++ (attemptEvents 2 1 3 ++ [PoolEvent.act 1 (sampleEnv .failed 1 0)])

/-- The cleanup takes the first tile set, which is no longer the latest. -/
theorem not_pointerRetained :
    ¬ ∀ pool, Reaches step (fun _ event => StartsOnly (PublishingOrCleaning Set.univ) event)
      empty pool → pool.world.PointerRetained := by
  intro h
  have hrun : ∃ pool, Reaches step (fun _ event => StartsOnly (PublishingOrCleaning Set.univ) event)
      empty pool ∧ decide (Dangling pool.world) = true := by
    apply exists_reaches_of_runSteps (danglingEvents ++ cleanupEvents 7)
    · intro _
      rw [danglingEvents, List.forall_mem_append, List.forall_mem_append, List.forall_mem_append,
        List.forall_mem_singleton]
      exact ⟨⟨attemptEvents_start 1 0 5, attemptEvents_start 2 1 3, fun p hp => nomatch hp⟩,
        cleanupEvents_start 7⟩
    · decide +kernel
  obtain ⟨pool, hreaches, htest⟩ := hrun
  exact not_pointerRetained_of_dangling (of_decide_eq_true htest) (h pool hreaches)

end ProcessingPool
end LumenHorizon.Processing
