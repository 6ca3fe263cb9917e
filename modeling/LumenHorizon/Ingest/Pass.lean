import LumenHorizon.Ingest.Discovery
import LumenHorizon.Ingest.Pipeline

/-! # An ingest pass

`run_ingest_inner`: the resume points of the selected products, discovery from them, and the
pipeline over as many granules as the limit takes.
-/

namespace LumenHorizon.Ingest
open Foundation Shared IngestProgram

/-- What a pass reads of the configuration beyond the pipeline's share. -/
structure PassConfig extends IngestConfig where
  ingestProducts : List String
  ingestMaxGranules : Option ℕ
deriving DecidableEq, Repr

inductive IngestError where
  | cmr (error : CmrError)
  | database (error : DbError)
  | earthdata (error : EarthdataError)
  | storage (error : StorageError)
  | replayNotRejected (ingestId : Uuid)
deriving DecidableEq, Repr

/-- The loop over the granules the pass took from discovery. -/
def processGranules (config : IngestConfig) :
    List GranuleCandidate → IngestSummary → IngestProgram IngestSummary
  | [], summary => pure summary
  | granule :: granules, summary => do
    let outcome ← processGranule config granule
    processGranules config granules (summary.recordAttempt outcome)

/-- The pass after discovery: the clients, and the loop. -/
def ingestGranules (config : IngestConfig) (granules : List GranuleCandidate)
    (summary : IngestSummary) : IngestProgram (Except IngestError IngestSummary) := do
  match ← newEarthdataClient with
  | .error error => pure (.error (.earthdata error))
  | .ok () =>
    match ← newStorageClient with
    | .error error => pure (.error (.storage error))
    | .ok () =>
      match ← newQueueClient with
      | .error error => pure (.error (.storage error))
      | .ok () =>
        let summary ← processGranules config granules summary
        pure (.ok summary)

/-- A search request: product, resume point and page number. -/
abbrev CmrRequest := String → Option DateTime → ℕ → Except CmrError (List CmrEntry)

/-- `discover` over the selected products, the first failing request ending it. -/
def discover (cmr : Cmr) (request : CmrRequest) (resumePoint : String → Option DateTime) :
    List String → Option (Except CmrError (List ProductDiscovery))
  | [] => some (.ok [])
  | product :: products =>
    match discoverProduct cmr.parseTime (request product (resumePoint product))
        (cmr.pageBudget product) product with
    | none => none
    | some (.error error) => some (.error error)
    | some (.ok discovery) =>
      match discover cmr request resumePoint products with
      | none => none
      | some (.error error) => some (.error error)
      | some (.ok discoveries) => some (.ok (discovery :: discoveries))

/-- The granules a pass goes through: all products' in order, cut by one limit. -/
def PassConfig.take (config : PassConfig) (discovery : List ProductDiscovery) :
    List GranuleCandidate :=
  let granules := discovery.flatMap ProductDiscovery.granules
  match config.ingestMaxGranules with
  | some limit => granules.take limit
  | none => granules

def totalGranules (discovery : List ProductDiscovery) : ℕ :=
  (discovery.map fun product => product.granules.length).sum

/-- `run_ingest_inner` from the tables its resume points are read in. -/
def runIngestInner (config : PassConfig) (cmr : Cmr) (request : CmrRequest) (t : Tables) :
    IngestProgram (Except IngestError IngestSummary) :=
  match discover cmr request t.resumePoint config.ingestProducts with
  | none => pure (.error (.cmr (.request "")))
  | some (.error error) => pure (.error (.cmr error))
  | some (.ok discovery) =>
    ingestGranules config.toIngestConfig (config.take discovery)
      (IngestSummary.new (totalGranules discovery))

theorem discover_ne_none {cmr : Cmr} {request : CmrRequest} (hserves : cmr.Serves request)
    (resumePoint : String → Option DateTime) (products : List String) :
    discover cmr request resumePoint products ≠ none := by
  induction products with
  | nil => simp [discover]
  | cons product products ih =>
    have hproduct := Cmr.discoverProduct_ne_none hserves product (resumePoint product)
    unfold discover
    split
    · next h => exact absurd h hproduct
    · simp
    · split
      · next h => exact absurd h ih
      · simp
      · simp

theorem mem_discover {cmr : Cmr} {request : CmrRequest} (hserves : cmr.Serves request)
    {resumePoint : String → Option DateTime} {products : List String}
    {discovery : List ProductDiscovery}
    (h : discover cmr request resumePoint products = some (.ok discovery)) {product : String}
    (hproduct : product ∈ products) {granule : GranuleCandidate}
    (hgranule : granule ∈ cmr.granules product)
    (hwindow : (resumePoint product).getD defaultTemporalStart ≤ granule.granuleDate) :
    granule ∈ discovery.flatMap ProductDiscovery.granules := by
  induction products generalizing discovery with
  | nil => cases hproduct
  | cons first products ih =>
    unfold discover at h
    split at h
    · cases h
    · cases h
    · next found hfound =>
      split at h
      · cases h
      · cases h
      · next rest hrest =>
        obtain rfl := Except.ok.inj (Option.some.inj h)
        rw [List.flatMap_cons, List.mem_append]
        rcases List.mem_cons.mp hproduct with rfl | hlater
        · exact .inl ((Cmr.mem_discoverProduct_iff hserves hfound).mpr ⟨hgranule, hwindow⟩)
        · exact .inr (ih hrest hlater)

end LumenHorizon.Ingest
