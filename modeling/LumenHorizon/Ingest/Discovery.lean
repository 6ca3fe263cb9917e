import LumenHorizon.Ingest.Failures

/-! # CMR discovery

The walk over the pages of a CMR search, and the granules its entries describe. The search
itself is outside: it answers from a catalogue that stays fixed, or with an error.
-/

namespace LumenHorizon.Ingest
open Shared

def cmrDataLinkRel : String := "http://esipfed.org/ns/fedsearch/1.1/data#"

/-- `2024-01-01T00:00:00Z`. -/
def defaultTemporalStart : DateTime := { year := 2024, month := 1, day := 1, nanoOfDay := 0 }

def pageSize : ℕ := 200

structure CmrLink where
  href : String
  rel : Option String
deriving DecidableEq, Repr

structure CmrEntry where
  title : String
  producerGranuleId : Option String
  timeStart : String
  links : List CmrLink
deriving DecidableEq, Repr

def CmrEntry.dataHref (entry : CmrEntry) : Option String :=
  (entry.links.find? fun link =>
    link.rel = some cmrDataLinkRel ∧ ".h5".toList.isSuffixOf link.href.toLower.toList).map
      CmrLink.href

inductive CmrError where
  | buildClient (error : String)
  | decode (error : String)
  | request (error : String)
  | status (product : String) (status : StatusCode)
  | url (error : String)
deriving DecidableEq, Repr

structure ProductDiscovery where
  product : String
  granules : List GranuleCandidate
  skippedEntries : ℕ
  pagesFetched : ℕ
deriving DecidableEq, Repr

def emptyProductDiscovery (product : String) : ProductDiscovery :=
  { product := product, granules := [], skippedEntries := 0, pagesFetched := 0 }

section Parse

variable (parseTime : String → Option DateTime)

/-- The candidate an entry describes; `parseTime` is the RFC 3339 parser. -/
def parseEntry (product : String) (entry : CmrEntry) : Option GranuleCandidate := do
  let dataHref ← entry.dataHref
  let producerGranuleId := entry.producerGranuleId.getD entry.title
  let tile ← (TileCoordinate.parseFrom producerGranuleId.toList).or
    ((TileCoordinate.parseFrom entry.title.toList).or
      (TileCoordinate.parseFrom dataHref.toList))
  let granuleDate ← parseTime entry.timeStart
  pure {
    product := product
    title := entry.title
    producerGranuleId := producerGranuleId
    dataHref := dataHref
    granuleDate := granuleDate
    tile := tile }

def parseProductResponse (product : String) (entries : List CmrEntry) : ProductDiscovery where
  product := product
  granules := entries.filterMap (parseEntry parseTime product)
  skippedEntries := (entries.filter fun entry => (parseEntry parseTime product entry).isNone).length
  pagesFetched := 1

/-- The aggregate with one more page, and the number of entries on that page. -/
def appendPageDiscovery (aggregate : ProductDiscovery) (entries : List CmrEntry) (pageNum : ℕ) :
    ProductDiscovery × ℕ :=
  let pageDiscovery := parseProductResponse parseTime aggregate.product entries
  ({ aggregate with
      granules := aggregate.granules ++ pageDiscovery.granules
      skippedEntries := aggregate.skippedEntries + pageDiscovery.skippedEntries
      pagesFetched := pageNum },
    entries.length)

def shouldFetchNextPage (pageEntries : ℕ) : Bool := pageSize ≤ pageEntries

/-- The loop of `discover_product` from one page on, over requests with effects in `m`. The fuel
bounds the pages. -/
def discoverPagesIn {m : Type → Type} [Monad m]
    (request : ℕ → m (Except CmrError (List CmrEntry))) :
    ℕ → ℕ → ProductDiscovery → m (Option (Except CmrError ProductDiscovery))
  | 0, _, _ => pure none
  | fuel + 1, pageNum, discovery => do
    match ← request pageNum with
    | .error error => pure (some (.error error))
    | .ok entries =>
      let (discovery, pageEntries) := appendPageDiscovery parseTime discovery entries pageNum
      if shouldFetchNextPage pageEntries then
        discoverPagesIn request fuel (pageNum + 1) discovery
      else pure (some (.ok discovery))

def discoverProductIn {m : Type → Type} [Monad m]
    (request : ℕ → m (Except CmrError (List CmrEntry))) (fuel : ℕ) (product : String) :
    m (Option (Except CmrError ProductDiscovery)) :=
  discoverPagesIn parseTime request fuel 1 (emptyProductDiscovery product)

section Answers

variable (request : ℕ → Except CmrError (List CmrEntry)) (fuel pageNum : ℕ)
  (discovery : ProductDiscovery)

/-- The loop over requests of which only the answers matter. -/
def discoverPages : Option (Except CmrError ProductDiscovery) :=
  Id.run (discoverPagesIn parseTime (fun n => pure (request n)) fuel pageNum discovery)

def discoverProduct (product : String) : Option (Except CmrError ProductDiscovery) :=
  discoverPages parseTime request fuel 1 (emptyProductDiscovery product)

variable {request pageNum}

theorem discoverPages_error {error : CmrError} (h : request pageNum = .error error) :
    discoverPages parseTime request (fuel + 1) pageNum discovery = some (.error error) := by
  simp [discoverPages, discoverPagesIn, h]

theorem discoverPages_ok {entries : List CmrEntry} (h : request pageNum = .ok entries) :
    discoverPages parseTime request (fuel + 1) pageNum discovery =
      if shouldFetchNextPage entries.length then
        discoverPages parseTime request fuel (pageNum + 1)
          (appendPageDiscovery parseTime discovery entries pageNum).1
      else some (.ok (appendPageDiscovery parseTime discovery entries pageNum).1) := by
  simp only [discoverPages, discoverPagesIn, h]
  apply apply_ite

end Answers

theorem appendPageDiscovery_append (discovery : ProductDiscovery) (page rest : List CmrEntry)
    (m n : ℕ) :
    (appendPageDiscovery parseTime (appendPageDiscovery parseTime discovery page m).1 rest n).1 =
      (appendPageDiscovery parseTime discovery (page ++ rest) n).1 := by
  simp [appendPageDiscovery, parseProductResponse, Nat.add_assoc]

/-- Page `pageNum` of a result, counted from one. -/
def resultPage (entries : List CmrEntry) (pageNum : ℕ) : List CmrEntry :=
  (entries.drop (pageSize * (pageNum - 1))).take pageSize

/-- A walk over the pages of one fixed result fails with a request, or ends after finding
everything from its page on. -/
theorem discoverPages_resultPage {request : ℕ → Except CmrError (List CmrEntry)}
    {entries : List CmrEntry}
    (hrequest : ∀ n, (∃ error, request n = .error error) ∨ request n = .ok (resultPage entries n))
    {fuel pageNum : ℕ} (hpage : 1 ≤ pageNum) {rest : List CmrEntry}
    (hrest : entries.drop (pageSize * (pageNum - 1)) = rest) (hfuel : rest.length / pageSize < fuel)
    (discovery : ProductDiscovery) :
    (∃ error, discoverPages parseTime request fuel pageNum discovery = some (.error error)) ∨
      discoverPages parseTime request fuel pageNum discovery = some (.ok
        (appendPageDiscovery parseTime discovery rest (pageNum + rest.length / pageSize)).1) := by
  induction fuel generalizing pageNum rest discovery with
  | zero => exact absurd hfuel (Nat.not_lt_zero _)
  | succ fuel ih =>
    rcases hrequest pageNum with ⟨error, herror⟩ | hok
    · exact .inl ⟨error, discoverPages_error parseTime fuel discovery herror⟩
    rw [resultPage, hrest] at hok
    by_cases hfull : pageSize ≤ rest.length
    · have hlength : (rest.take pageSize).length = pageSize := by simp [hfull]
      have hnext : entries.drop (pageSize * (pageNum + 1 - 1)) = rest.drop pageSize := by
        rw [← hrest, List.drop_drop]
        congr 1
        obtain ⟨k, rfl⟩ : ∃ k, pageNum = k + 1 := ⟨pageNum - 1, by omega⟩
        simp [Nat.mul_add]
      have hpages : rest.length / pageSize = (rest.drop pageSize).length / pageSize + 1 := by
        rw [List.length_drop, Nat.div_eq_sub_div (by decide) hfull]
      have hstep : discoverPages parseTime request (fuel + 1) pageNum discovery =
          discoverPages parseTime request fuel (pageNum + 1)
            (appendPageDiscovery parseTime discovery (rest.take pageSize) pageNum).1 := by
        rw [discoverPages_ok parseTime fuel discovery hok, hlength]
        simp [shouldFetchNextPage]
      rw [hstep, hpages]
      have hwalk := ih (Nat.le_add_left 1 pageNum) hnext (by omega)
        (appendPageDiscovery parseTime discovery (rest.take pageSize) pageNum).1
      rw [appendPageDiscovery_append, List.take_append_drop] at hwalk
      rwa [Nat.add_assoc, Nat.add_comm 1] at hwalk
    · have hall : rest.take pageSize = rest := List.take_of_length_le (by omega)
      have hlast : rest.length / pageSize = 0 := Nat.div_eq_of_lt (by omega)
      rw [hall] at hok
      refine .inr ?_
      rw [discoverPages_ok parseTime fuel discovery hok, hlast]
      simp [shouldFetchNextPage, hfull]

end Parse

/-- A fixed catalogue: the entries of each product in the configured box, and the start date
the search filters and sorts by, which is the one it prints. -/
structure Cmr where
  parseTime : String → Option DateTime
  entries : String → List CmrEntry
  startDate : CmrEntry → DateTime
  startDate_eq : ∀ entry date, parseTime entry.timeStart = some date → startDate entry = date

namespace Cmr

variable (cmr : Cmr)

/-- What a search finds: `temporal` from the start date on, `sort_key=-start_date`. -/
def found (product : String) (resumeFrom : Option DateTime) : List CmrEntry :=
  ((cmr.entries product).filter fun entry =>
    resumeFrom.getD defaultTemporalStart ≤ cmr.startDate entry).insertionSort
      fun a b => cmr.startDate b ≤ cmr.startDate a

/-- The granules of a product that discovery can find at all. -/
def granules (product : String) : List GranuleCandidate :=
  (cmr.entries product).filterMap (parseEntry cmr.parseTime product)

def pageBudget (product : String) : ℕ := (cmr.entries product).length / pageSize + 1

/-- Each page request fails or is answered from the catalogue. -/
def Serves (request : String → Option DateTime → ℕ → Except CmrError (List CmrEntry)) : Prop :=
  ∀ product resumeFrom pageNum, (∃ error, request product resumeFrom pageNum = .error error) ∨
    request product resumeFrom pageNum = .ok (resultPage (cmr.found product resumeFrom) pageNum)

variable {cmr}
variable {request : String → Option DateTime → ℕ → Except CmrError (List CmrEntry)}

theorem startDate_of_parseEntry {product : String} {entry : CmrEntry} {granule : GranuleCandidate}
    (h : parseEntry cmr.parseTime product entry = some granule) :
    cmr.startDate entry = granule.granuleDate := by
  simp only [parseEntry, Option.bind_eq_bind, Option.bind_eq_some_iff, Option.pure_def] at h
  obtain ⟨_, -, _, -, date, hdate, h⟩ := h
  obtain rfl := Option.some.inj h
  exact cmr.startDate_eq entry date hdate

theorem found_pages_lt (product : String) (resumeFrom : Option DateTime) :
    (cmr.found product resumeFrom).length / pageSize < cmr.pageBudget product := by
  refine Nat.lt_succ_of_le (Nat.div_le_div_right ?_)
  rw [found, List.length_insertionSort]
  exact List.length_filter_le _ _

/-- `discover_product` fails with a request, or ends after finding everything the search does. -/
theorem discoverProduct_cases (hserves : cmr.Serves request) (product : String)
    (resumeFrom : Option DateTime) :
    (∃ error, discoverProduct cmr.parseTime (request product resumeFrom) (cmr.pageBudget product)
      product = some (.error error)) ∨
    discoverProduct cmr.parseTime (request product resumeFrom) (cmr.pageBudget product) product =
      some (.ok (appendPageDiscovery cmr.parseTime (emptyProductDiscovery product)
        (cmr.found product resumeFrom)
        (1 + (cmr.found product resumeFrom).length / pageSize)).1) := by
  have hall : (cmr.found product resumeFrom).drop (pageSize * (1 - 1)) =
      cmr.found product resumeFrom := rfl
  exact discoverPages_resultPage cmr.parseTime (hserves product resumeFrom) le_rfl hall
    (found_pages_lt product resumeFrom) (emptyProductDiscovery product)

theorem discoverProduct_ne_none (hserves : cmr.Serves request) (product : String)
    (resumeFrom : Option DateTime) :
    discoverProduct cmr.parseTime (request product resumeFrom) (cmr.pageBudget product) product ≠
      none := by
  intro h
  have hcases := discoverProduct_cases hserves product resumeFrom
  rw [h] at hcases
  simp at hcases

/-- A walk that succeeds finds exactly the product's granules from the resume point on. -/
theorem mem_discoverProduct_iff (hserves : cmr.Serves request) {product : String}
    {resumeFrom : Option DateTime} {discovery : ProductDiscovery}
    (h : discoverProduct cmr.parseTime (request product resumeFrom) (cmr.pageBudget product)
      product = some (.ok discovery)) {granule : GranuleCandidate} :
    granule ∈ discovery.granules ↔ granule ∈ cmr.granules product ∧
      resumeFrom.getD defaultTemporalStart ≤ granule.granuleDate := by
  have hwalk := discoverProduct_cases hserves product resumeFrom
  rw [h] at hwalk
  simp only [Option.some.injEq, reduceCtorEq, exists_false, Except.ok.injEq, false_or] at hwalk
  subst hwalk
  simp only [appendPageDiscovery, parseProductResponse, emptyProductDiscovery, List.nil_append,
    List.mem_filterMap, found, granules, List.mem_insertionSort, List.mem_filter,
    decide_eq_true_eq]
  constructor
  · rintro ⟨entry, ⟨hentry, hstart⟩, hparse⟩
    exact ⟨⟨entry, hentry, hparse⟩, (startDate_of_parseEntry hparse) ▸ hstart⟩
  · rintro ⟨⟨entry, hentry, hparse⟩, hstart⟩
    exact ⟨entry, ⟨hentry, (startDate_of_parseEntry hparse).symm ▸ hstart⟩, hparse⟩

end Cmr
end LumenHorizon.Ingest
