import LumenHorizon.Ingest.Discovery

/-! # The pages of a catalogue

The walk of `discover_product` over a catalogue that is served in full pages.
-/

namespace LumenHorizon.Ingest
open Shared

/-- A catalogue in pages of 200, the same at every request. -/
def servedPages (entries : List CmrEntry) (pageNum : ℕ) : Except CmrError (List CmrEntry) :=
  .ok (resultPage entries pageNum)

def requesting (request : ℕ → Except CmrError (List CmrEntry)) (pageNum : ℕ) :
    StateM (List ℕ) (Except CmrError (List CmrEntry)) := do
  modify fun pages => pages ++ [pageNum]
  pure (request pageNum)

/-- The pages that `discover_product` requests, in their order. -/
def requestedPages (parseTime : String → Option DateTime)
    (request : ℕ → Except CmrError (List CmrEntry)) (fuel : ℕ) (product : String) : List ℕ :=
  ((discoverProductIn parseTime (requesting request) fuel product).run []).2

theorem exists_request_of_discoverPages_error {parseTime : String → Option DateTime}
    {request : ℕ → Except CmrError (List CmrEntry)} {fuel pageNum : ℕ} {discovery : ProductDiscovery}
    {error : CmrError}
    (h : discoverPages parseTime request fuel pageNum discovery = some (.error error)) :
    ∃ n, request n = .error error := by
  induction fuel generalizing pageNum discovery with
  | zero => cases h
  | succ fuel ih =>
    cases hrequest : request pageNum with
    | error error' =>
      rw [discoverPages_error parseTime fuel discovery hrequest] at h
      cases h
      exact ⟨pageNum, hrequest⟩
    | ok entries =>
      rw [discoverPages_ok parseTime fuel discovery hrequest] at h
      split at h
      · exact ih h
      · cases h

/-- A page is full exactly when the entries reach past it. -/
theorem length_resultPage {entries : List CmrEntry} {pageNum : ℕ} :
    (resultPage entries pageNum).length =
      min pageSize (entries.length - pageSize * (pageNum - 1)) := by
  simp [resultPage]

theorem discoverPagesIn_requesting {parseTime : String → Option DateTime}
    {request : ℕ → Except CmrError (List CmrEntry)} {pageNum : ℕ} {entries : List CmrEntry}
    (h : request pageNum = .ok entries) (fuel : ℕ) (discovery : ProductDiscovery) (pages : List ℕ) :
    (discoverPagesIn parseTime (requesting request) (fuel + 1) pageNum discovery).run pages =
      if shouldFetchNextPage entries.length then
        (discoverPagesIn parseTime (requesting request) fuel (pageNum + 1)
          (appendPageDiscovery parseTime discovery entries pageNum).1).run (pages ++ [pageNum])
      else (some (.ok (appendPageDiscovery parseTime discovery entries pageNum).1),
        pages ++ [pageNum]) := by
  cases hfull : shouldFetchNextPage entries.length with
  | true => simp [discoverPagesIn, requesting, h, appendPageDiscovery, hfull]
  | false =>
    simp [discoverPagesIn, requesting, h, appendPageDiscovery, hfull]
    rfl

/-- From each page on the loop requests the pages up to the first that is not full. The induction
is over the full pages still to come. -/
theorem requestedPages_servedPages (parseTime : String → Option DateTime) {entries : List CmrEntry}
    {n fuel pageNum : ℕ} (hpage : 1 ≤ pageNum)
    (hleft : (entries.length - pageSize * (pageNum - 1)) / pageSize = n) (hfuel : n < fuel)
    (discovery : ProductDiscovery) (pages : List ℕ) :
    ((discoverPagesIn parseTime (requesting (servedPages entries)) fuel pageNum discovery).run pages).2 =
      pages ++ List.range' pageNum (n + 1) := by
  induction n generalizing fuel pageNum discovery pages with
  | zero =>
    obtain ⟨fuel, rfl⟩ := Nat.exists_eq_add_one.mpr hfuel
    have hshort : entries.length - pageSize * (pageNum - 1) < pageSize := by
      rcases Nat.div_eq_zero_iff.mp hleft with h | h
      · exact absurd h (by decide)
      · exact h
    have hlast : shouldFetchNextPage (resultPage entries pageNum).length = false := by
      simp [shouldFetchNextPage, length_resultPage, hshort]
    rw [discoverPagesIn_requesting rfl, hlast]
    rfl
  | succ n ih =>
    obtain ⟨fuel, rfl⟩ := Nat.exists_eq_add_one.mpr (Nat.zero_lt_of_lt hfuel)
    have hfull : pageSize ≤ entries.length - pageSize * (pageNum - 1) := by
      by_contra hshort
      rw [Nat.div_eq_of_lt (not_le.mp hshort)] at hleft
      exact absurd hleft (Nat.succ_ne_zero n).symm
    have hnext : (entries.length - pageSize * (pageNum + 1 - 1)) / pageSize = n := by
      have hpages : pageSize * (pageNum + 1 - 1) = pageSize * (pageNum - 1) + pageSize := by
        rw [← Nat.mul_succ]
        congr 1
        omega
      rw [Nat.div_eq_sub_div (by decide) hfull, Nat.sub_sub, ← hpages] at hleft
      exact Nat.succ.inj hleft
    have hrest := ih (Nat.le_add_left 1 pageNum) hnext (Nat.lt_of_succ_lt_succ hfuel)
      (appendPageDiscovery parseTime discovery (resultPage entries pageNum) pageNum).1
      (pages ++ [pageNum])
    have hmore : shouldFetchNextPage (resultPage entries pageNum).length = true := by
      simp [shouldFetchNextPage, length_resultPage, hfull]
    rw [discoverPagesIn_requesting rfl, hmore, if_pos rfl, hrest, List.append_assoc,
      List.singleton_append, ← List.range'_succ]

/-- What is found and what is skipped are all the entries. -/
theorem length_filterMap_add_length_filter (parseTime : String → Option DateTime) (product : String)
    (entries : List CmrEntry) :
    (entries.filterMap (parseEntry parseTime product)).length +
      (entries.filter fun entry => (parseEntry parseTime product entry).isNone).length =
        entries.length := by
  induction entries with
  | nil => rfl
  | cons entry entries ih =>
    cases hparse : parseEntry parseTime product entry with
    | none => simp [hparse, ← ih, Nat.add_assoc]
    | some granule => simp [hparse, ← ih, Nat.add_right_comm]

/-- Discovery of a catalogue requests each of its pages up to the first that is not full, and
returns what its entries describe, in their order. -/
theorem discoverProduct_complete (parseTime : String → Option DateTime) (product : String)
    (entries : List CmrEntry) {fuel : ℕ} (hfuel : entries.length / pageSize < fuel) :
    requestedPages parseTime (servedPages entries) fuel product =
        List.range' 1 (entries.length / pageSize + 1) ∧
      ∃ discovery, discoverProduct parseTime (servedPages entries) fuel product =
          some (.ok discovery) ∧
        discovery.granules = entries.filterMap (parseEntry parseTime product) ∧
        discovery.pagesFetched = entries.length / pageSize + 1 ∧
        discovery.granules.length + discovery.skippedEntries = entries.length := by
  refine ⟨requestedPages_servedPages parseTime le_rfl rfl hfuel _ [], ?_⟩
  have hserved : ∀ n, (∃ error, servedPages entries n = .error error) ∨
      servedPages entries n = .ok (resultPage entries n) := fun n => .inr rfl
  have hall : entries.drop (pageSize * (1 - 1)) = entries := rfl
  have hwalk := discoverPages_resultPage parseTime hserved le_rfl hall hfuel
    (emptyProductDiscovery product)
  rcases hwalk with ⟨error, herror⟩ | hwalk
  · obtain ⟨n, hn⟩ := exists_request_of_discoverPages_error herror
    cases hn
  · refine ⟨_, hwalk, ?_, ?_, ?_⟩
    · simp [appendPageDiscovery, parseProductResponse, emptyProductDiscovery]
    · simp [appendPageDiscovery, Nat.add_comm]
    · simpa [appendPageDiscovery, parseProductResponse, emptyProductDiscovery] using
        length_filterMap_add_length_filter parseTime product entries

def samplePageEntry : CmrEntry where
  title := "VNP46A2.A2026141.h08v05.001"
  producerGranuleId := none
  timeStart := "2026-05-21T00:00:00Z"
  links := [⟨"https://data.test/VNP46A2.A2026141.h08v05.001.h5", some cmrDataLinkRel⟩]

/-- One page exactly, and an empty one after it. -/
theorem discoverProduct_complete_sample :
    requestedPages (fun _ => some defaultTemporalStart)
        (servedPages (List.replicate 200 samplePageEntry)) 2 "VNP46A2" =
        List.range' 1 ((List.replicate 200 samplePageEntry).length / pageSize + 1) ∧
      ∃ discovery, discoverProduct (fun _ => some defaultTemporalStart)
          (servedPages (List.replicate 200 samplePageEntry)) 2 "VNP46A2" = some (.ok discovery) ∧
        discovery.granules = (List.replicate 200 samplePageEntry).filterMap
          (parseEntry (fun _ => some defaultTemporalStart) "VNP46A2") ∧
        discovery.pagesFetched = (List.replicate 200 samplePageEntry).length / pageSize + 1 ∧
        discovery.granules.length + discovery.skippedEntries =
          (List.replicate 200 samplePageEntry).length :=
  discoverProduct_complete (fun _ => some defaultTemporalStart) "VNP46A2"
    (List.replicate 200 samplePageEntry) (by rw [List.length_replicate]; decide)

end LumenHorizon.Ingest
