import LumenHorizon.Foundation.Alone
import LumenHorizon.Foundation.CursorWalk
import LumenHorizon.Gateway.Handlers
import LumenHorizon.Gateway.Numerals

/-! # Walks over the listings

A client follows the cursors of a listing while its rows stay as they are.
-/

namespace LumenHorizon.Gateway
open Foundation Foundation.CursorWalk Shared Processing

/-- The rows of a listing, in the order of its query. `LIMIT` and `OFFSET` are `bigint`s, and so is
the number of rows of a table. -/
structure Listed where
  rows : List Json
  length_lt : rows.length < 2 ^ 63

def Listed.answer (listed : Listed) : (c : GatewayCall) → Option c.Reply
  | .listTileSets limit offset => some (.ok (slice listed.rows limit offset))
  | .listIngestRuns limit offset => some (.ok (slice listed.rows limit offset))
  | .listProcessingRuns limit offset => some (.ok (slice listed.rows limit offset))
  | _ => none

inductive Listing where
  | tileSets
  | ingestRuns
  | processingRuns
deriving DecidableEq, Repr

variable {K : Type}

def Listing.handler (decoders : Decoders K) (state : AppState) (requestId : Uuid)
    (query : Option String) : Listing → GatewayProgram Response
  | tileSets => listTileSetsHandler decoders state requestId query
  | ingestRuns => listIngestRunsHandler decoders state requestId query
  | processingRuns => listProcessingRunsHandler decoders state requestId query

/-- `data` and `meta.next_cursor` of an answer with rows. -/
def Response.page (response : Response) : Option (List Json × Option String) :=
  match response.body with
  | .envelope (.rows rows) _ nextCursor => some (rows, nextCursor)
  | _ => none

def pageQuery (limit : ℕ) : Option String → String
  | none => "limit=" ++ toString limit
  | some cursor => "limit=" ++ toString limit ++ "&cursor=" ++ cursor

/-- The pairs of such a query are read as they are written: digits need no decoding. -/
def ReadsPageQueries (parse : String → List (String × String)) : Prop :=
  ∀ limit : ℕ, parse (pageQuery limit none) = [("limit", toString limit)] ∧
    ∀ offset : ℕ, parse (pageQuery limit (some (toString offset))) =
      [("limit", toString limit), ("cursor", toString offset)]

def fetchPage (decoders : Decoders K) (state : AppState) (requestId : Uuid) (listing : Listing)
    (listed : Listed) (limit : ℕ) (cursor : Option String) : Option (List Json × Option String) :=
  ((listing.handler decoders state requestId (some (pageQuery limit cursor))).ask
    listed.answer).bind Response.page

theorem parseCursor_toString {offset : ℕ} (h : offset < 2 ^ 63) :
    parseCursor (toString offset) = some offset := by
  have hhead : ∀ digits, (toString offset).toList ≠ '-' :: digits := by
    intro digits heq
    have hdigit : '-'.isDigit = true :=
      Text.isDigit_of_mem_toString (heq ▸ List.mem_cons_self)
    exact absurd hdigit (by decide)
  unfold parseCursor
  split
  · rename_i digits heq
    exact absurd heq (hhead digits)
  · exact parseUnsigned_toString (Nat.le_sub_one_of_lt h)

theorem paginationFromParts_limit {limit : ℕ} (h : 1 ≤ limit ∧ limit ≤ 100) :
    paginationFromParts (some (toString limit)) none = .ok ⟨limit, 0⟩ := by
  have hlimit : limit ≤ 2 ^ 32 - 1 := h.2.trans (by decide)
  simp only [paginationFromParts, parseUnsigned_toString hlimit, bind, Except.bind, h, and_self,
    not_true_eq_false, if_false]

theorem paginationFromParts_cursor {limit offset : ℕ} (h : 1 ≤ limit ∧ limit ≤ 100)
    (hoffset : offset < 2 ^ 63) :
    paginationFromParts (some (toString limit)) (some (toString offset)) = .ok ⟨limit, offset⟩ := by
  have hlimit : limit ≤ 2 ^ 32 - 1 := h.2.trans (by decide)
  simp only [paginationFromParts, parseUnsigned_toString hlimit, bind, Except.bind, h, and_self,
    not_true_eq_false, if_false, parseCursor_toString hoffset]

/-- The limit of a query that is accepted is in its range, given or not. -/
theorem limit_of_checked {value : ℕ} {cursor : Option String} {pagination : Pagination}
    (h : (if ¬ (1 ≤ value ∧ value ≤ 100) then
        (.error (.invalidRequest "limit must be between 1 and 100") : Except GatewayError Pagination)
      else match cursor with
        | none => .ok ⟨value, 0⟩
        | some cursor =>
          match parseCursor cursor with
          | none => .error (.invalidRequest "invalid cursor")
          | some offset => .ok ⟨value, offset⟩) = .ok pagination) :
    1 ≤ pagination.limit ∧ pagination.limit ≤ 100 := by
  by_cases hrange : 1 ≤ value ∧ value ≤ 100
  · rw [if_neg (not_not.mpr hrange)] at h
    split at h
    · rwa [← Except.ok.inj h]
    · split at h
      · cases h
      · rwa [← Except.ok.inj h]
  · rw [if_pos hrange] at h
    cases h

theorem limit_of_paginationFromParts {limit cursor : Option String} {pagination : Pagination}
    (h : paginationFromParts limit cursor = .ok pagination) :
    1 ≤ pagination.limit ∧ pagination.limit ≤ 100 := by
  cases limit with
  | none => exact @limit_of_checked 50 _ _ h
  | some text =>
    cases hparse : parseUnsigned (2 ^ 32 - 1) text with
    | none =>
      simp only [paginationFromParts, hparse] at h
      cases h
    | some value =>
      simp only [paginationFromParts, hparse] at h
      exact limit_of_checked h

theorem limit_of_paginationFromRawQuery {parse : String → List (String × String)}
    {query : Option String} {pagination : Pagination}
    (h : paginationFromRawQuery parse query = .ok pagination) :
    1 ≤ pagination.limit ∧ pagination.limit ≤ 100 := by
  obtain ⟨parts, -, h⟩ := bind_eq_ok_iff.mp h
  exact limit_of_paginationFromParts h

theorem paginationParameters_limit (limit : String) :
    paginationParameters [("limit", limit)] none none = .ok (some limit, none) := by
  simp [paginationParameters]

theorem paginationParameters_cursor (limit cursor : String) :
    paginationParameters [("limit", limit), ("cursor", cursor)] none none =
      .ok (some limit, some cursor) := by
  simp [paginationParameters]

section ReadsPageQueries

variable {parse : String → List (String × String)} (hreads : ReadsPageQueries parse) {limit : ℕ}
  (hlimit : 1 ≤ limit ∧ limit ≤ 100)

include hreads hlimit

theorem paginationFromRawQuery_first :
    paginationFromRawQuery parse (some (pageQuery limit none)) = .ok ⟨limit, 0⟩ := by
  rw [paginationFromRawQuery, Option.getD_some, (hreads limit).1, paginationParameters_limit]
  exact paginationFromParts_limit hlimit

theorem paginationFromRawQuery_next {offset : ℕ} (hoffset : offset < 2 ^ 63) :
    paginationFromRawQuery parse (some (pageQuery limit (some (toString offset)))) =
      .ok ⟨limit, offset⟩ := by
  rw [paginationFromRawQuery, Option.getD_some, (hreads limit).2, paginationParameters_cursor]
  exact paginationFromParts_cursor hlimit hoffset

end ReadsPageQueries

/-- Inside its 64 bits the sum is the offset of the next page. -/
theorem nextOffset_eq {pagination : Pagination} (h : pagination.offset + pagination.limit < 2 ^ 63) :
    pagination.nextOffset = ((pagination.offset + pagination.limit : ℕ) : ℤ) := by
  apply Int.bmod_eq_of_le <;> omega

/-- More rows than the limit come back only while the next offset has rows, and so fits. -/
theorem offset_add_limit_lt {listed : Listed} {pagination : Pagination}
    (h : pagination.limit < (slice listed.rows pagination.queryLimit pagination.offset).length) :
    pagination.offset + pagination.limit < listed.rows.length ∧
      pagination.offset + pagination.limit < 2 ^ 63 := by
  have hmore : pagination.offset + pagination.limit < listed.rows.length :=
    lt_length_slice_succ_iff.mp h
  exact ⟨hmore, hmore.trans listed.length_lt⟩

/-- A page is the slice at its offset, and its cursor names the next offset if there are rows. -/
theorem page_pagedResponse (listed : Listed) (pagination : Pagination) (requestId : Uuid) :
    (pagedResponse (slice listed.rows pagination.queryLimit pagination.offset) pagination
      requestId).page =
      some (slice listed.rows pagination.limit pagination.offset,
        if pagination.offset + pagination.limit < listed.rows.length then
          some (toString (pagination.offset + pagination.limit)) else none) := by
  by_cases hmore : pagination.limit <
      (slice listed.rows pagination.queryLimit pagination.offset).length
  · obtain ⟨hrows, hfits⟩ := offset_add_limit_lt hmore
    rw [pagedResponse, if_pos hmore, if_pos hrows, nextOffset_eq hfits]
    simp only [successResponse, Response.page, Pagination.queryLimit, take_slice_succ]
    rfl
  · have hrows : ¬ pagination.offset + pagination.limit < listed.rows.length :=
      fun h => hmore (lt_length_slice_succ_iff.mpr h)
    rw [pagedResponse, if_neg hmore, if_neg hrows]
    have hall : slice listed.rows pagination.queryLimit pagination.offset =
        slice listed.rows pagination.limit pagination.offset := by
      rw [slice_of_le (Nat.not_lt.mp hrows)]
      exact slice_of_le (by rw [Pagination.queryLimit]; omega)
    rw [hall]
    rfl

section Fetch

variable (decoders : Decoders K) {state : AppState} (hdatabase : state.database = true)
  (requestId : Uuid) (listing : Listing) (listed : Listed)

include hdatabase

theorem handler_ask {query : Option String} {pagination : Pagination}
    (h : paginationFromRawQuery decoders.formUrlencoded query = .ok pagination) :
    (listing.handler decoders state requestId query).ask listed.answer =
      some (pagedResponse (slice listed.rows pagination.queryLimit pagination.offset) pagination
        requestId) := by
  cases listing <;>
    simp [Listing.handler, listTileSetsHandler, listIngestRunsHandler, listProcessingRunsHandler,
      listRows, h, hdatabase, GatewayProgram.listTileSets, GatewayProgram.listIngestRuns,
      GatewayProgram.listProcessingRuns, GatewayProgram.call, Program.ask, Listed.answer]

theorem fetchPage_of_accepted {limit offset : ℕ} {cursor : Option String}
    (h : paginationFromRawQuery decoders.formUrlencoded (some (pageQuery limit cursor)) =
      .ok ⟨limit, offset⟩) :
    fetchPage decoders state requestId listing listed limit cursor =
      some (slice listed.rows limit offset,
        if offset + limit < listed.rows.length then some (toString (offset + limit)) else none) := by
  rw [fetchPage, handler_ask decoders hdatabase requestId listing listed h, Option.bind_some,
    page_pagedResponse]

/-- Every listing serves its rows along cursors that name offsets. -/
theorem fetchPage_serves (hreads : ReadsPageQueries decoders.formUrlencoded) {limit : ℕ}
    (hlimit : 1 ≤ limit ∧ limit ≤ 100) :
    Serves (fetchPage decoders state requestId listing listed limit) toString listed.rows limit := by
  rintro offset hoffset cursor (rfl | ⟨rfl, rfl⟩)
  · exact fetchPage_of_accepted decoders hdatabase requestId listing listed
      (paginationFromRawQuery_next hreads hlimit (hoffset.trans_lt listed.length_lt))
  · exact fetchPage_of_accepted decoders hdatabase requestId listing listed
      (paginationFromRawQuery_first hreads hlimit)

end Fetch

/-- Following the cursors of a listing from its first page returns every row once and in order, in
full pages up to the last. Whatever query is accepted, a page with rows after it has a cursor that
is their offset, below its 64 bits, and accepted in turn. -/
theorem pagination_exact (decoders : Decoders K) (hreads : ReadsPageQueries decoders.formUrlencoded)
    {state : AppState} (hdatabase : state.database = true) (requestId : Uuid) (listing : Listing)
    (listed : Listed) :
    (∀ limit : ℕ, 1 ≤ limit ∧ limit ≤ 100 →
      ∃ pages, (∀ fuel, listed.rows.length / limit < fuel →
          walk (fetchPage decoders state requestId listing listed limit) fuel none = some pages) ∧
        pages.flatten = listed.rows ∧ ∀ page ∈ pages.dropLast, page.length = limit) ∧
      ∀ query pagination, paginationFromRawQuery decoders.formUrlencoded query = .ok pagination →
        pagination.limit < (slice listed.rows pagination.queryLimit pagination.offset).length →
          pagination.offset + pagination.limit < 2 ^ 63 ∧
          ((listing.handler decoders state requestId query).ask listed.answer).bind Response.page =
            some (slice listed.rows pagination.limit pagination.offset,
              some (toString (pagination.offset + pagination.limit))) ∧
          paginationFromRawQuery decoders.formUrlencoded
              (some (pageQuery pagination.limit
                (some (toString (pagination.offset + pagination.limit))))) =
            .ok ⟨pagination.limit, pagination.offset + pagination.limit⟩ := by
  constructor
  · intro limit hlimit
    exact walk_exact hlimit.1
      (fetchPage_serves decoders hdatabase requestId listing listed hreads hlimit)
  · intro query pagination haccepted hmore
    obtain ⟨hrows, hfits⟩ := offset_add_limit_lt hmore
    refine ⟨hfits, ?_, ?_⟩
    · rw [handler_ask decoders hdatabase requestId listing listed haccepted, Option.bind_some,
        page_pagedResponse, if_pos hrows]
    · exact paginationFromRawQuery_next hreads (limit_of_paginationFromRawQuery haccepted) hfits

def samplePair (l : List Char) : String × String :=
  (String.ofList (l.takeWhile (· ≠ '=')), String.ofList ((l.dropWhile (· ≠ '=')).drop 1))

/-- A query of one pair or two in which nothing is encoded. -/
def samplePairs (query : String) : List (String × String) :=
  let l := query.toList
  if '&' ∈ l then
    [samplePair (l.takeWhile (· ≠ '&')), samplePair ((l.dropWhile (· ≠ '&')).drop 1)]
  else [samplePair l]

theorem samplePair_append {name value : List Char} (h : '=' ∉ name) :
    samplePair (name ++ '=' :: value) = (String.ofList name, String.ofList value) := by
  rw [samplePair, Text.takeWhile_append_separator h, Text.dropWhile_append_separator h]
  rfl

theorem samplePairs_limit {limit : List Char} (h : '&' ∉ limit) :
    samplePairs (String.ofList ("limit=".toList ++ limit)) = [("limit", String.ofList limit)] := by
  have hplain : '&' ∉ "limit=".toList ++ limit := by
    rw [List.mem_append, not_or]
    exact ⟨by decide, h⟩
  rw [samplePairs, String.toList_ofList]
  simp only [if_neg hplain]
  exact congrArg (fun pair => [pair]) (samplePair_append (show '=' ∉ "limit".toList by decide))

theorem samplePairs_cursor {limit : List Char} (h : '&' ∉ limit) (cursor : List Char) :
    samplePairs (String.ofList ("limit=".toList ++ limit ++ '&' :: ("cursor=".toList ++ cursor))) =
      [("limit", String.ofList limit), ("cursor", String.ofList cursor)] := by
  have hplain : '&' ∉ "limit=".toList ++ limit := by
    rw [List.mem_append, not_or]
    exact ⟨by decide, h⟩
  have hlimit : samplePair ("limit=".toList ++ limit) = ("limit", String.ofList limit) :=
    samplePair_append (show '=' ∉ "limit".toList by decide)
  have hcursor : samplePair ("cursor=".toList ++ cursor) = ("cursor", String.ofList cursor) :=
    samplePair_append (show '=' ∉ "cursor".toList by decide)
  have hmem : '&' ∈ "limit=".toList ++ limit ++ '&' :: ("cursor=".toList ++ cursor) :=
    List.mem_append_right _ List.mem_cons_self
  rw [samplePairs, String.toList_ofList]
  simp only [if_pos hmem, Text.takeWhile_append_separator hplain,
    Text.dropWhile_append_separator hplain, List.drop_one, List.tail_cons, hlimit, hcursor]

theorem samplePairs_reads : ReadsPageQueries samplePairs := by
  intro limit
  have hlimit : '&' ∉ (toString limit).toList :=
    Text.notMem_of_forall_isDigit (fun c hc => Text.isDigit_of_mem_toString hc) (by decide)
  constructor
  · have hquery : pageQuery limit none =
        String.ofList ("limit=".toList ++ (toString limit).toList) := by
      rw [pageQuery, ← String.toList_append, String.ofList_toList]
    rw [hquery, samplePairs_limit hlimit, String.ofList_toList]
  · intro offset
    have hquery : pageQuery limit (some (toString offset)) = String.ofList
        ("limit=".toList ++ (toString limit).toList ++
          '&' :: ("cursor=".toList ++ (toString offset).toList)) := by
      apply String.toList_injective
      rw [String.toList_ofList, pageQuery]
      simp only [String.toList_append, List.append_assoc]
      rfl
    rw [hquery, samplePairs_cursor hlimit, String.ofList_toList, String.ofList_toList]

def samplePageDecoders : Decoders ℚ :=
  { sampleDecoders ⟨"v1", 3, 6, 8, ⟨-10, 10, 0, 20⟩, ""⟩ with formUrlencoded := samplePairs }

/-- Three rows in pages of two. -/
theorem pagination_exact_sample :
    ∃ pages, (∀ fuel, 3 / 2 < fuel →
        walk (fetchPage samplePageDecoders sampleState 0 .ingestRuns ⟨["a", "b", "c"], by decide⟩ 2)
          fuel none = some pages) ∧
      pages.flatten = ["a", "b", "c"] ∧ ∀ page ∈ pages.dropLast, page.length = 2 :=
  (pagination_exact samplePageDecoders samplePairs_reads
    (show sampleState.database = true from rfl) 0 .ingestRuns
    ⟨["a", "b", "c"], by decide⟩).1 2 (by decide)

example : walk (fetchPage samplePageDecoders sampleState 0 .tileSets ⟨["a", "b", "c", "d"], by decide⟩ 2)
    3 none = some [["a", "b"], ["c", "d"]] := by decide +kernel

end LumenHorizon.Gateway
