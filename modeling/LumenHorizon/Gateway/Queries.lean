import LumenHorizon.Gateway.Http

/-! # Queries

The pages of a listing and the search for sites, from a query whose pairs are already decoded. A
number field past its range is refused as one that is not there, and no parameter may come twice.
-/

namespace LumenHorizon.Gateway
open Shared Processing

structure Pagination where
  limit : ℕ
  offset : ℕ
deriving DecidableEq, Repr

def Pagination.queryLimit (pagination : Pagination) : ℕ := pagination.limit + 1

/-- `parse::<i64>` of a cursor that is not negative; a minus sign is left for minus zero only. -/
def parseCursor (cursor : String) : Option ℕ :=
  match cursor.toList with
  | '-' :: digits =>
    (parseUnsigned (2 ^ 63) (String.ofList digits)).filter fun value =>
      digits.head? ≠ some '+' ∧ value = 0
  | _ => parseUnsigned (2 ^ 63 - 1) cursor

def paginationFromParts (limit cursor : Option String) : Except GatewayError Pagination := do
  let limit ← match limit with
    | none => .ok 50
    | some value =>
      match parseUnsigned (2 ^ 32 - 1) value with
      | none => .error (GatewayError.invalidRequest "invalid limit")
      | some limit => .ok limit
  if ¬ (1 ≤ limit ∧ limit ≤ 100) then
    .error (.invalidRequest "limit must be between 1 and 100")
  else
    match cursor with
    | none => .ok { limit := limit, offset := 0 }
    | some cursor =>
      match parseCursor cursor with
      | none => .error (.invalidRequest "invalid cursor")
      | some offset => .ok { limit := limit, offset := offset }

/-- The loop over the pairs of the query, with the two parameters so far. -/
def paginationParameters : List (String × String) → Option String → Option String →
    Except GatewayError (Option String × Option String)
  | [], limit, cursor => .ok (limit, cursor)
  | (key, value) :: pairs, limit, cursor =>
    if key = "limit" ∧ limit = none then paginationParameters pairs (some value) cursor
    else if key = "cursor" ∧ cursor = none then paginationParameters pairs limit (some value)
    else if key = "limit" ∨ key = "cursor" then
      .error (.invalidRequest "duplicate pagination parameter")
    else .error (.invalidRequest "unsupported query parameter")

def paginationFromRawQuery (parse : String → List (String × String)) (rawQuery : Option String) :
    Except GatewayError Pagination := do
  let (limit, cursor) ← paginationParameters (parse (rawQuery.getD "")) none none
  paginationFromParts limit cursor

/-- The sum of two `i64` wraps around. -/
def Pagination.nextOffset (pagination : Pagination) : ℤ :=
  ((pagination.offset + pagination.limit : ℕ) : ℤ).bmod (2 ^ 64)

def pagedResponse (rows : List Json) (pagination : Pagination) (requestId : Uuid) : Response :=
  if rows.length > pagination.limit then
    successResponse 200 [] (.rows (rows.take pagination.limit)) requestId
      (some (toString pagination.nextOffset))
  else successResponse 200 [] (.rows rows) requestId none

variable {K : Type} [Field K] [LinearOrder K]

/-- The number parameters of the site search with their least and greatest values. -/
def siteSearchRanges : List (String × ℤ × ℤ) := [
  ("lat", -90, 90), ("lon", -180, 180), ("radius_km", 1, 250), ("west", -180, 180),
  ("south", -90, 90), ("east", -180, 180), ("north", -90, 90)]

/-- `parse_range`. What is no finite number is outside every range. -/
def parseRange (parseFloat : String → Option (Option K)) (field value : String) (min max : ℤ) :
    Except GatewayError K :=
  match parseFloat value with
  | none => .error (.invalidRequest ("invalid " ++ field))
  | some parsed =>
    match parsed.filter fun parsed => (min : K) ≤ parsed ∧ parsed ≤ max with
    | none =>
      .error (.invalidRequest
        (field ++ " must be between " ++ toString min ++ " and " ++ toString max))
    | some parsed => .ok parsed

structure SiteSearchQuery (K : Type) where
  numbers : List (String × K)
  limit : Option String
  cursor : Option String

def SiteSearchQuery.number (query : SiteSearchQuery K) (field : String) : Option K :=
  (query.numbers.find? fun number => number.1 = field).map Prod.snd

def siteSearchParameters (parseFloat : String → Option (Option K)) :
    List (String × String) → SiteSearchQuery K → Except GatewayError (SiteSearchQuery K)
  | [], query => .ok query
  | (key, value) :: pairs, query =>
    match siteSearchRanges.find? fun range => range.1 = key with
    | some (_, min, max) =>
      if (query.number key).isSome then .error (.invalidRequest "duplicate query parameter")
      else do
        let parsed ← parseRange parseFloat key value min max
        siteSearchParameters parseFloat pairs
          { query with numbers := query.numbers ++ [(key, parsed)] }
    | none =>
      if key = "limit" ∧ query.limit = none then
        siteSearchParameters parseFloat pairs { query with limit := some value }
      else if key = "cursor" ∧ query.cursor = none then
        siteSearchParameters parseFloat pairs { query with cursor := some value }
      else if key = "limit" ∨ key = "cursor" then
        .error (.invalidRequest "duplicate query parameter")
      else .error (.invalidRequest "unsupported query parameter")

def validateSiteSearchQuery (parseFloat : String → Option (Option K))
    (parse : String → List (String × String)) (rawQuery : Option String) :
    Except GatewayError Unit := do
  let query ← siteSearchParameters parseFloat (parse (rawQuery.getD ""))
    { numbers := [], limit := none, cursor := none }
  if (query.number "lat").isSome ≠ (query.number "lon").isSome then
    .error (.invalidRequest "lat and lon must be provided together")
  else
    let bounds := [query.number "west", query.number "south", query.number "east",
      query.number "north"]
    if bounds.any Option.isSome ∧ bounds.any Option.isNone then
      .error (.invalidRequest "bounds require west, south, east, and north")
    else
      let inverted := match bounds with
        | [some west, some south, some east, some north] => decide (west ≥ east ∨ south ≥ north)
        | _ => false
      if inverted then .error (.invalidRequest "invalid bounds")
      else do
        let _ ← paginationFromParts query.limit query.cursor
        .ok ()

end LumenHorizon.Gateway
