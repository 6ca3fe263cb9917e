import LumenHorizon.Processing.Config
import LumenHorizon.Processing.Errors
import LumenHorizon.Shared.Strings

/-! # Requests, responses and errors of the gateway

A request has a raw path, an optional query, headers and whatever body the client sends. Headers
are kept in their order under lower-case names, their bytes as characters.
-/

namespace LumenHorizon.Gateway
open Shared Processing

/-- JSON values are passed through; decoders read them. -/
abbrev Json := String

abbrev HeaderMap := List (String × String)

/-- `HeaderMap::get`, the first value under a name. -/
def getHeader (headers : HeaderMap) (name : String) : Option String :=
  (headers.find? fun header => header.1 = name).map Prod.snd

/-- `HeaderMap::insert`, which drops the values it replaces. -/
def insertHeader (headers : HeaderMap) (name value : String) : HeaderMap :=
  headers.filter (fun header => header.1 ≠ name) ++ [(name, value)]

/-- `HeaderValue::to_str`: visible ASCII, blanks and tabs. -/
def toStr (value : String) : Option String :=
  if value.toList.all fun c => (32 ≤ c.toNat && c.toNat < 127) || c = '\t' then some value else none

/-- `HeaderValue::from_str` refuses control characters. -/
def isHeaderValue (value : String) : Bool :=
  value.toList.all fun c => (32 ≤ c.toNat && c.toNat ≠ 127) || c = '\t'

def readHeader (headers : HeaderMap) (name : String) : Option String :=
  (getHeader headers name).bind toStr

structure Request where
  method : String
  path : String
  query : Option String
  headers : HeaderMap
  body : List UInt8
deriving DecidableEq

/-- The length of the path and the query with its question mark. -/
def Request.uriLength (request : Request) : ℕ :=
  byteLength request.path + (request.query.map fun query => byteLength query + 1).getD 0

/-- `content_length`: `parse::<u64>` of the header, if it is there and can be read. -/
def contentLength (headers : HeaderMap) : Option ℕ :=
  (readHeader headers "content-length").bind (parseUnsigned (2 ^ 64 - 1))

def isJsonContentType (headers : HeaderMap) : Bool :=
  match readHeader headers "content-type" with
  | some value => startsWith value "application/json"
  | none => false

/-- The first address of `x-forwarded-for`. -/
def clientKeyFromHeaders (headers : HeaderMap) : String :=
  match readHeader headers "x-forwarded-for" with
  | none => "unknown"
  | some value =>
    let address := value.toList.takeWhile (· ≠ ',')
    let trimmed := ((address.dropWhile isWhitespace).reverse.dropWhile isWhitespace).reverse
    if trimmed = [] then "unknown" else String.ofList trimmed

inductive ErrorCode where
  | invalidRequest
  | unauthenticated
  | forbidden
  | notFound
  | tileNotFound
  | conflict
  | unprocessableEntity
  | rateLimited
  | internalError
  | upstreamError
  | serviceUnavailable
  | tileUnavailable
deriving DecidableEq, Repr

def ErrorCode.asStr : ErrorCode → String
  | invalidRequest => "invalid_request"
  | unauthenticated => "unauthenticated"
  | forbidden => "forbidden"
  | notFound => "not_found"
  | tileNotFound => "tile_not_found"
  | conflict => "conflict"
  | unprocessableEntity => "unprocessable_entity"
  | rateLimited => "rate_limited"
  | internalError => "internal_error"
  | upstreamError => "upstream_error"
  | serviceUnavailable => "service_unavailable"
  | tileUnavailable => "tile_unavailable"

structure GatewayError where
  status : ℕ
  code : ErrorCode
  message : String
  retryAfterSeconds : Option ℕ := none
deriving DecidableEq, Repr

namespace GatewayError

def invalidRequest (message : String) : GatewayError :=
  { status := 400, code := .invalidRequest, message := message }

def unauthenticated (message : String) : GatewayError :=
  { status := 401, code := .unauthenticated, message := message }

def forbidden (message : String) : GatewayError :=
  { status := 403, code := .forbidden, message := message }

def notFound (message : String) : GatewayError :=
  { status := 404, code := .notFound, message := message }

def tileNotFound (message : String) : GatewayError :=
  { status := 404, code := .tileNotFound, message := message }

def conflict (message : String) : GatewayError :=
  { status := 409, code := .conflict, message := message }

def unprocessableEntity (message : String) : GatewayError :=
  { status := 422, code := .unprocessableEntity, message := message }

def rateLimited (retryAfterSeconds : ℕ) : GatewayError where
  status := 429
  code := .rateLimited
  message := "rate limit exceeded"
  retryAfterSeconds := some retryAfterSeconds

def internalError : GatewayError :=
  { status := 500, code := .internalError, message := "internal server error" }

def upstreamError (message : String) : GatewayError :=
  { status := 502, code := .upstreamError, message := message }

def serviceUnavailable (message : String) : GatewayError :=
  { status := 503, code := .serviceUnavailable, message := message }

def tileUnavailable (message : String) : GatewayError :=
  { status := 503, code := .tileUnavailable, message := message }

end GatewayError

structure DependencyCheck where
  name : String
  status : String
  message : Option String
deriving DecidableEq, Repr

/-- What a handler puts into the `data` of its envelope. -/
inductive Payload where
  | value (value : Json)
  | rows (rows : List Json)
  | classes
  | ingestAccepted (upstream : Json)
  | requeueAccepted (ingestId : Uuid)
  | deepHealth (status : String) (checks : List DependencyCheck)
deriving DecidableEq, Repr

inductive ResponseBody where
  | empty
  | text (text : String)
  | error (code : ErrorCode) (message : String) (requestId : Uuid)
  | envelope (data : Payload) (requestId : Uuid) (nextCursor : Option String)
deriving DecidableEq, Repr

structure Response where
  status : ℕ
  headers : HeaderMap
  body : ResponseBody
deriving DecidableEq, Repr

def Response.cacheControl (response : Response) : Option String :=
  getHeader response.headers "cache-control"

/-- `into_response_with_request_id`. -/
def GatewayError.intoResponse (error : GatewayError) (requestId : Uuid) : Response where
  status := error.status
  headers := [("x-request-id", uuidDisplay requestId), ("content-type", "application/json")] ++
    match error.retryAfterSeconds with
    | some seconds => [("retry-after", toString seconds)]
    | none => []
  body := .error error.code error.message requestId

/-- `(status, headers, Json(ApiEnvelope::success(..)))`. -/
def successResponse (status : ℕ) (headers : HeaderMap) (data : Payload) (requestId : Uuid)
    (nextCursor : Option String) : Response where
  status := status
  headers := ("content-type", "application/json") :: headers
  body := .envelope data requestId nextCursor

theorem getHeader_insertHeader_self (headers : HeaderMap) (name value : String) :
    getHeader (insertHeader headers name value) name = some value := by
  have hnone : (headers.filter fun header => header.1 ≠ name).find?
      (fun header => header.1 = name) = none := by
    rw [List.find?_eq_none]
    intro header hheader
    simpa using (List.mem_filter.mp hheader).2
  rw [getHeader, insertHeader, List.find?_append, hnone]
  simp

theorem getHeader_insertHeader_of_ne (headers : HeaderMap) {name name' : String} (value : String)
    (h : name' ≠ name) : getHeader (insertHeader headers name value) name' =
      getHeader headers name' := by
  have hfilter : (headers.filter fun header => header.1 ≠ name).find?
      (fun header => header.1 = name') = headers.find? (fun header => header.1 = name') := by
    induction headers with
    | nil => rfl
    | cons header headers ih =>
      by_cases hname : header.1 = name
      · rw [List.filter_cons_of_neg (by simp [hname]), List.find?_cons_of_neg
          (by simp [hname, Ne.symm h]), ih]
      · rw [List.filter_cons_of_pos (by simp [hname])]
        by_cases hname' : header.1 = name'
        · rw [List.find?_cons_of_pos (by simp [hname']), List.find?_cons_of_pos (by simp [hname'])]
        · rw [List.find?_cons_of_neg (by simp [hname']), List.find?_cons_of_neg
            (by simp [hname']), ih]
  rw [getHeader, insertHeader, List.find?_append, hfilter]
  simp [Ne.symm h, getHeader]

@[simp] theorem GatewayError.status_intoResponse (error : GatewayError) (requestId : Uuid) :
    (error.intoResponse requestId).status = error.status := rfl

theorem GatewayError.cacheControl_intoResponse (error : GatewayError) (requestId : Uuid) :
    (error.intoResponse requestId).cacheControl = none := by
  cases hseconds : error.retryAfterSeconds with
  | none =>
    simp [Response.cacheControl, intoResponse, hseconds, getHeader]
  | some seconds =>
    simp [Response.cacheControl, intoResponse, hseconds, getHeader]

end LumenHorizon.Gateway
