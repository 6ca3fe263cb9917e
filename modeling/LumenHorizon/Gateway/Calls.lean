import LumenHorizon.Foundation.Timeout
import LumenHorizon.Gateway.Storage
import LumenHorizon.Gateway.Tokens

/-! # Calls of the gateway

What a request makes the gateway ask of its stores, of other services and of the clocks, and the
two marks it leaves: an audit event, and where the body of a handler begins.
-/

namespace LumenHorizon.Gateway
open Foundation Shared

inductive JwksFetchError where
  | unavailable
  | errorStatus
  | invalidResponse
deriving DecidableEq, Repr

inductive DbError where
  | connect (error : String)
  | notFound
  | query (operation error : String)
deriving DecidableEq, Repr

/-- An error of the ingest service or the queue, by its text. -/
structure UpstreamError where
  error : String
deriving DecidableEq, Repr

structure ProcessingRequeueRecord where
  ingestId : Uuid
  blobPath : String
  product : String
  granuleDate : DateTime
  tileH : ℤ
  tileV : ℤ
  processingStatus : Option String
deriving DecidableEq, Repr

/-- The fields of `emit_admin_audit`. -/
structure AdminAudit where
  requestId : Uuid
  actor : AdminContext
  action : String
  targetId : Option Uuid
  outcome : String
  statusCode : ℕ
deriving DecidableEq, Repr

inductive GatewayCall where
  | incrementWindow (key : String) (window : ℕ)
  | readJwksCache
  | writeJwksCache (cached : CachedJwks)
  | fetchJwks (url : String)
  | instant
  | unixTimestamp
  | readBody
  | readJsonBlob (blobPath : String)
  | checkDatabase
  | listTileSets (limit offset : ℕ)
  | listIngestRuns (limit offset : ℕ)
  | listProcessingRuns (limit offset : ℕ)
  | processingMessageForRequeue (ingestId : Uuid)
  | triggerIngest (requestId : Uuid)
  | enqueueProcessingMessage (messageText : String)
  | checkProcessingQueue
  | checkReadiness
  | emitAdminAudit (audit : AdminAudit)
  | runHandler (handler : Handler) (body : List UInt8)
deriving DecidableEq

namespace GatewayCall

abbrev Reply : GatewayCall → Type
  | incrementWindow _ _ => Option WindowSnapshot
  | readJwksCache => Option CachedJwks
  | writeJwksCache _ => Unit
  | fetchJwks _ => Except JwksFetchError Jwks
  | instant => ℕ
  | unixTimestamp => ℕ
  | readBody => Bool
  | readJsonBlob _ => Except StorageError Json
  | checkDatabase => Except DbError Unit
  | listTileSets _ _ => Except DbError (List Json)
  | listIngestRuns _ _ => Except DbError (List Json)
  | listProcessingRuns _ _ => Except DbError (List Json)
  | processingMessageForRequeue _ => Except DbError ProcessingRequeueRecord
  | triggerIngest _ => Except UpstreamError Json
  | enqueueProcessingMessage _ => Except UpstreamError Unit
  | checkProcessingQueue => Except UpstreamError Unit
  | checkReadiness => Bool
  | emitAdminAudit _ => Unit
  | runHandler _ _ => Unit

/-- The calls that are awaited; reading a clock and leaving a mark are not. -/
def waits : GatewayCall → Bool
  | instant | unixTimestamp | emitAdminAudit _ | runHandler _ _ => false
  | _ => true

end GatewayCall

abbrev GatewayProgram (α : Type) := Program GatewayCall GatewayCall.Reply α

abbrev GatewayHistory := Transcript GatewayCall GatewayCall.Reply

/-- A request with the timeout of its route around a part of it. -/
abbrev TimedProgram (α : Type) :=
  Program (Program.Timed GatewayCall) (Program.Timed.Reply GatewayCall.Reply) α

abbrev TimedHistory :=
  Transcript (Program.Timed GatewayCall) (Program.Timed.Reply GatewayCall.Reply)

namespace GatewayProgram

def call (c : GatewayCall) : GatewayProgram c.Reply := Program.request c

def incrementWindow (key : String) (window : ℕ) : GatewayProgram (Option WindowSnapshot) :=
  call (.incrementWindow key window)

def readJwksCache : GatewayProgram (Option CachedJwks) := call .readJwksCache

def writeJwksCache (cached : CachedJwks) : GatewayProgram Unit := call (.writeJwksCache cached)

def fetchJwks (url : String) : GatewayProgram (Except JwksFetchError Jwks) :=
  call (.fetchJwks url)

def instant : GatewayProgram ℕ := call .instant

def unixTimestamp : GatewayProgram ℕ := call .unixTimestamp

/-- Whether the client's stream came to its end without an error. -/
def readBody : GatewayProgram Bool := call .readBody

def readJsonBlob (blobPath : String) : GatewayProgram (Except StorageError Json) :=
  call (.readJsonBlob blobPath)

def checkDatabase : GatewayProgram (Except DbError Unit) := call .checkDatabase

def listTileSets (limit offset : ℕ) : GatewayProgram (Except DbError (List Json)) :=
  call (.listTileSets limit offset)

def listIngestRuns (limit offset : ℕ) : GatewayProgram (Except DbError (List Json)) :=
  call (.listIngestRuns limit offset)

def listProcessingRuns (limit offset : ℕ) : GatewayProgram (Except DbError (List Json)) :=
  call (.listProcessingRuns limit offset)

def processingMessageForRequeue (ingestId : Uuid) :
    GatewayProgram (Except DbError ProcessingRequeueRecord) :=
  call (.processingMessageForRequeue ingestId)

def triggerIngest (requestId : Uuid) : GatewayProgram (Except UpstreamError Json) :=
  call (.triggerIngest requestId)

def enqueueProcessingMessage (messageText : String) : GatewayProgram (Except UpstreamError Unit) :=
  call (.enqueueProcessingMessage messageText)

def checkProcessingQueue : GatewayProgram (Except UpstreamError Unit) := call .checkProcessingQueue

def checkReadiness : GatewayProgram Bool := call .checkReadiness

def emitAdminAudit (requestId : Uuid) (admin : AdminContext) (action : String)
    (targetId : Option Uuid) (outcome : String) (statusCode : ℕ) : GatewayProgram Unit :=
  call (.emitAdminAudit {
    requestId := requestId
    actor := admin
    action := action
    targetId := targetId
    outcome := outcome
    statusCode := statusCode })

def runHandler (handler : Handler) (body : List UInt8) : GatewayProgram Unit :=
  call (.runHandler handler body)

end GatewayProgram

open GatewayProgram

/-- `RateLimiter::check`. -/
def checkRateLimit (key : String) (routeClass : RouteClass) :
    GatewayProgram (Except GatewayError Unit) := do
  match ← incrementWindow (rateLimitKey routeClass key) rateLimitWindow with
  | none => pure (.error (.serviceUnavailable "rate-limit store is unavailable"))
  | some snapshot =>
    if snapshot.count > routeClass.policy.allowedInWindow then
      pure (.error (.rateLimited snapshot.retryAfterSeconds))
    else pure (.ok ())

/-- The store let the request through in its window. -/
def Admitted (routeClass : RouteClass) (snapshot : WindowSnapshot) : Prop :=
  snapshot.count ≤ routeClass.policy.allowedInWindow

instance (routeClass : RouteClass) (snapshot : WindowSnapshot) :
    Decidable (Admitted routeClass snapshot) := inferInstanceAs (Decidable (_ ≤ _))

def checkOutcome (routeClass : RouteClass) : Option WindowSnapshot → Except GatewayError Unit
  | none => .error (.serviceUnavailable "rate-limit store is unavailable")
  | some snapshot =>
    if Admitted routeClass snapshot then .ok () else .error (.rateLimited snapshot.retryAfterSeconds)

theorem checkOutcome_eq_ok_iff {routeClass : RouteClass} {reply : Option WindowSnapshot} :
    checkOutcome routeClass reply = .ok () ↔
      ∃ snapshot, reply = some snapshot ∧ Admitted routeClass snapshot := by
  cases reply with
  | none => simp [checkOutcome]
  | some snapshot => by_cases h : Admitted routeClass snapshot <;> simp [checkOutcome, h]

theorem checkRateLimit_eq (key : String) (routeClass : RouteClass) :
    checkRateLimit key routeClass =
      Program.call (.incrementWindow (rateLimitKey routeClass key) rateLimitWindow)
        fun reply => Program.done (checkOutcome routeClass reply) := by
  unfold checkRateLimit incrementWindow GatewayProgram.call
  rw [Program.request_bind]
  congr 1
  funext reply
  cases reply with
  | none => rfl
  | some snapshot =>
    by_cases h : snapshot.count > routeClass.policy.allowedInWindow
    · simp [h, checkOutcome, Admitted, not_le.mpr h]
    · simp [h, checkOutcome, Admitted, not_lt.mp h]

theorem checkRateLimit_meets {key : String} {routeClass : RouteClass}
    {guar : GatewayHistory → GatewayCall → Prop} {t : GatewayHistory}
    (h : guar t (.incrementWindow (rateLimitKey routeClass key) rateLimitWindow)) :
    (checkRateLimit key routeClass).Meets (fun _ _ => True) guar
      (fun t' outcome => ∃ reply,
        t' = ⟨.incrementWindow (rateLimitKey routeClass key) rateLimitWindow, reply⟩ :: t ∧
          outcome = checkOutcome routeClass reply) t := by
  rw [checkRateLimit_eq]
  exact Program.Meets.call h fun reply _ => ⟨reply, rfl, rfl⟩

end LumenHorizon.Gateway
