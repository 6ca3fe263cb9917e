import LumenHorizon.Gateway.Gates

/-! # The limits on a request

The hardening compares the length of the path alone, and of a body what its header declares. What
a handler is given keeps to the limits exactly if the query fits behind the path and the body is
no longer than declared, or short by itself.
-/

namespace LumenHorizon.Gateway
open Foundation Shared SlippyTiles

/-- The length that the hardening takes a body for. -/
def declaredLength (request : Request) : ℕ := (contentLength request.headers).getD 0

theorem validateRequestHardening_eq_ok {config : AppConfig} {request : Request}
    (h : validateRequestHardening config request = .ok ()) :
    byteLength request.path ≤ config.maxUrlLengthBytes ∧
      (request.method = "GET" → declaredLength request = 0) ∧
      (startsWith request.path adminPrefix = true → request.method = "POST" →
        declaredLength request ≤ config.adminMaxBodyBytes) := by
  unfold validateRequestHardening at h
  split_ifs at h with hlength hmethod hget hadmin hbody hjson
  · refine ⟨not_lt.mp hlength, fun hmethod => ?_, fun _ _ => not_lt.mp hbody⟩
    rw [hadmin.2] at hmethod
    exact absurd hmethod (by decide)
  · refine ⟨not_lt.mp hlength, fun hmethod => ?_, fun hadminPath hpost => ?_⟩
    · have hnone : ¬ declaredLength request > 0 := fun hpos => hget ⟨hmethod, hpos⟩
      omega
    · exact absurd ⟨hadminPath, hpost⟩ hadmin

/-- The documented limits, for a handler that is given this body. -/
structure WithinLimits (config : AppConfig) (request : Request) (handler : Handler)
    (body : List UInt8) : Prop where
  uri : request.uriLength ≤ config.maxUrlLengthBytes
  get : request.method = "GET" → request.body = []
  adminPost : handler.isAdmin = true → request.method = "POST" →
    body.length ≤ config.adminMaxBodyBytes

/-- What the checks do not look at keeps to the limits: the query, and bytes that no header
declares. -/
structure UncheckedFits (config : AppConfig) (request : Request) : Prop where
  query : ∀ query, request.query = some query →
    byteLength query + 1 ≤ config.maxUrlLengthBytes - byteLength request.path
  get : request.method = "GET" → request.body.length ≤ declaredLength request
  post : request.method = "POST" → declaredLength request < request.body.length →
    request.body.length ≤ config.adminMaxBodyBytes

section Begins

variable {K : Type} [Field K] [LinearOrder K] (P : LatitudeProjection K) (decoders : Decoders K)
  (state : AppState) (request : Request) (fresh : Uuid) (handler : Handler) (body : List UInt8)

/-- In some run of the request the handler begins with this body. -/
def Begins : Prop :=
  ∃ t t' rest, (serve P decoders state request fresh).Follows
    (t' ++ ⟨.plain (.runHandler handler body), ()⟩ :: t) rest

variable {P decoders state request fresh handler body}

/-- A request that gets to a handler is within the limits exactly if what was not checked is. -/
theorem withinLimits_iff (h : Begins P decoders state request fresh handler body) :
    WithinLimits state.config request handler body ↔ UncheckedFits state.config request := by
  obtain ⟨t, t', rest, hrun⟩ := h
  have hgated := handlers_gated P fresh hrun
  obtain ⟨params, hroute⟩ := hgated.routed
  obtain ⟨hpath, hget, hpost⟩ := validateRequestHardening_eq_ok hgated.hardened
  have hadmin (hmethod : request.method = "POST") : handler.isAdmin = true :=
    Handler.isAdmin_of_answers_post (hmethod ▸ hgated.answers)
  constructor
  · intro hlimits
    refine ⟨fun query hquery => ?_, fun hmethod => ?_, fun hmethod _ => ?_⟩
    · have huri := hlimits.uri
      simp only [Request.uriLength, hquery, Option.map_some, Option.getD_some] at huri
      omega
    · simp [hlimits.get hmethod]
    · rw [← (hgated.posted hmethod).1]
      exact hlimits.adminPost (hadmin hmethod) hmethod
  · intro hfits
    refine ⟨?_, fun hmethod => ?_, fun hadmin hmethod => ?_⟩
    · unfold Request.uriLength
      cases hquery : request.query with
      | none => simpa using hpath
      | some query =>
        have hrest := hfits.query query hquery
        simp only [Option.map_some, Option.getD_some]
        omega
    · have hlength := hfits.get hmethod
      rw [hget hmethod] at hlength
      exact List.eq_nil_of_length_eq_zero (Nat.le_zero.mp hlength)
    · rw [(hgated.posted hmethod).1]
      have hadminPath : startsWith request.path adminPrefix = true := by
        rw [startsWith_adminPrefix_of_matchRoute hroute, hadmin]
      have hdeclared := hpost hadminPath hmethod
      by_cases hlength : declaredLength request < request.body.length
      · exact hfits.post hmethod hlength
      · omega

end Begins

/-- A run of the sample gateway, in its configuration or another one, which begins a handler. -/
theorem begins_of_replay {state : AppState} {request : Request} {handler : Handler}
    {body : List UInt8} (before after : List (Σ c, GatewayCall.Reply c))
    (h : ((serve linearProjection (sampleDecoders (.ofGenerated sampleTileSet.manifest)) state
      request 0).replay
        ((before ++ ⟨.runHandler handler body, ()⟩ :: after).map inTime)).isSome = true) :
    Begins linearProjection (sampleDecoders (.ofGenerated sampleTileSet.manifest)) state request 0
      handler body := by
  obtain ⟨response, hrun⟩ := Program.exists_follows_of_replay h
  rw [List.map_append, List.map_cons, List.reverse_append, List.reverse_cons,
    List.append_assoc] at hrun
  exact ⟨_, _, _, hrun⟩

theorem withinLimits_sampleListing :
    WithinLimits sampleState.config sampleListing .listIngestRuns [] ↔
      UncheckedFits sampleState.config sampleListing :=
  withinLimits_iff (begins_of_replay sampleListingGate [⟨.listIngestRuns 51 0, .ok []⟩]
    (by decide +kernel))

def tightState : AppState :=
  { sampleState with
    config := { sampleState.config with maxUrlLengthBytes := 64, adminMaxBodyBytes := 2 } }

def longListing : Request :=
  { sampleListing with query := some (String.ofList (List.replicate 64 'a')) }

/-- A body in chunks, whose length no header declares. -/
def chunkedListing : Request :=
  { sampleListing with
    headers := sampleHeaders ++ [("transfer-encoding", "chunked")]
    body := [123, 125] }

def chunkedTrigger : Request where
  method := "POST"
  path := "/api/v1/admin/ingest/trigger"
  query := none
  headers := sampleHeaders ++
    [("content-type", "application/json"), ("transfer-encoding", "chunked")]
  body := [123, 32, 125]

def chunkedTriggerGate : List (Σ c, GatewayCall.Reply c) :=
  sampleCalls 1000 ++
    [⟨.incrementWindow "admin_write:operator:/ingest/trigger" 60, some ⟨1, 60⟩⟩, ⟨.readBody, true⟩]

def chunkedTriggerAudit : AdminAudit where
  requestId := 0
  actor := { subject := "operator", roles := ["lumenhorizon.admin"] }
  action := "ingest.trigger"
  targetId := none
  outcome := "validation_failed"
  statusCode := 400

/-- A handler begins with a URI that is too long, with bytes behind a `GET`, and with a body that
is too large. -/
theorem not_withinLimits :
    (Begins linearProjection (sampleDecoders (.ofGenerated sampleTileSet.manifest)) tightState
        longListing 0 .listIngestRuns [] ∧
      ¬ WithinLimits tightState.config longListing .listIngestRuns []) ∧
    (Begins linearProjection (sampleDecoders (.ofGenerated sampleTileSet.manifest)) tightState
        chunkedListing 0 .listIngestRuns [] ∧
      ¬ WithinLimits tightState.config chunkedListing .listIngestRuns []) ∧
    Begins linearProjection (sampleDecoders (.ofGenerated sampleTileSet.manifest)) tightState
        chunkedTrigger 0 .triggerIngest chunkedTrigger.body ∧
      ¬ WithinLimits tightState.config chunkedTrigger .triggerIngest chunkedTrigger.body := by
  refine ⟨⟨?_, fun h => ?_⟩, ⟨?_, fun h => ?_⟩, ?_, fun h => ?_⟩
  · exact begins_of_replay sampleListingGate [⟨.listIngestRuns 51 0, .ok []⟩] (by decide +kernel)
  · exact absurd h.uri (by decide +kernel)
  · exact begins_of_replay sampleListingGate [⟨.listIngestRuns 51 0, .ok []⟩] (by decide +kernel)
  · cases h.get rfl
  · exact begins_of_replay chunkedTriggerGate [⟨.emitAdminAudit chunkedTriggerAudit, ()⟩]
      (by decide +kernel)
  · exact absurd (h.adminPost rfl rfl) (by decide)

end LumenHorizon.Gateway
