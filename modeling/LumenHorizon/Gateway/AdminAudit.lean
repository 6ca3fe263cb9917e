import LumenHorizon.Gateway.Gates

/-! # Which admin requests are audited

An audit event is left by the exits of the two writes, and by the middleware when it refuses an
authenticated request. The middleware looks the action up under the path that nesting leaves, the
reads leave no event, and a request that is dropped while it waits leaves none either.
-/

namespace LumenHorizon.Gateway
open Foundation Shared SlippyTiles

/-- One event was left, and it names the action of the policy of this path. -/
def AuditedAs (path : String) (t : GatewayHistory) : Prop :=
  ∃ audit, audits t = [audit] ∧
    (adminRoutePolicyForPath path).map AdminRoutePolicy.action = some audit.action

theorem not_auditedAs_of_audits_eq_nil {path : String} {t : GatewayHistory} (h : audits t = []) :
    ¬ AuditedAs path t := by
  rintro ⟨audit, haudits, -⟩
  rw [h] at haudits
  cases haudits

theorem policyAction_of_writeAction {path action : String} {handler : Handler}
    {params : List String} (hroute : matchRoute path = some (handler, params))
    (haction : handler.writeAction = some action) :
    (adminRoutePolicyForPath path).map AdminRoutePolicy.action = some action := by
  cases matchRoute_shape hroute with
  | static hstatic =>
    have hall : staticRoutes.all (fun route => route.2.writeAction.all fun action =>
        (adminRoutePolicyForPath route.1).map AdminRoutePolicy.action = some action) = true := by
      decide +kernel
    simpa [haction] using List.all_eq_true.mp hall _ hstatic
  | _ => cases haction

/-- No policy has the path that nesting leaves, nor the action for a path without one. -/
theorem policyAction_ne_nested {path : String} {handler : Handler} {params : List String}
    (hroute : matchRoute path = some (handler, params)) (hadmin : handler.isAdmin = true) :
    (adminRoutePolicyForPath path).map AdminRoutePolicy.action ≠
      some (actionForPath (nestedPath path)) := by
  cases matchRoute_shape hroute with
  | static hstatic =>
    have hall : staticRoutes.all (fun route => !route.2.isAdmin ||
        decide ((adminRoutePolicyForPath route.1).map AdminRoutePolicy.action ≠
          some (actionForPath (nestedPath route.1)))) = true := by decide +kernel
    simpa [hadmin] using List.all_eq_true.mp hall _ hstatic
  | _ => cases hadmin

theorem Handler.post_of_writeAction {handler : Handler} {method : String}
    (hanswers : handler.answers method = true) (hwrite : handler.writeAction.isSome = true) :
    method = "POST" := by
  cases handler with
  | triggerIngest => simpa [answers] using hanswers
  | requeueProcessingItem => simpa [answers] using hanswers
  | _ => cases hwrite

variable {K : Type} (decoders : Decoders K) (state : AppState) (request : Request)

/-- A write that was let through with its whole body. -/
structure WriteAccepted (handler : Handler) (admin : AdminContext) (t : GatewayHistory) : Prop where
  write : handler.writeAction.isSome = true
  post : request.method = "POST"
  admitted : ∃ snapshot, ⟨adminCheck request admin, some snapshot⟩ ∈ t ∧
    Admitted (adminRouteClass request.method) snapshot
  body : BodyAccepted request t

/-- The history begins with a successful authentication. -/
def Authenticated (admin : AdminContext) (t : GatewayHistory) : Prop :=
  ∃ auth, auth <:+ t ∧ Authenticates decoders state request auth (.ok admin)

/-- At its end an authenticated request is audited if it is an accepted write. -/
def AuditedIfWrite (handler : Handler) (t : GatewayHistory) : Prop :=
  ∀ admin, Authenticated decoders state request admin t →
    (AuditedAs request.path t ↔ WriteAccepted request handler admin t)

variable {decoders state request}

theorem Authenticates.unique {auth t : GatewayHistory} {outcome : Except GatewayError AdminContext}
    {admin : AdminContext} (h : Authenticates decoders state request auth outcome)
    (ht : auth <:+ t) (hadmin : Authenticated decoders state request admin t) :
    outcome = .ok admin := by
  obtain ⟨auth', ht', hauth'⟩ := hadmin
  exact (Program.Follows.unique h hauth' ht ht').2

theorem adminHandler_audited [Field K] [LinearOrder K] {handler : Handler} {params : List String}
    {admin : AdminContext} {auth : GatewayHistory} {snapshot : WindowSnapshot}
    (requestId : Uuid) (honly : OnlyAuth auth)
    (hroute : matchRoute request.path = some (handler, params)) (hadmin : handler.isAdmin = true)
    (hanswers : handler.answers request.method = true)
    (hauth : Authenticates decoders state request auth (.ok admin))
    (hadmitted : Admitted (adminRouteClass request.method) snapshot) :
    (adminHandler decoders state requestId request handler admin).Meets (fun _ _ => True)
      (fun t c => c.waits = true → audits t = [])
      (fun t _ => AuditedIfWrite decoders state request handler t)
      (⟨adminCheck request admin, some snapshot⟩ :: auth) := by
  set t₀ : GatewayHistory := ⟨adminCheck request admin, some snapshot⟩ :: auth
  have ht₀ : audits t₀ = [] := honly.audits_checked request
  have hunread : ⟨.readBody, true⟩ ∉ t₀ := honly.readBody_notMem request
  have hhandler := adminHandler_meets decoders state requestId request ht₀ hunread hadmin hanswers
    admin
  apply (hhandler.traced (t := []) .start).mono
  · rintro t c ⟨⟨hwaits, -⟩, -⟩
    exact hwaits
  · rintro t response ⟨haudits, t₁, rfl, -⟩ admin' hauth'
    have hsuffix : auth <:+ t₁ ++ t₀ := (List.suffix_cons _ _).trans (List.suffix_append _ _)
    cases hauth.unique hsuffix hauth'
    cases haction : handler.writeAction with
    | none =>
      rw [haction] at haudits
      constructor
      · exact fun h => absurd h (not_auditedAs_of_audits_eq_nil haudits)
      · intro h
        have hwrite := h.write
        rw [haction] at hwrite
        cases hwrite
    | some action =>
      rw [haction] at haudits
      have hwrite : handler.writeAction.isSome = true := by rw [haction]; rfl
      constructor
      · intro haudited
        have haccepted : BodyAccepted request (t₁ ++ t₀) := by
          by_contra h
          exact not_auditedAs_of_audits_eq_nil (haudits.2 h) haudited
        exact ⟨hwrite, Handler.post_of_writeAction hanswers hwrite,
          ⟨snapshot, List.mem_append_right _ List.mem_cons_self, hadmitted⟩, haccepted⟩
      · intro h
        obtain ⟨audit, haudit, rfl⟩ := haudits.1 h.body
        exact ⟨audit, haudit, policyAction_of_writeAction hroute haction⟩

/-- A refused request leaves one event, which names no policy's action. -/
theorem auditedError_audited {handler : Handler} {params : List String} {admin : AdminContext}
    {auth : GatewayHistory} {reply : Option WindowSnapshot} (requestId : Uuid)
    (honly : OnlyAuth auth) (hroute : matchRoute request.path = some (handler, params))
    (hadmin : handler.isAdmin = true) (outcome : String) (error : GatewayError) :
    (auditedError requestId admin (actionForPath (nestedPath request.path)) none outcome
      error).Meets (fun _ _ => True) (fun t c => c.waits = true → audits t = [])
      (fun t _ => AuditedIfWrite decoders state request handler t)
      (⟨adminCheck request admin, reply⟩ :: auth) := by
  apply Program.Meets.request_bind (fun h => by cases h)
  rintro _ - admin' -
  constructor
  · rintro ⟨audit, haudits, haction⟩
    rw [audits_emit, honly.audits_checked request] at haudits
    cases haudits
    exact absurd haction (policyAction_ne_nested hroute hadmin)
  · intro h
    rcases List.mem_cons.mp h.body.1 with hread | hread
    · cases hread
    · exact absurd hread (honly.readBody_notMem request)

theorem route_audited [Field K] [LinearOrder K] (P : LatitudeProjection K) {handler : Handler}
    {params : List String} (requestId : Uuid)
    (hroute : matchRoute request.path = some (handler, params)) (hadmin : handler.isAdmin = true) :
    (route P decoders state requestId request).Meets (fun _ _ => True)
      (fun t c => c.waits = true → audits t = [])
      (fun t _ => AuditedIfWrite decoders state request handler t) [] := by
  unfold route dispatch
  rw [hroute]
  dsimp only
  rw [if_pos hadmin]
  apply requireAdmin_meets
  · exact fun t c honly _ _ => honly.audits_eq_nil
  · intro error error' auth entry hauth admin hauth'
    cases hauth.unique (List.suffix_cons entry auth) hauth'
  · intro admin auth reply error honly _ _
    exact auditedError_audited requestId honly hroute hadmin _ _
  · intro admin auth snapshot honly hauth hadmitted
    split_ifs with hanswers
    · exact adminHandler_audited requestId honly hroute hadmin hanswers hauth hadmitted
    · intro admin' _
      constructor
      · exact fun h => absurd h (not_auditedAs_of_audits_eq_nil (honly.audits_checked request))
      · exact fun h => absurd h.body.1 (honly.readBody_notMem request)

/-- An accepted token was decoded at a reading of the clock. -/
theorem not_onlyChecks_of_authenticated {admin : AdminContext} {t : GatewayHistory}
    (h : Authenticated decoders state request admin t) : ¬ OnlyChecks t := by
  obtain ⟨auth, hsuffix, hauth⟩ := h
  obtain ⟨token, -, ⟨acceptance⟩⟩ := authenticateWithRole_follows_ok hauth
  obtain ⟨decodedAt, checkedAt, earlier, hhistory⟩ :
      ∃ decodedAt checkedAt, ReadsClock auth decodedAt checkedAt := ⟨_, _, _, acceptance.history⟩
  intro hchecks
  have hmem : ⟨.unixTimestamp, checkedAt⟩ ∈ auth := by
    rw [hhistory]
    exact List.mem_cons_self
  obtain ⟨key, window, heq⟩ := hchecks _ (hsuffix.subset hmem)
  cases heq

section Runs

variable [Field K] [LinearOrder K] (P : LatitudeProjection K) (fresh : Uuid)

structure AdminRun (decoders : Decoders K) (state : AppState) (request : Request) (fresh : Uuid)
    (handler : Handler) (admin : AdminContext) (t : TimedHistory) : Prop where
  ended : ∃ response, (serve P decoders state request fresh).Follows t (.done response)
  routed : ∃ params, matchRoute request.path = some (handler, params)
  isAdmin : handler.isAdmin = true
  authenticated : Authenticated decoders state request admin (Program.answered t)

/-- An authenticated request is audited, once and under its action, exactly if it is a write that
is let through with its body and ends in time. -/
theorem audited_iff {fresh : Uuid} {handler : Handler} {admin : AdminContext} {t : TimedHistory}
    (h : AdminRun P decoders state request fresh handler admin t) :
    AuditedAs request.path (Program.answered t) ↔
      WriteAccepted request handler admin (Program.answered t) ∧ ¬ Program.Cut t := by
  obtain ⟨⟨response, hrun⟩, ⟨params, hroute⟩, hadmin, hauth⟩ := h
  have hserve := serve_meets decoders state request P fresh (fun _ _ _ => rfl)
    fun requestId t hpassed => passed_admin hpassed hroute hadmin ▸
      route_audited P requestId hroute hadmin
  obtain ⟨requestId, inner, -, hend⟩ := hserve.post_of_follows hrun
  cases hend with
  | refused error hstatus hchecks => exact absurd hchecks (not_onlyChecks_of_authenticated hauth)
  | answered hpost hcut =>
    rw [hpost admin hauth]
    exact ⟨fun hwrite => ⟨hwrite, hcut⟩, And.left⟩
  | dropped hcut hwaits hguar =>
    constructor
    · exact fun haudited => absurd haudited (not_auditedAs_of_audits_eq_nil (hguar hwaits))
    · exact fun hwrite => absurd hcut hwrite.2

end Runs

/-- The operator triggers an ingest without a body. -/
def sampleTrigger : Request where
  method := "POST"
  path := "/api/v1/admin/ingest/trigger"
  query := none
  headers := sampleHeaders ++ [("content-type", "application/json")]
  body := []

def sampleOperator : AdminContext := { subject := "operator", roles := ["lumenhorizon.admin"] }

def sampleTriggerAudit (action outcome : String) (status : ℕ) : AdminAudit where
  requestId := 0
  actor := sampleOperator
  action := action
  targetId := none
  outcome := outcome
  statusCode := status

/-- After the authentication, up to the call to the ingest service. -/
def sampleTriggerCalls : List (Σ c, GatewayCall.Reply c) :=
  [⟨.incrementWindow "admin_write:operator:/ingest/trigger" 60, some ⟨1, 60⟩⟩, ⟨.readBody, true⟩,
    ⟨.runHandler .triggerIngest [], ()⟩]

def acceptedTriggerCalls : List (Σ c, GatewayCall.Reply c) :=
  sampleTriggerCalls ++ [⟨.triggerIngest 0, .ok "run"⟩,
    ⟨.emitAdminAudit (sampleTriggerAudit "ingest.trigger" "success" 202), ()⟩]

/-- The operator has spent the budget of the minute. -/
def limitedTriggerCalls : List (Σ c, GatewayCall.Reply c) :=
  [⟨.incrementWindow "admin_write:operator:/ingest/trigger" 60, some ⟨16, 60⟩⟩,
    ⟨.emitAdminAudit (sampleTriggerAudit "admin.request" "rate_limited" 429), ()⟩]

def listedRunsCalls : List (Σ c, GatewayCall.Reply c) :=
  ⟨.incrementWindow "admin_read:operator:/ingest/runs" 60, some ⟨1, 60⟩⟩ :: sampleListingBody

/-- A run of the sample gateway after the operator is authenticated, the last call first. -/
def afterSampleAuth (rest : List (Σ c : Program.Timed GatewayCall,
    Program.Timed.Reply GatewayCall.Reply c)) : TimedHistory :=
  ((sampleCalls 1000).map inTime ++ rest).reverse

def acceptedTrigger : TimedHistory := afterSampleAuth (acceptedTriggerCalls.map inTime)

def limitedTrigger : TimedHistory := afterSampleAuth (limitedTriggerCalls.map inTime)

/-- The route times out while the ingest service works. -/
def droppedTrigger : TimedHistory :=
  afterSampleAuth (sampleTriggerCalls.map inTime ++ [⟨.awaited (.triggerIngest 0), none⟩])

def listedRuns : TimedHistory := afterSampleAuth (listedRunsCalls.map inTime)

abbrev SampleAdminRun (request : Request) (handler : Handler) (t : TimedHistory) : Prop :=
  AdminRun linearProjection (sampleDecoders (.ofGenerated sampleTileSet.manifest)) sampleState
    request 0 handler sampleOperator t

theorem sampleAdminRun {request : Request} {handler : Handler}
    {rest : List (Σ c : Program.Timed GatewayCall, Program.Timed.Reply GatewayCall.Reply c)}
    (hauth : Authenticates (sampleDecoders (.ofGenerated sampleTileSet.manifest)) sampleState
      request (sampleCalls 1000).reverse (.ok sampleOperator))
    (hroute : ∃ params, matchRoute request.path = some (handler, params))
    (hadmin : handler.isAdmin = true)
    (hreplay : ((sampleServe request).replay ((sampleCalls 1000).map inTime ++ rest)).isSome = true) :
    SampleAdminRun request handler (afterSampleAuth rest) := by
  refine ⟨Program.exists_follows_of_replay hreplay, hroute, hadmin, _, ?_, hauth⟩
  rw [afterSampleAuth, List.reverse_append, Program.answered_append]
  exact List.suffix_append _ _

theorem authenticates_sampleTrigger :
    Authenticates (sampleDecoders (.ofGenerated sampleTileSet.manifest)) sampleState sampleTrigger
      (sampleCalls 1000).reverse (.ok sampleOperator) :=
  Program.follows_of_replay (by decide +kernel)

theorem authenticates_sampleListing :
    Authenticates (sampleDecoders (.ofGenerated sampleTileSet.manifest)) sampleState sampleListing
      (sampleCalls 1000).reverse (.ok sampleOperator) :=
  Program.follows_of_replay (by decide +kernel)

theorem audited_iff_acceptedTrigger :
    AuditedAs sampleTrigger.path (Program.answered acceptedTrigger) ↔
      WriteAccepted sampleTrigger .triggerIngest sampleOperator
        (Program.answered acceptedTrigger) ∧ ¬ Program.Cut acceptedTrigger :=
  audited_iff linearProjection (sampleAdminRun authenticates_sampleTrigger
    ⟨[], by decide +kernel⟩ rfl (by decide +kernel))

/-- A read leaves no event, a refused write one with another action, and a write that is dropped
while the ingest service works none. -/
theorem not_audited :
    (SampleAdminRun sampleListing .listIngestRuns listedRuns ∧
      ¬ AuditedAs sampleListing.path (Program.answered listedRuns)) ∧
    (SampleAdminRun sampleTrigger .triggerIngest limitedTrigger ∧
      ¬ AuditedAs sampleTrigger.path (Program.answered limitedTrigger)) ∧
    SampleAdminRun sampleTrigger .triggerIngest droppedTrigger ∧
      ¬ AuditedAs sampleTrigger.path (Program.answered droppedTrigger) := by
  refine ⟨⟨?_, ?_⟩, ⟨?_, ?_⟩, ?_, ?_⟩
  · exact sampleAdminRun authenticates_sampleListing ⟨[], by decide +kernel⟩ rfl (by decide +kernel)
  · exact not_auditedAs_of_audits_eq_nil rfl
  · exact sampleAdminRun authenticates_sampleTrigger ⟨[], by decide +kernel⟩ rfl (by decide +kernel)
  · rintro ⟨audit, haudits, haction⟩
    have hone : audits (Program.answered limitedTrigger) =
        [sampleTriggerAudit "admin.request" "rate_limited" 429] := rfl
    rw [hone] at haudits
    cases haudits
    exact absurd haction (by decide +kernel)
  · exact sampleAdminRun authenticates_sampleTrigger ⟨[], by decide +kernel⟩ rfl (by decide +kernel)
  · exact not_auditedAs_of_audits_eq_nil rfl

end LumenHorizon.Gateway
