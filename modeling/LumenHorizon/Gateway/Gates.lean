import LumenHorizon.Gateway.Admission

/-! # No handler runs without its gate

The middleware reads the gate off the raw path, the router finds the handler. For every path that
the router knows the two agree, so that the body of a handler begins after its check only.
-/

namespace LumenHorizon.Gateway
open Foundation Shared SlippyTiles GatewayProgram

theorem startsWith_append_eq_false {front pattern : String} (rest : String)
    (hlength : pattern.toList.length ≤ front.toList.length) (h : startsWith front pattern = false) :
    startsWith (front ++ rest) pattern = false := by
  by_contra hstarts
  rw [Bool.not_eq_false, startsWith, List.isPrefixOf_iff_prefix, String.toList_append] at hstarts
  have hfront := List.prefix_of_prefix_length_le hstarts (List.prefix_append _ _) hlength
  rw [startsWith, List.isPrefixOf_iff_prefix.mpr hfront] at h
  cases h

theorem startsWith_adminPrefix_of_matchRoute {path : String} {handler : Handler}
    {params : List String} (h : matchRoute path = some (handler, params)) :
    startsWith path adminPrefix = handler.isAdmin := by
  cases matchRoute_shape h with
  | static hstatic =>
    have hall : staticRoutes.all (fun route =>
        startsWith route.1 adminPrefix == route.2.isAdmin) = true := by decide +kernel
    simpa using List.all_eq_true.mp hall _ hstatic
  | manifest hne hslash => exact startsWith_append_eq_false _ (by decide) (by decide)
  | tile hne => exact startsWith_append_eq_false _ (by decide) (by decide)
  | site hne hslash => exact startsWith_append_eq_false _ (by decide) (by decide)
  | score => exact startsWith_append_eq_false _ (by decide) (by decide)

theorem routeClassForPublic_of_isPublicApi {path : String} {handler : Handler}
    {params : List String} (h : matchRoute path = some (handler, params))
    (hpublic : handler.isPublicApi = true) :
    ∃ routeClass, routeClassForPublic "GET" path = some routeClass ∧ routeClass.isPublic = true := by
  have hsites : "/api/v1/sites/" = "/api/v1/sites" ++ "/" := rfl
  have hstarts : startsWith path "/api/v1/tiles/" = true ∨ startsWith path "/api/v1/sites" = true := by
    cases matchRoute_shape h with
    | static hstatic =>
      have hall : staticRoutes.all (fun route => !route.2.isPublicApi ||
          (startsWith route.1 "/api/v1/tiles/" || startsWith route.1 "/api/v1/sites")) = true := by
        decide +kernel
      simpa [hpublic] using List.all_eq_true.mp hall _ hstatic
    | manifest hne hslash => exact .inl (startsWith_of_isTile h rfl)
    | tile hne => exact .inl (startsWith_of_isTile h rfl)
    | site hne hslash =>
      right
      rw [hsites, String.append_assoc]
      exact startsWith_append _ _
    | score =>
      right
      rw [hsites, String.append_assoc]
      exact startsWith_append _ _
  unfold routeClassForPublic
  rw [if_neg (by simp)]
  by_cases himage : endsWith path ".png" = true ∧ startsWith path "/api/v1/tiles/" = true
  · exact ⟨.tileRedirect, by simp [himage], rfl⟩
  by_cases htiles : startsWith path "/api/v1/tiles/" = true
  · exact ⟨.publicTileMetadata, by simp_all, rfl⟩
  · exact ⟨.publicSiteRead, by simp_all, rfl⟩

theorem expectedMethodForApiPath_isSome {path : String} {handler : Handler} {params : List String}
    (h : matchRoute path = some (handler, params)) :
    expectedMethodForApiPath path = some "get" ∨ expectedMethodForApiPath path = some "post" := by
  unfold expectedMethodForApiPath
  cases hpolicy : adminRoutePolicyForPath path with
  | some policy =>
    have hall : adminRoutePolicies.all (fun policy =>
        policy.method = "get" || policy.method = "post") = true := by decide
    simpa using List.all_eq_true.mp hall policy (List.mem_of_find?_eq_some hpolicy)
  | none =>
    left
    cases matchRoute_shape h with
    | static hstatic =>
      have hall : staticRoutes.all (fun route =>
          (adminRoutePolicyForPath route.1).isSome || expectedMethodForApiPath route.1 = some "get") =
            true := by decide +kernel
      have hroute : expectedMethodForApiPath path = some "get" := by
        simpa [hpolicy] using List.all_eq_true.mp hall _ hstatic
      rw [expectedMethodForApiPath, hpolicy] at hroute
      exact hroute
    | manifest hne hslash => simp [startsWith_append]
    | tile hne => simp [startsWith_append]
    | site hne hslash => simp [startsWith_append]
    | score => simp [startsWith_append]

theorem Handler.isAdmin_of_isPublicApi {handler : Handler} (h : handler.isPublicApi = true) :
    handler.isAdmin = false := by
  cases handler <;> first | rfl | cases h

theorem Handler.isAdmin_of_answers_post {handler : Handler} (h : handler.answers "POST" = true) :
    handler.isAdmin = true := by
  cases handler <;> first | rfl | cases h

/-- A handler that a hardened request gets to answers `GET` or `POST`. -/
theorem method_of_hardened {config : AppConfig} {request : Request} {handler : Handler}
    {params : List String} (hhardened : validateRequestHardening config request = .ok ())
    (hroute : matchRoute request.path = some (handler, params))
    (hanswers : handler.answers request.method = true) :
    request.method = "GET" ∨ request.method = "POST" := by
  by_contra hmethod
  obtain ⟨hget, hpost⟩ := not_or.mp hmethod
  have hhead : request.method = "HEAD" := by
    cases handler <;> simp_all [Handler.answers]
  unfold validateRequestHardening at hhardened
  split_ifs at hhardened with _ hexpected
  all_goals
    apply hexpected
    rw [hhead]
    rcases expectedMethodForApiPath_isSome hroute with h | h <;> rw [h] <;> decide

variable {K : Type} (decoders : Decoders K) (state : AppState) (requestId : Uuid)
  (request : Request)

/-- The request was authenticated for the configured role, and then charged to its subject. -/
def AdminGate (t : GatewayHistory) : Prop :=
  ∃ admin auth snapshot later, t = later ++ ⟨adminCheck request admin, some snapshot⟩ :: auth ∧
    Authenticates decoders state request auth (.ok admin) ∧
    Admitted (adminRouteClass request.method) snapshot

def PublicGate (t : GatewayHistory) : Prop :=
  ∃ routeClass snapshot, RouteClass.isPublic routeClass = true ∧ Admitted routeClass snapshot ∧
    t = [⟨.incrementWindow (rateLimitKey routeClass (clientKeyFromHeaders request.headers))
      rateLimitWindow, some snapshot⟩]

/-- What there is to know where the body of a handler begins. -/
structure Gated (handler : Handler) (body : List UInt8) (t : GatewayHistory) : Prop where
  hardened : validateRequestHardening state.config request = .ok ()
  routed : ∃ params, matchRoute request.path = some (handler, params)
  answers : handler.answers request.method = true
  posted : request.method = "POST" →
    body = request.body ∧ request.body.length ≤ defaultBodyLimit
  admin : handler.isAdmin = true → AdminGate decoders state request t
  publicApi : handler.isPublicApi = true → PublicGate request t

/-- What may be called after the history, as far as handlers go. -/
def GatedRun (t : GatewayHistory) (c : GatewayCall) : Prop :=
  ∀ handler body, c = .runHandler handler body → Gated decoders state request handler body t

variable {decoders state request}

theorem gatedRun_of_isMark_eq_false {t : GatewayHistory} {c : GatewayCall}
    (h : c.isMark = false) : GatedRun decoders state request t c := by
  rintro handler body rfl
  cases h

theorem publicGate_of_passed {handler : Handler} {params : List String} {t : GatewayHistory}
    (hpassed : Passed state request t)
    (hroute : matchRoute request.path = some (handler, params))
    (hmethod : request.method = "GET") (hpublic : handler.isPublicApi = true) :
    PublicGate request t := by
  obtain ⟨routeClass, hclass, hisPublic⟩ := routeClassForPublic_of_isPublicApi hroute hpublic
  have hadminPath : startsWith request.path adminPrefix = false := by
    rw [startsWith_adminPrefix_of_matchRoute hroute, Handler.isAdmin_of_isPublicApi hpublic]
  have hpublicClass : publicRouteClass request = some routeClass := by
    rw [publicRouteClass, hadminPath, if_neg Bool.false_ne_true, hmethod, hclass]
  have hcheck := hpassed.2
  rw [hpublicClass] at hcheck
  obtain ⟨snapshot, hadmitted, rfl⟩ := hcheck
  exact ⟨routeClass, snapshot, hisPublic, hadmitted, rfl⟩

theorem passed_admin {handler : Handler} {params : List String} {t : GatewayHistory}
    (hpassed : Passed state request t)
    (hroute : matchRoute request.path = some (handler, params)) (hadmin : handler.isAdmin = true) :
    t = [] := by
  have hclass : publicRouteClass request = none := by
    rw [publicRouteClass, startsWith_adminPrefix_of_matchRoute hroute, if_pos hadmin]
  have hcheck := hpassed.2
  rwa [hclass] at hcheck

section Runs

variable [Field K] [LinearOrder K] (P : LatitudeProjection K)

theorem publicHandler_gated {handler : Handler} {t : GatewayHistory}
    (hgated : Gated decoders state request handler [] t) (params : List String) :
    (publicHandler P decoders state requestId request handler params).Meets (fun _ _ => True)
      (GatedRun decoders state request) (fun _ _ => True) t := by
  have hbody {body : GatewayProgram Response} {t' : GatewayHistory} (h : Unmarked body) :
      body.Meets (fun _ _ => True) (GatedRun decoders state request) (fun _ _ => True) t' :=
    (Program.Meets.of_under h t').mono (fun _ _ h => gatedRun_of_isMark_eq_false h.1)
      fun _ _ _ => trivial
  apply Program.Meets.request_bind
  · rintro handler' body hrun
    cases hrun
    exact hgated
  intro _ _
  split
  · trivial
  · exact hbody (Program.Under.bind (unmarked_call rfl) fun _ => trivial)
  · exact hbody (unmarked_of_inquiring (inquiring_latestTileManifest decoders state requestId))
  · exact hbody (unmarked_of_inquiring (inquiring_tileManifestById state requestId _))
  · apply hbody
    apply unmarked_of_inquiring
    exact inquiring_listRows decoders state requestId _ (fun _ _ => inquiring_call rfl) _
  · trivial
  · exact hbody (unmarked_of_inquiring (inquiring_tileRedirect decoders state requestId P _ _ _ _))
  · exact hbody (unmarked_of_inquiring (inquiring_searchSites decoders requestId _))
  · exact hbody (unmarked_of_inquiring (inquiring_siteDetail decoders requestId _))
  · exact hbody (unmarked_of_inquiring (inquiring_siteScore decoders requestId _))
  · trivial

theorem adminHandler_gated {handler : Handler} {params : List String} {admin : AdminContext}
    {auth : GatewayHistory} {snapshot : WindowSnapshot} (hauth : OnlyAuth auth)
    (hhardened : validateRequestHardening state.config request = .ok ())
    (hroute : matchRoute request.path = some (handler, params)) (hadmin : handler.isAdmin = true)
    (hanswers : handler.answers request.method = true)
    (hauthenticated : Authenticates decoders state request auth (.ok admin))
    (hadmitted : Admitted (adminRouteClass request.method) snapshot) :
    (adminHandler decoders state requestId request handler admin).Meets (fun _ _ => True)
      (GatedRun decoders state request) (fun _ _ => True)
      (⟨adminCheck request admin, some snapshot⟩ :: auth) := by
  apply (adminHandler_meets decoders state requestId request (hauth.audits_checked request)
    (hauth.readBody_notMem request) hadmin hanswers admin).mono
  · rintro t c ⟨-, hrun⟩ handler' body rfl
    obtain ⟨rfl, hread⟩ := hrun _ _ rfl
    have hlater : ∃ later, t = later ++ ⟨adminCheck request admin, some snapshot⟩ :: auth := by
      cases hread with
      | unread _ => exact ⟨[], rfl⟩
      | read _ => exact ⟨[⟨.readBody, true⟩], rfl⟩
    refine ⟨hhardened, ⟨params, hroute⟩, hanswers, fun hpost => ?_, fun _ => ?_, fun hpublic => ?_⟩
    · cases hread with
      | unread hmethod => exact absurd hpost hmethod
      | read hlength => exact ⟨rfl, hlength⟩
    · obtain ⟨later, rfl⟩ := hlater
      exact ⟨admin, auth, snapshot, later, rfl, hauthenticated, hadmitted⟩
    · rw [Handler.isAdmin_of_isPublicApi hpublic] at hadmin
      cases hadmin
  · exact fun _ _ _ => trivial

theorem route_gated {t : GatewayHistory} (hpassed : Passed state request t) :
    (route P decoders state requestId request).Meets (fun _ _ => True)
      (GatedRun decoders state request) (fun _ _ => True) t := by
  unfold route
  split
  · next handler params hroute =>
    unfold dispatch
    by_cases hadmin : handler.isAdmin = true
    · obtain rfl := passed_admin hpassed hroute hadmin
      rw [if_pos hadmin]
      apply requireAdmin_meets
      · exact fun _ _ _ h => gatedRun_of_isMark_eq_false h
      · exact fun _ _ _ _ _ => trivial
      · intro admin auth reply error hauth _ _
        apply (auditedError_meets requestId (hauth.audits_checked request) _ _ _ _ _).mono
        · rintro t c ⟨hrun, -⟩ handler' body rfl
          cases hrun
        · exact fun _ _ _ => trivial
      · intro admin auth snapshot hauth hauthenticated hadmitted
        split_ifs with hanswers
        · exact adminHandler_gated requestId hauth hpassed.1 hroute hadmin hanswers hauthenticated
            hadmitted
        · trivial
    · rw [if_neg hadmin]
      split_ifs with hanswers
      · split
        · apply publicHandler_gated
          refine ⟨hpassed.1, ⟨params, hroute⟩, hanswers, fun hpost => ?_,
            fun h => absurd h hadmin, fun hpublic => ?_⟩
          · exact absurd (Handler.isAdmin_of_answers_post (hpost ▸ hanswers)) hadmin
          · rcases method_of_hardened hpassed.1 hroute hanswers with hget | hpost
            · exact publicGate_of_passed hpassed hroute hget hpublic
            · exact absurd (Handler.isAdmin_of_answers_post (hpost ▸ hanswers)) hadmin
        · trivial
      · trivial
  · trivial

/-- Where the body of a handler begins in a run of a request, its gate is behind it. -/
theorem handlers_gated (fresh : Uuid) {handler : Handler} {body : List UInt8}
    {t t' : TimedHistory} {rest : TimedProgram Response}
    (h : (serve P decoders state request fresh).Follows
      (t' ++ ⟨.plain (.runHandler handler body), ()⟩ :: t) rest) :
    Gated decoders state request handler body (Program.answered t) := by
  have hserve := serve_meets decoders state request P fresh
    (fun _ _ => gatedRun_of_isMark_eq_false rfl) (fun requestId _ => route_gated requestId P)
  exact hserve.guar_of_run h handler body rfl

end Runs

theorem handlers_gated_sample :
    Gated (sampleDecoders (.ofGenerated sampleTileSet.manifest)) sampleState sampleListing
      .listIngestRuns [] (Program.answered (sampleListingGate.map inTime).reverse) := by
  obtain ⟨response, hrun⟩ := sampleListing_follows
  have hsplit : (sampleServe sampleListing).Follows
      ([⟨.awaited (.listIngestRuns 51 0), some (.ok [])⟩] ++
        ⟨.plain (.runHandler .listIngestRuns []), ()⟩ :: (sampleListingGate.map inTime).reverse)
      (.done response) := hrun
  exact handlers_gated linearProjection 0 hsplit

end LumenHorizon.Gateway
