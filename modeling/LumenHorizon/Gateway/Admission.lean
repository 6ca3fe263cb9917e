import LumenHorizon.Gateway.Marks
import LumenHorizon.Gateway.Redirects

/-! # The way of a request to its handler

A request is refused, answered by the router or dropped by its timeout. What holds of the router on
every history that lets a request through holds of the request, and what holds of an admin handler
on every history that authenticates and charges it holds of its route.
-/

namespace LumenHorizon.Gateway
open Foundation Shared SlippyTiles GatewayProgram

variable {K : Type} (decoders : Decoders K) (state : AppState) (requestId : Uuid)
  (request : Request)

/-- What has been asked for a request that is let through to the router. -/
def Passed (t : GatewayHistory) : Prop :=
  validateRequestHardening state.config request = .ok () ∧
    match publicRouteClass request with
    | none => t = []
    | some routeClass => ∃ snapshot, Admitted routeClass snapshot ∧
        t = [⟨.incrementWindow (rateLimitKey routeClass (clientKeyFromHeaders request.headers))
          rateLimitWindow, some snapshot⟩]

def OnlyChecks (t : GatewayHistory) : Prop :=
  ∀ entry ∈ t, ∃ key window, entry.1 = .incrementWindow key window

/-- How a request comes to its end: refused before the router, answered by it, or dropped. -/
inductive RequestEnd (guar : GatewayHistory → GatewayCall → Prop)
    (post : GatewayHistory → Response → Prop) : TimedHistory → Response → Prop
  | refused {t : TimedHistory} (error : GatewayError) (hstatus : 400 ≤ error.status)
      (hchecks : OnlyChecks (Program.answered t)) : RequestEnd guar post t (error.intoResponse requestId)
  | answered {t : TimedHistory} {response : Response} (hpost : post (Program.answered t) response)
      (hcut : ¬ Program.Cut t) : RequestEnd guar post t response
  | dropped {t : TimedHistory} {c : GatewayCall} (hcut : Program.Cut t) (hwaits : c.waits = true)
      (hguar : guar (Program.answered t) c) : RequestEnd guar post t (timedOut requestId)

theorem status_validateRequestHardening {config : AppConfig} {error : GatewayError}
    (h : validateRequestHardening config request = .error error) : error.status = 400 := by
  unfold validateRequestHardening at h
  split_ifs at h <;> cases h <;> rfl

theorem status_checkOutcome {routeClass : RouteClass} {reply : Option WindowSnapshot}
    {error : GatewayError} (h : checkOutcome routeClass reply = .error error) :
    400 ≤ error.status := by
  unfold checkOutcome at h
  split at h
  · cases h
    simp [GatewayError.serviceUnavailable]
  · split_ifs at h
    cases h
    simp [GatewayError.rateLimited]

theorem admitRequest_meets {guar : GatewayHistory → GatewayCall → Prop}
    (hcheck : ∀ key window, guar [] (.incrementWindow key window)) :
    (admitRequest state request).Meets (fun _ _ => True) guar
      (fun t outcome => match outcome with
        | .error error => 400 ≤ error.status ∧ OnlyChecks t
        | .ok () => Passed state request t) [] := by
  unfold admitRequest
  split
  · next error herror =>
    exact ⟨(status_validateRequestHardening request herror).ge, fun _ h => absurd h List.not_mem_nil⟩
  next hhardened =>
  split
  · next hclass => exact ⟨hhardened, by simp [hclass]⟩
  next routeClass hclass =>
  apply (checkRateLimit_meets (hcheck _ _)).mono (fun _ _ h => h)
  rintro t outcome ⟨reply, rfl, rfl⟩
  cases houtcome : checkOutcome routeClass reply with
  | error error =>
    refine ⟨status_checkOutcome houtcome, fun entry hentry => ?_⟩
    rw [List.mem_singleton.mp hentry]
    exact ⟨_, _, rfl⟩
  | ok _ =>
    obtain ⟨snapshot, rfl, hadmitted⟩ := checkOutcome_eq_ok_iff.mp houtcome
    refine ⟨hhardened, ?_⟩
    rw [hclass]
    exact ⟨snapshot, hadmitted, rfl⟩

section Serve

variable [Field K] [LinearOrder K] (P : LatitudeProjection K)
  {guar : GatewayHistory → GatewayCall → Prop} {post : GatewayHistory → Response → Prop}

theorem timedRoute_meets {t : TimedHistory} (hcut : ¬ Program.Cut t)
    (hroute : (route P decoders state requestId request).Meets (fun _ _ => True) guar post
      (Program.answered t)) :
    (timedRoute P decoders state requestId request).Meets (Program.Timed.Admits fun _ _ => True)
      (fun t c => guar (Program.answered t) c.inner) (RequestEnd requestId guar post) t := by
  apply Program.Meets.bind (hroute.withTimeout hcut)
  intro t' result hresult
  cases result with
  | none =>
    obtain ⟨hcut', c, hwaits, hguar⟩ := hresult
    exact .dropped hcut' hwaits hguar
  | some response => exact .answered hresult.1 hresult.2

/-- What holds of the router on every history that lets a request through holds of the request. -/
theorem serve_meets (fresh : Uuid) (hcheck : ∀ key window, guar [] (.incrementWindow key window))
    (hroute : ∀ requestId t, Passed state request t →
      (route P decoders state requestId request).Meets (fun _ _ => True) guar post t) :
    (serve P decoders state request fresh).Meets (Program.Timed.Admits fun _ _ => True)
      (fun t c => guar (Program.answered t) c.inner)
      (fun t response => ∃ requestId inner,
        response = Response.withStandardHeaders requestId request inner ∧
          RequestEnd requestId guar post t inner) [] := by
  have hadmitted := (admitRequest_meets state request hcheck).untimed (t := []) Program.not_cut_nil
  apply Program.Meets.bind hadmitted
  rintro t outcome ⟨houtcome, hcut⟩
  cases outcome with
  | error error => exact ⟨_, _, rfl, .refused error houtcome.1 houtcome.2⟩
  | ok _ =>
    apply Program.Meets.bind (timedRoute_meets decoders state _ request P hcut (hroute _ _ houtcome))
    intro t' response hend
    exact ⟨_, response, rfl, hend⟩

end Serve

def Authenticates (t : GatewayHistory) (outcome : Except GatewayError AdminContext) : Prop :=
  (authenticateWithRole decoders.jwt state.config.auth request.headers
    state.config.auth.adminRequiredRole).Follows t (.done outcome)

def adminCheck (admin : AdminContext) : GatewayCall :=
  .incrementWindow
    (rateLimitKey (adminRouteClass request.method) (admin.subject ++ ":" ++ nestedPath request.path))
    rateLimitWindow

theorem requiredRoleForPath_eq (config : AppConfig) (path : String) :
    requiredRoleForPath config path = config.auth.adminRequiredRole := by
  unfold requiredRoleForPath
  split
  rfl

def OnlyAuth (t : GatewayHistory) : Prop := ∀ entry ∈ t, entry.1.isAuth = true

theorem OnlyAuth.audits_eq_nil {t : GatewayHistory} (h : OnlyAuth t) : audits t = [] :=
  Gateway.audits_eq_nil fun entry hentry => GatewayCall.isMark_of_isAuth (h entry hentry)

theorem OnlyAuth.audits_checked {auth : GatewayHistory} (h : OnlyAuth auth) {admin : AdminContext}
    {reply : Option WindowSnapshot} : audits (⟨adminCheck request admin, reply⟩ :: auth) = [] :=
  h.audits_eq_nil

theorem OnlyAuth.readBody_notMem {auth : GatewayHistory} (h : OnlyAuth auth) {admin : AdminContext}
    {reply : Option WindowSnapshot} : ⟨.readBody, true⟩ ∉
      (⟨adminCheck request admin, reply⟩ :: auth : GatewayHistory) := by
  intro hmem
  rcases List.mem_cons.mp hmem with hcheck | hmem
  · cases hcheck
  · cases h _ hmem

theorem authenticateWithRole_meets {guar : GatewayHistory → GatewayCall → Prop}
    (hguar : ∀ t c, OnlyAuth t → c.isMark = false → guar t c) :
    (authenticateWithRole decoders.jwt state.config.auth request.headers
      state.config.auth.adminRequiredRole).Meets (fun _ _ => True) guar
      (fun t outcome => OnlyAuth t ∧ Authenticates decoders state request t outcome) [] := by
  have hunder := Program.Meets.of_under
    (authenticating_authenticateWithRole decoders.jwt state.config.auth request.headers
      state.config.auth.adminRequiredRole) []
  apply (Program.Meets.traced (t := []) hunder .start).mono
  · rintro _ c ⟨⟨hc, t, rfl, ht⟩, -⟩
    rw [List.append_nil]
    exact hguar t c ht (GatewayCall.isMark_of_isAuth hc)
  · rintro _ outcome ⟨⟨t, rfl, ht⟩, t', heq, hfollows⟩
    rw [List.append_nil, List.append_nil] at heq
    subst heq
    rw [List.append_nil]
    exact ⟨ht, hfollows⟩

/-- A request is authenticated and charged before anything else of an admin route. -/
theorem requireAdmin_meets {guar : GatewayHistory → GatewayCall → Prop}
    {post : GatewayHistory → Response → Prop} {next : AdminContext → GatewayProgram Response}
    (hguar : ∀ t c, OnlyAuth t → c.isMark = false → guar t c)
    (hunauthenticated : ∀ error error' auth entry,
      Authenticates decoders state request auth (.error error) →
      post (entry :: auth) (GatewayError.intoResponse error' requestId))
    (hlimited : ∀ admin auth reply error, OnlyAuth auth →
      Authenticates decoders state request auth (.ok admin) →
      checkOutcome (adminRouteClass request.method) reply = .error error →
      (auditedError requestId admin (actionForPath (nestedPath request.path)) none
        (if error.status = 429 then "rate_limited" else "error") error).Meets (fun _ _ => True)
        guar post (⟨adminCheck request admin, reply⟩ :: auth))
    (hnext : ∀ admin auth snapshot, OnlyAuth auth →
      Authenticates decoders state request auth (.ok admin) →
      Admitted (adminRouteClass request.method) snapshot →
      (next admin).Meets (fun _ _ => True) guar post
        (⟨adminCheck request admin, some snapshot⟩ :: auth)) :
    (requireAdmin decoders state requestId request next).Meets (fun _ _ => True) guar post [] := by
  unfold requireAdmin
  rw [requiredRoleForPath_eq]
  apply Program.Meets.bind (authenticateWithRole_meets decoders state request hguar)
  rintro auth outcome ⟨honly, hauth⟩
  cases outcome with
  | error error =>
    apply Program.Meets.bind (checkRateLimit_meets (hguar _ _ honly rfl))
    rintro t outcome ⟨reply, rfl, rfl⟩
    cases checkOutcome RouteClass.authFailure reply with
    | error error' => exact hunauthenticated error error' auth _ hauth
    | ok _ => exact hunauthenticated error error auth _ hauth
  | ok admin =>
    apply Program.Meets.bind (checkRateLimit_meets (hguar _ _ honly rfl))
    rintro t outcome ⟨reply, rfl, rfl⟩
    cases houtcome : checkOutcome (adminRouteClass request.method) reply with
    | error error => exact hlimited admin auth reply error honly hauth houtcome
    | ok _ =>
      obtain ⟨snapshot, rfl, hadmitted⟩ := checkOutcome_eq_ok_iff.mp houtcome
      exact hnext admin auth snapshot honly hauth hadmitted

def Handler.writeAction : Handler → Option String
  | .triggerIngest => some "ingest.trigger"
  | .requeueProcessingItem => some "processing.requeue"
  | _ => none

/-- The body that an admin handler begins with, after these calls. -/
inductive BodyRead (t₀ : GatewayHistory) : List UInt8 → GatewayHistory → Prop
  | unread (h : request.method ≠ "POST") : BodyRead t₀ [] t₀
  | read (h : request.body.length ≤ defaultBodyLimit) :
      BodyRead t₀ request.body (⟨.readBody, true⟩ :: t₀)

/-- The body came in full and within the limit of axum. -/
def BodyAccepted (t : GatewayHistory) : Prop :=
  ⟨.readBody, true⟩ ∈ t ∧ request.body.length ≤ defaultBodyLimit

def AuditedIfAccepted (action : String) (t : GatewayHistory) : Prop :=
  (BodyAccepted request t → AuditedOnce action t) ∧ (¬ BodyAccepted request t → audits t = [])

/-- What an admin handler may call: it begins once, and waits only before it is audited. -/
def AdminCall (handler : Handler) (t₀ t : GatewayHistory) (c : GatewayCall) : Prop :=
  (c.waits = true → audits t = []) ∧
    ∀ handler' body, c = .runHandler handler' body →
      handler' = handler ∧ BodyRead request t₀ body t

theorem AuditLast.adminCall {handler : Handler} {t₀ t : GatewayHistory} {c : GatewayCall}
    (h : AuditLast t c) : AdminCall request handler t₀ t c := by
  refine ⟨h.2, ?_⟩
  rintro handler' body rfl
  cases h.1

theorem withBody_meets {handler : Handler} {t₀ : GatewayHistory} {action : String}
    {next : List UInt8 → GatewayProgram Response} (ht₀ : audits t₀ = [])
    (hunread : ⟨.readBody, true⟩ ∉ t₀)
    (hnext : ∀ t body, audits t = [] → (next body).Meets (fun _ _ => True) AuditLast
      (fun t' _ => AuditedOnce action t') t) :
    (withBody request fun body => do
      runHandler handler body
      next body).Meets (fun _ _ => True) (AdminCall request handler t₀)
      (fun t _ => AuditedIfAccepted request action t) t₀ := by
  apply Program.Meets.request_bind
  · exact ⟨fun _ => ht₀, fun _ _ h => by cases h⟩
  intro complete _
  cases complete with
  | false =>
    refine ⟨fun h => ?_, fun _ => ht₀⟩
    rcases List.mem_cons.mp h.1 with h | h
    · cases h
    · exact absurd h hunread
  | true =>
    by_cases hlength : request.body.length > defaultBodyLimit
    · rw [if_pos rfl, if_pos hlength]
      exact ⟨fun h => absurd h.2 (not_le.mpr hlength), fun _ => ht₀⟩
    · rw [if_pos rfl, if_neg hlength]
      apply Program.Meets.request_bind
      · constructor
        · intro hwaits
          cases hwaits
        · intro handler' body' hrun
          cases hrun
          exact ⟨rfl, .read (not_lt.mp hlength)⟩
      intro _ _
      set t : GatewayHistory := ⟨.runHandler handler request.body, ()⟩ :: ⟨.readBody, true⟩ :: t₀
      have hbody := (hnext t request.body ht₀).traced (t := []) .start
      apply hbody.mono
      · rintro t' c ⟨h, -⟩
        exact AuditLast.adminCall request h
      · rintro t' response ⟨haudited, t₁, rfl, -⟩
        have haccepted : BodyAccepted request (t₁ ++ t) :=
          ⟨List.mem_append_right _ (List.mem_cons_of_mem _ List.mem_cons_self), not_lt.mp hlength⟩
        exact ⟨fun _ => haudited, fun h => absurd haccepted h⟩

theorem unmarkedHandler_meets {handler : Handler} {t₀ : GatewayHistory} (ht₀ : audits t₀ = [])
    (hmethod : request.method ≠ "POST") {body : GatewayProgram Response} (hbody : Unmarked body) :
    (do
      runHandler handler []
      body : GatewayProgram Response).Meets (fun _ _ => True) (AdminCall request handler t₀)
      (fun t _ => audits t = []) t₀ := by
  apply Program.Meets.request_bind
  · constructor
    · intro hwaits
      cases hwaits
    · intro handler' body' hrun
      cases hrun
      exact ⟨rfl, .unread hmethod⟩
  intro _ _
  have haudits {t₁ : GatewayHistory} (h : ∀ entry ∈ t₁, entry.1.isMark = false) :
      audits (t₁ ++ ⟨.runHandler handler [], ()⟩ :: t₀) = [] := by
    rw [audits_append, audits_eq_nil h]
    exact ht₀
  apply (Program.Meets.of_under hbody _).mono
  · rintro _ c ⟨hc, t₁, rfl, ht₁⟩
    refine ⟨fun _ => haudits ht₁, ?_⟩
    rintro handler' body' rfl
    cases hc
  · rintro _ response ⟨t₁, rfl, ht₁⟩
    exact haudits ht₁

theorem adminHandler_meets [Field K] [LinearOrder K] {handler : Handler} {t₀ : GatewayHistory}
    (ht₀ : audits t₀ = []) (hunread : ⟨.readBody, true⟩ ∉ t₀) (hadmin : handler.isAdmin = true)
    (hanswers : handler.answers request.method = true) (admin : AdminContext) :
    (adminHandler decoders state requestId request handler admin).Meets (fun _ _ => True)
      (AdminCall request handler t₀)
      (fun t _ => match handler.writeAction with
        | some action => AuditedIfAccepted request action t
        | none => audits t = []) t₀ := by
  cases handler with
  | triggerIngest =>
    exact withBody_meets request ht₀ hunread fun t body ht =>
      triggerIngestHandler_meets decoders state requestId ht admin body
  | requeueProcessingItem =>
    exact withBody_meets request ht₀ hunread fun t body ht =>
      requeueProcessingItem_meets decoders state requestId ht admin body
  | listIngestRuns =>
    apply unmarkedHandler_meets request ht₀
    · rintro h
      rw [h] at hanswers
      cases hanswers
    · apply unmarked_of_inquiring
      exact inquiring_listRows decoders state requestId _ (fun _ _ => inquiring_call rfl) _
  | listProcessingRuns =>
    apply unmarkedHandler_meets request ht₀
    · rintro h
      rw [h] at hanswers
      cases hanswers
    · apply unmarked_of_inquiring
      exact inquiring_listRows decoders state requestId _ (fun _ _ => inquiring_call rfl) _
  | deepHealth =>
    apply unmarkedHandler_meets request ht₀
    · rintro h
      rw [h] at hanswers
      cases hanswers
    · exact unmarked_of_inquiring (inquiring_deepHealth decoders state requestId)
  | _ => cases hadmin

def inTime (entry : Σ c, GatewayCall.Reply c) :
    Σ c : Program.Timed GatewayCall, Program.Timed.Reply GatewayCall.Reply c :=
  if entry.1.waits then ⟨.awaited entry.1, some entry.2⟩ else ⟨.plain entry.1, entry.2⟩

def sampleServe (request : Request) : TimedProgram Response :=
  serve linearProjection (sampleDecoders (.ofGenerated sampleTileSet.manifest)) sampleState request 0

def sampleListing : Request where
  method := "GET"
  path := "/api/v1/admin/ingest/runs"
  query := none
  headers := sampleHeaders
  body := []

def sampleListingGate : List (Σ c, GatewayCall.Reply c) :=
  sampleCalls 1000 ++ [⟨.incrementWindow "admin_read:operator:/ingest/runs" 60, some ⟨1, 60⟩⟩]

def sampleListingBody : List (Σ c, GatewayCall.Reply c) :=
  [⟨.runHandler .listIngestRuns [], ()⟩, ⟨.listIngestRuns 51 0, .ok []⟩]

theorem sampleListing_follows : ∃ response, (sampleServe sampleListing).Follows
    ((sampleListingGate ++ sampleListingBody).map inTime).reverse (.done response) :=
  Program.exists_follows_of_replay (by decide +kernel)

end LumenHorizon.Gateway
