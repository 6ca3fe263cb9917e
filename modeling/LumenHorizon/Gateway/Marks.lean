import LumenHorizon.Gateway.Server

/-! # The marks of a request

Which calls the parts of a request make. Apart from the beginning of a handler only admin writes
leave a mark: one audit event, after which they do not wait any more.
-/

namespace LumenHorizon.Gateway
open Foundation Shared SlippyTiles GatewayProgram

def GatewayCall.isAudit : GatewayCall → Bool
  | emitAdminAudit _ => true
  | _ => false

def GatewayCall.isRun : GatewayCall → Bool
  | runHandler _ _ => true
  | _ => false

def GatewayCall.isMark (c : GatewayCall) : Bool := c.isAudit || c.isRun

def GatewayCall.isAuth : GatewayCall → Bool
  | readJwksCache | writeJwksCache _ | fetchJwks _ | instant | unixTimestamp => true
  | _ => false

theorem GatewayCall.isMark_of_isAuth {c : GatewayCall} (h : c.isAuth = true) : c.isMark = false := by
  cases c <;> first | rfl | cases h

abbrev Authenticating {α : Type} (p : GatewayProgram α) : Prop :=
  p.Under (fun _ _ => True) fun c => c.isAuth = true

/-- The program neither audits nor begins a handler. -/
abbrev Unmarked {α : Type} (p : GatewayProgram α) : Prop :=
  p.Under (fun _ _ => True) fun c => c.isMark = false

theorem authenticating_call {c : GatewayCall} (h : c.isAuth = true) : Authenticating (call c) :=
  Program.Under.call h fun _ _ => trivial

theorem unmarked_call {c : GatewayCall} (h : c.isMark = false) : Unmarked (call c) :=
  Program.Under.call h fun _ _ => trivial

theorem authenticating_refreshJwks (config : AuthConfig) : Authenticating (refreshJwks config) := by
  apply Program.Under.bind (authenticating_call rfl)
  intro reply
  cases reply with
  | error error => trivial
  | ok keys =>
    apply Program.Under.bind (authenticating_call rfl)
    intro now
    exact Program.Under.bind (authenticating_call rfl) fun _ => trivial

theorem authenticating_cachedJwks (config : AuthConfig) : Authenticating (cachedJwks config) := by
  apply Program.Under.bind (authenticating_call rfl)
  intro reply
  cases reply with
  | none => exact authenticating_refreshJwks config
  | some cached =>
    apply Program.Under.bind (authenticating_call rfl)
    intro now
    split
    · trivial
    · exact authenticating_refreshJwks config

theorem authenticating_signingKey (jwt : JwtLibrary) (config : AuthConfig) (kid : String) :
    Authenticating (signingKey jwt config kid) := by
  apply Program.Under.bind (authenticating_cachedJwks config)
  intro outcome
  cases outcome with
  | error error => trivial
  | ok jwks =>
    dsimp only
    split
    · trivial
    · apply Program.Under.bind (authenticating_refreshJwks config)
      intro outcome
      cases outcome with
      | error error => trivial
      | ok jwks =>
        dsimp only
        split <;> trivial

theorem authenticating_verifyToken (jwt : JwtLibrary) (config : AuthConfig) (requiredRole token : String)
    (key : DecodingKey) : Authenticating (verifyToken jwt config requiredRole token key) := by
  apply Program.Under.bind (authenticating_call rfl)
  intro decodedAt
  split
  · trivial
  · exact Program.Under.bind (authenticating_call rfl) fun _ => trivial

theorem authenticating_authenticateWithRole (jwt : JwtLibrary) (config : AuthConfig) (headers : HeaderMap)
    (requiredRole : String) : Authenticating (authenticateWithRole jwt config headers requiredRole) := by
  unfold authenticateWithRole
  split
  · trivial
  split
  · trivial
  split_ifs
  · trivial
  split
  · trivial
  apply Program.Under.bind (authenticating_signingKey _ _ _)
  intro outcome
  cases outcome with
  | error error => trivial
  | ok key => exact authenticating_verifyToken _ _ _ _ key

def GatewayCall.isInquiry : GatewayCall → Bool
  | readJsonBlob _ | checkDatabase | listTileSets _ _ | listIngestRuns _ _
  | listProcessingRuns _ _ | checkProcessingQueue | checkReadiness => true
  | _ => false

abbrev Inquiring {α : Type} (p : GatewayProgram α) : Prop :=
  p.Under (fun _ _ => True) fun c => c.isInquiry = true

theorem inquiring_call {c : GatewayCall} (h : c.isInquiry = true) : Inquiring (call c) :=
  Program.Under.call h fun _ _ => trivial

theorem GatewayCall.isMark_of_isInquiry {c : GatewayCall} (h : c.isInquiry = true) :
    c.isMark = false := by
  cases c <;> first | rfl | cases h

theorem unmarked_of_inquiring {α : Type} {p : GatewayProgram α} (h : Inquiring p) : Unmarked p :=
  h.mono (fun _ _ h => h) fun _ => GatewayCall.isMark_of_isInquiry

variable {K : Type} (decoders : Decoders K) (state : AppState) (requestId : Uuid)

theorem inquiring_latestManifest : Inquiring (latestManifest decoders) := by
  apply Program.Under.bind (inquiring_call rfl)
  intro reply
  cases reply with
  | error error => trivial
  | ok value =>
    dsimp only
    split
    · trivial
    split
    · trivial
    · exact inquiring_call rfl

theorem inquiring_manifestById (tileSetId : String) : Inquiring (manifestById tileSetId) := by
  unfold manifestById
  split
  · trivial
  · exact inquiring_call rfl

theorem inquiring_latestTileManifest : Inquiring (latestTileManifest decoders state requestId) := by
  unfold latestTileManifest
  split_ifs
  · apply Program.Under.bind (inquiring_latestManifest decoders)
    intro outcome
    cases outcome <;> trivial
  · trivial

theorem inquiring_tileManifestById (tileSetId : String) :
    Inquiring (tileManifestById state requestId tileSetId) := by
  unfold tileManifestById
  split
  · trivial
  split
  · apply Program.Under.bind (inquiring_manifestById tileSetId)
    intro outcome
    cases outcome <;> trivial
  · trivial

theorem inquiring_tileRedirect [Field K] [LinearOrder K] (P : LatitudeProjection K)
    (tileSetId z x tileFile : String) :
    Inquiring (tileRedirect decoders state requestId P tileSetId z x tileFile) := by
  unfold tileRedirect
  split
  · trivial
  split
  · trivial
  split
  · apply Program.Under.bind (inquiring_manifestById tileSetId)
    intro outcome
    cases outcome with
    | error error => trivial
    | ok manifest =>
      dsimp only
      split <;> trivial
  · trivial

theorem inquiring_listRows (query : Option String)
    {list : ℕ → ℕ → GatewayProgram (Except DbError (List Json))}
    (hlist : ∀ limit offset, Inquiring (list limit offset)) (failed : String) :
    Inquiring (listRows decoders state requestId query list failed) := by
  unfold listRows
  split
  · trivial
  split_ifs
  · apply Program.Under.bind (hlist _ _)
    intro outcome
    cases outcome <;> trivial
  · trivial

theorem inquiring_searchSites [LinearOrder K] [Field K] (query : Option String) :
    Inquiring (searchSites decoders requestId query) := by
  unfold searchSites
  split <;> trivial

theorem inquiring_siteDetail (siteId : String) : Inquiring (siteDetail decoders requestId siteId) := by
  unfold siteDetail
  split <;> trivial

theorem inquiring_siteScore (siteId : String) : Inquiring (siteScore decoders requestId siteId) := by
  unfold siteScore
  split <;> trivial

theorem inquiring_checkIfConfigured {ε α : Type} (configured : Bool) (name missing : String)
    {check : GatewayProgram (Except ε α)} (hcheck : Inquiring check) :
    Inquiring (checkIfConfigured configured name missing check) := by
  unfold checkIfConfigured
  split_ifs
  · exact Program.Under.bind hcheck fun _ => trivial
  · trivial

theorem inquiring_deepHealth : Inquiring (deepHealth decoders state requestId) := by
  apply Program.Under.bind (inquiring_checkIfConfigured _ _ _ (inquiring_call rfl))
  intro database
  apply Program.Under.bind (inquiring_checkIfConfigured _ _ _ (inquiring_latestManifest decoders))
  intro tileManifest
  exact Program.Under.bind (inquiring_checkIfConfigured _ _ _ (inquiring_call rfl)) fun _ => trivial

/-- The audit events of a history, the last one first. -/
def audits (t : GatewayHistory) : List AdminAudit :=
  t.filterMap fun entry => match entry.1 with
    | .emitAdminAudit audit => some audit
    | _ => none

def AuditedOnce (action : String) (t : GatewayHistory) : Prop :=
  ∃ audit, audits t = [audit] ∧ audit.action = action

@[simp] theorem audits_emit (audit : AdminAudit) (t : GatewayHistory) :
    audits (⟨.emitAdminAudit audit, ()⟩ :: t) = audit :: audits t := rfl

theorem audits_append (t t' : GatewayHistory) : audits (t ++ t') = audits t ++ audits t' :=
  List.filterMap_append

theorem audits_eq_nil {t : GatewayHistory} (h : ∀ entry ∈ t, entry.1.isMark = false) :
    audits t = [] := by
  rw [audits, List.filterMap_eq_nil_iff]
  intro entry hentry
  have hmark := h entry hentry
  obtain ⟨c, reply⟩ := entry
  cases c <;> first | rfl | cases hmark

/-- What an admin write may call: it does not wait any more once it is audited. -/
def AuditLast (t : GatewayHistory) (c : GatewayCall) : Prop :=
  c.isRun = false ∧ (c.waits = true → audits t = [])

theorem auditedError_meets {t : GatewayHistory} (ht : audits t = []) (admin : AdminContext)
    (action : String) (targetId : Option Uuid) (outcome : String) (error : GatewayError) :
    (auditedError requestId admin action targetId outcome error).Meets (fun _ _ => True) AuditLast
      (fun t' _ => AuditedOnce action t') t := by
  apply Program.Meets.request_bind ⟨rfl, fun h => by cases h⟩
  intro _ _
  exact ⟨_, congrArg _ ht, rfl⟩

theorem triggerIngestHandler_meets {t : GatewayHistory} (ht : audits t = []) (admin : AdminContext)
    (body : List UInt8) :
    (triggerIngestHandler decoders state requestId admin body).Meets (fun _ _ => True) AuditLast
      (fun t' _ => AuditedOnce "ingest.trigger" t') t := by
  unfold triggerIngestHandler
  dsimp only
  split
  · exact auditedError_meets requestId ht _ _ _ _ _
  split
  · exact auditedError_meets requestId ht _ _ _ _ _
  apply Program.Meets.request_bind ⟨rfl, fun _ => ht⟩
  intro reply _
  cases reply with
  | error error => exact auditedError_meets requestId ht _ _ _ _ _
  | ok upstream =>
    apply Program.Meets.request_bind ⟨rfl, fun h => by cases h⟩
    intro _ _
    exact ⟨_, congrArg _ ht, rfl⟩

theorem enqueueRecord_meets {t : GatewayHistory} (ht : audits t = []) (admin : AdminContext)
    (ingestId : Uuid) (record : ProcessingRequeueRecord) :
    (enqueueRecord decoders requestId admin ingestId record).Meets (fun _ _ => True) AuditLast
      (fun t' _ => AuditedOnce "processing.requeue" t') t := by
  unfold enqueueRecord
  dsimp only
  split
  · exact auditedError_meets requestId ht _ _ _ _ _
  split
  · exact auditedError_meets requestId ht _ _ _ _ _
  apply Program.Meets.request_bind ⟨rfl, fun _ => ht⟩
  intro reply _
  cases reply with
  | error error => exact auditedError_meets requestId ht _ _ _ _ _
  | ok _ =>
    apply Program.Meets.request_bind ⟨rfl, fun h => by cases h⟩
    intro _ _
    exact ⟨_, congrArg _ ht, rfl⟩

theorem requeueProcessingItem_meets {t : GatewayHistory} (ht : audits t = []) (admin : AdminContext)
    (body : List UInt8) :
    (requeueProcessingItem decoders state requestId admin body).Meets (fun _ _ => True) AuditLast
      (fun t' _ => AuditedOnce "processing.requeue" t') t := by
  unfold requeueProcessingItem
  split
  · exact auditedError_meets requestId ht _ _ _ _ _
  dsimp only
  split
  · exact auditedError_meets requestId ht _ _ _ _ _
  split
  · exact auditedError_meets requestId ht _ _ _ _ _
  apply Program.Meets.request_bind ⟨rfl, fun _ => ht⟩
  intro reply _
  split
  · exact auditedError_meets requestId ht _ _ _ _ _
  · exact auditedError_meets requestId ht _ _ _ _ _
  split
  · apply enqueueRecord_meets
    exact ht
  split
  · exact auditedError_meets requestId ht _ _ _ _ _
  · exact auditedError_meets requestId ht _ _ _ _ _

end LumenHorizon.Gateway
