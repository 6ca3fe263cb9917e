import LumenHorizon.Gateway.SettingsChecks
import LumenHorizon.Ingest.AdminAuth

/-! # The token between the services

The gateway sends the token of its environment along when it triggers the ingest, and the ingest
service compares it with the token of its own. Both read their environment with the same checks,
which let through some tokens and headers that never arrive as they were sent.
-/

namespace LumenHorizon.Gateway
open Foundation Shared Processing

inductive ServiceAuthError where
  | invalidInternalAuthHeader
  | invalidInternalAuthToken
deriving DecidableEq, Repr

structure InternalServiceAuth where
  headerName : String
  headerValue : String
deriving DecidableEq, Repr

/-- `HeaderValue::from_str`, with the bytes of the text as characters. -/
def headerValueFromStr (text : String) : Option String :=
  let value := String.ofList (Utf8.asciiText (Utf8.asBytes text))
  if isHeaderValue value then some value else none

def InternalServiceAuth.tryFromConfig (config : InternalServiceAuthConfig) :
    Except ServiceAuthError InternalServiceAuth :=
  match headerNameFromBytes config.headerName with
  | none => .error .invalidInternalAuthHeader
  | some headerName =>
    match headerValueFromStr config.token with
    | none => .error .invalidInternalAuthToken
    | some headerValue => .ok ⟨headerName, headerValue⟩

/-- The authorization of `IngestAdminClient::new`. -/
def ingestAdminAuth : Option InternalServiceAuthConfig →
    Except ServiceAuthError (Option InternalServiceAuth)
  | none => .ok none
  | some config => (InternalServiceAuth.tryFromConfig config).map some

/-- The headers that `trigger_ingest` sets, in their order. -/
def triggerHeaders (internalAuth : Option InternalServiceAuth) (requestId : Uuid) : HeaderMap :=
  [("x-request-id", uuidDisplay requestId), ("content-type", "application/json")] ++
    (internalAuth.map fun auth => (auth.headerName, auth.headerValue)).toList

/-- `parse_internal_admin_auth_config` of the ingest service makes the checks of the gateway. -/
def parseInternalAdminAuthConfig (lookup : Lookup) :
    Except ConfigError (Option Ingest.InternalAdminAuthConfig) :=
  (parseInternalServiceAuthConfig lookup).map fun auth =>
    auth.map fun auth => ⟨auth.headerName, auth.token⟩

def isVisibleChar (c : Char) : Bool := (32 ≤ c.toNat && c.toNat < 127) || c = '\t'

/-- The texts that a header carries unchanged. -/
def IsVisible (text : String) : Prop := text.toList.all isVisibleChar = true

instance (text : String) : Decidable (IsVisible text) := inferInstanceAs (Decidable (_ = _))

theorem toStr_eq_some_iff {value text : String} :
    toStr value = some text ↔ value = text ∧ IsVisible text := by
  unfold toStr IsVisible isVisibleChar
  constructor
  · intro h
    obtain ⟨hvisible, hvalue⟩ := Option.ite_none_right_eq_some.mp h
    rw [Option.some_inj] at hvalue
    exact ⟨hvalue, hvalue ▸ hvisible⟩
  · rintro ⟨rfl, hvisible⟩
    rw [if_pos hvisible]

theorem lt_of_isVisibleChar {c : Char} (h : isVisibleChar c = true) : c.toNat < 127 := by
  simp only [isVisibleChar, Bool.or_eq_true, Bool.and_eq_true, decide_eq_true_eq] at h
  rcases h with h | rfl
  · exact h.2
  · decide

theorem asciiText_asBytes_of_isVisible {text : String} (h : IsVisible text) :
    Utf8.asciiText (Utf8.asBytes text) = text.toList := by
  have hascii : ∀ c ∈ text.toList, c.toNat < 128 := by
    intro c hc
    have := lt_of_isVisibleChar (List.all_eq_true.mp h c hc)
    omega
  rw [Utf8.asBytes, Utf8.encodeChars_of_ascii hascii, Utf8.asciiText_map_asciiByte hascii]

/-- A text that is not visible is not received as it was sent. -/
theorem headerValue_eq_iff {text : String} :
    toStr (String.ofList (Utf8.asciiText (Utf8.asBytes text))) = some text ↔ IsVisible text := by
  rw [toStr_eq_some_iff]
  constructor
  · exact fun h => h.2
  · intro h
    rw [asciiText_asBytes_of_isVisible h, String.ofList_toList]
    exact ⟨rfl, h⟩

theorem isVisible_uuidDisplay (id : Uuid) : IsVisible (uuidDisplay id) := by
  have hdigit : ∀ n < 16, isVisibleChar (hexDigit n) = true := by decide
  have hdigits : ∀ c ∈ uuidSimple id, isVisibleChar c = true := by
    intro c hc
    obtain ⟨i, -, rfl⟩ := List.mem_map.mp hc
    exact hdigit _ (Nat.mod_lt _ (by decide))
  have hgroup : ∀ start length, ((uuidSimple id).drop start |>.take length).all isVisibleChar := by
    intro start length
    rw [List.all_eq_true]
    exact fun c hc => hdigits c (List.mem_of_mem_drop (List.mem_of_mem_take hc))
  have hhyphen : isVisibleChar '-' = true := by decide
  simp only [IsVisible, uuidDisplay, String.toList_ofList, List.all_append, List.all_cons,
    List.all_nil, hgroup, hhyphen, Bool.and_self]

section Trigger

variable {auth : InternalServiceAuth} {requestId : Uuid} {added : HeaderMap}

/-- The headers before that of the token hide it if they have its name. -/
theorem getHeader_triggerHeaders :
    getHeader (triggerHeaders (some auth) requestId ++ added) auth.headerName = some (
      if auth.headerName = "x-request-id" then uuidDisplay requestId
      else if auth.headerName = "content-type" then "application/json"
      else auth.headerValue) := by
  simp only [triggerHeaders, getHeader, List.cons_append, List.nil_append, Option.map_some,
    Option.toList_some]
  by_cases hrequestId : auth.headerName = "x-request-id"
  · simp [hrequestId]
  · rw [List.find?_cons_of_neg (by simpa using Ne.symm hrequestId), if_neg hrequestId]
    by_cases hcontentType : auth.headerName = "content-type"
    · simp [hcontentType]
    · rw [List.find?_cons_of_neg (by simpa using Ne.symm hcontentType), if_neg hcontentType]
      simp

theorem readHeader_requestId {internalAuth : Option InternalServiceAuth} :
    readHeader (triggerHeaders internalAuth requestId ++ added) "x-request-id" =
      some (uuidDisplay requestId) := by
  have hget : getHeader (triggerHeaders internalAuth requestId ++ added) "x-request-id" =
      some (uuidDisplay requestId) := by
    simp [triggerHeaders, getHeader]
  rw [readHeader, hget, Option.bind_some, toStr_eq_some_iff]
  exact ⟨rfl, isVisible_uuidDisplay _⟩

end Trigger

theorem tryFromConfig_eq_ok {config : InternalServiceAuthConfig} {auth : InternalServiceAuth}
    (h : InternalServiceAuth.tryFromConfig config = .ok auth) :
    auth.headerName = toAsciiLowercase config.headerName ∧
      auth.headerValue = String.ofList (Utf8.asciiText (Utf8.asBytes config.token)) := by
  unfold InternalServiceAuth.tryFromConfig at h
  cases hname : headerNameFromBytes config.headerName with
  | none => simp [hname] at h
  | some name =>
    cases hvalue : headerValueFromStr config.token with
    | none => simp [hname, hvalue] at h
    | some value =>
      simp only [hname, hvalue, Except.ok.injEq] at h
      subst h
      exact ⟨Option.some_inj.mp (Option.ite_none_right_eq_some.mp hname).2.symm,
        Option.some_inj.mp (Option.ite_none_right_eq_some.mp hvalue).2.symm⟩

/-- A token with its header arrives at the service that expects it exactly if it is visible and the
header is not one that the request has anyway. -/
theorem internalAdminToken_triggerHeaders_iff {config : InternalServiceAuthConfig}
    {auth : InternalServiceAuth} (hstrong : StrongToken config.token)
    (hauth : InternalServiceAuth.tryFromConfig config = .ok auth) {requestId : Uuid}
    {added : HeaderMap} :
    Ingest.internalAdminToken (triggerHeaders (some auth) requestId ++ added) config.headerName =
        some config.token ↔
      IsVisible config.token ∧ toAsciiLowercase config.headerName ≠ "content-type" ∧
        (toAsciiLowercase config.headerName = "x-request-id" →
          config.token = uuidDisplay requestId) := by
  obtain ⟨hname, hvalue⟩ := tryFromConfig_eq_ok hauth
  rw [Ingest.internalAdminToken, readHeader, ← hname, getHeader_triggerHeaders, Option.bind_some]
  by_cases hrequestId : auth.headerName = "x-request-id"
  · have hne : auth.headerName ≠ "content-type" := by
      rw [hrequestId]
      decide
    rw [if_pos hrequestId, toStr_eq_some_iff]
    constructor
    · exact fun h => ⟨h.2, hne, fun _ => h.1.symm⟩
    · exact fun h => ⟨(h.2.2 hrequestId).symm, h.1⟩
  · rw [if_neg hrequestId]
    by_cases hcontentType : auth.headerName = "content-type"
    · have hshort : "application/json" ≠ config.token := by
        intro h
        have hlength := hstrong.1
        rw [← h] at hlength
        exact absurd hlength (by decide)
      simp [hcontentType, toStr_eq_some_iff, hshort]
    · rw [if_neg hcontentType, hvalue, headerValue_eq_iff]
      simp [hrequestId, hcontentType]

theorem strongToken_of_parse {lookup : Lookup} {config : Option InternalServiceAuthConfig}
    (h : parseInternalServiceAuthConfig lookup = .ok config) :
    ∀ auth ∈ config, StrongToken auth.token := by
  have hpost := @parseInternalServiceAuthConfig_comesTo ⟨fun _ => none, fun _ => true, rfl⟩ lookup
  rw [h, comesTo_ok] at hpost
  exact fun auth hauth => (hpost.2 auth hauth).1

/-- Where both services read one environment and the headers arrive as they were set, with others
after them, the ingest answers a trigger under the id of the gateway's request. It runs exactly if
the token is visible text and its header is not one of those that come before it. -/
theorem answerTrigger_triggerHeaders {parseUuid : String → Option Uuid} {lookup : Lookup}
    {config : Option InternalServiceAuthConfig}
    {internalAdminAuth : Option Ingest.InternalAdminAuthConfig}
    {internalAuth : Option InternalServiceAuth} {requestId : Uuid}
    (hgateway : parseInternalServiceAuthConfig lookup = .ok config)
    (hingest : parseInternalAdminAuthConfig lookup = .ok internalAdminAuth)
    (hclient : ingestAdminAuth config = .ok internalAuth)
    (hparse : parseUuid (uuidDisplay requestId) = some requestId)
    (fresh ingestId : Uuid) (added : HeaderMap) :
    (Ingest.answerTrigger parseUuid internalAdminAuth fresh ingestId
        (triggerHeaders internalAuth requestId ++ added)).requestId = requestId ∧
    ((Ingest.answerTrigger parseUuid internalAdminAuth fresh ingestId
        (triggerHeaders internalAuth requestId ++ added)).outcome = .ok ingestId ↔
      ∀ auth ∈ config, IsVisible auth.token ∧
        toAsciiLowercase auth.headerName ≠ "content-type" ∧
        (toAsciiLowercase auth.headerName = "x-request-id" →
          auth.token = uuidDisplay requestId)) := by
  have hid : Ingest.requestIdFromHeaders parseUuid fresh
      (triggerHeaders internalAuth requestId ++ added) = requestId := by
    rw [Ingest.requestIdFromHeaders, readHeader_requestId, Option.bind_some, hparse,
      Option.getD_some]
  have hmap : ∀ x : Except Ingest.AdminAuthError Unit,
      (x.map fun _ => ingestId) = .ok ingestId ↔ x = .ok () := by
    intro x
    cases x <;> simp [Except.map]
  simp only [Ingest.answerTrigger, hid, true_and, hmap, Ingest.requireInternalAdmin_eq_ok_iff]
  rw [parseInternalAdminAuthConfig, hgateway] at hingest
  cases hingest
  cases config with
  | none => simp
  | some config =>
    simp only [ingestAdminAuth] at hclient
    cases hauth : InternalServiceAuth.tryFromConfig config with
    | error e => simp [hauth, Except.map] at hclient
    | ok auth =>
      simp only [hauth, Except.map, Except.ok.injEq] at hclient
      subst hclient
      simpa using internalAdminToken_triggerHeaders_iff
        (strongToken_of_parse hgateway config rfl) hauth

section Sample

/-- An environment that holds a token and leaves its header to the default. -/
def sampleEnvironment : Lookup := fun name =>
  if name = "INTERNAL_SERVICE_AUTH_TOKEN" then some "0123456789abcdef0123456789abcdef" else none

def sampleServiceAuth : InternalServiceAuthConfig :=
  ⟨"x-lumenhorizon-internal-token", "0123456789abcdef0123456789abcdef"⟩

theorem parse_sampleEnvironment :
    parseInternalServiceAuthConfig sampleEnvironment = .ok (some sampleServiceAuth) := by
  have htoken : readOptional sampleEnvironment "INTERNAL_SERVICE_AUTH_TOKEN" =
      some sampleServiceAuth.token := by decide
  have hstrong : StrongToken sampleServiceAuth.token := by decide
  have hname : optionalOrDefault sampleEnvironment "INTERNAL_SERVICE_AUTH_HEADER"
      "x-lumenhorizon-internal-token" = "x-lumenhorizon-internal-token" := by decide
  have hheader : headerNameFromBytes "x-lumenhorizon-internal-token" =
      some "x-lumenhorizon-internal-token" := by decide
  simp only [parseInternalServiceAuthConfig, htoken, validateInternalServiceAuthToken, hstrong,
    if_true, hname, hheader]
  rfl

theorem tryFromConfig_sample : InternalServiceAuth.tryFromConfig sampleServiceAuth =
    .ok ⟨sampleServiceAuth.headerName, sampleServiceAuth.token⟩ := by
  have hname : headerNameFromBytes sampleServiceAuth.headerName =
      some sampleServiceAuth.headerName := by decide
  have hvalue : headerValueFromStr sampleServiceAuth.token = some sampleServiceAuth.token := by
    decide
  simp only [InternalServiceAuth.tryFromConfig, hname, hvalue]

def parseSampleUuid (text : String) : Option Uuid :=
  if text = uuidDisplay 7 then some 7 else none

/-- The trigger of the sample gateway, as it arrives, and what the ingest answers. -/
def sampleAnswer : Ingest.TriggerAnswer :=
  Ingest.answerTrigger parseSampleUuid
    (some ⟨sampleServiceAuth.headerName, sampleServiceAuth.token⟩) 1 2
    (triggerHeaders (some ⟨sampleServiceAuth.headerName, sampleServiceAuth.token⟩) 7 ++
      [("accept", "*/*")])

theorem answerTrigger_triggerHeaders_sample :
    sampleAnswer.requestId = 7 ∧ sampleAnswer.outcome = .ok 2 := by
  have hgateway := parse_sampleEnvironment
  have hingest : parseInternalAdminAuthConfig sampleEnvironment =
      .ok (some ⟨sampleServiceAuth.headerName, sampleServiceAuth.token⟩) := by
    rw [parseInternalAdminAuthConfig, hgateway]
    rfl
  have hclient : ingestAdminAuth (some sampleServiceAuth) =
      .ok (some ⟨sampleServiceAuth.headerName, sampleServiceAuth.token⟩) := by
    rw [ingestAdminAuth, tryFromConfig_sample]
    rfl
  have hparse : parseSampleUuid (uuidDisplay 7) = some 7 := if_pos rfl
  obtain ⟨hid, houtcome⟩ :=
    answerTrigger_triggerHeaders hgateway hingest hclient hparse 1 2 [("accept", "*/*")]
  have hvisible : IsVisible sampleServiceAuth.token := by decide
  have hcontentType : toAsciiLowercase sampleServiceAuth.headerName ≠ "content-type" := by decide
  have hrequestId : toAsciiLowercase sampleServiceAuth.headerName ≠ "x-request-id" := by decide
  refine ⟨hid, houtcome.mpr ?_⟩
  rintro auth ⟨⟩
  exact ⟨hvisible, hcontentType, fun h => absurd h hrequestId⟩

end Sample

end LumenHorizon.Gateway
