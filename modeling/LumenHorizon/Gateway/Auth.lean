import LumenHorizon.Gateway.Calls

/-! # Authentication of admin requests

`authenticate_with_role` as a program: the keys come from the cache or from the issuer, the clock
is read by the token library and again by the checks of the gateway.
-/

namespace LumenHorizon.Gateway
open Foundation Shared GatewayProgram

def JwksFetchError.toGatewayError : JwksFetchError → GatewayError
  | unavailable => .serviceUnavailable "JWKS endpoint is unavailable"
  | errorStatus => .serviceUnavailable "JWKS endpoint returned an error"
  | invalidResponse => .serviceUnavailable "JWKS response is invalid"

def refreshJwks (config : AuthConfig) : GatewayProgram (Except GatewayError Jwks) := do
  match ← fetchJwks config.jwksUrl with
  | .error error => pure (.error error.toGatewayError)
  | .ok keys =>
    let fetchedAt ← instant
    writeJwksCache { keys := keys, fetchedAt := fetchedAt }
    pure (.ok keys)

/-- The cached keys count for as long as the configuration says. -/
def cachedJwks (config : AuthConfig) : GatewayProgram (Except GatewayError Jwks) := do
  match ← readJwksCache with
  | none => refreshJwks config
  | some cached =>
    let now ← instant
    if now - cached.fetchedAt ≤ config.jwksCacheTtl * 1000000000 then pure (.ok cached.keys)
    else refreshJwks config

/-- The key with this id; an id that the cached keys do not know makes them be fetched once more. -/
def signingKey (jwt : JwtLibrary) (config : AuthConfig) (kid : String) :
    GatewayProgram (Except GatewayError DecodingKey) := do
  match ← cachedJwks config with
  | .error error => pure (.error error)
  | .ok jwks =>
    match jwks.decodingKey jwt kid with
    | some key => pure (.ok key)
    | none =>
      match ← refreshJwks config with
      | .error error => pure (.error error)
      | .ok jwks =>
        match jwks.decodingKey jwt kid with
        | some key => pure (.ok key)
        | none => pure (.error (.unauthenticated "token signing key is unknown"))

/-- From the signing key on. -/
def verifyToken (jwt : JwtLibrary) (config : AuthConfig) (requiredRole token : String)
    (key : DecodingKey) : GatewayProgram (Except GatewayError AdminContext) := do
  let decodedAt ← unixTimestamp
  match jwt.decode token key (validationForConfig config) decodedAt with
  | .error kind => pure (.error (jwtDecodeError kind))
  | .ok claims =>
    let now ← unixTimestamp
    pure (admitClaims config requiredRole claims now)

def authenticateWithRole (jwt : JwtLibrary) (config : AuthConfig) (headers : HeaderMap)
    (requiredRole : String) : GatewayProgram (Except GatewayError AdminContext) :=
  match bearerToken headers with
  | .error error => pure (.error error)
  | .ok token =>
    match jwt.decodeHeader token with
    | none => pure (.error (.unauthenticated "invalid bearer token"))
    | some header =>
      if header.alg ≠ "RS256" then
        pure (.error (.unauthenticated "unsupported token algorithm"))
      else
        match header.kid with
        | none => pure (.error (.unauthenticated "token key id is missing"))
        | some kid => do
          match ← signingKey jwt config kid with
          | .error error => pure (.error error)
          | .ok key => verifyToken jwt config requiredRole token key

/-- The keys came from the cache or from the issuer. -/
def Obtained (t : GatewayHistory) (jwks : Jwks) : Prop :=
  (∃ cached, ⟨.readJwksCache, some cached⟩ ∈ t ∧ cached.keys = jwks) ∨
    ∃ url, ⟨.fetchJwks url, .ok jwks⟩ ∈ t

variable {jwt : JwtLibrary} {config : AuthConfig} {t : GatewayHistory}

theorem refreshJwks_follows_ok {jwks : Jwks} (h : (refreshJwks config).Follows t (.done (.ok jwks))) :
    ⟨.fetchJwks config.jwksUrl, .ok jwks⟩ ∈ t := by
  obtain ⟨reply, t₁, h₁, rfl⟩ := Program.follows_request_bind_done_iff.mp h
  cases reply with
  | error error =>
    obtain ⟨-, hdone⟩ := Program.follows_done_iff.mp h₁
    cases hdone
  | ok keys =>
    obtain ⟨now, t₂, h₂, rfl⟩ := Program.follows_request_bind_done_iff.mp h₁
    obtain ⟨_, t₃, h₃, rfl⟩ := Program.follows_request_bind_done_iff.mp h₂
    obtain ⟨rfl, hdone⟩ := Program.follows_done_iff.mp h₃
    cases hdone
    simp

theorem Obtained.append_left {t' : GatewayHistory} {jwks : Jwks} (h : Obtained t jwks) :
    Obtained (t ++ t') jwks := by
  rcases h with ⟨cached, hmem, hkeys⟩ | ⟨url, hmem⟩
  · exact .inl ⟨cached, List.mem_append_left _ hmem, hkeys⟩
  · exact .inr ⟨url, List.mem_append_left _ hmem⟩

theorem Obtained.append_right {t' : GatewayHistory} {jwks : Jwks} (h : Obtained t' jwks) :
    Obtained (t ++ t') jwks := by
  rcases h with ⟨cached, hmem, hkeys⟩ | ⟨url, hmem⟩
  · exact .inl ⟨cached, List.mem_append_right _ hmem, hkeys⟩
  · exact .inr ⟨url, List.mem_append_right _ hmem⟩

theorem Obtained.of_refreshJwks {jwks : Jwks}
    (h : (refreshJwks config).Follows t (.done (.ok jwks))) : Obtained t jwks :=
  .inr ⟨_, refreshJwks_follows_ok h⟩

theorem cachedJwks_follows_ok {jwks : Jwks} (h : (cachedJwks config).Follows t (.done (.ok jwks))) :
    Obtained t jwks := by
  obtain ⟨reply, t₁, h₁, rfl⟩ := Program.follows_request_bind_done_iff.mp h
  cases reply with
  | none => exact (Obtained.of_refreshJwks h₁).append_left
  | some cached =>
    obtain ⟨now, t₂, h₂, rfl⟩ := Program.follows_request_bind_done_iff.mp h₁
    split at h₂
    · obtain ⟨rfl, hdone⟩ := Program.follows_done_iff.mp h₂
      cases hdone
      exact .inl ⟨cached, by simp, rfl⟩
    · exact (Obtained.of_refreshJwks h₂).append_left.append_left

theorem signingKey_follows_ok {kid : String} {key : DecodingKey}
    (h : (signingKey jwt config kid).Follows t (.done (.ok key))) :
    ∃ jwks, Obtained t jwks ∧ jwks.decodingKey jwt kid = some key := by
  obtain ⟨outcome, t₁, t₂, h₁, h₂, rfl⟩ := Program.follows_bind_done_iff.mp h
  cases outcome with
  | error error =>
    obtain ⟨-, hdone⟩ := Program.follows_done_iff.mp h₂
    cases hdone
  | ok jwks =>
    have hobtained := cachedJwks_follows_ok h₁
    dsimp only at h₂
    split at h₂
    · next key' hkey =>
      obtain ⟨rfl, hdone⟩ := Program.follows_done_iff.mp h₂
      cases hdone
      exact ⟨jwks, hobtained.append_right, hkey⟩
    · -- the keys were fetched once more
      obtain ⟨outcome, t₃, t₄, h₃, h₄, rfl⟩ := Program.follows_bind_done_iff.mp h₂
      cases outcome with
      | error error =>
        obtain ⟨-, hdone⟩ := Program.follows_done_iff.mp h₄
        cases hdone
      | ok jwks' =>
        have hfetched := Obtained.of_refreshJwks h₃
        dsimp only at h₄
        split at h₄
        · next key' hkey =>
          obtain ⟨rfl, hdone⟩ := Program.follows_done_iff.mp h₄
          cases hdone
          exact ⟨jwks', hfetched.append_right.append_left, hkey⟩
        · obtain ⟨-, hdone⟩ := Program.follows_done_iff.mp h₄
          cases hdone

end LumenHorizon.Gateway
