import LumenHorizon.Gateway.Routes

/-! # Admin tokens

The checks of `auth.rs` on a bearer token, but for the reads of its keys and of the clock. The
token library is a parameter, with what its documentation promises about a decoded token.
-/

namespace LumenHorizon.Gateway
open Shared

structure AdminContext where
  subject : String
  roles : List String
deriving DecidableEq, Repr

/-- Durations are whole seconds. -/
structure AuthConfig where
  issuer : String
  audience : String
  jwksUrl : String
  tenantId : Option String
  adminRoleClaim : String
  adminRequiredRole : String
  jwksCacheTtl : ℕ
  jwtClockSkew : ℕ
  maxAdminTokenLifetime : ℕ
deriving DecidableEq, Repr

structure Jwk where
  kid : String
  kty : String
  n : String
  e : String
deriving DecidableEq, Repr

structure Jwks where
  keys : List Jwk
deriving DecidableEq, Repr

/-- `fetchedAt` is a reading of the monotonic clock in nanoseconds. -/
structure CachedJwks where
  keys : Jwks
  fetchedAt : ℕ
deriving DecidableEq, Repr

/-- A claim other than the ones with a field of their own; a list keeps its texts. -/
inductive ClaimValue where
  | text (value : String)
  | list (values : List (Option String))
  | other
deriving DecidableEq, Repr

structure Claims where
  sub : String
  tid : Option String
  exp : ℕ
  iat : ℕ
  extra : List (String × ClaimValue)
deriving DecidableEq, Repr

structure JwtHeader where
  alg : String
  kid : Option String
deriving DecidableEq, Repr

structure DecodingKey where
  n : String
  e : String
deriving DecidableEq, Repr

structure Validation where
  algorithm : String
  leeway : ℕ
  validateExp : Bool
  validateNbf : Bool
  aud : Option (List String)
  iss : Option (List String)
  requiredSpecClaims : List String
deriving DecidableEq, Repr

/-- `Validation::new`: nothing but `exp` has to be there. -/
def Validation.new (algorithm : String) : Validation where
  algorithm := algorithm
  leeway := 60
  validateExp := true
  validateNbf := false
  aud := none
  iss := none
  requiredSpecClaims := ["exp"]

inductive JwtErrorKind where
  | expiredSignature
  | immatureSignature
  | invalidAudience
  | invalidIssuer
  | other
deriving DecidableEq, Repr

/-- `iss` or `aud` of a token. What is neither text nor a list of texts is unreadable. -/
inductive NameClaim where
  | absent
  | unreadable
  | text (value : String)
  | list (values : List String)
deriving DecidableEq, Repr

namespace NameClaim

/-- The names that the library reads; it passes over a claim that it cannot read. -/
def names : NameClaim → Option (List String)
  | absent | unreadable => none
  | text value => some [value]
  | list values => some values

def IsText (claim : NameClaim) : Prop := ∃ value, claim = text value

def IsReadable (claim : NameClaim) : Prop := claim.names ≠ none

end NameClaim

structure TokenPayload where
  iss : NameClaim
  aud : NameClaim
  claims : Claims
deriving DecidableEq, Repr

structure JwtLibrary where
  decodeHeader : String → Option JwtHeader
  /-- `DecodingKey::from_rsa_components` accepts the two numbers. -/
  rsaComponents : String → String → Bool
  payload : String → Option TokenPayload
  /-- `decode`, at a reading of the clock. -/
  decode : String → DecodingKey → Validation → ℕ → Except JwtErrorKind Claims

/-- What is known of a token that the library has decoded: its claims are the ones it carries, it
is not expired, and an issuer or audience that can be read has one of the configured names. -/
structure JwtLibrary.Lawful (jwt : JwtLibrary) : Prop where
  carries : ∀ token key validation now claims, jwt.decode token key validation now = .ok claims →
    ∃ payload, jwt.payload token = some payload ∧ payload.claims = claims
  unexpired : ∀ token key validation now claims, validation.validateExp = true →
    jwt.decode token key validation now = .ok claims → now ≤ claims.exp + validation.leeway
  issuer : ∀ token key validation now claims payload issuers configured,
    jwt.decode token key validation now = .ok claims → jwt.payload token = some payload →
    payload.iss.names = some issuers → validation.iss = some configured →
    ∃ issuer ∈ issuers, issuer ∈ configured
  audience : ∀ token key validation now claims payload audiences configured,
    jwt.decode token key validation now = .ok claims → jwt.payload token = some payload →
    payload.aud.names = some audiences → validation.aud = some configured →
    ∃ audience ∈ audiences, audience ∈ configured

def validationForConfig (config : AuthConfig) : Validation :=
  { Validation.new "RS256" with
    leeway := config.jwtClockSkew
    validateExp := true
    validateNbf := true
    aud := some [config.audience]
    iss := some [config.issuer] }

def jwtDecodeError : JwtErrorKind → GatewayError
  | .expiredSignature => .unauthenticated "token is expired"
  | .immatureSignature => .unauthenticated "token is not yet valid"
  | .invalidAudience => .unauthenticated "invalid token audience"
  | .invalidIssuer => .unauthenticated "invalid token issuer"
  | .other => .unauthenticated "invalid bearer token"

def bearerToken (headers : HeaderMap) : Except GatewayError String :=
  match getHeader headers "authorization" with
  | none => .error (.unauthenticated "authentication required")
  | some value =>
    match toStr value with
    | none => .error (.unauthenticated "invalid authorization header")
    | some value =>
      match stripPrefix value "Bearer " with
      | none => .error (.unauthenticated "bearer token is required")
      | some token =>
        if token.all isWhitespace then .error (.unauthenticated "bearer token is required")
        else .ok (String.ofList token)

/-- `u64::saturating_add`. -/
def saturatingAdd (a b : ℕ) : ℕ := min (a + b) (2 ^ 64 - 1)

/-- The `Option` of a tenant is compared only if one is configured. -/
def tenantMatches (config : AuthConfig) (claims : Claims) : Prop :=
  ∀ tenantId, config.tenantId = some tenantId → claims.tid = some tenantId

instance (config : AuthConfig) (claims : Claims) : Decidable (tenantMatches config claims) :=
  match h : config.tenantId with
  | none => isTrue (by simp [tenantMatches, h])
  | some tenantId => decidable_of_iff (claims.tid = some tenantId) (by simp [tenantMatches, h])

/-- `validate_registered_claims` at a reading of the clock; `saturating_sub` is subtraction. -/
def validateRegisteredClaims (config : AuthConfig) (claims : Claims) (now : ℕ) :
    Except GatewayError Unit :=
  if ¬ tenantMatches config claims then .error (.unauthenticated "invalid token tenant")
  else if isBlank claims.sub then .error (.unauthenticated "token subject is missing")
  else if claims.iat > saturatingAdd now config.jwtClockSkew then
    .error (.unauthenticated "token issued-at time is invalid")
  else if claims.exp - claims.iat > config.maxAdminTokenLifetime then
    .error (.unauthenticated "token lifetime is too long")
  else .ok ()

def rolesFromClaim (extra : List (String × ClaimValue)) (claimName : String) : List String :=
  match (extra.find? fun claim => claim.1 = claimName).map Prod.snd with
  | some (.text value) => [value]
  | some (.list values) => values.filterMap id
  | _ => []

/-- What comes after the token is decoded. -/
def admitClaims (config : AuthConfig) (requiredRole : String) (claims : Claims) (now : ℕ) :
    Except GatewayError AdminContext := do
  validateRegisteredClaims config claims now
  let roles := rolesFromClaim claims.extra config.adminRoleClaim
  if requiredRole ∈ roles then .ok { subject := claims.sub, roles := roles }
  else .error (.forbidden "admin role is required")

def Jwks.decodingKey (jwt : JwtLibrary) (jwks : Jwks) (kid : String) : Option DecodingKey :=
  (jwks.keys.find? fun key => key.kid = kid ∧ key.kty = "RSA").bind fun key =>
    if jwt.rsaComponents key.n key.e then some { n := key.n, e := key.e } else none

theorem validateRegisteredClaims_eq_ok_iff {config : AuthConfig} {claims : Claims} {now : ℕ} :
    validateRegisteredClaims config claims now = .ok () ↔
      tenantMatches config claims ∧ isBlank claims.sub = false ∧
        claims.iat ≤ saturatingAdd now config.jwtClockSkew ∧
        claims.exp - claims.iat ≤ config.maxAdminTokenLifetime := by
  unfold validateRegisteredClaims
  by_cases htenant : tenantMatches config claims
  · rw [if_neg (not_not.mpr htenant)]
    split_ifs with hsub hiat hlifetime
    · simp [hsub]
    · simp only [false_iff]
      omega
    · simp only [false_iff]
      omega
    · simp only [true_iff]
      exact ⟨htenant, by simpa using hsub, by omega, by omega⟩
  · rw [if_pos htenant]
    simp [htenant]

theorem admitClaims_eq_ok_iff {config : AuthConfig} {requiredRole : String} {claims : Claims}
    {now : ℕ} {admin : AdminContext} : admitClaims config requiredRole claims now = .ok admin ↔
      validateRegisteredClaims config claims now = .ok () ∧
        requiredRole ∈ rolesFromClaim claims.extra config.adminRoleClaim ∧
        admin = { subject := claims.sub,
                  roles := rolesFromClaim claims.extra config.adminRoleClaim } := by
  rw [admitClaims, Foundation.bind_eq_ok_iff]
  constructor
  · rintro ⟨_, hvalid, h⟩
    dsimp only at h
    split_ifs at h with hrole
    exact ⟨hvalid, hrole, (Except.ok.inj h).symm⟩
  · rintro ⟨hvalid, hrole, rfl⟩
    exact ⟨(), hvalid, if_pos hrole⟩

theorem Jwks.decodingKey_eq_some {jwt : JwtLibrary} {jwks : Jwks} {kid : String}
    {key : DecodingKey} (h : jwks.decodingKey jwt kid = some key) :
    ∃ jwk ∈ jwks.keys, jwk.kid = kid ∧ jwk.kty = "RSA" ∧ key = { n := jwk.n, e := jwk.e } := by
  obtain ⟨jwk, hfind, h⟩ := Option.bind_eq_some_iff.mp h
  split_ifs at h
  have hjwk := List.find?_some hfind
  simp only [decide_eq_true_eq] at hjwk
  exact ⟨jwk, List.mem_of_find?_eq_some hfind, hjwk.1, hjwk.2, (Option.some.inj h).symm⟩

/-- How far an expiry and an issue time can lie apart from the readings that they pass at. -/
theorem admitted_within {config : AuthConfig} {claims : Claims} {decodedAt checkedAt : ℕ}
    (hexp : decodedAt ≤ claims.exp + config.jwtClockSkew)
    (hclaims : validateRegisteredClaims config claims checkedAt = .ok ()) :
    decodedAt ≤ checkedAt + (config.maxAdminTokenLifetime + 2 * config.jwtClockSkew) := by
  obtain ⟨-, -, hiat, hlifetime⟩ := validateRegisteredClaims_eq_ok_iff.mp hclaims
  unfold saturatingAdd at hiat
  omega

end LumenHorizon.Gateway
