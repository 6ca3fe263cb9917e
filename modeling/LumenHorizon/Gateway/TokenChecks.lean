import LumenHorizon.Gateway.Auth

/-! # What an accepted token was checked for

The library checks the issuer and the audience of a token where it can read them, the gateway checks
its own claims. An accepting run reads the clock once for each of the two.
-/

namespace LumenHorizon.Gateway
open Foundation Shared GatewayProgram

/-- What a run has seen that accepts a token, with the checks that were passed. -/
structure Acceptance (jwt : JwtLibrary) (config : AuthConfig) (requiredRole token : String)
    (t : GatewayHistory) where
  kid : String
  jwks : Jwks
  key : DecodingKey
  claims : Claims
  decodedAt : ℕ
  checkedAt : ℕ
  earlier : GatewayHistory
  header : jwt.decodeHeader token = some { alg := "RS256", kid := some kid }
  obtained : Obtained earlier jwks
  signed : jwks.decodingKey jwt kid = some key
  decoded : jwt.decode token key (validationForConfig config) decodedAt = .ok claims
  valid : validateRegisteredClaims config claims checkedAt = .ok ()
  role : requiredRole ∈ rolesFromClaim claims.extra config.adminRoleClaim
  history : t = ⟨.unixTimestamp, checkedAt⟩ :: ⟨.unixTimestamp, decodedAt⟩ :: earlier

variable {jwt : JwtLibrary} {config : AuthConfig} {headers : HeaderMap}
  {requiredRole token : String} {t : GatewayHistory} {admin : AdminContext}

theorem verifyToken_follows_ok {key : DecodingKey}
    (h : (verifyToken jwt config requiredRole token key).Follows t (.done (.ok admin))) :
    ∃ decodedAt checkedAt claims, t = [⟨.unixTimestamp, checkedAt⟩, ⟨.unixTimestamp, decodedAt⟩] ∧
      jwt.decode token key (validationForConfig config) decodedAt = .ok claims ∧
      admitClaims config requiredRole claims checkedAt = .ok admin := by
  obtain ⟨decodedAt, t₁, h₁, rfl⟩ := Program.follows_request_bind_done_iff.mp h
  split at h₁
  · obtain ⟨-, hdone⟩ := Program.follows_done_iff.mp h₁
    cases hdone
  · next claims hdecode =>
    obtain ⟨checkedAt, t₂, h₂, rfl⟩ := Program.follows_request_bind_done_iff.mp h₁
    obtain ⟨rfl, hdone⟩ := Program.follows_done_iff.mp h₂
    exact ⟨decodedAt, checkedAt, claims, rfl, hdecode, (Program.done.inj hdone).symm⟩

/-- An accepting run is an acceptance of the token in its headers. -/
theorem authenticateWithRole_follows_ok
    (h : (authenticateWithRole jwt config headers requiredRole).Follows t (.done (.ok admin))) :
    ∃ token, bearerToken headers = .ok token ∧
      Nonempty (Acceptance jwt config requiredRole token t) := by
  unfold authenticateWithRole at h
  split at h
  · cases (Program.follows_done_iff.mp h).2
  next token htoken =>
  split at h
  · cases (Program.follows_done_iff.mp h).2
  next header hheader =>
  split_ifs at h with halg
  · cases (Program.follows_done_iff.mp h).2
  split at h
  · cases (Program.follows_done_iff.mp h).2
  next kid hkid =>
  obtain ⟨outcome, t₁, t₂, h₁, h₂, rfl⟩ := Program.follows_bind_done_iff.mp h
  cases outcome with
  | error error => cases (Program.follows_done_iff.mp h₂).2
  | ok key =>
    obtain ⟨jwks, hobtained, hkey⟩ := signingKey_follows_ok h₁
    obtain ⟨decodedAt, checkedAt, claims, rfl, hdecode, hadmit⟩ := verifyToken_follows_ok h₂
    obtain ⟨hvalid, hrole, -⟩ := admitClaims_eq_ok_iff.mp hadmit
    have hrs256 : header = { alg := "RS256", kid := some kid } := by
      rw [← not_not.mp halg, ← hkid]
    exact ⟨token, htoken, ⟨{
      kid := kid
      jwks := jwks
      key := key
      claims := claims
      decodedAt := decodedAt
      checkedAt := checkedAt
      earlier := t₁
      header := by rw [hheader, hrs256]
      obtained := hobtained
      signed := hkey
      decoded := hdecode
      valid := hvalid
      role := hrole
      history := rfl }⟩⟩

structure KnownToken where
  token : String
  header : JwtHeader
  payload : TokenPayload
  /-- The public half of the key that it is signed with. -/
  signedBy : DecodingKey
deriving DecidableEq, Repr

/-- The names of the configured ones are among those of the token, if both are there. -/
def mismatch : Option (List String) → Option (List String) → Bool
  | some named, some configured => !named.any fun name => decide (name ∈ configured)
  | _, _ => false

/-- The documented checks on what a token says; a claim has to be read only if it is required. -/
def Validation.validate (validation : Validation) (payload : TokenPayload) (now : ℕ) :
    Except JwtErrorKind Claims :=
  if ("iss" ∈ validation.requiredSpecClaims ∧ payload.iss.names = none) ∨
      ("aud" ∈ validation.requiredSpecClaims ∧ payload.aud.names = none) then .error .other
  else if validation.validateExp ∧ payload.claims.exp + validation.leeway < now then
    .error .expiredSignature
  else if mismatch payload.iss.names validation.iss then .error .invalidIssuer
  else if mismatch payload.aud.names validation.aud then .error .invalidAudience
  else .ok payload.claims

def JwtLibrary.ofTokens (tokens : List KnownToken) : JwtLibrary where
  decodeHeader token := (tokens.find? (·.token = token)).map (·.header)
  rsaComponents _ _ := true
  payload token := (tokens.find? (·.token = token)).map (·.payload)
  decode token key validation now :=
    match tokens.find? (·.token = token) with
    | none => .error .other
    | some known =>
      if known.header.alg = validation.algorithm ∧ known.signedBy = key then
        validation.validate known.payload now
      else .error .other

theorem exists_of_mismatch_eq_false {named configured : List String}
    (h : mismatch (some named) (some configured) = false) : ∃ name ∈ named, name ∈ configured := by
  simpa [mismatch] using h

theorem Validation.validate_eq_ok {validation : Validation} {payload : TokenPayload} {now : ℕ}
    {claims : Claims} (h : validation.validate payload now = .ok claims) :
    payload.claims = claims ∧ (validation.validateExp = true → now ≤ claims.exp + validation.leeway) ∧
      mismatch payload.iss.names validation.iss = false ∧
      mismatch payload.aud.names validation.aud = false := by
  unfold validate at h
  split_ifs at h with _ hexp hiss haud
  cases h
  refine ⟨rfl, fun hvalidate => ?_, by simpa using hiss, by simpa using haud⟩
  exact not_lt.mp fun hlt => hexp ⟨hvalidate, hlt⟩

theorem JwtLibrary.decode_ofTokens {tokens : List KnownToken} {token : String} {key : DecodingKey}
    {validation : Validation} {now : ℕ} {claims : Claims}
    (h : (ofTokens tokens).decode token key validation now = .ok claims) :
    ∃ payload, (ofTokens tokens).payload token = some payload ∧
      validation.validate payload now = .ok claims := by
  dsimp only [ofTokens] at h ⊢
  split at h
  · cases h
  · next known hknown =>
    split_ifs at h
    exact ⟨known.payload, by rw [hknown]; rfl, h⟩

theorem JwtLibrary.lawful_ofTokens (tokens : List KnownToken) : (ofTokens tokens).Lawful where
  carries token key validation now claims h := by
    obtain ⟨payload, hpayload, hvalid⟩ := decode_ofTokens h
    exact ⟨payload, hpayload, (Validation.validate_eq_ok hvalid).1⟩
  unexpired token key validation now claims hexp h := by
    obtain ⟨payload, -, hvalid⟩ := decode_ofTokens h
    exact (Validation.validate_eq_ok hvalid).2.1 hexp
  issuer token key validation now claims payload issuers configured h hpayload hiss hconfigured := by
    obtain ⟨payload', hpayload', hvalid⟩ := decode_ofTokens h
    cases hpayload.symm.trans hpayload'
    have hmatch := (Validation.validate_eq_ok hvalid).2.2.1
    rw [hiss, hconfigured] at hmatch
    exact exists_of_mismatch_eq_false hmatch
  audience token key validation now claims payload audiences configured h hpayload haud
      hconfigured := by
    obtain ⟨payload', hpayload', hvalid⟩ := decode_ofTokens h
    cases hpayload.symm.trans hpayload'
    have hmatch := (Validation.validate_eq_ok hvalid).2.2.2
    rw [haud, hconfigured] at hmatch
    exact exists_of_mismatch_eq_false hmatch

def sampleConfig : AuthConfig where
  issuer := "https://issuer.test"
  audience := "api://lumenhorizon"
  jwksUrl := "https://issuer.test/keys"
  tenantId := none
  adminRoleClaim := "roles"
  adminRequiredRole := "lumenhorizon.admin"
  jwksCacheTtl := 300
  jwtClockSkew := 60
  maxAdminTokenLifetime := 3600

def sampleJwk : Jwk :=
  { kid := "lumenhorizon-test-key", kty := "RSA", n := "owP", e := "AQAB" }

/-- Issued to the skew before its time, for as long as it may last. -/
def payloadNaming (iss aud : NameClaim) : TokenPayload where
  iss := iss
  aud := aud
  claims := {
    sub := "operator"
    tid := none
    exp := 4660
    iat := 1060
    extra := [("roles", .list [some "lumenhorizon.admin"])] }

def jwtNaming (iss aud : NameClaim) : JwtLibrary := .ofTokens [{
  token := "sample-token"
  header := { alg := "RS256", kid := some "lumenhorizon-test-key" }
  payload := payloadNaming iss aud
  signedBy := { n := sampleJwk.n, e := sampleJwk.e } }]

def sampleJwt : JwtLibrary := jwtNaming .absent .absent

def sampleHeaders : HeaderMap := [("authorization", "Bearer sample-token")]

/-- The calls of a run at this time, which finds the key in the cache. -/
def sampleCalls (time : ℕ) : List (Σ c, GatewayCall.Reply c) :=
  [⟨.readJwksCache, some { keys := { keys := [sampleJwk] }, fetchedAt := 0 }⟩, ⟨.instant, 5⟩,
    ⟨.unixTimestamp, time⟩, ⟨.unixTimestamp, time⟩]

/-- A token that names these is accepted at this time. -/
def AcceptedNaming (iss aud : NameClaim) (time : ℕ) : Prop :=
  (authenticateWithRole (jwtNaming iss aud) sampleConfig sampleHeaders
    "lumenhorizon.admin").Follows (sampleCalls time).reverse
    (.done (.ok { subject := "operator", roles := ["lumenhorizon.admin"] }))

theorem lawful_jwtNaming (iss aud : NameClaim) : (jwtNaming iss aud).Lawful :=
  JwtLibrary.lawful_ofTokens _

theorem bearerToken_sampleHeaders : bearerToken sampleHeaders = .ok "sample-token" := by
  decide +kernel

theorem payload_jwtNaming (iss aud : NameClaim) :
    (jwtNaming iss aud).payload "sample-token" = some (payloadNaming iss aud) := rfl

theorem sampleAccepted_first : AcceptedNaming .absent .absent 1000 :=
  Program.follows_of_replay (by decide +kernel)

theorem sampleAccepted_last : AcceptedNaming .absent .absent 4720 :=
  Program.follows_of_replay (by decide +kernel)

/-- The run ended with these readings of the clock, for the library and for the own checks. -/
def ReadsClock (t : GatewayHistory) (decodedAt checkedAt : ℕ) : Prop :=
  ∃ earlier, t = ⟨.unixTimestamp, checkedAt⟩ :: ⟨.unixTimestamp, decodedAt⟩ :: earlier

theorem ReadsClock.unique {decodedAt decodedAt' checkedAt checkedAt' : ℕ}
    (h : ReadsClock t decodedAt checkedAt) (h' : ReadsClock t decodedAt' checkedAt') :
    decodedAt = decodedAt' ∧ checkedAt = checkedAt' := by
  obtain ⟨earlier, rfl⟩ := h
  obtain ⟨earlier', heq⟩ := h'
  cases heq
  exact ⟨rfl, rfl⟩

def AcceptedAt (t : GatewayHistory) (time : ℕ) : Prop := ReadsClock t time time

/-- The token names an RSA key of the keys that the run obtained, is signed with it by RS256, and
says who may do what. -/
def VerifiedToken (jwt : JwtLibrary) (config : AuthConfig) (requiredRole token : String)
    (t : GatewayHistory) : Prop :=
  ∃ jwks jwk claims decodedAt, Obtained t jwks ∧ jwk ∈ jwks.keys ∧ jwk.kty = "RSA" ∧
    jwt.decodeHeader token = some { alg := "RS256", kid := some jwk.kid } ∧
    jwt.decode token { n := jwk.n, e := jwk.e } (validationForConfig config) decodedAt = .ok claims ∧
    isBlank claims.sub = false ∧ tenantMatches config claims ∧
    requiredRole ∈ rolesFromClaim claims.extra config.adminRoleClaim

theorem Acceptance.verifiedToken (a : Acceptance jwt config requiredRole token t) :
    VerifiedToken jwt config requiredRole token t := by
  obtain ⟨kid, jwks, key, claims, decodedAt, checkedAt, earlier, hheader, hobtained, hsigned,
    hdecoded, hvalid, hrole, rfl⟩ := a
  obtain ⟨jwk, hmem, rfl, hkty, rfl⟩ := Jwks.decodingKey_eq_some hsigned
  obtain ⟨htenant, hsub, -, -⟩ := validateRegisteredClaims_eq_ok_iff.mp hvalid
  have hbefore : Obtained (⟨.unixTimestamp, checkedAt⟩ :: ⟨.unixTimestamp, decodedAt⟩ :: earlier) jwks :=
    hobtained.append_right (t := [⟨.unixTimestamp, checkedAt⟩, ⟨.unixTimestamp, decodedAt⟩])
  exact ⟨jwks, jwk, claims, decodedAt, hbefore, hmem, hkty, hheader, hdecoded, hsub, htenant, hrole⟩

theorem Acceptance.payload_claims (hjwt : jwt.Lawful) (a : Acceptance jwt config requiredRole token t) :
    (jwt.payload token).map TokenPayload.claims = some a.claims := by
  obtain ⟨payload, hpayload, hclaims⟩ := hjwt.carries _ _ _ _ _ a.decoded
  rw [hpayload, Option.map_some, hclaims]

/-- One acceptance of a token is decoded before another one's check, up to its lifetime and the
skew on both sides. -/
theorem Acceptance.decodedAt_le (hjwt : jwt.Lawful) {requiredRole' : String} {t' : GatewayHistory}
    (a : Acceptance jwt config requiredRole token t)
    (a' : Acceptance jwt config requiredRole' token t') :
    a.decodedAt ≤ a'.checkedAt + (config.maxAdminTokenLifetime + 2 * config.jwtClockSkew) := by
  have hsame : a.claims = a'.claims :=
    Option.some.inj ((a.payload_claims hjwt).symm.trans (a'.payload_claims hjwt))
  have hexp : a.decodedAt ≤ a'.claims.exp + config.jwtClockSkew :=
    hsame ▸ hjwt.unexpired _ _ _ _ _ rfl a.decoded
  exact admitted_within hexp a'.valid

/-- Two acceptances of one token lie no further apart than its lifetime and the skew on both sides:
the one is decoded before the other is checked, give or take that much. And each was of a token
that the run had verified. -/
theorem acceptances_within_lifetime (hjwt : jwt.Lawful) {headers₁ headers₂ : HeaderMap}
    {role₁ role₂ : String} {t₁ t₂ : GatewayHistory} {admin₁ admin₂ : AdminContext}
    (htoken₁ : bearerToken headers₁ = .ok token) (htoken₂ : bearerToken headers₂ = .ok token)
    (h₁ : (authenticateWithRole jwt config headers₁ role₁).Follows t₁ (.done (.ok admin₁)))
    (h₂ : (authenticateWithRole jwt config headers₂ role₂).Follows t₂ (.done (.ok admin₂))) :
    (VerifiedToken jwt config role₁ token t₁ ∧ VerifiedToken jwt config role₂ token t₂) ∧
      (∃ decodedAt₁ checkedAt₁ decodedAt₂ checkedAt₂,
        ReadsClock t₁ decodedAt₁ checkedAt₁ ∧ ReadsClock t₂ decodedAt₂ checkedAt₂ ∧
        decodedAt₂ ≤ checkedAt₁ + (config.maxAdminTokenLifetime + 2 * config.jwtClockSkew) ∧
        decodedAt₁ ≤ checkedAt₂ + (config.maxAdminTokenLifetime + 2 * config.jwtClockSkew)) ∧
      ∀ time₁ time₂, AcceptedAt t₁ time₁ → AcceptedAt t₂ time₂ →
        |(time₂ : ℤ) - time₁| ≤ config.maxAdminTokenLifetime + 2 * config.jwtClockSkew := by
  obtain ⟨token₁, heq₁, ⟨a₁⟩⟩ := authenticateWithRole_follows_ok h₁
  obtain ⟨token₂, heq₂, ⟨a₂⟩⟩ := authenticateWithRole_follows_ok h₂
  cases htoken₁.symm.trans heq₁
  cases htoken₂.symm.trans heq₂
  have hforth := a₂.decodedAt_le hjwt a₁
  have hback := a₁.decodedAt_le hjwt a₂
  have hclock₁ : ReadsClock t₁ a₁.decodedAt a₁.checkedAt := ⟨_, a₁.history⟩
  have hclock₂ : ReadsClock t₂ a₂.decodedAt a₂.checkedAt := ⟨_, a₂.history⟩
  refine ⟨⟨a₁.verifiedToken, a₂.verifiedToken⟩,
    ⟨_, _, _, _, hclock₁, hclock₂, hforth, hback⟩, fun time₁ time₂ htime₁ htime₂ => ?_⟩
  obtain ⟨hdecoded₁, hchecked₁⟩ := hclock₁.unique htime₁
  obtain ⟨hdecoded₂, hchecked₂⟩ := hclock₂.unique htime₂
  rw [abs_le]
  omega

/-- The bound is reached. -/
theorem acceptances_within_lifetime_sample :
    (VerifiedToken sampleJwt sampleConfig "lumenhorizon.admin" "sample-token"
        (sampleCalls 1000).reverse ∧
      VerifiedToken sampleJwt sampleConfig "lumenhorizon.admin" "sample-token"
        (sampleCalls 4720).reverse) ∧
      (∃ decodedAt₁ checkedAt₁ decodedAt₂ checkedAt₂,
        ReadsClock (sampleCalls 1000).reverse decodedAt₁ checkedAt₁ ∧
        ReadsClock (sampleCalls 4720).reverse decodedAt₂ checkedAt₂ ∧
        decodedAt₂ ≤ checkedAt₁ + (3600 + 2 * 60) ∧ decodedAt₁ ≤ checkedAt₂ + (3600 + 2 * 60)) ∧
      ∀ time₁ time₂ : ℕ, AcceptedAt (sampleCalls 1000).reverse time₁ →
        AcceptedAt (sampleCalls 4720).reverse time₂ → |(time₂ : ℤ) - time₁| ≤ 3600 + 2 * 60 :=
  acceptances_within_lifetime (lawful_jwtNaming _ _) bearerToken_sampleHeaders bearerToken_sampleHeaders
    sampleAccepted_first sampleAccepted_last

def NamesIssuer (config : AuthConfig) (payload : TokenPayload) : Prop :=
  payload.iss = .text config.issuer

def NamesAudience (config : AuthConfig) (payload : TokenPayload) : Prop :=
  ∃ audiences, payload.aud.names = some audiences ∧ config.audience ∈ audiences

/-- An accepted token names the configured issuer and audience exactly if its issuer is text and its
audience can be read. -/
theorem issuerAndAudience_enforced_iff (hjwt : jwt.Lawful) {payload : TokenPayload}
    (htoken : bearerToken headers = .ok token) (hpayload : jwt.payload token = some payload)
    (h : (authenticateWithRole jwt config headers requiredRole).Follows t (.done (.ok admin))) :
    (NamesIssuer config payload ∧ NamesAudience config payload) ↔
      payload.iss.IsText ∧ payload.aud.IsReadable := by
  obtain ⟨token', heq, ⟨a⟩⟩ := authenticateWithRole_follows_ok h
  cases htoken.symm.trans heq
  constructor
  · rintro ⟨hiss, audiences, haud, -⟩
    exact ⟨⟨_, hiss⟩, by rw [NameClaim.IsReadable, haud]; exact Option.some_ne_none _⟩
  · rintro ⟨⟨issuer, hiss⟩, haud⟩
    obtain ⟨audiences, haud⟩ := Option.ne_none_iff_exists'.mp haud
    have hnames : payload.iss.names = some [issuer] := by rw [hiss, NameClaim.names]
    obtain ⟨_, hmem, hconfigured⟩ := hjwt.issuer _ _ _ _ _ _ _ _ a.decoded hpayload hnames rfl
    obtain ⟨audience, haudience, hconfigured'⟩ :=
      hjwt.audience _ _ _ _ _ _ _ _ a.decoded hpayload haud rfl
    cases List.mem_singleton.mp hmem
    cases List.mem_singleton.mp hconfigured
    cases List.mem_singleton.mp hconfigured'
    exact ⟨hiss, audiences, haud, haudience⟩

/-- A token of the issuer for two audiences. -/
theorem issuerAndAudience_enforced_sample :
    let payload := payloadNaming (.text sampleConfig.issuer)
      (.list ["api://other", sampleConfig.audience])
    (NamesIssuer sampleConfig payload ∧ NamesAudience sampleConfig payload) ↔
      payload.iss.IsText ∧ payload.aud.IsReadable := by
  have haccepted : AcceptedNaming (.text sampleConfig.issuer)
      (.list ["api://other", sampleConfig.audience]) 1000 :=
    Program.follows_of_replay (by decide +kernel)
  exact issuerAndAudience_enforced_iff (lawful_jwtNaming _ _) bearerToken_sampleHeaders
    (payload_jwtNaming _ _) haccepted

/-- A signed token that claims this is accepted, and does not name the configured issuer and
audience. -/
structure AcceptedUnenforced (iss aud : NameClaim) : Prop where
  lawful : (jwtNaming iss aud).Lawful
  token : bearerToken sampleHeaders = .ok "sample-token"
  payload : (jwtNaming iss aud).payload "sample-token" = some (payloadNaming iss aud)
  accepted : AcceptedNaming iss aud 1000
  names : ¬ (NamesIssuer sampleConfig (payloadNaming iss aud) ∧
    NamesAudience sampleConfig (payloadNaming iss aud))

/-- So it is with a token of nobody for nobody, with one whose names cannot be read, and with one
of a second issuer besides the configured one. -/
theorem not_issuerAndAudience_enforced :
    AcceptedUnenforced .absent .absent ∧ AcceptedUnenforced .unreadable .unreadable ∧
      AcceptedUnenforced (.list [sampleConfig.issuer, "https://other.test"])
        (.text sampleConfig.audience) := by
  have hunenforced {iss aud : NameClaim} (hissuer : iss ≠ .text sampleConfig.issuer)
      (haccepted : AcceptedNaming iss aud 1000) : AcceptedUnenforced iss aud :=
    ⟨lawful_jwtNaming _ _, bearerToken_sampleHeaders, payload_jwtNaming _ _, haccepted,
      fun h => hissuer h.1⟩
  refine ⟨hunenforced nofun ?_, hunenforced nofun ?_, hunenforced nofun ?_⟩ <;>
    exact Program.follows_of_replay (by decide +kernel)

end LumenHorizon.Gateway
