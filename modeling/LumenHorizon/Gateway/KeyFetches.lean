import LumenHorizon.Foundation.Alone
import LumenHorizon.Gateway.AdminAudit
import LumenHorizon.Gateway.Stores

/-! # Fetches of the issuer's keys

An authentication fetches the keys when the cache has none that still count, and once more for a
key id that the keys at hand do not know. Only an authentication that has failed is charged to its
client, so the limiter refuses answers; what was fetched before is fetched.
-/

namespace LumenHorizon.Gateway
open Foundation Foundation.FixedWindow Shared SlippyTiles GatewayProgram

/-! ## One authentication -/

def GatewayCall.isFetch : GatewayCall → Bool
  | fetchJwks _ => true
  | _ => false

def keyFetches (t : GatewayHistory) : ℕ := t.countP fun entry => entry.1.isFetch

/-- The key id by which a request has a key looked up. -/
def presentedKid (jwt : JwtLibrary) (headers : HeaderMap) : Option String :=
  match bearerToken headers with
  | .error _ => none
  | .ok token => (jwt.decodeHeader token).bind fun header =>
    if header.alg ≠ "RS256" then none else header.kid

/-- The keys of the cache, if a run of these calls, the first one first, found some that count. -/
def freshKeys (config : AuthConfig) : List (Σ c, GatewayCall.Reply c) → Option Jwks
  | ⟨.readJwksCache, some cached⟩ :: ⟨.instant, now⟩ :: _ =>
    if now - cached.fetchedAt ≤ config.jwksCacheTtl * 1000000000 then some cached.keys else none
  | _ => none

def fetchedKeys (calls : List (Σ c, GatewayCall.Reply c)) : Option Jwks :=
  calls.findSome? fun entry => match entry with
    | ⟨.fetchJwks _, .ok keys⟩ => some keys
    | _ => none

def keysAtHand (config : AuthConfig) (calls : List (Σ c, GatewayCall.Reply c)) : Option Jwks :=
  (freshKeys config calls).or (fetchedKeys calls)

section Authentication

variable (jwt : JwtLibrary) (config : AuthConfig) (headers : HeaderMap) (t : GatewayHistory)

/-- A key was looked up while the cache was empty or expired. -/
def RefreshesCache : Prop :=
  (presentedKid jwt headers).isSome = true ∧ freshKeys config t.reverse = none

instance : Decidable (RefreshesCache jwt config headers t) := inferInstanceAs (Decidable (_ ∧ _))

/-- There is no key with this id among those at hand. -/
def Unknown (kid : String) : Prop :=
  (keysAtHand config t.reverse).any fun jwks => (jwks.decodingKey jwt kid).isNone

instance (kid : String) : Decidable (Unknown jwt config t kid) := inferInstanceAs (Decidable (_ = _))

def NamesUnknownKey : Prop :=
  (presentedKid jwt headers).any fun kid => decide (Unknown jwt config t kid)

instance : Decidable (NamesUnknownKey jwt config headers t) := inferInstanceAs (Decidable (_ = _))

end Authentication

section Lookup

variable {jwt : JwtLibrary} {config : AuthConfig} {headers : HeaderMap} {t : GatewayHistory}

@[simp] theorem keyFetches_nil : keyFetches [] = 0 := rfl

@[simp] theorem keyFetches_cons (entry : Σ c, GatewayCall.Reply c) :
    keyFetches (entry :: t) = keyFetches t + if entry.1.isFetch then 1 else 0 := by
  simp [keyFetches, List.countP_cons]

@[simp] theorem keyFetches_append (t' : GatewayHistory) :
    keyFetches (t ++ t') = keyFetches t + keyFetches t' := by
  simp [keyFetches]

theorem keyFetches_reverse : keyFetches t.reverse = keyFetches t := by
  simp [keyFetches]

theorem fetchedKeys_append_of_keyFetches_eq_zero (calls : List (Σ c, GatewayCall.Reply c))
    {rest : GatewayHistory} (h : keyFetches rest = 0) :
    fetchedKeys (calls ++ rest) = fetchedKeys calls := by
  have hrest : fetchedKeys rest = none := by
    apply List.findSome?_eq_none_iff.mpr
    rintro ⟨c, reply⟩ hentry
    have hfetch := List.countP_eq_zero.mp h _ hentry
    cases c <;> first | rfl | (exact absurd rfl hfetch)
  unfold fetchedKeys at hrest ⊢
  rw [List.findSome?_append, hrest, Option.or_none]

/-- A fetch is answered with keys, which are written to the cache, or ends the authentication. -/
theorem refreshJwks_follows {outcome : Except GatewayError Jwks}
    (h : (refreshJwks config).Follows t (.done outcome)) :
    (∃ error, t = [⟨.fetchJwks config.jwksUrl, .error error⟩] ∧
      outcome = .error error.toGatewayError) ∨
    ∃ keys now, t = [⟨.writeJwksCache ⟨keys, now⟩, ()⟩, ⟨.instant, now⟩,
      ⟨.fetchJwks config.jwksUrl, .ok keys⟩] ∧ outcome = .ok keys := by
  obtain ⟨reply, t₁, h₁, rfl⟩ := Program.follows_request_bind_done_iff.mp h
  cases reply with
  | error error =>
    obtain ⟨rfl, hdone⟩ := Program.follows_done_iff.mp h₁
    exact .inl ⟨error, rfl, Program.done.inj hdone⟩
  | ok keys =>
    obtain ⟨now, t₂, h₂, rfl⟩ := Program.follows_request_bind_done_iff.mp h₁
    obtain ⟨⟨⟩, t₃, h₃, rfl⟩ := Program.follows_request_bind_done_iff.mp h₂
    obtain ⟨rfl, hdone⟩ := Program.follows_done_iff.mp h₃
    exact .inr ⟨keys, now, rfl, Program.done.inj hdone⟩

theorem keyFetches_refreshJwks {outcome : Except GatewayError Jwks}
    (h : (refreshJwks config).Follows t (.done outcome)) :
    keyFetches t = 1 ∧ fetchedKeys t.reverse = outcome.toOption := by
  rcases refreshJwks_follows h with ⟨error, rfl, rfl⟩ | ⟨keys, now, rfl, rfl⟩
  · exact ⟨rfl, rfl⟩
  · exact ⟨rfl, rfl⟩

/-- The keys are those of the cache, or what one fetch brings. -/
theorem cachedJwks_follows {outcome : Except GatewayError Jwks}
    (h : (cachedJwks config).Follows t (.done outcome)) (rest : List (Σ c, GatewayCall.Reply c)) :
    (∃ jwks, outcome = .ok jwks ∧ keyFetches t = 0 ∧
      freshKeys config (t.reverse ++ rest) = some jwks) ∨
    (keyFetches t = 1 ∧ freshKeys config (t.reverse ++ rest) = none ∧
      fetchedKeys t.reverse = outcome.toOption) := by
  obtain ⟨reply, t₁, h₁, rfl⟩ := Program.follows_request_bind_done_iff.mp h
  cases reply with
  | none =>
    obtain ⟨hcount, hfetched⟩ := keyFetches_refreshJwks h₁
    right
    rw [keyFetches_append, hcount, List.reverse_append]
    exact ⟨rfl, rfl, hfetched⟩
  | some cached =>
    obtain ⟨now, t₂, h₂, rfl⟩ := Program.follows_request_bind_done_iff.mp h₁
    split at h₂
    · next hfresh =>
      obtain ⟨rfl, hdone⟩ := Program.follows_done_iff.mp h₂
      exact .inl ⟨cached.keys, Program.done.inj hdone, rfl, if_pos hfresh⟩
    · next hexpired =>
      obtain ⟨hcount, hfetched⟩ := keyFetches_refreshJwks h₂
      right
      rw [keyFetches_append, keyFetches_append, hcount, List.reverse_append, List.reverse_append]
      exact ⟨rfl, if_neg hexpired, hfetched⟩

/-- A key is looked up without a fetch, but for one of an empty or expired cache and one of a key id
that the keys at hand do not know. -/
theorem keyFetches_signingKey {kid : String} {outcome : Except GatewayError DecodingKey}
    (h : (signingKey jwt config kid).Follows t (.done outcome)) {rest : GatewayHistory}
    (hrest : keyFetches rest = 0) :
    keyFetches t = (if freshKeys config (t.reverse ++ rest) = none then 1 else 0) +
      if (keysAtHand config (t.reverse ++ rest)).any (fun jwks => (jwks.decodingKey jwt kid).isNone)
      then 1 else 0 := by
  obtain ⟨cached, t₁, t₂, h₁, h₂, rfl⟩ := Program.follows_bind_done_iff.mp h
  have hcached := cachedJwks_follows h₁ (t₂.reverse ++ rest)
  rw [List.reverse_append, List.append_assoc, keyFetches_append, keysAtHand]
  cases cached with
  | error error =>
    obtain ⟨rfl, -⟩ := Program.follows_done_iff.mp h₂
    rcases hcached with ⟨jwks, hjwks, -⟩ | ⟨hcount, hstale, hfetched⟩
    · cases hjwks
    · rw [hstale, hcount, List.reverse_nil, List.nil_append,
        fetchedKeys_append_of_keyFetches_eq_zero _ hrest, hfetched]
      rfl
  | ok jwks =>
    -- the second fetch is made exactly if the first keys have none of this id
    have hforced : keyFetches t₂ = if (jwks.decodingKey jwt kid).isNone then 1 else 0 := by
      dsimp only at h₂
      split at h₂
      · next key hkey =>
        obtain ⟨rfl, -⟩ := Program.follows_done_iff.mp h₂
        rw [hkey]
        rfl
      · next hkey =>
        obtain ⟨refreshed, t₃, t₄, h₃, h₄, rfl⟩ := Program.follows_bind_done_iff.mp h₂
        have hlast : t₄ = [] := by
          cases refreshed with
          | error error => exact (Program.follows_done_iff.mp h₄).1
          | ok jwks' =>
            dsimp only at h₄
            split at h₄ <;> exact (Program.follows_done_iff.mp h₄).1
        rw [hlast, List.nil_append, (keyFetches_refreshJwks h₃).1, hkey]
        rfl
    rcases hcached with ⟨jwks', hjwks, hcount, hfresh⟩ | ⟨hcount, hstale, hfetched⟩
    · cases hjwks
      rw [hfresh, hcount, hforced]
      simp
    · have hathand : fetchedKeys (t₁.reverse ++ (t₂.reverse ++ rest)) = some jwks := by
        unfold fetchedKeys at hfetched ⊢
        rw [List.findSome?_append, hfetched]
        rfl
      rw [hstale, hcount, hathand, hforced, add_comm]
      simp

theorem keyFetches_verifyToken {role token : String} {key : DecodingKey}
    {outcome : Except GatewayError AdminContext}
    (h : (verifyToken jwt config role token key).Follows t (.done outcome)) : keyFetches t = 0 := by
  obtain ⟨decodedAt, t₁, h₁, rfl⟩ := Program.follows_request_bind_done_iff.mp h
  split at h₁
  · obtain ⟨rfl, -⟩ := Program.follows_done_iff.mp h₁
    rfl
  · obtain ⟨now, t₂, h₂, rfl⟩ := Program.follows_request_bind_done_iff.mp h₁
    obtain ⟨rfl, -⟩ := Program.follows_done_iff.mp h₂
    rfl

/-- An authentication looks a key up exactly if the request presents a key id. -/
theorem authenticateWithRole_eq (role : String) :
    (∃ error, presentedKid jwt headers = none ∧
      authenticateWithRole jwt config headers role = .done (.error error)) ∨
    ∃ token kid, presentedKid jwt headers = some kid ∧
      authenticateWithRole jwt config headers role = (do
        match ← signingKey jwt config kid with
        | .error error => pure (.error error)
        | .ok key => verifyToken jwt config role token key) := by
  unfold authenticateWithRole presentedKid
  cases bearerToken headers with
  | error error => exact .inl ⟨error, rfl, rfl⟩
  | ok token =>
    dsimp only
    cases jwt.decodeHeader token with
    | none => exact .inl ⟨_, rfl, rfl⟩
    | some header =>
      by_cases halg : header.alg ≠ "RS256"
      · exact .inl ⟨_, if_pos halg, if_pos halg⟩
      · simp only [Option.bind_some, if_neg halg]
        cases header.kid with
        | none => exact .inl ⟨_, rfl, rfl⟩
        | some kid => exact .inr ⟨token, kid, rfl, rfl⟩

theorem keyFetches_authenticateWithRole {role : String} {outcome : Except GatewayError AdminContext}
    (h : (authenticateWithRole jwt config headers role).Follows t (.done outcome))
    {later : GatewayHistory} (hlater : keyFetches later = 0) :
    keyFetches (later ++ t) = (if RefreshesCache jwt config headers (later ++ t) then 1 else 0) +
      if NamesUnknownKey jwt config headers (later ++ t) then 1 else 0 := by
  rw [keyFetches_append, hlater, Nat.zero_add]
  rcases @authenticateWithRole_eq jwt config headers role with
    ⟨error, hkid, heq⟩ | ⟨token, kid, hkid, heq⟩
  · rw [heq] at h
    obtain ⟨rfl, -⟩ := Program.follows_done_iff.mp h
    simp [RefreshesCache, NamesUnknownKey, hkid]
  · rw [heq] at h
    obtain ⟨signing, t₁, t₂, h₁, h₂, rfl⟩ := Program.follows_bind_done_iff.mp h
    have hverify : keyFetches t₂ = 0 := by
      cases signing with
      | error error =>
        obtain ⟨rfl, -⟩ := Program.follows_done_iff.mp h₂
        rfl
      | ok key => exact keyFetches_verifyToken h₂
    have hrest : keyFetches (t₂.reverse ++ later.reverse) = 0 := by
      rw [keyFetches_append, keyFetches_reverse, keyFetches_reverse, hverify, hlater]
    have hlookup := keyFetches_signingKey h₁ hrest
    rw [keyFetches_append, hverify, Nat.zero_add, hlookup]
    simp [RefreshesCache, NamesUnknownKey, Unknown, hkid]

end Lookup

/-! ## What a store has counted -/

/-- How many checks are counted under a key in the window that is open at this time. -/
def RateLimitStore.countAt (store : RateLimitStore) (key : String) (now : ℕ) : ℕ :=
  match store with
  | memory counters => ((counters key).filter fun counter =>
      now < counter.startedAt + windowNanos).elim 0 Window.count
  | redis keys => (keys.live key now).elim 0 RedisEntry.value

section CountAt

variable (key : String) (now : ℕ)

theorem countAt_memory (counters : MemoryRateLimitStore) :
    (RateLimitStore.memory counters).countAt key now =
      ((counters key).filter fun counter => now < counter.startedAt + windowNanos).elim 0
        Window.count := rfl

theorem countAt_redis (keys : RedisRateLimitStore) :
    (RateLimitStore.redis keys).countAt key now = (keys.live key now).elim 0 RedisEntry.value := rfl

/-- The script adds one to a live entry, which expires when it did. -/
theorem script_counts (keys : RedisRateLimitStore) (window : ℕ) :
    ∃ expiresAt : Option ℕ,
      (keys.script key window now).1 = Function.update keys key
        (some ⟨(keys.live key now).elim 0 RedisEntry.value + 1, expiresAt⟩) ∧
      (keys.script key window now).2.1 = (keys.live key now).elim 0 RedisEntry.value + 1 ∧
      ∀ entry, keys.live key now = some entry → 0 < entry.value → expiresAt = entry.expiresAt := by
  unfold RedisRateLimitStore.script RedisRateLimitStore.incr
  cases hlive : keys.live key now with
  | none =>
    refine ⟨some (now + window * nanosPerSecond), ?_, rfl, fun entry hentry => by cases hentry⟩
    exact expire_update_self keys 1 window
  | some entry =>
    by_cases hvalue : entry.value = 0
    · have hexpires : entry.expiresAt.all (fun time => now < time) = true := by
        simpa using (Option.filter_eq_some_iff.mp hlive).2
      have hopened : RedisRateLimitStore.live
          (Function.update keys key (some ⟨1, entry.expiresAt⟩)) key now =
            some ⟨1, entry.expiresAt⟩ := live_update_self hexpires
      refine ⟨some (now + window * nanosPerSecond), ?_, rfl, ?_⟩
      · simp [hvalue, RedisRateLimitStore.expire, hopened]
      · intro other hother hpos
        cases hother
        omega
    · refine ⟨entry.expiresAt, ?_, rfl, ?_⟩
      · simp [hvalue]
      · rintro other ⟨⟩ -
        rfl

theorem arrive_count (window : Option WindowCounter) : (arrive windowNanos now window).count =
    (window.filter fun counter => now < counter.startedAt + windowNanos).elim 0 Window.count + 1 := by
  cases window with
  | none => rfl
  | some counter =>
    by_cases hopen : now < counter.startedAt + windowNanos
    · simp [arrive_of_open hopen, Option.filter, hopen]
    · simp [arrive_of_closed (closed_some_iff.mpr (not_lt.mp hopen)), Option.filter, hopen]

/-- A check opens a window or adds to the open one, and leaves the other keys alone. -/
theorem incrementWindow_counts (store : RateLimitStore) : ∃ opened : ℕ → Bool,
    (store.incrementWindow key windowNanos now).2.count = store.countAt key now + 1 ∧
    (∀ other t, (store.incrementWindow key windowNanos now).1.countAt other t =
      if other = key then if opened t then store.countAt key now + 1 else 0
      else store.countAt other t) ∧
    (0 < store.countAt key now →
      ∀ t, store.countAt key t = if opened t then store.countAt key now else 0) := by
  cases store with
  | memory counters =>
    have hstep := MemoryRateLimitStore.incrementWindow_eq counters key now windowNanos_pos
    have hcount : (arrive windowNanos now (counters key)).count =
        (RateLimitStore.memory counters).countAt key now + 1 := arrive_count now (counters key)
    refine ⟨fun t => t < (arrive windowNanos now (counters key)).startedAt + windowNanos, ?_, ?_, ?_⟩
    · simp only [RateLimitStore.incrementWindow, hstep]
      exact hcount
    · intro other t
      simp only [RateLimitStore.incrementWindow, hstep]
      by_cases hkey : other = key
      · subst hkey
        rw [if_pos rfl, countAt_memory, Function.update_self, ← hcount]
        simp [Option.filter, apply_ite (fun window => Option.elim window 0 Window.count)]
      · rw [if_neg hkey, countAt_memory, Function.update_of_ne hkey, countAt_memory]
    · intro hpos t
      simp only [countAt_memory] at hpos ⊢
      cases hcounter : counters key with
      | none => simp [hcounter] at hpos
      | some counter =>
        by_cases hopen : now < counter.startedAt + windowNanos
        · simp [arrive_of_open hopen, hopen, Option.filter,
            apply_ite (fun window => Option.elim window 0 Window.count)]
        · simp [hcounter, hopen, Option.filter] at hpos
  | redis keys =>
    obtain ⟨expiresAt, hkeys, hcount, hexpires⟩ :=
      script_counts key now keys (max (windowNanos / nanosPerSecond) 1)
    refine ⟨fun t => expiresAt.all fun time => t < time, hcount, ?_, ?_⟩
    · intro other t
      change (RedisRateLimitStore.live (keys.script key _ now).1 other t).elim 0 _ = _
      rw [hkeys]
      by_cases hkey : other = key
      · subst hkey
        simp [RedisRateLimitStore.live, Option.filter, countAt_redis,
          apply_ite (fun entry => Option.elim entry 0 RedisEntry.value)]
      · simp [RedisRateLimitStore.live, countAt_redis, hkey]
    · intro hpos t
      simp only [countAt_redis] at hpos ⊢
      cases hlive : keys.live key now with
      | none => simp [hlive] at hpos
      | some entry =>
        rw [hlive] at hpos
        rw [hexpires entry hlive hpos]
        have hkey := (Option.filter_eq_some_iff.mp hlive).1
        simp [RedisRateLimitStore.live, hkey, Option.filter,
          apply_ite (fun entry => Option.elim entry 0 RedisEntry.value)]

variable (store : RateLimitStore)

theorem count_incrementWindow :
    (store.incrementWindow key windowNanos now).2.count = store.countAt key now + 1 := by
  obtain ⟨opened, hcount, -⟩ := incrementWindow_counts key now store
  exact hcount

/-- After a check the open window has counted it, whenever it is looked at. -/
theorem countAt_incrementWindow_self {t : ℕ}
    (h : 0 < (store.incrementWindow key windowNanos now).1.countAt key t) :
    (store.incrementWindow key windowNanos now).1.countAt key t =
      (store.incrementWindow key windowNanos now).2.count := by
  obtain ⟨opened, hcount, hafter, -⟩ := incrementWindow_counts key now store
  rw [hafter, if_pos rfl] at h ⊢
  rw [hcount]
  split_ifs at h ⊢
  · rfl
  · omega

theorem countAt_le_incrementWindow {other : String} (h : 0 < store.countAt other now) (t : ℕ) :
    store.countAt other t ≤ (store.incrementWindow key windowNanos now).1.countAt other t := by
  obtain ⟨opened, -, hafter, hbefore⟩ := incrementWindow_counts key now store
  rw [hafter]
  by_cases hkey : other = key
  · subst hkey
    rw [if_pos rfl, hbefore h t]
    split_ifs <;> omega
  · rw [if_neg hkey]

end CountAt

/-! ## Runs of requests -/

structure GatewayWorld where
  jwks : Option CachedJwks
  limiter : RateLimitStore

structure Surroundings where
  /-- What other requests have done since the call before. -/
  meanwhile : GatewayWorld → GatewayWorld
  now : ℕ
  /-- The store makes a check, and its answer gets back. -/
  counted : Bool
  answered : Bool
  reply : (c : GatewayCall) → c.Reply

/-- The limiter, the cache and the clock answer for themselves. -/
def GatewayWorld.answer (c : GatewayCall) (e : Surroundings) (world : GatewayWorld) :
    GatewayWorld × c.Reply :=
  let world := e.meanwhile world
  match c with
  | .incrementWindow key window =>
    let (limiter, snapshot) := world.limiter.incrementWindow key (window * nanosPerSecond) e.now
    if e.counted then ({ world with limiter := limiter }, if e.answered then some snapshot else none)
    else (world, none)
  | .readJwksCache => (world, world.jwks)
  | .writeJwksCache cached => ({ world with jwks := some cached }, ())
  | .instant => (world, e.now)
  | c => (world, e.reply c)

structure Visit where
  requestId : Uuid
  request : Request
  surroundings : ℕ → Surroundings

structure Served where
  visit : Visit
  before : GatewayWorld
  after : GatewayWorld
  history : GatewayHistory
  response : Response

section Runs

variable {K : Type} [Field K] [LinearOrder K] (P : LatitudeProjection K) (decoders : Decoders K)
  (state : AppState)

def authenticateVisit (world : GatewayWorld) (visit : Visit) :
    (GatewayWorld × GatewayHistory) × Except GatewayError AdminContext :=
  (authenticateWithRole decoders.jwt state.config.auth visit.request.headers
    state.config.auth.adminRequiredRole).exec (Program.recorded GatewayWorld.answer)
      visit.surroundings (world, [])

def serveVisit (world : GatewayWorld) (visit : Visit) : Served :=
  let result := (route P decoders state visit.requestId visit.request).exec
    (Program.recorded GatewayWorld.answer) visit.surroundings (world, [])
  { visit := visit
    before := world
    after := result.1.1
    history := result.1.2
    response := result.2 }

def serveVisits : GatewayWorld → List Visit → List Served
  | _, [] => []
  | world, visit :: visits =>
    serveVisit P decoders state world visit ::
      serveVisits (serveVisit P decoders state world visit).after visits

def Visit.IsAdmin (visit : Visit) : Prop :=
  ∃ handler params, matchRoute visit.request.path = some (handler, params) ∧ handler.isAdmin = true

def failureKey (client : String) : String := rateLimitKey .authFailure client

/-- The answer of the store, if the last call was the check of a failure. -/
def failureReply (client : String) : GatewayHistory → Option (Option WindowSnapshot)
  | ⟨.incrementWindow key window, reply⟩ :: _ =>
    if key = failureKey client ∧ window = rateLimitWindow then some reply else none
  | _ => none

namespace Served

variable (served : Served) (client : String)

def Failed : Prop := (authenticateVisit decoders state served.before served.visit).2.isOk = false

instance : Decidable (served.Failed decoders state) := inferInstanceAs (Decidable (_ = _))

/-- The check of the failure was one too many for the window. -/
def Denied : Prop :=
  ∃ snapshot, failureReply client served.history = some (some snapshot) ∧
    ¬ Admitted .authFailure snapshot

/-- The answer is the one of the check, not the one of the authentication. -/
def Refused : Prop :=
  ∃ reply error, failureReply client served.history = some reply ∧
    checkOutcome .authFailure reply = .error error ∧
    served.response = error.intoResponse served.visit.requestId

end Served

/-- The visit is one of the client for an admin route, while the window of its failures is open, and
nobody else counts into that window. -/
structure InWindow (client : String) (world : GatewayWorld) (visit : Visit) : Prop where
  ofClient : clientKeyFromHeaders visit.request.headers = client
  isAdmin : visit.IsAdmin
  opened : ∀ i, 0 < world.limiter.countAt (failureKey client) (visit.surroundings i).now
  alone : ∀ i other now, ((visit.surroundings i).meanwhile other).limiter.countAt
    (failureKey client) now = other.limiter.countAt (failureKey client) now

end Runs

/-! ## Checks of an admin request -/

def GatewayCall.isStandard : GatewayCall → Bool
  | incrementWindow _ window => window = rateLimitWindow
  | _ => true

abbrev Standard {α : Type} (p : GatewayProgram α) : Prop :=
  p.Under (fun _ _ => True) fun c => c.isStandard = true

section Standard

variable {K : Type} (decoders : Decoders K) (state : AppState) (requestId : Uuid)

theorem standard_call {c : GatewayCall} (h : c.isStandard = true) : Standard (call c) :=
  Program.Under.call h fun _ _ => trivial

theorem standard_checkRateLimit (key : String) (routeClass : RouteClass) :
    Standard (checkRateLimit key routeClass) := by
  rw [checkRateLimit_eq]
  exact Program.Under.call (by simp [GatewayCall.isStandard]) fun _ _ => trivial

theorem standard_of_authenticating {α : Type} {p : GatewayProgram α} (h : Authenticating p) :
    Standard p := by
  apply h.mono (fun _ _ h => h)
  intro c hc
  cases c <;> first | rfl | cases hc

theorem standard_of_inquiring {α : Type} {p : GatewayProgram α} (h : Inquiring p) : Standard p := by
  apply h.mono (fun _ _ h => h)
  intro c hc
  cases c <;> first | rfl | cases hc

theorem standard_auditedError (admin : AdminContext) (action : String) (targetId : Option Uuid)
    (outcome : String) (error : GatewayError) :
    Standard (auditedError requestId admin action targetId outcome error) :=
  Program.Under.bind (standard_call rfl) fun _ => trivial

theorem standard_triggerIngestHandler (admin : AdminContext) (body : List UInt8) :
    Standard (triggerIngestHandler decoders state requestId admin body) := by
  unfold triggerIngestHandler
  dsimp only
  split
  · exact standard_auditedError requestId _ _ _ _ _
  split
  · exact standard_auditedError requestId _ _ _ _ _
  apply Program.Under.bind (standard_call rfl)
  intro reply
  cases reply with
  | error error => exact standard_auditedError requestId _ _ _ _ _
  | ok upstream => exact Program.Under.bind (standard_call rfl) fun _ => trivial

theorem standard_enqueueRecord (admin : AdminContext) (ingestId : Uuid)
    (record : ProcessingRequeueRecord) :
    Standard (enqueueRecord decoders requestId admin ingestId record) := by
  unfold enqueueRecord
  dsimp only
  split
  · exact standard_auditedError requestId _ _ _ _ _
  split
  · exact standard_auditedError requestId _ _ _ _ _
  apply Program.Under.bind (standard_call rfl)
  intro reply
  cases reply with
  | error error => exact standard_auditedError requestId _ _ _ _ _
  | ok _ => exact Program.Under.bind (standard_call rfl) fun _ => trivial

theorem standard_requeueProcessingItem (admin : AdminContext) (body : List UInt8) :
    Standard (requeueProcessingItem decoders state requestId admin body) := by
  unfold requeueProcessingItem
  split
  · exact standard_auditedError requestId _ _ _ _ _
  dsimp only
  split
  · exact standard_auditedError requestId _ _ _ _ _
  split
  · exact standard_auditedError requestId _ _ _ _ _
  apply Program.Under.bind (standard_call rfl)
  intro reply
  split
  · exact standard_auditedError requestId _ _ _ _ _
  · exact standard_auditedError requestId _ _ _ _ _
  split
  · exact standard_enqueueRecord decoders requestId _ _ _
  split
  · exact standard_auditedError requestId _ _ _ _ _
  · exact standard_auditedError requestId _ _ _ _ _

theorem standard_withBody (request : Request) {next : List UInt8 → GatewayProgram Response}
    (hnext : ∀ body, Standard (next body)) : Standard (withBody request next) := by
  apply Program.Under.bind (standard_call rfl)
  intro complete
  split_ifs
  · trivial
  · exact hnext _
  · trivial

theorem standard_adminHandler [Field K] [LinearOrder K] (request : Request) (handler : Handler)
    (admin : AdminContext) :
    Standard (adminHandler decoders state requestId request handler admin) := by
  have hinquiring {body : GatewayProgram Response} (h : Inquiring body) : Standard (do
      runHandler handler []
      body) := Program.Under.bind (standard_call rfl) fun _ => standard_of_inquiring h
  cases handler with
  | triggerIngest =>
    exact standard_withBody request fun body => Program.Under.bind (standard_call rfl)
      fun _ => standard_triggerIngestHandler decoders state requestId admin body
  | requeueProcessingItem =>
    exact standard_withBody request fun body => Program.Under.bind (standard_call rfl)
      fun _ => standard_requeueProcessingItem decoders state requestId admin body
  | listIngestRuns =>
    exact hinquiring (inquiring_listRows decoders state requestId _ (fun _ _ => inquiring_call rfl) _)
  | listProcessingRuns =>
    exact hinquiring (inquiring_listRows decoders state requestId _ (fun _ _ => inquiring_call rfl) _)
  | deepHealth => exact hinquiring (inquiring_deepHealth decoders state requestId)
  | _ => trivial

theorem standard_requireAdmin (request : Request) {next : AdminContext → GatewayProgram Response}
    (hnext : ∀ admin, Standard (next admin)) :
    Standard (requireAdmin decoders state requestId request next) := by
  apply Program.Under.bind (standard_of_authenticating (authenticating_authenticateWithRole _ _ _ _))
  intro outcome
  cases outcome with
  | error error =>
    apply Program.Under.bind (standard_checkRateLimit _ _)
    intro checked
    cases checked <;> trivial
  | ok admin =>
    apply Program.Under.bind (standard_checkRateLimit _ _)
    intro checked
    cases checked with
    | error error => exact standard_auditedError requestId _ _ _ _ _
    | ok _ => exact hnext admin

theorem standard_route [Field K] [LinearOrder K] (P : LatitudeProjection K) {visit : Visit}
    (hadmin : visit.IsAdmin) :
    Standard (route P decoders state visit.requestId visit.request) := by
  obtain ⟨handler, params, hroute, hhandler⟩ := hadmin
  unfold route dispatch
  rw [hroute]
  dsimp only
  rw [if_pos hhandler]
  apply standard_requireAdmin
  intro admin
  split_ifs
  · exact standard_adminHandler decoders state _ _ handler admin
  · trivial

end Standard

/-! ## After a denial -/

/-- At each of these times the window of the client's failures is used up. -/
def Spent (client : String) (times : ℕ → Prop) (world : GatewayWorld) : Prop :=
  ∀ now, times now →
    RouteClass.authFailure.policy.allowedInWindow ≤ world.limiter.countAt (failureKey client) now

section Denial

variable {client : String} {times : ℕ → Prop} {e : Surroundings} {world : GatewayWorld}

/-- What may be around the calls of a client in its window. -/
structure Around (client : String) (times : ℕ → Prop) (e : Surroundings) : Prop where
  now : times e.now
  alone : ∀ other now, (e.meanwhile other).limiter.countAt (failureKey client) now =
    other.limiter.countAt (failureKey client) now

theorem answer_check (key : String) (e : Surroundings) (world : GatewayWorld) :
    (world.answer (.incrementWindow key rateLimitWindow) e).1 = if e.counted then
        { e.meanwhile world with
          limiter := ((e.meanwhile world).limiter.incrementWindow key windowNanos e.now).1 }
      else e.meanwhile world := by
  cases hcounted : e.counted <;> simp [GatewayWorld.answer, hcounted, windowNanos]

theorem reply_check (key : String) (e : Surroundings) (world : GatewayWorld) :
    (world.answer (.incrementWindow key rateLimitWindow) e).2 = if e.counted ∧ e.answered then
        some ((e.meanwhile world).limiter.incrementWindow key windowNanos e.now).2
      else none := by
  cases hcounted : e.counted <;> simp [GatewayWorld.answer, hcounted, windowNanos]

theorem Spent.meanwhile (h : Spent client times world) (he : Around client times e) :
    Spent client times (e.meanwhile world) := by
  intro now hnow
  rw [he.alone]
  exact h now hnow

theorem Spent.answer {c : GatewayCall} (hc : c.isStandard = true) (h : Spent client times world)
    (he : Around client times e) : Spent client times (world.answer c e).1 := by
  have hbefore := h.meanwhile he
  cases c with
  | incrementWindow key window =>
    obtain rfl : window = rateLimitWindow := of_decide_eq_true hc
    rw [answer_check]
    split_ifs
    · intro now hnow
      have hopen : 0 < (e.meanwhile world).limiter.countAt (failureKey client) e.now :=
        (one_le_allowedInWindow _).trans (hbefore e.now he.now)
      exact (hbefore now hnow).trans (countAt_le_incrementWindow key e.now _ hopen now)
    · exact hbefore
  | _ => exact hbefore

/-- The check of a failure in a used up window is denied. -/
theorem Spent.not_admitted {snapshot : WindowSnapshot} (h : Spent client times world)
    (he : Around client times e)
    (hreply : (world.answer (.incrementWindow (failureKey client) rateLimitWindow) e).2 =
      some snapshot) : ¬ Admitted .authFailure snapshot := by
  have hspent := h.meanwhile he e.now he.now
  have hcount := count_incrementWindow (failureKey client) e.now (e.meanwhile world).limiter
  rw [reply_check] at hreply
  split_ifs at hreply
  cases hreply
  unfold Admitted
  omega

/-- After the check that was denied, the window is used up for as long as it is open. -/
theorem spent_of_denied {c : GatewayCall} {t : GatewayHistory} {snapshot : WindowSnapshot}
    (hreply : failureReply client (⟨c, (world.answer c e).2⟩ :: t) = some (some snapshot))
    (hdenied : ¬ Admitted .authFailure snapshot) :
    Spent client (fun now => 0 < (world.answer c e).1.limiter.countAt (failureKey client) now)
      (world.answer c e).1 := by
  cases c with
  | incrementWindow key window =>
    simp only [failureReply] at hreply
    split_ifs at hreply with hcheck
    obtain ⟨rfl, rfl⟩ := hcheck
    have hsnapshot := Option.some.inj hreply
    rw [reply_check] at hsnapshot
    split_ifs at hsnapshot with hanswered
    cases hsnapshot
    intro now hnow
    rw [answer_check, if_pos hanswered.1] at hnow ⊢
    rw [countAt_incrementWindow_self _ _ _ hnow]
    exact (not_le.mp hdenied).le
  | _ => cases hreply

end Denial

section Visits

variable {K : Type} [Field K] [LinearOrder K] {P : LatitudeProjection K} {decoders : Decoders K}
  {state : AppState} {client : String} {times : ℕ → Prop} {world : GatewayWorld} {visit : Visit}

/-- So far the window is used up, and every check of a failure was denied. -/
def SpentSoFar (client : String) (times : ℕ → Prop) (s : GatewayWorld × GatewayHistory) : Prop :=
  Spent client times s.1 ∧ ∀ snapshot,
    ⟨.incrementWindow (failureKey client) rateLimitWindow, some snapshot⟩ ∈ s.2 →
      ¬ Admitted .authFailure snapshot

theorem spentSoFar_serveVisit (h : Spent client times world) (hadmin : visit.IsAdmin)
    (haround : ∀ i, Around client times (visit.surroundings i)) :
    SpentSoFar client times ((serveVisit P decoders state world visit).after,
      (serveVisit P decoders state world visit).history) := by
  have halone : (route P decoders state visit.requestId visit.request).Alone
      (Program.recorded GatewayWorld.answer) (Around client times) (SpentSoFar client times)
      (fun _ _ => True) (world, []) := by
    apply Program.Alone.of_under (standard_route decoders state P hadmin)
    · exact ⟨h, fun _ hmem => by cases hmem⟩
    · rintro c e ⟨world, t⟩ hc he ⟨hspent, hdenied⟩
      refine ⟨hspent.answer hc he, fun snapshot hmem => ?_⟩
      rcases List.mem_cons.mp hmem with heq | hmem
      · obtain ⟨rfl, hreply⟩ := Sigma.mk.inj_iff.mp heq
        exact hspent.not_admitted he (eq_of_heq hreply).symm
      · exact hdenied snapshot hmem
  exact (halone.exec haround).1

/-- The check of a failure, if it was the last call, has used the window up. -/
theorem Served.Denied.spent (h : (serveVisit P decoders state world visit).Denied client) :
    Spent client (fun now => 0 <
      (serveVisit P decoders state world visit).after.limiter.countAt (failureKey client) now)
      (serveVisit P decoders state world visit).after := by
  have halone : (route P decoders state visit.requestId visit.request).Alone
      (Program.recorded GatewayWorld.answer) (fun _ => True)
      (fun s => ∀ snapshot, failureReply client s.2 = some (some snapshot) →
        ¬ Admitted .authFailure snapshot →
          Spent client (fun now => 0 < s.1.limiter.countAt (failureKey client) now) s.1)
      (fun _ _ => True) (world, []) := by
    apply Program.Alone.of_under (Program.under_true _)
    · intro snapshot hreply
      cases hreply
    · intro c e s _ _ _ snapshot hreply hdenied
      exact spent_of_denied hreply hdenied
  obtain ⟨snapshot, hreply, hdenied⟩ := h
  exact (halone.exec fun _ => trivial).1 snapshot hreply hdenied

/-- The rejection is one check, whose error goes before the one of the authentication. -/
theorem exec_rejectUnauthenticated (requestId : Uuid) (request : Request) (error : GatewayError)
    (choices : ℕ → Surroundings) (s : GatewayWorld × GatewayHistory) :
    ∃ reply, ((rejectUnauthenticated requestId request error).exec
        (Program.recorded GatewayWorld.answer) choices s).1.2 =
      ⟨.incrementWindow (failureKey (clientKeyFromHeaders request.headers)) rateLimitWindow, reply⟩ ::
        s.2 ∧
      ((rejectUnauthenticated requestId request error).exec
        (Program.recorded GatewayWorld.answer) choices s).2 =
          match checkOutcome .authFailure reply with
          | .error limited => limited.intoResponse requestId
          | .ok _ => error.intoResponse requestId := by
  unfold rejectUnauthenticated
  rw [checkRateLimit_eq, Program.call_bind]
  set check : GatewayCall := .incrementWindow
    (rateLimitKey .authFailure (clientKeyFromHeaders request.headers)) rateLimitWindow
  have hreply : (Program.recorded GatewayWorld.answer check (choices 0) s).2 =
    (s.1.answer check (choices 0)).2 := rfl
  refine ⟨(s.1.answer check (choices 0)).2, ?_⟩
  rw [Program.exec, Program.done_bind, hreply]
  cases checkOutcome .authFailure (s.1.answer check (choices 0)).2 with
  | error limited => exact ⟨rfl, rfl⟩
  | ok _ => exact ⟨rfl, rfl⟩

/-- A request that is not authenticated makes the check of its failure last. -/
theorem serveVisit_failed (hadmin : visit.IsAdmin)
    (hfailed : (serveVisit P decoders state world visit).Failed decoders state) :
    ∃ reply error, (serveVisit P decoders state world visit).history =
        ⟨.incrementWindow (failureKey (clientKeyFromHeaders visit.request.headers)) rateLimitWindow,
          reply⟩ :: (authenticateVisit decoders state world visit).1.2 ∧
      (serveVisit P decoders state world visit).response =
        match checkOutcome .authFailure reply with
        | .error limited => limited.intoResponse visit.requestId
        | .ok _ => GatewayError.intoResponse error visit.requestId := by
  obtain ⟨handler, params, hroute, hhandler⟩ := hadmin
  have hrequest : route P decoders state visit.requestId visit.request =
      requireAdmin decoders state visit.requestId visit.request fun admin =>
        if handler.answers visit.request.method then
          adminHandler decoders state visit.requestId visit.request handler admin
        else pure methodNotAllowed := by
    unfold route dispatch
    rw [hroute]
    exact if_pos hhandler
  cases houtcome : (authenticateVisit decoders state world visit).2 with
  | ok admin =>
    have hok : (authenticateVisit decoders state world visit).2.isOk = false := hfailed
    rw [houtcome] at hok
    cases hok
  | error error =>
    unfold serveVisit
    unfold authenticateVisit at houtcome ⊢
    rw [hrequest, requireAdmin, requiredRoleForPath_eq, Program.exec_bind, houtcome]
    obtain ⟨reply, hhistory, hresponse⟩ := exec_rejectUnauthenticated visit.requestId visit.request
      error _ _
    exact ⟨reply, error, hhistory, hresponse⟩

/-- A failure in a used up window is refused, and has fetched what its authentication fetches. -/
theorem Spent.refuses (h : Spent client times world)
    (hclient : clientKeyFromHeaders visit.request.headers = client) (hadmin : visit.IsAdmin)
    (haround : ∀ i, Around client times (visit.surroundings i))
    (hfailed : (serveVisit P decoders state world visit).Failed decoders state) :
    (serveVisit P decoders state world visit).Refused client ∧
      keyFetches (serveVisit P decoders state world visit).history =
        (if RefreshesCache decoders.jwt state.config.auth visit.request.headers
          (serveVisit P decoders state world visit).history then 1 else 0) +
        if NamesUnknownKey decoders.jwt state.config.auth visit.request.headers
          (serveVisit P decoders state world visit).history then 1 else 0 := by
  obtain ⟨reply, error, hhistory, hresponse⟩ := serveVisit_failed hadmin hfailed
  have hdenied : SpentSoFar client times ((serveVisit P decoders state world visit).after,
      (serveVisit P decoders state world visit).history) :=
    spentSoFar_serveVisit h hadmin haround
  rw [hclient] at hhistory
  constructor
  · have hlast : failureReply client (serveVisit P decoders state world visit).history =
        some reply := by
      rw [hhistory]
      exact if_pos ⟨rfl, rfl⟩
    cases houtcome : checkOutcome .authFailure reply with
    | error limited =>
      rw [houtcome] at hresponse
      exact ⟨reply, limited, hlast, houtcome, hresponse⟩
    | ok _ =>
      obtain ⟨snapshot, rfl, hadmitted⟩ := checkOutcome_eq_ok_iff.mp houtcome
      have hmem := hhistory ▸ List.mem_cons_self
      exact absurd hadmitted (hdenied.2 snapshot hmem)
  · obtain ⟨t, hauth, hfollows⟩ := Program.exists_follows_exec_recorded GatewayWorld.answer
      (authenticateWithRole decoders.jwt state.config.auth visit.request.headers
        state.config.auth.adminRequiredRole) visit.surroundings (world, [])
    rw [List.append_nil] at hauth
    have hcheck : (serveVisit P decoders state world visit).history =
        [⟨.incrementWindow (failureKey client) rateLimitWindow, reply⟩] ++ t := by
      rw [hhistory, authenticateVisit, hauth]
      rfl
    rw [hcheck]
    exact keyFetches_authenticateWithRole hfollows rfl

theorem Spent.refuses_all {visits : List Visit} (h : Spent client times world)
    (hvisits : ∀ visit ∈ visits, clientKeyFromHeaders visit.request.headers = client ∧
      visit.IsAdmin ∧ ∀ i, Around client times (visit.surroundings i)) :
    ∀ served ∈ serveVisits P decoders state world visits, served.Failed decoders state →
      served.Refused client ∧ keyFetches served.history =
        (if RefreshesCache decoders.jwt state.config.auth served.visit.request.headers
          served.history then 1 else 0) +
        if NamesUnknownKey decoders.jwt state.config.auth served.visit.request.headers
          served.history then 1 else 0 := by
  induction visits generalizing world with
  | nil =>
    intro served hserved
    cases hserved
  | cons visit visits ih =>
    intro served hserved hfailed
    obtain ⟨hclient, hadmin, haround⟩ := hvisits visit List.mem_cons_self
    rcases List.mem_cons.mp hserved with rfl | hserved
    · exact h.refuses hclient hadmin haround hfailed
    · apply ih (spentSoFar_serveVisit h hadmin haround).1 _ served hserved hfailed
      exact fun visit hvisit => hvisits visit (List.mem_cons_of_mem _ hvisit)

/-- Once a check of a client's failures was denied, every other failure of the client is refused in
that window. It fetches the keys for an empty or expired cache, and once more exactly if its token
names a key that the keys at hand do not know. -/
theorem keyFetches_after_denial {denied : Visit} {later : List Visit}
    (hdenied : (serveVisit P decoders state world denied).Denied client)
    (hlater : ∀ visit ∈ later,
      InWindow client (serveVisit P decoders state world denied).after visit) :
    ∀ served ∈ serveVisits P decoders state (serveVisit P decoders state world denied).after later,
      served.Failed decoders state →
        served.Refused client ∧ keyFetches served.history =
          (if RefreshesCache decoders.jwt state.config.auth served.visit.request.headers
            served.history then 1 else 0) +
          if NamesUnknownKey decoders.jwt state.config.auth served.visit.request.headers
            served.history then 1 else 0 := by
  apply hdenied.spent.refuses_all
  intro visit hvisit
  have hwindow := hlater visit hvisit
  exact ⟨hwindow.ofClient, hwindow.isAdmin, fun i => ⟨hwindow.opened i, hwindow.alone i⟩⟩

end Visits

/-! ## A flood of unknown keys -/

def floodToken (i : ℕ) : KnownToken where
  token := "token-" ++ toString i
  header := { alg := "RS256", kid := some ("key-" ++ toString i) }
  payload := payloadNaming .absent .absent
  signedBy := { n := "forged", e := "AQAB" }

def floodDecoders : Decoders ℚ :=
  { sampleDecoders (.ofGenerated sampleTileSet.manifest) with
    jwt := .ofTokens ((List.range 17).map floodToken) }

/-- The issuer has one key; nothing else is asked of anybody. -/
def issuerReply : (c : GatewayCall) → c.Reply
  | .fetchJwks _ => .ok { keys := [sampleJwk] }
  | .incrementWindow _ _ => none
  | .readJwksCache => none
  | .writeJwksCache _ => ()
  | .instant => 0
  | .unixTimestamp => 1000
  | .readBody => true
  | .readJsonBlob _ => .error .invalidTileSetId
  | .checkDatabase => .ok ()
  | .listTileSets _ _ => .ok []
  | .listIngestRuns _ _ => .ok []
  | .listProcessingRuns _ _ => .ok []
  | .processingMessageForRequeue _ => .error .notFound
  | .triggerIngest _ => .error ⟨""⟩
  | .enqueueProcessingMessage _ => .error ⟨""⟩
  | .checkProcessingQueue => .ok ()
  | .checkReadiness => true
  | .emitAdminAudit _ => ()
  | .runHandler _ _ => ()

/-- One client asks for the ingest runs, each time with another token. -/
def floodVisit (i : ℕ) : Visit where
  requestId := 0
  request :=
    { sampleListing with
      headers := [("authorization", "Bearer token-" ++ toString i),
        ("x-forwarded-for", "203.0.113.7")] }
  surroundings _ :=
    { meanwhile := id
      now := 5
      counted := true
      answered := true
      reply := issuerReply }

/-- The cache holds the key of the issuer, and fifteen tokens have been tried. -/
def floodedWorld : GatewayWorld :=
  ((List.range 15).map floodVisit).foldl
    (fun world visit => (serveVisit linearProjection floodDecoders sampleState world visit).after)
    { jwks := some { keys := { keys := [sampleJwk] }, fetchedAt := 0 }, limiter := .memory .empty }

/-- The sixteenth and the seventeenth token. -/
def deniedFlood : Served :=
  serveVisit linearProjection floodDecoders sampleState floodedWorld (floodVisit 15)

def laterFlood : Served :=
  serveVisit linearProjection floodDecoders sampleState deniedFlood.after (floodVisit 16)

/-- What becomes of the two tokens, in one evaluation. -/
theorem flood_evaluated :
    failureReply "203.0.113.7" deniedFlood.history = some (some ⟨16, 60⟩) ∧
      0 < deniedFlood.after.limiter.countAt (failureKey "203.0.113.7") 5 ∧
      laterFlood.Failed floodDecoders sampleState ∧
      ¬ RefreshesCache floodDecoders.jwt sampleConfig (floodVisit 16).request.headers
        laterFlood.history ∧
      keyFetches laterFlood.history = 1 := by
  decide +kernel

theorem deniedFlood_denied : deniedFlood.Denied "203.0.113.7" :=
  ⟨⟨16, 60⟩, flood_evaluated.1, by decide⟩

theorem floodVisit_inWindow : InWindow "203.0.113.7" deniedFlood.after (floodVisit 16) where
  ofClient := by decide +kernel
  isAdmin := ⟨.listIngestRuns, [], by decide +kernel, rfl⟩
  opened _ := flood_evaluated.2.1
  alone _ _ _ := rfl

theorem laterFlood_failed : laterFlood.Failed floodDecoders sampleState := flood_evaluated.2.2.1

theorem keyFetches_after_denial_flood :
    laterFlood.Refused "203.0.113.7" ∧ keyFetches laterFlood.history =
      (if RefreshesCache floodDecoders.jwt sampleState.config.auth
        laterFlood.visit.request.headers laterFlood.history then 1 else 0) +
      if NamesUnknownKey floodDecoders.jwt sampleState.config.auth
        laterFlood.visit.request.headers laterFlood.history then 1 else 0 := by
  have hwindow : ∀ visit ∈ [floodVisit 16], InWindow "203.0.113.7" deniedFlood.after visit := by
    intro visit hvisit
    rw [List.mem_singleton.mp hvisit]
    exact floodVisit_inWindow
  have hserved : laterFlood ∈ serveVisits linearProjection floodDecoders sampleState
      deniedFlood.after [floodVisit 16] := List.mem_singleton.mpr rfl
  have hlater := keyFetches_after_denial deniedFlood_denied hwindow
  exact hlater laterFlood hserved laterFlood_failed

/-- The seventeenth token makes the keys be fetched, though the cache has not expired and the check
of the sixteenth was denied. -/
theorem not_keyFetches_bounded :
    deniedFlood.Denied "203.0.113.7" ∧
      InWindow "203.0.113.7" deniedFlood.after (floodVisit 16) ∧
      laterFlood.Failed floodDecoders sampleState ∧
      ¬ RefreshesCache floodDecoders.jwt sampleConfig (floodVisit 16).request.headers
        laterFlood.history ∧
      keyFetches laterFlood.history = 1 :=
  ⟨deniedFlood_denied, floodVisit_inWindow, laterFlood_failed, flood_evaluated.2.2.2⟩

end LumenHorizon.Gateway
