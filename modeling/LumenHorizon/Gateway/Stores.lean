import LumenHorizon.Gateway.MemoryStore

/-! # The two stores of the rate limiter

One keeps counters in memory and compares start times, the other counts under keys that Redis
expires. A Redis store is the image of a memory store at every point of a run, so both admit the
same checks; what they say about the rest of the window they round in different ways.
-/

namespace LumenHorizon.Gateway
open Foundation Foundation.FixedWindow

/-! ## Redis -/

/-- A number under a key of Redis, which is gone from `expiresAt` on. -/
structure RedisEntry where
  value : ℕ
  expiresAt : Option ℕ
deriving DecidableEq, Repr

/-- What Redis holds, by its keys; an entry may outlive its time here, but is never read again. -/
abbrev RedisRateLimitStore := String → Option RedisEntry

namespace RedisRateLimitStore

def empty : RedisRateLimitStore := fun _ => none

def live (keys : RedisRateLimitStore) (key : String) (now : ℕ) : Option RedisEntry :=
  (keys key).filter fun entry => entry.expiresAt.all fun time => now < time

/-- `INCR`: a missing key counts as zero, and the time of an existing one stays. -/
def incr (keys : RedisRateLimitStore) (key : String) (now : ℕ) : RedisRateLimitStore × ℕ :=
  let entry := (keys.live key now).getD ⟨0, none⟩
  (Function.update keys key (some { entry with value := entry.value + 1 }), entry.value + 1)

/-- `EXPIRE`, in seconds. -/
def expire (keys : RedisRateLimitStore) (key : String) (seconds now : ℕ) : RedisRateLimitStore :=
  match keys.live key now with
  | none => keys
  | some entry =>
    Function.update keys key (some { entry with expiresAt := some (now + seconds * nanosPerSecond) })

/-- `TTL`: the remaining time to the nearest second, `-1` for a key that does not expire and `-2`
for a missing one. -/
def ttl (keys : RedisRateLimitStore) (key : String) (now : ℕ) : ℤ :=
  match keys.live key now with
  | none => -2
  | some entry =>
    match entry.expiresAt with
    | none => -1
    | some time => ((time - now + nanosPerSecond / 2) / nanosPerSecond : ℕ)

/-- The script of `increment_window`. -/
def script (keys : RedisRateLimitStore) (key : String) (window now : ℕ) :
    RedisRateLimitStore × ℕ × ℤ :=
  let (keys, current) := keys.incr key now
  let keys := if current = 1 then keys.expire key window now else keys
  let ttl := keys.ttl key now
  let ttl := if ttl < 1 then (window : ℤ) else ttl
  (keys, current, ttl)

/-- `increment_window`, where every command succeeds. -/
def incrementWindow (keys : RedisRateLimitStore) (key : String) (window now : ℕ) :
    RedisRateLimitStore × WindowSnapshot :=
  let windowSeconds := max (window / nanosPerSecond) 1
  let (keys, count, retryAfterSeconds) := keys.script key windowSeconds now
  (keys, ⟨count, max retryAfterSeconds.toNat 1⟩)

end RedisRateLimitStore

/-! ## The limiter with either store -/

inductive RateLimitBackend where
  | memory
  | redis
deriving DecidableEq, Repr

/-- The stores that answer; the one of a misconfigured limiter never does. -/
inductive RateLimitStore where
  | memory (counters : MemoryRateLimitStore)
  | redis (keys : RedisRateLimitStore)

namespace RateLimitStore

/-- The store that `RateLimiter::new` starts with. -/
def empty : RateLimitBackend → RateLimitStore
  | .memory => .memory .empty
  | .redis => .redis .empty

def incrementWindow (store : RateLimitStore) (key : String) (window now : ℕ) :
    RateLimitStore × WindowSnapshot :=
  match store with
  | memory counters =>
    let (counters, snapshot) := counters.incrementWindow key window now
    (memory counters, snapshot)
  | redis keys =>
    let (keys, snapshot) := keys.incrementWindow key window now
    (redis keys, snapshot)

/-- `RateLimiter::check`, when the store answers. -/
def check (store : RateLimitStore) (check : Check) : RateLimitStore × Except GatewayError Unit :=
  let (store, snapshot) := store.incrementWindow check.storeKey windowNanos check.now
  (store, checkOutcome check.routeClass (some snapshot))

def outcomes : RateLimitStore → List Check → List (Except GatewayError Unit)
  | _, [] => []
  | store, c :: checks => (store.check c).2 :: outcomes (store.check c).1 checks

def after (store : RateLimitStore) (checks : List Check) : RateLimitStore :=
  checks.foldl (fun store c => (store.check c).1) store

end RateLimitStore

/-! ## One store behind both -/

/-- The keys that stand for these counters: each goes when its window is over. -/
def MemoryRateLimitStore.toRedis (counters : MemoryRateLimitStore) (window : ℕ) :
    RedisRateLimitStore :=
  fun key => (counters key).map fun w => ⟨w.count, some (w.startedAt + window)⟩

def RateLimitStore.of (backend : RateLimitBackend) (counters : MemoryRateLimitStore) :
    RateLimitStore :=
  match backend with
  | .memory => .memory counters
  | .redis => .redis (counters.toRedis windowNanos)

/-- What a store says about the rest of this window, in whole seconds. -/
def retryAfter (backend : RateLimitBackend) (window now : ℕ) (w : WindowCounter) : ℕ :=
  match backend with
  | .memory => max ((window - (now - w.startedAt)) / nanosPerSecond) 1
  | .redis =>
    let ttl := (w.startedAt + window - now + nanosPerSecond / 2) / nanosPerSecond
    if ttl < 1 then max (window / nanosPerSecond) 1 else ttl

def MemoryRateLimitStore.Counted (counters : MemoryRateLimitStore) : Prop :=
  ∀ key w, counters key = some w → 0 < w.count

section Commands

variable {counters : MemoryRateLimitStore} {key : String} {window now : ℕ} {w : WindowCounter}

theorem live_toRedis_of_closed (h : Closed window now (counters key)) :
    (counters.toRedis window).live key now = none := by
  cases hkey : counters key with
  | none => simp [RedisRateLimitStore.live, MemoryRateLimitStore.toRedis, hkey]
  | some w => simp [RedisRateLimitStore.live, MemoryRateLimitStore.toRedis, hkey, h w hkey]

theorem live_toRedis_of_open (hkey : counters key = some w) (h : now < w.startedAt + window) :
    (counters.toRedis window).live key now = some ⟨w.count, some (w.startedAt + window)⟩ := by
  simp [RedisRateLimitStore.live, MemoryRateLimitStore.toRedis, hkey, h]

theorem live_update_self {keys : RedisRateLimitStore} {entry : RedisEntry}
    (h : entry.expiresAt.all (fun time => now < time) = true) :
    RedisRateLimitStore.live (Function.update keys key (some entry)) key now = some entry := by
  simp [RedisRateLimitStore.live, h]

theorem toRedis_update (counters : MemoryRateLimitStore) (key : String) (window : ℕ)
    (w : WindowCounter) :
    MemoryRateLimitStore.toRedis (Function.update counters key (some w)) window =
      Function.update (counters.toRedis window) key
        (some ⟨w.count, some (w.startedAt + window)⟩) := by
  funext other
  by_cases h : other = key
  · subst h
    simp [MemoryRateLimitStore.toRedis]
  · simp [MemoryRateLimitStore.toRedis, h]

theorem ttl_update_self {keys : RedisRateLimitStore} {value time : ℕ} (h : now < time) :
    RedisRateLimitStore.ttl (Function.update keys key (some ⟨value, some time⟩)) key now =
      ((time - now + nanosPerSecond / 2) / nanosPerSecond : ℕ) := by
  rw [RedisRateLimitStore.ttl, live_update_self (by simpa using h)]

theorem incr_of_closed (h : Closed window now (counters key)) :
    (counters.toRedis window).incr key now =
      (Function.update (counters.toRedis window) key (some ⟨1, none⟩), 1) := by
  rw [RedisRateLimitStore.incr, live_toRedis_of_closed h]
  rfl

theorem incr_of_open (hkey : counters key = some w) (h : now < w.startedAt + window) :
    (counters.toRedis window).incr key now =
      (Function.update (counters.toRedis window) key
        (some ⟨w.count + 1, some (w.startedAt + window)⟩), w.count + 1) := by
  rw [RedisRateLimitStore.incr, live_toRedis_of_open hkey h]
  rfl

theorem expire_update_self (keys : RedisRateLimitStore) (value seconds : ℕ) :
    RedisRateLimitStore.expire (Function.update keys key (some ⟨value, none⟩)) key seconds now =
      Function.update keys key (some ⟨value, some (now + seconds * nanosPerSecond)⟩) := by
  rw [RedisRateLimitStore.expire, live_update_self rfl]
  exact Function.update_idem _ _ _

/-- The script counts as the memory store does, and says the rest of the window to the nearest
second, or all of it when that is none. -/
theorem script_toRedis {seconds : ℕ} (hseconds : 0 < seconds) (hcounted : counters.Counted)
    (hw : arrive (seconds * nanosPerSecond) now (counters key) = w) :
    (counters.toRedis (seconds * nanosPerSecond)).script key seconds now =
      (MemoryRateLimitStore.toRedis (Function.update counters key (some w))
          (seconds * nanosPerSecond), w.count,
        let ttl := (w.startedAt + seconds * nanosPerSecond - now + nanosPerSecond / 2) /
          nanosPerSecond
        if ttl < 1 then (seconds : ℤ) else ttl) := by
  have hopen : now < w.startedAt + seconds * nanosPerSecond := by
    rw [← hw]
    exact lt_startedAt_arrive_add (Nat.mul_pos hseconds (by decide))
  rw [toRedis_update, RedisRateLimitStore.script]
  by_cases hclosed : Closed (seconds * nanosPerSecond) now (counters key)
  · rw [arrive_of_closed hclosed] at hw
    subst hw
    simp only [incr_of_closed hclosed, if_true, expire_update_self, ttl_update_self hopen]
    norm_cast
  · obtain ⟨before, hkey, -⟩ := arrive_startedAt_of_not_closed hclosed
    rw [hkey, closed_some_iff, not_le] at hclosed
    rw [hkey, arrive_of_open hclosed] at hw
    subst hw
    have hcount : before.count + 1 ≠ 1 := by
      have hpos := hcounted key before hkey
      omega
    simp only [incr_of_open hkey hclosed, if_neg hcount, ttl_update_self hopen]
    norm_cast

theorem max_ttl (seconds ttl : ℕ) :
    max (if ttl < 1 then (seconds : ℤ) else ttl).toNat 1 =
      if ttl < 1 then max (seconds * nanosPerSecond / nanosPerSecond) 1 else ttl := by
  rw [Nat.mul_div_cancel _ (by decide)]
  split_ifs <;> omega

end Commands

/-! ## Runs -/

def MemoryRateLimitStore.next (counters : MemoryRateLimitStore) (check : Check) :
    MemoryRateLimitStore :=
  Function.update counters check.storeKey
    (some (arrive windowNanos check.now (counters check.storeKey)))

def MemoryRateLimitStore.after (counters : MemoryRateLimitStore) (checks : List Check) :
    MemoryRateLimitStore :=
  checks.foldl MemoryRateLimitStore.next counters

section Next

variable {counters : MemoryRateLimitStore} {check : Check} {checks : List Check} {key : String}

theorem next_self : counters.next check check.storeKey =
    some (arrive windowNanos check.now (counters check.storeKey)) := Function.update_self ..

theorem next_of_ne (h : key ≠ check.storeKey) : counters.next check key = counters key :=
  Function.update_of_ne h ..

theorem counted_empty : MemoryRateLimitStore.empty.Counted := by
  intro key w h
  cases h

theorem counted_next (h : counters.Counted) (check : Check) : (counters.next check).Counted := by
  intro key w hw
  by_cases hkey : key = check.storeKey
  · rw [hkey, next_self] at hw
    rw [← Option.some.inj hw]
    exact one_le_count_arrive
  · rw [next_of_ne hkey] at hw
    exact h key w hw

theorem counted_after (h : counters.Counted) (checks : List Check) :
    (counters.after checks).Counted := by
  induction checks generalizing counters with
  | nil => exact h
  | cons check checks ih => exact ih (counted_next h check)

theorem after_of_others (h : ∀ check ∈ checks, check.storeKey ≠ key) :
    counters.after checks key = counters key := by
  induction checks generalizing counters with
  | nil => rfl
  | cons check checks ih =>
    calc (counters.next check).after checks key
      _ = counters.next check key := ih fun later hlater => h later (List.mem_cons_of_mem _ hlater)
      _ = counters key := next_of_ne (h check List.mem_cons_self).symm

theorem startedAt_after_le {now : ℕ} (hearlier : ∀ check ∈ checks, check.now ≤ now)
    (h : ∀ key w, counters key = some w → w.startedAt ≤ now) :
    ∀ key w, counters.after checks key = some w → w.startedAt ≤ now := by
  induction checks generalizing counters with
  | nil => exact h
  | cons check checks ih =>
    apply ih fun later hlater => hearlier later (List.mem_cons_of_mem _ hlater)
    intro key w hw
    by_cases hkey : key = check.storeKey
    · rw [hkey, next_self] at hw
      rw [← Option.some.inj hw]
      by_cases hclosed : Closed windowNanos check.now (counters check.storeKey)
      · rw [arrive_of_closed hclosed]
        exact hearlier check List.mem_cons_self
      · obtain ⟨before, hbefore, hstart⟩ := arrive_startedAt_of_not_closed hclosed
        rw [hstart]
        exact h _ before hbefore
    · rw [next_of_ne hkey] at hw
      exact h key w hw

end Next

section Check

variable (backend : RateLimitBackend) {counters : MemoryRateLimitStore}

/-- A check of the limiter with either store: the count is the same, the time to wait is not. -/
theorem check_of (hcounted : counters.Counted) (check : Check) {w : WindowCounter}
    (hw : arrive windowNanos check.now (counters check.storeKey) = w) :
    (RateLimitStore.of backend counters).check check =
      (RateLimitStore.of backend (counters.next check), checkOutcome check.routeClass
        (some ⟨w.count, retryAfter backend windowNanos check.now w⟩)) := by
  cases backend with
  | memory =>
    simp only [RateLimitStore.of, RateLimitStore.check, RateLimitStore.incrementWindow,
      MemoryRateLimitStore.incrementWindow_eq _ _ _ windowNanos_pos, hw, retryAfter,
      MemoryRateLimitStore.next]
  | redis =>
    have hscript := script_toRedis (show 0 < rateLimitWindow by decide) hcounted hw
    have hseconds : max (windowNanos / nanosPerSecond) 1 = rateLimitWindow := by decide
    simp only [RateLimitStore.of, RateLimitStore.check, RateLimitStore.incrementWindow,
      RedisRateLimitStore.incrementWindow, hseconds, retryAfter, MemoryRateLimitStore.next, hw]
    rw [show windowNanos = rateLimitWindow * nanosPerSecond from rfl, hscript]
    simp only [max_ttl]
    rfl

/-- At every point of a run a store stands for the counters of the same run in memory. -/
theorem after_of (hcounted : counters.Counted) (checks : List Check) :
    (RateLimitStore.of backend counters).after checks =
      RateLimitStore.of backend (counters.after checks) := by
  induction checks generalizing counters with
  | nil => rfl
  | cons check checks ih =>
    rw [RateLimitStore.after, List.foldl_cons, check_of backend hcounted check rfl]
    exact ih (counted_next hcounted check)

theorem of_empty : RateLimitStore.of backend .empty = RateLimitStore.empty backend := by
  cases backend <;> rfl

/-- Stores that stand for the same counters admit the same checks. -/
theorem isOk_outcomes_of (hcounted : counters.Counted) (checks : List Check) :
    ((RateLimitStore.of .memory counters).outcomes checks).map Except.isOk =
      ((RateLimitStore.of .redis counters).outcomes checks).map Except.isOk := by
  induction checks generalizing counters with
  | nil => rfl
  | cons check checks ih =>
    have hrest := ih (counted_next hcounted check)
    simp only [RateLimitStore.outcomes, check_of _ hcounted check rfl, List.map_cons,
      isOk_checkOutcome, hrest]

end Check

/-- The memory store and the Redis script admit and deny the same checks, whatever their keys,
classes and times. -/
theorem sameDecisions (checks : List Check) :
    ((RateLimitStore.empty .memory).outcomes checks).map Except.isOk =
      ((RateLimitStore.empty .redis).outcomes checks).map Except.isOk := by
  have h := isOk_outcomes_of counted_empty checks
  rwa [of_empty, of_empty] at h

/-! ## The time to wait -/

/-- How long the window of the pair still lasts when this check is made. -/
def RateLimitStore.timeLeft (store : RateLimitStore) (check : Check) : ℕ :=
  match store with
  | .memory counters =>
    match counters check.storeKey with
    | none => 0
    | some w => w.startedAt + windowNanos - check.now
  | .redis keys =>
    match (keys check.storeKey).bind RedisEntry.expiresAt with
    | none => 0
    | some time => time - check.now

/-- A denied check's time to wait is kept: whoever waits that long is admitted, whatever the other
pairs do meanwhile, and it is no more than a second longer than needed. -/
structure RetryAfterTrusted (store : RateLimitStore) (denied : Check) (seconds : ℕ) : Prop where
  readmits : ∀ (others : List Check) (later : Check),
    later.isOf denied.routeClass denied.key = true →
      (∀ other ∈ others, other.isOf denied.routeClass denied.key = false) →
      (denied :: (others ++ [later])).Pairwise (fun check next => check.now ≤ next.now) →
        denied.now + seconds * nanosPerSecond ≤ later.now →
          ((((store.check denied).1.after others).check later).2).isOk = true
  tight : seconds * nanosPerSecond ≤ store.timeLeft denied + nanosPerSecond

/-- The rests of a window that a store rounds up. -/
def RoundsUp (backend : RateLimitBackend) (left : ℕ) : Prop :=
  match backend with
  | .memory => left ≤ nanosPerSecond ∨ nanosPerSecond ∣ left
  | .redis => nanosPerSecond / 2 ≤ left ∧
      (nanosPerSecond ∣ left ∨ nanosPerSecond / 2 ≤ left % nanosPerSecond)

instance (backend : RateLimitBackend) (left : ℕ) : Decidable (RoundsUp backend left) := by
  unfold RoundsUp
  cases backend <;> exact inferInstance

theorem timeLeft_of (backend : RateLimitBackend) {counters : MemoryRateLimitStore} {check : Check}
    {w : WindowCounter} (h : counters check.storeKey = some w) :
    (RateLimitStore.of backend counters).timeLeft check = w.startedAt + windowNanos - check.now := by
  cases backend with
  | memory => simp only [RateLimitStore.of, RateLimitStore.timeLeft, h]
  | redis =>
    simp only [RateLimitStore.of, RateLimitStore.timeLeft, MemoryRateLimitStore.toRedis, h,
      Option.map_some, Option.bind_some]

/-- After the rest of the window the count begins anew, and before it the pair has had its share. -/
theorem isOk_check_later (backend : RateLimitBackend) {counters : MemoryRateLimitStore}
    (hcounted : counters.Counted) {later : Check} {w : WindowCounter}
    (hkey : counters later.storeKey = some w)
    (hspent : later.routeClass.policy.allowedInWindow < w.count) :
    (((RateLimitStore.of backend counters).check later).2).isOk = true ↔
      w.startedAt + windowNanos ≤ later.now := by
  rw [check_of backend hcounted later rfl, isOk_checkOutcome, decide_eq_true_eq, hkey]
  by_cases hover : w.startedAt + windowNanos ≤ later.now
  · rw [arrive_of_closed (closed_some_iff.mpr hover)]
    exact iff_of_true (one_le_allowedInWindow _) hover
  · rw [arrive_of_open (not_le.mp hover)]
    refine iff_of_false ?_ hover
    show ¬ w.count + 1 ≤ later.routeClass.policy.allowedInWindow
    omega

theorem readmits_iff (backend : RateLimitBackend) {counters : MemoryRateLimitStore}
    (hcounted : counters.Counted) {denied : Check} {w : WindowCounter} (seconds : ℕ)
    (hkey : counters denied.storeKey = some w)
    (hspent : denied.routeClass.policy.allowedInWindow < w.count) :
    (∀ (others : List Check) (later : Check),
      later.isOf denied.routeClass denied.key = true →
        (∀ other ∈ others, other.isOf denied.routeClass denied.key = false) →
        (denied :: (others ++ [later])).Pairwise (fun check next => check.now ≤ next.now) →
          denied.now + seconds * nanosPerSecond ≤ later.now →
            ((((RateLimitStore.of backend counters).after others).check later).2).isOk = true) ↔
      w.startedAt + windowNanos ≤ denied.now + seconds * nanosPerSecond := by
  constructor
  · intro h
    -- the same check again, after exactly this time
    obtain ⟨later, hclass, hlaterKey, hnow⟩ : ∃ later : Check,
        later.routeClass = denied.routeClass ∧ later.key = denied.key ∧
          later.now = denied.now + seconds * nanosPerSecond :=
      ⟨{ denied with now := denied.now + seconds * nanosPerSecond }, rfl, rfl, rfl⟩
    have hstore : later.storeKey = denied.storeKey := by
      rw [Check.storeKey, Check.storeKey, hclass, hlaterKey]
    have hok := h [] later (decide_eq_true ⟨hclass, hlaterKey⟩)
      (fun _ hother => absurd hother List.not_mem_nil)
      (List.pairwise_pair.mpr (hnow ▸ Nat.le_add_right _ _)) hnow.ge
    rw [← hstore] at hkey
    rw [← hclass] at hspent
    rw [← hnow]
    exact (isOk_check_later backend hcounted hkey hspent).mp hok
  · intro h others later hof hothers _ hwaited
    have hlater : later.storeKey = denied.storeKey := isOf_iff.mp hof
    have hkeep : counters.after others later.storeKey = some w := by
      rw [hlater, after_of_others, hkey]
      intro other hother hsame
      exact absurd (isOf_iff.mpr hsame) (by rw [hothers other hother]; decide)
    rw [after_of backend hcounted]
    refine (isOk_check_later backend (counted_after hcounted others) hkeep ?_).mpr (h.trans hwaited)
    rwa [class_of_isOf hof]

/-- What a store says covers the rest of the window, by at most a second, if it rounds it up. -/
theorem retryAfter_covers_iff (backend : RateLimitBackend) {now : ℕ} {w : WindowCounter}
    (hstarted : w.startedAt ≤ now) (hopen : now < w.startedAt + windowNanos) :
    (w.startedAt + windowNanos ≤ now + retryAfter backend windowNanos now w * nanosPerSecond ∧
      retryAfter backend windowNanos now w * nanosPerSecond ≤
        w.startedAt + windowNanos - now + nanosPerSecond) ↔
      RoundsUp backend (w.startedAt + windowNanos - now) := by
  cases backend with
  | memory =>
    simp only [retryAfter, RoundsUp, windowNanos, rateLimitWindow, nanosPerSecond] at *
    omega
  | redis =>
    by_cases hnone : (w.startedAt + windowNanos - now + nanosPerSecond / 2) / nanosPerSecond < 1
    · simp only [retryAfter, RoundsUp, if_pos hnone]
      simp only [windowNanos, rateLimitWindow, nanosPerSecond] at *
      omega
    · simp only [retryAfter, RoundsUp, if_neg hnone]
      simp only [windowNanos, rateLimitWindow, nanosPerSecond] at *
      omega

theorem rateLimited_inj {seconds seconds' : ℕ} :
    GatewayError.rateLimited seconds = GatewayError.rateLimited seconds' ↔ seconds = seconds' := by
  simp [GatewayError.rateLimited]

/-- A denied check was counted in a window that was open before it and has had its share. -/
theorem denied_inv (backend : RateLimitBackend) {counters : MemoryRateLimitStore}
    (hcounted : counters.Counted) {denied : Check} {seconds : ℕ}
    (h : ((RateLimitStore.of backend counters).check denied).2 = .error (.rateLimited seconds)) :
    ∃ before after, counters denied.storeKey = some before ∧
      counters.next denied denied.storeKey = some after ∧
        after.startedAt = before.startedAt ∧ denied.now < after.startedAt + windowNanos ∧
          denied.routeClass.policy.allowedInWindow < after.count ∧
            seconds = retryAfter backend windowNanos denied.now after := by
  rw [check_of backend hcounted denied rfl] at h
  have hspent : denied.routeClass.policy.allowedInWindow <
      (arrive windowNanos denied.now (counters denied.storeKey)).count := by
    by_contra hwithin
    simp [checkOutcome, Admitted, not_lt.mp hwithin] at h
  have hopen : ¬ Closed windowNanos denied.now (counters denied.storeKey) := by
    intro hclosed
    rw [arrive_of_closed hclosed] at hspent
    exact absurd (one_le_allowedInWindow denied.routeClass) (not_le_of_gt hspent)
  obtain ⟨before, hbefore, hstart⟩ := arrive_startedAt_of_not_closed hopen
  have hseconds : retryAfter backend windowNanos denied.now
      (arrive windowNanos denied.now (counters denied.storeKey)) = seconds := by
    simp only [checkOutcome, Admitted, not_le_of_gt hspent, if_false] at h
    exact rateLimited_inj.mp (Except.error.inj h)
  exact ⟨before, _, hbefore, next_self, hstart, lt_startedAt_arrive_add windowNanos_pos, hspent,
    hseconds.symm⟩

/-- The time to wait is kept, and no more than a second too long, for exactly the denials at which
the store rounds the rest of the window up. -/
theorem retryAfterTrusted_iff (backend : RateLimitBackend) (checks : List Check) (denied : Check)
    (seconds : ℕ)
    (hordered : (checks ++ [denied]).Pairwise fun check next => check.now ≤ next.now)
    (hdenied : (((RateLimitStore.empty backend).after checks).check denied).2 =
      .error (.rateLimited seconds)) :
    RetryAfterTrusted ((RateLimitStore.empty backend).after checks) denied seconds ↔
      RoundsUp backend (((RateLimitStore.empty backend).after checks).timeLeft denied) := by
  rw [← of_empty, after_of backend counted_empty] at hdenied ⊢
  have hcounted := counted_after counted_empty checks
  have hearlier : ∀ check ∈ checks, check.now ≤ denied.now := by
    intro check hcheck
    exact (List.pairwise_append.mp hordered).2.2 check hcheck denied (List.mem_singleton_self _)
  obtain ⟨before, after, hbefore, hafter, hstart, hopen, hspent, hseconds⟩ :=
    denied_inv backend hcounted hdenied
  have hstarted : after.startedAt ≤ denied.now := by
    rw [hstart]
    exact startedAt_after_le hearlier (fun key w h => by cases h) _ before hbefore
  have hleft := timeLeft_of backend hbefore
  have hnext : ((RateLimitStore.of backend (MemoryRateLimitStore.empty.after checks)).check
      denied).1 = _ := congrArg Prod.fst (check_of backend hcounted denied rfl)
  have hreadmits := readmits_iff backend (counted_next hcounted denied) seconds hafter hspent
  have hcovers := retryAfter_covers_iff backend hstarted hopen
  rw [← hseconds, ← hreadmits, hstart, ← hleft] at hcovers
  rw [← hcovers]
  constructor
  · rintro ⟨hre, htight⟩
    rw [hnext] at hre
    exact ⟨hre, htight⟩
  · rintro ⟨hre, htight⟩
    exact ⟨by rwa [hnext], htight⟩

def spentChecks : List Check := List.replicate 15 ⟨0, "operator:/ingest/trigger", .adminWrite⟩

def triggerAt (now : ℕ) : Check := ⟨now, "operator:/ingest/trigger", .adminWrite⟩

/-- In whole seconds both stores are right. -/
theorem retryAfterTrusted_sample :
    (spentChecks ++ [triggerAt 20000000000]).Pairwise (fun check next => check.now ≤ next.now) ∧
      (((RateLimitStore.empty .memory).after spentChecks).check (triggerAt 20000000000)).2 =
        .error (.rateLimited 40) ∧
      RetryAfterTrusted ((RateLimitStore.empty .memory).after spentChecks)
        (triggerAt 20000000000) 40 :=
  have hordered : (spentChecks ++ [triggerAt 20000000000]).Pairwise
      fun check next => check.now ≤ next.now := by decide
  have hdenied : (((RateLimitStore.empty .memory).after spentChecks).check
      (triggerAt 20000000000)).2 = .error (.rateLimited 40) := by decide +kernel
  ⟨hordered, hdenied, (retryAfterTrusted_iff .memory spentChecks (triggerAt 20000000000) 40 hordered
    hdenied).mpr (by decide +kernel)⟩

/-- Half a second into the window the memory store says a second less than is left of it; so does
Redis a little later, and at the end of the window it says a minute. -/
theorem not_retryAfterTrusted :
    ((((RateLimitStore.empty .memory).after spentChecks).check (triggerAt 500000000)).2 =
        .error (.rateLimited 59) ∧
      ¬ RetryAfterTrusted ((RateLimitStore.empty .memory).after spentChecks)
        (triggerAt 500000000) 59) ∧
    ((((RateLimitStore.empty .redis).after spentChecks).check (triggerAt 700000000)).2 =
        .error (.rateLimited 59) ∧
      ¬ RetryAfterTrusted ((RateLimitStore.empty .redis).after spentChecks)
        (triggerAt 700000000) 59) ∧
    (((RateLimitStore.empty .redis).after spentChecks).check (triggerAt 59700000000)).2 =
        .error (.rateLimited 60) ∧
      ¬ RetryAfterTrusted ((RateLimitStore.empty .redis).after spentChecks)
        (triggerAt 59700000000) 60 := by
  refine ⟨⟨by decide +kernel, fun h => ?_⟩, ⟨by decide +kernel, fun h => ?_⟩, by decide +kernel,
    fun h => ?_⟩
  · have hok := h.readmits [] (triggerAt 59500000000) (by decide) (by decide) (by decide) (by decide)
    exact absurd hok (by decide +kernel)
  · have hok := h.readmits [] (triggerAt 59700000000) (by decide) (by decide) (by decide) (by decide)
    exact absurd hok (by decide +kernel)
  · exact absurd h.tight (by decide +kernel)

end LumenHorizon.Gateway
