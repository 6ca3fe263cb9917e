import LumenHorizon.Foundation.Words
import LumenHorizon.Shared.HttpRetry

/-! # The delay before a retry, in machine words

The retry loop counts its delays in whole milliseconds. Here `delay_for_attempt` is followed
through the widths it computes in: attempts of 32 bits, durations of seconds and nanoseconds,
milliseconds of 128 bits that are cut to 64.
-/

namespace LumenHorizon.Shared.Backoff
open Foundation.Words

/-- `std::time::Duration`. -/
structure Duration where
  secs : BitVec 64
  nanos : BitVec 32
  nanos_lt : nanos.toNat < 10 ^ 9
deriving DecidableEq

namespace Duration

/-- The derived order, of the seconds first. -/
instance : LE Duration := ⟨fun a b => a.secs < b.secs ∨ a.secs = b.secs ∧ a.nanos ≤ b.nanos⟩

instance : DecidableLE Duration := fun a b =>
  inferInstanceAs (Decidable (a.secs < b.secs ∨ a.secs = b.secs ∧ a.nanos ≤ b.nanos))

/-- `Ord::min`. -/
def min (a b : Duration) : Duration := if a ≤ b then a else b

def asMillis (duration : Duration) : Except Overflow (BitVec 128) := do
  let whole ← checkedMul (duration.secs.setWidth 128) 1000
  checkedAdd whole ((duration.nanos / 1000000).setWidth 128)

theorem subsec_nanos (millis : BitVec 64) :
    ((millis % 1000).setWidth 32 * 1000000).toNat = millis.toNat % 1000 * 1000000 := by
  have hlt : millis.toNat % 1000 < 1000 := Nat.mod_lt _ (by decide)
  have hpart : ((millis % 1000).setWidth 32).toNat = millis.toNat % 1000 := by
    rw [toNat_setWidth_of_lt]
    · simp
    · simp
      omega
  rw [BitVec.toNat_mul, hpart]
  simp
  omega

def fromMillis (millis : BitVec 64) : Duration where
  secs := millis / 1000
  nanos := (millis % 1000).setWidth 32 * 1000000
  nanos_lt := by
    rw [subsec_nanos]
    omega

def totalNanos (duration : Duration) : ℕ := duration.secs.toNat * 10 ^ 9 + duration.nanos.toNat

def wholeMillis (duration : Duration) : ℕ := duration.totalNanos / 10 ^ 6

theorem le_iff {a b : Duration} : a ≤ b ↔ a.totalNanos ≤ b.totalNanos := by
  have ha := a.nanos_lt
  have hb := b.nanos_lt
  change a.secs < b.secs ∨ a.secs = b.secs ∧ a.nanos ≤ b.nanos ↔ _
  simp only [BitVec.lt_def, BitVec.le_def, ← BitVec.toNat_inj, totalNanos]
  omega

@[simp] theorem totalNanos_min (a b : Duration) :
    (a.min b).totalNanos = Min.min a.totalNanos b.totalNanos := by
  unfold min
  by_cases h : a ≤ b
  · rw [if_pos h, min_eq_left (le_iff.mp h)]
  · rw [if_neg h, min_eq_right (not_le.mp fun hle => h (le_iff.mpr hle)).le]

@[simp] theorem totalNanos_fromMillis (millis : BitVec 64) :
    (fromMillis millis).totalNanos = millis.toNat * 10 ^ 6 := by
  have hsecs : (millis / 1000).toNat = millis.toNat / 1000 := by simp
  rw [totalNanos, fromMillis, hsecs, subsec_nanos]
  omega

theorem asMillis_eq_ok (duration : Duration) :
    ∃ millis, duration.asMillis = .ok millis ∧ millis.toNat = duration.wholeMillis := by
  have hsecs := duration.secs.isLt
  have hnanos := duration.nanos_lt
  have hwide : (duration.secs.setWidth 128).toNat = duration.secs.toNat :=
    toNat_setWidth_of_lt (by omega)
  have hpart : ((duration.nanos / 1000000).setWidth 128).toNat =
      duration.nanos.toNat / 1000000 := by
    rw [toNat_setWidth_of_lt (by omega)]
    simp
  obtain ⟨whole, hwhole, hwholeNat⟩ : ∃ whole,
      checkedMul (duration.secs.setWidth 128) 1000 = .ok whole ∧
        whole.toNat = duration.secs.toNat * 1000 := by
    rw [← hwide]
    apply checkedMul_eq_ok
    rw [hwide]
    simp
    omega
  obtain ⟨millis, hmillis, hmillisNat⟩ := checkedAdd_eq_ok (a := whole)
    (b := (duration.nanos / 1000000).setWidth 128) (by omega)
  refine ⟨millis, ?_, ?_⟩
  · rw [asMillis, hwhole]
    exact hmillis
  · rw [hmillisNat, hwholeNat, hpart, wholeMillis, totalNanos]
    omega

end Duration

structure RetryConfig where
  maxAttempts : BitVec 32
  baseDelay : Duration
  maxDelay : Duration
deriving DecidableEq

def RetryConfig.delayForAttempt (self : RetryConfig) (attempt : BitVec 32) :
    Except Overflow Duration := do
  let exponent := lesser (saturatingSub attempt 1) 31
  let multiplier ← checkedShiftLeft (1 : BitVec 64) exponent
  let baseMillis ← self.baseDelay.asMillis
  let baseMillis := (lesser baseMillis ((BitVec.allOnes 64).setWidth 128)).setWidth 64
  let delayMillis := saturatingMul baseMillis multiplier
  .ok ((Duration.fromMillis delayMillis).min self.maxDelay)

/-- The delay in nanoseconds: the exponent stops at 31, the product at 64 bits of milliseconds, and
then the configured bound applies. -/
def RetryConfig.delayNanos (policy : RetryConfig) (attempt : ℕ) : ℕ :=
  min policy.maxDelay.totalNanos
    (min (2 ^ 64 - 1) (policy.baseDelay.wholeMillis * 2 ^ min (attempt - 1) 31) * 10 ^ 6)

/-- Clamping the base before the product is no more than clamping the product. -/
theorem clamped_mul (base multiplier bound : ℕ) (h : 1 ≤ multiplier) :
    min (min base bound * multiplier) bound = min bound (base * multiplier) := by
  rcases le_total base bound with hle | hle
  · rw [min_eq_left hle, min_comm]
  · have hbound : bound ≤ bound * multiplier := Nat.le_mul_of_pos_right _ h
    have hbase : bound ≤ base * multiplier := hbound.trans (Nat.mul_le_mul_right _ hle)
    rw [min_eq_right hle, min_eq_right hbound, min_eq_left hbase]

/-- Milliseconds of 128 bits fit 64 once they are clamped. -/
theorem toNat_clampedMillis {millis : BitVec 128} {whole : ℕ} (h : millis.toNat = whole) :
    ((lesser millis ((BitVec.allOnes 64).setWidth 128)).setWidth 64).toNat =
      min whole (2 ^ 64 - 1) := by
  have hclamp : (lesser millis ((BitVec.allOnes 64).setWidth 128)).toNat =
      min whole (2 ^ 64 - 1) := by
    rw [toNat_lesser, h]
    rfl
  rw [toNat_setWidth_of_lt (by omega), hclamp]

/-- No operation fails, and the delay is the one over unbounded numbers. -/
theorem delayForAttempt_spec (policy : RetryConfig) (attempt : BitVec 32) :
    ∃ delay, policy.delayForAttempt attempt = .ok delay ∧
      delay.totalNanos = policy.delayNanos attempt.toNat := by
  have hexponent : (lesser (saturatingSub attempt 1) 31).toNat = min (attempt.toNat - 1) 31 := by
    simp
  have hbelow : (lesser (saturatingSub attempt 1) 31).toNat < 64 := by omega
  obtain ⟨multiplier, hmultiplier, hpower⟩ := checkedShiftLeft_one (w := 64) hbelow
  obtain ⟨millis, hmillis, hwhole⟩ := policy.baseDelay.asMillis_eq_ok
  have hbase := toNat_clampedMillis hwhole
  have hdelay : policy.delayForAttempt attempt = .ok ((Duration.fromMillis (saturatingMul
      ((lesser millis ((BitVec.allOnes 64).setWidth 128)).setWidth 64) multiplier)).min
        policy.maxDelay) := by
    rw [RetryConfig.delayForAttempt, hmultiplier, hmillis]
    rfl
  have hpos : 1 ≤ 2 ^ min (attempt.toNat - 1) 31 := Nat.one_le_two_pow
  refine ⟨_, hdelay, ?_⟩
  rw [Duration.totalNanos_min, Duration.totalNanos_fromMillis, toNat_saturatingMul, hbase, hpower,
    hexponent, clamped_mul _ _ _ hpos, min_comm, RetryConfig.delayNanos]

structure BacksOff (policy : RetryConfig) (delay : BitVec 32 → Duration) : Prop where
  computes : ∀ attempt, policy.delayForAttempt attempt = .ok (delay attempt)
  bounded : ∀ attempt, delay attempt ≤ policy.maxDelay
  grows : ∀ attempt later, attempt ≤ later → delay attempt ≤ delay later
  doubles : ∀ attempt : BitVec 32, 1 ≤ attempt.toNat → attempt.toNat ≤ 32 →
    (delay attempt).totalNanos = min policy.maxDelay.totalNanos
      (min (2 ^ 64 - 1) (policy.baseDelay.wholeMillis * 2 ^ (attempt.toNat - 1)) * 10 ^ 6)

theorem delayNanos_mono (policy : RetryConfig) {attempt later : ℕ} (h : attempt ≤ later) :
    policy.delayNanos attempt ≤ policy.delayNanos later := by
  have hexponent : min (attempt - 1) 31 ≤ min (later - 1) 31 := by omega
  have hpower : 2 ^ min (attempt - 1) 31 ≤ 2 ^ min (later - 1) 31 :=
    Nat.pow_le_pow_right (by decide) hexponent
  unfold RetryConfig.delayNanos
  gcongr

/-- The delays are computed, bounded and growing for every policy. -/
theorem delayForAttempt_backsOff (policy : RetryConfig) : ∃ delay, BacksOff policy delay := by
  choose delay hcomputes hnanos using delayForAttempt_spec policy
  refine ⟨delay, hcomputes, fun attempt => ?_, fun attempt later h => ?_, fun attempt h1 h32 => ?_⟩
  · rw [Duration.le_iff, hnanos]
    exact min_le_left _ _
  · rw [Duration.le_iff, hnanos, hnanos]
    exact delayNanos_mono policy h
  · have hexponent : min (attempt.toNat - 1) 31 = attempt.toNat - 1 := by omega
    rw [hnanos, RetryConfig.delayNanos, hexponent]

end LumenHorizon.Shared.Backoff
