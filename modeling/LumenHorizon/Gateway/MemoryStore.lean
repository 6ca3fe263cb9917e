import LumenHorizon.Foundation.FixedWindow
import LumenHorizon.Foundation.Text
import LumenHorizon.Gateway.Calls

/-! # The rate limiter in memory

The store keeps a counter under each key and opens a new window when a request finds the last one
over. Times are in nanoseconds since the process started.
-/

namespace LumenHorizon.Gateway
open Foundation Foundation.FixedWindow

def nanosPerSecond : ℕ := 1000000000

def windowNanos : ℕ := rateLimitWindow * nanosPerSecond

abbrev WindowCounter := Window

/-- `counters`, by their keys. -/
abbrev MemoryRateLimitStore := String → Option WindowCounter

namespace MemoryRateLimitStore

/-- `MemoryRateLimitStore::default`. -/
def empty : MemoryRateLimitStore := fun _ => none

/-- `increment_window`. -/
def incrementWindow (counters : MemoryRateLimitStore) (key : String) (window now : ℕ) :
    MemoryRateLimitStore × WindowSnapshot :=
  let counter := (counters key).getD ⟨now, 0⟩
  let counter := if now - counter.startedAt ≥ window then ⟨now, 0⟩ else counter
  let counter : WindowCounter := { counter with count := counter.count + 1 }
  let retryAfter := max ((window - (now - counter.startedAt)) / nanosPerSecond) 1
  (Function.update counters key (some counter), ⟨counter.count, retryAfter⟩)

/-- `RateLimiter::check` with this store. -/
def check (counters : MemoryRateLimitStore) (now : ℕ) (key : String) (routeClass : RouteClass) :
    MemoryRateLimitStore × Except GatewayError Unit :=
  let (counters, snapshot) :=
    counters.incrementWindow (rateLimitKey routeClass key) windowNanos now
  (counters, checkOutcome routeClass (some snapshot))

theorem incrementWindow_eq (counters : MemoryRateLimitStore) (key : String) (now : ℕ) {window : ℕ}
    (hwindow : 0 < window) :
    counters.incrementWindow key window now =
      (Function.update counters key (some (arrive window now (counters key))),
        ⟨(arrive window now (counters key)).count,
          max ((window - (now - (arrive window now (counters key)).startedAt)) / nanosPerSecond) 1⟩) := by
  have hcounter : ∀ counter : WindowCounter,
      now - counter.startedAt ≥ window ↔ counter.startedAt + window ≤ now := by
    intro counter
    omega
  cases hkey : counters key with
  | none => simp [incrementWindow, hkey, arrive]
  | some counter =>
    by_cases hover : counter.startedAt + window ≤ now
    · simp [incrementWindow, hkey, arrive, hcounter, hover]
    · simp [incrementWindow, hkey, arrive, hcounter, hover]

end MemoryRateLimitStore

structure Check where
  now : ℕ
  key : String
  routeClass : RouteClass
deriving DecidableEq, Repr

namespace Check

def storeKey (check : Check) : String := rateLimitKey check.routeClass check.key

def isOf (routeClass : RouteClass) (key : String) (check : Check) : Bool :=
  check.routeClass = routeClass ∧ check.key = key

end Check

/-- A check with its counter before it and after it. -/
structure Checked where
  check : Check
  before : Option WindowCounter
  after : Option WindowCounter
  outcome : Except GatewayError Unit

namespace Checked

def admitted (checked : Checked) : Bool := checked.outcome.isOk

/-- The check opens a window: its pair has none, or one that is over. -/
def OpensWindow (checked : Checked) : Prop := Closed windowNanos checked.check.now checked.before

/-- When the window that the check was counted in was opened. -/
def windowStart (checked : Checked) : Option ℕ := checked.after.map Window.startedAt

/-- The check was made between two times, both included. -/
def isBetween (since until' : ℕ) (checked : Checked) : Bool :=
  since ≤ checked.check.now ∧ checked.check.now ≤ until'

end Checked

def runChecks : MemoryRateLimitStore → List Check → List Checked
  | _, [] => []
  | counters, check :: checks =>
    let (counters', outcome) := counters.check check.now check.key check.routeClass
    ⟨check, counters check.storeKey, counters' check.storeKey, outcome⟩ :: runChecks counters' checks

/-- What one check is told, and what is left of its counter. -/
def checkedAt (check : Check) (before : Option WindowCounter) : Checked where
  check := check
  before := before
  after := some (arrive windowNanos check.now before)
  outcome := checkOutcome check.routeClass (some ⟨(arrive windowNanos check.now before).count,
    max ((windowNanos - (check.now - (arrive windowNanos check.now before).startedAt)) /
      nanosPerSecond) 1⟩)

@[simp] theorem checkedAt_check (check : Check) (before : Option WindowCounter) :
    (checkedAt check before).check = check := rfl

@[simp] theorem checkedAt_isBetween (check : Check) (before : Option WindowCounter)
    (since until' : ℕ) : (checkedAt check before).isBetween since until' =
      decide (since ≤ check.now ∧ check.now ≤ until') := rfl

@[simp] theorem checkedAt_windowStart (check : Check) (before : Option WindowCounter) :
    (checkedAt check before).windowStart =
      some (arrive windowNanos check.now before).startedAt := rfl

theorem windowNanos_pos : 0 < windowNanos := by decide

theorem runChecks_cons (counters : MemoryRateLimitStore) (check : Check) (checks : List Check) :
    runChecks counters (check :: checks) =
      checkedAt check (counters check.storeKey) ::
        runChecks (Function.update counters check.storeKey
          (some (arrive windowNanos check.now (counters check.storeKey)))) checks := by
  simp [runChecks, MemoryRateLimitStore.check, checkedAt, Check.storeKey,
    MemoryRateLimitStore.incrementWindow_eq _ _ _ windowNanos_pos]

theorem isOk_checkOutcome (routeClass : RouteClass) (snapshot : WindowSnapshot) :
    (checkOutcome routeClass (some snapshot)).isOk =
      decide (snapshot.count ≤ routeClass.policy.allowedInWindow) := by
  by_cases h : snapshot.count ≤ routeClass.policy.allowedInWindow
  · simp [checkOutcome, Admitted, h, Except.isOk, Except.toBool]
  · simp [checkOutcome, Admitted, h, Except.isOk, Except.toBool]

theorem checkedAt_admitted (check : Check) (before : Option WindowCounter) :
    (checkedAt check before).admitted =
      decide ((arrive windowNanos check.now before).count ≤
        check.routeClass.policy.allowedInWindow) := by
  rw [Checked.admitted, checkedAt, isOk_checkOutcome]

theorem mem_runChecks {counters : MemoryRateLimitStore} {checks : List Check} {checked : Checked}
    (h : checked ∈ runChecks counters checks) : checked = checkedAt checked.check checked.before := by
  induction checks generalizing counters with
  | nil => simp [runChecks] at h
  | cons check checks ih =>
    rw [runChecks_cons] at h
    rcases List.mem_cons.mp h with rfl | h
    · rfl
    · exact ih h

theorem colon_notMem_asStr (routeClass : RouteClass) : ':' ∉ routeClass.asStr.toList := by
  cases routeClass <;> decide

theorem asStr_inj {routeClass routeClass' : RouteClass}
    (h : routeClass.asStr = routeClass'.asStr) : routeClass = routeClass' := by
  cases routeClass <;> cases routeClass' <;> first | rfl | (exact absurd h (by decide))

/-- The class ends at the first colon, whatever the client puts into the key. -/
theorem rateLimitKey_inj {routeClass routeClass' : RouteClass} {key key' : String} :
    rateLimitKey routeClass key = rateLimitKey routeClass' key' ↔
      routeClass = routeClass' ∧ key = key' := by
  constructor
  · intro h
    have hchars := congrArg String.toList h
    simp only [rateLimitKey, String.toList_append, List.append_assoc] at hchars
    obtain ⟨hclass, hkey⟩ := (Text.append_separator_inj (colon_notMem_asStr routeClass)
      (colon_notMem_asStr routeClass')).mp hchars
    exact ⟨asStr_inj (String.toList_injective hclass), String.toList_injective hkey⟩
  · rintro ⟨rfl, rfl⟩
    rfl

theorem isOf_iff {routeClass : RouteClass} {key : String} {check : Check} :
    check.isOf routeClass key = true ↔ check.storeKey = rateLimitKey routeClass key := by
  simp [Check.isOf, Check.storeKey, rateLimitKey_inj]

theorem class_of_isOf {routeClass : RouteClass} {key : String} {check : Check}
    (h : check.isOf routeClass key = true) : check.routeClass = routeClass := by
  simp only [Check.isOf, decide_eq_true_eq] at h
  exact h.1

theorem one_le_allowedInWindow (routeClass : RouteClass) :
    1 ≤ routeClass.policy.allowedInWindow := by
  cases routeClass <;> decide

def checksOf (routeClass : RouteClass) (key : String) (run : List Checked) : List Checked :=
  run.filter fun checked => checked.check.isOf routeClass key

def admittedCount (run : List Checked) : ℕ := (run.filter Checked.admitted).length

/-- What the limiter promises for one pair in a run of checks that begins with an empty store. -/
structure WindowLaw (routeClass : RouteClass) (key : String) (checks : List Check) : Prop where
  alone : checksOf routeClass key (runChecks .empty checks) =
    runChecks .empty (checks.filter (Check.isOf routeClass key))
  withinWindow : ∀ start : ℕ,
    admittedCount ((checksOf routeClass key (runChecks .empty checks)).filter
      fun checked => checked.windowStart = some start) ≤ routeClass.policy.allowedInWindow
  withinMinute : ∀ since : ℕ,
    admittedCount ((checksOf routeClass key (runChecks .empty checks)).filter
      (Checked.isBetween since (since + windowNanos))) ≤ 2 * routeClass.policy.allowedInWindow
  lasts : ∀ checked ∈ checksOf routeClass key (runChecks .empty checks), ∀ start : ℕ,
    checked.windowStart = some start → checked.check.now < start + windowNanos
  opening : ∀ checked ∈ checksOf routeClass key (runChecks .empty checks),
    checked.OpensWindow → checked.admitted = true
  denied : ∀ checked ∈ checksOf routeClass key (runChecks .empty checks),
    checked.admitted = false → ∃ counter, checked.before = some counter ∧
      checked.windowStart = some counter.startedAt

section ChecksOf

variable {routeClass : RouteClass} {key : String} {checked : Checked} {run : List Checked}

theorem checksOf_cons_of_pos (h : checked.check.isOf routeClass key = true) :
    checksOf routeClass key (checked :: run) = checked :: checksOf routeClass key run :=
  List.filter_cons_of_pos h

theorem checksOf_cons_of_neg (h : checked.check.isOf routeClass key ≠ true) :
    checksOf routeClass key (checked :: run) = checksOf routeClass key run :=
  List.filter_cons_of_neg h

end ChecksOf

/-- The checks of a pair go as in any other store with the same counter for it. -/
theorem checksOf_runChecks (routeClass : RouteClass) (key : String)
    {counters counters' : MemoryRateLimitStore} (checks : List Check)
    (h : counters (rateLimitKey routeClass key) = counters' (rateLimitKey routeClass key)) :
    checksOf routeClass key (runChecks counters checks) =
      runChecks counters' (checks.filter (Check.isOf routeClass key)) := by
  induction checks generalizing counters counters' with
  | nil => rfl
  | cons check checks ih =>
    rw [runChecks_cons]
    by_cases hof : check.isOf routeClass key = true
    · have hkey := isOf_iff.mp hof
      rw [checksOf_cons_of_pos hof, List.filter_cons_of_pos hof, runChecks_cons, hkey, h]
      congr 1
      apply ih
      simp
    · have hkey : rateLimitKey routeClass key ≠ check.storeKey :=
        fun heq => hof (isOf_iff.mpr heq.symm)
      rw [checksOf_cons_of_neg hof, List.filter_cons_of_neg hof]
      apply ih
      rw [Function.update_of_ne hkey, h]

/-- Counting checks of one pair is counting arrivals at one counter. -/
theorem length_filter_runChecks {routeClass : RouteClass} {key : String} {checks : List Check}
    (hof : ∀ check ∈ checks, check.isOf routeClass key = true) (counters : MemoryRateLimitStore)
    {counts : Checked → Bool} (counts' : Arrival → Bool)
    (hcounts : ∀ check before, check.isOf routeClass key = true →
      counts (checkedAt check before) =
        counts' ⟨check.now, before, arrive windowNanos check.now before⟩) :
    ((runChecks counters checks).filter counts).length =
      ((arrivals windowNanos (counters (rateLimitKey routeClass key))
        (checks.map Check.now)).filter counts').length := by
  induction checks generalizing counters with
  | nil => rfl
  | cons check checks ih =>
    have hkey := isOf_iff.mp (hof check List.mem_cons_self)
    have hrest := ih (fun other hmem => hof other (List.mem_cons_of_mem _ hmem))
      (Function.update counters check.storeKey
        (some (arrive windowNanos check.now (counters check.storeKey))))
    rw [runChecks_cons, List.map_cons, arrivals, List.filter_cons, List.filter_cons,
      hcounts check _ (hof check List.mem_cons_self)]
    rw [hkey, Function.update_self] at hrest
    rw [hkey]
    split <;> simp [hrest]

/-- Every pair of a class and a key has windows of its own, whatever the other keys hold: its own
checks are counted alone, a window admits the class's quota and a minute twice that, the check that
opens a window is admitted, and a denied one leaves the window as it is. -/
theorem windowLaw (routeClass : RouteClass) (key : String) (checks : List Check)
    (hordered : checks.Pairwise fun check later => check.now ≤ later.now) :
    WindowLaw routeClass key checks := by
  have halone : checksOf routeClass key (runChecks .empty checks) =
      runChecks .empty (checks.filter (Check.isOf routeClass key)) :=
    checksOf_runChecks routeClass key checks rfl
  have hof : ∀ check ∈ checks.filter (Check.isOf routeClass key),
      check.isOf routeClass key = true := by
    intro check hcheck
    exact (List.mem_filter.mp hcheck).2
  have hsorted : ((checks.filter (Check.isOf routeClass key)).map Check.now).Pairwise (· ≤ ·) :=
    List.pairwise_map.mpr (hordered.filter _)
  refine ⟨halone, ?_, ?_, ?_, ?_, ?_⟩
  · intro start
    rw [halone, admittedCount, List.filter_filter,
      length_filter_runChecks hof _ (inWindow routeClass.policy.allowedInWindow start)]
    · exact length_inWindow_le windowNanos_pos start hsorted
    · intro check before hcheck
      simp [checkedAt_admitted, class_of_isOf hcheck, inWindow, Bool.and_comm]
  · intro since
    rw [halone, admittedCount, List.filter_filter,
      length_filter_runChecks hof _
        (inInterval routeClass.policy.allowedInWindow since (since + windowNanos))]
    · exact length_inInterval_le windowNanos_pos since hsorted
    · intro check before hcheck
      rw [checkedAt_admitted, class_of_isOf hcheck, Bool.and_comm, Bool.eq_iff_iff]
      simp [inInterval, and_assoc]
  · intro checked hchecked start hstart
    rw [mem_runChecks (List.mem_filter.mp hchecked).1, checkedAt_windowStart] at hstart
    rw [← Option.some.inj hstart]
    exact lt_startedAt_arrive_add windowNanos_pos
  · intro checked hchecked hopens
    have hchecked := mem_runChecks (List.mem_filter.mp hchecked).1
    rw [hchecked, checkedAt_admitted, arrive_of_closed hopens]
    exact decide_eq_true (one_le_allowedInWindow _)
  · intro checked hchecked hdenied
    have hchecked := mem_runChecks (List.mem_filter.mp hchecked).1
    have hopen : ¬ Closed windowNanos checked.check.now checked.before := by
      intro hopens
      rw [hchecked, checkedAt_admitted, arrive_of_closed hopens] at hdenied
      exact of_decide_eq_false hdenied (one_le_allowedInWindow _)
    obtain ⟨counter, hbefore, hstart⟩ := arrive_startedAt_of_not_closed hopen
    exact ⟨counter, hbefore, by rw [hchecked]; exact congrArg some hstart⟩

/-- Two checks of one pair a minute apart, another class under the same key between them. -/
theorem windowLaw_sample :
    List.Pairwise (fun check later : Check => check.now ≤ later.now)
        [⟨0, "operator:/trigger", .adminWrite⟩, ⟨5, "operator:/trigger", .adminRead⟩,
          ⟨60000000000, "operator:/trigger", .adminWrite⟩] ∧
      WindowLaw .adminWrite "operator:/trigger"
        [⟨0, "operator:/trigger", .adminWrite⟩, ⟨5, "operator:/trigger", .adminRead⟩,
          ⟨60000000000, "operator:/trigger", .adminWrite⟩] :=
  ⟨by decide, windowLaw .adminWrite "operator:/trigger" _ (by decide)⟩

end LumenHorizon.Gateway
