import LumenHorizon.Foundation.Utf8
import LumenHorizon.Gateway.Http

/-! # Who may trigger the ingest

The admin routes of the ingest service ask for a token in a header of their own. The token is
compared byte by byte to the end, whatever the first bytes are.
-/

namespace LumenHorizon.Ingest
open Foundation Shared Processing Gateway

structure InternalAdminAuthConfig where
  headerName : String
  token : String
deriving DecidableEq, Repr

/-- The bits in which two lists of bytes differ, over all their positions. -/
def differingBits (left right : List UInt8) : UInt8 :=
  (left.zip right).foldl (fun diff pair => diff ||| (pair.1 ^^^ pair.2)) 0

def constantTimeEq (left right : List UInt8) : Bool :=
  if left.length ≠ right.length then false else differingBits left right = 0

/-- `HeaderMap::get` looks a name up in small letters. -/
def internalAdminToken (headers : HeaderMap) (headerName : String) : Option String :=
  readHeader headers (toAsciiLowercase headerName)

structure AdminAuthError where
  requestId : Uuid
  status : ℕ
  code : String
  message : String
deriving DecidableEq, Repr

/-- Whether the next handler runs. -/
def requireInternalAdmin (internalAdminAuth : Option InternalAdminAuthConfig) (requestId : Uuid)
    (headers : HeaderMap) : Except AdminAuthError Unit :=
  match internalAdminAuth with
  | none => .ok ()
  | some auth =>
    match internalAdminToken headers auth.headerName with
    | some token =>
      if constantTimeEq (Utf8.asBytes token) (Utf8.asBytes auth.token) then .ok ()
      else .error ⟨requestId, 403, "forbidden", "internal service authorization is invalid"⟩
    | none =>
      .error ⟨requestId, 401, "unauthenticated", "internal service authorization is required"⟩

/-- The id of a request, with the one that `Uuid::new_v4` would give it. -/
def requestIdFromHeaders (parseUuid : String → Option Uuid) (fresh : Uuid)
    (headers : HeaderMap) : Uuid :=
  ((readHeader headers "x-request-id").bind parseUuid).getD fresh

/-- What `/admin/ingest/trigger` answers, under the id in its `x-request-id`. -/
structure TriggerAnswer where
  requestId : Uuid
  outcome : Except AdminAuthError Uuid

/-- A request through `assign_request_id` and `require_internal_admin` to `trigger_ingest`, which
takes a new id for the ingest. -/
def answerTrigger (parseUuid : String → Option Uuid)
    (internalAdminAuth : Option InternalAdminAuthConfig) (fresh ingestId : Uuid)
    (headers : HeaderMap) : TriggerAnswer :=
  let requestId := requestIdFromHeaders parseUuid fresh headers
  ⟨requestId, (requireInternalAdmin internalAdminAuth requestId headers).map fun _ => ingestId⟩

theorem foldl_differing_eq_zero (pairs : List (UInt8 × UInt8)) (diff : UInt8) :
    pairs.foldl (fun diff pair => diff ||| (pair.1 ^^^ pair.2)) diff = 0 ↔
      diff = 0 ∧ ∀ pair ∈ pairs, pair.1 = pair.2 := by
  induction pairs generalizing diff with
  | nil => simp
  | cons pair pairs ih =>
    rw [List.foldl_cons, ih, UInt8.or_eq_zero_iff, UInt8.xor_eq_zero_iff, List.forall_mem_cons,
      and_assoc]

theorem constantTimeEq_iff {left right : List UInt8} :
    constantTimeEq left right = true ↔ left = right := by
  unfold constantTimeEq differingBits
  split_ifs with hlength
  · simp only [false_iff]
    exact fun h => hlength (congrArg List.length h)
  · rw [not_not] at hlength
    simp only [decide_eq_true_eq, foldl_differing_eq_zero, true_and]
    constructor
    · intro hpairs
      refine List.ext_getElem hlength fun i hleft hright => ?_
      exact hpairs (left[i], right[i]) (List.mem_iff_getElem.mpr
        ⟨i, by simp [hleft, hright], List.getElem_zip⟩)
    · rintro rfl pair hpair
      obtain ⟨i, hi, rfl⟩ := List.mem_iff_getElem.mp hpair
      simp

/-- The handler runs exactly when the header holds the token, or no token is asked for. -/
theorem requireInternalAdmin_eq_ok_iff {internalAdminAuth : Option InternalAdminAuthConfig}
    {requestId : Uuid} {headers : HeaderMap} :
    requireInternalAdmin internalAdminAuth requestId headers = .ok () ↔
      ∀ auth ∈ internalAdminAuth,
        internalAdminToken headers auth.headerName = some auth.token := by
  cases internalAdminAuth with
  | none => simp [requireInternalAdmin]
  | some auth =>
    cases htoken : internalAdminToken headers auth.headerName with
    | none => simp [requireInternalAdmin, htoken]
    | some token =>
      simp only [requireInternalAdmin, htoken, constantTimeEq_iff, Option.mem_def,
        Option.some_inj, forall_eq', Utf8.asBytes_injective.eq_iff]
      split_ifs with h <;> simp [h]

end LumenHorizon.Ingest
