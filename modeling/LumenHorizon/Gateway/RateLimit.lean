import Mathlib.Tactic

/-! # Rate-limit budgets

Every class of routes has its own budget for each minute.
-/

namespace LumenHorizon.Gateway

inductive RouteClass where
  | publicTileMetadata
  | tileRedirect
  | publicSiteRead
  | adminRead
  | adminWrite
  | authFailure
deriving DecidableEq, Repr

structure RateLimitPolicy where
  limitPerMinute : ℕ
  burst : ℕ
deriving DecidableEq, Repr

def RateLimitPolicy.allowedInWindow (policy : RateLimitPolicy) : ℕ :=
  policy.limitPerMinute + policy.burst

namespace RouteClass

def asStr : RouteClass → String
  | publicTileMetadata => "public_tile_metadata"
  | tileRedirect => "tile_redirect"
  | publicSiteRead => "public_site_read"
  | adminRead => "admin_read"
  | adminWrite => "admin_write"
  | authFailure => "auth_failure"

def policy : RouteClass → RateLimitPolicy
  | publicTileMetadata => ⟨120, 60⟩
  | tileRedirect => ⟨600, 120⟩
  | publicSiteRead => ⟨120, 60⟩
  | adminRead => ⟨60, 20⟩
  | adminWrite => ⟨10, 5⟩
  | authFailure => ⟨10, 5⟩

/-- The classes that the outer middleware charges. -/
def isPublic : RouteClass → Bool
  | publicTileMetadata | tileRedirect | publicSiteRead => true
  | _ => false

end RouteClass

/-- `window`, in seconds. -/
def rateLimitWindow : ℕ := 60

/-- What a store answers for one more request in a window. -/
structure WindowSnapshot where
  count : ℕ
  retryAfterSeconds : ℕ
deriving DecidableEq, Repr

def rateLimitKey (routeClass : RouteClass) (key : String) : String :=
  routeClass.asStr ++ ":" ++ key

end LumenHorizon.Gateway
