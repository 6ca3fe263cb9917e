import LumenHorizon.Processing.Config
import LumenHorizon.Shared.Strings

/-! # Settings that name what is published

The version in the tile set ids and the base of the tile URLs, as `from_lookup_for` reads them.
-/

namespace LumenHorizon.Processing
open Shared

/-- A variable that is blank counts as one that is not set. -/
def readOptional (value : Option String) : Option String := value.filter fun value => !isBlank value

def optionalOrDefault (value : Option String) (default : String) : String :=
  (readOptional value).getD default

/-- `TILE_CLASSIFICATION_VERSION`, which is checked no further. -/
def tileClassificationVersion (value : Option String) : String :=
  optionalOrDefault value "radiance-dark-sky-v1"

/-- `TILE_CDN_BASE_URL`. -/
def tileCdnBaseUrl (value : Option String) : String :=
  trimEndChar '/' (optionalOrDefault value "https://tiles.lumenhorizon.com")

end LumenHorizon.Processing
