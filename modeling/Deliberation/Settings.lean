/-
# Settings -- what holds where nothing else is said
-/
import Deliberation.Value.Basic

set_option autoImplicit false

namespace Deliberation

/-- The parameters of an installation. -/
structure Settings where
  engineVersion : String
  apiVersion : String
  tieEpsilon : Number
  maxTextLength : Nat
  similarityThreshold : Number
  minParticipation : Number
  cacheTtl : Number
  cacheMaxEntries : Int
  host : String
  port : Nat
  corsOrigins : String

/-- The parameters that an installation has unless it is told otherwise. -/
def Settings.default : Settings where
  engineVersion := "1.0.0"
  apiVersion := "1"
  tieEpsilon := .real (.ofDecimal 5 2)
  maxTextLength := 25000
  similarityThreshold := .real (.ofDecimal 2 1)
  minParticipation := .whole 3
  cacheTtl := .whole 3600
  cacheMaxEntries := 500
  host := "0.0.0.0"
  port := 8000
  corsOrigins := "*"

def Settings.toValue (s : Settings) : Value :=
  .record [
    ("ENGINE_VERSION", .text s.engineVersion),
    ("API_VERSION", .text s.apiVersion),
    ("TIE_EPSILON", .number s.tieEpsilon),
    ("MAX_TEXT_LENGTH", .whole s.maxTextLength),
    ("SIMILARITY_THRESHOLD", .number s.similarityThreshold),
    ("MIN_PARTICIPATION", .number s.minParticipation),
    ("CACHE_TTL", .number s.cacheTtl),
    ("CACHE_MAX_ENTRIES", .whole s.cacheMaxEntries),
    ("HOST", .text s.host),
    ("PORT", .whole s.port),
    ("CORS_ORIGINS", .text s.corsOrigins)]

end Deliberation
