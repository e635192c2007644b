import RequestLayer.Settings.Basic

set_option autoImplicit false

namespace RequestLayer

def Json.ofNames (names : List String) : Json :=
  .array (names.map .string)

def Json.ofOption : Option Json → Json
  | some value => value
  | none => .null

def RetrySettings.toJson (settings : RetrySettings) : Json :=
  .object [("backoff_ms", .ofNat settings.backoffMilliseconds),
    ("method_allowlist", .ofOption (settings.methods.map .ofNames)),
    ("retries", .ofNat settings.retries)]

def Settings.toJson (settings : Settings) : Json :=
  .object [("cache_allow_list", .ofNames settings.allowed),
    ("cache_capacity", .ofOption (settings.cacheCapacity.map .ofNat)),
    ("cache_enabled", .bool settings.cacheEnabled),
    ("cacheable_methods", .ofOption (settings.cacheable.map .ofNames)),
    ("retry", settings.retry.toJson),
    ("stale_check_delay_secs", .ofOption (settings.staleAfter.map .ofNat)),
    ("validation_threshold",
      .ofOption (settings.threshold.map fun threshold => .string threshold.name))]

end RequestLayer
