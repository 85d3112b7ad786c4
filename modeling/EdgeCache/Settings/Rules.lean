import EdgeCache.Settings.Basic

/-!
# Rules

What settings have to satisfy. The rules are tried in a fixed order, and the first that is broken is
reported.
-/

namespace EdgeCache.Settings

/-- A rule that is broken. -/
inductive Violation where
  | originEmpty
  | originTooLong
  | originScheme
  | originEnd
  | timeoutZero
  | prefixStart
  | prefixEnd
  | prefixParameter
  | ttlZero
  | sweepZero
  | unknownLevel (level : String)
  deriving DecidableEq, Repr

/-- The rule, in words. -/
def Violation.message : Violation → String
  | originEmpty => "Origin URL cannot be empty"
  | originTooLong => "Origin URL cannot exceed 2048 characters"
  | originScheme => "Origin URL must start with http:// or https://"
  | originEnd => "Origin URL must end with '/'"
  | timeoutZero => "origin.timeout_secs must be greater than 0"
  | prefixStart => "Route prefix must start with '/'"
  | prefixEnd => "Route prefix must not end with '/'"
  | prefixParameter => "Route prefix cannot contain path parameters"
  | ttlZero => "cache.ttl_secs must be greater than 0 when set"
  | sweepZero => "cache.sweep_interval_secs must be greater than 0"
  | unknownLevel level => s!"Unknown log level '{level}'"

/-- The most bytes of an origin URL. -/
def maxOriginLength : Nat := 2048

/-- Whether a text begins with another. -/
def begins (start s : String) : Bool := start.toList.isPrefixOf s.toList

/-- Whether the last character of a text is a slash. -/
def endsWithSlash (s : String) : Bool := s.toList.getLast? = some '/'

/-- A rule that holds, or the violation of it. -/
def require (holds : Bool) (v : Violation) : Except Violation Unit :=
  if holds then .ok () else .error v

/-- The rules for an origin URL on its own. -/
def checkOriginUrl (url : String) : Except Violation Unit := do
  require (url ≠ "") .originEmpty
  require (url.utf8ByteSize ≤ maxOriginLength) .originTooLong
  require (begins "http://" url || begins "https://" url) .originScheme

/-- The rules for a route prefix. -/
def checkRoutePrefix (route : String) : Except Violation Unit := do
  require (begins "/" route) .prefixStart
  require (route.length ≤ 1 || !endsWithSlash route) .prefixEnd
  require (route.toList.all fun c => c ≠ '\x7b' && c ≠ '\x7d') .prefixParameter

/-- The names of the log levels. -/
def levels : List String := ["trace", "debug", "info", "warn", "error"]

/-- Whether a text names a log level, in upper or lower case. -/
def isLevel (s : String) : Bool := levels.contains (String.ofList (s.toList.map Char.toLower))

/-- All rules. -/
def check (s : Settings) : Except Violation Unit := do
  checkOriginUrl s.origin.baseUrl
  require (endsWithSlash s.origin.baseUrl) .originEnd
  require (s.origin.timeoutSecs ≠ 0) .timeoutZero
  checkRoutePrefix s.server.routePrefix
  require (s.cache.ttlSecs ≠ some 0) .ttlZero
  require (s.cache.sweepIntervalSecs ≠ 0) .sweepZero
  require (isLevel s.logging.level) (.unknownLevel s.logging.level)

end EdgeCache.Settings
