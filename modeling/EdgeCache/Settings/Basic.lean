/-!
# Settings

What the service is told: where it listens, what origin it fronts, how much it keeps and what it
logs. Every value that nobody gives has a default.
-/

namespace EdgeCache

/-- Where the service listens. -/
structure ServerSettings where
  bindAddress : String
  port : UInt16
  /-- The path in front of every resource. -/
  routePrefix : String
  deriving DecidableEq, Repr

/-- What the service fronts. -/
structure OriginSettings where
  /-- The URL that every key is put below. -/
  baseUrl : String
  /-- How long one fetch may take. -/
  timeoutSecs : Nat
  userAgent : String
  deriving DecidableEq, Repr

/-- What the service keeps. -/
structure CacheSettings where
  /-- The most entries kept; zero for no bound. -/
  maxEntries : Nat
  /-- How long an entry lives; absent for ever. -/
  ttlSecs : Option Nat
  sweepIntervalSecs : Nat
  deriving DecidableEq, Repr

/-- What the service logs. -/
structure LoggingSettings where
  level : String
  json : Bool
  deriving DecidableEq, Repr

/-- All settings. -/
structure Settings where
  server : ServerSettings
  origin : OriginSettings
  cache : CacheSettings
  logging : LoggingSettings
  deriving DecidableEq, Repr

namespace Settings

/-- The settings of a service that is told nothing. -/
def default : Settings where
  server := ⟨"0.0.0.0", 8080, "/cdn"⟩
  origin := ⟨"http://ajax.googleapis.com/ajax/libs/", 10, "ferrous-cdn/0.1.0"⟩
  cache := ⟨10000, none, 60⟩
  logging := ⟨"info", false⟩

/-- Values that a source of settings gives; a source need not give any. -/
structure Given where
  bindAddress : Option String
  port : Option UInt16
  routePrefix : Option String
  baseUrl : Option String
  timeoutSecs : Option Nat
  userAgent : Option String
  maxEntries : Option Nat
  ttlSecs : Option Nat
  sweepIntervalSecs : Option Nat
  level : Option String
  json : Option Bool
  deriving DecidableEq, Repr

/-- A source that gives nothing. -/
def Given.nothing : Given :=
  ⟨none, none, none, none, none, none, none, none, none, none, none⟩

/-- Settings in which the values that are given replace others. -/
def update (s : Settings) (g : Given) : Settings where
  server := ⟨g.bindAddress.getD s.server.bindAddress, g.port.getD s.server.port,
    g.routePrefix.getD s.server.routePrefix⟩
  origin := ⟨g.baseUrl.getD s.origin.baseUrl, g.timeoutSecs.getD s.origin.timeoutSecs,
    g.userAgent.getD s.origin.userAgent⟩
  cache := ⟨g.maxEntries.getD s.cache.maxEntries, g.ttlSecs.or s.cache.ttlSecs,
    g.sweepIntervalSecs.getD s.cache.sweepIntervalSecs⟩
  logging := ⟨g.level.getD s.logging.level, g.json.getD s.logging.json⟩

/-- The values that a command line can give. -/
structure Overrides where
  bindAddress : Option String
  port : Option UInt16
  originUrl : Option String
  logLevel : Option String
  deriving DecidableEq, Repr

/-- A command line as a source of settings. -/
def Overrides.given (o : Overrides) : Given :=
  { Given.nothing with
    bindAddress := o.bindAddress
    port := o.port
    baseUrl := o.originUrl
    level := o.logLevel }

end Settings

end EdgeCache
