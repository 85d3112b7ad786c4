import EdgeCache.Http.Router
import EdgeCache.Origin.Address
import EdgeCache.Settings.Basic
import EdgeCache.Coordinator

/-!
# The service

What settings make: a store with its limits, a coordinator over an origin, and a router; and what a
flight does at the origin.
-/

namespace EdgeCache

/-- How a fetch of a key ends that has all the time it wants, where the origin is asked for an
address. -/
def Origin.fetch {m : Type → Type} [Monad m] (o : Origin) (ask : Url → m Reaction) (k : Key) :
    m Landing :=
  match o.address k with
  | .error fault => pure (.refused fault)
  | .ok u => do return .arrived (← ask u).entry

namespace Settings

/-- The limits of the store. -/
def limits (s : Settings) : Limits :=
  .ofShare s.cache.maxEntries (s.cache.ttlSecs.map (1000 * ·)) Limits.defaultShare

/-- The origin. -/
def toOrigin (s : Settings) : Except Fault Origin := Origin.of s.origin.baseUrl s.origin.userAgent

/-- What the coordinator over an origin is set up with. -/
def setup (s : Settings) (o : Origin) : Setup := ⟨o.accepts, 1000 * s.origin.timeoutSecs⟩

/-- The router, if the route prefix can be registered. -/
def router? (s : Settings) : Option Http.Router := Http.Router.ofMount? s.server.routePrefix

end Settings

end EdgeCache
