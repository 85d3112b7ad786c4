import EdgeCache.Options
import EdgeCache.Service
import EdgeCache.Settings.Load
import EdgeCache.Socket

/-!
# Starting up

From the words of the command line to a service that can listen, or to the reason why there is none.
-/

namespace EdgeCache

/-- All that is needed to serve. -/
structure Plan where
  settings : Settings
  origin : Origin
  router : Http.Router
  address : SocketAddress

/-- What starting up comes to. -/
inductive Startup where
  | help
  | version
  /-- The command line is wrong. -/
  | usage
  /-- The service cannot be built, and the text says why. -/
  | failed (reason : String)
  /-- The route prefix cannot be registered, which is noticed too late for a reason. -/
  | broken
  | ready (plan : Plan)

namespace Startup

/-- The service that valid settings describe. The origin is tried first, then the routes, then the
address. -/
def ofSettings (s : Settings) : Startup :=
  match s.toOrigin with
  | .error fault => failed fault.message
  | .ok origin =>
    match s.router? with
    | none => broken
    | some router =>
      match SocketAddress.of? s.server.bindAddress s.server.port with
      | none => failed "invalid socket address syntax"
      | some address => ready ⟨s, origin, router, address⟩

/-- Starting up with some words, where files can be read. -/
def ofWords (readFile : String → Except FileFault ByteArray) (words : List String) : Startup :=
  match Options.ofWords words with
  | .error .usage => usage
  | .error .help => help
  | .error .version => version
  | .ok o =>
    match Settings.loadValid readFile o.config o.overrides with
    | .error e => failed e.message
    | .ok s => ofSettings s

/-- The program's exit code; a service that was ready ends well. -/
def exitCode : Startup → UInt8
  | help => 0
  | version => 0
  | usage => 2
  | failed _ => 1
  | broken => 101
  | ready _ => 0

/-- Why a server cannot listen at an address of another system. -/
def foreignAddress : String := "Cannot assign requested address (os error 99)"

/-- The line that reports a failure. -/
def failureLine (reason : String) : String :=
  "Error: " ++ String.ofList (reason.toList.takeWhile (· ≠ '\n'))

/-- The line that tells the version. -/
def versionLine : String := programName ++ " " ++ programVersion

end Startup

end EdgeCache
