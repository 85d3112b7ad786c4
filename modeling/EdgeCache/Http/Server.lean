import EdgeCache.Coordinator
import EdgeCache.Http.Message
import EdgeCache.Http.Router

/-!
# The server

What becomes of a request: it is answered at once, or it is a call for the entry of a key.
-/

namespace EdgeCache.Http

/-- A request that has been understood. -/
structure Request where
  method : String
  path : List Char
  deriving DecidableEq

/-- A request from its method and target; `none` if they are no request. -/
def Request.of? (method target : String) : Option Request :=
  if isMethod method then (Target.ofText? target).map fun path => ⟨method, path⟩ else none

/-- What becomes of a request. -/
inductive Handling where
  | reply (page : Page)
  /-- A call for the entry of a key, whose body may not be wanted. -/
  | call (key : Key) (bodiless : Bool)

/-- The page as it is sent. -/
def Page.cut (bodiless : Bool) (p : Page) : Page := if bodiless then p.withoutBody else p

/-- A path that is known and may be read. -/
def handleRoute (s : Snapshot) (bodiless : Bool) : Route → Handling
  | .health => .reply (Page.health.cut bodiless)
  | .counters => .reply ((Page.counters s).cut bodiless)
  | .resource part =>
    match Key.ofPath (String.ofList part) with
    | .ok key => .call key bodiless
    | .error fault => .reply ((Page.ofFault fault).cut bodiless)

/-- What becomes of a request: unknown paths are not found, and known ones are only read. -/
def handle (r : Router) (s : Snapshot) (q : Request) : Handling :=
  match r.route? q.path with
  | none => .reply (.blank 404)
  | some route =>
    match Access.ofMethod q.method with
    | .refused => .reply (.blank 405)
    | .read => handleRoute s false route
    | .probe => handleRoute s true route

/-- The page for what a call gave. -/
def Page.ofCall (bodiless : Bool) (r : Result) : Page := (Page.ofResult r).cut bodiless

end EdgeCache.Http
