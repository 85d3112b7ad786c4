import EdgeCache.Http.Target

/-!
# Routes

Two fixed paths answer for the server itself; every path below the route prefix asks for a resource.
Paths are matched as they are sent.
-/

namespace EdgeCache.Http

/-- The path of the health check. -/
def healthPath : List Char := "/health".toList

/-- The path of the counters. -/
def countersPath : List Char := "/api/cache/stats".toList

/-- Who answers a path. -/
inductive Route where
  | health
  | counters
  /-- A resource, by the part of the path that names it. -/
  | resource (path : List Char)
  deriving DecidableEq, Repr

/-- What follows the prefix in a text that begins with it. -/
def dropPrefix? : List Char → List Char → Option (List Char)
  | [], cs => some cs
  | p :: ps, c :: cs => if p = c then dropPrefix? ps cs else none
  | _ :: _, [] => none

theorem dropPrefix?_eq_some_iff {ps cs rest : List Char} :
    dropPrefix? ps cs = some rest ↔ cs = ps ++ rest := by
  induction ps generalizing cs with
  | nil => simp [dropPrefix?]
  | cons p ps ih =>
    cases cs with
    | nil => simp [dropPrefix?]
    | cons c cs =>
      by_cases h : p = c
      · simp [dropPrefix?, h, ih]
      · simp [dropPrefix?, h, Ne.symm h]

/-- Where the resources are served. -/
structure Router where
  /-- The path in front of every resource. -/
  mount : List Char

namespace Router

/-- The segments of a path. -/
def segments (path : List Char) : List (List Char) := path.splitOn '/'

/-- Whether a path can be registered: no segment may look like a parameter of the older form. -/
def isMountable (path : List Char) : Bool :=
  (segments path).all fun s => s.head? ≠ some ':' && s.head? ≠ some '*'

/-- The router for a route prefix, if it can be registered. -/
def ofMount? (mount : String) : Option Router :=
  if isMountable mount.toList then some ⟨mount.toList⟩ else none

/-- What a path has in front of its wildcard part. -/
def lead (r : Router) : List Char := if r.mount = ['/'] then ['/'] else r.mount ++ ['/']

/-- The part of the path that the resource handler is given: what follows the prefix, or all of it
if it does not begin with the prefix. -/
def resourcePart (r : Router) (path : List Char) : List Char := (dropPrefix? r.mount path).getD path

/-- Who answers a path, if anybody does. Fixed paths go first; a resource needs at least one
character after the slash. -/
def route? (r : Router) (path : List Char) : Option Route :=
  if path = healthPath then some .health
  else if path = countersPath then some .counters
  else match dropPrefix? r.lead path with
    | some (_ :: _) => some (.resource (r.resourcePart path))
    | _ => none

end Router

/-- What the server makes of a method on a known path. -/
inductive Access where
  | read
  /-- As reading, but the body is not sent. -/
  | probe
  | refused
  deriving DecidableEq, Repr

/-- Only reading is served, and methods are compared letter by letter. -/
def Access.ofMethod (m : String) : Access :=
  if m = "GET" then .read else if m = "HEAD" then .probe else .refused

end EdgeCache.Http
