import EdgeCache.Origin.Reaction

/-!
# Sites

An origin as a table of its resources, and what it does with a request for one of them.
-/

namespace EdgeCache

/-- An origin that may be out of reach. -/
structure Site where
  reachable : Bool
  /-- The reaction to each target. -/
  resources : List (String × Reaction)

/-- What comes back for a target. A target that is not in the table is not found. -/
def Site.react (s : Site) (target : String) : Reaction :=
  if s.reachable then (s.resources.lookup target).getD (.answer 404 [] ByteArray.empty .complete)
  else .broken

end EdgeCache
