/-!
# Faults

What a caller of the cache can be refused with. A broken origin is not among them: its failures
are ordinary entries. The detail is free text; the kind decides the wording in front of it.
-/

namespace EdgeCache

/-- Why a caller gets no entry. -/
inductive Fault where
  /-- The key names no resource under the origin. -/
  | malformedKey (detail : String)
  /-- The store could not answer. -/
  | storeUnavailable (detail : String)
  /-- The fetch that was to bring the entry gave no result. -/
  | fetchAborted (detail : String)
  /-- The settings describe no usable service. -/
  | invalidConfig (detail : String)
  deriving DecidableEq, Repr, Inhabited

namespace Fault

/-- The text that a reader sees: what went wrong, then the detail. -/
def message : Fault → String
  | malformedKey d => "Malformed cache key: " ++ d
  | storeUnavailable d => "Cache store unavailable: " ++ d
  | fetchAborted d => "Origin fetch aborted: " ++ d
  | invalidConfig d => "Invalid configuration: " ++ d

/-- The status of the response that reports the fault. -/
def status : Fault → UInt16
  | malformedKey _ => 400
  | storeUnavailable _ => 503
  | fetchAborted _ => 502
  | invalidConfig _ => 500

end Fault

end EdgeCache
