import EdgeCache.Coordinator
import EdgeCache.Origin.Reaction

/-!
# A scripted origin

An origin that does as it is told: for each key, whether a fetch has to wait at a gate, how long the
answer takes, and what it is.
-/

namespace EdgeCache.Simulation

/-- What the origin does when a key is fetched. -/
structure Script where
  /-- Whether a fetch waits for a permit first. -/
  gated : Bool
  /-- How long the answer takes from there, in milliseconds. -/
  delay : Option Nat
  crashes : Bool
  refusal : Option Fault
  entry : Option Entry

/-- An origin that knows nothing of a key. -/
def Script.unknown : Script := ⟨false, none, false, none, none⟩

/-- An origin that reacts at once. -/
def Script.reacting (r : Reaction) : Script := ⟨false, none, false, none, some r.entry⟩

/-- How a fetch under the script ends. -/
def Script.landing (s : Script) : Landing :=
  if s.crashes then .crashed
  else match s.refusal with
    | some fault => .refused fault
    | none => .arrived (s.entry.getD Reaction.broken.entry)

/-- The scripts, and the permits that nobody has used. -/
structure ScriptedOrigin where
  scripts : List (String × Script)
  /-- What happens to keys without a script. -/
  otherwise : Key → Script
  permits : List (String × Nat)

namespace ScriptedOrigin

/-- An origin without scripts. -/
def silent : ScriptedOrigin := ⟨[], fun _ => .unknown, []⟩

/-- The script of a key. -/
def script (o : ScriptedOrigin) (k : Key) : Script := (o.scripts.lookup k.text).getD (o.otherwise k)

/-- Replaces the script of a key. -/
def setScript (o : ScriptedOrigin) (key : String) (s : Script) : ScriptedOrigin :=
  { o with scripts := (key, s) :: o.scripts.filter (·.1 != key) }

/-- Forgets every script. -/
def forget (o : ScriptedOrigin) : ScriptedOrigin := { o with scripts := [] }

/-- The permits at the gate of a key. -/
def permitsOf (o : ScriptedOrigin) (key : String) : Nat := (o.permits.lookup key).getD 0

/-- Sets the permits at the gate of a key. -/
def setPermits (o : ScriptedOrigin) (key : String) (n : Nat) : ScriptedOrigin :=
  { o with permits := (key, n) :: o.permits.filter (·.1 != key) }

end ScriptedOrigin

end EdgeCache.Simulation
