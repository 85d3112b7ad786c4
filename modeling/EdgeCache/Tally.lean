/-!
# Counters

What the coordinator has counted since it started, and the share of calls answered from the store.
-/

namespace EdgeCache

/-- The share of hits among all calls, in percent; zero without calls. The counts are rounded to the
nearest binary64 numbers before they are divided. -/
def hitRate (hits misses coalesced : Nat) : Float :=
  let total := hits + misses + coalesced
  if total = 0 then 0.0
  else hits.toUInt64.toFloat / total.toUInt64.toFloat * 100.0

/-- Counts of calls and of what became of them. They stand for counters of 64 bits: runs of fewer than
`2 ^ 64` counts are meant, in which none of them starts again from zero. -/
structure Tally where
  /-- Lookups that found an entry. -/
  hits : Nat
  /-- Calls that dispatched a fetch. -/
  misses : Nat
  /-- Calls that joined a fetch already in flight. -/
  coalesced : Nat
  /-- Failures handed to the store. -/
  negativeStored : Nat
  /-- Calls that returned a fault. -/
  errors : Nat
  deriving DecidableEq, Repr

/-- Nothing has been counted. -/
def Tally.zero : Tally := ⟨0, 0, 0, 0, 0⟩

/-- The share of hits so far. -/
def Tally.hitRate (t : Tally) : Float := EdgeCache.hitRate t.hits t.misses t.coalesced

/-- The counters at one moment, with what is kept and what is under way. -/
structure Snapshot where
  entries : Nat
  inFlight : Nat
  tally : Tally
  deriving DecidableEq, Repr

end EdgeCache
