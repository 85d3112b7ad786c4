import EdgeCache.Coordinator

/-!
# Runs

The coordinator in time. A run is a list of events in any order: callers come, run and go, flights
depart and land, time passes, the store fails, and others use the store as well. An event that cannot
happen changes nothing.
-/

namespace EdgeCache

/-- A coordinator at a moment, in milliseconds. -/
structure Edge where
  now : Nat
  coordinator : Coordinator

/-- What can happen. -/
inductive Event where
  /-- A new caller, which has not run yet. -/
  | call (id : Nat) (key : Key)
  /-- A caller runs as far as it gets. -/
  | poll (id : Nat)
  | cancel (id : Nat)
  /-- A flight asks the origin. -/
  | depart (flight : FlightId)
  | land (flight : FlightId) (how : Landing)
  | elapse (ms : Nat)
  /-- How the store behaves from now on. -/
  | reading (script : List Reading)
  | writing (script : List Writing)
  /-- The store is used directly. -/
  | put (key : Key) (entry : Entry)
  | get (key : Key)
  | sweep
  | clear

namespace Edge

/-- The start of every run over a store with the given limits. -/
def start (limits : Limits) : Edge := ⟨0, .start (.reliable (.empty limits))⟩

/-- The store itself. -/
def store (e : Edge) : Store := e.coordinator.shelf.store

/-- Something done to the coordinator at this moment. -/
def act (e : Edge) (f : Nat → Coordinator → Coordinator) : Edge :=
  { e with coordinator := f e.now e.coordinator }

/-- Something done to the store behind the coordinator's back. -/
def onStore (e : Edge) (f : Nat → Store → Store) : Edge :=
  e.act fun now c => { c with shelf := c.shelf.onStore (f now) }

/-- One event. -/
def step (setup : Setup) (e : Edge) : Event → Edge
  | .call id k => e.act fun _ c => c.call id k
  | .poll id => e.act fun now c => c.poll setup now id
  | .cancel id => e.act fun _ c => c.cancel id
  | .depart f => e.act fun now c => c.depart now f
  | .land f how => e.act fun now c => c.land setup now f how
  | .elapse ms => { e with now := e.now + ms }
  | .reading script => e.act fun _ c => { c with shelf := { c.shelf with readings := script } }
  | .writing script => e.act fun _ c => { c with shelf := { c.shelf with writings := script } }
  | .put k entry => e.onStore fun now s => s.put now k entry
  | .get k => e.onStore fun now s => (s.get now k).2
  | .sweep => e.onStore fun now s => s.sweep now
  | .clear => e.onStore fun _ s => s.clear

/-- A run, event by event. -/
def run (setup : Setup) (e : Edge) (events : List Event) : Edge := events.foldl (step setup) e

end Edge

end EdgeCache
