import EdgeCache.Origin.Reaction
import EdgeCache.Shelf
import EdgeCache.Tally

/-!
# The coordinator

Answers callers from the store and fetches what is missing, one fetch for a key at a time. The first
caller of a key that is not in the store sends a flight to the origin and registers it; later callers
wait for the same flight. What lands is put into the store before anybody gets it.

Every function here is one step that nothing interrupts: a caller or a flight running as far as it
can without waiting.
-/

namespace EdgeCache

/-- Names a flight: the key it fetches, and how many flights of that key there were before. -/
structure FlightId where
  key : Key
  turn : Nat
  deriving DecidableEq, Repr

/-- A fetch that has been dispatched and has not ended. -/
structure Flight where
  id : FlightId
  /-- When it was registered. -/
  since : Nat
  /-- When it first ran, which is when the origin was asked and patience began to run out. -/
  departed : Option Nat
  deriving DecidableEq, Repr

/-- What a caller gets. -/
abbrev Result := Except Fault Entry

/-- What a flight leaves for its callers; nothing if it broke off. -/
abbrev Outcome := Option Result

/-- How a flight ends. -/
inductive Landing where
  /-- The origin's answer, failures included. -/
  | arrived (entry : Entry)
  /-- A fault that must not be kept. -/
  | refused (fault : Fault)
  /-- The fetch broke off without a result. -/
  | crashed
  /-- The origin did not answer in time. -/
  | timedOut
  deriving DecidableEq

/-- How far a caller is. -/
inductive Stage where
  /-- It has not run yet. -/
  | idle
  | waiting (flight : FlightId)
  | finished (result : Result)
  | cancelled

/-- Whether a caller has not come to its end. -/
def Stage.isOpen : Stage → Bool
  | idle => true
  | waiting _ => true
  | finished _ => false
  | cancelled => false

/-- One call for the entry of a key. -/
structure Caller where
  id : Nat
  key : Key
  stage : Stage

/-- What a coordinator is set up with. -/
structure Setup where
  /-- Whether a key has an address at the origin. -/
  accepts : Key → Except Fault Unit
  /-- How long a flight may take, in milliseconds. -/
  patience : Nat

/-- The state of the coordinator. -/
structure Coordinator where
  shelf : Shelf
  /-- The flight that callers of a key wait for. -/
  registry : List (Key × FlightId)
  /-- The flights that have not ended, in the order of their dispatch. -/
  flights : List Flight
  /-- The flights that have ended, with what they left. -/
  landed : List (FlightId × Outcome)
  callers : List Caller
  /-- The keys that the origin was asked for, first to last. -/
  asked : List Key
  tally : Tally

namespace Coordinator

/-- A coordinator that nobody has called. -/
def start (shelf : Shelf) : Coordinator := ⟨shelf, [], [], [], [], [], .zero⟩

/-- The number of keys with a flight under way. -/
def inFlight (c : Coordinator) : Nat := c.registry.length

/-- The counters now. -/
def snapshot (c : Coordinator) : Snapshot := ⟨c.shelf.store.size, c.inFlight, c.tally⟩

/-- The caller of a number. -/
def caller? (c : Coordinator) (id : Nat) : Option Caller := c.callers.find? (·.id == id)

/-- The flight of a name, if it has not ended. -/
def flight? (c : Coordinator) (f : FlightId) : Option Flight := c.flights.find? (·.id == f)

/-- What a flight has left; nothing before it has ended. -/
def outcome? (c : Coordinator) (f : FlightId) : Option Outcome := c.landed.lookup f

/-- How many flights of a key have been dispatched. -/
def turns (c : Coordinator) (k : Key) : Nat :=
  c.flights.countP (·.id.key == k) + c.landed.countP (·.1.key == k)

/-- How often the origin was asked for a key. -/
def fetches (c : Coordinator) (k : Key) : Nat := c.asked.count k

/-- Changes the counters. -/
def count (c : Coordinator) (f : Tally → Tally) : Coordinator := { c with tally := f c.tally }

/-- Moves a caller on. -/
def setStage (c : Coordinator) (id : Nat) (stage : Stage) : Coordinator :=
  { c with callers := c.callers.map fun x => if x.id = id then { x with stage } else x }

/-- Gives a caller its result; a fault counts as an error. -/
def finish (c : Coordinator) (id : Nat) (r : Result) : Coordinator :=
  let c := c.setStage id (.finished r)
  match r with
  | .ok _ => c
  | .error _ => c.count fun t => { t with errors := t.errors + 1 }

/-- Adds a caller. A number that is taken stays with the caller that has it. -/
def call (c : Coordinator) (id : Nat) (k : Key) : Coordinator :=
  if (c.caller? id).isSome then c else { c with callers := c.callers ++ [⟨id, k, .idle⟩] }

/-- One lookup; an entry that is found counts as a hit. -/
def lookup (now : Nat) (k : Key) (c : Coordinator) : Except Fault (Option Entry) × Coordinator :=
  let (found, shelf) := c.shelf.get now k
  let c := { c with shelf }
  match found with
  | .ok (some e) => (.ok (some e), c.count fun t => { t with hits := t.hits + 1 })
  | found => (found, c)

/-- Dispatches a flight for a key and registers it. -/
def dispatch (now : Nat) (k : Key) (c : Coordinator) : FlightId × Coordinator :=
  let f : FlightId := ⟨k, c.turns k⟩
  let c := c.count fun t => { t with misses := t.misses + 1 }
  (f, { c with
    registry := c.registry ++ [(k, f)]
    flights := c.flights ++ [⟨f, now, none⟩] })

/-- What the first run of a call comes to. -/
inductive Progress where
  | done (result : Result)
  | joined (flight : FlightId)

/-- The first run of a call: the store is looked up, then the registry, and before a flight is
dispatched the store once more, since the flight of another caller may have landed in between. -/
def resolve (setup : Setup) (now : Nat) (k : Key) (c : Coordinator) : Progress × Coordinator :=
  match setup.accepts k with
  | .error fault => (.done (.error fault), c)
  | .ok () =>
    match c.lookup now k with
    | (.error fault, c) => (.done (.error fault), c)
    | (.ok (some e), c) => (.done (.ok e), c)
    | (.ok none, c) =>
      match c.registry.lookup k with
      | some f => (.joined f, c.count fun t => { t with coalesced := t.coalesced + 1 })
      | none =>
        match c.lookup now k with
        | (.error fault, c) => (.done (.error fault), c)
        | (.ok (some e), c) => (.done (.ok e), c)
        | (.ok none, c) =>
          let (f, c) := c.dispatch now k
          (.joined f, c)

/-- What an outcome means to a caller: a flight that broke off is a fault of its own. -/
def resultOf (k : Key) : Outcome → Result
  | some r => r
  | none => .error (.fetchAborted s!"fetch for '{k.text}' ended without a result")

/-- Runs a caller as far as it gets. -/
def poll (setup : Setup) (now : Nat) (id : Nat) (c : Coordinator) : Coordinator :=
  match c.caller? id with
  | none => c
  | some caller =>
    match caller.stage with
    | .idle =>
      match c.resolve setup now caller.key with
      | (.done r, c) => c.finish id r
      | (.joined f, c) => c.setStage id (.waiting f)
    | .waiting f =>
      match c.outcome? f with
      | some o => c.finish id (resultOf caller.key o)
      | none => c
    | .finished _ => c
    | .cancelled => c

/-- Abandons a call that has not finished. The flight it waits for goes on. -/
def cancel (id : Nat) (c : Coordinator) : Coordinator :=
  match c.caller? id with
  | none => c
  | some caller =>
    match caller.stage with
    | .idle => c.setStage id .cancelled
    | .waiting _ => c.setStage id .cancelled
    | .finished _ => c
    | .cancelled => c

/-- The first run of a flight: the origin is asked. -/
def depart (now : Nat) (f : FlightId) (c : Coordinator) : Coordinator :=
  match c.flight? f with
  | some ⟨_, _, none⟩ =>
    { c with
      flights := c.flights.map fun x => if x.id = f then { x with departed := some now } else x
      asked := c.asked ++ [f.key] }
  | _ => c

/-- Puts an entry that has arrived into the store. Failures are counted before the put. -/
def keep (now : Nat) (k : Key) (e : Entry) (c : Coordinator) : Result × Coordinator :=
  let c :=
    if e.isNegative then c.count fun t => { t with negativeStored := t.negativeStored + 1 } else c
  let (written, shelf) := c.shelf.put now k e
  (written.map fun () => e, { c with shelf })

/-- What an ending leaves for the callers. -/
def settle (now : Nat) (k : Key) (how : Landing) (c : Coordinator) : Outcome × Coordinator :=
  match how with
  | .crashed => (none, c)
  | .refused fault => (some (.error fault), c)
  | .arrived e =>
    let (r, c) := c.keep now k e
    (some r, c)
  | .timedOut =>
    let (r, c) := c.keep now k (.failure Reaction.timeoutStatus)
    (some r, c)

/-- Whether a flight can end so. The origin's answer needs the question, and patience has to be over
for a time-out. -/
def canLand (setup : Setup) (now : Nat) (how : Landing) (flight : Flight) : Bool :=
  match flight.departed, how with
  | none, _ => false
  | some t, .timedOut => decide (t + setup.patience ≤ now)
  | some _, _ => true

/-- Takes an ended flight out of the registry, its own record only, and leaves what it brought. -/
def close (f : FlightId) (o : Outcome) (c : Coordinator) : Coordinator :=
  { c with
    registry := c.registry.filter fun r => r.2 != f
    flights := c.flights.filter fun x => x.id != f
    landed := c.landed ++ [(f, o)] }

/-- The end of a flight. -/
def land (setup : Setup) (now : Nat) (f : FlightId) (how : Landing) (c : Coordinator) :
    Coordinator :=
  match c.flight? f with
  | none => c
  | some flight =>
    if canLand setup now how flight then
      let (o, c) := c.settle now f.key how
      c.close f o
    else c

/-! ## Housekeeping -/

/-- Whether anything goes on for a key. -/
def isBusy (c : Coordinator) (k : Key) : Bool :=
  c.callers.any (fun x => x.key == k && x.stage.isOpen) || c.flights.any (·.id.key == k)

/-- Forgets calls that have come to their end, and the flights of keys for which nothing goes on. -/
def tidy (c : Coordinator) : Coordinator :=
  { c with
    callers := c.callers.filter (·.stage.isOpen)
    landed := c.landed.filter fun l => c.isBusy l.1.key
    asked := [] }

end Coordinator

end EdgeCache
