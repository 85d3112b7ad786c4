import EdgeCache.Edge
import EdgeCache.Http.Server
import EdgeCache.Simulation.ScriptedOrigin

/-!
# The simulation

The whole cache around a scripted origin, under a clock that is moved by hand. Whatever can run runs
at once: first the callers that came, then the flights they dispatched, then what is due, and last
the callers whose flight has landed. Everything that happens to the cache is an event of its run.
-/

namespace EdgeCache.Simulation

/-- Where a flight is. -/
inductive Place where
  /-- It waits for a permit, and travels for so long after that. -/
  | atGate (delay : Option Nat)
  | underway (answerAt : Nat)
  deriving DecidableEq, Repr

/-- A flight on its way. -/
structure Journey where
  flight : FlightId
  place : Place
  expiresAt : Nat

/-- Who is woken by an alarm. -/
inductive Sleeper where
  | flight (id : FlightId)
  | sweeper (number : Nat)
  deriving DecidableEq, Repr

/-- A moment at which somebody is woken. -/
structure Alarm where
  due : Nat
  wakes : Sleeper

/-- A job that sweeps the store at a steady interval. -/
structure Sweeper where
  number : Nat
  interval : Nat

/-- How a caller wants its result. -/
inductive View where
  | entry
  | rendered
  | page (bodiless : Bool)

/-- What a task has to tell. -/
inductive Answer where
  | entry (entry : Entry)
  | rendered (response : Rendered)
  | page (page : Http.Page)
  | fault (fault : Fault)
  | invalidRequest
  | pending
  | cancelled

/-- A result as the caller wants it. -/
def View.show (r : Result) : View → Answer
  | .entry => match r with
    | .ok e => .entry e
    | .error f => .fault f
  | .rendered => match r with
    | .ok e => .rendered e.render
    | .error f => .fault f
  | .page bodiless => .page (.ofCall bodiless r)

/-- A task: answered without a call, or a caller. -/
inductive Task where
  | answered (answer : Answer)
  | calling (caller : Nat) (view : View)

end Simulation

/-- The state of a simulation. -/
structure Simulation where
  setup : Setup
  router : Http.Router
  /-- Whether the store is one that cannot be swept, and that never fails. -/
  plain : Bool
  edge : Edge
  origin : Simulation.ScriptedOrigin
  journeys : List Simulation.Journey
  /-- In the order in which they were set. -/
  alarms : List Simulation.Alarm
  sweepers : List Simulation.Sweeper
  /-- How many sweepers have been started. -/
  sweepersStarted : Nat
  /-- The sweeper that was started last and not stopped. -/
  sweeper : Option Nat
  tasks : List (String × Simulation.Task)
  /-- How many callers there have been. -/
  callers : Nat

namespace Simulation

/-- A simulation in which nothing has happened. -/
def start (setup : Setup) (router : Http.Router) (limits : Limits) (plain : Bool) : Simulation where
  setup
  router
  plain
  edge := .start limits
  origin := .silent
  journeys := []
  alarms := []
  sweepers := []
  sweepersStarted := 0
  sweeper := none
  tasks := []
  callers := 0

/-- The moment. -/
def now (s : Simulation) : Nat := s.edge.now

/-- The coordinator at this moment. -/
def coordinator (s : Simulation) : Coordinator := s.edge.coordinator

/-- The counters at this moment. -/
def snapshot (s : Simulation) : Snapshot := s.coordinator.snapshot

/-- An event happens to the cache. -/
def happen (s : Simulation) (e : Event) : Simulation := { s with edge := s.edge.step s.setup e }

/-- Sets an alarm. -/
def setAlarm (s : Simulation) (due : Nat) (wakes : Sleeper) : Simulation :=
  { s with alarms := s.alarms ++ [⟨due, wakes⟩] }

/-! ## Flights -/

/-- Where a flight is on its way. -/
def journey? (s : Simulation) (f : FlightId) : Option Journey := s.journeys.find? (·.flight == f)

/-- A flight ends. -/
def land (s : Simulation) (f : FlightId) (how : Landing) : Simulation :=
  let s := s.happen (.land f how)
  { s with journeys := s.journeys.filter (·.flight != f) }

/-- A flight has passed the gate. -/
def travel (s : Simulation) (f : FlightId) : Option Nat → Simulation
  | none => s.land f (s.origin.script f.key).landing
  | some delay =>
    let answerAt := s.now + delay
    let journeys := s.journeys.map fun j =>
      if j.flight = f then { j with place := .underway answerAt } else j
    setAlarm { s with journeys } answerAt (.flight f)

/-- Lets the flight that waits at the gate of a key pass, if there is a permit. -/
def openGate (s : Simulation) (key : String) : Simulation :=
  let waiting := s.journeys.findSome? fun j =>
    match j.place with
    | .atGate delay => if j.flight.key.text = key then some (j.flight, delay) else none
    | .underway _ => none
  match waiting, s.origin.permitsOf key with
  | some (f, delay), n + 1 => travel { s with origin := s.origin.setPermits key n } f delay
  | _, _ => s

/-- The first run of a flight. -/
def embark (s : Simulation) (f : FlightId) : Simulation :=
  let s := s.happen (.depart f)
  let script := s.origin.script f.key
  let expiresAt := s.now + s.setup.patience
  let s : Simulation := { s with journeys := s.journeys ++ [⟨f, .atGate script.delay, expiresAt⟩] }
  let s := if script.gated then s.openGate f.key.text else s.travel f script.delay
  if (s.journey? f).isSome then s.setAlarm expiresAt (.flight f) else s

/-- A flight looks at the clock. An answer that is due goes before the end of patience. -/
def wakeFlight (s : Simulation) (f : FlightId) : Simulation :=
  match s.journey? f with
  | none => s
  | some j =>
    let expire := if j.expiresAt ≤ s.now then s.land f .timedOut else s
    match j.place with
    | .atGate _ => expire
    | .underway answerAt =>
      if answerAt ≤ s.now then s.land f (s.origin.script f.key).landing else expire

/-! ## Sweepers -/

/-- One pass over the store, if it can be swept. -/
def sweepOnce (s : Simulation) : Simulation := if s.plain then s else s.happen .sweep

/-- A sweeper's interval is over. -/
def wakeSweeper (s : Simulation) (number : Nat) : Simulation :=
  match s.sweepers.find? (·.number == number) with
  | none => s
  | some w => s.sweepOnce.setAlarm (s.now + w.interval) (.sweeper number)

/-- Starts a sweeper. It sweeps for the first time when its interval, of at least a second, is
over. -/
def startSweeper (s : Simulation) (seconds : Nat) : Simulation :=
  let number := s.sweepersStarted
  let interval := 1000 * max 1 seconds
  let s := s.setAlarm (s.now + interval) (.sweeper number)
  { s with
    sweepers := s.sweepers ++ [⟨number, interval⟩]
    sweepersStarted := number + 1
    sweeper := some number }

/-- Stops the sweeper that was started last. -/
def stopSweeper (s : Simulation) : Simulation :=
  match s.sweeper with
  | none => s
  | some number =>
    { s with sweepers := s.sweepers.filter (·.number != number), sweeper := none }

/-! ## Running -/

/-- Wakes whoever an alarm is for. -/
def wake (s : Simulation) : Sleeper → Simulation
  | .flight f => s.wakeFlight f
  | .sweeper number => s.wakeSweeper number

/-- Whether an alarm is due. -/
def isDue (s : Simulation) (a : Alarm) : Bool := decide (a.due ≤ s.now)

/-- Rings every alarm that is due, in the order in which they were set. -/
def ring (s : Simulation) : Simulation :=
  (s.alarms.filter s.isDue).foldl (fun s a => s.wake a.wakes)
    { s with alarms := s.alarms.filter fun a => !s.isDue a }

/-- Runs every caller whose flight has landed. -/
def deliver (s : Simulation) : Simulation :=
  s.coordinator.callers.foldl (fun s c =>
    match c.stage with
    | .waiting _ => s.happen (.poll c.id)
    | _ => s) s

/-- Runs what is due and hands out what has landed. -/
def settle (s : Simulation) : Simulation := s.ring.deliver

/-- Runs new callers, then the flights they dispatched, then everything else that can run. -/
def launch (s : Simulation) (callers : List Nat) : Simulation :=
  let s := callers.foldl (fun s id => s.happen (.poll id)) s
  let fresh := s.coordinator.flights.filter (·.departed.isNone)
  (fresh.foldl (fun s f => s.embark f.id) s).settle

/-- Time passes, millisecond by millisecond, and everything due at each is run. -/
def advance (s : Simulation) : Nat → Simulation
  | 0 => s
  | n + 1 =>
    let s := s.happen (.elapse 1)
    (if s.alarms.any s.isDue then s.settle else s).advance n

/-! ## Tasks -/

/-- What somebody asks of the cache. -/
inductive Request where
  /-- The entry of a resource. -/
  | entry (path : String)
  /-- A resource as it is sent. -/
  | rendered (path : String)
  /-- The server's response to a request. -/
  | page (method target : String)

/-- What a request comes to: an answer at once, or a call for a key. -/
def demand (s : Simulation) : Request → Except Answer (Key × View)
  | .entry path => ((Key.ofPath path).mapError .fault).map (·, .entry)
  | .rendered path => ((Key.ofPath path).mapError .fault).map (·, .rendered)
  | .page method target =>
    match Http.Request.of? method target with
    | none => .error .invalidRequest
    | some q =>
      match Http.handle s.router s.snapshot q with
      | .reply page => .error (.page page)
      | .call key bodiless => .ok (key, .page bodiless)

/-- Adds a task for a request, which has not run yet. -/
def addTask (s : Simulation) (r : Request) : Task × Simulation :=
  match s.demand r with
  | .error a => (.answered a, s)
  | .ok (key, view) =>
    let id := s.callers
    (.calling id view, { s.happen (.call id key) with callers := id + 1 })

/-- What a task has to tell now. -/
def tell (s : Simulation) : Task → Answer
  | .answered a => a
  | .calling id view =>
    match (s.coordinator.caller? id).map Caller.stage with
    | some (.finished r) => view.show r
    | some .cancelled => .cancelled
    | _ => .pending

/-- Gives a task a name; a former task of that name is forgotten, but goes on. -/
def name (s : Simulation) (id : String) (t : Task) : Simulation :=
  { s with tasks := (id, t) :: s.tasks.filter (·.1 != id) }

/-- The callers among some tasks. -/
def callersOf (ts : List Task) : List Nat :=
  ts.filterMap fun
    | .answered _ => none
    | .calling id _ => some id

/-- Starts tasks in order and only then runs them; tells what they got. -/
def begin (s : Simulation) (requests : List (Option String × Request)) : List Answer × Simulation :=
  let (tasks, s) := requests.foldl (fun (ts, s) (id, r) =>
    let (t, s) := addTask s r
    (ts ++ [t], match id with
      | some id => s.name id t
      | none => s)) ([], s)
  let s := s.launch (callersOf tasks)
  (tasks.map s.tell, s)

/-- What the task of a name has to tell. -/
def poll (s : Simulation) (id : String) : Answer :=
  match s.tasks.lookup id with
  | some t => s.tell t
  | none => .pending

/-- Abandons the task of a name, if it has not finished. -/
def cancel (s : Simulation) (id : String) : Simulation :=
  match s.tasks.lookup id with
  | some (.calling caller _) => s.happen (.cancel caller)
  | _ => s

/-- Adds permits to the gate of a key and lets everything run. -/
def release (s : Simulation) (key : String) (n : Nat) : Simulation :=
  (openGate { s with origin := s.origin.setPermits key (s.origin.permitsOf key + n) } key).settle

/-- How often each key was fetched, for the keys that were. -/
def calls (s : Simulation) : List (Key × Nat) :=
  s.coordinator.asked.eraseDups.map fun k => (k, s.coordinator.fetches k)

/-- The store's next lookups and puts behave as told; a plain store always behaves well. -/
def script (s : Simulation) (e : Event) : Simulation := if s.plain then s else s.happen e

end Simulation

end EdgeCache
