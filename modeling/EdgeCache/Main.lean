import EdgeCache.Edge
import EdgeCache.Http.Wire
import EdgeCache.Origin.Wire
import EdgeCache.Startup
import Std.Async.DNS
import Std.Async.Signal
import Std.Async.TCP
import Std.Async.Timer
import Std.Sync.Mutex

/-!
# The program

Reads the command line and the settings, listens, and serves until it is interrupted. What happens
to the cache is decided elsewhere: here events are passed on one at a time, as they happen.
-/

open Std.Async

namespace EdgeCache.Program

/-- The cache at work. -/
structure State where
  edge : Edge
  /-- How many callers there have been. -/
  callers : Nat
  /-- What is resolved when a flight lands. -/
  landings : List (FlightId × IO.Promise Unit)

/-- A service at work. -/
structure Service where
  plan : Plan
  state : Std.Mutex State

namespace Service

/-- What the coordinator is set up with. -/
def setup (s : Service) : Setup := s.plan.settings.setup s.plan.origin

/-- The start of a service. -/
def start (plan : Plan) : IO Service := do
  return ⟨plan, ← Std.Mutex.new ⟨.start plan.settings.limits, 0, []⟩⟩

/-- Something happens now. -/
def happen (s : Service) (e : Event) : Std.AtomicT State Async Unit := do
  let t ← IO.monoMsNow
  modify fun st =>
    { st with edge := (st.edge.step s.setup (.elapse (t - st.edge.now))).step s.setup e }

/-- How far a caller is. -/
def stage? (id : Nat) : Std.AtomicT State Async (Option Stage) := do
  return ((← get).edge.coordinator.caller? id).map Caller.stage

/-! ## The origin -/

/-- The addresses of a host. -/
def addresses : Url.Host → Async (Array Std.Net.IPAddr)
  | .domain name => DNS.getAddrInfo (String.ofList name) ""
  | .ipv4 v =>
    let byte (i : Nat) : UInt8 := (v / Nat.pow 256 i).toUInt8
    return #[.v4 (.ofParts (byte 3) (byte 2) (byte 1) (byte 0))]
  | .ipv6 ps =>
    let piece (i : Nat) : UInt16 := (ps.getD i 0).toUInt16
    return #[.v6 (.ofParts (piece 0) (piece 1) (piece 2) (piece 3) (piece 4) (piece 5) (piece 6)
      (piece 7))]

/-- An address with a port. -/
def endpoint (port : UInt16) : Std.Net.IPAddr → Std.Net.SocketAddress
  | .v4 a => .v4 ⟨a, port⟩
  | .v6 a => .v6 ⟨a, port⟩

/-- Receives until the origin's reaction is known. -/
partial def receive (client : TCP.Socket.Client) (received : ByteArray) : Async Reaction := do
  match ← client.recv? 65536 with
  | some bytes =>
    match Reaction.ofBytes? (received ++ bytes) false with
    | some reaction => return reaction
    | none => receive client (received ++ bytes)
  | none => return (Reaction.ofBytes? received true).getD .broken

/-- Asks the origin for a URL. Only plain connections can be made. -/
def ask (o : Origin) (u : Url) : Async Reaction := do
  match u.authority with
  | none => return .broken
  | some a =>
    if u.scheme ≠ "http".toList then return .broken
    match (← addresses a.host)[0]? with
    | none => return .broken
    | some ip =>
      let client ← TCP.Socket.Client.mk
      client.connect (endpoint (a.port.getD 80).toUInt16 ip)
      client.send (o.request u)
      receive client ByteArray.empty

/-- How a fetch ends that has all the time it wants. -/
def fetch (s : Service) : Key → Async Landing :=
  s.plan.origin.fetch fun u => do
    try ask s.plan.origin u
    catch _ => return .broken

/-- Waits for some milliseconds. -/
def pause (ms : Nat) : Async Unit := sleep (.ofNat ms)

/-- What is left when patience is over. -/
def expire (s : Service) : Async (Option Landing) := do
  pause (s.setup.patience + 1)
  return some .timedOut

/-- A flight, from its question to its end. -/
def fly (s : Service) (f : FlightId) : Async Unit := do
  let how ← Async.race (some <$> s.fetch f.key) s.expire
  let landing? ← s.state.atomically do
    s.happen (.land f (how.getD .crashed))
    let st ← get
    set { st with landings := st.landings.filter (·.1 != f) }
    return st.landings.lookup f
  if let some landing := landing? then landing.resolve ()

/-! ## Callers -/

/-- A new caller runs as far as it gets: the flight it waits for, and whether it is the first to. -/
def board (s : Service) (id : Nat) : Std.AtomicT State Async (Option (FlightId × Bool)) := do
  s.happen (.poll id)
  match ← stage? id with
  | some (.waiting f) =>
    if ((← get).landings.lookup f).isSome then return some (f, false)
    let landing ← IO.Promise.new
    modify fun st => { st with landings := (f, landing) :: st.landings }
    s.happen (.depart f)
    return some (f, true)
  | _ => return none

/-- Waits until a flight has landed. -/
def await (s : Service) (f : FlightId) : Async Unit := do
  let landing? ← s.state.atomically do return (← get).landings.lookup f
  if let some landing := landing? then Std.Async.await landing

/-- What a caller of a key gets. -/
def resolve (s : Service) (k : Key) : Async Result := do
  let (id, boarded?) ← s.state.atomically do
    let id := (← get).callers
    modify fun st => { st with callers := id + 1 }
    s.happen (.call id k)
    return (id, ← s.board id)
  if let some (f, isFirst) := boarded? then
    if isFirst then background (s.fly f)
    s.await f
  s.state.atomically do
    s.happen (.poll id)
    let stage? ← stage? id
    modify fun st =>
      { st with edge := { st.edge with coordinator := st.edge.coordinator.tidy } }
    match stage? with
    | some (.finished r) => return r
    | _ => return Coordinator.resultOf k none

/-! ## Clients -/

/-- Receives until the request of a client is known. -/
partial def listen (client : TCP.Socket.Client) (received : ByteArray) :
    Async (Option Http.Request) := do
  match ← client.recv? 65536 with
  | some bytes =>
    match Http.Request.ofBytes? (received ++ bytes) with
    | some request? => return request?
    | none => listen client (received ++ bytes)
  | none => return none

/-- Serves one request. -/
def serve (s : Service) (client : TCP.Socket.Client) : Async Unit := do
  let bytes ← match ← listen client ByteArray.empty with
    | none => pure ((Http.Page.blank 400).bytes false)
    | some q => do
      let snapshot ← s.state.atomically do return (← get).edge.coordinator.snapshot
      match Http.handle s.plan.router snapshot q with
      | .reply page => pure (page.bytes false)
      | .call k bodiless => pure ((Http.Page.ofCall bodiless (← s.resolve k)).bytes bodiless)
  client.send bytes
  client.shutdown

/-- Serves every client that comes. -/
partial def serveAll (s : Service) (server : TCP.Socket.Server) : Async Unit := do
  let client ← server.accept
  background (s.serve client)
  s.serveAll server

/-- Sweeps the store at its interval. -/
partial def sweepAll (s : Service) : Async Unit := do
  pause (1000 * s.plan.settings.cache.sweepIntervalSecs)
  s.state.atomically do s.happen .sweep
  s.sweepAll

/-- Serves until the program is interrupted. -/
def run (s : Service) : IO Unit := Async.block do
  let server ← TCP.Socket.Server.mk
  let address : Std.Net.SocketAddress := match s.plan.address with
    | .ipv4 bytes port =>
      let byte (i : Nat) : UInt8 := (bytes.getD i 0).toUInt8
      .v4 ⟨.ofParts (byte 0) (byte 1) (byte 2) (byte 3), port⟩
    | .ipv6 ps port =>
      let piece (i : Nat) : UInt16 := (ps.getD i 0).toUInt16
      .v6 ⟨.ofParts (piece 0) (piece 1) (piece 2) (piece 3) (piece 4) (piece 5) (piece 6)
        (piece 7), port⟩
  server.bind address
  server.listen 1024
  background s.sweepAll
  background (s.serveAll server)
  let interrupt ← Signal.Waiter.mk .sigint false
  discard (Std.Async.await (← interrupt.wait))

end Service

/-- The number of a system's error, however it is signed, and what the system says. -/
def cause? : IO.Error → Option (Nat × String)
  | .noFileOrDirectory _ code text => some (number code, text)
  | .inappropriateType _ code text => some (number code, text)
  | .invalidArgument _ code text => some (number code, text)
  | .permissionDenied _ code text => some (number code, text)
  | .unsupportedOperation code text => some (number code, text)
  | .resourceBusy code text => some (number code, text)
  | .otherError code text => some (number code, text)
  | _ => none
where
  /-- The number without its sign. -/
  number (code : UInt32) : Nat := if code < 2147483648 then code.toNat else (0 - code).toNat

/-- What an error comes to in words. -/
def reasonOf (e : IO.Error) : String :=
  match cause? e with
  | some (n, text) => if n = 99 then Startup.foreignAddress else s!"{text} (os error {n})"
  | none => toString e

/-- Why a file cannot be read. -/
def faultOf (e : IO.Error) : FileFault :=
  ((cause? e).bind fun c => FileFault.ofNumber? c.1).getD (.system (reasonOf e))

/-- Reads the file with the settings, if the command line names one. -/
def readSettings (words : List String) : IO (Except FileFault ByteArray) := do
  match Options.ofWords words with
  | .ok ⟨some path, _⟩ =>
    try return .ok (← IO.FS.readBinFile path)
    catch e => return .error (faultOf e)
  | _ => return .error .missing

end EdgeCache.Program

open EdgeCache EdgeCache.Program in
/-- The program. -/
def main (words : List String) : IO UInt32 := do
  let content ← readSettings words
  let startup := Startup.ofWords (fun _ => content) words
  match startup with
  | .help => IO.println Options.usage
  | .usage => IO.eprintln Options.usage
  | .version => IO.println Startup.versionLine
  | .failed reason => IO.eprintln (Startup.failureLine reason)
  | .broken => IO.eprintln "The route prefix cannot be registered"
  | .ready plan =>
    try (← Service.start plan).run
    catch e =>
      IO.eprintln (Startup.failureLine (reasonOf e))
      return 1
  return startup.exitCode.toUInt32
