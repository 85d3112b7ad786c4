import EdgeCache.Edge
import Mathlib.Tactic.Lemma

/-!
# Inversion of events

What one event can do to a coordinator. `Resolves` lists the ways in which the first run of a call
can go, and `Shift` the ways in which an event can change the coordinator; every later argument is a
case analysis of one of the two. Most of it concerns the flights only: `Traffic` is what `Shift` says
about them, with everything that leaves them alone in one case.
-/

namespace EdgeCache

/-- The entry that an ending brings, if it brings one. -/
def Landing.entry? : Landing → Option Entry
  | .arrived e => some e
  | .refused _ => none
  | .crashed => none
  | .timedOut => some (.failure 504)

/-- The shelf after an ending: what it brings has been put there. -/
def Landing.shelve (now : Nat) (k : Key) (how : Landing) (s : Shelf) : Shelf :=
  match how.entry? with
  | some e => (s.put now k e).2
  | none => s

namespace Coordinator

variable {setup : Setup} {now : Nat} {c c' c'' : Coordinator} {k : Key}

/-! ## The first run of a call -/

/-- A lookup that the store fails leaves the counters alone. -/
lemma lookup_error {fault s} (h : c.shelf.get now k = (.error fault, s)) :
    c.lookup now k = (.error fault, { c with shelf := s }) := by
  simp only [lookup, h]

/-- A lookup that finds nothing leaves the counters alone. -/
lemma lookup_none {s} (h : c.shelf.get now k = (.ok none, s)) :
    c.lookup now k = (.ok none, { c with shelf := s }) := by
  simp only [lookup, h]

/-- A lookup that finds an entry counts one hit. -/
lemma lookup_some {e s} (h : c.shelf.get now k = (.ok (some e), s)) :
    c.lookup now k =
      (.ok (some e), { c with shelf := s, tally := { c.tally with hits := c.tally.hits + 1 } }) := by
  simp only [lookup, h, count]

/-- The coordinator once a flight for a key has been dispatched over a shelf. -/
def dispatched (now : Nat) (k : Key) (s : Shelf) (c : Coordinator) : Coordinator :=
  { c with
    shelf := s
    registry := c.registry ++ [(k, ⟨k, c.turns k⟩)]
    flights := c.flights ++ [⟨⟨k, c.turns k⟩, now, none⟩]
    tally := { c.tally with misses := c.tally.misses + 1 } }

/-- The ways in which the first run of a call can go. -/
inductive Resolves (setup : Setup) (now : Nat) (k : Key) (c : Coordinator) :
    Progress → Coordinator → Prop where
  | refused {fault} :
    setup.accepts k = .error fault →
    Resolves setup now k c (.done (.error fault)) c
  | failed {fault s} :
    setup.accepts k = .ok () →
    c.shelf.get now k = (.error fault, s) →
    Resolves setup now k c (.done (.error fault)) { c with shelf := s }
  | hit {e s} :
    setup.accepts k = .ok () →
    c.shelf.get now k = (.ok (some e), s) →
    Resolves setup now k c (.done (.ok e))
      { c with shelf := s, tally := { c.tally with hits := c.tally.hits + 1 } }
  | joined {f s} :
    setup.accepts k = .ok () →
    c.shelf.get now k = (.ok none, s) →
    c.registry.lookup k = some f →
    Resolves setup now k c (.joined f)
      { c with shelf := s, tally := { c.tally with coalesced := c.tally.coalesced + 1 } }
  | failedAgain {fault s s'} :
    setup.accepts k = .ok () →
    c.shelf.get now k = (.ok none, s) →
    c.registry.lookup k = none →
    s.get now k = (.error fault, s') →
    Resolves setup now k c (.done (.error fault)) { c with shelf := s' }
  | hitAgain {e s s'} :
    setup.accepts k = .ok () →
    c.shelf.get now k = (.ok none, s) →
    c.registry.lookup k = none →
    s.get now k = (.ok (some e), s') →
    Resolves setup now k c (.done (.ok e))
      { c with shelf := s', tally := { c.tally with hits := c.tally.hits + 1 } }
  | dispatched {s s'} :
    setup.accepts k = .ok () →
    c.shelf.get now k = (.ok none, s) →
    c.registry.lookup k = none →
    s.get now k = (.ok none, s') →
    Resolves setup now k c (.joined ⟨k, c.turns k⟩) (c.dispatched now k s')

/-- Every first run of a call goes in one of these ways. -/
theorem resolve_resolves (setup : Setup) (now : Nat) (k : Key) (c : Coordinator) :
    Resolves setup now k c (c.resolve setup now k).1 (c.resolve setup now k).2 := by
  cases ok : setup.accepts k with
  | error fault =>
    simp only [resolve, ok]
    exact .refused ok
  | ok =>
    rcases g : c.shelf.get now k with ⟨found, s⟩
    cases found with
    | error fault =>
      simp only [resolve, ok, lookup_error g]
      exact .failed ok g
    | ok found =>
      cases found with
      | some e =>
        simp only [resolve, ok, lookup_some g]
        exact .hit ok g
      | none =>
        cases reg : c.registry.lookup k with
        | some f =>
          simp only [resolve, ok, lookup_none g, reg]
          exact .joined ok g reg
        | none =>
          rcases g' : s.get now k with ⟨again, s'⟩
          have g'' : ({ c with shelf := s } : Coordinator).shelf.get now k = (again, s') := g'
          cases again with
          | error fault =>
            simp only [resolve, ok, lookup_none g, reg, lookup_error g'']
            exact .failedAgain ok g reg g'
          | ok again =>
            cases again with
            | some e =>
              simp only [resolve, ok, lookup_none g, reg, lookup_some g'']
              exact .hitAgain ok g reg g'
            | none =>
              simp only [resolve, ok, lookup_none g, reg, lookup_none g'']
              exact .dispatched ok g reg g'

/-- The first run of a call goes in one of these ways. -/
lemma resolve_inv {p} (e : c.resolve setup now k = (p, c')) : Resolves setup now k c p c' := by
  have res := resolve_resolves setup now k c
  rw [e] at res
  exact res

/-- A first run goes in only one of these ways. -/
lemma Resolves.resolve_eq {p} (res : Resolves setup now k c p c') :
    c.resolve setup now k = (p, c') := by
  have again {s found} (g' : s.get now k = found) :
      ({ c with shelf := s } : Coordinator).shelf.get now k = found := g'
  cases res with
  | refused no => simp only [resolve, no]
  | failed ok g => simp only [resolve, ok, lookup_error g]
  | hit ok g => simp only [resolve, ok, lookup_some g]
  | joined ok g reg => simp only [resolve, ok, lookup_none g, reg, count]
  | failedAgain ok g reg g' => simp only [resolve, ok, lookup_none g, reg, lookup_error (again g')]
  | hitAgain ok g reg g' => simp only [resolve, ok, lookup_none g, reg, lookup_some (again g')]
  | dispatched ok g reg g' =>
    simp only [resolve, ok, lookup_none g, reg, lookup_none (again g')]
    rfl

/-! ## Events -/

/-- The coordinator once a flight has asked the origin. -/
def departing (now : Nat) (f : FlightId) (c : Coordinator) : Coordinator :=
  { c with
    flights := c.flights.map fun x => if x.id = f then { x with departed := some now } else x
    asked := c.asked ++ [f.key] }

/-- The coordinator once a flight has ended. -/
def landing (now : Nat) (f : FlightId) (how : Landing) (c : Coordinator) : Coordinator :=
  (c.settle now f.key how).2.close f (c.settle now f.key how).1

/-- What is done to the shelf past the coordinator. -/
inductive Handled (now : Nat) (s : Shelf) : Event → Shelf → Prop where
  | reading {script} :
    Handled now s (.reading script) { s with readings := script }
  | writing {script} :
    Handled now s (.writing script) { s with writings := script }
  | put {k : Key} {e : Entry} :
    Handled now s (.put k e) (s.onStore (Store.put now k e))
  | get {k : Key} :
    Handled now s (.get k) (s.onStore fun s => (s.get now k).2)
  | sweep :
    Handled now s .sweep (s.onStore (Store.sweep now))
  | clear :
    Handled now s .clear (s.onStore Store.clear)

/-- The ways in which an event can change a coordinator. -/
inductive Shift (setup : Setup) (now : Nat) (c : Coordinator) : Event → Coordinator → Prop where
  | still {ev} :
    Shift setup now c ev c
  | shelved {ev s} :
    Handled now c.shelf ev s →
    Shift setup now c ev { c with shelf := s }
  | called {id : Nat} {k : Key} :
    c.caller? id = none →
    Shift setup now c (.call id k) { c with callers := c.callers ++ [⟨id, k, .idle⟩] }
  | answered {id x r c'} :
    c.caller? id = some x →
    x.stage = .idle →
    c.resolve setup now x.key = (.done r, c') →
    Shift setup now c (.poll id) (c'.finish id r)
  | attached {id x f c'} :
    c.caller? id = some x →
    x.stage = .idle →
    c.resolve setup now x.key = (.joined f, c') →
    Shift setup now c (.poll id) (c'.setStage id (.waiting f))
  | received {id x f o} :
    c.caller? id = some x →
    x.stage = .waiting f →
    c.outcome? f = some o →
    Shift setup now c (.poll id) (c.finish id (resultOf x.key o))
  | abandoned {id x} :
    c.caller? id = some x →
    x.stage.isOpen = true →
    Shift setup now c (.cancel id) (c.setStage id .cancelled)
  | departed {f x} :
    c.flight? f = some x →
    x.departed = none →
    Shift setup now c (.depart f) (c.departing now f)
  | landed {f how x} :
    c.flight? f = some x →
    canLand setup now how x = true →
    Shift setup now c (.land f how) (c.landing now f how)

/-- A caller whose first run comes to an answer is finished with it. -/
lemma poll_answered {id x r} (h : c.caller? id = some x) (idle : x.stage = .idle)
    (res : c.resolve setup now x.key = (.done r, c')) : c.poll setup now id = c'.finish id r := by
  simp only [poll, h, idle, res]

/-- A caller whose first run comes to a flight waits for it. -/
lemma poll_attached {id x f} (h : c.caller? id = some x) (idle : x.stage = .idle)
    (res : c.resolve setup now x.key = (.joined f, c')) :
    c.poll setup now id = c'.setStage id (.waiting f) := by
  simp only [poll, h, idle, res]

/-- A caller that waits is finished with what its flight has left. -/
lemma poll_received {id x f o} (h : c.caller? id = some x) (waiting : x.stage = .waiting f)
    (left : c.outcome? f = some o) :
    c.poll setup now id = c.finish id (resultOf x.key o) := by
  simp only [poll, h, waiting, left]

/-- A caller that runs is answered, attached, given what it waits for, or left as it is. -/
lemma poll_shift {id} : Shift setup now c (.poll id) (c.poll setup now id) := by
  cases h : c.caller? id with
  | none =>
    simp only [poll, h]
    exact .still
  | some x =>
    cases st : x.stage with
    | idle =>
      rcases e : c.resolve setup now x.key with ⟨r | f, c'⟩
      · rw [poll_answered h st e]
        exact .answered h st e
      · rw [poll_attached h st e]
        exact .attached h st e
    | waiting f =>
      cases left : c.outcome? f with
      | none =>
        simp only [poll, h, st, left]
        exact .still
      | some o =>
        rw [poll_received h st left]
        exact .received h st left
    | finished r =>
      simp only [poll, h, st]
      exact .still
    | cancelled =>
      simp only [poll, h, st]
      exact .still

/-- A call that is abandoned was open, or it stays as it is. -/
lemma cancel_shift {id} : Shift setup now c (.cancel id) (c.cancel id) := by
  cases h : c.caller? id with
  | none =>
    simp only [cancel, h]
    exact .still
  | some x =>
    cases st : x.stage with
    | idle =>
      simp only [cancel, h, st]
      exact .abandoned h (by rw [st]; rfl)
    | waiting f =>
      simp only [cancel, h, st]
      exact .abandoned h (by rw [st]; rfl)
    | finished r =>
      simp only [cancel, h, st]
      exact .still
    | cancelled =>
      simp only [cancel, h, st]
      exact .still

/-- A flight that has not asked the origin does so. -/
lemma depart_eq {f x} (h : c.flight? f = some x) (d : x.departed = none) :
    c.depart now f = c.departing now f := by
  cases x
  cases d
  simp only [depart, h, departing]

/-- A flight asks the origin once. -/
lemma depart_shift {f} : Shift setup now c (.depart f) (c.depart now f) := by
  cases h : c.flight? f with
  | none =>
    simp only [depart, h]
    exact .still
  | some x =>
    cases d : x.departed with
    | none =>
      rw [depart_eq h d]
      exact .departed h d
    | some t =>
      cases x
      cases d
      simp only [depart, h]
      exact .still

/-- Only a flight that has asked the origin can end. -/
lemma departed_of_canLand {how x} (can : canLand setup now how x = true) :
    x.departed.isSome = true := by
  cases d : x.departed with
  | none => simp [canLand, d] at can
  | some t => rfl

/-- The origin's answer ends a flight that has asked. -/
lemma canLand_arrived {entry x} (asked : x.departed.isSome = true) :
    canLand setup now (.arrived entry) x = true := by
  obtain ⟨t, d⟩ := Option.isSome_iff_exists.1 asked
  simp only [canLand, d]

lemma canLand_timedOut_iff {x t} (d : x.departed = some t) :
    canLand setup now .timedOut x = true ↔ t + setup.patience ≤ now := by
  simp only [canLand, d, decide_eq_true_eq]

/-- A flight that can land lands. -/
lemma land_eq {f how x} (h : c.flight? f = some x) (can : canLand setup now how x = true) :
    c.land setup now f how = c.landing now f how := by
  simp only [land, h, can, if_true, landing]

/-- A flight that has not asked the origin, or is not there, does not land. -/
lemma land_shift {f how} : Shift setup now c (.land f how) (c.land setup now f how) := by
  cases h : c.flight? f with
  | none =>
    simp only [land, h]
    exact .still
  | some x =>
    cases can : canLand setup now how x with
    | false =>
      simp only [land, h, can]
      exact .still
    | true =>
      rw [land_eq h can]
      exact .landed h can

/-- Every event changes the coordinator in one of these ways. -/
theorem step_shift (setup : Setup) (e : Edge) (ev : Event) :
    Shift setup e.now e.coordinator ev (e.step setup ev).coordinator := by
  cases ev with
  | call id k =>
    cases h : e.coordinator.caller? id with
    | none =>
      simp only [Edge.step, Edge.act, call, h, Option.isSome_none]
      exact .called h
    | some x =>
      simp only [Edge.step, Edge.act, call, h, Option.isSome_some, if_true]
      exact .still
  | poll id => exact poll_shift
  | cancel id => exact cancel_shift
  | depart f => exact depart_shift
  | land f how => exact land_shift
  | elapse ms => exact .still
  | reading script => exact .shelved .reading
  | writing script => exact .shelved .writing
  | put k e => exact .shelved .put
  | get k => exact .shelved .get
  | sweep => exact .shelved .sweep
  | clear => exact .shelved .clear

/-! ## Flights -/

/-- Two coordinators with the same flights. -/
structure SameFlights (c c' : Coordinator) : Prop where
  registry : c'.registry = c.registry
  flights : c'.flights = c.flights
  landed : c'.landed = c.landed
  asked : c'.asked = c.asked

/-- A coordinator has the same flights as itself. -/
lemma SameFlights.refl : SameFlights c c := ⟨rfl, rfl, rfl, rfl⟩

/-- Two coordinators that have the same flights as a third one. -/
lemma SameFlights.trans (s : SameFlights c c') (s' : SameFlights c' c'') : SameFlights c c'' :=
  ⟨s'.registry.trans s.registry, s'.flights.trans s.flights, s'.landed.trans s.landed,
    s'.asked.trans s.asked⟩

/-- Callers move on without the flights. -/
lemma setStage_flights {id st} : SameFlights c (c.setStage id st) := ⟨rfl, rfl, rfl, rfl⟩

/-- Results are handed out without the flights. -/
lemma finish_flights {id r} : SameFlights c (c.finish id r) := by
  cases r <;> exact ⟨rfl, rfl, rfl, rfl⟩

/-- What an ending leaves is settled before the flight goes. -/
lemma settle_flights (now : Nat) (k : Key) (how : Landing) (c : Coordinator) :
    SameFlights c (c.settle now k how).2 := by
  cases how with
  | arrived e => cases e <;> exact ⟨rfl, rfl, rfl, rfl⟩
  | refused fault => exact .refl
  | crashed => exact .refl
  | timedOut => exact ⟨rfl, rfl, rfl, rfl⟩

/-- What an ending brings goes to the shelf, and nothing else does. -/
lemma landing_shelf {f how} :
    (c.landing now f how).shelf = how.shelve now f.key c.shelf := by
  cases how with
  | arrived e => cases e <;> rfl
  | refused fault => rfl
  | crashed => rfl
  | timedOut => rfl

/-- A flight that has ended is closed, and the other flights are as they were. -/
lemma landing_flights {f how} :
    SameFlights (c.close f (c.settle now f.key how).1) (c.landing now f how) := by
  have s := settle_flights now f.key how c
  refine ⟨?_, ?_, ?_, ?_⟩
  · simp only [landing, close, s.registry]
  · simp only [landing, close, s.flights]
  · simp only [landing, close, s.landed]
  · simp only [landing, close, s.asked]

/-- An answer at once leaves the flights alone. -/
lemma Resolves.done_flights {r} (res : Resolves setup now k c (.done r) c') : SameFlights c c' := by
  cases res with
  | refused => exact .refl
  | failed => exact ⟨rfl, rfl, rfl, rfl⟩
  | hit => exact ⟨rfl, rfl, rfl, rfl⟩
  | failedAgain => exact ⟨rfl, rfl, rfl, rfl⟩
  | hitAgain => exact ⟨rfl, rfl, rfl, rfl⟩

/-- What an event does to the flights. -/
inductive Traffic (setup : Setup) (now : Nat) (c : Coordinator) : Event → Coordinator → Prop where
  | same {ev c'} :
    SameFlights c c' →
    Traffic setup now c ev c'
  | dispatched {id x s c'} :
    c.caller? id = some x →
    x.stage = .idle →
    setup.accepts x.key = .ok () →
    c.shelf.get now x.key = (.ok none, s) →
    c.registry.lookup x.key = none →
    s.get now x.key = (.ok none, c'.shelf) →
    SameFlights (c.dispatched now x.key c'.shelf) c' →
    Traffic setup now c (.poll id) c'
  | departed {f x c'} :
    c.flight? f = some x →
    x.departed = none →
    SameFlights (c.departing now f) c' →
    Traffic setup now c (.depart f) c'
  | landed {f how x o c'} :
    c.flight? f = some x →
    canLand setup now how x = true →
    SameFlights (c.close f o) c' →
    Traffic setup now c (.land f how) c'

/-- What a change of the coordinator is for the flights. -/
theorem Shift.traffic {ev} (sh : Shift setup now c ev c') : Traffic setup now c ev c' := by
  cases sh with
  | still => exact .same .refl
  | shelved => exact .same ⟨rfl, rfl, rfl, rfl⟩
  | called => exact .same ⟨rfl, rfl, rfl, rfl⟩
  | answered _ _ e => exact .same ((resolve_inv e).done_flights.trans finish_flights)
  | attached h st e =>
    cases resolve_inv e with
    | joined => exact .same ⟨rfl, rfl, rfl, rfl⟩
    | dispatched ok g reg g' => exact .dispatched h st ok g reg g' setStage_flights
  | received => exact .same finish_flights
  | abandoned => exact .same setStage_flights
  | departed h d => exact .departed h d .refl
  | landed h can => exact .landed h can landing_flights

end Coordinator

end EdgeCache
