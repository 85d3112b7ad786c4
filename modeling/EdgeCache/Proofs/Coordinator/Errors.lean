import EdgeCache.Proofs.Coordinator.FanOut
import EdgeCache.Proofs.Coordinator.Refetch

/-!
# Errors leave nothing behind

A call that ends in a fault has changed nothing but the count of errors: the store has failed it, or
its key has no address, or the flight that it waited for has ended without anything to keep. Such a
flight is out of the registry before anybody hears of it. So the key is as free as it was, and the
next call of it that the store gives nothing sends a flight of its own and gets what that one leaves.
-/

namespace EdgeCache

/-- The next two lookups reach the store. -/
def Shelf.Healthy (s : Shelf) : Prop := ∀ r ∈ s.readings.take 2, r = .faithful

/-- An ending that leaves nothing in the store: there is nothing to keep, or the store cannot be
written. -/
inductive Landing.Fails (s : Shelf) : Landing → Prop where
  | refused {fault : Fault} :
    Fails s (.refused fault)
  | crashed :
    Fails s .crashed
  | unwritten {how : Landing} {entry : Entry} {detail : String} :
    how.entry? = some entry →
    s.writings.head? = some (.unavailable detail) →
    Fails s how

/-! ## The shelf -/

namespace Shelf

variable {s : Shelf} {now : Nat} {k : Key}

lemma put_unavailable {e : Entry} {detail : String}
    (h : s.writings.head? = some (.unavailable detail)) :
    (s.put now k e).1 = .error (.storeUnavailable detail) ∧ (s.put now k e).2.store = s.store := by
  simp only [put, h, Option.getD_some, and_self]

/-- A lookup that reaches the store gives what the store gives. -/
lemma get_faithful (h : s.readings.head?.getD .faithful = .faithful) :
    s.get now k = (.ok (s.store.get now k).1,
      { s with readings := s.readings.tail, store := (s.store.get now k).2 }) := by
  simp only [get, h]

/-- A healthy store that does not hold a key says so twice. -/
lemma Healthy.missed (healthy : s.Healthy) (missed : (s.store.get now k).1 = none) :
    (s.get now k).1 = .ok none ∧ ((s.get now k).2.get now k).1 = .ok none := by
  have first : s.readings.head?.getD .faithful = .faithful := by
    cases r : s.readings with
    | nil => rfl
    | cons x rest => exact healthy x (by simp [r])
  have second : s.readings.tail.head?.getD .faithful = .faithful := by
    rcases r : s.readings with _ | ⟨x, _ | ⟨y, rest⟩⟩
    · rfl
    · rfl
    · exact healthy y (by simp [r])
  have again : ((s.store.get now k).2.get now k).1 = none := by
    have absent := Store.get_none_contains missed
    rw [Store.contains, Option.isSome_eq_false_iff, Option.isNone_iff_eq_none] at absent
    rw [Store.get, absent]
  rw [get_faithful first, get_faithful second, missed, again]
  exact ⟨rfl, rfl⟩

end Shelf

namespace Landing

variable {s : Shelf} {how : Landing}

lemma Fails.store (fails : how.Fails s) (now : Nat) (k : Key) :
    (how.shelve now k s).store = s.store := by
  cases fails with
  | refused => rfl
  | crashed => rfl
  | unwritten brought full =>
    simp only [shelve, brought]
    exact (Shelf.put_unavailable full).2

/-- The callers of a flight that ends in failure get a fault. -/
lemma Fails.result (fails : how.Fails s) (now : Nat) (k : Key) :
    ∃ fault, how.result now k s = .error fault := by
  cases fails with
  | refused => exact ⟨_, rfl⟩
  | crashed => exact ⟨_, rfl⟩
  | unwritten brought full =>
    cases how with
    | arrived e =>
      rw [result, (Shelf.put_unavailable full).1]
      exact ⟨_, rfl⟩
    | refused fault => cases brought
    | crashed => cases brought
    | timedOut =>
      rw [result, (Shelf.put_unavailable full).1]
      exact ⟨_, rfl⟩

end Landing

namespace Coordinator

variable {setup : Setup} {now : Nat} {c c' : Coordinator} {ev : Event} {k : Key}

/-! ## First runs that fail or miss -/

/-- A first run that ends in a fault has been refused for its key, or the store has failed one of its
lookups. It counts nothing and leaves the flights alone. -/
lemma Resolves.fault {fault} (res : Resolves setup now k c (.done (.error fault)) c') :
    SameFlights c c' ∧ c'.tally = c.tally ∧
      (setup.accepts k = .error fault ∧ c'.shelf = c.shelf ∨
        setup.accepts k = .ok () ∧
          ((c.shelf.get now k).1 = .error fault ∨
            (c.shelf.get now k).1 = .ok none ∧ c.registry.lookup k = none ∧
              ((c.shelf.get now k).2.get now k).1 = .error fault)) := by
  refine ⟨res.done_flights, ?_⟩
  cases res with
  | refused no => exact ⟨rfl, .inl ⟨no, rfl⟩⟩
  | failed ok g => exact ⟨rfl, .inr ⟨ok, .inl (by rw [g])⟩⟩
  | failedAgain ok g free g' => exact ⟨rfl, .inr ⟨ok, .inr ⟨by rw [g], free, by rw [g, g']⟩⟩⟩

lemma Shift.depart_shelf {f} (sh : Shift setup now c (.depart f) c') : c'.shelf = c.shelf := by
  cases sh with
  | still => rfl
  | shelved handled => cases handled
  | departed => rfl

/-- A first run that the store gives nothing dispatches a flight if its key has none. -/
lemma Resolves.missed {p} (res : Resolves setup now k c p c') (ok : setup.accepts k = .ok ())
    (free : c.registry.lookup k = none) (first : (c.shelf.get now k).1 = .ok none)
    (second : ((c.shelf.get now k).2.get now k).1 = .ok none) :
    p = .joined ⟨k, c.turns k⟩ ∧ c'.flights = c.flights ++ [⟨⟨k, c.turns k⟩, now, none⟩] := by
  cases res with
  | refused no =>
    rw [ok] at no
    cases no
  | failed _ g => simp [g] at first
  | hit _ g => simp [g] at first
  | joined _ _ reg =>
    rw [free] at reg
    cases reg
  | failedAgain _ g _ g' => simp [g, g'] at second
  | hitAgain _ g _ g' => simp [g, g'] at second
  | dispatched => exact ⟨rfl, rfl⟩

/-- A first run that the store gives nothing joins the flight of its key if it has one. -/
lemma Resolves.missed_joined {p f} (res : Resolves setup now k c p c')
    (ok : setup.accepts k = .ok ()) (reg : c.registry.lookup k = some f)
    (first : (c.shelf.get now k).1 = .ok none) : p = .joined f ∧ SameFlights c c' := by
  cases res with
  | refused no =>
    rw [ok] at no
    cases no
  | failed _ g => simp [g] at first
  | hit _ g => simp [g] at first
  | joined _ _ reg' =>
    rw [reg] at reg'
    cases reg'
    exact ⟨rfl, rfl, rfl, rfl, rfl⟩
  | failedAgain _ _ free =>
    rw [reg] at free
    cases free
  | hitAgain _ _ free =>
    rw [reg] at free
    cases free
  | dispatched _ _ free =>
    rw [reg] at free
    cases free

end Coordinator

namespace Edge

open Coordinator

variable {setup : Setup} {e : Edge} {events : List Event} {k : Key} {id : Nat} {w : Caller}
variable {f : FlightId} {how : Landing}

/-- No call of a key runs for the first time. -/
def Uncalled (setup : Setup) (e : Edge) (events : List Event) (k : Key) : Prop :=
  ∀ before id after w, events = before ++ .poll id :: after →
    (run setup e before).coordinator.caller? id = some w → w.stage = .idle → w.key ≠ k

/-- The first run of a call dispatches a flight that is not any of those before, and the call gets
what this one leaves when it lands, unless it is cancelled before it has run again. -/
structure Anew (setup : Setup) (e : Edge) (id : Nat) (w : Caller) (f : FlightId) : Prop where
  named : f.key = w.key
  unknown : ∀ y ∈ e.coordinator.flights, y.id ≠ f
  unended : e.coordinator.outcome? f = none
  dispatched : (e.step setup (.poll id)).coordinator.flights =
    e.coordinator.flights ++ [⟨f, e.now, none⟩]
  waits : (e.step setup (.poll id)).coordinator.caller? id = some { w with stage := .waiting f }
  gets : ∀ mid how,
    let d := run setup (e.step setup (.poll id)) mid
    d.Lands setup f how → d.coordinator.caller? id = some { w with stage := .waiting f } →
    ∀ later, ∃ st,
      (run setup (d.step setup (.land f how)) later).coordinator.caller? id =
        some { w with stage := st } ∧
      (st = .waiting f ∧ .poll id ∉ later ∨
        st = .finished (how.result d.now w.key d.coordinator.shelf) ∨
        st = .cancelled ∧ .cancel id ∈ later)

/-- A key that has no flight has none until a call of it runs for the first time. -/
lemma Free.run (free : e.Free k) (uncalled : e.Uncalled setup events k) :
    (run setup e events).Free k := by
  by_contra taken
  obtain ⟨before, id, after, eq, free, x, mx, ek⟩ := free.dispatched taken
  have new : ∀ y ∈ (Edge.run setup e before).coordinator.flights, y.id ≠ x.id := fun y my same =>
    free y my ((congrArg FlightId.key same).trans ek)
  obtain ⟨id', w, _, same, h, idle, ew, _⟩ := (step_shift setup _ _).traffic.flight_new mx new
  cases same
  exact uncalled before id after w eq h idle (ew.trans ek)

lemma Lands.delivers {x} (lands : e.Lands setup f how) (inv : Orderly e.coordinator)
    (h : e.coordinator.caller? id = some x) (waiting : x.stage = .waiting f) (ek : f.key = x.key)
    (later : List Event) :
    ∃ st, (run setup (e.step setup (.land f how)) later).coordinator.caller? id =
        some { x with stage := st } ∧
      (st = .waiting f ∧ .poll id ∉ later ∨
        st = .finished (how.result e.now x.key e.coordinator.shelf) ∨
        st = .cancelled ∧ .cancel id ∈ later) := by
  obtain ⟨y, hy, can⟩ := lands
  obtain ⟨my, rfl⟩ := inv.flight?_iff.1 hy
  obtain ⟨o, left, result⟩ := step_land_outcome inv my can
  have h' : (e.step setup (.land y.id how)).coordinator.caller? id = some x := by
    simp only [step, act, land_eq hy can]
    rw [caller?_congr landing_callers, h]
  have delivered := run_delivers setup later h' waiting left
  rw [← ek] at delivered ⊢
  rwa [result] at delivered

/-- A call of a free key that the store gives nothing is fetched anew. -/
lemma Free.anew (free : e.Free w.key) (inv : Orderly e.coordinator)
    (h : e.coordinator.caller? id = some w) (idle : w.stage = .idle)
    (ok : setup.accepts w.key = .ok ()) (healthy : e.coordinator.shelf.Healthy)
    (missed : (e.store.get e.now w.key).1 = none) :
    e.Anew setup id w ⟨w.key, e.coordinator.turns w.key⟩ := by
  have unregistered := inv.lookup_none_iff.2 free
  rcases eq : e.coordinator.resolve setup e.now w.key with ⟨p, c⟩
  have res := resolve_inv eq
  obtain ⟨first, second⟩ := healthy.missed missed
  obtain ⟨rfl, flights⟩ := res.missed ok unregistered first second
  have polled : (e.step setup (.poll id)).coordinator = c.setStage id (.waiting _) :=
    poll_attached h idle eq
  obtain ⟨named, _, unended⟩ := res.joined_flight inv
  have inv' : Orderly (e.step setup (.poll id)).coordinator :=
    (step_shift setup e _).traffic.orderly inv
  constructor
  · exact named
  · intro y my same
    exact free y my (congrArg FlightId.key same)
  · exact unended
  · rw [polled, setStage_flights.flights, flights]
  · rw [polled]
    exact caller?_setStage_self ((caller?_congr res.callers).trans h)
  · intro mid how d lands waiting later
    exact lands.delivers inv'.run waiting rfl rfl later

/-- A flight that has ended is not in the registry. -/
lemma not_registered {o} (inv : Orderly e.coordinator) (left : e.coordinator.outcome? f = some o) :
    ∀ k, e.coordinator.registry.lookup k ≠ some f := by
  intro k reg
  obtain ⟨_, x, mx, rfl⟩ := inv.lookup_iff.1 reg
  rw [inv.outcome?_eq_none mx] at left
  cases left

/-- Why a call ends in a fault. -/
inductive Faults (setup : Setup) (e : Edge) (w : Caller) (fault : Fault) : Edge → Prop where
  | refused {e' : Edge} :
    w.stage = .idle →
    setup.accepts w.key = .error fault →
    e'.coordinator.shelf = e.coordinator.shelf →
    Faults setup e w fault e'
  | failed {e' : Edge} :
    w.stage = .idle →
    setup.accepts w.key = .ok () →
    e.look w.key = .error fault →
    Faults setup e w fault e'
  | failedAgain {e' : Edge} :
    w.stage = .idle →
    setup.accepts w.key = .ok () →
    e.look w.key = .ok none →
    e.Free w.key →
    e.lookAgain w.key = .error fault →
    e'.Free w.key →
    Faults setup e w fault e'
  | landed {e' : Edge} {f : FlightId} {o : Outcome} :
    w.stage = .waiting f →
    f.key = w.key →
    e.coordinator.outcome? f = some o →
    resultOf w.key o = .error fault →
    e'.coordinator.shelf = e.coordinator.shelf →
    (∀ k, e'.coordinator.registry.lookup k ≠ some f) →
    Faults setup e w fault e'

/-- A call that ends in a fault does so when it runs, and leaves nothing but one more error. -/
lemma faults {ev y fault} (inv : Orderly e.coordinator) (att : Attended e.coordinator)
    (h : e.coordinator.caller? id = some w) (opn : w.stage.isOpen = true)
    (h' : (e.step setup ev).coordinator.caller? id = some y)
    (fin : y.stage = .finished (.error fault)) :
    let e' := e.step setup ev
    SameFlights e.coordinator e'.coordinator ∧
      e'.coordinator.tally = { e.coordinator.tally with errors := e.coordinator.tally.errors + 1 } ∧
      e.Faults setup w fault e' := by
  intro e'
  have inv' : Orderly e'.coordinator := (step_shift setup e ev).traffic.orderly inv
  obtain rfl := caller?_id h
  obtain ⟨st, hx, mv⟩ := (step_shift setup e ev).caller h
  rw [h'] at hx
  obtain rfl := Option.some.inj hx
  change st = .finished (.error fault) at fin
  cases mv with
  | rests =>
    rw [fin] at opn
    cases opn
  | attached => cases fin
  | abandoned => cases fin
  | @answered r c polled idle res =>
    cases fin
    cases polled
    have eq : e'.coordinator = c.finish w.id (.error fault) := poll_answered h idle res
    obtain ⟨same, tally, ⟨no, shelf⟩ | ⟨ok, failing⟩⟩ := (resolve_inv res).fault
    · refine ⟨?_, ?_, .refused idle no ?_⟩
      · rw [eq]
        exact same.trans finish_flights
      · rw [eq, ← tally]
        rfl
      · rw [eq, finish_shelf, shelf]
    · refine ⟨?_, ?_, ?_⟩
      · rw [eq]
        exact same.trans finish_flights
      · rw [eq, ← tally]
        rfl
      · obtain first | ⟨first, unregistered, second⟩ := failing
        · exact .failed idle ok first
        · have free : e.Free w.key := inv.lookup_none_iff.1 unregistered
          refine .failedAgain idle ok first free second ?_
          intro x mx
          rw [eq, (same.trans finish_flights).flights] at mx
          exact free x mx
  | @received f o polled waiting left =>
    cases polled
    have eq : e'.coordinator = e.coordinator.finish w.id (resultOf w.key o) :=
      poll_received h waiting left
    have result : resultOf w.key o = .error fault := Stage.finished.inj fin
    obtain ⟨ek, _⟩ := att w.id w f h waiting
    have left' : e'.coordinator.outcome? f = some o := by
      rw [eq, outcome?_congr finish_flights, left]
    refine ⟨?_, ?_, .landed waiting ek left result ?_ (not_registered inv' left')⟩
    · rw [eq]
      exact finish_flights
    · rw [eq, result]
      rfl
    · rw [eq, finish_shelf]

/-- At every moment of every run:
(1) a call that ends in a fault leaves the flights, the registry and the origin alone and counts one
error and nothing else; if its key has no address, the store is not asked either; if the store has
failed the second lookup, no record of the key is there; and if its flight has left the fault, no
record of the flight is there any more;
(2) a flight that ends without anything to keep, or whose put fails, leaves the store as it was, as
its question did; its record is gone, and its key free, before anybody has the result, which is a
fault;
(3) a key that is free stays free until a call of it runs for the first time, and this call, if the
key has an address and the healthy store does not hold it, dispatches a new flight and gets what that
one leaves;
(4) a call that comes while a flight of its key is under way joins this one, which has left nothing
yet. -/
theorem errors_do_not_stick (setup : Setup) (limits : Limits) (events : List Event) :
    let e := run setup (start limits) events
    let c := e.coordinator
    (∀ ev id w y fault, c.caller? id = some w → w.stage.isOpen = true →
      (e.step setup ev).coordinator.caller? id = some y → y.stage = .finished (.error fault) →
      let e' := e.step setup ev
      SameFlights c e'.coordinator ∧
        e'.coordinator.tally = { c.tally with errors := c.tally.errors + 1 } ∧
        e.Faults setup w fault e') ∧
    (∀ f, (e.step setup (.depart f)).store = e.store) ∧
    (∀ f how, e.Lands setup f how → how.Fails c.shelf →
      let e' := e.step setup (.land f how)
      e'.store = e.store ∧ e'.Free f.key ∧ (∀ k, e'.coordinator.registry.lookup k ≠ some f) ∧
        (∀ id, e'.coordinator.caller? id = c.caller? id) ∧
        ∃ fault, how.result e.now f.key c.shelf = .error fault) ∧
    (∀ k, e.Free k → ∀ between, e.Uncalled setup between k →
      let d := run setup e between
      ∀ id w, d.coordinator.caller? id = some w → w.stage = .idle → w.key = k →
        setup.accepts k = .ok () → d.coordinator.shelf.Healthy → (d.store.get d.now k).1 = none →
        d.Anew setup id w ⟨k, d.coordinator.turns k⟩) ∧
    (∀ id w, c.caller? id = some w → w.stage = .idle → setup.accepts w.key = .ok () →
      c.shelf.Healthy → (e.store.get e.now w.key).1 = none → ∀ y ∈ c.flights, y.id.key = w.key →
      let c' := (e.step setup (.poll id)).coordinator
      SameFlights c c' ∧ c'.caller? id = some { w with stage := .waiting y.id } ∧
        c.outcome? y.id = none) := by
  intro e c
  have inv : Orderly c := run_orderly
  have att : Attended c := run_attended
  refine ⟨?_, ?_, ?_, ?_, ?_⟩
  · intro ev id w y fault h opn h' fin
    exact faults inv att h opn h' fin
  · intro f
    rw [store, (step_shift setup e (.depart f)).depart_shelf]
    rfl
  · intro f how lands fails e'
    obtain ⟨x, h, can⟩ := lands
    have ends : e'.coordinator = c.landing e.now f how := land_eq h can
    have inv' : Orderly e'.coordinator := (step_shift setup e _).traffic.orderly inv
    obtain ⟨mx, rfl⟩ := inv.flight?_iff.1 h
    obtain ⟨o, left, _⟩ := step_land_outcome inv mx can
    refine ⟨?_, Lands.free ⟨x, h, can⟩ inv, not_registered inv' left, ?_, fails.result _ _⟩
    · rw [store, ends, landing_shelf, fails.store]
      rfl
    · intro id
      rw [ends]
      exact caller?_congr landing_callers
  · intro k free between uncalled d id w h idle ek ok healthy missed
    subst ek
    have inv' : Orderly d.coordinator := inv.run
    exact (free.run uncalled).anew inv' h idle ok healthy missed
  · intro id w h idle ok healthy missed y my ek c'
    have reg : c.registry.lookup w.key = some y.id := inv.lookup_iff.2 ⟨ek, y, my, rfl⟩
    rcases eq : c.resolve setup e.now w.key with ⟨p, c₁⟩
    have res := resolve_inv eq
    obtain ⟨rfl, same⟩ := res.missed_joined ok reg (healthy.missed missed).1
    have polled : c' = c₁.setStage id (.waiting y.id) := poll_attached h idle eq
    refine ⟨?_, ?_, inv.outcome?_eq_none my⟩
    · rw [polled]
      exact same.trans setStage_flights
    · rw [polled]
      exact caller?_setStage_self ((caller?_congr res.callers).trans h)

/-- After a fetch that broke off, the next call of the key is fetched anew. -/
theorem errors_do_not_stick_crash :
    let setup : Setup := ⟨fun _ => .ok (), 1⟩
    let a := Key.letter 'a' (by decide)
    let e := run setup (start ⟨0, none, 1⟩) [.call 1 a, .poll 1, .depart ⟨a, 0⟩,
      .land ⟨a, 0⟩ .crashed]
    e.coordinator.turns a = 1 ∧ (e.step setup (.call 2 a)).Anew setup 2 ⟨2, a, .idle⟩ ⟨a, 1⟩ := by
  intro setup a e
  have turns : e.coordinator.turns a = 1 := by decide +kernel
  have free : e.Free a := by
    have none_left : e.coordinator.flights = [] := by decide +kernel
    intro x mx
    rw [none_left] at mx
    cases mx
  have uncalled : e.Uncalled setup [.call 2 a] a := by
    intro before id after w eq
    cases before with
    | nil => cases eq
    | cons ev before => cases before <;> cases eq
  have healthy : (e.step setup (.call 2 a)).coordinator.shelf.Healthy := by
    have unscripted : (e.step setup (.call 2 a)).coordinator.shelf.readings = [] := by decide +kernel
    intro r mr
    rw [unscripted] at mr
    cases mr
  have missed : ((e.step setup (.call 2 a)).store.get (e.step setup (.call 2 a)).now a).1 = none := by
    decide +kernel
  have next : (e.step setup (.call 2 a)).coordinator.caller? 2 = some ⟨2, a, .idle⟩ := rfl
  have anew := (errors_do_not_stick setup ⟨0, none, 1⟩ [.call 1 a, .poll 1, .depart ⟨a, 0⟩,
    .land ⟨a, 0⟩ .crashed]).2.2.2.1 a free [.call 2 a] uncalled 2 ⟨2, a, .idle⟩ next rfl rfl rfl
    healthy missed
  have same : (e.step setup (.call 2 a)).coordinator.turns a = 1 := by decide +kernel
  exact ⟨turns, same ▸ anew⟩

/-- Both conditions on the next call are needed. After a call that the store has failed, the next one
joins the flight that is under way; and after a call whose key has no address, the next one has none
either. No flight is dispatched, healthy as the store is and without the key. -/
theorem not_always_fetched_anew :
    (¬ ∀ (setup : Setup) (limits : Limits) (events : List Event) (id id' : Nat) (w w' : Caller)
        (fault : Fault),
      let e := run setup (start limits) events
      e.coordinator.caller? id = some w → w.stage = .finished (.error fault) →
      e.coordinator.caller? id' = some w' → w'.stage = .idle → w'.key = w.key →
      setup.accepts w.key = .ok () → e.coordinator.shelf.Healthy →
      (e.store.get e.now w.key).1 = none →
      (e.step setup (.poll id')).coordinator.flights ≠ e.coordinator.flights) ∧
    (¬ ∀ (setup : Setup) (limits : Limits) (events : List Event) (id id' : Nat) (w w' : Caller)
        (fault : Fault),
      let e := run setup (start limits) events
      e.coordinator.caller? id = some w → w.stage = .finished (.error fault) →
      e.coordinator.caller? id' = some w' → w'.stage = .idle → w'.key = w.key →
      e.Free w.key → e.coordinator.shelf.Healthy →
      (e.store.get e.now w.key).1 = none →
      (e.step setup (.poll id')).coordinator.flights ≠ e.coordinator.flights) := by
  let a := Key.letter 'a' (by decide)
  constructor
  · intro all
    let setup : Setup := ⟨fun _ => .ok (), 1⟩
    let events : List Event := [.call 1 a, .poll 1, .depart ⟨a, 0⟩,
      .reading [.unavailable "scripted get"], .call 2 a, .poll 2, .call 3 a]
    let e := run setup (start ⟨0, none, 1⟩) events
    let fault : Fault := .storeUnavailable "scripted get"
    have healthy : e.coordinator.shelf.Healthy := by
      have used_up : e.coordinator.shelf.readings = [] := by decide +kernel
      intro r mr
      rw [used_up] at mr
      cases mr
    have missed : (e.store.get e.now a).1 = none := by decide +kernel
    have ended : e.coordinator.caller? 2 = some ⟨2, a, .finished (.error fault)⟩ := rfl
    have fresh : e.coordinator.caller? 3 = some ⟨3, a, .idle⟩ := rfl
    have joined : (e.step setup (.poll 3)).coordinator.flights = e.coordinator.flights := by
      decide +kernel
    have anew := all setup ⟨0, none, 1⟩ events 2 3 _ _ fault ended rfl fresh rfl rfl rfl
    exact anew healthy missed joined
  · intro all
    let fault : Fault := .malformedKey "a"
    let setup : Setup := ⟨fun _ => .error fault, 1⟩
    let events : List Event := [.call 1 a, .poll 1, .call 2 a]
    let e := run setup (start ⟨0, none, 1⟩) events
    have free : e.Free a := by
      have none_there : e.coordinator.flights = [] := by decide +kernel
      intro x mx
      rw [none_there] at mx
      cases mx
    have healthy : e.coordinator.shelf.Healthy := by
      intro r mr
      cases mr
    have missed : (e.store.get e.now a).1 = none := by decide +kernel
    have ended : e.coordinator.caller? 1 = some ⟨1, a, .finished (.error fault)⟩ := rfl
    have fresh : e.coordinator.caller? 2 = some ⟨2, a, .idle⟩ := rfl
    have refused : (e.step setup (.poll 2)).coordinator.flights = e.coordinator.flights := by
      decide +kernel
    have anew := all setup ⟨0, none, 1⟩ events 1 2 _ _ fault ended rfl fresh rfl rfl free
    exact anew healthy missed refused

end Edge

end EdgeCache
