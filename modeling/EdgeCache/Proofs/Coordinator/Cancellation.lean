import EdgeCache.Proofs.Coordinator.FanOut

/-!
# Cancelling a caller

A run in which a caller is cancelled beside the run in which it is not. Once it has run, a caller
acts on nothing but itself: what it gets it is given, and all that its getting it changes is the
count of errors. So the two runs stay side by side event for event, and differ in the stage of this
one caller and in the error that it may have returned.
-/

namespace EdgeCache.Coordinator

variable {setup : Setup} {now : Nat} {c c' c₁ : Coordinator} {id j : Nat} {k : Key}

/-- The number of faults that the call of a number has returned, one or none. -/
def faulted (c : Coordinator) (id : Nat) : Nat :=
  match (c.caller? id).map Caller.stage with
  | some (.finished (.error _)) => 1
  | _ => 0

/-- Two coordinators that are alike, but that a caller which has run in the one is cancelled in the
other, and that its error is missing there. -/
structure Struck (id : Nat) (c c' : Coordinator) : Prop where
  begun : ∃ x, c.caller? id = some x ∧ x.stage ≠ .idle
  callers : c'.callers = (c.setStage id .cancelled).callers
  shelf : c'.shelf = c.shelf
  flights : SameFlights c c'
  tally : c.tally = { c'.tally with errors := c'.tally.errors + c.faulted id }

namespace Struck

/-! ## What both have -/

/-- Every other caller is the same in both. -/
lemma caller?_eq (s : Struck id c c') (ne : j ≠ id) : c'.caller? j = c.caller? j := by
  rw [caller?_congr s.callers, caller?_setStage_of_ne ne]

/-- The struck caller is cancelled. -/
lemma caller?_self {x} (s : Struck id c c') (h : c.caller? id = some x) :
    c'.caller? id = some { x with stage := .cancelled } := by
  rw [caller?_congr s.callers, caller?_setStage_self h]

/-- The same callers are there on both sides. -/
lemma caller?_none_iff (s : Struck id c c') : c'.caller? j = none ↔ c.caller? j = none := by
  rw [caller?_congr s.callers, caller?_setStage, Option.map_eq_none_iff]

/-- As many flights have been dispatched. -/
lemma turns_eq (s : Struck id c c') : c'.turns k = c.turns k := by
  simp only [Coordinator.turns, s.flights.flights, s.flights.landed]

/-! ## What both do -/

/-- A counter other than that of the errors may go up on both sides. -/
lemma count (s : Struck id c c') (f : Tally → Tally)
    (h : ∀ t n, f { t with errors := t.errors + n } = { f t with errors := (f t).errors + n }) :
    Struck id (c.count f) (c'.count f) := by
  refine ⟨s.begun, s.callers, s.shelf, ?_, ?_⟩
  · exact ⟨s.flights.registry, s.flights.flights, s.flights.landed, s.flights.asked⟩
  · calc
      f c.tally = f { c'.tally with errors := c'.tally.errors + c.faulted id } := by rw [← s.tally]
      _ = _ := h _ _

/-- The store may become another on both sides. -/
lemma shelved (s : Struck id c c') (shelf : Shelf) :
    Struck id { c with shelf } { c' with shelf } :=
  ⟨s.begun, s.callers, rfl,
    ⟨s.flights.registry, s.flights.flights, s.flights.landed, s.flights.asked⟩, s.tally⟩

/-- The same flights are under way in both. -/
lemma dispatched {shelf : Shelf} (s : Struck id c c') :
    Struck id (c.dispatched now k shelf) (c'.dispatched now k shelf) := by
  have counted := s.count (fun t => { t with misses := t.misses + 1 }) fun _ _ => rfl
  refine ⟨counted.begun, counted.callers, rfl, ⟨?_, ?_, s.flights.landed, s.flights.asked⟩,
    counted.tally⟩
  · simp only [Coordinator.dispatched, s.turns_eq, s.flights.registry]
  · simp only [Coordinator.dispatched, s.turns_eq, s.flights.flights]

/-- A first run goes the same way in both. -/
lemma resolves {p} (s : Struck id c c') (res : Resolves setup now k c p c₁) :
    ∃ c₁', c'.resolve setup now k = (p, c₁') ∧ Struck id c₁ c₁' := by
  have get {found} (g : c.shelf.get now k = found) : c'.shelf.get now k = found := s.shelf ▸ g
  have reg {f?} (r : c.registry.lookup k = f?) : c'.registry.lookup k = f? :=
    s.flights.registry ▸ r
  cases res with
  | refused no => exact ⟨_, (Resolves.refused no).resolve_eq, s⟩
  | failed ok g => exact ⟨_, (Resolves.failed ok (get g)).resolve_eq, s.shelved _⟩
  | hit ok g =>
    refine ⟨_, (Resolves.hit ok (get g)).resolve_eq, ?_⟩
    exact (s.shelved _).count (fun t => { t with hits := t.hits + 1 }) fun _ _ => rfl
  | joined ok g r =>
    refine ⟨_, (Resolves.joined ok (get g) (reg r)).resolve_eq, ?_⟩
    exact (s.shelved _).count (fun t => { t with coalesced := t.coalesced + 1 }) fun _ _ => rfl
  | failedAgain ok g r g' =>
    exact ⟨_, (Resolves.failedAgain ok (get g) (reg r) g').resolve_eq, s.shelved _⟩
  | hitAgain ok g r g' =>
    refine ⟨_, (Resolves.hitAgain ok (get g) (reg r) g').resolve_eq, ?_⟩
    exact (s.shelved _).count (fun t => { t with hits := t.hits + 1 }) fun _ _ => rfl
  | dispatched ok g r g' =>
    refine ⟨_, ?_, s.dispatched⟩
    rw [← s.turns_eq]
    exact (Resolves.dispatched ok (get g) (reg r) g').resolve_eq

/-- Another caller gets to the same stage on both sides. -/
lemma setStage (s : Struck id c c') (ne : j ≠ id) (st : Stage) :
    Struck id (c.setStage j st) (c'.setStage j st) := by
  have self : (c.setStage j st).caller? id = c.caller? id := caller?_setStage_of_ne ne.symm
  refine ⟨self ▸ s.begun, ?_, s.shelf, ?_, ?_⟩
  · simp only [Coordinator.setStage, s.callers, List.map_map]
    refine List.map_congr_left fun x _ => ?_
    by_cases hj : x.id = j
    · simp [hj, ne]
    · by_cases hid : x.id = id
      · simp [hid, ne.symm]
      · simp [hj, hid]
  · exact ⟨s.flights.registry, s.flights.flights, s.flights.landed, s.flights.asked⟩
  · simp only [faulted, self]
    exact s.tally

/-- Another caller finishes on both sides. -/
lemma finish {r : Result} (s : Struck id c c') (ne : j ≠ id) :
    Struck id (c.finish j r) (c'.finish j r) := by
  have moved := s.setStage ne (.finished r)
  cases r with
  | ok e => exact moved
  | error fault =>
    refine moved.count (fun t => { t with errors := t.errors + 1 }) fun t n => ?_
    simp only [Nat.add_right_comm]

/-- An entry is kept on both sides, or refused on both. -/
lemma keep {e : Entry} (s : Struck id c c') :
    (c'.keep now k e).1 = (c.keep now k e).1 ∧
      Struck id (c.keep now k e).2 (c'.keep now k e).2 := by
  simp only [Coordinator.keep]
  split
  · have counted := s.count (fun t => { t with negativeStored := t.negativeStored + 1 })
      fun _ _ => rfl
    rw [counted.shelf]
    exact ⟨rfl, counted.shelved _⟩
  · rw [s.shelf]
    exact ⟨rfl, s.shelved _⟩

/-- A flight comes to the same end on both sides. -/
lemma settle (now : Nat) (k : Key) (how : Landing) (s : Struck id c c') :
    (c'.settle now k how).1 = (c.settle now k how).1 ∧
      Struck id (c.settle now k how).2 (c'.settle now k how).2 := by
  cases how with
  | arrived e => exact ⟨congrArg some s.keep.1, s.keep.2⟩
  | refused fault => exact ⟨rfl, s⟩
  | crashed => exact ⟨rfl, s⟩
  | timedOut => exact ⟨congrArg some s.keep.1, s.keep.2⟩

/-- A flight lands on both sides. -/
lemma landing {f : FlightId} {how : Landing} (s : Struck id c c') :
    Struck id (c.landing now f how) (c'.landing now f how) := by
  obtain ⟨same, settled⟩ := s.settle now f.key how
  refine ⟨settled.begun, settled.callers, settled.shelf, ⟨?_, ?_, ?_, ?_⟩, settled.tally⟩
  · simp only [Coordinator.landing, close, settled.flights.registry]
  · simp only [Coordinator.landing, close, settled.flights.flights]
  · simp only [Coordinator.landing, close, settled.flights.landed, same]
  · exact settled.flights.asked

/-- A flight asks the origin on both sides. -/
lemma departing {f : FlightId} (s : Struck id c c') :
    Struck id (c.departing now f) (c'.departing now f) := by
  refine ⟨s.begun, s.callers, s.shelf, ⟨s.flights.registry, ?_, s.flights.landed, ?_⟩, s.tally⟩
  · simp only [Coordinator.departing, s.flights.flights]
  · simp only [Coordinator.departing, s.flights.asked]

/-! ## What only one does -/

/-- The struck caller moves on in the one, and what that counts is missing in the other. -/
lemma moves {x : Caller} {st : Stage} {t : Tally} (s : Struck id c c')
    (h : c.caller? id = some x) (begun : st ≠ .idle)
    (counted : t = { c'.tally with errors := c'.tally.errors + (c.setStage id st).faulted id }) :
    Struck id { c.setStage id st with tally := t } c' := by
  refine ⟨⟨_, caller?_setStage_self h, begun⟩, ?_, s.shelf, ?_, counted⟩
  · rw [s.callers]
    simp only [Coordinator.setStage, List.map_map]
    refine List.map_congr_left fun y _ => ?_
    by_cases hy : y.id = id <;> simp [hy]
  · exact ⟨s.flights.registry, s.flights.flights, s.flights.landed, s.flights.asked⟩

/-- The struck caller has its result in the one. -/
lemma received {x : Caller} {f : FlightId} {r : Result} (s : Struck id c c')
    (h : c.caller? id = some x) (waiting : x.stage = .waiting f) :
    Struck id (c.finish id r) c' := by
  have silent : c.faulted id = 0 := by simp only [faulted, h, Option.map_some, waiting]
  have same : c.tally = c'.tally := by rw [s.tally, silent, Nat.add_zero]
  cases r with
  | ok e =>
    have told : (c.setStage id (.finished (.ok e))).faulted id = 0 := by
      simp only [faulted, caller?_setStage_self h, Option.map_some]
    refine s.moves h Stage.noConfusion ?_
    rw [told, same, Nat.add_zero]
  | error fault =>
    have told : (c.setStage id (.finished (.error fault))).faulted id = 1 := by
      simp only [faulted, caller?_setStage_self h, Option.map_some]
    refine s.moves h Stage.noConfusion ?_
    rw [told]
    exact congrArg (fun t : Tally => { t with errors := t.errors + 1 }) same

/-- The struck caller is cancelled in both. -/
lemma abandoned {x : Caller} (s : Struck id c c') (h : c.caller? id = some x)
    (opn : x.stage.isOpen = true) : Struck id (c.setStage id .cancelled) c' := by
  have silent : c.faulted id = 0 := by
    simp only [faulted, h, Option.map_some]
    cases st : x.stage with
    | finished r =>
      rw [st] at opn
      cases opn
    | idle => rfl
    | waiting f => rfl
    | cancelled => rfl
  refine s.moves h nofun ?_
  have after : (c.setStage id .cancelled).faulted id = 0 := by
    simp only [faulted, caller?_setStage_self h, Option.map_some]
  rw [after, s.tally, silent]

/-- A caller that is cancelled does not run. -/
lemma poll_self (s : Struck id c c') : c'.poll setup now id = c' := by
  obtain ⟨x, h, _⟩ := s.begun
  simp only [Coordinator.poll, s.caller?_self h]

/-- Whoever has been abandoned cannot be abandoned again. -/
lemma cancel_self (s : Struck id c c') : c'.cancel id = c' := by
  obtain ⟨x, h, _⟩ := s.begun
  simp only [Coordinator.cancel, s.caller?_self h]

/-! ## Event for event -/

/-- A new caller comes on both sides, or the number is taken on both. -/
lemma call (s : Struck id c c') : Struck id (c.call j k) (c'.call j k) := by
  cases h : c.caller? j with
  | some x =>
    have h' : (c'.caller? j).isSome = true := by
      rw [Option.isSome_iff_ne_none, ne_eq, s.caller?_none_iff, h]
      exact nofun
    simpa only [Coordinator.call, h, h', Option.isSome_some, if_true] using s
  | none =>
    have h' : c'.caller? j = none := s.caller?_none_iff.2 h
    obtain ⟨x, hx, begun⟩ := s.begun
    have ne : id ≠ j := by
      rintro rfl
      rw [h] at hx
      cases hx
    simp only [Coordinator.call, h, h', Option.isSome_none, Bool.false_eq_true, if_false]
    have self : ({ c with callers := c.callers ++ [⟨j, k, .idle⟩] } : Coordinator).caller? id =
        c.caller? id :=
      (caller?_called h).trans (if_neg ne)
    refine ⟨⟨x, self.trans hx, begun⟩, ?_, s.shelf, ?_, ?_⟩
    · simp [Coordinator.setStage, s.callers, ne.symm]
    · exact ⟨s.flights.registry, s.flights.flights, s.flights.landed, s.flights.asked⟩
    · simp only [faulted, self]
      exact s.tally

/-- Another caller that runs gets as far on both sides. -/
lemma poll (s : Struck id c c') (ne : j ≠ id) :
    Struck id (c.poll setup now j) (c'.poll setup now j) := by
  cases h : c.caller? j with
  | none => simpa only [Coordinator.poll, h, s.caller?_none_iff.2 h] using s
  | some x =>
    have h' := (s.caller?_eq ne).trans h
    cases st : x.stage with
    | idle =>
      rcases e : c.resolve setup now x.key with ⟨r | f, c₁⟩
      · obtain ⟨c₁', e', s'⟩ := s.resolves (resolve_inv e)
        rw [poll_answered h st e, poll_answered h' st e']
        exact s'.finish ne
      · obtain ⟨c₁', e', s'⟩ := s.resolves (resolve_inv e)
        rw [poll_attached h st e, poll_attached h' st e']
        exact s'.setStage ne _
    | waiting f =>
      have left' := outcome?_congr (f := f) s.flights
      cases left : c.outcome? f with
      | none => simpa only [Coordinator.poll, h, h', st, left', left] using s
      | some o =>
        rw [poll_received h st left, poll_received h' st (left'.trans left)]
        exact s.finish ne
    | finished r => simpa only [Coordinator.poll, h, h', st] using s
    | cancelled => simpa only [Coordinator.poll, h, h', st] using s

/-- The struck caller runs in the one. -/
lemma poll_one (s : Struck id c c') : Struck id (c.poll setup now id) c' := by
  obtain ⟨x, h, begun⟩ := s.begun
  cases st : x.stage with
  | idle => exact absurd st begun
  | waiting f =>
    cases left : c.outcome? f with
    | none => simpa only [Coordinator.poll, h, st, left] using s
    | some o =>
      rw [poll_received h st left]
      exact s.received h st
  | finished r => simpa only [Coordinator.poll, h, st] using s
  | cancelled => simpa only [Coordinator.poll, h, st] using s

/-- Another caller is abandoned on both sides. -/
lemma cancel (s : Struck id c c') (ne : j ≠ id) : Struck id (c.cancel j) (c'.cancel j) := by
  cases h : c.caller? j with
  | none => simpa only [Coordinator.cancel, h, s.caller?_none_iff.2 h] using s
  | some x =>
    have h' := (s.caller?_eq ne).trans h
    cases st : x.stage with
    | idle => simpa only [Coordinator.cancel, h, h', st] using s.setStage ne _
    | waiting f => simpa only [Coordinator.cancel, h, h', st] using s.setStage ne _
    | finished r => simpa only [Coordinator.cancel, h, h', st] using s
    | cancelled => simpa only [Coordinator.cancel, h, h', st] using s

/-- The struck caller is cancelled in the one as well. -/
lemma cancel_one (s : Struck id c c') : Struck id (c.cancel id) c' := by
  obtain ⟨x, h, begun⟩ := s.begun
  cases st : x.stage with
  | idle => exact absurd st begun
  | waiting f =>
    have opn : x.stage.isOpen = true := by rw [st]; rfl
    simpa only [Coordinator.cancel, h, st] using s.abandoned h opn
  | finished r => simpa only [Coordinator.cancel, h, st] using s
  | cancelled => simpa only [Coordinator.cancel, h, st] using s

/-- A flight departs on both sides, if it is there. -/
lemma depart {f : FlightId} (s : Struck id c c') :
    Struck id (c.depart now f) (c'.depart now f) := by
  have h' : c'.flight? f = c.flight? f := by simp only [Coordinator.flight?, s.flights.flights]
  rcases h : c.flight? f with _ | ⟨g, since, _ | t⟩
  · simpa only [Coordinator.depart, h', h] using s
  · rw [depart_eq h rfl, depart_eq (h'.trans h) rfl]
    exact s.departing
  · simpa only [Coordinator.depart, h', h] using s

/-- A flight lands on both sides, if it can. -/
lemma land {f : FlightId} {how : Landing} (s : Struck id c c') :
    Struck id (c.land setup now f how) (c'.land setup now f how) := by
  have h' : c'.flight? f = c.flight? f := by simp only [Coordinator.flight?, s.flights.flights]
  cases h : c.flight? f with
  | none => simpa only [Coordinator.land, h', h] using s
  | some x =>
    cases can : canLand setup now how x with
    | false => simpa only [Coordinator.land, h', h, can, Bool.false_eq_true, if_false] using s
    | true =>
      rw [land_eq h can, land_eq (h'.trans h) can]
      exact s.landing

end Struck

end Coordinator

namespace Edge

open Coordinator

variable {setup : Setup} {e e' : Edge} {id : Nat} {x : Caller} {f : FlightId} {later : List Event}

/-- Every event happens in both. -/
lemma step_struck (setup : Setup) (ev : Event) (s : Struck id e.coordinator e'.coordinator)
    (same : e'.now = e.now) :
    Struck id (e.step setup ev).coordinator (e'.step setup ev).coordinator ∧
      (e'.step setup ev).now = (e.step setup ev).now := by
  obtain ⟨now, c⟩ := e
  obtain ⟨now', c'⟩ := e'
  obtain rfl : now' = now := same
  have shelved (g : Shelf → Shelf) :
      Struck id { c with shelf := g c.shelf } { c' with shelf := g c'.shelf } := by
    rw [s.shelf]
    exact s.shelved _
  cases ev with
  | call j k => exact ⟨s.call, rfl⟩
  | poll j =>
    refine ⟨?_, rfl⟩
    by_cases ne : j = id
    · subst ne
      simp only [step, act, s.poll_self]
      exact s.poll_one
    · exact s.poll ne
  | cancel j =>
    refine ⟨?_, rfl⟩
    by_cases ne : j = id
    · subst ne
      simp only [step, act, s.cancel_self]
      exact s.cancel_one
    · exact s.cancel ne
  | depart f => exact ⟨s.depart, rfl⟩
  | land f how => exact ⟨s.land, rfl⟩
  | elapse ms => exact ⟨s, rfl⟩
  | reading script => exact ⟨shelved fun sh => { sh with readings := script }, rfl⟩
  | writing script => exact ⟨shelved fun sh => { sh with writings := script }, rfl⟩
  | put k entry => exact ⟨shelved (Shelf.onStore (Store.put now' k entry)), rfl⟩
  | get k => exact ⟨shelved (Shelf.onStore fun st => (st.get now' k).2), rfl⟩
  | sweep => exact ⟨shelved (Shelf.onStore (Store.sweep now')), rfl⟩
  | clear => exact ⟨shelved (Shelf.onStore Store.clear), rfl⟩

/-- Whatever happens later, both sides differ by the one caller only. -/
lemma run_struck (setup : Setup) (later : List Event)
    (s : Struck id e.coordinator e'.coordinator) (same : e'.now = e.now) :
    Struck id (run setup e later).coordinator (run setup e' later).coordinator ∧
      (run setup e' later).now = (run setup e later).now := by
  induction later generalizing e e' with
  | nil => exact ⟨s, same⟩
  | cons ev later ih =>
    obtain ⟨s', same'⟩ := step_struck setup ev s same
    exact ih s' same'

/-- Cancelling a caller that waits abandons this caller and nothing else. At every moment after it,
whatever happens, the run and the one in which it has not been cancelled have the same clock, the
same store, the same records, flights, outcomes and questions to the origin, and every other caller
alike; and they have counted the same, but for the fault that the caller would have returned by
then. -/
theorem cancel_abandons_one (setup : Setup) (e : Edge) (id : Nat) (x : Caller) (f : FlightId)
    (h : e.coordinator.caller? id = some x) (waiting : x.stage = .waiting f) (later : List Event) :
    let a := run setup (e.step setup (.cancel id)) later
    let b := run setup e later
    a.now = b.now ∧
    (∀ j, j ≠ id → a.coordinator.caller? j = b.coordinator.caller? j) ∧
    a.coordinator.caller? id = some { x with stage := .cancelled } ∧
    a.coordinator.shelf = b.coordinator.shelf ∧
    SameFlights b.coordinator a.coordinator ∧
    b.coordinator.tally =
      { a.coordinator.tally with
        errors := a.coordinator.tally.errors + b.coordinator.faulted id } := by
  intro a b
  have begun : x.stage ≠ .idle := by
    rw [waiting]
    exact nofun
  have silent : e.coordinator.faulted id = 0 := by
    simp only [faulted, h, Option.map_some, waiting]
  have struck : Struck id e.coordinator (e.step setup (.cancel id)).coordinator := by
    simp only [step, act, Coordinator.cancel, h, waiting]
    refine ⟨⟨x, h, begun⟩, rfl, rfl, setStage_flights, ?_⟩
    rw [silent]
    rfl
  obtain ⟨s, same⟩ := run_struck setup later struck rfl
  refine ⟨same, fun j ne => s.caller?_eq ne, ?_, s.shelf, s.flights, s.tally⟩
  have cancelled : (e.coordinator.setStage id .cancelled).caller? id = some _ :=
    caller?_setStage_self h
  refine run_closed ?_ rfl
  simpa only [step, act, Coordinator.cancel, h, waiting] using cancelled

/-- The owner of a fetch that breaks off would have returned a fault, which is not counted if it has
been cancelled. -/
theorem cancel_abandons_one_crash :
    let setup : Setup := ⟨fun _ => .ok (), 1⟩
    let a := Key.letter 'a' (by decide)
    let e := run setup (start ⟨0, none, 1⟩) [.call 1 a, .poll 1]
    let later := [.depart ⟨a, 0⟩, .land ⟨a, 0⟩ .crashed, .poll 1]
    (e.coordinator.caller? 1).map Caller.stage = some (.waiting ⟨a, 0⟩) ∧
      (run setup e later).coordinator.tally.errors =
        (run setup (e.step setup (.cancel 1)) later).coordinator.tally.errors + 1 := by
  intro setup a e later
  have h : e.coordinator.caller? 1 = some ⟨1, a, .waiting ⟨a, 0⟩⟩ := rfl
  obtain ⟨_, _, _, _, _, counted⟩ :=
    cancel_abandons_one setup e 1 ⟨1, a, .waiting ⟨a, 0⟩⟩ ⟨a, 0⟩ h rfl later
  have fault : (run setup e later).coordinator.faulted 1 = 1 := rfl
  refine ⟨by rw [h]; rfl, ?_⟩
  rw [counted, fault]

end Edge

end EdgeCache
