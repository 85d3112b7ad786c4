import EdgeCache.Proofs.Coordinator.Inversion
import EdgeCache.Proofs.Keyed
import EdgeCache.Proofs.Run

/-!
# Single flight

The registry and the flights are two accounts of the same thing. `Orderly` says so: the registry
lists the flights that have not ended, no two of them fetch the same key, and no flight bears the
name of one that has ended. Every event keeps this, and it is all that single flight needs.
-/

namespace EdgeCache.Coordinator

variable {setup : Setup} {now : Nat} {c c' : Coordinator}

/-- How many flights of a key have ended. -/
def ended (c : Coordinator) (k : Key) : Nat := c.landed.countP (·.1.key == k)

/-- The registry lists the flights under way, each of them alone with its key and its name. -/
structure Orderly (c : Coordinator) : Prop where
  records : c.registry = c.flights.map fun x => (x.id.key, x.id)
  alone : (c.flights.map fun x => x.id.key).Nodup
  newest : ∀ x ∈ c.flights, x.id.turn = c.ended x.id.key
  older : ∀ l ∈ c.landed, l.1.turn < c.ended l.1.key

/-- Flights under way that fetch the same key are the same. -/
lemma Orderly.unique {x y} (inv : Orderly c) (mx : x ∈ c.flights) (my : y ∈ c.flights)
    (e : x.id.key = y.id.key) : x = y :=
  List.inj_on_of_nodup_map inv.alone mx my e

/-- A flight that has ended is not under way. -/
lemma Orderly.not_ended {x l} (inv : Orderly c) (mx : x ∈ c.flights) (ml : l ∈ c.landed) :
    l.1 ≠ x.id := by
  intro e
  have lt := inv.older l ml
  rw [e, inv.newest x mx] at lt
  exact Nat.lt_irrefl _ lt

/-- The record of a key is the flight of that key. -/
lemma Orderly.lookup_iff {k f} (inv : Orderly c) :
    c.registry.lookup k = some f ↔ f.key = k ∧ ∃ x ∈ c.flights, x.id = f := by
  rw [inv.records, lookup_key_iff inv.alone]
  constructor
  · rintro ⟨x, mx, rfl, rfl⟩
    exact ⟨rfl, x, mx, rfl⟩
  · rintro ⟨rfl, x, mx, rfl⟩
    exact ⟨x, mx, rfl, rfl⟩

/-- A key without a record has no flight. -/
lemma Orderly.lookup_none_iff {k} (inv : Orderly c) :
    c.registry.lookup k = none ↔ ∀ x ∈ c.flights, x.id.key ≠ k := by
  constructor
  · intro h x mx e
    have s := inv.lookup_iff.2 ⟨e, x, mx, rfl⟩
    rw [h] at s
    cases s
  · intro h
    cases e : c.registry.lookup k with
    | none => rfl
    | some f =>
      obtain ⟨ek, x, mx, rfl⟩ := inv.lookup_iff.1 e
      exact absurd ek (h x mx)

/-- Flights under way have different names. -/
lemma Orderly.ids_nodup (inv : Orderly c) : (c.flights.map Flight.id).Nodup := by
  refine .of_map FlightId.key ?_
  rw [List.map_map]
  exact inv.alone

/-- A flight is found under its name as long as it is under way. -/
lemma Orderly.flight?_iff {x f} (inv : Orderly c) :
    c.flight? f = some x ↔ x ∈ c.flights ∧ x.id = f :=
  find?_key_iff inv.ids_nodup

/-- A flight under way has left nothing yet. -/
lemma Orderly.outcome?_eq_none {x} (inv : Orderly c) (mx : x ∈ c.flights) :
    c.outcome? x.id = none := by
  refine List.lookup_eq_none_iff.2 fun l ml => ?_
  simpa using (inv.not_ended mx ml).symm

/-! ## Every event keeps order -/

/-- Order is a matter of the flights only. -/
lemma Orderly.congr (inv : Orderly c) (s : SameFlights c c') : Orderly c' := by
  have ended_eq : c'.ended = c.ended := by
    funext k
    simp only [ended, s.landed]
  constructor
  · rw [s.registry, s.flights, inv.records]
  · rw [s.flights]
    exact inv.alone
  · rw [s.flights, ended_eq]
    exact inv.newest
  · rw [s.landed, ended_eq]
    exact inv.older

/-- The name of a new flight counts the flights of its key that have ended. -/
lemma Orderly.turns_eq {k} (inv : Orderly c) (free : c.registry.lookup k = none) :
    c.turns k = c.ended k := by
  have none_here : c.flights.countP (·.id.key == k) = 0 := by
    refine List.countP_eq_zero.2 fun x mx => ?_
    simpa using inv.lookup_none_iff.1 free x mx
  simp only [turns, ended, none_here, Nat.zero_add]

/-- A flight is dispatched for a key that has none. -/
lemma Orderly.dispatched {k s} (inv : Orderly c) (free : c.registry.lookup k = none) :
    Orderly (c.dispatched now k s) := by
  have ended_eq : (c.dispatched now k s).ended = c.ended := rfl
  constructor
  · simp only [Coordinator.dispatched, inv.records, List.map_append, List.map_cons, List.map_nil]
  · simp only [Coordinator.dispatched, List.map_append, List.map_cons, List.map_nil]
    refine List.nodup_append.2 ⟨inv.alone, List.nodup_singleton _, ?_⟩
    intro k₁ m₁ k₂ m₂
    obtain ⟨x, mx, rfl⟩ := List.mem_map.1 m₁
    rw [List.mem_singleton.1 m₂]
    exact inv.lookup_none_iff.1 free x mx
  · intro x mx
    rcases List.mem_append.1 mx with mx | mx
    · exact inv.newest x mx
    · rw [List.mem_singleton.1 mx, ended_eq]
      exact inv.turns_eq free
  · exact inv.older

/-- A flight that asks the origin keeps its name. -/
lemma Orderly.departing {f} (inv : Orderly c) : Orderly (c.departing now f) := by
  have ids : ((c.departing now f).flights.map Flight.id) = c.flights.map Flight.id := by
    simp only [Coordinator.departing, List.map_map]
    refine List.map_congr_left fun x _ => ?_
    simp only [Function.comp_apply]
    split <;> rfl
  -- All that order says of the flights under way it says of their names.
  have view {α : Type} (g : FlightId → α) :
      ((c.departing now f).flights.map fun x => g x.id) = c.flights.map fun x => g x.id := by
    have h := congrArg (List.map g) ids
    simpa only [List.map_map, Function.comp_def] using h
  constructor
  · rw [view fun i => (i.key, i)]
    exact inv.records
  · rw [view FlightId.key]
    exact inv.alone
  · intro x mx
    have m : x.id ∈ c.flights.map Flight.id := ids ▸ List.mem_map_of_mem mx
    obtain ⟨y, my, e⟩ := List.mem_map.1 m
    rw [← e]
    exact inv.newest y my
  · exact inv.older

/-- A flight that ends takes its own record with it. -/
lemma Orderly.close {x o} (inv : Orderly c) (mx : x ∈ c.flights) : Orderly (c.close x.id o) := by
  have ended_eq (k : Key) :
      (c.close x.id o).ended k = c.ended k + if x.id.key = k then 1 else 0 := by
    simp only [ended, Coordinator.close, List.countP_append, List.countP_cons, List.countP_nil,
      beq_iff_eq, Nat.zero_add]
  constructor
  · simp only [Coordinator.close, inv.records, List.filter_map]
    rfl
  · exact inv.alone.sublist (List.filter_sublist.map _)
  · intro y my
    obtain ⟨my, ne⟩ := List.mem_filter.1 my
    -- The count that goes up is that of the key of `x`, and no flight of it is left.
    have other : x.id.key ≠ y.id.key := by
      intro e
      rw [inv.unique mx my e] at ne
      simp at ne
    rw [ended_eq, if_neg other]
    exact inv.newest y my
  · intro l ml
    rw [ended_eq]
    rcases List.mem_append.1 ml with ml | ml
    · exact Nat.lt_add_right _ (inv.older l ml)
    · rw [List.mem_singleton.1 ml, if_pos rfl, inv.newest x mx]
      exact Nat.lt_succ_self _

/-- Every event keeps order. -/
lemma Traffic.orderly {ev} (tr : Traffic setup now c ev c') (inv : Orderly c) : Orderly c' := by
  cases tr with
  | same s => exact inv.congr s
  | dispatched _ _ _ _ free _ s => exact (inv.dispatched free).congr s
  | departed _ _ s => exact inv.departing.congr s
  | landed h _ s =>
    obtain ⟨mx, rfl⟩ := inv.flight?_iff.1 h
    exact (inv.close mx).congr s

/-- A coordinator that nobody has called is orderly. -/
lemma start_orderly {shelf} : Orderly (start shelf) := by
  constructor <;> simp [start]

/-- Every run keeps order. -/
lemma Orderly.run {e : Edge} {events} (inv : Orderly e.coordinator) :
    Orderly (Edge.run setup e events).coordinator :=
  Edge.run_keeps (P := fun e => Orderly e.coordinator)
    (fun e ev inv => (step_shift setup e ev).traffic.orderly inv) inv

/-- Every moment of every run is orderly. -/
lemma run_orderly {limits events} :
    Orderly (Edge.run setup (Edge.start limits) events).coordinator :=
  Orderly.run start_orderly

/-! ## The registry is the list of flights -/

/-- At most one flight of a key is under way. -/
lemma Orderly.countP_le_one {k} (inv : Orderly c) (p : Flight → Bool) :
    c.flights.countP (fun x => x.id.key == k && p x) ≤ 1 :=
  calc
    c.flights.countP (fun x => x.id.key == k && p x) ≤ c.flights.countP (·.id.key == k) :=
      List.countP_mono_left fun x _ h => (Bool.and_eq_true_iff.1 h).1
    _ = (c.flights.map fun x => x.id.key).count k := by
      rw [List.count, List.countP_map]
      rfl
    _ ≤ 1 := List.nodup_iff_count_le_one.1 inv.alone k

/-- Without a flight, the record of its key is gone and all others are left. -/
lemma Orderly.lookup_close {x o k} (inv : Orderly c) (mx : x ∈ c.flights) :
    (c.close x.id o).registry.lookup k =
      if k = x.id.key then none else c.registry.lookup k := by
  have after := inv.close (o := o) mx
  split
  case isTrue e =>
    refine after.lookup_none_iff.2 fun y my => ?_
    obtain ⟨my, ne⟩ := List.mem_filter.1 my
    intro e'
    rw [inv.unique my mx (e'.trans e)] at ne
    simp at ne
  case isFalse ne =>
    refine Option.ext fun f => ?_
    rw [after.lookup_iff, inv.lookup_iff]
    refine and_congr_right fun e => ⟨?_, ?_⟩
    · rintro ⟨y, my, ey⟩
      exact ⟨y, (List.mem_filter.1 my).1, ey⟩
    · rintro ⟨y, my, rfl⟩
      refine ⟨y, List.mem_filter.2 ⟨my, ?_⟩, rfl⟩
      simp only [bne_iff_ne, ne_eq]
      intro e'
      exact ne (e ▸ congrArg FlightId.key e')

/-- At every moment of every run, and for every key: at most one question to the origin is open;
the registry has one record for a key exactly when a flight of that key has been dispatched and has
not ended, and the record names that flight and none that has ended; however a flight ends, it takes
its own record out of the registry and no other; and the number of records is the number of these
flights. -/
theorem single_flight (setup : Setup) (limits : Limits) (events : List Event) :
    let e := Edge.run setup (Edge.start limits) events
    let c := e.coordinator
    (∀ k, c.flights.countP (fun x => x.id.key == k && x.departed.isSome) ≤ 1) ∧
    (c.registry.map Prod.fst).Nodup ∧
    (∀ k f, c.registry.lookup k = some f ↔ f.key = k ∧ ∃ x ∈ c.flights, x.id = f) ∧
    (∀ k f, c.registry.lookup k = some f → c.outcome? f = none) ∧
    (∀ x ∈ c.flights, ∀ how, canLand setup e.now how x = true →
      let c' := (e.step setup (.land x.id how)).coordinator
      c'.flights = c.flights.filter (·.id != x.id) ∧
      ∀ k, c'.registry.lookup k = if k = x.id.key then none else c.registry.lookup k) ∧
    c.inFlight = c.flights.length := by
  intro e c
  have inv : Orderly c := run_orderly
  refine ⟨fun k => inv.countP_le_one _, ?_, fun k f => inv.lookup_iff, ?_, ?_, ?_⟩
  · rw [inv.records, List.map_map]
    exact inv.alone
  · intro k f h
    obtain ⟨_, x, mx, rfl⟩ := inv.lookup_iff.1 h
    exact inv.outcome?_eq_none mx
  · intro x mx how can c'
    have eq : c' = c.landing e.now x.id how := land_eq (inv.flight?_iff.2 ⟨mx, rfl⟩) can
    refine ⟨?_, fun k => ?_⟩
    · rw [eq, landing_flights.flights]
      rfl
    · rw [eq, landing_flights.registry, inv.lookup_close mx]
  · rw [inFlight, inv.records, List.length_map]

end EdgeCache.Coordinator
