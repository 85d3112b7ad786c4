import EdgeCache.Proofs.Coordinator.Callers
import EdgeCache.Proofs.Coordinator.Losses

/-!
# What is stored is not fetched again

A caller dispatches a flight only where the store gave it nothing twice and no flight of its key was
under way; what the store does give is a hit. So between two questions for a key the flight of the
first one lands, and if it has left an entry in the store, the key is taken out again or the store is
blind for it before a caller dispatches the other flight.
-/

namespace EdgeCache

namespace Edge

/-- What the first lookup of a call for a key gives. -/
def look (e : Edge) (k : Key) : Except Fault (Option Entry) :=
  (e.coordinator.shelf.get e.now k).1

/-- What the second lookup of a call for a key gives, if it comes to it. -/
def lookAgain (e : Edge) (k : Key) : Except Fault (Option Entry) :=
  ((e.coordinator.shelf.get e.now k).2.get e.now k).1

/-- No flight of a key is under way. -/
def Free (e : Edge) (k : Key) : Prop := ∀ x ∈ e.coordinator.flights, x.id.key ≠ k

/-- An event asks the origin for a key. -/
def Asks (setup : Setup) (e : Edge) (ev : Event) (k : Key) : Prop :=
  (e.step setup ev).coordinator.asked = e.coordinator.asked ++ [k]

/-- A flight can end so. -/
def Lands (setup : Setup) (e : Edge) (f : FlightId) (how : Landing) : Prop :=
  ∃ x, e.coordinator.flight? f = some x ∧ Coordinator.canLand setup e.now how x = true

/-- A caller that runs dispatches a flight of a key. -/
def Dispatches (setup : Setup) (e : Edge) (id : Nat) (k : Key) : Prop :=
  e.Free k ∧ ∃ x ∈ (e.step setup (.poll id)).coordinator.flights, x.id.key = k

end Edge

namespace Coordinator

variable {setup : Setup} {now : Nat} {c c' : Coordinator} {ev : Event}

/-! ## One event -/

/-- What a first run finds in the store is its answer, and a hit. -/
lemma Resolves.found {k p e} (res : Resolves setup now k c p c') (ok : setup.accepts k = .ok ())
    (found : (c.shelf.get now k).1 = .ok (some e) ∨
      (c.shelf.get now k).1 = .ok none ∧ c.registry.lookup k = none ∧
        ((c.shelf.get now k).2.get now k).1 = .ok (some e)) :
    p = .done (.ok e) ∧ c'.tally = { c.tally with hits := c.tally.hits + 1 } ∧
      SameFlights c c' := by
  cases res with
  | refused ok' =>
    rw [ok] at ok'
    cases ok'
  | failed _ g => simp [g] at found
  | hit _ g =>
    obtain rfl : _ = e := by simpa [g] using found
    exact ⟨rfl, rfl, rfl, rfl, rfl, rfl⟩
  | joined _ g reg => simp [g, reg] at found
  | failedAgain _ g _ g' => simp [g, g'] at found
  | hitAgain _ g reg g' =>
    obtain rfl : _ = e := by simpa [g, reg, g'] using found
    exact ⟨rfl, rfl, rfl, rfl, rfl, rfl⟩
  | dispatched _ g _ g' => simp [g, g'] at found

/-- A flight that was not there before an event has been dispatched by a caller of its key. -/
lemma Traffic.flight_new {x} (tr : Traffic setup now c ev c') (mx : x ∈ c'.flights)
    (new : ∀ y ∈ c.flights, y.id ≠ x.id) :
    ∃ id w s, ev = .poll id ∧ c.caller? id = some w ∧ w.stage = .idle ∧ w.key = x.id.key ∧
      setup.accepts x.id.key = .ok () ∧ c.shelf.get now x.id.key = (.ok none, s) ∧
      c.registry.lookup x.id.key = none ∧ s.get now x.id.key = (.ok none, c'.shelf) := by
  cases tr with
  | same s => exact absurd rfl (new x (s.flights ▸ mx))
  | dispatched h st ok g free g' s =>
    rw [s.flights] at mx
    rcases List.mem_append.1 mx with mx | mx
    · exact absurd rfl (new x mx)
    · rw [List.mem_singleton.1 mx]
      exact ⟨_, _, _, rfl, h, st, rfl, ok, g, free, g'⟩
  | departed _ _ s =>
    rw [s.flights] at mx
    obtain ⟨y, my, rfl⟩ := List.mem_map.1 mx
    refine absurd ?_ (new y my)
    split <;> rfl
  | landed _ _ s =>
    rw [s.flights] at mx
    exact absurd rfl (new x (List.mem_of_mem_filter mx))

/-- To ask the origin for a key is the departure of a flight of it, and the first one. -/
lemma Traffic.asked {k} (tr : Traffic setup now c ev c') (asked : c'.asked = c.asked ++ [k]) :
    ∃ f x, ev = .depart f ∧ f.key = k ∧ c.flight? f = some x ∧ x.departed = none := by
  cases tr with
  | same s =>
    rw [s.asked] at asked
    simp at asked
  | dispatched _ _ _ _ _ _ s =>
    rw [s.asked] at asked
    simp [Coordinator.dispatched] at asked
  | @departed f x c' h d s =>
    rw [s.asked] at asked
    exact ⟨f, x, rfl, List.singleton_inj.1 (List.append_cancel_left asked), h, d⟩
  | landed _ _ s =>
    rw [s.asked] at asked
    simp [close] at asked

/-- A flight that has asked the origin is under way until it lands. -/
lemma Traffic.departed_stays {y} (tr : Traffic setup now c ev c') (inv : Orderly c)
    (my : y ∈ c.flights) (d : y.departed.isSome = true) :
    (∃ y' ∈ c'.flights, y'.id = y.id ∧ y'.departed.isSome = true) ∨
      ∃ how, ev = .land y.id how ∧ canLand setup now how y = true := by
  cases tr with
  | same s => exact .inl ⟨y, s.flights ▸ my, rfl, d⟩
  | dispatched _ _ _ _ _ _ s => exact .inl ⟨y, s.flights ▸ List.mem_append_left _ my, rfl, d⟩
  | departed _ _ s =>
    rw [s.flights]
    refine .inl ⟨_, List.mem_map_of_mem my, ?_⟩
    split
    · exact ⟨rfl, rfl⟩
    · exact ⟨rfl, d⟩
  | @landed f how x o c' h can s =>
    obtain ⟨mx, rfl⟩ := inv.flight?_iff.1 h
    by_cases e : y.id = x.id
    · obtain rfl := inv.unique my mx (congrArg FlightId.key e)
      exact .inr ⟨how, rfl, can⟩
    · refine .inl ⟨y, s.flights ▸ List.mem_filter.2 ⟨my, ?_⟩, rfl, d⟩
      simpa using e

end Coordinator

namespace Edge

open Coordinator

variable {setup : Setup} {e : Edge} {ev ev' : Event} {events : List Event} {k : Key}
variable {f : FlightId} {how : Landing} {id : Nat}

/-- The end of a flight leaves its key without one. -/
lemma Lands.free (lands : e.Lands setup f how) (inv : Orderly e.coordinator) :
    (e.step setup (.land f how)).Free f.key := by
  obtain ⟨x, h, can⟩ := lands
  obtain ⟨mx, rfl⟩ := inv.flight?_iff.1 h
  intro y my eq
  simp only [step, act, land_eq h can, landing_flights.flights] at my
  obtain ⟨my, ne⟩ := List.mem_filter.1 my
  rw [inv.unique my mx eq] at ne
  simp at ne

/-- What lands is in the store, unless it is nothing to keep or the put fails or forgets it. -/
lemma Lands.stored {entry} (lands : e.Lands setup f how) (brought : how.entry? = some entry)
    (faithful : e.coordinator.shelf.writings.head?.getD .faithful = .faithful) :
    (e.step setup (.land f how)).store.contains f.key = true := by
  obtain ⟨x, h, can⟩ := lands
  have shelf : (e.step setup (.land f how)).coordinator.shelf =
      (e.coordinator.shelf.put e.now f.key entry).2 := by
    simp only [step, act, land_eq h can, landing_shelf, Landing.shelve, brought]
  rw [store, shelf, Shelf.put_faithful faithful]
  exact Store.contains_put

/-- A caller that dispatches a flight has been given nothing twice; if its key is in the store
afterwards, the store was blind both times. -/
lemma Dispatches.blind (sends : e.Dispatches setup id k)
    (here : (e.step setup (.poll id)).store.contains k = true) :
    ∃ rest, e.coordinator.shelf.readings = .blind :: .blind :: rest := by
  obtain ⟨free, x, mx, rfl⟩ := sends
  have new : ∀ y ∈ e.coordinator.flights, y.id ≠ x.id := fun y my eq =>
    free y my (congrArg FlightId.key eq)
  obtain ⟨_, _, s, _, _, _, _, _, g, _, g'⟩ := (step_shift setup e _).traffic.flight_new mx new
  rw [store] at here
  -- A lookup that misses and is not blind leaves nothing of the key, the second one as the first.
  rcases Shelf.get_missed g' with gone | ⟨same, again⟩
  · rw [gone] at here
    cases here
  · rw [same] at here
    rcases Shelf.get_missed g with gone | ⟨_, first⟩
    · rw [gone] at here
      cases here
    · exact ⟨_, first.trans (congrArg _ again)⟩

/-! ## Between two questions -/

/-- Between two questions for a key the flight of the first one lands. -/
lemma Asks.lands {mid} (first : e.Asks setup ev k) (inv : Orderly e.coordinator)
    (second : (run setup e (ev :: mid)).Asks setup ev' k) :
    ∃ m₁ f how m₂, mid = m₁ ++ .land f how :: m₂ ∧ f.key = k ∧
      (run setup e (ev :: m₁)).Lands setup f how := by
  obtain ⟨f, x, rfl, rfl, h, d⟩ := (step_shift setup e ev).traffic.asked first
  obtain ⟨mx, rfl⟩ := inv.flight?_iff.1 h
  have departed : ∃ y ∈ (e.step setup (.depart x.id)).coordinator.flights,
      y.id = x.id ∧ y.departed.isSome = true := by
    simp only [step, act, depart_eq h d, departing]
    refine ⟨_, List.mem_map_of_mem mx, ?_⟩
    rw [if_pos rfl]
    exact ⟨rfl, rfl⟩
  -- A flight asks only once, and while it is under way no other one of its key is.
  have ended : ¬ ∃ y ∈ (run setup (e.step setup (.depart x.id)) mid).coordinator.flights,
      y.id = x.id ∧ y.departed.isSome = true := by
    rintro ⟨y, my, ey, dy⟩
    obtain ⟨g, z, rfl, ek, h', d'⟩ := (step_shift setup _ ev').traffic.asked second
    have inv' : Orderly (run setup e (.depart x.id :: mid)).coordinator := inv.run
    obtain ⟨mz, rfl⟩ := inv'.flight?_iff.1 h'
    obtain rfl := inv'.unique my mz ((congrArg FlightId.key ey).trans ek.symm)
    rw [d'] at dy
    cases dy
  obtain ⟨m₁, ev₁, m₂, eq, ⟨y, my, ey, dy⟩, lost⟩ :=
    run_loses (P := fun e => ∃ y ∈ e.coordinator.flights, y.id = x.id ∧ y.departed.isSome = true)
      departed ended
  have inv₁ : Orderly (run setup e (.depart x.id :: m₁)).coordinator := inv.run
  rcases (step_shift setup _ ev₁).traffic.departed_stays inv₁ my dy with ⟨y', my', ey', dy'⟩ | land
  · exact absurd ⟨y', my', ey'.trans ey, dy'⟩ lost
  · obtain ⟨how, rfl, can⟩ := land
    exact ⟨m₁, y.id, how, m₂, eq, congrArg FlightId.key ey, y, inv₁.flight?_iff.2 ⟨my, rfl⟩, can⟩

/-- An event after which a key has a flight that had none is a caller's that dispatches it. -/
lemma Free.step (free : e.Free k) (taken : ¬ (e.step setup ev).Free k) :
    ∃ id, ev = .poll id ∧ e.Dispatches setup id k := by
  obtain ⟨x, mx, rfl⟩ : ∃ x ∈ (e.step setup ev).coordinator.flights, x.id.key = k := by
    by_contra none
    exact taken fun x mx ek => none ⟨x, mx, ek⟩
  have new : ∀ y ∈ e.coordinator.flights, y.id ≠ x.id := fun y my eq =>
    free y my (congrArg FlightId.key eq)
  obtain ⟨id, _, _, rfl, _⟩ := (step_shift setup e ev).traffic.flight_new mx new
  exact ⟨id, rfl, free, x, mx, rfl⟩

/-- A key that has no flight gets one only from a caller that dispatches it. -/
lemma Free.dispatched (free : e.Free k) (taken : ¬ (run setup e events).Free k) :
    ∃ before id after, events = before ++ .poll id :: after ∧
      (run setup e before).Dispatches setup id k := by
  obtain ⟨before, ev, after, eq, free, taken⟩ := run_loses (P := fun e => e.Free k) free taken
  obtain ⟨id, rfl, sends⟩ := free.step taken
  exact ⟨before, id, after, eq, sends⟩

/-- Where a flight of a key is dispatched after another has landed, nothing of the other was stored,
or the key was taken out of the store since, or the store is blind for it. -/
lemma Lands.dispatched_again (lands : e.Lands setup f how)
    (sends : (run setup e (.land f how :: events)).Dispatches setup id f.key) :
    how.entry? = none ∨ e.coordinator.shelf.writings.head?.getD .faithful ≠ .faithful ∨
      (∃ before ev after, events ++ [.poll id] = before ++ ev :: after ∧
        (run setup e (.land f how :: before)).Loses setup ev f.key) ∨
      ∃ rest, (run setup e (.land f how :: events)).coordinator.shelf.readings =
        .blind :: .blind :: rest := by
  cases brought : how.entry? with
  | none => exact .inl rfl
  | some entry =>
    by_cases faithful : e.coordinator.shelf.writings.head?.getD .faithful = .faithful
    · have stored := lands.stored brought faithful
      cases here : ((run setup e (.land f how :: events)).step setup (.poll id)).store.contains f.key
      · refine .inr (.inr (.inl (run_loses_key stored ?_)))
        rw [run_append]
        exact here
      · exact .inr (.inr (.inr (sends.blind here)))
    · exact .inr (.inl faithful)

/-- At every moment of every run:
(1) a flight that was not there before an event has been dispatched by a call of its key, whose two
lookups found nothing, while no flight of the key was under way;
(2) what the first lookup of a call finds, flight or no flight, or the second one if it comes to it,
is the result of the call at once; it is counted as one hit, and the registry, the flights and the
origin are left alone;
(3) whenever the origin is asked for a key and later once more, the flight of the first question has
landed in between, and a caller has dispatched another flight after that; and either the landing
brought nothing to keep, or the put failed or forgot it, or an event from then on took the key out
of the store, by a clear, by expiry or by eviction, or the store was blind for both lookups. -/
theorem stored_not_refetched (setup : Setup) (limits : Limits) (events : List Event) :
    let e := run setup (start limits) events
    let c := e.coordinator
    (∀ ev, ∀ x ∈ (e.step setup ev).coordinator.flights, (∀ y ∈ c.flights, y.id ≠ x.id) →
      ∃ id w, ev = .poll id ∧ c.caller? id = some w ∧ w.stage = .idle ∧ w.key = x.id.key ∧
        setup.accepts x.id.key = .ok () ∧ e.look x.id.key = .ok none ∧
        e.lookAgain x.id.key = .ok none ∧ e.Free x.id.key) ∧
    (∀ id w entry, c.caller? id = some w → w.stage = .idle → setup.accepts w.key = .ok () →
      (e.look w.key = .ok (some entry) ∨
        e.look w.key = .ok none ∧ e.Free w.key ∧ e.lookAgain w.key = .ok (some entry)) →
      let c' := (e.step setup (.poll id)).coordinator
      c'.caller? id = some { w with stage := .finished (.ok entry) } ∧
        c'.tally = { c.tally with hits := c.tally.hits + 1 } ∧ SameFlights c c') ∧
    (∀ ev mid ev' k, e.Asks setup ev k → (run setup e (ev :: mid)).Asks setup ev' k →
      ∃ m₁ f how m₂ id m₃, mid = m₁ ++ .land f how :: (m₂ ++ .poll id :: m₃) ∧ f.key = k ∧
        let a := run setup e (ev :: m₁)
        let d := run setup a (.land f how :: m₂)
        a.Lands setup f how ∧ d.Dispatches setup id k ∧
        (how.entry? = none ∨ a.coordinator.shelf.writings.head?.getD .faithful ≠ .faithful ∨
          (∃ before lost after, m₂ ++ [.poll id] = before ++ lost :: after ∧
            (run setup a (.land f how :: before)).Loses setup lost k) ∨
          ∃ rest, d.coordinator.shelf.readings = .blind :: .blind :: rest)) := by
  intro e c
  have inv : Orderly c := run_orderly
  refine ⟨?_, ?_, ?_⟩
  · intro ev x mx new
    obtain ⟨id, w, s, rfl, h, idle, ek, ok, g, reg, g'⟩ :=
      (step_shift setup e ev).traffic.flight_new mx new
    refine ⟨id, w, rfl, h, idle, ek, ok, ?_, ?_, inv.lookup_none_iff.1 reg⟩
    · rw [look, g]
    · rw [lookAgain, g, g']
  · intro id w entry h idle ok found c'
    rcases eq : c.resolve setup e.now w.key with ⟨p, c₁⟩
    have res := resolve_inv eq
    obtain ⟨rfl, hit, s⟩ := res.found ok <| found.imp_right fun ⟨missed, free, again⟩ =>
      ⟨missed, inv.lookup_none_iff.2 free, again⟩
    have polled : c' = c₁.finish id (.ok entry) := poll_answered h idle eq
    rw [polled, caller?_finish]
    exact ⟨caller?_setStage_self ((caller?_congr res.callers).trans h), hit, s.trans finish_flights⟩
  · intro ev mid ev' k first second
    obtain ⟨m₁, f, how, m₂, rfl, rfl, lands⟩ := first.lands inv second
    have inv' : Orderly (run setup e (ev :: m₁)).coordinator := inv.run
    -- The key has no flight after the landing, and the one that asks again has been dispatched since.
    have taken : ¬ (run setup ((run setup e (ev :: m₁)).step setup (.land f how)) m₂).Free f.key := by
      obtain ⟨g, y, rfl, ek, h, _⟩ := (step_shift setup _ ev').traffic.asked second
      rw [← List.cons_append, run_through] at h
      intro free
      have m := List.mem_of_find?_eq_some h
      exact free y m ((congrArg FlightId.key (by simpa using List.find?_some h)).trans ek)
    obtain ⟨m₂, id, m₃, rfl, sends⟩ := (lands.free inv').dispatched taken
    exact ⟨m₁, f, how, m₂, id, m₃, rfl, rfl, lands, sends, lands.dispatched_again sends⟩

/-- After a clear the next caller of a key has it fetched again. -/
theorem refetched_after_clear :
    let a := Key.letter 'a' (by decide)
    let mid : List Event := [.land ⟨a, 0⟩ (.arrived (.failure 404)), .clear, .call 2 a, .poll 2]
    ∃ m₁ f how m₂ id m₃, mid = m₁ ++ .land f how :: (m₂ ++ .poll id :: m₃) ∧ f.key = a := by
  intro a mid
  obtain ⟨m₁, f, how, m₂, id, m₃, eq, ek, _⟩ :=
    (stored_not_refetched ⟨fun _ => .ok (), 1⟩ ⟨0, none, 1⟩ [.call 1 a, .poll 1]).2.2
      (.depart ⟨a, 0⟩) mid (.depart ⟨a, 1⟩) a
      (by unfold Asks; decide +kernel) (by unfold Asks; decide +kernel)
  exact ⟨m₁, f, how, m₂, id, m₃, eq, ek⟩

end Edge

end EdgeCache
