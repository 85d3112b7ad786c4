import EdgeCache.Proofs.Coordinator.Steady
import EdgeCache.Proofs.Store.Slot
import EdgeCache.Proofs.Woven

/-!
# One key among many

Two coordinators seen from one key. They are alike for the key if they have the same slot, the same
flights and outcomes and as many questions for it, and callers of it that are equally far. An event
that does not concern the key leaves a coordinator alike; one that does, happens in both.

Callers are numbered as they come, whatever their keys. So a caller has one number here and another
one there, and the pairs of them are kept beside the coordinators.
-/

namespace EdgeCache

/-- An event that is about another key. -/
def Event.Spares (k : Key) (c : Coordinator) : Event → Prop
  | .call _ j => j ≠ k
  | .poll id => ∀ x, c.caller? id = some x → x.key ≠ k
  | .cancel id => ∀ x, c.caller? id = some x → x.key ≠ k
  | .depart f => f.key ≠ k
  | .land f _ => f.key ≠ k
  | .put j _ => j ≠ k
  | .get j => j ≠ k
  | _ => False

namespace Coordinator

variable {setup : Setup} {now : Nat} {c c' c₁ : Coordinator} {ev : Event} {k : Key}
variable {twins : List (Nat × Nat)} {id id' : Nat}

/-- The callers of a key, in the order in which they came. -/
def callersFor (c : Coordinator) (k : Key) : List Caller := c.callers.filter (·.key == k)

/-- Who calls for a key is not changed by a new stage, but for the stage. -/
lemma callersFor_setStage {st : Stage} :
    (c.setStage id st).callersFor k =
      (c.callersFor k).map fun x => if x.id = id then { x with stage := st } else x := by
  refine filter_map_kept fun x _ => ?_
  split <;> rfl

/-- Nor are their numbers. -/
lemma callersFor_setStage_ids {st : Stage} :
    ((c.setStage id st).callersFor k).map Caller.id = (c.callersFor k).map Caller.id := by
  rw [callersFor_setStage, List.map_map]
  refine List.map_congr_left fun x _ => ?_
  simp only [Function.comp_apply]
  split <;> rfl

/-- A caller of another key is not among those of the key. -/
lemma callersFor_setStage_of_ne {st : Stage} (ne : ∀ x ∈ c.callersFor k, x.id ≠ id) :
    (c.setStage id st).callersFor k = c.callersFor k := by
  refine filter_map_spared (fun x _ => ?_) fun x mx ex => ?_
  · split <;> rfl
  · exact if_neg (ne x (List.mem_filter.2 ⟨mx, ex⟩))

/-- Results are handed out as callers are moved on. -/
lemma callersFor_finish {r : Result} :
    (c.finish id r).callersFor k = (c.setStage id (.finished r)).callersFor k := by
  cases r <;> rfl

/-- A first run leaves the flights alone or dispatches one. -/
lemma Resolves.flights {j : Key} {p} (res : Resolves setup now j c p c') :
    SameFlights c c' ∨ ∃ s, c' = c.dispatched now j s := by
  cases res with
  | refused => exact .inl .refl
  | failed => exact .inl ⟨rfl, rfl, rfl, rfl⟩
  | hit => exact .inl ⟨rfl, rfl, rfl, rfl⟩
  | joined => exact .inl ⟨rfl, rfl, rfl, rfl⟩
  | failedAgain => exact .inl ⟨rfl, rfl, rfl, rfl⟩
  | hitAgain => exact .inl ⟨rfl, rfl, rfl, rfl⟩
  | dispatched => exact .inr ⟨_, rfl⟩

/-! ## Events about other keys -/

/-- What a coordinator has of a key is as it was. -/
structure Unmoved (k : Key) (c c' : Coordinator) : Prop where
  store : Store.SameSlot k c.shelf.store c'.shelf.store
  flights : c'.flights.filter (·.id.key == k) = c.flights.filter (·.id.key == k)
  landed : c'.landed.filter (·.1.key == k) = c.landed.filter (·.1.key == k)
  asked : c'.fetches k = c.fetches k
  callers : c'.callersFor k = c.callersFor k

namespace Unmoved

/-- What does nothing moves nothing of a key. -/
lemma refl : Unmoved k c c := ⟨⟨rfl, rfl⟩, rfl, rfl, rfl, rfl⟩

/-- The flights are not what has moved. -/
lemma of_sameFlights (s : SameFlights c c') (store : Store.SameSlot k c.shelf.store c'.shelf.store)
    (callers : c'.callersFor k = c.callersFor k) : Unmoved k c c' :=
  ⟨store, by rw [s.flights], by rw [s.landed], by simp only [fetches, s.asked], callers⟩

/-- What moves nothing of a key twice moves nothing of it. -/
lemma trans (u : Unmoved k c c') (u' : Unmoved k c' c₁) : Unmoved k c c₁ :=
  ⟨u.store.trans u'.store, u'.flights.trans u.flights, u'.landed.trans u.landed,
    u'.asked.trans u.asked, u'.callers.trans u.callers⟩

/-- Callers of other keys may get to another stage. -/
lemma of_setStage {st : Stage} (ne : ∀ x ∈ c.callersFor k, x.id ≠ id) :
    Unmoved k c (c.setStage id st) :=
  of_sameFlights setStage_flights ⟨rfl, rfl⟩ (callersFor_setStage_of_ne ne)

/-- Callers of other keys may finish, with a fault or without. -/
lemma of_finish {r : Result} (ne : ∀ x ∈ c.callersFor k, x.id ≠ id) :
    Unmoved k c (c.finish id r) := by
  refine of_sameFlights finish_flights ?_ ?_
  · rw [finish_shelf]
    exact ⟨rfl, rfl⟩
  · rw [callersFor_finish, callersFor_setStage_of_ne ne]

/-- A call for another key may be resolved, where the store has room for all. -/
lemma of_resolves {j : Key} {p} (ample : c.shelf.Ample) (ne : k ≠ j)
    (res : Resolves setup now j c p c') : Unmoved k c c' := by
  have read {s : Shelf} (ample : s.Ample) : Store.SameSlot k s.store (s.get now j).2.store := by
    rw [ample.calm.get_eq]
    exact .of_get ne
  have store : Store.SameSlot k c.shelf.store c'.shelf.store := by
    rcases res.shelf with eq | eq | eq
    · rw [eq]
      exact ⟨rfl, rfl⟩
    · rw [eq]
      exact read ample
    · rw [eq]
      exact (read ample).trans (read ample.get)
  have callers : c'.callersFor k = c.callersFor k := by simp only [callersFor, res.callers]
  rcases res.flights with same | ⟨s, rfl⟩
  · exact of_sameFlights same store callers
  · refine ⟨store, ?_, rfl, rfl, rfl⟩
    simp [dispatched, ne.symm]

/-- A flight of another key may ask the origin. -/
lemma of_departing {f : FlightId} (ne : f.key ≠ k) : Unmoved k c (c.departing now f) := by
  refine ⟨⟨rfl, rfl⟩, ?_, rfl, ?_, rfl⟩
  · refine filter_map_spared (fun x _ => ?_) fun x _ ex => if_neg ?_
    · split <;> rfl
    · rintro rfl
      exact ne (by simpa using ex)
  · simp [departing, fetches, List.count_append, ne]

/-- A flight of another key may land, where the store has room for all. -/
lemma of_landing {f : FlightId} {how : Landing} (ample : c.shelf.Ample) (ne : f.key ≠ k) :
    Unmoved k c (c.landing now f how) := by
  have closed : SameFlights (c.close f (c.settle now f.key how).1) (c.landing now f how) :=
    landing_flights
  refine ⟨?_, ?_, ?_, ?_, ?_⟩
  · rw [landing_shelf, Landing.shelve]
    cases how.entry? with
    | none => exact ⟨rfl, rfl⟩
    | some e =>
      simp only [ample.calm.put_eq]
      exact .of_put ne.symm ample.unbounded
  · rw [closed.flights]
    refine filter_filter_spared fun x _ ex => ?_
    simp only [bne_iff_ne, ne_eq]
    rintro rfl
    exact ne (by simpa using ex)
  · rw [closed.landed]
    simp [close, ne]
  · simp only [fetches, closed.asked]
    rfl
  · simp only [callersFor, landing_callers]

end Unmoved

/-- An event that is about another key leaves what there is of the key. -/
theorem Shift.unmoved (sh : Shift setup now c ev c') (h : Steady c) (other : ev.Spares k c) :
    Unmoved k c c' := by
  -- A caller that moves on is of another key, so none of the callers of the key bears its number.
  have apart {id x} (hx : c.caller? id = some x) (ne : x.key ≠ k) :
      ∀ y ∈ c.callersFor k, y.id ≠ id := by
    intro y my same
    obtain ⟨my, ey⟩ := List.mem_filter.1 my
    have eq := h.caller?_iff.2 ⟨my, same⟩
    rw [hx] at eq
    cases eq
    exact ne (by simpa using ey)
  cases sh with
  | still => exact .refl
  | shelved done =>
    cases done with
    | reading => exact other.elim
    | writing => exact other.elim
    | put => exact ⟨.of_put other.symm h.shelf.unbounded, rfl, rfl, rfl, rfl⟩
    | get => exact ⟨.of_get other.symm, rfl, rfl, rfl, rfl⟩
    | sweep => exact other.elim
    | clear => exact other.elim
  | @called id j free =>
    have ne : j ≠ k := other
    refine ⟨⟨rfl, rfl⟩, rfl, rfl, rfl, ?_⟩
    simp [callersFor, ne]
  | answered hx _ res =>
    have ne := other _ hx
    have u := Unmoved.of_resolves h.shelf ne.symm (resolve_inv res)
    exact u.trans (.of_finish (u.callers ▸ apart hx ne))
  | attached hx _ res =>
    have ne := other _ hx
    have u := Unmoved.of_resolves h.shelf ne.symm (resolve_inv res)
    exact u.trans (.of_setStage (u.callers ▸ apart hx ne))
  | received hx => exact .of_finish (apart hx (other _ hx))
  | abandoned hx => exact .of_setStage (apart hx (other _ hx))
  | departed => exact .of_departing other
  | landed => exact .of_landing h.shelf other

/-! ## Two coordinators -/

/-- Two callers that are equally far, and whose numbers are paired. -/
def Twin (twins : List (Nat × Nat)) (x x' : Caller) : Prop :=
  x'.stage = x.stage ∧ (x.id, x'.id) ∈ twins

/-- Two coordinators that are alike for a key. The pairs are those of the numbers that its callers
have here and there. -/
structure Alike (k : Key) (twins : List (Nat × Nat)) (c c' : Coordinator) : Prop where
  store : Store.SameSlot k c.shelf.store c'.shelf.store
  flights : c'.flights.filter (·.id.key == k) = c.flights.filter (·.id.key == k)
  landed : c'.landed.filter (·.1.key == k) = c.landed.filter (·.1.key == k)
  asked : c'.fetches k = c.fetches k
  callers : List.Forall₂ (Twin twins) (c.callersFor k) (c'.callersFor k)
  lefts : (c.callersFor k).map Caller.id = twins.map Prod.fst
  rights : (c'.callersFor k).map Caller.id = twins.map Prod.snd

/-- No number is paired twice. -/
def Paired (twins : List (Nat × Nat)) : Prop := ∀ t ∈ twins, ∀ u ∈ twins, t.1 = u.1 ↔ t.2 = u.2

/-- No two callers of a key have the same number. -/
lemma Steady.numbered_for (h : Steady c) : ((c.callersFor k).map Caller.id).Nodup :=
  h.numbered.sublist (List.filter_sublist.map _)

/-- A lookup of a key finds the same in two stores that are alike for it. -/
lemma get_alike {s s' t : Shelf} {found} (h : s.Ample) (h' : s'.Ample)
    (store : Store.SameSlot k s.store s'.store) (g : s.get now k = (found, t)) :
    ∃ t', s'.get now k = (found, t') ∧ Store.SameSlot k t.store t'.store ∧ t.Ample ∧ t'.Ample := by
  rw [h.calm.get_eq] at g
  obtain ⟨rfl, rfl⟩ := Prod.mk.inj g
  refine ⟨s'.onStore fun st => (st.get now k).2, ?_, store.get, ?_, ?_⟩
  · rw [h'.calm.get_eq, store.get_fst]
  · exact h.onStore (f := fun st => (st.get now k).2) Store.get_limits
  · exact h'.onStore (f := fun st => (st.get now k).2) Store.get_limits

namespace Alike

/-! ### What both have -/

/-- What has not moved here is still alike. -/
lemma skip (a : Alike k twins c c') (u : Unmoved k c c₁) : Alike k twins c₁ c' := by
  refine ⟨?_, a.flights.trans u.flights.symm, a.landed.trans u.landed.symm,
    a.asked.trans u.asked.symm, u.callers ▸ a.callers, u.callers ▸ a.lefts, a.rights⟩
  exact ⟨a.store.limits.trans u.store.limits.symm, a.store.slot.trans u.store.slot.symm⟩

/-- Neither of two coordinators comes first. -/
lemma symm (a : Alike k twins c c') : Alike k (twins.map Prod.swap) c' c := by
  refine ⟨⟨a.store.limits.symm, a.store.slot.symm⟩, a.flights.symm, a.landed.symm, a.asked.symm,
    ?_, ?_, ?_⟩
  · refine a.callers.flip.imp fun x' x t => ⟨t.1.symm, ?_⟩
    exact List.mem_map.2 ⟨_, t.2, rfl⟩
  · rw [a.rights, List.map_map]
    rfl
  · rw [a.lefts, List.map_map]
    rfl

/-- The flights of the key are the same. -/
lemma flight?_eq (a : Alike k twins c c') {f : FlightId} (ek : f.key = k) :
    c'.flight? f = c.flight? f := by
  have find (l : List Flight) :
      l.find? (·.id == f) = (l.filter (·.id.key == k)).find? (·.id == f) := by
    refine (find?_filter_spared fun x ex => ?_).symm
    obtain rfl : x.id = f := by simpa using ex
    simpa using ek
  simp only [flight?, find c'.flights, find c.flights, a.flights]

/-- They have come to the same end. -/
lemma outcome?_eq (a : Alike k twins c c') {f : FlightId} (ek : f.key = k) :
    c'.outcome? f = c.outcome? f := by
  have look (l : List (FlightId × Outcome)) : l.lookup f = (l.filter (·.1.key == k)).lookup f :=
    (lookup_filter (p := fun f : FlightId => f.key == k) (by simpa using ek)).symm
  simp only [outcome?, look c'.landed, look c.landed, a.landed]

/-- The callers of the key are equally far in both. -/
lemma stages_eq (a : Alike k twins c c') :
    (c'.callersFor k).map Caller.stage = (c.callersFor k).map Caller.stage := by
  have same : List.Forall₂ (· = ·) ((c'.callersFor k).map Caller.stage)
      ((c.callersFor k).map Caller.stage) := by
    rw [List.forall₂_map_left_iff, List.forall₂_map_right_iff]
    exact a.callers.flip.imp fun _ _ t => t.1
  rwa [List.forall₂_eq_eq_eq] at same

/-- As many of them have been dispatched. -/
lemma turns_eq (a : Alike k twins c c') : c'.turns k = c.turns k := by
  simp only [turns, List.countP_eq_length_filter, a.flights, a.landed]

/-- The key has the same record. -/
lemma lookup_eq (a : Alike k twins c c') (h : Orderly c) (h' : Orderly c') :
    c'.registry.lookup k = c.registry.lookup k := by
  -- The registry tells what is under way, so the record of a key is that of its first flight.
  have look {c : Coordinator} (h : Orderly c) :
      c.registry.lookup k = ((c.flights.filter (·.id.key == k)).head?).map Flight.id := by
    rw [h.records, lookup_map_key, List.head?_filter]
  rw [look h, look h', a.flights]

/-- Each caller of the key has one twin, and is the twin of one. -/
lemma paired (a : Alike k twins c c') (h : Steady c) (h' : Steady c') : Paired twins := by
  have once : (twins.map Prod.fst).Nodup := a.lefts ▸ h.numbered_for
  have once' : (twins.map Prod.snd).Nodup := a.rights ▸ h'.numbered_for
  intro t mt u mu
  constructor
  · intro eq
    rw [List.inj_on_of_nodup_map once mt mu eq]
  · intro eq
    rw [List.inj_on_of_nodup_map once' mt mu eq]

/-- Two paired numbers are those of two callers of the key that are equally far. -/
lemma twin (a : Alike k twins c c') (h : Steady c) (h' : Steady c') (t : (id, id') ∈ twins) :
    ∃ x x', c.caller? id = some x ∧ c'.caller? id' = some x' ∧ x.key = k ∧ x'.key = k ∧
      x'.stage = x.stage := by
  have here : id ∈ (c.callersFor k).map Caller.id := a.lefts ▸ List.mem_map.2 ⟨_, t, rfl⟩
  obtain ⟨x, mx, rfl⟩ := List.mem_map.1 here
  obtain ⟨x', mx', same, tw⟩ := exists_counterpart a.callers mx
  obtain rfl : x'.id = id' := (a.paired h h' _ tw _ t).1 rfl
  obtain ⟨mx, ex⟩ := List.mem_filter.1 mx
  obtain ⟨mx', ex'⟩ := List.mem_filter.1 mx'
  exact ⟨x, x', h.caller?_iff.2 ⟨mx, rfl⟩, h'.caller?_iff.2 ⟨mx', rfl⟩, by simpa using ex,
    by simpa using ex', same⟩

/-- A number that is not paired is not that of a caller of the key. -/
lemma stranger (a : Alike k twins c c') (h : Steady c) (alone : id ∉ twins.map Prod.fst) :
    ∀ x, c.caller? id = some x → x.key ≠ k := by
  rintro x hx rfl
  obtain ⟨mx, rfl⟩ := h.caller?_iff.1 hx
  refine alone (a.lefts ▸ List.mem_map.2 ⟨x, ?_, rfl⟩)
  exact List.mem_filter.2 ⟨mx, by simp⟩

/-! ### What both do -/

/-- Whatever becomes of the rest of the store, the slot of the key decides. -/
lemma shelved (a : Alike k twins c c') {s s' : Shelf} {t t' : Tally}
    (store : Store.SameSlot k s.store s'.store) :
    Alike k twins { c with shelf := s, tally := t } { c' with shelf := s', tally := t' } :=
  ⟨store, a.flights, a.landed, a.asked, a.callers, a.lefts, a.rights⟩

/-- A flight of the key is dispatched on both sides. -/
lemma dispatched (a : Alike k twins c c') {s s' : Shelf}
    (store : Store.SameSlot k s.store s'.store) :
    Alike k twins (c.dispatched now k s) (c'.dispatched now k s') := by
  refine ⟨store, ?_, a.landed, a.asked, a.callers, a.lefts, a.rights⟩
  simp only [Coordinator.dispatched, List.filter_append, a.flights, a.turns_eq]

/-- A first run of the key goes the same way in both. -/
lemma resolves {p} (a : Alike k twins c c') (h : Steady c) (h' : Steady c')
    (res : Resolves setup now k c p c₁) :
    ∃ c₁', c'.resolve setup now k = (p, c₁') ∧ Alike k twins c₁ c₁' := by
  have reg {f?} (r : c.registry.lookup k = f?) : c'.registry.lookup k = f? :=
    (a.lookup_eq h.orderly h'.orderly).trans r
  cases res with
  | refused no => exact ⟨_, (Resolves.refused no).resolve_eq, a⟩
  | failed ok g =>
    obtain ⟨s', g', store, _⟩ := get_alike h.shelf h'.shelf a.store g
    exact ⟨_, (Resolves.failed ok g').resolve_eq, a.shelved store⟩
  | hit ok g =>
    obtain ⟨s', g', store, _⟩ := get_alike h.shelf h'.shelf a.store g
    exact ⟨_, (Resolves.hit ok g').resolve_eq, a.shelved store⟩
  | joined ok g r =>
    obtain ⟨s', g', store, _⟩ := get_alike h.shelf h'.shelf a.store g
    exact ⟨_, (Resolves.joined ok g' (reg r)).resolve_eq, a.shelved store⟩
  | failedAgain ok g r again =>
    obtain ⟨s', g', store, am, am'⟩ := get_alike h.shelf h'.shelf a.store g
    obtain ⟨t', again', store, _⟩ := get_alike am am' store again
    exact ⟨_, (Resolves.failedAgain ok g' (reg r) again').resolve_eq, a.shelved store⟩
  | hitAgain ok g r again =>
    obtain ⟨s', g', store, am, am'⟩ := get_alike h.shelf h'.shelf a.store g
    obtain ⟨t', again', store, _⟩ := get_alike am am' store again
    exact ⟨_, (Resolves.hitAgain ok g' (reg r) again').resolve_eq, a.shelved store⟩
  | dispatched ok g r again =>
    obtain ⟨s', g', store, am, am'⟩ := get_alike h.shelf h'.shelf a.store g
    obtain ⟨t', again', store, _⟩ := get_alike am am' store again
    refine ⟨_, ?_, a.dispatched store⟩
    rw [← a.turns_eq]
    exact (Resolves.dispatched ok g' (reg r) again').resolve_eq

/-- Twins get to a stage together. -/
lemma setStage (a : Alike k twins c c') (p : Paired twins) (t : (id, id') ∈ twins) (st : Stage) :
    Alike k twins (c.setStage id st) (c'.setStage id' st) := by
  refine ⟨a.store, a.flights, a.landed, a.asked, ?_, ?_, ?_⟩
  · rw [callersFor_setStage, callersFor_setStage, List.forall₂_map_left_iff,
      List.forall₂_map_right_iff]
    refine a.callers.imp fun x x' tw => ?_
    by_cases eq : x.id = id
    · have eq' : x'.id = id' := (p _ tw.2 _ t).1 eq
      rw [if_pos eq, if_pos eq']
      exact ⟨rfl, tw.2⟩
    · have ne' : x'.id ≠ id' := fun eq' => eq ((p _ tw.2 _ t).2 eq')
      rw [if_neg eq, if_neg ne']
      exact tw
  · rw [callersFor_setStage_ids, a.lefts]
  · rw [callersFor_setStage_ids, a.rights]

/-- Twins finish together. -/
lemma finish (a : Alike k twins c c') (p : Paired twins) (t : (id, id') ∈ twins) (r : Result) :
    Alike k twins (c.finish id r) (c'.finish id' r) := by
  have moved := a.setStage p t (.finished r)
  cases r <;> exact moved.shelved moved.store

/-- A flight asks the origin on both sides. -/
lemma departing (a : Alike k twins c c') {f : FlightId} :
    Alike k twins (c.departing now f) (c'.departing now f) := by
  refine ⟨a.store, ?_, a.landed, ?_, a.callers, a.lefts, a.rights⟩
  · simp only [Coordinator.departing]
    rw [filter_map_kept, filter_map_kept, a.flights]
    · intro x _
      split <;> rfl
    · intro x _
      split <;> rfl
  · have asked := a.asked
    simp only [fetches] at asked
    simp only [fetches, Coordinator.departing, List.count_append, asked]

/-- A flight of the key lands on both sides, and hands out the same. -/
lemma landing (a : Alike k twins c c') (h : Steady c) (h' : Steady c') {f : FlightId}
    {how : Landing} : Alike k twins (c.landing now f how) (c'.landing now f how) := by
  have closed : SameFlights (c.close f (c.settle now f.key how).1) (c.landing now f how) :=
    landing_flights
  have closed' : SameFlights (c'.close f (c'.settle now f.key how).1) (c'.landing now f how) :=
    landing_flights
  refine ⟨?_, ?_, ?_, ?_, ?_, ?_, ?_⟩
  · rw [landing_shelf, landing_shelf, Landing.shelve, Landing.shelve]
    cases how.entry? with
    | none => exact a.store
    | some e =>
      simp only [h.shelf.calm.put_eq, h'.shelf.calm.put_eq]
      exact a.store.put h.shelf.unbounded
  · rw [closed.flights, closed'.flights]
    simp only [close]
    rw [List.filter_comm, a.flights, List.filter_comm]
  · rw [closed.landed, closed'.landed]
    simp only [close, List.filter_append, a.landed, settle_ample h.shelf h'.shelf]
  · have asked := a.asked
    simp only [fetches, close, closed.asked, closed'.asked] at asked ⊢
    exact asked
  · simpa only [callersFor, landing_callers] using a.callers
  · simpa only [callersFor, landing_callers] using a.lefts
  · simpa only [callersFor, landing_callers] using a.rights

/-- Twins come together. -/
lemma called (a : Alike k twins c c') :
    Alike k (twins ++ [(id, id')]) { c with callers := c.callers ++ [⟨id, k, .idle⟩] }
      { c' with callers := c'.callers ++ [⟨id', k, .idle⟩] } := by
  have more {c : Coordinator} {id : Nat} :
      ({ c with callers := c.callers ++ [⟨id, k, .idle⟩] } : Coordinator).callersFor k =
        c.callersFor k ++ [⟨id, k, .idle⟩] := by
    simp [callersFor]
  refine ⟨a.store, a.flights, a.landed, a.asked, ?_, ?_, ?_⟩
  · rw [more, more]
    refine List.rel_append (a.callers.imp fun x x' t => ?_) (.cons ?_ .nil)
    · exact ⟨t.1, List.mem_append_left _ t.2⟩
    · exact ⟨rfl, List.mem_append_right _ List.mem_cons_self⟩
  · rw [more, List.map_append, List.map_append, a.lefts]
    rfl
  · rw [more, List.map_append, List.map_append, a.rights]
    rfl

/-! ### Event for event -/

/-- Twins that are polled get as far as each other. -/
lemma poll (a : Alike k twins c c') (h : Steady c) (h' : Steady c') (t : (id, id') ∈ twins) :
    Alike k twins (c.poll setup now id) (c'.poll setup now id') := by
  have p := a.paired h h'
  obtain ⟨x, x', hx, hx', ex, ex', same⟩ := a.twin h h' t
  cases st : x.stage with
  | idle =>
    rcases eq : c.resolve setup now x.key with ⟨r | f, c₁⟩
    · obtain ⟨c₁', eq', a₁⟩ := a.resolves h h' (ex ▸ resolve_inv eq)
      rw [poll_answered hx st eq, poll_answered hx' (same.trans st) (ex' ▸ eq')]
      exact a₁.finish p t r
    · obtain ⟨c₁', eq', a₁⟩ := a.resolves h h' (ex ▸ resolve_inv eq)
      rw [poll_attached hx st eq, poll_attached hx' (same.trans st) (ex' ▸ eq')]
      exact a₁.setStage p t (.waiting f)
  | waiting f =>
    obtain ⟨ef, _⟩ := h.attended id x f hx st
    have left' := a.outcome?_eq (ef.trans ex)
    cases left : c.outcome? f with
    | none => simpa only [Coordinator.poll, hx, hx', st, same, left', left] using a
    | some o =>
      rw [poll_received hx st left, poll_received hx' (same.trans st) (left'.trans left), ex, ex']
      exact a.finish p t _
  | finished r => simpa only [Coordinator.poll, hx, hx', st, same] using a
  | cancelled => simpa only [Coordinator.poll, hx, hx', st, same] using a

/-- Twins are abandoned together. -/
lemma cancel (a : Alike k twins c c') (h : Steady c) (h' : Steady c') (t : (id, id') ∈ twins) :
    Alike k twins (c.cancel id) (c'.cancel id') := by
  have moved := a.setStage (a.paired h h') t .cancelled
  obtain ⟨x, x', hx, hx', _, _, same⟩ := a.twin h h' t
  cases st : x.stage with
  | idle => simpa only [Coordinator.cancel, hx, hx', st, same] using moved
  | waiting f => simpa only [Coordinator.cancel, hx, hx', st, same] using moved
  | finished r => simpa only [Coordinator.cancel, hx, hx', st, same] using a
  | cancelled => simpa only [Coordinator.cancel, hx, hx', st, same] using a

/-- A flight of the key departs on both sides, if it is there. -/
lemma depart (a : Alike k twins c c') {f : FlightId} (ek : f.key = k) :
    Alike k twins (c.depart now f) (c'.depart now f) := by
  have flight' := a.flight?_eq ek
  rcases flight : c.flight? f with _ | ⟨g, since, _ | t⟩
  · simpa only [Coordinator.depart, flight', flight] using a
  · rw [depart_eq flight rfl, depart_eq (flight'.trans flight) rfl]
    exact a.departing
  · simpa only [Coordinator.depart, flight', flight] using a

/-- A flight of the key lands on both sides, if it can. -/
lemma land (a : Alike k twins c c') (h : Steady c) (h' : Steady c') {f : FlightId} {how : Landing}
    (ek : f.key = k) : Alike k twins (c.land setup now f how) (c'.land setup now f how) := by
  have flight' := a.flight?_eq ek
  cases flight : c.flight? f with
  | none => simpa only [Coordinator.land, flight', flight] using a
  | some x =>
    cases can : canLand setup now how x with
    | false =>
      simpa only [Coordinator.land, flight', flight, can, Bool.false_eq_true, if_false] using a
    | true =>
      rw [land_eq flight can, land_eq (flight'.trans flight) can]
      exact a.landing h h'

end Alike

end Coordinator

namespace Edge

open Coordinator

variable {k : Key} {twins : List (Nat × Nat)} {e e' : Edge} {ev ev' : Event}

/-- Events that are the same for a key: callers that are twins do the same, and so do the flights of
the key and all who use the store for it. -/
inductive Matches (k : Key) (twins : List (Nat × Nat)) : Event → Event → Prop where
  | poll {id id'} :
    (id, id') ∈ twins →
    Matches k twins (.poll id) (.poll id')
  | cancel {id id'} :
    (id, id') ∈ twins →
    Matches k twins (.cancel id) (.cancel id')
  | depart {f} :
    f.key = k →
    Matches k twins (.depart f) (.depart f)
  | land {f how} :
    f.key = k →
    Matches k twins (.land f how) (.land f how)
  | elapse {ms} :
    Matches k twins (.elapse ms) (.elapse ms)
  | put {entry} :
    Matches k twins (.put k entry) (.put k entry)
  | get :
    Matches k twins (.get k) (.get k)
  | sweep :
    Matches k twins .sweep .sweep
  | clear :
    Matches k twins .clear .clear

/-- Two moments that are alike for a key, over stores without faults and bounds. -/
structure Alike (k : Key) (twins : List (Nat × Nat)) (e e' : Edge) : Prop where
  now : e'.now = e.now
  here : Steady e.coordinator
  there : Steady e'.coordinator
  alike : Coordinator.Alike k twins e.coordinator e'.coordinator

namespace Alike

/-- Neither of two moments comes first. -/
lemma symm (a : Alike k twins e e') : Alike k (twins.map Prod.swap) e' e :=
  ⟨a.now.symm, a.there, a.here, a.alike.symm⟩

/-- An event about another key leaves a moment alike. -/
lemma skip (setup : Setup) (a : Alike k twins e e') (other : ev.Spares k e.coordinator) :
    Alike k twins (e.step setup ev) e' := by
  have fine : ev.isFault = false := by
    cases ev with
    | reading => exact other.elim
    | writing => exact other.elim
    | _ => rfl
  have now : (e.step setup ev).now = e.now := by
    cases ev with
    | elapse => exact other.elim
    | _ => rfl
  have sh := step_shift setup e ev
  exact ⟨a.now.trans now.symm, a.here.shift sh fine, a.there,
    a.alike.skip (sh.unmoved a.here other)⟩

/-- Events that are the same for a key leave two moments alike. -/
lemma step (setup : Setup) (a : Alike k twins e e') (m : Matches k twins ev ev') :
    Alike k twins (e.step setup ev) (e'.step setup ev') := by
  have here : Steady (e.step setup ev).coordinator :=
    a.here.shift (step_shift setup e ev) (by cases m <;> rfl)
  have there : Steady (e'.step setup ev').coordinator :=
    a.there.shift (step_shift setup e' ev') (by cases m <;> rfl)
  obtain ⟨same, h, h', al⟩ := a
  obtain ⟨now, c⟩ := e
  obtain ⟨now', c'⟩ := e'
  obtain rfl : now' = now := same
  cases m with
  | poll t => exact ⟨rfl, here, there, al.poll h h' t⟩
  | cancel t => exact ⟨rfl, here, there, al.cancel h h' t⟩
  | depart ek => exact ⟨rfl, here, there, al.depart ek⟩
  | land ek => exact ⟨rfl, here, there, al.land h h' ek⟩
  | elapse => exact ⟨rfl, here, there, al⟩
  | put => exact ⟨rfl, here, there, al.shelved (al.store.put h.shelf.unbounded)⟩
  | get => exact ⟨rfl, here, there, al.shelved al.store.get⟩
  | sweep => exact ⟨rfl, here, there, al.shelved al.store.sweep⟩
  | clear => exact ⟨rfl, here, there, al.shelved al.store.clear⟩

/-- A call for the key comes on both sides, under numbers that are free. -/
lemma call {id id' : Nat} (setup : Setup) (a : Alike k twins e e')
    (free : e.coordinator.caller? id = none) (free' : e'.coordinator.caller? id' = none) :
    Alike k (twins ++ [(id, id')]) (e.step setup (.call id k)) (e'.step setup (.call id' k)) := by
  refine ⟨a.now, a.here.shift (step_shift setup e _) rfl, a.there.shift (step_shift setup e' _) rfl,
    ?_⟩
  simp only [Edge.step, act, Coordinator.call, free, free', Option.isSome_none, Bool.false_eq_true,
    if_false]
  exact a.alike.called

end Alike

end Edge

end EdgeCache
