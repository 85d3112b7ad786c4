import EdgeCache.Proofs.Coordinator.Inversion
import EdgeCache.Proofs.Store.Freshness
import EdgeCache.Proofs.Woven

/-!
# Sweeping and callers

Two coordinators over stores that hold the same, expired entries aside, and that are the same in all
else. An event happens to both in the same way, faults of the store included. A sweep happens to one
of them only, and leaves them so: callers cannot tell whether the store has been swept.
-/

namespace EdgeCache

/-- Whether an event is a sweep of the store. -/
def Event.isSweep : Event → Bool
  | .sweep => true
  | _ => false

/-- There is one event that is a sweep. -/
lemma Event.eq_sweep {ev : Event} (h : ev.isSweep = true) : ev = .sweep := by
  cases ev with
  | sweep => rfl
  | _ => cases h

namespace Shelf

variable {s s' t : Shelf} {now : Nat} {k : Key} {e : Entry}

/-- Two shelves that fail in the same way, and whose stores hold the same that has not expired. -/
structure SameFresh (now : Nat) (s s' : Shelf) : Prop where
  store : s.store.SameFresh now s'.store
  readings : s'.readings = s.readings
  writings : s'.writings = s.writings

namespace SameFresh

/-- Neither of two shelves is the one that is swept. -/
lemma symm (h : SameFresh now s s') : SameFresh now s' s :=
  ⟨h.store.symm, h.readings.symm, h.writings.symm⟩

/-- A lookup finds the same, or fails in the same way. -/
lemma get {found} (h : SameFresh now s s') (g : s.get now k = (found, t)) :
    ∃ t', s'.get now k = (found, t') ∧ SameFresh now t t' := by
  simp only [Shelf.get, h.readings] at g ⊢
  split at g
  case h_1 =>
    cases g
    rw [h.store.get_fst]
    exact ⟨_, rfl, h.store.get, rfl, h.writings⟩
  case h_2 =>
    cases g
    exact ⟨_, rfl, h.store, rfl, h.writings⟩
  case h_3 =>
    cases g
    exact ⟨_, rfl, h.store, rfl, h.writings⟩

/-- A put succeeds in both, or fails in the same way. -/
lemma put (h : SameFresh now s s') :
    (s'.put now k e).1 = (s.put now k e).1 ∧
      SameFresh now (s.put now k e).2 (s'.put now k e).2 := by
  simp only [Shelf.put, h.writings]
  split
  · exact ⟨rfl, h.store.put, h.readings, rfl⟩
  · exact ⟨rfl, h.store, h.readings, rfl⟩
  · exact ⟨rfl, h.store, h.readings, rfl⟩

end SameFresh

end Shelf

namespace Coordinator

variable {setup : Setup} {now t : Nat} {c c' c₁ : Coordinator} {k : Key} {id : Nat}

/-- Two coordinators that are the same but for entries in the store that have expired. -/
inductive SameFresh (now : Nat) (c : Coordinator) : Coordinator → Prop where
  | onShelves {s} :
    c.shelf.SameFresh now s →
    SameFresh now c { c with shelf := s }

namespace SameFresh

/-- The stores have the same fresh entries. -/
lemma shelf (h : SameFresh now c c') : c.shelf.SameFresh now c'.shelf := by
  cases h with
  | onShelves same => exact same

/-- Nothing but the store is different. -/
lemma rest (h : SameFresh now c c') : c' = { c with shelf := c'.shelf } := by
  cases h
  rfl

/-- Neither of two coordinators is the one whose store is swept. -/
lemma symm (h : SameFresh now c c') : SameFresh now c' c := by
  cases h with
  | onShelves same => exact onShelves same.symm

/-- What is fresh in both at one moment is fresh in both at the next. -/
lemma later (h : SameFresh now c c') (le : now ≤ t) : SameFresh t c c' := by
  cases h with
  | onShelves same => exact onShelves ⟨same.store.later le, same.readings, same.writings⟩

/-- What is done without the store is done to both. -/
lemma aside (f : Coordinator → Coordinator) (h : SameFresh now c c')
    (spares : ∀ s, f { c with shelf := s } = { f c with shelf := s }) :
    SameFresh now (f c) (f c') := by
  have kept := congrArg Coordinator.shelf (spares c.shelf)
  have own : (f c).shelf = c.shelf := kept
  cases h with
  | @onShelves s same =>
    rw [spares s]
    exact onShelves (own.symm ▸ same)

/-- A caller gets to the same stage on both sides. -/
lemma setStage {st : Stage} (h : SameFresh now c c') :
    SameFresh now (c.setStage id st) (c'.setStage id st) :=
  h.aside (·.setStage id st) fun _ => rfl

/-- A caller finishes on both sides. -/
lemma finish {r : Result} (h : SameFresh now c c') :
    SameFresh now (c.finish id r) (c'.finish id r) :=
  h.aside (·.finish id r) fun _ => by cases r <;> rfl

/-- A first run goes the same way in both. -/
lemma resolves {p} (h : SameFresh now c c') (res : Resolves setup now k c p c₁) :
    ∃ c₁', c'.resolve setup now k = (p, c₁') ∧ SameFresh now c₁ c₁' := by
  obtain @⟨s, same⟩ := h
  have read {found t} (g : s.get now k = (found, t)) :
      ({ c with shelf := s } : Coordinator).shelf.get now k = (found, t) := g
  have reg {f?} (r : c.registry.lookup k = f?) :
      ({ c with shelf := s } : Coordinator).registry.lookup k = f? := r
  cases res with
  | refused no => exact ⟨_, (Resolves.refused no).resolve_eq, onShelves same⟩
  | failed ok g =>
    obtain ⟨_, g', same⟩ := same.get g
    exact ⟨_, (Resolves.failed ok (read g')).resolve_eq, onShelves same⟩
  | hit ok g =>
    obtain ⟨_, g', same⟩ := same.get g
    exact ⟨_, (Resolves.hit ok (read g')).resolve_eq, onShelves same⟩
  | joined ok g r =>
    obtain ⟨_, g', same⟩ := same.get g
    exact ⟨_, (Resolves.joined ok (read g') (reg r)).resolve_eq, onShelves same⟩
  | failedAgain ok g r again =>
    obtain ⟨_, g', same⟩ := same.get g
    obtain ⟨_, again', same⟩ := same.get again
    exact ⟨_, (Resolves.failedAgain ok (read g') (reg r) again').resolve_eq, onShelves same⟩
  | hitAgain ok g r again =>
    obtain ⟨_, g', same⟩ := same.get g
    obtain ⟨_, again', same⟩ := same.get again
    exact ⟨_, (Resolves.hitAgain ok (read g') (reg r) again').resolve_eq, onShelves same⟩
  | dispatched ok g r again =>
    obtain ⟨_, g', same⟩ := same.get g
    obtain ⟨_, again', same⟩ := same.get again
    exact ⟨_, (Resolves.dispatched ok (read g') (reg r) again').resolve_eq, onShelves same⟩

/-- A caller that runs gets as far on both sides, for it is served what is fresh. -/
lemma poll (h : SameFresh now c c') :
    SameFresh now (c.poll setup now id) (c'.poll setup now id) := by
  have callers : c'.caller? id = c.caller? id := by rw [h.rest]; rfl
  have outcomes (f : FlightId) : c'.outcome? f = c.outcome? f := by rw [h.rest]; rfl
  cases hx : c.caller? id with
  | none => simpa only [Coordinator.poll, callers, hx] using h
  | some x =>
    cases st : x.stage with
    | idle =>
      rcases eq : c.resolve setup now x.key with ⟨r | f, c₁⟩
      · obtain ⟨c₁', eq', h₁⟩ := h.resolves (resolve_inv eq)
        rw [poll_answered hx st eq, poll_answered (callers.trans hx) st eq']
        exact h₁.finish
      · obtain ⟨c₁', eq', h₁⟩ := h.resolves (resolve_inv eq)
        rw [poll_attached hx st eq, poll_attached (callers.trans hx) st eq']
        exact h₁.setStage
    | waiting f =>
      cases left : c.outcome? f with
      | none => simpa only [Coordinator.poll, callers, hx, st, outcomes, left] using h
      | some o =>
        rw [poll_received hx st left,
          poll_received (callers.trans hx) st ((outcomes f).trans left)]
        exact h.finish
    | finished r => simpa only [Coordinator.poll, callers, hx, st] using h
    | cancelled => simpa only [Coordinator.poll, callers, hx, st] using h

/-- An entry is kept on both sides, or refused on both. -/
lemma keep {e : Entry} (h : SameFresh now c c') :
    (c'.keep now k e).1 = (c.keep now k e).1 ∧
      SameFresh now (c.keep now k e).2 (c'.keep now k e).2 := by
  obtain ⟨same⟩ := h
  obtain ⟨written, same⟩ := same.put (k := k) (e := e)
  simp only [Coordinator.keep]
  split
  · exact ⟨congrArg (Except.map fun _ => e) written, onShelves same⟩
  · exact ⟨congrArg (Except.map fun _ => e) written, onShelves same⟩

/-- A flight comes to the same end on both sides. -/
lemma settle (h : SameFresh now c c') (how : Landing) :
    (c'.settle now k how).1 = (c.settle now k how).1 ∧
      SameFresh now (c.settle now k how).2 (c'.settle now k how).2 := by
  cases how with
  | arrived e => exact ⟨congrArg some h.keep.1, h.keep.2⟩
  | refused fault => exact ⟨rfl, h⟩
  | crashed => exact ⟨rfl, h⟩
  | timedOut => exact ⟨congrArg some h.keep.1, h.keep.2⟩

/-- A flight lands on both sides, if it can. -/
lemma land {f : FlightId} {how : Landing} (h : SameFresh now c c') :
    SameFresh now (c.land setup now f how) (c'.land setup now f how) := by
  have flights : c'.flight? f = c.flight? f := by rw [h.rest]; rfl
  cases hx : c.flight? f with
  | none => simpa only [Coordinator.land, flights, hx] using h
  | some x =>
    cases can : canLand setup now how x with
    | false =>
      simpa only [Coordinator.land, flights, hx, can, Bool.false_eq_true, if_false] using h
    | true =>
      rw [land_eq hx can, land_eq (flights.trans hx) can, landing, landing]
      obtain ⟨same, settled⟩ := h.settle (k := f.key) how
      rw [same]
      exact settled.aside (·.close f _) fun _ => rfl

end SameFresh

end Coordinator

namespace Edge

variable {setup : Setup} {e e' : Edge} {ev : Event} {events events' : List Event}

/-- Two moments that are the same but for entries in the store that have expired. -/
structure SameFresh (e e' : Edge) : Prop where
  now : e'.now = e.now
  coordinator : e.coordinator.SameFresh e.now e'.coordinator

namespace SameFresh

/-- Where nothing bounds the store, a moment is like itself. -/
lemma refl (unbounded : e.store.limits.capacity = 0) : SameFresh e e :=
  ⟨rfl, .onShelves ⟨.refl unbounded, rfl, rfl⟩⟩

/-- Neither of two moments comes first. -/
lemma symm (h : SameFresh e e') : SameFresh e' e :=
  ⟨h.now.symm, h.now ▸ h.coordinator.symm⟩

/-- One of them is swept. -/
lemma skip_sweep (h : SameFresh e e') (setup : Setup) :
    SameFresh (e.step setup .sweep) e' := by
  obtain ⟨now, c⟩ := e
  obtain ⟨now', c'⟩ := e'
  obtain ⟨same, ⟨shelf⟩⟩ := h
  exact ⟨same, .onShelves ⟨shelf.store.skip_sweep, shelf.readings, shelf.writings⟩⟩

/-- An event that is no sweep happens to both in the same way. -/
lemma step (h : SameFresh e e') (other : ev.isSweep = false) :
    SameFresh (e.step setup ev) (e'.step setup ev) := by
  obtain ⟨t, c⟩ := e
  obtain ⟨t', c'⟩ := e'
  obtain ⟨same, h⟩ := h
  obtain rfl : t' = t := same
  cases ev with
  | call id k =>
    refine ⟨rfl, h.aside (·.call id k) fun s => ?_⟩
    have callers : ({ c with shelf := s } : Coordinator).caller? id = c.caller? id := rfl
    simp only [Coordinator.call, callers]
    split <;> rfl
  | poll id => exact ⟨rfl, h.poll⟩
  | cancel id =>
    refine ⟨rfl, h.aside (·.cancel id) fun s => ?_⟩
    have callers : ({ c with shelf := s } : Coordinator).caller? id = c.caller? id := rfl
    simp only [Coordinator.cancel, callers]
    split
    · rfl
    · split <;> rfl
  | depart f =>
    refine ⟨rfl, h.aside (·.depart t' f) fun s => ?_⟩
    have flights : ({ c with shelf := s } : Coordinator).flight? f = c.flight? f := rfl
    simp only [Coordinator.depart, flights]
    split <;> rfl
  | land f how => exact ⟨rfl, h.land⟩
  | elapse ms => exact ⟨rfl, h.later (Nat.le_add_right _ _)⟩
  | reading script =>
    obtain ⟨shelf⟩ := h
    exact ⟨rfl, .onShelves ⟨shelf.store, rfl, shelf.writings⟩⟩
  | writing script =>
    obtain ⟨shelf⟩ := h
    exact ⟨rfl, .onShelves ⟨shelf.store, shelf.readings, rfl⟩⟩
  | put k entry =>
    obtain ⟨shelf⟩ := h
    exact ⟨rfl, .onShelves ⟨shelf.store.put, shelf.readings, shelf.writings⟩⟩
  | get k =>
    obtain ⟨shelf⟩ := h
    exact ⟨rfl, .onShelves ⟨shelf.store.get, shelf.readings, shelf.writings⟩⟩
  | sweep => cases other
  | clear =>
    obtain ⟨shelf⟩ := h
    exact ⟨rfl, .onShelves ⟨shelf.store.clear, shelf.readings, shelf.writings⟩⟩

/-- Runs that are the same but for sweeps come to moments that are the same but for entries that
have expired. -/
lemma run (h : SameFresh e e')
    (same : events.filter (!·.isSweep) = events'.filter (!·.isSweep)) :
    SameFresh (Edge.run setup e events) (Edge.run setup e' events') := by
  refine (Woven.of_filter_eq same).foldl ?_ ?_ ?_ h
  · rintro e e' ev _ ⟨rfl, other⟩ h
    exact h.step (by simpa using other)
  · intro e e' ev sweeps h
    obtain rfl : ev = .sweep := Event.eq_sweep (by simpa using sweeps)
    exact h.skip_sweep setup
  · intro e e' ev sweeps h
    obtain rfl : ev = .sweep := Event.eq_sweep (by simpa using sweeps)
    exact (h.symm.skip_sweep setup).symm

end SameFresh

end Edge

end EdgeCache
