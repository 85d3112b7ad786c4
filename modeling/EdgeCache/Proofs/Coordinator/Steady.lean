import EdgeCache.Proofs.Coordinator.FanOut
import EdgeCache.Proofs.Coordinator.Losses

/-!
# Stores without faults and bounds

A coordinator over a store that has room for everything and never fails. It stays one as long as
nobody makes the store fail, and then a lookup gives what the store gives and a put keeps what it is
given.
-/

namespace EdgeCache

/-- Whether an event sets how the store fails. -/
def Event.isFault : Event → Bool
  | .reading _ => true
  | .writing _ => true
  | _ => false

namespace Shelf

variable {s s' : Shelf} {now : Nat} {k : Key} {e : Entry} {ev : Event}

/-- A store that does not fail. -/
structure Calm (s : Shelf) : Prop where
  readings : s.readings = []
  writings : s.writings = []

namespace Calm

/-- A lookup gives what the store gives. -/
lemma get_eq (h : s.Calm) :
    s.get now k = (.ok (s.store.get now k).1, s.onStore fun st => (st.get now k).2) := by
  simp only [Shelf.get, onStore, h.readings, List.head?_nil, Option.getD_none, List.tail_nil]

/-- A put keeps what it is given. -/
lemma put_eq (h : s.Calm) : s.put now k e = (.ok (), s.onStore (Store.put now k e)) := by
  simp only [Shelf.put, onStore, h.writings, List.head?_nil, Option.getD_none, List.tail_nil]

/-- A lookup leaves the store calm. -/
lemma get (h : s.Calm) : (s.get now k).2.Calm := by
  rw [h.get_eq]
  exact ⟨h.readings, h.writings⟩

/-- So does a put. -/
lemma put (h : s.Calm) : (s.put now k e).2.Calm := by
  rw [h.put_eq]
  exact ⟨h.readings, h.writings⟩

/-- What is done past the coordinator leaves the store calm, unless it makes it fail. -/
lemma handled (h : s.Calm) (done : Coordinator.Handled now s ev s') (fine : ev.isFault = false) :
    s'.Calm := by
  cases done with
  | reading => cases fine
  | writing => cases fine
  | put => exact ⟨h.readings, h.writings⟩
  | get => exact ⟨h.readings, h.writings⟩
  | sweep => exact ⟨h.readings, h.writings⟩
  | clear => exact ⟨h.readings, h.writings⟩

end Calm

/-- A store that has room for everything and does not fail. -/
structure Ample (s : Shelf) : Prop where
  readings : s.readings = []
  writings : s.writings = []
  unbounded : s.store.limits.capacity = 0

namespace Ample

/-- A store with room for all is one without trouble. -/
lemma calm (h : s.Ample) : s.Calm := ⟨h.readings, h.writings⟩

/-- What leaves the limits of the store leaves it ample. -/
lemma onStore (h : s.Ample) {f : Store → Store} (kept : (f s.store).limits = s.store.limits) :
    (s.onStore f).Ample :=
  ⟨h.readings, h.writings, by rw [← h.unbounded, ← kept]; rfl⟩

/-- A lookup takes no room. -/
lemma get (h : s.Ample) : (s.get now k).2.Ample := by
  rw [h.calm.get_eq]
  exact h.onStore (f := fun st => (st.get now k).2) Store.get_limits

/-- A put leaves room for all, where nothing bounds the store. -/
lemma put (h : s.Ample) : (s.put now k e).2.Ample := by
  rw [h.calm.put_eq]
  exact h.onStore Store.put_limits

/-- However the store is used, it has room for all. -/
lemma handled (h : s.Ample) (done : Coordinator.Handled now s ev s') (fine : ev.isFault = false) :
    s'.Ample := by
  cases done with
  | reading => cases fine
  | writing => cases fine
  | put => exact h.onStore Store.put_limits
  | get => exact h.onStore Store.get_limits
  | sweep => exact h.onStore rfl
  | clear => exact h.onStore rfl

end Ample

end Shelf

namespace Coordinator

variable {setup : Setup} {now : Nat} {c c' : Coordinator} {ev : Event} {k : Key}

/-- Nothing but a fault brings trouble. -/
lemma Shift.calm (sh : Shift setup now c ev c') (h : c.shelf.Calm) (fine : ev.isFault = false) :
    c'.shelf.Calm :=
  sh.shelf_keeps h (fun _ _ calm => calm.get) (fun _ _ _ calm => calm.put)
    fun _ _ done calm => calm.handled done fine

/-- A coordinator in good order, over a store that has room for everything and does not fail. -/
structure Steady (c : Coordinator) : Prop where
  orderly : Orderly c
  attended : Attended c
  numbered : (c.callers.map Caller.id).Nodup
  shelf : c.shelf.Ample

/-- What is put into a store that does not fail is what the callers get. -/
lemma keep_calm {e : Entry} (h : c.shelf.Calm) : (c.keep now k e).1 = .ok e := by
  have put {c : Coordinator} (h : c.shelf.Calm) : (c.shelf.put now k e).1 = .ok () := by
    rw [h.put_eq]
  simp only [keep]
  split
  · rw [put (c := c.count _) h]
    rfl
  · rw [put h]
    rfl

/-- What a flight brings is what it leaves, if the store does not fail. -/
lemma settle_calm {how : Landing} {x : Entry} (h : c.shelf.Calm) (brought : how.entry? = some x) :
    (c.settle now k how).1 = some (.ok x) := by
  cases how with
  | arrived e =>
    cases brought
    exact congrArg some (keep_calm h)
  | refused fault => cases brought
  | crashed => cases brought
  | timedOut =>
    cases brought
    exact congrArg some (keep_calm h)

/-- What an ending leaves for the callers does not hang on a store that does not fail. -/
lemma settle_ample {how : Landing} (h : c.shelf.Ample) (h' : c'.shelf.Ample) :
    (c'.settle now k how).1 = (c.settle now k how).1 := by
  cases brought : how.entry? with
  | some x => rw [settle_calm h.calm brought, settle_calm h'.calm brought]
  | none =>
    cases how with
    | arrived e => cases brought
    | refused fault => rfl
    | crashed => rfl
    | timedOut => cases brought

namespace Steady

/-- A caller is found by its number. -/
lemma caller?_iff {id x} (h : Steady c) : c.caller? id = some x ↔ x ∈ c.callers ∧ x.id = id :=
  find?_key_iff h.numbered

/-- A step that is no fault keeps a coordinator steady. -/
lemma shift (h : Steady c) (sh : Shift setup now c ev c') (fine : ev.isFault = false) :
    Steady c' := by
  refine ⟨sh.traffic.orderly h.orderly, sh.attended h.orderly h.attended,
    sh.numbered h.numbered, ?_⟩
  exact sh.shelf_keeps h.shelf (fun _ _ ample => ample.get) (fun _ _ _ ample => ample.put)
    fun _ _ done ample => ample.handled done fine

end Steady

/-- Over a store without a bound the start is steady. -/
lemma start_steady {limits : Limits} (unbounded : limits.capacity = 0) :
    Steady (start (.reliable (.empty limits))) := by
  refine ⟨start_orderly, ?_, .nil, ⟨rfl, rfl, unbounded⟩⟩
  intro id x f h
  cases h

end Coordinator

end EdgeCache
