import EdgeCache.Proofs.Store.Operations

/-!
# The slot of a key

A store seen from one key. An operation on another key does not change the slot of the key, as long
as the store is not bounded, and any other operation changes it by what it was before.
-/

namespace EdgeCache.Store

variable {s s' t : Store} {now : Nat} {j k : Key} {e : Entry} {p : Slot → Bool}

/-- Slots that are dropped are gone, and the others are where they were. -/
lemma slot?_of_filter (h : t.slots = s.slots.filter p) : t.slot? k = (s.slot? k).filter p := by
  refine Option.ext fun x => ?_
  rw [slot?_iff, h, List.mem_filter, Option.filter_eq_some_iff, slot?_iff, and_right_comm]

/-- A lookup takes the slot of the key that it looks up, if that has expired. -/
lemma slot?_get :
    (s.get now j).2.slot? k =
      (s.slot? k).filter fun x => !(x.key == j && x.expired s.limits.ttl now) :=
  slot?_of_filter get_slots

/-- A sweep takes every slot that has expired. -/
lemma slot?_sweep :
    (s.sweep now).slot? k = (s.slot? k).filter fun x => !x.expired s.limits.ttl now :=
  slot?_of_filter rfl

/-- No slot is left after everything has been thrown away. -/
lemma slot?_clear : s.clear.slot? k = none := rfl

/-- A store that is not bounded has room. -/
lemma room_unbounded (unbounded : s.limits.capacity = 0) : s.room k = s.slots := by
  simp [Store.room, isFullFor, unbounded]

/-- A put into a store that is not bounded gives its key a slot. -/
lemma slot?_put (unbounded : s.limits.capacity = 0) :
    (s.put now j e).slot? k = if k = j then some ⟨j, e, now⟩ else s.slot? k := by
  refine Option.ext fun x => ?_
  rw [slot?_iff, put_slots, room_unbounded unbounded, List.mem_append, List.mem_singleton, List.mem_filter]
  split
  case isTrue eq =>
    subst eq
    constructor
    · rintro ⟨⟨_, ne⟩ | rfl, eq⟩
      · simp [eq] at ne
      · rfl
    · rintro ⟨⟩
      exact ⟨.inr rfl, rfl⟩
  case isFalse ne =>
    rw [slot?_iff]
    constructor
    · rintro ⟨⟨mx, _⟩ | rfl, rfl⟩
      · exact ⟨mx, rfl⟩
      · exact absurd rfl ne
    · rintro ⟨mx, rfl⟩
      exact ⟨.inl ⟨mx, by simpa using ne⟩, rfl⟩

/-- A lookup gives the entry in the slot of its key unless it has expired. -/
lemma get_eq_slot? :
    (s.get now k).1 =
      ((s.slot? k).filter fun x => !x.expired s.limits.ttl now).map Slot.entry := by
  cases h : s.slot? k with
  | none => simp only [get, h, Option.filter_none, Option.map_none]
  | some x => cases ex : x.expired s.limits.ttl now <;> simp [get, h, ex, Option.filter]

/-! ## Two stores -/

/-- Two stores that are alike for a key. -/
structure SameSlot (k : Key) (s s' : Store) : Prop where
  limits : s'.limits = s.limits
  slot : s'.slot? k = s.slot? k

namespace SameSlot

/-- The same slot is the same after another step that keeps it. -/
lemma trans (h : SameSlot k s s') (h' : SameSlot k s' t) : SameSlot k s t :=
  ⟨h'.limits.trans h.limits, h'.slot.trans h.slot⟩

/-- A lookup of another key leaves the slot. -/
lemma of_get (ne : k ≠ j) : SameSlot k s (s.get now j).2 := by
  refine ⟨get_limits, ?_⟩
  rw [slot?_get]
  cases h : s.slot? k with
  | none => rfl
  | some x =>
    obtain ⟨_, rfl⟩ := slot?_iff.1 h
    simp [ne]

/-- So does a put under another key, where nothing bounds the store. -/
lemma of_put (ne : k ≠ j) (unbounded : s.limits.capacity = 0) :
    SameSlot k s (s.put now j e) := by
  refine ⟨put_limits, ?_⟩
  rw [slot?_put unbounded, if_neg ne]

/-- A lookup of the key finds the same. -/
lemma get_fst (h : SameSlot k s s') : (s'.get now k).1 = (s.get now k).1 := by
  rw [get_eq_slot?, get_eq_slot?, h.slot, h.limits]

/-- A lookup on both sides leaves the same slot. -/
lemma get (h : SameSlot k s s') : SameSlot k (s.get now j).2 (s'.get now j).2 := by
  refine ⟨by rw [get_limits, get_limits, h.limits], ?_⟩
  rw [slot?_get, slot?_get, h.slot, h.limits]

/-- So does a put. -/
lemma put (h : SameSlot k s s') (unbounded : s.limits.capacity = 0) :
    SameSlot k (s.put now j e) (s'.put now j e) := by
  refine ⟨by rw [put_limits, put_limits, h.limits], ?_⟩
  rw [slot?_put unbounded, slot?_put (h.limits ▸ unbounded), h.slot]

/-- So does a sweep. -/
lemma sweep (h : SameSlot k s s') : SameSlot k (s.sweep now) (s'.sweep now) := by
  refine ⟨h.limits, ?_⟩
  rw [slot?_sweep, slot?_sweep, h.slot, h.limits]

/-- And so does throwing everything away. -/
lemma clear (h : SameSlot k s s') : SameSlot k s.clear s'.clear := by
  refine ⟨h.limits, ?_⟩
  rw [slot?_clear, slot?_clear]

end SameSlot

end EdgeCache.Store
