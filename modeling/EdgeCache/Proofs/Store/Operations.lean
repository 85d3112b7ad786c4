import EdgeCache.Proofs.Keyed
import EdgeCache.Store

/-!
# Operations of the store

What each operation leaves in the store, told by its slots. A lookup and a sweep only drop slots
that have expired, the one of its key or all of them; a put makes room first, if it has to, and then
adds the newest slot in place of the one that its key had.
-/

namespace EdgeCache

/-! ## Expiry -/

namespace Slot

variable {ttl : Option Nat} {now later : Nat} {x y : Slot}

/-- What has not expired was put less than its time to live ago. -/
lemma expired_iff : x.expired ttl now = false ↔ ∀ d, ttl = some d → now - x.putAt < d := by
  cases ttl with
  | none => exact ⟨nofun, fun _ => rfl⟩
  | some d =>
    rw [expired, decide_eq_false_iff_not, Nat.not_le]
    exact ⟨fun lt d' eq => Option.some.inj eq ▸ lt, fun all => all d rfl⟩

/-- What was put later, or is looked at earlier, expires no sooner. -/
lemma expired_mono (le : x.putAt ≤ y.putAt) (le' : now ≤ later)
    (fresh : x.expired ttl later = false) : y.expired ttl now = false := by
  apply expired_iff.2
  intro d eq
  have := expired_iff.1 fresh d eq
  omega

end Slot

namespace Store

variable {s : Store} {now : Nat} {k : Key} {e : Entry} {x y : Slot}

/-- Slots of the same key are the same. -/
lemma slot_unique (mx : x ∈ s.slots) (my : y ∈ s.slots) (eq : x.key = y.key) : x = y :=
  List.inj_on_of_nodup_map s.nodup mx my eq

/-- The slot of a key is the one that bears it. -/
lemma slot?_iff : s.slot? k = some x ↔ x ∈ s.slots ∧ x.key = k :=
  find?_key_iff s.nodup

/-- A key without a slot is borne by none. -/
lemma slot?_none_iff : s.slot? k = none ↔ ∀ x ∈ s.slots, x.key ≠ k := by
  simp only [slot?, List.find?_eq_none, beq_iff_eq, ne_eq]

/-- A key is in the store if a slot bears it. -/
lemma contains_iff : s.contains k = true ↔ ∃ x ∈ s.slots, x.key = k := by
  simp only [contains, slot?, List.find?_isSome, beq_iff_eq]

/-! ## Lookups -/

/-- A lookup drops the slot of its key if it has expired, and nothing else. -/
lemma get_slots :
    (s.get now k).2.slots =
      s.slots.filter fun x => !(x.key == k && x.expired s.limits.ttl now) := by
  cases h : s.slot? k with
  | none =>
    simp only [get, h]
    refine (List.filter_eq_self.2 fun x mx => ?_).symm
    simp [slot?_none_iff.1 h x mx]
  | some x =>
    obtain ⟨mx, rfl⟩ := slot?_iff.1 h
    cases ex : x.expired s.limits.ttl now with
    | false =>
      simp only [get, h, ex, Bool.false_eq_true, if_false]
      refine (List.filter_eq_self.2 fun y my => ?_).symm
      by_cases eq : y.key = x.key
      · simp [slot_unique my mx eq, ex]
      · simp [eq]
    | true =>
      simp only [get, h, ex, if_true, countEvictions, erase, restrict]
      refine List.filter_congr fun y my => ?_
      by_cases eq : y.key = x.key
      · simp [slot_unique my mx eq, ex]
      · simp only [bne, beq_eq_false_iff_ne.2 eq, Bool.false_and, Bool.not_false]

/-- A lookup finds the entry of a key that is in the store and has not expired. -/
lemma get_some_iff :
    (s.get now k).1 = some e ↔
      ∃ x ∈ s.slots, x.key = k ∧ x.entry = e ∧ x.expired s.limits.ttl now = false := by
  cases h : s.slot? k with
  | none =>
    simp only [get, h]
    refine ⟨nofun, ?_⟩
    rintro ⟨x, mx, eq, _⟩
    exact absurd eq (slot?_none_iff.1 h x mx)
  | some x =>
    obtain ⟨mx, rfl⟩ := slot?_iff.1 h
    cases ex : x.expired s.limits.ttl now with
    | false =>
      simp only [get, h, ex, Bool.false_eq_true, if_false, Option.some.injEq]
      constructor
      · intro eq
        exact ⟨x, mx, rfl, eq, ex⟩
      · rintro ⟨y, my, eq, rfl, _⟩
        rw [slot_unique mx my eq.symm]
    | true =>
      simp only [get, h, ex, if_true]
      refine ⟨nofun, ?_⟩
      rintro ⟨y, my, eq, _, fresh⟩
      rw [slot_unique my mx eq, ex] at fresh
      cases fresh

/-- A lookup that finds nothing leaves nothing of its key. -/
lemma get_none_contains (missed : (s.get now k).1 = none) :
    (s.get now k).2.contains k = false := by
  refine Bool.eq_false_iff.2 fun here => ?_
  obtain ⟨x, mx, eq⟩ := contains_iff.1 here
  rw [get_slots, List.mem_filter] at mx
  have fresh : x.expired s.limits.ttl now = false := by simpa [eq] using mx.2
  rw [get_some_iff.2 ⟨x, mx.1, eq, rfl, fresh⟩] at missed
  cases missed

/-- To look up a key twice is to look it up once. -/
lemma get_get : ((s.get now k).2.get now k).2 = (s.get now k).2 := by
  cases found : (s.get now k).1 with
  | some e =>
    obtain ⟨x, mx, eq, _, fresh⟩ := get_some_iff.1 found
    have same : (s.get now k).2 = s := by
      simp only [get, slot?_iff.2 ⟨mx, eq⟩, fresh, Bool.false_eq_true, if_false]
    rw [same, same]
  | none =>
    have absent := get_none_contains found
    rw [contains, Option.isSome_eq_false_iff, Option.isNone_iff_eq_none] at absent
    rw [get, absent]

/-- A lookup leaves the limits. -/
lemma get_limits : (s.get now k).2.limits = s.limits := by
  cases h : s.slot? k with
  | none => simp only [get, h]
  | some x =>
    simp only [get, h]
    split <;> rfl

/-! ## Puts -/

/-- The slots that are left when a put of a key has made room. -/
def room (s : Store) (k : Key) : List Slot :=
  if s.isFullFor k then s.slots.drop s.limits.batch else s.slots

/-- A put adds the newest slot to those left of other keys. -/
lemma put_slots : (s.put now k e).slots = (s.room k).filter (·.key != k) ++ [⟨k, e, now⟩] := by
  simp only [put, room]
  split <;> rfl

/-- Making room leaves some of the slots. -/
lemma room_sublist : (s.room k).Sublist s.slots := by
  simp only [room]
  split
  · exact List.drop_sublist _ _
  · exact .refl _

/-- A put leaves the limits. -/
lemma put_limits : (s.put now k e).limits = s.limits := by
  simp only [put]
  split <;> rfl

/-- What has been put is in the store. -/
lemma contains_put : (s.put now k e).contains k = true := by
  refine contains_iff.2 ⟨⟨k, e, now⟩, ?_, rfl⟩
  rw [put_slots]
  exact List.mem_append_right _ List.mem_cons_self

/-- Room is made at capacity, for a key that is not in the store. -/
lemma isFullFor_iff :
    s.isFullFor k = true ↔
      0 < s.limits.capacity ∧ s.limits.capacity ≤ s.slots.length ∧ s.contains k = false := by
  rw [isFullFor, Bool.and_eq_true, Bool.and_eq_true, decide_eq_true_iff, decide_eq_true_iff,
    Bool.not_eq_true', and_assoc]
  rfl

/-- No room is made for a key that is in the store. -/
lemma isFullFor_of_contains (here : s.contains k = true) : s.isFullFor k = false := by
  refine Bool.eq_false_iff.2 fun full => ?_
  rw [(isFullFor_iff.1 full).2.2] at here
  cases here

/-- A put over what its key had needs no room. -/
lemma room_of_contains (here : s.contains k = true) : s.room k = s.slots :=
  if_neg (Bool.eq_false_iff.1 (isFullFor_of_contains here))

/-- For a key that is not in the store, all is left for which there is room. -/
lemma room_filter (absent : s.contains k = false) : (s.room k).filter (·.key != k) = s.room k := by
  refine List.filter_eq_self.2 fun x mx => bne_iff_ne.2 fun eq => ?_
  rw [contains_iff.2 ⟨x, room_sublist.subset mx, eq⟩] at absent
  cases absent

/-! ## Sizes and evictions -/

/-- To drop the slot of a key that is in the store is to drop one slot. -/
lemma size_erase (here : s.contains k = true) : (s.erase k).size + 1 = s.size := by
  obtain ⟨x, mx, rfl⟩ := contains_iff.1 here
  have mem : x.key ∈ s.slots.map Slot.key := List.mem_map_of_mem mx
  have keys : (s.erase x.key).slots.map Slot.key = (s.slots.map Slot.key).erase x.key := by
    rw [s.nodup.erase_eq_filter, List.filter_map]
    rfl
  rw [size, size, ← List.length_map Slot.key, keys, List.length_erase_add_one mem, List.length_map]

/-- What a lookup drops is counted. -/
lemma get_balance : (s.get now k).2.size + (s.get now k).2.evictions = s.size + s.evictions := by
  cases h : s.slot? k with
  | none => simp only [get, h]
  | some x =>
    have here : s.contains k = true := by rw [contains, h, Option.isSome_some]
    have one := size_erase here
    simp only [get, h]
    split
    · show (s.erase k).size + (s.evictions + 1) = _
      omega
    · rfl

/-- What a sweep drops is counted. -/
lemma sweep_balance : (s.sweep now).size + (s.sweep now).evictions = s.size + s.evictions := by
  have le : (s.sweep now).size ≤ s.size := List.length_filter_le _ _
  show (s.sweep now).size + (s.evictions + (s.size - (s.sweep now).size)) = _
  omega

/-- A put that makes room counts the batch that it drops, or all there is if that is less. -/
lemma put_evictions_full (full : s.isFullFor k = true) :
    (s.put now k e).evictions = s.evictions + min s.limits.batch s.size := by
  simp only [put, full, if_true]
  rfl

/-- A put that makes no room counts nothing. -/
lemma put_evictions_free (free : s.isFullFor k = false) :
    (s.put now k e).evictions = s.evictions := by
  simp only [put, free, Bool.false_eq_true, if_false]
  rfl

/-- What is dropped to make room for a put is counted. -/
lemma room_balance : (s.room k).length + (s.put now k e).evictions = s.size + s.evictions := by
  cases full : s.isFullFor k with
  | true =>
    rw [put_evictions_full full, room, if_pos full, List.length_drop, size]
    omega
  | false => rw [put_evictions_free full, room, full, if_neg Bool.false_ne_true, size]

/-- A put adds one entry to those for which there was room, unless its key had one. -/
lemma size_put :
    (s.put now k e).size = (s.room k).length + if s.contains k = true then 0 else 1 := by
  rw [size, put_slots, List.length_append]
  split
  case isTrue here =>
    rw [room_of_contains here]
    exact size_erase here
  case isFalse absent => rw [room_filter (Bool.eq_false_iff.2 absent), List.length_singleton]

end Store

end EdgeCache
