import EdgeCache.Proofs.Store.Freshness

/-!
# Sweeps and lookups

Expired entries are dropped in two ways: one by one, as they are looked up, and all at once by a
sweep. The two agree on what has expired, and a sweep does what lookups of all keys would do, in
whatever order they are made.
-/

namespace EdgeCache.Store

variable {s s' : Store} {now : Nat} {k : Key} {keys : List Key}

/-- Stores with the same limits, slots and counter are the same. -/
lemma eq_of_slots (limits : s.limits = s'.limits) (slots : s.slots = s'.slots)
    (evictions : s.evictions = s'.evictions) : s = s' := by
  obtain ⟨_, _, _, _⟩ := s
  obtain ⟨_, _, _, _⟩ := s'
  cases limits
  cases slots
  cases evictions
  rfl

/-! ## Lookups one after the other -/

/-- The store after lookups of some keys at one moment. -/
def afterReads (now : Nat) (s : Store) (keys : List Key) : Store :=
  keys.foldl (fun s k => (s.get now k).2) s

lemma afterReads_cons : s.afterReads now (k :: keys) = (s.get now k).2.afterReads now keys := rfl

lemma afterReads_limits : (s.afterReads now keys).limits = s.limits := by
  induction keys generalizing s with
  | nil => rfl
  | cons k keys ih => rw [afterReads_cons, ih, get_limits]

/-- Lookups drop the expired slots of their keys, whatever the order. -/
lemma afterReads_slots :
    (s.afterReads now keys).slots =
      s.slots.filter fun x => !(keys.contains x.key && x.expired s.limits.ttl now) := by
  induction keys generalizing s with
  | nil => exact (List.filter_eq_self.2 fun x _ => rfl).symm
  | cons k keys ih =>
    rw [afterReads_cons, ih, get_slots, get_limits, List.filter_filter]
    refine List.filter_congr fun x _ => ?_
    rw [List.contains_cons, Bool.and_or_distrib_right, Bool.not_or, Bool.and_comm]

/-- What lookups drop is counted. -/
lemma afterReads_balance :
    (s.afterReads now keys).size + (s.afterReads now keys).evictions = s.size + s.evictions := by
  induction keys generalizing s with
  | nil => rfl
  | cons k keys ih => rw [afterReads_cons, ih, get_balance]

/-- Lookups of all keys in the store are a sweep. -/
lemma afterReads_all (all : ∀ x ∈ s.slots, x.key ∈ keys) : s.afterReads now keys = s.sweep now := by
  have slots : (s.afterReads now keys).slots = (s.sweep now).slots := by
    rw [afterReads_slots]
    refine List.filter_congr fun x mx => ?_
    rw [List.contains_iff_mem.2 (all x mx), Bool.true_and]
  have balance : (s.afterReads now keys).size + (s.afterReads now keys).evictions =
      (s.sweep now).size + (s.sweep now).evictions :=
    afterReads_balance.trans sweep_balance.symm
  refine eq_of_slots afterReads_limits slots ?_
  rw [size, size, slots] at balance
  exact Nat.add_left_cancel balance

/-! ## Sweeps -/

/-- A lookup of the key of a slot finds an entry unless the slot has expired. -/
lemma get_isSome {x : Slot} (mx : x ∈ s.slots) :
    (s.get now x.key).1.isSome = !x.expired s.limits.ttl now := by
  rw [get_eq_slot?, slot?_iff.2 ⟨mx, rfl⟩]
  cases ex : x.expired s.limits.ttl now with
  | false => simp [Option.filter, ex]
  | true => simp [Option.filter, ex]

/-- What a lookup finds is found after a sweep as well. -/
lemma get_sweep : ((s.sweep now).get now k).1 = (s.get now k).1 := by
  rw [get_eq_fresh, fresh_sweep, ← get_eq_fresh]

/-- The entries that a sweep drops are those that have expired. -/
lemma sweep_evictions : (s.sweep now).evictions = s.evictions + s.expiredCount now := by
  have all := s.slots.length_eq_countP_add_countP fun x => x.expired s.limits.ttl now
  have left : (s.sweep now).size = s.slots.countP fun x => !x.expired s.limits.ttl now :=
    List.countP_eq_length_filter.symm
  have balance : (s.sweep now).size + (s.sweep now).evictions = s.slots.length + s.evictions :=
    sweep_balance
  simp only [Bool.not_eq_true, Bool.decide_eq_false] at all
  rw [left, all] at balance
  rw [expiredCount]
  omega

/-- A sweep and lookups agree. At any moment a sweep leaves the entries that a lookup would find, as
they were, and drops those of which a lookup would find nothing; it tells how many these are, and
counts them. Any lookup finds the same before it and after it. And it does what lookups of all the
keys in the store do, in any order. -/
theorem sweep_agrees_with_reads (s : Store) (now : Nat) :
    (s.sweep now).slots = s.slots.filter (fun x => (s.get now x.key).1.isSome) ∧
    s.expiredCount now = s.slots.countP (fun x => (s.get now x.key).1.isNone) ∧
    (s.sweep now).evictions = s.evictions + s.expiredCount now ∧
    (∀ k, ((s.sweep now).get now k).1 = (s.get now k).1) ∧
    ∀ keys : List Key, (∀ x ∈ s.slots, x.key ∈ keys) → s.afterReads now keys = s.sweep now := by
  refine ⟨?_, ?_, sweep_evictions, fun k => get_sweep, fun keys => afterReads_all⟩
  · exact List.filter_congr fun x mx => (get_isSome mx).symm
  · refine List.countP_congr fun x mx => ?_
    rw [← Option.not_isSome, get_isSome mx, Bool.not_not]

/-- Of an entry as old as its time to live and a younger one, the first is dropped, though it is
looked up last. -/
theorem sweep_agrees_with_reads_reversed :
    let a := Key.letter 'a' (by decide)
    let b := Key.letter 'b' (by decide)
    let s := ((empty ⟨0, some 5, 1⟩).put 0 a (.failure 404)).put 2 b (.failure 404)
    (∀ x ∈ s.slots, x.key ∈ [b, a]) ∧ s.afterReads 5 [b, a] = s.sweep 5 ∧
      (s.sweep 5).slots = [⟨b, .failure 404, 2⟩] ∧ (s.sweep 5).evictions = 1 := by
  intro a b s
  have all : ∀ x ∈ s.slots, x.key ∈ [b, a] := by
    show ∀ x ∈ ([⟨a, .failure 404, 0⟩, ⟨b, .failure 404, 2⟩] : List Slot), x.key ∈ [b, a]
    simp
  obtain ⟨_, _, counted, _, reads⟩ := sweep_agrees_with_reads s 5
  exact ⟨all, reads [b, a] all, rfl, counted⟩

end EdgeCache.Store
