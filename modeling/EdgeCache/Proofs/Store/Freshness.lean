import EdgeCache.Proofs.Store.Slot

/-!
# What has not expired

Two stores that hold the same, expired entries aside. A lookup finds the same in both, and whatever
is done to both leaves them so. A sweep of one of them changes nothing about that, and neither does a
lookup: all that they drop has expired.
-/

namespace EdgeCache.Store

variable {s s' : Store} {now t : Nat} {k : Key} {e : Entry}

/-- The slots that have not expired. -/
def fresh (now : Nat) (s : Store) : List Slot := s.slots.filter fun x => !x.expired s.limits.ttl now

/-- What has not expired later has not expired before. -/
lemma fresh_later (le : now ≤ t) :
    s.fresh t = (s.fresh now).filter fun x => !x.expired s.limits.ttl t := by
  refine (filter_filter_spared fun x _ h => ?_).symm
  rw [Bool.not_eq_true'] at h ⊢
  exact Slot.expired_mono (Nat.le_refl _) le h

/-- A lookup gives the entry of a key in a slot that has not expired. -/
lemma get_eq_fresh : (s.get now k).1 = ((s.fresh now).find? (·.key == k)).map Slot.entry := by
  have swept : (s.sweep now).slot? k = (s.fresh now).find? (·.key == k) := rfl
  rw [get_eq_slot?, ← slot?_sweep, swept]

/-- A lookup drops nothing but what has expired. -/
lemma fresh_get : (s.get now k).2.fresh now = s.fresh now := by
  rw [fresh, get_slots, get_limits]
  refine filter_filter_spared fun x _ h => ?_
  rw [Bool.not_eq_true'] at h
  rw [h, Bool.and_false, Bool.not_false]

/-- A sweep drops nothing but what has expired. -/
lemma fresh_sweep : (s.sweep now).fresh now = s.fresh now :=
  filter_filter_spared fun _ _ h => h

/-- A put into a store that is not bounded adds the newest slot to those left of other keys. -/
lemma fresh_put (unbounded : s.limits.capacity = 0) :
    (s.put now k e).fresh now =
      (s.fresh now).filter (·.key != k) ++
        [⟨k, e, now⟩].filter fun x : Slot => !x.expired s.limits.ttl now := by
  rw [fresh, put_slots, put_limits, room_unbounded unbounded, List.filter_append, List.filter_comm]
  rfl

/-- Two stores that are not bounded and hold the same, expired entries aside. -/
structure SameFresh (now : Nat) (s s' : Store) : Prop where
  limits : s'.limits = s.limits
  unbounded : s.limits.capacity = 0
  fresh : s'.fresh now = s.fresh now

namespace SameFresh

/-- Where nothing bounds the store, it has the same fresh entries as itself. -/
lemma refl (unbounded : s.limits.capacity = 0) : SameFresh now s s := ⟨rfl, unbounded, rfl⟩

/-- Neither of two stores comes first. -/
lemma symm (h : SameFresh now s s') : SameFresh now s' s :=
  ⟨h.limits.symm, by rw [h.limits, h.unbounded], h.fresh.symm⟩

/-- What has expired stays so. -/
lemma later (h : SameFresh now s s') (le : now ≤ t) : SameFresh t s s' := by
  refine ⟨h.limits, h.unbounded, ?_⟩
  rw [fresh_later le, fresh_later le, h.fresh, h.limits]

/-- A lookup finds the same in both. -/
lemma get_fst (h : SameFresh now s s') : (s'.get now k).1 = (s.get now k).1 := by
  rw [get_eq_fresh, get_eq_fresh, h.fresh]

/-- A lookup leaves the same fresh entries on both sides. -/
lemma get (h : SameFresh now s s') : SameFresh now (s.get now k).2 (s'.get now k).2 := by
  refine ⟨by rw [get_limits, get_limits, h.limits], by rw [get_limits, h.unbounded], ?_⟩
  rw [fresh_get, fresh_get, h.fresh]

/-- So does a put. -/
lemma put (h : SameFresh now s s') : SameFresh now (s.put now k e) (s'.put now k e) := by
  refine ⟨by rw [put_limits, put_limits, h.limits], by rw [put_limits, h.unbounded], ?_⟩
  rw [fresh_put h.unbounded, fresh_put h.symm.unbounded, h.fresh, h.limits]

/-- Where everything is thrown away nothing is fresh on either side. -/
lemma clear (h : SameFresh now s s') : SameFresh now s.clear s'.clear :=
  ⟨h.limits, h.unbounded, rfl⟩

/-- One of them is swept. -/
lemma skip_sweep (h : SameFresh now s s') : SameFresh now (s.sweep now) s' :=
  ⟨h.limits, h.unbounded, h.fresh.trans fresh_sweep.symm⟩

end SameFresh

end EdgeCache.Store
