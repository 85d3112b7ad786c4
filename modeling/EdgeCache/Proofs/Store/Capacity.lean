import EdgeCache.Proofs.Store.History

/-!
# The capacity of a store

A batch is at least one entry, so there is always room for one more: no store grows past its
capacity, whatever share of it is to leave at once. The batch is taken before the new entry is
there, so the new entry stays, even when the batch is all that there was.
-/

namespace EdgeCache

variable {s : Store} {t : TimedStore} {d : Deed} {deeds : List Deed} {now wait : Nat} {k : Key}
  {e : Entry}

/-! ## Bounds -/

namespace Store

/-- A lookup brings nothing. -/
lemma size_get_le : (s.get now k).2.size ≤ s.size := by
  rw [size, get_slots]
  exact List.length_filter_le _ _

/-- A sweep brings nothing. -/
lemma size_sweep_le : (s.sweep now).size ≤ s.size := List.length_filter_le _ _

/-- There is room for a key that is not in the store. -/
lemma room_lt (pos : 0 < s.limits.capacity) (one : 1 ≤ s.limits.batch)
    (within : s.size ≤ s.limits.capacity) (absent : s.contains k = false) :
    (s.room k).length < s.limits.capacity := by
  rw [size] at within
  simp only [room]
  split
  case isTrue full =>
    rw [List.length_drop]
    omega
  case isFalse free =>
    have lt : ¬ s.limits.capacity ≤ s.slots.length := fun le =>
      free (isFullFor_iff.2 ⟨pos, le, absent⟩)
    omega

/-- A put keeps within the capacity. -/
lemma size_put_le (pos : 0 < s.limits.capacity) (one : 1 ≤ s.limits.batch)
    (within : s.size ≤ s.limits.capacity) : (s.put now k e).size ≤ s.limits.capacity := by
  rw [size_put]
  split
  case isTrue here =>
    rw [room_of_contains here]
    exact within
  case isFalse absent => exact room_lt pos one within (Bool.eq_false_iff.2 absent)

/-- A store within its capacity makes room when it holds exactly that many. -/
lemma isFullFor_iff_size (within : 0 < s.limits.capacity → s.size ≤ s.limits.capacity) :
    s.isFullFor k = true ↔
      0 < s.limits.capacity ∧ s.size = s.limits.capacity ∧ s.contains k = false := by
  rw [isFullFor_iff]
  refine and_congr_right fun pos => and_congr_left fun _ => ?_
  constructor
  · exact fun le => Nat.le_antisymm (within pos) le
  · exact fun eq => Nat.le_of_eq eq.symm

/-- What has been put is found until its time to live is over. -/
lemma get_put (young : ∀ d, s.limits.ttl = some d → wait < d) :
    ((s.put now k e).get (now + wait) k).1 = some e := by
  refine get_some_iff.2 ⟨⟨k, e, now⟩, ?_, rfl, rfl, Slot.expired_iff.2 fun d eq => ?_⟩
  · rw [put_slots]
    exact List.mem_append_right _ List.mem_cons_self
  · rw [put_limits] at eq
    rw [Nat.add_sub_cancel_left]
    exact young d eq

end Store

namespace TimedStore

/-- Every deed keeps a store within its capacity. -/
lemma step_size (pos : 0 < t.store.limits.capacity) (one : 1 ≤ t.store.limits.batch)
    (within : t.store.size ≤ t.store.limits.capacity) :
    (t.step d).store.size ≤ t.store.limits.capacity := by
  cases d with
  | put k e => exact Store.size_put_le pos one within
  | get k => exact Nat.le_trans Store.size_get_le within
  | sweep => exact Nat.le_trans Store.size_sweep_le within
  | clear => exact Nat.zero_le _
  | elapse ms => exact within

/-- Every run keeps a store within its capacity. -/
lemma run_size (pos : 0 < t.store.limits.capacity) (one : 1 ≤ t.store.limits.batch)
    (within : t.store.size ≤ t.store.limits.capacity) :
    (t.run deeds).store.size ≤ t.store.limits.capacity := by
  induction deeds generalizing t with
  | nil => exact within
  | cons d deeds ih =>
    have same : (t.step d).store.limits = t.store.limits := step_limits
    have stays := ih (t := t.step d)
    rw [same] at stays
    exact stays pos one (step_size pos one within)

/-- No store holds more than its capacity, whatever share of it is to make room at once, be it the
usual one or one that was asked for, which need not even be a number. And whatever has to leave for
an entry, the entry is found from its put on until its time to live is over. -/
theorem capacity_is_kept (capacity : Nat) (pos : 0 < capacity) (ttl : Option Nat)
    (share : Option Float) (deeds : List Deed) :
    let limits := Limits.ofShare capacity ttl (share.elim Limits.defaultShare Limits.clampShare)
    let t := (TimedStore.start limits).run deeds
    t.store.size ≤ capacity ∧
    ∀ k e wait, (∀ d, ttl = some d → wait < d) →
      let t' := t.run [.put k e, .elapse wait]
      (t'.store.get t'.now k).1 = some e := by
  intro limits t
  constructor
  · exact run_size (t := .start limits) pos (Limits.one_le_batchSize _ _) (Nat.zero_le _)
  · intro k e wait young
    have same : t.store.limits = limits := run_limits
    refine Store.get_put (s := t.store) ?_
    rw [same]
    exact young

/-- A third entry for a store of two, whose share is not a number. -/
theorem capacity_is_kept_nan :
    let c := Key.letter 'c' (by decide)
    let limits := Limits.ofShare 2 (some 5) (Limits.clampShare (0.0 / 0.0))
    let deeds : List Deed := [.put (Key.letter 'a' (by decide)) (.failure 404),
      .put (Key.letter 'b' (by decide)) (.failure 404)]
    let t := (start limits).run deeds
    let t' := t.run [.put c (.failure 500), .elapse 4]
    0 < 2 ∧ (∀ d, some 5 = some d → 4 < d) ∧
      t.store.size ≤ 2 ∧ (t'.store.get t'.now c).1 = some (.failure 500) := by
  intro c limits deeds t t'
  have young : ∀ d, some 5 = some d → 4 < d := by
    rintro _ ⟨⟩
    decide
  obtain ⟨within, found⟩ :=
    capacity_is_kept 2 (by decide) (some 5) (some (0.0 / 0.0)) deeds
  exact ⟨by decide, young, within, found c (.failure 500) 4 young⟩

end TimedStore

end EdgeCache
