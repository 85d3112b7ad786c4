import EdgeCache.Proofs.Store.Capacity
import EdgeCache.Proofs.Store.Retention

/-!
# What leaves first

The batch that makes room is the oldest of what there is, told by the last puts; lookups have no
part in that. So a store has no gaps: what was put after an entry that is still there is there as
well, unless its time to live is over. `Gapless` says this of a moment, and every deed keeps it.
-/

namespace EdgeCache

variable {limits : Limits} {k k' : Key} {p q : Slot} {h : History} {t : TimedStore} {d : Deed}
  {deeds : List Deed}

namespace History

/-- No key is newer than itself. -/
lemma self_notMem_newerKeys : k ∉ h.newerKeys k := by
  intro m
  obtain ⟨p, mp, eq⟩ := List.mem_map.1 (List.mem_dedup.1 m)
  have other : (p.key != k) = true := List.all_eq_true.1 List.all_takeWhile p mp
  exact bne_iff_ne.1 other eq

/-- Of two keys not each is newer than the other. -/
lemma Timely.newer_asymm (timely : h.Timely) (last : h.last? k = some p)
    (m : k' ∈ h.newerKeys k) : k ∉ h.newerKeys k' := by
  obtain ⟨_, _, _, sub⟩ := timely.newer last m
  exact fun m' => self_notMem_newerKeys (sub m')

end History

/-! ## The batch -/

/-- The batch that a store would make room by, and what would stay. -/
structure Batch (h : History) (t : TimedStore) (oldest rest : List Slot) : Prop where
  slots : t.store.slots = oldest ++ rest
  length : oldest.length = min t.store.limits.batch t.store.size
  /-- What stays was put last after all of the batch. -/
  before : ∀ x ∈ oldest, ∀ y ∈ rest, y.key ∈ h.newerKeys x.key ∧ x.putAt ≤ y.putAt
  /-- If no two were put at the same time, the batch comes first when all are sorted by it. -/
  first : ∀ l : List Slot, l.Perm t.store.slots → l.Pairwise (fun x y => x.putAt < y.putAt) →
    l.take t.store.limits.batch = oldest
  /-- Nothing leaves that has not expired while something stays that has. -/
  fresh : ∀ x ∈ oldest, x.expired t.store.limits.ttl t.now = false →
    ∀ y ∈ rest, y.expired t.store.limits.ttl t.now = false

namespace Faithful

/-- A slot is newer than those in front of it, and was put last no earlier. -/
lemma later (f : Faithful h t) :
    t.store.slots.Pairwise fun x y => y.key ∈ h.newerKeys x.key ∧ x.putAt ≤ y.putAt := by
  refine f.order.imp_of_mem fun mx my newer => ⟨newer, ?_⟩
  obtain ⟨q, last, le, _⟩ := f.timely.newer (f.held _ mx) newer
  rw [f.held _ my] at last
  cases last
  exact le

/-- Sorted by the time of their puts the slots are in the order of the store. -/
lemma sorted_eq (f : Faithful h t) {l : List Slot} (perm : l.Perm t.store.slots)
    (sorted : l.Pairwise fun x y => x.putAt < y.putAt) : l = t.store.slots := by
  have times : (l.map Slot.putAt).Nodup :=
    List.pairwise_map.2 (sorted.imp fun lt => Nat.ne_of_lt lt)
  have apart : ∀ x y, x ∈ l → y ∈ t.store.slots →
      x.putAt ≤ y.putAt → y.putAt ≤ x.putAt → x = y := by
    intro x y mx my le ge
    exact List.inj_on_of_nodup_map times mx (perm.mem_iff.2 my) (Nat.le_antisymm le ge)
  have ordered : l.Pairwise fun x y => x.putAt ≤ y.putAt := sorted.imp fun lt => Nat.le_of_lt lt
  exact perm.eq_of_pairwise apart ordered (f.later.imp fun before => before.2)

/-- The batch is taken off the front. -/
lemma batch (f : Faithful h t) :
    Batch h t (t.store.slots.take t.store.limits.batch)
      (t.store.slots.drop t.store.limits.batch) := by
  have later := f.later
  rw [← List.take_append_drop t.store.limits.batch t.store.slots] at later
  have before := (List.pairwise_append.1 later).2.2
  refine ⟨(List.take_append_drop _ _).symm, List.length_take, before, ?_, ?_⟩
  · intro l perm sorted
    rw [f.sorted_eq perm sorted]
  · intro x mx fresh y my
    exact Slot.expired_mono (before x mx y my).2 (Nat.le_refl _) fresh

end Faithful

/-! ## No gaps -/

/-- What was put after a slot of the store is in the store too, unless it has expired. -/
def Gapless (h : History) (t : TimedStore) : Prop :=
  ∀ p ∈ t.store.slots, ∀ q, h.last? q.key = some q → q.key ∈ h.newerKeys p.key →
    q.expired t.store.limits.ttl t.now = false → q ∈ t.store.slots

namespace Gapless

/-- What is newer than a slot that stays when room is made stays as well. -/
lemma mem_room (g : Gapless h t) (f : Faithful h t) (mp : p ∈ t.store.room k)
    (last : h.last? q.key = some q) (newer : q.key ∈ h.newerKeys p.key)
    (fresh : q.expired t.store.limits.ttl t.now = false) : q ∈ t.store.room k := by
  have mem : q ∈ t.store.slots := g p (Store.room_sublist.subset mp) q last newer fresh
  simp only [Store.room] at mp ⊢
  split
  case isFalse => exact mem
  case isTrue full =>
    rw [if_pos full] at mp
    rw [f.batch.slots] at mem
    refine (List.mem_append.1 mem).resolve_left fun gone => ?_
    -- In the batch, `q` would be older than `p` as well as newer.
    have older := (f.batch.before q gone p mp).1
    exact f.timely.newer_asymm last older newer

/-- A put leaves no gap. -/
lemma put {e} (g : Gapless h t) (f : Faithful h t) :
    Gapless (h.step (.put k e)) (t.step (.put k e)) := by
  have slots : (t.step (.put k e)).store.slots = _ := f.put_slots
  intro p mp q last newer fresh
  rw [TimedStore.step_limits] at fresh
  rw [slots] at mp ⊢
  rw [History.last?_put] at last
  by_cases eq : k = q.key
  · rw [if_pos eq] at last
    cases last
    exact List.mem_append_right _ List.mem_cons_self
  · rw [if_neg eq] at last
    refine List.mem_append_left _ (List.mem_filter.2 ⟨?_, bne_iff_ne.2 (Ne.symm eq)⟩)
    rcases List.mem_append.1 mp with mp | mp
    · obtain ⟨mp, ne⟩ := List.mem_filter.1 mp
      have newer := (History.mem_newerKeys_put (Ne.symm (bne_iff_ne.1 ne))).1 newer
      exact g.mem_room f mp last (newer.resolve_left (Ne.symm eq)) fresh
    · -- Nothing is newer than what has just been put.
      rw [List.mem_singleton.1 mp] at newer
      have none : (h.step (.put k e)).newerKeys k = [] := History.newerKeys_cons_self rfl
      rw [none] at newer
      cases newer

/-- A deed that only drops slots that have expired leaves no gap. -/
lemma dropped (g : Gapless h t) {t' : TimedStore} {r : Slot → Bool} (now : t'.now = t.now)
    (limits : t'.store.limits = t.store.limits) (slots : t'.store.slots = t.store.slots.filter r)
    (spared : ∀ x, x.expired t.store.limits.ttl t.now = false → r x = true) : Gapless h t' := by
  intro p mp q last newer fresh
  rw [limits, now] at fresh
  rw [slots] at mp ⊢
  have mem := g p (List.mem_of_mem_filter mp) q last newer fresh
  exact List.mem_filter.2 ⟨mem, spared q fresh⟩

/-- No deed leaves a gap. -/
lemma step (g : Gapless h t) (f : Faithful h t) : Gapless (h.step d) (t.step d) := by
  cases d with
  | put k e => exact g.put f
  | get k =>
    refine g.dropped rfl Store.get_limits Store.get_slots fun x fresh => ?_
    rw [fresh, Bool.and_false, Bool.not_false]
  | sweep =>
    refine g.dropped rfl rfl rfl fun x fresh => ?_
    rw [fresh, Bool.not_false]
  | clear => exact nofun
  | elapse ms =>
    intro p mp q last newer fresh
    exact g p mp q last newer (Slot.expired_mono (Nat.le_refl _) (Nat.le_add_right _ _) fresh)

/-- No run leaves a gap. -/
lemma run (g : Gapless h t) (f : Faithful h t) : Gapless (h.run deeds) (t.run deeds) := by
  induction deeds generalizing h t with
  | nil => exact g
  | cons d deeds ih => exact ih (g.step f) f.step

end Gapless

namespace TimedStore

/-- The oldest leave first. After any run a slot is the last put of its key, and:

1. a put of a key that is not in a full store takes out the batch of those that were put last before
   all others, counts them, and leaves the others as they were;
2. any other put takes out nothing, the slot of its own key apart;
3. a lookup leaves the slots as they were and in their order, but for one that it may drop;
4. what was put after a slot of the store is in the store too, unless it has expired. -/
theorem oldest_leave_first (limits : Limits) (one : 1 ≤ limits.batch) (deeds : List Deed) :
    let h := History.start.run deeds
    let t := (TimedStore.start limits).run deeds
    let full k := 0 < limits.capacity ∧ t.store.size = limits.capacity ∧ t.store.contains k = false
    (∀ x ∈ t.store.slots, h.last? x.key = some x) ∧
    (∀ k e, full k → ∃ oldest rest, Batch h t oldest rest ∧
      (t.step (.put k e)).store.slots = rest ++ [⟨k, e, t.now⟩] ∧
      (t.step (.put k e)).store.evictions = t.store.evictions + oldest.length) ∧
    (∀ k e, ¬ full k →
      (t.step (.put k e)).store.slots =
        t.store.slots.filter (·.key != k) ++ [⟨k, e, t.now⟩] ∧
      (t.step (.put k e)).store.evictions = t.store.evictions) ∧
    (∀ k, (t.step (.get k)).store.slots.Sublist t.store.slots) ∧
    ∀ p ∈ t.store.slots, ∀ q, h.last? q.key = some q → q.key ∈ h.newerKeys p.key →
      q.expired limits.ttl t.now = false → q ∈ t.store.slots := by
  intro h t full
  have f : Faithful h t := Faithful.start.run
  have g : Gapless h t := Gapless.run nofun Faithful.start
  have same : t.store.limits = limits := run_limits
  have full_iff (k) : t.store.isFullFor k = true ↔ full k := by
    rw [Store.isFullFor_iff_size, same]
    rw [same]
    exact fun pos => run_size (t := .start limits) pos one (Nat.zero_le _)
  refine ⟨f.held, ?_, ?_, ?_, ?_⟩
  · intro k e fullFor
    have makes := (full_iff k).2 fullFor
    refine ⟨_, _, f.batch, ?_, ?_⟩
    · have room : t.store.room k = t.store.slots.drop t.store.limits.batch := if_pos makes
      rw [← room, ← Store.room_filter fullFor.2.2]
      exact Store.put_slots
    · rw [f.batch.length]
      exact Store.put_evictions_full makes
  · intro k e free
    have makes := Bool.eq_false_iff.2 fun makes => free ((full_iff k).1 makes)
    constructor
    · have room : t.store.room k = t.store.slots := if_neg (Bool.eq_false_iff.1 makes)
      rw [← room]
      exact Store.put_slots
    · exact Store.put_evictions_free makes
  · intro k
    have dropped : (t.step (.get k)).store.slots = _ := Store.get_slots
    rw [dropped]
    exact List.filter_sublist
  · intro p mp q last newer fresh
    rw [← same] at fresh
    exact g p mp q last newer fresh

/-- With room for two and batches of one, `a` leaves for `c`: that it was looked up after `b` was
put does not keep it. -/
theorem oldest_leave_first_read :
    let a := Key.letter 'a' (by decide)
    let b := Key.letter 'b' (by decide)
    let c := Key.letter 'c' (by decide)
    let limits : Limits := ⟨2, some 5, 1⟩
    let deeds : List Deed :=
      [.put a (.failure 404), .elapse 1, .put b (.failure 404), .elapse 1, .get a]
    let h := History.start.run deeds
    let t := (start limits).run deeds
    let t' := t.step (.put c (.failure 500))
    1 ≤ limits.batch ∧
    (0 < limits.capacity ∧ t.store.size = limits.capacity ∧ t.store.contains c = false) ∧
    Batch h t [⟨a, .failure 404, 0⟩] [⟨b, .failure 404, 1⟩] ∧
    t'.store.slots = [⟨b, .failure 404, 1⟩, ⟨c, .failure 500, 2⟩] ∧ t'.store.evictions = 1 ∧
    h.last? b = some ⟨b, .failure 404, 1⟩ ∧ b ∈ h.newerKeys a ∧
    ⟨b, .failure 404, 1⟩ ∈ t.store.slots := by
  intro a b c limits deeds h t t'
  have full : 0 < limits.capacity ∧ t.store.size = limits.capacity ∧ t.store.contains c = false :=
    ⟨by decide, rfl, rfl⟩
  obtain ⟨_, makes, _, _, gapless⟩ := oldest_leave_first limits (by decide) deeds
  obtain ⟨oldest, rest, batch, slots, evictions⟩ := makes c (.failure 500) full
  obtain rfl : [⟨a, .failure 404, 0⟩] = oldest :=
    batch.first [⟨a, .failure 404, 0⟩, ⟨b, .failure 404, 1⟩] (.refl _) (by simp)
  obtain rfl : [⟨b, .failure 404, 1⟩] = rest := List.append_cancel_left batch.slots
  have newer := (batch.before _ List.mem_cons_self _ List.mem_cons_self).1
  have mem := gapless ⟨a, .failure 404, 0⟩ List.mem_cons_self ⟨b, .failure 404, 1⟩ rfl newer rfl
  exact ⟨by decide, full, batch, slots, evictions, rfl, newer, mem⟩

end TimedStore

end EdgeCache
