import EdgeCache.Proofs.Store.History

/-!
# What the store retains

The store beside its history. It holds last puts only, in the order in which they were made, so the
slots behind a slot are of keys newer than its own; a batch that makes room comes off the front, and
takes what has so many slots behind it. `Faithful` says this of a moment, and every deed keeps it.
-/

namespace EdgeCache

variable {limits : Limits} {now later : Nat} {ttl : Option Nat} {k : Key} {p q x : Slot}
variable {h : History} {t : TimedStore} {d : Deed} {deeds : List Deed}

/-! ## What must be there -/

/-- The last put of a key that must still be there: it has not expired, and too few other keys were
put after it to push it out. -/
structure History.Safe (h : History) (limits : Limits) (p : Slot) : Prop where
  last : h.last? p.key = some p
  fresh : p.expired limits.ttl h.now = false
  few : limits.capacity = 0 ∨ (h.newerKeys p.key).length ≤ limits.capacity - limits.batch

namespace History.Safe

/-- The last put of a newer key is safe if that of the older one is. -/
lemma newer (s : h.Safe limits p) (timely : h.Timely) (m : k ∈ h.newerKeys p.key) :
    ∃ q, q.key = k ∧ h.Safe limits q := by
  obtain ⟨q, last, le, sub⟩ := timely.newer s.last m
  obtain rfl := last?_key last
  refine ⟨q, rfl, last, Slot.expired_mono le (Nat.le_refl _) s.fresh, s.few.imp_right ?_⟩
  exact Nat.le_trans (newerKeys_nodup.length_le_of_subset sub)

/-- What is safe after one more put of another key was so before. -/
lemma before {e} (s : (h.step (.put k e)).Safe limits p) (ne : k ≠ p.key) : h.Safe limits p := by
  refine ⟨?_, s.fresh, s.few.imp_right (Nat.le_trans ?_)⟩
  · have last := s.last
    rw [last?_put, if_neg ne] at last
    exact last
  · refine newerKeys_nodup.length_le_of_subset fun j mj => ?_
    exact (mem_newerKeys_put ne).2 (.inr mj)

end History.Safe

/-! ## The invariant -/

/-- A store beside its history: it holds last puts only, in the order in which they were made, and all
that must be there. -/
structure Faithful (h : History) (t : TimedStore) : Prop where
  now : t.now = h.now
  timely : h.Timely
  /-- A slot is the last put of its key. -/
  held : ∀ x ∈ t.store.slots, h.last? x.key = some x
  /-- The slots behind a slot are of keys newer than its own. -/
  order : t.store.slots.Pairwise fun x y => y.key ∈ h.newerKeys x.key
  kept : ∀ p, h.Safe t.store.limits p → p ∈ t.store.slots

namespace Faithful

/-- An empty store is beside the history in which nothing has happened. -/
lemma start : Faithful .start (.start limits) :=
  ⟨rfl, ⟨nofun, .nil⟩, nofun, .nil, fun _ safe => nomatch safe.last⟩

/-- At least as many keys are newer than that of a slot as there are slots behind it. -/
lemma behind {a b} (f : Faithful h t) (eq : t.store.slots = a ++ p :: b) :
    b.length ≤ (h.newerKeys p.key).length := by
  have order := f.order
  have nodup := t.store.nodup
  rw [eq] at order nodup
  have nodup : (b.map Slot.key).Nodup :=
    nodup.sublist (((List.sublist_cons_self p b).trans (List.sublist_append_right a _)).map _)
  rw [← List.length_map Slot.key]
  refine nodup.length_le_of_subset fun j mj => ?_
  obtain ⟨y, my, rfl⟩ := List.mem_map.1 mj
  exact (List.pairwise_cons.1 (List.pairwise_append.1 order).2.1).1 y my

/-- What is safe after a put of another key is not taken out to make room for it. -/
lemma mem_room {e} (f : Faithful h t) (s : (h.step (.put k e)).Safe t.store.limits p)
    (ne : k ≠ p.key) : p ∈ t.store.room k := by
  have before := s.before ne
  have mem := f.kept p before
  simp only [Store.room]
  split
  case isFalse => exact mem
  case isTrue full =>
    obtain ⟨pos, full, absent⟩ := Store.isFullFor_iff.1 full
    -- A key newer than `p` would be safe as well, and in the store.
    have new : k ∉ h.newerKeys p.key := by
      intro m
      obtain ⟨q, eq, safe⟩ := before.newer f.timely m
      rw [Store.contains_iff.2 ⟨q, f.kept q safe, eq⟩] at absent
      cases absent
    have few := s.few.resolve_left (Nat.ne_of_gt pos)
    rw [History.newerKeys_put ne new, List.length_cons] at few
    -- Few slots are behind `p`, so the batch is taken from those in front of it.
    obtain ⟨a, b, eq⟩ := List.append_of_mem mem
    have behind := f.behind eq
    have len := congrArg List.length eq
    rw [List.length_append, List.length_cons] at len
    have le : t.store.limits.batch ≤ a.length := by omega
    rw [eq, List.drop_append_of_le_length le]
    exact List.mem_append_right _ List.mem_cons_self

/-- A put adds the last put of its key to what is left of other keys. -/
lemma put_slots {e} (f : Faithful h t) :
    (t.step (.put k e)).store.slots =
      (t.store.room k).filter (·.key != k) ++ [⟨k, e, h.now⟩] := by
  rw [← f.now]
  exact Store.put_slots

/-- A put keeps the store beside its history. -/
lemma put {e} (f : Faithful h t) : Faithful (h.step (.put k e)) (t.step (.put k e)) := by
  have slots : (t.step (.put k e)).store.slots = _ := f.put_slots
  have sub : ((t.store.room k).filter (·.key != k)).Sublist t.store.slots :=
    List.filter_sublist.trans Store.room_sublist
  have other : ∀ x ∈ (t.store.room k).filter (·.key != k), k ≠ x.key := by
    intro x mx
    exact Ne.symm (bne_iff_ne.1 (List.mem_filter.1 mx).2)
  refine ⟨f.now, f.timely.step, ?_, ?_, ?_⟩
  · intro x mx
    rw [slots] at mx
    rcases List.mem_append.1 mx with mx | mx
    · rw [History.last?_put, if_neg (other x mx)]
      exact f.held x (sub.subset mx)
    · rw [List.mem_singleton.1 mx, History.last?_put, if_pos rfl]
  · rw [slots]
    refine List.pairwise_append.2 ⟨?_, List.pairwise_singleton _ _, ?_⟩
    · refine (f.order.sublist sub).imp_of_mem fun mx _ m => ?_
      exact (History.mem_newerKeys_put (other _ mx)).2 (.inr m)
    · intro x mx y my
      rw [List.mem_singleton.1 my]
      exact (History.mem_newerKeys_put (other x mx)).2 (.inl rfl)
  · intro p safe
    rw [TimedStore.step_limits] at safe
    rw [slots]
    by_cases eq : k = p.key
    · have last := safe.last
      rw [History.last?_put, if_pos eq] at last
      rw [← Option.some.inj last]
      exact List.mem_append_right _ List.mem_cons_self
    · refine List.mem_append_left _ (List.mem_filter.2 ⟨f.mem_room safe eq, ?_⟩)
      exact bne_iff_ne.2 (Ne.symm eq)

/-- A deed that only drops slots that have expired keeps the store beside its history. -/
lemma dropped (f : Faithful h t) {t' : TimedStore} {r : Slot → Bool} (now : t'.now = t.now)
    (limits : t'.store.limits = t.store.limits) (slots : t'.store.slots = t.store.slots.filter r)
    (fresh : ∀ x, x.expired t.store.limits.ttl t.now = false → r x = true) : Faithful h t' := by
  refine ⟨now.trans f.now, f.timely, ?_, ?_, ?_⟩
  · intro x mx
    rw [slots] at mx
    exact f.held x (List.mem_of_mem_filter mx)
  · rw [slots]
    exact f.order.sublist List.filter_sublist
  · intro p safe
    rw [limits] at safe
    rw [slots]
    exact List.mem_filter.2 ⟨f.kept p safe, fresh p (f.now ▸ safe.fresh)⟩

/-- Every deed keeps the store beside its history. -/
lemma step (f : Faithful h t) : Faithful (h.step d) (t.step d) := by
  cases d with
  | put k e => exact f.put
  | get k =>
    refine f.dropped rfl Store.get_limits Store.get_slots fun x fresh => ?_
    rw [fresh, Bool.and_false, Bool.not_false]
  | sweep =>
    refine f.dropped rfl rfl rfl fun x fresh => ?_
    rw [fresh, Bool.not_false]
  | clear => exact ⟨f.now, f.timely.step, nofun, .nil, fun _ safe => nomatch safe.last⟩
  | elapse ms =>
    refine ⟨congrArg (· + ms) f.now, f.timely.step, f.held, f.order, fun p safe => ?_⟩
    refine f.kept p ⟨safe.last, ?_, safe.few⟩
    exact Slot.expired_mono (Nat.le_refl _) (Nat.le_add_right _ _) safe.fresh

/-- Every run keeps the store beside its history. -/
lemma run (f : Faithful h t) : Faithful (h.run deeds) (t.run deeds) := by
  induction deeds generalizing h t with
  | nil => exact f
  | cons d deeds ih => exact ih f.step

end Faithful

namespace TimedStore

/-- A store is a map up to a loss that its limits permit. After any run, a lookup finds nothing but
the entry of the last put since the last clear, if its time to live is not over; and it does find
that entry unless so many other keys were put since that a batch may have taken it. -/
theorem map_up_to_loss (limits : Limits) (deeds : List Deed) (k : Key) :
    let h := History.start.run deeds
    let t := (TimedStore.start limits).run deeds
    (∀ e, (t.store.get t.now k).1 = some e →
      ∃ p, h.last? k = some p ∧ p.entry = e ∧ ∀ d, limits.ttl = some d → t.now - p.putAt < d) ∧
    ∀ p, h.last? k = some p → (∀ d, limits.ttl = some d → t.now - p.putAt < d) →
      limits.capacity = 0 ∨ (h.newerKeys k).length ≤ limits.capacity - limits.batch →
      (t.store.get t.now k).1 = some p.entry := by
  intro h t
  have f : Faithful h t := Faithful.start.run
  have same : t.store.limits = limits := run_limits
  constructor
  · intro e found
    obtain ⟨x, mx, rfl, entry, fresh⟩ := Store.get_some_iff.1 found
    refine ⟨x, f.held x mx, entry, ?_⟩
    rw [same] at fresh
    exact Slot.expired_iff.1 fresh
  · intro p last young few
    obtain rfl := History.last?_key last
    have fresh := Slot.expired_iff.2 young
    refine Store.get_some_iff.2 ⟨p, f.kept p ?_, rfl, rfl, ?_⟩
    · rw [same]
      exact ⟨last, f.now ▸ fresh, few⟩
    · rw [same]
      exact fresh

/-- With room for two and batches of one, the next put after `b` takes `a` out of the store. -/
example (e : Entry) :
    let a := Key.letter 'a' (by decide)
    let b := Key.letter 'b' (by decide)
    let c := Key.letter 'c' (by decide)
    let t := (TimedStore.start ⟨2, none, 1⟩).run [.put a e, .elapse 1, .put b e, .elapse 1]
    (t.store.get t.now a).1 = some e ∧ (((t.step (.put c e)).store.get t.now a).1 = none) :=
  ⟨rfl, rfl⟩

end TimedStore

end EdgeCache
