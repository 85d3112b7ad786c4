import EdgeCache.Proofs.Store.History

/-!
# The ledger of a store

Every entry that a store has taken in is still there, or was counted when it left, or was cleared.
The ledger is kept beside the store, deed by deed; the store itself knows its counter only.
-/

namespace EdgeCache

variable {limits : Limits} {t : TimedStore} {d : Deed} {deeds : List Deed}

/-! ## What a deed brings and takes -/

namespace Deed

/-- The number of entries that a deed brings: one for a put of a key that is not in the store. -/
def brings (t : TimedStore) : Deed → Nat
  | .put k _ => if t.store.contains k = true then 0 else 1
  | _ => 0

/-- The number of entries that a deed clears. -/
def clears (t : TimedStore) : Deed → Nat
  | .clear => t.store.size
  | _ => 0

/-- The number of entries whose keys are in the store before a deed and not after it. -/
def drops (t : TimedStore) (d : Deed) : Nat :=
  t.store.slots.countP fun x => !(t.step d).store.contains x.key

end Deed

namespace TimedStore

/-- What the deeds of a run come to. -/
def total (amount : TimedStore → Deed → Nat) (t : TimedStore) : List Deed → Nat
  | [] => 0
  | d :: deeds => amount t d + total amount (t.step d) deeds

/-- What a deed brings is then in the store, or counted, or cleared. -/
lemma step_balance :
    (t.step d).store.size + (t.step d).store.evictions + d.clears t =
      t.store.size + t.store.evictions + d.brings t := by
  cases d with
  | put k e =>
    have counted : (t.store.room k).length + (t.store.put t.now k e).evictions =
        t.store.size + t.store.evictions := Store.room_balance
    simp only [step, Deed.clears, Deed.brings, Store.size_put]
    omega
  | get k => exact Store.get_balance
  | sweep => exact Store.sweep_balance
  | clear =>
    simp only [step, Deed.clears, Deed.brings, Store.clear, Store.size, List.length_nil]
    omega
  | elapse ms => rfl

/-- What the deeds of a run bring is then in the store, or counted, or cleared. -/
lemma run_balance :
    (t.run deeds).store.size + (t.run deeds).store.evictions + t.total Deed.clears deeds =
      t.store.size + t.store.evictions + t.total Deed.brings deeds := by
  induction deeds generalizing t with
  | nil => rfl
  | cons d deeds ih =>
    have first := step_balance (t := t) (d := d)
    have rest := ih (t := t.step d)
    simp only [run, List.foldl_cons, total] at rest ⊢
    omega

end TimedStore

/-! ## Keys before and after -/

namespace Store

variable {s s' : Store}

/-- No key of a slot of the store is new to it. -/
lemma no_new_keys {l : List Slot} (sub : l.Sublist s.slots) :
    l.countP (fun x => !s.contains x.key) = 0 := by
  refine List.countP_eq_zero.2 fun x mx => ?_
  rw [contains_iff.2 ⟨x, sub.subset mx, rfl⟩, Bool.not_true]
  exact Bool.false_ne_true

/-- Two stores have as many slots whose keys are in both. -/
lemma countP_shared :
    s.slots.countP (fun x => s'.contains x.key) = s'.slots.countP fun x => s.contains x.key := by
  have picked (u v : Store) : u.slots.countP (fun x => v.contains x.key) =
      ((u.slots.map Slot.key).filter v.contains).length := by
    rw [List.filter_map, List.length_map, List.countP_eq_length_filter]
    rfl
  -- The keys picked on either side are the same, and none occurs twice.
  have same : ((s.slots.map Slot.key).filter s'.contains).Perm
      ((s'.slots.map Slot.key).filter s.contains) := by
    apply (List.perm_ext_iff_of_nodup (s.nodup.filter _) (s'.nodup.filter _)).2
    intro k
    simp only [List.mem_filter, List.mem_map, contains_iff]
    exact and_comm
  rw [picked, picked]
  exact same.length_eq

/-- What is missing in one store and in the other makes up for the difference of their sizes. -/
lemma size_balance :
    s.slots.countP (fun x => !s'.contains x.key) + s'.size =
      s.size + s'.slots.countP fun x => !s.contains x.key := by
  have shared : s.slots.countP (fun x => s'.contains x.key) =
      s'.slots.countP fun x => s.contains x.key := countP_shared
  have mine := s.slots.length_eq_countP_add_countP fun x => s'.contains x.key
  have yours := s'.slots.length_eq_countP_add_countP fun x => s.contains x.key
  simp only [Bool.not_eq_true, Bool.decide_eq_false] at mine yours
  rw [size, size]
  omega

end Store

namespace Deed

/-- What a deed brings are the entries whose keys are in the store after it and not before. -/
lemma brings_eq : d.brings t = (t.step d).store.slots.countP fun x => !t.store.contains x.key := by
  cases d with
  | put k e =>
    have slots : (t.step (.put k e)).store.slots = _ := Store.put_slots
    rw [slots, List.countP_append, List.countP_singleton,
      Store.no_new_keys (List.filter_sublist.trans Store.room_sublist)]
    cases here : t.store.contains k with
    | true => simp [brings, here]
    | false => simp [brings, here]
  | get k =>
    have slots : (t.step (.get k)).store.slots = _ := Store.get_slots
    rw [slots]
    exact (Store.no_new_keys List.filter_sublist).symm
  | sweep => exact (Store.no_new_keys List.filter_sublist).symm
  | clear => rfl
  | elapse ms => exact (Store.no_new_keys (.refl _)).symm

/-- What leaves is counted or cleared. -/
lemma drops_balance :
    (t.step d).store.evictions + d.clears t = t.store.evictions + d.drops t := by
  have ledger := TimedStore.step_balance (t := t) (d := d)
  have keys : d.drops t + (t.step d).store.size = t.store.size + d.brings t := by
    rw [brings_eq]
    exact Store.size_balance
  omega

end Deed

namespace TimedStore

/-- The puts of keys that were not in the store are as many as the entries that are in it, that were
counted when they left and that were cleared. Whatever is done, the counter goes up by the number of
keys that leave by it, unless they are cleared: each is counted once. A put in place of an entry is
not counted, whether that had expired or not. -/
theorem evictions_are_accounted (limits : Limits) (deeds : List Deed) :
    let t := (start limits).run deeds
    (start limits).total Deed.brings deeds =
      t.store.size + t.store.evictions + (start limits).total Deed.clears deeds ∧
    (∀ d, (t.step d).store.evictions + d.clears t = t.store.evictions + d.drops t) ∧
    ∀ k e, t.store.contains k = true → (t.step (.put k e)).store.evictions = t.store.evictions := by
  intro t
  refine ⟨?_, fun d => Deed.drops_balance, fun k e here => ?_⟩
  · have balance : t.store.size + t.store.evictions + (start limits).total Deed.clears deeds =
        0 + 0 + (start limits).total Deed.brings deeds := run_balance
    omega
  · exact Store.put_evictions_free (Store.isFullFor_of_contains here)

/-- Of three entries one made room, one was cleared and one has expired; the put that takes its
place is not counted. -/
theorem evictions_are_accounted_expired :
    let a := Key.letter 'a' (by decide)
    let b := Key.letter 'b' (by decide)
    let deeds : List Deed := [.put a (.failure 404), .put b (.failure 404), .clear,
      .put a (.failure 404), .elapse 5]
    let t := (start ⟨1, some 5, 1⟩).run deeds
    (start ⟨1, some 5, 1⟩).total Deed.brings deeds = 3 ∧
    3 = t.store.size + t.store.evictions + (start ⟨1, some 5, 1⟩).total Deed.clears deeds ∧
    t.store.contains a = true ∧ (t.step (.put a (.failure 500))).store.evictions = 1 := by
  intro a b deeds t
  obtain ⟨ledger, _, spared⟩ := evictions_are_accounted ⟨1, some 5, 1⟩ deeds
  exact ⟨rfl, ledger, rfl, spared a (.failure 500) rfl⟩

end TimedStore

end EdgeCache
