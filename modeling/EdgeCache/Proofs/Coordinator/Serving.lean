import EdgeCache.Proofs.Coordinator.Errors

/-!
# What is stored is served

Once an entry is in the store and no flight of its key is under way, it stays there and every call of
the key gets it, until an event parts with it: the key is taken out, something else is put in its
place, or the store is not read for it.
-/

namespace EdgeCache

namespace Edge

/-- An entry is in the store, and no flight of its key is under way. -/
structure Holds (e : Edge) (k : Key) (x : Entry) : Prop where
  stored : ∃ slot ∈ e.store.slots, slot.key = k ∧ slot.entry = x
  free : e.Free k

/-- Why what is held under a key is not served any longer. -/
inductive Parts (setup : Setup) (e : Edge) (k : Key) : Event → Prop where
  | lost {ev : Event} :
    e.Loses setup ev k →
    Parts setup e k ev
  | replaced {x : Entry} :
    Parts setup e k (.put k x)
  | hidden {id : Nat} :
    e.coordinator.shelf.readings.head?.getD .faithful ≠ .faithful →
    Parts setup e k (.poll id)

/-- A call is answered from the store, at once and without a flight. -/
structure Serves (setup : Setup) (e : Edge) (id : Nat) (w : Caller) (x : Entry) : Prop where
  gets : (e.step setup (.poll id)).coordinator.caller? id =
    some { w with stage := .finished (.ok x) }
  hit : (e.step setup (.poll id)).coordinator.tally =
    { e.coordinator.tally with hits := e.coordinator.tally.hits + 1 }
  unasked : Coordinator.SameFlights e.coordinator (e.step setup (.poll id)).coordinator

end Edge

namespace Coordinator

variable {setup : Setup} {now : Nat} {c c' : Coordinator} {ev : Event} {k : Key} {y : Slot}

/-! ## Where slots come from -/

lemma Resolves.slots {p} (res : Resolves setup now k c p c')
    (my : y ∈ c'.shelf.store.slots) : y ∈ c.shelf.store.slots := by
  have read (s : Store) (m : y ∈ (s.get now k).2.slots) : y ∈ s.slots := by
    rw [Store.get_slots] at m
    exact List.mem_of_mem_filter m
  rcases res.shelf with eq | eq | eq
  · rwa [eq] at my
  · rw [eq] at my
    rcases Shelf.get_store now k c.shelf with eq | eq
    · rwa [eq] at my
    · rw [eq] at my
      exact read _ my
  · rw [eq] at my
    rcases Shelf.get_get_store now k c.shelf with eq | eq
    · rwa [eq] at my
    · rw [eq] at my
      exact read _ my

/-- A first run whose key has an address looks the key up. -/
lemma Resolves.read {p} (res : Resolves setup now k c p c') (ok : setup.accepts k = .ok ())
    (faithful : c.shelf.readings.head?.getD .faithful = .faithful) :
    c'.shelf.store = (c.shelf.store.get now k).2 := by
  have first {found s} (g : c.shelf.get now k = (found, s)) :
      s.store = (c.shelf.store.get now k).2 := by
    rw [Shelf.get_faithful faithful] at g
    cases g
    rfl
  have second {found found' s s'} (g : c.shelf.get now k = (found, s))
      (g' : s.get now k = (found', s')) : s'.store = (c.shelf.store.get now k).2 := by
    have twice := Shelf.get_store now k s
    rw [g', first g, Store.get_get] at twice
    exact twice.elim id id
  cases res with
  | refused no =>
    rw [ok] at no
    cases no
  | failed _ g => exact first g
  | hit _ g => exact first g
  | joined _ g => exact first g
  | failedAgain _ g _ g' => exact second g g'
  | hitAgain _ g _ g' => exact second g g'
  | dispatched _ g _ g' => exact second g g'

lemma put_came {s : Store} {x : Entry} (my : y ∈ (s.put now k x).slots) :
    y ∈ s.slots ∨ y.key = k ∧ y.entry = x := by
  rw [Store.put_slots] at my
  rcases List.mem_append.1 my with my | my
  · exact .inl (Store.room_sublist.subset (List.mem_of_mem_filter my))
  · rw [List.mem_singleton.1 my]
    exact .inr ⟨rfl, rfl⟩

/-- What is in the store has been there, or has been put there directly, or a flight of its key has
brought it. -/
lemma Shift.came (sh : Shift setup now c ev c') (my : y ∈ c'.shelf.store.slots) :
    y ∈ c.shelf.store.slots ∨ ev = .put y.key y.entry ∨
      ∃ f how x, ev = .land f how ∧ c.flight? f = some x ∧ f.key = y.key ∧
        how.entry? = some y.entry := by
  cases sh with
  | still => exact .inl my
  | shelved handled =>
    cases handled with
    | reading => exact .inl my
    | writing => exact .inl my
    | put =>
      rcases put_came my with my | ⟨rfl, rfl⟩
      · exact .inl my
      · exact .inr (.inl rfl)
    | @get k =>
      have m : y ∈ (c.shelf.store.get now k).2.slots := my
      rw [Store.get_slots] at m
      exact .inl (List.mem_of_mem_filter m)
    | sweep => exact .inl (List.mem_of_mem_filter my)
    | clear => exact absurd my List.not_mem_nil
  | called => exact .inl my
  | answered _ _ res =>
    rw [finish_shelf] at my
    exact .inl ((resolve_inv res).slots my)
  | attached _ _ res => exact .inl ((resolve_inv res).slots my)
  | received =>
    rw [finish_shelf] at my
    exact .inl my
  | abandoned => exact .inl my
  | departed => exact .inl my
  | @landed f how x h =>
    rw [landing_shelf, Landing.shelve] at my
    cases brought : how.entry? with
    | none =>
      rw [brought] at my
      exact .inl my
    | some entry =>
      simp only [brought] at my
      rcases Shelf.put_store now f.key entry c.shelf with eq | eq
      · rw [eq] at my
        exact .inl my
      · rw [eq] at my
        rcases put_came my with my | ⟨ek, rfl⟩
        · exact .inl my
        · exact .inr (.inr ⟨f, how, x, rfl, h, ek.symm, brought⟩)

end Coordinator

namespace Edge

open Coordinator

variable {setup : Setup} {e : Edge} {ev : Event} {events : List Event} {k : Key} {x : Entry}
variable {f : FlightId} {how : Landing} {id : Nat} {w : Caller}

/-- What lands is held from then on. -/
lemma Lands.holds (lands : e.Lands setup f how) (inv : Orderly e.coordinator)
    (brought : how.entry? = some x)
    (faithful : e.coordinator.shelf.writings.head?.getD .faithful = .faithful) :
    (e.step setup (.land f how)).Holds f.key x := by
  refine ⟨?_, lands.free inv⟩
  obtain ⟨y, h, can⟩ := lands
  have put : (e.step setup (.land f how)).store = e.store.put e.now f.key x := by
    simp only [store, step, act, land_eq h can, landing_shelf, Landing.shelve, brought]
    exact Shelf.put_faithful faithful
  rw [put, Store.put_slots]
  exact ⟨⟨f.key, x, e.now⟩, List.mem_append_right _ List.mem_cons_self, rfl, rfl⟩

lemma Holds.step (h : e.Holds k x) (inv : Orderly e.coordinator) :
    (e.step setup ev).Holds k x ∨ e.Parts setup k ev := by
  obtain ⟨⟨slot, mslot, rfl, rfl⟩, free⟩ := h
  have sh := step_shift setup e ev
  have here : e.store.contains slot.key = true := Store.contains_iff.2 ⟨slot, mslot, rfl⟩
  cases there : (e.step setup ev).store.contains slot.key with
  | false => exact .inr (.lost ⟨here, there, sh.touched.lost here there⟩)
  | true =>
    obtain ⟨y, my, same⟩ := Store.contains_iff.1 there
    rcases sh.came my with my' | rfl | ⟨f, how, z, rfl, hz, ek, _⟩
    · obtain rfl := Store.slot_unique my' mslot same
      by_cases free' : (e.step setup ev).Free y.key
      · exact .inl ⟨⟨y, my, rfl, rfl⟩, free'⟩
      · -- The flight that is there now was dispatched although the entry was in the store.
        obtain ⟨id, rfl, sends⟩ := free.step free'
        obtain ⟨rest, blind⟩ := sends.blind there
        refine .inr (.hidden ?_)
        rw [blind]
        exact Reading.noConfusion
    · rw [same]
      exact .inr .replaced
    · obtain ⟨mz, rfl⟩ := inv.flight?_iff.1 hz
      exact absurd (ek.trans same) (free z mz)

/-- What is held stays along a run, unless one of its events parts with it. -/
lemma Holds.run (h : e.Holds k x) (inv : Orderly e.coordinator) :
    (run setup e events).Holds k x ∨
      ∃ before ev after, events = before ++ ev :: after ∧
        (Edge.run setup e before).Parts setup k ev := by
  by_cases held : (Edge.run setup e events).Holds k x
  · exact .inl held
  · obtain ⟨before, ev, after, eq, held, lost⟩ :=
      run_loses (P := fun e => e.Holds k x) h held
    exact .inr ⟨before, ev, after, eq, (held.step inv.run).resolve_left lost⟩

/-- A call of a key is served what is held, unless this parts with it. -/
lemma Holds.serves (h : e.Holds w.key x) (hw : e.coordinator.caller? id = some w)
    (idle : w.stage = .idle) (ok : setup.accepts w.key = .ok ()) :
    e.Serves setup id w x ∨ e.Parts setup w.key (.poll id) := by
  by_cases faithful : e.coordinator.shelf.readings.head?.getD .faithful = .faithful
  case neg => exact .inr (.hidden faithful)
  obtain ⟨⟨slot, mslot, same, rfl⟩, _⟩ := h
  rcases eq : e.coordinator.resolve setup e.now w.key with ⟨p, c⟩
  have res := resolve_inv eq
  cases late : slot.expired e.store.limits.ttl e.now with
  | false =>
    have found : (e.coordinator.shelf.get e.now w.key).1 = .ok (some slot.entry) := by
      rw [Shelf.get_faithful faithful]
      exact congrArg Except.ok (Store.get_some_iff.2 ⟨slot, mslot, same, rfl, late⟩)
    obtain ⟨rfl, hit, flights⟩ := res.found ok (.inl found)
    have polled : (e.step setup (.poll id)).coordinator = c.finish id (.ok slot.entry) :=
      poll_answered hw idle eq
    refine .inl ⟨?_, ?_, ?_⟩
    · rw [polled, caller?_finish]
      exact caller?_setStage_self ((caller?_congr res.callers).trans hw)
    · rw [polled]
      exact hit
    · rw [polled]
      exact flights.trans finish_flights
  | true =>
    have missed : (e.store.get e.now w.key).1 = none := by
      simp only [Store.get, Store.slot?_iff.2 ⟨mslot, same⟩, late, if_true]
    have gone : c.shelf.store.contains w.key = false := by
      rw [res.read ok faithful]
      exact Store.get_none_contains missed
    have left : (e.step setup (.poll id)).store = c.shelf.store := by
      cases p with
      | done r =>
        simp only [store, Edge.step, act, poll_answered hw idle eq, finish_shelf]
      | joined f =>
        simp only [store, Edge.step, act, poll_attached hw idle eq]
        rfl
    have here : e.store.contains w.key = true := Store.contains_iff.2 ⟨slot, mslot, same⟩
    have there : (e.step setup (.poll id)).store.contains w.key = false := left ▸ gone
    exact .inr (.lost ⟨here, there, .expired mslot same late⟩)

/-- Once an entry is held, a later call of its key is served it, unless an event since then has
parted with it. -/
lemma Holds.serves_later (h : e.Holds w.key x) (inv : Orderly e.coordinator)
    (hw : (Edge.run setup e events).coordinator.caller? id = some w) (idle : w.stage = .idle)
    (ok : setup.accepts w.key = .ok ()) :
    (Edge.run setup e events).Serves setup id w x ∨
      ∃ before ev after, events ++ [.poll id] = before ++ ev :: after ∧
        (Edge.run setup e before).Parts setup w.key ev := by
  have kept : (Edge.run setup e events).Holds w.key x ∨ _ := h.run inv
  rcases kept with held | ⟨before, ev, after, rfl, parts⟩
  · refine (held.serves hw idle ok).imp_right fun parts => ?_
    exact ⟨events, _, [], rfl, parts⟩
  · exact .inr ⟨before, ev, after ++ [.poll id], by simp, parts⟩

end Edge

end EdgeCache
