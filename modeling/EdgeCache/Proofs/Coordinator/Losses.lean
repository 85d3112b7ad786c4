import EdgeCache.Proofs.Coordinator.Inversion
import EdgeCache.Proofs.Run
import EdgeCache.Proofs.Store.Operations

/-!
# Losses

How the store fares under the events of a run. Whatever an event does, the store behind the shelf is
left alone, looked up, given an entry, swept or cleared; so a key leaves it only because everything
is dropped, because its time to live is over, or because room is made for another key.
-/

namespace EdgeCache

/-! ## The shelf -/

namespace Shelf

variable {s s' s'' : Shelf} {now : Nat} {k : Key} {e : Entry}

/-- A lookup reaches the store or does not. -/
lemma get_store (now : Nat) (k : Key) (s : Shelf) :
    (s.get now k).2.store = s.store ∨ (s.get now k).2.store = (s.store.get now k).2 := by
  simp only [get]
  split
  · exact .inr rfl
  · exact .inl rfl
  · exact .inl rfl

/-- Two lookups reach the store as one does, or not at all. -/
lemma get_get_store (now : Nat) (k : Key) (s : Shelf) :
    ((s.get now k).2.get now k).2.store = s.store ∨
      ((s.get now k).2.get now k).2.store = (s.store.get now k).2 := by
  rcases get_store now k (s.get now k).2 with again | again
  · rw [again]
    exact get_store now k s
  · rw [again]
    rcases get_store now k s with first | first
    · rw [first]
      exact .inr rfl
    · rw [first, Store.get_get]
      exact .inr rfl

/-- A put reaches the store or does not. -/
lemma put_store (now : Nat) (k : Key) (e : Entry) (s : Shelf) :
    (s.put now k e).2.store = s.store ∨ (s.put now k e).2.store = s.store.put now k e := by
  simp only [put]
  split
  · exact .inr rfl
  · exact .inl rfl
  · exact .inl rfl

/-- A put that succeeds and keeps what it was given. -/
lemma put_faithful (faithful : s.writings.head?.getD .faithful = .faithful) :
    (s.put now k e).2.store = s.store.put now k e := by
  simp only [put, faithful]

/-- A lookup that finds nothing has dropped the key, or has not looked. -/
lemma get_missed (missed : s.get now k = (.ok none, s')) :
    s'.store.contains k = false ∨ s'.store = s.store ∧ s.readings = .blind :: s'.readings := by
  simp only [get] at missed
  split at missed
  · obtain ⟨found, rfl⟩ := Prod.mk.inj missed
    exact .inl (Store.get_none_contains (Except.ok.inj found))
  case h_2 blind =>
    cases missed
    refine .inr ⟨rfl, ?_⟩
    cases r : s.readings with
    | nil =>
      rw [r] at blind
      cases blind
    | cons reading rest =>
      rw [r] at blind
      obtain rfl : reading = .blind := blind
      rfl
  · cases missed

end Shelf

/-! ## The store -/

namespace Store

variable {s s' : Store} {now : Nat} {ev : Event} {k : Key}

/-- What an event can do to the store. -/
inductive Touched (now : Nat) (s : Store) : Event → Store → Prop where
  | spared {ev : Event} :
    Touched now s ev s
  | read {ev : Event} {k : Key} :
    Touched now s ev (s.get now k).2
  | filled {ev : Event} {k : Key} {e : Entry} :
    Touched now s ev (s.put now k e)
  | swept :
    Touched now s .sweep (s.sweep now)
  | cleared :
    Touched now s .clear s.clear

/-- Why an event takes a key out of the store. -/
inductive Lost (now : Nat) (s : Store) (k : Key) : Event → Prop where
  | cleared :
    Lost now s k .clear
  | expired {ev : Event} {x : Slot} :
    x ∈ s.slots →
    x.key = k →
    x.expired s.limits.ttl now = true →
    Lost now s k ev
  /-- The store is full, and the key is among those whose entries are oldest. -/
  | evicted {ev : Event} {x : Slot} :
    0 < s.limits.capacity →
    s.limits.capacity ≤ s.slots.length →
    x ∈ s.slots.take s.limits.batch →
    x.key = k →
    Lost now s k ev

/-- A key that is gone after an event has been cleared, has expired or has been evicted. -/
theorem Touched.lost (t : Touched now s ev s') (here : s.contains k = true)
    (gone : s'.contains k = false) : Lost now s k ev := by
  obtain ⟨x, mx, eq⟩ := contains_iff.1 here
  have missing : x ∉ s'.slots := by
    intro mx'
    rw [contains_iff.2 ⟨x, mx', eq⟩] at gone
    cases gone
  cases t with
  | spared => exact absurd mx missing
  | @read ev j =>
    rw [get_slots, List.mem_filter] at missing
    refine .expired mx eq ?_
    by_contra fresh
    exact missing ⟨mx, by simp [fresh]⟩
  | @filled ev j e =>
    have other : x.key ≠ j := by
      rintro rfl
      rw [eq, contains_put] at gone
      cases gone
    rw [put_slots] at missing
    -- A put takes another key out only to make room, and that is a batch off the front.
    have unroomed : x ∉ s.room j := fun mx' =>
      missing (List.mem_append_left _ (List.mem_filter.2 ⟨mx', bne_iff_ne.2 other⟩))
    simp only [room] at unroomed
    split at unroomed
    case isFalse => exact absurd mx unroomed
    case isTrue full =>
      obtain ⟨pos, full, _⟩ := isFullFor_iff.1 full
      refine .evicted pos full ?_ eq
      rw [← List.take_append_drop s.limits.batch s.slots] at mx
      exact (List.mem_append.1 mx).resolve_right unroomed
  | swept =>
    refine .expired mx eq ?_
    by_contra fresh
    exact missing (List.mem_filter.2 ⟨mx, by simp [fresh]⟩)
  | cleared => exact .cleared

end Store

/-! ## Events -/

namespace Coordinator

variable {setup : Setup} {now : Nat} {c c' : Coordinator} {ev : Event}

/-- A first run looks up the store not at all, once or twice. -/
lemma Resolves.shelf {k p} (res : Resolves setup now k c p c') :
    c'.shelf = c.shelf ∨ c'.shelf = (c.shelf.get now k).2 ∨
      c'.shelf = ((c.shelf.get now k).2.get now k).2 := by
  cases res with
  | refused => exact .inl rfl
  | failed _ g => exact .inr (.inl (by rw [g]))
  | hit _ g => exact .inr (.inl (by rw [g]))
  | joined _ g => exact .inr (.inl (by rw [g]))
  | failedAgain _ g _ g' => exact .inr (.inr (by rw [g, g']))
  | hitAgain _ g _ g' => exact .inr (.inr (by rw [g, g']))
  | dispatched _ g _ g' =>
    refine .inr (.inr ?_)
    rw [g, g']
    rfl

/-- A first run reads from the store and does nothing else to it. -/
lemma Resolves.touched {k p} (res : Resolves setup now k c p c') :
    Store.Touched now c.shelf.store ev c'.shelf.store := by
  rcases res.shelf with eq | eq | eq
  · rw [eq]
    exact .spared
  · rw [eq]
    rcases Shelf.get_store now k c.shelf with eq | eq
    · rw [eq]
      exact .spared
    · rw [eq]
      exact .read
  · rw [eq]
    rcases Shelf.get_get_store now k c.shelf with eq | eq
    · rw [eq]
      exact .spared
    · rw [eq]
      exact .read

/-- The shelf does not change when a caller gets its result. -/
lemma finish_shelf {id r} : (c.finish id r).shelf = c.shelf := by
  cases r <;> rfl

/-- What lookups and puts keep, and all that is done past the coordinator, every event keeps. -/
lemma Shift.shelf_keeps {P : Shelf → Prop} (sh : Shift setup now c ev c') (h : P c.shelf)
    (get : ∀ s k, P s → P (s.get now k).2) (put : ∀ s k e, P s → P (s.put now k e).2)
    (handled : ∀ s s', Handled now s ev s' → P s → P s') : P c'.shelf := by
  have resolved {k p c'} (res : Resolves setup now k c p c') : P c'.shelf := by
    rcases res.shelf with eq | eq | eq
    · rw [eq]
      exact h
    · rw [eq]
      exact get _ k h
    · rw [eq]
      exact get _ k (get _ k h)
  cases sh with
  | still => exact h
  | shelved done => exact handled _ _ done h
  | called => exact h
  | answered _ _ res =>
    rw [finish_shelf]
    exact resolved (resolve_inv res)
  | attached _ _ res =>
    have kept := resolved (resolve_inv res)
    exact kept
  | received =>
    rw [finish_shelf]
    exact h
  | abandoned => exact h
  | departed => exact h
  | @landed f how x =>
    rw [landing_shelf, Landing.shelve]
    cases how.entry? with
    | none => exact h
    | some e => exact put _ f.key e h

/-- What an event does to the store. -/
theorem Shift.touched (sh : Shift setup now c ev c') :
    Store.Touched now c.shelf.store ev c'.shelf.store := by
  cases sh with
  | still => exact .spared
  | shelved h =>
    cases h with
    | reading => exact .spared
    | writing => exact .spared
    | put => exact .filled
    | get => exact .read
    | sweep => exact .swept
    | clear => exact .cleared
  | called => exact .spared
  | answered _ _ res =>
    rw [finish_shelf]
    exact (resolve_inv res).touched
  | attached _ _ res => exact (resolve_inv res).touched
  | received =>
    rw [finish_shelf]
    exact .spared
  | abandoned => exact .spared
  | departed => exact .spared
  | @landed f how x =>
    rw [landing_shelf, Landing.shelve]
    cases how.entry? with
    | none => exact .spared
    | some e =>
      rcases Shelf.put_store now f.key e c.shelf with eq | eq
      · simp only [eq]
        exact .spared
      · simp only [eq]
        exact .filled

end Coordinator

namespace Edge

/-- An event takes a key out of the store. -/
structure Loses (setup : Setup) (e : Edge) (ev : Event) (k : Key) : Prop where
  here : e.store.contains k = true
  gone : (e.step setup ev).store.contains k = false
  lost : e.store.Lost e.now k ev

/-- A key that is in the store before a run and not after it is taken out by one of its events. -/
lemma run_loses_key {setup : Setup} {e : Edge} {events : List Event} {k : Key}
    (here : e.store.contains k = true) (gone : (run setup e events).store.contains k = false) :
    ∃ before ev after, events = before ++ ev :: after ∧ (run setup e before).Loses setup ev k := by
  obtain ⟨before, ev, after, eq, here, gone⟩ :=
    run_loses (P := fun e => e.store.contains k = true) here (Bool.eq_false_iff.1 gone)
  have gone := Bool.eq_false_iff.2 gone
  have touched := (Coordinator.step_shift setup (run setup e before) ev).touched
  exact ⟨before, ev, after, eq, here, gone, touched.lost here gone⟩

end Edge

end EdgeCache
