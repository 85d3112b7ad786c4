import EdgeCache.Proofs.Coordinator.Errors
import EdgeCache.Proofs.Coordinator.Steady
import Mathlib.Data.List.Induction

/-!
# How calls fare that can only be refused

The store does not fail, and a flight brings an entry if its key has an address. Then flights are
dispatched for such keys only, none of them leaves a fault, and a call ends in one only because its
key has no address. It does so at its first run, and touches neither the store nor the registry.
-/

namespace EdgeCache

/-- An event that does not make the store fail, and in which no flight ends without an entry whose
key has an address. -/
structure Event.Brings (setup : Setup) (ev : Event) : Prop where
  fine : ev.isFault = false
  entry : ∀ f how, ev = .land f how → setup.accepts f.key = .ok () → ∃ x, how.entry? = some x

namespace Coordinator

variable {setup : Setup} {now : Nat} {c c' : Coordinator} {ev : Event} {k : Key}

/-- How far a call of a key can get, if it can only be refused. -/
inductive Fares (setup : Setup) (k : Key) : Stage → Prop where
  | idle :
    Fares setup k .idle
  | waiting {f} :
    setup.accepts k = .ok () →
    Fares setup k (.waiting f)
  | served {x} :
    setup.accepts k = .ok () →
    Fares setup k (.finished (.ok x))
  | refused {fault} :
    setup.accepts k = .error fault →
    Fares setup k (.finished (.error fault))
  | cancelled :
    Fares setup k .cancelled

/-- A first run over a store that does not fail refuses the key, or goes on with one that has an
address. -/
lemma Resolves.fares {p} (res : Resolves setup now k c p c') (calm : c.shelf.Calm) :
    match p with
    | .done r => Fares setup k (.finished r)
    | .joined f => Fares setup k (.waiting f) := by
  have reads {s s' : Shelf} {fault : Fault} (calm : s.Calm) :
      s.get now k ≠ (.error fault, s') := by
    rw [calm.get_eq]
    nofun
  cases res with
  | refused no => exact .refused no
  | failed _ g => exact absurd g (reads calm)
  | hit ok => exact .served ok
  | joined ok => exact .waiting ok
  | failedAgain _ g _ g' =>
    have calm' : (c.shelf.get now k).2.Calm := calm.get
    rw [g] at calm'
    exact absurd g' (reads calm')
  | hitAgain ok => exact .served ok
  | dispatched ok => exact .waiting ok

/-- A first run of a key without an address ends in the fault and does nothing else. -/
lemma Resolves.of_refused {p fault} (res : Resolves setup now k c p c')
    (no : setup.accepts k = .error fault) : p = .done (.error fault) ∧ c' = c :=
  Prod.mk.inj (res.resolve_eq.symm.trans (Resolves.refused no).resolve_eq)

/-- Nothing that is done with a call of a key without an address touches the flights or the store. -/
lemma Shift.refused {id fault} (sh : Shift setup now c ev c')
    (no : setup.accepts k = .error fault) (own : ∀ x, c.caller? id = some x → x.key = k)
    (about : ev ∈ [.call id k, .poll id, .cancel id]) : SameFlights c c' ∧ c'.shelf = c.shelf := by
  cases sh with
  | still => exact ⟨.refl, rfl⟩
  | shelved handled => cases handled <;> simp at about
  | called => exact ⟨⟨rfl, rfl, rfl, rfl⟩, rfl⟩
  | answered h _ res =>
    obtain rfl : _ = id := by simpa using about
    obtain rfl := own _ h
    obtain ⟨_, rfl⟩ := (resolve_inv res).of_refused no
    exact ⟨finish_flights, finish_shelf⟩
  | attached h _ res =>
    obtain rfl : _ = id := by simpa using about
    obtain rfl := own _ h
    cases ((resolve_inv res).of_refused no).1
  | received => exact ⟨finish_flights, finish_shelf⟩
  | abandoned => exact ⟨setStage_flights, rfl⟩
  | departed => simp at about
  | landed => simp at about

/-- What has landed was there before, or has been left by the flight that ends. -/
lemma Shift.landed_came {l} (sh : Shift setup now c ev c') (ml : l ∈ c'.landed) :
    l ∈ c.landed ∨ ∃ f how x, ev = .land f how ∧ c.flight? f = some x ∧
      l = (f, (c.settle now f.key how).1) := by
  cases sh with
  | @landed f how x hx can =>
    rw [landing_flights.landed] at ml
    rcases List.mem_append.1 ml with ml | ml
    · exact .inl ml
    · exact .inr ⟨f, how, x, rfl, hx, List.mem_singleton.1 ml⟩
  | still => exact .inl ml
  | shelved => exact .inl ml
  | called => exact .inl ml
  | answered _ _ res => exact .inl (((resolve_inv res).done_flights.trans finish_flights).landed ▸ ml)
  | attached _ _ res =>
    cases resolve_inv res with
    | joined => exact .inl ml
    | dispatched => exact .inl ml
  | received => exact .inl (finish_flights.landed ▸ ml)
  | abandoned => exact .inl ml
  | departed => exact .inl ml

/-- A coordinator whose calls can only be refused. -/
structure Fair (setup : Setup) (c : Coordinator) : Prop where
  calm : c.shelf.Calm
  flights : ∀ y ∈ c.flights, setup.accepts y.id.key = .ok ()
  asked : ∀ k ∈ c.asked, setup.accepts k = .ok ()
  landed : ∀ l ∈ c.landed, ∃ x, l.2 = some (.ok x)
  callers : ∀ id x, c.caller? id = some x → Fares setup x.key x.stage

namespace Fair

/-- A flight that is under way has an address. -/
lemma flight {f y} (h : Fair setup c) (hy : c.flight? f = some y) : setup.accepts f.key = .ok () := by
  have same : y.id = f := by simpa using List.find?_some hy
  exact same ▸ h.flights y (List.mem_of_find?_eq_some hy)

/-- What a flight has left is an entry. -/
lemma outcome {f o} (h : Fair setup c) (left : c.outcome? f = some o) : ∃ x, o = some (.ok x) := by
  obtain ⟨_, _, eq, _⟩ := List.lookup_eq_some_iff.1 left
  apply h.landed (f, o)
  rw [eq]
  exact List.mem_append_right _ List.mem_cons_self

lemma shift (h : Fair setup c) (sh : Shift setup now c ev c') (brings : ev.Brings setup) :
    Fair setup c' := by
  constructor
  case calm => exact sh.calm h.calm brings.fine
  case flights =>
    intro y my
    cases sh.traffic with
    | same s => exact h.flights y (s.flights ▸ my)
    | dispatched _ _ ok _ _ _ s =>
      rcases List.mem_append.1 (s.flights ▸ my) with my | my
      · exact h.flights y my
      · rw [List.mem_singleton.1 my]
        exact ok
    | departed _ _ s =>
      obtain ⟨z, mz, rfl⟩ := List.mem_map.1 (s.flights ▸ my)
      have ok := h.flights z mz
      split
      · exact ok
      · exact ok
    | landed _ _ s => exact h.flights y (List.mem_of_mem_filter (s.flights ▸ my))
  case asked =>
    intro k mk
    cases sh.traffic with
    | same s => exact h.asked k (s.asked ▸ mk)
    | dispatched _ _ _ _ _ _ s => exact h.asked k (s.asked ▸ mk)
    | departed hx _ s =>
      rcases List.mem_append.1 (s.asked ▸ mk) with mk | mk
      · exact h.asked k mk
      · rw [List.mem_singleton.1 mk]
        exact h.flight hx
    | landed _ _ s => exact h.asked k (s.asked ▸ mk)
  case landed =>
    intro l ml
    rcases sh.landed_came ml with ml | ⟨f, how, x, rfl, hx, rfl⟩
    · exact h.landed l ml
    · -- A flight that lands has been under way, so its key has an address, and it brings an entry.
      obtain ⟨entry, brought⟩ := brings.entry f how rfl (h.flight hx)
      exact ⟨entry, settle_calm h.calm brought⟩
  case callers =>
    intro id x' hx'
    cases hx : c.caller? id with
    | none =>
      rw [(sh.caller_new hx hx').2]
      exact .idle
    | some x =>
      obtain ⟨st, moved, mv⟩ := sh.caller hx
      rw [hx'] at moved
      obtain rfl := Option.some.inj moved
      have fares := h.callers id x hx
      cases mv with
      | rests => exact fares
      | answered _ _ res => exact (resolve_inv res).fares h.calm
      | attached _ _ res => exact (resolve_inv res).fares h.calm
      | received _ waits left =>
        obtain ⟨entry, rfl⟩ := h.outcome left
        rw [waits] at fares
        cases fares with
        | waiting ok => exact .served ok
      | abandoned => exact .cancelled

end Fair

end Coordinator

namespace Edge

open Coordinator

variable {setup : Setup} {e : Edge} {events : List Event} {id : Nat} {w : Caller}

lemma fair_run {limits : Limits} (brings : ∀ ev ∈ events, ev.Brings setup) :
    Fair setup (run setup (start limits) events).coordinator := by
  induction events using List.reverseRecOn with
  | nil => exact ⟨⟨rfl, rfl⟩, nofun, nofun, nofun, nofun⟩
  | append_singleton events ev ih =>
    have fair := ih fun ev m => brings ev (List.mem_append_left _ m)
    rw [run_append]
    exact fair.shift (step_shift setup _ ev) (brings ev (List.mem_append_right _ List.mem_cons_self))

/-- A call of a key without an address ends at its first run. -/
lemma step_poll_refused {fault : Fault} (h : e.coordinator.caller? id = some w)
    (idle : w.stage = .idle) (no : setup.accepts w.key = .error fault) :
    (e.step setup (.poll id)).coordinator.caller? id =
      some { w with stage := .finished (.error fault) } := by
  have res : Resolves setup e.now w.key e.coordinator (.done (.error fault)) e.coordinator :=
    .refused no
  have ends : (e.step setup (.poll id)).coordinator =
      e.coordinator.finish id (.error fault) := poll_answered h idle res.resolve_eq
  rw [ends, caller?_finish]
  exact caller?_setStage_self h

/-- A caller stays the same but for how far it is. -/
lemma run_caller (h : e.coordinator.caller? id = some w) :
    ∃ st, (run setup e events).coordinator.caller? id = some { w with stage := st } := by
  apply run_keeps (P := fun e => ∃ st, e.coordinator.caller? id = some { w with stage := st })
  · rintro e ev ⟨st, here⟩
    obtain ⟨st', there, _⟩ := (step_shift setup e ev).caller here
    exact ⟨st', there⟩
  · exact ⟨w.stage, h⟩

/-- Whoever is cancelled has been told so. -/
lemma cancelled_told {limits : Limits}
    (h : (run setup (start limits) events).coordinator.caller? id = some w)
    (cancelled : w.stage = .cancelled) : .cancel id ∈ events := by
  induction events using List.reverseRecOn generalizing w with
  | nil => cases h
  | append_singleton events ev ih =>
    rw [run_append] at h
    have sh := step_shift setup (run setup (start limits) events) ev
    cases hx : (run setup (start limits) events).coordinator.caller? id with
    | none =>
      rw [(sh.caller_new hx h).2] at cancelled
      cases cancelled
    | some x =>
      obtain ⟨st, moved, mv⟩ := sh.caller hx
      obtain rfl := Option.some.inj (h.symm.trans moved)
      cases mv with
      | rests => exact List.mem_append_left _ (ih hx cancelled)
      | answered => cases cancelled
      | attached => cases cancelled
      | received => cases cancelled
      | abandoned told =>
        rw [told, caller?_id hx]
        exact List.mem_append_right _ List.mem_cons_self

end Edge

end EdgeCache
