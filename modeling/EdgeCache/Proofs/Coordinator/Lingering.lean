import EdgeCache.Proofs.Coordinator.Deadlines
import EdgeCache.Proofs.Coordinator.Losses

/-!
# How long entries linger

A sweep leaves nothing in the store that has expired by then, and whatever is put later is younger
than the sweep. So as long as the last sweep is not far back, no entry is much older than its time to
live, whatever else has happened to the store.
-/

namespace EdgeCache

namespace Store

variable {s s' : Store} {now since ttl interval : Nat} {ev : Event} {x : Slot}

/-- Nothing is left that had expired at a moment: what is there had not, or has been put since. -/
def SweptAt (since : Nat) (s : Store) : Prop :=
  ∀ x ∈ s.slots, x.expired s.limits.ttl since = false ∨ since ≤ x.putAt

/-- No event changes the limits. -/
lemma Touched.limits (t : Touched now s ev s') : s'.limits = s.limits := by
  cases t with
  | spared => rfl
  | read => exact get_limits
  | filled => exact put_limits
  | swept => rfl
  | cleared => rfl

/-- A sweep leaves nothing that has expired. -/
lemma sweptAt_sweep : (s.sweep now).SweptAt now := by
  intro x mx
  apply Or.inl
  change x.expired s.limits.ttl now = false
  simpa using (List.mem_filter.1 mx).2

/-- What is put later does not bring back what has been swept. -/
lemma SweptAt.touched (h : s.SweptAt since) (le : since ≤ now) (t : Touched now s ev s') :
    s'.SweptAt since := by
  have fewer {t : Store} (limits : t.limits = s.limits) (sub : t.slots ⊆ s.slots) :
      t.SweptAt since := by
    intro x mx
    rw [limits]
    exact h x (sub mx)
  cases t with
  | spared => exact h
  | read =>
    apply fewer get_limits
    rw [get_slots]
    exact List.filter_subset_self _
  | @filled ev k e =>
    intro x mx
    rw [put_slots] at mx
    rcases List.mem_append.1 mx with old | new
    · rw [put_limits]
      exact h x (room_sublist.subset (List.mem_filter.1 old).1)
    · rw [List.mem_singleton.1 new]
      exact .inr le
  | swept => exact fewer rfl (List.filter_subset_self _)
  | cleared => exact fewer rfl (List.nil_subset _)

/-- No entry has outlived its time by more than has passed since the sweep. -/
lemma SweptAt.age (h : s.SweptAt since) (lives : s.limits.ttl = some ttl) (past : since ≤ now)
    (soon : now < since + interval) (mx : x ∈ s.slots) : now - x.putAt < ttl + interval := by
  rcases h x mx with fresh | young
  · have := Slot.expired_iff.1 fresh ttl lives
    omega
  · omega

/-- A sweep removes no entry before its time. -/
lemma sweep_spares_young (lives : s.limits.ttl = some ttl) (mx : x ∈ s.slots)
    (gone : x ∉ (s.sweep now).slots) : ttl ≤ now - x.putAt := by
  by_contra young
  have fresh : x.expired s.limits.ttl now = false := by
    apply Slot.expired_iff.2
    intro d eq
    rw [lives] at eq
    cases eq
    exact Nat.not_le.1 young
  exact gone (List.mem_filter.2 ⟨mx, by rw [fresh]; rfl⟩)

end Store

namespace Edge

variable {setup : Setup} {e : Edge} {ev : Event} {events : List Event} {since : Nat}

/-- Nothing is left in the store that had expired at a moment in the past. -/
structure SweptAt (since : Nat) (e : Edge) : Prop where
  past : since ≤ e.now
  store : e.store.SweptAt since

lemma step_touched : Store.Touched e.now e.store ev (e.step setup ev).store :=
  (Coordinator.step_shift setup e ev).touched

/-- No run changes the limits of the store. -/
lemma run_limits : (run setup e events).store.limits = e.store.limits := by
  apply run_keeps (P := fun e' => e'.store.limits = e.store.limits)
  · intro e' ev same
    exact step_touched.limits.trans same
  · rfl

lemma sweptAt_sweep (setup : Setup) : (e.step setup .sweep).SweptAt e.now :=
  ⟨Nat.le_refl _, Store.sweptAt_sweep⟩

/-- Time does not go back. -/
lemma now_le_step : e.now ≤ (e.step setup ev).now := by
  cases ev with
  | elapse ms => exact Nat.le_add_right _ _
  | _ => exact Nat.le_refl _

lemma SweptAt.step (h : e.SweptAt since) (setup : Setup) (ev : Event) :
    (e.step setup ev).SweptAt since :=
  ⟨Nat.le_trans h.past now_le_step, h.store.touched h.past step_touched⟩

lemma SweptAt.run (h : e.SweptAt since) : (Edge.run setup e events).SweptAt since :=
  run_keeps (P := SweptAt since) (fun _ ev h => h.step setup ev) h

end Edge

end EdgeCache
