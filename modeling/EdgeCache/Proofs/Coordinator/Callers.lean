import EdgeCache.Proofs.Coordinator.SingleFlight

/-!
# Callers

How a caller gets on. `Moves` lists what one event can do to the caller of a number; a caller is
added idle, and keeps its number and its key. It begins to wait in its first run only.
-/

namespace EdgeCache.Coordinator

variable {setup : Setup} {now : Nat} {c c' : Coordinator} {ev : Event}

lemma isOpen_iff {st : Stage} : st.isOpen = true ↔ st = .idle ∨ ∃ f, st = .waiting f := by
  cases st <;> simp [Stage.isOpen]

/-- The caller of a number bears it. -/
lemma caller?_id {id x} (h : c.caller? id = some x) : x.id = id := by
  simpa using List.find?_some h

/-- Only the caller that moves on has another stage. -/
lemma caller?_setStage {id id' st} :
    (c.setStage id st).caller? id' =
      (c.caller? id').map fun x => if x.id = id then { x with stage := st } else x := by
  have ids : ((fun y : Caller => y.id == id') ∘
      fun x => if x.id = id then { x with stage := st } else x) = fun y => y.id == id' := by
    funext x
    simp only [Function.comp_apply]
    split <;> rfl
  simp only [caller?, setStage, List.find?_map, ids]

/-- The caller that moves on has the stage it moves to. -/
lemma caller?_setStage_self {id x st} (h : c.caller? id = some x) :
    (c.setStage id st).caller? id = some { x with stage := st } := by
  simp only [caller?_setStage, h, Option.map_some, if_pos (caller?_id h)]

/-- A caller that moves on leaves the others where they are. -/
lemma caller?_setStage_of_ne {id id' st} (ne : id' ≠ id) :
    (c.setStage id st).caller? id' = c.caller? id' := by
  rw [caller?_setStage]
  cases h : c.caller? id' with
  | none => rfl
  | some x =>
    have e : x.id ≠ id := caller?_id h ▸ ne
    simp only [Option.map_some, if_neg e]

/-- A caller that gets its result is finished with it. -/
lemma caller?_finish {id id' r} :
    (c.finish id r).caller? id' = (c.setStage id (.finished r)).caller? id' := by
  cases r <;> rfl

/-- The first run of a call moves no caller. -/
lemma Resolves.callers {k p} (res : Resolves setup now k c p c') : c'.callers = c.callers := by
  cases res <;> rfl

/-- The end of a flight moves no caller. -/
lemma landing_callers {f how} : (c.landing now f how).callers = c.callers := by
  cases how with
  | arrived e => cases e <;> rfl
  | refused fault => rfl
  | crashed => rfl
  | timedOut => rfl

/-- Who has the callers of another coordinator has its caller of any number. -/
lemma caller?_congr {id} (e : c'.callers = c.callers) : c'.caller? id = c.caller? id := by
  simp only [caller?, e]

/-- A new caller is idle. -/
lemma caller?_called {id id' k} (fresh : c.caller? id = none) :
    ({ c with callers := c.callers ++ [⟨id, k, .idle⟩] } : Coordinator).caller? id' =
      if id' = id then some ⟨id, k, .idle⟩ else c.caller? id' := by
  simp only [caller?] at fresh ⊢
  rw [List.find?_append]
  split
  case isTrue e =>
    subst e
    simp [fresh]
  case isFalse ne =>
    simp [Ne.symm ne]

/-! ## One event -/

/-- What one event can do to a caller. -/
inductive Moves (setup : Setup) (now : Nat) (c : Coordinator) (ev : Event) (c' : Coordinator)
    (x : Caller) : Stage → Prop where
  | rests :
    Moves setup now c ev c' x x.stage
  | answered {r c₁} :
    ev = .poll x.id →
    x.stage = .idle →
    c.resolve setup now x.key = (.done r, c₁) →
    Moves setup now c ev c' x (.finished r)
  | attached {f c₁} :
    ev = .poll x.id →
    x.stage = .idle →
    c.resolve setup now x.key = (.joined f, c₁) →
    SameFlights c₁ c' →
    Moves setup now c ev c' x (.waiting f)
  | received {f o} :
    ev = .poll x.id →
    x.stage = .waiting f →
    c.outcome? f = some o →
    Moves setup now c ev c' x (.finished (resultOf x.key o))
  | abandoned :
    ev = .cancel x.id →
    x.stage.isOpen = true →
    Moves setup now c ev c' x .cancelled

/-- Only running or cancelling a caller moves it. -/
lemma Moves.stage_eq {x st} (mv : Moves setup now c ev c' x st) (polled : ev ≠ .poll x.id)
    (cancelled : ev ≠ .cancel x.id) : st = x.stage := by
  cases mv with
  | rests => rfl
  | answered e => exact absurd e polled
  | attached e => exact absurd e polled
  | received e => exact absurd e polled
  | abandoned e => exact absurd e cancelled

/-- A caller that is found as it was rests. -/
lemma Moves.unmoved {x} (h : c'.caller? x.id = some x) :
    ∃ st, c'.caller? x.id = some { x with stage := st } ∧ Moves setup now c ev c' x st :=
  ⟨x.stage, h, .rests⟩

/-- A caller keeps its number and its key, and its stage moves as an event can move it. -/
theorem Shift.caller {id x} (sh : Shift setup now c ev c') (h : c.caller? id = some x) :
    ∃ st, c'.caller? id = some { x with stage := st } ∧ Moves setup now c ev c' x st := by
  obtain rfl := caller?_id h
  cases sh with
  | still => exact Moves.unmoved h
  | shelved => exact Moves.unmoved h
  | @called id k fresh =>
    refine Moves.unmoved ?_
    rw [caller?_called fresh, if_neg, h]
    intro e
    rw [e, fresh] at h
    cases h
  | @answered id y r c₁ hy idle res =>
    have same (i : Nat) : c₁.caller? i = c.caller? i := caller?_congr (resolve_inv res).callers
    by_cases e : x.id = id
    · subst e
      obtain rfl := Option.some.inj (h.symm.trans hy)
      refine ⟨.finished r, ?_, .answered rfl idle res⟩
      rw [caller?_finish, caller?_setStage_self (same x.id ▸ h)]
    · refine Moves.unmoved ?_
      rw [caller?_finish, caller?_setStage_of_ne e, same, h]
  | @attached id y f c₁ hy idle res =>
    have same (i : Nat) : c₁.caller? i = c.caller? i := caller?_congr (resolve_inv res).callers
    by_cases e : x.id = id
    · subst e
      obtain rfl := Option.some.inj (h.symm.trans hy)
      refine ⟨.waiting f, ?_, .attached rfl idle res setStage_flights⟩
      rw [caller?_setStage_self (same x.id ▸ h)]
    · refine Moves.unmoved ?_
      rw [caller?_setStage_of_ne e, same, h]
  | @received id y f o hy waiting left =>
    by_cases e : x.id = id
    · subst e
      obtain rfl := Option.some.inj (h.symm.trans hy)
      refine ⟨.finished (resultOf x.key o), ?_, .received rfl waiting left⟩
      rw [caller?_finish, caller?_setStage_self h]
    · refine Moves.unmoved ?_
      rw [caller?_finish, caller?_setStage_of_ne e, h]
  | @abandoned id y hy opn =>
    by_cases e : x.id = id
    · subst e
      obtain rfl := Option.some.inj (h.symm.trans hy)
      exact ⟨.cancelled, caller?_setStage_self h, .abandoned rfl opn⟩
    · refine Moves.unmoved ?_
      rw [caller?_setStage_of_ne e, h]
  | departed => exact Moves.unmoved h
  | landed =>
    refine Moves.unmoved ?_
    rw [caller?_congr landing_callers, h]

/-- A caller that was not there before an event has come with it. -/
theorem Shift.caller_new {id x} (sh : Shift setup now c ev c') (n : c.caller? id = none)
    (h : c'.caller? id = some x) : ev = .call id x.key ∧ x.stage = .idle := by
  cases sh with
  | still =>
    rw [n] at h
    cases h
  | shelved => exact absurd (h.symm.trans n) (by simp)
  | @called id' k fresh =>
    rw [caller?_called fresh] at h
    split at h
    case isTrue e =>
      obtain rfl := Option.some.inj h
      exact ⟨by rw [e], rfl⟩
    case isFalse =>
      rw [n] at h
      cases h
  | answered hy idle res =>
    rw [caller?_finish, caller?_setStage, caller?_congr (resolve_inv res).callers, n] at h
    cases h
  | attached hy idle res =>
    rw [caller?_setStage, caller?_congr (resolve_inv res).callers, n] at h
    cases h
  | received =>
    rw [caller?_finish, caller?_setStage, n] at h
    cases h
  | abandoned =>
    rw [caller?_setStage, n] at h
    cases h
  | departed => exact absurd (h.symm.trans n) (by simp)
  | landed =>
    rw [caller?_congr landing_callers, n] at h
    cases h

/-- A caller that waits after an event has waited before, or its first run has just attached it. -/
lemma Shift.waiting {id x' f} (sh : Shift setup now c ev c') (h' : c'.caller? id = some x')
    (w : x'.stage = .waiting f) :
    ∃ x, c.caller? id = some x ∧ x.key = x'.key ∧
      (x.stage = .waiting f ∨
        ∃ c₁, Resolves setup now x.key c (.joined f) c₁ ∧ SameFlights c₁ c') := by
  cases h : c.caller? id with
  | none =>
    obtain ⟨_, idle⟩ := sh.caller_new h h'
    rw [idle] at w
    cases w
  | some x =>
    obtain ⟨st, hx, mv⟩ := sh.caller h
    rw [h'] at hx
    obtain rfl := Option.some.inj hx
    change st = .waiting f at w
    refine ⟨x, rfl, rfl, ?_⟩
    cases mv with
    | rests => exact .inl w
    | answered => cases w
    | attached _ _ res s =>
      cases w
      exact .inr ⟨_, resolve_inv res, s⟩
    | received => cases w
    | abandoned => cases w

/-! ## Numbers -/

lemma setStage_ids {id st} :
    (c.setStage id st).callers.map Caller.id = c.callers.map Caller.id := by
  simp only [setStage, List.map_map]
  refine List.map_congr_left fun x _ => ?_
  simp only [Function.comp_apply]
  split <;> rfl

lemma finish_ids {id r} : (c.finish id r).callers.map Caller.id = c.callers.map Caller.id := by
  cases r <;> exact setStage_ids

/-- Only a call adds a caller, with a number that was free. -/
lemma Shift.ids (sh : Shift setup now c ev c') :
    c'.callers.map Caller.id = c.callers.map Caller.id ∨
      ∃ id k, ev = .call id k ∧ c.caller? id = none ∧
        c'.callers.map Caller.id = c.callers.map Caller.id ++ [id] := by
  cases sh with
  | still => exact .inl rfl
  | shelved => exact .inl rfl
  | called fresh =>
    refine .inr ⟨_, _, rfl, fresh, ?_⟩
    simp only [List.map_append, List.map_cons, List.map_nil]
  | answered _ _ res => exact .inl (by rw [finish_ids, (resolve_inv res).callers])
  | attached _ _ res => exact .inl (by rw [setStage_ids, (resolve_inv res).callers])
  | received => exact .inl finish_ids
  | abandoned => exact .inl setStage_ids
  | departed => exact .inl rfl
  | landed => exact .inl (by rw [landing_callers])

lemma caller?_none_iff {id} : c.caller? id = none ↔ id ∉ c.callers.map Caller.id := by
  simp only [caller?, List.find?_eq_none, beq_iff_eq, List.mem_map, not_exists, not_and]

/-- No two callers bear the same number, whatever happens. -/
lemma Shift.numbered (sh : Shift setup now c ev c') (h : (c.callers.map Caller.id).Nodup) :
    (c'.callers.map Caller.id).Nodup := by
  rcases sh.ids with eq | ⟨id, k, _, free, eq⟩
  · rw [eq]
    exact h
  · rw [eq]
    refine List.nodup_append.2 ⟨h, List.nodup_singleton _, ?_⟩
    intro i mi j mj same
    rw [same, List.mem_singleton.1 mj] at mi
    exact caller?_none_iff.1 free mi

/-- No two callers bear the same number at any moment of any run. -/
lemma run_numbered {limits events} :
    ((Edge.run setup (Edge.start limits) events).coordinator.callers.map Caller.id).Nodup :=
  Edge.run_keeps (P := fun e => (e.coordinator.callers.map Caller.id).Nodup)
    (fun e ev h => (step_shift setup e ev).numbered h) .nil

end EdgeCache.Coordinator
