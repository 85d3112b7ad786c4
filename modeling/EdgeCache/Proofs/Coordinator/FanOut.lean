import EdgeCache.Proofs.Coordinator.Callers

/-!
# Fan-out

Every caller that waits for a flight gets what the flight leaves, and nobody gets anything else. The
flight that a caller waits for is one of its own key, and it is under way or has left its outcome;
an outcome stays, so the caller has it as soon as it runs, unless it has been cancelled before; and
a caller cannot begin to wait for a flight that has ended.
-/

namespace EdgeCache

/-- What the callers of a flight get when it ends so over a shelf. -/
def Landing.result (now : Nat) (k : Key) (how : Landing) (s : Shelf) : Result :=
  match how with
  | .arrived e => (s.put now k e).1.map fun _ => e
  | .refused fault => .error fault
  | .crashed => .error (.fetchAborted s!"fetch for '{k.text}' ended without a result")
  | .timedOut => (s.put now k (.failure 504)).1.map fun _ => .failure 504

/-- Everything that can run without the origin has run. -/
structure Edge.Settled (setup : Setup) (e : Edge) : Prop where
  poll : ∀ id, e.step setup (.poll id) = e
  depart : ∀ f, e.step setup (.depart f) = e
  timeOut : ∀ f, e.step setup (.land f .timedOut) = e

namespace Coordinator

variable {setup : Setup} {now : Nat} {c c' : Coordinator} {ev : Event}

/-- What a flight leaves is what its callers get. -/
lemma resultOf_settle {k how} :
    resultOf k (c.settle now k how).1 = how.result now k c.shelf := by
  cases how with
  | arrived e => cases e <;> rfl
  | refused fault => rfl
  | crashed => rfl
  | timedOut => rfl

/-! ## Flights and what they leave -/

/-- An outcome is a matter of the flights. -/
lemma outcome?_congr {f} (s : SameFlights c c') : c'.outcome? f = c.outcome? f := by
  simp only [outcome?, s.landed]

/-- What a flight has left stays. -/
lemma Traffic.outcome_stays {f o} (tr : Traffic setup now c ev c') (left : c.outcome? f = some o) :
    c'.outcome? f = some o := by
  cases tr with
  | same s => rw [outcome?_congr s, left]
  | dispatched _ _ _ _ _ _ s =>
    rw [outcome?_congr s]
    exact left
  | departed _ _ s =>
    rw [outcome?_congr s]
    exact left
  | landed _ _ s =>
    rw [outcome?_congr s]
    simp only [outcome?, close] at left ⊢
    rw [List.lookup_append, left, Option.some_or]

/-- A flight that closes leaves its outcome. -/
lemma Orderly.outcome?_close {x o} (inv : Orderly c) (mx : x ∈ c.flights) :
    (c.close x.id o).outcome? x.id = some o := by
  have none_yet := inv.outcome?_eq_none mx
  simp only [outcome?, Coordinator.close] at none_yet ⊢
  rw [List.lookup_append, none_yet, Option.none_or, List.lookup_cons_self]

/-- A flight is under way until it has left its outcome. -/
lemma Traffic.flight_stays {y} (tr : Traffic setup now c ev c') (inv : Orderly c)
    (my : y ∈ c.flights) :
    (∃ y' ∈ c'.flights, y'.id = y.id ∧ y'.since = y.since) ∨
      (c'.outcome? y.id).isSome = true := by
  cases tr with
  | same s => exact .inl ⟨y, s.flights ▸ my, rfl, rfl⟩
  | dispatched _ _ _ _ _ _ s =>
    exact .inl ⟨y, s.flights ▸ List.mem_append_left _ my, rfl, rfl⟩
  | @departed f x c' _ _ s =>
    rw [s.flights]
    refine .inl ⟨_, List.mem_map_of_mem my, ?_⟩
    split <;> exact ⟨rfl, rfl⟩
  | @landed f how x o c' h _ s =>
    obtain ⟨mx, rfl⟩ := inv.flight?_iff.1 h
    by_cases e : y.id = x.id
    · refine .inr ?_
      rw [outcome?_congr s, e, inv.outcome?_close mx]
      rfl
    · refine .inl ⟨y, s.flights ▸ List.mem_filter.2 ⟨my, ?_⟩, rfl, rfl⟩
      simpa using e

/-- The flight that a first run attaches to is one of its key that has not ended. -/
lemma Resolves.joined_flight {k f} (res : Resolves setup now k c (.joined f) c') (inv : Orderly c) :
    f.key = k ∧ (∃ y ∈ c'.flights, y.id = f) ∧ c.outcome? f = none := by
  cases res with
  | joined _ _ reg =>
    obtain ⟨rfl, y, my, rfl⟩ := inv.lookup_iff.1 reg
    exact ⟨rfl, ⟨y, my, rfl⟩, inv.outcome?_eq_none my⟩
  | dispatched _ _ free _ =>
    refine ⟨rfl, ⟨_, List.mem_append_right _ List.mem_cons_self, rfl⟩, ?_⟩
    -- The name counts the flights of the key that have ended, so none of them bears it.
    refine List.lookup_eq_none_iff.2 fun l ml => ?_
    simp only [bne_iff_ne, ne_eq]
    intro e
    have lt := inv.older l ml
    rw [← e, inv.turns_eq free] at lt
    exact Nat.lt_irrefl _ lt

/-! ## Callers that wait -/

/-- A caller that waits does so for a flight of its key that is under way or has left its
outcome. -/
def Attended (c : Coordinator) : Prop :=
  ∀ id x f, c.caller? id = some x → x.stage = .waiting f →
    f.key = x.key ∧ ((∃ y ∈ c.flights, y.id = f) ∨ (c.outcome? f).isSome = true)

/-- Every event keeps those who wait attended. -/
lemma Shift.attended (sh : Shift setup now c ev c') (inv : Orderly c) (att : Attended c) :
    Attended c' := by
  intro id x' f h' w
  obtain ⟨x, h, ek, waited | ⟨c₁, res, s⟩⟩ := sh.waiting h' w
  · obtain ⟨ek', ⟨y, my, rfl⟩ | left⟩ := att id x f h waited
    · refine ⟨ek'.trans ek, (sh.traffic.flight_stays inv my).imp_left ?_⟩
      exact fun ⟨y', my', same, _⟩ => ⟨y', my', same⟩
    · obtain ⟨o, left⟩ := Option.isSome_iff_exists.1 left
      refine ⟨ek'.trans ek, .inr ?_⟩
      rw [sh.traffic.outcome_stays left]
      rfl
  · obtain ⟨ek', ⟨y, my, e⟩, _⟩ := res.joined_flight inv
    exact ⟨ek'.trans ek, .inl ⟨y, s.flights ▸ my, e⟩⟩

/-- Those who wait are attended at every moment of every run. -/
lemma run_attended {limits events} :
    Attended (Edge.run setup (Edge.start limits) events).coordinator := by
  refine Edge.run_keeps_along (P := fun e => Attended e.coordinator)
    (Q := fun e => Orderly e.coordinator) (fun _ => run_orderly) ?_ ?_
  · exact fun e ev inv att => (step_shift setup e ev).attended inv att
  · intro id x f h
    cases h

end Coordinator

namespace Edge

open Coordinator

variable {setup : Setup} {e : Edge} {later : List Event}

/-- What a flight has left is left for good. -/
lemma run_outcome {f o} (left : e.coordinator.outcome? f = some o) :
    (run setup e later).coordinator.outcome? f = some o :=
  run_keeps (P := fun e => e.coordinator.outcome? f = some o)
    (fun e ev left => (step_shift setup e ev).traffic.outcome_stays left) left

/-- A caller that has come to its end stays there. -/
lemma run_closed {id x} (h : e.coordinator.caller? id = some x) (closed : x.stage.isOpen = false) :
    (run setup e later).coordinator.caller? id = some x := by
  refine run_keeps (P := fun e => e.coordinator.caller? id = some x) (fun e ev h => ?_) h
  obtain ⟨st, h', mv⟩ := (step_shift setup e ev).caller h
  cases mv with
  | rests => exact h'
  | answered _ idle =>
    rw [idle] at closed
    cases closed
  | attached _ idle =>
    rw [idle] at closed
    cases closed
  | received _ waiting =>
    rw [waiting] at closed
    cases closed
  | abandoned _ opn =>
    rw [opn] at closed
    cases closed

/-- A caller runs and gets what its flight has left. -/
lemma step_poll_waiting {id x f o} (setup : Setup) (h : e.coordinator.caller? id = some x)
    (waiting : x.stage = .waiting f) (left : e.coordinator.outcome? f = some o) :
    (e.step setup (.poll id)).coordinator.caller? id =
      some { x with stage := .finished (resultOf x.key o) } := by
  simp only [step, act, poll_received h waiting left, caller?_finish]
  exact caller?_setStage_self h

/-- A caller that waits can be cancelled. -/
lemma step_cancel_waiting {id x f} (h : e.coordinator.caller? id = some x)
    (waiting : x.stage = .waiting f) :
    (e.step setup (.cancel id)).coordinator.caller? id = some { x with stage := .cancelled } := by
  simp only [step, act, cancel, h, waiting]
  exact caller?_setStage_self h

/-- A caller whose flight has ended waits until it runs, and then has its result, unless it is
cancelled before. -/
lemma run_delivers {id x f o} (setup : Setup) (later : List Event)
    (h : e.coordinator.caller? id = some x) (waiting : x.stage = .waiting f)
    (left : e.coordinator.outcome? f = some o) :
    ∃ st, (run setup e later).coordinator.caller? id = some { x with stage := st } ∧
      (st = .waiting f ∧ .poll id ∉ later ∨ st = .finished (resultOf x.key o) ∨
        st = .cancelled ∧ .cancel id ∈ later) := by
  induction later generalizing e with
  | nil =>
    refine ⟨.waiting f, ?_, .inl ⟨rfl, List.not_mem_nil⟩⟩
    rw [← waiting]
    exact h
  | cons ev later ih =>
    rw [run_cons]
    by_cases polled : ev = .poll id
    · subst polled
      refine ⟨_, run_closed (step_poll_waiting setup h waiting left) rfl, ?_⟩
      exact .inr (.inl rfl)
    · by_cases cancelled : ev = .cancel id
      · subst cancelled
        refine ⟨_, run_closed (step_cancel_waiting h waiting) rfl, ?_⟩
        exact .inr (.inr ⟨rfl, List.mem_cons_self⟩)
      · -- No other event moves the caller, and what its flight has left stays.
        have sh := step_shift setup e ev
        obtain ⟨st, h', mv⟩ := sh.caller h
        obtain rfl := mv.stage_eq (caller?_id h ▸ polled) (caller?_id h ▸ cancelled)
        obtain ⟨st, h', got⟩ := ih h' (sh.traffic.outcome_stays left)
        refine ⟨st, h', ?_⟩
        simpa only [List.mem_cons, Ne.symm polled, Ne.symm cancelled, false_or] using got

/-- A caller cannot begin to wait for a flight that has ended. -/
lemma run_never_waits {id f o} (inv : Orderly e.coordinator)
    (left : e.coordinator.outcome? f = some o)
    (free : ∀ x, e.coordinator.caller? id = some x → x.stage ≠ .waiting f) :
    ∀ x, (run setup e later).coordinator.caller? id = some x → x.stage ≠ .waiting f := by
  induction later generalizing e with
  | nil => exact free
  | cons ev later ih =>
    have sh := step_shift setup e ev
    refine ih (sh.traffic.orderly inv) (sh.traffic.outcome_stays left) ?_
    intro x' h' w
    obtain ⟨x, h, _, waited | ⟨c₁, res, _⟩⟩ := sh.waiting h' w
    · exact free x h waited
    · obtain ⟨_, _, none_yet⟩ := res.joined_flight inv
      rw [none_yet] at left
      cases left

/-- A caller gets its result from its own first run or from the flight it waits for. -/
lemma step_finish_inv {id x y ev r} (att : Attended e.coordinator)
    (h : e.coordinator.caller? id = some x) (opn : x.stage.isOpen = true)
    (h' : (e.step setup ev).coordinator.caller? id = some y) (fin : y.stage = .finished r) :
    (x.stage = .idle ∧ (e.coordinator.resolve setup e.now x.key).1 = .done r) ∨
      ∃ f o, x.stage = .waiting f ∧ f.key = x.key ∧ e.coordinator.outcome? f = some o ∧
        r = resultOf x.key o := by
  obtain ⟨st, hx, mv⟩ := (step_shift setup e ev).caller h
  rw [h'] at hx
  obtain rfl := Option.some.inj hx
  change st = .finished r at fin
  cases mv with
  | rests =>
    rw [fin] at opn
    cases opn
  | answered _ idle res =>
    cases fin
    exact .inl ⟨idle, by rw [res]⟩
  | attached => cases fin
  | received _ waiting left =>
    cases fin
    obtain ⟨ek, _⟩ := att id x _ h waiting
    exact .inr ⟨_, _, waiting, ek, left, rfl⟩
  | abandoned => cases fin

/-- A first run ends in an answer or in waiting. -/
lemma step_poll_idle {id x} (setup : Setup) (h : e.coordinator.caller? id = some x)
    (idle : x.stage = .idle) :
    ∃ st, (e.step setup (.poll id)).coordinator.caller? id = some { x with stage := st } ∧
      st ≠ .idle := by
  rcases res : e.coordinator.resolve setup e.now x.key with ⟨r | f, c⟩
  · have h' : c.caller? id = some x := (caller?_congr (resolve_inv res).callers).trans h
    refine ⟨.finished r, ?_, Stage.noConfusion⟩
    simp only [step, act, poll_answered h idle res, caller?_finish]
    exact caller?_setStage_self h'
  · have h' : c.caller? id = some x := (caller?_congr (resolve_inv res).callers).trans h
    refine ⟨.waiting f, ?_, Stage.noConfusion⟩
    simp only [step, act, poll_attached h idle res]
    exact caller?_setStage_self h'

/-- Where every caller has run, an open one waits for a flight that has left nothing yet. -/
lemma waiting_of_ran {id x} (ran : ∀ id, e.step setup (.poll id) = e)
    (h : e.coordinator.caller? id = some x) (opn : x.stage.isOpen = true) :
    ∃ f, x.stage = .waiting f ∧ e.coordinator.outcome? f = none := by
  rcases isOpen_iff.1 opn with idle | ⟨f, waiting⟩
  · obtain ⟨st', h', begun⟩ := step_poll_idle setup h idle
    rw [ran id, h] at h'
    have same : x.stage = st' := congrArg Caller.stage (Option.some.inj h')
    exact absurd (same.symm.trans idle) begun
  · refine ⟨f, waiting, ?_⟩
    cases left : e.coordinator.outcome? f with
    | none => rfl
    | some o =>
      have h' := step_poll_waiting setup h waiting left
      rw [ran id, h] at h'
      have e := congrArg Caller.stage (Option.some.inj h')
      rw [waiting] at e
      cases e

/-- Where every flight has run, it has asked the origin. -/
lemma departed_of_ran {x} (ran : ∀ f, e.step setup (.depart f) = e) (inv : Orderly e.coordinator)
    (mx : x ∈ e.coordinator.flights) : x.departed.isSome = true := by
  cases d : x.departed with
  | some t => rfl
  | none =>
    have h : e.coordinator.flight? x.id = some x := inv.flight?_iff.2 ⟨mx, rfl⟩
    have asked := congrArg (fun e => e.coordinator.asked.length) (ran x.id)
    simp only [step, act, depart_eq h d, departing, List.length_append] at asked
    simp at asked

lemma Settled.waiting {id x} (s : e.Settled setup) (h : e.coordinator.caller? id = some x)
    (opn : x.stage.isOpen = true) :
    ∃ f, x.stage = .waiting f ∧ e.coordinator.outcome? f = none :=
  waiting_of_ran s.poll h opn

lemma Settled.departed {x} (s : e.Settled setup) (inv : Orderly e.coordinator)
    (mx : x ∈ e.coordinator.flights) : x.departed.isSome = true :=
  departed_of_ran s.depart inv mx

/-- A caller that waits for a flight that has left nothing yet cannot run. -/
lemma ran_of_waiting
    (callers : ∀ id x, e.coordinator.caller? id = some x → x.stage.isOpen = true →
      ∃ f, x.stage = .waiting f ∧ e.coordinator.outcome? f = none) (id : Nat) :
    e.step setup (.poll id) = e := by
  cases h : e.coordinator.caller? id with
  | none => simp only [step, act, poll, h]
  | some x =>
    cases st : x.stage with
    | idle =>
      obtain ⟨f, w, _⟩ := callers id x h (by rw [st]; rfl)
      rw [st] at w
      cases w
    | waiting f =>
      obtain ⟨f', w, none_yet⟩ := callers id x h (by rw [st]; rfl)
      rw [st] at w
      cases w
      simp only [step, act, poll, h, st, none_yet]
    | finished r => simp only [step, act, poll, h, st]
    | cancelled => simp only [step, act, poll, h, st]

/-- A flight that has asked the origin does not ask again. -/
lemma ran_of_departed
    (flights : ∀ f x, e.coordinator.flight? f = some x → x.departed.isSome = true)
    (f : FlightId) : e.step setup (.depart f) = e := by
  cases h : e.coordinator.flight? f with
  | none => simp only [step, act, depart, h]
  | some x =>
    obtain ⟨t, d⟩ := Option.isSome_iff_exists.1 (flights f x h)
    cases x
    cases d
    simp only [step, act, depart, h]

/-- A flight that has time left does not time out. -/
lemma ran_of_in_time
    (flights : ∀ f x, e.coordinator.flight? f = some x →
      ∃ t, x.departed = some t ∧ e.now < t + setup.patience) (f : FlightId) :
    e.step setup (.land f .timedOut) = e := by
  cases h : e.coordinator.flight? f with
  | none => simp only [step, act, land, h]
  | some x =>
    obtain ⟨t, d, left⟩ := flights f x h
    have can : canLand setup e.now .timedOut x = false := by
      simp only [canLand, d, decide_eq_false_iff_not, Nat.not_le, left]
    simp only [step, act, land, h, can, Bool.false_eq_true, if_false]

/-- Where every open caller waits for a flight that has left nothing yet, and every flight has asked
the origin and has time left, everything has run. -/
lemma settled_of
    (callers : ∀ id x, e.coordinator.caller? id = some x → x.stage.isOpen = true →
      ∃ f, x.stage = .waiting f ∧ e.coordinator.outcome? f = none)
    (flights : ∀ f x, e.coordinator.flight? f = some x →
      ∃ t, x.departed = some t ∧ e.now < t + setup.patience) : e.Settled setup := by
  refine ⟨ran_of_waiting callers, ran_of_departed fun f x h => ?_, ran_of_in_time flights⟩
  obtain ⟨t, d, _⟩ := flights f x h
  rw [d]
  rfl

/-- The end of a flight leaves its callers their result. -/
lemma step_land_outcome {y how} (inv : Orderly e.coordinator) (my : y ∈ e.coordinator.flights)
    (can : canLand setup e.now how y = true) :
    ∃ o, (e.step setup (.land y.id how)).coordinator.outcome? y.id = some o ∧
      resultOf y.id.key o = how.result e.now y.id.key e.coordinator.shelf := by
  refine ⟨_, ?_, resultOf_settle⟩
  simp only [step, act, land_eq (inv.flight?_iff.2 ⟨my, rfl⟩) can]
  rw [outcome?_congr landing_flights]
  exact inv.outcome?_close my

/-- At every moment of every run:
(1) where everything has run, an open caller waits for a flight of its key that has asked the
origin and is the record of the key;
(2) anywhere else, a caller that waits does so for such a flight or for one that has left its
outcome;
(3) a flight that ends puts what it brings into the store in the same step, and whatever happens
later, each of those who waited for it either waits still, and then it has not run since, or has the
result of the ending, one for all of them, or has been cancelled;
(4) a caller gets its result from its own first run or from what a flight of its key has left, and
not from a flight that had ended when it had not run yet. -/
theorem fan_out (setup : Setup) (limits : Limits) (events : List Event) :
    let e := run setup (start limits) events
    let c := e.coordinator
    (e.Settled setup → ∀ id x, c.caller? id = some x → x.stage.isOpen = true →
      ∃ y ∈ c.flights, y.id.key = x.key ∧ y.departed.isSome = true ∧
        x.stage = .waiting y.id ∧ c.registry.lookup x.key = some y.id) ∧
    (∀ id x f, c.caller? id = some x → x.stage = .waiting f →
      f.key = x.key ∧ ((∃ y ∈ c.flights, y.id = f) ∨ (c.outcome? f).isSome = true)) ∧
    (∀ y ∈ c.flights, ∀ how, canLand setup e.now how y = true →
      let e' := e.step setup (.land y.id how)
      e'.coordinator.shelf = how.shelve e.now y.id.key c.shelf ∧
      ∀ id x, c.caller? id = some x → x.stage = .waiting y.id → ∀ later, ∃ st,
        (run setup e' later).coordinator.caller? id = some { x with stage := st } ∧
        (st = .waiting y.id ∧ .poll id ∉ later ∧ ¬ (run setup e' later).Settled setup ∨
          st = .finished (how.result e.now y.id.key c.shelf) ∨
          st = .cancelled ∧ .cancel id ∈ later)) ∧
    (∀ id x, c.caller? id = some x → x.stage.isOpen = true → ∀ ev y r,
      (e.step setup ev).coordinator.caller? id = some y → y.stage = .finished r →
      (x.stage = .idle ∧ (c.resolve setup e.now x.key).1 = .done r) ∨
        ∃ f o, x.stage = .waiting f ∧ f.key = x.key ∧ c.outcome? f = some o ∧
          r = resultOf x.key o) ∧
    (∀ f o, c.outcome? f = some o → ∀ id, (∀ x, c.caller? id = some x → x.stage = .idle) →
      ∀ later x, (run setup e later).coordinator.caller? id = some x → x.stage ≠ .waiting f) := by
  intro e c
  have inv : Orderly c := run_orderly
  have att : Attended c := run_attended
  refine ⟨?_, att, ?_, ?_, ?_⟩
  · intro settled id x h opn
    obtain ⟨f, waiting, none_yet⟩ := settled.waiting h opn
    obtain ⟨ek, ⟨y, my, rfl⟩ | left⟩ := att id x f h waiting
    · exact ⟨y, my, ek, settled.departed inv my, waiting, inv.lookup_iff.2 ⟨ek, y, my, rfl⟩⟩
    · rw [none_yet] at left
      cases left
  · intro y my how can e'
    have ends : e'.coordinator = c.landing e.now y.id how :=
      land_eq (inv.flight?_iff.2 ⟨my, rfl⟩) can
    refine ⟨by rw [ends, landing_shelf], ?_⟩
    intro id x h waiting later
    obtain ⟨o, left, result⟩ := step_land_outcome inv my can
    have h' : e'.coordinator.caller? id = some x := by
      rw [ends, caller?_congr landing_callers, h]
    obtain ⟨ek, _⟩ := att id x _ h waiting
    rw [← result, ek]
    obtain ⟨st, hx, ⟨rfl, polled⟩ | fin | cancelled⟩ :=
      run_delivers setup later h' waiting left
    · refine ⟨_, hx, .inl ⟨rfl, polled, fun settled => ?_⟩⟩
      obtain ⟨f, w, none_yet⟩ := settled.waiting hx rfl
      cases w
      rw [run_outcome left] at none_yet
      cases none_yet
    · exact ⟨st, hx, .inr (.inl fin)⟩
    · exact ⟨st, hx, .inr (.inr cancelled)⟩
  · intro id x h opn ev y r h' fin
    exact step_finish_inv att h opn h' fin
  · intro f o left id idle later
    refine run_never_waits inv left fun x h w => ?_
    have i := idle x h
    rw [w] at i
    cases i

/-- The first caller of a key waits while the origin takes its time. -/
theorem fan_out_first_caller :
    let setup : Setup := ⟨fun _ => .ok (), 1⟩
    let a := Key.letter 'a' (by decide)
    let c := (run setup (start ⟨0, none, 1⟩) [.call 1 a, .poll 1, .depart ⟨a, 0⟩]).coordinator
    ∃ y ∈ c.flights, y.departed.isSome = true ∧ c.registry.lookup a = some y.id := by
  intro setup a c
  have settled : (run setup (start ⟨0, none, 1⟩)
      [.call 1 a, .poll 1, .depart ⟨a, 0⟩]).Settled setup := by
    refine settled_of (fun id x h _ => ?_) (fun f x h => ?_)
    · have m : x ∈ [⟨1, a, .waiting ⟨a, 0⟩⟩] := List.mem_of_find?_eq_some h
      rw [List.mem_singleton.1 m]
      exact ⟨_, rfl, rfl⟩
    · have m : x ∈ [⟨⟨a, 0⟩, 0, some 0⟩] := List.mem_of_find?_eq_some h
      rw [List.mem_singleton.1 m]
      exact ⟨0, rfl, by decide⟩
  obtain ⟨y, my, _, departed, _, record⟩ :=
    (fan_out setup ⟨0, none, 1⟩ [.call 1 a, .poll 1, .depart ⟨a, 0⟩]).1
      settled 1 ⟨1, a, .waiting ⟨a, 0⟩⟩ rfl rfl
  exact ⟨y, my, departed, record⟩

end Edge

end EdgeCache
