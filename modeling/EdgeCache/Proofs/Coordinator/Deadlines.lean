import EdgeCache.Proofs.Coordinator.Serving

/-!
# Deadlines

A silent origin cannot hold a key. Where time passes only after everybody has run who can, a flight
asks the origin in the moment of its registration. So once everything has run that is due, no flight
is as old as the coordinator is patient, and nobody has waited for longer. A flight that times out
ends as if the origin had answered with the failure that stands for it.
-/

namespace EdgeCache.Edge

open Coordinator

/-- No caller and no flight can run before time passes or a flight lands. -/
structure Rests (setup : Setup) (e : Edge) : Prop where
  poll : ∀ id, e.step setup (.poll id) = e
  depart : ∀ f, e.step setup (.depart f) = e

/-- Time passes only where nobody can run. -/
def Prompt (setup : Setup) (e : Edge) (events : List Event) : Prop :=
  ∀ before ms after, events = before ++ .elapse ms :: after → (run setup e before).Rests setup

variable {setup : Setup} {e : Edge} {ev : Event} {events later : List Event}

/-! ## Prompt runs -/

/-- A run is prompt if its first event is and what follows is. -/
lemma prompt_cons_iff :
    Prompt setup e (ev :: events) ↔
      (∀ ms, ev = .elapse ms → e.Rests setup) ∧ Prompt setup (e.step setup ev) events := by
  constructor
  · intro prompt
    refine ⟨?_, ?_⟩
    · rintro ms rfl
      exact prompt [] ms events rfl
    · rintro before ms after rfl
      exact prompt (ev :: before) ms after rfl
  · rintro ⟨first, rest⟩ before ms after eq
    cases before with
    | nil => exact first ms (List.cons.inj eq).1
    | cons _ before =>
      obtain ⟨rfl, rfl⟩ := List.cons.inj eq
      exact rest before ms after rfl

/-- A run is prompt if both of its parts are. -/
lemma prompt_append_iff :
    Prompt setup e (events ++ later) ↔
      Prompt setup e events ∧ Prompt setup (run setup e events) later := by
  induction events generalizing e with
  | nil =>
    refine ⟨fun prompt => ⟨?_, prompt⟩, fun prompt => prompt.2⟩
    intro before ms after eq
    simp at eq
  | cons ev events ih => rw [List.cons_append, prompt_cons_iff, prompt_cons_iff, ih, and_assoc]; rfl

/-- Where no time passes, none passes too early. -/
lemma prompt_of_timeless (timeless : ∀ ms, .elapse ms ∉ events) : Prompt setup e events := by
  rintro before ms after rfl
  exact absurd (List.mem_append_right _ List.mem_cons_self) (timeless ms)

/-- What every event keeps holds along every prompt run, if passing of time keeps it where nobody can
run. -/
lemma Prompt.keeps {P : Edge → Prop} (prompt : Prompt setup e events)
    (keeps : ∀ e ev, P e → (∀ ms, ev = .elapse ms → e.Rests setup) → P (e.step setup ev))
    (h : P e) : P (run setup e events) := by
  induction events generalizing e with
  | nil => exact h
  | cons ev events ih =>
    obtain ⟨first, rest⟩ := prompt_cons_iff.1 prompt
    exact ih rest (keeps e ev h first)

/-- Whatever is not time leaves the clock. -/
lemma step_now (timeless : ∀ ms, ev ≠ .elapse ms) : (e.step setup ev).now = e.now := by
  cases ev with
  | elapse ms => exact absurd rfl (timeless ms)
  | _ => rfl

/-! ## The age of flights -/

end EdgeCache.Edge

namespace EdgeCache

/-- A flight departs in the moment of its registration. -/
structure Flight.OnTime (now : Nat) (y : Flight) : Prop where
  registered : y.since ≤ now
  departed : ∀ t, y.departed = some t → t = y.since
  fresh : y.departed = none → y.since = now

namespace Coordinator

variable {setup : Setup} {now : Nat} {c c' : Coordinator} {ev : Event}

/-- At one moment every event keeps flights on time. -/
lemma Traffic.on_time (tr : Traffic setup now c ev c') (inv : Orderly c)
    (h : ∀ y ∈ c.flights, y.OnTime now) : ∀ y ∈ c'.flights, y.OnTime now := by
  intro y my
  cases tr with
  | same s => exact h y (s.flights ▸ my)
  | dispatched _ _ _ _ _ _ s =>
    rcases List.mem_append.1 (s.flights ▸ my) with my | my
    · exact h y my
    · rw [List.mem_singleton.1 my]
      exact ⟨Nat.le_refl _, nofun, fun _ => rfl⟩
  | @departed f x c' hx unasked s =>
    obtain ⟨z, mz, rfl⟩ := List.mem_map.1 (s.flights ▸ my)
    split
    case isFalse => exact h z mz
    case isTrue same =>
      -- The flight that asks has not asked yet, so it has been registered at this moment.
      obtain ⟨mx, rfl⟩ := inv.flight?_iff.1 hx
      obtain rfl := inv.unique mz mx (congrArg FlightId.key same)
      have since := (h z mz).fresh unasked
      exact ⟨Nat.le_of_eq since, fun t d => (Option.some.inj d).symm.trans since.symm, nofun⟩
  | landed _ _ s => exact h y (List.mem_of_mem_filter (s.flights ▸ my))

end Coordinator

namespace Edge

open Coordinator

variable {setup : Setup} {e : Edge} {ev : Event} {events later : List Event}

/-- Every flight is on time. -/
structure Timely (e : Edge) : Prop where
  orderly : Orderly e.coordinator
  on_time : ∀ y ∈ e.coordinator.flights, y.OnTime e.now

/-- Time that passes where nobody can run finds every flight departed. -/
lemma Timely.elapse {ms : Nat} (t : e.Timely) (rests : e.Rests setup) :
    (e.step setup (.elapse ms)).Timely := by
  refine ⟨t.orderly, fun y my => ?_⟩
  obtain ⟨registered, departed, _⟩ := t.on_time y my
  refine ⟨Nat.le_trans registered (Nat.le_add_right _ _), departed, fun fresh => ?_⟩
  have asked := departed_of_ran rests.depart t.orderly my
  rw [fresh] at asked
  cases asked

/-- Every event of a prompt run keeps flights in time. -/
lemma Timely.step (t : e.Timely) (rests : ∀ ms, ev = .elapse ms → e.Rests setup) :
    (e.step setup ev).Timely := by
  by_cases passes : ∃ ms, ev = .elapse ms
  · obtain ⟨ms, rfl⟩ := passes
    exact t.elapse (rests ms rfl)
  · have now : (e.step setup ev).now = e.now := step_now fun ms eq => passes ⟨ms, eq⟩
    have tr := (step_shift setup e ev).traffic
    refine ⟨tr.orderly t.orderly, ?_⟩
    rw [now]
    exact tr.on_time t.orderly t.on_time

/-- Along a prompt run every flight departs in the moment of its registration. -/
lemma Prompt.timely {limits} (prompt : Prompt setup (start limits) events) :
    (run setup (start limits) events).Timely :=
  prompt.keeps (fun _ _ t rests => t.step rests) ⟨start_orderly, nofun⟩

/-- Where everything has run that is due, nobody can run. -/
lemma Settled.rests (s : e.Settled setup) : e.Rests setup := ⟨s.poll, s.depart⟩

/-- Where everything has run that is due, no flight has been out for as long as patience lasts. -/
lemma Settled.in_time {y t} (s : e.Settled setup) (inv : Orderly e.coordinator)
    (my : y ∈ e.coordinator.flights) (d : y.departed = some t) :
    e.now < t + setup.patience := by
  by_contra late
  have can : canLand setup e.now .timedOut y = true :=
    (canLand_timedOut_iff d).2 (Nat.le_of_not_lt late)
  obtain ⟨o, left, _⟩ := step_land_outcome inv my can
  rw [s.timeOut, inv.outcome?_eq_none my] at left
  cases left

/-- Where everything has run, no flight was registered as long ago as the coordinator is patient. -/
lemma Timely.young {y} (t : e.Timely) (s : e.Settled setup) (my : y ∈ e.coordinator.flights) :
    e.now < y.since + setup.patience := by
  obtain ⟨d, departed⟩ := Option.isSome_iff_exists.1 (s.departed t.orderly my)
  rw [← (t.on_time y my).departed d departed]
  exact s.in_time t.orderly my departed

/-! ## The patience of callers -/

/-- How far a caller is that came at a time or before. -/
inductive CameBy (t : Nat) (e : Edge) : Stage → Prop where
  | closed {st : Stage} :
    st.isOpen = false →
    CameBy t e st
  | idle :
    e.now ≤ t →
    CameBy t e .idle
  | answered {f : FlightId} :
    (e.coordinator.outcome? f).isSome = true →
    CameBy t e (.waiting f)
  | waiting {y : Flight} :
    y ∈ e.coordinator.flights →
    y.since ≤ t →
    CameBy t e (.waiting y.id)

/-- A caller that is there has come by now. -/
lemma Timely.cameBy {id x} (t : e.Timely) (att : Attended e.coordinator)
    (h : e.coordinator.caller? id = some x) : CameBy e.now e x.stage := by
  cases st : x.stage with
  | idle => exact .idle (Nat.le_refl _)
  | waiting f =>
    obtain ⟨_, ⟨y, my, rfl⟩ | left⟩ := att id x f h st
    · exact .waiting my (t.on_time y my).registered
    · exact .answered left
  | finished r => exact .closed rfl
  | cancelled => exact .closed rfl

/-- Time that passes leaves those who came where they are, for none of them is idle. -/
lemma CameBy.elapse {t ms id x} (came : CameBy t e x.stage) (rests : e.Rests setup)
    (h : e.coordinator.caller? id = some x) :
    CameBy t (e.step setup (.elapse ms)) x.stage := by
  generalize eq : x.stage = st at came ⊢
  cases came with
  | closed closed => exact .closed closed
  | idle =>
    obtain ⟨f, waits, _⟩ := waiting_of_ran rests.poll h (by rw [eq]; rfl)
    rw [eq] at waits
    cases waits
  | answered left => exact .answered left
  | waiting my since => exact .waiting my since

/-- A caller gets on with its flight or waits for one that has been registered before it came. -/
lemma CameBy.step {t id x} (came : CameBy t e x.stage) (timely : e.Timely)
    (rests : ∀ ms, ev = .elapse ms → e.Rests setup) (h : e.coordinator.caller? id = some x) :
    ∃ x', (e.step setup ev).coordinator.caller? id = some x' ∧
      CameBy t (e.step setup ev) x'.stage := by
  by_cases passes : ∃ ms, ev = .elapse ms
  · obtain ⟨ms, rfl⟩ := passes
    exact ⟨x, h, came.elapse (rests ms rfl) h⟩
  have now : (e.step setup ev).now = e.now := step_now fun ms eq => passes ⟨ms, eq⟩
  have timely' : (e.step setup ev).Timely := timely.step rests
  have sh := step_shift setup e ev
  obtain ⟨st, h', mv⟩ := sh.caller h
  refine ⟨_, h', ?_⟩
  cases mv with
  | rests =>
    generalize x.stage = st at came ⊢
    cases came with
    | closed closed => exact .closed closed
    | idle le => exact .idle (now ▸ le)
    | answered left =>
      obtain ⟨o, left⟩ := Option.isSome_iff_exists.1 left
      exact .answered (by rw [sh.traffic.outcome_stays left]; rfl)
    | waiting my since =>
      rcases sh.traffic.flight_stays timely.orderly my with ⟨y', my', same, since'⟩ | left
      · exact same ▸ .waiting my' (since' ▸ since)
      · exact .answered left
  | answered => exact .closed rfl
  | attached _ idle res s =>
    obtain ⟨_, ⟨y, my, rfl⟩, _⟩ := (resolve_inv res).joined_flight timely.orderly
    have my' : y ∈ (e.step setup ev).coordinator.flights := s.flights ▸ my
    have le : e.now ≤ t := by
      rw [idle] at came
      cases came with
      | closed closed => cases closed
      | idle le => exact le
    exact .waiting my' (Nat.le_trans (timely'.on_time y my').registered (now ▸ le))
  | received => exact .closed rfl
  | abandoned => exact .closed rfl

/-- A caller that is there comes to its end before the coordinator runs out of patience. -/
lemma Prompt.closed {limits id x y} {before after : List Event}
    (prompt : Prompt setup (start limits) (before ++ after))
    (settled : (run setup (start limits) (before ++ after)).Settled setup)
    (h : (run setup (start limits) before).coordinator.caller? id = some x)
    (h' : (run setup (start limits) (before ++ after)).coordinator.caller? id = some y)
    (waited : (run setup (start limits) before).now + setup.patience ≤
      (run setup (start limits) (before ++ after)).now) : y.stage.isOpen = false := by
  obtain ⟨promptly, later⟩ := prompt_append_iff.1 prompt
  have timely := promptly.timely
  have came := timely.cameBy run_attended h
  rw [run_append] at settled h' waited
  obtain ⟨timely', y', h'', came⟩ :=
    later.keeps (P := fun e => e.Timely ∧ ∃ y, e.coordinator.caller? id = some y ∧
        CameBy (run setup (start limits) before).now e y.stage)
      (fun e ev t rests => by
        obtain ⟨timely, y, hy, came⟩ := t
        exact ⟨timely.step rests, came.step timely rests hy⟩)
      ⟨timely, x, h, came⟩
  rw [h'] at h''
  cases h''
  by_contra opn
  obtain ⟨f, waits, none_yet⟩ := settled.waiting h' (Bool.not_eq_false _ ▸ opn)
  rw [waits] at came
  cases came with
  | closed closed => cases closed
  | answered left =>
    rw [none_yet] at left
    cases left
  | waiting my since =>
    have young := timely'.young settled my
    omega

/-! ## Time-outs -/

/-- A flight that has ended does not end again, whatever would have become of it. -/
lemma step_land_ended {f o how} (inv : Orderly e.coordinator)
    (left : e.coordinator.outcome? f = some o) : e.step setup (.land f how) = e := by
  cases h : e.coordinator.flight? f with
  | none => simp only [step, act, land, h]
  | some x =>
    obtain ⟨mx, rfl⟩ := inv.flight?_iff.1 h
    rw [inv.outcome?_eq_none mx] at left
    cases left

/-- What it comes to that a flight times out. -/
structure TimesOut (setup : Setup) (e : Edge) (f : FlightId) : Prop where
  answered : e.step setup (.land f .timedOut) = e.step setup (.land f (.arrived (.failure 504)))
  put : (e.step setup (.land f .timedOut)).coordinator.shelf =
    (e.coordinator.shelf.put e.now f.key (.failure 504)).2
  counted : (e.step setup (.land f .timedOut)).coordinator.tally =
    { e.coordinator.tally with negativeStored := e.coordinator.tally.negativeStored + 1 }
  /-- Its callers get the failure, or the fault of the store if that refuses it. -/
  delivered : ∀ id x, e.coordinator.caller? id = some x → x.stage = .waiting f → ∀ later, ∃ st,
    (run setup (e.step setup (.land f .timedOut)) later).coordinator.caller? id =
      some { x with stage := st } ∧
    (st = .waiting f ∧ .poll id ∉ later ∨
      st = .finished ((e.coordinator.shelf.put e.now f.key (.failure 504)).1.map
        fun _ => .failure 504) ∨
      st = .cancelled ∧ .cancel id ∈ later)
  /-- Later callers are served it from the store. -/
  served : e.coordinator.shelf.writings.head?.getD .faithful = .faithful →
    ∀ later id w, (run setup (e.step setup (.land f .timedOut)) later).coordinator.caller? id =
        some w → w.stage = .idle → w.key = f.key → setup.accepts f.key = .ok () →
      (run setup (e.step setup (.land f .timedOut)) later).Serves setup id w (.failure 504) ∨
        ∃ before ev after, later ++ [.poll id] = before ++ ev :: after ∧
          (run setup (e.step setup (.land f .timedOut)) before).Parts setup f.key ev
  late : ∀ later how, (run setup (e.step setup (.land f .timedOut)) later).step setup
    (.land f how) = run setup (e.step setup (.land f .timedOut)) later

/-- A flight that times out ends as if the origin had answered with a failure of status 504. -/
lemma Lands.timesOut {f} (lands : e.Lands setup f .timedOut) (inv : Orderly e.coordinator)
    (att : Attended e.coordinator) : e.TimesOut setup f := by
  obtain ⟨y, h, can⟩ := lands
  have landed : (e.step setup (.land f .timedOut)).coordinator =
      e.coordinator.landing e.now f .timedOut := land_eq h can
  constructor
  case answered =>
    have departed : canLand setup e.now (.arrived (.failure 504)) y = true :=
      canLand_arrived (departed_of_canLand can)
    simp only [step, act, land_eq h can, land_eq h departed]
    rfl
  case put => rw [landed, landing_shelf]; rfl
  case counted => rw [landed]; rfl
  case delivered =>
    intro id x hx waits later
    obtain ⟨ek, _⟩ := att id x f hx waits
    rw [ek]
    exact Lands.delivers ⟨y, h, can⟩ inv hx waits ek later
  case served =>
    intro faithful later id w hw idle ek ok
    have held := Lands.holds ⟨y, h, can⟩ inv rfl faithful
    rw [← ek] at held ok ⊢
    have inv' : Orderly (e.step setup (.land f .timedOut)).coordinator :=
      (step_shift setup e _).traffic.orderly inv
    exact held.serves_later inv' hw idle ok
  case late =>
    intro later how
    obtain ⟨my, rfl⟩ := inv.flight?_iff.1 h
    obtain ⟨o, left, _⟩ := step_land_outcome inv my can
    have inv' : Orderly (e.step setup (.land y.id .timedOut)).coordinator :=
      (step_shift setup e _).traffic.orderly inv
    exact step_land_ended inv'.run (run_outcome left)

end Edge

end EdgeCache
