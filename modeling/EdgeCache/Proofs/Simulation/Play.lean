import EdgeCache.Proofs.Coordinator.Deadlines
import EdgeCache.Proofs.Simulation.Session

/-!
# Sessions are runs

What a session does to the cache is a run of it, and a prompt one: every caller that a command brings
has run before the command is over, and so has every flight. So time passes only where nobody can
run, and whoever is there between two commands has begun.
-/

namespace EdgeCache

/-- Events that bring no caller and take no time. -/
def Event.isInner : Event → Bool
  | .call _ _ => false
  | .elapse _ => false
  | _ => true

namespace Edge

open Coordinator

variable {setup : Setup} {e : Edge} {ev : Event} {events : List Event}

/-- Every caller has run. -/
def Begun (e : Edge) : Prop := ∀ id x, e.coordinator.caller? id = some x → x.stage ≠ .idle

/-- A caller that has not run after an event has not run before it, or has come with it. -/
lemma step_idle {id x} (h : (e.step setup ev).coordinator.caller? id = some x)
    (idle : x.stage = .idle) :
    ev ≠ .poll id ∧ (e.coordinator.caller? id = some x ∨ ev = .call id x.key) := by
  have sh := step_shift setup e ev
  cases before : e.coordinator.caller? id with
  | none =>
    obtain ⟨rfl, _⟩ := sh.caller_new before h
    exact ⟨Event.noConfusion, .inr rfl⟩
  | some y =>
    obtain ⟨st, h', mv⟩ := sh.caller before
    rw [h] at h'
    obtain rfl := Option.some.inj h'
    change st = .idle at idle
    cases mv with
    | rests =>
      refine ⟨?_, .inl rfl⟩
      rintro rfl
      obtain ⟨st, h', begun⟩ := step_poll_idle setup before idle
      rw [h] at h'
      have same : y.stage = st := congrArg Caller.stage (Option.some.inj h')
      exact begun (same.symm.trans idle)
    | answered => cases idle
    | attached => cases idle
    | received => cases idle
    | abandoned => cases idle

/-- Everybody has run still, unless somebody new has come. -/
lemma Begun.step (h : e.Begun) (uncalled : ∀ id k, ev ≠ .call id k) : (e.step setup ev).Begun := by
  intro id x hx idle
  rcases (step_idle hx idle).2 with before | called
  · exact h id x before idle
  · exact uncalled _ _ called

/-- Events that bring no caller leave nobody who has not run. -/
lemma Begun.run (h : e.Begun) (inner : ∀ ev ∈ events, ev.isInner = true) :
    (run setup e events).Begun := by
  induction events generalizing e with
  | nil => exact h
  | cons ev events ih =>
    have uncalled : ∀ id k, ev ≠ .call id k := by
      rintro id k rfl
      cases inner _ List.mem_cons_self
    exact ih (h.step uncalled) fun ev' m => inner ev' (List.mem_cons_of_mem _ m)

/-- When all who have not run have been polled, everybody has run. -/
lemma begun_of_polled {ids : List Nat}
    (listed : ∀ id x, e.coordinator.caller? id = some x → x.stage = .idle → id ∈ ids) :
    (Edge.run setup e (ids.map .poll)).Begun := by
  induction ids generalizing e with
  | nil =>
    intro id x h idle
    exact List.not_mem_nil (listed id x h idle)
  | cons i ids ih =>
    refine ih fun id x h idle => ?_
    obtain ⟨unpolled, before | called⟩ := step_idle h idle
    · rcases List.mem_cons.1 (listed id x before idle) with rfl | m
      · exact absurd rfl unpolled
      · exact m
    · cases called

/-- Events that take no time leave the clock. -/
lemma run_now (inner : ∀ ev ∈ events, ev.isInner = true) : (run setup e events).now = e.now := by
  induction events generalizing e with
  | nil => rfl
  | cons ev events ih =>
    have timeless : ∀ ms, ev ≠ .elapse ms := by
      rintro ms rfl
      cases inner _ List.mem_cons_self
    rw [run_cons, ih fun ev' m => inner ev' (List.mem_cons_of_mem _ m), step_now timeless]

/-- Where no time passes, none passes while somebody can run. -/
lemma prompt_of_inner (inner : ∀ ev ∈ events, ev.isInner = true) : Prompt setup e events :=
  prompt_of_timeless fun ms m => by cases inner _ m

end Edge

namespace Simulation

open Coordinator

variable {s s' s'' : Simulation} {f : FlightId}

/-- What happens to the cache at one moment and without new callers. -/
structure Plays (s s' : Simulation) : Prop where
  setup : s'.setup = s.setup
  run : ∃ events, (∀ ev ∈ events, ev.isInner = true) ∧ s'.edge = Edge.run s.setup s.edge events

namespace Plays

/-- What does not concern the cache plays nothing. -/
lemma aside (setup : s'.setup = s.setup) (edge : s'.edge = s.edge) : Plays s s' :=
  ⟨setup, [], nofun, edge⟩

/-- Where nothing happens nothing is played. -/
lemma refl : Plays s s := aside rfl rfl

/-- One play after the other is a play. -/
lemma trans (h : Plays s s') (h' : Plays s' s'') : Plays s s'' := by
  obtain ⟨setup, events, inner, edge⟩ := h
  obtain ⟨setup', events', inner', edge'⟩ := h'
  refine ⟨setup'.trans setup, events ++ events', ?_, ?_⟩
  · intro ev m
    rcases List.mem_append.1 m with m | m
    · exact inner ev m
    · exact inner' ev m
  · rw [edge', setup, edge, Edge.run_append]

/-- An event that brings no caller and takes no time is a play of its own. -/
lemma happen {ev : Event} (inner : ev.isInner = true) : Plays s (s.happen ev) :=
  ⟨rfl, [ev], fun _ m => List.mem_singleton.1 m ▸ inner, rfl⟩

/-- What plays for each of a list plays for all of it. -/
lemma foldl {α : Type} {f : Simulation → α → Simulation} {l : List α}
    (h : ∀ s x, Plays s (f s x)) : Plays s (l.foldl f s) := by
  refine List.foldlRecOn l f refl ?_
  intro s' plays x _
  exact plays.trans (h s' x)

/-- Flights bring no callers and take no time. -/
lemma of_flies (h : Flies s s') : Plays s s' := by
  induction h with
  | refl => exact refl
  | trans _ _ ih ih' => exact ih.trans ih'
  | asks => exact happen rfl
  | ends => exact happen rfl
  | reroute => exact aside rfl rfl
  | permit => exact aside rfl rfl
  | alarm => exact aside rfl rfl

/-- Nor does a pass over the store. -/
lemma sweepOnce : Plays s s.sweepOnce := by
  simp only [Simulation.sweepOnce]
  split
  · exact refl
  · exact happen rfl

/-- Whoever is woken plays at this moment. -/
lemma wake {w : Sleeper} : Plays s (s.wake w) := by
  cases w with
  | flight f => exact of_flies .wakeFlight
  | sweeper number =>
    simp only [Simulation.wake, wakeSweeper]
    split
    · exact refl
    · exact sweepOnce.trans (aside rfl rfl)

/-- All that is due rings at this moment. -/
lemma ring : Plays s s.ring := by
  have hushed : Plays s { s with alarms := s.alarms.filter fun a => !s.isDue a } := aside rfl rfl
  exact hushed.trans (foldl fun _ _ => wake)

/-- Results are handed out at this moment. -/
lemma deliver : Plays s s.deliver := by
  refine foldl fun s x => ?_
  split
  · exact happen rfl
  · exact refl

/-- What is due runs at this moment. -/
lemma settle : Plays s s.settle := ring.trans deliver

/-- Flights ask the origin at this moment. -/
lemma embark_all {fresh : List Flight} : Plays s (fresh.foldl (fun s y => s.embark y.id) s) :=
  foldl fun _ _ => of_flies .embark

end Plays

/-- A play does not take time. -/
lemma Plays.now (h : Plays s s') : s'.now = s.now := by
  obtain ⟨_, events, inner, ran⟩ := h
  rw [Simulation.now, ran]
  exact Edge.run_now inner

/-- What is run while time passes takes no time of its own. -/
lemma advance_now (ms : Nat) : (s.advance ms).now = s.now + ms := by
  have tick_now (s : Simulation) : s.tick.now = s.now + 1 := by
    simp only [tick]
    split
    · exact Plays.settle.now
    · rfl
  induction ms generalizing s with
  | zero => rfl
  | succ ms ih => rw [advance_succ, ih, tick_now, Nat.add_assoc, Nat.add_comm 1]

/-- New callers run first. -/
lemma launch_plays {ids : List Nat} :
    Plays { s with edge := Edge.run s.setup s.edge (ids.map .poll) } (s.launch ids) := by
  have polled (ids : List Nat) (s : Simulation) :
      ids.foldl (fun s id => s.happen (.poll id)) s =
        { s with edge := Edge.run s.setup s.edge (ids.map .poll) } := by
    induction ids generalizing s with
    | nil => rfl
    | cons id ids ih => rw [List.foldl_cons, ih]; rfl
  simp only [launch, polled]
  exact Plays.embark_all.trans .settle

/-! ## New callers -/

/-- Tasks have been started, and whoever has not run is among their callers. -/
structure Opened (s : Simulation) (t : List Task × Simulation) : Prop where
  setup : t.2.setup = s.setup
  run : ∃ events, (∀ ms, .elapse ms ∉ events) ∧ t.2.edge = Edge.run s.setup s.edge events
  listed : ∀ id x, t.2.coordinator.caller? id = some x → x.stage = .idle → id ∈ callersOf t.1

/-- A task is started behind the others, and a name makes no difference to the cache. -/
lemma enlist_eq (ts : List Task) (s : Simulation) (name? : Option String) (r : Request) :
    (enlist (ts, s) (name?, r)).1 = ts ++ [(s.addTask r).1] ∧
      (enlist (ts, s) (name?, r)).2.setup = (s.addTask r).2.setup ∧
      (enlist (ts, s) (name?, r)).2.edge = (s.addTask r).2.edge := by
  cases name? <;> exact ⟨rfl, rfl, rfl⟩

/-- A task that is started is listed with its caller. -/
lemma Opened.enlist {ts : List Task} {t : Simulation} {name? : Option String} {r : Request}
    (h : Opened s (ts, t)) : Opened s (Simulation.enlist (ts, t) (name?, r)) := by
  obtain ⟨tasks, setup, edge⟩ := enlist_eq ts t name? r
  obtain ⟨same, ⟨events, timeless, ran⟩, listed⟩ := h
  have callers : callersOf (Simulation.enlist (ts, t) (name?, r)).1 =
      callersOf ts ++ callersOf [(t.addTask r).1] := by
    rw [tasks, callersOf, List.filterMap_append]
    rfl
  cases d : t.demand r with
  | error a =>
    rw [addTask_error d] at setup edge
    refine ⟨setup.trans same, ⟨events, timeless, edge.trans ran⟩, fun id x hx idle => ?_⟩
    rw [coordinator, edge] at hx
    rw [callers]
    exact List.mem_append_left _ (listed id x hx idle)
  | ok call =>
    obtain ⟨key, view⟩ := call
    rw [addTask_ok d] at setup edge callers
    refine ⟨setup.trans same, ⟨events ++ [.call t.callers key], ?_, ?_⟩, fun id x hx idle => ?_⟩
    · intro ms m
      rcases List.mem_append.1 m with m | m
      · exact timeless ms m
      · cases List.mem_singleton.1 m
    · rw [edge, Edge.run_append, ← ran, ← same]
      rfl
    · rw [coordinator, edge] at hx
      rw [callers, List.mem_append]
      rcases (Edge.step_idle hx idle).2 with before | called
      · exact .inl (listed id x before idle)
      · cases called
        exact .inr List.mem_cons_self

/-- All tasks of a command are listed with their callers. -/
lemma Opened.enlist_all (begun : s.edge.Begun) (requests : List (Option String × Request)) :
    Opened s (requests.foldl Simulation.enlist ([], s)) := by
  refine List.foldlRecOn requests _ ?_ ?_
  · refine ⟨rfl, ⟨[], fun _ => List.not_mem_nil, rfl⟩, fun id x h idle => ?_⟩
    exact absurd idle (begun id x h)
  · rintro ⟨ts, t⟩ opened ⟨name?, r⟩ _
    exact opened.enlist

/-! ## Commands -/

/-- The cache has gone on promptly, and everybody has run. -/
structure Proceeds (s s' : Simulation) : Prop where
  setup : s'.setup = s.setup
  run : ∃ events, Edge.Prompt s.setup s.edge events ∧ s'.edge = Edge.run s.setup s.edge events
  begun : s'.edge.Begun

/-- Going on promptly twice is going on promptly. -/
lemma Proceeds.trans (h : Proceeds s s') (h' : Proceeds s' s'') : Proceeds s s'' := by
  obtain ⟨setup, ⟨events, prompt, ran⟩, _⟩ := h
  obtain ⟨setup', ⟨events', prompt', ran'⟩, begun⟩ := h'
  refine ⟨setup'.trans setup, ⟨events ++ events', ?_, ?_⟩, begun⟩
  · rw [setup, ran] at prompt'
    exact Edge.prompt_append_iff.2 ⟨prompt, prompt'⟩
  · rw [ran', setup, ran, Edge.run_append]

/-- A play is prompt, and leaves nobody who has not run. -/
lemma Plays.proceeds (h : Plays s s') (begun : s.edge.Begun) : Proceeds s s' := by
  obtain ⟨setup, events, inner, ran⟩ := h
  exact ⟨setup, ⟨events, Edge.prompt_of_inner inner, ran⟩, ran ▸ begun.run inner⟩

/-- A simulation that has come to rest rests. -/
lemma Quiet.rests (q : Quiet s) (begun : s.edge.Begun) : s.edge.Rests s.setup := by
  refine ⟨Edge.ran_of_waiting fun id x h opn => ?_, Edge.ran_of_departed fun f x h => ?_⟩
  · rcases isOpen_iff.1 opn with idle | ⟨f, waiting⟩
    · exact absurd idle (begun id x h)
    · exact ⟨f, waiting, q.callers x (List.mem_of_find?_eq_some h) f waiting⟩
  · exact q.flights x (List.mem_of_find?_eq_some h)

/-- Callers that are brought by a command have run before it is over. -/
lemma ask_proceeds (begun : s.edge.Begun) (requests : List (Option String × Request)) :
    Proceeds s (s.perform (.ask requests)) := by
  obtain ⟨setup, ⟨events, timeless, ran⟩, listed⟩ := Opened.enlist_all begun requests
  rw [perform_ask]
  generalize requests.foldl enlist ([], s) = t at setup ran listed
  obtain ⟨ts, t⟩ := t
  have polled : Proceeds s
      { t with edge := Edge.run t.setup t.edge ((callersOf ts).map .poll) } := by
    refine ⟨setup, ⟨events ++ (callersOf ts).map .poll, ?_, ?_⟩, Edge.begun_of_polled listed⟩
    · refine Edge.prompt_of_timeless fun ms m => ?_
      rcases List.mem_append.1 m with m | m
      · exact timeless ms m
      · obtain ⟨id, _, eq⟩ := List.mem_map.1 m
        cases eq
    · rw [Edge.run_append, ← ran, ← setup]
  exact polled.trans (launch_plays.proceeds polled.begun)

/-- A millisecond passes promptly, since nobody could run before it. -/
lemma tick_proceeds (q : Quiet s) (begun : s.edge.Begun) : Proceeds s s.tick := by
  have later : Proceeds s (s.happen (.elapse 1)) := by
    refine ⟨rfl, ⟨[.elapse 1], ?_, rfl⟩, begun⟩
    exact Edge.prompt_cons_iff.2 ⟨fun _ _ => q.rests begun, Edge.prompt_of_timeless nofun⟩
  simp only [tick]
  split
  · exact later.trans (Plays.settle.proceeds later.begun)
  · exact later

/-- So does any time. -/
lemma advance_proceeds (sound : Sound s) (q : Quiet s) (begun : s.edge.Begun) (ms : Nat) :
    Proceeds s (s.advance ms) := by
  induction ms generalizing s with
  | zero => exact Plays.refl.proceeds begun
  | succ ms ih =>
    obtain ⟨kept, quiet⟩ := tick_quiet sound q
    have ticked := tick_proceeds q begun
    rw [advance_succ]
    exact ticked.trans (ih (kept.sound sound) quiet ticked.begun)

/-- A command lets the cache go on promptly. -/
theorem perform_proceeds (sound : Sound s) (q : Quiet s) (begun : s.edge.Begun) (c : Command) :
    Proceeds s (s.perform c) := by
  have happened {ev : Event} (inner : ev.isInner = true) : Proceeds s (s.happen ev) :=
    (Plays.happen inner).proceeds begun
  have still {s' : Simulation} (setup : s'.setup = s.setup) (edge : s'.edge = s.edge) :
      Proceeds s s' := (Plays.aside setup edge).proceeds begun
  cases c with
  | ask requests => exact ask_proceeds begun requests
  | poll name => exact still rfl rfl
  | cancel name =>
    simp only [perform, Simulation.cancel]
    split
    · exact happened rfl
    · exact still rfl rfl
  | script key script => exact still rfl rfl
  | disconnect => exact still rfl rfl
  | release key permits =>
    exact ((Plays.of_flies (.release key permits)).trans .settle).proceeds begun
  | advance ms => exact advance_proceeds sound q begun ms
  | startSweeper seconds => exact still rfl rfl
  | stopSweeper =>
    simp only [perform, Simulation.stopSweeper]
    split <;> exact still rfl rfl
  | sweepOnce => exact Plays.sweepOnce.proceeds begun
  | reading script =>
    simp only [perform, Simulation.script]
    split
    · exact still rfl rfl
    · exact happened rfl
  | writing script =>
    simp only [perform, Simulation.script]
    split
    · exact still rfl rfl
    · exact happened rfl
  | put key entry => exact happened rfl
  | get key => exact happened rfl
  | sweep => exact happened rfl
  | clear => exact happened rfl

end Simulation

end EdgeCache
