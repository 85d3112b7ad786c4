import EdgeCache.Proofs.Coordinator.Sweeping
import EdgeCache.Proofs.Http.Routing
import EdgeCache.Proofs.Simulation.Alike
import EdgeCache.Proofs.Simulation.Session
import Mathlib.Tactic.Lemma

/-!
# Sweeping is invisible

Two sessions that are the same but for sweeps: sweepers that are started and stopped, single passes
over the store, and sweeps behind the coordinator's back. Nobody can tell the one from the other by
what callers get, by what the origin is asked, or by what is counted, the number of entries apart.
-/

namespace EdgeCache

namespace Simulation

open Coordinator

variable {s s' : Simulation} {f : FlightId} {ev : Event} {w : Sleeper}

/-- Whether somebody is a flight, and no sweeper. -/
def Sleeper.isFlight : Sleeper → Bool
  | .flight _ => true
  | .sweeper _ => false

/-- Two tasks that are the same, or that tell counters which differ in the number of entries. -/
inductive Task.Same : Task → Task → Prop where
  | refl {t} :
    Same t t
  | counters {bodiless c n} :
    Same (.answered (.page ((Http.Page.counters c).cut bodiless)))
      (.answered (.page ((Http.Page.counters { c with entries := n }).cut bodiless)))

/-- Two simulations that differ in what has been swept and in who sweeps. -/
structure SameFresh (s s' : Simulation) : Prop where
  setup : s'.setup = s.setup
  router : s'.router = s.router
  plain : s'.plain = s.plain
  edge : s.edge.SameFresh s'.edge
  origin : s'.origin = s.origin
  journeys : s'.journeys = s.journeys
  alarms : s'.alarms.filter (·.wakes.isFlight) = s.alarms.filter (·.wakes.isFlight)
  tasks : ∀ name, Option.Rel Task.Same (s.tasks.lookup name) (s'.tasks.lookup name)
  callers : s'.callers = s.callers

/-- It makes no difference which of two tasks comes first. -/
lemma Task.Same.symm {t t' : Task} (h : Task.Same t t') : Task.Same t' t := by
  cases h with
  | refl => exact refl
  | @counters bodiless c n => exact counters (c := { c with entries := n }) (n := c.entries)

namespace SameFresh

/-! ## What both have -/

/-- Neither of two simulations is the one that is swept. -/
lemma symm (h : SameFresh s s') : SameFresh s' s where
  setup := h.setup.symm
  router := h.router.symm
  plain := h.plain.symm
  edge := h.edge.symm
  origin := h.origin.symm
  journeys := h.journeys.symm
  alarms := h.alarms.symm
  tasks name := by
    have same := h.tasks name
    generalize s.tasks.lookup name = t at same
    generalize s'.tasks.lookup name = t' at same
    cases same with
    | none => exact .none
    | some same => exact .some same.symm
  callers := h.callers.symm

/-- No sweep takes time. -/
lemma now_eq (h : SameFresh s s') : s'.now = s.now := h.edge.now

/-- The coordinators are the same but for what is in the store. -/
lemma coordinator_eq (h : SameFresh s s') :
    s'.coordinator = { s.coordinator with shelf := s'.coordinator.shelf } := h.edge.coordinator.rest

/-- The callers are the same, and so far on their way. -/
lemma callers_eq (h : SameFresh s s') : s'.coordinator.callers = s.coordinator.callers := by
  rw [h.coordinator_eq]

/-- The flights are the same. -/
lemma flights_eq (h : SameFresh s s') : s'.coordinator.flights = s.coordinator.flights := by
  rw [h.coordinator_eq]

/-- Flights have come to the same end. -/
lemma outcome?_eq (h : SameFresh s s') : s'.coordinator.outcome? f = s.coordinator.outcome? f := by
  rw [h.coordinator_eq]
  rfl

/-- The same alarms are due. -/
lemma isDue_eq (h : SameFresh s s') : s'.isDue = s.isDue := by
  funext a
  simp only [isDue, h.now_eq]

/-- A flight is at the same place. -/
lemma journey?_eq (h : SameFresh s s') : s'.journey? f = s.journey? f := by
  simp only [journey?, h.journeys]

/-! ## One thing done -/

/-- One of them is swept. -/
lemma skip_sweep (h : SameFresh s s') : SameFresh (s.happen .sweep) s' :=
  { h with edge := h.edge.skip_sweep s.setup }

/-- An event that is no sweep happens to both. -/
lemma happen (h : SameFresh s s') (other : ev.isSweep = false) :
    SameFresh (s.happen ev) (s'.happen ev) := by
  refine { h with edge := ?_ }
  simp only [Simulation.happen, h.setup]
  exact h.edge.step other

/-- A sweeper sets an alarm in one of them. -/
lemma skip_setAlarm (h : SameFresh s s') {due number : Nat} :
    SameFresh (s.setAlarm due (.sweeper number)) s' := by
  refine { h with alarms := h.alarms.trans ?_ }
  simp [Simulation.setAlarm, Sleeper.isFlight]

/-- Alarms of the same sleeper are set on both sides. -/
lemma setAlarm (h : SameFresh s s') {due : Nat} :
    SameFresh (s.setAlarm due w) (s'.setAlarm due w) := by
  refine { h with alarms := ?_ }
  simp only [Simulation.setAlarm, List.filter_append, h.alarms]

/-- Journeys that change on both sides stay the same. -/
lemma reroute (h : SameFresh s s') {js js' : List Journey} (same : js' = js) :
    SameFresh { s with journeys := js } { s' with journeys := js' } :=
  { h with journeys := same }

/-- Origins that change on both sides stay the same. -/
lemma setOrigin (h : SameFresh s s') {o o' : ScriptedOrigin} (same : o' = o) :
    SameFresh { s with origin := o } { s' with origin := o' } :=
  { h with origin := same }

/-! ## Flights -/

/-- A flight lands on both sides with the same outcome, for what it puts is fresh on both. -/
lemma land {how : Landing} (h : SameFresh s s') : SameFresh (s.land f how) (s'.land f how) := by
  have landed : SameFresh (s.happen (.land f how)) (s'.happen (.land f how)) := h.happen rfl
  exact landed.reroute (congrArg (List.filter _) landed.journeys)

/-- A flight that has passed the gate goes on alike. -/
lemma travel {delay : Option Nat} (h : SameFresh s s') :
    SameFresh (s.travel f delay) (s'.travel f delay) := by
  cases delay with
  | none =>
    simp only [Simulation.travel, h.origin]
    exact h.land
  | some d =>
    simp only [Simulation.travel, h.now_eq]
    exact (h.reroute (congrArg (List.map _) h.journeys)).setAlarm

/-- The gate of a key lets the same flight pass. -/
lemma openGate {key : String} (h : SameFresh s s') :
    SameFresh (s.openGate key) (s'.openGate key) := by
  have gate : atGate? s'.journeys key = atGate? s.journeys key := congrArg (atGate? · key) h.journeys
  have permits : s'.origin.permitsOf key = s.origin.permitsOf key := by rw [h.origin]
  rw [openGate_eq, openGate_eq, gate, permits]
  split
  · exact (h.setOrigin (by rw [h.origin])).travel
  · exact h

/-- A flight that asks the origin gets as far on both sides. -/
lemma embark (h : SameFresh s s') : SameFresh (s.embark f) (s'.embark f) := by
  have passes (s s' : Simulation) (gated : Bool) (delay : Option Nat) (h : SameFresh s s') :
      SameFresh (if gated then s.openGate f.key.text else s.travel f delay)
        (if gated then s'.openGate f.key.text else s'.travel f delay) := by
    cases gated with
    | false => exact h.travel
    | true => exact h.openGate
  have waits (s s' : Simulation) (due : Nat) (h : SameFresh s s') :
      SameFresh (if (s.journey? f).isSome then s.setAlarm due (.flight f) else s)
        (if (s'.journey? f).isSome then s'.setAlarm due (.flight f) else s') := by
    rw [h.journey?_eq]
    split
    · exact h.setAlarm
    · exact h
  have departed : SameFresh (s.happen (.depart f)) (s'.happen (.depart f)) := h.happen rfl
  have script : (s'.happen (.depart f)).origin.script f.key =
      (s.happen (.depart f)).origin.script f.key := by rw [departed.origin]
  have patience : (s'.happen (.depart f)).setup.patience = (s.happen (.depart f)).setup.patience :=
    congrArg Setup.patience departed.setup
  simp only [Simulation.embark, script, departed.now_eq, patience]
  exact waits _ _ _ (passes _ _ _ _ (departed.reroute (congrArg (· ++ _) departed.journeys)))

/-- A flight that looks at the clock finds the same. -/
lemma wakeFlight (h : SameFresh s s') : SameFresh (s.wakeFlight f) (s'.wakeFlight f) := by
  have expires (j : Journey) :
      SameFresh (if j.expiresAt ≤ s.now then s.land f .timedOut else s)
        (if j.expiresAt ≤ s.now then s'.land f .timedOut else s') := by
    split
    · exact h.land
    · exact h
  simp only [Simulation.wakeFlight, h.journey?_eq, h.now_eq, h.origin]
  cases s.journey? f with
  | none => exact h
  | some j =>
    cases place : j.place with
    | atGate delay => simpa only [place] using expires j
    | underway answerAt =>
      simp only [place]
      split
      · exact h.land
      · exact expires j

/-! ## Sweepers -/

/-- A pass on one side alone makes no difference. -/
lemma skip_sweepOnce (h : SameFresh s s') : SameFresh s.sweepOnce s' := by
  simp only [Simulation.sweepOnce]
  split
  · exact h
  · exact h.skip_sweep

/-- Nor does a sweeper that is woken on one side alone, whatever alarm it sets. -/
lemma skip_wakeSweeper {number : Nat} (h : SameFresh s s') : SameFresh (s.wakeSweeper number) s' := by
  simp only [Simulation.wakeSweeper]
  split
  · exact h
  · exact h.skip_sweepOnce.skip_setAlarm

/-- Whoever is woken on one side alone, as long as it is no flight. -/
lemma skip_wake (h : SameFresh s s') (sweeps : w.isFlight = false) : SameFresh (s.wake w) s' := by
  cases w with
  | flight f => cases sweeps
  | sweeper number => exact h.skip_wakeSweeper

/-- A flight is woken on both sides. -/
lemma wake (h : SameFresh s s') (flies : w.isFlight = true) :
    SameFresh (s.wake w) (s'.wake w) := by
  cases w with
  | flight f => exact h.wakeFlight
  | sweeper number => cases flies

/-! ## Running -/

/-- What is due rings. Sweepers may ring in one of them only. -/
lemma ring (h : SameFresh s s') : SameFresh s.ring s'.ring := by
  have due : (s.alarms.filter s.isDue).filter (·.wakes.isFlight) =
      (s'.alarms.filter s'.isDue).filter (·.wakes.isFlight) := by
    rw [List.filter_comm, ← h.alarms, List.filter_comm, h.isDue_eq]
  have rung : SameFresh { s with alarms := s.alarms.filter fun a => !s.isDue a }
      { s' with alarms := s'.alarms.filter fun a => !s'.isDue a } := by
    refine { h with alarms := ?_ }
    simp only [h.isDue_eq]
    rw [List.filter_comm, h.alarms, List.filter_comm]
  refine (Woven.of_filter_eq due).foldl ?_ ?_ ?_ rung
  · rintro s s' a _ ⟨rfl, flies⟩ h
    exact h.wake flies
  · intro s s' a sweeps h
    exact h.skip_wake sweeps
  · intro s s' a sweeps h
    exact (h.symm.skip_wake sweeps).symm

/-- What is done one by one is done to both. -/
lemma foldl {α : Type} {g : Simulation → α → Simulation} {l : List α} (h : SameFresh s s')
    (each : ∀ s s' x, SameFresh s s' → SameFresh (g s x) (g s' x)) :
    SameFresh (l.foldl g s) (l.foldl g s') := by
  induction l generalizing s s' with
  | nil => exact h
  | cons x l ih => exact ih (each s s' x h)

/-- Whoever can be handed a result is handed the same on both sides. -/
lemma deliver (h : SameFresh s s') : SameFresh s.deliver s'.deliver := by
  simp only [Simulation.deliver, h.callers_eq]
  refine h.foldl fun s s' x h => ?_
  split
  · exact h.happen rfl
  · exact h

/-- What is due rings on both sides, and then results are handed out. -/
lemma settle (h : SameFresh s s') : SameFresh s.settle s'.settle := h.ring.deliver

/-- New callers and their flights run alike. -/
lemma launch (h : SameFresh s s') (ids : List Nat) : SameFresh (s.launch ids) (s'.launch ids) := by
  have polled : SameFresh (ids.foldl (fun s id => s.happen (.poll id)) s)
      (ids.foldl (fun s id => s.happen (.poll id)) s') := h.foldl fun _ _ _ h => h.happen rfl
  have embarked {fresh : List Flight} {s s' : Simulation} (h : SameFresh s s') :
      SameFresh (fresh.foldl (fun s y => s.embark y.id) s)
        (fresh.foldl (fun s y => s.embark y.id) s') := h.foldl fun _ _ _ h => h.embark
  simp only [Simulation.launch, polled.flights_eq]
  exact (embarked polled).settle

/-! ## What runs in one of them -/

/-- Only sweepers are due in one of them, if nothing is due in the other. -/
lemma skip_ring (h : SameFresh s s') (q : Quiet s') : SameFresh s.ring s' := by
  have sweeps : ∀ a ∈ s.alarms, s.isDue a = true → a.wakes.isFlight = false := by
    intro a ma due
    by_contra flies
    have there : a ∈ s'.alarms.filter (·.wakes.isFlight) :=
      h.alarms ▸ List.mem_filter.2 ⟨ma, Bool.of_not_eq_false flies⟩
    have rests := q.alarms a (List.mem_filter.1 there).1
    rw [h.isDue_eq, due] at rests
    cases rests
  refine List.foldlRecOn (motive := fun t => SameFresh t s') _ _ ?_ ?_
  · refine { h with alarms := h.alarms.trans (filter_filter_spared fun a ma flies => ?_).symm }
    cases due : s.isDue a with
    | false => rfl
    | true =>
      rw [sweeps a ma due] at flies
      cases flies
  · intro t h a ma
    obtain ⟨ma, due⟩ := List.mem_filter.1 ma
    exact h.skip_wake (sweeps a ma due)

/-- Where nobody waits for what has landed, there is nothing to hand out. -/
lemma deliver_still (distinct : (s.coordinator.callers.map Caller.id).Nodup)
    (rest : ∀ x ∈ s.coordinator.callers, ∀ f, x.stage = .waiting f →
      s.coordinator.outcome? f = none) : s.deliver = s := by
  refine List.foldlRecOn (motive := fun t => t = s) _ _ rfl ?_
  rintro t rfl x mx
  split
  case h_1 f waits =>
    exact happen_poll_still ((find?_key_iff distinct).2 ⟨mx, rfl⟩) waits (rest x mx f waits)
  case h_2 => rfl

/-- Whoever waits in one of them waits in the other as well, so there is nothing to hand out. -/
lemma skip_deliver (h : SameFresh s s') (sound : Sound s) (q : Quiet s') :
    SameFresh s.deliver s' := by
  rw [deliver_still sound.distinct]
  · exact h
  · intro x mx f waits
    rw [← h.outcome?_eq]
    exact q.callers x (h.callers_eq ▸ mx) f waits

/-- Where nothing but a sweeper can be due, running it on one side makes no difference. -/
lemma skip_settle (h : SameFresh s s') (sound : Sound s) (q : Quiet s') :
    SameFresh s.settle s' := by
  have rung : Kept s s.ring := .of_travels .ring
  exact (h.skip_ring q).skip_deliver (rung.sound sound) q

/-! ## Time -/

/-- A millisecond that passes on both sides leaves them the same, also where only one has a sweeper to
wake in it. -/
lemma tick (h : SameFresh s s') (sound : Sound s) (sound' : Sound s') (q : Quiet s)
    (q' : Quiet s') : SameFresh s.tick s'.tick := by
  have later : SameFresh (s.happen (.elapse 1)) (s'.happen (.elapse 1)) := h.happen rfl
  have kept : Kept s (s.happen (.elapse 1)) := ⟨rfl, rfl, rfl, rfl, id⟩
  have kept' : Kept s' (s'.happen (.elapse 1)) := ⟨rfl, rfl, rfl, rfl, id⟩
  simp only [Simulation.tick]
  split
  · split
    · exact later.settle
    case isFalse none_due => exact later.skip_settle (kept.sound sound) (elapse_quiet q' none_due)
  case isFalse none_due =>
    split
    · exact (later.symm.skip_settle (kept'.sound sound') (elapse_quiet q none_due)).symm
    · exact later

/-- So does any time. -/
lemma advance (h : SameFresh s s') (sound : Sound s) (sound' : Sound s') (q : Quiet s)
    (q' : Quiet s') (ms : Nat) : SameFresh (s.advance ms) (s'.advance ms) := by
  induction ms generalizing s s' with
  | zero => exact h
  | succ ms ih =>
    obtain ⟨kept, quiet⟩ := tick_quiet sound q
    obtain ⟨kept', quiet'⟩ := tick_quiet sound' q'
    rw [advance_succ, advance_succ]
    exact ih (h.tick sound sound' q q') (kept.sound sound) (kept'.sound sound') quiet quiet'

end SameFresh

/-! ## Requests -/

/-- Whether a request is for the counters, which tell how many entries there are. -/
def Request.isForCounters (r : Http.Router) : Request → Bool
  | .page method target =>
    match Http.Request.of? method target with
    | some q => r.route? q.path = some .counters
    | none => false
  | _ => false

/-- Tasks are started under the same router. -/
lemma enlist_router {request : Option String × Request} :
    (enlist ([], s) request).2.router = s.router := by
  obtain ⟨name?, r⟩ := request
  have added : (s.addTask r).2.router = s.router := by
    cases d : s.demand r with
    | error a => rw [addTask_error d]
    | ok kv =>
      rw [addTask_ok d]
      rfl
  cases name? with
  | none => exact added
  | some n => exact added

/-- Only a request for the counters hangs on them. -/
lemma handle_else {r : Http.Router} {q : Http.Request} (other : r.route? q.path ≠ some .counters)
    (c c' : Snapshot) : Http.handle r c' q = Http.handle r c q := by
  simp only [Http.handle]
  cases found : r.route? q.path with
  | none => rfl
  | some route =>
    cases route with
    | health => rfl
    | counters => exact absurd found other
    | resource part => rfl

/-- A request for the counters is refused, or told them. -/
lemma handle_counters {r : Http.Router} {q : Http.Request}
    (found : r.route? q.path = some .counters) :
    (∀ c, Http.handle r c q = .reply (.blank 405)) ∨
      ∃ bodiless, ∀ c, Http.handle r c q = .reply ((Http.Page.counters c).cut bodiless) := by
  cases access : Http.Access.ofMethod q.method with
  | read => exact .inr ⟨false, fun c => by simp only [Http.handle, found, access]; rfl⟩
  | probe => exact .inr ⟨true, fun c => by simp only [Http.handle, found, access]; rfl⟩
  | refused => exact .inl fun c => by simp only [Http.handle, found, access]

namespace SameFresh

/-- The counters are the same but for the number of entries. -/
lemma snapshot_eq (h : SameFresh s s') :
    s'.snapshot = { s.snapshot with entries := s'.snapshot.entries } := by
  simp only [Simulation.snapshot, Coordinator.snapshot, Coordinator.inFlight]
  rw [h.coordinator_eq]

/-- A request comes to the same in both, unless it is told the counters. -/
lemma demand (h : SameFresh s s') (r : Request) :
    s'.demand r = s.demand r ∨ r.isForCounters s.router = true ∧ ∃ bodiless,
      s.demand r = .error (.page ((Http.Page.counters s.snapshot).cut bodiless)) ∧
      s'.demand r = .error (.page ((Http.Page.counters s'.snapshot).cut bodiless)) := by
  cases r with
  | entry path => exact .inl rfl
  | rendered path => exact .inl rfl
  | page method target =>
    simp only [Simulation.demand, Request.isForCounters, h.router]
    cases Http.Request.of? method target with
    | none => exact .inl rfl
    | some q =>
      by_cases found : s.router.route? q.path = some .counters
      · rcases handle_counters found with refused | ⟨bodiless, told⟩
        · simp only [refused]
          exact .inl trivial
        · simp only [told]
          exact .inr ⟨decide_eq_true found, bodiless, rfl, rfl⟩
      · simp only [handle_else found s.snapshot s'.snapshot]
        exact .inl trivial

/-- A task is added to both. -/
lemma addTask (h : SameFresh s s') (r : Request) :
    SameFresh (s.addTask r).2 (s'.addTask r).2 ∧ Task.Same (s.addTask r).1 (s'.addTask r).1 ∧
      (r.isForCounters s.router = false → (s'.addTask r).1 = (s.addTask r).1) := by
  rcases h.demand r with same | ⟨counters, bodiless, told, told'⟩
  · cases d : s.demand r with
    | error a =>
      rw [addTask_error d, addTask_error (same.trans d)]
      exact ⟨h, .refl, fun _ => rfl⟩
    | ok call =>
      rw [addTask_ok d, addTask_ok (same.trans d), h.callers]
      have called : SameFresh (s.happen (.call s.callers call.1))
          (s'.happen (.call s.callers call.1)) := h.happen rfl
      exact ⟨{ called with callers := rfl }, .refl, fun _ => rfl⟩
  · rw [addTask_error told, addTask_error told', h.snapshot_eq]
    refine ⟨h, .counters, fun other => ?_⟩
    rw [counters] at other
    cases other

/-- Tasks get the same name on both sides. -/
lemma name {n : String} {t t' : Task} (h : SameFresh s s') (same : Task.Same t t') :
    SameFresh (s.name n t) (s'.name n t') := by
  refine { h with tasks := fun n' => ?_ }
  simp only [Simulation.name, lookup_replace]
  split
  · exact .some same
  · exact h.tasks n'

/-- A task is started on both sides for the same request, which comes to the same there. -/
lemma enlist (h : SameFresh s s') (request : Option String × Request) :
    SameFresh (Simulation.enlist ([], s) request).2 (Simulation.enlist ([], s') request).2 := by
  obtain ⟨name?, r⟩ := request
  obtain ⟨added, same, _⟩ := h.addTask r
  cases name? with
  | none => exact added
  | some n => exact added.name same

/-- What is asked of both starts the same tasks, but for those that tell counters. -/
lemma enlist_all (h : SameFresh s s') (requests : List (Option String × Request)) :
    SameFresh (requests.foldl Simulation.enlist ([], s)).2
        (requests.foldl Simulation.enlist ([], s')).2 ∧
      List.Forall₂ Task.Same (requests.foldl Simulation.enlist ([], s)).1
        (requests.foldl Simulation.enlist ([], s')).1 ∧
      ∀ i : Nat,
        (∀ request, requests[i]? = some request → request.2.isForCounters s.router = false) →
        (requests.foldl Simulation.enlist ([], s')).1[i]? =
          (requests.foldl Simulation.enlist ([], s)).1[i]? := by
  induction requests generalizing s s' with
  | nil => exact ⟨h, .nil, fun _ _ => rfl⟩
  | cons request requests ih =>
    obtain ⟨_, same, told⟩ := h.addTask request.2
    obtain ⟨rest, tasks, others⟩ := ih (h.enlist request)
    rw [enlist_cons, enlist_cons]
    refine ⟨rest, .cons same tasks, fun i other => ?_⟩
    cases i with
    | zero => exact congrArg some (told (other request rfl))
    | succ i =>
      refine others i fun r there => ?_
      rw [enlist_router]
      exact other r there

/-- A task has the same to tell in both. -/
lemma tell_eq (h : SameFresh s s') (t : Task) : s'.tell t = s.tell t := by
  cases t with
  | answered a => rfl
  | calling id view =>
    have callers : s'.coordinator.caller? id = s.coordinator.caller? id := by
      rw [h.coordinator_eq]
      rfl
    simp only [tell, callers]

/-- A name has the same to tell in both, unless it stands for counters. -/
lemma poll (h : SameFresh s s') (name : String) :
    s'.poll name = s.poll name ∨ ∃ bodiless c n,
      s.tasks.lookup name = some (.answered (.page ((Http.Page.counters c).cut bodiless))) ∧
      s'.tasks.lookup name =
        some (.answered (.page ((Http.Page.counters { c with entries := n }).cut bodiless))) := by
  have same := h.tasks name
  simp only [Simulation.poll]
  generalize s.tasks.lookup name = t at same ⊢
  generalize s'.tasks.lookup name = t' at same ⊢
  cases same with
  | none => exact .inl rfl
  | some same =>
    cases same with
    | refl => exact .inl (h.tell_eq _)
    | counters => exact .inr ⟨_, _, _, rfl, rfl⟩

end SameFresh

/-- Tasks that are the same have the same callers. -/
lemma callersOf_same {ts ts' : List Task} (same : List.Forall₂ Task.Same ts ts') :
    callersOf ts' = callersOf ts := by
  induction same with
  | nil => rfl
  | cons same _ ih =>
    cases same with
    | refl => simp only [callersOf, List.filterMap_cons] at ih ⊢; rw [ih]
    | counters => exact ih

/-! ## Commands -/

/-- Whether a command sweeps the store, or starts or stops somebody who does. -/
def Command.isSweep : Command → Bool
  | .startSweeper _ => true
  | .stopSweeper => true
  | .sweepOnce => true
  | .sweep => true
  | _ => false

/-- Two simulations between two commands that differ in what has been swept. -/
structure Abreast (s s' : Simulation) : Prop where
  same : SameFresh s s'
  here : Sound s
  there : Sound s'
  quiet : Quiet s
  quiet' : Quiet s'

namespace Abreast

/-- Neither of two sessions is the one that is swept. -/
lemma symm (h : Abreast s s') : Abreast s' s := ⟨h.same.symm, h.there, h.here, h.quiet', h.quiet⟩

/-- Sweeping sets nobody apart. -/
theorem skip (h : Abreast s s') {c : Command} (sweeps : c.isSweep = true) :
    Abreast (s.perform c) s' := by
  obtain ⟨sound, quiet⟩ := perform_quiet h.here h.quiet c
  refine ⟨?_, sound, h.there, quiet, h.quiet'⟩
  have same := h.same
  cases c with
  | startSweeper seconds => exact { same.skip_setAlarm with }
  | stopSweeper =>
    simp only [Simulation.perform, stopSweeper]
    split
    · exact same
    · exact { same with }
  | sweepOnce => exact same.skip_sweepOnce
  | sweep => exact same.skip_sweep
  | _ => cases sweeps

/-- A command that does not sweep does the same to both. -/
theorem perform (h : Abreast s s') {c : Command} (other : c.isSweep = false) :
    Abreast (s.perform c) (s'.perform c) := by
  obtain ⟨sound, quiet⟩ := perform_quiet h.here h.quiet c
  obtain ⟨sound', quiet'⟩ := perform_quiet h.there h.quiet' c
  refine ⟨?_, sound, sound', quiet, quiet'⟩
  have same := h.same
  have script {ev : Event} (fault : ev.isSweep = false) :
      SameFresh (s.script ev) (s'.script ev) := by
    simp only [Simulation.script, same.plain]
    split
    · exact same
    · exact same.happen fault
  cases c with
  | ask requests =>
    obtain ⟨started, tasks, _⟩ := same.enlist_all requests
    rw [perform_ask, perform_ask, callersOf_same tasks]
    exact started.launch _
  | poll name => exact same
  | cancel name =>
    have named := same.tasks name
    simp only [Simulation.perform, Simulation.cancel]
    generalize s.tasks.lookup name = t at named ⊢
    generalize s'.tasks.lookup name = t' at named ⊢
    cases named with
    | none => exact same
    | some named =>
      cases named with
      | refl =>
        split
        · exact same.happen rfl
        · exact same
      | counters => exact same
  | script key script => exact same.setOrigin (by rw [same.origin])
  | disconnect => exact same.setOrigin (by rw [same.origin])
  | release key permits => exact (same.setOrigin (by rw [same.origin])).openGate.settle
  | advance ms => exact same.advance h.here h.there h.quiet h.quiet' ms
  | reading items => exact script rfl
  | writing items => exact script rfl
  | put key entry => exact same.happen rfl
  | get key => exact same.happen rfl
  | clear => exact same.happen rfl
  | startSweeper seconds => cases other
  | stopSweeper => cases other
  | sweepOnce => cases other
  | sweep => cases other

/-- Sessions that are the same but for sweeps stay abreast. -/
theorem session (h : Abreast s s') {commands commands' : List Command}
    (same : commands.filter (!·.isSweep) = commands'.filter (!·.isSweep)) :
    Abreast (s.session commands) (s'.session commands') := by
  refine (Woven.of_filter_eq same).foldl ?_ ?_ ?_ h
  · rintro s s' c _ ⟨rfl, other⟩ h
    exact h.perform (by simpa using other)
  · intro s s' c sweeps h
    exact h.skip (by simpa using sweeps)
  · intro s s' c sweeps h
    exact (h.symm.skip (by simpa using sweeps)).symm

end Abreast

/-- A simulation in which nothing has happened is abreast of itself. -/
lemma start_abreast {setup : Setup} {router : Http.Router} {limits : Limits} {plain : Bool}
    {origin : ScriptedOrigin} (unbounded : limits.capacity = 0) :
    let s : Simulation := { start setup router limits plain with origin }
    Abreast s s := by
  intro s
  have sound : Sound s := ⟨start_orderly, nofun, .nil, nofun⟩
  have quiet : Quiet s := ⟨nofun, nofun, nofun⟩
  refine ⟨?_, sound, sound, quiet, quiet⟩
  exact ⟨rfl, rfl, rfl, .refl unbounded, rfl, rfl, rfl, fun name => .none, rfl⟩

/-- Sweeping is invisible. Over a store that is not bounded, whatever its time to live and however it
fails:
(1) two runs that are the same but for sweeps come to the same flights, the same callers with the same
results, the same questions to the origin and the same counters, and the store has the same to give
for every key;
(2) so do two sessions that are the same but for sweepers, single passes and direct sweeps, at every
point at which they have had the same other commands; every name has the same to tell in both, unless
it has been told the counters, and then these differ in the number of entries only; and whatever is
asked of both is told the same, requests for the counters apart. -/
theorem sweeping_is_invisible (setup : Setup) (limits : Limits) (unbounded : limits.capacity = 0) :
    (∀ events events' : List Event,
      events.filter (!·.isSweep) = events'.filter (!·.isSweep) →
      let e := Edge.run setup (Edge.start limits) events
      let e' := Edge.run setup (Edge.start limits) events'
      e'.now = e.now ∧ e'.coordinator = { e.coordinator with shelf := e'.coordinator.shelf } ∧
      ∀ k, (e'.store.get e'.now k).1 = (e.store.get e.now k).1) ∧
    ∀ router plain origin (commands commands' : List Command),
      commands.filter (!·.isSweep) = commands'.filter (!·.isSweep) →
      let s := session { start setup router limits plain with origin } commands
      let s' := session { start setup router limits plain with origin } commands'
      s'.now = s.now ∧ s'.coordinator = { s.coordinator with shelf := s'.coordinator.shelf } ∧
      (∀ k, (s'.edge.store.get s'.now k).1 = (s.edge.store.get s.now k).1) ∧
      (∀ name, s'.poll name = s.poll name ∨ ∃ bodiless c n,
        s.tasks.lookup name = some (.answered (.page ((Http.Page.counters c).cut bodiless))) ∧
        s'.tasks.lookup name =
          some (.answered (.page ((Http.Page.counters { c with entries := n }).cut bodiless)))) ∧
      ∀ (requests : List (Option String × Request)) (i : Nat),
        (∀ request, requests[i]? = some request → request.2.isForCounters s.router = false) →
        (s'.begin requests).1[i]? = (s.begin requests).1[i]? := by
  have stored {e e' : Edge} (h : e.SameFresh e') (k : Key) :
      (e'.store.get e'.now k).1 = (e.store.get e.now k).1 := by
    rw [h.now]
    exact h.coordinator.shelf.store.get_fst
  constructor
  · intro events events' same
    have start : (Edge.start limits).SameFresh (Edge.start limits) := .refl unbounded
    have h : (Edge.run setup (Edge.start limits) events).SameFresh
        (Edge.run setup (Edge.start limits) events') := start.run same
    exact ⟨h.now, h.coordinator.rest, stored h⟩
  · intro router plain origin commands commands' same s s'
    have h : Abreast s s' := (start_abreast unbounded).session same
    refine ⟨h.same.now_eq, h.same.coordinator_eq, stored h.same.edge, h.same.poll, ?_⟩
    intro requests i other
    obtain ⟨started, tasks, told⟩ := h.same.enlist_all requests
    have launched := started.launch (callersOf (requests.foldl enlist ([], s)).1)
    rw [begin_eq, begin_eq]
    simp only [callersOf_same tasks, List.getElem?_map]
    rw [told i other, funext launched.tell_eq]

/-- An entry that is swept after its end is fetched again as one that is still there. -/
theorem sweeping_is_invisible_expired :
    let answers : Script := ⟨false, none, false, none, some (.failure 404)⟩
    let s : Simulation := { start ⟨fun _ => .ok (), 2⟩ ⟨['/']⟩ ⟨0, some 1, 1⟩ false with
      origin := ⟨[], fun _ => answers, []⟩ }
    let asked : Command := .ask [(some "one", .entry "a")]
    let kept := s.session [asked, .advance 2]
    let swept := s.session [.startSweeper 1, asked, .advance 2, .sweepOnce]
    kept.snapshot.entries = 1 ∧ swept.snapshot.entries = 0 ∧
      swept.snapshot.tally = kept.snapshot.tally ∧
      (swept.begin [(none, .entry "a")]).1[0]? = (kept.begin [(none, .entry "a")]).1[0]? := by
  intro answers s asked kept swept
  have entries : kept.snapshot.entries = 1 := by decide +kernel +revert
  have entries' : swept.snapshot.entries = 0 := by decide +kernel +revert
  obtain ⟨_, sessions⟩ := sweeping_is_invisible ⟨fun _ => .ok (), 2⟩ ⟨0, some 1, 1⟩ rfl
  have same := sessions ⟨['/']⟩ false ⟨[], fun _ => answers, []⟩ [asked, .advance 2]
    [.startSweeper 1, asked, .advance 2, .sweepOnce] rfl
  generalize eq : session _ [asked, .advance 2] = t at same
  generalize eq' : session _ [.startSweeper 1, asked, .advance 2, .sweepOnce] = t' at same
  obtain ⟨_, rest, _, _, told⟩ := same
  have here : kept = t := eq
  have there : swept = t' := eq'
  rw [here] at entries ⊢
  rw [there] at entries' ⊢
  have tally : t'.coordinator.tally = t.coordinator.tally := by rw [rest]
  refine ⟨entries, entries', tally, ?_⟩
  exact told [(none, .entry "a")] 0 fun request there => by cases there; rfl

end Simulation

end EdgeCache
