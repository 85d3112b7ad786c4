import EdgeCache.Proofs.Coordinator.Steady
import EdgeCache.Simulation.Basic

/-!
# Quiet simulations

Between two commands a simulation is quiet: no alarm is due, nobody waits for a flight that has
ended, and every flight has departed. Whatever a command sets off has run to its end by then.
-/

namespace EdgeCache.Simulation

open Coordinator

variable {s s' s'' : Simulation} {f : FlightId}

/-- Everything that can run without more time has run. -/
structure Quiet (s : Simulation) : Prop where
  alarms : ∀ a ∈ s.alarms, s.isDue a = false
  callers : ∀ x ∈ s.coordinator.callers, ∀ f, x.stage = .waiting f →
    s.coordinator.outcome? f = none
  flights : ∀ y ∈ s.coordinator.flights, y.departed.isSome = true

/-- Callers are numbered as they come, and sweepers leave time in between. -/
structure Sound (s : Simulation) : Prop where
  orderly : Orderly s.coordinator
  numbered : ∀ x ∈ s.coordinator.callers, x.id < s.callers
  distinct : (s.coordinator.callers.map Caller.id).Nodup
  intervals : ∀ w ∈ s.sweepers, 0 < w.interval

/-! ## Flights travel -/

/-- A flight that ends leaves the callers and the other flights. -/
lemma land_leaves (setup : Setup) (now : Nat) (f : FlightId) (how : Landing) (c : Coordinator) :
    (c.land setup now f how).callers = c.callers ∧
      ∀ y ∈ (c.land setup now f how).flights, y ∈ c.flights := by
  cases h : c.flight? f with
  | none => simp [Coordinator.land, h]
  | some x =>
    cases can : canLand setup now how x with
    | false => simp [Coordinator.land, h, can]
    | true =>
      rw [land_eq h can]
      refine ⟨landing_callers, fun y my => ?_⟩
      rw [landing_flights.flights] at my
      exact (List.mem_filter.1 my).1

/-- A flight that asks the origin has departed after that, and the others are as they were. -/
lemma depart_leaves (now : Nat) (f : FlightId) (c : Coordinator) :
    (c.depart now f).callers = c.callers ∧
      ∀ y ∈ (c.depart now f).flights, y.departed = none →
        y ∈ c.flights ∧ (Orderly c → y.id ≠ f) := by
  rcases h : c.flight? f with _ | ⟨g, since, _ | t⟩
  · simp only [Coordinator.depart, h]
    refine ⟨trivial, fun y my _ => ⟨my, fun inv => ?_⟩⟩
    rintro rfl
    rw [inv.flight?_iff.2 ⟨my, rfl⟩] at h
    cases h
  · rw [depart_eq h rfl]
    refine ⟨rfl, fun y my fresh => ?_⟩
    obtain ⟨x, mx, rfl⟩ := List.mem_map.1 my
    split at fresh
    case isTrue => cases fresh
    case isFalse ne =>
      rw [if_neg ne]
      exact ⟨mx, fun _ => ne⟩
  · simp only [Coordinator.depart, h]
    refine ⟨trivial, fun y my fresh => ⟨my, fun inv => ?_⟩⟩
    rintro rfl
    rw [inv.flight?_iff.2 ⟨my, rfl⟩] at h
    cases h
    cases fresh

/-- What flights do: they ask the origin and end, and their journeys, the gates' permits and their
alarms change. -/
inductive Flies : Simulation → Simulation → Prop where
  | refl {s : Simulation} :
    Flies s s
  | trans {s s' s'' : Simulation} :
    Flies s s' →
    Flies s' s'' →
    Flies s s''
  | asks {s : Simulation} {f : FlightId} :
    Flies s (s.happen (.depart f))
  | ends {s : Simulation} {f : FlightId} {how : Landing} :
    Flies s (s.happen (.land f how))
  | reroute {s : Simulation} {journeys : List Journey} :
    Flies s { s with journeys }
  | permit {s : Simulation} {origin : ScriptedOrigin} :
    Flies s { s with origin }
  | alarm {s : Simulation} {due : Nat} {f : FlightId} :
    Flies s (s.setAlarm due (.flight f))

namespace Flies

/-- A flight that ends has flown. -/
lemma land {how : Landing} : Flies s (s.land f how) := ends.trans reroute

/-- A flight that passes its gate flies. -/
lemma travel {delay : Option Nat} : Flies s (s.travel f delay) := by
  cases delay with
  | none => exact land
  | some d => exact reroute.trans alarm

/-- Whoever a permit lets pass flies. -/
lemma openGate {key : String} : Flies s (s.openGate key) := by
  simp only [Simulation.openGate]
  split
  · exact permit.trans travel
  · exact refl

/-- A flight that has asked the origin goes on as far as it can. -/
lemma board : Flies (s.happen (.depart f)) (s.embark f) := by
  have passes (s : Simulation) (gated : Bool) (delay : Option Nat) :
      Flies s (if gated then s.openGate f.key.text else s.travel f delay) := by
    cases gated with
    | false => exact travel
    | true => exact openGate
  have waits (s : Simulation) (due : Nat) :
      Flies s (if (s.journey? f).isSome then s.setAlarm due (.flight f) else s) := by
    split
    · exact alarm
    · exact refl
  exact reroute.trans ((passes _ _ _).trans (waits _ _))

/-- A flight that asks the origin flies. -/
lemma embark : Flies s (s.embark f) := asks.trans board

/-- A flight that looks at the clock flies. -/
lemma wakeFlight : Flies s (s.wakeFlight f) := by
  have expires (j : Journey) :
      Flies s (if j.expiresAt ≤ s.now then s.land f .timedOut else s) := by
    split
    · exact land
    · exact refl
  simp only [Simulation.wakeFlight]
  split
  · exact refl
  · split
    · exact expires _
    · split
      · exact land
      · exact expires _

/-- Permits let a flight go on. -/
lemma release (key : String) (permits : Nat) :
    Flies s (Simulation.openGate
      { s with origin := s.origin.setPermits key (s.origin.permitsOf key + permits) } key) :=
  permit.trans openGate

end Flies

/-- Flights have gone on, and no flight has come. -/
structure Travels (s s' : Simulation) : Prop where
  now : s'.now = s.now
  sweepers : s'.sweepers = s.sweepers
  tasks : s'.tasks = s.tasks
  numbers : s'.callers = s.callers
  callers : s'.coordinator.callers = s.coordinator.callers
  flights : ∀ y ∈ s'.coordinator.flights, y.departed = none → y ∈ s.coordinator.flights
  orderly : Orderly s.coordinator → Orderly s'.coordinator

namespace Travels

/-- Where callers and flights are the same, flights have gone on, if they have moved at all. -/
lemma still (now : s'.now = s.now) (sweepers : s'.sweepers = s.sweepers)
    (tasks : s'.tasks = s.tasks) (numbers : s'.callers = s.callers)
    (callers : s'.coordinator.callers = s.coordinator.callers)
    (flights : SameFlights s.coordinator s'.coordinator) : Travels s s' :=
  ⟨now, sweepers, tasks, numbers, callers, fun _ my _ => flights.flights ▸ my,
    fun inv => inv.congr flights⟩

/-- Standing still is travelling nowhere. -/
lemma refl : Travels s s := still rfl rfl rfl rfl rfl ⟨rfl, rfl, rfl, rfl⟩

/-- Two travels make one. -/
lemma trans (t : Travels s s') (t' : Travels s' s'') : Travels s s'' where
  now := t'.now.trans t.now
  sweepers := t'.sweepers.trans t.sweepers
  tasks := t'.tasks.trans t.tasks
  numbers := t'.numbers.trans t.numbers
  callers := t'.callers.trans t.callers
  flights y my fresh := t.flights y (t'.flights y my fresh) fresh
  orderly inv := t'.orderly (t.orderly inv)

/-- Whoever flies travels. -/
lemma of_flies (h : Flies s s') : Travels s s' := by
  induction h with
  | refl => exact refl
  | trans _ _ ih ih' => exact ih.trans ih'
  | @asks s f =>
    obtain ⟨callers, flights⟩ := depart_leaves s.now f s.coordinator
    exact ⟨rfl, rfl, rfl, rfl, callers, fun y my fresh => (flights y my fresh).1,
      (step_shift s.setup s.edge (.depart f)).traffic.orderly⟩
  | @ends s f how =>
    obtain ⟨callers, flights⟩ := land_leaves s.setup s.now f how s.coordinator
    exact ⟨rfl, rfl, rfl, rfl, callers, fun y my _ => flights y my,
      (step_shift s.setup s.edge (.land f how)).traffic.orderly⟩
  | reroute => exact still rfl rfl rfl rfl rfl ⟨rfl, rfl, rfl, rfl⟩
  | permit => exact still rfl rfl rfl rfl rfl ⟨rfl, rfl, rfl, rfl⟩
  | alarm => exact still rfl rfl rfl rfl rfl ⟨rfl, rfl, rfl, rfl⟩

/-- A pass over the store moves no flight. -/
lemma sweepOnce : Travels s s.sweepOnce := by
  simp only [Simulation.sweepOnce]
  split <;> exact still rfl rfl rfl rfl rfl ⟨rfl, rfl, rfl, rfl⟩

/-- Nobody who is woken brings a flight. -/
lemma wake {w : Sleeper} : Travels s (s.wake w) := by
  cases w with
  | flight f => exact of_flies .wakeFlight
  | sweeper number =>
    simp only [Simulation.wake, wakeSweeper]
    split
    · exact refl
    · exact sweepOnce.trans (still rfl rfl rfl rfl rfl ⟨rfl, rfl, rfl, rfl⟩)

/-- Nor does all that rings. -/
lemma ring : Travels s s.ring := by
  refine List.foldlRecOn _ _ (still rfl rfl rfl rfl rfl ⟨rfl, rfl, rfl, rfl⟩) ?_
  intro s' t _ _
  exact t.trans wake

end Travels

/-! ## Alarms -/

/-- Whoever is woken sets no alarm that is due already. -/
lemma wake_alarms {w : Sleeper} {a : Alarm} (sound : ∀ w ∈ s.sweepers, 0 < w.interval)
    (ma : a ∈ (s.wake w).alarms) : a ∈ s.alarms ∨ s.now < a.due := by
  cases w with
  | flight f =>
    have same : (s.wakeFlight f).alarms = s.alarms := by
      simp only [wakeFlight]
      split
      · rfl
      · split
        · split <;> rfl
        · split
          · rfl
          · split <;> rfl
    exact .inl (same ▸ ma)
  | sweeper number =>
    simp only [wake, wakeSweeper] at ma
    split at ma
    · exact .inl ma
    case h_2 w found =>
      have alarms : s.sweepOnce.alarms = s.alarms := by
        simp only [sweepOnce]
        split <;> rfl
      rcases List.mem_append.1 ma with ma | ma
      · exact .inl (alarms ▸ ma)
      · obtain rfl := List.mem_singleton.1 ma
        have pos := sound w (List.mem_of_find?_eq_some found)
        exact .inr (Nat.lt_add_of_pos_right pos)

/-- When all that is due has rung, nothing more is due. -/
lemma ring_alarms (sound : ∀ w ∈ s.sweepers, 0 < w.interval) :
    ∀ a ∈ s.ring.alarms, s.ring.isDue a = false := by
  -- What rings sets alarms for later only, so those that are due become fewer.
  have later : Travels s s.ring ∧ ∀ a ∈ s.ring.alarms, s.now < a.due := by
    refine List.foldlRecOn (motive := fun t => Travels s t ∧ ∀ a ∈ t.alarms, s.now < a.due) _ _
      ⟨.still rfl rfl rfl rfl rfl ⟨rfl, rfl, rfl, rfl⟩, fun a ma => ?_⟩ ?_
    · have rest := (List.mem_filter.1 ma).2
      simpa [isDue] using rest
    · rintro t ⟨travels, later⟩ x _
      refine ⟨travels.trans .wake, fun a ma => ?_⟩
      rcases wake_alarms (travels.sweepers ▸ sound) ma with ma | late
      · exact later a ma
      · exact travels.now ▸ late
  intro a ma
  rw [isDue, later.1.now]
  exact decide_eq_false (Nat.not_le.2 (later.2 a ma))

/-! ## Callers -/

/-- Running a caller whose flight has not ended changes nothing. -/
lemma happen_poll_still {id : Nat} {x : Caller} (here : s.coordinator.caller? id = some x)
    (waits : x.stage = .waiting f) (left : s.coordinator.outcome? f = none) :
    s.happen (.poll id) = s := by
  have still : s.coordinator.poll s.setup s.now id = s.coordinator := by
    simp only [Coordinator.poll, here, waits, left]
  exact congrArg (fun c => { s with edge := { s.edge with coordinator := c } }) still

/-- What has been handed out to some of the callers, in the order in which they came. -/
structure Handed (s s' : Simulation) (rest : List Caller) : Prop where
  now : s'.now = s.now
  sweepers : s'.sweepers = s.sweepers
  tasks : s'.tasks = s.tasks
  alarms : s'.alarms = s.alarms
  numbers : s'.callers = s.callers
  flights : SameFlights s.coordinator s'.coordinator
  ids : s'.coordinator.callers.map Caller.id = s.coordinator.callers.map Caller.id
  /-- Those whose turn is still to come are as they were. -/
  unmoved : ∀ x ∈ rest, s'.coordinator.caller? x.id = some x
  /-- Whoever waits for a flight that has ended is one of them. -/
  waiting : ∀ x ∈ s'.coordinator.callers, ∀ f, x.stage = .waiting f →
    s'.coordinator.outcome? f ≠ none → x ∈ rest

namespace Handed

variable {x : Caller} {rest : List Caller}

/-- A caller for whom there is nothing is passed over. -/
lemma pass (h : Handed s s' (x :: rest))
    (rests : ∀ f, x.stage = .waiting f → s'.coordinator.outcome? f = none) : Handed s s' rest := by
  refine { h with
    unmoved := fun y my => h.unmoved y (List.mem_cons_of_mem _ my)
    waiting := fun y my f waits left => ?_ }
  rcases List.mem_cons.1 (h.waiting y my f waits left) with rfl | my
  · exact absurd (rests f waits) left
  · exact my

/-- A caller that waits gets what its flight has left. -/
lemma give {f : FlightId} {o : Outcome} (h : Handed s s' (x :: rest))
    (nodup : ((x :: rest).map Caller.id).Nodup) (waits : x.stage = .waiting f)
    (left : s'.coordinator.outcome? f = some o) : Handed s (s'.happen (.poll x.id)) rest := by
  have here := h.unmoved x List.mem_cons_self
  have given : (s'.happen (.poll x.id)).coordinator =
      s'.coordinator.finish x.id (resultOf x.key o) := poll_received here waits left
  have same : SameFlights s'.coordinator (s'.happen (.poll x.id)).coordinator :=
    given ▸ finish_flights
  constructor
  case now => exact h.now
  case sweepers => exact h.sweepers
  case tasks => exact h.tasks
  case alarms => exact h.alarms
  case numbers => exact h.numbers
  case flights => exact h.flights.trans same
  case ids => rw [given, finish_ids, h.ids]
  case unmoved =>
    intro y my
    have ne : y.id ≠ x.id := by
      intro eq
      exact (List.nodup_cons.1 nodup).1 (eq ▸ List.mem_map_of_mem my)
    rw [given, caller?_finish, caller?_setStage_of_ne ne]
    exact h.unmoved y (List.mem_cons_of_mem _ my)
  case waiting =>
    intro y my g waits' left'
    rw [outcome?_congr same] at left'
    have moved : (s'.coordinator.finish x.id (resultOf x.key o)).callers =
        (s'.coordinator.setStage x.id (.finished (resultOf x.key o))).callers := by
      cases resultOf x.key o <;> rfl
    rw [given, moved] at my
    obtain ⟨z, mz, rfl⟩ := List.mem_map.1 my
    split at waits'
    case isTrue => cases waits'
    case isFalse ne =>
      rw [if_neg ne]
      rcases List.mem_cons.1 (h.waiting z mz g waits' left') with rfl | mz
      · exact absurd rfl ne
      · exact mz

/-- The next caller gets what its flight has left, if it waits for one that has ended. -/
lemma next (h : Handed s s' (x :: rest)) (nodup : ((x :: rest).map Caller.id).Nodup) :
    Handed s (match x.stage with | .waiting _ => s'.happen (.poll x.id) | _ => s') rest := by
  have here := h.unmoved x List.mem_cons_self
  cases st : x.stage with
  | waiting f =>
    cases left : s'.coordinator.outcome? f with
    | none =>
      simp only [happen_poll_still here st left]
      refine h.pass fun g waits => ?_
      rw [st] at waits
      cases waits
      exact left
    | some o => exact h.give nodup st left
  | idle => exact h.pass fun f waits => by rw [st] at waits; cases waits
  | finished r => exact h.pass fun f waits => by rw [st] at waits; cases waits
  | cancelled => exact h.pass fun f waits => by rw [st] at waits; cases waits

/-- When all have been asked, everybody has been given what there is. -/
lemma foldl (h : Handed s s' rest) (nodup : (rest.map Caller.id).Nodup) :
    Handed s (rest.foldl (fun s x =>
      match x.stage with
      | .waiting _ => s.happen (.poll x.id)
      | _ => s) s') [] := by
  -- On those whose turn is still to come. No number is there twice, so nobody has two turns.
  induction rest generalizing s' with
  | nil => exact h
  | cons x rest ih => exact ih (h.next nodup) (List.nodup_cons.1 nodup).2

end Handed

/-- What has landed is handed out to all who wait for it. -/
lemma deliver_handed (nodup : (s.coordinator.callers.map Caller.id).Nodup) :
    Handed s s.deliver [] := by
  refine Handed.foldl ⟨rfl, rfl, rfl, rfl, rfl, .refl, rfl, ?_, fun x mx _ _ _ => mx⟩ nodup
  exact fun x mx => (find?_key_iff nodup).2 ⟨mx, rfl⟩

/-! ## What keeps who there is -/

/-- The same callers, tasks and sweepers are there. -/
structure Kept (s s' : Simulation) : Prop where
  sweepers : s'.sweepers = s.sweepers
  tasks : s'.tasks = s.tasks
  numbers : s'.callers = s.callers
  ids : s'.coordinator.callers.map Caller.id = s.coordinator.callers.map Caller.id
  orderly : Orderly s.coordinator → Orderly s'.coordinator

namespace Kept

/-- Where nothing happens the same are there. -/
lemma refl : Kept s s := ⟨rfl, rfl, rfl, rfl, id⟩

/-- The same are there after two steps that keep them. -/
lemma trans (h : Kept s s') (h' : Kept s' s'') : Kept s s'' :=
  ⟨h'.sweepers.trans h.sweepers, h'.tasks.trans h.tasks, h'.numbers.trans h.numbers,
    h'.ids.trans h.ids, fun inv => h'.orderly (h.orderly inv)⟩

/-- Flights that go on leave callers, tasks and sweepers. -/
lemma of_travels (t : Travels s s') : Kept s s' :=
  ⟨t.sweepers, t.tasks, t.numbers, congrArg (List.map Caller.id) t.callers, t.orderly⟩

/-- Events that bring no caller keep who there is. -/
lemma happen {ev : Event} (quiet : ∀ id k, ev ≠ .call id k) : Kept s (s.happen ev) := by
  have sh := step_shift s.setup s.edge ev
  refine ⟨rfl, rfl, rfl, ?_, sh.traffic.orderly⟩
  rcases sh.ids with same | ⟨id, k, eq, _⟩
  · exact same
  · exact absurd eq (quiet id k)

/-- What keeps them for each of a list keeps them for all of it. -/
lemma foldl {α : Type} {f : Simulation → α → Simulation} {l : List α}
    (h : ∀ s x, Kept s (f s x)) : Kept s (l.foldl f s) := by
  refine List.foldlRecOn l f refl ?_
  intro s' kept x _
  exact kept.trans (h s' x)

/-- A sound simulation stays sound where the same are there. -/
lemma sound (h : Kept s s') (sound : Sound s) : Sound s' := by
  refine ⟨h.orderly sound.orderly, fun x mx => ?_, h.ids ▸ sound.distinct,
    h.sweepers ▸ sound.intervals⟩
  have there : x.id ∈ s.coordinator.callers.map Caller.id := h.ids ▸ List.mem_map_of_mem mx
  obtain ⟨y, my, same⟩ := List.mem_map.1 there
  rw [h.numbers, ← same]
  exact sound.numbered y my

/-- Running what is due keeps who there is. -/
lemma settle (sound : Sound s) : Kept s s.settle := by
  have rung : Kept s s.ring := of_travels .ring
  have handed := deliver_handed (rung.sound sound).distinct
  exact rung.trans ⟨handed.sweepers, handed.tasks, handed.numbers, handed.ids,
    fun inv => inv.congr handed.flights⟩

end Kept

/-! ## Everything comes to rest -/

/-- When what is due has been run, a simulation is quiet. -/
lemma settle_quiet (sound : Sound s)
    (departed : ∀ y ∈ s.coordinator.flights, y.departed.isSome = true) : Quiet s.settle := by
  have travels : Travels s s.ring := .ring
  have handed := deliver_handed ((Kept.of_travels travels).sound sound).distinct
  constructor
  case alarms =>
    intro a ma
    have ma : a ∈ s.ring.alarms := handed.alarms ▸ ma
    rw [← ring_alarms sound.intervals a ma]
    simp only [isDue, settle, handed.now]
  case callers =>
    intro x mx f waits
    by_contra left
    exact absurd (handed.waiting x mx f waits left) List.not_mem_nil
  case flights =>
    intro y my
    have my : y ∈ s.ring.coordinator.flights := handed.flights.flights ▸ my
    cases d : y.departed with
    | some t => rfl
    | none => rw [← d]; exact departed y (travels.flights y my d)

/-- A flight that has embarked has departed. -/
lemma embark_flights (inv : Orderly s.coordinator) :
    ∀ y ∈ (s.embark f).coordinator.flights, y.departed = none →
      y ∈ s.coordinator.flights ∧ y.id ≠ f := by
  intro y my fresh
  have asked := (Travels.of_flies .board).flights y my fresh
  obtain ⟨my, apart⟩ := (depart_leaves s.now f s.coordinator).2 y asked fresh
  exact ⟨my, apart inv⟩

/-- Every flight departs that is told to. -/
lemma embark_all {fresh : List Flight} (inv : Orderly s.coordinator)
    (told : ∀ y ∈ s.coordinator.flights, y.departed = none → y ∈ fresh) :
    Kept s (fresh.foldl (fun s y => s.embark y.id) s) ∧
      ∀ y ∈ (fresh.foldl (fun s y => s.embark y.id) s).coordinator.flights,
        y.departed.isSome = true := by
  -- On those that are told to depart: the first of them has done so, and the others are still told.
  induction fresh generalizing s with
  | nil =>
    refine ⟨.refl, fun y my => ?_⟩
    rw [← Option.ne_none_iff_isSome]
    exact fun d => List.not_mem_nil (told y my d)
  | cons x fresh ih =>
    have embarked : Kept s (s.embark x.id) := .of_travels (.of_flies .embark)
    obtain ⟨kept, departed⟩ := ih (embarked.orderly inv) fun y my d => by
      obtain ⟨my, ne⟩ := embark_flights inv y my d
      rcases List.mem_cons.1 (told y my d) with rfl | my
      · exact absurd rfl ne
      · exact my
    exact ⟨embarked.trans kept, departed⟩

/-- When callers have been launched, a simulation is quiet. -/
lemma launch_quiet (sound : Sound s) (ids : List Nat) :
    Kept s (s.launch ids) ∧ Quiet (s.launch ids) := by
  have polled : Kept s (ids.foldl (fun s id => s.happen (.poll id)) s) :=
    .foldl fun s id => .happen fun _ _ => by simp
  have told (t : Simulation) : ∀ y ∈ t.coordinator.flights, y.departed = none →
      y ∈ t.coordinator.flights.filter (·.departed.isNone) := fun y my d =>
    List.mem_filter.2 ⟨my, by rw [d]; rfl⟩
  obtain ⟨embarked, departed⟩ := embark_all (polled.orderly sound.orderly) (told _)
  have kept := polled.trans embarked
  exact ⟨kept.trans (.settle (kept.sound sound)), settle_quiet (kept.sound sound) departed⟩

/-- What is quiet stays so as long as nothing wakes. -/
lemma Quiet.congr (q : Quiet s) (alarms : ∀ a ∈ s'.alarms, s'.isDue a = false)
    (callers : ∀ x ∈ s'.coordinator.callers, ∀ f, x.stage = .waiting f → x ∈ s.coordinator.callers)
    (flights : SameFlights s.coordinator s'.coordinator) : Quiet s' := by
  refine ⟨alarms, fun x mx f waits => ?_, flights.flights ▸ q.flights⟩
  rw [outcome?_congr flights]
  exact q.callers x (callers x mx f waits) f waits

/-- A millisecond passes, and what is due after it is run. -/
def tick (s : Simulation) : Simulation :=
  let s := s.happen (.elapse 1)
  if s.alarms.any s.isDue then s.settle else s

/-- Time passes one millisecond after the other. -/
lemma advance_succ (ms : Nat) : s.advance (ms + 1) = s.tick.advance ms := rfl

/-- A moment at which nothing is due is as quiet as the one before. -/
lemma elapse_quiet (q : Quiet s)
    (none_due : ¬ (s.happen (.elapse 1)).alarms.any (s.happen (.elapse 1)).isDue = true) :
    Quiet (s.happen (.elapse 1)) :=
  q.congr (by simpa using none_due) (fun _ mx _ _ => mx) .refl

/-- After every millisecond a simulation is quiet. -/
lemma tick_quiet (sound : Sound s) (q : Quiet s) : Kept s s.tick ∧ Quiet s.tick := by
  have later : Kept s (s.happen (.elapse 1)) := ⟨rfl, rfl, rfl, rfl, id⟩
  have sound' := later.sound sound
  simp only [tick]
  split
  · exact ⟨later.trans (.settle sound'), settle_quiet sound' q.flights⟩
  case isFalse none_due => exact ⟨later, elapse_quiet q none_due⟩

/-- However much time passes, a simulation is quiet after it. -/
lemma advance_quiet (sound : Sound s) (q : Quiet s) (ms : Nat) :
    Kept s (s.advance ms) ∧ Quiet (s.advance ms) := by
  induction ms generalizing s with
  | zero => exact ⟨.refl, q⟩
  | succ ms ih =>
    obtain ⟨ticked, quiet⟩ := tick_quiet sound q
    obtain ⟨kept, quiet⟩ := ih (ticked.sound sound) quiet
    rw [advance_succ]
    exact ⟨ticked.trans kept, quiet⟩

end EdgeCache.Simulation
