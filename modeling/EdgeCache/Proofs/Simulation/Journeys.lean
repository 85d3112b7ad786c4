import EdgeCache.Proofs.Simulation.Play

/-!
# Journeys and alarms

Every flight that has departed is followed: its journey says until when it may take, and alarms are
set for that moment and for the answer, if this is under way. Alarms that are about to be set, or
that are just ringing, count as well: they are owed.
-/

namespace EdgeCache

/-- A flight goes on. -/
def Event.isFlight : Event → Bool
  | .depart _ => true
  | .land _ _ => true
  | _ => false

namespace Coordinator

variable {setup : Setup} {now : Nat} {c c' : Coordinator} {ev : Event}

/-- Where no flight goes on, those that have departed are left alone. -/
lemma Traffic.underway {y} (tr : Traffic setup now c ev c') (ground : ev.isFlight = false)
    (asked : y.departed.isSome = true) : y ∈ c'.flights ↔ y ∈ c.flights := by
  cases tr with
  | same s => rw [s.flights]
  | dispatched _ _ _ _ _ _ s =>
    rw [s.flights, Coordinator.dispatched, List.mem_append, List.mem_singleton]
    refine ⟨fun m => m.resolve_right ?_, .inl⟩
    rintro rfl
    cases asked
  | departed => cases ground
  | landed => cases ground

end Coordinator

namespace Simulation

open Coordinator

variable {s s' : Simulation} {f : FlightId} {owed : List Alarm}

/-- A flight that departed at a time is on its way, and alarms are set for its end. -/
structure Followed (s : Simulation) (alarms : List Alarm) (f : FlightId) (t : Nat) (j : Journey) :
    Prop where
  journey : s.journey? f = some j
  deadline : j.expiresAt = t + s.setup.patience
  expires : ⟨j.expiresAt, .flight f⟩ ∈ alarms
  answers : ∀ due, j.place = .underway due → ⟨due, .flight f⟩ ∈ alarms

/-- The journeys are those of the flights that have departed, and each of these is followed. -/
structure Tracked (s : Simulation) (owed : List Alarm) : Prop where
  known : ∀ j ∈ s.journeys, ∃ y ∈ s.coordinator.flights,
    y.id = j.flight ∧ y.departed.isSome = true
  followed : ∀ y ∈ s.coordinator.flights, ∀ t, y.departed = some t →
    ∃ j, Followed s (s.alarms ++ owed) y.id t j

namespace Tracked

/-- Where the same flights have departed, and no alarm is missing, all are tracked as before. -/
lemma congr {owed' : List Alarm} (tr : Tracked s owed) (setup : s'.setup = s.setup)
    (journeys : s'.journeys = s.journeys) (alarms : s.alarms ++ owed ⊆ s'.alarms ++ owed')
    (flights : ∀ y, y.departed.isSome = true →
      (y ∈ s'.coordinator.flights ↔ y ∈ s.coordinator.flights)) : Tracked s' owed' := by
  constructor
  · intro j mj
    obtain ⟨y, my, same, asked⟩ := tr.known j (journeys ▸ mj)
    exact ⟨y, (flights y asked).2 my, same, asked⟩
  · intro y my t d
    have asked : y.departed.isSome = true := by rw [d]; rfl
    obtain ⟨j, journey, deadline, expires, answers⟩ := tr.followed y ((flights y asked).1 my) t d
    refine ⟨j, ?_, ?_, alarms expires, fun due place => alarms (answers due place)⟩
    · rw [journey?, journeys]
      exact journey
    · rw [setup]
      exact deadline

/-- What changes neither the cache nor the journeys nor the alarms loses nobody. -/
lemma aside (tr : Tracked s owed) (setup : s'.setup = s.setup) (edge : s'.edge = s.edge)
    (journeys : s'.journeys = s.journeys) (alarms : s'.alarms = s.alarms) : Tracked s' owed :=
  tr.congr setup journeys (by rw [alarms]; exact List.Subset.refl _)
    fun y _ => by rw [coordinator, edge]; rfl

/-- An event that is none of a flight loses nobody. -/
lemma happen {ev : Event} (tr : Tracked s owed) (ground : ev.isFlight = false) :
    Tracked (s.happen ev) owed :=
  tr.congr rfl rfl (List.Subset.refl _)
    fun _ asked => (step_shift s.setup s.edge ev).traffic.underway ground asked

/-- Another alarm loses nobody. -/
lemma setAlarm {due : Nat} {w : Sleeper} (tr : Tracked s owed) :
    Tracked (s.setAlarm due w) owed := by
  refine tr.congr rfl rfl (fun a m => ?_) fun _ _ => .rfl
  rcases List.mem_append.1 m with m | m
  · exact List.mem_append_left _ (List.mem_append_left _ m)
  · exact List.mem_append_right _ m

/-- An alarm is not owed that nobody waits for. -/
lemma drop {a : Alarm} (tr : Tracked s (a :: owed))
    (idle : ∀ f j, a.wakes = .flight f → s.journey? f = some j →
      a.due ≠ j.expiresAt ∧ j.place ≠ .underway a.due) : Tracked s owed := by
  refine ⟨tr.known, fun y my t d => ?_⟩
  obtain ⟨j, journey, deadline, expires, answers⟩ := tr.followed y my t d
  have other (due : Nat) (m : ⟨due, .flight y.id⟩ ∈ s.alarms ++ a :: owed)
      (ne : a ≠ ⟨due, .flight y.id⟩) : ⟨due, .flight y.id⟩ ∈ s.alarms ++ owed := by
    rcases List.mem_append.1 m with m | m
    · exact List.mem_append_left _ m
    · rcases List.mem_cons.1 m with rfl | m
      · exact absurd rfl ne
      · exact List.mem_append_right _ m
  refine ⟨j, journey, deadline, other _ expires ?_, fun due place => other _ (answers due place) ?_⟩
  · rintro rfl
    exact (idle y.id j rfl journey).1 rfl
  · rintro rfl
    exact (idle y.id j rfl journey).2 place

/-- An alarm that is owed can be set. -/
lemma set {a : Alarm} (tr : Tracked s (a :: owed)) : Tracked (s.setAlarm a.due a.wakes) owed := by
  refine tr.congr rfl rfl (fun b m => ?_) fun _ _ => .rfl
  simp only [Simulation.setAlarm, List.append_assoc, List.singleton_append]
  exact m

end Tracked

/-! ## Flights land -/

/-- A flight that can land is the only one that goes. -/
lemma mem_land_flights {how : Landing} {y : Flight} (inv : Orderly s.coordinator)
    (can : ∀ y ∈ s.coordinator.flights, y.id = f → canLand s.setup s.now how y = true) :
    y ∈ (s.land f how).coordinator.flights ↔ y ∈ s.coordinator.flights ∧ y.id ≠ f := by
  cases h : s.coordinator.flight? f with
  | none =>
    have still : (s.land f how).coordinator = s.coordinator := by
      have here : s.edge.coordinator.flight? f = none := h
      simp only [land, happen, coordinator, Edge.step, Edge.act, Coordinator.land, here]
    rw [still]
    refine ⟨fun my => ⟨my, ?_⟩, And.left⟩
    rintro rfl
    rw [inv.flight?_iff.2 ⟨my, rfl⟩] at h
    cases h
  | some x =>
    obtain ⟨mx, rfl⟩ := inv.flight?_iff.1 h
    have landed : (s.land x.id how).coordinator = s.coordinator.landing s.now x.id how :=
      land_eq h (can x mx rfl)
    rw [landed, landing_flights.flights]
    simp only [close, List.mem_filter, bne_iff_ne, ne_eq]

/-- A flight that has not departed does not land. -/
lemma land_fresh {how : Landing} {y : Flight} (inv : Orderly s.coordinator)
    (my : y ∈ s.coordinator.flights) (fresh : y.departed = none) :
    y ∈ (s.land f how).coordinator.flights := by
  have sh := step_shift s.setup s.edge (.land f how)
  have tr := sh.traffic
  generalize landed : (s.land f how).coordinator = c
  have eq : (s.edge.step s.setup (.land f how)).coordinator = c := landed
  rw [eq] at tr
  cases tr with
  | same same => exact same.flights ▸ my
  | @landed _ _ x o _ hx can same =>
    rw [same.flights]
    refine List.mem_filter.2 ⟨my, ?_⟩
    simp only [bne_iff_ne, ne_eq]
    intro e
    obtain ⟨mx, rfl⟩ := inv.flight?_iff.1 hx
    obtain rfl := inv.unique my mx (congrArg FlightId.key e)
    have asked := departed_of_canLand can
    rw [fresh] at asked
    cases asked

/-- A script does not end a flight for want of patience. -/
lemma canLand_script {setup : Setup} {now : Nat} {script : Script} {y : Flight}
    (asked : y.departed.isSome = true) : canLand setup now script.landing y = true := by
  obtain ⟨t, d⟩ := Option.isSome_iff_exists.1 asked
  simp only [Script.landing]
  split
  · simp only [canLand, d]
  · split <;> simp only [canLand, d]

/-- Whoever does not land stays where it is. -/
lemma journey?_land {how : Landing} {g : FlightId} (ne : g ≠ f) :
    (s.land f how).journey? g = s.journey? g := by
  refine find?_filter_spared fun j here => ?_
  rw [beq_iff_eq] at here
  rw [bne_iff_ne, here]
  exact ne

namespace Tracked

/-- Whoever lands is followed no more, and the others still are. -/
lemma land {how : Landing} (tr : Tracked s owed) (inv : Orderly s.coordinator)
    (can : ∀ y ∈ s.coordinator.flights, y.id = f → canLand s.setup s.now how y = true) :
    Tracked (s.land f how) owed := by
  constructor
  · intro j mj
    obtain ⟨mj, ne⟩ := List.mem_filter.1 mj
    obtain ⟨y, my, same, asked⟩ := tr.known j mj
    refine ⟨y, (mem_land_flights inv can).2 ⟨my, ?_⟩, same, asked⟩
    rw [same]
    exact bne_iff_ne.1 ne
  · intro y my t d
    obtain ⟨my, ne⟩ := (mem_land_flights inv can).1 my
    obtain ⟨j, journey, deadline, expires, answers⟩ := tr.followed y my t d
    exact ⟨j, (journey?_land ne).trans journey, deadline, expires, answers⟩

/-- A flight that is on its way can land as its script says. -/
lemma land_script (tr : Tracked s owed) (inv : Orderly s.coordinator) {script : Script}
    (on_way : ∃ j ∈ s.journeys, j.flight = f) : Tracked (s.land f script.landing) owed := by
  refine tr.land inv fun y my same => canLand_script ?_
  obtain ⟨j, mj, rfl⟩ := on_way
  obtain ⟨z, mz, same', asked⟩ := tr.known j mj
  rw [inv.unique my mz (congrArg FlightId.key (same.trans same'.symm))]
  exact asked

/-- A flight that passes its gate is followed to its answer. -/
lemma travel {delay : Option Nat} (tr : Tracked s owed) (inv : Orderly s.coordinator)
    (on_way : ∃ j ∈ s.journeys, j.flight = f) : Tracked (s.travel f delay) owed := by
  cases delay with
  | none => exact tr.land_script inv on_way
  | some d =>
    have find (g : FlightId) :
        (s.travel f (some d)).journey? g = (s.journey? g).map fun j =>
          if j.flight = f then { j with place := .underway (s.now + d) } else j := by
      have keeps : ((fun j : Journey => j.flight == g) ∘ fun j =>
          if j.flight = f then { j with place := .underway (s.now + d) } else j) =
          fun j => j.flight == g := by
        funext j
        simp only [Function.comp_apply]
        split <;> rfl
      simp only [Simulation.travel, Simulation.setAlarm, journey?, List.find?_map, keeps]
    have set {a : Alarm} (m : a ∈ s.alarms ++ owed) :
        a ∈ (s.travel f (some d)).alarms ++ owed := by
      rcases List.mem_append.1 m with m | m
      · exact List.mem_append_left _ (List.mem_append_left _ m)
      · exact List.mem_append_right _ m
    constructor
    · intro j mj
      obtain ⟨i, mi, rfl⟩ := List.mem_map.1 mj
      obtain ⟨y, my, same, asked⟩ := tr.known i mi
      refine ⟨y, my, ?_, asked⟩
      rw [same]
      split <;> rfl
    · intro y my t departed
      obtain ⟨j, journey, deadline, expires, answers⟩ := tr.followed y my t departed
      by_cases same : j.flight = f
      · refine ⟨{ j with place := .underway (s.now + d) }, ?_, deadline, set expires, ?_⟩
        · rw [find, journey, Option.map_some, if_pos same]
        · rintro due ⟨⟩
          have here : j.flight = y.id := by simpa using List.find?_some journey
          rw [← here, same]
          exact List.mem_append_left _ (List.mem_append_right _ List.mem_cons_self)
      · refine ⟨j, ?_, deadline, set expires, fun due place => set (answers due place)⟩
        rw [find, journey, Option.map_some, if_neg same]

/-- Whoever a permit lets pass is followed. -/
lemma openGate {key : String} (tr : Tracked s owed) (inv : Orderly s.coordinator) :
    Tracked (s.openGate key) owed := by
  simp only [Simulation.openGate]
  split
  case h_1 g delay n waiting _ =>
    obtain ⟨j, mj, found⟩ := List.exists_of_findSome?_eq_some waiting
    have here : j.flight = g := by
      split at found
      · split at found
        · cases found
          rfl
        · cases found
      · cases found
    have permitted : Tracked { s with origin := s.origin.setPermits key n } owed :=
      tr.aside rfl rfl rfl rfl
    exact permitted.travel inv ⟨j, mj, here⟩
  case h_2 => exact tr

end Tracked

/-! ## Flights depart -/

/-- A flight that has not departed is left alone by those that travel. -/
lemma travel_fresh {delay : Option Nat} {y : Flight} (inv : Orderly s.coordinator)
    (my : y ∈ s.coordinator.flights) (fresh : y.departed = none) :
    y ∈ (s.travel f delay).coordinator.flights := by
  cases delay with
  | none => exact land_fresh inv my fresh
  | some d => exact my

/-- No permit ends a flight that has not departed. -/
lemma openGate_fresh {key : String} {y : Flight} (inv : Orderly s.coordinator)
    (my : y ∈ s.coordinator.flights) (fresh : y.departed = none) :
    y ∈ (s.openGate key).coordinator.flights := by
  have permitted (n : Nat) :
      y ∈ ({ s with origin := s.origin.setPermits key n } : Simulation).coordinator.flights := my
  simp only [openGate]
  split
  · exact travel_fresh inv (permitted _) fresh
  · exact my

/-- The simulation once a flight has asked the origin and stands at its gate. -/
def board (s : Simulation) (f : FlightId) : Simulation :=
  { s.happen (.depart f) with
    journeys := s.journeys ++
      [⟨f, .atGate (s.origin.script f.key).delay, s.now + s.setup.patience⟩] }

/-- The simulation once the flight has gone as far as it gets. -/
def leave (s : Simulation) (f : FlightId) : Simulation :=
  if (s.origin.script f.key).gated then s.openGate f.key.text
  else s.travel f (s.origin.script f.key).delay

/-- A flight boards, goes as far as it gets, and has its alarm set if it is on its way then. -/
lemma embark_eq :
    s.embark f = if (((s.board f).leave f).journey? f).isSome then
      ((s.board f).leave f).setAlarm (s.now + s.setup.patience) (.flight f)
    else (s.board f).leave f := rfl

/-- Going on ends no flight that has not departed. -/
lemma leave_fresh {y : Flight} (inv : Orderly s.coordinator) (my : y ∈ s.coordinator.flights)
    (fresh : y.departed = none) : y ∈ (s.leave f).coordinator.flights := by
  simp only [leave]
  split
  · exact openGate_fresh inv my fresh
  · exact travel_fresh inv my fresh

/-- Boarding marks one flight as departed and leaves the others. -/
lemma board_flights {x : Flight} (inv : Orderly s.coordinator) (mx : x ∈ s.coordinator.flights)
    (fresh : x.departed = none) :
    (s.board x.id).coordinator.flights = s.coordinator.flights.map fun y =>
      if y.id = x.id then { y with departed := some s.now } else y := by
  have eq : (s.board x.id).coordinator = s.coordinator.departing s.now x.id :=
    depart_eq (inv.flight?_iff.2 ⟨mx, rfl⟩) fresh
  rw [eq]
  rfl

/-- A flight that embarks leaves those alone that have not. -/
lemma embark_fresh {x y : Flight} (inv : Orderly s.coordinator) (mx : x ∈ s.coordinator.flights)
    (unasked : x.departed = none) (my : y ∈ s.coordinator.flights) (fresh : y.departed = none)
    (ne : y.id ≠ x.id) : y ∈ (s.embark x.id).coordinator.flights := by
  have my' : y ∈ (s.board x.id).coordinator.flights := by
    rw [board_flights inv mx unasked]
    exact List.mem_map.2 ⟨y, my, if_neg ne⟩
  have inv' : Orderly (s.board x.id).coordinator :=
    (step_shift s.setup s.edge (.depart x.id)).traffic.orderly inv
  rw [embark_eq]
  split
  · exact leave_fresh inv' my' fresh
  · exact leave_fresh inv' my' fresh

namespace Tracked

/-- A flight that asks the origin begins its journey, and its alarm is owed. -/
lemma board {x : Flight} (tr : Tracked s owed) (inv : Orderly s.coordinator)
    (mx : x ∈ s.coordinator.flights) (fresh : x.departed = none) :
    Tracked (s.board x.id) (⟨s.now + s.setup.patience, .flight x.id⟩ :: owed) := by
  have flights := board_flights inv mx fresh
  -- No journey is that of a flight which has not departed.
  have apart : ∀ j ∈ s.journeys, j.flight ≠ x.id := by
    intro j mj same
    obtain ⟨y, my, here, asked⟩ := tr.known j mj
    obtain rfl := inv.unique my mx (congrArg FlightId.key (here.trans same))
    rw [fresh] at asked
    cases asked
  constructor
  · intro j mj
    rcases List.mem_append.1 mj with mj | mj
    · obtain ⟨y, my, here, asked⟩ := tr.known j mj
      refine ⟨y, ?_, here, asked⟩
      rw [flights]
      exact List.mem_map.2 ⟨y, my, if_neg (here ▸ apart j mj)⟩
    · rw [List.mem_singleton.1 mj]
      refine ⟨{ x with departed := some s.now }, ?_, rfl, rfl⟩
      rw [flights]
      exact List.mem_map.2 ⟨x, mx, if_pos rfl⟩
  · intro y my t d
    rw [flights] at my
    obtain ⟨z, mz, rfl⟩ := List.mem_map.1 my
    by_cases same : z.id = x.id
    · obtain rfl := inv.unique mz mx (congrArg FlightId.key same)
      rw [if_pos rfl] at d
      cases d
      refine ⟨⟨z.id, .atGate (s.origin.script z.id.key).delay, s.now + s.setup.patience⟩, ?_, rfl,
        ?_, fun due place => ?_⟩
      · have unknown : s.journeys.find? (·.flight == z.id) = none := by
          simpa using apart
        simp only [if_true, journey?, Simulation.board, List.find?_append, unknown]
        simp
      · rw [if_pos rfl]
        exact List.mem_append_right _ List.mem_cons_self
      · cases place
    · rw [if_neg same] at d ⊢
      obtain ⟨j, journey, deadline, expires, answers⟩ := tr.followed z mz t d
      have more {a : Alarm} (m : a ∈ s.alarms ++ owed) :
          a ∈ (s.board x.id).alarms ++ ⟨s.now + s.setup.patience, .flight x.id⟩ :: owed := by
        rcases List.mem_append.1 m with m | m
        · exact List.mem_append_left _ m
        · exact List.mem_append_right _ (List.mem_cons_of_mem _ m)
      refine ⟨j, ?_, deadline, more expires, fun due place => more (answers due place)⟩
      have found : s.journeys.find? (·.flight == z.id) = some j := journey
      simp only [journey?, Simulation.board, List.find?_append, found, Option.some_or]

/-- A flight that goes on is followed. -/
lemma leave (tr : Tracked s owed) (inv : Orderly s.coordinator)
    (on_way : ∃ j ∈ s.journeys, j.flight = f) : Tracked (s.leave f) owed := by
  simp only [Simulation.leave]
  split
  · exact tr.openGate inv
  · exact tr.travel inv on_way

/-- A flight that asks the origin is followed from then on. -/
lemma embark {x : Flight} (tr : Tracked s owed) (inv : Orderly s.coordinator)
    (mx : x ∈ s.coordinator.flights) (fresh : x.departed = none) :
    Tracked (s.embark x.id) owed := by
  have inv' : Orderly (s.board x.id).coordinator :=
    (step_shift s.setup s.edge (.depart x.id)).traffic.orderly inv
  have gone := (tr.board inv mx fresh).leave inv' (f := x.id)
    ⟨_, List.mem_append_right _ List.mem_cons_self, rfl⟩
  rw [embark_eq]
  split
  case isTrue => exact gone.set
  case isFalse ended =>
    refine gone.drop fun f j wakes journey => ?_
    cases wakes
    rw [journey] at ended
    exact absurd rfl ended

/-- Every flight departs that is told to. -/
lemma embark_all {fresh : List Flight} (tr : Tracked s owed) (inv : Orderly s.coordinator)
    (nodup : (fresh.map Flight.id).Nodup)
    (told : ∀ y ∈ fresh, y ∈ s.coordinator.flights ∧ y.departed = none) :
    Tracked (fresh.foldl (fun s y => s.embark y.id) s) owed := by
  induction fresh generalizing s with
  | nil => exact tr
  | cons x fresh ih =>
    obtain ⟨mx, unasked⟩ := told x List.mem_cons_self
    obtain ⟨apart, nodup⟩ := List.nodup_cons.1 nodup
    refine ih (tr.embark inv mx unasked) ((Travels.of_flies .embark).orderly inv) nodup fun y my => ?_
    obtain ⟨my', unasked'⟩ := told y (List.mem_cons_of_mem _ my)
    refine ⟨embark_fresh inv mx unasked my' unasked' ?_, unasked'⟩
    intro same
    exact apart (same ▸ List.mem_map_of_mem my)

end Tracked

/-! ## Alarms ring -/

/-- How a flight ends if it is woken at this moment; nothing if it does not. -/
def ends? (s : Simulation) (j : Journey) : Option Landing :=
  match j.place with
  | .atGate _ => if j.expiresAt ≤ s.now then some .timedOut else none
  | .underway due =>
    if due ≤ s.now then some (s.origin.script j.flight.key).landing
    else if j.expiresAt ≤ s.now then some .timedOut
    else none

/-- A flight that is woken lands or goes on. -/
lemma wakeFlight_eq {j : Journey} (h : s.journey? f = some j) :
    s.wakeFlight f =
      match s.ends? j with
      | some how => s.land f how
      | none => s := by
  have here : j.flight = f := by simpa using List.find?_some h
  subst here
  simp only [wakeFlight, h, ends?]
  cases j.place with
  | atGate delay =>
    by_cases late : j.expiresAt ≤ s.now
    · simp only [late, if_true]
    · simp only [late, if_false]
  | underway due =>
    by_cases arrived : due ≤ s.now
    · simp only [arrived, if_true]
    · by_cases late : j.expiresAt ≤ s.now
      · simp only [arrived, late, if_true, if_false]
      · simp only [arrived, late, if_false]

/-- A flight that goes on waits for a later alarm. -/
lemma later_of_ends?_none {j : Journey} {due : Nat} (goes : s.ends? j = none) (rung : due ≤ s.now) :
    due ≠ j.expiresAt ∧ j.place ≠ .underway due := by
  simp only [ends?] at goes
  split at goes
  case h_1 delay place =>
    split at goes
    · cases goes
    case isFalse later =>
      refine ⟨?_, fun eq => ?_⟩
      · rintro rfl
        exact later rung
      · rw [place] at eq
        cases eq
  case h_2 due' place =>
    split at goes
    · cases goes
    case isFalse unanswered =>
      split at goes
      · cases goes
      case isFalse later =>
        refine ⟨?_, fun eq => ?_⟩
        · rintro rfl
          exact later rung
        · rw [place] at eq
          cases eq
          exact unanswered rung

/-- Where a flight ends as it is due, it can end so. -/
lemma Tracked.ends {j : Journey} {how : Landing} (tr : Tracked s owed)
    (h : s.journey? f = some j) (due : s.ends? j = some how) :
    ∃ y ∈ s.coordinator.flights, y.id = f ∧ canLand s.setup s.now how y = true := by
  have here : j.flight = f := by simpa using List.find?_some h
  obtain ⟨y, my, same, asked⟩ := tr.known j (List.mem_of_find?_eq_some h)
  obtain ⟨t, d⟩ := Option.isSome_iff_exists.1 asked
  obtain ⟨i, journey, deadline, _⟩ := tr.followed y my t d
  rw [same, here, h] at journey
  cases journey
  refine ⟨y, my, same.trans here, ?_⟩
  have expired (late : j.expiresAt ≤ s.now) : canLand s.setup s.now .timedOut y = true := by
    rw [deadline] at late
    exact (canLand_timedOut_iff d).2 late
  simp only [ends?] at due
  split at due
  · split at due
    case isTrue late =>
      cases due
      exact expired late
    · cases due
  · split at due
    · cases due
      exact canLand_script asked
    · split at due
      case isTrue late =>
        cases due
        exact expired late
      · cases due

namespace Tracked

/-- An alarm that has rung is not missed, since whoever it was set for has looked at the clock. -/
lemma wake {a : Alarm} (tr : Tracked s (a :: owed)) (inv : Orderly s.coordinator)
    (rung : a.due ≤ s.now) : Tracked (s.wake a.wakes) owed := by
  obtain ⟨due, w⟩ := a
  cases w with
  | sweeper number =>
    have silent : Tracked s owed := tr.drop fun f j wakes => by cases wakes
    simp only [Simulation.wake, wakeSweeper]
    split
    · exact silent
    · refine Tracked.setAlarm ?_
      simp only [sweepOnce]
      split
      · exact silent
      · exact silent.happen rfl
  | flight f =>
    simp only [Simulation.wake]
    cases h : s.journey? f with
    | none =>
      have asleep : s.wakeFlight f = s := by simp only [wakeFlight, h]
      rw [asleep]
      refine tr.drop fun g j wakes journey => ?_
      cases wakes
      rw [h] at journey
      cases journey
    | some j =>
      rw [wakeFlight_eq h]
      cases ends : s.ends? j with
      | none =>
        refine tr.drop fun g i wakes journey => ?_
        cases wakes
        rw [h] at journey
        cases journey
        exact later_of_ends?_none ends rung
      | some how =>
        obtain ⟨y, my, rfl, can⟩ := tr.ends h ends
        have only : ∀ z ∈ s.coordinator.flights, z.id = y.id →
            canLand s.setup s.now how z = true := by
          intro z mz same
          obtain rfl := inv.unique mz my (congrArg FlightId.key same)
          exact can
        refine (tr.land inv only).drop fun g i wakes journey => ?_
        cases wakes
        have gone := (List.mem_filter.1 (List.mem_of_find?_eq_some journey)).2
        have here : i.flight = y.id := by simpa using List.find?_some journey
        rw [here] at gone
        simp at gone

/-- When all that rang have been woken, nobody is missed. -/
lemma wake_all (tr : Tracked s owed) (inv : Orderly s.coordinator)
    (rung : ∀ a ∈ owed, a.due ≤ s.now) :
    Tracked (owed.foldl (fun s a => s.wake a.wakes) s) [] := by
  induction owed generalizing s with
  | nil => exact tr
  | cons a owed ih =>
    have woken : Travels s (s.wake a.wakes) := .wake
    refine ih (tr.wake inv (rung a List.mem_cons_self)) (woken.orderly inv) fun b mb => ?_
    rw [woken.now]
    exact rung b (List.mem_cons_of_mem _ mb)

/-- Alarms that ring are owed. -/
lemma hush (tr : Tracked s []) :
    Tracked { s with alarms := s.alarms.filter fun a => !s.isDue a } (s.alarms.filter s.isDue) := by
  refine tr.congr rfl rfl (fun a m => ?_) fun _ _ => .rfl
  rw [List.append_nil] at m
  cases due : s.isDue a with
  | true => exact List.mem_append_right _ (List.mem_filter.2 ⟨m, due⟩)
  | false => exact List.mem_append_left _ (List.mem_filter.2 ⟨m, by rw [due]; rfl⟩)

/-- What rings is woken, so nobody is missed. -/
lemma ring (tr : Tracked s []) (inv : Orderly s.coordinator) : Tracked s.ring [] := by
  refine tr.hush.wake_all inv fun a ma => ?_
  have due : s.isDue a = true := (List.mem_filter.1 ma).2
  exact of_decide_eq_true due

/-- Running what is due loses nobody. -/
lemma settle (tr : Tracked s []) (inv : Orderly s.coordinator) : Tracked s.settle [] := by
  refine List.foldlRecOn (motive := fun t => Tracked t []) _ _ (tr.ring inv) fun t tracked x _ => ?_
  split
  · exact tracked.happen rfl
  · exact tracked

/-! ## Commands -/

/-- New callers and their flights are followed. -/
lemma launch (tr : Tracked s []) (inv : Orderly s.coordinator) (ids : List Nat) :
    Tracked (s.launch ids) [] := by
  have run : Kept s (ids.foldl (fun s id => s.happen (.poll id)) s) :=
    .foldl fun s id => .happen fun _ _ => by simp
  have polled : Tracked (ids.foldl (fun s id => s.happen (.poll id)) s) [] :=
    List.foldlRecOn (motive := fun t => Tracked t []) ids _ tr fun t tracked id _ => tracked.happen rfl
  simp only [Simulation.launch]
  generalize ids.foldl (fun s id => s.happen (.poll id)) s = t at run polled ⊢
  have inv' := run.orderly inv
  have embarked : Kept t ((t.coordinator.flights.filter (·.departed.isNone)).foldl
      (fun s y => s.embark y.id) t) := .foldl fun _ _ => .of_travels (.of_flies .embark)
  refine (polled.embark_all inv' ?_ fun y my => ?_).settle (embarked.orderly inv')
  · exact inv'.ids_nodup.sublist (List.filter_sublist.map _)
  · obtain ⟨my, fresh⟩ := List.mem_filter.1 my
    exact ⟨my, Option.isNone_iff_eq_none.1 fresh⟩

/-- A task that is started loses nobody. -/
lemma enlist {ts : List Task} {request : Option String × Request} (tr : Tracked s []) :
    Tracked (Simulation.enlist (ts, s) request).2 [] := by
  obtain ⟨name?, r⟩ := request
  have added : Tracked (s.addTask r).2 [] := by
    cases d : s.demand r with
    | error a =>
      rw [addTask_error d]
      exact tr
    | ok call =>
      rw [addTask_ok d]
      have called : Tracked (s.happen (.call s.callers call.1)) [] := tr.happen rfl
      exact called.aside rfl rfl rfl rfl
  cases name? with
  | none => exact added
  | some name => exact added.aside rfl rfl rfl rfl

/-- A millisecond loses nobody. -/
lemma tick (tr : Tracked s []) (inv : Orderly s.coordinator) : Tracked s.tick [] := by
  have later : Tracked (s.happen (.elapse 1)) [] := tr.happen rfl
  simp only [Simulation.tick]
  split
  · exact later.settle inv
  · exact later

/-- Nor does any time. -/
lemma advance (tr : Tracked s []) (sound : Sound s) (q : Quiet s) (ms : Nat) :
    Tracked (s.advance ms) [] := by
  induction ms generalizing s with
  | zero => exact tr
  | succ ms ih =>
    obtain ⟨kept, quiet⟩ := tick_quiet sound q
    rw [advance_succ]
    exact ih (tr.tick sound.orderly) (kept.sound sound) quiet

/-- A command leaves every flight tracked. -/
theorem perform (tr : Tracked s []) (sound : Sound s) (q : Quiet s) (c : Command) :
    Tracked (s.perform c) [] := by
  cases c with
  | ask requests =>
    have enlisted := sound.enlist_all requests
    rw [perform_ask]
    refine Tracked.launch ?_ enlisted.orderly _
    refine List.foldlRecOn (motive := fun t : List Task × Simulation => Tracked t.2 []) requests _
      tr ?_
    rintro ⟨ts, t⟩ tracked request _
    exact tracked.enlist
  | poll name => exact tr
  | cancel name =>
    simp only [Simulation.perform, Simulation.cancel]
    split
    · exact tr.happen rfl
    · exact tr
  | script key script => exact tr.aside rfl rfl rfl rfl
  | disconnect => exact tr.aside rfl rfl rfl rfl
  | release key permits =>
    have permitted : Tracked
        { s with origin := s.origin.setPermits key (s.origin.permitsOf key + permits) } [] :=
      tr.aside rfl rfl rfl rfl
    have opened := Travels.of_flies (.release (s := s) key permits)
    exact (permitted.openGate sound.orderly).settle (opened.orderly sound.orderly)
  | advance ms => exact tr.advance sound q ms
  | startSweeper seconds =>
    have set : Tracked (s.setAlarm (s.now + 1000 * max 1 seconds) (.sweeper s.sweepersStarted)) [] :=
      tr.setAlarm
    exact set.aside rfl rfl rfl rfl
  | stopSweeper =>
    simp only [Simulation.perform, Simulation.stopSweeper]
    split
    · exact tr
    · exact tr.aside rfl rfl rfl rfl
  | sweepOnce =>
    simp only [Simulation.perform, Simulation.sweepOnce]
    split
    · exact tr
    · exact tr.happen rfl
  | reading script =>
    simp only [Simulation.perform, Simulation.script]
    split
    · exact tr
    · exact tr.happen rfl
  | writing script =>
    simp only [Simulation.perform, Simulation.script]
    split
    · exact tr
    · exact tr.happen rfl
  | put key entry => exact tr.happen rfl
  | get key => exact tr.happen rfl
  | sweep => exact tr.happen rfl
  | clear => exact tr.happen rfl

end Tracked

end Simulation

end EdgeCache
