import EdgeCache.Proofs.Coordinator.Independence
import EdgeCache.Proofs.Key
import EdgeCache.Simulation.Basic

/-!
# Simulations seen from one key

Two simulations that are alike for a key: their coordinators are, and so are the flights of the key
on their way, its script and its permits at the origin, and the alarms of its flights and of the
sweepers. Whatever is done for another key leaves a simulation alike, and what is done for the key or
for all of them is done in both.
-/

namespace EdgeCache.Simulation

/-- Whether an alarm is for a flight of a key, or for a sweeper, which works for all. -/
def Sleeper.concerns (k : Key) : Sleeper → Bool
  | .flight f => f.key == k
  | .sweeper _ => true

/-- Two simulations that are alike for a key. -/
structure Alike (k : Key) (twins : List (Nat × Nat)) (s s' : Simulation) : Prop where
  setup : s'.setup = s.setup
  router : s'.router = s.router
  plain : s'.plain = s.plain
  edge : Edge.Alike k twins s.edge s'.edge
  scripts : s'.origin.scripts.lookup k.text = s.origin.scripts.lookup k.text
  otherwise : s'.origin.otherwise k = s.origin.otherwise k
  permits : s'.origin.permitsOf k.text = s.origin.permitsOf k.text
  journeys : s'.journeys.filter (·.flight.key == k) = s.journeys.filter (·.flight.key == k)
  alarms : s'.alarms.filter (·.wakes.concerns k) = s.alarms.filter (·.wakes.concerns k)
  sweepers : s'.sweepers = s.sweepers
  started : s'.sweepersStarted = s.sweepersStarted
  sweeper : s'.sweeper = s.sweeper

/-- The first flight that waits at the gate of a key, and how long it travels from there. -/
def atGate? (js : List Journey) (key : String) : Option (FlightId × Option Nat) :=
  js.findSome? fun j =>
    match j.place with
    | .atGate delay => if j.flight.key.text = key then some (j.flight, delay) else none
    | .underway _ => none

/-- A gate opens for the first flight that waits there, and takes a permit for it. -/
lemma openGate_eq (s : Simulation) (key : String) :
    s.openGate key =
      match atGate? s.journeys key, s.origin.permitsOf key with
      | some (f, delay), n + 1 => travel { s with origin := s.origin.setPermits key n } f delay
      | _, _ => s := rfl

/-- Who waits at a gate does so for its key. -/
lemma atGate?_key {js : List Journey} {key : String} {f : FlightId} {delay : Option Nat}
    (h : atGate? js key = some (f, delay)) : f.key.text = key := by
  obtain ⟨j, _, at_gate⟩ := List.exists_of_findSome?_eq_some h
  split at at_gate
  · split at at_gate
    case isTrue eq =>
      cases at_gate
      exact eq
    case isFalse => cases at_gate
  · cases at_gate

/-- Only flights of its key wait at a gate. -/
lemma atGate?_filter {js : List Journey} {k : Key} :
    atGate? (js.filter (·.flight.key == k)) k.text = atGate? js k.text := by
  induction js with
  | nil => rfl
  | cons j js ih =>
    by_cases ej : j.flight.key = k
    · rw [List.filter_cons_of_pos (by simpa using ej)]
      simp only [atGate?, List.findSome?_cons] at ih ⊢
      rw [ih]
    · have ne : j.flight.key.text ≠ k.text := fun same => ej (Key.text_injective same)
      rw [List.filter_cons_of_neg (by simpa using ej), ih]
      cases place : j.place <;> simp [atGate?, place, ne]

namespace Alike

variable {k : Key} {twins : List (Nat × Nat)} {s s' : Simulation} {f : FlightId} {ev ev' : Event}

/-! ## What both have -/

/-- Neither side of a pair of simulations comes first. -/
lemma symm (a : Alike k twins s s') : Alike k (twins.map Prod.swap) s' s where
  setup := a.setup.symm
  router := a.router.symm
  plain := a.plain.symm
  edge := a.edge.symm
  scripts := a.scripts.symm
  otherwise := a.otherwise.symm
  permits := a.permits.symm
  journeys := a.journeys.symm
  alarms := a.alarms.symm
  sweepers := a.sweepers.symm
  started := a.started.symm
  sweeper := a.sweeper.symm

/-- What holds with the sides exchanged holds. -/
lemma of_symm (a : Alike k (twins.map Prod.swap) s' s) : Alike k twins s s' := by
  have twice : (twins.map Prod.swap).map Prod.swap = twins := by
    rw [List.map_map, Prod.swap_swap_eq, List.map_id]
  exact twice ▸ a.symm

/-- Both sides are at the same moment. -/
lemma now_eq (a : Alike k twins s s') : s'.now = s.now := a.edge.now

/-- The origin does the same with the key on both sides. -/
lemma script_eq (a : Alike k twins s s') : s'.origin.script k = s.origin.script k := by
  simp only [ScriptedOrigin.script, a.scripts, a.otherwise]

/-- A flight of the key is at the same place on both sides. -/
lemma journey?_eq (a : Alike k twins s s') (ek : f.key = k) : s'.journey? f = s.journey? f := by
  have find (l : List Journey) :
      l.find? (·.flight == f) = (l.filter (·.flight.key == k)).find? (·.flight == f) := by
    refine (find?_filter_spared fun j ej => ?_).symm
    obtain rfl : j.flight = f := by simpa using ej
    simpa using ek
  simp only [journey?, find s'.journeys, find s.journeys, a.journeys]

/-! ## One thing done -/

/-- An event about another key happens in one. -/
lemma skip_happen (a : Alike k twins s s') (other : ev.Spares k s.coordinator) :
    Alike k twins (s.happen ev) s' :=
  { a with edge := a.edge.skip s.setup other }

/-- An event that is the same for the key happens in both. -/
lemma happen (a : Alike k twins s s') (m : Edge.Matches k twins ev ev') :
    Alike k twins (s.happen ev) (s'.happen ev') := by
  have edge := a.edge.step s.setup m
  refine { a with edge := ?_ }
  simp only [Simulation.happen, a.setup]
  exact edge

/-- An alarm for a flight of another key concerns one side alone. -/
lemma skip_setAlarm (a : Alike k twins s s') {due : Nat} (ne : f.key ≠ k) :
    Alike k twins (s.setAlarm due (.flight f)) s' := by
  refine { a with alarms := a.alarms.trans ?_ }
  simp [Simulation.setAlarm, Sleeper.concerns, ne]

/-- An alarm can be set on both sides. -/
lemma setAlarm (a : Alike k twins s s') {due : Nat} {w : Sleeper} :
    Alike k twins (s.setAlarm due w) (s'.setAlarm due w) := by
  refine { a with alarms := ?_ }
  simp only [Simulation.setAlarm, List.filter_append, a.alarms]

/-- Journeys of other keys may change on one side alone. -/
lemma skip_reroute (a : Alike k twins s s') {js : List Journey}
    (same : js.filter (·.flight.key == k) = s.journeys.filter (·.flight.key == k)) :
    Alike k twins { s with journeys := js } s' :=
  { a with journeys := a.journeys.trans same.symm }

/-- Journeys may change on both sides where those of the key stay the same. -/
lemma reroute (a : Alike k twins s s') {js js' : List Journey}
    (same : js'.filter (·.flight.key == k) = js.filter (·.flight.key == k)) :
    Alike k twins { s with journeys := js } { s' with journeys := js' } :=
  { a with journeys := same }

/-- The permits of another key concern one side alone. -/
lemma skip_setPermits (a : Alike k twins s s') {key : String} {n : Nat} (ne : key ≠ k.text) :
    Alike k twins { s with origin := s.origin.setPermits key n } s' := by
  refine { a with permits := a.permits.trans ?_ }
  simp only [ScriptedOrigin.permitsOf, ScriptedOrigin.setPermits, lookup_replace, if_neg ne.symm]

/-- The permits of the key are set on both sides. -/
lemma setPermits (a : Alike k twins s s') {n : Nat} :
    Alike k twins { s with origin := s.origin.setPermits k.text n }
      { s' with origin := s'.origin.setPermits k.text n } := by
  refine { a with permits := ?_ }
  simp only [ScriptedOrigin.permitsOf, ScriptedOrigin.setPermits, lookup_replace, if_true]

/-! ## Flights -/

/-- A flight of another key may land on one side alone. -/
lemma skip_land (a : Alike k twins s s') {how : Landing} (ne : f.key ≠ k) :
    Alike k twins (s.land f how) s' := by
  have landed : Alike k twins (s.happen (.land f how)) s' := a.skip_happen ne
  refine landed.skip_reroute (filter_filter_spared fun j _ ej => ?_)
  simp only [bne_iff_ne, ne_eq]
  rintro rfl
  exact ne (by simpa using ej)

/-- A flight of the key lands on both sides. -/
lemma land (a : Alike k twins s s') {how : Landing} (ek : f.key = k) :
    Alike k twins (s.land f how) (s'.land f how) := by
  have landed : Alike k twins (s.happen (.land f how)) (s'.happen (.land f how)) :=
    a.happen (.land ek)
  refine landed.reroute ?_
  rw [List.filter_comm, landed.journeys, List.filter_comm]

/-- A flight of another key may pass its gate on one side alone. -/
lemma skip_travel (a : Alike k twins s s') {delay : Option Nat} (ne : f.key ≠ k) :
    Alike k twins (s.travel f delay) s' := by
  cases delay with
  | none => exact a.skip_land ne
  | some d =>
    refine (a.skip_reroute (filter_map_spared ?_ ?_)).skip_setAlarm ne
    · intro j _
      split <;> rfl
    · intro j _ ej
      refine if_neg ?_
      rintro rfl
      exact ne (by simpa using ej)

/-- A flight of the key passes its gate on both sides, and is as far after that. -/
lemma travel (a : Alike k twins s s') {delay : Option Nat} (ek : f.key = k) :
    Alike k twins (s.travel f delay) (s'.travel f delay) := by
  cases delay with
  | none =>
    simp only [Simulation.travel, ek, a.script_eq]
    exact a.land ek
  | some d =>
    simp only [Simulation.travel, a.now_eq]
    refine (a.reroute ?_).setAlarm
    rw [filter_map_kept, filter_map_kept, a.journeys]
    · intro j _
      split <;> rfl
    · intro j _
      split <;> rfl

/-- A gate opens for a flight of its key. -/
lemma skip_openGate (a : Alike k twins s s') {key : String} (ne : key ≠ k.text) :
    Alike k twins (s.openGate key) s' := by
  rw [openGate_eq]
  cases waiting : atGate? s.journeys key with
  | none => exact a
  | some w =>
    obtain ⟨f, delay⟩ := w
    cases s.origin.permitsOf key with
    | zero => exact a
    | succ n =>
      refine (a.skip_setPermits ne).skip_travel ?_
      rintro rfl
      exact ne (atGate?_key waiting).symm

/-- The gate of the key lets the same flight pass on both sides. -/
lemma openGate (a : Alike k twins s s') :
    Alike k twins (s.openGate k.text) (s'.openGate k.text) := by
  have same : atGate? s'.journeys k.text = atGate? s.journeys k.text := by
    rw [← atGate?_filter, a.journeys, atGate?_filter]
  rw [openGate_eq, openGate_eq, same, a.permits]
  cases waiting : atGate? s.journeys k.text with
  | none => exact a
  | some w =>
    obtain ⟨f, delay⟩ := w
    cases s.origin.permitsOf k.text with
    | zero => exact a
    | succ n => exact a.setPermits.travel (Key.text_injective (atGate?_key waiting))

/-- A flight of another key may ask the origin on one side alone. -/
lemma skip_embark (a : Alike k twins s s') (ne : f.key ≠ k) : Alike k twins (s.embark f) s' := by
  have passes (s : Simulation) (gated : Bool) (delay : Option Nat) (a : Alike k twins s s') :
      Alike k twins (if gated then s.openGate f.key.text else s.travel f delay) s' := by
    cases gated with
    | false => exact a.skip_travel ne
    | true => exact a.skip_openGate fun same => ne (Key.text_injective same)
  have waits (s : Simulation) (due : Nat) (a : Alike k twins s s') :
      Alike k twins (if (s.journey? f).isSome then s.setAlarm due (.flight f) else s) s' := by
    split
    · exact a.skip_setAlarm ne
    · exact a
  have departed : Alike k twins (s.happen (.depart f)) s' := a.skip_happen ne
  refine waits _ _ (passes _ _ _ (departed.skip_reroute ?_))
  simp [ne]

/-- A flight of the key asks the origin on both sides. -/
lemma embark (a : Alike k twins s s') (ek : f.key = k) :
    Alike k twins (s.embark f) (s'.embark f) := by
  have passes (s s' : Simulation) (gated : Bool) (delay : Option Nat) (a : Alike k twins s s') :
      Alike k twins (if gated then s.openGate f.key.text else s.travel f delay)
        (if gated then s'.openGate f.key.text else s'.travel f delay) := by
    cases gated with
    | false => exact a.travel ek
    | true => exact ek ▸ (ek ▸ a).openGate
  have waits (s s' : Simulation) (due : Nat) (a : Alike k twins s s') :
      Alike k twins (if (s.journey? f).isSome then s.setAlarm due (.flight f) else s)
        (if (s'.journey? f).isSome then s'.setAlarm due (.flight f) else s') := by
    rw [a.journey?_eq ek]
    split
    · exact a.setAlarm
    · exact a
  have departed : Alike k twins (s.happen (.depart f)) (s'.happen (.depart f)) :=
    a.happen (.depart ek)
  have script : (s'.happen (.depart f)).origin.script f.key =
      (s.happen (.depart f)).origin.script f.key := ek ▸ departed.script_eq
  have patience : (s'.happen (.depart f)).setup.patience = (s.happen (.depart f)).setup.patience :=
    congrArg Setup.patience departed.setup
  simp only [Simulation.embark, script, departed.now_eq, patience]
  refine waits _ _ _ (passes _ _ _ _ (departed.reroute ?_))
  simp only [List.filter_append, departed.journeys]

/-- A flight of another key may be woken on one side alone. -/
lemma skip_wakeFlight (a : Alike k twins s s') (ne : f.key ≠ k) :
    Alike k twins (s.wakeFlight f) s' := by
  have expires (j : Journey) :
      Alike k twins (if j.expiresAt ≤ s.now then s.land f .timedOut else s) s' := by
    split
    · exact a.skip_land ne
    · exact a
  simp only [Simulation.wakeFlight]
  cases s.journey? f with
  | none => exact a
  | some j =>
    cases place : j.place with
    | atGate delay => simpa only [place] using expires j
    | underway answerAt =>
      simp only [place]
      split
      · exact a.skip_land ne
      · exact expires j

/-- A flight of the key that is woken finds the same on both sides. -/
lemma wakeFlight (a : Alike k twins s s') (ek : f.key = k) :
    Alike k twins (s.wakeFlight f) (s'.wakeFlight f) := by
  have expires (j : Journey) :
      Alike k twins (if j.expiresAt ≤ s.now then s.land f .timedOut else s)
        (if j.expiresAt ≤ s.now then s'.land f .timedOut else s') := by
    split
    · exact a.land ek
    · exact a
  have script : s'.origin.script f.key = s.origin.script f.key := ek ▸ a.script_eq
  simp only [Simulation.wakeFlight, a.journey?_eq ek, a.now_eq, script]
  cases s.journey? f with
  | none => exact a
  | some j =>
    cases place : j.place with
    | atGate delay => simpa only [place] using expires j
    | underway answerAt =>
      simp only [place]
      split
      · exact a.land ek
      · exact expires j

/-! ## Sweepers and alarms -/

/-- Both sides are swept together. -/
lemma sweepOnce (a : Alike k twins s s') : Alike k twins s.sweepOnce s'.sweepOnce := by
  simp only [Simulation.sweepOnce, a.plain]
  split
  · exact a
  · exact a.happen .sweep

/-- A sweeper is woken on both sides. -/
lemma wakeSweeper (a : Alike k twins s s') {number : Nat} :
    Alike k twins (s.wakeSweeper number) (s'.wakeSweeper number) := by
  simp only [Simulation.wakeSweeper, a.sweepers, a.now_eq]
  cases s.sweepers.find? (·.number == number) with
  | none => exact a
  | some w => exact a.sweepOnce.setAlarm

/-- Whoever does not concern the key may be woken on one side alone. -/
lemma skip_wake (a : Alike k twins s s') {w : Sleeper} (other : w.concerns k = false) :
    Alike k twins (s.wake w) s' := by
  cases w with
  | flight f => exact a.skip_wakeFlight (by simpa [Sleeper.concerns] using other)
  | sweeper number => cases other

/-- Whoever concerns the key is woken on both sides. -/
lemma wake (a : Alike k twins s s') {w : Sleeper} (own : w.concerns k = true) :
    Alike k twins (s.wake w) (s'.wake w) := by
  cases w with
  | flight f => exact a.wakeFlight (by simpa [Sleeper.concerns] using own)
  | sweeper number => exact a.wakeSweeper

/-- The same alarms are due. -/
lemma isDue_eq (a : Alike k twins s s') : s'.isDue = s.isDue := by
  funext x
  simp only [isDue, a.now_eq]

/-- What is due rings in both. -/
lemma ring (a : Alike k twins s s') : Alike k twins s.ring s'.ring := by
  have due : (s.alarms.filter s.isDue).filter (·.wakes.concerns k) =
      (s'.alarms.filter s'.isDue).filter (·.wakes.concerns k) := by
    rw [List.filter_comm, ← a.alarms, List.filter_comm, a.isDue_eq]
  have rung : Alike k twins { s with alarms := s.alarms.filter fun x => !s.isDue x }
      { s' with alarms := s'.alarms.filter fun x => !s'.isDue x } := by
    refine { a with alarms := ?_ }
    simp only [a.isDue_eq]
    rw [List.filter_comm, a.alarms, List.filter_comm]
  refine (Woven.of_filter_eq due).foldl ?_ ?_ ?_ rung
  · rintro s s' x _ ⟨rfl, own⟩ a
    exact a.wake own
  · intro s s' x other a
    exact a.skip_wake other
  · intro s s' x other a
    exact of_symm (a.symm.skip_wake other)

/-! ## Callers -/

/-- Callers whose flight has landed run in both. -/
lemma deliver (a : Alike k twins s s') : Alike k twins s.deliver s'.deliver := by
  have stranger {s s' : Simulation} {twins : List (Nat × Nat)} (a : Alike k twins s s') :
      ∀ x ∈ s.coordinator.callers, (x.key == k) = false → x.id ∉ twins.map Prod.fst := by
    intro x mx other paired
    rw [← a.edge.alike.lefts] at paired
    obtain ⟨y, my, same⟩ := List.mem_map.1 paired
    obtain ⟨my, ey⟩ := List.mem_filter.1 my
    rw [List.inj_on_of_nodup_map a.edge.here.numbered my mx same, other] at ey
    cases ey
  -- Twins come in the same order in both, with callers of other keys anywhere in between.
  have twin := Woven.of_filter a.edge.alike.callers
  have twin' : Woven (Coordinator.Twin twins) (fun x => x.id ∉ twins.map Prod.fst)
      (fun x => x.id ∉ twins.map Prod.snd) s.coordinator.callers s'.coordinator.callers := by
    refine twin.imp (fun _ _ t => t) (stranger a) fun x mx other => ?_
    have alone := stranger a.symm x mx other
    rwa [List.map_map] at alone
  refine twin'.foldl ?_ ?_ ?_ a
  · rintro s s' x x' ⟨same, paired⟩ a
    rw [same]
    split
    · exact a.happen (.poll paired)
    · exact a
  · intro s s' x alone a
    split
    · exact a.skip_happen (a.edge.alike.stranger a.edge.here alone)
    · exact a
  · intro s s' x alone a
    have alone' : x.id ∉ (twins.map Prod.swap).map Prod.fst := by rwa [List.map_map]
    refine of_symm ?_
    split
    · exact a.symm.skip_happen (a.symm.edge.alike.stranger a.edge.there alone')
    · exact a.symm

/-- What is due rings on both sides, and then results are handed out. -/
lemma settle (a : Alike k twins s s') : Alike k twins s.settle s'.settle := a.ring.deliver

end Alike

end EdgeCache.Simulation
