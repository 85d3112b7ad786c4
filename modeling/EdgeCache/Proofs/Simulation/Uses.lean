import EdgeCache.Proofs.Run
import EdgeCache.Proofs.Simulation.Session

/-!
# How the store is used

Whatever is done to the store in a session past the coordinator is told by a log, which goes through
the commands as the simulation does: direct puts and lookups, sweeps, each with the sweeper that makes
it, and clears. What a session does to the cache is a run of it, and the uses of the store in this run
are those of the log: none is left out, and none is told of that has not happened.
-/

namespace EdgeCache

/-- Whether the store is used directly by an event. -/
def Event.isUse : Event → Bool
  | .put _ _ => true
  | .get _ => true
  | .sweep => true
  | .clear => true
  | _ => false

namespace Edge

/-- The direct use of the store by an event, with its moment. -/
def use? (e : Edge) (ev : Event) : Option (Nat × Event) :=
  if ev.isUse then some (e.now, ev) else none

/-- The direct uses of the store along a run, first to last. -/
def uses (setup : Setup) (e : Edge) (events : List Event) : List (Nat × Event) :=
  notes setup use? e events

end Edge

namespace Simulation

variable {s s' s'' : Simulation} {n : Nat} {w : Sleeper}

/-! ## The log -/

/-- A direct use of the store: whose pass it is, if it is a sweeper's, when it is, and what it does. -/
structure Use where
  sweeper : Option Nat
  moment : Nat
  event : Event

/-- What is told of a use in the run. -/
def Use.told (u : Use) : Nat × Event := (u.moment, u.event)

/-- The passes of a sweeper. -/
def passesOf (n : Nat) (log : List Use) : List Use := log.filter (·.sweeper == some n)

/-- The sweeper of a number, if it has been started and not stopped. -/
def sweeper? (n : Nat) (s : Simulation) : Option Sweeper := s.sweepers.find? (·.number == n)

/-- One pass over the store, if it can be swept. -/
def passBy (s : Simulation) (sweeper : Option Nat) : List Use :=
  if s.plain then [] else [⟨sweeper, s.now, .sweep⟩]

/-- The use that whoever is woken makes of the store: a sweeper at work passes over it. -/
def usesOn (s : Simulation) : Sleeper → List Use
  | .flight _ => []
  | .sweeper n =>
    match s.sweeper? n with
    | none => []
    | some _ => s.passBy (some n)

/-- The uses while alarms ring, one after the other. -/
def usesOf (s : Simulation) : List Alarm → List Use
  | [] => []
  | a :: rest => s.usesOn a.wakes ++ (s.wake a.wakes).usesOf rest

/-- The uses while all that is due rings. -/
def usesNow (s : Simulation) : List Use :=
  usesOf { s with alarms := s.alarms.filter fun a => !s.isDue a } (s.alarms.filter s.isDue)

/-- The uses while time passes. -/
def usesWithin (s : Simulation) : Nat → List Use
  | 0 => []
  | ms + 1 => (s.happen (.elapse 1)).usesNow ++ s.tick.usesWithin ms

/-- New callers have run, and so have the flights they dispatched. -/
def boarded (s : Simulation) (callers : List Nat) : Simulation :=
  let s := callers.foldl (fun s id => s.happen (.poll id)) s
  let fresh := s.coordinator.flights.filter (·.departed.isNone)
  fresh.foldl (fun s f => s.embark f.id) s

/-- Launching is boarding, and then what is due. -/
lemma launch_eq (callers : List Nat) : s.launch callers = (s.boarded callers).settle := rfl

/-- The gate of a key has got permits. -/
def permitted (s : Simulation) (key : String) (permits : Nat) : Simulation :=
  openGate { s with origin := s.origin.setPermits key (s.origin.permitsOf key + permits) } key

/-- What is due runs after the permits have been given. -/
lemma perform_release (key : String) (permits : Nat) :
    s.perform (.release key permits) = (s.permitted key permits).settle := rfl

/-- The uses during a command. -/
def usesIn (s : Simulation) : Command → List Use
  | .ask requests =>
    let started := requests.foldl enlist ([], s)
    (started.2.boarded (callersOf started.1)).usesNow
  | .release key permits => (s.permitted key permits).usesNow
  | .advance ms => s.usesWithin ms
  | .sweepOnce => s.passBy none
  | .put key entry => [⟨none, s.now, .put key entry⟩]
  | .get key => [⟨none, s.now, .get key⟩]
  | .sweep => [⟨none, s.now, .sweep⟩]
  | .clear => [⟨none, s.now, .clear⟩]
  | _ => []

/-- The uses during a session. -/
def uses (s : Simulation) : List Command → List Use
  | [] => []
  | c :: commands => s.usesIn c ++ (s.perform c).uses commands

/-- Alarms that ring later ring in the simulation that the earlier ones have left. -/
lemma usesOf_append (alarms later : List Alarm) :
    s.usesOf (alarms ++ later) =
      s.usesOf alarms ++ (alarms.foldl (fun s a => s.wake a.wakes) s).usesOf later := by
  induction alarms generalizing s with
  | nil => rfl
  | cons a alarms ih =>
    rw [List.cons_append, usesOf, ih, usesOf, List.append_assoc]
    rfl

/-! ## Whose a pass is -/

/-- A log that goes on is read part by part. -/
lemma passesOf_append (log log' : List Use) :
    passesOf n (log ++ log') = passesOf n log ++ passesOf n log' := List.filter_append ..

/-- A use that somebody else makes is no pass of a sweeper. -/
lemma passesOf_other {u : Use} (other : u.sweeper ≠ some n) : passesOf n [u] = [] :=
  List.filter_cons_of_neg (by rwa [beq_iff_eq])

/-- A pass is nobody's but that of whoever makes it. -/
lemma passesOf_passBy {who : Option Nat} (other : who ≠ some n) : passesOf n (s.passBy who) = [] := by
  rw [passBy]
  split
  · rfl
  · exact passesOf_other other

/-- Whoever is woken makes no pass of a sweeper but the sweeper itself, and only at work. -/
lemma passesOf_usesOn (idle : w = .sweeper n → s.sweeper? n = none) :
    passesOf n (s.usesOn w) = [] := by
  cases w with
  | flight f => rfl
  | sweeper k =>
    simp only [usesOn]
    split
    · rfl
    case h_2 x works =>
      apply passesOf_passBy
      intro same
      cases same
      rw [idle rfl] at works
      cases works

/-- A sweeper at work makes its pass when it is woken. -/
lemma passesOf_usesOn_self {x : Sweeper} (works : s.sweeper? n = some x) (plain : s.plain = false) :
    passesOf n (s.usesOn (.sweeper n)) = [⟨some n, s.now, .sweep⟩] := by
  simp [usesOn, works, passBy, plain, passesOf]

/-! ## What callers and flights do -/

/-- What callers and flights do at one moment: callers come, run and leave, and flights fly. -/
inductive Stirs : Simulation → Simulation → Prop where
  | refl {s : Simulation} :
    Stirs s s
  | trans {s s' s'' : Simulation} :
    Stirs s s' →
    Stirs s' s'' →
    Stirs s s''
  | flies {s s' : Simulation} :
    Flies s s' →
    Stirs s s'
  | comes {s : Simulation} {id : Nat} {key : Key} :
    Stirs s (s.happen (.call id key))
  | runs {s : Simulation} {id : Nat} :
    Stirs s (s.happen (.poll id))
  | leaves {s : Simulation} {id : Nat} :
    Stirs s (s.happen (.cancel id))
  /-- Tasks get names, and callers numbers. -/
  | listed {s : Simulation} {tasks : List (String × Task)} {callers : Nat} :
    Stirs s { s with tasks, callers }

namespace Stirs

/-- What one of a list does after the other is what they all do. -/
lemma foldl {α : Type} {g : Simulation → α → Simulation} {l : List α}
    (each : ∀ s x, Stirs s (g s x)) : Stirs s (l.foldl g s) := by
  refine List.foldlRecOn l g refl ?_
  intro s' stirs x _
  exact stirs.trans (each s' x)

/-- Callers run whose flights have landed. -/
lemma deliver : Stirs s s.deliver := by
  apply foldl
  intro s x
  split
  · exact runs
  · exact refl

/-- New callers run, and then their flights. -/
lemma boarded (ids : List Nat) : Stirs s (s.boarded ids) := by
  have polled (s : Simulation) : Stirs s (ids.foldl (fun s id => s.happen (.poll id)) s) :=
    foldl fun _ _ => runs
  exact (polled s).trans (foldl fun _ _ => flies .embark)

/-- A task that is started may bring a caller. -/
lemma enlist {tasks : List Task} {request : Option String × Request} :
    Stirs s (Simulation.enlist (tasks, s) request).2 := by
  obtain ⟨name?, r⟩ := request
  have added : Stirs s (s.addTask r).2 := by
    cases d : s.demand r with
    | error a =>
      rw [addTask_error d]
      exact refl
    | ok call =>
      rw [addTask_ok d]
      exact comes.trans listed
  cases name? with
  | none => exact added
  | some name => exact added.trans listed

/-- The tasks of a command are started one after the other. -/
lemma enlist_all (requests : List (Option String × Request)) :
    Stirs s (requests.foldl Simulation.enlist ([], s)).2 := by
  refine List.foldlRecOn (motive := fun t : List Task × Simulation => Stirs s t.2) requests _
    refl ?_
  rintro ⟨tasks, t⟩ stirs request _
  exact stirs.trans enlist

/-- A task that is abandoned may be that of a caller. -/
lemma cancel (name : String) : Stirs s (s.cancel name) := by
  simp only [Simulation.cancel]
  split
  · exact leaves
  · exact refl

end Stirs

/-! ## The log and the run -/

/-- The cache has gone on, and the direct uses of its store are those of a log. -/
structure Logged (s : Simulation) (log : List Use) (s' : Simulation) : Prop where
  setup : s'.setup = s.setup
  run : ∃ events, s'.edge = Edge.run s.setup s.edge events ∧
    Edge.uses s.setup s.edge events = log.map Use.told

namespace Logged

/-- What does not concern the cache is no use of its store. -/
lemma aside (setup : s'.setup = s.setup) (edge : s'.edge = s.edge) : Logged s [] s' :=
  ⟨setup, [], edge, rfl⟩

/-- Where nothing happens there is nothing to tell. -/
lemma refl : Logged s [] s := aside rfl rfl

/-- What is done one after the other is told one after the other. -/
lemma trans {log log' : List Use} (h : Logged s log s') (h' : Logged s' log' s'') :
    Logged s (log ++ log') s'' := by
  obtain ⟨setup, events, ran, used⟩ := h
  obtain ⟨setup', events', ran', used'⟩ := h'
  refine ⟨setup'.trans setup, events ++ events', ?_, ?_⟩
  · rw [ran', setup, ran, Edge.run_append]
  · rw [setup, ran] at used'
    rw [Edge.uses, Edge.notes_append, List.map_append]
    exact congrArg₂ (· ++ ·) used used'

/-- An event that does not use the store directly is not told of. -/
lemma happen {ev : Event} (useless : ev.isUse = false) : Logged s [] (s.happen ev) := by
  refine ⟨rfl, [ev], rfl, ?_⟩
  simp only [Edge.uses, Edge.notes, Edge.use?, useless]
  rfl

/-- A use is told of, whoever makes it. -/
lemma use {ev : Event} (used : ev.isUse = true) (who : Option Nat) :
    Logged s [⟨who, s.now, ev⟩] (s.happen ev) := by
  refine ⟨rfl, [ev], rfl, ?_⟩
  simp only [Edge.uses, Edge.notes, Edge.use?, used]
  rfl

/-- A single pass is told of where the store can be swept. -/
lemma sweepOnce (who : Option Nat) : Logged s (s.passBy who) s.sweepOnce := by
  simp only [Simulation.sweepOnce, passBy]
  split
  · exact refl
  · exact use rfl who

/-- Flights do not use the store directly. -/
lemma of_flies (h : Flies s s') : Logged s [] s' := by
  induction h with
  | refl => exact refl
  | trans _ _ ih ih' => exact ih.trans ih'
  | asks => exact happen rfl
  | ends => exact happen rfl
  | reroute => exact aside rfl rfl
  | permit => exact aside rfl rfl
  | alarm => exact aside rfl rfl

/-- Nor do callers. -/
lemma of_stirs (h : Stirs s s') : Logged s [] s' := by
  induction h with
  | refl => exact refl
  | trans _ _ ih ih' => exact ih.trans ih'
  | flies h => exact of_flies h
  | comes => exact happen rfl
  | runs => exact happen rfl
  | leaves => exact happen rfl
  | listed => exact aside rfl rfl

/-- A sweeper at work makes its pass, and nobody else who is woken makes one. -/
lemma wake : Logged s (s.usesOn w) (s.wake w) := by
  cases w with
  | flight f => exact of_flies .wakeFlight
  | sweeper n =>
    simp only [Simulation.wake, wakeSweeper, usesOn, sweeper?]
    cases s.sweepers.find? (·.number == n) with
    | none => exact refl
    | some x =>
      have alarm : Logged s.sweepOnce []
          (s.sweepOnce.setAlarm (s.now + x.interval) (.sweeper n)) := aside rfl rfl
      have woken := (sweepOnce (s := s) (some n)).trans alarm
      rw [List.append_nil] at woken
      exact woken

/-- Alarms that ring one after the other are told of in that order. -/
lemma wake_all (alarms : List Alarm) :
    Logged s (s.usesOf alarms) (alarms.foldl (fun s a => s.wake a.wakes) s) := by
  induction alarms generalizing s with
  | nil => exact refl
  | cons a alarms ih => exact wake.trans ih

/-- Everything that is due is told of when it runs. -/
lemma settle : Logged s s.usesNow s.settle := by
  have hushed : Logged s [] { s with alarms := s.alarms.filter fun a => !s.isDue a } :=
    aside rfl rfl
  have settled := (hushed.trans (wake_all (s.alarms.filter s.isDue))).trans (of_stirs .deliver)
  rw [List.append_nil] at settled
  exact settled

/-- Where nothing is due nobody makes a pass. -/
lemma tick : Logged s (s.happen (.elapse 1)).usesNow s.tick := by
  have later : Logged s [] (s.happen (.elapse 1)) := happen rfl
  simp only [Simulation.tick]
  split
  case isTrue => exact later.trans settle
  case isFalse idle =>
    have none_due : (s.happen (.elapse 1)).alarms.filter (s.happen (.elapse 1)).isDue = [] := by
      rw [List.filter_eq_nil_iff]
      intro a ma due
      exact idle (List.any_eq_true.2 ⟨a, ma, due⟩)
    rw [usesNow, none_due]
    exact later

/-- The uses in each millisecond follow those in the one before. -/
lemma advance (ms : Nat) : Logged s (s.usesWithin ms) (s.advance ms) := by
  induction ms generalizing s with
  | zero => exact refl
  | succ ms ih => exact tick.trans ih

/-- The uses that a command makes of the store are told of, whatever the command is. -/
lemma perform (c : Command) : Logged s (s.usesIn c) (s.perform c) := by
  have script {ev : Event} (useless : ev.isUse = false) : Logged s [] (s.script ev) := by
    simp only [Simulation.script]
    split
    · exact refl
    · exact happen useless
  cases c with
  | ask requests =>
    have opened := (Stirs.enlist_all (s := s) requests).trans
      (.boarded (callersOf (requests.foldl enlist ([], s)).1))
    rw [perform_ask, launch_eq]
    exact (of_stirs opened).trans settle
  | poll name => exact refl
  | cancel name => exact of_stirs (.cancel name)
  | script key script => exact aside rfl rfl
  | disconnect => exact aside rfl rfl
  | release key permits =>
    have opened : Logged s [] (s.permitted key permits) := of_flies (.release key permits)
    rw [perform_release]
    exact opened.trans settle
  | advance ms => exact advance ms
  | startSweeper seconds => exact aside rfl rfl
  | stopSweeper =>
    simp only [Simulation.perform, stopSweeper]
    split
    · exact refl
    · exact aside rfl rfl
  | sweepOnce => exact sweepOnce none
  | reading items => exact script rfl
  | writing items => exact script rfl
  | put key entry => exact use rfl none
  | get key => exact use rfl none
  | sweep => exact use rfl none
  | clear => exact use rfl none

/-- The store is used directly in a session as the log says, and in no other way. -/
lemma session (commands : List Command) : Logged s (s.uses commands) (s.session commands) := by
  induction commands generalizing s with
  | nil => exact refl
  | cons c commands ih => exact (perform c).trans ih

end Logged

end Simulation

end EdgeCache
