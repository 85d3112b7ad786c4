import EdgeCache.Proofs.Coordinator.Lingering
import EdgeCache.Proofs.Simulation.Deadlines
import EdgeCache.Proofs.Simulation.Uses

/-!
# Dead entries do not linger

A sweeper from its start on. It passes over the store at the end of every interval, and at no other
moment, until it is stopped; from then on it does nothing. So no entry outlives its time by a whole
interval. When it passes is told by the log of whatever is done to the store.
-/

namespace EdgeCache

/-- Whether time passes with an event. -/
def Event.takesTime : Event → Bool
  | .elapse _ => true
  | _ => false

namespace Simulation

variable {s s' s'' : Simulation} {n since interval m : Nat} {f : FlightId} {w : Sleeper}

/-! ## What leaves a sweeper -/

/-- The alarms that wake a sweeper. -/
def alarmsOf (n : Nat) (s : Simulation) : List Alarm := s.alarms.filter (·.wakes == .sweeper n)

/-- No alarm is due that wakes a sweeper who is at work. -/
def Rests (n : Nat) (s : Simulation) : Prop :=
  ∀ a ∈ s.alarmsOf n, s.isDue a = true → s.sweeper? n = none

/-- Something has happened at one moment that a sweeper has no part in. -/
structure Leaves (n : Nat) (s s' : Simulation) : Prop where
  setup : s'.setup = s.setup
  plain : s'.plain = s.plain
  now : s'.now = s.now
  sweepers : s'.sweepers = s.sweepers
  started : s'.sweepersStarted = s.sweepersStarted
  run : ∃ events, s'.edge = Edge.run s.setup s.edge events
  fewer : s'.alarmsOf n ⊆ s.alarmsOf n
  /-- Whoever is at work keeps all alarms. -/
  kept : s.sweeper? n ≠ none → s'.alarmsOf n = s.alarmsOf n

namespace Leaves

/-- What changes nothing of a sweeper and nothing of the cache leaves the sweeper. -/
lemma still (setup : s'.setup = s.setup) (plain : s'.plain = s.plain)
    (sweepers : s'.sweepers = s.sweepers) (started : s'.sweepersStarted = s.sweepersStarted)
    (edge : s'.edge = s.edge) (alarms : s'.alarmsOf n = s.alarmsOf n) : Leaves n s s' :=
  ⟨setup, plain, congrArg Edge.now edge, sweepers, started, ⟨[], edge⟩, alarms ▸ List.Subset.refl _,
    fun _ => alarms⟩

/-- Where nothing happens a sweeper is left. -/
lemma refl : Leaves n s s := still rfl rfl rfl rfl rfl rfl

/-- A sweeper that is left is at work if it was. -/
lemma sweeper? (h : Leaves n s s') : s'.sweeper? n = s.sweeper? n :=
  congrArg (List.find? _) h.sweepers

/-- What leaves a sweeper twice leaves it. -/
lemma trans (h : Leaves n s s') (h' : Leaves n s' s'') : Leaves n s s'' where
  setup := h'.setup.trans h.setup
  plain := h'.plain.trans h.plain
  now := h'.now.trans h.now
  sweepers := h'.sweepers.trans h.sweepers
  started := h'.started.trans h.started
  run := by
    obtain ⟨events, ran⟩ := h.run
    obtain ⟨events', ran'⟩ := h'.run
    exact ⟨events ++ events', by rw [ran', h.setup, ran, Edge.run_append]⟩
  fewer _ ma := h.fewer (h'.fewer ma)
  kept works := (h'.kept (h.sweeper? ▸ works)).trans (h.kept works)

/-- Whoever rests goes on resting. -/
lemma rests (h : Leaves n s s') (rests : Rests n s) : Rests n s' := by
  intro a ma due
  rw [h.sweeper?]
  apply rests a (h.fewer ma)
  simpa only [isDue, h.now] using due

/-- Whatever happens to the cache without time passing leaves a sweeper. -/
lemma happen {ev : Event} (timeless : ev.takesTime = false) : Leaves n s (s.happen ev) := by
  have now : (s.happen ev).now = s.now := by
    apply Edge.step_now
    rintro ms rfl
    cases timeless
  exact ⟨rfl, rfl, now, rfl, rfl, ⟨[ev], rfl⟩, List.Subset.refl _, fun _ => rfl⟩

/-- An alarm that is set for somebody else leaves it. -/
lemma setAlarm {due : Nat} (other : w ≠ .sweeper n) : Leaves n s (s.setAlarm due w) := by
  refine still rfl rfl rfl rfl rfl ?_
  simp [alarmsOf, Simulation.setAlarm, other]

/-- Flights have no part in sweepers. -/
lemma of_flies (h : Flies s s') : Leaves n s s' := by
  induction h with
  | refl => exact refl
  | trans _ _ ih ih' => exact ih.trans ih'
  | asks => exact happen rfl
  | ends => exact happen rfl
  | reroute => exact still rfl rfl rfl rfl rfl rfl
  | permit => exact still rfl rfl rfl rfl rfl rfl
  | alarm => exact setAlarm nofun

/-- Nor have callers. -/
lemma of_stirs (h : Stirs s s') : Leaves n s s' := by
  induction h with
  | refl => exact refl
  | trans _ _ ih ih' => exact ih.trans ih'
  | flies h => exact of_flies h
  | comes => exact happen rfl
  | runs => exact happen rfl
  | leaves => exact happen rfl
  | listed => exact still rfl rfl rfl rfl rfl rfl

/-- A pass that somebody else makes leaves it. -/
lemma sweepOnce : Leaves n s s.sweepOnce := by
  simp only [Simulation.sweepOnce]
  split
  · exact refl
  · exact happen rfl

/-- Nobody else who is woken touches a sweeper, and one that has been stopped does nothing. -/
lemma wake (other : w = .sweeper n → s.sweeper? n = none) : Leaves n s (s.wake w) := by
  cases w with
  | flight f => exact of_flies .wakeFlight
  | sweeper k =>
    simp only [Simulation.wake, wakeSweeper]
    split
    · exact refl
    case h_2 x found =>
      refine sweepOnce.trans (setAlarm ?_)
      intro same
      have stopped := other same
      obtain rfl := Sleeper.sweeper.inj same
      rw [Simulation.sweeper?, found] at stopped
      cases stopped

end Leaves

/-! ## Where a sweeper rests -/

/-- Alarms that do not wake a sweeper at work are none of its business. -/
lemma ring_spared (alarms : List Alarm)
    (others : ∀ a ∈ alarms, a.wakes = .sweeper n → s.sweeper? n = none) :
    Leaves n s (alarms.foldl (fun s a => s.wake a.wakes) s) ∧
      passesOf n (s.usesOf alarms) = [] := by
  induction alarms generalizing s with
  | nil => exact ⟨.refl, rfl⟩
  | cons a alarms ih =>
    have woken : Leaves n s (s.wake a.wakes) := .wake (others a List.mem_cons_self)
    obtain ⟨leaves, none_passed⟩ := ih fun b mb wakes => by
      rw [woken.sweeper?]
      exact others b (List.mem_cons_of_mem _ mb) wakes
    refine ⟨woken.trans leaves, ?_⟩
    rw [usesOf, passesOf_append, none_passed, passesOf_usesOn (others a List.mem_cons_self)]
    rfl

/-- Where a sweeper rests, running what is due leaves it. -/
lemma Rests.settle (rests : Rests n s) : Leaves n s s.settle ∧ passesOf n s.usesNow = [] := by
  have hushed : Leaves n s { s with alarms := s.alarms.filter fun a => !s.isDue a } := by
    refine ⟨rfl, rfl, rfl, rfl, rfl, ⟨[], rfl⟩, ?_, fun works => ?_⟩
    · intro a ma
      obtain ⟨ma, wakes⟩ := List.mem_filter.1 ma
      exact List.mem_filter.2 ⟨(List.mem_filter.1 ma).1, wakes⟩
    · refine filter_filter_spared fun a ma wakes => ?_
      rw [Bool.not_eq_true', Bool.eq_false_iff]
      intro due
      exact works (rests a (List.mem_filter.2 ⟨ma, wakes⟩) due)
  have others : ∀ a ∈ s.alarms.filter s.isDue, a.wakes = .sweeper n → s.sweeper? n = none := by
    intro a ma wakes
    obtain ⟨ma, due⟩ := List.mem_filter.1 ma
    exact rests a (List.mem_filter.2 ⟨ma, beq_iff_eq.2 wakes⟩) due
  obtain ⟨rung, none_passed⟩ :=
    ring_spared (s := { s with alarms := s.alarms.filter fun a => !s.isDue a }) _ others
  exact ⟨(hushed.trans rung).trans (.of_stirs .deliver), none_passed⟩

/-- Where a sweeper rests after a millisecond, this leaves it. -/
lemma Rests.tick (rests : Rests n (s.happen (.elapse 1))) :
    Leaves n (s.happen (.elapse 1)) s.tick ∧
      passesOf n (s.happen (.elapse 1)).usesNow = [] := by
  obtain ⟨settled, none_passed⟩ := rests.settle
  refine ⟨?_, none_passed⟩
  simp only [Simulation.tick]
  split
  · exact settled
  · exact .refl

/-- A command that takes no time and neither starts nor stops a sweeper. -/
def Command.isOrdinary : Command → Bool
  | .advance _ => false
  | .startSweeper _ => false
  | .stopSweeper => false
  | _ => true

/-- Where a sweeper rests, such a command leaves it. -/
lemma Rests.perform {c : Command} (rests : Rests n s) (ordinary : c.isOrdinary = true) :
    Leaves n s (s.perform c) ∧ passesOf n (s.usesIn c) = [] := by
  have script {ev : Event} (timeless : ev.takesTime = false) : Leaves n s (s.script ev) := by
    simp only [Simulation.script]
    split
    · exact .refl
    · exact .happen timeless
  cases c with
  | ask requests =>
    have opened : Leaves n s _ := .of_stirs ((Stirs.enlist_all (s := s) requests).trans
      (.boarded (callersOf (requests.foldl enlist ([], s)).1)))
    obtain ⟨settled, none_passed⟩ := (opened.rests rests).settle
    rw [perform_ask, launch_eq]
    exact ⟨opened.trans settled, none_passed⟩
  | poll name => exact ⟨.refl, rfl⟩
  | cancel name => exact ⟨.of_stirs (.cancel name), rfl⟩
  | script key script => exact ⟨.still rfl rfl rfl rfl rfl rfl, rfl⟩
  | disconnect => exact ⟨.still rfl rfl rfl rfl rfl rfl, rfl⟩
  | release key permits =>
    have opened : Leaves n s (s.permitted key permits) := .of_flies (.release key permits)
    obtain ⟨settled, none_passed⟩ := (opened.rests rests).settle
    rw [perform_release]
    exact ⟨opened.trans settled, none_passed⟩
  | advance ms => cases ordinary
  | startSweeper seconds => cases ordinary
  | stopSweeper => cases ordinary
  | sweepOnce => exact ⟨.sweepOnce, passesOf_passBy (Option.some_ne_none n).symm⟩
  | reading items => exact ⟨script rfl, rfl⟩
  | writing items => exact ⟨script rfl, rfl⟩
  | put key entry => exact ⟨.happen rfl, rfl⟩
  | get key => exact ⟨.happen rfl, rfl⟩
  | sweep => exact ⟨.happen rfl, rfl⟩
  | clear => exact ⟨.happen rfl, rfl⟩

/-! ## Sweepers that are not at work -/

/-- A sweeper that was not at work is not at work now either. -/
structure Idles (n : Nat) (s s' : Simulation) : Prop where
  idle : s'.sweeper? n = none
  plain : s'.plain = s.plain
  grows : s.sweepersStarted ≤ s'.sweepersStarted
  fewer : s'.alarmsOf n ⊆ s.alarmsOf n

/-- A sweeper that stays idle twice stays idle. -/
lemma Idles.trans (h : Idles n s s') (h' : Idles n s' s'') : Idles n s s'' :=
  ⟨h'.idle, h'.plain.trans h.plain, Nat.le_trans h.grows h'.grows,
    fun _ ma => h.fewer (h'.fewer ma)⟩

/-- A sweeper that was idle when it was left is idle still. -/
lemma Leaves.idles (h : Leaves n s s') (idle : s.sweeper? n = none) : Idles n s s' :=
  ⟨h.sweeper?.trans idle, h.plain, h.started ▸ Nat.le_refl _, h.fewer⟩

/-- A sweeper that is not at work does nothing while time passes. -/
lemma advance_idle (idle : s.sweeper? n = none) (ms : Nat) :
    Idles n s (s.advance ms) ∧ passesOf n (s.usesWithin ms) = [] := by
  induction ms generalizing s with
  | zero => exact ⟨Leaves.refl.idles idle, rfl⟩
  | succ ms ih =>
    have later : Idles n s (s.happen (.elapse 1)) :=
      ⟨idle, rfl, Nat.le_refl _, List.Subset.refl _⟩
    obtain ⟨ticked, none_passed⟩ := Rests.tick (n := n) (s := s) fun _ _ _ => later.idle
    have first := later.trans (ticked.idles later.idle)
    obtain ⟨rest, none_within⟩ := ih first.idle
    rw [advance_succ, usesWithin, passesOf_append, none_passed, none_within]
    exact ⟨first.trans rest, rfl⟩

/-- Another sweeper is added behind those that are there. -/
lemma find?_other (w : Sweeper) (other : w.number ≠ n) :
    (s.sweepers ++ [w]).find? (·.number == n) = s.sweeper? n := by
  rw [List.find?_append, sweeper?]
  cases s.sweepers.find? (·.number == n) with
  | none => simp [other]
  | some x => rfl

/-- A sweeper that is not at work is not set to work by a command, unless it is started. -/
lemma perform_idle {c : Command} (idle : s.sweeper? n = none)
    (other : ∀ seconds, c = .startSweeper seconds → s.sweepersStarted ≠ n) :
    Idles n s (s.perform c) ∧ passesOf n (s.usesIn c) = [] := by
  cases ordinary : c.isOrdinary with
  | true =>
    obtain ⟨leaves, none_passed⟩ := Rests.perform (fun _ _ _ => idle) ordinary
    exact ⟨leaves.idles idle, none_passed⟩
  | false =>
    cases c with
    | advance ms => exact advance_idle idle ms
    | startSweeper seconds =>
      have other := other seconds rfl
      have alarm : Leaves n s (s.setAlarm (s.now + 1000 * max 1 seconds)
          (.sweeper s.sweepersStarted)) := .setAlarm fun same => other (Sleeper.sweeper.inj same)
      exact ⟨⟨(find?_other _ other).trans idle, rfl, Nat.le_succ _, alarm.fewer⟩, rfl⟩
    | stopSweeper =>
      refine ⟨?_, rfl⟩
      simp only [Simulation.perform, stopSweeper]
      split
      · exact Leaves.refl.idles idle
      · refine ⟨List.find?_eq_none.2 fun w mw => ?_, rfl, Nat.le_refl _, List.Subset.refl _⟩
        exact List.find?_eq_none.1 idle w (List.mem_filter.1 mw).1
    | _ => cases ordinary

/-- No sweeper is at work, and no alarm set for one, that has not been started. -/
def Numbered (s : Simulation) : Prop :=
  ∀ n, s.sweepersStarted ≤ n → s.sweeper? n = none ∧ s.alarmsOf n = []

/-- At the start no sweeper has a number. -/
lemma start_numbered {setup : Setup} {router : Http.Router} {limits : Limits} {plain : Bool}
    {origin : ScriptedOrigin} : Numbered { start setup router limits plain with origin } :=
  fun _ _ => ⟨rfl, rfl⟩

/-- No command gives a number away but to the sweeper that it starts. -/
lemma Numbered.perform (h : Numbered s) (c : Command) :
    Numbered (s.perform c) ∧ (s.perform c).plain = s.plain := by
  -- The number after the next is one that no command can give away.
  obtain ⟨unstarted, _⟩ := h (s.sweepersStarted + 1) (Nat.le_succ _)
  obtain ⟨beyond, _⟩ := perform_idle (c := c) unstarted fun _ _ => Nat.ne_of_lt (Nat.lt_succ_self _)
  refine ⟨fun n late => ?_, beyond.plain⟩
  obtain ⟨idle, silent⟩ := h n (Nat.le_trans beyond.grows late)
  have other : ∀ seconds, c = .startSweeper seconds → s.sweepersStarted ≠ n := by
    rintro seconds rfl
    exact Nat.ne_of_lt late
  obtain ⟨idles, _⟩ := perform_idle idle other
  exact ⟨idles.idle, List.subset_nil.1 (silent ▸ idles.fewer)⟩

/-- Numbers are given away in order, in every session. -/
lemma Numbered.session (h : Numbered s) (commands : List Command) :
    Numbered (s.session commands) ∧ (s.session commands).plain = s.plain := by
  induction commands generalizing s with
  | nil => exact ⟨h, rfl⟩
  | cons c commands ih =>
    obtain ⟨numbered, same⟩ := h.perform c
    obtain ⟨numbered', same'⟩ := ih numbered
    exact ⟨numbered', same'.trans same⟩

/-- A sweeper that has been started and stopped. -/
structure Stopped (n : Nat) (s : Simulation) : Prop where
  numbered : n < s.sweepersStarted
  idle : s.sweeper? n = none

/-- A sweeper that has been stopped is not at work again, and passes no more. -/
lemma Stopped.session (h : Stopped n s) (commands : List Command) :
    Stopped n (s.session commands) ∧ passesOf n (s.uses commands) = [] := by
  induction commands generalizing s with
  | nil => exact ⟨h, rfl⟩
  | cons c commands ih =>
    obtain ⟨idles, none_in⟩ := perform_idle (c := c) h.idle fun _ _ => Nat.ne_of_gt h.numbered
    obtain ⟨stopped, none_passed⟩ := ih ⟨Nat.lt_of_lt_of_le h.numbered idles.grows, idles.idle⟩
    rw [uses, passesOf_append, none_in, none_passed]
    exact ⟨stopped, rfl⟩

/-! ## Sweepers at work -/

/-- The passes of a sweeper at the ends of the first intervals since its start. -/
def beats (n since interval m : Nat) : List Use :=
  (List.range m).map fun i => ⟨some n, since + (i + 1) * interval, .sweep⟩

/-- Each interval ends once. -/
lemma beats_succ :
    beats n since interval (m + 1) =
      beats n since interval m ++ [⟨some n, since + (m + 1) * interval, .sweep⟩] := by
  rw [beats, List.range_succ, List.map_append]
  rfl

/-- A sweeper at work, so many intervals after its start. -/
structure Beats (n since interval m : Nat) (s : Simulation) : Prop where
  plain : s.plain = false
  numbered : n < s.sweepersStarted
  works : s.sweeper? n = some ⟨n, interval⟩
  next : s.alarmsOf n = [⟨since + (m + 1) * interval, .sweeper n⟩]
  passed : since + m * interval ≤ s.now
  soon : s.now < since + (m + 1) * interval
  swept : m ≠ 0 → s.edge.SweptAt (since + m * interval)

namespace Beats

/-- An interval takes time, since one is under way. -/
lemma pos (h : Beats n since interval m s) : 0 < interval := by
  have lt := Nat.lt_of_le_of_lt h.passed h.soon
  rw [Nat.succ_mul] at lt
  omega

/-- Before the end of its interval a sweeper rests. -/
lemma rests (h : Beats n since interval m s) : Rests n s := by
  intro a ma due
  rw [h.next, List.mem_singleton] at ma
  rw [ma, isDue, decide_eq_true_eq] at due
  exact absurd due (Nat.not_le.2 h.soon)

/-- Whatever leaves a sweeper does not change how far it is. -/
lemma leaves (h : Beats n since interval m s) (l : Leaves n s s') :
    Beats n since interval m s' where
  plain := l.plain.trans h.plain
  numbered := l.started ▸ h.numbered
  works := l.sweeper?.trans h.works
  next := (l.kept (by rw [h.works]; nofun)).trans h.next
  passed := l.now ▸ h.passed
  soon := l.now ▸ h.soon
  swept some_passed := by
    obtain ⟨events, ran⟩ := l.run
    rw [ran]
    exact (h.swept some_passed).run

/-- Whoever has been started has an interval before the first pass. -/
lemma start (numbered : Numbered s) (plain : s.plain = false) (seconds : Nat) :
    Beats s.sweepersStarted s.now (1000 * max 1 seconds) 0 (s.startSweeper seconds) where
  plain := plain
  numbered := Nat.lt_succ_self _
  works := by
    have idle := (numbered s.sweepersStarted (Nat.le_refl _)).1
    rw [Simulation.sweeper?] at idle
    simp [Simulation.startSweeper, Simulation.sweeper?, Simulation.setAlarm, idle]
  next := by
    have silent := (numbered s.sweepersStarted (Nat.le_refl _)).2
    rw [alarmsOf] at silent
    simp [Simulation.startSweeper, alarmsOf, Simulation.setAlarm, silent]
  passed := by
    rw [Nat.zero_mul]
    exact Nat.le_refl _
  soon := by
    have now : (s.startSweeper seconds).now = s.now := rfl
    rw [now]
    omega
  swept none_passed := absurd rfl none_passed

/-- At the end of an interval the sweeper is woken, passes over the store and sets its next alarm. -/
lemma wake (plain : s.plain = false) (numbered : n < s.sweepersStarted)
    (works : s.sweeper? n = some ⟨n, interval⟩) (pos : 0 < interval)
    (now : s.now = since + (m + 1) * interval) (silent : s.alarmsOf n = []) :
    Beats n since interval (m + 1) (s.wake (.sweeper n)) := by
  have woken : s.wake (.sweeper n) =
      (s.happen .sweep).setAlarm (s.now + interval) (.sweeper n) := by
    rw [sweeper?] at works
    simp only [Simulation.wake, wakeSweeper, works, Simulation.sweepOnce, plain]
    rfl
  have later : since + (m + 1 + 1) * interval = s.now + interval := by
    rw [now, Nat.succ_mul (m + 1), Nat.add_assoc]
  rw [woken]
  constructor
  case plain => exact plain
  case numbered => exact numbered
  case works => exact works
  case next =>
    rw [later]
    rw [alarmsOf] at silent
    simp [alarmsOf, Simulation.setAlarm, Simulation.happen, silent]
  case passed => exact Nat.le_of_eq now.symm
  case soon =>
    rw [later]
    exact Nat.lt_add_of_pos_right pos
  case swept =>
    intro _
    rw [← now]
    exact Edge.sweptAt_sweep s.setup

/-- At the end of an interval the sweeper passes over the store once. -/
lemma settle (plain : s.plain = false) (numbered : n < s.sweepersStarted)
    (works : s.sweeper? n = some ⟨n, interval⟩) (pos : 0 < interval)
    (now : s.now = since + (m + 1) * interval) (next : s.alarmsOf n = [⟨s.now, .sweeper n⟩]) :
    Beats n since interval (m + 1) s.settle ∧
      passesOf n s.usesNow = [⟨some n, s.now, .sweep⟩] := by
  have due : (s.alarms.filter s.isDue).filter (·.wakes == .sweeper n) =
      [⟨s.now, .sweeper n⟩] := by
    rw [List.filter_comm]
    change (s.alarmsOf n).filter s.isDue = _
    rw [next]
    simp [isDue]
  obtain ⟨before, after, alarms, others, _, rest⟩ := List.filter_eq_cons_iff.1 due
  let hushed : Simulation := { s with alarms := s.alarms.filter fun a => !s.isDue a }
  have silent : hushed.alarmsOf n = [] := by
    change (s.alarms.filter _).filter _ = _
    rw [List.filter_comm]
    change (s.alarmsOf n).filter _ = _
    rw [next]
    simp [isDue]
  -- Nothing that rings before the sweeper's alarm concerns it, and nothing that rings after it.
  obtain ⟨early, none_early⟩ := ring_spared (n := n) (s := hushed) before
    fun a ma wakes => absurd (beq_iff_eq.2 wakes) (others a ma)
  generalize ran : before.foldl (fun s a => s.wake a.wakes) hushed = r at early
  have works' : r.sweeper? n = some ⟨n, interval⟩ := early.sweeper?.trans works
  have passed : Beats n since interval (m + 1) (r.wake (.sweeper n)) :=
    wake (early.plain.trans plain) (early.started ▸ numbered) works' pos (early.now.trans now)
      (List.subset_nil.1 (silent ▸ early.fewer))
  obtain ⟨late, none_late⟩ := ring_spared (n := n) (s := r.wake (.sweeper n)) after
    fun a ma wakes => absurd (beq_iff_eq.2 wakes) (List.filter_eq_nil_iff.1 rest a ma)
  constructor
  · have rung : s.ring = after.foldl (fun s a => s.wake a.wakes) (r.wake (.sweeper n)) := by
      rw [ring, alarms, List.foldl_append, List.foldl_cons, ran]
    rw [Simulation.settle, rung]
    exact (passed.leaves late).leaves (.of_stirs .deliver)
  · have once : passesOf n (hushed.usesOf (before ++ ⟨s.now, .sweeper n⟩ :: after)) =
        [⟨some n, s.now, .sweep⟩] := by
      rw [usesOf_append, passesOf_append, none_early, ran, usesOf, passesOf_append, none_late,
        passesOf_usesOn_self works' (early.plain.trans plain), early.now]
      rfl
    rw [usesNow, alarms]
    exact once

/-- After a millisecond the sweeper has passed once more, or is still as far from it. -/
lemma tick (h : Beats n since interval m s) : ∃ m', Beats n since interval m' s.tick ∧
    beats n since interval m ++ passesOf n (s.happen (.elapse 1)).usesNow =
      beats n since interval m' := by
  by_cases early : s.now + 1 < since + (m + 1) * interval
  · have later : Beats n since interval m (s.happen (.elapse 1)) :=
      { h with
        passed := Nat.le_succ_of_le h.passed
        soon := early
        swept := fun some_passed => (h.swept some_passed).step s.setup (.elapse 1) }
    obtain ⟨leaves, none_passed⟩ := later.rests.tick
    exact ⟨m, later.leaves leaves, by rw [none_passed, List.append_nil]⟩
  · have now : (s.happen (.elapse 1)).now = since + (m + 1) * interval :=
      Nat.le_antisymm h.soon (Nat.not_lt.1 early)
    have next : (s.happen (.elapse 1)).alarmsOf n =
        [⟨(s.happen (.elapse 1)).now, .sweeper n⟩] := now ▸ h.next
    obtain ⟨passed, once⟩ := settle (s := s.happen (.elapse 1)) h.plain h.numbered h.works h.pos
      now next
    have due : (s.happen (.elapse 1)).alarms.any (s.happen (.elapse 1)).isDue = true := by
      have there : (⟨(s.happen (.elapse 1)).now, .sweeper n⟩ : Alarm) ∈
          (s.happen (.elapse 1)).alarmsOf n := next ▸ List.mem_cons_self
      exact List.any_eq_true.2 ⟨_, (List.mem_filter.1 there).1, decide_eq_true (Nat.le_refl _)⟩
    refine ⟨m + 1, ?_, ?_⟩
    · rw [Simulation.tick, if_pos due]
      exact passed
    · rw [once, beats_succ, now]

/-- However much time passes, the sweeper passes at the end of each interval in it. -/
lemma advance (h : Beats n since interval m s) (ms : Nat) :
    ∃ m', Beats n since interval m' (s.advance ms) ∧
      beats n since interval m ++ passesOf n (s.usesWithin ms) = beats n since interval m' := by
  induction ms generalizing s m with
  | zero => exact ⟨m, h, List.append_nil _⟩
  | succ ms ih =>
    obtain ⟨_, ticked, now⟩ := h.tick
    obtain ⟨m', advanced, within⟩ := ih ticked
    refine ⟨m', advanced, ?_⟩
    rw [usesWithin, passesOf_append, ← List.append_assoc, now, within]

/-- Nothing but being stopped keeps a sweeper from its work. -/
lemma perform (h : Beats n since interval m s) (c : Command) :
    (∃ m', Beats n since interval m' (s.perform c) ∧
        beats n since interval m ++ passesOf n (s.usesIn c) = beats n since interval m') ∨
      c = .stopSweeper ∧ Stopped n (s.perform c) := by
  cases ordinary : c.isOrdinary with
  | true =>
    obtain ⟨leaves, none_passed⟩ := h.rests.perform ordinary
    exact .inl ⟨m, h.leaves leaves, by rw [none_passed, List.append_nil]⟩
  | false =>
    cases c with
    | advance ms => exact .inl (h.advance ms)
    | startSweeper seconds =>
      have other : s.sweepersStarted ≠ n := Nat.ne_of_gt h.numbered
      refine .inl ⟨m, ?_, List.append_nil _⟩
      have alarm : Leaves n s (s.setAlarm (s.now + 1000 * max 1 seconds)
          (.sweeper s.sweepersStarted)) := .setAlarm fun same => other (Sleeper.sweeper.inj same)
      exact { h.leaves alarm with
        numbered := Nat.lt_succ_of_lt h.numbered
        works := (find?_other _ other).trans h.works }
    | stopSweeper =>
      simp only [Simulation.perform, stopSweeper]
      split
      · exact .inl ⟨m, h, List.append_nil _⟩
      case h_2 k _ =>
        by_cases same : k = n
        · refine .inr ⟨trivial, h.numbered, List.find?_eq_none.2 fun w mw => ?_⟩
          have other := (List.mem_filter.1 mw).2
          simpa [same] using other
        · refine .inl ⟨m, { h with works := ?_ }, List.append_nil _⟩
          have works := h.works
          rw [sweeper?] at works ⊢
          rw [List.find?_filter, ← works]
          congr 1
          funext w
          by_cases number : w.number = n
          · simp [number, Ne.symm same]
          · simp [number]
    | _ => cases ordinary

/-- In a session a sweeper passes at the end of every interval, as long as it is not stopped. -/
lemma session (h : Beats n since interval m s) (commands : List Command) :
    (∃ m', Beats n since interval m' (s.session commands) ∧
        beats n since interval m ++ passesOf n (s.uses commands) = beats n since interval m') ∨
      .stopSweeper ∈ commands ∧ Stopped n (s.session commands) := by
  induction commands generalizing s m with
  | nil => exact .inl ⟨m, h, List.append_nil _⟩
  | cons c commands ih =>
    rcases h.perform c with ⟨_, performed, during⟩ | ⟨rfl, stopped⟩
    · rcases ih performed with ⟨m', there, after⟩ | ⟨told, stopped⟩
      · refine .inl ⟨m', there, ?_⟩
        rw [uses, passesOf_append, ← List.append_assoc, during, after]
      · exact .inr ⟨List.mem_cons_of_mem _ told, stopped⟩
    · exact .inr ⟨List.mem_cons_self, (stopped.session commands).1⟩

/-- How often a sweeper has passed is told by the clock. -/
lemma count (h : Beats n since interval m s) : (s.now - since) / interval = m := by
  have passed := h.passed
  have soon := h.soon
  apply Nat.div_eq_of_lt_le
  · omega
  · omega

/-- Once a sweeper has passed, no entry has outlived its time by an interval. -/
lemma young {ttl : Nat} (h : Beats n since interval m s)
    (lives : s.edge.store.limits.ttl = some ttl) (late : since + interval ≤ s.now) :
    ∀ x ∈ s.edge.store.slots, s.now - x.putAt < ttl + interval := by
  intro x mx
  have soon := h.soon
  have some_passed : m ≠ 0 := by
    rintro rfl
    rw [Nat.zero_add, Nat.one_mul] at soon
    exact absurd late (Nat.not_le.2 soon)
  have swept := h.swept some_passed
  refine swept.store.age lives swept.past ?_ mx
  rwa [Nat.succ_mul, ← Nat.add_assoc] at soon

/-- A sweeper that is not at work any more has been stopped. -/
lemma stopped {commands : List Command} (h : Beats n since interval m s)
    (idle : (s.session commands).sweeper? n = none) : Stopped n (s.session commands) := by
  rcases h.session commands with ⟨_, there, _⟩ | ⟨_, stopped⟩
  · rw [there.works] at idle
    cases idle
  · exact stopped

end Beats

/-- To start a sweeper leaves the cache as it is: nothing is swept before the first interval is over. -/
lemma startSweeper_edge (seconds : Nat) : (s.perform (.startSweeper seconds)).edge = s.edge := rfl

/-- To stop a sweeper leaves the cache as it is. -/
lemma stopSweeper_edge : (s.perform .stopSweeper).edge = s.edge := by
  simp only [perform, stopSweeper]
  split <;> rfl

/-- Stopping the sweeper that was started last leaves it idle. -/
lemma stop_idle (last : s.sweeper = some n) : (s.perform .stopSweeper).sweeper? n = none := by
  simp only [perform, stopSweeper, last]
  refine List.find?_eq_none.2 fun w mw => ?_
  have other := (List.mem_filter.1 mw).2
  simpa using other

/-- Waking a sweeper that is not at work changes nothing. -/
lemma wake_idle (idle : s.sweeper? n = none) : s.wake (.sweeper n) = s := by
  rw [sweeper?] at idle
  simp only [wake, wakeSweeper, idle]

/-- No session changes the limits of the store. -/
lemma Stands.session_limits (h : Stands s) (commands : List Command) :
    (s.session commands).edge.store.limits = s.edge.store.limits := by
  obtain ⟨_, _, ⟨events, _, ran⟩, _⟩ := h.session commands
  rw [ran]
  exact Edge.run_limits

/-- Dead entries do not linger. A sweeper is started at some moment over a store with a time to live,
whatever has happened before and whatever happens after. To start it leaves the cache as it is, and
(1) it is at work as long as nobody stops a sweeper;
(2) whatever goes on is a run of the cache in which the store is used directly, by sweeps and otherwise,
just as the log tells;
(3) as long as the sweeper is at work, its passes are sweeps at the end of every interval since its
start, and no others;
(4) from the end of the first interval on, no entry has outlived its time by an interval;
(5) to stop the sweeper leaves the cache as it is, and once it has been stopped it never passes again,
and waking it changes nothing;
(6) no sweep, in any run, removes an entry before its time. -/
theorem dead_entries_do_not_linger (setup : Setup) (router : Http.Router)
    (capacity ttl batch : Nat) (origin : ScriptedOrigin) (before : List Command) (seconds : Nat) :
    let limits : Limits := ⟨capacity, some ttl, batch⟩
    let s := session { start setup router limits false with origin } before
    let n := s.sweepersStarted
    let interval := 1000 * max 1 seconds
    let started := s.perform (.startSweeper seconds)
    (started.edge = s.edge ∧ started.sweeper = some n ∧ ∀ after,
      let t := started.session after
      (.stopSweeper ∉ after → t.sweeper? n ≠ none) ∧
      (∀ later, ∃ events, (t.session later).edge = Edge.run setup t.edge events ∧
        Edge.uses setup t.edge events = (t.uses later).map Use.told) ∧
      (t.sweeper? n ≠ none →
        passesOf n (started.uses after) = beats n s.now interval ((t.now - s.now) / interval) ∧
        (s.now + interval ≤ t.now →
          ∀ x ∈ t.edge.store.slots, t.now - x.putAt < ttl + interval)) ∧
      (t.perform .stopSweeper).edge = t.edge ∧
      (t.sweeper = some n → (t.perform .stopSweeper).sweeper? n = none) ∧
      (t.sweeper? n = none → ∀ later,
        passesOf n (t.uses later) = [] ∧
        (t.session later).wake (.sweeper n) = t.session later)) ∧
    ∀ events,
      let e := Edge.run setup (Edge.start limits) events
      ∀ x ∈ e.store.slots, x ∉ (e.step setup .sweep).store.slots → ttl ≤ e.now - x.putAt := by
  intro limits s n interval started
  have unheard : Numbered { start setup router limits false with origin } := start_numbered
  obtain ⟨numbered, plain⟩ := unheard.session before
  have beats : Beats n s.now interval 0 started := .start numbered plain seconds
  have stands : Stands s := (start_stands.session before).1
  have first : Logged { start setup router limits false with origin } _ s := .session before
  have same : started.setup = setup := first.setup
  refine ⟨⟨startSweeper_edge seconds, rfl, fun after => ?_⟩, fun events => ?_⟩
  · intro t
    have lives : t.edge.store.limits.ttl = some ttl := by
      have later := (stands.perform (.startSweeper seconds)).session_limits after
      have earlier : s.edge.store.limits = limits := start_stands.session_limits before
      exact congrArg Limits.ttl (later.trans earlier)
    refine ⟨fun untold => ?_, fun later => ?_, fun works => ?_, stopSweeper_edge, stop_idle,
      fun idle later => ?_⟩
    · rcases beats.session after with ⟨_, there, _⟩ | ⟨told, _⟩
      · rw [there.works]
        nofun
      · exact absurd told untold
    · have went : Logged started _ t := .session after
      have logged : Logged t _ (t.session later) := .session later
      have run := logged.run
      rwa [went.setup, same] at run
    · rcases beats.session after with ⟨m, there, passed⟩ | ⟨_, stopped⟩
      · rw [there.count]
        exact ⟨passed, there.young lives⟩
      · exact absurd stopped.idle works
    · obtain ⟨still, none_passed⟩ := (beats.stopped idle).session later
      exact ⟨none_passed, wake_idle still.idle⟩
  · intro e x mx gone
    have same : e.store.limits = limits := Edge.run_limits
    exact Store.sweep_spares_young (congrArg Limits.ttl same) mx gone

/-- An entry that lives for a millisecond is gone after the first interval, at the end of which the
store is swept for the first time. -/
theorem dead_entries_do_not_linger_second :
    let setup : Setup := ⟨fun _ => .ok (), 2⟩
    let s := session { start setup ⟨['/']⟩ ⟨0, some 1, 1⟩ false with origin := .silent } []
    let started := s.perform (.startSweeper 1)
    let after : List Command := [.put (Key.letter 'a' (by decide)) (.failure 404), .advance 1000]
    let t := started.session after
    started.edge = s.edge ∧
      (∃ events, t.edge = Edge.run setup started.edge events ∧
        (1000, .sweep) ∈ Edge.uses setup started.edge events) ∧
      passesOf s.sweepersStarted (started.uses after) = [⟨some s.sweepersStarted, 1000, .sweep⟩] ∧
      ∀ x ∈ t.edge.store.slots, t.now - x.putAt < 1 + 1000 := by
  intro setup s started after t
  have advanced (ms : Nat) : (started.session
      [.put (Key.letter 'a' (by decide)) (.failure 404), .advance ms]).now = ms :=
    (advance_now ms).trans (Nat.zero_add ms)
  have now : t.now = 1000 := advanced 1000
  have zero : s.now = 0 := rfl
  have second : 1000 * max 1 1 = 1000 := rfl
  obtain ⟨⟨unswept, _, sessions⟩, _⟩ := dead_entries_do_not_linger setup ⟨['/']⟩ 0 1 1 .silent [] 1
  obtain ⟨works, _, passing, _⟩ := sessions after
  have runs (later : List Command) : ∃ events, (started.session later).edge =
      Edge.run setup started.edge events ∧
      Edge.uses setup started.edge events = (started.uses later).map Use.told :=
    (sessions []).2.1 later
  rw [second] at passing
  obtain ⟨passed, young⟩ := passing (works (by simp [after]))
  have once : passesOf s.sweepersStarted (started.uses after) =
      [⟨some s.sweepersStarted, 1000, .sweep⟩] := by
    rw [passed, now, zero]
    rfl
  refine ⟨unswept, ?_, once, ?_⟩
  · obtain ⟨events, ran, swept⟩ := runs after
    refine ⟨events, ran, ?_⟩
    have there : ⟨some s.sweepersStarted, 1000, .sweep⟩ ∈
        passesOf s.sweepersStarted (started.uses after) := by
      rw [once]
      exact List.mem_singleton_self _
    rw [swept]
    exact List.mem_map_of_mem (f := Use.told) (List.mem_filter.1 there).1
  · have late : s.now + 1000 = t.now := by rw [now, zero, Nat.zero_add]
    exact young (Nat.le_of_eq late)

end Simulation

end EdgeCache
