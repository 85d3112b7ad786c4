import EdgeCache.Proofs.Coordinator.FanOut
import EdgeCache.Proofs.Coordinator.Refetch
import Mathlib.Algebra.BigOperators.Group.Finset.Basic

/-!
# Accounts

What the counters of calls count. A call is entered once, when it runs for the first time, and under
one of four heads; a flight is counted when it is dispatched and asks the origin when it departs; and
a call that returns a fault is an error.
-/

namespace EdgeCache

/-- What becomes of a call when it runs for the first time. -/
inductive Verdict where
  | hit
  | miss
  | joined
  /-- Its key has no address, or the store fails a lookup. -/
  | refused
  deriving DecidableEq

/-- The counter of a head; calls that are refused have none. -/
def Tally.under (t : Tally) : Verdict → Nat
  | .hit => t.hits
  | .miss => t.misses
  | .joined => t.coalesced
  | .refused => 0

/-- Enters a call. -/
def Tally.enter (t : Tally) : Verdict → Tally
  | .hit => { t with hits := t.hits + 1 }
  | .miss => { t with misses := t.misses + 1 }
  | .joined => { t with coalesced := t.coalesced + 1 }
  | .refused => t

/-- Whether a caller has been returned a fault. -/
def Stage.isFault : Stage → Bool
  | finished (.error _) => true
  | _ => false

namespace Edge

/-- What a call for a key comes to that runs at this moment for the first time. -/
def verdict (setup : Setup) (e : Edge) (k : Key) : Verdict :=
  match setup.accepts k, e.look k, e.coordinator.registry.lookup k, e.lookAgain k with
  | .error _, _, _, _ => .refused
  | .ok (), .error _, _, _ => .refused
  | .ok (), .ok (some _), _, _ => .hit
  | .ok (), .ok none, some _, _ => .joined
  | .ok (), .ok none, none, .error _ => .refused
  | .ok (), .ok none, none, .ok (some _) => .hit
  | .ok (), .ok none, none, .ok none => .miss

/-- The call that an event runs for the first time, and what it comes to. -/
def firstRun? (setup : Setup) (e : Edge) : Event → Option (Nat × Verdict)
  | .poll id =>
    match e.coordinator.caller? id with
    | some ⟨_, k, .idle⟩ => some (id, e.verdict setup k)
    | _ => none
  | _ => none

/-- The calls that have run along a run, in the order of their first runs. -/
def firstRuns (setup : Setup) (e : Edge) (events : List Event) : List (Nat × Verdict) :=
  notes setup (firstRun? setup) e events

/-- A call runs at this moment if it is polled. -/
def Runs (e : Edge) (id : Nat) : Prop :=
  ∃ w, e.coordinator.caller? id = some w ∧ w.stage.isOpen = true

end Edge

namespace Coordinator

variable {setup : Setup} {now : Nat} {c c' : Coordinator} {ev : Event} {k : Key}

/-! ## What an event adds -/

/-- A new stage counts nothing. -/
lemma setStage_tally {id st} : (c.setStage id st).tally = c.tally := rfl

/-- A result is counted if it is a fault. -/
lemma finish_tally {id r} :
    (c.finish id r).tally =
      { c.tally with errors := c.tally.errors + (Stage.isFault (.finished r)).toNat } := by
  cases r <;> rfl

/-- What an ending brings is counted if it is a failure. -/
lemma landing_tally {f how} :
    (c.landing now f how).tally =
      { c.tally with
        negativeStored :=
          c.tally.negativeStored + (how.entry?.any Entry.isNegative).toNat } := by
  cases how with
  | arrived e => cases e <;> rfl
  | refused fault => rfl
  | crashed => rfl
  | timedOut => rfl

/-- A call that is resolved is counted under its verdict. -/
lemma Resolves.tally {e : Edge} {p} (res : Resolves setup e.now k e.coordinator p c') :
    c'.tally = e.coordinator.tally.enter (e.verdict setup k) := by
  cases res with
  | refused no => simp only [Edge.verdict, no, Tally.enter]
  | failed ok g => simp only [Edge.verdict, ok, Edge.look, g, Tally.enter]
  | hit ok g => simp only [Edge.verdict, ok, Edge.look, g, Tally.enter]
  | joined ok g reg => simp only [Edge.verdict, ok, Edge.look, g, reg, Tally.enter]
  | failedAgain ok g reg g' =>
    simp only [Edge.verdict, ok, Edge.look, Edge.lookAgain, g, reg, g', Tally.enter]
  | hitAgain ok g reg g' =>
    simp only [Edge.verdict, ok, Edge.look, Edge.lookAgain, g, reg, g', Tally.enter]
  | dispatched ok g reg g' =>
    simp only [Edge.verdict, ok, Edge.look, Edge.lookAgain, g, reg, g', Tally.enter,
      Coordinator.dispatched]

/-- A call is entered under its head and no other. -/
lemma enter_under {t : Tally} {v w : Verdict} (counted : w ≠ .refused) :
    (t.enter v).under w = t.under w + (v == w).toNat := by
  cases w with
  | refused => exact absurd rfl counted
  | hit => cases v <;> rfl
  | miss => cases v <;> rfl
  | joined => cases v <;> rfl

end Coordinator

namespace Edge

open Coordinator

variable {setup : Setup} {e : Edge} {ev : Event} {events : List Event} {id : Nat} {w : Caller}

/-- A call runs for the first time while it is idle. -/
lemma firstRun?_iff {v : Verdict} :
    e.firstRun? setup ev = some (id, v) ↔
      ∃ w, ev = .poll id ∧ e.coordinator.caller? id = some w ∧ w.stage = .idle ∧
        v = e.verdict setup w.key := by
  constructor
  · intro noted
    simp only [firstRun?] at noted
    split at noted
    case h_2 => cases noted
    case h_1 id' =>
      split at noted
      case h_2 => cases noted
      case h_1 i k h =>
        cases noted
        exact ⟨_, rfl, h, rfl, rfl⟩
  · rintro ⟨⟨i, k, st⟩, rfl, h, rfl, rfl⟩
    simp only [firstRun?, h]

/-- A call that runs for the first time is entered, whatever it gets. -/
lemma step_entered {v : Verdict} (noted : e.firstRun? setup ev = some (id, v)) :
    ∃ n m, (e.step setup ev).coordinator.tally =
      { e.coordinator.tally.enter v with negativeStored := n, errors := m } := by
  obtain ⟨w, rfl, h, idle, rfl⟩ := firstRun?_iff.1 noted
  rcases eq : e.coordinator.resolve setup e.now w.key with ⟨r | f, c⟩
  · have polled : (e.step setup (.poll id)).coordinator = c.finish id r :=
      poll_answered h idle eq
    rw [polled, finish_tally, (resolve_inv eq).tally]
    exact ⟨_, _, rfl⟩
  · have polled : (e.step setup (.poll id)).coordinator = c.setStage id (.waiting f) :=
      poll_attached h idle eq
    rw [polled, setStage_tally, (resolve_inv eq).tally]
    exact ⟨_, _, rfl⟩

/-- An event that is nobody's first run leaves hits, misses and joined calls as they are. -/
lemma step_unentered (unnoted : e.firstRun? setup ev = none) :
    ∃ n m, (e.step setup ev).coordinator.tally =
      { e.coordinator.tally with negativeStored := n, errors := m } := by
  have unrun {id w} (polled : ev = .poll id) (h : e.coordinator.caller? id = some w) :
      w.stage ≠ .idle := by
    intro idle
    rw [firstRun?_iff.2 ⟨w, polled, h, idle, rfl⟩] at unnoted
    cases unnoted
  generalize eq : (e.step setup ev).coordinator = c
  have sh := step_shift setup e ev
  rw [eq] at sh
  cases sh with
  | still => exact ⟨_, _, rfl⟩
  | shelved => exact ⟨_, _, rfl⟩
  | called => exact ⟨_, _, rfl⟩
  | answered h idle => exact absurd idle (unrun rfl h)
  | attached h idle => exact absurd idle (unrun rfl h)
  | received => exact ⟨_, _, finish_tally⟩
  | abandoned => exact ⟨_, _, rfl⟩
  | departed => exact ⟨_, _, rfl⟩
  | landed => exact ⟨_, _, landing_tally⟩

/-- A counter goes up with every first run that comes under its head. -/
lemma step_under {v : Verdict} (counted : v ≠ .refused) :
    (e.step setup ev).coordinator.tally.under v =
      e.coordinator.tally.under v + (e.firstRun? setup ev).toList.countP (·.2 == v) := by
  have aside {t : Tally} {n m : Nat} :
      ({ t with negativeStored := n, errors := m } : Tally).under v = t.under v := by
    cases v <;> rfl
  cases noted : e.firstRun? setup ev with
  | none =>
    obtain ⟨n, m, eq⟩ := step_unentered noted
    rw [eq, aside]
    rfl
  | some run =>
    obtain ⟨n, m, eq⟩ := step_entered noted
    rw [eq, aside, enter_under counted, Option.toList_some, List.countP_singleton]
    cases run.2 == v <;> rfl

/-! ## One first run for each call -/

/-- A caller that has begun has not run for the first time again. -/
lemma run_begun (events : List Event)
    (h : ∃ w, e.coordinator.caller? id = some w ∧ w.stage ≠ .idle) :
    ∃ w, (run setup e events).coordinator.caller? id = some w ∧ w.stage ≠ .idle := by
  refine run_keeps (P := fun e => ∃ w, e.coordinator.caller? id = some w ∧ w.stage ≠ .idle) ?_ h
  rintro e ev ⟨w, h, begun⟩
  obtain ⟨st, h', mv⟩ := (step_shift setup e ev).caller h
  refine ⟨_, h', ?_⟩
  cases mv with
  | rests => exact begun
  | answered => exact Stage.noConfusion
  | attached => exact Stage.noConfusion
  | received => exact Stage.noConfusion
  | abandoned => exact Stage.noConfusion

/-- Nobody runs for the first time twice. -/
lemma firstRuns_nodup : ((firstRuns setup e events).map Prod.fst).Nodup := by
  induction events using List.reverseRecOn with
  | nil => exact .nil
  | append_singleton events ev ih =>
    rw [firstRuns, notes_concat, List.map_append, List.nodup_append]
    refine ⟨ih, ?_, ?_⟩
    · cases e : firstRun? setup (run setup e events) ev with
      | none => exact .nil
      | some r => exact List.nodup_singleton _
    · intro i mi j mj same
      subst same
      obtain ⟨⟨_, v⟩, mr, rfl⟩ := List.mem_map.1 mi
      obtain ⟨⟨_, v'⟩, mr', rfl⟩ := List.mem_map.1 mj
      obtain ⟨before, ev₁, after, rfl, first⟩ := mem_notes_iff.1 mr
      obtain ⟨w, rfl, h, idle, _⟩ := firstRun?_iff.1 first
      obtain ⟨w', rfl, h', idle', _⟩ := firstRun?_iff.1 (Option.mem_toList.1 mr')
      -- By the second of the two first runs the caller has begun.
      obtain ⟨st, polled, begun⟩ := step_poll_idle setup h idle
      obtain ⟨x, hx, begun⟩ := run_begun after ⟨_, polled, begun⟩
      rw [← run_through, h'] at hx
      cases hx
      exact begun idle'

/-- A caller that waits has run for the first time before. -/
lemma waiting_ran {limits f} (h : (run setup (start limits) events).coordinator.caller? id = some w)
    (waits : w.stage = .waiting f) :
    id ∈ (firstRuns setup (start limits) events).map Prod.fst := by
  induction events using List.reverseRecOn generalizing w with
  | nil => cases h
  | append_singleton events ev ih =>
    rw [run_append] at h
    rw [firstRuns, notes_concat, List.map_append, List.mem_append]
    have sh := step_shift setup (run setup (start limits) events) ev
    cases before : (run setup (start limits) events).coordinator.caller? id with
    | none =>
      obtain ⟨_, idle⟩ := sh.caller_new before h
      rw [idle] at waits
      cases waits
    | some x =>
      obtain ⟨st, h', mv⟩ := sh.caller before
      rw [show (run setup _ [ev]) = (run setup (start limits) events).step setup ev from rfl, h'] at h
      cases h
      cases mv with
      | rests => exact .inl (ih before waits)
      | answered => cases waits
      | attached polled idle =>
        obtain rfl := caller?_id before
        have noted : firstRun? setup (run setup (start limits) events) ev =
            some (x.id, verdict setup (run setup (start limits) events) x.key) :=
          firstRun?_iff.2 ⟨x, polled, before, idle, rfl⟩
        exact .inr (List.mem_map_of_mem (Option.mem_toList.2 noted))
      | received => cases waits
      | abandoned => cases waits

/-- The calls that have run are those that were polled while they were open. -/
lemma mem_firstRuns_iff {limits} :
    id ∈ (firstRuns setup (start limits) events).map Prod.fst ↔
      ∃ before after, events = before ++ .poll id :: after ∧
        (run setup (start limits) before).Runs id := by
  constructor
  · intro m
    obtain ⟨⟨_, v⟩, mr, rfl⟩ := List.mem_map.1 m
    obtain ⟨before, ev, after, rfl, noted⟩ := mem_notes_iff.1 mr
    obtain ⟨w, rfl, h, idle, _⟩ := firstRun?_iff.1 noted
    exact ⟨before, after, rfl, w, h, by rw [idle]; rfl⟩
  · rintro ⟨before, after, rfl, w, h, opn⟩
    rw [firstRuns, notes_append, List.map_append, List.mem_append]
    rcases isOpen_iff.1 opn with idle | ⟨f, waiting⟩
    · have noted : firstRun? setup (run setup (start limits) before) (.poll id) =
          some (id, verdict setup (run setup (start limits) before) w.key) :=
        firstRun?_iff.2 ⟨w, rfl, h, idle, rfl⟩
      exact .inr (List.mem_map_of_mem (mem_notes_iff.2 ⟨[], _, after, rfl, noted⟩))
    · exact .inl (waiting_ran h waiting)

/-- What a call has come to is what it came to where it was polled first. -/
lemma mem_firstRuns {v : Verdict} :
    (id, v) ∈ firstRuns setup e events ↔
      ∃ before after w, events = before ++ .poll id :: after ∧
        (run setup e before).coordinator.caller? id = some w ∧ w.stage = .idle ∧
          v = (run setup e before).verdict setup w.key := by
  rw [firstRuns, mem_notes_iff]
  constructor
  · rintro ⟨before, ev, after, rfl, noted⟩
    obtain ⟨w, rfl, h, idle, eq⟩ := firstRun?_iff.1 noted
    exact ⟨before, after, w, rfl, h, idle, eq⟩
  · rintro ⟨before, after, w, rfl, h, idle, eq⟩
    exact ⟨before, _, after, rfl, firstRun?_iff.2 ⟨w, rfl, h, idle, eq⟩⟩

/-- Whoever has run has got one verdict of the four. -/
lemma length_eq_heads (ran : List (Nat × Verdict)) :
    ran.countP (·.2 == .hit) + ran.countP (·.2 == .miss) + ran.countP (·.2 == .joined) +
      ran.countP (·.2 == .refused) = ran.length := by
  induction ran with
  | nil => rfl
  | cons r ran ih =>
    obtain ⟨id, v⟩ := r
    cases v <;> simp <;> omega

/-- As many calls are counted under a verdict as have got it. -/
lemma run_under {limits} {v : Verdict} (counted : v ≠ .refused) :
    (run setup (start limits) events).coordinator.tally.under v =
      (firstRuns setup (start limits) events).countP (·.2 == v) := by
  have none_yet : (start limits).coordinator.tally.under v = 0 := by cases v <;> rfl
  rw [run_counts (n := fun e => e.coordinator.tally.under v) fun _ _ => step_under counted,
    none_yet, Nat.zero_add]
  rfl

end Edge

namespace Coordinator

variable {setup : Setup} {now : Nat} {c c' : Coordinator} {ev : Event}

/-! ## Errors -/

/-- How many callers have been returned a fault. -/
def faults (c : Coordinator) : Nat := c.callers.countP (·.stage.isFault)

/-- Whoever gets to its end with a fault is one more. -/
lemma setStage_faults {id x st} (numbered : (c.callers.map Caller.id).Nodup)
    (h : c.caller? id = some x) (opn : x.stage.isOpen = true) :
    (c.setStage id st).faults = c.faults + st.isFault.toNat := by
  obtain rfl := caller?_id h
  have sound : x.stage.isFault = false := by
    rcases isOpen_iff.1 opn with st | ⟨f, st⟩
    · rw [st]
      rfl
    · rw [st]
      rfl
  have replaced := countP_replace (p := fun y : Caller => y.stage.isFault)
    (g := fun y => { y with stage := st }) numbered (List.mem_of_find?_eq_some h)
  rw [sound] at replaced
  exact replaced

/-- Whoever finishes with a fault is one more. -/
lemma finish_faults {id x r} (numbered : (c.callers.map Caller.id).Nodup)
    (h : c.caller? id = some x) (opn : x.stage.isOpen = true) :
    (c.finish id r).faults = c.faults + (Stage.isFault (.finished r)).toNat := by
  rw [← setStage_faults numbered h opn]
  cases r <;> rfl

/-- A step keeps the errors as many as the faults that callers have got. -/
lemma Shift.faults (sh : Shift setup now c ev c') (numbered : (c.callers.map Caller.id).Nodup)
    (counted : c.tally.errors = c.faults) : c'.tally.errors = c'.faults := by
  cases sh with
  | still => exact counted
  | shelved => exact counted
  | called =>
    simp only [Coordinator.faults, List.countP_append] at counted ⊢
    exact counted
  | @answered id x r c₁ h idle res =>
    have same := (resolve_inv res).callers
    have errors : c₁.tally.errors = c.tally.errors := by
      cases resolve_inv res <;> rfl
    rw [finish_tally, finish_faults (same ▸ numbered) ((caller?_congr same).trans h)
      (by rw [idle]; rfl), errors, counted, Coordinator.faults, Coordinator.faults, same]
  | @attached id x f c₁ h idle res =>
    have same := (resolve_inv res).callers
    have errors : c₁.tally.errors = c.tally.errors := by
      cases resolve_inv res <;> rfl
    rw [setStage_tally, setStage_faults (same ▸ numbered) ((caller?_congr same).trans h)
      (by rw [idle]; rfl), errors, counted, Coordinator.faults, Coordinator.faults, same]
    rfl
  | received h waiting =>
    rw [finish_tally, finish_faults numbered h (by rw [waiting]; rfl), counted]
  | abandoned h opn =>
    rw [setStage_tally, setStage_faults numbered h opn, counted]
    rfl
  | departed => exact counted
  | landed =>
    rw [landing_tally, Coordinator.faults, landing_callers]
    exact counted

/-! ## Questions to the origin -/

/-- How many flights under way have not asked the origin yet. -/
def unasked (c : Coordinator) : Nat := c.flights.countP (·.departed.isNone)

/-- A flight that asks the origin is one less that has not. -/
lemma departing_unasked {f x} (inv : Orderly c) (h : c.flight? f = some x)
    (unasked : x.departed = none) : (c.departing now f).unasked + 1 = c.unasked := by
  obtain ⟨mx, rfl⟩ := inv.flight?_iff.1 h
  have replaced := countP_replace (p := fun y : Flight => y.departed.isNone)
    (g := fun y => { y with departed := some now }) inv.ids_nodup mx
  rw [unasked] at replaced
  exact replaced

/-- A flight that ends is none of those that have not asked. -/
lemma close_unasked {f x how o} (inv : Orderly c) (h : c.flight? f = some x)
    (can : canLand setup now how x = true) : (c.close f o).unasked = c.unasked := by
  obtain ⟨mx, rfl⟩ := inv.flight?_iff.1 h
  simp only [unasked, close, List.countP_filter]
  refine List.countP_congr fun y my => ?_
  suffices y.departed.isNone = true → y.id ≠ x.id by simpa using this
  intro unasked same
  obtain rfl := inv.unique my mx (congrArg FlightId.key same)
  have asked := departed_of_canLand can
  rw [Option.isNone_iff_eq_none.1 unasked] at asked
  cases asked

/-- A flight is counted where it is dispatched, and the origin is asked where it departs. -/
lemma Shift.asked (sh : Shift setup now c ev c') (inv : Orderly c)
    (counted : c.tally.misses = c.asked.length + c.unasked) :
    c'.tally.misses = c'.asked.length + c'.unasked := by
  have same {c₁ : Coordinator} (s : SameFlights c c₁) (m : c₁.tally.misses = c.tally.misses) :
      c₁.tally.misses = c₁.asked.length + c₁.unasked := by
    rw [m, counted, unasked, unasked, s.asked, s.flights]
  cases sh with
  | still => exact counted
  | shelved => exact counted
  | called => exact counted
  | answered _ _ res =>
    have res := resolve_inv res
    refine same (res.done_flights.trans finish_flights) ?_
    rw [finish_tally]
    cases res <;> rfl
  | attached _ _ res =>
    cases resolve_inv res with
    | joined => exact counted
    | dispatched =>
      simp only [setStage, dispatched, unasked, List.countP_append, counted, Nat.add_assoc]
      rfl
  | received => exact same finish_flights (by rw [finish_tally])
  | abandoned => exact counted
  | @departed f x h d =>
    have one : (c.departing now f).unasked + 1 = c.unasked := departing_unasked inv h d
    have asked : (c.departing now f).asked.length = c.asked.length + 1 := List.length_append
    rw [asked, Nat.add_assoc, Nat.add_comm 1, one]
    exact counted
  | @landed f how x h can =>
    have s : SameFlights (c.close f (c.settle now f.key how).1) (c.landing now f how) :=
      landing_flights
    rw [landing_tally, s.asked, unasked, s.flights]
    have closed := close_unasked (o := (c.settle now f.key how).1) inv h can
    rw [unasked] at closed
    rw [closed]
    exact counted

end Coordinator

namespace Edge

open Coordinator

variable {setup : Setup} {limits : Limits} {events : List Event}

/-- Along every run the errors are the callers with faults. -/
lemma run_faults :
    let c := (run setup (start limits) events).coordinator
    c.tally.errors = c.faults := by
  refine run_keeps_along (P := fun e => e.coordinator.tally.errors = e.coordinator.faults)
    (Q := fun e => (e.coordinator.callers.map Caller.id).Nodup) (fun _ => run_numbered) ?_ rfl
  exact fun e ev numbered counted => (step_shift setup e ev).faults numbered counted

/-- The flights that have been counted have asked the origin or are about to. -/
lemma run_asked :
    let c := (run setup (start limits) events).coordinator
    c.tally.misses = c.asked.length + c.unasked := by
  refine run_keeps_along
    (P := fun e => e.coordinator.tally.misses = e.coordinator.asked.length + e.coordinator.unasked)
    (Q := fun e => Orderly e.coordinator) (fun _ => run_orderly) ?_ rfl
  exact fun e ev inv counted => (step_shift setup e ev).asked inv counted

/-- No more callers have run than have come. -/
lemma length_firstRuns_le :
    (firstRuns setup (start limits) events).length ≤
      (run setup (start limits) events).coordinator.callers.length := by
  have known : ((firstRuns setup (start limits) events).map Prod.fst) ⊆
      (run setup (start limits) events).coordinator.callers.map Caller.id := by
    intro id m
    obtain ⟨before, after, rfl, w, h, _⟩ := mem_firstRuns_iff.1 m
    rw [run_append]
    by_contra unknown
    refine run_keeps (P := fun e => e.coordinator.caller? id ≠ none) ?_ ?_
      (caller?_none_iff.2 unknown)
    · intro e ev there
      obtain ⟨x, h⟩ := Option.ne_none_iff_exists'.1 there
      obtain ⟨st, h', _⟩ := (step_shift setup e ev).caller h
      rw [h']
      exact nofun
    · rw [h]
      exact nofun
  have le := (List.subperm_of_subset firstRuns_nodup known).length_le
  rwa [List.length_map, List.length_map] at le

/-- At every moment of every run:
(1) the calls that have run are those that were polled while they were open, each of them once;
(2) what a call has come to is what it came to at its first poll;
(3) hits, misses and joined calls are the calls that came to that, and with those that were refused
they are all calls that have run, which are not more than there are callers;
(4) the misses are the questions to the origin and the flights that have not asked yet, so where
every flight has departed they are the questions for all keys together;
(5) the errors are the callers that have been returned a fault. -/
theorem calls_are_accounted (setup : Setup) (limits : Limits) (events : List Event) :
    let c := (run setup (start limits) events).coordinator
    let ran := firstRuns setup (start limits) events
    (ran.map Prod.fst).Nodup ∧
    (∀ id, id ∈ ran.map Prod.fst ↔ ∃ before after, events = before ++ .poll id :: after ∧
      (run setup (start limits) before).Runs id) ∧
    (∀ id v, (id, v) ∈ ran ↔ ∃ before after w, events = before ++ .poll id :: after ∧
      (run setup (start limits) before).coordinator.caller? id = some w ∧ w.stage = .idle ∧
      v = (run setup (start limits) before).verdict setup w.key) ∧
    c.tally.hits = ran.countP (·.2 == .hit) ∧
    c.tally.misses = ran.countP (·.2 == .miss) ∧
    c.tally.coalesced = ran.countP (·.2 == .joined) ∧
    c.tally.hits + c.tally.misses + c.tally.coalesced + ran.countP (·.2 == .refused) =
      ran.length ∧
    ran.length ≤ c.callers.length ∧
    c.tally.misses = c.asked.length + c.flights.countP (·.departed.isNone) ∧
    ((∀ x ∈ c.flights, x.departed.isSome = true) →
      c.tally.misses = ∑ k ∈ c.asked.toFinset, c.fetches k) ∧
    c.tally.errors = c.callers.countP (·.stage.isFault) := by
  intro c ran
  have head (v : Verdict) (counted : v ≠ .refused) : c.tally.under v = ran.countP (·.2 == v) :=
    run_under counted
  have hits : c.tally.hits = ran.countP (·.2 == .hit) := head .hit nofun
  have misses : c.tally.misses = ran.countP (·.2 == .miss) := head .miss nofun
  have joined : c.tally.coalesced = ran.countP (·.2 == .joined) := head .joined nofun
  have asked : c.tally.misses = c.asked.length + c.unasked := run_asked
  refine ⟨firstRuns_nodup, fun id => mem_firstRuns_iff, fun id v => mem_firstRuns, hits, misses,
    joined, ?_, length_firstRuns_le, asked, ?_, run_faults⟩
  · rw [hits, misses, joined, length_eq_heads]
  · intro departed
    have all_asked : c.unasked = 0 := by
      refine List.countP_eq_zero.2 fun x mx => ?_
      rw [← Option.not_isSome, departed x mx]
      exact nofun
    calc
      c.tally.misses = c.asked.length := by rw [asked, all_asked, Nat.add_zero]
      _ = ∑ k ∈ c.asked.toFinset, c.fetches k := (List.sum_toFinset_count_eq_length _).symm

/-- One caller asks for a key, another one joins it, and a third one has no address to ask. -/
theorem calls_are_accounted_refused :
    let a := Key.letter 'a' (by decide)
    let b := Key.letter 'b' (by decide)
    let setup : Setup := ⟨fun k => if k = b then .error (.malformedKey "b") else .ok (), 1⟩
    let events : List Event :=
      [.call 1 a, .call 2 a, .call 3 b, .poll 1, .poll 2, .poll 3, .depart ⟨a, 0⟩]
    let c := (run setup (start ⟨0, none, 1⟩) events).coordinator
    c.tally = ⟨0, 1, 1, 0, 1⟩ ∧ c.tally.misses = ∑ k ∈ c.asked.toFinset, c.fetches k := by
  intro a b setup events
  dsimp only
  obtain ⟨_, _, _, _, _, _, _, _, _, total, _⟩ :=
    calls_are_accounted setup ⟨0, none, 1⟩ events
  exact ⟨by decide +kernel, total (by decide +kernel)⟩

end Edge

end EdgeCache
