import EdgeCache.Proofs.Simulation.Quiet
import EdgeCache.Simulation.Session

/-!
# Sessions come to rest

Every command leaves a simulation sound and quiet. So at the start of the next one everything that
could run has run, whatever came before.
-/

namespace EdgeCache.Simulation

open Coordinator

variable {s : Simulation} {r : Request}

/-- A command that makes the store fail. -/
def Command.isFault : Command → Bool
  | .reading _ => true
  | .writing _ => true
  | _ => false

/-! ## Tasks -/

/-- A task is started, and has its name if it is given one. -/
def enlist (started : List Task × Simulation) (request : Option String × Request) :
    List Task × Simulation :=
  let (t, s) := addTask started.2 request.2
  (started.1 ++ [t], match request.1 with
    | some id => s.name id t
    | none => s)

/-- Tasks are started one by one, and their callers launched together. -/
lemma perform_ask (s : Simulation) (requests : List (Option String × Request)) :
    s.perform (.ask requests) =
      (requests.foldl enlist ([], s)).2.launch (callersOf (requests.foldl enlist ([], s)).1) := rfl

/-- A request that is answered at once is a task with its answer. -/
lemma addTask_error {a : Answer} (h : s.demand r = .error a) :
    s.addTask r = (.answered a, s) := by
  simp only [addTask, h]

/-- A request that is a call is a task with the next caller. -/
lemma addTask_ok {key : Key} {view : View} (h : s.demand r = .ok (key, view)) :
    s.addTask r = (.calling s.callers view,
      { s.happen (.call s.callers key) with callers := s.callers + 1 }) := by
  simp only [addTask, h]

/-- The next number has not been given to a caller. -/
lemma Sound.free (sound : Sound s) : s.coordinator.caller? s.callers = none := by
  refine caller?_none_iff.2 fun there => ?_
  obtain ⟨x, mx, same⟩ := List.mem_map.1 there
  exact absurd (sound.numbered x mx) (same ▸ Nat.lt_irrefl _)

/-- A new caller takes the next number. -/
lemma Sound.call (sound : Sound s) (key : Key) :
    Sound { s.happen (.call s.callers key) with callers := s.callers + 1 } := by
  have sh := step_shift s.setup s.edge (.call s.callers key)
  have callers : (s.happen (.call s.callers key)).coordinator.callers =
      s.coordinator.callers ++ [⟨s.callers, key, .idle⟩] := by
    simp only [coordinator, happen, Edge.step, Edge.act, Coordinator.call]
    rw [if_neg]
    rw [Option.isSome_iff_ne_none, not_not]
    exact sound.free
  constructor
  case orderly => exact sh.traffic.orderly sound.orderly
  case numbered =>
    intro x mx
    rcases List.mem_append.1 (callers ▸ mx) with mx | mx
    · exact Nat.lt_succ_of_lt (sound.numbered x mx)
    · rw [List.mem_singleton.1 mx]
      exact Nat.lt_succ_self _
  case distinct =>
    have ids : (s.happen (.call s.callers key)).coordinator.callers.map Caller.id =
        s.coordinator.callers.map Caller.id ++ [s.callers] := by
      rw [callers, List.map_append]
      rfl
    refine ids ▸ List.nodup_append.2 ⟨sound.distinct, List.nodup_singleton _, ?_⟩
    intro i mi j mj same
    rw [same, List.mem_singleton.1 mj] at mi
    exact caller?_none_iff.1 sound.free mi
  case intervals => exact sound.intervals

/-- A task that is started leaves a simulation sound. -/
lemma Sound.enlist {tasks : List Task} {name? : Option String} (sound : Sound s) :
    Sound (enlist (tasks, s) (name?, r)).2 := by
  have added : Sound (s.addTask r).2 := by
    cases d : s.demand r with
    | error a =>
      rw [addTask_error d]
      exact sound
    | ok kv =>
      rw [addTask_ok d]
      exact sound.call kv.1
  cases name? with
  | none => exact added
  | some name => exact ⟨added.orderly, added.numbered, added.distinct, added.intervals⟩

/-- So do several. -/
lemma Sound.enlist_all (sound : Sound s) (requests : List (Option String × Request)) :
    Sound (requests.foldl Simulation.enlist ([], s)).2 := by
  refine List.foldlRecOn (motive := fun t : List Task × Simulation => Sound t.2) requests _ sound ?_
  rintro ⟨tasks, t⟩ sound ⟨name?, r⟩ _
  exact sound.enlist

/-! ## Commands -/

/-- A call that is cancelled leaves the flights and those who wait. -/
lemma cancel_leaves (id : Nat) (c : Coordinator) :
    SameFlights c (c.cancel id) ∧
      ∀ x ∈ (c.cancel id).callers, ∀ f, x.stage = .waiting f → x ∈ c.callers := by
  have moved : ∀ x ∈ (c.setStage id .cancelled).callers, ∀ f, x.stage = .waiting f →
      x ∈ c.callers := by
    intro x mx f waits
    obtain ⟨y, my, rfl⟩ := List.mem_map.1 mx
    split at waits
    case isTrue => cases waits
    case isFalse ne => rwa [if_neg ne]
  have still : ∀ x ∈ c.callers, ∀ f, x.stage = .waiting f → x ∈ c.callers := fun _ mx _ _ => mx
  simp only [Coordinator.cancel]
  split
  · exact ⟨.refl, still⟩
  · split
    · exact ⟨setStage_flights, moved⟩
    · exact ⟨setStage_flights, moved⟩
    · exact ⟨.refl, still⟩
    · exact ⟨.refl, still⟩

/-- Permits change nothing about who there is. -/
lemma release_kept (sound : Sound s) (key : String) (permits : Nat) :
    Kept s (s.release key permits) := by
  have opened := Kept.of_travels (.of_flies (.release (s := s) key permits))
  exact opened.trans (.settle (opened.sound sound))

/-- A command leaves a simulation sound and quiet. -/
theorem perform_quiet (sound : Sound s) (q : Quiet s) (c : Command) :
    Sound (s.perform c) ∧ Quiet (s.perform c) := by
  -- What is done to the store or to the origin does not concern those who wait.
  have aside {s' : Simulation} (kept : Kept s s') (alarms : s'.alarms = s.alarms)
      (now : s'.now = s.now) (callers : s'.coordinator.callers = s.coordinator.callers)
      (flights : SameFlights s.coordinator s'.coordinator) : Sound s' ∧ Quiet s' := by
    refine ⟨kept.sound sound, q.congr (fun a ma => ?_) (fun x mx _ _ => callers ▸ mx) flights⟩
    simp only [isDue, now]
    exact q.alarms a (alarms ▸ ma)
  have shelved (shelf : Shelf) :
      let s' : Simulation := { s with
        edge := { s.edge with coordinator := { s.coordinator with shelf } } }
      Sound s' ∧ Quiet s' := by
    have same : SameFlights s.coordinator { s.coordinator with shelf } := ⟨rfl, rfl, rfl, rfl⟩
    exact aside ⟨rfl, rfl, rfl, rfl, fun inv => inv.congr same⟩ rfl rfl rfl same
  cases c with
  | ask requests =>
    have enlisted := sound.enlist_all requests
    obtain ⟨kept, quiet⟩ := launch_quiet enlisted (callersOf (requests.foldl enlist ([], s)).1)
    rw [perform_ask]
    exact ⟨kept.sound enlisted, quiet⟩
  | poll name => exact ⟨sound, q⟩
  | cancel name =>
    simp only [perform, Simulation.cancel]
    split
    case h_1 id view _ =>
      obtain ⟨flights, callers⟩ := cancel_leaves id s.coordinator
      have kept : Kept s (s.happen (.cancel id)) := .happen fun _ _ => by simp
      exact ⟨kept.sound sound, q.congr q.alarms callers flights⟩
    case h_2 => exact ⟨sound, q⟩
  | script key script => exact aside ⟨rfl, rfl, rfl, rfl, id⟩ rfl rfl rfl .refl
  | disconnect => exact aside ⟨rfl, rfl, rfl, rfl, id⟩ rfl rfl rfl .refl
  | release key permits =>
    have kept := release_kept sound key permits
    have opened := Travels.of_flies (.release (s := s) key permits)
    have sound' := (Kept.of_travels opened).sound sound
    refine ⟨kept.sound sound, settle_quiet sound' fun y my => ?_⟩
    cases d : y.departed with
    | some t => rfl
    | none =>
      rw [← d]
      exact q.flights y (opened.flights y my d)
  | advance ms =>
    obtain ⟨kept, quiet⟩ := advance_quiet sound q ms
    exact ⟨kept.sound sound, quiet⟩
  | startSweeper seconds =>
    have pos : 0 < 1000 * max 1 seconds := by omega
    constructor
    · refine ⟨sound.orderly, sound.numbered, sound.distinct, fun w mw => ?_⟩
      rcases List.mem_append.1 mw with mw | mw
      · exact sound.intervals w mw
      · rw [List.mem_singleton.1 mw]
        exact pos
    · refine q.congr (fun a ma => ?_) (fun _ mx _ _ => mx) .refl
      rcases List.mem_append.1 ma with ma | ma
      · exact q.alarms a ma
      · rw [List.mem_singleton.1 ma]
        exact decide_eq_false (Nat.not_le.2 (Nat.lt_add_of_pos_right pos))
  | stopSweeper =>
    simp only [perform, Simulation.stopSweeper]
    split
    · exact ⟨sound, q⟩
    · refine ⟨⟨sound.orderly, sound.numbered, sound.distinct, fun w mw => ?_⟩,
        q.congr q.alarms (fun _ mx _ _ => mx) .refl⟩
      exact sound.intervals w (List.mem_filter.1 mw).1
  | sweepOnce =>
    simp only [perform, Simulation.sweepOnce]
    split
    · exact ⟨sound, q⟩
    · exact shelved _
  | reading script =>
    simp only [perform, Simulation.script]
    split
    · exact ⟨sound, q⟩
    · exact shelved _
  | writing script =>
    simp only [perform, Simulation.script]
    split
    · exact ⟨sound, q⟩
    · exact shelved _
  | put key entry => exact shelved _
  | get key => exact shelved _
  | sweep => exact shelved _
  | clear => exact shelved _

end EdgeCache.Simulation
