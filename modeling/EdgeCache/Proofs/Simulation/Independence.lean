import EdgeCache.Proofs.Simulation.Alike
import EdgeCache.Proofs.Simulation.Session
import Mathlib.Data.List.Basic

/-!
# Independence of keys

A session beside the one that is left of it when every command is taken out that is about other keys
only. What there is of the key is the same in both after every command: how far its callers are, how
often the origin was asked for it, whether it is in flight, and what the store has of it.
-/

namespace EdgeCache.Simulation

open Coordinator

variable {k : Key} {twins : List (Nat × Nat)} {s s' : Simulation}

namespace Alike

/-! ## What runs in one of them -/

/-- What is due in one is not for the key, if nothing is due in the other. -/
lemma skip_ring (a : Alike k twins s s') (q : Quiet s') : Alike k twins s.ring s' := by
  have other : ∀ x ∈ s.alarms, s.isDue x = true → x.wakes.concerns k = false := by
    intro x mx due
    by_contra own
    have own := Bool.of_not_eq_false own
    have there : x ∈ s'.alarms.filter (·.wakes.concerns k) :=
      a.alarms ▸ List.mem_filter.2 ⟨mx, own⟩
    have rests := q.alarms x (List.mem_filter.1 there).1
    rw [a.isDue_eq, due] at rests
    cases rests
  refine List.foldlRecOn (motive := fun t => Alike k twins t s') _ _ ?_ ?_
  · refine { a with alarms := a.alarms.trans (filter_filter_spared fun x mx own => ?_).symm }
    cases due : s.isDue x with
    | false => rfl
    | true =>
      rw [other x mx due] at own
      cases own
  · intro t a x mx
    obtain ⟨mx, due⟩ := List.mem_filter.1 mx
    exact a.skip_wake (other x mx due)

/-- What has landed in one is not for callers of the key, if nobody waits for it in the other. -/
lemma skip_deliver (a : Alike k twins s s') (q : Quiet s') : Alike k twins s.deliver s' := by
  refine List.foldlRecOn (motive := fun t => Alike k twins t s') _ _ a ?_
  intro t b x mx
  split
  case h_1 f waits =>
    by_cases alone : x.id ∈ twins.map Prod.fst
    · -- The caller is as far as its twin, whose flight has not ended, so it looks and waits on.
      obtain ⟨⟨i, id'⟩, paired, eq⟩ := List.mem_map.1 alone
      obtain rfl : i = x.id := eq
      obtain ⟨x₀, x', hx, hx', _, _, same⟩ := a.edge.alike.twin a.edge.here a.edge.there paired
      obtain rfl : x = x₀ := Option.some.inj ((a.edge.here.caller?_iff.2 ⟨mx, rfl⟩).symm.trans hx)
      obtain ⟨y, y', hy, hy', ey, _, same'⟩ := b.edge.alike.twin b.edge.here b.edge.there paired
      obtain rfl : x' = y' := Option.some.inj (hx'.symm.trans hy')
      have waits' : y.stage = .waiting f := same'.symm.trans (same.trans waits)
      have ef : f.key = k := (b.edge.here.attended _ y f hy waits').1.trans ey
      have left := q.callers x' (b.edge.there.caller?_iff.1 hx').1 f (same.trans waits)
      rw [happen_poll_still hy waits' ((b.edge.alike.outcome?_eq ef).symm.trans left)]
      exact b
    · exact b.skip_happen (b.edge.alike.stranger b.edge.here alone)
  case h_2 => exact b

/-- What is due in one is not for the key, if the other is quiet. -/
lemma skip_settle (a : Alike k twins s s') (q : Quiet s') : Alike k twins s.settle s' :=
  (a.skip_ring q).skip_deliver q

/-- Callers of other keys may be launched on one side alone. -/
lemma skip_launch {ids : List Nat} (a : Alike k twins s s') (q : Quiet s')
    (alone : ∀ id ∈ ids, id ∉ twins.map Prod.fst) : Alike k twins (s.launch ids) s' := by
  have polled : Alike k twins (ids.foldl (fun s id => s.happen (.poll id)) s) s' := by
    refine List.foldlRecOn (motive := fun t => Alike k twins t s') _ _ a ?_
    intro t b id mid
    exact b.skip_happen (b.edge.alike.stranger b.edge.here (alone id mid))
  have embarked (t : Simulation) (b : Alike k twins t s') :
      Alike k twins ((t.coordinator.flights.filter (·.departed.isNone)).foldl
        (fun s y => s.embark y.id) t) s' := by
    refine List.foldlRecOn (motive := fun t => Alike k twins t s') _ _ b ?_
    intro u c y my
    refine c.skip_embark fun ey => ?_
    -- A flight of the key is one of the other simulation as well, where all have departed.
    obtain ⟨my, fresh⟩ := List.mem_filter.1 my
    have there : y ∈ s'.coordinator.flights.filter (·.id.key == k) := by
      have mine : y ∈ t.coordinator.flights.filter (·.id.key == k) :=
        List.mem_filter.2 ⟨my, by simpa using ey⟩
      exact b.edge.alike.flights ▸ mine
    have departed := q.flights y (List.mem_filter.1 there).1
    rw [Option.isNone_iff_eq_none.1 fresh] at departed
    cases departed
  exact (embarked _ polled).skip_settle q

/-! ## What runs in both -/

/-- Callers of the key are launched on both sides, whoever is launched between them. -/
lemma launch {ids ids' : List Nat} (a : Alike k twins s s')
    (w : Woven (fun id id' => (id, id') ∈ twins) (fun id => id ∉ twins.map Prod.fst)
      (fun id' => id' ∉ twins.map Prod.snd) ids ids') :
    Alike k twins (s.launch ids) (s'.launch ids') := by
  have skip {s s' : Simulation} {twins : List (Nat × Nat)} {id : Nat} (a : Alike k twins s s')
      (alone : id ∉ twins.map Prod.fst) : Alike k twins (s.happen (.poll id)) s' :=
    a.skip_happen (a.edge.alike.stranger a.edge.here alone)
  have polled : Alike k twins (ids.foldl (fun s id => s.happen (.poll id)) s)
      (ids'.foldl (fun s id => s.happen (.poll id)) s') := by
    refine w.foldl ?_ ?_ ?_ a
    · exact fun t t' id id' paired b => b.happen (.poll paired)
    · exact fun t t' id alone b => skip b alone
    · intro t t' id' alone b
      refine of_symm (skip b.symm ?_)
      rwa [List.map_map]
  have embarked (t t' : Simulation) (b : Alike k twins t t') :
      Alike k twins
        ((t.coordinator.flights.filter (·.departed.isNone)).foldl
          (fun s y => s.embark y.id) t)
        ((t'.coordinator.flights.filter (·.departed.isNone)).foldl
          (fun s y => s.embark y.id) t') := by
    have fresh : (t.coordinator.flights.filter (·.departed.isNone)).filter (·.id.key == k) =
        (t'.coordinator.flights.filter (·.departed.isNone)).filter (·.id.key == k) := by
      have same : t'.coordinator.flights.filter (·.id.key == k) =
          t.coordinator.flights.filter (·.id.key == k) := b.edge.alike.flights
      rw [List.filter_comm, ← same, List.filter_comm]
    refine (Woven.of_filter_eq fresh).foldl ?_ ?_ ?_ b
    · rintro u u' y _ ⟨rfl, own⟩ c
      exact c.embark (by simpa using own)
    · intro u u' y other c
      exact c.skip_embark (by simpa using other)
    · intro u u' y other c
      exact of_symm (c.symm.skip_embark (by simpa using other))
  exact (embarked _ _ polled).settle

/-- A millisecond that passes on both sides leaves them alike. -/
lemma tick (a : Alike k twins s s') (q : Quiet s) (q' : Quiet s') :
    Alike k twins s.tick s'.tick := by
  have later : Alike k twins (s.happen (.elapse 1)) (s'.happen (.elapse 1)) := a.happen .elapse
  simp only [Simulation.tick]
  split
  · split
    · exact later.settle
    case isFalse none_due => exact later.skip_settle (elapse_quiet q' none_due)
  case isFalse none_due =>
    split
    · exact of_symm (later.symm.skip_settle (elapse_quiet q none_due))
    · exact later

/-- So does any time. -/
lemma advance (a : Alike k twins s s') (sound : Sound s) (sound' : Sound s') (q : Quiet s)
    (q' : Quiet s') (ms : Nat) : Alike k twins (s.advance ms) (s'.advance ms) := by
  induction ms generalizing s s' with
  | zero => exact a
  | succ ms ih =>
    obtain ⟨kept, quiet⟩ := tick_quiet sound q
    obtain ⟨kept', quiet'⟩ := tick_quiet sound' q'
    rw [advance_succ, advance_succ]
    exact ih (a.tick q q') (kept.sound sound) (kept'.sound sound') quiet quiet'

end Alike

/-! ## Tasks -/

/-- Whether a request is a call hangs on the routes and not on the counters. -/
lemma handle_call {r : Http.Router} {c c' : Snapshot} {q : Http.Request} {key : Key}
    {bodiless : Bool} (h : Http.handle r c q = .call key bodiless) :
    Http.handle r c' q = .call key bodiless := by
  have route {b : Bool} {p : Http.Route} (h : Http.handleRoute c b p = .call key bodiless) :
      Http.handleRoute c' b p = .call key bodiless := by
    cases p with
    | health => cases h
    | counters => cases h
    | resource part => exact h
  simp only [Http.handle] at h ⊢
  cases found : r.route? q.path with
  | none =>
    rw [found] at h
    cases h
  | some p =>
    rw [found] at h
    simp only at h ⊢
    cases access : Http.Access.ofMethod q.method with
    | refused =>
      rw [access] at h
      cases h
    | read =>
      rw [access] at h
      exact route h
    | probe =>
      rw [access] at h
      exact route h

/-- A request is a call for the same key in both. -/
lemma demand_ok {r : Request} {key : Key} {view : View} (router : s'.router = s.router)
    (h : s.demand r = .ok (key, view)) : s'.demand r = .ok (key, view) := by
  cases r with
  | entry path => exact h
  | rendered path => exact h
  | page method target =>
    simp only [demand] at h ⊢
    cases q : Http.Request.of? method target with
    | none =>
      rw [q] at h
      cases h
    | some q' =>
      rw [q] at h
      simp only at h ⊢
      cases handled : Http.handle s.router s.snapshot q' with
      | reply page =>
        rw [handled] at h
        cases h
      | call key' bodiless =>
        rw [router, handle_call handled]
        rw [handled] at h
        exact h

/-- A request is answered at once in both or in neither. -/
lemma demand_error {r : Request} {a : Answer} (router : s'.router = s.router)
    (h : s.demand r = .error a) : ∃ a', s'.demand r = .error a' := by
  cases h' : s'.demand r with
  | error a' => exact ⟨a', rfl⟩
  | ok kv =>
    rw [demand_ok router.symm h'] at h
    cases h

/-- What a name stands for here and there: the same, unless it is a caller of another key here. -/
inductive Counterpart (twins : List (Nat × Nat)) (n : Nat) : Option Task → Option Task → Prop where
  | none :
    Counterpart twins n none none
  | answered {a a'} :
    Counterpart twins n (some (.answered a)) (some (.answered a'))
  | twin {id id' view} :
    (id, id') ∈ twins →
    Counterpart twins n (some (.calling id view)) (some (.calling id' view))
  | stranger {id view t?} :
    id < n →
    id ∉ twins.map Prod.fst →
    Counterpart twins n (some (.calling id view)) t?

/-- A name stands for nothing that runs, for callers that are twins, or for a caller of another
key. -/
lemma Counterpart.inv {n : Nat} {t t' : Option Task} (c : Counterpart twins n t t') :
    (∀ id view, t ≠ some (.calling id view)) ∧ (∀ id view, t' ≠ some (.calling id view)) ∨
      (∃ id id' view, t = some (.calling id view) ∧ t' = some (.calling id' view) ∧
        (id, id') ∈ twins) ∨
      ∃ id view, t = some (.calling id view) ∧ id ∉ twins.map Prod.fst := by
  cases c with
  | none => exact .inl ⟨nofun, nofun⟩
  | answered => exact .inl ⟨nofun, nofun⟩
  | twin paired => exact .inr (.inl ⟨_, _, _, rfl, rfl, paired⟩)
  | stranger _ alone => exact .inr (.inr ⟨_, _, rfl, alone⟩)

/-- Whoever has no twin has none when another pair comes. -/
lemma not_paired {f : Nat × Nat → Nat} {id : Nat} {t : Nat × Nat} (alone : id ∉ twins.map f)
    (ne : id ≠ f t) : id ∉ (twins ++ [t]).map f := by
  rw [List.map_append, List.mem_append, not_or]
  exact ⟨alone, by simpa using ne⟩

/-- Later callers do not change what a name stands for. -/
lemma Counterpart.later {n n' : Nat} {t t' : Option Task} (c : Counterpart twins n t t') :
    Counterpart (twins ++ [(n, n')]) (n + 1) t t' := by
  cases c with
  | none => exact .none
  | answered => exact .answered
  | twin paired => exact .twin (List.mem_append_left _ paired)
  | stranger lt alone =>
    exact .stranger (Nat.lt_succ_of_lt lt) (not_paired alone (Nat.ne_of_lt lt))

/-- A counterpart stays one when there are more callers. -/
lemma Counterpart.mono {n n' : Nat} {t t' : Option Task} (c : Counterpart twins n t t')
    (le : n ≤ n') : Counterpart twins n' t t' := by
  cases c with
  | none => exact .none
  | answered => exact .answered
  | twin paired => exact .twin paired
  | stranger lt alone => exact .stranger (Nat.lt_of_lt_of_le lt le) alone

/-- Every name stands for the same here and there, unless it is a caller of another key here. -/
def Named (twins : List (Nat × Nat)) (s s' : Simulation) : Prop :=
  ∀ name, Counterpart twins s.callers (s.tasks.lookup name) (s'.tasks.lookup name)

namespace Alike

/-- The next number is not that of a caller of the key. -/
lemma next_alone (a : Alike k twins s s') (sound : Sound s) :
    s.callers ∉ twins.map Prod.fst := by
  intro there
  rw [← a.edge.alike.lefts] at there
  obtain ⟨x, mx, same⟩ := List.mem_map.1 there
  have lt := sound.numbered x (List.mem_filter.1 mx).1
  rw [same] at lt
  exact Nat.lt_irrefl _ lt

/-- A call for another key may come on one side alone. -/
lemma skip_call {key : Key} (a : Alike k twins s s') (ne : key ≠ k) :
    Alike k twins { s.happen (.call s.callers key) with callers := s.callers + 1 } s' := by
  have called : Alike k twins (s.happen (.call s.callers key)) s' := a.skip_happen ne
  exact { called with }

/-- A call for the key comes on both sides, and its callers are twins from then on. -/
lemma call (a : Alike k twins s s') (sound : Sound s) (sound' : Sound s') :
    Alike k (twins ++ [(s.callers, s'.callers)])
      { s.happen (.call s.callers k) with callers := s.callers + 1 }
      { s'.happen (.call s'.callers k) with callers := s'.callers + 1 } := by
  refine { a with edge := ?_ }
  simp only [Simulation.happen, a.setup]
  exact a.edge.call s.setup sound.free sound'.free

end Alike

/-- What has been started in both, before it runs. -/
structure Enlisted (k : Key) (twins : List (Nat × Nat)) (p p' : List Task × Simulation) : Prop where
  alike : Alike k twins p.2 p'.2
  named : Named twins p.2 p'.2
  here : Sound p.2
  there : Sound p'.2
  woven : Woven (fun id id' => (id, id') ∈ twins)
    (fun id => id < p.2.callers ∧ id ∉ twins.map Prod.fst)
    (fun id' => id' < p'.2.callers ∧ id' ∉ twins.map Prod.snd) (callersOf p.1) (callersOf p'.1)

/-- The task of a name is the one that has been given it last. -/
lemma lookup_name {n n' : String} {t : Task} :
    (s.name n t).tasks.lookup n' = if n' = n then some t else s.tasks.lookup n' :=
  lookup_replace

/-- A request is started on both sides, and its tasks are counterparts. -/
lemma Enlisted.add {tasks tasks' : List Task} (e : Enlisted k twins (tasks, s) (tasks', s'))
    (r : Request) :
    ∃ twins', Enlisted k twins' (tasks ++ [(s.addTask r).1], (s.addTask r).2)
        (tasks' ++ [(s'.addTask r).1], (s'.addTask r).2) ∧
      Counterpart twins' (s.addTask r).2.callers (some (s.addTask r).1)
        (some (s'.addTask r).1) := by
  have more (tasks : List Task) (t : Task) :
      callersOf (tasks ++ [t]) = callersOf tasks ++ callersOf [t] := List.filterMap_append
  cases d : s.demand r with
  | error a =>
    obtain ⟨a', d'⟩ := demand_error e.alike.router d
    rw [addTask_error d, addTask_error d']
    refine ⟨twins, ⟨e.alike, e.named, e.here, e.there, ?_⟩, .answered⟩
    rw [more, more]
    exact e.woven.append .nil
  | ok kv =>
    obtain ⟨key, view⟩ := kv
    have d' := demand_ok e.alike.router d
    rw [addTask_ok d, addTask_ok d']
    -- A caller of the key is paired with its twin; one of another key is nobody's twin in either.
    by_cases eq : key = k
    · subst eq
      refine ⟨twins ++ [(s.callers, s'.callers)], ⟨e.alike.call e.here e.there,
        fun name => (e.named name).later, e.here.call key, e.there.call key, ?_⟩, ?_⟩
      · rw [more, more]
        refine (e.woven.imp ?_ ?_ ?_).append (.both ?_ .nil)
        · exact fun _ _ paired => List.mem_append_left _ paired
        · rintro id - ⟨lt, alone⟩
          exact ⟨Nat.lt_succ_of_lt lt, not_paired alone (Nat.ne_of_lt lt)⟩
        · rintro id - ⟨lt, alone⟩
          exact ⟨Nat.lt_succ_of_lt lt, not_paired alone (Nat.ne_of_lt lt)⟩
        · exact List.mem_append_right _ List.mem_cons_self
      · exact .twin (List.mem_append_right _ List.mem_cons_self)
    · have alone := e.alike.next_alone e.here
      have alone' : s'.callers ∉ twins.map Prod.snd := by
        have alone' := e.alike.symm.next_alone e.there
        rwa [List.map_map] at alone'
      refine ⟨twins, ⟨?_, fun name => (e.named name).mono (Nat.le_succ _), e.here.call key,
        e.there.call key, ?_⟩, .stranger (Nat.lt_succ_self _) alone⟩
      · exact .of_symm (.skip_call (e.alike.skip_call eq).symm eq)
      · rw [more, more]
        refine (e.woven.imp (fun _ _ paired => paired) ?_ ?_).append (.left ?_ (.right ?_ .nil))
        · exact fun id _ h => ⟨Nat.lt_succ_of_lt h.1, h.2⟩
        · exact fun id _ h => ⟨Nat.lt_succ_of_lt h.1, h.2⟩
        · exact ⟨Nat.lt_succ_self _, alone⟩
        · exact ⟨Nat.lt_succ_self _, alone'⟩

/-- Counterparts get a name on both sides. -/
lemma Named.name {n : String} {t t' : Task} (named : Named twins s s')
    (c : Counterpart twins s.callers (some t) (some t')) :
    Named twins (s.name n t) (s'.name n t') := by
  intro n'
  rw [lookup_name, lookup_name]
  split
  · exact c
  · exact named n'

/-- A task is started on both sides, with a name or without. -/
lemma Enlisted.enlist {p p' : List Task × Simulation} (e : Enlisted k twins p p')
    (request : Option String × Request) :
    ∃ twins', Enlisted k twins' (enlist p request) (Simulation.enlist p' request) := by
  obtain ⟨twins', added, c⟩ := e.add request.2
  refine ⟨twins', ?_⟩
  obtain ⟨name?, r⟩ := request
  cases name? with
  | none => exact added
  | some name =>
    have h := added.here
    have h' := added.there
    exact ⟨{ added.alike with }, added.named.name c, ⟨h.orderly, h.numbered, h.distinct,
      h.intervals⟩, ⟨h'.orderly, h'.numbered, h'.distinct, h'.intervals⟩, added.woven⟩

/-- So are several. -/
lemma Enlisted.enlist_all {p p' : List Task × Simulation} (e : Enlisted k twins p p')
    (requests : List (Option String × Request)) :
    ∃ twins', Enlisted k twins' (requests.foldl Simulation.enlist p)
      (requests.foldl Simulation.enlist p') := by
  induction requests generalizing p p' twins with
  | nil => exact ⟨twins, e⟩
  | cons request requests ih =>
    obtain ⟨twins', e'⟩ := e.enlist request
    exact ih e'

/-- What has been started in one only, before it runs. -/
structure Strangers (k : Key) (twins : List (Nat × Nat)) (p : List Task × Simulation)
    (s' : Simulation) : Prop where
  alike : Alike k twins p.2 s'
  named : Named twins p.2 s'
  here : Sound p.2
  alone : ∀ id ∈ callersOf p.1, id ∉ twins.map Prod.fst

/-- A task for another key may be started on one side alone. -/
lemma Strangers.enlist {p : List Task × Simulation} (e : Strangers k twins p s')
    {request : Option String × Request} {key : Key} {view : View}
    (d : p.2.demand request.2 = .ok (key, view)) (ne : key ≠ k) :
    Strangers k twins (enlist p request) s' := by
  obtain ⟨tasks, s⟩ := p
  obtain ⟨name?, r⟩ := request
  have alone := e.alike.next_alone e.here
  have called := e.here.call key
  have callers : ∀ id ∈ callersOf (tasks ++ [.calling s.callers view]),
      id ∉ twins.map Prod.fst := by
    intro id mid
    rw [callersOf, List.filterMap_append, List.mem_append] at mid
    rcases mid with mid | mid
    · exact e.alone id mid
    · rw [List.mem_singleton.1 mid]
      exact alone
  have stays : Named twins
      { s.happen (.call s.callers key) with callers := s.callers + 1 } s' := fun n =>
    (e.named n).mono (Nat.le_succ _)
  simp only [Simulation.enlist, addTask_ok d]
  cases name? with
  | none => exact ⟨e.alike.skip_call ne, stays, called, callers⟩
  | some name =>
    refine ⟨{ e.alike.skip_call ne with }, fun n => ?_, ⟨called.orderly, called.numbered,
      called.distinct, called.intervals⟩, callers⟩
    simp only [lookup_name]
    split
    · exact .stranger (Nat.lt_succ_self _) alone
    · exact stays n

/-! ## Commands -/

/-- Whether a command is about other keys only. -/
def Command.spares (k : Key) (s : Simulation) : Command → Bool
  | .ask requests => requests.all fun r =>
    match s.demand r.2 with
    | .ok (key, _) => key != k
    | .error _ => false
  | .poll name => callsAnother name
  | .cancel name => callsAnother name
  | .script key _ => key != k.text
  | .release key _ => key != k.text
  | .put key _ => key != k
  | .get key => key != k
  | _ => false
where
  /-- Whether a name stands for a caller of another key. -/
  callsAnother (name : String) : Bool :=
    match s.tasks.lookup name with
    | some (.calling id _) => (s.coordinator.caller? id).all (·.key != k)
    | _ => false

/-- What is left of some commands without those that are about other keys only. -/
def purge (k : Key) (s : Simulation) : List Command → List Command
  | [] => []
  | c :: commands =>
    if c.spares k s then purge k (s.perform c) commands
    else c :: purge k (s.perform c) commands

/-- The caller that a name stands for is cancelled. -/
lemma cancel_called {name : String} {id : Nat} {view : View}
    (found : s.tasks.lookup name = some (.calling id view)) :
    s.perform (.cancel name) = s.happen (.cancel id) := by
  simp only [perform, cancel, found]

/-- To abandon a task that is no call changes nothing. -/
lemma cancel_still {name : String}
    (none : ∀ id view, s.tasks.lookup name ≠ some (.calling id view)) :
    s.perform (.cancel name) = s := by
  simp only [perform, cancel]

/-- Two simulations between two commands: alike for a key, and with the same names for its
callers. -/
structure Beside (k : Key) (twins : List (Nat × Nat)) (s s' : Simulation) : Prop where
  alike : Alike k twins s s'
  named : Named twins s s'
  here : Sound s
  there : Sound s'
  quiet : Quiet s
  quiet' : Quiet s'

/-- Names stand for the same as long as nobody is given one. -/
lemma Named.congr {t t' : Simulation} (named : Named twins s s') (tasks : t.tasks = s.tasks)
    (numbers : t.callers = s.callers) (tasks' : t'.tasks = s'.tasks) : Named twins t t' := by
  intro name
  rw [tasks, numbers, tasks']
  exact named name

namespace Beside

/-- A command about other keys leaves a simulation beside the other one. -/
theorem skip (b : Beside k twins s s') {c : Command} (spared : c.spares k s = true) :
    Beside k twins (s.perform c) s' := by
  obtain ⟨sound, quiet⟩ := perform_quiet b.here b.quiet c
  have next (a : Alike k twins (s.perform c) s') (named : Named twins (s.perform c) s') :
      Beside k twins (s.perform c) s' := ⟨a, named, sound, b.there, quiet, b.quiet'⟩
  cases c with
  | ask requests =>
    have router := b.alike.router
    have enlisted : Strangers k twins (requests.foldl enlist ([], s)) s' := by
      refine List.foldlRecOn (motive := fun p => Strangers k twins p s') _ _
        ⟨b.alike, b.named, b.here, fun id mid => by cases mid⟩ ?_
      intro p e request mr
      have other := List.all_eq_true.1 spared request mr
      cases d : s.demand request.2 with
      | error a =>
        rw [d] at other
        cases other
      | ok kv =>
        rw [d] at other
        exact e.enlist (demand_ok (e.alike.router.symm.trans router) d) (by simpa using other)
    obtain ⟨kept, _⟩ := launch_quiet enlisted.here (callersOf (requests.foldl enlist ([], s)).1)
    rw [perform_ask] at next ⊢
    exact next (enlisted.alike.skip_launch b.quiet' enlisted.alone)
      (enlisted.named.congr kept.tasks kept.numbers rfl)
  | poll name => exact b
  | cancel name =>
    simp only [Command.spares, Command.spares.callsAnother] at spared
    split at spared
    case h_1 id view found =>
      have other : ∀ x, s.coordinator.caller? id = some x → x.key ≠ k := by
        intro x hx
        rw [hx] at spared
        simpa using spared
      rw [cancel_called found] at next ⊢
      exact next (b.alike.skip_happen other) b.named
    case h_2 => cases spared
  | script key script =>
    have ne : k.text ≠ key := by simpa using (bne_iff_ne.1 spared).symm
    refine next { b.alike with scripts := b.alike.scripts.trans ?_ } b.named
    simp only [perform, ScriptedOrigin.setScript, lookup_replace, if_neg ne]
  | release key permits =>
    have ne : key ≠ k.text := bne_iff_ne.1 spared
    have kept := release_kept b.here key permits
    exact next (((b.alike.skip_setPermits ne).skip_openGate ne).skip_settle b.quiet')
      (b.named.congr kept.tasks kept.numbers rfl)
  | put key entry => exact next (b.alike.skip_happen (bne_iff_ne.1 spared)) b.named
  | get key => exact next (b.alike.skip_happen (bne_iff_ne.1 spared)) b.named
  | disconnect => cases spared
  | advance ms => cases spared
  | startSweeper seconds => cases spared
  | stopSweeper => cases spared
  | sweepOnce => cases spared
  | reading script => cases spared
  | writing script => cases spared
  | sweep => cases spared
  | clear => cases spared

/-- A command that is about the key or about all of them is done in both. -/
theorem perform (b : Beside k twins s s') {c : Command} (fine : c.isFault = false)
    (kept : c.spares k s = false) : ∃ twins', Beside k twins' (s.perform c) (s'.perform c) := by
  obtain ⟨sound, quiet⟩ := perform_quiet b.here b.quiet c
  obtain ⟨sound', quiet'⟩ := perform_quiet b.there b.quiet' c
  have next {twins' : List (Nat × Nat)} (a : Alike k twins' (s.perform c) (s'.perform c))
      (named : Named twins' (s.perform c) (s'.perform c)) :
      ∃ twins', Beside k twins' (s.perform c) (s'.perform c) :=
    ⟨twins', a, named, sound, sound', quiet, quiet'⟩
  cases c with
  | ask requests =>
    have started : Enlisted k twins ([], s) ([], s') := ⟨b.alike, b.named, b.here, b.there, .nil⟩
    obtain ⟨twins', e⟩ := started.enlist_all requests
    obtain ⟨held, _⟩ := launch_quiet e.here (callersOf (requests.foldl enlist ([], s)).1)
    obtain ⟨held', _⟩ := launch_quiet e.there (callersOf (requests.foldl enlist ([], s')).1)
    rw [perform_ask, perform_ask] at next ⊢
    refine next (e.alike.launch ?_) (e.named.congr held.tasks held.numbers held'.tasks)
    exact e.woven.imp (fun _ _ paired => paired) (fun _ _ h => h.2) fun _ _ h => h.2
  | poll name => exact ⟨twins, b⟩
  | cancel name =>
    rcases (b.named name).inv with ⟨none, none'⟩ | ⟨id, id', view, found, found', paired⟩ |
        ⟨id, view, found, alone⟩
    · rw [cancel_still none, cancel_still none']
      exact ⟨twins, b⟩
    · rw [cancel_called found, cancel_called found'] at next ⊢
      exact next (b.alike.happen (.cancel paired)) b.named
    · simp only [Command.spares, Command.spares.callsAnother, found] at kept
      cases hx : s.coordinator.caller? id with
      | none =>
        rw [hx] at kept
        cases kept
      | some x =>
        rw [hx] at kept
        have ne := b.alike.edge.alike.stranger b.alike.edge.here alone x hx
        exact absurd (by simpa using kept) ne
  | script key script =>
    obtain rfl : key = k.text := by simpa [Command.spares] using kept
    refine next { b.alike with scripts := ?_ } b.named
    simp only [Simulation.perform, ScriptedOrigin.setScript, lookup_replace, if_true]
  | disconnect => exact next { b.alike with scripts := rfl } b.named
  | release key permits =>
    obtain rfl : key = k.text := by simpa [Command.spares] using kept
    have held := release_kept b.here k.text permits
    have held' := release_kept b.there k.text permits
    refine next ?_ (b.named.congr held.tasks held.numbers held'.tasks)
    simp only [Simulation.perform, release, b.alike.permits]
    exact b.alike.setPermits.openGate.settle
  | advance ms =>
    obtain ⟨held, _⟩ := advance_quiet b.here b.quiet ms
    obtain ⟨held', _⟩ := advance_quiet b.there b.quiet' ms
    exact next (b.alike.advance b.here b.there b.quiet b.quiet' ms)
      (b.named.congr held.tasks held.numbers held'.tasks)
  | startSweeper seconds =>
    refine next ?_ b.named
    simp only [Simulation.perform, startSweeper, b.alike.now_eq, b.alike.started]
    refine { b.alike.setAlarm with sweepers := ?_, started := rfl, sweeper := rfl }
    exact congrArg (· ++ _) b.alike.sweepers
  | stopSweeper =>
    have same := b.alike.sweeper
    cases found : s.sweeper with
    | none =>
      have still : s.perform .stopSweeper = s := by
        simp only [Simulation.perform, stopSweeper, found]
      have still' : s'.perform .stopSweeper = s' := by
        simp only [Simulation.perform, stopSweeper, same, found]
      rw [still, still']
      exact ⟨twins, b⟩
    | some number =>
      simp only [Simulation.perform, stopSweeper, same, found] at next ⊢
      refine next { b.alike with sweepers := ?_, sweeper := rfl } b.named
      simp only [b.alike.sweepers]
  | sweepOnce =>
    have swept : Travels s s.sweepOnce := .sweepOnce
    have swept' : Travels s' s'.sweepOnce := .sweepOnce
    exact next b.alike.sweepOnce (b.named.congr swept.tasks swept.numbers swept'.tasks)
  | reading script => cases fine
  | writing script => cases fine
  | put key entry =>
    obtain rfl : key = k := by simpa [Command.spares] using kept
    exact next (b.alike.happen .put) b.named
  | get key =>
    obtain rfl : key = k := by simpa [Command.spares] using kept
    exact next (b.alike.happen .get) b.named
  | sweep => exact next (b.alike.happen .sweep) b.named
  | clear => exact next (b.alike.happen .clear) b.named

/-- A session stays beside what is left of it. -/
theorem session (b : Beside k twins s s') {commands : List Command}
    (fine : ∀ c ∈ commands, c.isFault = false) :
    ∃ twins', Beside k twins' (s.session commands) (s'.session (purge k s commands)) := by
  -- On the commands, from whatever two simulations are beside each other by then.
  induction commands generalizing s s' twins with
  | nil => exact ⟨twins, b⟩
  | cons c commands ih =>
    obtain ⟨fine_c, fine⟩ := List.forall_mem_cons.1 fine
    simp only [purge]
    cases spared : c.spares k s with
    | true =>
      rw [if_pos rfl]
      exact ih (b.skip spared) fine
    | false =>
      rw [if_neg Bool.false_ne_true]
      obtain ⟨twins', b'⟩ := b.perform fine_c spared
      exact ih b' fine

/-- A name of a caller of the key tells the same in both. -/
lemma poll (b : Beside k twins s s') {name : String} {id : Nat} {view : View} {x : Caller}
    (found : s.tasks.lookup name = some (.calling id view))
    (hx : s.coordinator.caller? id = some x) (ex : x.key = k) : s'.poll name = s.poll name := by
  rcases (b.named name).inv with ⟨none, _⟩ | ⟨i, i', v, there, there', paired⟩ |
      ⟨i, v, there, alone⟩
  · exact absurd found (none id view)
  · obtain ⟨y, y', hy, hy', _, _, same⟩ :=
      b.alike.edge.alike.twin b.alike.edge.here b.alike.edge.there paired
    have hy : s.coordinator.caller? i = some y := hy
    have hy' : s'.coordinator.caller? i' = some y' := hy'
    simp only [Simulation.poll, there, there', tell, hy, hy', Option.map_some, same]
  · rw [found] at there
    cases there
    exact absurd ex (b.alike.edge.alike.stranger b.alike.edge.here alone x hx)

end Beside

/-! ## Sessions -/

/-- What is left of a session is left of its beginning and of the rest of it. -/
lemma purge_append {before later : List Command} :
    purge k s (before ++ later) = purge k s before ++ purge k (s.session before) later := by
  induction before generalizing s with
  | nil => rfl
  | cons c before ih =>
    simp only [List.cons_append, purge, ih]
    split <;> rfl

/-- A simulation in which nothing has happened is beside itself. -/
lemma start_beside {setup : Setup} {router : Http.Router} {limits : Limits} {plain : Bool}
    {origin : ScriptedOrigin} (unbounded : limits.capacity = 0) :
    let s : Simulation := { start setup router limits plain with origin }
    Beside k [] s s := by
  intro s
  have steady : Steady s.edge.coordinator := start_steady unbounded
  have alike : Coordinator.Alike k [] s.edge.coordinator s.edge.coordinator :=
    ⟨⟨rfl, rfl⟩, rfl, rfl, rfl, .nil, rfl, rfl⟩
  have sound : Sound s := ⟨steady.orderly, nofun, .nil, nofun⟩
  have quiet : Quiet s := ⟨nofun, nofun, nofun⟩
  refine ⟨?_, fun name => .none, sound, sound, quiet, quiet⟩
  exact ⟨rfl, rfl, rfl, ⟨rfl, steady, steady, alike⟩, rfl, rfl, rfl, rfl, rfl, rfl, rfl, rfl⟩

/-- Keys are independent. In a session over a store that is not bounded and does not fail, take out
the commands that are about other keys only. At every moment of it there is the same of a key as in
the whole session: its callers are as far and have the same results, the origin was asked for it as
often, it is in flight or not, the store has the same to give for it, and whoever asks after one of
its callers is told the same. -/
theorem keys_are_independent (setup : Setup) (router : Http.Router) (limits : Limits) (plain : Bool)
    (origin : ScriptedOrigin) (k : Key) (before later : List Command)
    (unbounded : limits.capacity = 0) (fine : ∀ c ∈ before, c.isFault = false) :
    let s₀ : Simulation := { start setup router limits plain with origin }
    let s := s₀.session before
    let s' := s₀.session (purge k s₀ before)
    purge k s₀ (before ++ later) = purge k s₀ before ++ purge k s later ∧
    s'.now = s.now ∧
    (s'.coordinator.callersFor k).map Caller.stage =
      (s.coordinator.callersFor k).map Caller.stage ∧
    s'.coordinator.fetches k = s.coordinator.fetches k ∧
    s'.coordinator.registry.lookup k = s.coordinator.registry.lookup k ∧
    (s'.edge.store.get s'.now k).1 = (s.edge.store.get s.now k).1 ∧
    ∀ name id view x, s.tasks.lookup name = some (.calling id view) →
      s.coordinator.caller? id = some x → x.key = k → s'.poll name = s.poll name := by
  intro s₀ s s'
  have start : Beside k [] s₀ s₀ := start_beside unbounded
  obtain ⟨twins, b⟩ := start.session fine
  have edge : Edge.Alike k twins s.edge s'.edge := b.alike.edge
  have slot : Store.SameSlot k s.edge.store s'.edge.store := edge.alike.store
  refine ⟨purge_append, edge.now, edge.alike.stages_eq, edge.alike.asked, ?_, ?_, ?_⟩
  · exact edge.alike.lookup_eq edge.here.orderly edge.there.orderly
  · have now : s'.now = s.now := edge.now
    rw [now]
    exact slot.get_fst
  · intro name id view x found hx ex
    exact b.poll found hx ex

deriving instance DecidableEq for Stage

/-- A caller waits at a gate, and another key is fetched and abandoned meanwhile. Without that,
there are two commands less, and the caller has its result as well. -/
theorem keys_are_independent_gated :
    let a : Key := Key.letter 'a' (by decide)
    let gated : Script := ⟨true, none, false, none, some (.failure 404)⟩
    let s₀ : Simulation := { start ⟨fun _ => .ok (), 1000⟩ ⟨['/']⟩ ⟨0, none, 1⟩ false with
      origin := ⟨[("a", gated)], fun _ => gated, []⟩ }
    let commands : List Command := [.ask [(some "one", .entry "b")],
      .ask [(some "two", .entry "a"), (none, .entry "b")], .cancel "one", .advance 10,
      .release "a" 1]
    (purge a s₀ commands).length = 3 ∧ (∀ c ∈ commands, c.isFault = false) ∧
      ((s₀.session (purge a s₀ commands)).coordinator.callersFor a).map Caller.stage =
        [.finished (.ok (.failure 404))] := by
  intro a gated s₀ commands
  have fine : ∀ c ∈ commands, c.isFault = false := by decide
  obtain ⟨_, _, same, _⟩ :=
    keys_are_independent ⟨fun _ => .ok (), 1000⟩ ⟨['/']⟩ ⟨0, none, 1⟩ false
      ⟨[("a", gated)], fun _ => gated, []⟩ a commands [] rfl fine
  have finished : ((s₀.session commands).coordinator.callersFor a).map Caller.stage =
      [.finished (.ok (.failure 404))] := by decide +kernel
  refine ⟨by decide +kernel, fine, same.trans finished⟩

end EdgeCache.Simulation
