import EdgeCache.Proofs.Simulation.Journeys
import Mathlib.Tactic.Lemma

/-!
# Deadlines in a session

Between two commands everything has run that is due, so no flight is as old as the coordinator is
patient. In the moment in which its time is over a flight lands: with the answer of the origin if
this is due in the same moment or has been before, and otherwise as one that times out.
-/

namespace EdgeCache.Simulation

open Coordinator

variable {s s' : Simulation} {f : FlightId} {j : Journey} {how : Landing} {owed : List Alarm}

/-- How a flight ends whose time is over: an answer that is due by then goes before. -/
def Journey.last (now : Nat) (answer : Landing) (j : Journey) : Landing :=
  match j.place with
  | .atGate _ => .timedOut
  | .underway due => if due ≤ now then answer else .timedOut

/-- A flight whose time is over ends in one way or the other. -/
lemma ends?_expired (late : j.expiresAt ≤ s.now) :
    s.ends? j = some (j.last s.now (s.origin.script j.flight.key).landing) := by
  simp only [ends?, Journey.last]
  cases j.place with
  | atGate delay => simp only [late, if_true]
  | underway due => by_cases arrived : due ≤ s.now <;> simp only [arrived, late, if_true, if_false]

/-! ## Between two commands -/

/-- A simulation between two commands. -/
structure Stands (s : Simulation) : Prop where
  sound : Sound s
  quiet : Quiet s
  tracked : Tracked s []
  begun : s.edge.Begun

/-- A command leads from one standstill to the next. -/
lemma Stands.perform (h : Stands s) (c : Command) : Stands (s.perform c) := by
  obtain ⟨sound, quiet⟩ := perform_quiet h.sound h.quiet c
  exact ⟨sound, quiet, h.tracked.perform h.sound h.quiet c,
    (perform_proceeds h.sound h.quiet h.begun c).begun⟩

/-- A session goes on promptly. -/
lemma Stands.session (h : Stands s) (commands : List Command) :
    Stands (s.session commands) ∧ Proceeds s (s.session commands) := by
  induction commands generalizing s with
  | nil => exact ⟨h, Plays.refl.proceeds h.begun⟩
  | cons c commands ih =>
    obtain ⟨stands, proceeds⟩ := ih (h.perform c)
    exact ⟨stands, (perform_proceeds h.sound h.quiet h.begun c).trans proceeds⟩

/-- At the start nobody has anything to do. -/
lemma start_stands {setup : Setup} {router : Http.Router} {limits : Limits} {plain : Bool}
    {origin : ScriptedOrigin} : Stands { start setup router limits plain with origin } where
  sound := ⟨start_orderly, nofun, .nil, nofun⟩
  quiet := ⟨nofun, nofun, nofun⟩
  tracked := ⟨nofun, nofun⟩
  begun := nofun

/-- Every flight has an alarm set for the end of its time. -/
lemma Stands.follows {y : Flight} (h : Stands s) (my : y ∈ s.coordinator.flights) :
    ∃ t j, y.departed = some t ∧ Followed s s.alarms y.id t j := by
  obtain ⟨t, d⟩ := Option.isSome_iff_exists.1 (h.quiet.flights y my)
  obtain ⟨j, followed⟩ := h.tracked.followed y my t d
  rw [List.append_nil] at followed
  exact ⟨t, j, d, followed⟩

/-- Between two commands everything has run that is due. -/
lemma Stands.settled (h : Stands s) : s.edge.Settled s.setup := by
  have rests := h.quiet.rests h.begun
  refine ⟨rests.poll, rests.depart, Edge.ran_of_in_time fun f y hy => ?_⟩
  obtain ⟨t, j, d, followed⟩ := h.follows (List.mem_of_find?_eq_some hy)
  refine ⟨t, d, ?_⟩
  have later : s.isDue ⟨j.expiresAt, .flight y.id⟩ = false := h.quiet.alarms _ followed.expires
  rw [← followed.deadline]
  exact Nat.lt_of_not_le (of_decide_eq_false later)

/-! ## The end of patience -/

/-- Whoever else is woken, a flight stays where it is. -/
lemma wake_else {w : Sleeper} (ne : w ≠ .flight f) :
    (s.wake w).journey? f = s.journey? f ∧ (s.wake w).origin = s.origin := by
  cases w with
  | sweeper number =>
    have swept : s.sweepOnce.journeys = s.journeys ∧ s.sweepOnce.origin = s.origin := by
      simp only [sweepOnce]
      split <;> exact ⟨rfl, rfl⟩
    simp only [wake, wakeSweeper]
    split
    · exact ⟨rfl, rfl⟩
    · exact ⟨congrArg (List.find? _) swept.1, swept.2⟩
  | flight g =>
    simp only [wake]
    cases h : s.journey? g with
    | none =>
      simp only [wakeFlight, h]
      exact ⟨trivial, trivial⟩
    | some j =>
      rw [wakeFlight_eq h]
      cases s.ends? j with
      | none => exact ⟨rfl, rfl⟩
      | some how =>
        refine ⟨journey?_land ?_, rfl⟩
        rintro rfl
        exact ne rfl

/-- A flight lands that is due when its alarm rings. -/
lemma wake_all_lands (tr : Tracked s owed) (inv : Orderly s.coordinator)
    (rung : ∀ a ∈ owed, a.due ≤ s.now) (alarmed : ∃ a ∈ owed, a.wakes = .flight f)
    (journey : s.journey? f = some j) (ends : s.ends? j = some how) :
    ∃ before after, (∀ ev ∈ before, ev.isInner = true) ∧
      (owed.foldl (fun s a => s.wake a.wakes) s).edge =
        Edge.run s.setup s.edge (before ++ .land f how :: after) ∧
      (Edge.run s.setup s.edge before).Lands s.setup f how := by
  induction owed generalizing s with
  | nil =>
    obtain ⟨a, ma, _⟩ := alarmed
    cases ma
  | cons a owed ih =>
    by_cases mine : a.wakes = .flight f
    · -- The first alarm of the flight ends it, whatever rings after that.
      have woken : s.wake a.wakes = s.land f how := by
        rw [mine, wake, wakeFlight_eq journey, ends]
      obtain ⟨y, my, same, can⟩ := tr.ends journey ends
      have rest : Plays (s.land f how) (owed.foldl (fun s a => s.wake a.wakes) (s.land f how)) :=
        .foldl fun _ _ => .wake
      obtain ⟨_, after, _, ran⟩ := rest
      refine ⟨[], after, List.forall_mem_nil _, ?_, y, inv.flight?_iff.2 ⟨my, same⟩, can⟩
      rw [List.foldl_cons, woken, ran]
      rfl
    · obtain ⟨journey', origin⟩ := wake_else (s := s) mine
      have travels : Travels s (s.wake a.wakes) := .wake
      obtain ⟨setup, events, inner, ran⟩ := Plays.wake (s := s) (w := a.wakes)
      have ends' : (s.wake a.wakes).ends? j = some how := by
        simp only [ends?, travels.now, origin] at ends ⊢
        exact ends
      have alarmed' : ∃ b ∈ owed, b.wakes = .flight f := by
        obtain ⟨b, mb, wakes⟩ := alarmed
        rcases List.mem_cons.1 mb with rfl | mb
        · exact absurd wakes mine
        · exact ⟨b, mb, wakes⟩
      obtain ⟨before, after, inner', ran', lands⟩ :=
        ih (tr.wake inv (rung a List.mem_cons_self)) (travels.orderly inv)
          (fun b mb => travels.now ▸ rung b (List.mem_cons_of_mem _ mb)) alarmed'
          (journey'.trans journey) ends'
      rw [setup, ran, ← Edge.run_append] at ran' lands
      refine ⟨events ++ before, after, ?_, ?_, lands⟩
      · intro ev m
        rcases List.mem_append.1 m with m | m
        · exact inner ev m
        · exact inner' ev m
      · rw [List.foldl_cons, ran', List.append_assoc]

/-- A flight whose time is over at the next moment lands then. -/
lemma Stands.lands_at_last {y : Flight} {t : Nat} (h : Stands s)
    (followed : Followed s s.alarms y.id t j) (last : t + s.setup.patience = s.now + 1) :
    let how := j.last (s.now + 1) (s.origin.script y.id.key).landing
    ∃ before after, (∀ ev ∈ before, ev.isInner = true) ∧
      s.tick.edge = Edge.run s.setup s.edge (.elapse 1 :: (before ++ .land y.id how :: after)) ∧
      (Edge.run s.setup s.edge (.elapse 1 :: before)).Lands s.setup y.id how := by
  intro how
  have here : j.flight = y.id := by simpa using List.find?_some followed.journey
  have due : j.expiresAt = s.now + 1 := followed.deadline.trans last
  let later := s.happen (.elapse 1)
  have tracked : Tracked later [] := h.tracked.happen rfl
  have rings : later.isDue ⟨j.expiresAt, .flight y.id⟩ = true :=
    decide_eq_true (Nat.le_of_eq due)
  have ticked : s.tick = later.settle := by
    have any : later.alarms.any later.isDue = true :=
      List.any_eq_true.2 ⟨_, followed.expires, rings⟩
    exact if_pos any
  have ends : later.ends? j = some how := by
    have expired := ends?_expired (s := later) (j := j) (Nat.le_of_eq due)
    rw [here] at expired
    exact expired
  obtain ⟨before, after, inner, ran, lands⟩ :=
    wake_all_lands tracked.hush h.sound.orderly
      (fun a ma => of_decide_eq_true (List.mem_filter.1 ma).2)
      ⟨_, List.mem_filter.2 ⟨followed.expires, rings⟩, rfl⟩ followed.journey ends
  obtain ⟨setup, events, _, delivered⟩ := Plays.deliver (s := later.ring)
  have rung : Plays later later.ring := .ring
  refine ⟨before, after ++ events, inner, ?_, lands⟩
  have settled : later.settle.edge = Edge.run s.setup later.ring.edge events := by
    rw [rung.setup] at delivered
    exact delivered
  have ran : later.ring.edge =
      Edge.run s.setup later.edge (before ++ .land y.id how :: after) := ran
  rw [ticked, settled, ran, ← Edge.run_append, List.append_assoc]
  rfl

/-- Where everything has run that is due, every record is that of a young flight. -/
lemma record_young {setup : Setup} {e : Edge} {k : Key} (timely : e.Timely)
    (settled : e.Settled setup) (record : e.coordinator.registry.lookup k = some f) :
    ∃ y ∈ e.coordinator.flights, y.id = f ∧ e.now < y.since + setup.patience := by
  obtain ⟨_, y, my, same⟩ := timely.orderly.lookup_iff.1 record
  exact ⟨y, my, same, timely.young settled my⟩

/-- Whoever was there so long ago is not open any more, however the session has gone on. -/
lemma session_closed {setup : Setup} {router : Http.Router} {limits : Limits} {plain : Bool}
    {origin : ScriptedOrigin} {earlier later : List Command} {id : Nat} {x y : Caller} :
    let b := session { start setup router limits plain with origin } earlier
    let s := b.session later
    b.coordinator.caller? id = some x → b.now + setup.patience ≤ s.now →
      s.coordinator.caller? id = some y → y.stage.isOpen = false := by
  intro b s there waited here
  obtain ⟨stands, same, ⟨before, prompt, ran⟩, _⟩ :
      Stands b ∧ Proceeds { start setup router limits plain with origin } b :=
    start_stands.session earlier
  obtain ⟨stands', same', ⟨after, prompt', ran'⟩, _⟩ : Stands s ∧ Proceeds b s :=
    stands.session later
  have same : b.setup = setup := same
  have ran : b.edge = Edge.run setup (Edge.start limits) before := ran
  rw [same, ran] at prompt' ran'
  rw [← Edge.run_append] at ran'
  have settled := stands'.settled
  rw [same', same, ran'] at settled
  rw [coordinator, ran] at there
  rw [coordinator, ran'] at here
  rw [now, now, ran, ran'] at waited
  exact Edge.Prompt.closed (Edge.prompt_append_iff.2 ⟨prompt, prompt'⟩) settled there here waited

/-- A silent origin cannot hold a key. In every run in which time passes only where nobody can run,
and at every moment of it:
(1) where everything has run that is due, every record is that of a flight which was registered less
than the coordinator's patience ago;
(2) there, nobody is open who has been there for that long;
(3) a flight that has not ended that long after it has asked the origin, in the moment of its
registration, times out, and that comes to the same as an answer of status 504.
Sessions are such runs, and between two commands everything has run that is due, so that (1) and (2)
hold of all of them. In the moment in which the time of a flight is over, it lands: with the origin's
answer if this is due by then, and as (3) says if not. -/
theorem no_key_is_held (setup : Setup) (limits : Limits) :
    (∀ events, Edge.Prompt setup (Edge.start limits) events →
      let e := Edge.run setup (Edge.start limits) events
      (e.Settled setup → ∀ k f, e.coordinator.registry.lookup k = some f →
        ∃ y ∈ e.coordinator.flights, y.id = f ∧ e.now < y.since + setup.patience) ∧
      (e.Settled setup → ∀ before after, events = before ++ after →
        let b := Edge.run setup (Edge.start limits) before
        ∀ id x, b.coordinator.caller? id = some x → b.now + setup.patience ≤ e.now →
          ∀ y, e.coordinator.caller? id = some y → y.stage.isOpen = false) ∧
      (∀ y ∈ e.coordinator.flights, ∀ t, y.departed = some t → t + setup.patience ≤ e.now →
        t = y.since ∧ e.TimesOut setup y.id)) ∧
    (∀ router plain origin commands,
      let s := session { start setup router limits plain with origin } commands
      s.edge.Settled setup ∧
      (∃ events, Edge.Prompt setup (Edge.start limits) events ∧
        s.edge = Edge.run setup (Edge.start limits) events) ∧
      (∀ k f, s.coordinator.registry.lookup k = some f →
        ∃ y ∈ s.coordinator.flights, y.id = f ∧ s.now < y.since + setup.patience) ∧
      (∀ earlier later, commands = earlier ++ later →
        let b := session { start setup router limits plain with origin } earlier
        ∀ id x, b.coordinator.caller? id = some x → b.now + setup.patience ≤ s.now →
          ∀ y, s.coordinator.caller? id = some y → y.stage.isOpen = false) ∧
      ∀ y ∈ s.coordinator.flights, y.since + setup.patience = s.now + 1 → ∃ j before after,
        s.journey? y.id = some j ∧
        let how := j.last (s.now + 1) (s.origin.script y.id.key).landing
        let e := Edge.run setup s.edge (.elapse 1 :: before)
        (s.perform (.advance 1)).edge = Edge.run setup e (.land y.id how :: after) ∧
        e.now = y.since + setup.patience ∧ e.Lands setup y.id how ∧
        (how = .timedOut → e.TimesOut setup y.id)) := by
  refine ⟨fun events prompt => ?_, fun router plain origin commands => ?_⟩
  · intro e
    have timely : e.Timely := prompt.timely
    refine ⟨fun settled k f reg => record_young timely settled reg, ?_, fun y my t d late => ?_⟩
    · rintro settled before after rfl b id x hx waited y hy
      exact prompt.closed settled hx hy waited
    · refine ⟨(timely.on_time y my).departed t d, ?_⟩
      have can : canLand setup e.now .timedOut y = true := (canLand_timedOut_iff d).2 late
      exact Edge.Lands.timesOut ⟨y, timely.orderly.flight?_iff.2 ⟨my, rfl⟩, can⟩ timely.orderly
        run_attended
  · intro s
    obtain ⟨stands, same, ⟨events, prompt, ran⟩, _⟩ :
        Stands s ∧ Proceeds { start setup router limits plain with origin } s :=
      start_stands.session commands
    have same : s.setup = setup := same
    have ran : s.edge = Edge.run setup (Edge.start limits) events := ran
    have timely : s.edge.Timely := ran ▸ prompt.timely
    have settled : s.edge.Settled setup := same ▸ stands.settled
    refine ⟨settled, ⟨events, prompt, ran⟩, fun k f reg => record_young timely settled reg, ?_,
      fun y my last => ?_⟩
    · rintro earlier later rfl b id x there waited y here
      have on : s = b.session later := List.foldl_append
      rw [on] at waited here
      exact session_closed there waited here
    · obtain ⟨t, j, d, followed⟩ := stands.follows my
      have since : t = y.since := (timely.on_time y my).departed t d
      have due : t + s.setup.patience = s.now + 1 := by rw [since, same, last]
      obtain ⟨before, after, inner, ticked, lands⟩ := stands.lands_at_last followed due
      rw [same] at ticked lands
      refine ⟨j, before, after, followed.journey, ?_, ?_, lands, fun how => ?_⟩
      · rw [← Edge.run_append, List.cons_append]
        exact ticked
      · rw [last, Edge.run_cons, Edge.run_now inner]
        rfl
      · rw [how] at lands
        rw [ran, ← Edge.run_append] at lands ⊢
        exact lands.timesOut run_orderly run_attended

deriving instance DecidableEq for Journey

/-- A fetch that is kept at a gate is over when its two milliseconds are, and that is a time-out. -/
theorem no_key_is_held_gated :
    let setup : Setup := ⟨fun _ => .ok (), 2⟩
    let a : Key := Key.letter 'a' (by decide)
    let gated : Script := ⟨true, none, false, none, some (.failure 404)⟩
    let s := session { start setup ⟨['/']⟩ ⟨0, none, 1⟩ false with
      origin := ⟨[("a", gated)], fun _ => gated, []⟩ } [.ask [(some "one", .entry "a")], .advance 1]
    (∃ y ∈ s.coordinator.flights, y.id = ⟨a, 0⟩ ∧ s.now < y.since + 2) ∧
      ∃ before after,
        let e := Edge.run setup s.edge (.elapse 1 :: before)
        (s.perform (.advance 1)).edge = Edge.run setup e (.land ⟨a, 0⟩ .timedOut :: after) ∧
        e.TimesOut setup ⟨a, 0⟩ := by
  intro setup a gated
  dsimp only
  obtain ⟨held, standing⟩ := no_key_is_held setup ⟨0, none, 1⟩
  obtain ⟨settled, ⟨events, prompt, ran⟩, _, _, last⟩ := standing ⟨['/']⟩ false
    ⟨[("a", gated)], fun _ => gated, []⟩ [.ask [(some "one", .entry "a")], .advance 1]
  obtain ⟨young, _, _⟩ := held events prompt
  rw [← ran] at young
  generalize eq : session { start setup ⟨['/']⟩ ⟨0, none, 1⟩ false with
      origin := ⟨[("a", gated)], fun _ => gated, []⟩ } [.ask [(some "one", .entry "a")], .advance 1]
    = s at settled young last ⊢
  have flights : s.coordinator.flights = [⟨⟨a, 0⟩, 0, some 0⟩] := by
    rw [← eq]
    decide +kernel
  have journeys : s.journeys = [⟨⟨a, 0⟩, .atGate none, 2⟩] := by
    rw [← eq]
    decide +kernel
  have now : s.now = 1 := by
    rw [← eq]
    decide +kernel
  have here : (⟨⟨a, 0⟩, 0, some 0⟩ : Flight) ∈ s.coordinator.flights := by
    rw [flights]
    exact List.mem_cons_self
  have record : s.coordinator.registry.lookup a = some ⟨a, 0⟩ := by
    rw [← eq]
    decide +kernel
  have due : 0 + setup.patience = s.now + 1 := by
    rw [now]
    rfl
  obtain ⟨j, before, after, journey, ticked, _, _, late⟩ := last _ here due
  refine ⟨young settled a ⟨a, 0⟩ record, before, after, ?_⟩
  rw [journey?, journeys] at journey
  cases journey
  exact ⟨ticked, late rfl⟩

end EdgeCache.Simulation
