import EdgeCache.Proofs.Coordinator.Errors

/-!
# One fetch

What happens between the dispatch of a flight and its end. The flight asks the origin once, and its
key is not asked for otherwise; the call that dispatched it waits, unless it is cancelled.
-/

namespace EdgeCache

/-- How often a flight has asked the origin. -/
def Flight.questions (x : Flight) : Nat := if x.departed.isSome then 1 else 0

namespace Coordinator

variable {setup : Setup} {now : Nat} {c c' : Coordinator} {ev : Event} {y : Flight}

lemma fetches_congr {k : Key} (s : SameFlights c c') : c'.fetches k = c.fetches k := by
  rw [fetches, s.asked, fetches]

lemma questions_of_canLand {how : Landing} (can : canLand setup now how y = true) :
    y.questions = 1 := by
  rw [Flight.questions, departed_of_canLand can, if_pos rfl]

/-- While a flight is under way, its key is asked for by the flight itself. -/
lemma Traffic.questions (tr : Traffic setup now c ev c') (inv : Orderly c) (my : y ∈ c.flights) :
    (∃ y' ∈ c'.flights, y'.id = y.id ∧
      c'.fetches y.id.key + y.questions = c.fetches y.id.key + y'.questions) ∨
      (c'.outcome? y.id).isSome = true := by
  cases tr with
  | same s => exact .inl ⟨y, s.flights ▸ my, rfl, by rw [fetches_congr s]⟩
  | dispatched _ _ _ _ _ _ s =>
    refine .inl ⟨y, s.flights ▸ List.mem_append_left _ my, rfl, ?_⟩
    rw [fetches_congr s]
    rfl
  | @departed f x c' h d s =>
    obtain ⟨mx, rfl⟩ := inv.flight?_iff.1 h
    rw [s.flights]
    refine .inl ⟨_, List.mem_map_of_mem my, ?_⟩
    rw [fetches_congr s]
    by_cases same : y.id = x.id
    · obtain rfl := inv.unique my mx (congrArg FlightId.key same)
      simp [fetches, departing, Flight.questions, d]
    · have other : y.id.key ≠ x.id.key := fun ek => same (congrArg _ (inv.unique my mx ek))
      simp [fetches, departing, same, other.symm]
  | @landed f how x o c' h can s =>
    obtain ⟨mx, rfl⟩ := inv.flight?_iff.1 h
    by_cases same : y.id = x.id
    · refine .inr ?_
      rw [outcome?_congr s, same, inv.outcome?_close mx]
      rfl
    · refine .inl ⟨y, s.flights ▸ List.mem_filter.2 ⟨my, ?_⟩, rfl, ?_⟩
      · simpa using same
      · rw [fetches_congr s]
        rfl

lemma Traffic.unasked {id : Nat} (tr : Traffic setup now c (.poll id) c') : c'.asked = c.asked := by
  cases tr with
  | same s => exact s.asked
  | dispatched _ _ _ _ _ _ s => exact s.asked

end Coordinator

namespace Edge

open Coordinator

variable {setup : Setup} {e : Edge} {mid : List Event} {f : FlightId} {how : Landing}
variable {id : Nat} {w : Caller} {x y : Flight}

/-- As long as a flight is under way, the origin is asked for its key only by itself. -/
lemma run_questions (inv : Orderly e.coordinator) (my : y ∈ e.coordinator.flights)
    (mx : x ∈ (run setup e mid).coordinator.flights) (same : x.id = y.id) :
    (run setup e mid).coordinator.fetches y.id.key + y.questions =
      e.coordinator.fetches y.id.key + x.questions := by
  induction mid generalizing e y with
  | nil =>
    obtain rfl := inv.unique mx my (congrArg FlightId.key same)
    rfl
  | cons ev mid ih =>
    have tr := (step_shift setup e ev).traffic
    have inv' := tr.orderly inv
    rcases tr.questions inv my with ⟨y', my', same', first⟩ | left
    · have rest := ih inv' my' mx (same.trans same'.symm)
      rw [same'] at rest
      rw [run_cons]
      omega
    · obtain ⟨o, left⟩ := Option.isSome_iff_exists.1 left
      have ended : (run setup (e.step setup ev) mid).coordinator.outcome? y.id = some o :=
        run_outcome left
      rw [← same, inv'.run.outcome?_eq_none mx] at ended
      cases ended

/-- As long as a flight is under way, who waits for it does so until cancelled. -/
lemma run_waits (inv : Orderly e.coordinator) (h : e.coordinator.caller? id = some w)
    (waiting : w.stage = .waiting f) (mx : x ∈ (run setup e mid).coordinator.flights)
    (same : x.id = f) :
    (run setup e mid).coordinator.caller? id = some w ∨
      .cancel id ∈ mid ∧
        (run setup e mid).coordinator.caller? id = some { w with stage := .cancelled } := by
  induction mid generalizing e with
  | nil => exact .inl h
  | cons ev mid ih =>
    have sh := step_shift setup e ev
    obtain ⟨st, h', mv⟩ := sh.caller h
    cases mv with
    | rests =>
      refine (ih (sh.traffic.orderly inv) h' mx).imp_right ?_
      exact fun ⟨m, gone⟩ => ⟨List.mem_cons_of_mem _ m, gone⟩
    | answered _ idle =>
      rw [waiting] at idle
      cases idle
    | attached _ idle =>
      rw [waiting] at idle
      cases idle
    | received _ waiting' left =>
      -- What a flight leaves stays, but one that is under way at the end has left nothing.
      rw [waiting] at waiting'
      cases waiting'
      have ended : (run setup e (ev :: mid)).coordinator.outcome? f = _ := run_outcome left
      have inv' : Orderly (run setup e (ev :: mid)).coordinator := inv.run
      rw [← same, inv'.outcome?_eq_none mx] at ended
      cases ended
    | abandoned eq =>
      rw [caller?_id h] at eq
      refine .inr ⟨eq ▸ List.mem_cons_self, ?_⟩
      rw [run_cons]
      exact run_closed h' rfl

namespace Anew

/-- The origin is asked once for what is fetched anew. -/
lemma asked_once (new : e.Anew setup id w f) (inv : Orderly e.coordinator)
    (lands : (run setup (e.step setup (.poll id)) mid).Lands setup f how) :
    (run setup (e.step setup (.poll id)) mid).coordinator.fetches w.key =
      e.coordinator.fetches w.key + 1 := by
  have sh := step_shift setup e (.poll id)
  have inv' := sh.traffic.orderly inv
  obtain ⟨x, h, can⟩ := lands
  obtain ⟨mx, same⟩ := inv'.run.flight?_iff.1 h
  have my : ⟨f, e.now, none⟩ ∈ (e.step setup (.poll id)).coordinator.flights := by
    rw [new.dispatched]
    exact List.mem_append_right _ List.mem_cons_self
  have count := run_questions inv' my mx same
  rw [questions_of_canLand can, new.named, fetches, fetches, sh.traffic.unasked] at count
  exact count

/-- Who has its key fetched anew gets what the flight leaves, unless cancelled. -/
lemma delivers (new : e.Anew setup id w f) (inv : Orderly e.coordinator)
    (lands : (run setup (e.step setup (.poll id)) mid).Lands setup f how) (later : List Event) :
    let a := run setup (e.step setup (.poll id)) mid
    ∃ st, (run setup (a.step setup (.land f how)) later).coordinator.caller? id =
        some { w with stage := st } ∧
      (st = .waiting f ∧ .poll id ∉ later ∨
        st = .finished (how.result a.now w.key a.coordinator.shelf) ∨
        st = .cancelled ∧ .cancel id ∈ mid ++ later) := by
  intro a
  have inv' := (step_shift setup e (.poll id)).traffic.orderly inv
  have ⟨x, hx, _⟩ := lands
  obtain ⟨mx, same⟩ := inv'.run.flight?_iff.1 hx
  rcases run_waits inv' new.waits rfl mx same with waiting | ⟨cancelled, gone⟩
  · obtain ⟨st, h, got⟩ := new.gets mid how lands waiting later
    refine ⟨st, h, got.imp_right (.imp_right ?_)⟩
    exact fun ⟨eq, m⟩ => ⟨eq, List.mem_append_right _ m⟩
  · have closed : (run setup a (.land f how :: later)).coordinator.caller? id =
        some { w with stage := .cancelled } := run_closed gone rfl
    exact ⟨.cancelled, closed, .inr (.inr ⟨rfl, List.mem_append_left _ cancelled⟩)⟩

end Anew

end Edge

end EdgeCache
