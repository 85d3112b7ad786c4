import EdgeCache.Proofs.Coordinator.Deadlines
import EdgeCache.Proofs.Coordinator.Faring
import EdgeCache.Proofs.Http.Delivery
import EdgeCache.Proofs.Http.Routing
import Mathlib.Tactic.Lemma

/-!
# A broken origin is no server error

A key is checked and fetched at one and the same address. So every flight has an address to ask for,
and whatever the origin does there leaves an entry. The only fault that a client can get is that its
key has no address, which is the client's.
-/

namespace EdgeCache

/-! ## Addresses -/

namespace Origin

variable {o : Origin} {k : Key} {fault : Fault}

/-- A key is accepted if it has an address. -/
lemma accepts_ok_iff : o.accepts k = .ok () ↔ ∃ u, o.address k = .ok u := by
  rw [accepts]
  cases o.address k with
  | ok u => exact ⟨fun _ => ⟨u, rfl⟩, fun _ => rfl⟩
  | error fault =>
    constructor
    · rintro ⟨⟩
    · rintro ⟨_, ⟨⟩⟩

/-- A key is refused for the reason that it has no address. -/
lemma accepts_error_iff : o.accepts k = .error fault ↔ o.address k = .error fault := by
  rw [accepts]
  cases o.address k with
  | ok u =>
    constructor
    · rintro ⟨⟩
    · rintro ⟨⟩
  | error fault' => rw [Except.map, Except.error.injEq, Except.error.injEq]

/-- That a key has no address is a bad request. -/
lemma address_status (no : o.address k = .error fault) : fault.status = 400 := by
  simp only [address] at no
  split at no
  · cases no
  · cases no
    rfl

/-- Whatever is done with the question for a key that has an address, its fetch brings an entry. -/
lemma fetch_arrives (ok : o.accepts k = .ok ()) (ask : Url → Id Reaction) :
    ∃ u, o.address k = .ok u ∧ Id.run (o.fetch ask k) = .arrived (ask u).run.entry := by
  obtain ⟨u, found⟩ := accepts_ok_iff.1 ok
  refine ⟨u, found, ?_⟩
  rw [fetch, found]
  rfl

end Origin

lemma Settings.accepts_setup {s : Settings} {o : Origin} : (s.setup o).accepts = o.accepts := rfl

/-- Whether a flight ends with an event. -/
def Event.isLanding : Event → Bool
  | .land _ _ => true
  | _ => false

/-- What happens to a service over an origin: a flight ends with its fetch from there, or is given up.
None breaks off. -/
structure Event.OfOrigin (o : Origin) (ev : Event) : Prop where
  service : ev.OfService
  fetched : ∀ f how, ev = .land f how →
    how = .timedOut ∨ ∃ ask : Url → Id Reaction, how = Id.run (o.fetch ask f.key)

/-- What is no landing may happen over any origin. -/
lemma Event.OfOrigin.other {o : Origin} {ev : Event} (service : ev.OfService)
    (aside : ev.isLanding = false) : ev.OfOrigin o := by
  refine ⟨service, ?_⟩
  rintro f how rfl
  cases aside

/-- A fetch of an accepted key brings an entry. -/
lemma Event.OfOrigin.brings {s : Settings} {o : Origin} {ev : Event} (h : ev.OfOrigin o) :
    ev.Brings (s.setup o) := by
  refine ⟨h.service.fine, ?_⟩
  intro f how landing ok
  rcases h.fetched f how landing with rfl | ⟨ask, rfl⟩
  · exact ⟨_, rfl⟩
  · obtain ⟨u, _, arrives⟩ := Origin.fetch_arrives ok ask
    rw [arrives]
    exact ⟨_, rfl⟩

/-! ## Pages -/

namespace Http

variable {r : Router} {s : Snapshot} {path part : List Char} {k : Key}

/-- Whoever is given an entry is sent a page of status 200. -/
lemma Page.ofCall_ok {x : Entry} : (Page.ofCall false (.ok x)).status = 200 := by
  cases x <;> rfl

/-- Whoever is given a fault is sent the status of the fault. -/
lemma Page.ofCall_error {fault : Fault} : (Page.ofCall false (.error fault)).status = fault.status :=
  rfl

/-- A path asks for one key at most. -/
lemma Router.Carries.unique {k' : Key} (c : r.Carries path k) (c' : r.Carries path k') : k = k' := by
  let s : Snapshot := ⟨0, 0, .zero⟩
  have same := (handle_get_iff (s := s)).2 c
  rw [handle_get_iff.2 c'] at same
  exact (Handling.call.inj same).1.symm

/-- A path below the route prefix asks for a key, or for nothing once its outer slashes are off. -/
lemma handle_part (s : Snapshot) (found : r.route? path = some (.resource part)) :
    (∃ k : Key, k.chars = trimSlashes part ∧ r.Carries path k) ∨
      trimSlashes part = [] ∧
        ∃ page, page.status = 400 ∧ handle r s ⟨"GET", path⟩ = .reply page := by
  obtain ⟨⟨rest, resource⟩, eq⟩ := Router.resource_iff.1 found
  have handled := handle_resource (s := s) resource eq
  cases given : Key.ofPath (String.ofList part) with
  | ok k =>
    rw [given] at handled
    have named := Key.ofPath_eq_ok_iff.1 given
    rw [String.toList_ofList] at named
    exact .inl ⟨k, named.symm, handle_get_iff.1 handled⟩
  | error fault =>
    rw [given] at handled
    obtain ⟨empty, rfl⟩ := Key.ofPath_eq_error_iff.1 given
    rw [String.toList_ofList] at empty
    exact .inr ⟨empty, _, rfl, handled⟩

end Http

namespace Edge

open Coordinator Http

/-- The call with this number, if there is one, is for the key that a GET of the path asks for. -/
def CalledFor (r : Router) (e : Edge) (path : List Char) (id : Nat) : Prop :=
  ∀ k w, r.Carries path k → e.coordinator.caller? id = some w → w.key = k

variable {setup : Setup} {e : Edge} {r : Router} {path part : List Char} {id : Nat} {page : Page}

/-- What a GET is answered with is what its call got. -/
lemma finished_of_answer? {k : Key} (carries : r.Carries path k)
    (answered : e.answer? r id ⟨"GET", path⟩ = some page) :
    ∃ w result, e.coordinator.caller? id = some w ∧ w.stage = .finished result ∧
      page = .ofCall false result := by
  rw [answer?, handle_get_iff.2 carries] at answered
  simp only at answered
  split at answered
  case h_1 id' k' result h => exact ⟨_, _, h, rfl, (Option.some.inj answered).symm⟩
  case h_2 => cases answered

/-- A GET below the route prefix gets what it asks for, or is told that there is no such thing. -/
lemma answer_status {o : Origin} {s : Settings} (fair : Fair (s.setup o) e.coordinator)
    (found : r.route? path = some (.resource part)) (called : e.CalledFor r path id)
    (answered : e.answer? r id ⟨"GET", path⟩ = some page) :
    (page.status = 200 ∨ page.status = 400) ∧
      (page.status = 400 ↔ trimSlashes part = [] ∨
        ∃ k fault, k.chars = trimSlashes part ∧ o.address k = .error fault) := by
  rcases handle_part e.coordinator.snapshot found with
    ⟨k, named, carries⟩ | ⟨empty, page', status, handled⟩
  · obtain ⟨w, result, h, ended, rfl⟩ := finished_of_answer? carries answered
    obtain rfl := called k w carries h
    have fares := fair.callers id w h
    rw [ended] at fares
    have unique {k : Key} (same : k.chars = trimSlashes part) : k = w.key :=
      Key.ext (same.trans named.symm)
    cases fares with
    | served ok =>
      refine ⟨.inl Page.ofCall_ok, ?_⟩
      rw [Page.ofCall_ok]
      constructor
      · intro status
        cases status
      · rintro (empty | ⟨k, fault, same, no⟩)
        · exact absurd (named.trans empty) w.key.ne_nil
        · rw [unique same, ← Origin.accepts_error_iff] at no
          cases no.symm.trans ok
    | refused no =>
      have no := Origin.accepts_error_iff.1 no
      have status := Page.ofCall_error.trans (Origin.address_status no)
      exact ⟨.inr status, fun _ => .inr ⟨_, _, named, no⟩, fun _ => status⟩
  · rw [answer?, handled] at answered
    obtain rfl := Option.some.inj answered
    exact ⟨.inr status, fun _ => .inl empty, fun _ => status⟩

/-- In a service over any settings, origin and route prefix, whatever the origin does:
(1) a GET below the route prefix is answered with status 200 or 400, and with 400 exactly if nothing
is left of the rest of its path without the outer slashes, or this is a key that has no address;
(2) where nothing is left, the answer is there at once, without a call;
(3) for a key without an address no flight is registered and the origin is never asked, a call of it
ends in the fault at its first run, if it is not cancelled before, and nothing that is done with it
changes anything in the store or in the registry;
(4) every flight under way brings an entry, whatever is done with its question, and every one that has
ended has left an entry;
(5) once the origin's patience is over and everything has run that is due, a GET whose call is not
cancelled has been answered. -/
theorem origin_failures_are_no_server_errors (s : Settings) (o : Origin) (r : Router)
    (events : List Event) (real : ∀ ev ∈ events, ev.OfOrigin o) :
    let setup := s.setup o
    let e := run setup (start s.limits) events
    let c := e.coordinator
    (∀ path part id page, r.route? path = some (.resource part) → e.CalledFor r path id →
      e.answer? r id ⟨"GET", path⟩ = some page →
      (page.status = 200 ∨ page.status = 400) ∧
        (page.status = 400 ↔ trimSlashes part = [] ∨
          ∃ k fault, k.chars = trimSlashes part ∧ o.address k = .error fault)) ∧
    (∀ path part, r.route? path = some (.resource part) → trimSlashes part = [] →
      ∀ snapshot, ∃ page, page.status = 400 ∧
        Http.handle r snapshot ⟨"GET", path⟩ = .reply page) ∧
    (∀ k fault, o.address k = .error fault →
      (∀ y ∈ c.flights, y.id.key ≠ k) ∧ k ∉ c.asked ∧
      (∀ id, (∀ w, c.caller? id = some w → w.key = k) →
        ∀ ev ∈ [.call id k, .poll id, .cancel id],
          let c' := (e.step setup ev).coordinator
          SameFlights c c' ∧ c'.shelf = c.shelf) ∧
      ∀ id w, c.caller? id = some w → w.key = k →
        w.stage = .finished (.error fault) ∨ w.stage = .cancelled ∨
          w.stage = .idle ∧ (e.step setup (.poll id)).coordinator.caller? id =
            some { w with stage := .finished (.error fault) }) ∧
    (∀ y ∈ c.flights, ∀ ask : Url → Id Reaction, ∃ u, o.address y.id.key = .ok u ∧
      Id.run (o.fetch ask y.id.key) = .arrived (ask u).run.entry) ∧
    (∀ f left, c.outcome? f = some left → ∃ x, left = some (.ok x)) ∧
    ∀ before after, events = before ++ after → Prompt setup (start s.limits) events →
      e.Settled setup →
      let b := run setup (start s.limits) before
      b.now + setup.patience ≤ e.now →
      ∀ id w, b.coordinator.caller? id = some w → .cancel id ∉ events →
        ∀ path, r.Carries path w.key → ∃ page, e.answer? r id ⟨"GET", path⟩ = some page := by
  intro setup e c
  have fair : Fair setup c := fair_run fun ev m => (real ev m).brings
  refine ⟨?_, ?_, ?_, ?_, ?_, ?_⟩
  · intro path part id page found called answered
    exact answer_status fair found called answered
  · intro path part found empty snapshot
    rcases handle_part snapshot found with ⟨k, named, _⟩ | ⟨_, page, status, handled⟩
    · exact absurd (named.trans empty) k.ne_nil
    · exact ⟨page, status, handled⟩
  · intro k fault no
    have no : setup.accepts k = .error fault := Origin.accepts_error_iff.2 no
    have addressless (ok : setup.accepts k = .ok ()) : False := by
      cases no.symm.trans ok
    refine ⟨?_, ?_, ?_, ?_⟩
    · rintro y my rfl
      exact addressless (fair.flights y my)
    · exact fun mk => addressless (fair.asked k mk)
    · intro id own ev about
      exact (step_shift setup e ev).refused no own about
    · rintro id w h rfl
      have fares := fair.callers id w h
      generalize stage : w.stage = st at fares ⊢
      cases fares with
      | idle => exact .inr (.inr ⟨rfl, step_poll_refused h stage no⟩)
      | waiting ok => exact absurd ok addressless
      | served ok => exact absurd ok addressless
      | refused no' =>
        obtain rfl := Except.error.inj (no.symm.trans no')
        exact .inl rfl
      | cancelled => exact .inr (.inl rfl)
  · intro y my ask
    exact Origin.fetch_arrives (fair.flights y my) ask
  · intro f left h
    exact fair.outcome h
  · intro before after eq prompt settled b waited id w h uncancelled path carries
    subst eq
    obtain ⟨st, h'⟩ : ∃ st, c.caller? id = some { w with stage := st } := by
      rw [show c = (run setup b after).coordinator by rw [← run_append]]
      exact run_caller h
    have closed := prompt.closed settled h h' waited
    -- A call that is over has its result, unless it has been cancelled.
    cases st with
    | idle => cases closed
    | waiting f => cases closed
    | finished result => exact ⟨_, answer?_of_finished carries h'⟩
    | cancelled => exact absurd (cancelled_told h' rfl) uncancelled

/-- Where nobody listens at the origin, a GET is answered with status 200. -/
theorem origin_failures_are_no_server_errors_broken :
    let base : Url := ⟨"http".toList, some ⟨[], [], .ipv6 [0, 0, 0, 0, 0, 0, 0, 1], some 81⟩,
      ["libs".toList, []], none, none⟩
    let a := Key.letter 'a' (by decide)
    let e := run (Settings.default.setup ⟨base, "test"⟩) (start Settings.default.limits)
      [.call 1 a, .poll 1, .depart ⟨a, 0⟩, .land ⟨a, 0⟩ (.arrived Reaction.broken.entry), .poll 1]
    ∃ page, e.answer? ⟨"/cdn".toList⟩ 1 ⟨"GET", "/cdn/a".toList⟩ = some page ∧
      page.status = 200 := by
  intro base a
  have found : (⟨base, "test"⟩ : Origin).accepts a = .ok () := by decide +kernel
  have real : ∀ ev ∈ [Event.call 1 a, .poll 1, .depart ⟨a, 0⟩,
      .land ⟨a, 0⟩ (.arrived Reaction.broken.entry), .poll 1], ev.OfOrigin ⟨base, "test"⟩ := by
    simp only [List.forall_mem_cons]
    refine ⟨.other .call rfl, .other .poll rfl, .other .depart rfl, ⟨.land ?_, ?_⟩, .other .poll rfl,
      List.forall_mem_nil _⟩
    · intro x brought
      exact ⟨.broken, (Option.some.inj brought).symm⟩
    · intro f how landing
      cases landing
      obtain ⟨_, _, arrives⟩ := Origin.fetch_arrives found fun _ => pure .broken
      exact .inr ⟨_, arrives.symm⟩
  have ok : (Settings.default.setup ⟨base, "test"⟩).accepts a = .ok () := by
    rw [Settings.accepts_setup, found]
  obtain ⟨answers, _⟩ := origin_failures_are_no_server_errors Settings.default ⟨base, "test"⟩
    ⟨"/cdn".toList⟩ _ real
  generalize Settings.default.setup ⟨base, "test"⟩ = setup at ok answers ⊢
  generalize Settings.default.limits = limits at answers ⊢
  let departed := run setup (start limits) [.call 1 a, .poll 1, .depart ⟨a, 0⟩]
  have waits : departed.coordinator.caller? 1 = some ⟨1, a, .waiting ⟨a, 0⟩⟩ ∧
      departed.coordinator.flight? ⟨a, 0⟩ = some ⟨⟨a, 0⟩, 0, some 0⟩ := by
    simp [departed, run, Edge.step, act, start, Coordinator.start, Coordinator.call, caller?,
      Coordinator.poll, resolve, ok, lookup, Shelf.get, Shelf.reliable, Store.get, Store.slot?,
      Store.empty, dispatch, turns, count, setStage, Coordinator.depart, flight?]
  have lands : departed.Lands setup ⟨a, 0⟩ (.arrived Reaction.broken.entry) := ⟨_, waits.2, rfl⟩
  obtain ⟨st, here, got⟩ := lands.delivers run_orderly waits.1 rfl rfl [.poll 1]
  rw [← run_cons, ← run_append] at here
  change (run setup (start limits) [.call 1 a, .poll 1, .depart ⟨a, 0⟩,
    .land ⟨a, 0⟩ (.arrived Reaction.broken.entry), .poll 1]).coordinator.caller? 1 = _ at here
  generalize run setup (start limits) [.call 1 a, .poll 1, .depart ⟨a, 0⟩,
    .land ⟨a, 0⟩ (.arrived Reaction.broken.entry), .poll 1] = e at here answers ⊢
  rcases got with ⟨_, unpolled⟩ | rfl | ⟨_, cancelled⟩
  · exact absurd List.mem_cons_self unpolled
  · have carries : (⟨"/cdn".toList⟩ : Router).Carries "/cdn/a".toList a :=
      ⟨by decide, by decide, 0, 0, by decide⟩
    have answered := answer?_of_finished carries here
    refine ⟨_, answered, ?_⟩
    have called : e.CalledFor ⟨"/cdn".toList⟩ "/cdn/a".toList 1 := by
      intro k w asks h
      obtain rfl := Option.some.inj (here.symm.trans h)
      exact carries.unique asks
    obtain ⟨ok | bad, malformed⟩ := answers _ "/a".toList 1 _ (by rfl) called answered
    · exact ok
    · obtain empty | ⟨k, fault, named, no⟩ := malformed.1 bad
      · cases empty
      · obtain rfl : k = a := Key.ext named
        cases (Origin.accepts_error_iff.2 no).symm.trans found
  · simp at cancelled

end Edge

end EdgeCache
