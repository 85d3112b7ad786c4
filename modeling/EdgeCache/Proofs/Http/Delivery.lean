import EdgeCache.Proofs.Coordinator.Fetching
import EdgeCache.Proofs.Coordinator.Serving
import EdgeCache.Proofs.Coordinator.Steady
import EdgeCache.Proofs.Http.Content
import EdgeCache.Proofs.Http.Requests
import EdgeCache.Service
import Mathlib.Tactic.Lemma

/-!
# What the origin says is what the client gets

The service from end to end. Its store does not fail and has no other user, and a flight brings what
the origin's reaction leaves. So the store holds nothing but what reactions have left, and what the
origin does with the one question for a key is what every client of the key gets, from then on until
the key is taken out of the store.
-/

namespace EdgeCache

/-- What happens to a service. -/
inductive Event.OfService : Event → Prop where
  | call {id : Nat} {k : Key} :
    OfService (.call id k)
  | poll {id : Nat} :
    OfService (.poll id)
  | cancel {id : Nat} :
    OfService (.cancel id)
  | depart {f : FlightId} :
    OfService (.depart f)
  /-- What a flight brings has been left by a reaction of the origin. -/
  | land {f : FlightId} {how : Landing} :
    (∀ x, how.entry? = some x → ∃ r : Reaction, x = r.entry) →
    OfService (.land f how)
  | elapse {ms : Nat} :
    OfService (.elapse ms)
  | sweep :
    OfService .sweep
  | clear :
    OfService .clear

/-- The service does not make its store fail. -/
lemma Event.OfService.fine {ev : Event} (h : ev.OfService) : ev.isFault = false := by
  cases h <;> rfl

namespace Edge

open Coordinator

/-- The page for a request at this moment, if there is one already. A request that makes a call is
answered once the call, which bears a number, has its result. -/
def answer? (r : Http.Router) (e : Edge) (id : Nat) (q : Http.Request) : Option Http.Page :=
  match Http.handle r e.coordinator.snapshot q with
  | .reply page => some page
  | .call _ bodiless =>
    match e.coordinator.caller? id with
    | some ⟨_, _, .finished result⟩ => some (.ofCall bodiless result)
    | _ => none

variable {setup : Setup} {e : Edge} {ev : Event} {events : List Event} {k : Key}

/-- A GET for a key is answered with the page for what its call got. -/
lemma answer?_of_finished {r : Http.Router} {path : List Char} {id : Nat} {w : Caller}
    {result : Result} (carries : r.Carries path k)
    (h : e.coordinator.caller? id = some { w with stage := .finished result }) :
    e.answer? r id ⟨"GET", path⟩ = some (.ofCall false result) := by
  rw [answer?, Http.handle_get_iff.2 carries]
  simp only [h]

/-- The store does not fail, and holds nothing but what reactions have left. -/
structure Genuine (e : Edge) : Prop where
  orderly : Orderly e.coordinator
  calm : e.coordinator.shelf.Calm
  left : ∀ y ∈ e.store.slots, ∃ r : Reaction, y.entry = r.entry

namespace Genuine

/-- Every event of the service keeps it genuine. -/
lemma step (h : e.Genuine) (service : ev.OfService) : (e.step setup ev).Genuine := by
  have sh := step_shift setup e ev
  refine ⟨sh.traffic.orderly h.orderly, sh.calm h.calm service.fine, ?_⟩
  intro y my
  rcases sh.came my with my | rfl | ⟨f, how, _, rfl, _, _, brought⟩
  · exact h.left y my
  · cases service
  · cases service with
    | land origin => exact origin _ brought

/-- The service is genuine along every run of its own. -/
lemma run (h : e.Genuine) (service : ∀ ev ∈ events, ev.OfService) :
    (Edge.run setup e events).Genuine := by
  induction events generalizing e with
  | nil => exact h
  | cons ev events ih =>
    refine ih (h.step (service ev List.mem_cons_self)) ?_
    exact fun ev m => service ev (List.mem_cons_of_mem _ m)

/-- It is genuine at the start. -/
lemma start {limits : Limits} : (Edge.start limits).Genuine :=
  ⟨start_orderly, ⟨rfl, rfl⟩, List.forall_mem_nil _⟩

lemma reads (h : e.Genuine) : e.coordinator.shelf.readings.head?.getD .faithful = .faithful := by
  rw [h.calm.readings]
  rfl

lemma writes (h : e.Genuine) : e.coordinator.shelf.writings.head?.getD .faithful = .faithful := by
  rw [h.calm.writings]
  rfl

/-- Its store neither refuses nor loses anything. -/
lemma healthy (h : e.Genuine) : e.coordinator.shelf.Healthy := by
  rw [Shelf.Healthy, h.calm.readings]
  exact List.forall_mem_nil _

/-- A service parts with what it holds only by losing it. -/
lemma loses (h : e.Genuine) (service : ev.OfService) (parts : e.Parts setup k ev) :
    e.Loses setup ev k := by
  cases parts with
  | lost loses => exact loses
  | replaced => cases service
  | hidden blind => exact absurd h.reads blind

/-- What a flight of a service brings is what its callers get. -/
lemma result (h : e.Genuine) {how : Landing} {x : Entry} (brought : how.entry? = some x) :
    how.result e.now k e.coordinator.shelf = .ok x := by
  have put (x : Entry) : (e.coordinator.shelf.put e.now k x).1 = .ok () := by
    simp only [Shelf.put, h.writes]
  cases how with
  | arrived entry =>
    cases brought
    rw [Landing.result, put]
    rfl
  | refused => cases brought
  | crashed => cases brought
  | timedOut =>
    cases brought
    rw [Landing.result, put]
    rfl

/-- What a service holds is served to later calls, unless it has been lost since. -/
lemma serves_later {w : Caller} {id : Nat} {x : Entry} (h : e.Genuine) (held : e.Holds w.key x)
    (service : ∀ ev ∈ events, ev.OfService)
    (hw : (Edge.run setup e events).coordinator.caller? id = some w) (idle : w.stage = .idle)
    (ok : setup.accepts w.key = .ok ()) :
    (Edge.run setup e events).Serves setup id w x ∨
      ∃ before ev after, events ++ [.poll id] = before ++ ev :: after ∧
        (Edge.run setup e before).Loses setup ev w.key := by
  rcases held.serves_later h.orderly hw idle ok with served | ⟨before, lost, after, eq, parts⟩
  · exact .inl served
  · -- Nothing in a service hides an entry or puts another one in its place.
    have all : ∀ ev ∈ before ++ lost :: after, ev.OfService := by
      rw [← eq]
      intro ev m
      rcases List.mem_append.1 m with m | m
      · exact service ev m
      · rw [List.mem_singleton.1 m]
        exact .poll
    have there : (Edge.run setup e before).Genuine :=
      h.run fun ev m => all ev (List.mem_append_left _ m)
    refine .inr ⟨before, lost, after, eq, there.loses ?_ parts⟩
    exact all lost (List.mem_append_right _ List.mem_cons_self)

end Genuine

/-- In a service over any settings, origin and route prefix:
(1) a GET is a call for a key exactly if its path asks for the key; and if any GET asks for a key, the
one of its own path, the prefix and the key, does so too, unless this is a fixed path;
(2) everything in the store has been left by a reaction of the origin, and the page that is sent for
it is the one that this reaction delivers: a complete answer with status 200 with the same body and
content type, and nothing for any other;
(3) a call of a key that has an address and is neither in the store nor under way has it fetched:
however the flight ends that brings what a reaction leaves, the origin has been asked once for the
key, the entry of the reaction is in the store, and a GET that has made the call is answered with the
page that the reaction delivers, unless the call is cancelled; a GET that makes a later call of the key
is answered with the same page, at once and without a flight, unless the key has been taken out of
the store since. -/
theorem origin_is_relayed (s : Settings) (o : Origin) (r : Http.Router) (events : List Event)
    (service : ∀ ev ∈ events, ev.OfService) :
    let setup := s.setup o
    let e := run setup (start s.limits) events
    (∀ path k snapshot,
      (Http.handle r snapshot ⟨"GET", path⟩ = .call k false ↔ r.Carries path k) ∧
      ∀ target, Http.Request.of? "GET" target = some ⟨"GET", path⟩ → r.Carries path k →
        Http.Request.of? "GET" (String.ofList (r.pathTo k)) = some ⟨"GET", r.pathTo k⟩ ∧
        (r.Carries (r.pathTo k) k ∨ r.pathTo k = Http.healthPath ∨ r.pathTo k = Http.countersPath)) ∧
    (∀ y ∈ e.store.slots, ∃ reaction : Reaction,
      reaction.Delivers y.entry (Http.Page.ofCall false (.ok y.entry))) ∧
    ∀ id w, e.coordinator.caller? id = some w → w.stage = .idle → o.accepts w.key = .ok () →
      e.Free w.key → (e.store.get e.now w.key).1 = none →
      let f : FlightId := ⟨w.key, e.coordinator.turns w.key⟩
      (e.step setup (.poll id)).coordinator.caller? id = some { w with stage := .waiting f } ∧
      ∀ mid, (∀ ev ∈ mid, ev.OfService) →
        let a := run setup (e.step setup (.poll id)) mid
        ∀ how (reaction : Reaction), how.entry? = some reaction.entry → a.Lands setup f how →
          let b := a.step setup (.land f how)
          ∃ page, reaction.Delivers reaction.entry page ∧
            a.coordinator.fetches w.key = e.coordinator.fetches w.key + 1 ∧
            b.Holds w.key reaction.entry ∧
            ∀ later, (∀ ev ∈ later, ev.OfService) →
              let z := run setup b later
              (∃ st, z.coordinator.caller? id = some { w with stage := st } ∧
                (st = .waiting f ∧ .poll id ∉ later ∨
                  (∀ path, r.Carries path w.key → z.answer? r id ⟨"GET", path⟩ = some page) ∨
                  st = .cancelled ∧ .cancel id ∈ mid ++ later)) ∧
              ∀ id' w', z.coordinator.caller? id' = some w' → w'.stage = .idle → w'.key = w.key →
                (z.Serves setup id' w' reaction.entry ∧ ∀ path, r.Carries path w.key →
                  (z.step setup (.poll id')).answer? r id' ⟨"GET", path⟩ = some page) ∨
                ∃ before ev after, later ++ [.poll id'] = before ++ ev :: after ∧
                  (run setup b before).Loses setup ev w.key := by
  intro setup e
  have genuine : e.Genuine := Genuine.start.run service
  refine ⟨?_, ?_, ?_⟩
  · intro path k snapshot
    refine ⟨Http.handle_get_iff, fun target understood carries => ?_⟩
    refine ⟨Http.Request.of?_pathTo understood carries, ?_⟩
    by_cases health : r.pathTo k = Http.healthPath
    · exact .inr (.inl health)
    · by_cases counters : r.pathTo k = Http.countersPath
      · exact .inr (.inr counters)
      · exact .inl (Http.Router.carries_pathTo health counters)
  · intro y my
    obtain ⟨reaction, eq⟩ := genuine.left y my
    refine ⟨reaction, ?_⟩
    rw [eq]
    exact reaction.entry_delivers
  · intro id w h idle ok free missed f
    have new : e.Anew setup id w f := free.anew genuine.orderly h idle ok genuine.healthy missed
    refine ⟨new.waits, ?_⟩
    intro mid mids a how reaction brought lands b
    have fetched : a.Genuine := (genuine.step .poll).run mids
    have stored : b.Holds w.key reaction.entry := lands.holds fetched.orderly brought fetched.writes
    have landed : b.Genuine := by
      apply fetched.step
      apply Event.OfService.land
      intro x brings
      exact ⟨reaction, Option.some.inj (brings.symm.trans brought)⟩
    refine ⟨_, reaction.entry_delivers, new.asked_once genuine.orderly lands, stored, ?_⟩
    intro later laters z
    constructor
    · obtain ⟨st, h', got⟩ := new.delivers genuine.orderly lands later
      refine ⟨st, h', got.imp_right (.imp_left ?_)⟩
      rintro rfl path carries
      rw [← fetched.result (k := w.key) brought]
      exact answer?_of_finished carries h'
    · intro id' w' h' idle' ek
      rw [← ek] at stored ok ⊢
      refine (landed.serves_later stored laters h' idle' ok).imp_left fun served => ⟨served, ?_⟩
      intro path carries
      exact answer?_of_finished carries served.gets

/-- A style sheet comes to its first client as the origin sends it. -/
theorem style_sheet_is_relayed :
    let base : Url := ⟨"http".toList, some ⟨[], [], .ipv6 [0, 0, 0, 0, 0, 0, 0, 1], some 81⟩,
      ["libs".toList, []], none, none⟩
    let a := Key.letter 'a' (by decide)
    let css : Reaction := .answer 200 [⟨"Content-Type", "text/css".toUTF8⟩] "p".toUTF8 .complete
    let e := run (Settings.default.setup ⟨base, "test"⟩) (start Settings.default.limits)
      [.call 1 a, .poll 1, .depart ⟨a, 0⟩, .land ⟨a, 0⟩ (.arrived css.entry), .poll 1]
    ∃ page, css.Delivers css.entry page ∧
      e.answer? ⟨"/cdn".toList⟩ 1 ⟨"GET", "/cdn/a".toList⟩ = some page := by
  intro base a css
  have call : ∀ ev ∈ [Event.call 1 a], ev.OfService := List.forall_mem_singleton.2 .call
  have depart : ∀ ev ∈ [Event.depart ⟨a, 0⟩], ev.OfService := List.forall_mem_singleton.2 .depart
  have poll : ∀ ev ∈ [Event.poll 1], ev.OfService := List.forall_mem_singleton.2 .poll
  have found : (⟨base, "test"⟩ : Origin).accepts a = .ok () := by decide +kernel
  have same (s : Settings) (o : Origin) : (s.setup o).accepts = o.accepts := rfl
  have ok := found
  rw [← same Settings.default] at ok
  obtain ⟨_, _, fetched⟩ :=
    origin_is_relayed Settings.default ⟨base, "test"⟩ ⟨"/cdn".toList⟩ [.call 1 a] call
  generalize Settings.default.setup ⟨base, "test"⟩ = setup at ok fetched ⊢
  generalize Settings.default.limits = limits at fetched ⊢
  obtain ⟨_, relayed⟩ := fetched 1 ⟨1, a, .idle⟩ rfl rfl found (List.forall_mem_nil _) rfl
  have lands : (run setup (start limits) [.call 1 a, .poll 1, .depart ⟨a, 0⟩]).Lands setup ⟨a, 0⟩
      (.arrived css.entry) := by
    refine ⟨⟨⟨a, 0⟩, 0, some 0⟩, ?_, rfl⟩
    simp [run, Edge.step, act, start, Coordinator.start, Coordinator.call, caller?, Coordinator.poll,
      resolve, ok, lookup, Shelf.get, Shelf.reliable, Store.get, Store.slot?, Store.empty, dispatch,
      turns, count, setStage, Coordinator.depart, flight?]
  obtain ⟨page, delivers, _, _, gets⟩ :=
    relayed [.depart ⟨a, 0⟩] depart (.arrived css.entry) css rfl lands
  refine ⟨page, delivers, ?_⟩
  obtain ⟨⟨st, h, got⟩, _⟩ := gets [.poll 1] poll
  rcases got with ⟨_, unpolled⟩ | answered | ⟨_, cancelled⟩
  · exact absurd List.mem_cons_self unpolled
  · exact answered _ ⟨by decide, by decide, 0, 0, by decide⟩
  · simp at cancelled

end Edge

end EdgeCache
