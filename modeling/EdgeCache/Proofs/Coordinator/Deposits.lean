import EdgeCache.Proofs.Coordinator.Accounts

/-!
# Deposits

What the flights of a run hand to the store, and how failures among it are counted. A failure is
counted before it is put: one that the store refuses is counted as well, although nothing is kept.
-/

namespace EdgeCache

/-- An entry that a flight has brought and handed to the store, and what the store has answered. -/
structure Deposit where
  flight : FlightId
  entry : Entry
  answer : Except Fault Unit

/-- Whether a failure has been put. -/
def Deposit.isNegative (d : Deposit) : Bool := d.entry.isNegative

/-- Whether the store has accepted the entry. -/
def Deposit.isAccepted (d : Deposit) : Bool :=
  match d.answer with
  | .ok () => true
  | .error _ => false

namespace Edge

/-- What the end of a flight hands to the store. -/
def deposit? (setup : Setup) (e : Edge) : Event → Option Deposit
  | .land f how =>
    if (e.coordinator.flight? f).any (Coordinator.canLand setup e.now how) then
      how.entry?.map fun entry =>
        ⟨f, entry, (e.coordinator.shelf.put e.now f.key entry).1⟩
    else none
  | _ => none

/-- Everything that flights have handed to the store along a run. -/
def deposits (setup : Setup) (e : Edge) (events : List Event) : List Deposit :=
  notes setup (deposit? setup) e events

open Coordinator

variable {setup : Setup} {e : Edge} {ev : Event} {events : List Event} {d : Deposit}

lemma lands_iff {f how} :
    e.Lands setup f how ↔ (e.coordinator.flight? f).any (canLand setup e.now how) = true := by
  rw [Option.any_eq_true]
  rfl

/-- Only the end of a flight that brings an entry hands one to the store. -/
lemma deposit?_iff :
    e.deposit? setup ev = some d ↔
      ∃ f how, ev = .land f how ∧ e.Lands setup f how ∧ how.entry? = some d.entry ∧
        d.flight = f ∧ d.answer = (e.coordinator.shelf.put e.now f.key d.entry).1 := by
  constructor
  · intro noted
    cases ev
    case land f how =>
      rw [deposit?] at noted
      split at noted
      case isTrue can =>
        obtain ⟨entry, brought, rfl⟩ := Option.map_eq_some_iff.1 noted
        exact ⟨f, how, rfl, lands_iff.2 can, brought, rfl, rfl⟩
      case isFalse => cases noted
    all_goals cases noted
  · rintro ⟨f, how, rfl, lands, brought, rfl, put⟩
    rw [deposit?, if_pos (lands_iff.1 lands), brought, Option.map_some, ← put]

/-- Where no flight ends, no failure is counted. -/
lemma step_undeposited (unlanded : ∀ f how, ev = .land f how → ¬ e.Lands setup f how) :
    (e.step setup ev).coordinator.tally.negativeStored = e.coordinator.tally.negativeStored := by
  generalize eq : (e.step setup ev).coordinator = c
  have sh := step_shift setup e ev
  rw [eq] at sh
  cases sh with
  | still => rfl
  | shelved => rfl
  | called => rfl
  | answered _ _ res =>
    rw [finish_tally]
    cases resolve_inv res <;> rfl
  | attached _ _ res =>
    rw [setStage_tally]
    cases resolve_inv res <;> rfl
  | received => rw [finish_tally]
  | abandoned => rfl
  | departed => rfl
  | landed h can => exact absurd ⟨_, h, can⟩ (unlanded _ _ rfl)

/-- Where a flight ends, a failure that it brings is counted, whatever the store answers. -/
lemma step_land_deposited {f how} (lands : e.Lands setup f how) :
    (e.step setup (.land f how)).coordinator.tally.negativeStored =
      e.coordinator.tally.negativeStored + (how.entry?.any Entry.isNegative).toNat := by
  obtain ⟨x, h, can⟩ := lands
  have landed : (e.step setup (.land f how)).coordinator = e.coordinator.landing e.now f how :=
    land_eq h can
  rw [landed, landing_tally]

lemma step_deposited :
    (e.step setup ev).coordinator.tally.negativeStored =
      e.coordinator.tally.negativeStored +
        (e.deposit? setup ev).toList.countP Deposit.isNegative := by
  by_cases ends : ∃ f how, ev = .land f how ∧ e.Lands setup f how
  · obtain ⟨f, how, rfl, lands⟩ := ends
    rw [step_land_deposited lands, deposit?, if_pos (lands_iff.1 lands)]
    cases how.entry? with
    | none => rfl
    | some entry => cases neg : entry.isNegative <;> simp [Deposit.isNegative, neg]
  · have nothing : e.deposit? setup ev = none := by
      refine Option.eq_none_iff_forall_ne_some.2 fun d noted => ?_
      obtain ⟨f, how, eq, lands, _⟩ := deposit?_iff.1 noted
      exact ends ⟨f, how, eq, lands⟩
    rw [nothing, step_undeposited fun f how eq lands => ends ⟨f, how, eq, lands⟩]
    rfl

lemma run_deposited {limits} :
    (run setup (start limits) events).coordinator.tally.negativeStored =
      (deposits setup (start limits) events).countP Deposit.isNegative := by
  rw [run_counts (n := fun e => e.coordinator.tally.negativeStored) fun _ _ => step_deposited]
  exact Nat.zero_add _

lemma mem_deposits_iff :
    d ∈ deposits setup e events ↔
      ∃ before how after, events = before ++ .land d.flight how :: after ∧
        let e' := run setup e before
        e'.Lands setup d.flight how ∧ how.entry? = some d.entry ∧
          d.answer = (e'.coordinator.shelf.put e'.now d.flight.key d.entry).1 := by
  rw [deposits, mem_notes_iff]
  constructor
  · rintro ⟨before, ev, after, rfl, noted⟩
    obtain ⟨_, how, rfl, lands, brought, rfl, put⟩ := deposit?_iff.1 noted
    exact ⟨before, how, after, rfl, lands, brought, put⟩
  · rintro ⟨before, how, after, rfl, lands, brought, put⟩
    exact ⟨before, _, after, rfl, deposit?_iff.2 ⟨_, how, rfl, lands, brought, rfl, put⟩⟩

/-- At every moment of every run:
(1) what has been handed to the store is what the flights that have ended brought, an answer of any
status and the failure that stands for a time-out, and the store has answered each time;
(2) the failures among it are counted, whatever the store answered;
(3) so the count is that of the failures which the store has accepted as long as it has not refused
one, and no longer. -/
theorem failures_counted_when_put (setup : Setup) (limits : Limits) (events : List Event) :
    let t := (run setup (start limits) events).coordinator.tally
    let handed := deposits setup (start limits) events
    (∀ d, d ∈ handed ↔ ∃ before how after, events = before ++ .land d.flight how :: after ∧
      let e := run setup (start limits) before
      e.Lands setup d.flight how ∧ how.entry? = some d.entry ∧
        d.answer = (e.coordinator.shelf.put e.now d.flight.key d.entry).1) ∧
    t.negativeStored = handed.countP Deposit.isNegative ∧
    (t.negativeStored = handed.countP (fun d => d.isAccepted && d.isNegative) ↔
      ∀ d ∈ handed, d.isNegative = true → d.isAccepted = true) := by
  intro t handed
  have counted : t.negativeStored = handed.countP Deposit.isNegative := run_deposited
  refine ⟨fun d => mem_deposits_iff, counted, ?_⟩
  have all_accepted : handed.countP (fun d => d.isAccepted && d.isNegative) =
      (handed.filter Deposit.isNegative).length ↔
      ∀ d ∈ handed, d.isNegative = true → d.isAccepted = true := by
    rw [← List.countP_filter, List.countP_eq_length]
    simp only [List.mem_filter, and_imp]
  rw [counted, List.countP_eq_length_filter, ← all_accepted]
  exact eq_comm

/-- A failure that the store refuses is counted although nothing is kept. -/
theorem not_only_accepted_counted :
    ¬ ∀ (setup : Setup) (limits : Limits) (events : List Event),
      (run setup (start limits) events).coordinator.tally.negativeStored =
        (deposits setup (start limits) events).countP fun d => d.isAccepted && d.isNegative := by
  intro only
  have refused := only ⟨fun _ => .ok (), 1⟩ ⟨0, none, 1⟩
    [.writing [.unavailable "disk"], .call 1 (Key.letter 'a' (by decide)), .poll 1,
      .depart ⟨Key.letter 'a' (by decide), 0⟩,
      .land ⟨Key.letter 'a' (by decide), 0⟩ (.arrived (.failure 404))]
  revert refused
  decide +kernel

end Edge

end EdgeCache
