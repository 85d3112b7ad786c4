import EdgeCache.Edge
import Mathlib.Tactic.Lemma

/-!
# Runs and their moments

What holds along a run because every event keeps it, where in a run something is lost that held
before, and what has been noted along a run. All are stated once, for any property of a moment and
any note of an event.
-/

namespace EdgeCache.Edge

variable {setup : Setup} {e : Edge} {events later : List Event} {ev : Event}

lemma run_append : run setup e (events ++ later) = run setup (run setup e events) later :=
  List.foldl_append

lemma run_cons : run setup e (ev :: events) = run setup (e.step setup ev) events := rfl

/-- The moment after an event in the middle of a run. -/
lemma run_through :
    run setup e (events ++ ev :: later) =
      run setup ((run setup e events).step setup ev) later := by
  rw [run_append, run_cons]

/-- What every event keeps holds along every run. -/
lemma run_keeps {P : Edge → Prop} (keeps : ∀ e ev, P e → P (e.step setup ev)) (h : P e) :
    P (run setup e events) := by
  induction events generalizing e with
  | nil => exact h
  | cons ev events ih => exact ih (keeps e ev h)

/-- What every event keeps where something else always holds, holds along every run. -/
lemma run_keeps_along {P Q : Edge → Prop} (always : ∀ events, Q (run setup e events))
    (keeps : ∀ e ev, Q e → P e → P (e.step setup ev)) (h : P e) : P (run setup e events) := by
  induction events generalizing e with
  | nil => exact h
  | cons ev events ih =>
    apply ih
    · exact fun events => always (ev :: events)
    · exact keeps e ev (always []) h

/-- What holds before a run and not after it is lost at one of its events. -/
lemma run_loses {P : Edge → Prop} (h : P e) (n : ¬ P (run setup e events)) :
    ∃ before ev after, events = before ++ ev :: after ∧
      P (run setup e before) ∧ ¬ P ((run setup e before).step setup ev) := by
  induction events generalizing e with
  | nil => exact absurd h n
  | cons ev events ih =>
    by_cases h' : P (e.step setup ev)
    · obtain ⟨before, ev', after, eq, held, lost⟩ := ih h' n
      exact ⟨ev :: before, ev', after, by rw [eq, List.cons_append], held, lost⟩
    · exact ⟨[], ev, events, rfl, h, h'⟩

/-! ## Notes -/

variable {α : Type} {note : Edge → Event → Option α} {a : α}

/-- What is noted along a run, first to last. -/
def notes (setup : Setup) (note : Edge → Event → Option α) (e : Edge) : List Event → List α
  | [] => []
  | ev :: events => (note e ev).toList ++ notes setup note (e.step setup ev) events

lemma notes_append :
    notes setup note e (events ++ later) =
      notes setup note e events ++ notes setup note (run setup e events) later := by
  induction events generalizing e with
  | nil => rfl
  | cons ev events ih =>
    rw [List.cons_append, notes, notes, ih, List.append_assoc]
    rfl

lemma notes_concat :
    notes setup note e (events ++ [ev]) =
      notes setup note e events ++ (note (run setup e events) ev).toList := by
  rw [notes_append, notes, notes, List.append_nil]

/-- What is noted has been noted of one of the events. -/
lemma mem_notes_iff :
    a ∈ notes setup note e events ↔
      ∃ before ev after, events = before ++ ev :: after ∧
        note (run setup e before) ev = some a := by
  induction events generalizing e with
  | nil => simp [notes]
  | cons ev events ih =>
    rw [notes, List.mem_append, Option.mem_toList, ih]
    constructor
    · rintro (first | ⟨before, ev', after, eq, noted⟩)
      · exact ⟨[], ev, events, rfl, first⟩
      · exact ⟨ev :: before, ev', after, by rw [eq, List.cons_append], noted⟩
    · rintro ⟨before, ev', after, eq, noted⟩
      cases before with
      | nil =>
        cases eq
        exact .inl noted
      | cons _ before =>
        cases eq
        exact .inr ⟨before, ev', after, rfl, noted⟩

/-- A count that goes up with every note of a kind is the number of these notes. -/
lemma run_counts {p : α → Bool} {n : Edge → Nat}
    (counts : ∀ e ev, n (e.step setup ev) = n e + (note e ev).toList.countP p) :
    n (run setup e events) = n e + (notes setup note e events).countP p := by
  induction events generalizing e with
  | nil => rfl
  | cons ev events ih =>
    rw [run_cons, ih, counts, notes, List.countP_append, Nat.add_assoc]

end EdgeCache.Edge
