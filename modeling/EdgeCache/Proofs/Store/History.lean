import EdgeCache.Proofs.Store.Operations
import Mathlib.Data.List.Dedup

/-!
# Histories of a store

A store used on its own: what is done to it, one deed after the other, with time passing in between.
Beside the store runs its history, which knows nothing of limits: the puts since the store was last
cleared, newest first.
-/

namespace EdgeCache

/-- What is done to a store. -/
inductive Deed where
  | put (key : Key) (entry : Entry)
  | get (key : Key)
  | sweep
  | clear
  | elapse (ms : Nat)

/-- A store at a moment, in milliseconds. -/
structure TimedStore where
  now : Nat
  store : Store

namespace TimedStore

/-- The start of every run of a store with the given limits. -/
def start (limits : Limits) : TimedStore := ⟨0, .empty limits⟩

/-- One deed. -/
def step (t : TimedStore) : Deed → TimedStore
  | .put k e => { t with store := t.store.put t.now k e }
  | .get k => { t with store := (t.store.get t.now k).2 }
  | .sweep => { t with store := t.store.sweep t.now }
  | .clear => { t with store := t.store.clear }
  | .elapse ms => { t with now := t.now + ms }

/-- A run, deed by deed. -/
def run (t : TimedStore) (deeds : List Deed) : TimedStore := deeds.foldl step t

/-- No deed changes the limits. -/
lemma step_limits {t : TimedStore} {d : Deed} : (t.step d).store.limits = t.store.limits := by
  cases d with
  | put k e => exact Store.put_limits
  | get k => exact Store.get_limits
  | sweep => rfl
  | clear => rfl
  | elapse ms => rfl

/-- No run changes the limits. -/
lemma run_limits {t : TimedStore} {deeds : List Deed} :
    (t.run deeds).store.limits = t.store.limits := by
  induction deeds generalizing t with
  | nil => rfl
  | cons d deeds ih => exact ih.trans step_limits

end TimedStore

/-- A moment, and the puts since the last clear, newest first. -/
structure History where
  now : Nat
  puts : List Slot

namespace History

/-- The history in which nothing has happened. -/
def start : History := ⟨0, []⟩

/-- One more deed. -/
def step (h : History) : Deed → History
  | .put k e => { h with puts := ⟨k, e, h.now⟩ :: h.puts }
  | .get _ => h
  | .sweep => h
  | .clear => { h with puts := [] }
  | .elapse ms => { h with now := h.now + ms }

/-- The history of some deeds. -/
def run (h : History) (deeds : List Deed) : History := deeds.foldl step h

/-- The last put of a key. -/
def last? (h : History) (k : Key) : Option Slot := h.puts.find? (·.key == k)

/-- The distinct other keys that were put after the last put of a key. -/
def newerKeys (h : History) (k : Key) : List Key :=
  ((h.puts.takeWhile (·.key != k)).map Slot.key).dedup

variable {h : History} {k k' : Key} {p q : Slot} {ps : List Slot} {now : Nat}

/-- The last put of a key is one of it. -/
lemma last?_key (last : h.last? k = some p) : p.key = k := by
  simpa using List.find?_some last

/-- The last put of a key after one more put. -/
lemma last?_cons :
    (⟨now, p :: ps⟩ : History).last? k =
      if p.key = k then some p else (⟨now, ps⟩ : History).last? k := by
  simp only [last?, List.find?_cons]
  by_cases eq : p.key = k
  · simp [eq]
  · rw [beq_false_of_ne eq, if_neg eq]

/-- The newer keys are distinct. -/
lemma newerKeys_nodup : (h.newerKeys k).Nodup := List.nodup_dedup _

/-- No key is newer than the one that was put last. -/
lemma newerKeys_cons_self (eq : p.key = k) : (⟨now, p :: ps⟩ : History).newerKeys k = [] := by
  simp [newerKeys, eq]

/-- One more put adds its key to those newer than any other, unless it is there already. -/
lemma newerKeys_cons (ne : p.key ≠ k) :
    (⟨now, p :: ps⟩ : History).newerKeys k =
      let before := (⟨now, ps⟩ : History).newerKeys k
      if p.key ∈ before then before else p.key :: before := by
  simp only [newerKeys, List.takeWhile_cons, bne_iff_ne.2 ne, if_true, List.map_cons,
    List.mem_dedup]
  split
  case isTrue m => exact List.dedup_cons_of_mem m
  case isFalse m => exact List.dedup_cons_of_notMem m

/-- The keys newer than another after one more put. -/
lemma mem_newerKeys_cons (ne : p.key ≠ k) :
    k' ∈ (⟨now, p :: ps⟩ : History).newerKeys k ↔
      k' = p.key ∨ k' ∈ (⟨now, ps⟩ : History).newerKeys k := by
  rw [newerKeys_cons ne]
  show k' ∈ ite _ _ _ ↔ _
  split
  case isTrue m =>
    refine ⟨.inr, ?_⟩
    rintro (rfl | m')
    · exact m
    · exact m'
  case isFalse => exact List.mem_cons

/-- The last put of a key is one of the puts. -/
lemma last?_mem (last : h.last? k = some p) : p ∈ h.puts := List.mem_of_find?_eq_some last

/-- What was put last after a put. -/
lemma last?_put {e} :
    (h.step (.put k e)).last? k' = if k = k' then some ⟨k, e, h.now⟩ else h.last? k' := last?_cons

/-- What is newer than another key after a put. -/
lemma mem_newerKeys_put {e j} (ne : k ≠ k') :
    j ∈ (h.step (.put k e)).newerKeys k' ↔ j = k ∨ j ∈ h.newerKeys k' :=
  mem_newerKeys_cons (p := ⟨k, e, h.now⟩) ne

/-- A put of a key that is not yet newer than another makes one key more that is. -/
lemma newerKeys_put {e} (ne : k ≠ k') (new : k ∉ h.newerKeys k') :
    (h.step (.put k e)).newerKeys k' = k :: h.newerKeys k' :=
  (newerKeys_cons (p := ⟨k, e, h.now⟩) ne).trans (if_neg new)

/-! ## Time -/

/-- A history whose puts are all past, each no later than those that came after it. -/
structure Timely (h : History) : Prop where
  past : ∀ p ∈ h.puts, p.putAt ≤ h.now
  ordered : h.puts.Pairwise fun p q => q.putAt ≤ p.putAt

/-- A deed happens after those before it. -/
lemma Timely.step (t : h.Timely) {d : Deed} : (h.step d).Timely := by
  cases d with
  | put k e =>
    refine ⟨fun p m => ?_, List.pairwise_cons.2 ⟨t.past, t.ordered⟩⟩
    rcases List.mem_cons.1 m with rfl | m
    · exact Nat.le_refl _
    · exact t.past p m
  | get k => exact t
  | sweep => exact t
  | clear => exact ⟨nofun, .nil⟩
  | elapse ms => exact ⟨fun p m => Nat.le_add_right_of_le (t.past p m), t.ordered⟩

/-- A key that is newer than another was put last no earlier than the other, and whatever is newer
than the one is newer than the other. -/
lemma Timely.newer (t : h.Timely) (last : h.last? k = some p) (m : k' ∈ h.newerKeys k) :
    ∃ q, h.last? k' = some q ∧ p.putAt ≤ q.putAt ∧ h.newerKeys k' ⊆ h.newerKeys k := by
  obtain ⟨now, ps⟩ := h
  have ordered := t.ordered
  clear t
  induction ps with
  | nil => cases m
  | cons q ps ih =>
    obtain ⟨later, ordered⟩ := List.pairwise_cons.1 ordered
    by_cases ek : q.key = k
    · rw [newerKeys_cons_self ek] at m
      cases m
    · rw [last?_cons, if_neg ek] at last
      by_cases ek' : q.key = k'
      · refine ⟨q, ?_, later p (last?_mem last), ?_⟩
        · rw [last?_cons, if_pos ek']
        · rw [newerKeys_cons_self ek']
          exact List.nil_subset _
      · -- The newest put is of neither key, so both last puts are among the rest.
        have m' := ((mem_newerKeys_cons ek).1 m).resolve_left (Ne.symm ek')
        obtain ⟨q', last', le, sub⟩ := ih last m' ordered
        refine ⟨q', ?_, le, fun j mj => ?_⟩
        · rw [last?_cons, if_neg ek', last']
        · apply (mem_newerKeys_cons ek).2
          exact ((mem_newerKeys_cons ek').1 mj).imp_right fun mj => sub mj

end History

end EdgeCache
