import EdgeCache.Key
import Mathlib.Data.List.Nodup
import Mathlib.Tactic.Lemma

/-!
# Lists with keys

Looking something up by a key that no two elements of a list share: what is found is what is there.
-/

namespace EdgeCache

/-- The key of a single letter. -/
def Key.letter (c : Char) (h : c ≠ '/') : Key := ⟨[c], nofun, by simpa using h, by simpa using h⟩

variable {α κ β : Type} [DecidableEq κ] {key : α → κ} {value : α → β} {l : List α} {k : κ} {x : α}

/-- The element of a key is the one that has it. -/
lemma find?_key_iff (nodup : (l.map key).Nodup) :
    l.find? (fun x => key x == k) = some x ↔ x ∈ l ∧ key x = k := by
  constructor
  · intro h
    exact ⟨List.mem_of_find?_eq_some h, by simpa using List.find?_some h⟩
  · rintro ⟨mx, rfl⟩
    cases h : l.find? (fun y => key y == key x) with
    | none =>
      have := List.find?_eq_none.1 h x mx
      simp at this
    | some y =>
      have eq : key y = key x := by simpa using List.find?_some h
      rw [List.inj_on_of_nodup_map nodup (List.mem_of_find?_eq_some h) mx eq]

/-- Looking up a key among pairs of keys and values finds the element first. -/
lemma lookup_map_key :
    (l.map fun x => (key x, value x)).lookup k =
      (l.find? fun x => key x == k).map value := by
  induction l with
  | nil => rfl
  | cons x l ih =>
    rw [List.map_cons, List.lookup_cons, List.find?_cons, ih]
    by_cases eq : key x = k
    · subst eq
      simp
    · rw [beq_false_of_ne eq, beq_false_of_ne (Ne.symm eq)]

/-- The value of a key is the one of the element that has it. -/
lemma lookup_key_iff {v : β} (nodup : (l.map key).Nodup) :
    (l.map fun x => (key x, value x)).lookup k = some v ↔ ∃ x ∈ l, key x = k ∧ value x = v := by
  rw [lookup_map_key, Option.map_eq_some_iff]
  constructor
  · rintro ⟨x, h, rfl⟩
    obtain ⟨mx, eq⟩ := (find?_key_iff nodup).1 h
    exact ⟨x, mx, eq, rfl⟩
  · rintro ⟨x, mx, eq, rfl⟩
    exact ⟨x, (find?_key_iff nodup).2 ⟨mx, eq⟩, rfl⟩

/-- A key is looked up among the pairs whose keys are like it. -/
lemma lookup_filter {l : List (κ × β)} {p : κ → Bool} (h : p k = true) :
    (l.filter fun x => p x.1).lookup k = l.lookup k := by
  induction l with
  | nil => rfl
  | cons x l ih =>
    obtain ⟨k', v⟩ := x
    rw [List.lookup_cons, List.filter_cons]
    by_cases eq : k = k'
    · subst eq
      simp [h]
    · rw [beq_false_of_ne eq, ← ih]
      split
      · rw [List.lookup_cons, beq_false_of_ne eq]
      · rfl

/-- A value that takes the place of another one is found under its key only. -/
lemma lookup_replace {l : List (κ × β)} {k' : κ} {v : β} :
    ((k', v) :: l.filter (·.1 != k')).lookup k = if k = k' then some v else l.lookup k := by
  rw [List.lookup_cons]
  by_cases eq : k = k'
  · rw [if_pos eq, beq_iff_eq.2 eq]
  · rw [if_neg eq, beq_false_of_ne eq]
    exact lookup_filter (p := fun i => i != k') (bne_iff_ne.2 eq)

/-- Where one element is replaced, the count of a kind changes by that one. -/
lemma countP_replace {p : α → Bool} {g : α → α} (nodup : (l.map key).Nodup) (mx : x ∈ l) :
    (l.map fun y => if key y = key x then g y else y).countP p + (p x).toNat =
      l.countP p + (p (g x)).toNat := by
  have others {l' : List α} (apart : ∀ y ∈ l', key y ≠ key x) :
      (l'.map fun y => if key y = key x then g y else y) = l' := by
    rw [List.map_congr_left fun y my => if_neg (apart y my)]
    exact List.map_id' l'
  obtain ⟨l₁, l₂, rfl⟩ := List.append_of_mem mx
  rw [List.map_append, List.map_cons, List.nodup_append, List.nodup_cons] at nodup
  obtain ⟨_, ⟨after, _⟩, before⟩ := nodup
  have left : ∀ y ∈ l₁, key y ≠ key x := fun y my =>
    before _ (List.mem_map_of_mem my) _ List.mem_cons_self
  have right : ∀ y ∈ l₂, key y ≠ key x := fun y my same =>
    after (same ▸ List.mem_map_of_mem my)
  rw [List.map_append, List.map_cons, others left, others right, if_pos rfl]
  have one (y : α) : (if p y = true then 1 else 0) = (p y).toNat := by cases p y <;> rfl
  simp only [List.countP_append, List.countP_cons, one]
  omega

/-! ## Some of a list -/

variable {p q : α → Bool} {g : α → α}

/-- What is dropped elsewhere is not missing here. -/
lemma filter_filter_spared (h : ∀ x ∈ l, p x = true → q x = true) :
    (l.filter q).filter p = l.filter p := by
  rw [List.filter_filter]
  refine List.filter_congr fun x mx => ?_
  cases px : p x with
  | false => rfl
  | true => rw [h x mx px, Bool.and_self]

/-- What is looked for is found among what is like it. -/
lemma find?_filter_spared (h : ∀ x, q x = true → p x = true) :
    (l.filter p).find? q = l.find? q := by
  have same : (fun x => p x && q x) = q := by
    funext x
    cases qx : q x with
    | false => rw [Bool.and_false]
    | true => rw [h x qx, Bool.and_self]
  simp only [List.find?_filter, Bool.decide_and, Bool.decide_eq_true, same]

/-- What keeps its kind is picked before a change as well as after it. -/
lemma filter_map_kept (kept : ∀ x ∈ l, p (g x) = p x) :
    (l.map g).filter p = (l.filter p).map g := by
  rw [List.filter_map]
  exact congrArg (List.map g) (List.filter_congr kept)

/-- What is changed elsewhere is not changed here. -/
lemma filter_map_spared (kept : ∀ x ∈ l, p (g x) = p x) (h : ∀ x ∈ l, p x = true → g x = x) :
    (l.map g).filter p = l.filter p := by
  rw [filter_map_kept kept]
  conv_rhs => rw [← List.map_id (l.filter p)]
  refine List.map_congr_left fun x mx => ?_
  obtain ⟨mx, px⟩ := List.mem_filter.1 mx
  exact h x mx px

end EdgeCache
