import EdgeCache.Http.Server
import EdgeCache.Proofs.Key
import Mathlib.Data.List.TakeWhile

/-!
# Requests for keys

Which requests make a call, and for which key: the path is not one of the fixed ones, and what follows
the route prefix in it is the key with slashes around it. A key that any request can ask for can be
asked for by its own path, the prefix and the key.
-/

namespace EdgeCache.Http

/-- A path asks for a key. -/
structure Router.Carries (r : Router) (path : List Char) (k : Key) : Prop where
  health : path ≠ healthPath
  counters : path ≠ countersPath
  below : ∃ m n, path = r.lead ++ (List.replicate m '/' ++ (k.chars ++ List.replicate n '/'))

/-- The path that asks for a key without further slashes. -/
def Router.pathTo (r : Router) (k : Key) : List Char := r.lead ++ k.chars

namespace Router

variable {r : Router} {path rest part : List Char} {k : Key}

/-- The resource handler takes what is below the route prefix, a fixed path apart. -/
lemma route?_resource_iff :
    r.route? path = some (.resource part) ↔
      path ≠ healthPath ∧ path ≠ countersPath ∧
        ∃ rest, rest ≠ [] ∧ path = r.lead ++ rest ∧ part = r.resourcePart path := by
  rw [route?]
  split
  case isTrue fixed => simp [fixed]
  case isFalse free =>
    split
    case isTrue fixed => simp [fixed]
    case isFalse free' =>
      split
      case h_1 below =>
        have eq := dropPrefix?_eq_some_iff.1 below
        rw [Option.some.injEq, Route.resource.injEq]
        constructor
        · rintro rfl
          exact ⟨free, free', _, List.cons_ne_nil _ _, eq, rfl⟩
        · rintro ⟨_, _, _, _, _, rfl⟩
          rfl
      case h_2 none =>
        constructor
        · intro eq
          cases eq
        · rintro ⟨_, _, rest, ne, eq, _⟩
          obtain ⟨c, cs, rfl⟩ := List.exists_cons_of_ne_nil ne
          exact absurd (dropPrefix?_eq_some_iff.2 eq) (none c cs)

/-- What the resource handler is given is what follows the prefix, but for slashes. -/
lemma trimSlashes_resourcePart :
    trimSlashes (r.resourcePart (r.lead ++ rest)) = trimSlashes rest := by
  have given (part : List Char) (eq : r.lead ++ rest = r.mount ++ part) :
      r.resourcePart (r.lead ++ rest) = part := by
    rw [resourcePart, dropPrefix?_eq_some_iff.2 eq, Option.getD_some]
  -- Only a bare slash is part of what stands in front; other prefixes leave a slash to the part.
  by_cases bare : r.mount = ['/']
  · rw [given rest]
    rw [lead, if_pos bare, bare]
  · rw [given ('/' :: rest)]
    · exact trimSlashes_replicate (n := 1)
    · rw [lead, if_neg bare, List.append_assoc]
      rfl

lemma carries_pathTo (health : r.pathTo k ≠ healthPath) (counters : r.pathTo k ≠ countersPath) :
    r.Carries (r.pathTo k) k :=
  ⟨health, counters, 0, 0, by simp [pathTo]⟩

end Router

/-- A GET is a call for a key exactly if its path asks for the key. -/
theorem handle_get_iff {r : Router} {s : Snapshot} {path : List Char} {k : Key} :
    handle r s ⟨"GET", path⟩ = .call k false ↔ r.Carries path k := by
  have read : Access.ofMethod "GET" = .read := by simp [Access.ofMethod]
  have handled : handle r s ⟨"GET", path⟩ = .call k false ↔
      ∃ part, r.route? path = some (.resource part) ∧ Key.ofPath (String.ofList part) = .ok k := by
    simp only [handle, read]
    split
    case h_1 none => simp [none]
    case h_2 route known =>
      rw [known]
      cases route with
      | health => simp [handleRoute]
      | counters => simp [handleRoute]
      | resource part =>
        cases given : Key.ofPath (String.ofList part) <;> simp [handleRoute, given]
  rw [handled]
  constructor
  · rintro ⟨_, routed, given⟩
    obtain ⟨health, counters, rest, _, rfl, rfl⟩ := Router.route?_resource_iff.1 routed
    rw [Key.ofPath_eq_ok_iff, String.toList_ofList, Router.trimSlashes_resourcePart,
      Key.trimSlashes_eq_iff] at given
    obtain ⟨m, n, rfl⟩ := given
    exact ⟨health, counters, m, n, rfl⟩
  · rintro ⟨health, counters, m, n, rfl⟩
    refine ⟨_, Router.route?_resource_iff.2 ⟨health, counters, _, ?_, rfl, rfl⟩, ?_⟩
    · simp [k.ne_nil]
    · rw [Key.ofPath_eq_ok_iff, String.toList_ofList, Router.trimSlashes_resourcePart,
        Key.trimSlashes_eq_iff]
      exact ⟨m, n, rfl⟩

/-! ## Targets -/

namespace Target

variable {path cs rest : List Char} {target : String}

/-- A path that is its own target. -/
structure Plain (path : List Char) : Prop where
  head : path.head? = some '/'
  legal : ∀ c ∈ path, isPathChar c = true
  short : (String.ofList path).utf8ByteSize ≤ maxLength

/-- A character of a path begins no query and no fragment. -/
lemma isPathChar_inner {c : Char} (h : isPathChar c = true) : c ≠ '?' ∧ c ≠ '#' := by
  constructor
  · rintro rfl
    revert h
    decide
  · rintro rfl
    revert h
    decide

lemma utf8ByteSize_sublist (sub : rest.Sublist cs) :
    (String.ofList rest).utf8ByteSize ≤ (String.ofList cs).utf8ByteSize := by
  induction sub with
  | slnil => exact Nat.le_refl _
  | cons c _ ih =>
    rw [String.ofList_cons, String.utf8ByteSize_append]
    exact Nat.le_add_left_of_le ih
  | cons_cons c _ ih =>
    rw [String.ofList_cons, String.ofList_cons, String.utf8ByteSize_append,
      String.utf8ByteSize_append]
    exact Nat.add_le_add_left ih _

/-- A path that is its own target is the path of it. -/
lemma Plain.ofText? (h : Plain path) : ofText? (String.ofList path) = some path := by
  have inner : ∀ c ∈ path, (c ≠ '?' && c ≠ '#') = true := by
    intro c mc
    simpa using isPathChar_inner (h.legal c mc)
  cases path with
  | nil => exact absurd h.head (by simp)
  | cons c path =>
    obtain rfl : c = '/' := by simpa using h.head
    have read : path? ('/' :: path) = some ('/' :: path) := by
      rw [path?, List.takeWhile_eq_self_iff.2 inner, List.dropWhile_eq_nil_iff.2 inner]
      simp only [List.all_eq_true.2 h.legal, List.all_nil, Bool.and_self, if_true, List.isEmpty_cons,
        Bool.false_eq_true, if_false]
    rw [Target.ofText?, if_neg (Nat.not_lt.2 h.short), String.toList_ofList]
    exact read

/-- The path of a target that begins with its path, or with what comes after it. -/
lemma path?_plain (read : path? cs = some path)
    (start : ∀ c, cs.head? = some c → c = '/' ∨ c = '?' ∨ c = '#')
    (short : (String.ofList cs).utf8ByteSize ≤ maxLength) : Plain path := by
  obtain ⟨legal, eq⟩ := Option.ite_none_right_eq_some.1 read
  have legal := (Bool.and_eq_true_iff.1 legal).1
  obtain rfl := Option.some.inj eq
  split
  · refine ⟨rfl, ?_, by decide⟩
    intro c mc
    rw [List.mem_singleton.1 mc]
    decide
  case isFalse some =>
    refine ⟨?_, List.all_eq_true.1 legal, ?_⟩
    · cases cs with
      | nil => exact absurd rfl some
      | cons c cs =>
        rcases start c rfl with rfl | rfl | rfl
        · rfl
        · exact absurd rfl some
        · exact absurd rfl some
    · exact Nat.le_trans (utf8ByteSize_sublist (List.takeWhile_sublist _)) short

lemma afterScheme?_sublist (h : afterScheme? cs = some (.ok rest)) : rest.Sublist cs := by
  rw [afterScheme?] at h
  split at h
  case h_1 after split =>
    have sub : after.Sublist cs := by
      refine .trans ?_ (List.dropWhile_sublist (p := isSchemeChar))
      rw [split]
      exact .cons _ (.cons _ (.cons _ (.refl _)))
    dsimp only at h
    split at h
    · cases h
    · cases h
      exact sub
  case h_2 => cases h

/-- The path of a target is the server as a whole, or nothing, or a target itself. -/
lemma ofText?_plain (read : Target.ofText? target = some path) :
    path = [] ∨ path = ['*'] ∨ Plain path := by
  obtain ⟨short, read⟩ := Option.ite_none_left_eq_some.1 read
  have short := Nat.not_lt.1 short
  rw [← String.ofList_toList (s := target)] at short
  generalize target.toList = cs at read short
  rw [ofChars?.eq_def] at read
  split at read
  · cases read
  · cases read
    exact .inr (.inl rfl)
  · refine .inr (.inr (path?_plain read ?_ short))
    simp
  · split at read
    · cases read
    case h_2 rest scheme =>
      obtain ⟨_, read⟩ := Option.ite_none_left_eq_some.1 read
      refine .inr (.inr (path?_plain read ?_ ?_))
      · intro c first
        have ends := List.head?_dropWhile_not (fun c => !(c = '/' || c = '?' || c = '#')) rest
        rw [first] at ends
        simpa [or_iff_not_imp_left] using ends
      · refine Nat.le_trans (utf8ByteSize_sublist ?_) short
        exact (List.dropWhile_sublist _).trans (afterScheme?_sublist scheme)
    · obtain ⟨_, eq⟩ := Option.ite_none_right_eq_some.1 read
      exact .inl (Option.some.inj eq).symm

end Target

/-- What a route prefix leads to has a slash in it. -/
lemma Router.slash_mem_lead (r : Router) : '/' ∈ r.lead := by
  rw [Router.lead]
  split <;> simp

/-- The path of a GET for a key is a target itself. -/
lemma Request.of?_plain {r : Router} {target : String} {path : List Char} {k : Key}
    (understood : Request.of? "GET" target = some ⟨"GET", path⟩) (c : r.Carries path k) :
    Target.Plain path := by
  obtain ⟨m, n, below⟩ := c.below
  have slash : '/' ∈ path := below ▸ List.mem_append_left _ r.slash_mem_lead
  rw [Request.of?, if_pos (by decide)] at understood
  obtain ⟨path', read, eq⟩ := Option.map_eq_some_iff.1 understood
  cases eq
  rcases Target.ofText?_plain read with rfl | rfl | plain
  · exact absurd slash (by decide)
  · exact absurd slash (by decide)
  · exact plain

/-- A GET of a path that is a target itself is a request for that path. -/
lemma Target.Plain.request {path : List Char} (plain : Target.Plain path) :
    Request.of? "GET" (String.ofList path) = some ⟨"GET", path⟩ := by
  rw [Request.of?, if_pos (by decide), plain.ofText?, Option.map_some]

/-- A key that a GET can ask for can be asked for by its own path. -/
theorem Request.of?_pathTo {r : Router} {target : String} {path : List Char} {k : Key}
    (understood : Request.of? "GET" target = some ⟨"GET", path⟩) (c : r.Carries path k) :
    Request.of? "GET" (String.ofList (r.pathTo k)) = some ⟨"GET", r.pathTo k⟩ := by
  obtain ⟨m, n, below⟩ := c.below
  have plain : Target.Plain path := Request.of?_plain understood c
  have sub : (r.pathTo k).Sublist path := by
    rw [below, Router.pathTo]
    exact .append (.refl _) ((List.sublist_append_left _ _).trans (List.sublist_append_right _ _))
  apply Target.Plain.request
  refine ⟨?_, fun c mc => plain.legal c (sub.subset mc), ?_⟩
  · have head := plain.head
    obtain ⟨c, rest, eq⟩ := List.exists_cons_of_ne_nil (List.ne_nil_of_mem r.slash_mem_lead)
    rw [below, eq] at head
    rw [Router.pathTo, eq]
    exact head
  · exact Nat.le_trans (Target.utf8ByteSize_sublist sub) plain.short

end EdgeCache.Http
