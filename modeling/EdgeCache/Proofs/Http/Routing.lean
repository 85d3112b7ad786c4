import EdgeCache.Proofs.Http.Requests
import EdgeCache.Proofs.Simulation.Session

/-!
# The routing table

Routes are made of a prefix when the server starts, and the prefix is taken off again when a request
comes. Here the two are held against one table that says what is to become of a request. What is
answered from the table alone leaves no trace, and a call is the call that anybody could make for the
key.
-/

namespace EdgeCache

namespace Http

/-- What a path has behind the route prefix: the prefix, a slash, and at least one more character. A
prefix that is a slash itself is not followed by another. -/
inductive Below (mount : List Char) : List Char → List Char → Prop where
  | root {rest : List Char} :
    mount = ['/'] →
    rest ≠ [] →
    Below mount ('/' :: rest) rest
  | mounted {rest : List Char} :
    mount ≠ ['/'] →
    rest ≠ [] →
    Below mount (mount ++ '/' :: rest) rest

/-- A path of the resources: below the route prefix, and none of the fixed ones. -/
structure Resource (mount path rest : List Char) : Prop where
  health : path ≠ "/health".toList
  counters : path ≠ "/api/cache/stats".toList
  below : Below mount path rest

variable {r : Router} {s : Snapshot} {q : Request} {h : Handling} {method : String}
  {path rest part : List Char}

/-! ## Routes -/

namespace Router

/-- What is below the prefix begins with the prefix and a slash, and goes on. -/
lemma below_iff : Below r.mount path rest ↔ rest ≠ [] ∧ path = r.lead ++ rest := by
  rw [lead]
  constructor
  · rintro (⟨root, ne⟩ | ⟨mounted, ne⟩)
    · rw [if_pos root]
      exact ⟨ne, rfl⟩
    · rw [if_neg mounted]
      exact ⟨ne, by simp⟩
  · rintro ⟨ne, rfl⟩
    by_cases root : r.mount = ['/']
    · rw [if_pos root]
      exact .root root ne
    · rw [if_neg root, List.append_assoc]
      exact .mounted root ne

/-- What the handler of the resources is given is what the path has behind the prefix, never the whole
path. -/
lemma eq_mount_append (below : Below r.mount path rest) : path = r.mount ++ r.resourcePart path := by
  obtain ⟨part, eq⟩ : ∃ part, path = r.mount ++ part := by
    cases below with
    | root root _ => exact ⟨rest, by rw [root]; rfl⟩
    | mounted _ _ => exact ⟨_, rfl⟩
  rw [resourcePart, dropPrefix?_eq_some_iff.2 eq]
  exact eq

/-- The handler of the resources is given what stands behind the prefix of a resource. -/
lemma resource_iff :
    r.route? path = some (.resource part) ↔
      (∃ rest, Resource r.mount path rest) ∧ path = r.mount ++ part := by
  rw [route?_resource_iff]
  constructor
  · rintro ⟨health, counters, rest, ne, eq, rfl⟩
    have below := below_iff.2 ⟨ne, eq⟩
    exact ⟨⟨rest, health, counters, below⟩, eq_mount_append below⟩
  · rintro ⟨⟨rest, health, counters, below⟩, eq⟩
    obtain ⟨ne, lead⟩ := below_iff.1 below
    refine ⟨health, counters, rest, ne, lead, ?_⟩
    exact List.append_cancel_left (eq.symm.trans (eq_mount_append below))

end Router

/-! ## Handling -/

/-- A GET is handled on its route, and not found without one. -/
lemma handle_get : handle r s ⟨"GET", path⟩ =
    match r.route? path with
    | none => .reply ⟨404, none, ByteArray.empty⟩
    | some route => handleRoute s false route := by
  have read : Access.ofMethod "GET" = .read := if_pos rfl
  simp only [handle, read]
  rfl

/-- A resource is what the path behind the prefix names, if it names anything. -/
lemma handle_resource (resource : Resource r.mount path rest) (eq : path = r.mount ++ part) :
    handle r s ⟨"GET", path⟩ =
      match Key.ofPath (String.ofList part) with
      | .ok key => .call key false
      | .error fault => .reply (.ofFault fault) := by
  rw [handle_get, Router.resource_iff.2 ⟨⟨rest, resource⟩, eq⟩]
  cases given : Key.ofPath (String.ofList part) with
  | ok key => simp only [handleRoute, given]
  | error fault =>
    simp only [handleRoute, given]
    rfl

/-- The part of a path behind the prefix is what follows the slash, but for slashes. -/
lemma trimSlashes_part (below : Below r.mount path rest) (eq : path = r.mount ++ part) :
    trimSlashes part = trimSlashes rest := by
  obtain ⟨_, lead⟩ := Router.below_iff.1 below
  have given : r.resourcePart path = part :=
    List.append_cancel_left ((Router.eq_mount_append below).symm.trans eq)
  rw [← given, lead, Router.trimSlashes_resourcePart]

/-- A resource that is named by a key, with any slashes around it, is a call for that key. -/
lemma handle_call {k : Key} {m n : Nat} (resource : Resource r.mount path rest)
    (eq : rest = List.replicate m '/' ++ (k.chars ++ List.replicate n '/')) :
    handle r s ⟨"GET", path⟩ = .call k false := by
  have behind := Router.eq_mount_append resource.below
  have named : Key.ofPath (String.ofList (r.resourcePart path)) = .ok k := by
    rw [Key.ofPath_eq_ok_iff, String.toList_ofList, trimSlashes_part resource.below behind,
      Key.trimSlashes_eq_iff]
    exact ⟨m, n, eq⟩
  rw [handle_resource resource behind, named]

end Http

/-! ## Traces -/

namespace Simulation

variable {s : Simulation} {t : Task} {ts : List Task} {r r' : Request}
  {others : List (Option String × Request)}

/-- A task is started behind another one as without it. -/
lemma enlist_behind (request : Option String × Request) :
    enlist (t :: ts, s) request = (t :: (enlist (ts, s) request).1, (enlist (ts, s) request).2) := by
  obtain ⟨name?, r⟩ := request
  cases name? <;> rfl

/-- Tasks that are started behind another one are started as without it. -/
lemma enlist_all_behind :
    others.foldl enlist (t :: ts, s) =
      (t :: (others.foldl enlist (ts, s)).1, (others.foldl enlist (ts, s)).2) := by
  induction others generalizing ts s with
  | nil => rfl
  | cons request others ih =>
    rw [List.foldl_cons, enlist_behind, ih]
    rfl

/-- Tasks are started one after the other. -/
lemma enlist_cons (s : Simulation) (request : Option String × Request) :
    (request :: others).foldl enlist ([], s) =
      let s' := (enlist ([], s) request).2
      ((s.addTask request.2).1 :: (others.foldl enlist ([], s')).1,
        (others.foldl enlist ([], s')).2) := by
  have first : enlist ([], s) request = ([(s.addTask request.2).1], (enlist ([], s) request).2) := by
    obtain ⟨name?, r⟩ := request
    cases name? <;> rfl
  rw [List.foldl_cons, first, enlist_all_behind]

/-- All that is asked is started, then all of it runs, and each task has something to tell. -/
lemma begin_eq (s : Simulation) (requests : List (Option String × Request)) :
    s.begin requests =
      let (ts, s') := requests.foldl enlist ([], s)
      let z := s'.launch (callersOf ts)
      (ts.map z.tell, z) := rfl

section

variable {method target : String} {q : Http.Request}

end

end Simulation

end EdgeCache
