import EdgeCache.Proofs.Http.Requests
import EdgeCache.Proofs.Plain
import EdgeCache.Proofs.Settings.Rules

/-!
# What route prefixes serve

The rules for a route prefix, the routes and the targets of requests each read the same text in their
own way. A prefix that keeps the rules serves if the other two can read it as well: no segment may look
like a parameter, and every character may stand in a path.
-/

namespace EdgeCache

namespace Settings

/-- A route prefix that keeps the rules begins with a slash. -/
lemma head?_of_checkRoutePrefix {mount : String} (accepted : checkRoutePrefix mount = .ok ()) :
    mount.toList.head? = some '/' :=
  (checkRoutePrefix_iff.1 accepted).start

end Settings

namespace Http

variable {r : Router} {mount : String} {k : Key} {c : Char}

lemma isPathChar_of_isPlain (h : isPlain c = true) : Target.isPathChar c = true := by
  have cases := isPlain_cases h
  simp only [Target.isPathChar, Bool.or_eq_true, Bool.and_eq_true, decide_eq_true_eq, Char.le_def,
    UInt32.le_iff_toNat_le, Char.toNat_val, ← Char.toNat_inj, Char.reduceToNat]
  omega

namespace Router

/-- A prefix is registered as it is, unless a segment looks like a parameter. -/
lemma ofMount?_eq_none_iff :
    ofMount? mount = none ↔
      ∃ segment ∈ mount.toList.splitOn '/', segment.head? = some ':' ∨ segment.head? = some '*' := by
  rw [ofMount?, ite_eq_right_iff, isMountable, segments]
  simp only [reduceCtorEq, imp_false, List.all_eq_true, Bool.and_eq_true, decide_eq_true_eq,
    not_forall, exists_prop, not_and_or, not_not]

lemma ofMount?_eq_some (h : ofMount? mount = some r) : r.mount = mount.toList := by
  obtain ⟨_, eq⟩ := Option.ite_none_right_eq_some.1 h
  rw [← Option.some.inj eq]

/-- The path of a key as it is asked for. -/
lemma ofList_pathTo (h : ofMount? mount = some r) :
    String.ofList (r.pathTo k) = (if mount = "/" then "/" else mount ++ "/") ++ k.text := by
  have root : r.mount = ['/'] ↔ mount = "/" := by
    rw [ofMount?_eq_some h]
    exact ⟨fun eq => String.toList_inj.1 eq, fun eq => eq ▸ rfl⟩
  rw [pathTo, lead, String.ofList_append]
  by_cases bare : mount = "/"
  · rw [if_pos (root.2 bare), if_pos bare]
    rfl
  · rw [if_neg fun eq => bare (root.1 eq), if_neg bare, String.ofList_append, ofMount?_eq_some h,
      String.ofList_toList]
    rfl

/-- The characters of a prefix are those in front of every key, but for slashes. -/
lemma legal_lead_iff :
    (∀ c ∈ r.lead, Target.isPathChar c = true) ↔ ∀ c ∈ r.mount, Target.isPathChar c = true := by
  rw [lead]
  split
  case isTrue root => rw [root]
  case isFalse =>
    constructor
    · intro legal c mc
      exact legal c (List.mem_append_left _ mc)
    · intro legal c mc
      rcases List.mem_append.1 mc with mc | mc
      · exact legal c mc
      · rw [List.mem_singleton.1 mc]
        decide

/-- Below a prefix whose characters may all stand in a path, the path of a plain key is a target
itself. -/
lemma plain_pathTo (slash : r.mount.head? = some '/')
    (legal : ∀ c ∈ r.mount, Target.isPathChar c = true) (plain : k.Plain)
    (short : (String.ofList (r.pathTo k)).utf8ByteSize ≤ Target.maxLength) :
    Target.Plain (r.pathTo k) := by
  refine ⟨?_, fun c mc => ?_, short⟩
  · rw [pathTo, lead]
    split
    · rfl
    · cases eq : r.mount with
      | nil =>
        rw [eq] at slash
        cases slash
      | cons c rest =>
        rw [eq] at slash
        exact slash
  · rcases List.mem_append.1 mc with mc | mc
    · exact legal_lead_iff.2 legal c mc
    · rcases plain.chars mc with rfl | h
      · decide
      · exact isPathChar_of_isPlain h

end Router

/-- What a route prefix that keeps the rules serves. It can be registered unless one of its segments
begins with a colon or an asterisk. If it is registered, a GET for a plain key, by a target that is not
too long and is not a fixed path, is a call for the key exactly if every character of the prefix may
stand in a path. -/
theorem prefix_serves_iff (mount : String) (accepted : Settings.checkRoutePrefix mount = .ok ()) :
    (Router.ofMount? mount = none ↔
      ∃ segment ∈ mount.toList.splitOn '/', segment.head? = some ':' ∨ segment.head? = some '*') ∧
    ∀ r, Router.ofMount? mount = some r → ∀ k : Key, k.Plain →
      let target := (if mount = "/" then "/" else mount ++ "/") ++ k.text
      target ≠ "/health" → target ≠ "/api/cache/stats" →
      target.utf8ByteSize ≤ Target.maxLength →
      ((∃ q, Request.of? "GET" target = some q ∧ ∀ s, handle r s q = .call k false) ↔
        ∀ c ∈ mount.toList, Target.isPathChar c = true) := by
  refine ⟨Router.ofMount?_eq_none_iff, ?_⟩
  intro r registered k plain target health counters short
  have same : String.ofList (r.pathTo k) = target := Router.ofList_pathTo registered
  have mounted := Router.ofMount?_eq_some registered
  rw [← mounted]
  constructor
  · -- The path of a request is made of characters that may stand there, and the prefix is part of it.
    rintro ⟨q, understood, calls⟩
    obtain ⟨method, path⟩ := q
    obtain rfl : method = "GET" := by
      obtain ⟨_, read⟩ := Option.ite_none_right_eq_some.1 understood
      obtain ⟨_, _, eq⟩ := Option.map_eq_some_iff.1 read
      exact (congrArg Request.method eq).symm
    have carries : r.Carries path k := handle_get_iff.1 (calls ⟨0, 0, .zero⟩)
    have legal := (Request.of?_plain understood carries).legal
    obtain ⟨m, n, below⟩ := carries.below
    refine Router.legal_lead_iff.1 fun c mc => legal c ?_
    rw [below]
    exact List.mem_append_left _ mc
  · intro legal
    have slash : r.mount.head? = some '/' := by
      rw [mounted]
      exact Settings.head?_of_checkRoutePrefix accepted
    have itself := Router.plain_pathTo slash legal plain (same ▸ short)
    have request := itself.request
    rw [same] at request
    refine ⟨_, request, fun s => handle_get_iff.2 (Router.carries_pathTo ?_ ?_)⟩
    · rintro eq
      exact health (by rw [← same, eq]; rfl)
    · rintro eq
      exact counters (by rw [← same, eq]; rfl)

/-- The usual prefix serves a script. -/
theorem prefix_serves_script :
    ∃ k : Key, k.text = "jquery/3.7.1/jquery.min.js" ∧
      ∃ q, Request.of? "GET" "/cdn/jquery/3.7.1/jquery.min.js" = some q ∧
        ∀ s, handle ⟨"/cdn".toList⟩ s q = .call k false := by
  let k : Key := ⟨"jquery/3.7.1/jquery.min.js".toList, by decide, by decide, by decide⟩
  have plain : k.Plain := by decide
  obtain ⟨_, serves⟩ := prefix_serves_iff "/cdn" (by decide)
  refine ⟨k, rfl, (serves ⟨"/cdn".toList⟩ (by rfl) k plain ?_ ?_ ?_).2 ?_⟩
  · decide
  · decide
  · decide
  · rw [← List.all_eq_true]
    decide

/-- Not every prefix that keeps the rules serves. One with a segment that looks like a parameter cannot
be registered. Of one with a question mark every path ends in front of the mark, and is unknown. One
with a blank is in no target. -/
theorem not_every_prefix_serves :
    (Settings.checkRoutePrefix "/:x" = .ok () ∧ Router.ofMount? "/:x" = none) ∧
    (Settings.checkRoutePrefix "/a?b" = .ok () ∧
      Router.ofMount? "/a?b" = some ⟨"/a?b".toList⟩ ∧
      Request.of? "GET" "/a?b/k" = some ⟨"GET", "/a".toList⟩ ∧
      ∀ s, handle ⟨"/a?b".toList⟩ s ⟨"GET", "/a".toList⟩ = .reply (.blank 404)) ∧
    Settings.checkRoutePrefix "/a b" = .ok () ∧
      Router.ofMount? "/a b" = some ⟨"/a b".toList⟩ ∧ Request.of? "GET" "/a b/k" = none := by
  refine ⟨⟨by decide, ?_⟩, ⟨by decide, ?_, by decide, ?_⟩, by decide, ?_, by decide⟩
  · rfl
  · rfl
  · intro s
    rfl
  · rfl

end Http

end EdgeCache
