import EdgeCache.Settings.Rules
import Mathlib.Tactic.Lemma

/-!
# What the rules come to

The rules are tried one after the other. Settings pass if none of them is broken, and only then.
-/

namespace EdgeCache.Settings

variable {s : Settings} {holds : Bool} {v : Violation} {next : Except Violation Unit}

/-- A route prefix that may be served. -/
structure LegalPrefix (route : String) : Prop where
  start : route.toList.head? = some '/'
  ending : route = "/" ∨ route.toList.getLast? ≠ some '/'
  plain : '\x7b' ∉ route.toList ∧ '\x7d' ∉ route.toList

/-- The URL of an origin, before it is read as one. -/
structure LegalOrigin (url : String) : Prop where
  given : url ≠ ""
  short : url.utf8ByteSize ≤ 2048
  scheme : "http://".toList <+: url.toList ∨ "https://".toList <+: url.toList

/-- Settings that keep the rules. -/
structure Lawful (s : Settings) : Prop where
  origin : LegalOrigin s.origin.baseUrl
  directory : s.origin.baseUrl.toList.getLast? = some '/'
  timeout : s.origin.timeoutSecs ≠ 0
  mount : LegalPrefix s.server.routePrefix
  ttl : s.cache.ttlSecs ≠ some 0
  sweep : s.cache.sweepIntervalSecs ≠ 0
  /-- Letters of either case name a level. -/
  level : ∃ name ∈ ["trace", "debug", "info", "warn", "error"],
    s.logging.level.toList.map Char.toLower = name.toList

/-- A rule is kept where its condition holds. -/
lemma require_iff : require holds v = .ok () ↔ holds = true := by
  cases holds with
  | true => exact ⟨fun _ => rfl, fun _ => rfl⟩
  | false => exact ⟨nofun, nofun⟩

/-- What is checked behind a rule is checked only if the rule is kept. -/
lemma bind_ok_iff {first : Except Violation Unit} :
    (first >>= fun _ => next) = .ok () ↔ first = .ok () ∧ next = .ok () := by
  cases first with
  | ok => exact ⟨fun h => ⟨rfl, h⟩, fun h => h.2⟩
  | error => exact ⟨nofun, fun h => nomatch h.1⟩

lemma begins_iff {start text : String} : begins start text = true ↔ start.toList <+: text.toList :=
  List.isPrefixOf_iff_prefix

/-- The base is checked for what makes it a base. -/
lemma checkOriginUrl_iff {url : String} : checkOriginUrl url = .ok () ↔ LegalOrigin url := by
  simp only [checkOriginUrl, bind_ok_iff, require_iff, Bool.or_eq_true_iff, begins_iff,
    decide_eq_true_iff]
  constructor
  · rintro ⟨given, short, scheme⟩
    exact ⟨given, short, scheme⟩
  · rintro ⟨given, short, scheme⟩
    exact ⟨given, short, scheme⟩

/-- A text that begins with a slash and has no second character is the slash. -/
lemma length_le_one_iff {route : String} (start : route.toList.head? = some '/') :
    route.length ≤ 1 ↔ route = "/" := by
  rw [← String.length_toList, ← String.toList_inj]
  cases h : route.toList with
  | nil =>
    rw [h] at start
    cases start
  | cons c rest =>
    rw [h] at start
    obtain rfl := Option.some.inj start
    cases rest <;> simp

/-- A route begins with a slash if that is its first character. -/
lemma begins_slash_iff {route : String} :
    begins "/" route = true ↔ route.toList.head? = some '/' := by
  rw [begins_iff, List.head?_eq_some_iff, List.IsPrefix]
  constructor
  · rintro ⟨rest, eq⟩
    exact ⟨rest, eq.symm⟩
  · rintro ⟨rest, eq⟩
    exact ⟨rest, eq.symm⟩

/-- The route prefix is checked for what makes it one. -/
lemma checkRoutePrefix_iff {route : String} : checkRoutePrefix route = .ok () ↔ LegalPrefix route := by
  have ending : (!endsWithSlash route) = true ↔ route.toList.getLast? ≠ some '/' := by
    rw [Bool.not_eq_true', endsWithSlash, decide_eq_false_iff_not]
  have plain : (route.toList.all fun c => c ≠ '\x7b' && c ≠ '\x7d') = true ↔
      '\x7b' ∉ route.toList ∧ '\x7d' ∉ route.toList := by
    simp only [List.all_eq_true, Bool.and_eq_true_iff, decide_eq_true_iff]
    constructor
    · intro all
      exact ⟨fun m => (all _ m).1 rfl, fun m => (all _ m).2 rfl⟩
    · rintro ⟨left, right⟩ c mc
      exact ⟨fun eq => left (eq ▸ mc), fun eq => right (eq ▸ mc)⟩
  simp only [checkRoutePrefix, bind_ok_iff, require_iff, begins_slash_iff, Bool.or_eq_true_iff,
    decide_eq_true_iff, ending, plain]
  constructor
  · rintro ⟨start, ending, plain⟩
    exact ⟨start, ending.imp_left (length_le_one_iff start).1, plain⟩
  · rintro ⟨start, ending, plain⟩
    exact ⟨start, ending.imp_left (length_le_one_iff start).2, plain⟩

/-- A level is one of five words, whatever letters it is written in. -/
lemma isLevel_iff {level : String} :
    isLevel level = true ↔ ∃ name ∈ ["trace", "debug", "info", "warn", "error"],
      level.toList.map Char.toLower = name.toList := by
  rw [isLevel, List.contains_iff_mem]
  constructor
  · intro m
    exact ⟨_, m, String.toList_ofList.symm⟩
  · rintro ⟨name, m, eq⟩
    rw [eq, String.ofList_toList]
    exact m

/-- Settings pass the check exactly if they keep the rules. -/
theorem check_iff : s.check = .ok () ↔ s.Lawful := by
  simp only [check, bind_ok_iff, require_iff, checkOriginUrl_iff, checkRoutePrefix_iff, isLevel_iff,
    endsWithSlash, decide_eq_true_iff]
  constructor
  · rintro ⟨origin, directory, timeout, mount, ttl, sweep, level⟩
    exact ⟨origin, directory, timeout, mount, ttl, sweep, level⟩
  · rintro ⟨origin, directory, timeout, mount, ttl, sweep, level⟩
    exact ⟨origin, directory, timeout, mount, ttl, sweep, level⟩

end EdgeCache.Settings
