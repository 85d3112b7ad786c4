import EdgeCache.Fault

/-!
# Keys

A key names a resource under the origin: a path without its outer slashes. Nothing else about the
path is touched, so inner slashes, case and percent-encoding tell keys apart.
-/

namespace EdgeCache

/-- Drops the slashes in front. -/
def dropLeadingSlashes : List Char → List Char
  | [] => []
  | c :: cs => if c = '/' then dropLeadingSlashes cs else c :: cs

/-- Drops the slashes at both ends. -/
def trimSlashes (cs : List Char) : List Char :=
  (dropLeadingSlashes (dropLeadingSlashes cs).reverse).reverse

theorem head?_dropLeadingSlashes (cs : List Char) : (dropLeadingSlashes cs).head? ≠ some '/' := by
  induction cs with
  | nil => simp [dropLeadingSlashes]
  | cons c cs ih => by_cases h : c = '/' <;> simp [dropLeadingSlashes, h, ih]

theorem exists_replicate_append_dropLeadingSlashes (cs : List Char) :
    ∃ n, cs = List.replicate n '/' ++ dropLeadingSlashes cs := by
  induction cs with
  | nil => exact ⟨0, rfl⟩
  | cons c cs ih =>
    by_cases h : c = '/'
    · obtain ⟨n, hn⟩ := ih
      exact ⟨n + 1, by simp [dropLeadingSlashes, h, List.replicate_succ, ← hn]⟩
    · exact ⟨0, by simp [dropLeadingSlashes, h]⟩

theorem getLast?_trimSlashes (cs : List Char) : (trimSlashes cs).getLast? ≠ some '/' := by
  simp only [trimSlashes, List.getLast?_reverse]
  exact head?_dropLeadingSlashes _

theorem head?_trimSlashes (cs : List Char) : (trimSlashes cs).head? ≠ some '/' := by
  obtain ⟨n, hn⟩ := exists_replicate_append_dropLeadingSlashes (dropLeadingSlashes cs).reverse
  have hr : dropLeadingSlashes cs = trimSlashes cs ++ List.replicate n '/' := by
    have := congrArg List.reverse hn
    simpa [trimSlashes, List.reverse_append] using this
  have h := head?_dropLeadingSlashes cs
  cases hk : trimSlashes cs with
  | nil => simp
  | cons c t => rwa [hr, hk] at h

/-- The name of a resource: at least one character, no slash at either end. -/
structure Key where
  /-- The characters of the name. -/
  chars : List Char
  ne_nil : chars ≠ []
  head?_ne : chars.head? ≠ some '/'
  getLast?_ne : chars.getLast? ≠ some '/'
  deriving DecidableEq

namespace Key

/-- The name as text. -/
def text (k : Key) : String := String.ofList k.chars

instance : Repr Key := ⟨fun k _ => repr k.text⟩

@[ext] theorem ext {k l : Key} (h : k.chars = l.chars) : k = l := by
  cases k
  cases l
  cases h
  rfl

/-- The key that a path asks for: the path without its outer slashes, if anything is left. -/
def ofPath (path : String) : Except Fault Key :=
  let chars := trimSlashes path.toList
  if h : chars = [] then
    .error (.malformedKey s!"'{path}' is empty after normalization")
  else
    .ok ⟨chars, h, head?_trimSlashes _, getLast?_trimSlashes _⟩

/-- Keys are ordered by their characters' code points, which is the order of their UTF-8 bytes. -/
def le (k l : Key) : Bool := !List.lex l.chars k.chars fun a b => decide (a.toNat < b.toNat)

/-- The distinct keys of a list, in order. -/
def sorted (ks : List Key) : List Key := ks.eraseDups.mergeSort le

end Key

end EdgeCache
