import EdgeCache.Entry
import EdgeCache.Key

/-!
# The memory store

A best-effort map from keys to entries. Entries leave it for capacity, oldest first and a batch at a
time, or because their time to live is over. Time is counted in milliseconds and handed in.
-/

namespace EdgeCache

/-- What bounds a store. -/
structure Limits where
  /-- The most entries kept; zero for no bound. -/
  capacity : Nat
  /-- How long an entry lives after its put; absent for ever. -/
  ttl : Option Nat
  /-- How many entries make room at once. -/
  batch : Nat
  deriving DecidableEq, Repr

namespace Limits

/-- The share of the capacity that leaves at once, unless another is asked for. -/
def defaultShare : Float := 0.1

/-- A share between nothing and all; what is not a number stays so. -/
def clampShare (share : Float) : Float :=
  if share < 0.0 then 0.0 else if 1.0 < share then 1.0 else share

/-- The number of entries in a share of the capacity, rounded up, and never less than one. -/
def batchSize (capacity : Nat) (share : Float) : Nat :=
  max 1 (capacity.toUInt64.toFloat * share).ceil.toUInt64.toNat

theorem one_le_batchSize (capacity : Nat) (share : Float) : 1 ≤ batchSize capacity share :=
  Nat.le_max_left ..

/-- The limits of a store that makes room by a share of its capacity. -/
def ofShare (capacity : Nat) (ttl : Option Nat) (share : Float) : Limits :=
  ⟨capacity, ttl, batchSize capacity share⟩

end Limits

/-- An entry in the store, and when it was put there. -/
structure Slot where
  key : Key
  entry : Entry
  putAt : Nat
  deriving DecidableEq

/-- Whether the time to live of an entry is over. -/
def Slot.expired (ttl : Option Nat) (now : Nat) (s : Slot) : Bool :=
  match ttl with
  | none => false
  | some t => decide (t ≤ now - s.putAt)

/-- The store: its slots in the order of their last put, one for each key, and the number of entries
that have left for capacity or expiry. -/
structure Store where
  limits : Limits
  slots : List Slot
  /-- A counter of 64 bits: runs with fewer than `2 ^ 64` evictions are meant. -/
  evictions : Nat
  nodup : (slots.map Slot.key).Nodup

namespace Store

/-- A store without entries. -/
def empty (limits : Limits) : Store := ⟨limits, [], 0, .nil⟩

/-- The number of entries kept, expired ones that nobody asked for included. -/
def size (s : Store) : Nat := s.slots.length

/-- The slot of a key. -/
def slot? (s : Store) (k : Key) : Option Slot := s.slots.find? (·.key == k)

/-- Whether there is a slot for the key. -/
def contains (s : Store) (k : Key) : Bool := (s.slot? k).isSome

/-- Keeps some of the slots. -/
def restrict (s : Store) (p : Slot → Bool) : Store :=
  { s with
    slots := s.slots.filter p
    nodup := s.nodup.sublist (List.filter_sublist.map _) }

/-- Drops the slot of a key. -/
def erase (s : Store) (k : Key) : Store := s.restrict (·.key != k)

/-- Notes that `n` entries have left. -/
def countEvictions (s : Store) (n : Nat) : Store := { s with evictions := s.evictions + n }

/-- The entry of a key. One that has expired is dropped and not given. -/
def get (now : Nat) (k : Key) (s : Store) : Option Entry × Store :=
  match s.slot? k with
  | none => (none, s)
  | some slot =>
    if slot.expired s.limits.ttl now then (none, (s.erase k).countEvictions 1)
    else (some slot.entry, s)

/-- Drops the batch of entries that were put first. -/
def evictOldest (s : Store) : Store :=
  { s with
    slots := s.slots.drop s.limits.batch
    evictions := s.evictions + min s.limits.batch s.slots.length
    nodup := s.nodup.sublist ((List.drop_sublist _ _).map _) }

/-- Whether a put of the key has to make room first. -/
def isFullFor (s : Store) (k : Key) : Bool :=
  0 < s.limits.capacity && s.limits.capacity ≤ s.size && !s.contains k

/-- Adds the newest slot, in place of the one that its key had. -/
def append (s : Store) (slot : Slot) : Store :=
  { s with
    slots := (s.erase slot.key).slots ++ [slot]
    nodup := by
      rw [List.map_append, List.nodup_append]
      refine ⟨(s.erase slot.key).nodup, by simp, ?_⟩
      intro a ha b hb
      simp only [List.map_cons, List.map_nil, List.mem_singleton] at hb
      obtain ⟨t, ht, rfl⟩ := List.mem_map.1 ha
      have : (t.key != slot.key) = true := (List.mem_filter.1 ht).2
      simpa [hb] using this }

/-- Puts an entry, whatever its key had before. -/
def put (now : Nat) (k : Key) (e : Entry) (s : Store) : Store :=
  (if s.isFullFor k then s.evictOldest else s).append ⟨k, e, now⟩

/-- Drops every expired entry. -/
def sweep (now : Nat) (s : Store) : Store :=
  let fresh := s.restrict fun slot => !slot.expired s.limits.ttl now
  fresh.countEvictions (s.size - fresh.size)

/-- The number of expired entries. -/
def expiredCount (now : Nat) (s : Store) : Nat :=
  s.slots.countP (·.expired s.limits.ttl now)

/-- Drops everything; this is no eviction. -/
def clear (s : Store) : Store := { s with slots := [], nodup := .nil }

end Store

end EdgeCache
