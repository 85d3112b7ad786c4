import EdgeCache.Store

/-!
# Stores that fail

The store as its user meets it: it may answer truly, miss what it holds, lose what it is given, or be
unavailable. How it behaves next is a list that is used up; after the list it behaves well.
-/

namespace EdgeCache

/-- How the store behaves on one lookup. -/
inductive Reading where
  | faithful
  /-- Nothing is found, and the store is not asked. -/
  | blind
  | unavailable (detail : String)
  deriving DecidableEq, Repr

/-- How the store behaves on one put. -/
inductive Writing where
  | faithful
  /-- The put succeeds, and nothing is kept. -/
  | forgetful
  | unavailable (detail : String)
  deriving DecidableEq, Repr

/-- A store together with how it will behave. -/
structure Shelf where
  store : Store
  readings : List Reading
  writings : List Writing

namespace Shelf

/-- A store that always behaves well. -/
def reliable (store : Store) : Shelf := ⟨store, [], []⟩

/-- One lookup. -/
def get (now : Nat) (k : Key) (s : Shelf) : Except Fault (Option Entry) × Shelf :=
  let rest := { s with readings := s.readings.tail }
  match s.readings.head?.getD .faithful with
  | .faithful =>
    let (found, store) := s.store.get now k
    (.ok found, { rest with store })
  | .blind => (.ok none, rest)
  | .unavailable detail => (.error (.storeUnavailable detail), rest)

/-- One put. -/
def put (now : Nat) (k : Key) (e : Entry) (s : Shelf) : Except Fault Unit × Shelf :=
  let rest := { s with writings := s.writings.tail }
  match s.writings.head?.getD .faithful with
  | .faithful => (.ok (), { rest with store := s.store.put now k e })
  | .forgetful => (.ok (), rest)
  | .unavailable detail => (.error (.storeUnavailable detail), rest)

/-- Something done to the store itself. -/
def onStore (f : Store → Store) (s : Shelf) : Shelf := { s with store := f s.store }

end Shelf

end EdgeCache
