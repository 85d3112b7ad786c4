import EdgeCache.Text

/-!
# Entries

What a fetch from the origin left behind: a complete resource, or the status of a failure. Both are
kept and served alike, so that a broken origin is asked once.
-/

namespace EdgeCache

/-- The outcome of one fetch. -/
inductive Entry where
  /-- The origin answered 200 and the whole body arrived. -/
  | success (contentType : String) (body : ByteArray)
  /-- Anything else, with the status that stands for it. -/
  | failure (status : UInt16)
  deriving DecidableEq, Inhabited

namespace Entry

/-- The status an entry stands for; a resource always stands for 200. -/
def status : Entry → UInt16
  | success _ _ => 200
  | failure s => s

/-- Whether the entry holds a resource. -/
def isSuccess : Entry → Bool
  | success _ _ => true
  | failure _ => false

/-- Whether the entry records a failure, whatever its status. -/
def isNegative (e : Entry) : Bool := !e.isSuccess

/-- The number of bytes held. -/
def bodyLength : Entry → Nat
  | success _ body => body.size
  | failure _ => 0

end Entry

/-- What a client is sent for an entry. -/
structure Rendered where
  status : UInt16
  contentType : Option String
  body : ByteArray
  deriving DecidableEq

/-- Whether there is nothing to send. -/
def Rendered.isEmpty (r : Rendered) : Bool := r.body.size == 0

/-- A resource is sent as it is; a failure is an empty 200 without a content type, so that the
origin's status never reaches the client. -/
def Entry.render : Entry → Rendered
  | success contentType body => ⟨200, some contentType, body⟩
  | failure _ => ⟨200, none, ByteArray.empty⟩

end EdgeCache
