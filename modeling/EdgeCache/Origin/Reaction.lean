import EdgeCache.Entry
import EdgeCache.Http.Head

/-!
# Reactions of the origin

What the origin may do with a request, and the entry that it leaves. Only a complete answer with
status 200 is a resource. An answer that breaks off is a failure, never a shorter resource.
-/

namespace EdgeCache

/-- How the body of an answer comes to its end. -/
inductive BodyEnd where
  | complete
  /-- The connection ends before the body does. -/
  | cut
  /-- Nothing comes any more, but the connection stays open. -/
  | stalled
  deriving DecidableEq, Repr

/-- What the origin does with a request. -/
inductive Reaction where
  | answer (status : UInt16) (headers : List Http.Header) (body : ByteArray) (ending : BodyEnd)
  /-- There is no connection, or no answer on it. -/
  | broken
  /-- The origin stays silent until patience is over. -/
  | silent

namespace Reaction

/-- The status that stands for an origin that cannot be reached or breaks off. -/
def unreachableStatus : UInt16 := 502

/-- The status that stands for an origin that does not answer in time. -/
def timeoutStatus : UInt16 := 504

/-- The content type of a resource that comes without a readable one. -/
def defaultContentType : String := "application/octet-stream"

/-- Whether a byte is a blank or a visible character. -/
def isVisible (b : UInt8) : Bool := (0x20 ≤ b && b ≤ 0x7e) || b = 0x09

/-- The text of a header value, if it consists of visible characters and blanks. -/
def visibleText? (value : ByteArray) : Option String :=
  if value.toList.all isVisible then
    some (Http.plainText value.toList)
  else none

/-- The content type of an answer: that of its first header, if it can be read. -/
def contentType (headers : List Http.Header) : String :=
  ((Http.headerValue? headers "content-type").bind visibleText?).getD defaultContentType

/-- The entry that a reaction leaves. -/
def entry : Reaction → Entry
  | answer status headers body ending =>
    if status = 200 then
      match ending with
      | .complete => .success (contentType headers) body
      | .cut => .failure unreachableStatus
      | .stalled => .failure timeoutStatus
    else .failure status
  | broken => .failure unreachableStatus
  | silent => .failure timeoutStatus

end Reaction

end EdgeCache
