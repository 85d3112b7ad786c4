import EdgeCache.Origin.Address
import EdgeCache.Origin.Reaction

/-!
# Talking to the origin

The request as it is sent, and what the bytes that come back amount to. The body of an answer has a
length, or comes in chunks with a length each, or ends with the connection.
-/

namespace EdgeCache

/-- The request for a URL. Every connection serves one request. -/
def Origin.request (o : Origin) (u : Url) : ByteArray :=
  let host := (u.authority.map fun a => (⟨[], [], a.host, a.port⟩ : Url.Authority).chars).getD []
  (s!"GET {u.target} HTTP/1.1\r\nhost: {String.ofList host}\r\n"
    ++ s!"user-agent: {o.userAgent}\r\naccept: */*\r\nconnection: close\r\n\r\n").toUTF8

namespace Reaction

/-- The status of an answer from its first line. -/
def status? (line : String) : Option Nat :=
  match line.toList.splitOn ' ' with
  | version :: code :: _ =>
    if "HTTP/1.".toList.isPrefixOf version && code.length = 3 then digitsValue? 10 code else none
  | _ => none

/-- What has been received of a body in chunks. -/
inductive Chunks where
  | unfinished
  | malformed
  | done (body : ByteArray)

/-- The length of a chunk from its first line. -/
def chunkLength? (line : List UInt8) : Option Nat :=
  let digits := (Http.plainChars line).takeWhile fun c => c ≠ ';' && c ≠ ' '
  if digits.isEmpty then none else digitsValue? 16 digits

/-- The chunks from a place on, behind those before it. An empty one is the last. -/
def readChunks (received : ByteArray) (i : Nat) (body : ByteArray) : Chunks :=
  match Http.placeOf? Http.lineEnd received i with
  | none => .unfinished
  | some j =>
    match chunkLength? (received.extract i j).toList with
    | none => .malformed
    | some n =>
      if n = 0 then
        if (Http.placeOf? Http.lineEnd received (j + 2)).isSome then .done body else .unfinished
      else if i < j + n + 4 ∧ j + n + 4 ≤ received.size then
        readChunks received (j + n + 4) (body ++ received.extract (j + 2) (j + n + 2))
      else .unfinished
termination_by received.size - i
decreasing_by omega

/-- The end of a body that is not complete: nothing is known of it while the connection is open. -/
def unfinished (closed : Bool) (headers : List Http.Header) : Option Reaction :=
  if closed then some (.answer 200 headers ByteArray.empty .cut) else none

/-- The answer with a resource, once its head has been received. -/
def ofBody? (received : ByteArray) (closed : Bool) (headers : List Http.Header) (start : Nat) :
    Option Reaction :=
  let text? (name : String) : Option (List Char) :=
    (Http.headerValue? headers name).map fun v => Http.plainChars v.toList
  if (text? "transfer-encoding").isSome then
    match readChunks received start ByteArray.empty with
    | .done body => some (.answer 200 headers body .complete)
    | .malformed => some (.answer 200 headers ByteArray.empty .cut)
    | .unfinished => unfinished closed headers
  else
    match text? "content-length" with
    | none =>
      if closed then some (.answer 200 headers (received.extract start received.size) .complete)
      else none
    | some digits =>
      match if digits.isEmpty then none else digitsValue? 10 digits with
      | none => some .broken
      | some n =>
        if start + n ≤ received.size then
          some (.answer 200 headers (received.extract start (start + n)) .complete)
        else unfinished closed headers

/-- What the bytes amount to that have come back so far; `none` as long as more have to come. Nobody
waits for the body of an answer that is no resource. -/
def ofBytes? (received : ByteArray) (closed : Bool) : Option Reaction :=
  match Http.Head.read received with
  | .unfinished => if closed then some .broken else none
  | .malformed => some .broken
  | .done head start =>
    match status? head.line with
    | none => some .broken
    | some 200 => ofBody? received closed head.headers start
    | some status => some (.answer status.toUInt16 head.headers ByteArray.empty .complete)

end Reaction

end EdgeCache
