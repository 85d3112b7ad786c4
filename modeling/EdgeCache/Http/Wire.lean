import EdgeCache.Http.Head
import EdgeCache.Http.Server

/-!
# Talking to clients

What the bytes of a client ask for, and the bytes of a response. Every connection serves one request.
-/

namespace EdgeCache.Http

/-- The request of the first line of a head. -/
def Request.ofLine? (line : String) : Option Request :=
  match line.splitOn " " with
  | [method, target, version] =>
    if version = "HTTP/1.1" || version = "HTTP/1.0" then Request.of? method target else none
  | _ => none

/-- The most bytes of a head. -/
def maxHead : Nat := 1048576

/-- What the bytes ask for that have come so far; `none` as long as more have to come, and no request
if they are none. -/
def Request.ofBytes? (received : ByteArray) : Option (Option Request) :=
  match Head.read received with
  | .unfinished => if maxHead < received.size then some none else none
  | .malformed => some none
  | .done head _ => some (Request.ofLine? head.line)

/-- A response on the wire. One without a body that is wanted does not tell how long it is. -/
def Page.bytes (bodiless : Bool) (p : Page) : ByteArray :=
  let type := match p.contentType with
    | some t => s!"content-type: {t}\r\n"
    | none => ""
  let length := if bodiless then "" else s!"content-length: {p.body.size}\r\n"
  (s!"HTTP/1.1 {p.status.toNat} \r\n" ++ type ++ length ++ "connection: close\r\n\r\n").toUTF8 ++ p.body

end EdgeCache.Http
