import EdgeCache.Decimal.Layout
import EdgeCache.Entry
import EdgeCache.Fault
import EdgeCache.Tally

/-!
# Responses

What the server writes back: pages for resources, for faults, for the health check and for the
counters.
-/

namespace EdgeCache.Http

/-- A response as the client sees it. -/
structure Page where
  status : UInt16
  /-- The content type, if one is sent. -/
  contentType : Option String
  body : ByteArray
  deriving DecidableEq

/-- Whether a text may stand in a header: it has no control character other than the tab. -/
def isHeaderValue (s : String) : Bool :=
  s.toList.all fun c => c = '\t' || (' ' ≤ c && c ≠ '\x7f')

namespace Page

/-- A response without content. -/
def blank (status : UInt16) : Page := ⟨status, none, ByteArray.empty⟩

/-- A line of plain text. -/
def text (status : UInt16) (s : String) : Page :=
  ⟨status, some "text/plain; charset=utf-8", s.toUTF8⟩

/-- The response for an entry. A content type that may not stand in a header is left out. -/
def ofRendered (r : Rendered) : Page := ⟨r.status, r.contentType.filter isHeaderValue, r.body⟩

/-- The response that reports a fault. -/
def ofFault (f : Fault) : Page := text f.status f.message

/-- The response for what a call for a resource gave. -/
def ofResult : Except Fault Entry → Page
  | .ok e => ofRendered e.render
  | .error f => ofFault f

/-- The health check. -/
def health : Page := text 200 "OK"

/-- The same response without its body. -/
def withoutBody (p : Page) : Page := { p with body := ByteArray.empty }

end Page

/-- Rates are written positionally up to sixteen digits in front of the point and four zeros
behind it. -/
def rateLayout : Decimal.Layout := ⟨16, 4⟩

/-- The counters as a JSON object on one line, rates as the shortest text that reads back. -/
def report (s : Snapshot) : String :=
  let field (name value : String) := "\"" ++ name ++ "\":" ++ value
  "\x7b" ++ ",".intercalate [
    field "entries" (toString s.entries),
    field "in_flight" (toString s.inFlight),
    field "hits" (toString s.tally.hits),
    field "misses" (toString s.tally.misses),
    field "coalesced" (toString s.tally.coalesced),
    field "negative_stored" (toString s.tally.negativeStored),
    field "errors" (toString s.tally.errors),
    field "hit_rate" (rateLayout.writeFloat s.tally.hitRate)] ++ "\x7d"

/-- The response that reports the counters. -/
def Page.counters (s : Snapshot) : Page := ⟨200, some "application/json", (report s).toUTF8⟩

end EdgeCache.Http
