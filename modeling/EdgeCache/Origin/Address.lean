import EdgeCache.Http.Message
import EdgeCache.Key
import EdgeCache.Url.Reader

/-!
# Addresses at the origin

Every key has an address below the origin's base URL, or none. A key that leads out of the base, or
back to it, has none.
-/

namespace EdgeCache

/-- An origin as the client knows it. -/
structure Origin where
  base : Url
  userAgent : String

namespace Origin

/-- The origin at a base URL. The client introduces itself in a header, which not every text can be
sent in. -/
def of (base userAgent : String) : Except Fault Origin :=
  match Url.read base with
  | .error e => .error (.invalidConfig s!"origin URL '{base}': {e.message}")
  | .ok (.flat chars) =>
    .error (.invalidConfig s!"origin URL '{String.ofList chars}' cannot be used as a base")
  | .ok (.url u) =>
    if Http.isHeaderValue userAgent then .ok ⟨u, userAgent⟩
    else .error (.invalidConfig "HTTP client: builder error")

/-- The address of a key. -/
def address (o : Origin) (k : Key) : Except Fault Url :=
  let u := o.base.below k.chars
  if o.base.chars.isPrefixOf u.chars && u.chars ≠ o.base.chars then .ok u
  else .error (.malformedKey s!"'{k.text}' does not resolve under {o.base.text}")

/-- Whether a key has an address. -/
def accepts (o : Origin) (k : Key) : Except Fault Unit := (o.address k).map fun _ => ()

end Origin

end EdgeCache
