import EdgeCache.Url.Label

/-!
# Domains

The form in which a domain is looked up: ASCII in lower case, and without characters that no domain may
have.
-/

namespace EdgeCache.Url.Domain

/-- Characters that no domain may have. -/
def isForbidden (c : Char) : Bool :=
  c ≤ ' ' || c = '\x7f' || "%#/:<>?@[\\]^|".toList.contains c

/-- The labels of a domain as people write them. -/
def labels? (cs : List Char) : Option (List (List Char)) := do
  let cs := Unicode.composedForm (← Unicode.fold? cs)
  let labels ← (partsAt (· = '.') cs).mapM Label.read?
  let turns := labels.any fun l => l.any Label.turns
  if cs.any isForbidden || !labels.all Label.isValid || (turns && !labels.all Label.keepsDirection)
  then none
  else some labels

/-- Whether a domain is ASCII and has no label in Punycode, so that only its case may change. -/
def isPlain (cs : List Char) : Bool :=
  cs.all Punycode.isBasic
    && (partsAt (· = '.') cs).all fun l => (Label.code? (l.map Char.toLower)).isNone

/-- A plain domain in lower case. -/
def lower? (cs : List Char) : Option (List Char) :=
  if cs.any isForbidden then none else some (cs.map Char.toLower)

/-- The form in which a domain is looked up. -/
def toAscii? (bytes : List UInt8) : Option (List Char) := do
  let cs := (← String.fromUTF8? (ByteArray.mk bytes.toArray)).toList
  if isPlain cs then lower? cs
  else return ['.'].intercalate (← (← labels? cs).mapM Label.write?)

end EdgeCache.Url.Domain
