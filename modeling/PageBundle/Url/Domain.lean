import PageBundle.Text.Composition
import PageBundle.Text.Mark
import PageBundle.Url.Domain.Direction
import PageBundle.Url.Domain.Joining
import PageBundle.Url.Domain.Mapping
import PageBundle.Url.Punycode

/-!
Domain names in the form in which they are looked up. A name is mapped character by character, composed, and
split at its dots into labels; a label that says that it is encoded is decoded. What a label then shows must
be letters in their final form, must not start with a mark, and must keep to the rules for joiners and for
the direction of writing.
-/

namespace PageBundle.Url

/-- ASCII characters that may not stand in a name. -/
def isForbidden (c : Char) : Bool :=
  c.toNat ≤ 32 || c.toNat == 127 || " #/:<>?@[\\]^|%".toList.contains c

def isBeyondAscii (c : Char) : Bool := 128 ≤ c.toNat

def maxCodeLength : Nat := 2000

/-- The length that a label may have that is to be encoded. -/
def maxLabelLength : Nat := 1000

/-- Whether text is in the form that mapping and composing give it. -/
def isFinalForm (s : List Char) : Bool := s.all (fun c => mapDomainChar c == some [c]) && Text.composed s == s

/-- What a label shows. One that is encoded shows something that had to be. -/
def shown? : List Char → Option (List Char)
  | 'x' :: 'n' :: '-' :: '-' :: code => do
    let text ← if code.length ≤ maxCodeLength then Punycode.decode? code else none
    if text.any isBeyondAscii && isFinalForm text then some text else none
  | label => if maxLabelLength < label.length && label.any isBeyondAscii then none else some label

/-- Whether a label may show this text. -/
def isProper (label : List Char) : Bool := !label.head?.any Text.isMark && joinersFit [] label

/-- Whether labels may make a name. One that runs from right to left binds all of them to their directions. -/
def isName (labels : List (List Char)) : Bool :=
  labels.all isProper && (!labels.any runsRightToLeft || labels.all keepsDirection)

/-- The form in which a domain name is looked up. -/
def domain? (name : List Char) : Option (List Char) := do
  let mapped := Text.composed (← name.mapM mapDomainChar).flatten
  let labels ← (mapped.splitOn '.').mapM shown?
  if mapped.any isForbidden || !isName labels then none else some mapped

end PageBundle.Url
