import PageBundle.Failure

/-!
The size of a finished document and the ceiling it is held against. A limit is a whole number of KB, and
both sides of the comparison are floating-point numbers: a count past 2 ^ 53 is compared after rounding.
-/

namespace PageBundle

structure Size where
  /-- The length in UTF-8. -/
  bytes : Nat
deriving DecidableEq, Repr

namespace Size

def measure (page : String) : Size := ⟨page.utf8ByteSize⟩

/-- Whether the size in KB is above the limit. Both numbers are scaled by 1024, which is exact. -/
def exceeds (s : Size) (limitKb : Nat) : Bool :=
  1024 * Binary64.round limitKb < Binary64.round s.bytes

/-- The size of a document that is not above the limit. -/
def check (page : String) (limitKb : Nat) : Except Failure Size :=
  let s := measure page
  if s.exceeds limitKb then .error (.sizeExceeded s.bytes limitKb) else .ok s

end Size

end PageBundle
