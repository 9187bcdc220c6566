/-!
JSON values. A number is known only to be one: nothing here asks for its value. An object keeps its members
as they were written, and of members with one key the last counts.
-/

namespace PageBundle

inductive Json where
  | null
  | bool (b : Bool)
  | number
  | string (s : List Char)
  | array (items : List Json)
  | object (members : List (List Char × Json))

namespace Json

def members? : Json → Option (List (List Char × Json))
  | object ms => some ms
  | _ => none

/-- The last member of an object with the key. -/
def get? (j : Json) (key : String) : Option Json :=
  j.members?.bind fun ms => ms.reverse.lookup key.toList

end Json

end PageBundle
