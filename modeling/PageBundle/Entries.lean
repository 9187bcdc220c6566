/-!
Lists of named things: directories and tables. Names are taken to be distinct, and a new name comes last.
-/

namespace PageBundle.Entries

variable {α : Type}

def set (name : String) (x : α) : List (String × α) → List (String × α)
  | [] => [(name, x)]
  | e :: l => if e.1 = name then (name, x) :: l else e :: set name x l

/-- What stands under the name is the new thing, and nothing changes under the others. -/
@[simp] theorem lookup_set (name other : String) (x : α) (l : List (String × α)) :
    (set name x l).lookup other = if other = name then some x else l.lookup other := by
  induction l with
  | nil => grind [set, List.lookup_nil, List.lookup_cons]
  | cons e l ih => grind [set, List.lookup_nil, List.lookup_cons]

end PageBundle.Entries
