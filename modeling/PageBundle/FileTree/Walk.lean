import PageBundle.FileTree.Node

/-!
What stands below a directory, directory by directory in the order of names. Links are not followed, and the
directories in which version control keeps its own data are left out.
-/

namespace PageBundle

/-- What is met on a walk, with the names that lead to it from the start. -/
structure Visit where
  names : List String
  node : Node

/-- A file met on a walk: the names that lead to it from the start, and its bytes. -/
structure Found where
  names : List String
  content : ByteArray

def Visit.found? (v : Visit) : Option Found :=
  match v.node with
  | .file content => some ⟨v.names, content⟩
  | .link _ | .directory _ => none

namespace Node

def metadataName : String := ".git"

/-- What is met in each entry of a directory, in the order of names. The order in which the entries are kept
does not show. -/
def inOrder (l : List (String × List Visit)) : List Visit :=
  (l.mergeSort fun a b => a.1 ≤ b.1).flatMap fun (name, visits) =>
    visits.map fun v => { v with names := name :: v.names }

mutual

/-- What is met in a tree. A directory is met before what is in it. -/
def visits : Node → List Visit
  | file content => [⟨[], file content⟩]
  | link target => [⟨[], link target⟩]
  | directory entries => ⟨[], directory entries⟩ :: inOrder (visitEntries entries)

def visitEntries : List (String × Node) → List (String × List Visit)
  | [] => []
  | (name, child) :: entries =>
    (name, if child.isDirectory && name == metadataName then [] else child.visits) :: visitEntries entries

end

/-- The files of a tree. -/
def walk (n : Node) : List Found := n.visits.filterMap Visit.found?

end Node

end PageBundle
