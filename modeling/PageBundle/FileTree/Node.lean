import PageBundle.Entries

/-!
Trees of files. A place in a tree is the list of names on the way from its root; the names in one directory
are taken to be distinct.
-/

namespace PageBundle

/-- A file, a link with the path it stands for, or a directory. -/
inductive Node where
  | file (content : ByteArray)
  | link (target : String)
  | directory (entries : List (String × Node))

namespace Node

def isDirectory : Node → Bool
  | directory _ => true
  | _ => false

def empty : Node := directory []

def get? (n : Node) : List String → Option Node
  | [] => some n
  | name :: place =>
    match n with
    | directory entries => (entries.lookup name).bind fun child => child.get? place
    | _ => none

/-- The tree with a node put at a place. Directories that are missing on the way are made; a file or a link
on the way leaves the tree as it is. -/
def put (n : Node) (new : Node) : List String → Node
  | [] => new
  | name :: place =>
    match n with
    | directory entries =>
      directory (Entries.set name (((entries.lookup name).getD empty).put new place) entries)
    | n => n

end Node

end PageBundle
