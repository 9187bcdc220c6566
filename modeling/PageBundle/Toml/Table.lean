import PageBundle.Entries
import PageBundle.Toml.Value

/-!
Building tables from keys. A header opens a table once; what it passes on its way may have come about in any
way but between braces. A key with dots may only pass tables that nothing has opened yet, and may only add to
those that keys with dots have made.
-/

namespace PageBundle.Toml

/-- The entries of a table. -/
abbrev Table := List (String × Toml)

/-- Whether a key with dots, or else a header, may pass a table. -/
def Origin.isPassable (dotted : Bool) : Origin → Bool
  | inline => false
  | header => !dotted
  | implied | Origin.dotted => true

def modifyLast? (f : Toml → Option Toml) (l : List Toml) : Option (List Toml) :=
  match l.reverse with
  | [] => none
  | x :: before => (f x).map fun y => (y :: before).reverse

/-- Changes the entries at the end of a path. Tables that are missing on the way are made. The change is
told how the table at the end came about. -/
def descend (dotted : Bool) (change : Origin → Table → Option Table) :
    List String → Origin → Table → Option Table
  | [], origin, entries => change origin entries
  | key :: path, _, entries => do
    let child ← match entries.lookup key with
      | none =>
        let origin := if dotted then .dotted else .implied
        (descend dotted change path origin []).map (table origin)
      | some (.table origin inner) =>
        if origin.isPassable dotted then (descend dotted change path origin inner).map (table origin)
        else none
      | some (.elements tables) =>
        (modifyLast? (fun
          | .table origin inner => (descend dotted change path origin inner).map (table origin)
          | _ => none) tables).map elements
      | some _ => none
    some (Entries.set key child entries)

/-- Adds a value under a new key. The path before the key is empty unless the key has dots. -/
def assign? (path : List String) (key : String) (value : Toml) (origin : Origin) (entries : Table) :
    Option Table :=
  descend true (fun origin entries =>
    if (path.isEmpty || origin = .dotted) && (entries.lookup key).isNone then
      some (entries ++ [(key, value)])
    else none) path origin entries

/-- The table between braces with these pairs of keys and values. -/
def inline? (pairs : List (List String × String × Toml)) : Option Toml :=
  (pairs.foldlM (fun entries (path, key, value) => assign? path key value .inline entries) []).map
    (table .inline)

def openTable? (key : String) (entries : Table) : Option Table :=
  match entries.lookup key with
  | none => some (entries ++ [(key, table .header [])])
  | some (.table .implied inner) => some (Entries.set key (table .header inner) entries)
  | some _ => none

/-- Opens one more table of a list at a key. -/
def openElement? (key : String) (entries : Table) : Option Table :=
  match entries.lookup key with
  | none => some (entries ++ [(key, elements [table .header []])])
  | some (.elements tables) => some (Entries.set key (elements (tables ++ [table .header []])) entries)
  | some _ => none

inductive Statement where
  | assign (path : List String) (key : String) (value : Toml)
  | header (path : List String) (key : String)
  | element (path : List String) (key : String)

/-- A document as far as it has been read: all its tables, and the path to the one that is open. -/
structure Draft where
  entries : Table := []
  current : List String := []

def Draft.add? (d : Draft) : Statement → Option Draft
  | .assign path key value => do
    some { d with entries := ← descend false (assign? path key value) d.current .header d.entries }
  | .header path key => do
    some ⟨← descend false (fun _ => openTable? key) path .header d.entries, path ++ [key]⟩
  | .element path key => do
    some ⟨← descend false (fun _ => openElement? key) path .header d.entries, path ++ [key]⟩

def ofStatements? (l : List Statement) : Option Toml :=
  (l.foldlM Draft.add? {}).map fun d => table .header d.entries

end PageBundle.Toml
