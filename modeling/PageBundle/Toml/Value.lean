/-!
TOML values. Of numbers with a fraction and of dates it is known only that they are there, for nothing here
asks for their value. A table remembers how it came about, since that decides what may be added to it.
-/

namespace PageBundle

/-- How a table came about. -/
inductive Toml.Origin where
  /-- Between braces. -/
  | inline
  /-- By a header of its own. -/
  | header
  /-- On the way of a longer header. -/
  | implied
  /-- By a key with dots. -/
  | dotted
deriving DecidableEq, Repr

inductive Toml where
  | string (text : String)
  | integer (n : Int)
  | float
  | boolean (b : Bool)
  | dateTime
  | array (items : List Toml)
  | table (origin : Toml.Origin) (entries : List (String × Toml))
  /-- The tables of headers with doubled brackets. -/
  | elements (tables : List Toml)

namespace Toml

def string? : Toml → Option String
  | string text => some text
  | _ => none

/-- The number, if the value is a whole one that is not negative. -/
def nat? : Toml → Option Nat
  | integer n => if n < 0 then none else some n.toNat
  | _ => none

def boolean? : Toml → Option Bool
  | boolean b => some b
  | _ => none

/-- The values of some fields of a record. A record is a table with the names of the fields, or a list with
their values in order, of which the last may be missing; a date counts as a table without these names. -/
def fields? (names : List String) : Toml → Option (List (Option Toml))
  | table _ entries => some (names.map fun name => entries.lookup name)
  | array items | elements items => some ((List.range names.length).map fun i => items[i]?)
  | dateTime => some (names.map fun _ => none)
  | _ => none

end Toml

end PageBundle
