import PageBundle.FileTree.Disk
import PageBundle.Repository.Basic
import PageBundle.Text.Letter

/-!
Where a project comes from, and how a text that a user gives is told apart: addresses first, then
directories, then files by the ending of their names.
-/

namespace PageBundle

inductive Source where
  | archive (path : String)
  | directory (path : String)
  /-- One document. -/
  | html (path : String)
  /-- One saved page. -/
  | mhtml (path : String)
  | repository (address : String)
deriving DecidableEq, Repr

namespace Source

def display : Source → String
  | archive path | directory path | html path | mhtml path => path
  | repository address => address

inductive Fault where
  | otherAddress (input : String)
  | unknownKind (input : String)
deriving DecidableEq, Repr

def Fault.message : Fault → String
  | otherAddress input => "only GitHub repository URLs are supported: " ++ input
  | unknownKind input =>
    "unsupported input " ++ input ++
      ": expected a .zip, .html, .htm, .mhtml or .mht file, a directory, or a GitHub URL"

/-- The kind of file that the ending of its name tells, in any case of its letters. -/
def ofExtension? (path : String) : Option Source := do
  match String.ofList (Text.lower (← Path.extension? path).toList) with
  | "zip" => some (archive path)
  | "html" | "htm" => some (html path)
  | "mhtml" | "mht" => some (mhtml path)
  | _ => none

/-- The source that a text names. Only directories have to be there for it. -/
def ofInput (d : Disk) (input : String) : Except Fault Source :=
  if Repository.isAddress input then .ok (repository input)
  else if Text.contains input.toList "://".toList then .error (.otherAddress input)
  else if d.isDirectory input then .ok (directory input)
  else
    match ofExtension? input with
    | some s => .ok s
    | none => .error (.unknownKind input)

/-- The source that a text names, or the failure of a run that was given no such text. -/
def detect (d : Disk) (input : String) : Except Failure Source :=
  (ofInput d input).mapError fun f => .validation f.message

end Source

end PageBundle
