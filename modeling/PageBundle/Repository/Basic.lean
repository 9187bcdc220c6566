import PageBundle.Failure
import PageBundle.Text.Blank
import PageBundle.Url.Parse

/-!
Repositories on the hosting service: an address with a host of the service names an owner and a repository
by the first two segments of its path.
-/

namespace PageBundle

structure Repository where
  owner : String
  name : String
deriving DecidableEq, Repr

namespace Repository

def hosts : List String := ["github.com", "www.github.com"]

/-- Whether an address is one of the service. -/
def isHosted (u : Url) : Bool :=
  match u.host with
  | some (.domain name) => hosts.any fun h => h.toList == name
  | _ => false

def isAddress (input : String) : Bool :=
  match Url.parse input.toList with
  | .ok u => isHosted u
  | .error _ => false

/-- Owner and name, as people write them. -/
def display (r : Repository) : String := r.owner ++ "/" ++ r.name

inductive Fault where
  | notAddress (input : String) (why : Url.Fault)
  | scheme (input : String)
  | host (input : String)
  | incomplete (input : String)
deriving DecidableEq, Repr

def Fault.message : Fault → String
  | notAddress input why => "invalid repository URL " ++ input ++ ": " ++ why.message
  | scheme input => "unsupported URL scheme in " ++ input
  | host input => "not a GitHub URL: " ++ input
  | incomplete input => "repository URL must name an owner and a repository: " ++ input

/-- The name without the ending that addresses for cloning have. -/
def withoutGitEnding (name : List Char) : List Char :=
  if ".git".toList.isSuffixOf name then name.take (name.length - 4) else name

/-- The repository that segments of a path name. Empty segments do not count, and neither do those after
the second. -/
def ofSegments? (segments : List (List Char)) : Option Repository :=
  match segments.filter (!·.isEmpty) with
  | owner :: name :: _ =>
    let name := withoutGitEnding name
    if name.isEmpty then none else some ⟨String.ofList owner, String.ofList name⟩
  | _ => none

/-- The repository that an address names. -/
def ofAddress (input : String) : Except Fault Repository :=
  match Url.parse (Text.trim input.toList) with
  | .error why => .error (.notAddress input why)
  | .ok u =>
    if u.scheme ≠ "http".toList ∧ u.scheme ≠ "https".toList then .error (.scheme input)
    else if !isHosted u then .error (.host input)
    else
      match ofSegments? u.segments with
      | some r => .ok r
      | none => .error (.incomplete input)

/-- The repository that an address names, or the failure of a run that was given no such address. -/
def parse (input : String) : Except Failure Repository :=
  (ofAddress input).mapError fun f => .validation f.message

end Repository

end PageBundle
