import PageBundle.Archive.Read
import PageBundle.Http.Exchange
import PageBundle.Repository.Basic
import PageBundle.Settings

/-!
Fetching a repository: the archive of its default branch is downloaded and read like any other. Nothing is
asked of the network for a text that names no repository.
-/

namespace PageBundle

/-- The outcome of something that may use the network, with the requests that were answered. -/
structure Fetched (α : Type) where
  result : Except Failure α
  requests : List Http.Request

namespace Repository

def maxRedirects : Nat := 5

/-- The length that an archive may declare. -/
def maxArchiveBytes : Nat := 50 * 1024 * 1024

def request (url : Url) : Http.Request := ⟨url, "htmlpack/0.1.0", "application/vnd.github+json"⟩

def archiveAddress (apiBase : String) (r : Repository) : String :=
  let base := (apiBase.toList.reverse.dropWhile (· == '/')).reverse
  String.ofList base ++ "/repos/" ++ r.owner ++ "/" ++ r.name ++ "/zipball"

def archiveOf (address : String) (reply : Http.Reply) : Except Failure ByteArray :=
  if !Http.isSuccess reply.status then
    .error (.inputUnavailable ("failed to download repository: HTTP " ++ Http.describe reply.status))
  else
    match reply.declared?.filter (maxArchiveBytes < ·) with
    | some n =>
      .error (.inputUnavailable ("repository archive too large (" ++ toString n ++ " bytes, max " ++
        toString maxArchiveBytes ++ ")"))
    | none => reply.content.mapError fun why => .network (address ++ ": " ++ why.message)

def download (network : Http.Network) (address : String) : Fetched ByteArray :=
  match Url.parse address.toList with
  | .error why => ⟨.error (.network (address ++ ": " ++ (Http.Fault.address why).message)), []⟩
  | .ok url =>
    let x := Http.ask network request maxRedirects [] url
    match x.result with
    | .error why => ⟨.error (.network (address ++ ": " ++ why.message)), x.requests⟩
    | .ok reply => ⟨archiveOf address reply, x.requests⟩

/-- The text files of the repository that an address names. -/
def fetch (network : Http.Network) (hosting : Hosting) (input : String) : Fetched FileSet :=
  match parse input with
  | .error why => ⟨.error why, []⟩
  | .ok r =>
    let x := download network (archiveAddress hosting.apiBase r)
    ⟨x.result.bind Archive.read, x.requests⟩

end Repository

end PageBundle
