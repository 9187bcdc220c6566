import PageBundle.Http.Status
import PageBundle.Url.Parse

/-!
Requests and replies. The world behind the network is a function from the requests made so far to the reply
to the next one, so that a server may answer as it likes. A reply that names another address is followed, up
to a limit.
-/

namespace PageBundle.Http

structure Request where
  url : Url
  userAgent : String
  accept : String
deriving DecidableEq, Repr

/-- What a host answers. The body is what really arrives. -/
structure Reply where
  status : Nat
  /-- The other address that the reply names, if it names one. -/
  location : Option String
  /-- The length of the body that the reply declares, if it declares one. -/
  length : Option Nat
  body : ByteArray

/-- The hosts of the network: the reply to a request that is made after others, or none if there is no such
host. -/
abbrev Network := List Request → Request → Option Reply

def Network.offline : Network := fun _ _ => none

/-- Why there is no proper reply. -/
inductive Fault where
  | address (why : Url.Fault)
  | scheme
  | unreachable
  | interrupted
  | tooManyRedirects
deriving DecidableEq, Repr

def Fault.message : Fault → String
  | address why => why.message
  | scheme => "URL scheme is not allowed"
  | unreachable => "error sending request"
  | interrupted => "failed to read body"
  | tooManyRedirects => "too many redirects"

/-- The outcome of an exchange, with the requests that were answered on the way. -/
structure Exchange (α : Type) where
  result : Except Fault α
  requests : List Request

/-- The address that a reply leads to. A name that is no address of a host leads nowhere. -/
def Reply.target? (r : Reply) (url : Url) : Option Url :=
  if isRedirect r.status then
    r.location.bind fun l =>
      match Url.join url l.toList with
      | .ok u => if u.host.isSome then some u else none
      | .error _ => none
  else none

/-- The body of a reply. It ends where the reply says so; too short a body means that the connection broke. -/
def Reply.content (r : Reply) : Except Fault ByteArray :=
  if isBodiless r.status then .ok .empty
  else
    match r.length with
    | some n => if r.body.size < n then .error .interrupted else .ok (r.body.extract 0 n)
    | none => .ok r.body

/-- The length that a reply declares, as far as it counts. -/
def Reply.declared? (r : Reply) : Option Nat := if isBodiless r.status then some 0 else r.length

/-- Asks for an address after other requests, and follows at most so many redirects. -/
def ask (network : Network) (request : Url → Request) :
    Nat → List Request → Url → Exchange Reply
  | redirects, sent, url =>
    if url.scheme ≠ "http".toList ∧ url.scheme ≠ "https".toList then ⟨.error .scheme, sent⟩
    else
      match network sent (request url) with
      | none => ⟨.error .unreachable, sent⟩
      | some reply =>
        let sent := sent ++ [request url]
        if isInterim reply.status then ⟨.error .unreachable, sent⟩
        else
          match reply.target? url with
          | none => ⟨.ok reply, sent⟩
          | some next =>
            match redirects with
            | 0 => ⟨.error .tooManyRedirects, sent⟩
            | redirects + 1 => ask network request redirects sent next

end PageBundle.Http
