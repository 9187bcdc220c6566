/-!
Addresses of pages, as far as requests and the recognition of repositories need them. User names, passwords
and fragments are read and dropped.
-/

namespace PageBundle

namespace Url

inductive Fault where
  | relative
  | emptyHost
  | port
  | ipv4
  | ipv6
  | domain
  | hostCharacter
deriving DecidableEq, Repr

def Fault.message : Fault → String
  | relative => "relative URL without a base"
  | emptyHost => "empty host"
  | port => "invalid port number"
  | ipv4 => "invalid IPv4 address"
  | ipv6 => "invalid IPv6 address"
  | domain => "invalid international domain name"
  | hostCharacter => "invalid domain character"

/-- Where a request goes. -/
inductive Host where
  | domain (name : List Char)
  | ipv4 (address : Nat)
  | ipv6 (text : List Char)
deriving DecidableEq, Repr

/-- How the schemes differ in reading the rest of an address. -/
inductive SchemeKind where
  /-- A scheme of the web, with a host that may not be missing. -/
  | web
  /-- Files, with a host that may be missing. -/
  | file
  /-- All others. -/
  | other
deriving DecidableEq, Repr

def defaultPorts : List (String × Nat) :=
  [("http", 80), ("https", 443), ("ws", 80), ("wss", 443), ("ftp", 21)]

/-- The port of a scheme that need not be named. -/
def defaultPort? (scheme : List Char) : Option Nat :=
  (defaultPorts.find? fun p => p.1.toList == scheme).map Prod.snd

def SchemeKind.ofScheme (scheme : List Char) : SchemeKind :=
  if (defaultPort? scheme).isSome then web
  else if scheme == "file".toList then file
  else other

/-- Whether a backslash stands for a slash. -/
def SchemeKind.isSpecial (k : SchemeKind) : Bool := k != other

end Url

structure Url where
  scheme : List Char
  host : Option Url.Host
  /-- The port, unless it is that of the scheme. -/
  port : Option Nat
  /-- The parts of the path, encoded. -/
  segments : List (List Char)
  /-- The query, encoded. -/
  query : Option (List Char)
deriving DecidableEq, Repr

namespace Url

def path (u : Url) : List Char := u.segments.flatMap fun s => '/' :: s

/-- What a request asks the host for: the path, and the query if there is one. -/
def target (u : Url) : List Char :=
  u.path ++
    match u.query with
    | some q => '?' :: q
    | none => []

end Url

end PageBundle
