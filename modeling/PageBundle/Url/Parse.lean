import PageBundle.Url.Host

/-!
Reading addresses, on their own or relative to another one. Path segments that mean "here" and "one up" are
worked off while the path is read, however they are encoded, so no such segment is left.
-/

namespace PageBundle.Url

/-- The text without control characters and spaces at its ends, and without tabs and ends of lines. -/
def cleaned (s : List Char) : List Char :=
  let outer (c : Char) : Bool := c.toNat ≤ 32
  let trimmed := ((s.dropWhile outer).reverse.dropWhile outer).reverse
  trimmed.filter fun c => c ≠ '\t' && c ≠ '\n' && c ≠ '\r'

def isSchemeChar (c : Char) : Bool := c.isAlphanum || c == '+' || c == '-' || c == '.'

/-- Reads a scheme and its colon; the scheme in small letters, and what follows it. -/
def scheme? (s : List Char) : Option (List Char × List Char) :=
  match s.dropWhile isSchemeChar with
  | ':' :: rest =>
    if s.head?.any Char.isAlpha then some ((s.takeWhile isSchemeChar).map Char.toLower, rest) else none
  | _ => none

def endsAuthority (special : Bool) (c : Char) : Bool :=
  c == '/' || c == '?' || c == '#' || (special && c == '\\')

/-- Splits the text before the path at the last sign that ends a user name: the user, if there is such a sign,
and the rest. -/
def splitUser (s : List Char) : Option (List Char) × List Char :=
  let rest := (s.reverse.takeWhile (· ≠ '@')).reverse
  (if s.contains '@' then some (s.take (s.length - rest.length - 1)) else none, rest)

/-- Whether a user asks for a host: one without a name and a password does so only if more than the host is
left out after it. -/
def needsHost (user : List Char) (atEnd : Bool) : Bool :=
  if user.isEmpty then !atEnd else user != [':']

/-- Cuts off the port: all from the first colon outside brackets on. -/
def splitPort (inside : Bool) (seen : List Char) : List Char → List Char × Option (List Char)
  | [] => (seen.reverse, none)
  | c :: s =>
    if c = ':' ∧ !inside then (seen.reverse, some s)
    else splitPort (if c = '[' then true else if c = ']' then false else inside) (c :: seen) s

/-- The port that digits spell; none if there are no digits or if it is that of the scheme. -/
def port? (scheme s : List Char) : Except Fault (Option Nat) :=
  match Text.digitsUpTo? 65536 10 s with
  | none => .error .port
  | some n =>
    if 65535 < n then .error .port
    else if s.isEmpty || defaultPort? scheme == some n then .ok none
    else .ok (some n)

/-- Reads user, host and port. A backslash ends the port even where it does not stand for a slash; what it
starts is handed back. -/
def authority (k : SchemeKind) (scheme auth : List Char) (atEnd : Bool) :
    Except Fault (Option Host × Option Nat × List Char) := do
  let (user, rest) := splitUser auth
  let (host, port) := splitPort false [] rest
  if host.isEmpty && (k == .web || port.isSome || user.any (needsHost · atEnd)) then .error .emptyHost
  else
    let host ← match k with
      | .other => Host.ofOther host
      | _ => (Host.ofSpecial host).map some
    match port with
    | none => .ok (host, none, [])
    | some p => .ok (host, ← port? scheme (p.takeWhile (· ≠ '\\')), p.dropWhile (· ≠ '\\'))

/-- Whether a text names a drive: a letter and a colon, or a bar in its place. -/
def isDrive : List Char → Bool
  | [c, d] => c.isAlpha && (d == ':' || d == '|')
  | _ => false

/-- Reads the host of a file; the machine itself counts as none. -/
def fileHost (s : List Char) : Except Fault (Option Host) :=
  if s.isEmpty then .ok none
  else (Host.ofSpecial s).map fun h => if h = .domain "localhost".toList then none else some h

/-- The text after a dot in one of its spellings. -/
def dropDot? : List Char → Option (List Char)
  | '.' :: s => some s
  | '%' :: '2' :: 'e' :: s => some s
  | '%' :: '2' :: 'E' :: s => some s
  | _ => none

def isDot (s : List Char) : Bool := dropDot? s == some []

def isDoubleDot (s : List Char) : Bool := (dropDot? s).any isDot

/-- The way up from a path whose last segment comes first. There is no way up from a drive. -/
def parent : List (List Char) → List (List Char)
  | [] => []
  | s :: above => if isDrive s then s :: above else above

/-- Goes down one segment from a path whose last segment comes first. `last` says that no slash follows the
segment, so that a path that ends in a dot ends in an empty segment. -/
def descend (path : List (List Char)) (segment : List Char) (last : Bool) : List (List Char) :=
  let stay (path : List (List Char)) := if last then [] :: path else path
  if isDoubleDot segment then stay (parent path)
  else if isDot segment then stay path
  else encode encodedInPath segment :: path

/-- Goes down segments from a path whose last segment comes first. -/
def descendAll (path : List (List Char)) : List (List Char) → List (List Char)
  | [] => path
  | [s] => descend path s true
  | s :: r => descendAll (descend path s false) r

def addSegments (path segments : List (List Char)) : List (List Char) := (descendAll path.reverse segments).reverse

/-- The segments of a text; a backslash separates too where it stands for a slash. -/
def splitSegments (special : Bool) (s : List Char) : List (List Char) :=
  (s.map fun c => if special && c == '\\' then '/' else c).splitOn '/'

def beforeQuery (s : List Char) : List Char := s.takeWhile fun c => c ≠ '?' && c ≠ '#'

/-- The query in the text after the path, encoded. -/
def queryOf (special : Bool) (s : List Char) : Option (List Char) :=
  match s.dropWhile (fun c => c ≠ '?' && c ≠ '#') with
  | '?' :: q => some (encode (encodedInQuery special) (q.takeWhile (· ≠ '#')))
  | _ => none

/-- The segments of a path that starts at the host. -/
def rootedPath (special : Bool) (s : List Char) : List (List Char) :=
  match beforeQuery s with
  | [] => if special then [[]] else []
  | c :: r =>
    let r := if c == '/' || (special && c == '\\') then r else c :: r
    addSegments [] (splitSegments special r)

/-- The path of a file: a drive at its start has a colon, and no empty segments come before the others. -/
def filePath : List (List Char) → List (List Char)
  | path@(segment :: rest) =>
    match segment.head?.filter fun _ => isDrive segment with
    | some c => [c, ':'] :: rest
    | none => if path.all List.isEmpty then [[]] else path.dropWhile List.isEmpty
  | [] => []

/-- The address of a file, from its path on. A file on a drive is on no host. -/
def ofFilePath (scheme : List Char) (host : Option Host) (s : List Char) : Url :=
  let path := rootedPath true s
  ⟨scheme, if path.head?.any isDrive then none else host, none, filePath path, queryOf true s⟩

def afterSlashes (scheme s : List Char) : Except Fault Url := do
  let k := SchemeKind.ofScheme scheme
  let auth := s.takeWhile fun c => !endsAuthority k.isSpecial c
  let rest := s.dropWhile fun c => !endsAuthority k.isSpecial c
  if k = .file then
    if isDrive auth then .ok (ofFilePath scheme none s) else .ok (ofFilePath scheme (← fileHost auth) rest)
  else
    let (host, port, more) ← authority k scheme auth rest.isEmpty
    let rest := more ++ rest
    .ok ⟨scheme, host, port, rootedPath k.isSpecial rest, queryOf k.isSpecial rest⟩

def isSlash (c : Char) : Bool := c == '/' || c == '\\'

def afterScheme (scheme s : List Char) : Except Fault Url :=
  match SchemeKind.ofScheme scheme with
  | .web => afterSlashes scheme (s.dropWhile isSlash)
  | .file =>
    match s with
    | a :: b :: r =>
      if isSlash a && isSlash b then afterSlashes scheme r else .ok (ofFilePath scheme none s)
    | s => .ok (ofFilePath scheme none s)
  | .other =>
    match s with
    | '/' :: '/' :: r => afterSlashes scheme r
    | s => .ok ⟨scheme, none, none, rootedPath false s, queryOf false s⟩

def parse (s : List Char) : Except Fault Url :=
  match scheme? (cleaned s) with
  | some (scheme, rest) => afterScheme scheme rest
  | none => .error .relative

/-- Reads the part of an address that is relative to one of the web. -/
def joinRelative (base : Url) (s : List Char) : Except Fault Url :=
  let path := beforeQuery s
  let slashes := path.takeWhile isSlash
  if 2 ≤ slashes.length then
    afterSlashes base.scheme (if "//".toList.isPrefixOf s then s.drop 2 else s.dropWhile isSlash)
  else if slashes.length = 1 then
    .ok { base with segments := rootedPath true s, query := queryOf true s }
  else if path.isEmpty then
    .ok { base with query := if s.head? == some '?' then queryOf true s else base.query }
  else
    .ok { base with
      segments := addSegments base.segments.dropLast (splitSegments true path)
      query := queryOf true s }

/-- Reads an address that may be relative to one of the web. -/
def join (base : Url) (s : List Char) : Except Fault Url :=
  let s := cleaned s
  match scheme? s with
  | none => joinRelative base s
  | some (scheme, rest) =>
    if scheme = base.scheme ∧ (rest.takeWhile isSlash).length < 2 then joinRelative base rest
    else afterScheme scheme rest

end PageBundle.Url
