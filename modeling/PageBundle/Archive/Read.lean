import PageBundle.Archive.Checksum
import PageBundle.Archive.Directory
import PageBundle.Archive.Inflate
import PageBundle.Failure
import PageBundle.FileSet

/-!
From an archive to a set of files. Members are read in order. The sizes that the archive states are not
trusted: a budget of bytes for all members together is drawn down as they are read, binary members and all,
and reading ends as soon as one goes past it. Members that are not text are left out.
-/

namespace PageBundle.Archive

/-- What is wrong with the bytes of a member. -/
inductive Damage where
  | checksum
  | deflate
deriving DecidableEq, Repr

/-- Why a member cannot be read at all. -/
inductive Refusal where
  | encrypted
  | method
  | header
deriving DecidableEq, Repr

def headerMark : List UInt8 := [0x50, 0x4B, 3, 4]

inductive Fault where
  /-- There is no directory. -/
  | noDirectory
  /-- The member at a position cannot be read. -/
  | entry (index : Nat) (why : Refusal)
  /-- The bytes of a member are damaged. -/
  | member (name : String) (why : Damage)
  /-- The members are larger than the budget; the first one past it is named. -/
  | tooLarge (cap : Nat) (name : String)
deriving DecidableEq, Repr

def Damage.message : Damage → String
  | checksum => "invalid checksum"
  | deflate => "corrupt deflate stream"

def Refusal.message : Refusal → String
  | encrypted => "password required to decrypt file"
  | method => "compression method not supported"
  | header => "invalid local file header"

def Fault.message : Fault → String
  | noDirectory => "failed to open zip: no end of central directory"
  | entry i why => "entry " ++ toString i ++ ": " ++ why.message
  | member name why => name ++ ": " ++ why.message
  | tooLarge cap name => "archive expands beyond " ++ toString cap ++ " bytes (at " ++ name ++ ")"

/-- Bytes read from a member, with what is wrong with them if that has shown. -/
structure Extracted where
  bytes : ByteArray
  damage : Option Damage

/-- A member as it is met: what cannot be read, a directory, or a file with a reader. The reader is told
how many bytes are wanted; damage shows only if it gets to the end of the member. -/
inductive Member where
  | refused (why : Refusal)
  | directory
  | file (name : String) (read : Nat → Extracted)

/-- The path of a member: backslashes separate as slashes do. -/
def memberPath (name : String) : String :=
  String.ofList (name.toList.map fun c => if c = '\\' then '/' else c)

/-- The largest number of bytes that a reader can be asked for. -/
def maxCount : Nat := UInt64.size - 1

/-- Reads the members from position `i` on into a set, with what is left of the budget. One byte more than
that is asked for, if the number still has room for it, so that a member past the budget shows. -/
def collectFrom (cap : Nat) : Nat → Nat → FileSet → List Member → Except Fault FileSet
  | _, _, files, [] => .ok files
  | i, _, _, .refused why :: _ => .error (.entry i why)
  | i, left, files, .directory :: ms => collectFrom cap (i + 1) left files ms
  | i, left, files, .file name read :: ms =>
    let path := memberPath name
    let x := read (min (left + 1) maxCount)
    if left < x.bytes.size then .error (.tooLarge cap path)
    else
      match x.damage with
      | some why => .error (.member path why)
      | none => collectFrom cap (i + 1) (left - x.bytes.size) (files.insertBytes path x.bytes) ms

/-- Reads members into a set, with a budget for all their bytes. -/
def collect (cap : Nat) (members : List Member) : Except Fault FileSet :=
  collectFrom cap 0 cap .empty members

def isDirectoryName (name : String) : Bool :=
  match name.toList.getLast? with
  | some c => c == '/' || c == '\\'
  | none => false

/-- Reads the bytes of a member that starts at a position. -/
def extract (b : ByteArray) (r : Record) (start limit : Nat) : Extracted :=
  let data := Bytes.slice b start r.size
  let (bytes, stop) := if r.method = 0 then (data, .finished) else inflate data limit
  if stop = .corrupt ∨ stop = .truncated then ⟨bytes, some .deflate⟩
  else if checksum bytes = r.checksum then ⟨bytes, none⟩
  else ⟨bytes, some .checksum⟩

/-- A member as its record and the header in front of its bytes tell it. -/
def open? (b : ByteArray) (r : Record) : Member :=
  let i := r.header
  if r.isEncrypted || r.hasCipher then .refused .encrypted
  else if !(Bytes.hasAt b i headerMark && i + 30 ≤ b.size) then .refused .header
  else if r.method ≠ 0 ∧ r.method ≠ 8 then .refused .method
  else if isDirectoryName r.name then .directory
  else .file r.name (extract b r (i + 30 + Bytes.u16 b (i + 26) + Bytes.u16 b (i + 28)))

/-- Reads an archive into a set of files, with a budget for the bytes of all members. -/
def readCapped (cap : Nat) (b : ByteArray) : Except Fault FileSet :=
  match directory? b with
  | some rs => collect cap (rs.map (open? b))
  | none => .error .noDirectory

def maxBytes : Nat := 64 * 1024 * 1024

def read (b : ByteArray) : Except Failure FileSet :=
  (readCapped maxBytes b).mapError fun f => .archive f.message

end PageBundle.Archive
