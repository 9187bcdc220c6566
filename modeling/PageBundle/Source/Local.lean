import PageBundle.Archive.Read
import PageBundle.FileTree.Disk
import PageBundle.FileTree.Walk

/-!
Collecting the files of a project from a file system: a directory with all it holds, one document, or an
archive. A directory is read while it is walked through, so what the system refuses on the way ends the reading.
-/

namespace PageBundle

/-- Why something below a directory cannot be had. To get there each name on the way is looked up in its directory,
and then what stands there is read. -/
def Disk.refusalBelow? (d : Disk) : List String → List String → Option IoFault
  | place, [] => d.refusal? .read place
  | place, name :: names => (d.refusal? .search place).or (d.refusalBelow? (place ++ [name]) names)

namespace Source

/-- The failure of a run that the file system refuses. -/
def refused (path : String) (why : IoFault) : Failure := .io path why.message

/-- A step of a walk through a directory of a file system that may refuse anything. -/
inductive Step where
  /-- The walk cannot go on. -/
  | refused (detail : String)
  /-- There is no file here. -/
  | passed
  /-- A file that is met under some names, with its bytes if it can be read. -/
  | file (names : List String) (path : String) (content : Except String ByteArray)

def pathBelow (path : String) (names : List String) : String := names.foldl Path.join path

/-- The step at which something is met below the directory at a path, which leads to a place. -/
def step (d : Disk) (place : List String) (path : String) (v : Visit) : Step :=
  let inner := pathBelow path v.names
  match v.node, d.refusalBelow? place v.names with
  | .file content, none => .file v.names inner (.ok content)
  | .file _, some why => .file v.names inner (.error why.message)
  | .directory _, some why => .refused ("IO error for operation on " ++ inner ++ ": " ++ why.message)
  | .directory _, none | .link _, _ => .passed

/-- Reads files into a set while they are met on a walk. -/
def readSteps (root : String) : FileSet → List Step → Except Failure FileSet
  | files, [] => .ok files
  | _, .refused detail :: _ => .error (.inputUnavailable ("failed to walk " ++ root ++ ": " ++ detail))
  | files, .passed :: steps => readSteps root files steps
  | _, .file _ path (.error detail) :: _ => .error (.io path detail)
  | files, .file names _ (.ok content) :: steps =>
    readSteps root (files.insertBytes ("/".intercalate names) content) steps

/-- Whether a path names a directory of version control itself. -/
def isMetadata (d : Disk) (path : String) : Bool :=
  Path.fileName? path == some Node.metadataName && d.isPlainDirectory path

/-- The text files below a directory. -/
def readDirectory (d : Disk) (path : String) : Except Failure FileSet :=
  match d.resolve true path with
  | .ok ⟨place, some (.directory entries)⟩ =>
    if isMetadata d path then .ok .empty
    else readSteps path .empty ((Node.directory entries).visits.map (step d place path))
  | _ => .error (.inputUnavailable (path ++ " is not a directory"))

def readDocument (d : Disk) (path : String) : Except Failure FileSet := do
  let content ← (d.readFile path).mapError (refused path)
  match FileSet.text? content with
  | some text => .ok (.single ((Path.fileName? path).getD "") text)
  | none => .error (.inputUnavailable (path ++ " is not UTF-8 text"))

def readArchive (d : Disk) (path : String) : Except Failure FileSet := do
  Archive.read (← (d.readFile path).mapError (refused path))

end Source

end PageBundle
