import PageBundle.FileTree.Node
import PageBundle.FileTree.Path

/-!
A file system as a value: a tree, a working directory, and what the system refuses at which place. Looking up
a path follows the links on its way, up to a limit, and goes up from the place where a link has led.
-/

namespace PageBundle

inductive IoFault where
  | notFound
  | notDirectory
  | isDirectory
  | alreadyThere
  | tooManyLinks
  | notText
  | nameWithNul
  | denied
  /-- Any other reason, in the words of the system. -/
  | other (detail : String)
deriving DecidableEq, Repr

def IoFault.message : IoFault → String
  | notFound => "No such file or directory (os error 2)"
  | notDirectory => "Not a directory (os error 20)"
  | isDirectory => "Is a directory (os error 21)"
  | alreadyThere => "File exists (os error 17)"
  | tooManyLinks => "Too many levels of symbolic links (os error 40)"
  | notText => "stream did not contain valid UTF-8"
  | nameWithNul => "file name contained an unexpected NUL byte"
  | denied => "Permission denied (os error 13)"
  | other detail => detail

/-- What may be refused at a place. -/
inductive Access where
  /-- To read a file, or to list a directory. -/
  | read
  /-- To write a file, or to put a new name into a directory. -/
  | write
  /-- To look up a name in a directory. -/
  | search
deriving DecidableEq, Repr

/-- A tree of files and the place of the working directory in it. What is refused is a matter of places, so a
file that is written anew can be read just if the one before it could. -/
structure Disk where
  root : Node
  working : List String
  refusal? : Access → List String → Option IoFault := fun _ _ => none

/-- What a path leads to: a place, and the node there. No node means that only the last name is missing. -/
structure Spot where
  place : List String
  node : Option Node

/-- Where the system must let a node be written: at the place of one that is there, or else in the directory that
it is put into. -/
def Spot.written (s : Spot) : List String := if s.node.isSome then s.place else s.place.dropLast

namespace Disk

def empty (working : List String) : Disk := { root := Node.empty.put Node.empty working, working }

def node? (d : Disk) (place : List String) : Option Node := d.root.get? place

def isDirectoryAt (d : Disk) (place : List String) : Bool := (d.node? place).any Node.isDirectory

def put (d : Disk) (place : List String) (n : Node) : Disk := { d with root := d.root.put n place }

def allow (d : Disk) (access : Access) (place : List String) : Except IoFault Unit :=
  match d.refusal? access place with
  | some why => .error why
  | none => .ok ()

def start (path : String) (place : List String) : List String := if Path.isAbsolute path then [] else place

/-- Goes from a place along some steps, if the system lets names be looked up there. A link on the way hands over
to `jump`; one at the very end does so if `last` says that it is to be followed. Only the last name may be missing,
and only from a directory that is there, which the working directory need not be. -/
def follow (d : Disk) (last : Bool) (jump : List String → List String → Except IoFault Spot) :
    List String → List String → Except IoFault Spot
  | place, [] => if d.isDirectoryAt place then .ok ⟨place, d.node? place⟩ else .error .notFound
  | place, step :: steps =>
    if step = "" then d.follow last jump place steps
    else
      match d.refusal? .search place with
      | some why => .error why
      | none =>
        if step = "." then d.follow last jump place steps
        else if step = ".." then d.follow last jump place.dropLast steps
        else
          let place' := place ++ [step]
          match d.node? place' with
          | some (.directory _) => d.follow last jump place' steps
          | some (.link target) =>
            if steps.isEmpty && !last then .ok ⟨place', some (.link target)⟩
            else jump (start target place) (Path.steps target ++ steps)
          | some (.file content) =>
            if steps.isEmpty then .ok ⟨place', some (.file content)⟩ else .error .notDirectory
          | none => if steps.isEmpty && d.isDirectoryAt place then .ok ⟨place', none⟩ else .error .notFound

/-- Goes from a place along some steps and follows at most so many links. -/
def followLinks (d : Disk) (last : Bool) : Nat → List String → List String → Except IoFault Spot
  | 0 => d.follow last fun _ _ => .error .tooManyLinks
  | n + 1 => d.follow last (d.followLinks last n)

/-- The number of links that are followed for one path. -/
def linkLimit : Nat := 40

/-- What a path leads to. `last` says whether a link at its end is followed. -/
def resolve (d : Disk) (last : Bool) (path : String) : Except IoFault Spot :=
  if path.isEmpty then .error .notFound
  else if path.toList.contains '\x00' then .error .nameWithNul
  else d.followLinks last linkLimit (start path d.working) (Path.steps path)

def find? (d : Disk) (path : String) : Option Node :=
  match d.resolve true path with
  | .ok spot => spot.node
  | .error _ => none

def isThere (d : Disk) (path : String) : Bool := (d.find? path).isSome

def isDirectory (d : Disk) (path : String) : Bool := (d.find? path).any Node.isDirectory

/-- Whether a path leads to a directory even when a link at its end is not followed. -/
def isPlainDirectory (d : Disk) (path : String) : Bool :=
  match d.resolve false path with
  | .ok spot => spot.node.any Node.isDirectory
  | .error _ => false

def readFile (d : Disk) (path : String) : Except IoFault ByteArray := do
  let spot ← d.resolve true path
  match spot.node with
  | some node =>
    d.allow .read spot.place
    match node with
    | .file content => .ok content
    | .directory _ => .error .isDirectory
    | .link _ => .error .tooManyLinks
  | none => .error .notFound

def readText (d : Disk) (path : String) : Except IoFault String := do
  match String.fromUTF8? (← d.readFile path) with
  | some text => .ok text
  | none => .error .notText

/-- The file system after a file was written. A file already there is replaced. -/
def writeFile (d : Disk) (path : String) (content : ByteArray) : Except IoFault Disk := do
  let spot ← d.resolve true path
  match spot.node with
  | some (.directory _) => .error .isDirectory
  | _ =>
    d.allow .write spot.written
    .ok (d.put spot.place (.file content))

/-- The file system after a directory was made, unless it is there. `more` says that the path is only the
beginning of a longer one. -/
def makeDirectory (d : Disk) (more : Bool) (path : String) : Except IoFault Disk := do
  let spot ← d.resolve false path
  match spot.node with
  | none =>
    d.allow .write spot.written
    .ok (d.put spot.place .empty)
  | some (.directory _) => .ok d
  | some (.link _) => if d.isDirectory path then .ok d else .error .alreadyThere
  | some (.file _) => .error (if more then .notDirectory else .alreadyThere)

/-- The file system after a directory and those above it were made, unless they are there. -/
def makeDirectories (d : Disk) (path : String) : Except IoFault Disk :=
  let steps := Path.steps path
  (List.range steps.length).foldlM (fun d i =>
    let path := "/".intercalate (steps.take (i + 1))
    if path.isEmpty then .ok d else d.makeDirectory (i + 1 < steps.length) path) d

end Disk

end PageBundle
