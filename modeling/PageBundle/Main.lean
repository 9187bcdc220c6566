import PageBundle.CommandLine.Run

/-!
The program. What a command may look at is read into a value, with what the system refuses, the command is run on
it, and what it says and writes is carried out. Links inside a directory are passed over, as the walk does; there
is no network.
-/

namespace PageBundle.CommandLine

/-- The part of a path before its last step. -/
def parent (path : String) : String := "/".intercalate (Path.steps path).dropLast

def faultOf : IO.Error → IoFault
  | .permissionDenied .. => .denied
  | .noFileOrDirectory .. => .notFound
  | why => .other why.toString

/-- A tree as it was found. -/
structure Sight where
  node : Node
  /-- What could not be read, by the names that lead to it. -/
  unread : List (List String × IoFault) := []

/-- What is found at a path. Something that cannot be looked at is taken to be a file. -/
partial def look (path : String) : IO Sight := do
  let place := (← IO.currentDir) / path
  match ← place.metadata.toBaseIO with
  | .error why => return { node := .file .empty, unread := [([], faultOf why)] }
  | .ok data =>
    if data.type == .dir then
      match ← place.readDir.toBaseIO with
      | .error why => return { node := .empty, unread := [([], faultOf why)] }
      | .ok found =>
        let mut entries := []
        let mut unread := []
        for e in found do
          let isKept ← match ← e.path.symlinkMetadata.toBaseIO with
            | .ok data => pure (data.type == .dir || data.type == .file)
            | .error _ => pure true
          if isKept then
            let inner ← look (Path.join path e.fileName)
            entries := (e.fileName, inner.node) :: entries
            unread := inner.unread.map (fun (names, why) => (e.fileName :: names, why)) ++ unread
        return { node := .directory entries, unread }
    else
      match ← (IO.FS.readBinFile place).toBaseIO with
      | .error why => return { node := .file .empty, unread := [([], faultOf why)] }
      | .ok content => return { node := .file content }

/-- The file system that refuses one thing more. -/
def refuse (d : Disk) (access : Access) (place : List String) (why : IoFault) : Disk :=
  { d with refusal? := fun a q => if a = access ∧ q = place then some why else d.refusal? a q }

/-- The file system with all directories above a path, and what the path leads to then. -/
def reach (d : Disk) (path : String) : Except IoFault (Disk × Spot) := do
  let d ← if (parent path).isEmpty then .ok d else d.makeDirectories (parent path)
  .ok (d, ← d.resolve false path)

/-- The file system with a tree put at a path, unless something is there. -/
def mount (d : Disk) (path : String) (s : Sight) : Disk :=
  if d.isThere path && !s.node.isDirectory then d
  else
    match reach d path with
    | .ok (d, spot) =>
      s.unread.foldl (fun d (names, why) => refuse d .read (spot.place ++ names) why) (d.put spot.place s.node)
    | .error _ => d

/-- The file system with what there is at a path. If that cannot be told, then names cannot be looked up in the
directory above. -/
def loadInto (d : Disk) (path : String) : IO Disk := do
  match ← ((← IO.currentDir) / path).metadata.toBaseIO with
  | .ok _ => return mount d path (← look path)
  | .error (.noFileOrDirectory ..) => return d
  | .error why =>
    match reach d path with
    | .ok (d, spot) => return refuse d .search spot.place.dropLast (faultOf why)
    | .error _ => return d

def noteDirectory (d : Disk) (path : String) : IO Disk := do
  try
    if (← (← IO.FS.realPath path).isDir) && !d.isDirectory path then return mount d path { node := .empty }
    else return d
  catch _ => return d

/-- The paths of files that a command may read, with all that they hold. -/
def Command.inputs : Command → List String
  | bundle source _ _ => [source]
  | inspect source => [source]
  | writeSettings | showSettings => []

/-- The path of the file that a command may write. -/
def Command.output? (home : Option String) : Command → Option String
  | bundle _ output _ => output
  | writeSettings => (Settings.file home).toOption
  | inspect _ | showSettings => none

def observe (c : Command) : IO World := do
  let working := (Path.steps (← IO.FS.realPath ".").toString).filter fun s => !Path.isHere s
  let home := (← IO.getEnv "HOME").filter fun h => !h.isEmpty
  let mut d := Disk.empty working
  for path in c.inputs do d ← loadInto d path
  if let .ok path := Settings.file home then
    if !d.isThere path then d ← loadInto d path
  if let some path := c.output? home then
    d ← noteDirectory d (if (parent path).isEmpty then "." else parent path)
    d ← noteDirectory d path
  return { disk := d, home }

/-- Writes the file at a path as it stands after a run, if the run has changed it. -/
def carryOut (before after : Disk) (path : String) : IO Unit := do
  match after.readFile path, before.readFile path with
  | .ok new, .ok old => if new != old then IO.FS.writeBinFile path new
  | .ok new, .error _ =>
    if !(parent path).isEmpty then IO.FS.createDirAll (parent path)
    IO.FS.writeBinFile path new
  | _, _ => pure ()

def usage : String :=
  "usage: htmlpack [-v] [--log-format text|json] COMMAND\n" ++
  "  bundle SOURCE [-o FILE] [--title TITLE] [--max-size-kb N] [--no-minify]\n" ++
  "  inspect SOURCE\n" ++
  "  config init\n" ++
  "  config show\n"

def execute (c : Command) : IO UInt32 := do
  let w ← observe c
  let o := run w c
  try
    if let some path := c.output? w.home then carryOut w.disk o.disk path
    IO.print o.stdout
    IO.eprint o.stderr
    match o.fault with
    | none => return 0
    | some why =>
      IO.eprintln ("Error: " ++ why.message)
      return 1
  catch _ =>
    IO.eprintln ("Error: " ++ (RunFault.cannotWrite ((c.output? w.home).getD "")).message)
    return 1

end PageBundle.CommandLine

def main (arguments : List String) : IO UInt32 := do
  match PageBundle.CommandLine.parse arguments with
  | .ok c => PageBundle.CommandLine.execute c
  | .error .help =>
    IO.print PageBundle.CommandLine.usage
    return 0
  | .error .version =>
    IO.println "htmlpack 0.1.0"
    return 0
  | .error _ =>
    IO.eprint PageBundle.CommandLine.usage
    return 2
