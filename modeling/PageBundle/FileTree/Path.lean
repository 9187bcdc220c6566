/-!
Paths as people write them: steps with slashes between them. An empty step and a dot mean "here", and two
dots mean "one up".
-/

namespace PageBundle.Path

def steps (path : String) : List String := (path.toList.splitOn '/').map String.ofList

def isAbsolute (path : String) : Bool := path.toList.head? == some '/'

/-- Whether a step means "here". -/
def isHere (step : String) : Bool := step == "" || step == "."

/-- The last step that goes anywhere, unless it goes up. -/
def fileName? (path : String) : Option String :=
  match ((steps path).filter fun s => !isHere s).getLast? with
  | some ".." => none
  | name => name

/-- The text after the last dot of the file name. A dot at its start does not count. -/
def extension? (path : String) : Option String := do
  let reversed := (← fileName? path).toList.reverse
  match reversed.dropWhile (· ≠ '.') with
  | '.' :: _ :: _ => some (String.ofList (reversed.takeWhile (· ≠ '.')).reverse)
  | _ => none

def join (directory name : String) : String :=
  if isAbsolute name || directory.isEmpty then name
  else if directory.toList.getLast? == some '/' then directory ++ name
  else directory ++ "/" ++ name

end PageBundle.Path
