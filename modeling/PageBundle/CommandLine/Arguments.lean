/-!
Reading the arguments of the command line. Commands form levels, each with its own flags. The value of a flag
may follow it as an argument of its own; it is looked at when the next flag or operand is met, or at the end,
and for a command only after the arguments of the command inside it have been read.
-/

namespace PageBundle.CommandLine

/-- What takes precedence over the settings. -/
structure Overrides where
  title : Option String := none
  maxSizeKb : Option Nat := none
  noMinify : Bool := false
deriving DecidableEq, Repr

inductive Command where
  | bundle (source : String) (output : Option String) (overrides : Overrides)
  | inspect (source : String)
  | writeSettings
  | showSettings
deriving DecidableEq, Repr

/-- Why the arguments are no command: something is wrong with them, or they ask for an explanation. -/
inductive UsageFault where
  | help
  | version
  /-- Nothing is given where a command is wanted. -/
  | nothingGiven
  /-- Flags are given where a command is wanted, but no command. -/
  | missingCommand
  | missingOperand
  | unknownCommand
  | unknownArgument
  /-- The value of a flag is missing or none of those allowed. -/
  | badValue
  | notNumber
  /-- A flag is given twice. -/
  | repeated
  /-- A flag that takes no value is given one. -/
  | surplusValue
deriving DecidableEq, Repr

inductive Flag where
  | logFormat
  | verbose
  | help
  | version
  | output
  | title
  | maxSizeKb
  | noMinify
deriving DecidableEq, Repr

namespace Flag

def name : Flag → String
  | logFormat => "log-format"
  | verbose => "verbose"
  | help => "help"
  | version => "version"
  | output => "output"
  | title => "title"
  | maxSizeKb => "max-size-kb"
  | noMinify => "no-minify"

def letter? : Flag → Option Char
  | verbose => some 'v'
  | help => some 'h'
  | version => some 'V'
  | output => some 'o'
  | _ => none

def takesValue : Flag → Bool
  | logFormat | output | title | maxSizeKb => true
  | verbose | help | version | noMinify => false

end Flag

inductive Level where
  | top
  | bundle
  | inspect
  | settings
  | writeSettings
  | showSettings
  | help
deriving DecidableEq, Repr

namespace Level

def flags : Level → List Flag
  | top => [.logFormat, .verbose, .help, .version]
  | bundle => [.logFormat, .verbose, .help, .output, .title, .maxSizeKb, .noMinify]
  | _ => [.logFormat, .verbose, .help]

def commands : Level → List (String × Level)
  | top => [("bundle", bundle), ("inspect", inspect), ("config", settings), ("help", help)]
  | settings => [("init", writeSettings), ("show", showSettings), ("help", help)]
  | _ => []

def takesSource : Level → Bool
  | bundle | inspect => true
  | _ => false

end Level

/-- What has been given at one level. -/
structure Given where
  logFormat : Bool := false
  verbose : Bool := false
  source : Option String := none
  output : Option String := none
  overrides : Overrides := {}
deriving DecidableEq, Repr

/-- The number that digits spell, if it fits in 64 bits. A plus may stand in front. -/
def number? (s : String) : Option Nat :=
  let ds := match s.toList with
    | '+' :: ds => ds
    | ds => ds
  let n := Nat.ofDigitChars 10 ds 0
  if !ds.isEmpty && ds.all Char.isDigit && n < Nat.pow 2 64 then some n else none

/-- Takes in a flag that has a value. -/
def Given.setValue (g : Given) (f : Flag) (value : String) : Except UsageFault Given :=
  match f with
  | .logFormat =>
    if g.logFormat then .error .repeated
    else if value = "text" ∨ value = "json" then .ok { g with logFormat := true }
    else .error .badValue
  | .output =>
    if g.output.isSome then .error .repeated
    else if value.isEmpty then .error .badValue
    else .ok { g with output := some value }
  | .title =>
    if g.overrides.title.isSome then .error .repeated
    else .ok { g with overrides.title := some value }
  | .maxSizeKb =>
    if g.overrides.maxSizeKb.isSome then .error .repeated
    else
      match number? value with
      | some n => .ok { g with overrides.maxSizeKb := some n }
      | none => .error .notNumber
  | .verbose | .help | .version | .noMinify => .error .surplusValue

/-- Takes in a flag that has no value. -/
def Given.set (g : Given) (f : Flag) : Except UsageFault Given :=
  match f with
  | .help => .error .help
  | .version => .error .version
  | .verbose => .ok { g with verbose := true }
  | .noMinify =>
    if g.overrides.noMinify then .error .repeated else .ok { g with overrides.noMinify := true }
  | .logFormat | .output | .title | .maxSizeKb => .error .badValue

/-- A level while its arguments are read. -/
structure Reading where
  given : Given := {}
  /-- A flag that has been met and not looked at, with its value once that is there. -/
  pending : Option (Flag × Option String) := none
  /-- Whether all that follows are operands. -/
  onlyOperands : Bool := false

namespace Reading

/-- Looks at the flag that has been met before. -/
def settle (r : Reading) : Except UsageFault Reading :=
  match r.pending with
  | none => .ok r
  | some (f, none) => (r.given.set f).map fun g => { r with given := g, pending := none }
  | some (f, some value) => (r.given.setValue f value).map fun g => { r with given := g, pending := none }

/-- The flag that the next argument is the value of. -/
def awaiting? (r : Reading) : Option Flag :=
  match r.pending with
  | some (f, none) => if r.onlyOperands then none else some f
  | _ => none

def flag (r : Reading) (f : Flag) (attached : Option String) : Except UsageFault Reading :=
  match attached with
  | some value =>
    if f.takesValue then do
      let r ← r.settle
      (r.given.setValue f value).map fun g => { r with given := g }
    else .error .surplusValue
  | none => do
    let r ← r.settle
    if f.takesValue then .ok { r with pending := some (f, none) }
    else (r.given.set f).map fun g => { r with given := g }

/-- Takes in flags written as letters. What follows the letter of a flag that takes a value is the value. -/
def letters (level : Level) : Reading → List Char → Except UsageFault Reading
  | r, [] => .ok r
  | r, c :: cs =>
    match level.flags.find? fun f => f.letter? == some c with
    | none => .error .unknownArgument
    | some f =>
      if f.takesValue then
        match cs with
        | [] => r.flag f none
        | '=' :: value => r.flag f (some (String.ofList value))
        | value => r.flag f (some (String.ofList value))
      else do letters level (← r.flag f none) cs

/-- Takes in a flag written as a name, with a value behind an equality sign if there is one. -/
def named (level : Level) (r : Reading) (s : List Char) : Except UsageFault Reading :=
  let name := String.ofList (s.takeWhile (· ≠ '='))
  let attached := match s.dropWhile (· ≠ '=') with
    | '=' :: value => some (String.ofList value)
    | _ => none
  match level.flags.find? fun f => f.name == name with
  | some f => r.flag f attached
  | none => .error .unknownArgument

def operand (level : Level) (r : Reading) (word : String) : Except UsageFault Reading :=
  if level.takesSource && r.given.source.isNone then do
    let r ← r.settle
    .ok { r with given.source := some word }
  else if level.commands.isEmpty || (r.onlyOperands && (level.commands.lookup word).isSome) then
    .error .unknownArgument
  else .error .unknownCommand

/-- Takes in an argument that is no command. -/
def word (level : Level) (r : Reading) (word : String) : Except UsageFault Reading :=
  if r.onlyOperands then r.operand level word
  else
    match word.toList with
    | ['-', '-'] => .ok { r with onlyOperands := true }
    | '-' :: '-' :: s => r.named level s
    | '-' :: c :: cs => r.letters level (c :: cs)
    | _ =>
      match r.awaiting? with
      | some f => .ok { r with pending := some (f, some word) }
      | none => r.operand level word

end Reading

def Given.command (g : Given) (level : Level) : Except UsageFault Command :=
  match level with
  | .bundle =>
    match g.source with
    | some source => .ok (.bundle source g.output g.overrides)
    | none => .error .missingOperand
  | .inspect =>
    match g.source with
    | some source => .ok (.inspect source)
    | none => .error .missingOperand
  | .writeSettings => .ok .writeSettings
  | .showSettings => .ok .showSettings
  | .top | .settings | .help =>
    .error (if g.logFormat || g.verbose then .missingCommand else .nothingGiven)

/-- What becomes of a request to explain a command. -/
def explain (level : Level) : List String → UsageFault
  | [] => .help
  | word :: words =>
    match level.commands.lookup word with
    | some inner => explain inner words
    | none => .unknownCommand

/-- Reads the arguments of a level, after those that were taken in. -/
def parseFrom (level : Level) (r : Reading) : List String → Except UsageFault Command
  | [] => do (← r.settle).given.command level
  | word :: words =>
    match if r.onlyOperands || r.awaiting?.isSome then none else level.commands.lookup word with
    | some .help => .error (explain level words)
    | some inner => do
      let command ← parseFrom inner {} words
      let _ ← r.settle
      .ok command
    | none => do parseFrom level (← r.word level word) words

def parse (arguments : List String) : Except UsageFault Command := parseFrom .top {} arguments

end PageBundle.CommandLine
