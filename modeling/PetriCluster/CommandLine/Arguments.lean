/-!
# Arguments of the command

Options have a long name, and some have a letter. A value follows its option as the next argument,
or in the same argument after an equals sign, or directly after the letter. No option may be given
twice, and nothing but options may be given.
-/

namespace PetriCluster.CommandLine

/-- What the command is asked to do, unless it is asked for help. -/
structure Arguments where
  config : Option String := none
  processId : Option UInt32 := none
  logLevel : Option String := none
  jsonLogs : Bool := false
  printConfig : Bool := false
  net : String := "ring"
  /-- The hop limit of the ring, or the number of rounds of the broadcast. -/
  rounds : UInt32 := 1000
  trace : Option String := none
  reportDir : Option String := none
  deriving DecidableEq, Repr

/-- What is asked of the command. -/
inductive Request where
  | run (arguments : Arguments)
  | help
  | version
  deriving DecidableEq, Repr

/-- The options of the command. -/
inductive Flag where
  | config
  | processId
  | logLevel
  | jsonLogs
  | printConfig
  | net
  | rounds
  | trace
  | reportDir
  | help
  | version
  deriving DecidableEq, Repr

namespace Flag

/-- The flag of a long name. -/
def ofName? (name : String) : Option Flag :=
  match name with
  | "config" => some config
  | "process-id" => some processId
  | "log-level" => some logLevel
  | "json-logs" => some jsonLogs
  | "print-config" => some printConfig
  | "net" => some net
  | "rounds" => some rounds
  | "trace" => some trace
  | "report-dir" => some reportDir
  | "help" => some help
  | "version" => some version
  | _ => none

/-- The flag of a letter. -/
def ofLetter? (letter : Char) : Option Flag :=
  match letter with
  | 'c' => some config
  | 'p' => some processId
  | 'l' => some logLevel
  | 'h' => some help
  | 'V' => some version
  | _ => none

/-- Whether a value follows the flag. -/
def takesValue : Flag → Bool
  | jsonLogs | printConfig | help | version => false
  | _ => true

end Flag

/-- A number of 32 bits; a sign is allowed. -/
def word? (s : String) : Option UInt32 :=
  let (negative, digits) := match s.toList with
    | '-' :: rest => (true, rest)
    | '+' :: rest => (false, rest)
    | cs => (false, cs)
  if digits ≠ [] ∧ digits.all Char.isDigit then
    let n := digits.foldl (fun n d => 10 * n + (d.toNat - 48)) 0
    if n < UInt32.size ∧ (negative → n = 0) then some (UInt32.ofNat n) else none
  else none

/-- A path, which has at least one character. -/
def path? (s : String) : Option String :=
  if s = "" then none else some s

/-- Arguments with an option added that has a value. -/
def Arguments.withValue? (a : Arguments) (value : String) : Flag → Option Arguments
  | .config => (path? value).map fun v => { a with config := some v }
  | .processId => (word? value).map fun v => { a with processId := some v }
  | .logLevel => some { a with logLevel := some value }
  | .net => some { a with net := value }
  | .rounds => (word? value).map fun v => { a with rounds := v }
  | .trace => some { a with trace := some value }
  | .reportDir => (path? value).map fun v => { a with reportDir := some v }
  | .jsonLogs | .printConfig | .help | .version => none

/-- Arguments with an option added that has no value. -/
def Arguments.withFlag (a : Arguments) : Flag → Arguments
  | .jsonLogs => { a with jsonLogs := true }
  | .printConfig => { a with printConfig := true }
  | _ => a

/-- What an argument is. -/
inductive Word where
  | long (name : String) (value : Option String)
  | short (letters : List Char)
  | mark
  | plain
  deriving DecidableEq, Repr

/-- An argument as a word. -/
def Word.ofString (s : String) : Word :=
  match s.toList with
  | ['-', '-'] => .mark
  | '-' :: '-' :: rest =>
    let name := String.ofList (rest.takeWhile (· ≠ '='))
    match rest.dropWhile (· ≠ '=') with
    | '=' :: value => .long name (some (String.ofList value))
    | _ => .long name none
  | '-' :: c :: rest => .short (c :: rest)
  | _ => .plain

/-- The options found so far. -/
structure Progress where
  arguments : Arguments := {}
  seen : List Flag := []

/-- What becomes of a step in reading options. -/
inductive Reading where
  | misused
  | settled (request : Request)
  | more (progress : Progress)
  | pending (progress : Progress) (flag : Flag)

namespace Progress

variable (p : Progress)

/-- Take the value of a flag. -/
def takeValue (flag : Flag) (value : String) : Reading :=
  if flag ∈ p.seen then .misused
  else
    match p.arguments.withValue? value flag with
    | some arguments => .more ⟨arguments, flag :: p.seen⟩
    | none => .misused

/-- Take a flag without a value. -/
def takeFlag (flag : Flag) : Reading :=
  match flag with
  | .help => .settled .help
  | .version => .settled .version
  | _ =>
    if flag ∈ p.seen then .misused else .more ⟨p.arguments.withFlag flag, flag :: p.seen⟩

/-- Take a long flag with the value behind `=`, if any. -/
def takeLong (name : String) (value : Option String) : Reading :=
  match Flag.ofName? name with
  | none => .misused
  | some flag =>
    match value with
    | some value => if flag.takesValue then p.takeValue flag value else .misused
    | none => if flag.takesValue then .pending p flag else p.takeFlag flag

/-- Take options by their letters; what follows the letter of an option with a value is its
value. -/
def takeShort : List Char → Reading
  | [] => .more p
  | c :: rest =>
    match Flag.ofLetter? c with
    | none => .misused
    | some flag =>
      if flag.takesValue then
        match rest with
        | [] => .pending p flag
        | '=' :: value => p.takeValue flag (String.ofList value)
        | value => p.takeValue flag (String.ofList value)
      else p.takeFlag flag

/-- Take the next word. -/
def take : Word → Reading
  | .long name value => p.takeLong name value
  | .short letters => p.takeShort letters
  | .mark | .plain => .misused

end Progress

/-- Read arguments from where reading stands; nothing comes out if they are no request. -/
def requestFrom? : Reading → List String → Option Request
  | .misused, _ => none
  | .settled request, _ => some request
  | .more p, [] => some (.run p.arguments)
  | .more p, s :: rest =>
    match Word.ofString s with
    | .mark => if rest = [] then some (.run p.arguments) else none
    | word => requestFrom? (p.take word) rest
  | .pending _ _, [] => none
  | .pending p flag, s :: rest =>
    match Word.ofString s with
    | .plain => requestFrom? (p.takeValue flag s) rest
    | _ => none

/-- Read all arguments; nothing comes out if they are no request. -/
def request? (arguments : List String) : Option Request :=
  requestFrom? (.more {}) arguments

end PetriCluster.CommandLine
