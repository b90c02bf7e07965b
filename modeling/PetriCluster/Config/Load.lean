import PetriCluster.Config.Decode
import PetriCluster.Config.Merge
import PetriCluster.Toml.Document

/-!
# Loading a layout

A layout comes from a file and from the environment, which overrides the file setting by setting.
The file is a TOML document. A variable belongs to the layout if its name starts with a prefix and
two underscores; each further pair of underscores is a step into a table.
-/

namespace PetriCluster.Config

/-- Why no layout could be loaded. -/
inductive LoadError where
  | unreadable
  | mismatch
  | invalid (fault : LayoutFault)
  | crashed (cause : Crash)
  deriving DecidableEq, Repr

/-- Why nothing was loaded, in words. -/
def LoadError.message : LoadError → String
  | unreadable => "Failed to build configuration"
  | mismatch => "Failed to deserialize configuration"
  | invalid fault => fault.message
  | crashed cause => cause.message

/-! ## The file -/

/-- The end of a file name after its last point, if the name does not start there. -/
def fileExtension? (name : String) : Option String :=
  match name.splitOn "." with
  | [] | [_] | ["", _] => none
  | parts => parts.getLast?

/-- The path beside another one that has the given end added to its name. -/
def withEnding? (path : Path) (ending : String) : Option Path :=
  path.fileName?.map fun name =>
    .ofSteps path.isAbsolute (path.mainSteps.dropLast ++ [.name (name ++ ending)])

/-- The text of a file. -/
def plainText? (storage : Storage) (path : Path) : Option String :=
  match storage.entry? path with
  | some (.file text) => some text
  | _ => none

/-- The text of a settings file, which must be known as one by its ending. A name that names no file
is tried with the ending added. -/
def fileText? (storage : Storage) (name : String) : Option String :=
  let path : Path := ⟨Path.join storage.homeText name⟩
  match plainText? storage path with
  | some text => if path.fileName?.bind fileExtension? = some "toml" then some text else none
  | none => (withEnding? path ".toml").bind (plainText? storage)

/-- The settings in a file. -/
def fileSettings? (storage : Storage) (name : String) : Option (List (String × Value)) := do
  Toml.read? (← fileText? storage name)

/-! ## The environment -/

/-- A whole number of 64 bits with its sign. -/
def integer? (s : String) : Option Int := do
  let (negative, digits) := Binary64.splitSign s.toList
  guard (digits ≠ [] ∧ digits.all Char.isDigit)
  let n : Int := Binary64.digitsValue digits
  let n := if negative then -n else n
  guard (Int64.minValue.toInt ≤ n ∧ n ≤ Int64.maxValue.toInt)
  return n

/-- What the text of a variable stands for: a truth value, a number, or itself. -/
def valueOfText (s : String) : Value :=
  let lower := s.toLower
  if lower = "true" then .bool true
  else if lower = "false" then .bool false
  else
    match integer? s with
    | some n => .int n
    | none =>
      match Binary64.read? s with
      | some x => .float x
      | none => .str s

/-- The setting of a variable, if it is one of the layout. -/
def variableSetting? (start : String) (entry : String × String) : Option (String × Value) :=
  let key := Text.lowercase entry.1
  if key.startsWith start then
    let rest := String.ofList (key.toList.drop start.length)
    some (".".intercalate (rest.splitOn "__"), valueOfText entry.2)
  else none

/-- The settings of the environment under a prefix. -/
def environmentSettings (pfx : String) (environment : List (String × String)) :
    List (String × Value) :=
  environment.filterMap (variableSetting? (Text.lowercase (pfx ++ "__")))

/-! ## Both -/

/-- The prefix of the variables of a layout. -/
def environmentPrefix : String := "PLACENET"

/-- The settings file that is taken if there is one and none is named. -/
def defaultFile : String := "config/placenet.toml"

/-- Settings with others laid over them. -/
def combined (settings above : List (String × Value)) : Except Crash Value := do
  (← (Value.table []).overlay settings).overlay above

/-- Load a layout from a file, if one is named, and from the environment. -/
def load (storage : Storage) (file : Option String) (pfx : String)
    (environment : List (String × String)) : Except LoadError ClusterConfig :=
  let fileSettings := match file with
    | none => some []
    | some name => fileSettings? storage name
  match fileSettings with
  | none => .error .unreadable
  | some settings =>
    match combined settings (environmentSettings pfx environment) with
    | .error cause => .error (.crashed cause)
    | .ok settings =>
      match layout? lenient settings with
      | none => .error .mismatch
      | some c =>
        match c.validate with
        | .error fault => .error (.invalid fault)
        | .ok () => .ok c

end PetriCluster.Config
