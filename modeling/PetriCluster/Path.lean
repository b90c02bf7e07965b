/-!
# Paths

A path is a text that says how to walk to a file: names with slashes between them, where a dot stays
and two dots go back. A path that starts with a slash starts at the root, any other one at the working
directory.
-/

namespace PetriCluster

/-- A step of a path. -/
inductive PathStep where
  | stay
  | back
  | name (s : String)
  deriving DecidableEq, Repr

namespace PathStep

/-- The step that a text without slashes stands for; an empty one is no step. -/
def ofString? (s : String) : Option PathStep :=
  if s = "" then none
  else if s = "." then some stay
  else if s = ".." then some back
  else some (name s)

/-- A step as a text. -/
def toString : PathStep → String
  | stay => "."
  | back => ".."
  | name s => s

end PathStep

/-- How to walk to a file. -/
structure Path where
  text : String
  deriving DecidableEq, Repr

namespace Path

variable (p : Path)

/-- Whether a path starts at the root. -/
def isAbsolute : Bool :=
  p.text.startsWith "/"

/-- Whether a path asks for a directory by the slash at its end. -/
def endsInSlash : Bool :=
  p.text.endsWith "/"

/-- The steps of a path. -/
def steps : List PathStep :=
  (p.text.splitOn "/").filterMap PathStep.ofString?

/-- The steps of a path without those that stay. A path from the working directory may start with
one, though. -/
def mainSteps : List PathStep :=
  match p.isAbsolute, p.steps with
  | false, .stay :: rest => .stay :: rest.filter (· ≠ .stay)
  | _, steps => steps.filter (· ≠ .stay)

/-- The path of some steps. -/
def ofSteps (isAbsolute : Bool) (steps : List PathStep) : Path :=
  ⟨(if isAbsolute then "/" else "") ++ "/".intercalate (steps.map PathStep.toString)⟩

/-- The path to the directory a path lies in; the root lies in none. -/
def parent? : Option Path :=
  match p.mainSteps with
  | [] => none
  | steps => some (ofSteps p.isAbsolute steps.dropLast)

/-- The last name of a path, unless it ends by going back. -/
def fileName? : Option String :=
  match p.mainSteps.getLast? with
  | some (.name s) => some s
  | _ => none

/-- A path and the paths to all directories around it except where it starts, from the inside
out. -/
def andAncestors : List Path :=
  match p.mainSteps with
  | [] => []
  | steps =>
    p :: (List.range (steps.length - 1)).reverse.map fun n =>
      ofSteps p.isAbsolute (steps.take (n + 1))

/-- The path of a name seen from a directory: a name that starts at the root stays what it is. -/
def join (directory name : String) : String :=
  if name.startsWith "/" then name
  else if directory.endsWith "/" ∨ directory = "" then directory ++ name
  else directory ++ "/" ++ name

end Path

end PetriCluster
