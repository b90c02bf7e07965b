import PetriCluster.Number.Binary64

/-!
# Values of settings

What a configuration file or the environment gives for a setting before it is known what the setting
is: nothing, a truth value, a number, a text, a list, or a table of such values.
-/

namespace PetriCluster.Config

/-- A value of a setting. -/
inductive Value where
  | null
  | bool (b : Bool)
  | int (n : Int)
  | float (x : Binary64)
  | str (s : String)
  | list (elements : List Value)
  | table (entries : List (String × Value))
  deriving Inhabited

namespace Value

/-- The value of a name in a list of entries. -/
def lookup (name : String) (entries : List (String × Value)) : Option Value :=
  (entries.find? fun e => e.1 == name).map (·.2)

/-- Put an entry into a list of entries, in place of one of the same name. -/
def store (name : String) (value : Value) : List (String × Value) → List (String × Value)
  | [] => [(name, value)]
  | e :: rest => if e.1 = name then (name, value) :: rest else e :: store name value rest

/-- The entries of a table; none for anything else. -/
def entries : Value → List (String × Value)
  | table es => es
  | _ => []

end Value

end PetriCluster.Config
