import PetriCluster.Bytes
import PetriCluster.Id
import PetriCluster.Json

/-!
# Parts of JSON values

Descriptions of nets and messages are given as objects. A member that is missing, or is not what is
asked for, is taken for its default.
-/

namespace PetriCluster.Json

variable (j : Json) (key : String)

/-- The member of a key; null if there is none. -/
def member : Json :=
  match j with
  | obj members => ((members.find? fun m => m.1 == key).map (·.2)).getD null
  | _ => null

/-- The number a value is. -/
def nat? : Json → Option Nat
  | num n => some n
  | _ => none

/-- The elements of an array. -/
def elements : Json → List Json
  | arr l => l
  | _ => []

/-- The number under a key. -/
def natD (default : Nat) : Nat := (j.member key).nat?.getD default

/-- The word under a key. -/
def word : UInt32 := UInt32.ofNat (j.natD key 0)

/-- The flag under a key. -/
def flag : Bool :=
  match j.member key with
  | bool b => b
  | _ => false

/-- The text under a key. -/
def textD (default : String) : String :=
  match j.member key with
  | str s => s
  | _ => default

/-- The array under a key. -/
def list : List Json := (j.member key).elements

/-- The name under a key. -/
def net? : Option NetId := (j.member key).nat?.map fun n => ⟨UInt32.ofNat n⟩

/-- A member that is a byte string: hexadecimal digits, or a byte and how often it is repeated. -/
def bytes : Bytes :=
  match j.member key with
  | str s => (Bytes.ofHex? s).getD []
  | v => List.replicate (v.natD "len" 0) (UInt8.ofNat (v.natD "fill" 0))

end PetriCluster.Json
