import PetriCluster.Json.Access
import PetriCluster.Net.Catalogue

/-!
# Templates from descriptions

A template is described by an object that names its kind. A script is described with its marking, the
places it keeps closed, and its transitions with what they take and do.
-/

namespace PetriCluster

namespace Script

/-- Places with numbers. -/
def pairsOf (j : Json) (key : String) : List (Place × Nat) :=
  (j.list key).map fun e =>
    ((UInt32.ofNat ((e.elements[0]?.bind Json.nat?).getD 0)), (e.elements[1]?.bind Json.nat?).getD 0)

/-- The net an action is about; the net itself unless another is named. -/
def NetRef.ofJson : Json → NetRef
  | .str "parent" => .parent
  | .str "child" => .child
  | .num n => .named ⟨UInt32.ofNat n⟩
  | _ => .self

/-- The action an object describes. -/
def Action.ofJson (j : Json) : Action :=
  let target : ProcessId := ⟨j.word "target"⟩
  let net := NetRef.ofJson (j.member "net")
  let place := j.word "place"
  let payload := j.bytes "payload"
  match j.textD "a" "" with
  | "send" => .send target net place ⟨1, payload⟩
  | "multisend" => .send target net place ⟨j.word "tokens", payload⟩
  | "multicast" =>
    .multicast ((j.list "targets").map fun p => ⟨UInt32.ofNat (p.nat?.getD 0)⟩) net place
      ⟨UInt32.ofNat (j.natD "tokens" 1), payload⟩
  | "spawn" => .spawn (j.natD "def" 0) (j.flag "global")
  | "halt" => .halt
  | "halt_net" => .haltNet net
  | "quit" => .quit
  | "info" => .info
  | "fail" => .fail (j.textD "message" "")
  | "panic" => .breakDown
  | name => .unknown name

/-- The transition an object describes. -/
def Transition.ofJson (j : Json) : Transition where
  needs := pairsOf j "needs"
  limit := (j.member "limit").nat?
  mainOnly := j.flag "main"
  strict := j.flag "strict"
  actions := (j.list "actions").map Action.ofJson

/-- The script an object describes. -/
def Program.ofJson (j : Json) : Program where
  name := j.textD "name" "script"
  initial := pairsOf j "init"
  rejected := (j.list "reject").map fun p => p.nat?.getD 0
  transitions := (j.list "transitions").map Transition.ofJson

end Script

/-- A template; one of an unknown kind makes bare nets. -/
def StockNet.ofJson (j : Json) : Template StockNet :=
  match j.textD "kind" "" with
  | "ring" => ring (j.word "rounds")
  | "broadcast" => broadcast (j.word "rounds")
  | "script" => script (Script.Program.ofJson j)
  | _ => bare

end PetriCluster
