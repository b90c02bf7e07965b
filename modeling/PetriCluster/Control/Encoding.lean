import PetriCluster.Control.Message
import PetriCluster.Json.Access

/-!
# Control messages as JSON

A message is an object with one member: its kind, and what it says.
-/

namespace PetriCluster

/-- A name that may be missing. -/
def Json.ofNet? (net : Option NetId) : Json := .ofNat? (net.map NetId.index)

/-- The members of a snapshot. -/
def ProbeSnapshot.members (s : ProbeSnapshot) : List (String × Json) :=
  [("idle", .bool s.idle), ("sent", .num s.sent.toNat), ("received", .num s.received.toNat)]

namespace ControlMessage

/-- A message as an object. -/
def toJson : ControlMessage → Json
  | .spawned net template parent origin =>
    .obj [("NetSpawned", .obj [("net", .num net.index), ("def_index", .num template.toNat),
      ("parent", .ofNet? parent), ("origin", .num origin.index)])]
  | .halted net origin =>
    .obj [("NetHalted", .obj [("net", .num net.index), ("origin", .num origin.index)])]
  | .haltAck net sender =>
    .obj [("HaltAck", .obj [("net", .num net.index), ("from", .num sender.index)])]
  | .quit origin => .obj [("Quit", .obj [("origin", .num origin.index)])]
  | .barrier phase sender =>
    .obj [("Barrier", .obj [("phase", .str phase.name), ("from", .num sender.index)])]
  | .probe wave => .obj [("Probe", .obj [("wave", .num wave.toNat)])]
  | .probeReply wave sender snapshot =>
    .obj [("ProbeReply", .obj
      ([("wave", .num wave.toNat), ("from", .num sender.index)] ++ snapshot.members))]

/-- The message of a kind that says what is in an object. -/
def ofKind? (kind : String) (j : Json) : Option ControlMessage :=
  let net : NetId := ⟨j.word "net"⟩
  let origin : ProcessId := ⟨j.word "origin"⟩
  let sender : ProcessId := ⟨j.word "from"⟩
  let wave := UInt64.ofNat (j.natD "wave" 0)
  match kind with
  | "NetSpawned" => some (.spawned net (j.word "def_index") (j.net? "parent") origin)
  | "NetHalted" => some (.halted net origin)
  | "HaltAck" => some (.haltAck net sender)
  | "Quit" => some (.quit origin)
  | "Barrier" =>
    some (.barrier (if j.textD "phase" "" = "Teardown" then .teardown else .start) sender)
  | "Probe" => some (.probe wave)
  | "ProbeReply" =>
    some (.probeReply wave sender ⟨j.flag "idle", UInt64.ofNat (j.natD "sent" 0),
      UInt64.ofNat (j.natD "received" 0)⟩)
  | _ => none

/-- The message an object describes. -/
def ofJson? : Json → Option ControlMessage
  | .obj [(kind, j)] => ofKind? kind j
  | _ => none

end ControlMessage

end PetriCluster
