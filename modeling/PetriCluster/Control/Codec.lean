import PetriCluster.Control.Message

/-!
# The encoding of control messages

A message is written as the number of its alternative, a 32-bit word, followed by its fields in order.
All words are least significant byte first; an optional value is a byte 0, or a byte 1 and the value;
a truth value is a byte 0 or 1.
-/

namespace PetriCluster

namespace Control

/-- A reader that takes a value from the front of the bytes. -/
abbrev Decoder (α : Type) := Bytes → Except DecodeError (α × Bytes)

/-- Four bytes, the lowest first. -/
def putWord32 (n : UInt32) : Bytes := Bytes.littleEndian 4 n.toNat

/-- Eight bytes, the lowest first. -/
def putWord64 (n : UInt64) : Bytes := Bytes.littleEndian 8 n.toNat

/-- One byte. -/
def putBool (b : Bool) : Bytes := [if b then 1 else 0]

/-- A byte that tells whether a name follows. -/
def putNet? : Option NetId → Bytes
  | none => [0]
  | some n => 1 :: putWord32 n.raw

/-- The number of a phase in four bytes. -/
def putPhase : BarrierPhase → Bytes
  | .start => putWord32 0
  | .teardown => putWord32 1

/-- Read a number of so many bytes. -/
def takeNat (width : Nat) : Decoder Nat := fun bytes =>
  if bytes.length < width then .error .endOfInput
  else .ok (Bytes.ofLittleEndian (bytes.take width), bytes.drop width)

/-- Read four bytes. -/
def takeWord32 : Decoder UInt32 := fun bytes => do
  let (n, rest) ← takeNat 4 bytes
  return (UInt32.ofNat n, rest)

/-- Read eight bytes. -/
def takeWord64 : Decoder UInt64 := fun bytes => do
  let (n, rest) ← takeNat 8 bytes
  return (UInt64.ofNat n, rest)

/-- Read a name. -/
def takeNet : Decoder NetId := fun bytes => do
  let (n, rest) ← takeWord32 bytes
  return (⟨n⟩, rest)

/-- Read a process. -/
def takeProcess : Decoder ProcessId := fun bytes => do
  let (n, rest) ← takeWord32 bytes
  return (⟨n⟩, rest)

/-- Read a flag; a byte other than 0 and 1 is refused. -/
def takeBool : Decoder Bool := fun bytes => do
  let (n, rest) ← takeNat 1 bytes
  if n = 0 then return (false, rest)
  else if n = 1 then return (true, rest)
  else throw (.badBool n)

/-- Read a name that may be missing. -/
def takeNet? : Decoder (Option NetId) := fun bytes => do
  let (n, rest) ← takeNat 1 bytes
  if n = 0 then return (none, rest)
  else if n = 1 then
    let (net, rest) ← takeNet rest
    return (some net, rest)
  else throw (.badOption n)

/-- Read a phase; an unknown number is refused. -/
def takePhase : Decoder BarrierPhase := fun bytes => do
  let (n, rest) ← takeNat 4 bytes
  if n = 0 then return (.start, rest)
  else if n = 1 then return (.teardown, rest)
  else throw (.badVariant n 2)

end Control

namespace ControlMessage

open Control

/-- The number of alternatives of a message. -/
def variantCount : Nat := 7

/-- The number of the alternative a message is. -/
def variant : ControlMessage → UInt32
  | spawned .. => 0
  | halted .. => 1
  | haltAck .. => 2
  | quit .. => 3
  | barrier .. => 4
  | probe .. => 5
  | probeReply .. => 6

/-- What follows the number of the alternative. -/
def fields : ControlMessage → Bytes
  | spawned net template parent origin =>
    putWord32 net.raw ++ putWord32 template ++ putNet? parent ++ putWord32 origin.raw
  | halted net origin => putWord32 net.raw ++ putWord32 origin.raw
  | haltAck net sender => putWord32 net.raw ++ putWord32 sender.raw
  | quit origin => putWord32 origin.raw
  | barrier phase sender => putPhase phase ++ putWord32 sender.raw
  | probe wave => putWord64 wave
  | probeReply wave sender snapshot =>
    putWord64 wave ++ putWord32 sender.raw ++ putBool snapshot.idle ++ putWord64 snapshot.sent ++
      putWord64 snapshot.received

/-- A message in bytes. -/
def encode (m : ControlMessage) : Bytes :=
  putWord32 m.variant ++ m.fields

/-- The message at the front of the bytes, and what follows it. -/
def take : Decoder ControlMessage := fun bytes => do
  let (n, rest) ← takeNat 4 bytes
  match n with
  | 0 =>
    let (net, rest) ← takeNet rest
    let (template, rest) ← takeWord32 rest
    let (parent, rest) ← takeNet? rest
    let (origin, rest) ← takeProcess rest
    return (spawned net template parent origin, rest)
  | 1 =>
    let (net, rest) ← takeNet rest
    let (origin, rest) ← takeProcess rest
    return (halted net origin, rest)
  | 2 =>
    let (net, rest) ← takeNet rest
    let (sender, rest) ← takeProcess rest
    return (haltAck net sender, rest)
  | 3 =>
    let (origin, rest) ← takeProcess rest
    return (quit origin, rest)
  | 4 =>
    let (phase, rest) ← takePhase rest
    let (sender, rest) ← takeProcess rest
    return (barrier phase sender, rest)
  | 5 =>
    let (wave, rest) ← takeWord64 rest
    return (probe wave, rest)
  | 6 =>
    let (wave, rest) ← takeWord64 rest
    let (sender, rest) ← takeProcess rest
    let (idle, rest) ← takeBool rest
    let (sent, rest) ← takeWord64 rest
    let (received, rest) ← takeWord64 rest
    return (probeReply wave sender ⟨idle, sent, received⟩, rest)
  | n => throw (.badVariant n variantCount)

/-- The message at the front of the bytes. -/
def decode (bytes : Bytes) : Except DecodeError ControlMessage :=
  (take bytes).map (·.1)

/-- The packet that carries a message (`to_packet`). -/
def toPacket (m : ControlMessage) (source : ProcessId) : Packet :=
  .ofService source m.encode

/-- The message a packet carries (`from_packet`). -/
def ofPacket (p : Packet) : Except RuntimeError ControlMessage :=
  if p.tag ≠ .service then
    .error (.transport (.protocol (.unexpectedTag .service p.tag) none))
  else
    match decode p.body with
    | .ok m => .ok m
    | .error e => .error (.encoding e)

end ControlMessage

end PetriCluster
