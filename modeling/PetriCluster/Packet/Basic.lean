import PetriCluster.Bytes
import PetriCluster.Id

/-!
# Packets

A packet is what one process sends to another: a tag, the process it came from, and a body that the
network does not look into. The body of a token packet starts with three 32-bit words, the place, the
net and the number of tokens, least significant byte first, and goes on with the tokens themselves
(`Packet.ofTokens`, `Packet.tokens?`).
-/

namespace PetriCluster

/-- What the body of a packet holds. -/
inductive PacketTag where
  | tokens
  | service
  deriving DecidableEq, Repr

namespace PacketTag

/-- The byte that stands for a tag on the wire. -/
def toByte : PacketTag → UInt8
  | tokens => 0
  | service => 1

/-- What a tag is called. -/
def name : PacketTag → String
  | tokens => "tokens"
  | service => "service"

end PacketTag

/-- Why bytes or packets cannot be understood. -/
inductive Malformation where
  | unknownTag (byte : UInt8)
  | unexpectedTag (wanted got : PacketTag)
  | shortTokens (length : Nat)
  | shortFrame (length : Nat)
  | oversized (length limit : Nat)
  | undecodable
  | described (text : String)
  deriving DecidableEq, Repr

/-- What is wrong, in words. -/
def Malformation.text : Malformation → String
  | unknownTag byte => s!"Unknown packet tag {byte.toNat}"
  | unexpectedTag wanted got => s!"Expected {wanted.name} packet, got {got.name}"
  | shortTokens length => s!"Token packet too short: {length} bytes"
  | shortFrame length => s!"Frame too short: {length} bytes"
  | oversized length limit => s!"Packet of {length} bytes exceeds maximum frame size {limit}"
  | undecodable => "bincode decoding failed"
  | described text => text

/-- The tag of a byte. -/
def PacketTag.ofByte (byte : UInt8) : Except Malformation PacketTag :=
  if byte = 0 then .ok tokens
  else if byte = 1 then .ok service
  else .error (.unknownTag byte)

/-- Tokens in their serialised form: how many there are, and their bytes. -/
structure TokenBatch where
  count : UInt32
  payload : Bytes
  deriving DecidableEq, Repr

/-- Whether a batch is empty. -/
def TokenBatch.isEmpty (b : TokenBatch) : Bool :=
  b.count == 0

/-- A batch on its way to a place of a net. -/
structure Parcel where
  place : Place
  net : NetId
  batch : TokenBatch
  deriving DecidableEq, Repr

/-- A tagged body travelling from one process to another. -/
structure Packet where
  tag : PacketTag
  source : ProcessId
  body : Bytes
  deriving DecidableEq, Repr

namespace Packet

/-- The length of the words in front of the tokens in a token body. -/
def parcelHeaderLength : Nat := 12

/-- The length of tag and source in front of the body on the wire. -/
def prefixLength : Nat := 5

/-- A parcel in bytes. -/
def parcelBody (p : Parcel) : Bytes :=
  Bytes.littleEndian 4 p.place.toNat ++ Bytes.littleEndian 4 p.net.index ++
    Bytes.littleEndian 4 p.batch.count.toNat ++ p.batch.payload

/-- The packet that carries a parcel (`tokens`). -/
def ofTokens (source : ProcessId) (p : Parcel) : Packet :=
  ⟨.tokens, source, parcelBody p⟩

/-- The packet that carries an encoded control message (`service`). -/
def ofService (source : ProcessId) (body : Bytes) : Packet :=
  ⟨.service, source, body⟩

/-- The parcel in the body of a token packet (`decode_tokens`). -/
def parcel (p : Packet) : Except Malformation Parcel :=
  if p.tag ≠ .tokens then .error (.unexpectedTag .tokens p.tag)
  else if p.body.length < parcelHeaderLength then .error (.shortTokens p.body.length)
  else
    let word := fun k => UInt32.ofNat (Bytes.ofLittleEndian ((p.body.drop (4 * k)).take 4))
    .ok {
      place := word 0
      net := ⟨word 1⟩
      batch := { count := word 2, payload := p.body.drop parcelHeaderLength } }

/-- The number of bytes a packet takes on the wire, its length prefix apart. -/
def wireLength (p : Packet) : Nat :=
  prefixLength + p.body.length

end Packet

end PetriCluster
