import PetriCluster.Net.Behaviour

/-!
# The ring

One token travels around the processes of the cluster. It carries the number of hops it has made,
a 32-bit word, least significant byte first. The copy that holds the token when the limit is reached
halts the net; every other copy hands it on to the next process with the hop counted.
-/

namespace PetriCluster

/-- A copy of the ring. -/
structure Ring where
  id : NetId
  limit : UInt32
  waiting : List UInt32
  forwarded : UInt32
  deriving DecidableEq, Repr

namespace Ring

/-- The hop count in a payload of four bytes (`decode_u32`). -/
def readToken (net : NetId) (payload : Bytes) : Except RuntimeError UInt32 :=
  if payload.length = 4 then .ok (UInt32.ofNat (Bytes.ofLittleEndian payload))
  else .error (.netFailure net s!"expected 4-byte token, got {payload.length}")

/-- The token with the given hop count, on its way to the ring of the given name. -/
def token (net : NetId) (hop : UInt32) : Parcel :=
  ⟨0, net, ⟨1, Bytes.littleEndian 4 hop.toNat⟩⟩

/-- The next process in the ring. -/
def successor (process : ProcessId) (processCount : Nat) : ProcessId :=
  .ofIndex ((process.index + 1) % processCount)

/-- Let the token of a batch wait (`receive_tokens`). -/
def receive (r : Ring) (place : Place) (batch : TokenBatch) : Reception Ring :=
  if place ≠ 0 then .refused r (.netFailure r.id s!"ring has no place {place.toNat}")
  else
    match readToken r.id batch.payload with
    | .ok hop => .accepted { r with waiting := hop :: r.waiting }
    | .error e => .refused r e

/-- Take the latest token: hand it on, or halt the net if it has come far enough. A token that
cannot be handed on is lost. -/
def fire (r : Ring) (context : FireContext) : Firing Ring :=
  match r.waiting with
  | [] => .notEnabled r
  | hop :: waiting =>
    let r := { r with waiting }
    if r.limit ≤ hop then
      .halt fun
        | .ok () => .fired r
        | .error e => .failed r e
    else
      .send (successor context.process context.processCount) (token r.id (hop + 1)) fun
        | .ok () => .fired { r with forwarded := r.forwarded + 1 }
        | .error e => .failed r e

/-- How many tokens were handed on, and how many wait. -/
def report (r : Ring) : Json :=
  .obj [("forwarded", .num r.forwarded.toNat), ("waiting", .num r.waiting.length)]

instance : NetBehaviour Ring where
  id := Ring.id
  transitionCount _ := 1
  receive := receive
  fire r context _ := fire r context
  report := report

/-- The template of rings with the given hop limit; the main copy starts with a fresh token. -/
def template (limit : UInt32) : Template Ring :=
  ⟨"ring", fun c => ⟨c.net, limit, if c.isMain then [0] else [], 0⟩⟩

end Ring

end PetriCluster
