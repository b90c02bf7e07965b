import PetriCluster.Process.Lifecycle
import PetriCluster.Transport.Mailbox

/-!
# Clusters in one place

A cluster whose processes all live in one operating-system process and talk through mailboxes. An
operation of one process works on that process, its endpoint, and the mailboxes of all.
-/

namespace PetriCluster

/-- A process of a cluster with its endpoint. -/
structure Member (σ : Type) where
  process : Process σ
  endpoint : Mailbox.Endpoint

/-- The processes of a cluster and what they share. -/
structure Cluster (σ : Type) where
  hub : Mailbox.Hub
  members : List (Member σ)
  storage : Storage
  now : Nat

namespace Cluster

variable {σ α : Type}

/-- The member of the given position in a new cluster. -/
def createMember (hub : Mailbox.Hub) (settings : Settings) (templates : List (Template σ))
    (id : ProcessId) : Except RuntimeError (Member σ) :=
  match Mailbox.Endpoint.create hub id with
  | .error e => .error (.transport e)
  | .ok endpoint =>
    match Process.create settings templates id hub.processCount with
    | .error e => .error e
    | .ok process => .ok ⟨process, endpoint⟩

/-- A cluster of `count` processes that share a hub (`with_processes`). -/
def create (count : Nat) (settings : Settings) (templates : List (Template σ))
    (storage : Storage) : Except RuntimeError (Cluster σ) :=
  match Mailbox.Hub.create count with
  | .error e => .error (.transport e)
  | .ok hub =>
    match (ProcessId.all count).mapM (createMember hub settings templates) with
    | .error e => .error e
    | .ok members => .ok ⟨hub, members, storage, 0⟩

variable (c : Cluster σ)

/-- A process with its end of the hub. -/
def node? (i : Nat) : Option (Node σ Mailbox.Link) :=
  c.members[i]?.map fun m => ⟨m.process, ⟨m.endpoint, c.hub⟩, c.storage, c.now⟩

/-- The cluster after one of its processes has worked. -/
def update (i : Nat) (n : Node σ Mailbox.Link) : Cluster σ where
  hub := n.link.hub
  members := c.members.set i ⟨n.process, n.link.endpoint⟩
  storage := n.storage
  now := n.now

/-- Carry out an operation of a process; nothing happens if there is no such process. -/
def act (i : Nat) (x : NodeM σ Mailbox.Link α) : Option (Except Fault α × Cluster σ) :=
  (c.node? i).map fun n =>
    match x n with
    | .ok a n => (.ok a, c.update i n)
    | .error e n => (.error e, c.update i n)

variable [NetBehaviour σ]

/-- What all processes say of themselves. -/
def reports : List ProcessReport :=
  (List.range c.members.length).filterMap fun i => (c.node? i).map Node.report

/-! ## Runs -/

/-- Take a process one step further on its way to a goal. -/
def advance (goal : Goal) (i : Nat) (stage : Stage σ) : Stage σ × Cluster σ :=
  match c.act i (Node.advance goal stage) with
  | none => (stage, c)
  | some (.ok stage, c) => (stage, c)
  | some (.error (.refused e), c) => (.ended (.error e), c)
  | some (.error (.crashed _), c) =>
    (.ended (.error (.lifecycle (.described "process thread panicked"))), c)

/-- Take the processes from position `i` on one step further (`for_each_concurrently`). -/
def advanceAll (goal : Goal) (c : Cluster σ) (i : Nat) :
    List (Stage σ) → List (Stage σ) × Cluster σ
  | [] => ([], c)
  | stage :: rest =>
    let (stage, c) := c.advance goal i stage
    let (rest, c) := advanceAll goal c (i + 1) rest
    (stage :: rest, c)

/-- What came out, once all processes have ended: the first failure, if there is one. -/
def outcome? : List (Stage σ) → Option (Except RuntimeError Unit)
  | [] => some (.ok ())
  | .ended (.error e) :: rest => (outcome? rest).map fun _ => .error e
  | .ended (.ok ()) :: rest => outcome? rest
  | _ :: _ => none

/-- Take all processes to a goal in at most the given number of rounds, a millisecond each. -/
def driveFrom (goal : Goal) : (rounds : Nat) → List (Stage σ) → Cluster σ →
    Option (Except RuntimeError Unit) × Cluster σ
  | 0, stages, c => (outcome? stages, c)
  | rounds + 1, stages, c =>
    match outcome? stages with
    | some result => (some result, c)
    | none =>
      let (stages, c) := advanceAll goal c 0 stages
      driveFrom goal rounds stages { c with now := c.now + 1 }

/-- Take all processes to a goal; none comes out if the rounds do not suffice. -/
def drive (goal : Goal) (rounds : Nat) : Option (Except RuntimeError Unit) × Cluster σ :=
  driveFrom goal rounds (c.members.map fun _ => .outset) c

end Cluster

end PetriCluster
