import PetriCluster.Cluster.Basic
import PetriCluster.Config.Basic

/-!
# From layouts to processes

A layout for mailboxes describes a whole cluster; a layout for a network describes one process of it.
In either case nothing is built unless the layout is valid.
-/

namespace PetriCluster.ClusterConfig

variable {σ : Type} (c : ClusterConfig)

/-- Check a layout before something is built from it (`validated`). -/
def check : Except RuntimeError Unit :=
  match c.validate with
  | .ok () => .ok ()
  | .error fault => .error (.configuration (.described fault.message none))

/-- The channel of the process a layout describes (`build_transport`). -/
def buildChannel : Except RuntimeError Tcp.Channel :=
  match c.check with
  | .error e => .error e
  | .ok () =>
    match c.backend with
    | .mailbox => .error (.configuration .sharedBackend)
    | .tcp options =>
      match Tcp.Channel.create .isolated (c.tcpSettings options) with
      | .ok channel => .ok channel
      | .error e => .error (.transport e)

/-- The process a layout describes, with its channel (`build_process`). -/
def buildNode (templates : List (Template σ)) (storage : Storage) :
    Except RuntimeError (Node σ Tcp.Channel) :=
  match c.buildChannel with
  | .error e => .error e
  | .ok channel => Node.create c.settings templates channel storage

/-- All processes of a layout, in one place. -/
def buildCluster (templates : List (Template σ)) (storage : Storage) :
    Except RuntimeError (Cluster σ) :=
  match c.check with
  | .error e => .error e
  | .ok () => Cluster.create c.processCount c.settings templates storage

end PetriCluster.ClusterConfig
