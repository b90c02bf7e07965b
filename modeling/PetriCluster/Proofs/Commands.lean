import PetriCluster.Proofs.Courses
import PetriCluster.Proofs.Obligations

/-!
# Whatever a caller can do

All that can be had of a process, its workers and its end of the transport, step by step: the actions
of `Proofs.Obligations` and what they leave out. Two of the commands are by hand: a caller may send a
packet of its own making to all peers, and may have the process act on a message that nobody sent.
-/

namespace PetriCluster

/-- Something a caller can have done. -/
inductive Command (σ : Type) where
  | act (action : Action σ)
  | drawName
  | activate (net : NetId) (w : WorkerId)
  | noteStopped (net : NetId) (w : WorkerId) (origin : Option ProcessId)
  | noteReclaimed
  | remove (w : WorkerId) (net : NetId)
  | quitAll
  | enterBarrier (phase : BarrierPhase)
  | pollBarrier (phase : BarrierPhase)
  | pollSends
  | broadcast (packet : Packet) (exclude : Option ProcessId)
  | consume (message : ControlMessage)
  | shutdown

namespace Operation

variable {σ τ : Type} [NetBehaviour σ] [Transport τ]

/-- The moments of an operation. -/
def moments : Operation → Node σ τ → List (Moment σ τ)
  | spawn owner template requested parent isGlobal, n =>
    [⟨.spawn owner template requested parent isGlobal, n⟩]
  | spawnInitial template, n =>
    if n.process.id.raw = 0 then [⟨.spawn ⟨0⟩ template none none true, n⟩] else []
  | processMessages w, n => n.messageMoments w
  | fireReady w, n => n.fireReadyMoments w
  | receivePackets limit, n => n.receiveMoments limit
  | runOnce w, n => n.roundMoments w
  | _, _ => []

end Operation

namespace Command

variable {σ τ : Type}

/-- Whether the command brings in packets or messages that no process made. -/
def isByHand : Command σ → Bool
  | broadcast .. | consume _ => true
  | _ => false

/-- Whether the command brings in the news of a net that no process has told. -/
def isRumour : Command σ → Bool
  | broadcast packet _ => packet.message?.any ControlMessage.isSpawn
  | consume message => message.isSpawn
  | _ => false

/-- The name that a caller has chosen for a new net. -/
def chosenName? : Command σ → Option NetId
  | act (.operation op) => op.chosenName?
  | _ => none

/-- The name that a caller draws for a net to come. -/
def drawn? : Command σ → Node σ τ → Option NetId
  | drawName, n => n.process.ids.draw.toOption.map Prod.fst
  | _, _ => none

variable [NetBehaviour σ] [Transport τ]

/-- What a command does. -/
def run : Command σ → NodeM σ τ Unit
  | act action => action.run
  | drawName => do
    let _ ← Node.drawId
  | activate net w => do
    let _ ← Node.activate net w
  | noteStopped net w origin => Node.noteStopped net w origin
  | noteReclaimed => Node.noteReclaimed
  | remove w net =>
    Node.modifyWorker w fun worker => { worker with nets := worker.nets.erase net }
  | quitAll => Node.quitAll
  | enterBarrier phase => Node.enterBarrier phase
  | pollBarrier phase => do
    let _ ← Node.pollBarrier phase
  | pollSends => do
    let _ ← Node.pollSends
  | broadcast packet exclude => do
    let _ ← Node.broadcast packet exclude
  | consume message => Node.handleControl message
  | shutdown => modify fun n => { n with link := Transport.shutdown n.link }

/-- The name that a caller has chosen, if it is used up. -/
def spent? (command : Command σ) (n : Node σ τ) : Option NetId :=
  Node.spent? command.chosenName? (command.run n)

/-- The moments of a command. -/
def moments : Command σ → Node σ τ → List (Moment σ τ)
  | act (.operation op), n => op.moments n
  | pollBarrier phase, n => n.barrierMoments phase
  | _, _ => []

end Command

namespace Cluster

variable {σ : Type}

/-- A command for one of the processes at some time. -/
structure Order (σ : Type) where
  process : Nat
  command : Command σ
  now : Nat

variable [NetBehaviour σ] (c : Cluster σ)

/-- The cluster after an order, however it ends. Nothing happens if there is no such process. -/
def obey (order : Order σ) : Cluster σ :=
  match { c with now := order.now }.node? order.process with
  | some node => c.update order.process (Node.final (order.command.run node))
  | none => c

variable {c} in
/-- An order is carried out by the process that it is for, and the others stay as they are. -/
theorem obey_member {order : Order σ} {i : Nat} {m' : Member σ}
    (hm' : (c.obey order).members[i]? = some m') :
    c.members[i]? = some m' ∨ order.process = i ∧ ∃ m, c.members[i]? = some m ∧
      let node : Node σ Mailbox.Link := ⟨m.process, ⟨m.endpoint, c.hub⟩, c.storage, order.now⟩
      let result := Node.final (order.command.run node)
      m' = ⟨result.process, result.link.endpoint⟩ ∧ (c.obey order).hub = result.link.hub := by
  unfold Cluster.obey at hm' ⊢
  cases hnode : { c with now := order.now }.node? order.process with
  | none =>
    rw [hnode] at hm'
    exact .inl hm'
  | some node =>
    obtain ⟨m, hm, rfl⟩ := Option.map_eq_some_iff.mp hnode
    simp only [hnode, Cluster.update] at hm'
    by_cases hi : order.process = i
    · subst hi
      rw [List.getElem?_set_self (List.getElem?_eq_some_iff.mp hm).1] at hm'
      exact .inr ⟨rfl, m, hm, (Option.some.inj hm').symm, rfl⟩
    · rw [List.getElem?_set_ne hi] at hm'
      exact .inl hm'

/-- The moments of orders that are carried out one after the other, each with the process it is a
moment of. -/
def history (c : Cluster σ) : List (Order σ) → List (Nat × Moment σ Mailbox.Link)
  | [] => []
  | order :: rest =>
    (match { c with now := order.now }.node? order.process with
      | some node => (order.command.moments node).map (order.process, ·)
      | none => []) ++ (c.obey order).history rest

/-- The names that callers have for nets to come after an order, if they had some before. -/
def spareAfter (order : Order σ) (spare : List NetId) : List NetId :=
  match { c with now := order.now }.node? order.process with
  | some node =>
    (order.command.drawn? node).toList ++ spare.filter fun net => order.command.spent? node ≠ some net
  | none => spare

/-- Whether every name that a caller chooses was drawn before and not yet used up: the list holds the
names that callers have. -/
def allocates (c : Cluster σ) (spare : List NetId) : List (Order σ) → Bool
  | [] => true
  | order :: rest =>
    order.command.chosenName?.all spare.contains &&
      (c.obey order).allocates (c.spareAfter order spare) rest

end Cluster

/-! ## Commands run in courses -/

section Runs

variable {σ τ : Type} [NetBehaviour σ] [Transport τ] {naming : NetId → Prop}
  {entering : BarrierPhase → Prop} {n : Node σ τ}

open Node

theorem Operation.runs (op : Operation) (hnaming : ∀ net, op.chosenName? = some net → naming net) :
    Runs naming entering n (op.moments n) (op.run n) := by
  cases op with
  | spawn owner template requested parent isGlobal =>
    exact .before (spawn_runs owner template requested parent isGlobal hnaming) fun _ _ _ =>
      .still rfl rfl
  | spawnInitial template =>
    refine .before ?_ fun _ _ _ => .still rfl rfl
    simp only [Node.spawnInitial, moments, bind_apply, getProcess_apply]
    by_cases hfirst : n.process.id.raw = 0
    · simp only [if_pos hfirst]
      exact .before (spawn_runs _ _ _ _ _ (by simp)) fun _ _ _ => .still rfl rfl
    · simp only [if_neg hfirst]
      exact .still rfl rfl
  | send target parcel => exact sendTokens_runs target parcel
  | multicast targets parcel =>
    exact .before (multicast_runs targets parcel) fun _ _ _ => .still rfl rfl
  | requestFiring net transition => exact requestFiring_runs net transition
  | halt requester net => exact halt_runs requester net
  | migrate w net target => exact migrate_runs w net target
  | processMessages w => exact .before (processMessages_runs w) fun _ _ _ => .still rfl rfl
  | fireReady w => exact .before (fireReady_runs w) fun _ _ _ => .still rfl rfl
  | receivePackets limit => exact .before (receivePackets_runs limit) fun _ _ _ => .still rfl rfl
  | tick => exact tick_runs
  | runOnce w => exact .before (runOnce_runs w) fun _ _ _ => .still rfl rfl

theorem Action.runs (action : Action σ)
    (hnaming : ∀ net, (Command.act action).chosenName? = some net → naming net) :
    Runs naming entering n ((Command.act action).moments n) (action.run n) := by
  cases action with
  | operation op => exact op.runs hnaming
  | post w item => exact post_runs w item
  | handOver made target => exact handOver_runs made target
  | cleanMessages w => exact .before (cleanMessages_runs w) fun _ _ _ => .still rfl rfl
  | startLogs name => exact .before (.still rfl rfl) fun _ _ _ => postEach_runs _
  | stopLogs => exact .before (.still rfl rfl) fun _ _ _ => postEach_runs _

omit [NetBehaviour σ] in
theorem Node.broadcast_apply (packet : Packet) (exclude : Option ProcessId) (n : Node σ τ) :
    ∃ report link targets ws, broadcast packet exclude n = .ok report { n with link } ∧
      Wire.Broadcast packet targets ws ∧ Wired n.link ws link ∧
      report.delivered = ws.countP Wire.isSent := by
  obtain ⟨results, link, ws, hrun, hcast, hwired, hdelivered, -⟩ := forEachTarget_send packet
    ((ProcessId.all n.process.processCount).filter fun t => t ≠ n.process.id ∧ some t ≠ exclude) n
  refine ⟨⟨results⟩, link, _, ws, ?_, hcast, hwired, hdelivered⟩
  simp only [broadcast, bind_apply, getProcess_apply, hrun, pure_apply]

theorem Command.runs (command : Command σ)
    (hnaming : ∀ net, command.chosenName? = some net → naming net)
    (hentering : ∀ phase, command = .enterBarrier phase → entering phase)
    (hhand : command.isByHand = false) (hopen : command ≠ .shutdown) :
    Runs naming entering n (command.moments n) (command.run n) := by
  cases command with
  | act action => exact action.runs hnaming
  | drawName =>
    refine .before ?_ fun _ _ _ => .still rfl rfl
    rw [drawId_apply]
    rcases hdraw : n.process.ids.draw with e | ⟨net, ids⟩
    · exact .still rfl rfl
    · exact .shift (.draw hdraw) .nil
  | activate net w =>
    exact .before (withRegistry_runs fun _ _ => .activate) fun _ _ _ => .still rfl rfl
  | noteStopped net w origin => exact noteStopped_runs net w origin
  | noteReclaimed => exact noteReclaimed_runs
  | remove w net => exact .still rfl rfl
  | quitAll => exact quitAll_runs
  | enterBarrier phase => exact enterBarrier_runs phase (hentering phase rfl)
  | pollBarrier phase => exact .before (pollBarrier_runs phase) fun _ _ _ => .still rfl rfl
  | pollSends => exact .before pollSends_runs fun _ _ _ => .still rfl rfl
  | broadcast | consume => simp [isByHand] at hhand
  | shutdown => exact absurd rfl hopen

end Runs

/-! ## Names that nobody chooses -/

section Requests

variable {σ τ : Type} [NetBehaviour σ]

theorem Course.requested_eq_none [Transport τ] {entering : BarrierPhase → Prop} {f g : Front σ}
    {l k : τ} {ms : List (Moment σ τ)}
    (h : Course (fun _ => False) entering f l ms g k) : ∀ m ∈ ms, m.occasion.requested? = none := by
  induction h with
  | nil => simp
  | shift _ _ _ ih => exact ih
  | @moment m f g h l k j ws ms _ hacts _ _ _ _ ih =>
    intro other hother
    rcases List.mem_cons.mp hother with rfl | hother
    · cases hrequested : other.occasion.requested? with
      | none => rfl
      | some net => exact (hacts.requested net hrequested).elim
    · exact ih other hother

theorem Command.requested_eq_none [Transport τ] {command : Command σ} (n : Node σ τ)
    (hchosen : command.chosenName? = none) :
    ∀ m ∈ command.moments n, m.occasion.requested? = none := by
  by_cases hplain : command.isByHand = false ∧ command ≠ .shutdown
  · have hnaming : ∀ net, command.chosenName? = some net → False := by simp [hchosen]
    have hruns : Node.Runs (fun _ => False) (fun _ => True) n (command.moments n) (command.run n) :=
      command.runs hnaming (fun _ _ => trivial) hplain.1 hplain.2
    exact hruns.requested_eq_none
  · cases command with
    | broadcast | consume | shutdown => simp [moments]
    | _ => simp [isByHand] at hplain

theorem Cluster.requested_eq_none {c : Cluster σ} {orders : List (Order σ)}
    (hchosen : ∀ order ∈ orders, order.command.chosenName? = none) :
    ∀ e ∈ c.history orders, e.2.occasion.requested? = none := by
  induction orders generalizing c with
  | nil => simp [history]
  | cons order rest ih =>
    intro e he
    rcases List.mem_append.mp he with hfirst | hrest
    · cases hnode : { c with now := order.now }.node? order.process with
      | none => simp [hnode] at hfirst
      | some node =>
        rw [hnode] at hfirst
        obtain ⟨m, hm, rfl⟩ := List.mem_map.mp hfirst
        exact order.command.requested_eq_none node (hchosen order (List.mem_cons_self ..)) m hm
    · exact ih (fun o ho => hchosen o (List.mem_cons_of_mem _ ho)) e hrest

end Requests

end PetriCluster
