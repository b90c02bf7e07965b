import PetriCluster.Proofs.Contents
import PetriCluster.Proofs.Worlds
import Mathlib

/-!
# No batch of tokens is lost or repeated

A batch that was accepted for a net of some process is in the mailbox of that process, in one of its
inboxes, has been handed to the net, or has been dropped. No step loses a batch or makes a second one of
it (`TokenFlow`), so in every run of a cluster the numbers add up. A batch is dropped only if its net is
not live. When it is handed over, the instance takes it and the worker keeps what comes of it
(`Handover`).
-/

namespace PetriCluster

/-! ## Handing over -/

/-- A worker deals with a batch for a net that it has active. -/
structure Handover (σ τ : Type) where
  worker : WorkerId
  parcel : Parcel
  /-- The instance as the worker finds it. -/
  state : σ
  /-- The node before the worker deals with the batch. -/
  node : Node σ τ

/-- The tokens that are handed over. -/
def TokenEvent.handed? : TokenEvent → Option Parcel
  | handed parcel => some parcel
  | _ => none

section Handover

variable {σ τ α : Type} [NetBehaviour σ] [Transport τ]

/-- The instance that the worker has of the net once it has dealt with the batch. -/
def Handover.kept? (h : Handover σ τ) : Option σ :=
  ((Node.final (Node.dealWith h.worker (.tokens h.parcel) h.node)).process.worker h.worker).nets.find?
    h.parcel.net

namespace Node

/-- The handovers of an item: one if the worker has the net active. -/
def itemHandovers (w : WorkerId) (n : Node σ τ) : WorkItem σ → List (Handover σ τ)
  | .tokens parcel => ((n.process.worker w).nets.find? parcel.net).toList.map (⟨w, parcel, ·, n⟩)
  | _ => []

/-- The batches handed over while a worker deals with items, in order. -/
def handleHandovers (w : WorkerId) : List (WorkItem σ) → Node σ τ → List (Handover σ τ)
  | [], _ => []
  | item :: rest, n =>
    itemHandovers w n item ++
      match dealWith w item n with
      | .ok _ m => handleHandovers w rest m
      | .error _ _ => []

/-- The handovers while a worker deals with its inbox. -/
def messageHandovers (w : WorkerId) (n : Node σ τ) : List (Handover σ τ) :=
  match drainInbox w n with
  | .ok items m => handleHandovers w items m
  | .error _ _ => []

end Node

/-- Batches are handed over only where a worker deals with its inbox. -/
def Operation.handovers : Operation → Node σ τ → List (Handover σ τ)
  | processMessages w, n | runOnce w, n => n.messageHandovers w
  | _, _ => []

namespace Node

variable {n : Node σ τ} {w : WorkerId} {net : NetId} {events : List TokenEvent}
  {result : EStateM.Result Fault (Node σ τ) α} {next : α → Node σ τ → List TokenEvent}

/-- The instance takes the batch, and the worker keeps what comes of it. -/
theorem dealWith_hands {parcel : Parcel} {state : σ}
    (hfound : (n.process.worker w).nets.find? parcel.net = some state) :
    ((final (dealWith w (.tokens parcel) n)).process.worker w).nets.find? parcel.net =
      some (NetBehaviour.receive state parcel.place parcel.batch).state := by
  have hw := Process.lt_of_find?_nets hfound
  simp only [dealWith, complete, handle, handTokens, bind_apply, getWorker_apply, hfound, tallyWorker,
    storeNet, modifyWorker_apply]
  cases NetBehaviour.receive state parcel.place parcel.batch with
  | crashed after c =>
    simp [crash_apply, final, Reception.state, Process.updateWorker, Process.worker, hw]
  | accepted after | refused after e =>
    simp only [record, bind_apply, get_apply, modifyWorker_apply, pure_apply, WorkItem.isObligation,
      reduceIte, completeObligation_apply]
    by_cases hnone : n.process.obligations = 0 <;>
      simp [final, Reception.state, Process.updateWorker, Process.worker, hw, hnone]

omit [NetBehaviour σ] [Transport τ] in
theorem handed_andThen : (andThen events result next).filterMap TokenEvent.handed? =
    events.filterMap TokenEvent.handed? ++ match result with
      | .ok a m => (next a m).filterMap TokenEvent.handed?
      | .error _ _ => [] := by
  unfold andThen
  rw [List.filterMap_append]
  cases result <;> rfl

omit [NetBehaviour σ] [Transport τ] in
theorem andThen_unhanded (h : events.filterMap TokenEvent.handed? = [])
    (hnext : ∀ a m, (next a m).filterMap TokenEvent.handed? = []) :
    (andThen events result next).filterMap TokenEvent.handed? = [] := by
  rw [handed_andThen, h]
  cases result <;> simp [hnext]

omit [NetBehaviour σ] in
theorem sendEvents_unhanded (target : ProcessId) (parcel : Parcel) :
    (sendEvents target parcel n).filterMap TokenEvent.handed? = [] := by
  unfold sendEvents
  split <;> rfl

omit [NetBehaviour σ] in
theorem multicastEvents_unhanded (parcel : Parcel) (targets : List ProcessId) :
    (multicastEvents parcel targets n).filterMap TokenEvent.handed? = [] := by
  induction targets generalizing n with
  | nil => rfl
  | cons target rest ih => exact andThen_unhanded (sendEvents_unhanded ..) fun _ _ => ih

theorem performEvents_unhanded (firing : Firing σ) :
    (performEvents w net firing n).filterMap TokenEvent.handed? = [] := by
  induction firing generalizing n with
  | fired | notEnabled | failed | crashed => rfl
  | send _ _ _ ih => exact andThen_unhanded (sendEvents_unhanded ..) fun r _ => ih r
  | multicast _ _ _ ih => exact andThen_unhanded (multicastEvents_unhanded ..) fun r _ => ih r
  | spawn _ _ _ ih | halt _ ih | haltNet _ _ ih => exact andThen_unhanded rfl fun r _ => ih r
  | quit _ ih => exact andThen_unhanded rfl fun _ _ => ih

theorem fireEachEvents_unhanded (state : σ) (transitions : List TransitionIndex) :
    (fireEachEvents w net state transitions n).filterMap TokenEvent.handed? = [] := by
  induction transitions generalizing n state with
  | nil => rfl
  | cons transition rest ih =>
    rw [fireEachEvents]
    split
    · rfl
    · refine andThen_unhanded (performEvents_unhanded _) fun outcome _ => ?_
      split
      · rfl
      · exact ih _

theorem fireNetsEvents_unhanded (nets : List NetId) (fired : Nat) :
    (fireNetsEvents w nets fired n).filterMap TokenEvent.handed? = [] := by
  induction nets generalizing n fired with
  | nil => rfl
  | cons net rest ih =>
    rw [fireNetsEvents]
    split
    · rfl
    · split
      · exact ih _
      · exact andThen_unhanded (fireEachEvents_unhanded ..) fun _ _ => ih _

theorem receiveEvents_unhanded (limit : Nat) :
    (receiveEvents limit n).filterMap TokenEvent.handed? = [] := by
  induction limit generalizing n with
  | zero => rfl
  | succ limit ih =>
    rw [receiveEvents]
    split
    · refine andThen_unhanded ?_ fun _ _ => ih
      unfold packetEvents
      split
      · simp only
        split <;> rfl
      · rfl
    · rfl

theorem handed_itemEvents (item : WorkItem σ) : (itemEvents w item n).filterMap TokenEvent.handed? =
    (itemHandovers w n item).map (·.parcel) := by
  cases item with
  | tokens parcel =>
    rw [itemEvents, itemHandovers]
    cases (n.process.worker w).nets.find? parcel.net with
    | some state => rfl
    | none =>
      simp only [Option.isSome_none, Bool.false_eq_true, if_false]
      split <;> rfl
  | fire net transition =>
    rw [itemEvents]
    split
    · exact performEvents_unhanded _
    · rfl
  | _ => rfl

/-- By induction on the items: the batches handed over are those of the handovers. -/
theorem handed_handleEvents (items : List (WorkItem σ)) :
    (handleEvents w items n).filterMap TokenEvent.handed? =
      (handleHandovers w items n).map (·.parcel) := by
  induction items generalizing n with
  | nil => rfl
  | cons item rest ih =>
    rw [handleEvents, handleHandovers, handed_andThen, List.map_append, handed_itemEvents]
    cases dealWith w item n with
    | ok _ m => simp only [ih]
    | error => rfl

/-- By induction on the items: the worker has the instance that a handover tells of. -/
theorem handleHandovers_found {h : Handover σ τ} {items : List (WorkItem σ)}
    (hmem : h ∈ n.handleHandovers w items) :
    (h.node.process.worker h.worker).nets.find? h.parcel.net = some h.state := by
  induction items generalizing n with
  | nil => cases hmem
  | cons item rest ih =>
    rw [handleHandovers] at hmem
    rcases List.mem_append.mp hmem with hnow | hlater
    · cases item with
      | tokens parcel =>
        obtain ⟨state, hfound, rfl⟩ := List.mem_map.mp hnow
        exact Option.mem_toList.mp hfound
      | _ => cases hnow
    · split at hlater
      · exact ih hlater
      · cases hlater

theorem handed_messageEvents : (messageEvents w n).filterMap TokenEvent.handed? =
    (messageHandovers w n).map (·.parcel) :=
  handed_handleEvents _

end Node

theorem Operation.handed_events (op : Operation) (n : Node σ τ) :
    (op.events n).filterMap TokenEvent.handed? = (op.handovers n).map (·.parcel) := by
  cases op with
  | send target parcel => exact Node.sendEvents_unhanded target parcel
  | multicast targets parcel => exact Node.multicastEvents_unhanded parcel _
  | processMessages w => exact Node.handed_messageEvents
  | fireReady w => exact Node.fireNetsEvents_unhanded _ 0
  | receivePackets limit => exact Node.receiveEvents_unhanded limit
  | runOnce w =>
    have hlater (m : Node σ τ) : (Node.andThen (m.fireReadyEvents w) (Node.fireReady w m) fun _ k =>
        k.receiveEvents Node.packetBatch).filterMap TokenEvent.handed? = [] :=
      Node.andThen_unhanded (Node.fireNetsEvents_unhanded _ 0) fun _ _ => Node.receiveEvents_unhanded _
    rw [events, Node.roundEvents, Node.handed_andThen, Node.handed_messageEvents, handovers]
    cases Node.processMessages w n <;> simp [hlater]
  | _ => rfl

theorem Operation.hands {op : Operation} {n : Node σ τ} {h : Handover σ τ} (hmem : h ∈ op.handovers n) :
    (h.node.process.worker h.worker).nets.find? h.parcel.net = some h.state := by
  cases op with
  | processMessages w | runOnce w => exact Node.handleHandovers_found hmem
  | _ => cases hmem

end Handover

/-- The batches handed over in a run, each with the process it is handed over at. -/
def Cluster.handovers {σ : Type} [NetBehaviour σ] (c : Cluster σ) :
    List Call → List (ProcessId × Handover σ Mailbox.Link)
  | [] => []
  | call :: rest =>
    (match { c with now := call.now }.node? call.process with
      | some node => (call.operation.handovers node).map (.ofIndex call.process, ·)
      | none => []) ++ match c.after? call with
        | some c => c.handovers rest
        | none => []

/-- How often a batch was handed over at a process in a run. -/
def Cluster.handed {σ : Type} [NetBehaviour σ] (c : Cluster σ) (calls : List Call) (q : ProcessId)
    (parcel : Parcel) : Nat :=
  (c.handovers calls).countP fun e => decide (e.1 = q ∧ e.2.parcel = parcel)

/-! ## Batches and steps -/

/-- The packet carries the parcel. -/
def Packet.isParcelOf (parcel : Parcel) (p : Packet) : Bool :=
  decide (p.parcel? = some parcel)

/-- The item brings the parcel. -/
def WorkItem.isTokensOf {σ : Type} (parcel : Parcel) : WorkItem σ → Bool
  | tokens p => decide (p = parcel)
  | _ => false

namespace TokenEvent

/-- The parcel is accepted for the target. -/
def isAcceptedOf (target : ProcessId) (parcel : Parcel) : TokenEvent → Bool
  | accepted t p => decide (t = target ∧ p = parcel)
  | _ => false

/-- The parcel is handed over. -/
def isHandedOf (parcel : Parcel) : TokenEvent → Bool
  | handed p => decide (p = parcel)
  | _ => false

/-- The parcel is dropped. -/
def isDroppedOf (parcel : Parcel) : TokenEvent → Bool
  | dropped p _ => decide (p = parcel)
  | _ => false

end TokenEvent

namespace Ledger

/-- How often a batch was accepted for a process. -/
def accepted (l : Ledger) (q : ProcessId) (parcel : Parcel) : Nat :=
  l.countP fun e => e.2.isAcceptedOf q parcel

/-- How often a process handed a batch to its net. -/
def handed (l : Ledger) (q : ProcessId) (parcel : Parcel) : Nat :=
  l.countP fun e => decide (e.1 = q) && e.2.isHandedOf parcel

/-- How often the parcel was dropped in the process. -/
def dropped (l : Ledger) (q : ProcessId) (parcel : Parcel) : Nat :=
  l.countP fun e => decide (e.1 = q) && e.2.isDroppedOf parcel

variable (l : Ledger) (events : List TokenEvent) (p q : ProcessId) (parcel : Parcel)

theorem accepted_append : accepted (l ++ events.map (p, ·)) q parcel =
    l.accepted q parcel + events.countP (TokenEvent.isAcceptedOf q parcel) := by
  simp only [accepted, List.countP_append, List.countP_map]
  rfl

theorem handed_append : handed (l ++ events.map (p, ·)) q parcel =
    l.handed q parcel + if p = q then events.countP (TokenEvent.isHandedOf parcel) else 0 := by
  simp only [handed, List.countP_append, List.countP_map]
  split <;> simp_all [Function.comp_def]

theorem dropped_append : dropped (l ++ events.map (p, ·)) q parcel =
    l.dropped q parcel + if p = q then events.countP (TokenEvent.isDroppedOf parcel) else 0 := by
  simp only [dropped, List.countP_append, List.countP_map]
  split <;> simp_all [Function.comp_def]

end Ledger

namespace Scene

variable {σ : Type} {s t : Scene σ} {n : Nat} {i : Fin n} {ws : List Wire} {events : List TokenEvent}

/-- What a step of process `i` does to batches of tokens. -/
structure TokenFlow (i : Fin n) (s : Scene σ) (ws : List Wire) (events : List TokenEvent)
    (t : Scene σ) : Prop where
  balance : ∀ (q : Fin n) parcel,
    (if q = i then t.count (WorkItem.isTokensOf parcel) +
        events.countP (TokenEvent.isHandedOf parcel) + events.countP (TokenEvent.isDroppedOf parcel)
      else 0) + Wire.acceptedFor (.at q) (Packet.isParcelOf parcel) ws =
    (if q = i then s.count (WorkItem.isTokensOf parcel) + Wire.taken (Packet.isParcelOf parcel) ws
      else 0) + events.countP (TokenEvent.isAcceptedOf (.at q) parcel)
  accepted : ∀ target parcel, TokenEvent.accepted target parcel ∈ events → ∃ q : Fin n, target = .at q
  dropped : ∀ parcel live, TokenEvent.dropped parcel live ∈ events → live = false

theorem TokenFlow.quiet
    (hcount : ∀ parcel, t.count (WorkItem.isTokensOf parcel) = s.count (WorkItem.isTokensOf parcel))
    (hws : ∀ w ∈ ws, w.packet.parcel? = none) : TokenFlow i s ws [] t where
  balance q parcel := by
    have hnone w (hw : w ∈ ws) : w.packet.isParcelOf parcel = false := by
      simp [Packet.isParcelOf, hws w hw]
    simp [hcount, Wire.taken_eq_zero hnone, Wire.acceptedFor_eq_zero hnone]
  accepted := by simp
  dropped := by simp

variable [NetBehaviour σ]

variable {mail mail' : Fin n → List Packet}

/-- A send puts its batch into an inbox or on the wire; other requests move none. -/
theorem Asks.tokenFlow {naming : Prop} (h : Asks naming s ws events t) (hn : n < IdSource.wordSize)
    (hs : s.Orderly i) (hex : Exchange i mail ws mail') : TokenFlow i s ws events t := by
  cases h with
  | @sendLocal parcel _ howner =>
    have howner := hs.sound.live_owner howner
    refine ⟨fun q b => ?_, fun target b hmem => ?_, by simp⟩
    · simp only [hs.id, count_post howner, Wire.acceptedFor, Wire.taken, List.countP_cons,
        List.countP_nil, WorkItem.isTokensOf, TokenEvent.isHandedOf, TokenEvent.isDroppedOf,
        TokenEvent.isAcceptedOf, ProcessId.at_eq_iff hn, decide_eq_true_eq]
      by_cases hq : q = i
      · simp [hq]
      · simp [hq, Ne.symm hq]
    · simp only [List.mem_singleton, TokenEvent.accepted.injEq] at hmem
      exact ⟨i, hmem.1.trans hs.id⟩
  | @sendRemote target parcel =>
    obtain ⟨k, rfl, -⟩ := hex.sent target _ (List.mem_singleton_self _)
    refine ⟨fun q b => ?_, fun target b hmem => ?_, by simp⟩
    · simp [Wire.acceptedFor, Wire.isAcceptedFor, Packet.isParcelOf, TokenEvent.isHandedOf,
        TokenEvent.isDroppedOf, TokenEvent.isAcceptedOf]
    · simp only [List.mem_singleton, TokenEvent.accepted.injEq] at hmem
      exact ⟨k, hmem.1⟩
  | sendRefused =>
    exact ⟨fun q b => by simp [Wire.acceptedFor, Wire.isAcceptedFor, Wire.taken, Wire.isTaken],
      by simp, by simp⟩
  | draw => exact .quiet (fun _ => rfl) (by simp)
  | spawn howner _ _ hws =>
    refine .quiet (fun _ => by simp [count_post, howner, WorkItem.isTokensOf]) ?_
    split at hws
    · intro w hw
      simp [hws.packet_eq w hw]
    · simp [hws]
  | halt h =>
    obtain ⟨slot, hslot, rfl, -⟩ := Registry.beginHalt_eq_started h
    have howner := hs.sound.owner_valid _ slot hslot
    exact .quiet (fun _ => by simp [count_post, howner, WorkItem.isTokensOf]) (by simp)

/-- Tokens that are taken in go to the inbox of the owner, or are dropped. -/
theorem Takes.tokenFlow {packet : Packet} (h : Takes s packet ws events t) (hs : s.Sound) :
    TokenFlow i s (.took packet :: ws) events t := by
  cases h with
  | @tokens parcel _ hparcel howner =>
    have howner := hs.live_owner howner
    have hcarried := Packet.parcel?_eq_some.mpr hparcel
    refine ⟨fun q b => ?_, by simp, by simp⟩
    simp [count_post, howner, Wire.taken_took, Wire.acceptedFor, Wire.isAcceptedFor,
      WorkItem.isTokensOf, Packet.isParcelOf, hcarried]
  | @lateTokens parcel hparcel =>
    have hcarried := Packet.parcel?_eq_some.mpr hparcel
    refine ⟨fun q b => ?_, by simp, by simp⟩
    simp [Wire.taken_took, Wire.acceptedFor, Wire.isAcceptedFor, Packet.isParcelOf, hcarried,
      TokenEvent.isHandedOf, TokenEvent.isDroppedOf, TokenEvent.isAcceptedOf]
  | badTokens _ hbad => 
    have hnone : packet.parcel? = none := by simp [Packet.parcel?, hbad, Except.toOption]
    exact .quiet (fun _ => rfl) (by simp [Wire.packet, hnone])
  | spawned hdecode howner =>
    have hnone := Packet.parcel?_of_service (Packet.tag_of_message hdecode)
    refine .quiet (fun _ => ?_) (by simp [Wire.packet, hnone])
    simp [count_post, howner, WorkItem.isTokensOf]
  | spawnRefused hdecode | quit hdecode | reply hdecode =>
    have hnone := Packet.parcel?_of_service (Packet.tag_of_message hdecode)
    exact .quiet (fun _ => rfl) (by simp [Wire.packet, hnone])
  | halted hdecode hbegin =>
    obtain ⟨slot, hslot, rfl, -⟩ := Registry.beginHalt_eq_started hbegin
    have howner := hs.owner_valid _ slot hslot
    have hnone := Packet.parcel?_of_service (Packet.tag_of_message hdecode)
    refine .quiet (fun _ => ?_) (by simp [Wire.packet, hnone])
    simp [count_post, howner, WorkItem.isTokensOf]
  | haltedBefore hdecode hsingle | probe hdecode _ hsingle =>
    have hnone := Packet.parcel?_of_service (Packet.tag_of_message hdecode)
    refine .quiet (fun _ => rfl) ?_
    rcases hsingle with rfl | rfl <;> simp [Wire.packet, hnone]
  | haltAck hdecode =>
    have hnone := Packet.parcel?_of_service (Packet.tag_of_message hdecode)
    exact .quiet (fun _ => count_excuse hs _ 1 rfl) (by simp [Wire.packet, hnone])
  | ignored htag =>
    have hnone := Packet.parcel?_of_service htag
    exact .quiet (fun _ => rfl) (by simp [Wire.packet, hnone])

/-- A batch at hand goes to the net, to another inbox, or is dropped. -/
theorem Deals.tokenFlow {item : WorkItem σ} {rest : List (WorkItem σ)} (h : Deals s item ws events t)
    (hhand : s.hand = item :: rest) (hs : s.Orderly i) :
    TokenFlow i s ws events (t.finish item rest) := by
  have hworker : s.HasWorker s.worker := hs.sound.hand_valid (by simp [hhand])
  cases h with
  | adopt | fired | dropHalt | stopForgotten | reclaim | reclaimRefused =>
    exact .quiet (fun _ => count_finish_of_not hhand rfl) (by simp)
  | @hand parcel state _ =>
    refine ⟨fun q b => ?_, by simp, by simp⟩
    have hcount := count_finish (s := s.setActive s.worker parcel.net
      (some (NetBehaviour.receive state parcel.place parcel.batch).state)) hhand (WorkItem.isTokensOf b)
    rw [count_setActive] at hcount
    rw [← hcount]
    simp [Wire.acceptedFor, WorkItem.isTokensOf, TokenEvent.isHandedOf, TokenEvent.isDroppedOf,
      TokenEvent.isAcceptedOf]
  | reroute _ _ _ _ _ howner =>
    obtain ⟨slot, hslot, rfl⟩ := Registry.owner?_eq_some.mp howner
    have howner := hs.sound.owner_valid _ slot hslot
    refine .quiet (fun b => ?_) (by simp)
    have hcount := count_finish (s := s.post slot.owner item) hhand (WorkItem.isTokensOf b)
    rw [count_post howner] at hcount
    omega
  | @drop parcel _ hgone =>
    have hdead := (hs.accounted parcel.net).not_live hgone
    refine ⟨fun q b => ?_, by simp, by simp [hdead]⟩
    have hcount := count_finish hhand (WorkItem.isTokensOf b)
    rw [← hcount]
    simp [Wire.acceptedFor, WorkItem.isTokensOf, TokenEvent.isHandedOf, TokenEvent.isDroppedOf,
      TokenEvent.isAcceptedOf]
  | @stopCopy m _ state _ _ hsingle =>
    refine .quiet (fun b => ?_) (by rcases hsingle with rfl | rfl <;> simp [Wire.packet])
    rw [count_finish_of_not (hand_stop_post m state (.reclaim m) hhand) rfl]
    simp [count_post, hworker, WorkItem.isTokensOf]
  | @stopLocal m state =>
    refine .quiet (fun b => ?_) (by simp)
    rw [count_finish_of_not (hand_stop_post m state (.reclaim m) hhand) rfl]
    simp [count_post, hworker, WorkItem.isTokensOf]
  | @stopGlobal m state registry _ _ _ hexpect hcast =>
    refine .quiet (fun b => ?_) fun w hw => by simp [hcast.packet_eq w hw]
    obtain ⟨slot, hslot, -, hupdate⟩ := Registry.expectAcks_eq_ok hexpect
    have hsound : (s.setRegistry registry).Sound :=
      hs.sound.setSlot hupdate (hs.sound.owner_valid _ slot hslot)
    rw [count_finish_of_not (by rw [excuse_hand]; exact hhand) rfl,
      count_excuse (hsound.stop s.worker m state) m _ rfl, count_stop, count_setRegistry]
  | log hweight =>
    refine .quiet (fun b => count_finish_of_not hhand ?_) (by simp)
    cases item <;> first | rfl | simp [WorkItem.weight, WorkItem.isObligation] at hweight

/-- One step neither loses a batch nor makes a second one of it. -/
theorem Step.tokenFlow {naming open_ : Prop} (h : Step naming open_ s ws events t)
    (hn : n < IdSource.wordSize) (hs : s.Orderly i) (hex : Exchange i mail ws mail') : TokenFlow i s ws events t := by
  cases h with
  | rest | turn | store | migrateLost => exact .quiet (fun _ => rfl) (by simp)
  | ask _ h => exact h.tokenFlow hn hs hex
  | quit hfarewell => exact .quiet (fun _ => rfl) fun w hw => by simp [hfarewell.packet_eq w hw]
  | take h => exact h.tokenFlow hs.sound
  | drain hhand => exact .quiet (fun _ => count_drain hhand _) (by simp)
  | deal hhand h => exact h.tokenFlow hhand hs
  | probe _ _ hcast => exact .quiet (fun _ => rfl) fun w hw => by simp [hcast.packet_eq w hw]
  | requestFiring _ howner =>
    have howner := hs.sound.live_owner howner
    exact .quiet (fun _ => by simp [count_post howner, WorkItem.isTokensOf]) (by simp)
  | migrate _ _ htarget =>
    exact .quiet (fun _ => by simp [count_post, htarget, WorkItem.isTokensOf]) (by simp)

end Scene

namespace World

variable {n : Nat} {σ : Type} [NetBehaviour σ] {w w' : World n σ} {i : Fin n}
  {events : List TokenEvent} {ledger : Ledger}

/-- Every batch that was accepted is on its way or settled. -/
structure Conserved (w : World n σ) (ledger : Ledger) : Prop where
  size : n < IdSource.wordSize
  orderly : w.Orderly
  balance : ∀ (q : Fin n) parcel, ledger.accepted (.at q) parcel =
    (w.mail q).countP (Packet.isParcelOf parcel) + (w.scene q).count (WorkItem.isTokensOf parcel) +
      ledger.handed (.at q) parcel + ledger.dropped (.at q) parcel
  accepted : ∀ p target parcel, (p, TokenEvent.accepted target parcel) ∈ ledger →
    ∃ q : Fin n, target = .at q
  dropped : ∀ p parcel live, (p, TokenEvent.dropped parcel live) ∈ ledger → live = false

theorem Fresh.conserved (h : w.Fresh) : w.Conserved [] where
  size := h.size
  orderly := h.orderly
  balance q parcel := by
    simp [Ledger.accepted, Ledger.handed, Ledger.dropped, h.mail, (h.scene q).count]
  accepted := by simp
  dropped := by simp

theorem Moves.conserved [LawfulNet σ] (h : w.Moves (Scene.Step True True) i events w')
    (hw : w.Conserved ledger) : w'.Conserved (ledger ++ events.map (ProcessId.at i, ·)) := by
  have horderly := h.orderly hw.orderly
  obtain @⟨ws, _, t, mail, hstep, hex⟩ := h
  have hflow := hstep.tokenFlow hw.size (hw.orderly i) hex
  refine ⟨hw.size, horderly, fun q parcel => ?_, fun p target parcel hmem => ?_,
    fun p parcel live hmem => ?_⟩
  -- What the step says of batches and what the mailboxes say of packets add up to the new balance.
  · have hbalance := hflow.balance q parcel
    have hmail := hex.count q (Packet.isParcelOf parcel)
    have hold := hw.balance q parcel
    rw [Ledger.accepted_append, Ledger.handed_append, Ledger.dropped_append]
    by_cases hq : q = i
    · subst hq
      simp only [if_true, Function.update_self] at *
      omega
    · have hne : ProcessId.at i ≠ ProcessId.at q := fun e => hq (ProcessId.at_inj hw.size e).symm
      simp only [hq, hne, if_false, Function.update_of_ne hq] at *
      omega
  · rcases List.mem_append.mp hmem with hold | hnew
    · exact hw.accepted p target parcel hold
    · obtain ⟨e, he, heq⟩ := List.mem_map.mp hnew
      cases heq
      exact hflow.accepted target parcel he
  · rcases List.mem_append.mp hmem with hold | hnew
    · exact hw.dropped p parcel live hold
    · obtain ⟨e, he, heq⟩ := List.mem_map.mp hnew
      cases heq
      exact hflow.dropped parcel live he

end World

namespace Cluster

variable {σ : Type} [NetBehaviour σ]

theorem countP_isHandedOf (events : List TokenEvent) (parcel : Parcel) :
    events.countP (TokenEvent.isHandedOf parcel) =
      (events.filterMap TokenEvent.handed?).countP fun b => decide (b = parcel) := by
  rw [List.countP_filterMap]
  congr 1
  funext e
  cases e <;> rfl

/-- The events of an operation and its handovers name the same batches in the same order. -/
theorem countP_handed_events (p q : ProcessId) (parcel : Parcel) (op : Operation)
    (node : Node σ Mailbox.Link) :
    ((op.events node).map (p, ·)).countP (fun e => decide (e.1 = q) && e.2.isHandedOf parcel) =
      ((op.handovers node).map (p, ·)).countP fun e => decide (e.1 = q ∧ e.2.parcel = parcel) := by
  simp only [List.countP_map]
  by_cases hp : p = q
  · have hsame := congrArg (List.countP fun b => decide (b = parcel)) (op.handed_events node)
    rw [← countP_isHandedOf, List.countP_map] at hsame
    simpa [hp, Function.comp_def] using hsame
  · simp [hp, Function.comp_def]

/-- The batches that the ledger says are handed over are those of the handovers. -/
theorem handed_ledger (c : Cluster σ) (calls : List Call) (q : ProcessId) (parcel : Parcel) :
    (c.ledger calls).handed q parcel = c.handed calls q parcel := by
  induction calls generalizing c with
  | nil => rfl
  | cons call rest ih =>
    simp only [Ledger.handed, handed] at ih ⊢
    rw [ledger, handovers, List.countP_append, List.countP_append]
    congr 1
    · unfold Cluster.events
      cases { c with now := call.now }.node? call.process with
      | none => rfl
      | some node => exact countP_handed_events ..
    · cases c.after? call with
      | none => rfl
      | some next => exact ih next

/-- Every handover of a run finds the instance that it tells of. -/
theorem handovers_found {c : Cluster σ} {calls : List Call} {p : ProcessId}
    {h : Handover σ Mailbox.Link} (hmem : (p, h) ∈ c.handovers calls) :
    (h.node.process.worker h.worker).nets.find? h.parcel.net = some h.state := by
  induction calls generalizing c with
  | nil => cases hmem
  | cons call rest ih =>
    rw [handovers] at hmem
    rcases List.mem_append.mp hmem with hnow | hlater
    · split at hnow
      · obtain ⟨other, hother, heq⟩ := List.mem_map.mp hnow
        cases heq
        exact Operation.hands hother
      · cases hnow
    · split at hlater
      · exact ih hlater
      · cases hlater

end Cluster

variable {σ : Type} [NetBehaviour σ]

/-- In every run of a cluster, as many batches as were accepted for a process are in its mailbox, are in
its inboxes, have been handed over there or have been dropped. Whenever a batch is handed over, the
worker has an instance of its net, the instance takes just this batch, and the worker keeps what comes of
it. Batches are accepted only for processes of the cluster, and dropped only if their nets are not
live. -/
theorem token_batches_are_conserved [LawfulNet σ] {n : Nat} {settings : Settings}
    {templates : List (Template σ)} {storage : Storage} {start c : Cluster σ}
    {calls : List Cluster.Call} (hcreate : Cluster.create n settings templates storage = .ok start)
    (hcalls : start.follow? calls = some c) :
    (∀ q < n, ∀ parcel, (start.ledger calls).accepted (.ofIndex q) parcel =
      c.mailed q (Packet.isParcelOf parcel) + c.queued q (WorkItem.isTokensOf parcel) +
        start.handed calls (.ofIndex q) parcel + (start.ledger calls).dropped (.ofIndex q) parcel) ∧
    (∀ p h, (p, h) ∈ start.handovers calls →
      (h.node.process.worker h.worker).nets.find? h.parcel.net = some h.state ∧
      h.kept? = some (NetBehaviour.receive h.state h.parcel.place h.parcel.batch).state) ∧
    (∀ p target parcel, (p, TokenEvent.accepted target parcel) ∈ start.ledger calls →
      ∃ q < n, target = .ofIndex q) ∧
    ∀ p parcel live, (p, TokenEvent.dropped parcel live) ∈ start.ledger calls → live = false := by
  obtain ⟨w, hshows, hfresh⟩ := Cluster.create_shows hcreate
  obtain ⟨w, hshows, hw⟩ := Cluster.follow?_invariant (I := World.Conserved) hfresh.size
    (fun _ _ hw i => (hw.orderly i).sound) (fun _ _ _ _ _ hmove hw => hmove.conserved hw)
    (fun _ _ _ => trivial) hshows [] hfresh.conserved hcalls
  rw [List.nil_append] at hw
  refine ⟨fun q hq parcel => ?_, fun p h hmem => ?_, fun p target parcel hmem => ?_, hw.dropped⟩
  · rw [hshows.mailed ⟨q, hq⟩, hshows.queued ⟨q, hq⟩, ← Cluster.handed_ledger]
    exact hw.balance ⟨q, hq⟩ parcel
  · have hfound := Cluster.handovers_found hmem
    exact ⟨hfound, Node.dealWith_hands hfound⟩
  · obtain ⟨q, hq⟩ := hw.accepted p target parcel hmem
    exact ⟨q, q.isLt, hq⟩

/-- Of four batches that process 0 has sent to a net of process 1, one came before the net was made and
has been dropped, one has been handed over, one is in an inbox and one is in the mailbox. The net counts
the tokens of the one that it has taken. -/
theorem token_batches_are_conserved_after_sends :
    let program : Script.Program := ⟨"store", [], [], []⟩
    let parcel : Parcel := ⟨3, ⟨1⟩, ⟨2, []⟩⟩
    let call (process : Nat) (operation : Operation) : Cluster.Call := ⟨process, operation, 0⟩
    let calls := [call 0 (.send ⟨1⟩ parcel), call 1 (.receivePackets 1),
      call 1 (.spawn ⟨0⟩ 0 none none false), call 1 (.processMessages ⟨0⟩), call 0 (.send ⟨1⟩ parcel),
      call 0 (.send ⟨1⟩ parcel), call 0 (.send ⟨1⟩ parcel), call 1 (.receivePackets 1),
      call 1 (.processMessages ⟨0⟩), call 1 (.receivePackets 1)]
    ∃ start c : Cluster Script, ∃ h,
      Cluster.create 2 ⟨1, false, 0, 0, none⟩ [Script.template program] (.create []) = .ok start ∧
      start.follow? calls = some c ∧
      c.mailed 1 (Packet.isParcelOf parcel) = 1 ∧ c.queued 1 (WorkItem.isTokensOf parcel) = 1 ∧
      (start.ledger calls).dropped ⟨1⟩ parcel = 1 ∧ start.handovers calls = [(⟨1⟩, h)] ∧
      h.parcel = parcel ∧ h.state.marking.count 3 = 0 ∧
      h.kept?.map (·.marking.count 3) = some 2 ∧
      h.kept? = some (NetBehaviour.receive h.state h.parcel.place h.parcel.batch).state ∧
      (start.ledger calls).accepted ⟨1⟩ parcel = 4 := by
  intro program parcel call calls
  obtain ⟨start, hcreate, hcounts, hdropped, hviews⟩ : ∃ start : Cluster Script,
      Cluster.create 2 ⟨1, false, 0, 0, none⟩ [Script.template program] (.create []) = .ok start ∧
      (start.follow? calls).map (fun c =>
        (c.mailed 1 (Packet.isParcelOf parcel), c.queued 1 (WorkItem.isTokensOf parcel))) = some (1, 1) ∧
      (start.ledger calls).dropped ⟨1⟩ parcel = 1 ∧
      (start.handovers calls).map (fun e => (e.1, e.2.parcel, e.2.state.marking.count 3,
        e.2.kept?.map (·.marking.count 3))) = [(⟨1⟩, parcel, 0, some 2)] :=
    ⟨_, rfl, by cbv, by cbv, by cbv⟩
  obtain ⟨c, hc, hpair⟩ := Option.map_eq_some_iff.mp hcounts
  obtain ⟨hmailed, hqueued⟩ := Prod.mk.inj hpair
  obtain ⟨⟨p, h⟩, hhandovers, hview⟩ := List.map_eq_singleton_iff.mp hviews
  simp only [Prod.mk.injEq] at hview
  obtain ⟨rfl, hparcel, hstate, hkept⟩ := hview
  obtain ⟨hbalance, hhanded, -⟩ := token_batches_are_conserved hcreate hc
  have hone : start.handed calls ⟨1⟩ parcel = 1 := by simp [Cluster.handed, hhandovers, hparcel]
  refine ⟨start, c, h, hcreate, hc, hmailed, hqueued, hdropped, hhandovers, hparcel, hstate, hkept,
    (hhanded ⟨1⟩ h (by simp [hhandovers])).2, ?_⟩
  have haccepted := hbalance 1 (by decide) parcel
  rw [hmailed, hqueued] at haccepted
  exact haccepted.trans (congrArg₂ (1 + 1 + · + ·) hone hdropped)

end PetriCluster
