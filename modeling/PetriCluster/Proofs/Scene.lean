import PetriCluster.Worker.Step
import Mathlib.Logic.Function.Basic
import Mathlib.Tactic.Simps.Basic

/-!
# What a process does, in small steps

An operation of a process is a program, and its effect on the process is spread over the functions the
program calls. For statements about all runs the effect is told here a second time, as a relation
between scenes. A `Scene` is what matters of a process for the life of its nets and for the end of a
run, together with the items that one of its workers has taken out of the inbox and not dealt with
yet.
-/

namespace PetriCluster

/-- What passes between a process and its transport. -/
inductive Wire where
  | took (packet : Packet)
  | sent (target : ProcessId) (packet : Packet)
  | refused (target : ProcessId) (packet : Packet)
  deriving DecidableEq

/-- What becomes of a batch of tokens. -/
inductive TokenEvent where
  | accepted (target : ProcessId) (parcel : Parcel)
  | handed (parcel : Parcel)
  | dropped (parcel : Parcel) (live : Bool)
  deriving DecidableEq

/-- The instances a firing can end in. -/
inductive Firing.Ends {σ : Type} : Firing σ → σ → Prop
  | fired (s : σ) : Ends (.fired s) s
  | notEnabled (s : σ) : Ends (.notEnabled s) s
  | failed (s : σ) (e : RuntimeError) : Ends (.failed s e) s
  | crashed (s : σ) (c : Crash) : Ends (.crashed s c) s
  | send {target : ProcessId} {parcel : Parcel} {next : Except RuntimeError Unit → Firing σ} {s : σ}
      (r : Except RuntimeError Unit) : Ends (next r) s → Ends (.send target parcel next) s
  | multicast {targets : List ProcessId} {parcel : Parcel} {next : MulticastReport → Firing σ} {s : σ}
      (r : MulticastReport) : Ends (next r) s → Ends (.multicast targets parcel next) s
  | spawn {template : Nat} {isGlobal : Bool} {next : Except RuntimeError NetId → Firing σ} {s : σ}
      (r : Except RuntimeError NetId) : Ends (next r) s → Ends (.spawn template isGlobal next) s
  | halt {next : Except RuntimeError Unit → Firing σ} {s : σ} (r : Except RuntimeError Unit) :
      Ends (next r) s → Ends (.halt next) s
  | haltNet {net : NetId} {next : Except RuntimeError Unit → Firing σ} {s : σ}
      (r : Except RuntimeError Unit) : Ends (next r) s → Ends (.haltNet net next) s
  | quit {next : Firing σ} {s : σ} : Ends next s → Ends (.quit next) s

/-- The crashes a firing can end in. -/
inductive Firing.Crashes {σ : Type} (c : Crash) : Firing σ → Prop
  | crashed (s : σ) : Crashes c (.crashed s c)
  | send {target : ProcessId} {parcel : Parcel} {next : Except RuntimeError Unit → Firing σ}
      (r : Except RuntimeError Unit) : Crashes c (next r) → Crashes c (.send target parcel next)
  | multicast {targets : List ProcessId} {parcel : Parcel} {next : MulticastReport → Firing σ}
      (r : MulticastReport) : Crashes c (next r) → Crashes c (.multicast targets parcel next)
  | spawn {template : Nat} {isGlobal : Bool} {next : Except RuntimeError NetId → Firing σ}
      (r : Except RuntimeError NetId) : Crashes c (next r) → Crashes c (.spawn template isGlobal next)
  | halt {next : Except RuntimeError Unit → Firing σ} (r : Except RuntimeError Unit) :
      Crashes c (next r) → Crashes c (.halt next)
  | haltNet {net : NetId} {next : Except RuntimeError Unit → Firing σ} (r : Except RuntimeError Unit) :
      Crashes c (next r) → Crashes c (.haltNet net next)
  | quit {next : Firing σ} : Crashes c next → Crashes c (.quit next)

/-- Whether a net can crash in some way of its own accord. -/
def NetBehaviour.CanCrash (σ : Type) [NetBehaviour σ] (c : Crash) : Prop :=
  (∃ (state after : σ) (place : Place) (batch : TokenBatch),
    NetBehaviour.receive state place batch = .crashed after c) ∨
  ∃ (state : σ) (context : FireContext) (transition : TransitionIndex),
    (NetBehaviour.fire state context transition).Crashes c

/-- All processes but one. -/
def ProcessId.peers (id : ProcessId) (processCount : Nat) : List ProcessId :=
  (ProcessId.all processCount).filter (· ≠ id)

/-- A new net gets a name: it is drawn, or a caller who may do so has chosen it. -/
inductive IdSource.Allots (naming : Prop) (ids : IdSource) (net : NetId) : IdSource → Prop
  | drawn {ids' : IdSource} : ids.draw = .ok (net, ids') → Allots naming ids net ids'
  | chosen : naming → Allots naming ids net ids

theorem IdSource.Allots.draw_eq {ids ids' : IdSource} {net : NetId} (h : ids.Allots False net ids') :
    ids.draw = .ok (net, ids') := by
  cases h with
  | drawn hdraw => exact hdraw
  | chosen hfalse => exact hfalse.elim

namespace Wire

/-- A packet goes out to each target, and the transport accepts or refuses each time. -/
inductive Broadcast (packet : Packet) : List ProcessId → List Wire → Prop
  | nil : Broadcast packet [] []
  | sent {target : ProcessId} {targets : List ProcessId} {ws : List Wire} :
      Broadcast packet targets ws → Broadcast packet (target :: targets) (.sent target packet :: ws)
  | refused {target : ProcessId} {targets : List ProcessId} {ws : List Wire} :
      Broadcast packet targets ws → Broadcast packet (target :: targets) (.refused target packet :: ws)

/-- A packet is sent, or refused. -/
def Single (target : ProcessId) (packet : Packet) (ws : List Wire) : Prop :=
  ws = [.sent target packet] ∨ ws = [.refused target packet]

/-- The packet was sent. -/
def isSent : Wire → Bool
  | sent .. => true
  | _ => false

/-- The packet was refused. -/
def isRefused : Wire → Bool
  | refused .. => true
  | _ => false

end Wire

/-- What matters of a process for the life of its nets and the end of the run. -/
structure Scene (σ : Type) where
  id : ProcessId
  processCount : Nat
  threads : Nat
  workerCount : Nat
  templates : List (Template σ)
  ids : IdSource
  registry : Registry
  inboxes : List (List (WorkItem σ))
  obligations : Nat
  active : WorkerId → NetId → Option σ
  halting : WorkerId → NetId → Option σ
  termination : Termination
  quitting : Bool
  quitSent : Bool
  worker : WorkerId
  /-- The items it has taken out of its inbox and not dealt with. -/
  hand : List (WorkItem σ)

namespace Scene

variable {σ : Type}

/-- There is such a worker. -/
def HasWorker (s : Scene σ) (w : WorkerId) : Prop :=
  w.index < s.inboxes.length

/-- The items that wait for a worker. -/
def inbox (s : Scene σ) (w : WorkerId) : List (WorkItem σ) :=
  s.inboxes[w.index]?.getD []

/-- The other processes. -/
def peers (s : Scene σ) : List ProcessId :=
  s.id.peers s.processCount

/-- Whether some worker has an active instance. -/
def Firing (s : Scene σ) : Prop :=
  ∃ w net, (s.active w net).isSome

/-- Nothing is registered and nothing is owed. -/
def Passive (s : Scene σ) : Prop :=
  s.registry.isDrained = true ∧ s.obligations = 0

/-- The peers hear of the halt of a net: it is global, and there are peers. -/
def Announces (s : Scene σ) (net : NetId) : Prop :=
  (∃ slot, s.registry.slot? net = some slot ∧ slot.isGlobal = true) ∧ 1 < s.processCount

/-- Change the registry. -/
@[simps] def setRegistry (s : Scene σ) (registry : Registry) : Scene σ :=
  { s with registry }

/-- Change the counters of work packets. -/
@[simps] def setTermination (s : Scene σ) (termination : Termination) : Scene σ :=
  { s with termination }

/-- Change the supply of names. -/
@[simps] def setIds (s : Scene σ) (ids : IdSource) : Scene σ :=
  { s with ids }

/-- Put an item into an inbox. -/
@[simps] def post (s : Scene σ) (w : WorkerId) (item : WorkItem σ) : Scene σ :=
  { s with
    obligations := s.obligations + item.weight
    inboxes := s.inboxes.modify w.index (· ++ [item]) }

/-- Change what a worker has active under a name. -/
@[simps] def setActive (s : Scene σ) (w : WorkerId) (net : NetId) (state : Option σ) : Scene σ :=
  { s with active := Function.update s.active w (Function.update (s.active w) net state) }

/-- Change what a worker has stopped under a name. -/
@[simps] def setHalting (s : Scene σ) (w : WorkerId) (net : NetId) (state : Option σ) : Scene σ :=
  { s with halting := Function.update s.halting w (Function.update (s.halting w) net state) }

/-- An active instance is put aside. -/
@[simps!] def stop (s : Scene σ) (w : WorkerId) (net : NetId) (state : σ) : Scene σ :=
  (s.setActive w net none).setHalting w net (some state)

/-- Another worker is at work. -/
@[simps] def turnTo (s : Scene σ) (w : WorkerId) : Scene σ :=
  { s with worker := w }

/-- The worker takes all items out of its inbox. -/
@[simps] def drain (s : Scene σ) : Scene σ :=
  { s with
    hand := s.inbox s.worker
    inboxes := s.inboxes.set s.worker.index [] }

/-- An item has been dealt with. -/
@[simps] def finish (s : Scene σ) (item : WorkItem σ) (rest : List (WorkItem σ)) : Scene σ :=
  { s with hand := rest, obligations := s.obligations - item.weight }

/-- What is at the hand is lost. -/
@[simps] def letGo (s : Scene σ) : Scene σ :=
  { s with hand := [] }

/-- The process is told to stop. -/
@[simps] def heed (s : Scene σ) : Scene σ :=
  { s with quitting := true }

/-- The process ends the run. -/
@[simps] def quit (s : Scene σ) : Scene σ :=
  { s with quitting := true, quitSent := true }

/-- Count an acknowledgment, if one is expected; the last one has the net released. -/
def countAck (s : Scene σ) (net : NetId) : Scene σ :=
  match s.registry.acknowledge net with
  | .error _ => s
  | .ok (.waiting _, registry) => s.setRegistry registry
  | .ok (.complete owner, registry) => (s.setRegistry registry).post owner (.reclaim net)

/-- Failed sends count as acknowledgments. -/
def excuse (s : Scene σ) (net : NetId) : Nat → Scene σ
  | 0 => s
  | count + 1 => (s.countAck net).excuse net count

/-- What the transport is told when the run ends: nothing if it was told before. -/
def Farewell (s : Scene σ) (ws : List Wire) : Prop :=
  if s.quitSent then ws = []
  else Wire.Broadcast ((ControlMessage.quit s.id).toPacket s.id) s.peers ws

variable [NetBehaviour σ]

/-- A request of a net, or of a caller from outside, is carried out. If `naming` holds, callers may
choose the names of nets. -/
inductive Asks (naming : Prop) : Scene σ → List Wire → List TokenEvent → Scene σ → Prop
  | sendLocal {s : Scene σ} {parcel : Parcel} {owner : WorkerId} :
      s.registry.liveOwner? parcel.net = some owner →
      Asks naming s [] [.accepted s.id parcel] (s.post owner (.tokens parcel))
  | sendRemote {s : Scene σ} {target : ProcessId} {parcel : Parcel} : target ≠ s.id →
      Asks naming s [.sent target (.ofTokens s.id parcel)] [.accepted target parcel]
        (s.setTermination (s.termination.recordSent 1))
  | sendRefused {s : Scene σ} {target : ProcessId} {parcel : Parcel} : target ≠ s.id →
      Asks naming s [.refused target (.ofTokens s.id parcel)] [] s
  | draw {s : Scene σ} {net : NetId} {ids : IdSource} : s.ids.draw = .ok (net, ids) →
      Asks naming s [] [] (s.setIds ids)
  | spawn {s : Scene σ} {owner : WorkerId} {index : Nat} {net : NetId} {parent : Option NetId}
      {isGlobal : Bool} {registry : Registry} {made : σ} {ws : List Wire} {ids : IdSource} :
      s.HasWorker owner →
      s.registry.insert net index owner parent isGlobal = .ok registry →
      NetBehaviour.id made = net →
      (if isGlobal ∧ 1 < s.processCount then
        Wire.Broadcast ((ControlMessage.spawned net (UInt32.ofNat index) parent s.id).toPacket s.id)
          s.peers ws
      else ws = []) →
      s.ids.Allots naming net ids →
      Asks naming s ws [] ((((s.setRegistry registry).setTermination
        (s.termination.recordSent (ws.countP Wire.isSent))).setIds ids).post owner (.adopt made))
  | halt {s : Scene σ} {net : NetId} {owner : WorkerId} {isGlobal : Bool} {registry : Registry} :
      s.registry.beginHalt net = .ok (.started owner isGlobal, registry) →
      Asks naming s [] [] ((s.setRegistry registry).post owner (.halt net none))

/-- A message that the process only takes note of. -/
def isTalk : ControlMessage → Bool
  | .barrier .. | .probe .. | .probeReply .. => true
  | _ => false

/-- A packet is acted on. -/
inductive Takes : Scene σ → Packet → List Wire → List TokenEvent → Scene σ → Prop
  | tokens {s : Scene σ} {packet : Packet} {parcel : Parcel} {owner : WorkerId} :
      packet.parcel = .ok parcel → s.registry.liveOwner? parcel.net = some owner →
      Takes s packet [] []
        ((s.setTermination s.termination.recordReceived).post owner (.tokens parcel))
  | lateTokens {s : Scene σ} {packet : Packet} {parcel : Parcel} :
      packet.parcel = .ok parcel → s.registry.liveOwner? parcel.net = none →
      Takes s packet [] [.dropped parcel false]
        (s.setTermination s.termination.recordReceived)
  | badTokens {s : Scene σ} {packet : Packet} {e : Malformation} :
      packet.tag = .tokens → packet.parcel = .error e →
      Takes s packet [] [] (s.setTermination s.termination.recordReceived)
  | spawned {s : Scene σ} {packet : Packet} {net : NetId} {template : UInt32} {parent : Option NetId}
      {origin : ProcessId} {owner : WorkerId} {registry : Registry} {made : σ} :
      ControlMessage.ofPacket packet = .ok (.spawned net template parent origin) →
      s.HasWorker owner → s.registry.insert net template.toNat owner parent true = .ok registry →
      NetBehaviour.id made = net →
      Takes s packet [] [] (((s.setRegistry registry).setTermination
        s.termination.recordReceived).post owner (.adopt made))
  | spawnRefused {s : Scene σ} {packet : Packet} {net : NetId} {template : UInt32}
      {parent : Option NetId} {origin : ProcessId} :
      ControlMessage.ofPacket packet = .ok (.spawned net template parent origin) →
      Takes s packet [] [] (s.setTermination s.termination.recordReceived)
  | halted {s : Scene σ} {packet : Packet} {net : NetId} {origin : ProcessId} {owner : WorkerId}
      {isGlobal : Bool} {registry : Registry} :
      ControlMessage.ofPacket packet = .ok (.halted net origin) →
      s.registry.beginHalt net = .ok (.started owner isGlobal, registry) →
      Takes s packet [] [] ((s.setRegistry registry).post owner (.halt net (some origin)))
  | haltedBefore {s : Scene σ} {packet : Packet} {net : NetId} {origin : ProcessId} {ws : List Wire} :
      ControlMessage.ofPacket packet = .ok (.halted net origin) →
      Wire.Single origin ((ControlMessage.haltAck net s.id).toPacket s.id) ws →
      (∀ owner isGlobal registry, s.registry.beginHalt net ≠ .ok (.started owner isGlobal, registry)) →
      Takes s packet ws [] s
  | haltAck {s : Scene σ} {packet : Packet} {net : NetId} {sender : ProcessId} :
      ControlMessage.ofPacket packet = .ok (.haltAck net sender) →
      Takes s packet [] [] (s.countAck net)
  | quit {s : Scene σ} {packet : Packet} {origin : ProcessId} :
      ControlMessage.ofPacket packet = .ok (.quit origin) →
      Takes s packet [] [] s.heed
  | ignored {s : Scene σ} {packet : Packet} : packet.tag = .service →
      (∀ message, ControlMessage.ofPacket packet = .ok message → isTalk message) →
      Takes s packet [] [] s
  | probe {s : Scene σ} {packet : Packet} {wave : UInt64} {idle : Bool} {ws : List Wire} :
      ControlMessage.ofPacket packet = .ok (.probe wave) → (idle = true → s.Passive) →
      Wire.Single ⟨0⟩
        ((ControlMessage.probeReply wave s.id (s.termination.snapshot idle)).toPacket s.id) ws →
      Takes s packet ws [] s
  | reply {s : Scene σ} {packet : Packet} {wave : UInt64} {sender : ProcessId}
      {answer : ProbeSnapshot} {verdict : Verdict} {termination : Termination} :
      ControlMessage.ofPacket packet = .ok (.probeReply wave sender answer) →
      s.termination.isCoordinator = true →
      s.termination.onReply wave.toNat sender answer = (.ok verdict, termination) →
      Takes s packet [] [] (s.setTermination termination)

/-- What is done about an item. An item that is about a net the worker does not have active goes on to
the owner, or is dropped if the net is stopping or gone. -/
inductive Deals : Scene σ → WorkItem σ → List Wire → List TokenEvent → Scene σ → Prop
  | adopt {s : Scene σ} {made : σ} {state : NetState} {registry : Registry} :
      s.registry.activate (NetBehaviour.id made) s.worker = .ok (state, registry) →
      Deals s (.adopt made) [] []
        ((s.setRegistry registry).setActive s.worker (NetBehaviour.id made) (some made))
  | hand {s : Scene σ} {parcel : Parcel} {state : σ} : s.active s.worker parcel.net = some state →
      Deals s (.tokens parcel) [] [.handed parcel] (s.setActive s.worker parcel.net
        (some (NetBehaviour.receive state parcel.place parcel.batch).state))
  | reroute {s : Scene σ} {item : WorkItem σ} {net : NetId} {owner : WorkerId} :
      item.net? = some net → (∀ made, item ≠ .adopt made) → item ≠ .reclaim net →
      s.active s.worker net = none → s.halting s.worker net = none →
      s.registry.owner? net = some owner →
      Deals s item [] [] (s.post owner item)
  | drop {s : Scene σ} {parcel : Parcel} : s.active s.worker parcel.net = none →
      s.halting s.worker parcel.net ≠ none ∨ s.registry.owner? parcel.net = none →
      Deals s (.tokens parcel) [] [.dropped parcel (s.registry.liveOwner? parcel.net).isSome] s
  | dropHalt {s : Scene σ} {net : NetId} {origin : Option ProcessId} :
      s.active s.worker net = none →
      s.halting s.worker net ≠ none ∨ s.registry.owner? net = none →
      Deals s (.halt net origin) [] [] s
  | stopForgotten {s : Scene σ} {net : NetId} {origin : Option ProcessId} {state : σ} :
      s.active s.worker net = some state → s.registry.slot? net = none →
      Deals s (.halt net origin) [] [] (s.stop s.worker net state)
  | stopCopy {s : Scene σ} {net : NetId} {origin : ProcessId} {state : σ} {ws : List Wire} :
      s.active s.worker net = some state →
      Wire.Single origin ((ControlMessage.haltAck net s.id).toPacket s.id) ws →
      Deals s (.halt net (some origin)) ws []
        ((s.stop s.worker net state).post s.worker (.reclaim net))
  | stopLocal {s : Scene σ} {net : NetId} {state : σ} : s.active s.worker net = some state →
      Deals s (.halt net none) [] [] ((s.stop s.worker net state).post s.worker (.reclaim net))
  | stopGlobal {s : Scene σ} {net : NetId} {state : σ} {registry : Registry} {ws : List Wire} :
      s.active s.worker net = some state → s.Announces net →
      s.registry.expectAcks net (s.processCount - 1) = .ok registry →
      Wire.Broadcast ((ControlMessage.halted net s.id).toPacket s.id) s.peers ws →
      Deals s (.halt net none) ws []
        (((s.setRegistry registry).stop s.worker net state).excuse net (ws.countP Wire.isRefused))
  | reclaim {s : Scene σ} {net : NetId} {slot : Slot} {registry : Registry} :
      s.registry.retire net = .ok (slot, registry) →
      Deals s (.reclaim net) [] [] ((s.setRegistry registry).setHalting s.worker net none)
  | reclaimRefused {s : Scene σ} {net : NetId} {e : RuntimeError} :
      s.registry.retire net = .error e →
      Deals s (.reclaim net) [] [] (s.setHalting s.worker net none)
  | fired {s : Scene σ} {net : NetId} {transition : TransitionIndex} :
      Deals s (.fire net transition) [] [] s
  | log {s : Scene σ} {item : WorkItem σ} : item.weight = 0 → Deals s item [] [] s

/-- The ways in which dealing with an item can crash, and what they leave behind. -/
inductive Fails : Scene σ → WorkItem σ → Crash → Scene σ → Prop
  | orphan {s : Scene σ} {made : σ} : s.registry.slot? (NetBehaviour.id made) = none →
      Fails s (.adopt made) (.adoptedWithoutSlot (NetBehaviour.id made)) s
  | stray {s : Scene σ} {item : WorkItem σ} {net : NetId} : item.net? = some net →
      s.active s.worker net = none → s.registry.state? net = none →
      Fails s item (.strayMessage s.worker net) s
  | broken {s : Scene σ} {parcel : Parcel} {state after : σ} {c : Crash} :
      s.active s.worker parcel.net = some state →
      NetBehaviour.receive state parcel.place parcel.batch = .crashed after c →
      Fails s (.tokens parcel) c (s.setActive s.worker parcel.net (some after))

/-- The process sees whether the run can end: it may end it, or start a probe wave. -/
inductive Checks : Scene σ → List Wire → Scene σ → Prop
  | rest {s : Scene σ} : Checks s [] s
  | quit {s : Scene σ} {ws : List Wire} : s.Farewell ws → Checks s ws s.quit
  | probe {s : Scene σ} {now wave : Nat} {termination : Termination} {ws : List Wire} : s.Passive →
      s.termination.beginWave (s.termination.snapshot true) now = (some wave, termination) →
      Wire.Broadcast ((ControlMessage.probe (UInt64.ofNat wave)).toPacket s.id) s.peers ws →
      Checks s ws (s.setTermination termination)

/-- One thing that can happen in a process. Requests come from nets that fire; if `open_` holds they
may also come from callers outside, who may ask for firings and move nets as well. -/
inductive Step (naming open_ : Prop) : Scene σ → List Wire → List TokenEvent → Scene σ → Prop
  | rest {s : Scene σ} : Step naming open_ s [] [] s
  | turn {s : Scene σ} (w : WorkerId) : s.hand = [] → Step naming open_ s [] [] (s.turnTo w)
  | ask {s t : Scene σ} {ws : List Wire} {events : List TokenEvent} : open_ ∨ s.Firing →
      Asks naming s ws events t → Step naming open_ s ws events t
  | quit {s : Scene σ} {ws : List Wire} : s.Farewell ws → Step naming open_ s ws [] s.quit
  | take {s t : Scene σ} {packet : Packet} {ws : List Wire} {events : List TokenEvent} :
      Takes s packet ws events t → Step naming open_ s (.took packet :: ws) events t
  | drain {s : Scene σ} : s.hand = [] →
      Step naming open_ s [] [] s.drain
  | deal {s t : Scene σ} {item : WorkItem σ} {rest : List (WorkItem σ)} {ws : List Wire}
      {events : List TokenEvent} : s.hand = item :: rest → Deals s item ws events t →
      item.weight ≤ t.obligations → Step naming open_ s ws events (t.finish item rest)
  | store {s : Scene σ} {w : WorkerId} {net : NetId} {state after : σ} {context : FireContext}
      {transition : TransitionIndex} : s.active w net = some state →
      (NetBehaviour.fire state context transition).Ends after →
      Step naming open_ s [] [] (s.setActive w net (some after))
  | probe {s : Scene σ} {now wave : Nat} {termination : Termination} {ws : List Wire} : s.Passive →
      s.termination.beginWave (s.termination.snapshot true) now = (some wave, termination) →
      Wire.Broadcast ((ControlMessage.probe (UInt64.ofNat wave)).toPacket s.id) s.peers ws →
      Step naming open_ s ws [] (s.setTermination termination)
  | requestFiring {s : Scene σ} {net : NetId} {transition : TransitionIndex} {owner : WorkerId} :
      open_ → s.registry.liveOwner? net = some owner →
      Step naming open_ s [] [] (s.post owner (.fire net transition))
  | migrate {s : Scene σ} {w target : WorkerId} {net : NetId} {state : σ} {registry : Registry} :
      open_ → s.active w net = some state → s.HasWorker target →
      s.registry.setOwner (NetBehaviour.id state) target = .ok registry →
      Step naming open_ s [] []
        (((s.setRegistry registry).setActive w net none).post target (.adopt state))
  | migrateLost {s : Scene σ} {w target : WorkerId} {net : NetId} {state : σ} {e : RuntimeError} :
      open_ → s.active w net = some state →
      s.registry.setOwner (NetBehaviour.id state) target = .error e →
      Step naming open_ s [] [] (s.setActive w net none)

/-- The first of the items at hand cannot be dealt with. -/
def Stuck (s : Scene σ) (c : Crash) : Prop :=
  ∃ item rest t, s.hand = item :: rest ∧ Fails s item c t

/-- Some template makes instances that do not have the name they were made for. -/
def Misnames (s : Scene σ) : Prop :=
  ∃ template ∈ s.templates, ∃ context, NetBehaviour.id (template.create context) ≠ context.net

/-- What an operation leaves behind that crashes: the items at hand are lost, and what was begun stays
as it is. More work is never finished than was taken on. -/
inductive Wreck (naming open_ : Prop) : Crash → Scene σ → List Wire → Scene σ → Prop
  | lost {s : Scene σ} {c : Crash} : s.Stuck c ∨ NetBehaviour.CanCrash σ c →
      Wreck naming open_ c s [] s.letGo
  | handed {s : Scene σ} {parcel : Parcel} {state after : σ} {c : Crash} :
      s.active s.worker parcel.net = some state →
      NetBehaviour.receive state parcel.place parcel.batch = .crashed after c →
      Wreck naming open_ c s [] (s.setActive s.worker parcel.net (some after)).letGo
  | misfit {s : Scene σ} {owner : WorkerId} {index : Nat} {net : NetId} {parent : Option NetId}
      {isGlobal : Bool} {registry : Registry} {ids : IdSource} : open_ ∨ s.Firing → s.HasWorker owner →
      s.registry.insert net index owner parent isGlobal = .ok registry →
      s.ids.Allots naming net ids → s.Misnames →
      Wreck naming open_ .foreignInstance s [] ((s.setRegistry registry).setIds ids).letGo
  | misfitCopy {s : Scene σ} {packet : Packet} {net : NetId} {template : UInt32}
      {parent : Option NetId} {origin : ProcessId} {owner : WorkerId} {registry : Registry} :
      ControlMessage.ofPacket packet = .ok (.spawned net template parent origin) →
      s.HasWorker owner → s.registry.insert net template.toNat owner parent true = .ok registry →
      s.Misnames →
      Wreck naming open_ .foreignInstance s [.took packet]
        ((s.setRegistry registry).setTermination s.termination.recordReceived).letGo
  | overflow {s : Scene σ} {packet : Packet} {wave : UInt64} {sender : ProcessId}
      {answer : ProbeSnapshot} {c : Crash} {termination : Termination} :
      ControlMessage.ofPacket packet = .ok (.probeReply wave sender answer) →
      s.termination.isCoordinator = true →
      s.termination.onReply wave.toNat sender answer = (.error c, termination) →
      Wreck naming open_ c s [.took packet] (s.setTermination termination).letGo

theorem Checks.step {naming open_ : Prop} {s t : Scene σ} {ws : List Wire} (h : Checks s ws t) :
    Step naming open_ s ws [] t := by
  cases h with
  | rest => exact .rest
  | quit hfarewell => exact .quit hfarewell
  | probe hpassive hbegin hcast => exact .probe hpassive hbegin hcast

theorem Fails.wreck {naming open_ : Prop} {s t : Scene σ} {item : WorkItem σ}
    {rest : List (WorkItem σ)} {c : Crash} (h : Fails s item c t) (hhand : s.hand = item :: rest) :
    Wreck naming open_ c s [] t.letGo := by
  cases h with
  | orphan hslot => exact .lost (.inl ⟨_, rest, _, hhand, .orphan hslot⟩)
  | stray hnet hactive hstate => exact .lost (.inl ⟨item, rest, _, hhand, .stray hnet hactive hstate⟩)
  | broken hfound hreceive => exact .handed hfound hreceive

end Scene

end PetriCluster
