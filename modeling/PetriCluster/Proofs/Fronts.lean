import PetriCluster.Proofs.Moments
import PetriCluster.Proofs.WorkCounts

/-!
# The front of a process

What the processes of a cluster have to do with each other does not depend on the inboxes and the
workers of a process. The rest of it is its front: its names, its registry, its counters, the barriers
and whether the run ends. The front changes in shifts. The making of nets is not among them: it
happens at moments, and a moment begins with what the process does about its occasion.
-/

namespace PetriCluster

/-- What counts between the processes of a cluster. -/
structure Front (σ : Type) where
  id : ProcessId
  processCount : Nat
  settings : Settings
  templates : List (Template σ)
  ids : IdSource
  registry : Registry
  termination : Termination
  barrier : Barrier
  quitting : Bool
  quitSent : Bool

/-- A process as its front. -/
def Process.front {σ : Type} (p : Process σ) : Front σ :=
  ⟨p.id, p.processCount, p.settings, p.templates, p.ids, p.registry, p.termination, p.barrier,
    p.quitting, p.quitSent⟩

/-- A registry changes without a new slot. -/
inductive Registry.Changes : Registry → Registry → Prop
  | activate {r r' : Registry} {net : NetId} {w : WorkerId} {state : NetState} :
      r.activate net w = .ok (state, r') → Changes r r'
  | setOwner {r r' : Registry} {net : NetId} {w : WorkerId} :
      r.setOwner net w = .ok r' → Changes r r'
  | beginHalt {r r' : Registry} {net : NetId} {outcome : HaltOutcome} :
      r.beginHalt net = .ok (outcome, r') → Changes r r'
  | expectAcks {r r' : Registry} {net : NetId} {count : Nat} :
      r.expectAcks net count = .ok r' → Changes r r'
  | acknowledge {r r' : Registry} {net : NetId} {outcome : AckOutcome} :
      r.acknowledge net = .ok (outcome, r') → Changes r r'
  | retire {r r' : Registry} {net : NetId} {slot : Slot} :
      r.retire net = .ok (slot, r') → Changes r r'

namespace Front

variable {σ : Type}

/-- The other processes. -/
def peers (f : Front σ) : List ProcessId := f.id.peers f.processCount

/-- All peers are sent a message. -/
def Tells (f : Front σ) (message : ControlMessage) (ws : List Wire) : Prop :=
  Wire.Broadcast (message.toPacket f.id) f.peers ws

/-- What a process does besides meeting an occasion. The barriers it may enter are those of which
`entering` holds. -/
inductive Shift (entering : BarrierPhase → Prop) (f : Front σ) : List Wire → Front σ → Prop
  | rest : Shift entering f [] f
  | change {registry : Registry} : f.registry.Changes registry →
      Shift entering f [] { f with registry }
  | draw {net : NetId} {ids : IdSource} : f.ids.draw = .ok (net, ids) →
      Shift entering f [] { f with ids }
  | refused {target : ProcessId} {packet : Packet} : Shift entering f [.refused target packet] f
  | tokens {target : ProcessId} {parcel : Parcel} :
      Shift entering f [.sent target (.ofTokens f.id parcel)]
        { f with termination := f.termination.recordSent 1 }
  | haltAck {target : ProcessId} {net : NetId} :
      Shift entering f [.sent target ((ControlMessage.haltAck net f.id).toPacket f.id)] f
  | reply {target : ProcessId} {wave : UInt64} {answer : ProbeSnapshot} :
      Shift entering f [.sent target ((ControlMessage.probeReply wave f.id answer).toPacket f.id)] f
  | halted {net : NetId} {ws : List Wire} : f.Tells (.halted net f.id) ws → Shift entering f ws f
  | quit {ws : List Wire} : (if f.quitSent then ws = [] else f.Tells (.quit f.id) ws) →
      Shift entering f ws { f with quitSent := true, quitting := true }
  | probe {own : ProbeSnapshot} {now wave : Nat} {termination : Termination} {ws : List Wire} :
      f.termination.beginWave own now = (some wave, termination) →
      f.Tells (.probe (UInt64.ofNat wave)) ws → Shift entering f ws { f with termination }
  | barrier {phase : BarrierPhase} {ws : List Wire} : entering phase →
      f.Tells (.barrier phase f.id) ws →
      Shift entering f ws { f with barrier := f.barrier.arrive phase f.id }

/-- The name of a new net: the one that was asked for, or else a new one. The names that callers may
ask for are those of which `naming` holds. -/
inductive Names (naming : NetId → Prop) (f : Front σ) : Option NetId → NetId → IdSource → Prop
  | drawn {net : NetId} {ids : IdSource} : f.ids.draw = .ok (net, ids) → Names naming f none net ids
  | chosen {net : NetId} : naming net → Names naming f (some net) net f.ids

/-- What a process first does about a message. -/
inductive Heeds (f : Front σ) : ControlMessage → Front σ → Prop
  | copy {net : NetId} {template : UInt32} {parent : Option NetId} {origin : ProcessId}
      {owner : WorkerId} {registry : Registry} :
      f.registry.insert net template.toNat owner parent true = .ok registry →
      Heeds f (.spawned net template parent origin)
        { f with registry, termination := f.termination.recordReceived }
  | noCopy {net : NetId} {template : UInt32} {parent : Option NetId} {origin : ProcessId} :
      f.templates[template.toNat]? = none ∨ (∃ owner e,
        f.registry.insert net template.toNat owner parent true = .error e) →
      Heeds f (.spawned net template parent origin)
        { f with termination := f.termination.recordReceived }
  | quit {sender : ProcessId} : Heeds f (.quit sender) { f with quitting := true }
  | barrier {phase : BarrierPhase} {sender : ProcessId} :
      Heeds f (.barrier phase sender) { f with barrier := f.barrier.arrive phase sender }
  | reply {wave : UInt64} {sender : ProcessId} {answer : ProbeSnapshot}
      {verdict : Except Crash Verdict} {termination : Termination} :
      f.termination.onReply wave.toNat sender answer = (verdict, termination) →
      Heeds f (.probeReply wave sender answer) { f with termination }
  | note {message : ControlMessage} : message.isSpawn = false → (∀ sender, message ≠ .quit sender) →
      Heeds f message f

/-- What a process first does on an occasion, with the name of the net that was asked for if it is
made, and the name that was asked for if it is used up. -/
inductive Acts (naming : NetId → Prop) (f : Front σ) :
    Occasion → Option NetId → Option NetId → List Wire → Front σ → Prop
  | made {owner : WorkerId} {index : Nat} {requested parent : Option NetId} {isGlobal : Bool}
      {net : NetId} {registry : Registry} {ids : IdSource} {ws : List Wire} :
      f.registry.insert net index owner parent isGlobal = .ok registry →
      f.Names naming requested net ids →
      (if isGlobal ∧ 1 < f.processCount then
        f.Tells (.spawned net (UInt32.ofNat index) parent f.id) ws else ws = []) →
      Acts naming f (.spawn owner index requested parent isGlobal) (some net) requested ws { f with
        registry, ids, termination := f.termination.recordSent (ws.countP Wire.isSent) }
  | misfit {owner : WorkerId} {index : Nat} {requested parent : Option NetId} {isGlobal : Bool}
      {net : NetId} {registry : Registry} {ids : IdSource} :
      f.registry.insert net index owner parent isGlobal = .ok registry →
      f.Names naming requested net ids →
      Acts naming f (.spawn owner index requested parent isGlobal) none requested []
        { f with registry, ids }
  | notMade {owner : WorkerId} {index : Nat} {requested parent : Option NetId} {isGlobal : Bool} :
      (∀ net, requested = some net → naming net) →
      Acts naming f (.spawn owner index requested parent isGlobal) none none [] f
  | tokens {packet : Packet} : packet.tag = .tokens →
      Acts naming f (.packet packet) none none [.took packet]
        { f with termination := f.termination.recordReceived }
  | message {packet : Packet} {message : ControlMessage} {g : Front σ} :
      ControlMessage.ofPacket packet = .ok message → f.Heeds message g →
      Acts naming f (.packet packet) none none [.took packet] g
  | noise {packet : Packet} : packet.tag = .service → packet.message? = none →
      Acts naming f (.packet packet) none none [.took packet] f

variable {naming naming' : NetId → Prop} {entering entering' : BarrierPhase → Prop} {f g : Front σ}
  {o : Occasion} {made spent : Option NetId} {ws : List Wire}

theorem Shift.mono (h : f.Shift entering ws g) (hmono : ∀ phase, entering phase → entering' phase) :
    f.Shift entering' ws g := by
  cases h with
  | rest => exact .rest
  | change hchange => exact .change hchange
  | draw hdraw => exact .draw hdraw
  | refused => exact .refused
  | tokens => exact .tokens
  | haltAck => exact .haltAck
  | reply => exact .reply
  | halted htells => exact .halted htells
  | quit htells => exact .quit htells
  | probe hwave htells => exact .probe hwave htells
  | barrier hentering htells => exact .barrier (hmono _ hentering) htells

theorem Acts.requested (h : f.Acts naming o made spent ws g) :
    ∀ net, o.requested? = some net → naming net := by
  intro net hnet
  cases h with
  | made _ hname _ | misfit _ hname =>
    cases hname with
    | drawn => cases hnet
    | chosen hnaming =>
      cases hnet
      exact hnaming
  | notMade hnaming => exact hnaming net hnet
  | tokens | message | noise => cases hnet

theorem Acts.spent_eq (h : f.Acts naming o made spent ws g) : spent = none ∨ spent = o.requested? := by
  cases h with
  | made | misfit => exact .inr rfl
  | notMade | tokens | message | noise => exact .inl rfl

theorem Names.inv {requested : Option NetId} {net : NetId} {ids : IdSource}
    (h : f.Names naming requested net ids) : (requested = none ∧ f.ids.draw = .ok (net, ids)) ∨
      (requested = some net ∧ naming net ∧ ids = f.ids) := by
  cases h with
  | drawn hdraw => exact .inl ⟨rfl, hdraw⟩
  | chosen hnaming => exact .inr ⟨rfl, hnaming, rfl⟩

theorem Names.mono {requested : Option NetId} {net : NetId} {ids : IdSource}
    (h : f.Names naming requested net ids) (hmono : ∀ net, naming net → naming' net) :
    f.Names naming' requested net ids := by
  cases h with
  | drawn hdraw => exact .drawn hdraw
  | chosen hnaming => exact .chosen (hmono _ hnaming)

theorem Acts.mono (h : f.Acts naming o made spent ws g) (hmono : ∀ net, naming net → naming' net) :
    f.Acts naming' o made spent ws g := by
  cases h with
  | made hinsert hname htells => exact .made hinsert (hname.mono hmono) htells
  | misfit hinsert hname => exact .misfit hinsert (hname.mono hmono)
  | notMade hnaming => exact .notMade fun net hnet => hmono net (hnaming net hnet)
  | tokens htag => exact .tokens htag
  | message hdecode hheeds => exact .message hdecode hheeds
  | noise htag hnone => exact .noise htag hnone

/-! ### What is taken in -/

theorem took_of_broadcast {packet : Packet} {targets : List ProcessId}
    (h : Wire.Broadcast packet targets ws) : ws.filterMap Wire.took? = [] := by
  rw [List.filterMap_eq_nil_iff]
  intro w hw
  cases w with
  | took p => exact absurd hw (h.took_notMem p)
  | sent | refused => rfl

theorem Shift.took_eq_nil (h : f.Shift entering ws g) : ws.filterMap Wire.took? = [] := by
  cases h with
  | rest | change | draw | refused | tokens | haltAck | reply => rfl
  | halted htells | barrier _ htells | probe _ htells => exact took_of_broadcast htells
  | quit htells =>
    split at htells
    · rw [htells]
      rfl
    · exact took_of_broadcast htells

theorem Acts.took_eq (h : f.Acts naming o made spent ws g) :
    ws.filterMap Wire.took? = o.packet?.toList := by
  cases h with
  | made _ _ htells =>
    split at htells
    · exact took_of_broadcast htells
    · rw [htells]
      rfl
  | misfit | notMade | tokens | message | noise => rfl

end Front

variable {σ τ : Type} [NetBehaviour σ] [Transport τ]

/-- The moment is met at this front and this end of the transport; a packet is taken out of it. -/
def Moment.Begins (m : Moment σ τ) (f : Front σ) (l : τ) : Prop :=
  m.node.process.front = f ∧
    match m.occasion with
    | .spawn .. => m.node.link = l
    | .packet packet => Transport.receive l = (.ok (some packet), m.node.link)

/-- A sequence of shifts and moments, with what becomes of the transport. -/
inductive Course (naming : NetId → Prop) (entering : BarrierPhase → Prop) :
    Front σ → τ → List (Moment σ τ) → Front σ → τ → Prop
  | nil {f : Front σ} {l : τ} : Course naming entering f l [] f l
  | shift {f g h : Front σ} {l m k : τ} {ws : List Wire} {moments : List (Moment σ τ)} :
      f.Shift entering ws g → Wired l ws m → Course naming entering g m moments h k →
      Course naming entering f l moments h k
  | moment {m : Moment σ τ} {f g h : Front σ} {l k j : τ} {ws : List Wire}
      {moments : List (Moment σ τ)} : m.Begins f l →
      f.Acts naming m.occasion m.spawned? m.spent? ws g →
      Wired l ws k →
      Course naming entering g k [] m.after.process.front m.after.link →
      Course naming entering m.after.process.front m.after.link moments h j →
      Course naming entering f l (m :: moments) h j

namespace Course

variable {naming : NetId → Prop} {entering : BarrierPhase → Prop} {f g h : Front σ} {l k j : τ}
  {ms ms' : List (Moment σ τ)}

/-- One course after another. -/
theorem trans (hfirst : Course naming entering f l ms g k)
    (hnext : Course naming entering g k ms' h j) :
    Course naming entering f l (ms ++ ms') h j := by
  induction hfirst with
  | nil => exact hnext
  | shift hshift hwired _ ih => exact .shift hshift hwired (ih hnext)
  | moment hbegins hacts hwired hinner _ _ ih => exact .moment hbegins hacts hwired hinner (ih hnext)

theorem of_nil {naming' : NetId → Prop} (h : Course naming entering f l [] g k) :
    Course naming' entering f l [] g k := by
  generalize hms : ([] : List (Moment σ τ)) = ms at h
  induction h with
  | nil => exact .nil
  | shift hshift hwired _ ih => exact .shift hshift hwired (ih hms)
  | moment => cases hms

theorem single {ws : List Wire} (hshift : f.Shift entering ws g) (hwired : Wired l ws k) :
    Course naming entering f l [] g k :=
  .shift hshift hwired .nil

end Course

namespace Node

variable {α β : Type} {naming : NetId → Prop} {entering : BarrierPhase → Prop} {n : Node σ τ}
  {ms : List (Moment σ τ)}

/-- However an operation at a node ends, it has got there by a course with the given moments. -/
def Runs (naming : NetId → Prop) (entering : BarrierPhase → Prop) (n : Node σ τ)
    (ms : List (Moment σ τ)) (result : EStateM.Result Fault (Node σ τ) α) : Prop :=
  Course naming entering n.process.front n.link ms (final result).process.front (final result).link

omit [NetBehaviour σ] [Transport τ] in
theorem final_attempt (x : NodeM σ τ α) (n : Node σ τ) : final (attempt x n) = final (x n) := by
  rw [attempt_apply]
  rcases x n with ⟨a, m⟩ | ⟨_ | _, m⟩ <;> rfl

omit [NetBehaviour σ] [Transport τ] in
theorem final_tolerate (x : NodeM σ τ Unit) (n : Node σ τ) : final (tolerate x n) = final (x n) := by
  rw [tolerate_apply]
  rcases x n with ⟨a, m⟩ | ⟨_ | _, m⟩ <;> rfl

namespace Runs

variable {result : EStateM.Result Fault (Node σ τ) α} {x : NodeM σ τ α} {f : α → NodeM σ τ β}
  {next : α → Node σ τ → List (Moment σ τ)}

theorem still (hfront : (final result).process.front = n.process.front)
    (hlink : (final result).link = n.link) : Runs naming entering n [] result := by
  show Course _ _ _ _ _ _ _
  rw [hfront, hlink]
  exact .nil

theorem shift {ws : List Wire}
    (hshift : n.process.front.Shift entering ws (final result).process.front)
    (hwired : Wired n.link ws (final result).link) : Runs naming entering n [] result :=
  .single hshift hwired

theorem bind (hx : Runs naming entering n ms (x n))
    (hf : ∀ a m, x n = .ok a m → Runs naming entering m (next a m) (f a m)) :
    Runs naming entering n (ms ++ follow (x n) next) ((x >>= f) n) := by
  rw [bind_apply]
  rcases hrun : x n with ⟨a, m⟩ | ⟨e, m⟩ <;> rw [hrun] at hx
  · exact Course.trans hx (hf a m hrun)
  · rw [follow, List.append_nil]
    exact hx

theorem after (hx : Runs naming entering n [] (x n))
    (hf : ∀ a m, x n = .ok a m → Runs naming entering m (next a m) (f a m)) :
    Runs naming entering n (follow (x n) next) ((x >>= f) n) :=
  bind hx hf

theorem before (hx : Runs naming entering n ms (x n))
    (hf : ∀ a m, x n = .ok a m → Runs naming entering m [] (f a m)) :
    Runs naming entering n ms ((x >>= f) n) := by
  have hnone : follow (x n) (fun _ _ => []) = [] := by
    unfold follow
    cases x n <;> rfl
  have hboth : Runs naming entering n (ms ++ follow (x n) fun _ _ => []) ((x >>= f) n) := bind hx hf
  rwa [hnone, List.append_nil] at hboth

theorem attempt (hx : Runs naming entering n ms (x n)) : Runs naming entering n ms (Node.attempt x n) := by
  unfold Runs at hx ⊢
  rwa [final_attempt]

theorem tolerate {x : NodeM σ τ Unit} (hx : Runs naming entering n ms (x n)) :
    Runs naming entering n ms (Node.tolerate x n) := by
  unfold Runs at hx ⊢
  rwa [final_tolerate]

end Runs

end Node

end PetriCluster
