import PetriCluster.Proofs.Assertions
import PetriCluster.Proofs.Errands
import Mathlib.Logic.Relation

/-!
# What happens in a process on an errand

Some commands speak for the runtime: they put items into inboxes, say that a worker has taken an
instance over or stopped one, or take an instance away. All other commands are orderly, and what they
do to a scene is told here once (`Scene.Happens`): the steps of the workers, what callers ask for,
items about logs, nets that are moved, and what gets lost, be it in a crash or because an inbox is
cleared.
-/

namespace PetriCluster

namespace Command

variable {σ : Type}

/-- Whether the command leaves it to the runtime to say what has become of instances. -/
def isOrderly : Command σ → Bool
  | act (.post ..) | act (.handOver ..) | activate .. | noteStopped .. | remove .. => false
  | _ => true

/-- The net that the command moves to another worker. -/
def moved? : Command σ → Option NetId
  | act (.operation (.migrate _ net _)) => some net
  | _ => none

/-- The command drops what is in an inbox. -/
def clears : Command σ → Bool
  | act (.cleanMessages _) => true
  | _ => false

end Command

namespace Scene

variable {σ : Type} [NetBehaviour σ] {s t : Scene σ} {moving : NetId → Prop} {losing : Prop}

/-- One thing that happens on an orderly errand. Only nets that `moving` allows are moved, and nothing
gets lost unless `losing` allows it. -/
inductive Happens (moving : NetId → Prop) (losing : Prop) : Scene σ → Scene σ → Prop
  | step {s t : Scene σ} {ws : List Wire} {events : List TokenEvent} :
      Step True False s ws events t → Happens moving losing s t
  | ask {s t : Scene σ} {ws : List Wire} {events : List TokenEvent} :
      Asks True s ws events t → Happens moving losing s t
  | requestFiring {s : Scene σ} {net : NetId} {transition : TransitionIndex} {owner : WorkerId} :
      s.registry.liveOwner? net = some owner →
      Happens moving losing s (s.post owner (.fire net transition))
  | log {s : Scene σ} {w : WorkerId} {item : WorkItem σ} : s.HasWorker w → item.weight = 0 →
      Happens moving losing s (s.post w item)
  | migrate {s : Scene σ} {w target : WorkerId} {net : NetId} {state : σ} {registry : Registry} :
      moving net → s.active w net = some state → s.HasWorker target →
      s.registry.setOwner (NetBehaviour.id state) target = .ok registry →
      Happens moving losing s
        (((s.setRegistry registry).setActive w net none).post target (.adopt state))
  | migrateLost {s : Scene σ} {w target : WorkerId} {net : NetId} {state : σ} {e : RuntimeError} :
      moving net → s.active w net = some state →
      s.registry.setOwner (NetBehaviour.id state) target = .error e →
      Happens moving losing s (s.setActive w net none)
  | wreck {s t : Scene σ} {open_ : Prop} {c : Crash} {ws : List Wire} : losing →
      Wreck True open_ c s ws t → Happens moving losing s t
  | discard {s : Scene σ} {item : WorkItem σ} {rest : List (WorkItem σ)} : losing →
      s.hand = item :: rest → Happens moving losing s (s.finish item rest)

/-- One thing after the other. -/
abbrev Leads (moving : NetId → Prop) (losing : Prop) : Scene σ → Scene σ → Prop :=
  Relation.ReflTransGen (Happens moving losing)

theorem Step.opened {naming open_ : Prop} {ws : List Wire} {events : List TokenEvent}
    (h : Step naming open_ s ws events t) : Step naming True s ws events t := by
  cases h with
  | rest => exact .rest
  | turn w hhand => exact .turn w hhand
  | ask _ h => exact .ask (.inl trivial) h
  | quit h => exact .quit h
  | take h => exact .take h
  | drain hhand => exact .drain hhand
  | deal hhand h howed => exact .deal hhand h howed
  | store h hends => exact .store h hends
  | probe hpassive hbegin hcast => exact .probe hpassive hbegin hcast
  | requestFiring _ h => exact .requestFiring trivial h
  | migrate _ hactive htarget howner => exact .migrate trivial hactive htarget howner
  | migrateLost _ hactive howner => exact .migrateLost trivial hactive howner

/-- All that happens is a step of the process, an item about a log, a crash, or an item that is given
up. -/
theorem Happens.cases (h : Happens moving losing s t) :
    (∃ ws events, Step True True s ws events t) ∨
    (∃ w item, s.HasWorker w ∧ item.weight = 0 ∧ t = s.post w item) ∨
    losing ∧ ((∃ open_ c ws, Wreck True open_ c s ws t) ∨
      ∃ item rest, s.hand = item :: rest ∧ t = s.finish item rest) := by
  cases h with
  | step h => exact .inl ⟨_, _, h.opened⟩
  | ask h => exact .inl ⟨_, _, .ask (.inl trivial) h⟩
  | requestFiring h => exact .inl ⟨_, _, .requestFiring trivial h⟩
  | log hw hitem => exact .inr (.inl ⟨_, _, hw, hitem, rfl⟩)
  | migrate _ hactive htarget howner => exact .inl ⟨_, _, .migrate trivial hactive htarget howner⟩
  | migrateLost _ hactive howner => exact .inl ⟨_, _, .migrateLost trivial hactive howner⟩
  | wreck hlosing h => exact .inr (.inr ⟨hlosing, .inl ⟨_, _, _, h⟩⟩)
  | discard hlosing hhand => exact .inr (.inr ⟨hlosing, .inr ⟨_, _, hhand, rfl⟩⟩)

theorem Happens.sound (h : Happens moving losing s t) (hs : s.Sound) : t.Sound := by
  rcases h.cases with ⟨_, _, hstep⟩ | ⟨w, item, hw, -, rfl⟩ |
    ⟨-, ⟨_, _, _, hwreck⟩ | ⟨item, rest, hhand, rfl⟩⟩
  · exact hstep.sound hs
  · exact hs.post hw item
  · exact hwreck.sound hs
  · exact hs.finish hhand

/-- Whatever happens, a sound scene stays sound. -/
theorem Leads.sound (h : Leads moving losing s t) (hs : s.Sound) : t.Sound := by
  induction h with
  | refl => exact hs
  | tail _ hlast ih => exact hlast.sound ih

end Scene

/-! ## From operations to happenings -/

namespace Rules

open Scene

variable {σ τ : Type} [NetBehaviour σ] [Transport τ] {s t : Scene σ} {l k : τ}
  {events : List TokenEvent} {moving : NetId → Prop} {losing : Prop}

/-- A path is made of happenings. -/
theorem Path.leads (h : (steps True False).Path s l events t k) : Leads moving losing s t := by
  induction h with
  | nil => exact .refl
  | cons hstep _ _ ih => exact .head (.step hstep) ih

theorem Path.leads_of_requests (h : (requests True).Path s l events t k) :
    Leads moving losing s t := by
  induction h with
  | nil => exact .refl
  | cons hstep _ _ ih =>
    have hstep : Request True _ _ _ _ := hstep
    cases hstep with
    | rest => exact ih
    | ask h => exact .head (.ask h) ih
    | quit h => exact .head (.step (.quit h)) ih

end Rules

namespace Node

open Rules Scene

variable {σ τ α β : Type} [NetBehaviour σ] {moving : NetId → Prop} {losing : Prop} {n : Node σ τ}

/-- What is shown of every orderly errand: it is made of happenings, and a crash needs leave to lose
things. -/
def Brings (moving : NetId → Prop) (losing : Prop) (n : Node σ τ)
    (result : EStateM.Result Fault (Node σ τ) α) : Prop :=
  (∀ c m, result = .error (.crashed c) m → losing) →
    Leads moving losing n.process.outline (Node.final result).process.outline

variable {x : NodeM σ τ α} {f : α → NodeM σ τ β}

omit [NetBehaviour σ] in
theorem bind_eq_error {m : Node σ τ} {fault : Fault}
    (h : (x >>= f) n = .error fault m) :
    x n = .error fault m ∨ ∃ a k, x n = .ok a k ∧ f a k = .error fault m := by
  rw [bind_apply] at h
  rcases hx : x n with ⟨a, k⟩ | ⟨e, k⟩ <;> rw [hx] at h
  · exact .inr ⟨a, k, rfl, h⟩
  · cases h
    exact .inl rfl

theorem leads_turn (p : Process σ) (v w : WorkerId) :
    Leads moving losing (p.scene v []) (p.scene w []) :=
  .single (.step (.turn w rfl))

theorem Brings.bind (hx : Brings moving losing n (x n))
    (hf : ∀ a m, x n = .ok a m → Leads moving losing n.process.outline m.process.outline →
      Brings moving losing m (f a m)) :
    Brings moving losing n ((x >>= f) n) := by
  unfold Brings
  rw [bind_apply]
  intro hcrash
  rcases hrun : x n with ⟨a, m⟩ | ⟨e, m⟩ <;> rw [hrun] at hx hcrash
  · have hfirst := hx (by simp)
    exact hfirst.trans (hf a m hrun hfirst hcrash)
  · refine hx fun c k heq => ?_
    cases heq
    exact hcrash c m rfl

theorem Brings.still {result : EStateM.Result Fault (Node σ τ) α}
    (h : (Node.final result).process.outline = n.process.outline) :
    Brings moving losing n result :=
  fun _ => h ▸ .refl

end Node

namespace Rules

open Scene Node

variable {σ τ α : Type} [NetBehaviour σ] [Transport τ] {moving : NetId → Prop}
  {losing refusals : Prop} {n : Node σ τ} {w : WorkerId} {events : List TokenEvent}
  {result : EStateM.Result Fault (Node σ τ) α}

theorem Follows.brings (h : (steps True False).Follows refusals w [] [] n events result) :
    Brings moving losing n result := by
  intro hcrash
  refine (leads_turn n.process ⟨0⟩ w).trans (.trans ?_ (leads_turn _ w ⟨0⟩))
  rcases result with ⟨a, m⟩ | ⟨e | c, m⟩
  · exact Path.leads h
  · exact Path.leads h.2
  · obtain ⟨earlier, t, k, ws, hpath, hwreck, -⟩ := h
    exact hpath.leads.tail (.wreck (hcrash c m rfl) hwreck)

theorem Follows.brings_of_requests (h : (requests True).Follows refusals w [] [] n events result) :
    Brings moving losing n result := by
  intro hcrash
  refine (leads_turn n.process ⟨0⟩ w).trans (.trans ?_ (leads_turn _ w ⟨0⟩))
  rcases result with ⟨a, m⟩ | ⟨e | c, m⟩
  · exact Path.leads_of_requests h
  · exact Path.leads_of_requests h.2
  · obtain ⟨earlier, t, k, ws, hpath, hwreck, -⟩ := h
    have hwreck : Wreck True True c t ws (m.process.scene w []) := by
      change RequestWreck True c t ws (m.process.scene w []) at hwreck
      generalize m.process.scene w [] = u at hwreck ⊢
      cases hwreck with
      | misfit howner hinsert hname hmade => exact .misfit (.inl trivial) howner hinsert hname hmade
    exact hpath.leads_of_requests.tail (.wreck (hcrash c m rfl) hwreck)

end Rules

/-! ## Moving nets -/

/-- The process without what a worker has active under a name. -/
def Process.without {σ : Type} (p : Process σ) (w : WorkerId) (net : NetId) : Process σ :=
  p.updateWorker w fun x => { x with nets := x.nets.erase net }

namespace Node

open Rules Scene

variable {σ τ : Type} [NetBehaviour σ] {n : Node σ τ} {moving : NetId → Prop} {losing : Prop}

theorem migrate_cases (w : WorkerId) (net : NetId) (target : WorkerId) (n : Node σ τ) :
    (∃ e, migrate w net target n = .error (.refused e) n) ∨
    (∃ state e, (n.process.worker w).nets.find? net = some state ∧
      n.process.registry.setOwner (NetBehaviour.id state) target = .error e ∧
      migrate w net target n = .error (.refused e) { n with process := n.process.without w net }) ∨
    ∃ state registry, (n.process.worker w).nets.find? net = some state ∧
      target.index < n.process.inboxes.length ∧
      n.process.registry.setOwner (NetBehaviour.id state) target = .ok registry ∧
      migrate w net target n = .ok () { n with
        process := ({ n.process.without w net with registry } : Process σ).posted target (.adopt state) } := by
  by_cases htarget : target.index < n.process.inboxes.length
  · have htarget' : target.index < (n.process.without w net).inboxes.length := htarget
    cases hfound : (n.process.worker w).nets.find? net with
    | none =>
      refine .inl ⟨.unknownNet net, ?_⟩
      simp only [migrate, bind_apply, checkWorker_apply, htarget, if_true, getWorker_apply, hfound,
        refuse_apply]
    | some state =>
      have hmigrate : migrate w net target n =
          handOver state target { n with process := n.process.without w net } := by
        simp only [migrate, bind_apply, checkWorker_apply, htarget, if_true, getWorker_apply, hfound,
          modifyWorker_apply]
        rfl
      have hregistry : (n.process.without w net).registry = n.process.registry := rfl
      rw [hmigrate]
      cases howner : n.process.registry.setOwner (NetBehaviour.id state) target with
      | error e =>
        refine .inr (.inl ⟨state, e, rfl, howner, ?_⟩)
        simp only [handOver, bind_apply, checkWorker_apply, htarget', if_true, changeRegistry_apply,
          hregistry, howner]
      | ok registry =>
        refine .inr (.inr ⟨state, registry, rfl, htarget, howner, ?_⟩)
        simp only [handOver, bind_apply, checkWorker_apply, htarget', if_true, changeRegistry_apply,
          hregistry, howner, post_apply]
  · refine .inl ⟨.unknownWorker target, ?_⟩
    simp only [migrate, bind_apply, checkWorker_apply, htarget, if_false]

theorem migrate_brings (w : WorkerId) {net : NetId} (target : WorkerId) (hmoving : moving net) :
    Brings moving losing n (migrate w net target n) := by
  intro _
  rcases migrate_cases w net target n with ⟨e, hrun⟩ | ⟨state, e, hfound, howner, hrun⟩ |
    ⟨state, registry, hfound, htarget, howner, hrun⟩ <;> rw [hrun]
  · exact .refl
  · have hwithout : (n.process.without w net).outline = n.process.outline.setActive w net none :=
      Process.scene_remove (Process.lt_of_find?_nets hfound)
    have hlost : Happens moving losing n.process.outline (n.process.without w net).outline :=
      hwithout ▸ .migrateLost hmoving hfound howner
    exact .single hlost
  · have hwithout : (n.process.without w net).outline = n.process.outline.setActive w net none :=
      Process.scene_remove (Process.lt_of_find?_nets hfound)
    have hmoved : Happens moving losing n.process.outline
        (((n.process.without w net).outline.setRegistry registry).post target (.adopt state)) :=
      hwithout ▸ .migrate hmoving hfound htarget howner
    exact .single hmoved

/-! ## Orderly commands -/

theorem requestFiring_brings (net : NetId) (transition : TransitionIndex)
    (hs : n.process.outline.Sound) : Brings moving losing n (requestFiring net transition n) := by
  intro _
  simp only [requestFiring, bind_apply, getProcess_apply]
  cases howner : n.process.registry.liveOwner? net with
  | none => exact .refl
  | some owner =>
    obtain ⟨slot, hslot, -, rfl⟩ := Registry.liveOwner?_eq_some.mp howner
    have hvalid : slot.owner.index < n.process.inboxes.length := hs.owner_valid _ _ hslot
    simp only [post_apply, hvalid, if_true]
    exact .single (.requestFiring howner)

theorem postEach_brings {items : List (WorkerId × WorkItem σ)} (hitems : ∀ e ∈ items, e.2.weight = 0) :
    Brings moving losing n (postEach items n) := by
  induction items generalizing n with
  | nil => exact .still rfl
  | cons first rest ih =>
    refine .bind ?_ fun _ m _ _ => ih fun e he => hitems e (List.mem_cons_of_mem _ he)
    intro _
    rw [post_apply]
    by_cases hw : first.1.index < n.process.inboxes.length
    · rw [if_pos hw]
      exact .single (.log hw (hitems first (List.mem_cons_self ..)))
    · rw [if_neg hw]
      exact .refl

theorem cleanMessages_brings (w : WorkerId) (hlosing : losing) (hs : n.process.outline.Sound) :
    Brings moving losing n (cleanMessages w n) := by
  intro _
  obtain ⟨count, p, hrun, hp⟩ := cleanMessages_apply w { hs with hand_valid := fun hne => absurd rfl hne }
  rw [hrun]
  have hdrain : Leads moving losing n.process.outline (n.process.scene w []).drain :=
    (leads_turn n.process ⟨0⟩ w).tail (.step (.drain rfl))
  have hdiscard : Leads moving losing n.process.outline (p.scene w []) :=
    hp.keeps hdrain fun hhand h => h.tail (.discard hlosing hhand)
  exact hdiscard.trans (leads_turn p w ⟨0⟩)

variable [Transport τ]

theorem receivePackets_brings (limit : Nat) (hs : n.process.outline.Sound) :
    Brings moving losing n (receivePackets limit n) :=
  (receivePackets_follows limit hs).brings

theorem pollSends_brings : Brings moving losing n (pollSends n) :=
  (pollSends_follows (w := ⟨0⟩)).brings

theorem enterBarrier_brings (phase : BarrierPhase) :
    Brings moving losing n (enterBarrier phase n) := by
  obtain ⟨report, link, ws, hrun, -⟩ := broadcastControl_apply (.barrier phase n.process.id)
    { n with process := { n.process with barrier := n.process.barrier.arrive phase n.process.id } }
  refine .still ?_
  simp only [enterBarrier, bind_apply, getProcess_apply, modifyProcess_apply, hrun]
  cases report.toExcept <;> rfl

theorem pollBarrier_brings (phase : BarrierPhase) (hs : n.process.outline.Sound) :
    Brings moving losing n (pollBarrier phase n) := by
  refine .bind (receivePackets_brings packetBatch hs) fun _ m _ hm => ?_
  refine .bind pollSends_brings fun _ k _ hk => ?_
  have hsound := hk.sound (hm.sound hs)
  simp only [bind_apply _ _ k, getProcess_apply]
  split
  · exact .still rfl
  · simp only [bind_apply _ _ k, get_apply]
    split
    · exact .still rfl
    · refine .bind (receivePackets_brings packetBatch hsound) fun _ j _ _ => ?_
      refine .bind (.still rfl) fun p i _ _ => ?_
      split <;> exact .still rfl

theorem handleControl_brings (message : ControlMessage) (hs : n.process.outline.Sound) :
    Brings moving losing n (handleControl message n) := by
  intro hcrash
  have hpacket : ControlMessage.ofPacket (message.toPacket ⟨0⟩) = .ok message :=
    Packet.message?_eq_some.mp (Packet.message?_toPacket message ⟨0⟩)
  have habsorbs : Absorbs True False ⟨0⟩ [] (message.toPacket ⟨0⟩) n [] (handleControl message n) :=
    handleControl_absorbs hpacket rfl hs
  rcases hrun : handleControl message n with ⟨a, m⟩ | ⟨e | c, m⟩ <;> rw [hrun] at habsorbs
  · obtain ⟨t, ws, link, later, htakes, -, hchecks, -⟩ := habsorbs
    exact .head (.step (.take htakes)) (.single (.step hchecks.step))
  · exact habsorbs.elim
  · exact .single (.wreck (hcrash c m hrun) habsorbs.1)

end Node

variable {σ τ : Type} {n : Node σ τ} {moving : NetId → Prop} {losing : Prop}

open Rules Scene in
theorem Operation.brings [NetBehaviour σ] [Transport τ]
    (op : Operation)
    (hmoving : ∀ net, (Command.act (.operation op) : Command σ).moved? = some net → moving net)
    (hs : n.process.outline.Sound) : Node.Brings moving losing n (op.run n) := by
  have hworker : (n.process.scene op.worker []).Sound :=
    { hs with hand_valid := fun hne => absurd rfl hne }
  cases op with
  | spawn | spawnInitial => exact (Operation.spawn_requests rfl (fun _ => trivial) hs).brings_of_requests
  | send target parcel => exact (Node.sendTokens_follows target parcel hs).brings_of_requests
  | multicast targets parcel =>
    exact .bind (Node.multicast_follows targets parcel hs).brings_of_requests fun _ _ _ _ => .still rfl
  | requestFiring net transition => exact Node.requestFiring_brings net transition hs
  | halt requester net => exact (Node.halt_follows requester net hs).brings_of_requests
  | migrate w net target => exact Node.migrate_brings w target (hmoving net rfl)
  | processMessages | fireReady | receivePackets | tick | runOnce =>
    exact (Operation.follows _ (fun h => by cases h) (fun _ => trivial) hworker).brings

theorem Command.brings [NetBehaviour σ] [Transport τ]
    {command : Command σ} (horderly : command.isOrderly = true)
    (hmoving : ∀ net, command.moved? = some net → moving net)
    (hlosing : command.clears = true → losing) (hs : n.process.outline.Sound) :
    Node.Brings moving losing n (command.run n) := by
  cases command with
  | act action =>
    cases action with
    | operation op => exact op.brings hmoving hs
    | post | handOver => cases horderly
    | cleanMessages w =>
      exact .bind (Node.cleanMessages_brings w (hlosing rfl) hs) fun _ _ _ _ => .still rfl
    | startLogs | stopLogs =>
      refine .bind (.still rfl) fun p m _ _ => Node.postEach_brings fun e he => ?_
      obtain ⟨w, -, rfl⟩ := List.mem_map.mp he
      rfl
  | drawName =>
    refine .bind ?_ fun _ _ _ _ => .still rfl
    intro _
    rw [Node.drawId_apply]
    cases hdraw : n.process.ids.draw with
    | error e => exact .refl
    | ok drawn => exact .single (.ask (.draw hdraw))
  | activate | noteStopped | remove => cases horderly
  | noteReclaimed => exact (Node.noteReclaimed_follows (w := ⟨0⟩)).brings
  | quitAll => exact (Node.quitAll_follows (w := ⟨0⟩)).brings_of_requests
  | enterBarrier phase => exact Node.enterBarrier_brings phase
  | pollBarrier phase => exact .bind (Node.pollBarrier_brings phase hs) fun _ _ _ _ => .still rfl
  | pollSends => exact .bind Node.pollSends_brings fun _ _ _ _ => .still rfl
  | broadcast packet exclude =>
    obtain ⟨report, link, -, -, hrun, -⟩ := Node.broadcast_apply packet exclude n
    refine .still ?_
    simp only [run, Node.bind_apply, hrun]
    rfl
  | consume message => exact Node.handleControl_brings message hs
  | shutdown => exact .still rfl

theorem Process.leads_of_pursue? [NetBehaviour σ] [Transport τ]
    {p q : Process σ} {errands : List (Errand σ τ)} (hrun : p.pursue? errands = some q)
    (horderly : ∀ errand ∈ errands, errand.command.isOrderly = true ∧ errand.command.clears = false)
    (hmoving : ∀ errand ∈ errands, ∀ net, errand.command.moved? = some net → moving net)
    (hs : p.outline.Sound) : Scene.Leads moving False p.outline q.outline := by
  refine pursue?_keeps (I := fun q => Scene.Leads moving False p.outline q.outline)
    (fun {q m} errand hmem hafter hleads => hleads.trans ?_) hrun .refl
  obtain ⟨hcommand, hclears⟩ := horderly errand hmem
  have hbrings : Node.Brings moving False (⟨q, errand.link, errand.storage, errand.now⟩ : Node σ τ)
      (errand.command.run _) :=
    Command.brings hcommand (hmoving errand hmem) (by simp [hclears]) (hleads.sound hs)
  unfold Node.after? at hafter
  rcases hresult : errand.command.run (⟨q, errand.link, errand.storage, errand.now⟩ : Node σ τ) with
    ⟨a, k⟩ | ⟨e | c, k⟩ <;> rw [hresult] at hafter hbrings <;> cases hafter
  · exact hbrings (by simp)
  · exact hbrings (by simp)

end PetriCluster
