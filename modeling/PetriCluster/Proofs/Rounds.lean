import PetriCluster.Proofs.Intake

/-!
# Workers follow the rules

A worker that deals with an item takes one step for it, after the steps of the requests a firing
makes. From this follows what its operations do, and what all operations of a process do.
-/

namespace PetriCluster

variable {α : Type} {net : NetId} {events : List TokenEvent} {transition : TransitionIndex}
  {worker : WorkerId} {ws : List Wire} {halted : Bool}

namespace OrderedMap

variable {κ υ : Type} [Numbered κ] [DecidableEq κ]

theorem find?_insert (m : OrderedMap κ υ) (k : κ) (v : υ) :
    (m.insert k v).find? = Function.update m.find? k (some v) := by
  funext j
  by_cases h : j = k
  · subst h
    simp
  · rw [Function.update_of_ne h, find?_insert_of_ne _ (Ne.symm h)]

theorem find?_erase (m : OrderedMap κ υ) (k : κ) :
    (m.erase k).find? = Function.update m.find? k none := by
  funext j
  by_cases h : j = k
  · subst h
    simp
  · rw [Function.update_of_ne h, find?_erase_of_ne _ (Ne.symm h)]

end OrderedMap

namespace Process

variable {σ : Type} {p : Process σ} {v w : WorkerId} {hand : List (WorkItem σ)} {net : NetId}

theorem worker_updateWorker_self (h : w.index < p.workers.length) (f : Worker σ → Worker σ) :
    (p.updateWorker w f).worker w = f (p.worker w) := by
  simp [updateWorker, worker, h]

theorem worker_updateWorker_of_ne (h : v ≠ w) (f : Worker σ → Worker σ) :
    (p.updateWorker w f).worker v = p.worker v := by
  have hne : w.index ≠ v.index := fun e => h (WorkerId.index_inj e).symm
  simp [updateWorker, worker, hne]

theorem lt_of_find?_nets {state : σ} (h : (p.worker w).nets.find? net = some state) :
    w.index < p.workers.length := by
  by_contra hnot
  have hnone : p.workers[w.index]? = none := List.getElem?_eq_none (Nat.le_of_not_lt hnot)
  simp only [worker, hnone, Option.getD_none] at h
  cases h

theorem comp_updateWorker {α : Type} (g : Worker σ → α) (h : v.index < p.workers.length)
    (f : Worker σ → Worker σ) : (fun u => g ((p.updateWorker v f).worker u)) =
      Function.update (fun u => g (p.worker u)) v (g (f (p.worker v))) := by
  funext u
  by_cases hu : u = v
  · subst hu
    rw [Function.update_self, worker_updateWorker_self h]
  · rw [Function.update_of_ne hu, worker_updateWorker_of_ne hu]

theorem scene_updateWorker (h : v.index < p.workers.length) (f : Worker σ → Worker σ) :
    (p.updateWorker v f).scene w hand = { p.scene w hand with
      active := Function.update (p.scene w hand).active v (f (p.worker v)).nets.find?
      halting := Function.update (p.scene w hand).halting v (f (p.worker v)).halting.find? } := by
  have hlength : (p.updateWorker v f).workers.length = p.workers.length := by
    simp [updateWorker]
  unfold scene
  rw [comp_updateWorker (fun x => x.nets.find?) h, comp_updateWorker (fun x => x.halting.find?) h,
    hlength]
  rfl

theorem update_active_self : Function.update (p.scene w hand).active v (p.worker v).nets.find? =
    (p.scene w hand).active := Function.update_eq_self ..

theorem update_halting_self : Function.update (p.scene w hand).halting v
    (p.worker v).halting.find? = (p.scene w hand).halting := Function.update_eq_self ..

theorem scene_updateWorker_quiet {f : Worker σ → Worker σ} (hnets : ∀ x, (f x).nets = x.nets)
    (hhalting : ∀ x, (f x).halting = x.halting) :
    (p.updateWorker v f).scene w hand = p.scene w hand := by
  by_cases h : v.index < p.workers.length
  · rw [scene_updateWorker h, hnets, hhalting, update_active_self, update_halting_self]
  · have hsame : p.updateWorker v f = p := by
      unfold updateWorker
      rw [List.modify_eq_self (Nat.le_of_not_lt h)]
    rw [hsame]

theorem scene_store (h : v.index < p.workers.length) (state : σ) :
    (p.updateWorker v fun x => { x with nets := x.nets.insert net state }).scene w hand =
      (p.scene w hand).setActive v net (some state) := by
  rw [scene_updateWorker h]
  simp only [OrderedMap.find?_insert, update_halting_self]
  rfl

theorem scene_remove (h : v.index < p.workers.length) :
    (p.updateWorker v fun x => { x with nets := x.nets.erase net }).scene w hand =
      (p.scene w hand).setActive v net none := by
  rw [scene_updateWorker h]
  simp only [OrderedMap.find?_erase, update_halting_self]
  rfl

theorem scene_stop (h : v.index < p.workers.length) (state : σ) :
    (p.updateWorker v fun x => { x with
      nets := x.nets.erase net, halting := x.halting.insert net state }).scene w hand =
      (p.scene w hand).stop v net state := by
  rw [scene_updateWorker h]
  simp only [OrderedMap.find?_erase, OrderedMap.find?_insert]
  rfl

theorem scene_release (h : v.index < p.workers.length) :
    (p.updateWorker v fun x => { x with halting := x.halting.erase net }).scene w hand =
      (p.scene w hand).setHalting v net none := by
  rw [scene_updateWorker h]
  simp only [OrderedMap.find?_erase, update_active_self]
  rfl

end Process

namespace Node

open Rules Scene

variable {σ τ : Type}
variable {item : WorkItem σ} {rest : List (WorkItem σ)} {m : Node σ τ} {outcome : FiringEnd σ}
  {state : σ} {firing : Firing σ}

/-! ## What does not show -/

theorem record_apply (v : WorkerId) (event : LogEvent) (n : Node σ τ) :
    ∃ p, record v event n = .ok () { n with process := p } ∧
      ∀ w hand, p.scene w hand = n.process.scene w hand :=
  ⟨_, rfl, fun _ _ => Process.scene_updateWorker_quiet (fun _ => rfl) fun _ => rfl⟩

theorem tallyWorker_apply (v : WorkerId) (f : WorkerStats → WorkerStats) (n : Node σ τ) :
    ∃ p, tallyWorker v f n = .ok () { n with process := p } ∧ p.registry = n.process.registry ∧
      ∀ w hand, p.scene w hand = n.process.scene w hand :=
  ⟨_, rfl, rfl, fun _ _ => Process.scene_updateWorker_quiet (fun _ => rfl) fun _ => rfl⟩

theorem closeLog_apply (v : WorkerId) (n : Node σ τ) :
    ∃ p storage, closeLog v n = .ok () { n with process := p, storage } ∧
      ∀ w hand, p.scene w hand = n.process.scene w hand := by
  simp only [closeLog, bind_apply, get_apply]
  rcases (n.process.worker v).log with _ | log
  · exact ⟨n.process, n.storage, rfl, fun _ _ => rfl⟩
  · exact ⟨_, _, rfl, fun _ _ => Process.scene_updateWorker_quiet (fun _ => rfl) fun _ => rfl⟩

theorem openLog_apply (v : WorkerId) (path : String) (n : Node σ τ) :
    ∃ p storage, openLog v path n = .ok () { n with process := p, storage } ∧
      ∀ w hand, p.scene w hand = n.process.scene w hand := by
  obtain ⟨p, storage, hclose, hp⟩ := closeLog_apply v n
  simp only [openLog, bind_apply, hclose, get_apply, onFiles]
  rcases WorkerLog.create ⟨path⟩ n.now storage with ⟨log, storage'⟩ | ⟨e, storage'⟩
  · refine ⟨_, storage', rfl, fun w hand => ?_⟩
    exact Eq.trans (Process.scene_updateWorker_quiet (by exact fun _ => rfl) (by exact fun _ => rfl))
      (hp w hand)
  · exact ⟨p, storage', rfl, hp⟩

/-! ## Dealing with an item -/

variable [NetBehaviour σ] [Transport τ] {w : WorkerId} {hand : List (WorkItem σ)} {n : Node σ τ}
  {naming open_ : Prop}

/-- What is shown of the way a worker deals with an item at its hand. -/
def Settles (w : WorkerId) (hand : List (WorkItem σ)) (item : WorkItem σ) (n : Node σ τ)
    (events : List TokenEvent) {α : Type} : EStateM.Result Fault (Node σ τ) α → Prop
  | .ok _ m => ∃ ws, Deals (n.process.scene w hand) item ws events (m.process.scene w hand) ∧
    Wired n.link ws m.link
  | .error (.refused _) _ => False
  | .error (.crashed c) m => ∃ t, Fails (n.process.scene w hand) item c t ∧
    m.process.scene w [] = t.letGo ∧ m.link = n.link

theorem Settles.deal {a : α} {t : Scene σ} (hm : m.process.scene w hand = t)
    (h : Deals (n.process.scene w hand) item ws events t) (hw : Wired n.link ws m.link) :
    Settles w hand item n events (.ok a m) :=
  ⟨ws, hm ▸ h, hw⟩

theorem Settles.fail {c : Crash} (h : Fails (n.process.scene w hand) item c (n.process.scene w hand))
    (hm : m.process.scene w [] = n.process.scene w []) (hlink : m.link = n.link) :
    Settles w hand item n events (.error (.crashed c) m : EStateM.Result Fault (Node σ τ) α) :=
  ⟨_, h, hm, hlink⟩

theorem Settles.answer {β : Type} {x : NodeM σ τ α} {b : β} (h : Settles w hand item n events (x n)) :
    Settles w hand item n events ((x >>= fun _ => pure b) n) := by
  rw [bind_apply]
  rcases hx : x n with ⟨a, m⟩ | ⟨e | c, m⟩ <;> rw [hx] at h <;> exact h

theorem adopt_settles (made : σ) (hw : w.index < n.process.workers.length) :
    Settles w hand (.adopt made) n [] (adopt w made n) := by
  simp only [adopt, bind_apply, attempt_apply, activate, withRegistry_apply]
  rcases h : n.process.registry.activate (NetBehaviour.id made) w with e | ⟨state, registry⟩
  · have hslot := Registry.activate_eq_error h
    obtain ⟨p, hrun, hregistry, hp⟩ := tallyWorker_apply w
      (fun s => { s with dropped := s.dropped + 1 }) n
    have howner : p.registry.owner? (NetBehaviour.id made) = none := by
      rw [hregistry]
      exact Registry.owner?_eq_none.mpr hslot
    simp only [hrun, bind_apply, getProcess_apply, howner, Option.isNone_none, if_true,
      crash_apply]
    exact .fail (.orphan hslot) (hp w []) rfl
  · obtain ⟨p, hrun, hp⟩ := record_apply w (.adopt (NetBehaviour.id made))
      { n with process := { n.process with registry } }
    simp only [hrun, bind_apply, storeNet, modifyWorker_apply]
    have hlength : w.index < p.workers.length := by
      have : p.workers.length = n.process.workers.length := congrArg Scene.workerCount (hp w hand)
      omega
    refine .deal ?_ (.adopt h) .nil
    rw [Process.scene_store hlength, hp w hand]
    rfl

omit [NetBehaviour σ] [Transport τ] in
/-- An item about a net that the worker does not have active: it is dropped, goes to the owner, or
shows that the net is unknown, which is a crash. -/
theorem reroute_cases (net : NetId) (item : WorkItem σ) (hs : (n.process.scene w hand).Sound) :
    (∃ p, reroute w net item n = .ok () { n with process := p } ∧
      p.scene w hand = n.process.scene w hand ∧
      ((n.process.worker w).halting.find? net ≠ none ∨ n.process.registry.owner? net = none)) ∨
    (∃ p owner, reroute w net item n = .ok () { n with process := p } ∧
      p.scene w hand = (n.process.scene w hand).post owner item ∧
      (n.process.worker w).halting.find? net = none ∧
      n.process.registry.owner? net = some owner) ∨
    ∃ p, reroute w net item n = .error (.crashed (.strayMessage w net)) { n with process := p } ∧
      p.scene w [] = n.process.scene w [] ∧ n.process.registry.state? net = none := by
  obtain ⟨p, hdrop, -, hp⟩ := tallyWorker_apply w (fun s => { s with dropped := s.dropped + 1 }) n
  cases hhalting : (n.process.worker w).halting.find? net with
  | some state =>
    refine .inl ⟨p, ?_, hp w hand, .inl (by simp)⟩
    simp only [reroute, bind_apply, getProcess_apply, OrderedMap.contains, hhalting,
      Option.isSome_some, if_true, hdrop]
  | none =>
    cases howner : n.process.registry.owner? net with
    | some owner =>
      obtain ⟨slot, hslot, rfl⟩ := Registry.owner?_eq_some.mp howner
      have hvalid : slot.owner.index < n.process.inboxes.length := hs.owner_valid _ _ hslot
      obtain ⟨q, hforward, -, hq⟩ :=
        tallyWorker_apply w (fun s => { s with forwarded := s.forwarded + 1 }) n
      have hinboxes : q.inboxes = n.process.inboxes := congrArg Scene.inboxes (hq w hand)
      refine .inr (.inl ?_)
      by_cases hself : slot.owner = w
      · refine ⟨n.process.posted slot.owner item, slot.owner, ?_, rfl, rfl, rfl⟩
        rw [hself] at howner hvalid ⊢
        simp [reroute, bind_apply, OrderedMap.contains, hhalting, howner, tolerate_apply,
          post_apply, hvalid]
      · refine ⟨q.posted slot.owner item, slot.owner, ?_, ?_, rfl, rfl⟩
        · simp [reroute, bind_apply, OrderedMap.contains, hhalting, howner, hself, hforward,
            tolerate_apply, post_apply, hinboxes, hvalid]
        · rw [Process.scene_posted, hq w hand]
    | none =>
      cases hstate : n.process.registry.state? net with
      | some state =>
        refine .inl ⟨p, ?_, hp w hand, .inr rfl⟩
        simp [reroute, bind_apply, OrderedMap.contains, hhalting, howner, hstate, hdrop]
      | none =>
        refine .inr (.inr ⟨p, ?_, hp w [], rfl⟩)
        simp [reroute, bind_apply, OrderedMap.contains, hhalting, howner, hstate, hdrop]

theorem handTokens_settles (parcel : Parcel) (hs : (n.process.scene w hand).Sound) :
    Settles w hand (.tokens parcel) n (itemEvents w (.tokens parcel) n)
      (handTokens w parcel n) := by
  simp only [handTokens, bind_apply, getWorker_apply, itemEvents]
  cases hfound : (n.process.worker w).nets.find? parcel.net with
  | none =>
    rcases reroute_cases parcel.net (.tokens parcel) hs with
      ⟨p, hrun, hp, hwhy⟩ | ⟨p, owner, hrun, hp, hhalting, howner⟩ | ⟨p, hrun, hp, hstate⟩
    · have hdropped : ((n.process.worker w).halting.contains parcel.net ||
          (n.process.registry.owner? parcel.net).isNone) = true := by
        simpa [OrderedMap.contains, Option.isSome_iff_ne_none] using hwhy
      simp only [hrun, hdropped, Option.isSome_none, Bool.false_eq_true, if_false, if_true]
      exact .deal hp (.drop hfound hwhy) .nil
    · simp only [hrun, OrderedMap.contains, hhalting, howner, Option.isSome_none,
        Option.isNone_some, Bool.or_self, Bool.false_eq_true, if_false]
      exact .deal hp (.reroute rfl nofun nofun hfound hhalting howner) .nil
    · simp only [hrun]
      exact .fail (.stray rfl hfound hstate) hp rfl
  | some state =>
    have hw := Process.lt_of_find?_nets hfound
    obtain ⟨p, hrun, -, hp⟩ := tallyWorker_apply w (fun s =>
      { s with tokensReceived := s.tokensReceived + parcel.batch.count.toNat }) n
    have hlength : w.index < p.workers.length := by
      have : p.workers.length = n.process.workers.length := congrArg Scene.workerCount (hp w hand)
      omega
    obtain ⟨q, hrecord, hq⟩ := record_apply w (.tokens parcel.net parcel.place parcel.batch.count)
      { n with process := p.updateWorker w fun x => { x with
        nets := x.nets.insert parcel.net
          (NetBehaviour.receive state parcel.place parcel.batch).state } }
    have hstored : ∀ hand, (p.updateWorker w fun x => { x with
        nets := x.nets.insert parcel.net
          (NetBehaviour.receive state parcel.place parcel.batch).state }).scene w hand =
        (n.process.scene w hand).setActive w parcel.net
          (some (NetBehaviour.receive state parcel.place parcel.batch).state) := by
      intro hand
      rw [Process.scene_store hlength, hp w hand]
    have hdeal := Deals.hand (s := n.process.scene w hand) hfound
    simp only [Option.isSome_some, if_true, hrun, bind_apply, storeNet, modifyWorker_apply]
    cases hreception : NetBehaviour.receive state parcel.place parcel.batch with
    | accepted | refused =>
      rw [hreception] at hrecord hstored hq
      simp only [hrecord]
      exact .deal ((hq w hand).trans (hstored hand)) (hreception ▸ hdeal) .nil
    | crashed after c =>
      rw [hreception] at hstored
      exact ⟨_, .broken hfound hreception, hstored [], rfl⟩

/-- What follows when the owner has stopped an instance, as it is done for a net that is gone, a copy
whose halt a peer asked for, a net that lives here only, and a net all peers have a copy of. -/
inductive Aftermath (s : Scene σ) (w : WorkerId) (net : NetId) :
    Option ProcessId → List Wire → Scene σ → Prop
  | forgotten {origin : Option ProcessId} : s.registry.slot? net = none →
      Aftermath s w net origin [] s
  | copy {peer : ProcessId} {ws : List Wire} :
      Wire.Single peer ((ControlMessage.haltAck net s.id).toPacket s.id) ws →
      Aftermath s w net (some peer) ws (s.post w (.reclaim net))
  | single : Aftermath s w net none [] (s.post w (.reclaim net))
  | everywhere {registry : Registry} {ws : List Wire} : s.Announces net →
      s.registry.expectAcks net (s.processCount - 1) = .ok registry →
      Wire.Broadcast ((ControlMessage.halted net s.id).toPacket s.id) s.peers ws →
      Aftermath s w net none ws ((s.setRegistry registry).excuse net (ws.countP Wire.isRefused))

omit [NetBehaviour σ] in
theorem noteStopped_apply (net : NetId) (origin : Option ProcessId)
    (hs : (n.process.scene w hand).Sound) (hw : w.index < n.process.inboxes.length) :
    ∃ p link ws t, noteStopped net w origin n = .ok () { n with process := p, link } ∧
      Wired n.link ws link ∧ p.scene w hand = t ∧
      Aftermath (n.process.scene w hand) w net origin ws t := by
  have hlocal (link : τ) (stats : ProcessStats) : postReclaim w net
      { n with link, process := { n.process with stats } } = .ok () { n with
        link, process := { n.process with stats }.posted w (.reclaim net) } :=
    postReclaim_apply _ _ _ hw
  simp only [noteStopped, bind_apply, getProcess_apply]
  cases hslot : n.process.registry.slot? net with
  | none => exact ⟨n.process, n.link, [], _, rfl, .nil, rfl, .forgotten hslot⟩
  | some slot =>
    cases origin with
    | some peer =>
      obtain ⟨stats, link, ws, hrun, hsingle, hwired⟩ := acknowledgeHalt_apply net peer n
      refine ⟨{ n.process with stats }.posted w (.reclaim net), link, ws, _, ?_, hwired, rfl,
        .copy hsingle⟩
      simp only [bind_apply, hrun]
      exact hlocal link stats
    | none =>
      by_cases hglobal : slot.isGlobal ∧ 1 < n.process.processCount
      · simp only [hglobal, and_self, if_true, announceHalt, bind_apply, getProcess_apply,
          attempt_apply, changeRegistry_apply]
        cases hexpect : n.process.registry.expectAcks net (n.process.processCount - 1) with
        | error e => exact ⟨_, n.link, [], _, hlocal n.link n.process.stats, .nil, rfl, .single⟩
        | ok registry =>
          obtain ⟨found, hfound, -, hregistry⟩ := Registry.expectAcks_eq_ok hexpect
          have howner := hs.owner_valid net found hfound
          obtain ⟨report, link, ws, hrun, hcast, hwired, hfailures⟩ := broadcastControl_apply
            (.halted net n.process.id) { n with process := { n.process with registry } }
          obtain ⟨p, hexcuse, hp⟩ := excuse_apply
            (n := { n with link, process := { n.process with registry } })
            (w := w) net (ws.countP Wire.isRefused) (hs.setSlot hregistry howner)
          refine ⟨p, link, ws, _, ?_, hwired, hp,
            .everywhere ⟨⟨slot, hslot, hglobal.1⟩, hglobal.2⟩ hexpect hcast⟩
          simp only [bind_apply, hrun, hfailures]
          exact hexcuse
      · simp only [hglobal, if_false]
        exact ⟨_, n.link, [], _, hlocal n.link n.process.stats, .nil, rfl, .single⟩

theorem stop_settles (net : NetId) (origin : Option ProcessId)
    (hs : (n.process.scene w hand).Sound) (hw : w.index < n.process.inboxes.length) :
    Settles w hand (.halt net origin) n [] (stop w net origin n) := by
  simp only [stop, bind_apply, getWorker_apply]
  cases hfound : (n.process.worker w).nets.find? net with
  | none =>
    cases hhalting : (n.process.worker w).halting.find? net with
    | some state =>
      simp only [OrderedMap.contains, hhalting, Option.isSome_some, if_true]
      exact .deal rfl (.dropHalt hfound (.inl (by simp [Process.scene, hhalting]))) .nil
    | none =>
      simp only [OrderedMap.contains, hhalting, Option.isSome_none, Bool.false_eq_true, if_false]
      rcases reroute_cases net (.halt net origin) hs with
        ⟨p, hrun, hp, hwhy⟩ | ⟨p, owner, hrun, hp, hhalting, howner⟩ | ⟨p, hrun, hp, hstate⟩ <;>
        simp only [hrun]
      · exact .deal hp (.dropHalt hfound hwhy) .nil
      · exact .deal hp (.reroute rfl (by simp) (by simp) hfound hhalting howner) .nil
      · exact .fail (.stray rfl hfound hstate) hp rfl
  | some state =>
    have hlength := Process.lt_of_find?_nets hfound
    obtain ⟨p, hrecord, hp⟩ := record_apply w (.halt net)
      { n with process := n.process.updateWorker w fun x => { x with
        nets := x.nets.erase net, halting := x.halting.insert net state } }
    have hstopped : p.scene w hand = (n.process.scene w hand).stop w net state :=
      (hp w hand).trans (Process.scene_stop hlength state)
    have hsound : (p.scene w hand).Sound := by
      rw [hstopped]
      exact (hs.setActive ..).setHalting ..
    have hinboxes : p.inboxes = n.process.inboxes := congrArg Scene.inboxes hstopped
    obtain ⟨q, link, ws, t, hrun, hwired, hq, haftermath⟩ := noteStopped_apply
      (n := { n with process := p }) net origin hsound (by rwa [hinboxes])
    simp only [modifyWorker_apply, bind_apply, hrecord, hrun]
    simp only [hstopped] at haftermath
    cases haftermath with
    | forgotten hslot => exact .deal hq (.stopForgotten hfound hslot) hwired
    | copy hsingle => exact .deal hq (.stopCopy hfound hsingle) hwired
    | single => exact .deal hq (.stopLocal hfound) hwired
    | everywhere hannounces hexpect hcast =>
      exact .deal hq (.stopGlobal hfound hannounces hexpect hcast) hwired

theorem reclaim_settles (net : NetId) (hw : w.index < n.process.workers.length) :
    Settles w hand (.reclaim net) n [] (reclaim w net n) := by
  have hreleased (registry : Registry) : { n.process.updateWorker w fun x => { x with
      halting := x.halting.erase net } with registry }.scene w hand =
      ((n.process.scene w hand).setRegistry registry).setHalting w net none :=
    congrArg (fun s : Scene σ => s.setRegistry registry) (Process.scene_release hw)
  simp only [reclaim, bind_apply, modifyWorker_apply, attempt_apply, withRegistry_apply]
  rw [show (n.process.updateWorker w fun x => { x with halting := x.halting.erase net }).registry =
    n.process.registry from rfl]
  cases hretire : n.process.registry.retire net with
  | error e => exact .deal (hreleased n.process.registry) (.reclaimRefused hretire) .nil
  | ok result =>
    obtain ⟨slot, registry⟩ := result
    obtain ⟨p, htally, -, hp⟩ := tallyWorker_apply w
      (fun s => { s with reclaimed := s.reclaimed + 1 }) { n with
        process := { n.process.updateWorker w fun x => { x with
          halting := x.halting.erase net } with registry } }
    obtain ⟨q, hrecord, hq⟩ := record_apply w (.reclaim net) { n with process := p }
    simp only [htally, bind_apply, hrecord, pure_apply]
    exact .deal ((hq w hand).trans ((hp w hand).trans (hreleased registry))) (.reclaim hretire) .nil

/-! ## Firing -/

/-- By induction on the firing: each request is a step. -/
theorem perform_follows (worker : WorkerId) (net : NetId) (halted : Bool) (firing : Firing σ)
    (hs : (n.process.scene w hand).Sound) :
    (requests naming).Follows False w hand hand n (performEvents worker net firing n)
      (perform worker net halted firing n) := by
  -- A firing is a tree of requests; what comes next depends on the answer, hence `ih r` for all `r`.
  induction firing generalizing n halted with
  | fired | notEnabled | failed | crashed => exact .silent rfl rfl
  | send target parcel next ih =>
    exact .bind hs (.attempt (sendTokens_follows target parcel hs)) fun r m _ hm => ih r halted hm
  | multicast targets parcel next ih =>
    exact .bind hs (multicast_follows targets parcel hs) fun r m _ hm => ih r halted hm
  | spawn template isGlobal next ih =>
    exact .bind hs (.attempt (spawn_follows worker template none (some net) isGlobal (by simp) hs))
      fun r m _ hm => ih r halted hm
  | halt next ih =>
    exact .bind hs (.attempt (halt_follows worker net hs)) fun r m _ hm => ih r true hm
  | haltNet other next ih =>
    exact .bind hs (.attempt (halt_follows worker other hs)) fun r m _ hm => ih r halted hm
  | quit next ih =>
    exact .bind hs quitAll_follows fun _ m _ hm => ih halted hm

omit [Transport τ] [NetBehaviour σ] in
theorem bind_eq_ok {β : Type} {x : NodeM σ τ α} {f : α → NodeM σ τ β} {b : β}
    (h : (x >>= f) n = .ok b m) : ∃ a k, x n = .ok a k ∧ f a k = .ok b m := by
  rw [bind_apply] at h
  rcases hx : x n with ⟨a, k⟩ | ⟨e, k⟩ <;> rw [hx] at h
  · exact ⟨a, k, rfl, h⟩
  · cases h

/-- A firing that is carried out ends as the net says. -/
theorem perform_ends (h : perform worker net halted firing n = .ok outcome m) :
    firing.Ends outcome.state ∧ ∀ c, outcome.result = .crashed c → firing.Crashes c := by
  induction firing generalizing n halted with
  | fired => cases h; exact ⟨.fired _, nofun⟩
  | notEnabled => cases h; exact ⟨.notEnabled _, nofun⟩
  | failed => cases h; exact ⟨.failed _ _, nofun⟩
  | crashed => cases h; exact ⟨.crashed _ _, fun c hc => by cases hc; exact .crashed _⟩
  | send target parcel next ih =>
    obtain ⟨r, k, -, hk⟩ := bind_eq_ok h
    exact (ih r hk).imp (.send r) fun hcrash c hc => .send r (hcrash c hc)
  | multicast targets parcel next ih =>
    obtain ⟨r, k, -, hk⟩ := bind_eq_ok h
    exact (ih r hk).imp (.multicast r) fun hcrash c hc => .multicast r (hcrash c hc)
  | spawn template isGlobal next ih =>
    obtain ⟨r, k, -, hk⟩ := bind_eq_ok h
    exact (ih r hk).imp (.spawn r) fun hcrash c hc => .spawn r (hcrash c hc)
  | halt next ih =>
    obtain ⟨r, k, -, hk⟩ := bind_eq_ok h
    exact (ih r hk).imp (.halt r) fun hcrash c hc => .halt r (hcrash c hc)
  | haltNet other next ih =>
    obtain ⟨r, k, -, hk⟩ := bind_eq_ok h
    exact (ih r hk).imp (.haltNet r) fun hcrash c hc => .haltNet r (hcrash c hc)
  | quit next ih =>
    obtain ⟨_, k, -, hk⟩ := bind_eq_ok h
    exact (ih hk).imp .quit fun hcrash c hc => .quit (hcrash c hc)

theorem storeNet_follows {after : σ} {context : FireContext}
    (hfound : (n.process.worker w).nets.find? net = some state)
    (hends : (NetBehaviour.fire state context transition).Ends after) :
    (steps naming open_).Follows False w hand hand n [] (storeNet w net after n) := by
  refine .step ?_ .nil
  show Step naming open_ (n.process.scene w hand) [] [] ((n.process.updateWorker w fun x =>
    { x with nets := x.nets.insert net after }).scene w hand)
  rw [Process.scene_store (Process.lt_of_find?_nets hfound)]
  exact .store hfound hends

theorem perform_found (hfound : (n.process.worker w).nets.find? net = some state)
    (hs : (n.process.scene w hand).Sound) (h : perform worker net halted firing n = .ok outcome m) :
    (m.process.worker w).nets.find? net = some state := by
  have hperform : (requests True).Follows _ w hand hand n _ (perform worker net halted firing n) :=
    perform_follows worker net halted firing hs
  rw [h] at hperform
  exact (congrFun (congrFun (Path.active_eq hperform) w) net).trans hfound

theorem fireTransition_eq (net : NetId) (state : σ) (transition : TransitionIndex)
    (n : Node σ τ) : fireTransition w net state transition n =
      (perform w net false (NetBehaviour.fire state
        ⟨net, w, n.process.id, n.process.processCount⟩ transition) >>= fun outcome =>
        storeNet w net outcome.state >>= fun _ =>
          match outcome.result with
          | .crashed c => crash c
          | _ => pure outcome) n := rfl

theorem fireTransition_follows (transition : TransitionIndex)
    (hfound : (n.process.worker w).nets.find? net = some state) (hs : (n.process.scene w hand).Sound) :
    (steps naming open_).Follows False w hand hand n (firingEvents w net state transition n)
      (fireTransition w net state transition n) := by
  have hfiring : open_ ∨ (n.process.scene w hand).Firing :=
    .inr ⟨w, net, Option.isSome_iff_exists.mpr ⟨state, hfound⟩⟩
  rw [fireTransition_eq]
  refine .bind_quiet hs (.of_requests (perform_follows w net false _ hs) hfiring)
    fun outcome m hrun hm => ?_
  refine .bind_quiet hm (storeNet_follows (perform_found hfound hs hrun) (perform_ends hrun).1)
    fun _ k _ _ => ?_
  cases hresult : outcome.result with
  | fired | notEnabled | failed => exact .silent rfl rfl
  | crashed c =>
    have hcrash : NetBehaviour.CanCrash σ c := .inr ⟨_, _, _, (perform_ends hrun).2 c hresult⟩
    exact ⟨[], _, _, [], .nil, Wreck.lost (.inr hcrash), .nil⟩

/-- After a firing the worker has the instance as the firing left it. -/
theorem fireTransition_found (hfound : (n.process.worker w).nets.find? net = some state)
    (hs : (n.process.scene w hand).Sound) (h : fireTransition w net state transition n = .ok outcome m) :
    (m.process.worker w).nets.find? net = some outcome.state := by
  rw [fireTransition_eq] at h
  obtain ⟨reached, k, hperform, h⟩ := bind_eq_ok h
  have hlength := Process.lt_of_find?_nets (perform_found hfound hs hperform)
  simp only [bind_apply, storeNet, modifyWorker_apply] at h
  cases hresult : reached.result <;> rw [hresult] at h <;> cases h
  all_goals
    rw [Process.worker_updateWorker_self hlength]
    exact OrderedMap.find?_insert_self ..

theorem record_follows (event : LogEvent) :
    (steps naming open_).Follows False w hand hand n [] (record w event n) := by
  obtain ⟨p, hrun, hp⟩ := record_apply w event n
  rw [hrun]
  exact .silent (hp w hand) rfl

theorem tallyWorker_follows (f : WorkerStats → WorkerStats) :
    (steps naming open_).Follows False w hand hand n [] (tallyWorker w f n) := by
  obtain ⟨p, hrun, -, hp⟩ := tallyWorker_apply w f n
  rw [hrun]
  exact .silent (hp w hand) rfl

theorem noteReclaimed_follows : (steps naming open_).Follows False w hand hand n [] (noteReclaimed n) := by
  rw [noteReclaimed, bind_apply, tally_apply]
  exact tick_follows (n := { n with process := { n.process with stats := _ } })

/-! ## The inbox -/

omit [NetBehaviour σ] [Transport τ] in
theorem finish_apply (released : Bool) (howed : item.weight ≤ m.process.obligations) :
    (do
      if item.isObligation then completeObligation
      return released : NodeM σ τ Bool) m = .ok released { m with process := { m.process with
        obligations := m.process.obligations - item.weight } } := by
  cases hitem : item.isObligation
  · simp [WorkItem.weight, hitem]
  · have hne : m.process.obligations ≠ 0 := by
      simp only [WorkItem.weight, hitem, if_true] at howed
      omega
    simp only [WorkItem.weight, hitem, if_true, bind_apply, completeObligation_apply, if_neg hne,
      pure_apply]

theorem weight_le_of_deals {s t : Scene σ} (hs : s.Sound) (hhand : s.hand = item :: rest)
    (h : Deals s item ws events t) : item.weight ≤ t.obligations := by
  have ht : t.Sound := h.sound hs (hs.hand_valid (by simp [hhand]))
  have howed := ht.owed
  simp only [count, h.hand_eq.1, hhand, List.countP_cons] at howed
  simp only [WorkItem.weight]
  omega

theorem finish_follows {s : Scene σ} {l : τ} {before : List TokenEvent} (released : Bool)
    (hs : (n.process.scene w (item :: rest)).Sound)
    (hpath : (steps naming open_).Path (n.process.scene w (item :: rest)) n.link before s l)
    (hdeal : Deals s item ws events (m.process.scene w (item :: rest))) (hwired : Wired l ws m.link) :
    (steps naming open_).Follows False w (item :: rest) rest n (before ++ events)
      ((do
        if item.isObligation then completeObligation
        return released : NodeM σ τ Bool) m) := by
  have hhand : s.hand = item :: rest := hdeal.hand_eq.1.symm.trans rfl
  have howed : item.weight ≤ m.process.obligations :=
    weight_le_of_deals (hpath.sound hs) hhand hdeal
  rw [finish_apply released howed]
  exact hpath.trans (Path.single (R := steps naming open_) (Step.deal hhand hdeal howed) hwired)

theorem fireOne_follows (transition : TransitionIndex)
    (hfound : (n.process.worker w).nets.find? net = some state) (hs : (n.process.scene w hand).Sound) :
    (steps naming open_).Follows False w hand hand n (firingEvents w net state transition n)
      (fireOne w net transition n) := by
  simp only [fireOne, bind_apply, getWorker_apply, hfound]
  rw [← bind_apply]
  refine .bind_quiet hs (fireTransition_follows transition hfound hs) fun outcome m _ hm => ?_
  split
  · exact .bind_quiet hm (tallyWorker_follows _) fun _ _ _ _ => record_follows _
  · exact .silent rfl rfl

/-- A request to fire: the firing makes its requests first, then the item is done. -/
theorem complete_fire_follows (hs : (n.process.scene w (.fire net transition :: rest)).Sound) :
    (steps naming open_).Follows False w (.fire net transition :: rest) rest n
      (itemEvents w (.fire net transition) n) (complete w (.fire net transition) n) := by
  simp only [complete, handle, itemEvents]
  rw [bind_apply, bind_apply]
  cases hfound : (n.process.worker w).nets.find? net with
  | none =>
    have hreroute : fireOne w net transition n = reroute w net (.fire net transition) n := by
      simp only [fireOne, bind_apply, getWorker_apply, hfound]
    rw [hreroute]
    rcases reroute_cases net (.fire net transition) hs with
      ⟨p, hrun, hp, -⟩ | ⟨p, owner, hrun, hp, hhalting, howner⟩ | ⟨p, hrun, hp, hstate⟩ <;> rw [hrun]
    · exact finish_follows false hs .nil (hp ▸ Deals.fired) .nil
    · exact finish_follows false hs .nil
        (hp ▸ Deals.reroute rfl nofun nofun hfound hhalting howner) .nil
    · have hwreck : Wreck naming open_ (.strayMessage w net)
          (n.process.scene w (.fire net transition :: rest)) [] _ :=
        .lost (.inl ⟨_, rest, _, rfl, .stray rfl hfound hstate⟩)
      exact ⟨[], _, _, [], .nil, hp ▸ hwreck, .nil⟩
  | some state =>
    have hfire : (steps naming open_).Follows False w _ _ n _ _ := fireOne_follows transition hfound hs
    rcases hrun : fireOne w net transition n with ⟨a, m⟩ | ⟨e | c, m⟩ <;> rw [hrun] at hfire
    · have h := finish_follows false hs hfire Deals.fired .nil
      rwa [List.append_nil] at h
    · exact hfire.1.elim
    · exact hfire

theorem handle_settles (hfire : ∀ net transition, item ≠ .fire net transition)
    (hs : (n.process.scene w (item :: rest)).Sound) :
    Settles w (item :: rest) item n (itemEvents w item n) (handle w item n) := by
  have hw : w.index < n.process.inboxes.length := hs.hand_valid (by simp [Process.scene])
  have hworkers : w.index < n.process.workers.length := by
    have h₁ : n.process.inboxes.length = n.process.settings.threads := hs.inboxes_length
    have h₂ : n.process.workers.length = n.process.settings.threads := hs.workers_length
    omega
  cases item with
  | adopt made => exact (adopt_settles made hworkers).answer
  | tokens parcel => exact (handTokens_settles parcel hs).answer
  | halt net origin => exact (stop_settles net origin hs hw).answer
  | reclaim net => exact reclaim_settles net hworkers
  | fire net transition => exact absurd rfl (hfire net transition)
  | startLog path =>
    obtain ⟨p, storage, hrun, hp⟩ := openLog_apply w path n
    refine Settles.answer ?_
    rw [hrun]
    exact .deal (hp w _) (.log rfl) .nil
  | stopLog =>
    obtain ⟨p, storage, hrun, hp⟩ := closeLog_apply w n
    refine Settles.answer ?_
    rw [hrun]
    exact .deal (hp w _) (.log rfl) .nil

theorem complete_follows (hs : (n.process.scene w (item :: rest)).Sound) :
    (steps naming open_).Follows False w (item :: rest) rest n (itemEvents w item n)
      (complete w item n) := by
  by_cases hfire : ∃ net transition, item = .fire net transition
  · obtain ⟨net, transition, rfl⟩ := hfire
    exact complete_fire_follows hs
  · have h := handle_settles (fun net transition heq => hfire ⟨net, transition, heq⟩) hs
    rw [complete, bind_apply]
    rcases hx : handle w item n with ⟨a, m⟩ | ⟨e | c, m⟩ <;> rw [hx] at h
    · obtain ⟨ws, hdeal, hwired⟩ := h
      exact finish_follows a hs .nil hdeal hwired
    · exact h.elim
    · obtain ⟨t, hfails, hm, hlink⟩ := h
      exact ⟨[], _, _, [], .nil, hm ▸ hfails.wreck rfl, hlink ▸ .nil⟩

theorem dealWith_follows (hs : (n.process.scene w (item :: rest)).Sound) :
    (steps naming open_).Follows False w (item :: rest) rest n (itemEvents w item n)
      (dealWith w item n) := by
  have hcomplete : (steps naming open_).Follows False w _ _ n _ _ := complete_follows hs
  rw [dealWith, bind_apply]
  rcases hrun : complete w item n with ⟨released, m⟩ | ⟨e | c, m⟩ <;> rw [hrun] at hcomplete
  · cases released
    · exact hcomplete
    · have h : (steps naming open_).Follows False w (item :: rest) rest n _ _ :=
        .after_path hcomplete noteReclaimed_follows
      rwa [List.append_nil] at h
  · exact hcomplete.1.elim
  · exact hcomplete

/-- What is shown of dealing with an item at hand: what becomes of it is a step of its own, and then
the run may end. -/
def Concludes (w : WorkerId) (item : WorkItem σ) (rest : List (WorkItem σ)) (n : Node σ τ)
    (events : List TokenEvent) {α : Type} : EStateM.Result Fault (Node σ τ) α → Prop
  | .ok _ m => ∃ t ws link later, Deals (n.process.scene w (item :: rest)) item ws events t ∧
    Wired n.link ws link ∧ Checks (t.finish item rest) later (m.process.scene w rest) ∧
    Wired link later m.link
  | .error (.refused _) _ => False
  | .error (.crashed c) m => ∃ t, Fails (n.process.scene w (item :: rest)) item c t ∧
    m.process.scene w [] = t.letGo ∧ m.link = n.link

theorem dealWith_concludes (hfire : ∀ net transition, item ≠ .fire net transition)
    (hs : (n.process.scene w (item :: rest)).Sound) :
    Concludes w item rest n (itemEvents w item n) (dealWith w item n) := by
  have h := handle_settles hfire hs
  rw [dealWith, complete, bind_apply, bind_apply]
  rcases hx : handle w item n with ⟨released, m⟩ | ⟨e | c, m⟩ <;> rw [hx] at h
  · obtain ⟨ws, hdeal, hwired⟩ := h
    have howed : item.weight ≤ m.process.obligations := weight_le_of_deals hs rfl hdeal
    simp only [finish_apply released howed]
    cases released with
    | false => exact ⟨_, ws, m.link, [], hdeal, hwired, .rest, .nil⟩
    | true =>
      obtain ⟨k, later, hrun, hchecks, hlater⟩ := tick_checks w rest { m with process := { m.process with
        obligations := m.process.obligations - item.weight
        stats := { m.process.stats with netsReclaimed := m.process.stats.netsReclaimed + 1 } } }
      simp only [if_true, noteReclaimed, bind_apply, tally_apply, hrun]
      exact ⟨_, ws, m.link, later, hdeal, hwired, hchecks, hlater⟩
  · exact h.elim
  · exact h

theorem handleAll_cons (item : WorkItem σ) (rest : List (WorkItem σ)) :
    (handleAll w (item :: rest) : NodeM σ τ Unit) = dealWith w item >>= fun _ => handleAll w rest := by
  funext n
  simp only [handleAll, dealWith, complete, bind_apply]
  rcases handle w item n with ⟨released, m⟩ | ⟨e, m⟩
  · cases item.isObligation <;> cases released <;> simp [bind_apply]
    all_goals rcases completeObligation m with ⟨_, k⟩ | ⟨e, k⟩ <;> rfl
  · rfl

/-- By induction on the items: dealing with all of them follows the steps. -/
theorem handleAll_follows (items : List (WorkItem σ)) (hs : (n.process.scene w items).Sound) :
    (steps naming open_).Follows False w items [] n (handleEvents w items n) (handleAll w items n) := by
  -- The items at hand are those not dealt with yet, so the hand shrinks with the list.
  induction items generalizing n with
  | nil => exact .silent rfl rfl
  | cons item rest ih =>
    rw [handleAll_cons, bind_apply, handleEvents]
    have hdeal : (steps naming open_).Follows False w _ _ n _ _ := dealWith_follows hs
    rcases hrun : dealWith w item n with ⟨_, m⟩ | ⟨e | c, m⟩ <;> rw [hrun] at hdeal
    · exact .after_path hdeal (ih (Path.sound hdeal hs))
    · exact hdeal.1.elim
    · exact hdeal

theorem processMessages_follows (hs : (n.process.scene w []).Sound) :
    (steps naming open_).Follows False w [] [] n (messageEvents w n) (processMessages w n) := by
  have hdrain : (steps naming open_).Path (n.process.scene w []) n.link []
      ({ n.process with inboxes := n.process.inboxes.set w.index [] }.scene w (n.process.inbox w))
      n.link := Path.single (R := steps naming open_) (Step.drain rfl) .nil
  have hall : (steps naming open_).Follows False w [] [] n (messageEvents w n)
      (handleAll w (n.process.inbox w) { n with process := { n.process with
        inboxes := n.process.inboxes.set w.index [] } }) :=
    .after_path hdrain (handleAll_follows _ (hdrain.sound hs))
  rw [processMessages, bind_apply, drainInbox]
  simp only [bind_apply, getProcess_apply, modifyProcess_apply, pure_apply]
  refine .andThen_quiet hs hall fun _ m _ hm => ?_
  obtain ⟨p, hrun, -, hp⟩ := tallyWorker_apply w
    (fun s => { s with messages := s.messages + (n.process.inbox w).length }) m
  simp only [hrun]
  exact .silent (hp w []) rfl

/-! ## Rounds -/

theorem fireAndRecord_follows (transition : TransitionIndex)
    (hfound : (n.process.worker w).nets.find? net = some state) (hs : (n.process.scene w hand).Sound) :
    (steps naming open_).Follows False w hand hand n (firingEvents w net state transition n)
      (fireAndRecord w net state transition n) := by
  refine .bind_quiet hs (fireTransition_follows transition hfound hs) fun outcome m _ hm => ?_
  by_cases hfired : outcome.result = .fired
  · rw [if_pos hfired]
    exact .bind_quiet hm (record_follows _) fun _ _ _ _ => .silent rfl rfl
  · rw [if_neg hfired]
    exact .silent rfl rfl

theorem fireAndRecord_found (hfound : (n.process.worker w).nets.find? net = some state)
    (hs : (n.process.scene w hand).Sound) (h : fireAndRecord w net state transition n = .ok outcome m) :
    (m.process.worker w).nets.find? net = some outcome.state := by
  obtain ⟨reached, k, hfire, h⟩ := bind_eq_ok h
  have hk := fireTransition_found hfound hs hfire
  split at h
  · obtain ⟨p, hrecord, hp⟩ := record_apply w (.fire net transition) k
    rw [bind_apply, hrecord] at h
    cases h
    exact (congrFun (congrFun (congrArg Scene.active (hp w hand)) w) net).trans hk
  · cases h
    exact hk

theorem fireEach_cons (net : NetId) (state : σ) (transition : TransitionIndex)
    (rest : List TransitionIndex) (fired : Nat) (n : Node σ τ) :
    fireEach w net state (transition :: rest) fired n =
      if n.process.quitting then .ok fired n
      else (fireAndRecord w net state transition >>= fun outcome =>
        let fired := if outcome.result = .fired then fired + 1 else fired
        if outcome.halted then pure fired else fireEach w net outcome.state rest fired) n := by
  simp only [fireEach, bind_apply, isQuitting_apply]
  cases n.process.quitting
  · simp only [fireAndRecord, Bool.false_eq_true, if_false, bind_apply]
    rcases fireTransition w net state transition n with ⟨outcome, m⟩ | ⟨e, m⟩
    · by_cases hfired : outcome.result = .fired <;> simp [hfired, bind_apply]
      rcases record w (.fire net transition) m with ⟨_, k⟩ | ⟨e, k⟩ <;> simp [hfired]
    · rfl
  · rfl

/-- By induction on the transitions. -/
theorem fireEach_follows (transitions : List TransitionIndex) (fired : Nat)
    (hfound : (n.process.worker w).nets.find? net = some state) (hs : (n.process.scene w hand).Sound) :
    (steps naming open_).Follows False w hand hand n (fireEachEvents w net state transitions n)
      (fireEach w net state transitions fired n) := by
  induction transitions generalizing n state fired with
  | nil => exact .silent rfl rfl
  | cons transition rest ih =>
    rw [fireEach_cons, fireEachEvents]
    cases n.process.quitting
    · refine .bind hs (fireAndRecord_follows transition hfound hs) fun outcome m hrun hm => ?_
      cases outcome.halted
      · exact ih _ (fireAndRecord_found hfound hs hrun) hm
      · exact .silent rfl rfl
    · exact .silent rfl rfl

/-- By induction on the nets. -/
theorem fireNets_follows (nets : List NetId) (fired : Nat) (hs : (n.process.scene w hand).Sound) :
    (steps naming open_).Follows False w hand hand n (fireNetsEvents w nets fired n)
      (fireNets w nets fired n) := by
  induction nets generalizing n fired with
  | nil => exact .silent rfl rfl
  | cons net rest ih =>
    simp only [fireNets, fireNetsEvents, bind_apply, isQuitting_apply]
    cases n.process.quitting
    · simp only [Bool.false_eq_true, if_false, bind_apply, getWorker_apply]
      cases hfound : (n.process.worker w).nets.find? net with
      | none => exact ih fired hs
      | some state =>
        exact .bind hs (fireEach_follows _ fired hfound hs) fun fired m _ hm => ih fired hm
    · exact .silent rfl rfl

theorem fireReady_follows (hs : (n.process.scene w hand).Sound) :
    (steps naming open_).Follows False w hand hand n (fireReadyEvents w n) (fireReady w n) := by
  rw [fireReady, bind_apply, getWorker_apply]
  exact .bind_quiet hs (fireNets_follows _ 0 hs) fun _ m _ hm =>
    .bind_quiet hm (tallyWorker_follows _) fun _ _ _ _ => .silent rfl rfl

theorem runOnce_follows (hs : (n.process.scene w []).Sound) :
    (steps naming open_).Follows False w [] [] n (roundEvents w n) (runOnce w n) := by
  refine .bind hs (processMessages_follows hs) fun handled m _ hm => ?_
  refine .bind hm (fireReady_follows hm) fun fired k _ hk => ?_
  refine .bind_quiet hk (receivePackets_follows packetBatch hk) fun received j _ hj => ?_
  refine .bind_quiet hj pollSends_follows fun _ i _ hi => ?_
  split
  · exact .bind_quiet hi tick_follows fun _ _ _ _ => .silent rfl rfl
  · exact .silent rfl rfl

/-! ## Calls from outside -/

theorem requestFiring_follows (net : NetId) (transition : TransitionIndex) (hopen : open_)
    (hs : (n.process.scene w hand).Sound) :
    (steps naming open_).Follows True w hand hand n [] (requestFiring net transition n) := by
  simp only [requestFiring, bind_apply, getProcess_apply]
  cases howner : n.process.registry.liveOwner? net with
  | none => exact .refusal
  | some owner =>
    obtain ⟨slot, hslot, -, rfl⟩ := Registry.liveOwner?_eq_some.mp howner
    have hvalid : slot.owner.index < n.process.inboxes.length := hs.owner_valid _ _ hslot
    simp only [post_apply, hvalid, if_true]
    exact .step (Step.requestFiring hopen howner) .nil

theorem migrate_follows (net : NetId) (target : WorkerId) (hopen : open_)
    (hs : (n.process.scene w hand).Sound) :
    (steps naming open_).Follows True w hand hand n [] (migrate w net target n) := by
  refine .bind_quiet hs (checkWorker_follows target) fun _ m hm hms => ?_
  obtain ⟨htarget, rfl⟩ := checkWorker_eq_ok hm
  simp only [bind_apply, getWorker_apply]
  cases hfound : (m.process.worker w).nets.find? net with
  | none => exact .refusal
  | some state =>
    have hremoved (registry : Registry) : { m.process.updateWorker w fun x => { x with
        nets := x.nets.erase net } with registry }.scene w hand =
        ((m.process.scene w hand).setRegistry registry).setActive w net none :=
      congrArg (fun s : Scene σ => s.setRegistry registry)
        (Process.scene_remove (Process.lt_of_find?_nets hfound))
    have hinboxes : (m.process.updateWorker w fun x => { x with
        nets := x.nets.erase net }).inboxes = m.process.inboxes := rfl
    have hregistry : (m.process.updateWorker w fun x => { x with
        nets := x.nets.erase net }).registry = m.process.registry := rfl
    simp only [modifyWorker_apply, bind_apply, handOver, checkWorker_apply, hinboxes, htarget,
      if_true, changeRegistry_apply, hregistry]
    cases howner : m.process.registry.setOwner (NetBehaviour.id state) target with
    | error e =>
      have hstep : Step naming open_ (m.process.scene w hand) [] []
          ((m.process.updateWorker w fun x => { x with nets := x.nets.erase net }).scene w hand) :=
        hremoved m.process.registry ▸ Step.migrateLost hopen hfound howner
      exact ⟨trivial, Path.single (R := steps naming open_) hstep .nil⟩
    | ok registry =>
      have hstep : Step naming open_ (m.process.scene w hand) [] []
          (({ m.process.updateWorker w fun x => { x with nets := x.nets.erase net } with
            registry }.scene w hand).post target (.adopt state)) :=
        hremoved registry ▸ Step.migrate hopen hfound htarget howner
      simp only [post_apply, htarget, if_true]
      exact .step (R := steps naming open_) hstep .nil

end Node

end PetriCluster
