import PetriCluster.Proofs.Refinement

/-!
# Packets and the end of a run follow the rules

What a process does about a packet is one step, except that the end of all work is a step of its own.
-/

namespace PetriCluster.Node

open Rules Scene

variable {σ τ : Type} [Transport τ] {w : WorkerId} {hand : List (WorkItem σ)} {n : Node σ τ}

/-! ## Acknowledgments -/

theorem sendControl_apply (target : ProcessId) (message : ControlMessage)
    (hwork : message.isWork = false) (n : Node σ τ) :
    ∃ r link ws, attempt (sendControl target message) n = .ok r { n with link } ∧
      Wire.Single target (message.toPacket n.process.id) ws ∧ Wired n.link ws link := by
  rcases hsend : Transport.send n.link target (message.toPacket n.process.id) with ⟨e | _, link⟩
  · refine ⟨.error (.transport e), link, _, ?_, .inr rfl, .refused hsend .nil⟩
    simp only [attempt_apply, sendControl, bind_apply, getProcess_apply, send_apply, hsend]
  · refine ⟨.ok (), link, _, ?_, .inl rfl, .sent hsend .nil⟩
    simp only [attempt_apply, sendControl, bind_apply, getProcess_apply, send_apply, hsend, hwork]
    rfl

theorem acknowledgeHalt_apply (net : NetId) (origin : ProcessId) (n : Node σ τ) :
    ∃ stats link ws, acknowledgeHalt net origin n =
        .ok () { n with link, process := { n.process with stats } } ∧
      Wire.Single origin ((ControlMessage.haltAck net n.process.id).toPacket n.process.id) ws ∧
      Wired n.link ws link := by
  obtain ⟨r, link, ws, hrun, hsingle, hwired⟩ :=
    sendControl_apply origin (.haltAck net n.process.id) rfl n
  rcases r with e | _
  · refine ⟨{ n.process.stats with transportErrors := n.process.stats.transportErrors + 1 },
      link, ws, ?_, hsingle, hwired⟩
    simp only [acknowledgeHalt, bind_apply, getProcess_apply, hrun, tallyTransportErrors,
      tally_apply]
  · refine ⟨n.process.stats, link, ws, ?_, hsingle, hwired⟩
    simp only [acknowledgeHalt, bind_apply, getProcess_apply, hrun, pure_apply]

omit [Transport τ] in
theorem postReclaim_apply (v : WorkerId) (net : NetId) (n : Node σ τ)
    (h : v.index < n.process.inboxes.length) :
    postReclaim v net n = .ok () { n with process := n.process.posted v (.reclaim net) } := by
  simp only [postReclaim, tolerate_apply, post_apply, h, if_true]

omit [Transport τ] in
theorem countAck_apply (net : NetId) (hs : (n.process.scene w hand).Sound) :
    ∃ r p, attempt (countAck net) n = .ok r { n with process := p } ∧
      p.scene w hand = (n.process.scene w hand).countAck net := by
  have hsame : (n.process.scene w hand).registry = n.process.registry := rfl
  rw [Scene.countAck, hsame]
  simp only [attempt_apply, countAck, bind_apply, withRegistry_apply]
  rcases h : n.process.registry.acknowledge net with e | ⟨_ | owner, registry⟩
  · exact ⟨.error e, n.process, rfl, rfl⟩
  · exact ⟨.ok (), { n.process with registry }, rfl, rfl⟩
  · obtain ⟨slot, hslot, -, -, houtcome, -⟩ := Registry.acknowledge_eq_ok h
    have howner : owner.index < n.process.inboxes.length := by
      split at houtcome <;> cases houtcome
      exact hs.owner_valid net slot hslot
    refine ⟨.ok (), { n.process with registry }.posted owner (.reclaim net), ?_, rfl⟩
    simp only [postReclaim_apply, howner]

omit [Transport τ] in
theorem excuse_apply (net : NetId) (count : Nat) (hs : (n.process.scene w hand).Sound) :
    ∃ p, excuse net count n = .ok () { n with process := p } ∧
      p.scene w hand = (n.process.scene w hand).excuse net count := by
  induction count generalizing n with
  | zero => exact ⟨n.process, rfl, rfl⟩
  | succ count ih =>
    obtain ⟨r, p, hrun, hp⟩ := countAck_apply (n := { n with process := { n.process with
      stats := { n.process.stats with
        transportErrors := n.process.stats.transportErrors + 1 } } }) net hs
    have hsound : (p.scene w hand).Sound := hp ▸ Sound.countAck hs net
    obtain ⟨q, hrun', hq⟩ := ih (n := { n with process := p }) hsound
    refine ⟨q, ?_, ?_⟩
    · simp only [excuse, bind_apply, tallyTransportErrors, tally_apply, tolerate, hrun, pure_apply,
        hrun']
    · rw [hq, hp]
      rfl

/-! ## Packets -/

variable [NetBehaviour σ] {naming open_ : Prop} {packet : Packet} {l : τ}

/-- What is shown of the way a process acts on a packet: it takes the packet in, and then the run may
end. -/
def Absorbs (naming open_ : Prop) (w : WorkerId) (hand : List (WorkItem σ)) (packet : Packet)
    (n : Node σ τ) (events : List TokenEvent) {α : Type} : EStateM.Result Fault (Node σ τ) α → Prop
  | .ok _ m => ∃ t ws link later, Takes (n.process.scene w hand) packet ws events t ∧
    Wired n.link ws link ∧ Checks t later (m.process.scene w hand) ∧ Wired link later m.link
  | .error (.refused _) _ => False
  | .error (.crashed c) m => Wreck naming open_ c (n.process.scene w hand) [.took packet]
      (m.process.scene w []) ∧ m.link = n.link

variable {α : Type} {events : List TokenEvent} {net : NetId} {origin : ProcessId} {sender : ProcessId} {wave : UInt64}

theorem Absorbs.takes {a : α} {m : Node σ τ} {ws : List Wire}
    (h : Takes (n.process.scene w hand) packet ws events (m.process.scene w hand))
    (hw : Wired n.link ws m.link) : Absorbs naming open_ w hand packet n events (.ok a m) :=
  ⟨_, ws, m.link, [], h, hw, .rest, .nil⟩

theorem Absorbs.follows
    {result : EStateM.Result Fault (Node σ τ) α}
    (hreceive : Transport.receive l = (.ok (some packet), n.link))
    (h : Absorbs naming open_ w hand packet n events result) :
    (steps naming open_).Follows False w hand hand { n with link := l } events result := by
  rcases result with ⟨a, m⟩ | ⟨e | c, m⟩
  · obtain ⟨t, ws, link, later, htakes, hw, hchecks, hlater⟩ := h
    have hfirst : (steps naming open_).Path (n.process.scene w hand) l events t link :=
      Path.single (R := steps naming open_) (Step.take htakes) (.took hreceive hw)
    have hpath := hfirst.trans (Path.single (R := steps naming open_) hchecks.step hlater)
    rwa [List.append_nil] at hpath
  · exact h.elim
  · obtain ⟨hwreck, hlink⟩ := h
    exact ⟨[], _, _, [.took packet], .nil, hwreck, .took hreceive (hlink ▸ .nil)⟩

theorem ofIndex_mod_lt (count : Nat) {threads : Nat} (h : 0 < threads) :
    (WorkerId.ofIndex (count % threads)).index < threads := by
  have hmod := Nat.mod_lt count h
  simp only [WorkerId.ofIndex, WorkerId.index, UInt32.toNat_ofNat']
  exact Nat.lt_of_le_of_lt (Nat.mod_le ..) hmod

theorem handleControl_spawned_cases (net : NetId) (template : UInt32)
    (parent : Option NetId) (origin : ProcessId) (hs : (n.process.scene w hand).Sound) :
    (∃ p, handleControl (.spawned net template parent origin) n = .ok () { n with process := p } ∧
      (n.process.templates[template.toNat]? = none ∨
        ∃ owner e, n.process.registry.insert net template.toNat owner parent true = .error e) ∧
      p.scene w hand = (n.process.scene w hand).setTermination n.process.termination.recordReceived) ∨
    ∃ owner made registry, (n.process.scene w hand).HasWorker owner ∧
      n.process.templates[template.toNat]? = some made ∧
      n.process.registry.insert net template.toNat owner parent true = .ok registry ∧
      ((∃ p, handleControl (.spawned net template parent origin) n = .ok () { n with process := p } ∧
        NetBehaviour.id (made.create
          ⟨net, template.toNat, parent, n.process.id, n.process.processCount, true⟩) = net ∧
        p.scene w hand = (((n.process.scene w hand).setRegistry registry).setTermination
          n.process.termination.recordReceived).post owner (.adopt (made.create
            ⟨net, template.toNat, parent, n.process.id, n.process.processCount, true⟩))) ∨
      ∃ p, handleControl (.spawned net template parent origin) n =
          .error (.crashed .foreignInstance) { n with process := p } ∧
        NetBehaviour.id (made.create
          ⟨net, template.toNat, parent, n.process.id, n.process.processCount, true⟩) ≠ net ∧
        p.scene w [] = (((n.process.scene w hand).setRegistry registry).setTermination
          n.process.termination.recordReceived).letGo) := by
  have howner : (WorkerId.ofIndex (n.process.copies % n.process.settings.threads)).index <
      n.process.inboxes.length :=
    Nat.lt_of_lt_of_eq (ofIndex_mod_lt n.process.copies hs.threads_pos) hs.inboxes_length.symm
  simp only [handleControl, bind_apply, recordReceived, modifyProcess_apply, attempt_apply,
    spawnCopy, nextOwner, getProcess_apply, pure_apply, getTemplate_apply]
  rcases n.process.templates[template.toNat]? with _ | made
  · exact .inl ⟨_, rfl, .inl rfl, rfl⟩
  · simp only [createInstance_apply]
    rcases hinsert : n.process.registry.insert net template.toNat
      (WorkerId.ofIndex (n.process.copies % n.process.settings.threads)) parent true
      with e | registry
    · exact .inl ⟨_, rfl, .inr ⟨_, e, hinsert⟩, rfl⟩
    · refine .inr ⟨_, made, registry, howner, rfl, hinsert, ?_⟩
      by_cases hid : NetBehaviour.id (made.create
          ⟨net, template.toNat, parent, n.process.id, n.process.processCount, true⟩) = net
      · simp only [hid, if_true, post_apply, howner]
        exact .inl ⟨_, rfl, trivial, rfl⟩
      · simp only [hid, if_false]
        exact .inr ⟨_, rfl, hid, rfl⟩

theorem handleControl_spawned_absorbs {template : UInt32} {parent : Option NetId}
    (hpacket : ControlMessage.ofPacket packet = .ok (.spawned net template parent origin))
    (hs : (n.process.scene w hand).Sound) :
    Absorbs naming open_ w hand packet n [] (handleControl (.spawned net template parent origin) n) := by
  rcases handleControl_spawned_cases net template parent origin hs with
    ⟨p, hrun, -, hp⟩ | ⟨owner, made, registry, howner, hmade, hinsert,
      ⟨p, hrun, hid, hp⟩ | ⟨p, hrun, hid, hp⟩⟩ <;>
    rw [hrun]
  · exact .takes (hp ▸ .spawnRefused hpacket) .nil
  · exact .takes (hp ▸ .spawned hpacket howner hinsert hid) .nil
  · exact ⟨hp ▸ .misfitCopy hpacket howner hinsert ⟨made, List.mem_of_getElem? hmade, _, hid⟩, rfl⟩

theorem haltCopy_absorbs
    (hpacket : ControlMessage.ofPacket packet = .ok (.halted net origin))
    (hs : (n.process.scene w hand).Sound) :
    Absorbs naming open_ w hand packet n [] (haltCopy net origin n) := by
  simp only [haltCopy, bind_apply, takeObligation_apply, attempt_apply, withRegistry_apply]
  rcases h : n.process.registry.beginHalt net with e | ⟨⟨owner, isGlobal⟩ | _, registry⟩
  · have hidle : ∀ owner isGlobal registry,
        n.process.registry.beginHalt net ≠ .ok (.started owner isGlobal, registry) := by simp [h]
    simp only [bind_apply, tallyProtocolError, tally_apply, completeObligation_apply,
      Nat.add_eq_zero_iff, Nat.one_ne_zero, and_false, if_false, Nat.add_sub_cancel]
    obtain ⟨stats, link, ws, hrun, hsingle, hwired⟩ := acknowledgeHalt_apply net origin
      { n with process := { n.process with stats := { n.process.stats with
        protocolErrors := n.process.stats.protocolErrors + 1 } } }
    rw [hrun]
    exact .takes (.haltedBefore hpacket hsingle hidle) hwired
  · have howner := beginHalt_started hs h
    simp only [postCounted_apply, howner]
    exact .takes (.halted hpacket h) .nil
  · have hidle : ∀ owner isGlobal registry,
        n.process.registry.beginHalt net ≠ .ok (.started owner isGlobal, registry) := by simp [h]
    obtain rfl := Registry.beginHalt_eq_alreadyHalting h
    simp only [bind_apply, completeObligation_apply, Nat.add_eq_zero_iff, Nat.one_ne_zero,
      and_false, if_false, Nat.add_sub_cancel]
    obtain ⟨stats, link, ws, hrun, hsingle, hwired⟩ := acknowledgeHalt_apply net origin n
    rw [hrun]
    exact .takes (.haltedBefore hpacket hsingle hidle) hwired

theorem handleControl_haltAck_absorbs
    (hpacket : ControlMessage.ofPacket packet = .ok (.haltAck net sender))
    (hs : (n.process.scene w hand).Sound) :
    Absorbs naming open_ w hand packet n [] (handleControl (.haltAck net sender) n) := by
  obtain ⟨r, p, hrun, hp⟩ := countAck_apply net hs
  have htakes : Takes (n.process.scene w hand) packet [] [] (p.scene w hand) :=
    hp ▸ .haltAck hpacket
  cases r with
  | ok =>
    simp only [handleControl, bind_apply, hrun, pure_apply]
    exact .takes htakes .nil
  | error e =>
    simp only [handleControl, bind_apply, hrun, tallyProtocolError, tally_apply]
    exact .takes htakes .nil

omit [NetBehaviour σ] in
/-- A process that says it is idle has nothing registered and owes nothing. -/
theorem snapshot_apply (w : WorkerId) (hand : List (WorkItem σ)) (n : Node σ τ) :
    ∃ idle, snapshot n = .ok (n.process.termination.snapshot idle) n ∧
      (idle = true → (n.process.scene w hand).Passive) := by
  refine ⟨_, rfl, fun h => ?_⟩
  simp only [Bool.and_eq_true, beq_iff_eq] at h
  exact h.1

theorem answerProbe_absorbs
    (hpacket : ControlMessage.ofPacket packet = .ok (.probe wave)) (htag : packet.tag = .service) :
    Absorbs naming open_ w hand packet n [] (answerProbe wave n) := by
  simp only [answerProbe, bind_apply, isQuitting_apply]
  cases n.process.quitting
  · obtain ⟨idle, hsnapshot, hidle⟩ := snapshot_apply w hand n
    obtain ⟨r, link, ws, hrun, hsingle, hwired⟩ := sendControl_apply ⟨0⟩
      (.probeReply wave n.process.id (n.process.termination.snapshot idle)) rfl n
    rw [if_neg Bool.false_ne_true, bind_apply, hsnapshot]
    simp only [bind_apply, getProcess_apply, tolerate, hrun, pure_apply]
    exact .takes (.probe hpacket hidle hsingle) hwired
  · refine .takes (.ignored htag fun message h => ?_) .nil
    rw [hpacket] at h
    cases h
    rfl

theorem collectReply_absorbs {answer : ProbeSnapshot}
    (hpacket : ControlMessage.ofPacket packet = .ok (.probeReply wave sender answer))
    (htag : packet.tag = .service) :
    Absorbs naming open_ w hand packet n [] (collectReply wave sender answer n) := by
  simp only [collectReply, bind_apply, getProcess_apply]
  cases hcoordinator : n.process.termination.isCoordinator
  · refine .takes (.ignored htag fun message h => ?_) .nil
    rw [hpacket] at h
    cases h
    rfl
  · rcases hreply : n.process.termination.onReply wave.toNat sender answer with
      ⟨c | verdict, termination⟩
    · rw [if_pos rfl]
      exact ⟨.overflow hpacket hcoordinator hreply, rfl⟩
    · rw [if_pos rfl]
      have htakes : Takes (n.process.scene w hand) packet [] []
          ({ n.process with termination }.scene w hand) :=
        .reply hpacket hcoordinator hreply
      cases verdict with
      | pending | ongoing => exact .takes htakes .nil
      | quiescent =>
        obtain ⟨link, ws, hrun, hfarewell, hwired⟩ := quitAll_farewell w hand
          { n with process := { n.process with termination } }
        show Absorbs naming open_ w hand packet n []
          (quitAll { n with process := { n.process with termination } })
        rw [hrun]
        exact ⟨_, [], _, ws, htakes, .nil, .quit hfarewell, hwired⟩

theorem handleControl_absorbs {message : ControlMessage}
    (hpacket : ControlMessage.ofPacket packet = .ok message) (htag : packet.tag = .service)
    (hs : (n.process.scene w hand).Sound) :
    Absorbs naming open_ w hand packet n [] (handleControl message n) := by
  cases message with
  | spawned => exact handleControl_spawned_absorbs hpacket hs
  | halted => exact haltCopy_absorbs hpacket hs
  | haltAck => exact handleControl_haltAck_absorbs hpacket hs
  | quit => exact .takes (.quit hpacket) .nil
  | barrier =>
    refine .takes (.ignored htag fun message h => ?_) .nil
    rw [hpacket] at h
    cases h
    rfl
  | probe => exact answerProbe_absorbs hpacket htag
  | probeReply => exact collectReply_absorbs hpacket htag

omit [Transport τ] in
theorem deliver_takes {parcel : Parcel} (hpacket : packet.parcel = .ok parcel)
    (hs : (n.process.scene w hand).Sound) :
    ∃ p, deliver parcel { n with process := { n.process with
        termination := n.process.termination.recordReceived } } = .ok () { n with process := p } ∧
      Takes (n.process.scene w hand) packet [] (packetEvents packet n) (p.scene w hand) := by
  simp only [deliver, bind_apply, getProcess_apply, packetEvents, hpacket]
  rcases hlive : n.process.registry.liveOwner? parcel.net with _ | owner
  · exact ⟨_, rfl, .lateTokens hpacket hlive⟩
  · obtain ⟨slot, hslot, -, rfl⟩ := Registry.liveOwner?_eq_some.mp hlive
    have howner : slot.owner.index < n.process.inboxes.length := hs.owner_valid _ _ hslot
    refine ⟨{ n.process with termination := n.process.termination.recordReceived }.posted
      slot.owner (.tokens parcel), ?_, .tokens hpacket hlive⟩
    simp only [tolerate_apply, post_apply, howner, if_true]

omit [Transport τ] [NetBehaviour σ] in
theorem packetEvents_of_service (h : packet.tag = .service) (n : Node σ τ) :
    packetEvents packet n = [] := by
  simp [packetEvents, Packet.parcel, h]

theorem dispatch_absorbs (packet : Packet) (hs : (n.process.scene w hand).Sound) :
    Absorbs naming open_ w hand packet n (packetEvents packet n) (dispatch packet n) := by
  unfold dispatch
  cases htag : packet.tag with
  | tokens =>
    simp only [bind_apply, recordReceived, modifyProcess_apply]
    cases hpacket : packet.parcel with
    | ok parcel =>
      obtain ⟨p, hrun, htakes⟩ := deliver_takes hpacket hs
      simp only [hrun]
      exact .takes htakes .nil
    | error e =>
      simp only [packetEvents, hpacket]
      exact .takes (.badTokens htag hpacket) .nil
  | service =>
    rw [packetEvents_of_service htag]
    cases hpacket : ControlMessage.ofPacket packet with
    | ok message => exact handleControl_absorbs hpacket htag hs
    | error e =>
      refine .takes (.ignored htag fun message h => ?_) .nil
      rw [hpacket] at h
      cases h

theorem dispatch_follows (hreceive : Transport.receive l = (.ok (some packet), n.link))
    (hs : (n.process.scene w hand).Sound) :
    (steps naming open_).Follows False w hand hand { n with link := l } (packetEvents packet n)
      (dispatch packet n) :=
  (dispatch_absorbs packet hs).follows hreceive

/-- Taking packets in follows the steps, one packet after the other. -/
theorem receivePackets_follows (limit : Nat) (hs : (n.process.scene w hand).Sound) :
    (steps naming open_).Follows False w hand hand n (receiveEvents limit n) (receivePackets limit n) := by
  induction limit generalizing n with
  | zero => exact .silent rfl rfl
  | succ limit ih =>
    simp only [receivePackets, receiveEvents, bind_apply, attempt_apply, receive_apply]
    rcases hreceive : Transport.receive n.link with ⟨e | _ | packet, link⟩
    · exact .step Step.rest (.failed hreceive .nil)
    · exact .step Step.rest (.nothing hreceive .nil)
    · simp only
      rw [bind_apply]
      refine .andThen hs (dispatch_follows (n := { n with link }) hreceive hs) fun _ m _ hm => ?_
      exact .bind_quiet hm (ih hm) fun _ _ _ _ => .silent rfl rfl

theorem pollSends_follows : (steps naming open_).Follows False w hand hand n [] (pollSends n) :=
  .step Step.rest (.polled rfl .nil)

/-! ## The end -/

omit [NetBehaviour σ] in
theorem probe_checks (hidle : (n.process.scene w hand).Passive) :
    ∃ m ws, probe (n.process.termination.snapshot true) n = .ok () m ∧
      Checks (n.process.scene w hand) ws (m.process.scene w hand) ∧ Wired n.link ws m.link := by
  simp only [probe, bind_apply, get_apply]
  rcases hbegin : n.process.termination.beginWave (n.process.termination.snapshot true) n.now with
    ⟨_ | wave, termination⟩
  · obtain rfl := Termination.beginWave_none hbegin
    exact ⟨_, [], rfl, .rest, .nil⟩
  · obtain ⟨report, link, ws, hrun, hcast, hwired, -⟩ := broadcastControl_apply
      (.probe (UInt64.ofNat wave)) { n with process := { n.process with termination } }
    simp only [modifyProcess_apply, bind_apply, hrun]
    exact ⟨_, ws, rfl, .probe hidle hbegin hcast, hwired⟩

omit [NetBehaviour σ] in
theorem tick_checks (w : WorkerId) (hand : List (WorkItem σ)) (n : Node σ τ) :
    ∃ m ws, tick n = .ok () m ∧ Checks (n.process.scene w hand) ws (m.process.scene w hand) ∧
      Wired n.link ws m.link := by
  obtain ⟨idle, hsnapshot, hidle⟩ := snapshot_apply w hand n
  have hnothing : ∃ m ws, (pure () : NodeM σ τ Unit) n = .ok () m ∧
      Checks (n.process.scene w hand) ws (m.process.scene w hand) ∧ Wired n.link ws m.link :=
    ⟨n, [], rfl, .rest, .nil⟩
  simp only [tick, bind_apply, getProcess_apply]
  by_cases hauto : n.process.settings.autohalt ∧ ¬ n.process.quitting
  · rw [if_pos hauto, bind_apply, hsnapshot]
    cases idle
    · exact hnothing
    · show ∃ m ws, (if n.process.processCount = 1 then quitAll
        else if n.process.termination.isCoordinator then
          probe (n.process.termination.snapshot true)
        else pure ()) n = .ok () m ∧ _
      split
      · obtain ⟨link, ws, hrun, hfarewell, hwired⟩ := quitAll_farewell w hand n
        rw [hrun]
        exact ⟨_, ws, rfl, .quit hfarewell, hwired⟩
      · split
        · exact probe_checks (hidle rfl)
        · exact hnothing
  · rw [if_neg hauto]
    exact hnothing

theorem tick_follows : (steps naming open_).Follows False w hand hand n [] (tick n) := by
  obtain ⟨m, ws, hrun, hchecks, hwired⟩ := tick_checks w hand n
  rw [hrun]
  exact .step hchecks.step hwired

end PetriCluster.Node
