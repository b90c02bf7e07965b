import PetriCluster.Proofs.Fronts

/-!
# Operations run in courses

Every operation of a process and its workers is a course with the moments listed for it. What goes on
inside the process does not show at its front; what goes out or changes the registry is a shift; a
request for a net and a packet are moments.
-/

namespace PetriCluster.Node

variable {σ τ α : Type} [NetBehaviour σ] [Transport τ] {naming : NetId → Prop}
  {entering : BarrierPhase → Prop} {n : Node σ τ}

/-! ## Inside the process -/

theorem checkWorker_runs (w : WorkerId) : Runs naming entering n [] (checkWorker w n) := by
  rw [checkWorker_apply]
  split <;> exact .still rfl rfl

theorem post_runs (w : WorkerId) (item : WorkItem σ) : Runs naming entering n [] (post w item n) := by
  rw [post_apply]
  split <;> exact .still rfl rfl

theorem completeObligation_runs : Runs naming entering n [] (completeObligation n) := by
  rw [completeObligation_apply]
  split <;> exact .still rfl rfl

theorem postCounted_runs (w : WorkerId) (item : WorkItem σ) :
    Runs naming entering n [] (postCounted w item n) := by
  simp only [postCounted, bind_apply, getProcess_apply]
  split
  · exact .still rfl rfl
  · exact completeObligation_runs

theorem postEach_runs (items : List (WorkerId × WorkItem σ)) :
    Runs naming entering n [] (postEach items n) := by
  induction items generalizing n with
  | nil => exact .still rfl rfl
  | cons first rest ih => exact .before (post_runs ..) fun _ _ _ => ih

theorem discardAll_runs (items : List (WorkItem σ)) : Runs naming entering n [] (discardAll items n) := by
  induction items generalizing n with
  | nil => exact .still rfl rfl
  | cons item rest ih =>
    simp only [discardAll]
    cases item.isObligation
    · exact ih
    · exact .before completeObligation_runs fun _ _ _ => ih

theorem closeLog_runs (w : WorkerId) : Runs naming entering n [] (closeLog w n) := by
  simp only [closeLog, bind_apply, get_apply]
  cases (n.process.worker w).log <;> exact .still rfl rfl

theorem onFiles_runs (x : StorageM α) : Runs naming entering n [] (onFiles x n) := by
  unfold onFiles
  cases x n.storage <;> exact .still rfl rfl

theorem openLog_runs (w : WorkerId) (path : String) : Runs naming entering n [] (openLog w path n) := by
  refine .before (closeLog_runs w) fun _ m _ => ?_
  refine .before (.still rfl rfl) fun _ k _ => ?_
  refine .before (onFiles_runs _) fun r j _ => ?_
  cases r <;> exact .still rfl rfl

/-! ## The registry -/

theorem withRegistry_runs {f : Registry → Except RuntimeError (α × Registry)}
    (hf : ∀ a r, f n.process.registry = .ok (a, r) → n.process.registry.Changes r) :
    Runs naming entering n [] (withRegistry f n) := by
  rw [withRegistry_apply]
  rcases h : f n.process.registry with e | ⟨a, registry⟩
  · exact .still rfl rfl
  · exact .shift (.change (hf a registry h)) .nil

theorem changeRegistry_runs {f : Registry → Except RuntimeError Registry}
    (hf : ∀ r, f n.process.registry = .ok r → n.process.registry.Changes r) :
    Runs naming entering n [] (changeRegistry f n) := by
  rw [changeRegistry_apply]
  rcases h : f n.process.registry with e | registry
  · exact .still rfl rfl
  · exact .shift (.change (hf registry h)) .nil

theorem handOver_runs (made : σ) (target : WorkerId) :
    Runs naming entering n [] (handOver made target n) := by
  refine .before (checkWorker_runs target) fun _ m _ => ?_
  refine .before (changeRegistry_runs fun _ => .setOwner) fun _ k _ => ?_
  exact post_runs ..

theorem postReclaim_runs (w : WorkerId) (net : NetId) : Runs naming entering n [] (postReclaim w net n) :=
  .tolerate (post_runs ..)

theorem countAck_runs (net : NetId) : Runs naming entering n [] (countAck net n) := by
  refine .before (withRegistry_runs fun _ _ => .acknowledge) fun outcome m _ => ?_
  cases outcome with
  | waiting => exact .still rfl rfl
  | complete owner => exact postReclaim_runs owner net

theorem excuse_runs (net : NetId) (count : Nat) : Runs naming entering n [] (excuse net count n) := by
  induction count generalizing n with
  | zero => exact .still rfl rfl
  | succ count ih =>
    refine .before (.still rfl rfl) fun _ m _ => ?_
    exact .before (.tolerate (countAck_runs net)) fun _ _ _ => ih

theorem halt_runs (requester : WorkerId) (net : NetId) :
    Runs naming entering n [] (halt requester net n) := by
  refine .before (checkWorker_runs requester) fun _ m _ => ?_
  refine .before (.still rfl rfl) fun _ k _ => ?_
  refine .before (.attempt (withRegistry_runs fun _ _ => .beginHalt)) fun r j _ => ?_
  rcases r with e | ⟨owner, isGlobal⟩ | _
  · exact .before completeObligation_runs fun _ _ _ => .still rfl rfl
  · exact postCounted_runs ..
  · exact completeObligation_runs

/-! ## Packets that go out -/

theorem sendTokens_runs (target : ProcessId) (parcel : Parcel) :
    Runs naming entering n [] (sendTokens target parcel n) := by
  by_cases hlocal : target = n.process.id
  · rcases howner : n.process.registry.liveOwner? parcel.net with _ | owner
    · simp only [sendTokens, bind_apply, getProcess_apply, hlocal, if_true, howner]
      exact .still rfl rfl
    · have hrun : sendTokens target parcel n = (post owner (.tokens parcel) >>= fun _ =>
          tally fun s => { s with localDeliveries := s.localDeliveries + 1 }) n := by
        simp only [sendTokens, bind_apply, getProcess_apply, hlocal, if_true, howner]
      rw [hrun]
      exact .before (post_runs ..) fun _ _ _ => .still rfl rfl
  · rcases hsend : Transport.send n.link target (.ofTokens n.process.id parcel) with ⟨e | _, link⟩
    · simp only [sendTokens, bind_apply, getProcess_apply, hlocal, if_false, attempt_apply,
        send_apply, hsend]
      exact .shift .refused (.refused hsend .nil)
    · simp only [sendTokens, bind_apply, getProcess_apply, hlocal, if_false, attempt_apply,
        send_apply, hsend]
      exact .shift .tokens (.sent hsend .nil)

theorem multicast_runs (targets : List ProcessId) (parcel : Parcel) :
    Runs naming entering n [] (multicast targets parcel n) := by
  have each : ∀ (targets : List ProcessId) (n : Node σ τ),
      Runs naming entering n [] (forEachTarget (sendTokens · parcel) targets n) := by
    intro targets
    induction targets with
    | nil => exact fun n => .still rfl rfl
    | cons target rest ih =>
      intro n
      refine .before (.attempt (sendTokens_runs target parcel)) fun _ m _ => ?_
      exact .before (ih m) fun _ _ _ => .still rfl rfl
  exact .before (each _ n) fun _ _ _ => .still rfl rfl

theorem requestFiring_runs (net : NetId) (transition : TransitionIndex) :
    Runs naming entering n [] (requestFiring net transition n) := by
  simp only [requestFiring, bind_apply, getProcess_apply]
  cases n.process.registry.liveOwner? net with
  | none => exact .still rfl rfl
  | some owner => exact post_runs ..

theorem acknowledgeHalt_runs (net : NetId) (origin : ProcessId) :
    Runs naming entering n [] (acknowledgeHalt net origin n) := by
  obtain ⟨stats, link, ws, hrun, hsingle, hwired⟩ := acknowledgeHalt_apply net origin n
  rw [hrun]
  rcases hsingle with rfl | rfl
  · exact .shift .haltAck hwired
  · exact .shift .refused hwired

theorem haltCopy_runs (net : NetId) (origin : ProcessId) :
    Runs naming entering n [] (haltCopy net origin n) := by
  refine .before (.still rfl rfl) fun _ m _ => ?_
  refine .before (.attempt (withRegistry_runs fun _ _ => .beginHalt)) fun r k _ => ?_
  rcases r with e | ⟨owner, isGlobal⟩ | _
  · refine .before (.still rfl rfl) fun _ j _ => ?_
    exact .before completeObligation_runs fun _ _ _ => acknowledgeHalt_runs net origin
  · exact postCounted_runs ..
  · exact .before completeObligation_runs fun _ _ _ => acknowledgeHalt_runs net origin

theorem broadcastControl_runs {message : ControlMessage} (hwork : message.isWork = false)
    (hshift : ∀ ws, n.process.front.Tells message ws →
      n.process.front.Shift entering ws n.process.front) :
    Runs naming entering n [] (broadcastControl message n) := by
  obtain ⟨report, link, ws, hrun, hcast, hwired, -⟩ := broadcastControl_apply message n
  rw [hwork] at hrun
  rw [hrun]
  exact .shift (hshift ws hcast) hwired

theorem announceHalt_runs (net : NetId) (w : WorkerId) :
    Runs naming entering n [] (announceHalt net w n) := by
  simp only [announceHalt, bind_apply, getProcess_apply]
  rw [← bind_apply]
  refine .before (.attempt (changeRegistry_runs fun _ => .expectAcks)) fun r m hm => ?_
  cases r with
  | error => exact postReclaim_runs w net
  | ok =>
    have hid : n.process.id = m.process.id := by
      simp only [attempt_apply, changeRegistry_apply] at hm
      cases hexpect : n.process.registry.expectAcks net (n.process.processCount - 1) <;>
        rw [hexpect] at hm <;> cases hm
      rfl
    rw [hid]
    refine .before (broadcastControl_runs rfl fun _ => .halted) fun report k _ => ?_
    exact excuse_runs net _

theorem noteStopped_runs (net : NetId) (w : WorkerId) (origin : Option ProcessId) :
    Runs naming entering n [] (noteStopped net w origin n) := by
  simp only [noteStopped, bind_apply, getProcess_apply]
  cases n.process.registry.slot? net with
  | none => exact .still rfl rfl
  | some slot =>
    cases origin with
    | some origin =>
      exact .before (acknowledgeHalt_runs net origin) fun _ _ _ => postReclaim_runs w net
    | none =>
      simp only
      split
      · exact announceHalt_runs net w
      · exact postReclaim_runs w net

/-! ## The end of the run -/

theorem quitAll_runs : Runs naming entering n [] (quitAll n) := by
  obtain ⟨link, ws, hrun, hfarewell, hwired⟩ := quitAll_farewell ⟨0⟩ [] n
  rw [hrun]
  exact .shift (.quit hfarewell) hwired

theorem probe_runs (own : ProbeSnapshot) : Runs naming entering n [] (probe own n) := by
  simp only [probe, bind_apply, get_apply]
  rcases hbegin : n.process.termination.beginWave own n.now with ⟨_ | wave, termination⟩
  · obtain rfl := Termination.beginWave_none hbegin
    exact .still rfl rfl
  · obtain ⟨report, link, ws, hrun, hcast, hwired, -⟩ := broadcastControl_apply
      (.probe (UInt64.ofNat wave)) { n with process := { n.process with termination } }
    simp only [modifyProcess_apply, bind_apply, hrun]
    exact .shift (.probe hbegin hcast) hwired

theorem tick_runs : Runs naming entering n [] (tick n) := by
  simp only [tick, bind_apply, getProcess_apply]
  split
  · refine .before (.still rfl rfl) fun own m _ => ?_
    split
    · split
      · exact quitAll_runs
      · split
        · exact probe_runs own
        · exact .still rfl rfl
    · exact .still rfl rfl
  · exact .still rfl rfl

theorem noteReclaimed_runs : Runs naming entering n [] (noteReclaimed n) :=
  .before (.still rfl rfl) fun _ _ _ => tick_runs

/-! ## Requests for nets -/

theorem spawnNamed_acts {owner : WorkerId} {template : Template σ} {index : Nat}
    {requested parent : Option NetId} {isGlobal : Bool} {net : NetId} {ids : IdSource}
    (howner : owner.index < n.process.inboxes.length)
    (hname : n.process.front.Names naming requested net ids) :
    ∃ ws g k, n.process.front.Acts naming (.spawn owner index requested parent isGlobal)
        (answer? (spawnNamed owner template index parent isGlobal net
          { n with process := { n.process with ids } }))
        (spent? requested (spawnNamed owner template index parent isGlobal net
          { n with process := { n.process with ids } })) ws g ∧
      Wired n.link ws k ∧
      Course naming entering g k []
        (final (spawnNamed owner template index parent isGlobal net
          { n with process := { n.process with ids } })).process.front
        (final (spawnNamed owner template index parent isGlobal net
          { n with process := { n.process with ids } })).link := by
  simp only [spawnNamed, bind_apply, createInstance_apply]
  rcases hinsert : n.process.registry.insert net index owner parent isGlobal with e | registry
  · -- the name is taken: if it was drawn, it is lost
    cases hname with
    | drawn hdraw => exact ⟨[], _, _, .notMade (by simp), .nil, .single (.draw hdraw) .nil⟩
    | chosen hnaming => exact ⟨[], _, _, .notMade (by simpa using hnaming), .nil, .nil⟩
  · by_cases hid : NetBehaviour.id (template.create
        ⟨net, index, parent, n.process.id, n.process.processCount, isGlobal⟩) = net
    · simp only [hid, if_true, getProcess_apply]
      by_cases hglobal : isGlobal ∧ 1 < n.process.processCount
      · obtain ⟨report, link, ws, hrun, hcast, hwired, -⟩ := broadcastControl_apply
          (.spawned net (UInt32.ofNat index) parent n.process.id)
          { n with process := { n.process with
            ids, registry, stats := { n.process.stats with
              netsSpawned := n.process.stats.netsSpawned + 1 } } }
        rw [if_pos hglobal, bind_apply, hrun]
        simp only [tallyTransportErrors, tally_apply, bind_apply, post_apply, howner, if_true]
        exact ⟨ws, _, link, .made hinsert hname ((if_pos hglobal).mpr hcast), hwired, .nil⟩
      · simp only [hglobal, if_false, bind_apply, post_apply, howner, if_true]
        exact ⟨[], _, _, .made hinsert hname ((if_neg hglobal).mpr rfl), .nil, .nil⟩
    · simp only [hid, if_false]
      exact ⟨[], _, _, .misfit hinsert hname, .nil, .nil⟩

theorem spawn_acts (entering : BarrierPhase → Prop) (owner : WorkerId) (index : Nat)
    (requested parent : Option NetId) (isGlobal : Bool)
    (hnaming : ∀ net, requested = some net → naming net) :
    ∃ ws g k, n.process.front.Acts naming (.spawn owner index requested parent isGlobal)
        (answer? (spawn owner index requested parent isGlobal n))
        (spent? requested (spawn owner index requested parent isGlobal n)) ws g ∧
      Wired n.link ws k ∧
      Course naming entering g k []
        (final (spawn owner index requested parent isGlobal n)).process.front
        (final (spawn owner index requested parent isGlobal n)).link := by
  rw [spawn_eq, bind_apply, checkWorker_apply]
  by_cases howner : owner.index < n.process.inboxes.length
  · simp only [if_pos howner, bind_apply, getTemplate_apply]
    cases n.process.templates[index]? with
    | none => exact ⟨[], _, _, .notMade hnaming, .nil, .nil⟩
    | some template =>
      cases requested with
      | some net => exact spawnNamed_acts howner (.chosen (hnaming net rfl))
      | none =>
        simp only [bind_apply, drawId_apply]
        rcases hdraw : n.process.ids.draw with e | ⟨net, ids⟩
        · exact ⟨[], _, _, .notMade hnaming, .nil, .nil⟩
        · exact spawnNamed_acts howner (.drawn hdraw)
  · simp only [if_neg howner]
    exact ⟨[], _, _, .notMade hnaming, .nil, .nil⟩

theorem spawn_runs (owner : WorkerId) (index : Nat) (requested parent : Option NetId)
    (isGlobal : Bool) (hnaming : ∀ net, requested = some net → naming net) :
    Runs naming entering n [⟨.spawn owner index requested parent isGlobal, n⟩]
      (spawn owner index requested parent isGlobal n) := by
  obtain ⟨ws, g, k, hacts, hwired, hinner⟩ :=
    spawn_acts (n := n) entering owner index requested parent isGlobal hnaming
  exact .moment ⟨rfl, rfl⟩ hacts hwired hinner .nil

/-! ## Packets that come in -/

theorem answerProbe_runs (wave : UInt64) : Runs naming entering n [] (answerProbe wave n) := by
  simp only [answerProbe, bind_apply, isQuitting_apply]
  cases n.process.quitting
  · obtain ⟨idle, hsnapshot, -⟩ := snapshot_apply ⟨0⟩ [] n
    obtain ⟨r, link, ws, hrun, hsingle, hwired⟩ := sendControl_apply ⟨0⟩
      (.probeReply wave n.process.id (n.process.termination.snapshot idle)) rfl n
    rw [if_neg Bool.false_ne_true, bind_apply, hsnapshot]
    simp only [bind_apply, getProcess_apply, tolerate, hrun, pure_apply]
    rcases hsingle with rfl | rfl
    · exact .shift .reply hwired
    · exact .shift .refused hwired
  · exact .still rfl rfl

theorem spawned_heeds (net : NetId) (template : UInt32) (parent : Option NetId) (origin : ProcessId) :
    ∃ g, n.process.front.Heeds (.spawned net template parent origin) g ∧
      Course naming entering g n.link []
        (final (handleControl (.spawned net template parent origin) n)).process.front
        (final (handleControl (.spawned net template parent origin) n)).link := by
  simp only [handleControl, bind_apply, recordReceived, modifyProcess_apply, attempt_apply,
    spawnCopy, nextOwner, getProcess_apply, pure_apply, getTemplate_apply]
  rcases htemplate : n.process.templates[template.toNat]? with _ | made
  · exact ⟨_, .noCopy (.inl htemplate), .nil⟩
  · simp only [createInstance_apply]
    rcases hinsert : n.process.registry.insert net template.toNat
      (WorkerId.ofIndex (n.process.copies % n.process.settings.threads)) parent true
      with e | registry
    · exact ⟨_, .noCopy (.inr ⟨_, e, hinsert⟩), .nil⟩
    · refine ⟨_, .copy hinsert, ?_⟩
      by_cases hid : NetBehaviour.id (made.create
          ⟨net, template.toNat, parent, n.process.id, n.process.processCount, true⟩) = net
      · simp only [hid, if_true, post_apply]
        by_cases howner : (WorkerId.ofIndex (n.process.copies % n.process.settings.threads)).index <
            n.process.inboxes.length
        · simp only [howner, if_true]
          exact .nil
        · simp only [howner, if_false]
          exact .nil
      · simp only [hid, if_false]
        exact .nil

theorem collectReply_heeds (wave : UInt64) (sender : ProcessId) (answer : ProbeSnapshot) :
    ∃ g, n.process.front.Heeds (.probeReply wave sender answer) g ∧
      Course naming entering g n.link [] (final (collectReply wave sender answer n)).process.front
        (final (collectReply wave sender answer n)).link := by
  simp only [collectReply, bind_apply, getProcess_apply]
  cases n.process.termination.isCoordinator
  · exact ⟨_, .note rfl (by simp), .nil⟩
  · rcases hreply : n.process.termination.onReply wave.toNat sender answer with
      ⟨c | verdict, termination⟩
    · exact ⟨_, .reply hreply, .nil⟩
    · refine ⟨_, .reply hreply, ?_⟩
      cases verdict with
      | pending | ongoing => exact .nil
      | quiescent => exact quitAll_runs (n := { n with process := { n.process with termination } })

theorem handleControl_heeds (naming : NetId → Prop) (entering : BarrierPhase → Prop)
    (message : ControlMessage) (n : Node σ τ) :
    ∃ g, n.process.front.Heeds message g ∧
      Course naming entering g n.link [] (final (handleControl message n)).process.front
        (final (handleControl message n)).link := by
  cases message with
  | spawned net template parent origin => exact spawned_heeds net template parent origin
  | halted net origin => exact ⟨_, .note rfl (by simp), haltCopy_runs net origin⟩
  | haltAck net sender =>
    have hrun : Runs naming entering n [] (handleControl (.haltAck net sender) n) := by
      refine .before (.attempt (countAck_runs net)) fun r m _ => ?_
      cases r <;> exact .still rfl rfl
    exact ⟨_, .note rfl (by simp), hrun⟩
  | quit sender => exact ⟨_, .quit, .nil⟩
  | barrier phase sender => exact ⟨_, .barrier, .nil⟩
  | probe wave => exact ⟨_, .note rfl (by simp), answerProbe_runs wave⟩
  | probeReply wave sender answer => exact collectReply_heeds wave sender answer

theorem dispatch_acts (naming : NetId → Prop) (packet : Packet) (n : Node σ τ) :
    ∃ g, n.process.front.Acts naming (.packet packet) none none [.took packet] g ∧
      Course naming entering g n.link [] (final (dispatch packet n)).process.front
        (final (dispatch packet n)).link := by
  unfold dispatch
  cases htag : packet.tag with
  | tokens =>
    refine ⟨_, .tokens htag, ?_⟩
    simp only [bind_apply, recordReceived, modifyProcess_apply]
    cases packet.parcel with
    | error e => exact .nil
    | ok parcel =>
      simp only [deliver, bind_apply, getProcess_apply]
      cases n.process.registry.liveOwner? parcel.net with
      | none => exact .nil
      | some owner =>
        exact Runs.tolerate (post_runs (n := { n with process := { n.process with
          termination := n.process.termination.recordReceived } }) owner (.tokens parcel))
  | service =>
    cases hpacket : ControlMessage.ofPacket packet with
    | ok message =>
      obtain ⟨g, hheeds, hcourse⟩ := handleControl_heeds naming entering message n
      exact ⟨g, .message hpacket hheeds, hcourse⟩
    | error e =>
      have hnone : packet.message? = none := by
        cases hmessage : packet.message? with
        | none => rfl
        | some m =>
          rw [Packet.message?_eq_some.mp hmessage] at hpacket
          cases hpacket
      exact ⟨_, .noise htag hnone, .nil⟩

/-- Taking packets in: each is a moment of the course. -/
theorem receivePackets_runs (limit : Nat) :
    Runs naming entering n (receiveMoments limit n) (receivePackets limit n) := by
  induction limit generalizing n with
  | zero => exact .still rfl rfl
  | succ limit ih =>
    simp only [receivePackets, receiveMoments, bind_apply, attempt_apply, receive_apply]
    rcases hreceive : Transport.receive n.link with ⟨e | _ | packet, link⟩
    · exact .shift .rest (.failed hreceive .nil)
    · exact .shift .rest (.nothing hreceive .nil)
    · simp only
      obtain ⟨g, hacts, hinner⟩ := dispatch_acts naming packet { n with link }
      have hmoment : Course naming entering n.process.front n.link [⟨.packet packet, { n with link }⟩]
          (final (dispatch packet { n with link })).process.front
          (final (dispatch packet { n with link })).link :=
        .moment ⟨rfl, hreceive⟩ hacts (.took hreceive .nil) hinner .nil
      rw [bind_apply]
      rcases hrun : dispatch packet { n with link } with ⟨_, m⟩ | ⟨e, m⟩ <;> rw [hrun] at hmoment
      · have hrest : Runs naming entering m (receiveMoments limit m)
            ((receivePackets limit >>= fun count => pure (count + 1)) m) :=
          .before ih fun _ _ _ => .still rfl rfl
        exact hmoment.trans hrest
      · exact hmoment

theorem pollSends_runs : Runs naming entering n [] (pollSends n) :=
  .shift .rest (.polled rfl .nil)

/-! ## Workers -/

/-- By induction on the firing: its spawns are the moments of the course. -/
theorem perform_runs (worker : WorkerId) (net : NetId) (halted : Bool) (firing : Firing σ) :
    Runs naming entering n (performMoments worker net firing n) (perform worker net halted firing n) := by
  -- What comes next depends on the answer to a request, hence `ih r` for all `r`.
  induction firing generalizing n halted with
  | fired | notEnabled | failed | crashed => exact .still rfl rfl
  | send target parcel next ih =>
    exact .after (.attempt (sendTokens_runs target parcel)) fun r _ _ => ih r halted
  | multicast targets parcel next ih =>
    exact .after (multicast_runs targets parcel) fun r _ _ => ih r halted
  | spawn template isGlobal next ih =>
    exact .bind (.attempt (spawn_runs worker template none (some net) isGlobal (by simp)))
      fun r _ _ => ih r halted
  | halt next ih => exact .after (.attempt (halt_runs worker net)) fun r _ _ => ih r true
  | haltNet other next ih => exact .after (.attempt (halt_runs worker other)) fun r _ _ => ih r halted
  | quit next ih => exact .after quitAll_runs fun _ _ _ => ih halted

section

variable (w : WorkerId)

theorem fireTransition_runs (net : NetId) (state : σ) (transition : TransitionIndex) :
    Runs naming entering n (firingMoments w net state transition n)
      (fireTransition w net state transition n) := by
  rw [fireTransition, bind_apply, getProcess_apply]
  refine .before (perform_runs w net false _) fun outcome m _ => ?_
  refine .before (.still rfl rfl) fun _ k _ => ?_
  cases outcome.result <;> exact .still rfl rfl

theorem reroute_runs (net : NetId) (item : WorkItem σ) :
    Runs naming entering n [] (reroute w net item n) := by
  simp only [reroute, bind_apply, getProcess_apply]
  split
  · exact .still rfl rfl
  · cases n.process.registry.owner? net with
    | some owner =>
      simp only
      split
      · exact .before (.still rfl rfl) fun _ _ _ => .tolerate (post_runs ..)
      · exact .tolerate (post_runs ..)
    | none =>
      refine .before (.still rfl rfl) fun _ m _ => ?_
      split <;> exact .still rfl rfl

theorem adopt_runs (made : σ) : Runs naming entering n [] (adopt w made n) := by
  refine .before (.attempt (withRegistry_runs fun _ _ => .activate)) fun r m _ => ?_
  cases r with
  | ok => exact .before (.still rfl rfl) fun _ _ _ => .still rfl rfl
  | error =>
    refine .before (.still rfl rfl) fun _ k _ => ?_
    refine .before (.still rfl rfl) fun _ j _ => ?_
    split <;> exact .still rfl rfl

theorem handTokens_runs (parcel : Parcel) :
    Runs naming entering n [] (handTokens w parcel n) := by
  simp only [handTokens, bind_apply, getWorker_apply]
  cases (n.process.worker w).nets.find? parcel.net with
  | none => exact reroute_runs ..
  | some state =>
    simp only
    refine .before (.still rfl rfl) fun _ m _ => ?_
    refine .before (.still rfl rfl) fun _ k _ => ?_
    cases NetBehaviour.receive state parcel.place parcel.batch <;> exact .still rfl rfl

theorem stop_runs (net : NetId) (origin : Option ProcessId) :
    Runs naming entering n [] (stop w net origin n) := by
  simp only [stop, bind_apply, getWorker_apply]
  cases (n.process.worker w).nets.find? net with
  | some state =>
    refine .before (.still rfl rfl) fun _ m _ => ?_
    exact .before (.still rfl rfl) fun _ _ _ => noteStopped_runs net w origin
  | none =>
    simp only
    split
    · exact .still rfl rfl
    · exact reroute_runs ..

theorem reclaim_runs (net : NetId) : Runs naming entering n [] (reclaim w net n) := by
  refine .before (.still rfl rfl) fun _ m _ => ?_
  refine .before (.attempt (withRegistry_runs fun _ _ => .retire)) fun r k _ => ?_
  cases r <;> exact .still rfl rfl

theorem fireOne_runs (net : NetId) (transition : TransitionIndex) :
    Runs naming entering n (itemMoments w (.fire net transition) n) (fireOne w net transition n) := by
  simp only [fireOne, itemMoments, bind_apply, getWorker_apply]
  cases (n.process.worker w).nets.find? net with
  | none => exact reroute_runs ..
  | some state =>
    refine .before (fireTransition_runs w net state transition) fun outcome m _ => ?_
    split <;> exact .still rfl rfl

theorem handle_runs (item : WorkItem σ) :
    Runs naming entering n (itemMoments w item n) (handle w item n) := by
  cases item with
  | adopt made => exact .before (adopt_runs w made) fun _ _ _ => .still rfl rfl
  | tokens parcel => exact .before (handTokens_runs w parcel) fun _ _ _ => .still rfl rfl
  | halt net origin => exact .before (stop_runs w net origin) fun _ _ _ => .still rfl rfl
  | reclaim net => exact reclaim_runs w net
  | fire net transition => exact .before (fireOne_runs w net transition) fun _ _ _ => .still rfl rfl
  | startLog path => exact .before (openLog_runs w path) fun _ _ _ => .still rfl rfl
  | stopLog => exact .before (closeLog_runs w) fun _ _ _ => .still rfl rfl

theorem dealWith_runs (item : WorkItem σ) :
    Runs naming entering n (itemMoments w item n) (dealWith w item n) := by
  have hcomplete : Runs naming entering n (itemMoments w item n) (complete w item n) := by
    refine .before (handle_runs w item) fun released m _ => ?_
    split
    · exact .before completeObligation_runs fun _ _ _ => .still rfl rfl
    · exact .still rfl rfl
  refine .before hcomplete fun released m _ => ?_
  split
  · exact noteReclaimed_runs
  · exact .still rfl rfl

/-- By induction on the items. -/
theorem handleAll_runs (items : List (WorkItem σ)) :
    Runs naming entering n (handleMoments w items n) (handleAll w items n) := by
  induction items generalizing n with
  | nil => exact .still rfl rfl
  | cons item rest ih =>
    rw [handleAll_cons]
    exact .bind (dealWith_runs w item) fun _ _ _ => ih

theorem processMessages_runs :
    Runs naming entering n (messageMoments w n) (processMessages w n) := by
  refine .after (.still rfl rfl) fun items m _ => ?_
  refine .before (handleAll_runs w items) fun _ k _ => ?_
  exact .before (.still rfl rfl) fun _ _ _ => .still rfl rfl

theorem cleanMessages_runs : Runs naming entering n [] (cleanMessages w n) := by
  refine .before (.still rfl rfl) fun items m _ => ?_
  exact .before (discardAll_runs items) fun _ _ _ => .still rfl rfl

theorem fireAndRecord_runs (net : NetId) (state : σ) (transition : TransitionIndex) :
    Runs naming entering n (firingMoments w net state transition n)
      (fireAndRecord w net state transition n) := by
  refine .before (fireTransition_runs w net state transition) fun outcome m _ => ?_
  split <;> exact .still rfl rfl

theorem fireEach_runs (net : NetId) (state : σ)
    (transitions : List TransitionIndex) (fired : Nat) :
    Runs naming entering n (fireEachMoments w net state transitions n)
      (fireEach w net state transitions fired n) := by
  induction transitions generalizing n state fired with
  | nil => exact .still rfl rfl
  | cons transition rest ih =>
    rw [fireEach_cons, fireEachMoments]
    cases n.process.quitting
    · simp only [Bool.false_eq_true, if_false]
      refine .bind (fireAndRecord_runs w net state transition) fun outcome m _ => ?_
      cases outcome.halted
      · exact ih outcome.state _
      · exact .still rfl rfl
    · exact .still rfl rfl

theorem fireNets_runs (nets : List NetId) (fired : Nat) :
    Runs naming entering n (fireNetsMoments w nets fired n) (fireNets w nets fired n) := by
  induction nets generalizing n fired with
  | nil => exact .still rfl rfl
  | cons net rest ih =>
    simp only [fireNets, fireNetsMoments, bind_apply, isQuitting_apply]
    cases n.process.quitting
    · simp only [Bool.false_eq_true, if_false, bind_apply, getWorker_apply]
      cases (n.process.worker w).nets.find? net with
      | none => exact ih fired
      | some state => exact .bind (fireEach_runs w net state _ fired) fun fired _ _ => ih fired
    · exact .still rfl rfl

theorem fireReady_runs : Runs naming entering n (fireReadyMoments w n) (fireReady w n) := by
  rw [fireReady, bind_apply, getWorker_apply]
  refine .before (fireNets_runs w _ 0) fun _ m _ => ?_
  exact .before (.still rfl rfl) fun _ _ _ => .still rfl rfl

theorem runOnce_runs : Runs naming entering n (roundMoments w n) (runOnce w n) := by
  refine .bind (processMessages_runs w) fun handled m _ => ?_
  refine .bind (fireReady_runs w) fun fired k _ => ?_
  refine .before (receivePackets_runs packetBatch) fun received j _ => ?_
  refine .before pollSends_runs fun _ i _ => ?_
  split
  · exact .before tick_runs fun _ _ _ => .still rfl rfl
  · exact .still rfl rfl

theorem migrate_runs (net : NetId) (target : WorkerId) :
    Runs naming entering n [] (migrate w net target n) := by
  refine .before (checkWorker_runs target) fun _ m _ => ?_
  refine .before (.still rfl rfl) fun worker k _ => ?_
  cases worker.nets.find? net with
  | none => exact .still rfl rfl
  | some state => exact .before (.still rfl rfl) fun _ _ _ => handOver_runs state target

end

/-! ## Barriers -/

theorem enterBarrier_runs (phase : BarrierPhase) (hentering : entering phase) :
    Runs naming entering n [] (enterBarrier phase n) := by
  simp only [enterBarrier, bind_apply, getProcess_apply, modifyProcess_apply]
  obtain ⟨report, link, ws, hrun, hcast, hwired, -⟩ := broadcastControl_apply
    (.barrier phase n.process.id)
    { n with process := { n.process with barrier := n.process.barrier.arrive phase n.process.id } }
  rw [hrun]
  simp only
  cases report.toExcept <;> exact .shift (.barrier hentering hcast) hwired

theorem pollBarrier_runs (phase : BarrierPhase) :
    Runs naming entering n (barrierMoments phase n) (pollBarrier phase n) := by
  refine .bind (receivePackets_runs packetBatch) fun _ m _ => ?_
  refine .after pollSends_runs fun _ k _ => ?_
  simp only [bind_apply, getProcess_apply]
  cases hcomplete : k.process.barrier.isComplete phase
  · simp only [Bool.false_eq_true, if_false, Bool.false_or, bind_apply, get_apply]
    cases Transport.isHealthy k.link
    · refine .before (receivePackets_runs packetBatch) fun _ j _ => ?_
      refine .before (.still rfl rfl) fun p i _ => ?_
      split <;> exact .still rfl rfl
    · exact .still rfl rfl
  · exact .still rfl rfl

end PetriCluster.Node
