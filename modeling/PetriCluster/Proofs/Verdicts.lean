import PetriCluster.Proofs.Quiescence
import Mathlib

/-!
# The verdict on a run is right

While process 0 takes packets in, the answers to its probes show whether all work is over. Whenever
they show that it is, it is: no process has a net or owes anything, and no mailbox holds a work packet.
-/

namespace PetriCluster

variable {packet : Packet} {verdict : Verdict}

open Scene

/-! ## When a verdict is reached -/

namespace Node

variable {σ τ : Type}
variable {n m : Node σ τ}

/-- What process 0 learns from a packet that answers a probe, and the process as it then stands. -/
def answered? (packet : Packet) (n : Node σ τ) : Option (Verdict × Node σ τ) :=
  match ControlMessage.ofPacket packet with
  | .ok (.probeReply wave sender answer) =>
    if n.process.termination.isCoordinator then
      match n.process.termination.onReply wave.toNat sender answer with
      | (.ok verdict, termination) =>
        some (verdict, { n with process := { n.process with termination } })
      | (.error _, _) => none
    else none
  | _ => none

theorem answered?_eq_some (h : answered? packet n = some (verdict, m)) :
    ∃ wave sender answer termination,
      ControlMessage.ofPacket packet = .ok (.probeReply wave sender answer) ∧
      n.process.termination.isCoordinator = true ∧
      n.process.termination.onReply wave.toNat sender answer = (.ok verdict, termination) ∧
      m = { n with process := { n.process with termination } } := by
  unfold answered? at h
  split at h
  · rename_i hpacket
    split at h
    · rename_i hc
      split at h
      · rename_i hreply
        cases h
        exact ⟨_, _, _, _, hpacket, hc, hreply, rfl⟩
      · cases h
    · cases h
  · cases h

variable [Transport τ] [NetBehaviour σ]

/-- On the verdict that all work is over process 0 goes on to end the run. -/
theorem dispatch_of_quiescent {totals : WaveTotals}
    (h : answered? packet n = some (.quiescent totals, m)) : dispatch packet n = quitAll m := by
  obtain ⟨wave, sender, answer, termination, hpacket, hc, hreply, rfl⟩ := answered?_eq_some h
  simp only [dispatch, Packet.tag_of_message hpacket, hpacket, handleControl, collectReply,
    bind_apply, getProcess_apply, hc, if_true, hreply, modifyProcess_apply]

/-- The verdicts that are reached while packets are taken in. -/
def receiveVerdicts : (limit : Nat) → Node σ τ → List (Verdict × Node σ τ)
  | 0, _ => []
  | limit + 1, n =>
    match Transport.receive n.link with
    | (.ok (some packet), link) =>
      (answered? packet { n with link }).toList ++
        match dispatch packet { n with link } with
        | .ok _ m => receiveVerdicts limit m
        | .error _ _ => []
    | _ => []

/-- A verdict is reached when an answer to a probe has been taken in and noted. -/
inductive Reaches (n : Node σ τ) (verdict : Verdict) : Node σ τ → Prop
  | intro {packet : Packet} {link : τ} {wave : UInt64} {sender : ProcessId} {answer : ProbeSnapshot}
      {termination : Termination} :
      Transport.receive n.link = (.ok (some packet), link) →
      ControlMessage.ofPacket packet = .ok (.probeReply wave sender answer) →
      n.process.termination.isCoordinator = true →
      n.process.termination.onReply wave.toNat sender answer = (.ok verdict, termination) →
      Reaches n verdict { n with link, process := { n.process with termination } }

omit [NetBehaviour σ] in
theorem reaches_of_answered? {link : τ}
    (hreceive : Transport.receive n.link = (.ok (some packet), link))
    (h : answered? packet { n with link } = some (verdict, m)) : n.Reaches verdict m := by
  obtain ⟨wave, sender, answer, termination, hpacket, hc, hreply, rfl⟩ := answered?_eq_some h
  exact .intro hreceive hpacket hc hreply

variable {n : Node σ τ} {w : WorkerId} {verdict : Verdict} {m : Node σ τ}

theorem receiveVerdicts_path {hand : List (WorkItem σ)} (limit : Nat)
    (hs : (n.process.scene w hand).Sound) (h : (verdict, m) ∈ n.receiveVerdicts limit) :
    ∃ (k : Node σ τ) (events : List TokenEvent), k.Reaches verdict m ∧
      (steps True False).Path (n.process.scene w hand) n.link events (k.process.scene w hand) k.link := by
  induction limit generalizing n with
  | zero => cases h
  | succ limit ih =>
    unfold receiveVerdicts at h
    split at h
    · rename_i packet link hreceive
      rcases List.mem_append.mp h with hnow | hlater
      · exact ⟨n, [], reaches_of_answered? hreceive (Option.mem_toList.mp hnow), .nil⟩
      · have hfollows : (steps True False).Follows False w hand hand n _ (dispatch packet { n with link }) :=
          dispatch_follows (n := { n with link }) hreceive hs
        split at hlater
        · rename_i next hdispatch
          rw [hdispatch] at hfollows
          obtain ⟨k, events, hreaches, hpath⟩ := ih (hfollows.sound hs) hlater
          exact ⟨k, _, hreaches, hfollows.trans hpath⟩
        · cases hlater
    · cases h

end Node

/-- The verdicts that are reached during an operation, with the process as it then stands. -/
def Operation.verdicts {σ τ : Type} [Transport τ] [NetBehaviour σ] :
    Operation → Node σ τ → List (Verdict × Node σ τ)
  | .receivePackets limit, n => n.receiveVerdicts limit
  | .runOnce w, n =>
    match Node.processMessages w n with
    | .ok _ m =>
      match Node.fireReady w m with
      | .ok _ k => k.receiveVerdicts Node.packetBatch
      | .error _ _ => []
    | .error _ _ => []
  | _, _ => []

/-- Every verdict of an operation is reached by steps. -/
theorem Operation.verdicts_path {σ τ : Type} [Transport τ] [NetBehaviour σ] (op : Operation)
    {n : Node σ τ} {m : Node σ τ} (hs : n.process.outline.Sound) (h : (verdict, m) ∈ op.verdicts n) :
    ∃ (k : Node σ τ) (events : List TokenEvent), k.Reaches verdict m ∧
      (steps True False).Path n.process.outline n.link events k.process.outline k.link := by
  have hturn {w w' : WorkerId} (k : Node σ τ) :
      (steps True False).Path (k.process.scene w []) k.link [] (k.process.scene w' []) k.link :=
    .single (R := steps True False) (Step.turn w' rfl) .nil
  cases op with
  | receivePackets limit =>
    exact Node.receiveVerdicts_path limit hs h
  | runOnce w =>
    have hw : (n.process.scene w []).Sound := (hturn n).sound hs
    have hhandled : (steps True False).Follows False w [] [] n _ (Node.processMessages w n) :=
      Node.processMessages_follows hw
    simp only [Operation.verdicts] at h
    split at h
    · rename_i handled hmessages
      rw [hmessages] at hhandled
      have hfired : (steps True False).Follows False w [] [] handled _ (Node.fireReady w handled) :=
        Node.fireReady_follows (hhandled.sound hw)
      split at h
      · rename_i fired hready
        rw [hready] at hfired
        obtain ⟨k, events, hreaches, hpath⟩ :=
          Node.receiveVerdicts_path _ (hfired.sound (hhandled.sound hw)) h
        refine ⟨k, _, hreaches, (hturn n).trans (hhandled.trans (hfired.trans (hpath.trans (hturn k))))⟩
      · cases h
    · cases h
  | _ => cases h

/-! ## What a verdict means -/

namespace World

variable {n : Nat} {σ : Type} [NetBehaviour σ] {w : World n σ} {z : Fin n}
  {mail : Fin n → List Packet}

theorem Audited.quiescent (hw : w.Audited z) {wave : UInt64} {sender : ProcessId}
    {answer : ProbeSnapshot} {totals : WaveTotals} {termination : Termination}
    (hex : Exchange z w.mail [.took packet] mail)
    (hpacket : ControlMessage.ofPacket packet = .ok (.probeReply wave sender answer))
    (hc : (w.scene z).termination.isCoordinator = true)
    (hreply : (w.scene z).termination.onReply wave.toNat sender answer =
      (.ok (.quiescent totals), termination))
    (hfits : ∀ j, (Function.update w.scene z ((w.scene z).setTermination termination) j).Fits) :
    Terminated ⟨Function.update w.scene z ((w.scene z).setTermination termination), mail⟩ := by
  obtain ⟨hground, hwatched⟩ := hw
  have hgoes : (steps True False).Goes (w.scene z) [.took packet] []
      ((w.scene z).setTermination termination) := .step (Step.take (.reply hpacket hc hreply))
  have hz := hwatched fun j => fits_of_update hgoes j (hfits j)
  suffices hover : w.Terminated from hover.update hground hgoes hex
  rcases Termination.onReply_cases hreply with ⟨hpending, -⟩ | ⟨current, hcurrent, hid, hrest⟩
  · cases hpending
  · have htaken : w.Reply z wave.toNat sender answer :=
      .mailed (hex.took_mem hground.size (List.mem_singleton_self _)) (Packet.message?_eq_some.mpr hpacket)
    rcases hrest with ⟨hpending, -⟩ | ⟨hsize, -, -, -, -, ⟨⟨_, hcrash⟩, -⟩ | ⟨hverdict, -⟩⟩
    · cases hpending
    · cases hcrash
    · rw [(hground.stands z).processCount] at hsize
      unfold Termination.verdict at hverdict
      split at hverdict
      · rename_i hagree
        simp only [Bool.and_eq_true, beq_iff_eq] at hagree
        exact hz.terminated hground hcurrent (Reply.of_insert hcurrent hid htaken) hsize hagree.1
          hagree.2
      · cases hverdict

end World

namespace Cluster

variable {σ : Type}

/-- The number of waves that process 0 has started. -/
def wavesStarted (c : Cluster σ) : Nat := c.members[0]?.elim 0 (·.process.termination.nextWave)

variable [NetBehaviour σ]

/-- The verdicts that are reached during a call, with the cluster as it then stands. -/
def verdicts (c : Cluster σ) (call : Call) : List (Verdict × Cluster σ) :=
  match { c with now := call.now }.node? call.process with
  | some node => (call.operation.verdicts node).map fun (verdict, m) => (verdict, c.update call.process m)
  | none => []

variable {n : Nat} {c m : Cluster σ} {w : World n σ} {z : Fin n} {call : Call} {totals : WaveTotals}

omit [NetBehaviour σ] in
theorem Shows.fits (h : c.Shows w) (hfits : ∀ member ∈ c.members,
    member.process.termination.sent < UInt64.size ∧
      member.process.termination.received < UInt64.size) (i : Fin n) : (w.scene i).Fits := by
  have hi : i.val < c.members.length := h.length ▸ i.isLt
  rw [(h.member i _ (List.getElem?_eq_getElem hi)).1]
  exact hfits _ (List.getElem_mem hi)

theorem Shows.quiescent (h : c.Shows w) (hzero : ProcessId.at z = ⟨0⟩) (hw : w.Audited z)
    (hverdict : (.quiescent totals, m) ∈ c.verdicts call)
    (hfits : ∀ member ∈ m.members, member.process.termination.sent < UInt64.size ∧
      member.process.termination.received < UInt64.size) :
    ∃ w' : World n σ, m.Shows w' ∧ w'.Terminated := by
  unfold Cluster.verdicts at hverdict
  split at hverdict
  · rename_i node hnode
    obtain ⟨⟨_, stand⟩, hmem, heq⟩ := List.mem_map.mp hverdict
    cases heq
    have htimed : ({ c with now := call.now } : Cluster σ).Shows w := { h with }
    obtain ⟨j, hj, hscene, hmail, hserves, hname⟩ := htimed.node hnode
    obtain ⟨k, events, hreaches, hpath⟩ := call.operation.verdicts_path
      (hscene ▸ (hw.1.stands j).sound) hmem
    obtain ⟨hrun, hserves, hname⟩ :=
      World.run_of_path hw.1.size hpath.crashing hscene hmail hserves hname
    have hu := hrun.invariant (I := (World.Audited · z)) (fun _ _ _ _ hmoves => hmoves.audited hzero) hw
    obtain @⟨packet, link, wave, sender, answer, termination, hreceive, hpacket, hc, hreply⟩ := hreaches
    obtain ⟨hex, hserves, hname⟩ :=
      Mailbox.exchange_of_wired hw.1.size (.took hreceive .nil) hserves hname
    have hshows : (c.update j { k with link, process := { k.process with termination } }).Shows
        (⟨Function.update w.scene j (k.process.outline.setTermination termination),
          link.hub.mail n⟩ : World n σ) := h.update hserves hname
    rw [← hj] at hfits ⊢
    have hafter := hshows.fits hfits
    refine ⟨_, hshows, ?_⟩
    -- The process is as it was when the packet came in, but for the note of the answer.
    have hself : Function.update w.scene j k.process.outline j = k.process.outline :=
      Function.update_self ..
    have hnote : Function.update w.scene j (k.process.outline.setTermination termination) =
        Function.update (Function.update w.scene j k.process.outline) j
          (k.process.outline.setTermination termination) :=
      (Function.update_idem ..).symm
    change k.process.outline.termination.isCoordinator = true at hc
    change k.process.outline.termination.onReply wave.toNat sender answer = _ at hreply
    rw [hnote] at hafter ⊢
    generalize Function.update w.scene j k.process.outline = scene at hu hself hafter ⊢
    rw [← hself] at hafter hc hreply ⊢
    obtain rfl := hu.1.eq_of_isCoordinator hzero hc
    exact hu.quiescent hex hpacket hc hreply hafter
  · cases hverdict

omit [NetBehaviour σ] in
theorem create_pos {settings : Settings} {templates : List (Template σ)} {storage : Storage}
    (h : create n settings templates storage = .ok c) : 0 < n := by
  by_contra hzero
  obtain rfl : n = 0 := by omega
  cases h

omit [NetBehaviour σ] in
theorem Shows.wavesStarted (h : c.Shows w) (z : Fin n) (hz : z.val = 0) :
    c.wavesStarted = (w.scene z).termination.nextWave := by
  have hi : z.val < c.members.length := h.length ▸ z.isLt
  have hmember := List.getElem?_eq_getElem hi
  rw [(h.member z _ hmember).1, Cluster.wavesStarted, ← hz, hmember]
  rfl

/-- After spawns and scheduling, if process `z` has started no wave, none has started. -/
theorem Shows.setup (h : c.Shows w) (hzero : ProcessId.at z = ⟨0⟩) (hw : w.UnprobedYet z)
    {calls : List Call} (hcalls : ∀ call ∈ calls, call.operation.isSpawn = true ∨
      call.operation.isScheduling = true) :
    ∃ w' : World n σ, (calls.foldl Cluster.next c).Shows w' ∧ w'.UnprobedYet z := by
  induction calls generalizing c w with
  | nil => exact ⟨w, h, hw⟩
  | cons call rest ih =>
    have hsound i := (hw.1.stands i).sound
    obtain ⟨w₁, h₁, hw₁⟩ : ∃ w' : World n σ, (c.next call).Shows w' ∧ w'.UnprobedYet z := by
      rcases hcalls call (List.mem_cons_self ..) with hspawn | hscheduling
      · exact h.next hw.1.size hsound (fun _ _ _ _ hmoves => hmoves.unprobedYet_of_requests)
          (Operation.obeys_requests hspawn) hw
      · exact h.next hw.1.size hsound (fun _ _ _ _ hmoves => hmoves.unprobedYet hzero)
          (Operation.obeys_steps hscheduling) hw
    exact ih h₁ hw₁ fun other hother => hcalls other (List.mem_cons_of_mem _ hother)

end Cluster

/-- In a run in which work comes only from what was spawned before the first wave, all work is over
whenever process 0 finds that it is: no process has a net or owes anything, and no mailbox holds tokens
or word of a net that was spawned. The counters of packets have to fit in the 64 bits of an answer. -/
theorem quiescent_verdict_is_right {σ : Type} [NetBehaviour σ] {n : Nat} {settings : Settings}
    {templates : List (Template σ)} {storage : Storage} {start m : Cluster σ}
    {setup calls : List Cluster.Call} {call : Cluster.Call} {totals : WaveTotals}
    (hcreate : Cluster.create n settings templates storage = .ok start)
    (hsetup : ∀ call ∈ setup, call.operation.isSpawn = true ∨ call.operation.isScheduling = true)
    (hwaves : (setup.foldl Cluster.next start).wavesStarted = 0)
    (hcalls : ∀ call ∈ calls, call.operation.isScheduling = true)
    (hverdict : (.quiescent totals, m) ∈
      (calls.foldl Cluster.next (setup.foldl Cluster.next start)).verdicts call)
    (hfits : ∀ member ∈ m.members, member.process.termination.sent < UInt64.size ∧
      member.process.termination.received < UInt64.size)
    {i : Nat} {member : Member σ} (hmember : m.members[i]? = some member) :
    (∀ net, member.process.registry.slot? net = none) ∧ member.process.obligations = 0 ∧
      m.mailed i Packet.isWork = 0 := by
  obtain ⟨w, hshows, hfresh⟩ := Cluster.create_shows hcreate
  let z : Fin n := ⟨0, Cluster.create_pos hcreate⟩
  have hzero : ProcessId.at z = ⟨0⟩ := rfl
  obtain ⟨w₁, hshows₁, hw₁⟩ :=
    hshows.setup hzero ⟨hfresh.unprobed.grounded, fun _ => hfresh.unprobed⟩ hsetup
  have haudited : w₁.Audited z := (hw₁.2 (hshows₁.wavesStarted z rfl ▸ hwaves)).audited z
  obtain ⟨w₂, hshows₂, hw₂⟩ := Cluster.foldl_next_invariant hw₁.1.size (I := (World.Audited · z))
    (fun _ hw i => (hw.1.stands i).sound) (fun _ _ _ _ hmoves => hmoves.audited hzero)
    (fun call hcall => Operation.obeys_steps (hcalls call hcall)) hshows₁ haudited
  obtain ⟨w₃, hshows₃, hover⟩ := hshows₂.quiescent hzero hw₂ hverdict hfits
  have hi : i < n := hshows₃.length ▸ (List.getElem?_eq_some_iff.mp hmember).1
  obtain ⟨hpassive, hempty⟩ := hover ⟨i, hi⟩
  rw [(hshows₃.member ⟨i, hi⟩ member hmember).1] at hpassive
  exact ⟨Registry.isDrained_iff.mp hpassive.1, hpassive.2, (hshows₃.mailed ⟨i, hi⟩ _).trans hempty⟩

/-- The token of a ring goes from process 0 to process 1, where it halts the ring, and both processes
release their copies. The two waves that follow show that all work is over. -/
theorem quiescent_verdict_is_right_after_two_waves :
    let round : List Cluster.Call := [⟨0, .runOnce ⟨0⟩, 0⟩, ⟨1, .runOnce ⟨0⟩, 0⟩]
    let setup : List Cluster.Call := [⟨0, .spawnInitial DemoNet.ring, 0⟩]
    let calls := (List.replicate 7 round).flatten
    ∃ (start m : Cluster DemoNet) (member : Member DemoNet),
      Cluster.create 2 ⟨1, true, 0, 0, none⟩ (DemoNet.templates 1) (.create []) = .ok start ∧
      (.quiescent ⟨true, 2, 2⟩, m) ∈ (calls.foldl Cluster.next (setup.foldl Cluster.next start)).verdicts
        ⟨0, .runOnce ⟨0⟩, 0⟩ ∧
      m.members[1]? = some member ∧ (∀ net, member.process.registry.slot? net = none) ∧
      member.process.obligations = 0 ∧ m.mailed 1 Packet.isWork = 0 := by
  intro round setup calls
  obtain ⟨start, hcreate, hwaves, hlast⟩ : ∃ start : Cluster DemoNet,
      Cluster.create 2 ⟨1, true, 0, 0, none⟩ (DemoNet.templates 1) (.create []) = .ok start ∧
      (setup.foldl Cluster.next start).wavesStarted = 0 ∧
      ((calls.foldl Cluster.next (setup.foldl Cluster.next start)).verdicts
        ⟨0, .runOnce ⟨0⟩, 0⟩).any (fun found =>
        found.1 == .quiescent ⟨true, 2, 2⟩ && found.2.members.length == 2 &&
        found.2.members.all fun member => decide (member.process.termination.sent < UInt64.size) &&
          decide (member.process.termination.received < UInt64.size)) = true :=
    ⟨_, rfl, by cbv, by cbv⟩
  obtain ⟨⟨verdict, m⟩, hverdict, hfound⟩ := List.any_eq_true.mp hlast
  simp only [Bool.and_eq_true, beq_iff_eq, List.all_eq_true, decide_eq_true_eq] at hfound
  obtain ⟨⟨rfl, hlength⟩, hfits⟩ := hfound
  have hbound : 1 < m.members.length := hlength ▸ Nat.lt_succ_self 1
  have hmember := List.getElem?_eq_getElem hbound
  have hscheduling : ∀ call ∈ calls, call.operation.isScheduling = true := by decide
  exact ⟨start, m, _, hcreate, hverdict, hmember,
    quiescent_verdict_is_right hcreate (by decide) hwaves hscheduling hverdict hfits hmember⟩

end PetriCluster
