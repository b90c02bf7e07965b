import PetriCluster.Proofs.Forums
import Mathlib

/-!
# No barrier is passed early

A process notes an arrival at a barrier when it enters the barrier itself and when it is told of one.
It tells the others of its own arrivals only, so each arrival that is noted anywhere, and each that
waits in a mailbox, is that of a process that has entered that very barrier (`Forum.Attested`).
-/

namespace PetriCluster

namespace Barrier

theorem processCount_arrive (b : Barrier) (phase : BarrierPhase) (process : ProcessId) :
    (b.arrive phase process).processCount = b.processCount := by
  cases phase <;> rfl

theorem mem_arrivals_arrive {b : Barrier} {phase other : BarrierPhase} {process p : ProcessId}
    (h : p ∈ ((b.arrive phase process).arrivals other).keys) :
    p ∈ (b.arrivals other).keys ∨ other = phase ∧ p = process := by
  have hinsert {m : OrderedMap ProcessId Unit} (hp : p ∈ (m.insert process ()).keys) :
      p ∈ m.keys ∨ p = process := by
    by_cases hne : p = process
    · exact .inr hne
    · rw [OrderedMap.mem_keys, OrderedMap.find?_insert_of_ne m (Ne.symm hne)] at hp
      exact .inl (OrderedMap.mem_keys.mpr hp)
  cases phase <;> cases other
  · exact (hinsert h).imp id fun hp => ⟨rfl, hp⟩
  · exact .inl h
  · exact .inl h
  · exact (hinsert h).imp id fun hp => ⟨rfl, hp⟩

end Barrier

namespace Front

variable {σ : Type} {f g : Front σ} {ws : List Wire} {entered : BarrierPhase → ProcessId → Prop}

/-- What a process does about barriers: it notes arrivals that have taken place and those it is told
of, and tells of arrivals that have taken place. -/
structure Attests (entered : BarrierPhase → ProcessId → Prop) (f : Front σ) (ws : List Wire)
    (g : Front σ) : Prop where
  id : g.id = f.id
  count : g.barrier.processCount = f.barrier.processCount
  noted : ∀ phase, ∀ p ∈ (g.barrier.arrivals phase).keys, p ∈ (f.barrier.arrivals phase).keys ∨
    entered phase p ∨ ∃ packet, Wire.took packet ∈ ws ∧ packet.message? = some (.barrier phase p)
  told : ∀ target packet, Wire.sent target packet ∈ ws →
    ∀ phase p, packet.message? = some (.barrier phase p) → entered phase p

theorem Attests.quiet (hid : g.id = f.id) (hbarrier : g.barrier = f.barrier)
    (htold : ∀ target packet, Wire.sent target packet ∈ ws →
      ∀ phase p, packet.message? ≠ some (.barrier phase p)) : f.Attests entered ws g where
  id := hid
  count := by rw [hbarrier]
  noted phase p hp := .inl (hbarrier ▸ hp)
  told target packet hsent phase p hmessage := (htold target packet hsent phase p hmessage).elim

theorem Tells.message?_eq {message : ControlMessage} (h : f.Tells message ws) {target : ProcessId}
    {packet : Packet} (hsent : Wire.sent target packet ∈ ws) : packet.message? = some message := by
  have hpacket : packet = message.toPacket f.id := h.packet_eq _ hsent
  rw [hpacket, Packet.message?_toPacket]

theorem Shift.attests {entering : BarrierPhase → Prop} (h : f.Shift entering ws g)
    (hentered : ∀ phase, entering phase → entered phase f.id) : f.Attests entered ws g := by
  cases h with
  | rest | change | draw | refused | tokens | haltAck | reply => exact .quiet rfl rfl (by simp)
  | halted htells | probe _ htells =>
    refine .quiet rfl rfl fun target packet hsent phase p => ?_
    simp [htells.message?_eq hsent]
  | quit htells =>
    refine .quiet rfl rfl fun target packet hsent phase p => ?_
    split at htells
    · simp [htells] at hsent
    · simp [Tells.message?_eq htells hsent]
  | @barrier phase _ hentering htells =>
    refine ⟨rfl, Barrier.processCount_arrive .., fun other p hp => ?_,
      fun target packet hsent other p hmessage => ?_⟩
    · rcases Barrier.mem_arrivals_arrive hp with hold | ⟨rfl, rfl⟩
      · exact .inl hold
      · exact .inr (.inl (hentered _ hentering))
    · rw [htells.message?_eq hsent] at hmessage
      cases hmessage
      exact hentered _ hentering

/-- What a process does about barriers when it acts. -/
theorem Acts.attests {naming : NetId → Prop} {o : Occasion} {made spent : Option NetId}
    (h : f.Acts naming o made spent ws g) : f.Attests entered ws g := by
  cases h with
  | made _ _ htells =>
    refine .quiet rfl rfl fun target packet hsent phase p => ?_
    split at htells
    · simp [htells.message?_eq hsent]
    · simp [htells] at hsent
  | misfit | notMade | tokens | noise => exact .quiet rfl rfl (by simp)
  | @message packet _ _ hdecode hheeds =>
    cases hheeds with
    | copy | noCopy | quit | reply | note => exact .quiet rfl rfl (by simp)
    | @barrier phase sender =>
      refine ⟨rfl, Barrier.processCount_arrive .., fun other p hp => ?_, by simp⟩
      rcases Barrier.mem_arrivals_arrive hp with hold | ⟨rfl, rfl⟩
      · exact .inl hold
      · exact .inr (.inr ⟨packet, by simp, Packet.message?_eq_some.mpr hdecode⟩)

end Front

namespace Forum

variable {n : Nat} {σ : Type} {F : Forum n σ} {i : Fin n} {g : Front σ} {hub : Mailbox.Hub}
  {ws : List Wire} {entered : BarrierPhase → ProcessId → Prop}

/-- Every arrival that is noted, and every one that is told of in a mailbox, has taken place. -/
structure Attested (entered : BarrierPhase → ProcessId → Prop) (F : Forum n σ) : Prop where
  id : ∀ i, (F.front i).id = .at i
  count : ∀ i, (F.front i).barrier.processCount = n
  noted : ∀ i phase, ∀ p ∈ ((F.front i).barrier.arrivals phase).keys, entered phase p
  mailed : ∀ q, ∀ packet ∈ F.mail q, ∀ phase p, packet.message? = some (.barrier phase p) →
    entered phase p

theorem attested_fresh (settings : Settings) (templates : List (Template σ)) :
    (fresh n settings templates).Attested entered where
  id _ := rfl
  count _ := rfl
  noted i phase p hp := by cases phase <;> exact absurd hp List.not_mem_nil
  mailed q packet hmem := by simp at hmem

theorem Attested.turn (hF : F.Attested entered) (hn : n < IdSource.wordSize)
    (hattests : (F.front i).Attests entered ws g) (hcarries : Mailbox.Carries i F.hub ws hub) :
    (F.turn i g hub).Attested entered where
  id := turn_cases (P := fun j f => f.id = .at j) hub (hattests.id.trans (hF.id i)) fun j _ => hF.id j
  count := turn_cases (P := fun _ f => f.barrier.processCount = n) hub
    (hattests.count.trans (hF.count i)) fun j _ => hF.count j
  noted := by
    refine turn_cases (P := fun _ f => ∀ phase, ∀ p ∈ (f.barrier.arrivals phase).keys, entered phase p)
      hub (fun phase p hp => ?_) fun j _ => hF.noted j
    rcases hattests.noted phase p hp with hold | hentered | ⟨packet, htook, hmessage⟩
    · exact hF.noted i phase p hold
    · exact hentered
    · exact hF.mailed i packet (hcarries.traffic.took_mem hn htook) phase p hmessage
  mailed q packet hmem phase p hmessage := by
    rcases hcarries.traffic.mem hmem with hold | hsent
    · exact hF.mailed q packet hold phase p hmessage
    · exact hattests.told _ packet hsent phase p hmessage

theorem Attested.close (hF : F.Attested entered) (i : Fin n) : (F.close i).Attested entered :=
  ⟨hF.id, hF.count, hF.noted, by simpa using hF.mailed⟩

/-- There are no more arrivals than processes, so a complete barrier has been entered by all. -/
theorem Attested.entered_of_isComplete {took : Fin n → Prop} {phase : BarrierPhase}
    (hF : F.Attested entered) (hentered : ∀ p, entered phase p → ∃ j, p = .at j ∧ took j)
    (hcomplete : (F.front i).barrier.isComplete phase = true) (j : Fin n) : took j := by
  classical
  let all := (((F.front i).barrier.arrivals phase).keys).toFinset
  have hsize : n ≤ all.card := by
    have hcount := of_decide_eq_true hcomplete
    rwa [hF.count i, OrderedMap.size_eq_card] at hcount
  have hsub : all ⊆ (Finset.univ.filter took).image ProcessId.at := by
    intro p hp
    obtain ⟨k, rfl, hk⟩ := hentered p (hF.noted i phase p (List.mem_toFinset.mp hp))
    exact Finset.mem_image_of_mem _ (by simpa using hk)
  have hcard : n ≤ (Finset.univ.filter took).card :=
    hsize.trans ((Finset.card_le_card hsub).trans Finset.card_image_le)
  have hall : Finset.univ.filter took = Finset.univ :=
    Finset.eq_univ_of_card _ (Nat.le_antisymm (Finset.card_le_univ _) (by simpa using hcard))
  exact (Finset.mem_filter.mp (hall.symm.le (Finset.mem_univ j))).2

end Forum

namespace Cluster

variable {n : Nat} {σ : Type} [NetBehaviour σ] {c : Cluster σ} {F : Forum n σ}
  {entered : BarrierPhase → ProcessId → Prop}

theorem Presents.attested_obey (h : c.Presents F) (hn : n < IdSource.wordSize)
    (hF : F.Attested entered) {order : Order σ} (hhand : order.command.isByHand = false)
    (hentered : ∀ (j : Fin n) phase, order.process = j → order.command = .enterBarrier phase →
      entered phase (.at j)) :
    ∃ G : Forum n σ, (c.obey order).Presents G ∧ G.Attested entered := by
  simp only [Cluster.obey]
  cases hnode : { c with now := order.now }.node? order.process with
  | none => exact ⟨F, h, hF⟩
  | some node =>
    obtain ⟨j, hj, hseats⟩ := h.seats hnode
    rw [← hj]
    by_cases hclose : order.command = .shutdown
    · rw [hclose]
      exact ⟨F.close j, h.close hseats, hF.close j⟩
    · have hruns : Node.Runs (fun _ => True) (fun phase => order.command = .enterBarrier phase) node
          (order.command.moments node) (order.command.run node) :=
        order.command.runs (fun _ _ => trivial) (fun _ => id) hhand hclose
      have hstart : (F.turn j node.process.front node.link.hub).Attested entered := by
        rw [← hseats.front, ← hseats.hub, Forum.turn_self]
        exact hF
      have hturn {f g : Front σ} {ws : List Wire} {hub hub' : Mailbox.Hub}
          (hI : (F.turn j f hub).Attested entered) (hattests : f.Attests entered ws g)
          (hcarries : Mailbox.Carries j hub ws hub') : (F.turn j g hub').Attested entered := by
        have hself : ((F.turn j f hub).front j).Attests entered ws g := by rwa [Forum.front_turn_self]
        simpa using hI.turn hn hself hcarries
      obtain ⟨hG, hsize, hname⟩ := Forum.keeps_of_course hn
        (I := fun f hub _ => (F.turn j f hub).Attested entered)
        (fun hI hshift => hturn hI (hshift.attests fun phase hphase => by
          have hid := hI.id j
          rw [Forum.front_turn_self] at hid
          rw [hid]
          exact hentered j phase hj.symm hphase))
        (fun hI hacts => hturn hI hacts.attests) [] hruns hseats.size hseats.name hstart
      exact ⟨_, h.update _ hsize hname, hG⟩

/-- What is known of barriers after orders none of which is by hand. -/
theorem attested_of_create {settings : Settings} {templates : List (Template σ)} {storage : Storage}
    {start : Cluster σ} (hcreate : create n settings templates storage = .ok start)
    {orders : List (Order σ)} (hhand : ∀ order ∈ orders, order.command.isByHand = false) :
    ∃ F : Forum n σ, (orders.foldl Cluster.obey start).Presents F ∧ F.Attested fun phase p =>
      ∃ j : Fin n, p = .at j ∧ ∃ now, ⟨j, .enterBarrier phase, now⟩ ∈ orders := by
  obtain ⟨-, hn, hstart⟩ := create_presents hcreate
  refine hstart.foldl_obey (fun order hmem hpresents hF => ?_) (Forum.attested_fresh ..)
  refine hpresents.attested_obey hn hF (hhand order hmem) fun j phase hj hphase => ?_
  exact ⟨j, rfl, order.now, hj ▸ hphase ▸ hmem⟩

end Cluster

namespace Node

variable {σ τ : Type} {n m : Node σ τ}

theorem isComplete_of_pollBarrier [NetBehaviour σ] [Transport τ] {phase : BarrierPhase}
    (h : pollBarrier phase n = .ok true m) : m.process.barrier.isComplete phase = true := by
  obtain ⟨_, k, -, h⟩ := bind_eq_ok h
  obtain ⟨_, k, -, h⟩ := bind_eq_ok h
  simp only [bind_apply, getProcess_apply] at h
  split at h
  · rename_i hcomplete
    cases h
    exact hcomplete
  · simp only [bind_apply, get_apply] at h
    split at h
    · cases h
    · obtain ⟨_, k, -, h⟩ := bind_eq_ok h
      simp only [bind_apply, getProcess_apply] at h
      split at h
      · rename_i hcomplete
        cases h
        exact hcomplete
      · cases h

end Node

/-- In a cluster of any size, whatever else callers have its processes do, in any order and with ends
of the transport that close, short of packets and messages by hand: every arrival that a process has
noted for a phase is that of a process that was told to enter the barrier of that phase. So if the
barrier is complete anywhere, or a look at it finds it passed, all processes have entered it. -/
theorem no_barrier_is_passed_early {σ : Type} [NetBehaviour σ] {n : Nat} {settings : Settings}
    {templates : List (Template σ)} {storage : Storage} {start : Cluster σ}
    (hcreate : Cluster.create n settings templates storage = .ok start)
    {orders : List (Cluster.Order σ)} (hhand : ∀ order ∈ orders, order.command.isByHand = false)
    (phase : BarrierPhase) :
    let c := orders.foldl Cluster.obey start
    (∀ (i : Nat) (m : Member σ), c.members[i]? = some m →
      (∀ p ∈ (m.process.barrier.arrivals phase).keys,
        ∃ j : Fin n, p = .at j ∧ ∃ now, ⟨j, .enterBarrier phase, now⟩ ∈ orders) ∧
      (m.process.barrier.isComplete phase = true →
        ∀ j < n, ∃ now, ⟨j, .enterBarrier phase, now⟩ ∈ orders)) ∧
    ∀ i now node after, { c with now }.node? i = some node →
      Node.pollBarrier phase node = .ok true after →
      ∀ j < n, ∃ now, ⟨j, .enterBarrier phase, now⟩ ∈ orders := by
  have hpassed {orders : List (Cluster.Order σ)}
      (hhand : ∀ order ∈ orders, order.command.isByHand = false) {i : Nat} {m : Member σ}
      (hm : (orders.foldl Cluster.obey start).members[i]? = some m) :
      (∀ p ∈ (m.process.barrier.arrivals phase).keys,
        ∃ j : Fin n, p = .at j ∧ ∃ now, ⟨j, .enterBarrier phase, now⟩ ∈ orders) ∧
      (m.process.barrier.isComplete phase = true →
        ∀ j < n, ∃ now, ⟨j, .enterBarrier phase, now⟩ ∈ orders) := by
    obtain ⟨F, hF, hattested⟩ := Cluster.attested_of_create hcreate hhand
    have hi : i < n := hF.count ▸ (List.getElem?_eq_some_iff.mp hm).1
    have hfront : m.process.barrier = (F.front ⟨i, hi⟩).barrier :=
      congrArg Front.barrier (hF.member ⟨i, hi⟩ m hm).1
    rw [hfront]
    refine ⟨hattested.noted _ phase, fun hcomplete j hj => ?_⟩
    exact hattested.entered_of_isComplete (fun _ => id) hcomplete ⟨j, hj⟩
  intro c
  refine ⟨fun i m => hpassed hhand, fun i now node after hnode hpoll j hj => ?_⟩
  -- the look is one more order, and it is no entering
  let look : Cluster.Order σ := ⟨i, .pollBarrier phase, now⟩
  have hi : i < c.members.length := by
    obtain ⟨m, hm, -⟩ := Option.map_eq_some_iff.mp hnode
    exact (List.getElem?_eq_some_iff.mp hm).1
  have hobey : c.obey look = c.update i after := by
    simp only [Cluster.obey, look, hnode, Command.run, Node.bind_apply, hpoll]
    rfl
  have hlook : ((orders ++ [look]).foldl Cluster.obey start).members[i]? =
      some ⟨after.process, after.link.endpoint⟩ := by
    rw [List.foldl_append, List.foldl_cons, List.foldl_nil, hobey]
    exact List.getElem?_set_self hi
  have hplain : ∀ order ∈ orders ++ [look], order.command.isByHand = false := by
    intro order hmem
    rcases List.mem_append.mp hmem with hold | hnew
    · exact hhand order hold
    · rw [List.mem_singleton.mp hnew]
      rfl
  obtain ⟨now', hmem⟩ := (hpassed hplain hlook).2 (Node.isComplete_of_pollBarrier hpoll) j hj
  exact ⟨now', by simpa [look] using hmem⟩

/-- Process 1 is at the second barrier when process 0 enters the first one and finds it passed. -/
theorem no_barrier_is_passed_early_one_ahead :
    let orders : List (Cluster.Order Bare) := [⟨1, .enterBarrier .start, 0⟩,
      ⟨1, .enterBarrier .teardown, 0⟩, ⟨0, .enterBarrier .start, 0⟩, ⟨0, .pollBarrier .start, 0⟩]
    ∃ (c : Cluster Bare) (m : Member Bare), c.members[0]? = some m ∧
      m.process.barrier.isComplete .start = true ∧ m.process.barrier.isComplete .teardown = false ∧
      ∀ j < 2, ∃ now, ⟨j, .enterBarrier .start, now⟩ ∈ orders := by
  intro orders
  obtain ⟨start, hcreate⟩ : ∃ start : Cluster Bare,
      Cluster.create 2 ⟨1, false, 0, 0, none⟩ [Bare.template] (.create []) = .ok start := ⟨_, rfl⟩
  have hends : ((orders.foldl Cluster.obey start).members[0]?.map fun m =>
      (m.process.barrier.isComplete .start, m.process.barrier.isComplete .teardown)) =
      some (true, false) := by
    cases hcreate
    cbv
  obtain ⟨m, hm, hcomplete⟩ := Option.map_eq_some_iff.mp hends
  obtain ⟨hstart, hteardown⟩ := Prod.mk.inj hcomplete
  have hhand : ∀ order ∈ orders, order.command.isByHand = false := by simp [orders, Command.isByHand]
  exact ⟨_, m, hm, hstart, hteardown,
    ((no_barrier_is_passed_early hcreate hhand .start).1 0 m hm).2 hstart⟩

end PetriCluster
