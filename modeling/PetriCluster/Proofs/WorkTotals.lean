import PetriCluster.Proofs.Forums
import Mathlib

/-!
# The work counters of a cluster

The work packets that the processes of a cluster say they have sent are those they say they have taken
in and those still in the mailboxes. This takes every command but two. A packet that a caller sends to
all peers is not counted as sent, though it is counted where it is taken in; and a message that a
caller has a process act on is counted as taken in, though nobody sent it.
-/

namespace PetriCluster

namespace Front

variable {σ : Type} {f g : Front σ} {ws : List Wire}

/-- What goes out to all peers is no work if the message tells of no net. -/
theorem Tells.quiet {message : ControlMessage} (h : f.Tells message ws)
    (hspawn : message.isSpawn = false) : ∀ w ∈ ws, w.packet.isWork = false := by
  intro w hw
  rw [h.packet_eq w hw, Packet.isWork_toPacket, hspawn]

theorem Shift.counted {entering : BarrierPhase → Prop} (h : f.Shift entering ws g) :
    f.termination.Counted ws g.termination := by
  cases h with
  | rest | change | draw => exact .quiet ⟨rfl, rfl⟩ (by simp)
  | refused => exact ⟨rfl, rfl⟩
  | @tokens target parcel =>
    have hwork : (Packet.ofTokens f.id parcel).isWork = true := Packet.isWork_of_tokens rfl
    exact ⟨by simp [Wire.accepted, Wire.isAccepted, hwork, Termination.recordSent], rfl⟩
  | haltAck | reply =>
    exact .quiet ⟨rfl, rfl⟩ (by simp [Wire.packet, Packet.isWork_toPacket, ControlMessage.isSpawn])
  | halted htells | barrier _ htells => exact .quiet ⟨rfl, rfl⟩ (htells.quiet rfl)
  | quit htells =>
    refine .quiet ⟨rfl, rfl⟩ ?_
    split at htells
    · simp [htells]
    · exact Tells.quiet htells rfl
  | probe hwave htells => exact .quiet (Termination.beginWave_counters hwave) (htells.quiet rfl)

theorem Heeds.counters {message : ControlMessage} (h : f.Heeds message g) :
    g.termination.sent = f.termination.sent ∧
      g.termination.received = f.termination.received + if message.isSpawn then 1 else 0 := by
  cases h with
  | copy | noCopy | quit | barrier => exact ⟨rfl, rfl⟩
  | reply hreply => exact Termination.onReply_counters hreply
  | note hspawn _ => simp [hspawn]

/-- On an occasion a process counts the work that it sends and takes in. -/
theorem Acts.counted {naming : NetId → Prop} {o : Occasion} {made spent : Option NetId}
    (h : f.Acts naming o made spent ws g) :
    f.termination.Counted ws g.termination := by
  cases h with
  | made _ _ htells =>
    split at htells
    · refine ⟨?_, by rw [htells.taken_eq]; rfl⟩
      rw [← htells.countP_isSent (Packet.isWork_toPacket ..)]
      rfl
    · subst htells
      exact ⟨rfl, rfl⟩
  | misfit | notMade => exact .quiet ⟨rfl, rfl⟩ (by simp)
  | tokens htag => exact .work (Packet.isWork_of_tokens htag) rfl rfl
  | message hdecode hheeds =>
    obtain ⟨hsent, hreceived⟩ := hheeds.counters
    refine ⟨by simpa using hsent, ?_⟩
    rw [hreceived, Wire.taken_took, Packet.isWork_of_message hdecode, Wire.taken_nil, Nat.zero_add]
  | noise htag hnone =>
    exact .quiet ⟨rfl, rfl⟩ (by simp [Wire.packet, Packet.isWork, htag, hnone])

end Front

namespace Forum

variable {n : Nat} {σ : Type} {F G : Forum n σ} {i : Fin n} {g : Front σ} {hub : Mailbox.Hub}
  {ws : List Wire} {stray : Nat}

/-- The counters of all processes agree with the mailboxes but for the stray work. -/
def Balanced (F : Forum n σ) (stray : Nat) : Prop :=
  ∑ i, (F.front i).termination.sent + stray =
    ∑ i, (F.front i).termination.received + ∑ i, (F.mail i).countP Packet.isWork

theorem Balanced.turn (hF : F.Balanced stray) (hn : n < IdSource.wordSize)
    (htraffic : Traffic i F.mail ws (hub.mail n)) (missed extra : Nat)
    (hsent : g.termination.sent + missed =
      (F.front i).termination.sent + Wire.accepted Packet.isWork ws)
    (hreceived : g.termination.received =
      (F.front i).termination.received + Wire.taken Packet.isWork ws + extra) :
    (F.turn i g hub).Balanced (stray + missed + extra) := by
  have hsents := sum_update F.front i g (·.termination.sent)
  have hreceiveds := sum_update F.front i g (·.termination.received)
  have hmails := htraffic.total hn Packet.isWork
  unfold Balanced at hF ⊢
  simp only [Forum.turn, Forum.mail] at hF hmails ⊢
  omega

theorem Balanced.counted (hF : F.Balanced stray) (hn : n < IdSource.wordSize)
    (hcounted : (F.front i).termination.Counted ws g.termination)
    (hcarries : Mailbox.Carries i F.hub ws hub) : (F.turn i g hub).Balanced stray :=
  hF.turn hn hcarries.traffic 0 0 hcounted.sent hcounted.received

theorem Saga.balanced [NetBehaviour σ] {H : List (Nat × Moment σ Mailbox.Link)}
    (h : F.Saga False H G) (hn : n < IdSource.wordSize) (hF : F.Balanced stray) :
    G.Balanced stray := by
  refine h.invariant (I := (·.Balanced stray)) ?_ ?_ hF
  · intro F G hF hstirs
    cases hstirs with
    | shift hshift hcarries => exact hF.counted hn hshift.counted hcarries
    | close i =>
      rw [Balanced, mail_close]
      exact hF
    | reserve => exact hF.turn hn .nil 0 0 rfl rfl
    | cast hhand | heed hhand => exact hhand.elim
  · intro F i o made spent ws g hub hF hacts hcarries
    exact hF.counted hn hacts.counted hcarries

end Forum

/-! ## Stray work -/

/-- The work that a command by hand brings in: packets that were not counted as sent, and messages
that nobody sent. -/
def Command.strayWork {σ τ : Type} [Transport τ] : Command σ → Node σ τ → Nat
  | broadcast packet exclude, n =>
    match packet.isWork, Node.broadcast packet exclude n with
    | true, .ok report _ => report.delivered
    | _, _ => 0
  | consume message, _ => if message.isSpawn then 1 else 0
  | _, _ => 0

namespace Cluster

variable {σ : Type}

/-- The work packets that all processes count as sent. -/
def workSent (c : Cluster σ) : Nat := (c.members.map (·.process.termination.sent)).sum

/-- The work packets that all processes count as taken in. -/
def workReceived (c : Cluster σ) : Nat := (c.members.map (·.process.termination.received)).sum

/-- The work packets in all mailboxes. -/
def workMailed (c : Cluster σ) : Nat := (c.hub.boxes.map (·.queue.countP Packet.isWork)).sum

/-- The work packets that orders send uncounted. -/
def strayWork [NetBehaviour σ] (c : Cluster σ) : List (Order σ) → Nat
  | [] => 0
  | order :: rest =>
    (match { c with now := order.now }.node? order.process with
      | some node => order.command.strayWork node
      | none => 0) + (c.obey order).strayWork rest

variable {n : Nat} {c : Cluster σ} {F : Forum n σ} {stray : Nat}

theorem Presents.sum_front (h : c.Presents F) (count : Front σ → Nat) :
    (c.members.map fun m => count m.process.front).sum = ∑ i, count (F.front i) :=
  sum_members h.count fun i m hm => by rw [(h.member i m hm).1]

theorem Presents.sum_mail (h : c.Presents F) (hn : n < IdSource.wordSize) :
    c.workMailed = ∑ i, (F.mail i).countP Packet.isWork := by
  rw [workMailed, h.hub]
  exact Mailbox.Hub.sum_mail h.size hn (List.countP Packet.isWork)

theorem Presents.balanced_iff (h : c.Presents F) (hn : n < IdSource.wordSize) :
    F.Balanced stray ↔ c.workSent + stray = c.workReceived + c.workMailed := by
  rw [h.sum_mail hn]
  unfold workSent workReceived Forum.Balanced
  rw [← h.sum_front (·.termination.sent), ← h.sum_front (·.termination.received)]
  rfl

variable [NetBehaviour σ]

section ByHand

variable (h : c.Presents F) (hn : n < IdSource.wordSize) (hF : F.Balanced stray) {j : Fin n}
  {node : Node σ Mailbox.Link} (hseats : Seats F j node)

include h hn hF hseats

/-- A packet that a caller sends to all peers is stray work if it is work. -/
theorem Presents.balanced_broadcast (packet : Packet) (exclude : Option ProcessId) :
    ∃ G : Forum n σ,
      (c.update j (Node.final ((Command.broadcast packet exclude).run node))).Presents G ∧
      G.Balanced (stray + (Command.broadcast packet exclude).strayWork node) := by
  obtain ⟨report, link, targets, ws, hrun, hcast, hwired, hdelivered⟩ :=
    Node.broadcast_apply packet exclude node
  have hfinal : Node.final ((Command.broadcast packet exclude).run node) = { node with link } := by
    simp only [Command.run, Node.bind_apply, hrun]
    rfl
  have hstray : (Command.broadcast packet exclude).strayWork node = Wire.accepted Packet.isWork ws := by
    simp only [Command.strayWork, hrun]
    cases hwork : packet.isWork with
    | true => exact hdelivered.trans (hcast.countP_isSent hwork)
    | false =>
      have hquiet : ∀ w ∈ ws, w.packet.isWork = false := fun w hw => by rw [hcast.packet_eq w hw, hwork]
      exact (Wire.accepted_eq_zero hquiet).symm
  obtain ⟨hcarries, hname⟩ := Mailbox.Carries.of_wired hn hwired hseats.size hseats.name
  rw [hfinal, hstray]
  refine ⟨_, h.update { node with link } (hcarries.size.trans hseats.size) hname, ?_⟩
  rw [← hseats.hub] at hcarries
  refine hF.turn hn hcarries.traffic (Wire.accepted Packet.isWork ws) 0 ?_ ?_
  · rw [hseats.front]
  · rw [hseats.front, hcast.taken_eq]
    rfl

theorem Presents.balanced_consume (message : ControlMessage) :
    ∃ G : Forum n σ, (c.update j (Node.final ((Command.consume message).run node))).Presents G ∧
      G.Balanced (stray + (Command.consume message).strayWork node) := by
  obtain ⟨g, hheeds, hcourse⟩ := Node.handleControl_heeds (fun _ => False) (fun _ => False) message node
  obtain ⟨hsent, hreceived⟩ := hheeds.counters
  rw [← hseats.front] at hsent hreceived
  have hfirst : (F.turn j g F.hub).Balanced (stray + (Command.consume message).strayWork node) :=
    hF.turn hn .nil 0 _ hsent hreceived
  obtain ⟨hsaga, hsize, hname⟩ := Forum.Saga.of_course (F := F.turn j g F.hub) hn hcourse
    Forum.front_turn_self hseats.hub hseats.size hseats.name
  have hlast := hsaga.balanced hn hfirst
  rw [Forum.turn_turn] at hlast
  exact ⟨_, h.update _ hsize hname, hlast⟩

end ByHand

theorem strayWork_of_not_byHand {order : Order σ} (hhand : order.command.isByHand = false) :
    c.strayWork [order] = 0 := by
  simp only [strayWork]
  cases { c with now := order.now }.node? order.process with
  | none => rfl
  | some node =>
    cases hcommand : order.command with
    | broadcast | consume => simp [hcommand, Command.isByHand] at hhand
    | _ => rfl

theorem strayWork_cons (order : Order σ) (rest : List (Order σ)) :
    c.strayWork (order :: rest) = c.strayWork [order] + (c.obey order).strayWork rest := by
  simp [strayWork]

/-- After any order at all, the counters agree but for the stray work. -/
theorem Presents.balanced_obey (h : c.Presents F) (hn : n < IdSource.wordSize)
    (hF : F.Balanced stray) (order : Order σ) :
    ∃ G : Forum n σ, (c.obey order).Presents G ∧ G.Balanced (stray + c.strayWork [order]) := by
  by_cases hhand : order.command.isByHand = false
  · -- the counters have nothing to do with names, so callers may be given them all
    let F' : Forum n σ := { F with spare := fun _ => True }
    have h' : c.Presents F' := ⟨h.count, h.size, h.hub, h.member⟩
    have hrumour : order.command.isRumour = false := by
      cases hcommand : order.command with
      | broadcast | consume => simp [hcommand, Command.isByHand] at hhand
      | _ => rfl
    have hnone : order.command.isByHand = true → False := by simp [hhand]
    obtain ⟨G, hG, hsaga, -⟩ := h'.obey hn (fun _ _ => trivial) hnone hrumour
    rw [strayWork_of_not_byHand hhand]
    exact ⟨G, hG, hsaga.balanced hn (F := F') hF⟩
  · simp only [Cluster.obey, strayWork, Nat.add_zero]
    cases hnode : { c with now := order.now }.node? order.process with
    | none => exact ⟨F, h, hF⟩
    | some node =>
      obtain ⟨j, hj, hseats⟩ := h.seats hnode
      rw [← hj]
      cases hcommand : order.command with
      | broadcast packet exclude => exact h.balanced_broadcast hn hF hseats packet exclude
      | consume message => exact h.balanced_consume hn hF hseats message
      | _ => simp [hcommand, Command.isByHand] at hhand

/-- By induction on the orders: the counters balance up to the stray work. -/
theorem Presents.balanced (h : c.Presents F) (hn : n < IdSource.wordSize) (hF : F.Balanced stray)
    (orders : List (Order σ)) :
    ∃ G : Forum n σ, (orders.foldl Cluster.obey c).Presents G ∧
      G.Balanced (stray + c.strayWork orders) := by
  induction orders generalizing c F stray with
  | nil => exact ⟨F, h, hF⟩
  | cons order rest ih =>
    obtain ⟨G, hG, hbalanced⟩ := h.balanced_obey hn hF order
    rw [strayWork_cons, ← Nat.add_assoc]
    exact ih hG hbalanced

theorem strayWork_eq_zero {orders : List (Order σ)}
    (hhand : ∀ order ∈ orders, order.command.isByHand = false) : c.strayWork orders = 0 := by
  induction orders generalizing c with
  | nil => rfl
  | cons order rest ih =>
    rw [strayWork_cons, strayWork_of_not_byHand (hhand order (List.mem_cons_self ..)),
      ih fun o ho => hhand o (List.mem_cons_of_mem _ ho)]

end Cluster

theorem Forum.fresh_balanced {n : Nat} {σ : Type} (settings : Settings)
    (templates : List (Template σ)) : (fresh n settings templates).Balanced 0 := by
  unfold Balanced
  simp only [mail_fresh, List.countP_nil, Finset.sum_const_zero]
  simp [fresh, Termination.create]

/-- Whatever callers have the processes of a cluster do, closing their ends of the transport and
choosing names included: the work packets that are counted as sent and the stray work are those that
are counted as taken in and those in the mailboxes. Without commands by hand there is no stray work. -/
theorem work_counters_balance {σ : Type} [NetBehaviour σ] {n : Nat} {settings : Settings}
    {templates : List (Template σ)} {storage : Storage} {start : Cluster σ}
    (hcreate : Cluster.create n settings templates storage = .ok start)
    (orders : List (Cluster.Order σ)) :
    (orders.foldl Cluster.obey start).workSent + start.strayWork orders =
        (orders.foldl Cluster.obey start).workReceived + (orders.foldl Cluster.obey start).workMailed ∧
      ((∀ order ∈ orders, order.command.isByHand = false) →
        (orders.foldl Cluster.obey start).workSent =
          (orders.foldl Cluster.obey start).workReceived +
            (orders.foldl Cluster.obey start).workMailed) := by
  obtain ⟨-, hn, hstart⟩ := Cluster.create_presents hcreate
  obtain ⟨G, hG, hbalanced⟩ := hstart.balanced hn (Forum.fresh_balanced settings templates) orders
  rw [Nat.zero_add, hG.balanced_iff hn] at hbalanced
  refine ⟨hbalanced, fun hhand => ?_⟩
  rwa [Cluster.strayWork_eq_zero hhand] at hbalanced

/-- Process 0 spawns a global net and then sends tokens of a caller's making to process 1, which takes
in the first packet. -/
theorem work_counters_balance_stray_tokens :
    ∃ c : Cluster Bare, c.workReceived = 1 ∧ c.workMailed = 1 ∧
      c.workSent + 1 = c.workReceived + c.workMailed := by
  let orders : List (Cluster.Order Bare) := [⟨0, .act (.operation (.spawn ⟨0⟩ 0 none none true)), 0⟩,
    ⟨0, .broadcast (.ofTokens ⟨0⟩ ⟨⟨0⟩, ⟨0⟩, ⟨1, []⟩⟩) none, 0⟩,
    ⟨1, .act (.operation (.receivePackets 1)), 0⟩]
  obtain ⟨start, hcreate⟩ : ∃ start : Cluster Bare,
      Cluster.create 2 ⟨1, false, 0, 0, none⟩ [Bare.template] (.create []) = .ok start := ⟨_, rfl⟩
  have hstray : start.strayWork orders = 1 := by
    cases hcreate
    cbv
  have hcounts : (orders.foldl Cluster.obey start).workReceived = 1 ∧
      (orders.foldl Cluster.obey start).workMailed = 1 := by
    cases hcreate
    constructor <;> cbv
  have hbalance := (work_counters_balance hcreate orders).1
  rw [hstray] at hbalance
  exact ⟨_, hcounts.1, hcounts.2, hbalance⟩

/-- Tokens that a caller sends to all peers are on their way, and nobody counts them as sent. -/
theorem tokens_of_a_caller_go_uncounted :
    ∃ start : Cluster Bare,
      Cluster.create 2 ⟨1, false, 0, 0, none⟩ [Bare.template] (.create []) = .ok start ∧
      (start.obey ⟨0, .broadcast (.ofTokens ⟨0⟩ ⟨⟨0⟩, ⟨0⟩, ⟨1, []⟩⟩) none, 0⟩).workSent = 0 ∧
      (start.obey ⟨0, .broadcast (.ofTokens ⟨0⟩ ⟨⟨0⟩, ⟨0⟩, ⟨1, []⟩⟩) none, 0⟩).workReceived = 0 ∧
      (start.obey ⟨0, .broadcast (.ofTokens ⟨0⟩ ⟨⟨0⟩, ⟨0⟩, ⟨1, []⟩⟩) none, 0⟩).workMailed = 1 := by
  refine ⟨_, rfl, ?_, ?_, ?_⟩ <;> cbv

end PetriCluster
