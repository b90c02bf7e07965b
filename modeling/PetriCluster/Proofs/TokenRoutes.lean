import PetriCluster.Proofs.Detection
import PetriCluster.Proofs.Housing
import PetriCluster.Proofs.Multicast

/-!
# The two ways to a worker

Tokens for a net of another process go as a packet through its mailbox, tokens for a net of the own
process straight to the worker that has the net. Where a packet of tokens arrives (`Process.supplied`),
the same item comes into the same inbox as if the process had sent the tokens to itself, whatever
became of the net meanwhile; only the counters tell the ways apart.
-/

namespace PetriCluster

namespace Process

variable {σ : Type} (p : Process σ)

/-- The process after tokens have arrived from a peer. -/
def supplied (parcel : Parcel) : Process σ :=
  let p := { p with termination := p.termination.recordReceived }
  match p.registry.liveOwner? parcel.net with
  | some w => if w.index < p.inboxes.length then p.posted w (.tokens parcel) else p
  | none => { p with stats := { p.stats with protocolErrors := p.stats.protocolErrors + 1 } }

/-- The inbox of a worker has one more item, no other inbox has changed, and the item is an obligation. -/
structure Gains (w : WorkerId) (item : WorkItem σ) (q : Process σ) : Prop where
  inbox : q.inbox w = p.inbox w ++ [item]
  others : ∀ v, v ≠ w → q.inbox v = p.inbox v
  obligations : q.obligations = p.obligations + 1

/-- Nothing has come into the inboxes. -/
structure GainsNothing (q : Process σ) : Prop where
  inboxes : q.inboxes = p.inboxes
  obligations : q.obligations = p.obligations

variable {p} {q : Process σ} {w : WorkerId} {item : WorkItem σ}

theorem Gains.of_posted (hw : w.index < p.inboxes.length) (hitem : item.isObligation = true)
    (hinboxes : q.inboxes = (p.posted w item).inboxes)
    (hobligations : q.obligations = (p.posted w item).obligations) : p.Gains w item q where
  inbox := by
    simp [Process.inbox, hinboxes, posted, hw]
  others v hv := by
    have hne : w.index ≠ v.index := fun heq => hv (WorkerId.index_inj heq).symm
    simp [Process.inbox, hinboxes, posted, hne]
  obligations := by
    rw [hobligations, posted, WorkItem.weight, if_pos hitem]

end Process

namespace Node

variable {σ : Type} {n : Node σ Mailbox.Link} {parcel : Parcel} {w : WorkerId}

theorem dispatch_ofTokens [NetBehaviour σ] (source : ProcessId) (parcel : Parcel) (n : Node σ Mailbox.Link) :
    dispatch (.ofTokens source parcel) n = .ok () { n with process := n.process.supplied parcel } := by
  have hread : (Packet.ofTokens source parcel).parcel = .ok parcel :=
    Packet.parcel?_eq_some.mp (Packet.parcel?_ofTokens parcel source)
  have htag : (Packet.ofTokens source parcel).tag = .tokens := rfl
  simp only [dispatch, htag, hread, bind_apply, recordReceived, modifyProcess_apply, deliver,
    getProcess_apply, Process.supplied]
  cases n.process.registry.liveOwner? parcel.net with
  | none => rfl
  | some w =>
    simp only [tolerate_apply, post_apply]
    by_cases hw : w.index < n.process.inboxes.length <;> simp [hw]

theorem receivePackets_one [NetBehaviour σ] {packet : Packet} {rest : List Packet}
    (hqueue : n.link.hub.queue n.link.endpoint.process = packet :: rest) :
    ∃ link : Mailbox.Link, link.hub.queue n.link.endpoint.process = rest ∧
      receivePackets 1 n = (dispatch packet >>= fun _ => pure 1) { n with link } := by
  obtain ⟨hub, htake⟩ : ∃ hub, n.link.hub.take n.link.endpoint.process = (some packet, hub) := by
    simp only [Mailbox.Hub.take, hqueue]
    exact ⟨_, rfl⟩
  have hleft := (Mailbox.Hub.take_eq_some htake).1
  rw [hqueue, List.cons.injEq] at hleft
  let link : Mailbox.Link :=
    ⟨{ n.link.endpoint with stats := n.link.endpoint.stats.recordReceive packet }, hub⟩
  have hreceive : Transport.receive n.link = (.ok (some packet), link) := by
    simp only [Transport.receive, Mailbox.Endpoint.receive, htake, link]
  refine ⟨link, hleft.2.symm, ?_⟩
  simp only [receivePackets, bind_apply, attempt_apply, receive_apply, hreceive, pure_apply]

theorem supplied_as_shipped (n : Node σ Mailbox.Link) (parcel : Parcel) :
    (n.process.supplied parcel).inboxes = (n.shipped parcel n.process.id).process.inboxes ∧
      (n.process.supplied parcel).obligations = (n.shipped parcel n.process.id).process.obligations := by
  simp only [Process.supplied, shipped, shipment, if_true]
  cases n.process.registry.liveOwner? parcel.net with
  | none => exact ⟨rfl, rfl⟩
  | some w =>
    by_cases hw : w.index < n.process.inboxes.length
    · simp only [hw, if_true]
      exact ⟨rfl, rfl⟩
    · simp only [hw, if_false]
      exact ⟨rfl, rfl⟩

theorem gainsNothing_shipped {target : ProcessId} (hother : target ≠ n.process.id) :
    n.process.GainsNothing (n.shipped parcel target).process := by
  refine ⟨inboxes_shipped hother, ?_⟩
  simp only [shipped]
  cases hshipment : n.shipment parcel target with
  | posted owner => exact absurd (shipment_eq_posted.mp hshipment).1 hother
  | _ => rfl

section Home

variable (howner : n.process.registry.liveOwner? parcel.net = some w)

include howner

theorem sendTokens_home (hw : w.index < n.process.inboxes.length) :
    sendTokens n.process.id parcel n = .ok () (n.shipped parcel n.process.id) := by
  simp [sendTokens, bind_apply, howner, post_apply, hw, shipped, shipment, Shipment.note]

theorem sendTokens_home_of_none (hw : n.process.inboxes.length ≤ w.index) :
    sendTokens n.process.id parcel n = .error (.refused (.unknownWorker w)) n := by
  simp [sendTokens, bind_apply, howner, post_apply, Nat.not_lt.mpr hw]

theorem gains_supplied (hw : w.index < n.process.inboxes.length) :
    n.process.Gains w (.tokens parcel) (n.process.supplied parcel) := by
  have hsupplied : n.process.supplied parcel =
      { n.process.posted w (.tokens parcel) with
        termination := n.process.termination.recordReceived } := by
    simp only [Process.supplied, howner, hw, if_true]
    rfl
  rw [hsupplied]
  exact .of_posted hw rfl rfl rfl

theorem gainsNothing_supplied (hw : n.process.inboxes.length ≤ w.index) :
    n.process.GainsNothing (n.process.supplied parcel) := by
  simp only [Process.supplied, howner, Nat.not_lt.mpr hw, if_false]
  exact ⟨rfl, rfl⟩

end Home

end Node

namespace Cluster

variable {σ : Type} [NetBehaviour σ] {n : Nat} {settings : Settings} {templates : List (Template σ)}
  {storage : Storage} {start : Cluster σ}

/-- Whatever was ordered, every process has its name and its own mailbox. -/
theorem create_seats (hcreate : create n settings templates storage = .ok start)
    (orders : List (Order σ)) (i : Fin n) :
    ∃ m, (orders.foldl Cluster.obey start).members[i.val]? = some m ∧ m.process.id = .at i ∧
      m.endpoint.process = .at i := by
  obtain ⟨-, hn, hstart⟩ := create_presents hcreate
  obtain ⟨G, hG, hplaced⟩ := hstart.fronts (I := fun i f => f.Placed settings i)
    (fun hI hshift => hI.shift hshift) (fun hI hacts => hI.acts hacts) hn
    (fun i => ⟨rfl, rfl, rfl, rfl, rfl⟩) orders
  have hi : i.val < (orders.foldl Cluster.obey start).members.length := hG.count ▸ i.isLt
  have hmember := List.getElem?_eq_getElem hi
  obtain ⟨hfront, hendpoint⟩ := hG.member i _ hmember
  refine ⟨_, hmember, ?_, hendpoint⟩
  rw [← (hplaced i).id, ← hfront]
  rfl

/-- A process sends tokens to another one: only its own record changes, none of its inboxes, and the
other process gets a packet if both are open. -/
theorem send_obey {c : Cluster σ} {p q : Fin n} {m : Member σ} (hm : c.members[p.val]? = some m)
    (hid : m.process.id = .at p) (hendpoint : m.endpoint.process = .at p)
    (hother : ProcessId.at q ≠ .at p) (parcel : Parcel) (time : Nat) :
    ∃ sent : Member σ,
      (c.obey ⟨p, .act (.operation (.send (.at q) parcel)), time⟩).members = c.members.set p sent ∧
      m.process.GainsNothing sent.process ∧
      ∀ r, (c.obey ⟨p, .act (.operation (.send (.at q) parcel)), time⟩).hub.queue r =
        c.hub.queue r ++
          if r = .at q ∧ c.hub.isClosed (.at p) = false ∧ c.hub.isClosed (.at q) = false
          then [.ofTokens (.at p) parcel] else [] := by
  let node : Node σ Mailbox.Link := ⟨m.process, ⟨m.endpoint, c.hub⟩, c.storage, time⟩
  have hnode : { c with now := time }.node? p.val = some node := by
    simp only [node?, hm, Option.map_some, node]
  have hobey : c.obey ⟨p, .act (.operation (.send (.at q) parcel)), time⟩ =
      c.update p (node.shipped parcel (.at q)) := by
    simp only [Cluster.obey, hnode, Command.run, Action.run, Operation.run, Node.final_sendTokens]
  have helsewhere : ProcessId.at q ≠ node.process.id := fun heq => hother (heq.trans hid)
  have haccepted : node.shipment parcel (.at q) = .accepted ↔
      c.hub.isClosed (.at p) = false ∧ c.hub.isClosed (.at q) = false := by
    rw [Node.shipment_eq_accepted]
    show _ ∧ Mailbox.Endpoint.route c.hub m.endpoint.process (.at q) = .ok () ↔ _
    rw [Mailbox.route_eq_ok, hendpoint]
    tauto
  rw [hobey]
  refine ⟨_, rfl, Node.gainsNothing_shipped helsewhere, fun r => ?_⟩
  have hqueue := Node.accepted_shipped node parcel (.at q) r
  simp only [haccepted] at hqueue
  rw [show node.process.id = .at p from hid] at hqueue
  exact hqueue

end Cluster

open Node

/-- After any orders, a process sends tokens to another one. None of its own inboxes changes, and the
other one gets a packet if both are open. When that one acts on the packet, after any further orders,
its inboxes and its obligations are as if it had sent the tokens to itself, which touches no mailbox and
no counter of the transport. Taking the packet out of the mailbox does the same. If the net is live and
its owner a worker of the process, the owner gets one more item, the tokens as they were sent; if the
owner is none, nothing comes in on either way. The owner is a worker unless a caller said otherwise. -/
theorem tokens_arrive_as_if_sent_at_home {σ : Type} [NetBehaviour σ] {n : Nat} {settings : Settings}
    {templates : List (Template σ)} {storage : Storage} {start : Cluster σ}
    (hcreate : Cluster.create n settings templates storage = .ok start)
    (orders later : List (Cluster.Order σ)) {p q : Fin n} (hpq : p ≠ q) (parcel : Parcel)
    (time : Nat) :
    let packet := Packet.ofTokens (.at p) parcel
    let before := orders.foldl Cluster.obey start
    let after := before.obey ⟨p, .act (.operation (.send (.at q) parcel)), time⟩
    (∃ sender sent, before.members[p.val]? = some sender ∧
      after.members = before.members.set p sent ∧ sender.process.GainsNothing sent.process) ∧
    (∀ r, after.hub.queue r = before.hub.queue r ++
      if r = .at q ∧ before.hub.isClosed (.at p) = false ∧ before.hub.isClosed (.at q) = false
      then [packet] else []) ∧
    ∃ node come home, (later.foldl Cluster.obey after).node? q = some node ∧
      dispatch packet node = .ok () come ∧ final (sendTokens (.at q) parcel node) = home ∧
      come.process.inboxes = home.process.inboxes ∧
      come.process.obligations = home.process.obligations ∧ home.link = node.link ∧
      (∀ rest, node.link.hub.queue (.at q) = packet :: rest → ∃ m, receivePackets 1 node = .ok 1 m ∧
        m.process = come.process ∧ m.link.hub.queue (.at q) = rest) ∧
      ∀ w, node.process.registry.liveOwner? parcel.net = some w →
        (w.index < node.process.inboxes.length →
          node.process.Gains w (.tokens parcel) come.process ∧
          sendTokens (.at q) parcel node = .ok () home) ∧
        (node.process.inboxes.length ≤ w.index →
          node.process.GainsNothing come.process ∧
          sendTokens (.at q) parcel node = .error (.refused (.unknownWorker w)) node) ∧
        ((∀ order ∈ orders ++ later, order.command.misleads settings.threads = false) →
          w.index < node.process.inboxes.length) := by
  intro packet before after
  obtain ⟨-, hn, -⟩ := Cluster.create_presents hcreate
  have hother : ProcessId.at q ≠ .at p := fun heq => hpq (ProcessId.at_inj hn heq).symm
  obtain ⟨sender, hsender, hid, hendpoint⟩ := Cluster.create_seats hcreate orders p
  obtain ⟨sent, hmembers, hnothing, hmail⟩ :=
    Cluster.send_obey hsender hid hendpoint hother parcel time
  refine ⟨⟨sender, sent, hsender, hmembers, hnothing⟩, hmail, ?_⟩
  -- the send is one more order of the run
  let sending : Cluster.Order σ := ⟨p, .act (.operation (.send (.at q) parcel)), time⟩
  have hrun : (orders ++ sending :: later).foldl Cluster.obey start =
      later.foldl Cluster.obey after := by
    rw [List.foldl_append, List.foldl_cons]
  obtain ⟨m, hm, hname, hmailbox⟩ := Cluster.create_seats hcreate (orders ++ sending :: later) q
  rw [hrun] at hm
  let node : Node σ Mailbox.Link :=
    ⟨m.process, ⟨m.endpoint, (later.foldl Cluster.obey after).hub⟩,
      (later.foldl Cluster.obey after).storage, (later.foldl Cluster.obey after).now⟩
  have hnode : (later.foldl Cluster.obey after).node? q = some node := by
    simp only [Cluster.node?, hm, Option.map_some, node]
  have hself : ProcessId.at q = node.process.id := hname.symm
  have hhome : final (sendTokens (.at q) parcel node) = node.shipped parcel node.process.id := by
    rw [final_sendTokens, hself]
  obtain ⟨hinboxes, hobligations⟩ := supplied_as_shipped node parcel
  refine ⟨node, _, _, hnode, dispatch_ofTokens (.at p) parcel node, hhome, hinboxes, hobligations,
    if_pos rfl, fun rest hqueue => ?_, fun w howner => ⟨fun hw => ?_, fun hw => ?_, fun hleads => ?_⟩⟩
  · obtain ⟨link, hleft, hreceive⟩ := receivePackets_one (n := node) (hmailbox ▸ hqueue)
    refine ⟨{ node with process := node.process.supplied parcel, link }, ?_, rfl, hmailbox ▸ hleft⟩
    rw [hreceive, bind_apply, dispatch_ofTokens]
    rfl
  · rw [hself]
    exact ⟨gains_supplied howner hw, sendTokens_home howner hw⟩
  · rw [hself]
    exact ⟨gainsNothing_supplied howner hw, sendTokens_home_of_none howner hw⟩
  · have hall : ∀ order ∈ orders ++ sending :: later,
        order.command.misleads settings.threads = false := by
      intro order horder
      rcases List.mem_append.mp horder with hearly | hlate
      · exact hleads order (List.mem_append_left _ hearly)
      · rcases List.mem_cons.mp hlate with rfl | hlate
        · rfl
        · exact hleads order (List.mem_append_right _ hlate)
    have hhoused := (Cluster.create_housed hcreate).foldl_obey hall
    rw [hrun] at hhoused
    exact (hhoused m (List.mem_of_getElem? hm)).lt_of_liveOwner? howner

/-- Process 0 sends tokens to a net that process 1 has just made, and process 1 takes the packet in. -/
theorem tokens_arrive_as_if_sent_at_home_through_a_mailbox :
    let parcel : Parcel := ⟨3, ⟨1⟩, ⟨7, [1, 2]⟩⟩
    ∃ node m : Node Bare Mailbox.Link, node.process.registry.liveOwner? ⟨1⟩ = some ⟨0⟩ ∧
      receivePackets 1 node = .ok 1 m ∧ node.process.Gains ⟨0⟩ (.tokens parcel) m.process := by
  intro parcel
  let orders : List (Cluster.Order Bare) := [⟨1, .act (.operation (.spawn ⟨0⟩ 0 none none false)), 0⟩]
  obtain ⟨start, hcreate, hrun⟩ : ∃ start : Cluster Bare,
      Cluster.create 2 ⟨1, false, 0, 0, none⟩ [Bare.template] (.create []) = .ok start ∧
      (((orders.foldl Cluster.obey start).obey
        ⟨0, .act (.operation (.send ⟨1⟩ parcel)), 0⟩).node? 1).map (fun node =>
          (node.process.registry.liveOwner? ⟨1⟩, node.link.hub.queue ⟨1⟩)) =
        some (some ⟨0⟩, [.ofTokens ⟨0⟩ parcel]) := by
    refine ⟨_, rfl, ?_⟩
    cbv
  have hhonest : ∀ order ∈ orders ++ [], order.command.misleads 1 = false := by
    intro order horder
    rw [List.append_nil, List.mem_singleton] at horder
    rw [horder]
    rfl
  obtain ⟨-, -, node, come, home, hnode, -, -, -, -, -, htaken, howned⟩ :=
    tokens_arrive_as_if_sent_at_home hcreate orders [] (p := 0) (q := 1) (by decide) parcel 0
  obtain ⟨found, hfound, hpair⟩ := Option.map_eq_some_iff.mp hrun
  obtain rfl : found = node := Option.some.inj (hfound.symm.trans hnode)
  obtain ⟨howner, hqueue⟩ := Prod.mk.inj hpair
  obtain ⟨m, hreceive, hsame, -⟩ := htaken [] hqueue
  obtain ⟨hgains, -, hworker⟩ := howned ⟨0⟩ howner
  refine ⟨found, m, howner, hreceive, ?_⟩
  rw [hsame]
  exact (hgains (hworker hhonest)).1

/-- A caller says that the net of process 1 was taken over by worker 7, though the process has one worker
only. Tokens for the net then get lost on either way. -/
theorem tokens_for_no_worker_get_lost :
    let parcel : Parcel := ⟨3, ⟨1⟩, ⟨7, [1, 2]⟩⟩
    let orders : List (Cluster.Order Bare) := [⟨1, .act (.operation (.spawn ⟨0⟩ 0 none none false)), 0⟩,
      ⟨1, .activate ⟨1⟩ ⟨7⟩, 0⟩, ⟨0, .act (.operation (.send ⟨1⟩ parcel)), 0⟩]
    ∃ start, Cluster.create 2 ⟨1, false, 0, 0, none⟩ [Bare.template] (.create []) = .ok start ∧
      ∃ node m, (orders.foldl Cluster.obey start).node? 1 = some node ∧
        node.process.registry.liveOwner? ⟨1⟩ = some ⟨7⟩ ∧
        node.link.hub.queue ⟨1⟩ = [.ofTokens ⟨0⟩ parcel] ∧
        receivePackets 1 node = .ok 1 m ∧ node.process.GainsNothing m.process ∧
        sendTokens ⟨1⟩ parcel node = .error (.refused (.unknownWorker ⟨7⟩)) node := by
  intro parcel orders
  obtain ⟨start, hcreate, hrun⟩ : ∃ start : Cluster Bare,
      Cluster.create 2 ⟨1, false, 0, 0, none⟩ [Bare.template] (.create []) = .ok start ∧
      ((orders.foldl Cluster.obey start).node? 1).map (fun node =>
          (node.process.registry.liveOwner? ⟨1⟩, node.link.hub.queue ⟨1⟩, node.process.id,
            node.link.endpoint.process, node.process.inboxes.length)) =
        some (some ⟨7⟩, [.ofTokens ⟨0⟩ parcel], ⟨1⟩, ⟨1⟩, 1) := by
    refine ⟨_, rfl, ?_⟩
    cbv
  obtain ⟨node, hnode, hfacts⟩ := Option.map_eq_some_iff.mp hrun
  simp only [Prod.mk.injEq] at hfacts
  obtain ⟨howner, hqueue, hid, hmailbox, hlength⟩ := hfacts
  have hbeyond : node.process.inboxes.length ≤ (⟨7⟩ : WorkerId).index := by
    rw [hlength]
    decide
  obtain ⟨link, -, hreceive⟩ := receivePackets_one (n := node) (hmailbox ▸ hqueue)
  refine ⟨start, hcreate, node, { node with process := node.process.supplied parcel, link }, hnode, howner,
    hqueue, ?_, gainsNothing_supplied howner hbeyond, ?_⟩
  · rw [hreceive, bind_apply, dispatch_ofTokens]
    rfl
  · rw [← hid]
    exact sendTokens_home_of_none howner hbeyond

end PetriCluster
