import PetriCluster.Proofs.Forums

/-!
# Processes at open mailboxes

Where no end of the transport is closed, all that a process sees of the others is what is in the
mailboxes. So it is enough to know the states of the processes and the packets in the mailboxes: they
say what a process finds when it takes packets in, and what is where after it has sent some
(`Node.Faces` for one process, `Cluster.Comprises` for all).
-/

namespace PetriCluster

variable {n : Nat} {σ : Type} {i j : Fin n} {p q : Process σ} {mail : Fin n → List Packet}

/-! ## One process at its mailbox -/

/-- Process `i`, in the given state, at mailboxes that are all open and hold the given packets. -/
structure Node.Faces (node : Node σ Mailbox.Link) (i : Fin n) (p : Process σ)
    (mail : Fin n → List Packet) : Prop where
  process : node.process = p
  name : node.link.endpoint.process = .at i
  serves : node.link.hub.Serves n
  mail : node.link.hub.mail n = mail

namespace Node

variable {node : Node σ Mailbox.Link}

namespace Faces

section

variable (h : node.Faces i p mail)

include h

theorem setProcess (q : Process σ) :
    ({ node with process := q } : Node σ Mailbox.Link).Faces i q mail :=
  ⟨rfl, h.name, h.serves, h.mail⟩

theorem wired (hn : n < IdSource.wordSize) {ws : List Wire}
    {link : Mailbox.Link} (hwired : Wired node.link ws link) :
    ∃ mail', ({ node with link } : Node σ Mailbox.Link).Faces i p mail' ∧ Exchange i mail ws mail' := by
  obtain ⟨hexchange, hserves, hname⟩ := Mailbox.exchange_of_wired hn hwired h.serves h.name
  exact ⟨_, ⟨h.process, hname, hserves, rfl⟩, h.mail ▸ hexchange⟩

theorem receive_nil (hmail : mail i = []) :
    Transport.receive node.link = (.ok none, node.link) := by
  have hqueue : node.link.hub.queue node.link.endpoint.process = [] := by
    rw [h.name]
    exact (congrFun h.mail i).trans hmail
  simp [Transport.receive, Mailbox.Endpoint.receive, Mailbox.Hub.take, hqueue]

theorem receive_cons (hn : n < IdSource.wordSize) {packet : Packet}
    {rest : List Packet} (hmail : mail i = packet :: rest) :
    ∃ link, Transport.receive node.link = (.ok (some packet), link) ∧
      ({ node with link } : Node σ Mailbox.Link).Faces i p (Function.update mail i rest) := by
  have hqueue : node.link.hub.queue node.link.endpoint.process = packet :: rest := by
    rw [h.name]
    exact (congrFun h.mail i).trans hmail
  obtain ⟨link, hreceive⟩ : ∃ link, Transport.receive node.link = (.ok (some packet), link) := by
    simp only [Transport.receive, Mailbox.Endpoint.receive, Mailbox.Hub.take, hqueue]
    exact ⟨_, rfl⟩
  obtain ⟨mail', hfaces, hexchange⟩ := h.wired hn (.took hreceive .nil)
  have hsame : mail' = Function.update mail i rest := by
    funext k
    by_cases hk : k = i
    · subst hk
      have hown := hexchange.mail_own hn
      rw [hmail] at hown
      simpa [List.filterMap_cons, Wire.took?] using hown.symm
    · have hother := hexchange.mail_other hk
      simpa [Function.update_of_ne hk, List.filterMap_cons, Wire.sentTo?] using hother
  exact ⟨link, hreceive, hsame ▸ hfaces⟩

theorem tells (hn : n < IdSource.wordSize) (hid : p.id = .at i)
    (hcount : p.processCount = n) {message : ControlMessage} (hwork : message.isWork = false) :
    ∃ report link, broadcastControl message node = .ok report { node with link } ∧
      ({ node with link } : Node σ Mailbox.Link).Faces i p
        fun k => if k = i then mail k else mail k ++ [message.toPacket (.at i)] := by
  obtain ⟨report, link, ws, hrun, hcast, hwired, -⟩ := broadcastControl_apply message node
  rw [hwork] at hrun
  rw [h.process, hid, hcount] at hcast
  obtain ⟨mail', hfaces, hexchange⟩ := h.wired hn hwired
  have hsame : mail' = fun k => if k = i then mail k else mail k ++ [message.toPacket (.at i)] := by
    funext k
    by_cases hk : k = i
    · subst hk
      have hown := hexchange.mail_own hn
      rw [Front.took_of_broadcast hcast] at hown
      simpa using hown.symm
    · rw [if_neg hk, hexchange.mail_other hk, hexchange.sentTo_peer hn hcast hk]
  exact ⟨report, link, hrun, hsame ▸ hfaces⟩

theorem sends (hn : n < IdSource.wordSize) (hid : p.id = .at i)
    (hj : j ≠ i) {message : ControlMessage} (hwork : message.isWork = false) :
    ∃ link, tolerate (sendControl (.at j) message) node = .ok () { node with link } ∧
      ({ node with link } : Node σ Mailbox.Link).Faces i p
        (Function.update mail j (mail j ++ [message.toPacket (.at i)])) := by
  obtain ⟨r, link, ws, hrun, hsingle, hwired⟩ := sendControl_apply (.at j) message hwork node
  rw [h.process, hid] at hsingle
  obtain ⟨mail', hfaces, hexchange⟩ := h.wired hn hwired
  have hws : ws = [.sent (.at j) (message.toPacket (.at i))] := by
    refine hsingle.resolve_right fun hrefused => hj ?_
    exact hexchange.refused _ _ (hrefused ▸ List.mem_singleton_self _) j rfl
  subst hws
  have hsame : mail' = Function.update mail j (mail j ++ [message.toPacket (.at i)]) := by
    funext k
    by_cases hk : k = j
    · subst hk
      simpa [List.filterMap_cons, Wire.sentTo?] using hexchange.mail_other hj
    · rw [Function.update_of_ne hk]
      have hne : ProcessId.at j ≠ ProcessId.at k := fun e => hk (ProcessId.at_inj hn e).symm
      have hqueue := hexchange.queue k
      simpa [List.filterMap_cons, Wire.sentTo?, Wire.took?, hne] using hqueue
  refine ⟨link, ?_, hsame ▸ hfaces⟩
  rw [tolerate, bind_apply, hrun]
  rfl

end

end Faces

/-- A packet that carries a message is acted on as the message says. -/
theorem dispatch_toPacket [NetBehaviour σ] (message : ControlMessage) (source : ProcessId)
    (node : Node σ Mailbox.Link) :
    dispatch (message.toPacket source) node = handleControl message node := by
  have hmessage : ControlMessage.ofPacket (message.toPacket source) = .ok message :=
    Packet.message?_eq_some.mp (Packet.message?_toPacket message source)
  simp only [dispatch, Packet.tag_of_message hmessage, hmessage]

/-- What is kept by acting on each packet is kept by taking packets in. -/
theorem receivePackets_keeps [NetBehaviour σ] {I : Node σ Mailbox.Link → Prop}
    (hstep : ∀ node, I node → Transport.receive node.link = (.ok none, node.link) ∨
      ∃ packet link m, Transport.receive node.link = (.ok (some packet), link) ∧
        dispatch packet { node with link } = .ok () m ∧ I m)
    (limit : Nat) (hI : I node) : ∃ count m, receivePackets limit node = .ok count m ∧ I m := by
  induction limit generalizing node with
  | zero => exact ⟨0, node, rfl, hI⟩
  | succ limit ih =>
    simp only [receivePackets, bind_apply, attempt_apply, receive_apply]
    rcases hstep node hI with hnone | ⟨packet, link, m, hreceive, hdispatch, hm⟩
    · exact ⟨0, node, by simp only [hnone, pure_apply], hI⟩
    · obtain ⟨count, k, hrun, hk⟩ := ih hm
      exact ⟨count + 1, k, by simp only [hreceive, bind_apply, hdispatch, hrun, pure_apply], hk⟩

end Node

/-! ## Processes and mailboxes of a cluster -/

theorem Mailbox.Hub.mail_eq_nil {hub : Hub} {q : Fin n} (hn : n < IdSource.wordSize)
    (h : ∀ b, hub.boxes[q.val]? = some b → b.queue = []) : hub.mail n q = [] := by
  cases hbox : hub.boxes[q.val]? with
  | none => simp [mail, queue, box?, ProcessId.index_at hn, hbox]
  | some b => simp [mail, queue, box?, ProcessId.index_at hn, hbox, h b hbox]

namespace Cluster

variable {c : Cluster σ} {p : Fin n → Process σ}

/-- The cluster has the given processes, and its mailboxes are all open and hold the given packets. -/
structure Comprises (c : Cluster σ) (p : Fin n → Process σ) (mail : Fin n → List Packet) : Prop where
  count : c.members.length = n
  member : ∀ (i : Fin n) m, c.members[i.val]? = some m → m.process = p i ∧ m.endpoint.process = .at i
  serves : c.hub.Serves n
  mail : c.hub.mail n = mail

theorem Comprises.update (h : c.Comprises p mail) {node : Node σ Mailbox.Link} {q : Process σ}
    {mail' : Fin n → List Packet} (hnode : node.Faces i q mail') :
    (c.update i node).Comprises (Function.update p i q) mail' where
  count := by simp [Cluster.update, h.count]
  member j m hm := by
    have hi : i.val < c.members.length := h.count ▸ i.isLt
    by_cases hj : j = i
    · subst hj
      simp only [Cluster.update, List.getElem?_set_self hi, Option.some.injEq] at hm
      subst hm
      exact ⟨by rw [Function.update_self]; exact hnode.process, hnode.name⟩
    · have hne : i.val ≠ j.val := fun e => hj (Fin.ext e).symm
      simp only [Cluster.update, List.getElem?_set_ne hne] at hm
      rw [Function.update_of_ne hj]
      exact h.member j m hm
  serves := hnode.serves
  mail := hnode.mail

variable [NetBehaviour σ] {order : Order σ}

theorem Comprises.obey (h : c.Comprises p mail) (hi : order.process = i.val) :
    ∃ node : Node σ Mailbox.Link, node.Faces i (p i) mail ∧ node.now = order.now ∧
      ∀ {q mail'}, (Node.final (order.command.run node)).Faces i q mail' →
        (c.obey order).Comprises (Function.update p i q) mail' := by
  have hlt : i.val < c.members.length := h.count ▸ i.isLt
  have hm := List.getElem?_eq_getElem hlt
  obtain ⟨hprocess, hname⟩ := h.member i _ hm
  refine ⟨⟨c.members[i.val].process, ⟨c.members[i.val].endpoint, c.hub⟩, c.storage, order.now⟩,
    ⟨hprocess, hname, h.serves, h.mail⟩, rfl, fun {q mail'} hfaces => ?_⟩
  have hobey := h.update hfaces
  simpa only [Cluster.obey, node?, hi, hm, Option.map_some] using hobey

theorem Comprises.obey_of_le (h : c.Comprises p mail) (hle : n ≤ order.process) : c.obey order = c := by
  have hnone : c.members[order.process]? = none := List.getElem?_eq_none (h.count ▸ hle)
  simp [Cluster.obey, node?, hnone]

/-- The order is to take packets in. -/
def Order.takesIn (order : Order σ) : Bool :=
  match order.command with
  | .act (.operation (.receivePackets _)) => true
  | _ => false

theorem Comprises.takeIn (h : c.Comprises p mail) (hn : n < IdSource.wordSize)
    (hintake : order.takesIn = true) (hi : order.process = i.val)
    {I : Process σ → (Fin n → List Packet) → Prop} (hI : I (p i) mail)
    (hstep : ∀ {node : Node σ Mailbox.Link} {q mail packet rest}, I q mail →
      mail i = packet :: rest → node.Faces i q (Function.update mail i rest) →
      ∃ m q' mail', Node.dispatch packet node = .ok () m ∧ m.Faces i q' mail' ∧ I q' mail') :
    ∃ q mail', (c.obey order).Comprises (Function.update p i q) mail' ∧ I q mail' := by
  obtain ⟨node, hfaces, -, hobey⟩ := h.obey hi
  let J (node : Node σ Mailbox.Link) : Prop := ∃ q mail, node.Faces i q mail ∧ I q mail
  have hone : ∀ node, J node → Transport.receive node.link = (.ok none, node.link) ∨
      ∃ packet link m, Transport.receive node.link = (.ok (some packet), link) ∧
        Node.dispatch packet { node with link } = .ok () m ∧ J m := by
    rintro node ⟨q, mail, hfaces, hI⟩
    cases hmail : mail i with
    | nil => exact .inl (hfaces.receive_nil hmail)
    | cons packet rest =>
      obtain ⟨link, hreceive, htaken⟩ := hfaces.receive_cons hn hmail
      obtain ⟨m, q', mail', hdispatch, hm, hI'⟩ := hstep hI hmail htaken
      exact .inr ⟨packet, link, m, hreceive, hdispatch, q', mail', hm, hI'⟩
  unfold Order.takesIn at hintake
  split at hintake
  · rename_i limit hcommand
    obtain ⟨count, m, hrun, q, mail', hm, hI⟩ :=
      Node.receivePackets_keeps hone limit ⟨_, _, hfaces, hI⟩
    have hfinal : Node.final (order.command.run node) = m := by
      rw [hcommand]
      simp only [Command.run, Action.run, Operation.run, Node.bind_apply, hrun]
      rfl
    exact ⟨q, mail', hobey (hfinal ▸ hm), hI⟩
  · cases hintake

end Cluster

end PetriCluster
