import PetriCluster.Proofs.Commands
import PetriCluster.Proofs.Delivery

/-!
# Clusters as forums

A cluster is seen as the fronts of its processes, the mailboxes between them and the names that
callers hold for nets to come. Moments make its history; between them it is stirred by shifts, by ends
of the transport that close, by names that are drawn and by what callers do by hand.
-/

namespace PetriCluster

variable {spent : Option NetId}

/-- The fronts of all processes, the mailboxes, and the names that callers hold. -/
structure Forum (n : Nat) (σ : Type) where
  front : Fin n → Front σ
  hub : Mailbox.Hub
  spare : NetId → Prop

namespace Forum

variable {n : Nat} {σ : Type}

/-- A process changes, and the hub with it. -/
def turn (F : Forum n σ) (i : Fin n) (f : Front σ) (hub : Mailbox.Hub) : Forum n σ :=
  { F with front := Function.update F.front i f, hub }

/-- A process closes its mailbox. -/
def close (F : Forum n σ) (i : Fin n) : Forum n σ := { F with hub := F.hub.close (.at i) }

/-- A process draws a name for later use. -/
def reserve (F : Forum n σ) (i : Fin n) (net : NetId) (ids : IdSource) : Forum n σ :=
  { F.turn i { F.front i with ids } F.hub with
    spare := fun m => F.spare m ∨ m = net }

/-- A name that was reserved is used. -/
def spend (F : Forum n σ) (spent : Option NetId) : Forum n σ :=
  { F with spare := fun net => F.spare net ∧ spent ≠ some net }

/-- The packets that wait for the processes. -/
def mail (F : Forum n σ) : Fin n → List Packet := F.hub.mail n

variable {F : Forum n σ} {i q : Fin n} {f g : Front σ} {hub hub' : Mailbox.Hub}

@[simp] theorem front_turn_self : (F.turn i f hub).front i = f := Function.update_self ..

theorem front_turn_of_ne (h : q ≠ i) : (F.turn i f hub).front q = F.front q :=
  Function.update_of_ne h ..

/-- What holds of the one that has done something, and of the others as they were, holds of all. -/
theorem turn_cases (hub : Mailbox.Hub) {P : Fin n → Front σ → Prop} (hself : P i f)
    (hother : ∀ j ≠ i, P j (F.front j)) (q : Fin n) : P q ((F.turn i f hub).front q) := by
  by_cases hq : q = i
  · subst hq
    rwa [front_turn_self]
  · rw [front_turn_of_ne hq]
    exact hother q hq

@[simp] theorem turn_turn : (F.turn i f hub).turn i g hub' = F.turn i g hub' := by
  simp [turn, Function.update_idem]

theorem turn_self : F.turn i (F.front i) F.hub = F := by
  simp [turn, Function.update_eq_self]

@[simp] theorem spend_none : F.spend none = F := by
  simp [spend]

@[simp] theorem front_spend : (F.spend spent).front = F.front := rfl

@[simp] theorem mail_spend : (F.spend spent).mail = F.mail := rfl

theorem turn_spend :
    (F.spend spent).turn i f hub = (F.turn i f hub).spend spent := rfl

@[simp] theorem mail_close : (F.close i).mail = F.mail := by
  funext q
  exact Mailbox.Hub.queue_close

/-- What may happen between moments. If `hand` holds, callers may send packets and bring in messages
by hand, but none that tell of a net. -/
inductive Stirs (hand : Prop) (F : Forum n σ) : Forum n σ → Prop
  | shift {i : Fin n} {ws : List Wire} {g : Front σ} {hub : Mailbox.Hub} :
      (F.front i).Shift (fun _ => True) ws g → Mailbox.Carries i F.hub ws hub →
      Stirs hand F (F.turn i g hub)
  | close (i : Fin n) : Stirs hand F (F.close i)
  | reserve {i : Fin n} {net : NetId} {ids : IdSource} : (F.front i).ids.draw = .ok (net, ids) →
      Stirs hand F (F.reserve i net ids)
  | cast {i : Fin n} {packet : Packet} {targets : List ProcessId} {ws : List Wire}
      {hub : Mailbox.Hub} : hand → packet.message?.any ControlMessage.isSpawn = false →
      Wire.Broadcast packet targets ws → Mailbox.Carries i F.hub ws hub →
      Stirs hand F (F.turn i (F.front i) hub)
  | heed {i : Fin n} {message : ControlMessage} {g : Front σ} : hand → message.isSpawn = false →
      (F.front i).Heeds message g → Stirs hand F (F.turn i g F.hub)

variable [NetBehaviour σ]

/-- The cluster after one of its processes has come to a moment. -/
def past (F : Forum n σ) (i : Fin n) (m : Moment σ Mailbox.Link) : Forum n σ :=
  (F.turn i m.after.process.front m.after.link.hub).spend m.spent?

/-- What goes on in a cluster, with the moments of its processes. -/
inductive Saga (hand : Prop) : Forum n σ → List (Nat × Moment σ Mailbox.Link) → Forum n σ → Prop
  | nil {F : Forum n σ} : Saga hand F [] F
  | stir {F G K : Forum n σ} {history : List (Nat × Moment σ Mailbox.Link)} : F.Stirs hand G →
      Saga hand G history K → Saga hand F history K
  | moment {F K : Forum n σ} {i : Fin n} {m : Moment σ Mailbox.Link} {ws : List Wire} {g : Front σ}
      {hub : Mailbox.Hub} {history : List (Nat × Moment σ Mailbox.Link)} :
      m.node.process.front = F.front i → (m.occasion.isPacket = false → m.node.link.hub = F.hub) →
      (F.front i).Acts F.spare m.occasion m.spawned? m.spent? ws g →
      Mailbox.Carries i F.hub ws hub →
      Saga hand ((F.turn i g hub).spend m.spent?) [] (F.past i m) →
      Saga hand (F.past i m) history K → Saga hand F ((i.val, m) :: history) K

/-- One of the processes comes to a moment: it acts, and then the cluster is stirred. -/
structure Meets (hand : Prop) (F : Forum n σ) (i : Fin n) (m : Moment σ Mailbox.Link) (ws : List Wire)
    (g : Front σ) (hub : Mailbox.Hub) : Prop where
  front : m.node.process.front = F.front i
  found : m.occasion.isPacket = false → m.node.link.hub = F.hub
  acts : (F.front i).Acts F.spare m.occasion m.spawned? m.spent? ws g
  carries : Mailbox.Carries i F.hub ws hub
  past : Saga hand ((F.turn i g hub).spend m.spent?) [] (F.past i m)

namespace Saga

variable {hand : Prop} {F G K : Forum n σ} {H H' : List (Nat × Moment σ Mailbox.Link)}

/-- One saga after another. -/
theorem trans (hfirst : F.Saga hand H G) (hnext : G.Saga hand H' K) : F.Saga hand (H ++ H') K := by
  induction hfirst with
  | nil => exact hnext
  | stir hstirs _ ih => exact .stir hstirs (ih hnext)
  | moment hfront hhub hacts hcarries hinner _ _ ih =>
    exact .moment hfront hhub hacts hcarries hinner (ih hnext)

/-- A moment of a saga divides it. -/
theorem split {i : Nat} {m : Moment σ Mailbox.Link} (h : F.Saga hand (H ++ (i, m) :: H') K) :
    ∃ (j : Fin n) (G : Forum n σ) (ws : List Wire) (g : Front σ) (hub : Mailbox.Hub), j.val = i ∧
      F.Saga hand H G ∧ G.Meets hand j m ws g hub ∧ (G.past j m).Saga hand H' K := by
  generalize hall : H ++ (i, m) :: H' = all at h
  induction h generalizing H with
  | nil => simp at hall
  | stir hstirs _ ih =>
    obtain ⟨j, G, ws, g, hub, hj, hbefore, hmeets, hafter⟩ := ih hall
    exact ⟨j, G, ws, g, hub, hj, .stir hstirs hbefore, hmeets, hafter⟩
  | @moment F K k m' ws g hub later hfront hhub hacts hcarries hinner hrest _ ih =>
    cases H with
    | nil =>
      simp only [List.nil_append, List.cons.injEq, Prod.mk.injEq] at hall
      obtain ⟨⟨rfl, rfl⟩, rfl⟩ := hall
      exact ⟨k, F, ws, g, hub, rfl, .nil, ⟨hfront, hhub, hacts, hcarries, hinner⟩, hrest⟩
    | cons first H =>
      simp only [List.cons_append, List.cons.injEq] at hall
      obtain ⟨rfl, hall⟩ := hall
      obtain ⟨j, G, ws', g', hub', hj, hbefore, hmeets, hafter⟩ := ih hall
      exact ⟨j, G, ws', g', hub', hj, .moment hfront hhub hacts hcarries hinner hbefore, hmeets, hafter⟩

/-- What stirs and acts keep holds at the end of a saga. -/
theorem invariant {I : Forum n σ → Prop} (hstirs : ∀ {F G : Forum n σ}, I F → F.Stirs hand G → I G)
    (hacts : ∀ {F : Forum n σ} {i o made spent ws g hub}, I F →
      (F.front i).Acts F.spare o made spent ws g → Mailbox.Carries i F.hub ws hub →
      I ((F.turn i g hub).spend spent))
    (h : F.Saga hand H G) (hF : I F) : I G := by
  induction h with
  | nil => exact hF
  | stir hs _ ih => exact ih (hstirs hF hs)
  | moment _ _ ha hcarries _ _ ihinner ihrest => exact ihrest (ihinner (hacts hF ha hcarries))

theorem invariant_of_nil {I : Forum n σ → Prop}
    (hstirs : ∀ {F G : Forum n σ}, I F → F.Stirs hand G → I G) (h : F.Saga hand [] G) (hF : I F) :
    I G := by
  generalize hH : ([] : List (Nat × Moment σ Mailbox.Link)) = H at h
  induction h with
  | nil => exact hF
  | stir hs _ ih => exact ih (hstirs hF hs) hH
  | moment => cases hH

theorem of_course (hn : n < IdSource.wordSize) {l k : Mailbox.Link} {ms : List (Moment σ Mailbox.Link)}
    {entering : BarrierPhase → Prop} (h : Course (fun _ => False) entering f l ms g k)
    (hfront : F.front i = f) (hhub : F.hub = l.hub) (hsize : l.hub.boxes.length = n)
    (hname : l.endpoint.process = .at i) :
    F.Saga hand (ms.map (i.val, ·)) (F.turn i g k.hub) ∧ k.hub.boxes.length = n ∧
      k.endpoint.process = .at i := by
  induction h generalizing F with
  | nil =>
    rw [← hfront, ← hhub, turn_self]
    exact ⟨.nil, hhub ▸ hsize, hname⟩
  | @shift f g h l m k ws ms hshift hwired _ ih =>
    obtain ⟨hcarries, hname⟩ := Mailbox.Carries.of_wired hn hwired hsize hname
    obtain ⟨hsaga, hend⟩ := ih (F := F.turn i g m.hub) front_turn_self rfl
      (hcarries.size.trans hsize) hname
    rw [turn_turn] at hsaga
    exact ⟨.stir (.shift (hfront ▸ hshift.mono fun _ _ => trivial) (hhub ▸ hcarries)) hsaga, hend⟩
  | @moment m f g h l k j ws ms hbegins hacts hwired hinner hrest ihinner ihrest =>
    -- the course within the moment starts from what the process has done first
    obtain ⟨hcarries, hname'⟩ := Mailbox.Carries.of_wired hn hwired hsize hname
    obtain ⟨hfirst, hsize', hname'⟩ := ihinner (F := F.turn i g k.hub) front_turn_self rfl
      (hcarries.size.trans hsize) hname'
    have hnone : m.spent? = none := by
      rcases hacts.spent_eq with hspent | hspent
      · exact hspent
      · cases hrequested : m.occasion.requested? with
        | none => rw [hspent, hrequested]
        | some net => exact (hacts.requested net hrequested).elim
    have hpast : F.past i m = F.turn i m.after.process.front m.after.link.hub := by
      rw [past, hnone, spend_none]
    obtain ⟨hlater, hend⟩ := ihrest (F := F.past i m) (hpast ▸ front_turn_self) (hpast ▸ rfl) hsize'
      hname'
    have hmeets : m.occasion.isPacket = false → m.node.link.hub = F.hub := by
      intro hspawn
      have hlink := hbegins.2
      cases hoccasion : m.occasion with
      | spawn =>
        rw [hoccasion] at hlink
        rw [show m.node.link = l from hlink, hhub]
      | packet => simp [hoccasion, Occasion.isPacket] at hspawn
    refine ⟨.moment (hbegins.1.trans hfront.symm) hmeets
      ((hfront ▸ hacts).mono fun _ hfalse => hfalse.elim) (hhub ▸ hcarries) ?_ ?_, hend⟩
    · rw [turn_turn] at hfirst
      rwa [hnone, spend_none, hpast]
    · have hturn : (F.past i m).turn i h j.hub = F.turn i h j.hub := by rw [hpast, turn_turn]
      exact hturn ▸ hlater

end Saga

/-- What the shifts and acts of a process keep holds at the end of its course, with the packets that it
has taken in. -/
theorem keeps_of_course (hn : n < IdSource.wordSize) {naming : NetId → Prop}
    {entering : BarrierPhase → Prop} {I : Front σ → Mailbox.Hub → List Packet → Prop}
    (hshift : ∀ {f g ws hub hub' taken}, I f hub taken → f.Shift entering ws g →
      Mailbox.Carries i hub ws hub' → I g hub' (taken ++ ws.filterMap Wire.took?))
    (hacts : ∀ {f g o made spent ws hub hub' taken}, I f hub taken →
      f.Acts naming o made spent ws g → Mailbox.Carries i hub ws hub' →
      I g hub' (taken ++ ws.filterMap Wire.took?)) {l k : Mailbox.Link}
    {ms : List (Moment σ Mailbox.Link)} (taken : List Packet) (h : Course naming entering f l ms g k)
    (hsize : l.hub.boxes.length = n) (hname : l.endpoint.process = .at i) (hI : I f l.hub taken) :
    I g k.hub (taken ++ ms.filterMap (·.occasion.packet?)) ∧ k.hub.boxes.length = n ∧
      k.endpoint.process = .at i := by
  induction h generalizing taken with
  | nil => exact ⟨by simpa using hI, hsize, hname⟩
  | shift hs hwired _ ih =>
    obtain ⟨hcarries, hname⟩ := Mailbox.Carries.of_wired hn hwired hsize hname
    have hnext := hshift hI hs hcarries
    rw [hs.took_eq_nil, List.append_nil] at hnext
    exact ih taken (hcarries.size.trans hsize) hname hnext
  | @moment m _ _ _ _ _ _ _ later _ ha hwired _ _ ihinner ihrest =>
    obtain ⟨hcarries, hname⟩ := Mailbox.Carries.of_wired hn hwired hsize hname
    obtain ⟨hinner, hsize, hname⟩ := ihinner _ (hcarries.size.trans hsize) hname (hacts hI ha hcarries)
    rw [List.filterMap_nil, List.append_nil, ha.took_eq] at hinner
    have htaken : taken ++ (m :: later).filterMap (·.occasion.packet?) =
        (taken ++ m.occasion.packet?.toList) ++ later.filterMap (·.occasion.packet?) := by
      rw [List.append_assoc]
      cases hpacket : m.occasion.packet? <;> simp [hpacket]
    rw [htaken]
    exact ihrest _ hsize hname hinner

theorem Meets.saga {hand : Prop} {m : Moment σ Mailbox.Link} {ws : List Wire}
    (h : F.Meets hand i m ws g hub) : F.Saga hand [(i.val, m)] (F.past i m) :=
  .moment h.front h.found h.acts h.carries h.past .nil

end Forum

/-! ## Orders -/

namespace Cluster

variable {n : Nat} {σ : Type} {c : Cluster σ} {F : Forum n σ}
variable {orders : List (Order σ)}

/-- The cluster is seen as a forum. -/
structure Presents (c : Cluster σ) (F : Forum n σ) : Prop where
  count : c.members.length = n
  size : F.hub.boxes.length = n
  hub : c.hub = F.hub
  member : ∀ (i : Fin n) m, c.members[i.val]? = some m →
    m.process.front = F.front i ∧ m.endpoint.process = .at i

theorem Presents.update (h : c.Presents F) {i : Fin n} (node : Node σ Mailbox.Link)
    (hsize : node.link.hub.boxes.length = n) (hname : node.link.endpoint.process = .at i) :
    (c.update i node).Presents (F.turn i node.process.front node.link.hub) where
  count := by simp [Cluster.update, h.count]
  size := hsize
  hub := rfl
  member j m hm := by
    have hi : i.val < c.members.length := h.count ▸ i.isLt
    by_cases hj : j = i
    · subst hj
      simp only [Cluster.update, List.getElem?_set_self hi, Option.some.injEq] at hm
      subst hm
      exact ⟨Forum.front_turn_self.symm, hname⟩
    · have hne : i.val ≠ j.val := fun e => hj (Fin.ext e).symm
      simp only [Cluster.update, List.getElem?_set_ne hne] at hm
      rw [Forum.front_turn_of_ne hj]
      exact h.member j m hm

theorem Presents.spend (h : c.Presents F) (spent : Option NetId) : c.Presents (F.spend spent) :=
  ⟨h.count, h.size, h.hub, h.member⟩

/-- A process of a cluster and its way to the mailboxes. -/
structure Seats (F : Forum n σ) (j : Fin n) (node : Node σ Mailbox.Link) : Prop where
  front : F.front j = node.process.front
  hub : F.hub = node.link.hub
  size : node.link.hub.boxes.length = n
  name : node.link.endpoint.process = .at j

theorem Presents.seats (h : c.Presents F) {now i : Nat} {node : Node σ Mailbox.Link}
    (hnode : { c with now }.node? i = some node) : ∃ j : Fin n, j.val = i ∧ Seats F j node := by
  obtain ⟨m, hm, rfl⟩ := Option.map_eq_some_iff.mp hnode
  have hi : i < n := h.count ▸ (List.getElem?_eq_some_iff.mp hm).1
  obtain ⟨hfront, hendpoint⟩ := h.member ⟨i, hi⟩ m hm
  exact ⟨⟨i, hi⟩, rfl, hfront.symm, h.hub.symm, h.hub ▸ h.size, hendpoint⟩

variable [NetBehaviour σ] {hand : Prop} {j : Fin n} {node : Node σ Mailbox.Link} {command : Command σ}

/-- A command of a process is a saga, and callers still have the names that are not used up by it and
those they draw by it. -/
structure Leads (hand : Prop) (F : Forum n σ) (j : Fin n) (command : Command σ)
    (node : Node σ Mailbox.Link) (G : Forum n σ) : Prop where
  saga : F.Saga hand ((command.moments node).map (j.val, ·)) G
  kept : ∀ net, F.spare net → command.spent? node ≠ some net → G.spare net
  drawn : ∀ net, command.drawn? node = some net → G.spare net

section Commands

variable (h : c.Presents F) (hn : n < IdSource.wordSize) (hseats : Seats F j node)

include h hn hseats

theorem Presents.runs (hchosen : command.chosenName? = none) (hhand : command.isByHand = false)
    (hopen : command ≠ .shutdown) (hdrawn : command.drawn? node = none) :
    ∃ G : Forum n σ, (c.update j (Node.final (command.run node))).Presents G ∧
      Leads hand F j command node G := by
  have hnaming : ∀ net, command.chosenName? = some net → False := by simp [hchosen]
  have hruns : Node.Runs (fun _ => False) (fun _ => True) node (command.moments node)
      (command.run node) := command.runs hnaming (fun _ _ => trivial) hhand hopen
  obtain ⟨hsaga, hsize, hname⟩ :=
    Forum.Saga.of_course hn hruns hseats.front hseats.hub hseats.size hseats.name
  exact ⟨_, h.update _ hsize hname, hsaga, fun _ hspare _ => hspare, by simp [hdrawn]⟩

theorem Presents.spawns {owner : WorkerId} {index : Nat} {net : NetId} {parent : Option NetId}
    {isGlobal : Bool} (hspare : F.spare net) :
    let command : Command σ := .act (.operation (.spawn owner index (some net) parent isGlobal))
    ∃ G : Forum n σ, (c.update j (Node.final (command.run node))).Presents G ∧
      Leads hand F j command node G := by
  intro command
  let m : Moment σ Mailbox.Link := ⟨.spawn owner index (some net) parent isGlobal, node⟩
  have hnaming : ∀ name, some net = some name → F.spare name := by
    intro name hname
    cases hname
    exact hspare
  obtain ⟨ws, g, k, hacts, hwired, hcourse⟩ :=
    Node.spawn_acts (n := node) (fun _ => False) owner index (some net) parent isGlobal hnaming
  obtain ⟨hcarries, hname⟩ := Mailbox.Carries.of_wired hn hwired hseats.size hseats.name
  have hturned : ((F.turn j g k.hub).spend m.spent?).front j = g := Function.update_self ..
  obtain ⟨hsaga, hsize, hname⟩ := Forum.Saga.of_course hn hcourse.of_nil hturned rfl
    (hcarries.size.trans hseats.size) hname
  have hpast : ((F.turn j g k.hub).spend m.spent?).turn j m.after.process.front m.after.link.hub =
      F.past j m := by
    rw [Forum.turn_spend, Forum.turn_turn]
    rfl
  have hrun : command.run node =
      (Node.spawn owner index (some net) parent isGlobal >>= fun _ => pure ()) node := rfl
  have hfinal : Node.final (command.run node) = m.after := by
    rw [hrun, Node.bind_apply]
    show _ = Node.final (Node.spawn owner index (some net) parent isGlobal node)
    cases Node.spawn owner index (some net) parent isGlobal node <;> rfl
  have hspent : command.spent? node = m.spent? := by
    rw [Command.spent?, hrun, Node.bind_apply]
    show _ = Node.spent? (some net) (Node.spawn owner index (some net) parent isGlobal node)
    rcases Node.spawn owner index (some net) parent isGlobal node with ⟨_, _⟩ | ⟨_ | _, _⟩ <;> rfl
  rw [hfinal]
  refine ⟨F.past j m, (h.update _ hsize hname).spend m.spent?, ?_, ?_, ?_⟩
  · exact .moment hseats.front.symm (fun _ => hseats.hub.symm) (hseats.front ▸ hacts)
      (hseats.hub ▸ hcarries) (hpast ▸ hsaga) .nil
  · exact fun name hname hne => ⟨hname, hspent ▸ hne⟩
  · intro name hname
    cases hname

omit hn in
theorem Presents.draws :
    ∃ G : Forum n σ, (c.update j (Node.final ((Command.drawName : Command σ).run node))).Presents G ∧
      Leads hand F j .drawName node G := by
  have hfinal := h.update node hseats.size hseats.name
  rcases hdraw : node.process.ids.draw with e | ⟨net, ids⟩
  · have hrun : Node.final ((Command.drawName : Command σ).run node) = node := by
      simp only [Command.run, Node.bind_apply, Node.drawId_apply, hdraw]
      rfl
    have hnone : (Command.drawName : Command σ).drawn? node = none := by
      simp [Command.drawn?, hdraw, Except.toOption]
    rw [hrun]
    refine ⟨_, hfinal, ?_, fun _ hspare _ => hspare, by simp [hnone]⟩
    rw [← hseats.front, ← hseats.hub, Forum.turn_self]
    exact .nil
  · have hrun : Node.final ((Command.drawName : Command σ).run node) =
        { node with process := { node.process with ids } } := by
      simp only [Command.run, Node.bind_apply, Node.drawId_apply, hdraw]
      rfl
    have hsome : (Command.drawName : Command σ).drawn? node = some net := by
      simp [Command.drawn?, hdraw, Except.toOption]
    rw [hrun]
    refine ⟨F.reserve j net ids, ?_, ?_, fun _ hspare _ => .inl hspare, ?_⟩
    · have hupdate := h.update { node with process := { node.process with ids } } hseats.size hseats.name
      have hturn : F.turn j { F.front j with ids } F.hub = F.turn j
          ({ node with process := { node.process with ids } } : Node σ Mailbox.Link).process.front
          node.link.hub := by
        rw [hseats.front, hseats.hub]
        rfl
      rw [← hturn] at hupdate
      exact ⟨hupdate.count, hupdate.size, hupdate.hub, hupdate.member⟩
    · exact .stir (.reserve (hseats.front ▸ hdraw)) .nil
    · intro name hname
      rw [hsome] at hname
      cases hname
      exact .inr rfl

theorem Presents.casts (hhand : hand) {packet : Packet} {exclude : Option ProcessId}
    (hrumour : packet.message?.any ControlMessage.isSpawn = false) :
    ∃ G : Forum n σ,
      (c.update j (Node.final ((Command.broadcast packet exclude).run node))).Presents G ∧
      Leads hand F j (.broadcast packet exclude) node G := by
  obtain ⟨report, link, targets, ws, hrun, hcast, hwired, -⟩ :=
    Node.broadcast_apply packet exclude node
  have hfinal : Node.final ((Command.broadcast packet exclude).run node) = { node with link } := by
    simp only [Command.run, Node.bind_apply, hrun]
    rfl
  obtain ⟨hcarries, hname⟩ := Mailbox.Carries.of_wired hn hwired hseats.size hseats.name
  rw [hfinal]
  refine ⟨_, h.update { node with link } (hcarries.size.trans hseats.size) hname, ?_,
    fun _ hspare _ => hspare, by simp [Command.drawn?]⟩
  rw [← hseats.hub] at hcarries
  rw [show ({ node with link } : Node σ Mailbox.Link).process.front = F.front j from hseats.front.symm]
  exact .stir (.cast hhand hrumour hcast hcarries) .nil

theorem Presents.heeds (hhand : hand) {message : ControlMessage} (hrumour : message.isSpawn = false) :
    ∃ G : Forum n σ, (c.update j (Node.final ((Command.consume message).run node))).Presents G ∧
      Leads hand F j (.consume message) node G := by
  obtain ⟨g, hheeds, hcourse⟩ := Node.handleControl_heeds (fun _ => False) (fun _ => False) message node
  obtain ⟨hsaga, hsize, hname⟩ := Forum.Saga.of_course (F := F.turn j g F.hub) hn hcourse
    Forum.front_turn_self hseats.hub hseats.size hseats.name
  rw [Forum.turn_turn] at hsaga
  exact ⟨_, h.update _ hsize hname, .stir (.heed hhand hrumour (hseats.front ▸ hheeds)) hsaga,
    fun _ hspare _ => hspare, by simp [Command.drawn?]⟩

omit hn in
theorem Presents.close :
    (c.update j (Node.final ((Command.shutdown : Command σ).run node))).Presents (F.close j) := by
  have hclosed : F.close j = F.turn j node.process.front (node.link.hub.close (.at j)) := by
    rw [Forum.turn, ← hseats.front, Function.update_eq_self, ← hseats.hub]
    rfl
  rw [hclosed, ← hseats.name]
  refine h.update { node with link := Transport.shutdown node.link } ?_ hseats.name
  simpa [Transport.shutdown, Mailbox.Hub.close, Mailbox.Hub.update] using hseats.size

omit hn in
theorem Presents.closes :
    ∃ G : Forum n σ, (c.update j (Node.final ((Command.shutdown : Command σ).run node))).Presents G ∧
      Leads hand F j .shutdown node G :=
  ⟨F.close j, h.close hseats, .stir (.close j) .nil, fun _ hspare _ => hspare, by simp [Command.drawn?]⟩

theorem Presents.carries (hchosen : ∀ net, command.chosenName? = some net → F.spare net)
    (hhand : command.isByHand = true → hand) (hrumour : command.isRumour = false) :
    ∃ G : Forum n σ, (c.update j (Node.final (command.run node))).Presents G ∧
      Leads hand F j command node G := by
  cases command with
  | act action =>
    rcases hname : (Command.act action).chosenName? with _ | net
    · exact h.runs hn hseats hname rfl (by simp) rfl
    · cases action with
      | operation op =>
        cases op with
        | spawn owner index requested parent isGlobal =>
          obtain rfl : requested = some net := hname
          exact h.spawns hn hseats (hchosen net rfl)
        | _ => cases hname
      | _ => cases hname
  | drawName => exact h.draws hseats
  | broadcast packet exclude => exact h.casts hn hseats (hhand rfl) hrumour
  | consume message => exact h.heeds hn hseats (hhand rfl) hrumour
  | shutdown => exact h.closes hseats
  | _ => exact h.runs hn hseats rfl rfl (by simp) rfl

end Commands

theorem Presents.obey (h : c.Presents F) (hn : n < IdSource.wordSize) {order : Order σ}
    (hchosen : ∀ net, order.command.chosenName? = some net → F.spare net)
    (hhand : order.command.isByHand = true → hand) (hrumour : order.command.isRumour = false) :
    ∃ G : Forum n σ, (c.obey order).Presents G ∧ F.Saga hand (c.history [order]) G ∧
      ∀ spare : List NetId, (∀ net ∈ spare, F.spare net) →
        ∀ net ∈ c.spareAfter order spare, G.spare net := by
  simp only [Cluster.obey, history, spareAfter, List.append_nil]
  cases hnode : { c with now := order.now }.node? order.process with
  | none =>
    exact ⟨F, h, .nil, fun spare hspare => hspare⟩
  | some node =>
    obtain ⟨j, hj, hseats⟩ := h.seats hnode
    obtain ⟨G, hG, hleads⟩ := h.carries hn hseats hchosen hhand hrumour
    rw [← hj]
    refine ⟨G, hG, hleads.saga, fun spare hspare net hmem => ?_⟩
    rcases List.mem_append.mp hmem with hdrawn | hkept
    · exact hleads.drawn net (Option.mem_toList.mp hdrawn)
    · obtain ⟨hmem, hne⟩ := List.mem_filter.mp hkept
      exact hleads.kept net (hspare net hmem) (by simpa using hne)

/-- What every order keeps holds after all of them. -/
theorem Presents.foldl_obey {I : Forum n σ → Prop}
    (hstep : ∀ {c : Cluster σ} {F : Forum n σ}, ∀ order ∈ orders, c.Presents F → I F →
      ∃ G : Forum n σ, (c.obey order).Presents G ∧ I G) (h : c.Presents F) (hF : I F) :
    ∃ G : Forum n σ, (orders.foldl Cluster.obey c).Presents G ∧ I G := by
  induction orders generalizing c F with
  | nil => exact ⟨F, h, hF⟩
  | cons order rest ih =>
    obtain ⟨G, hG, hI⟩ := hstep order (List.mem_cons_self ..) h hF
    exact ih (fun o ho => hstep o (List.mem_cons_of_mem _ ho)) hG hI

section Fronts

variable {I : Fin n → Front σ → Prop}
  (hshift : ∀ {i f ws g}, I i f → f.Shift (fun _ => True) ws g → I i g)
  (hacts : ∀ {i f o made spent ws g}, I i f → f.Acts (fun _ => True) o made spent ws g → I i g)

include hshift hacts

/-- What the shifts and acts of each process keep is kept by every order. -/
theorem Presents.fronts_obey (h : c.Presents F) (hn : n < IdSource.wordSize)
    (hF : ∀ i, I i (F.front i)) (order : Order σ) :
    ∃ G : Forum n σ, (c.obey order).Presents G ∧ ∀ i, I i (G.front i) := by
  have hcourse {j : Fin n} {f g : Front σ} {l k : Mailbox.Link} {ms : List (Moment σ Mailbox.Link)}
      (hcourse : Course (fun _ => True) (fun _ => True) f l ms g k) (hsize : l.hub.boxes.length = n)
      (hname : l.endpoint.process = .at j) (hf : I j f) :
      I j g ∧ k.hub.boxes.length = n ∧ k.endpoint.process = .at j :=
    Forum.keeps_of_course hn (I := fun f _ _ => I j f) (fun hI hs _ => hshift hI hs)
      (fun hI ha _ => hacts hI ha) [] hcourse hsize hname hf
  simp only [Cluster.obey]
  cases hnode : { c with now := order.now }.node? order.process with
  | none => exact ⟨F, h, hF⟩
  | some node =>
    obtain ⟨j, hj, hseats⟩ := h.seats hnode
    have hown : I j node.process.front := hseats.front ▸ hF j
    have hturn {m : Node σ Mailbox.Link} (hm : I j m.process.front)
        (hsize : m.link.hub.boxes.length = n) (hname : m.link.endpoint.process = .at j) :
        ∃ G : Forum n σ, (c.update j m).Presents G ∧ ∀ i, I i (G.front i) :=
      ⟨_, h.update m hsize hname, Forum.turn_cases _ hm fun i _ => hF i⟩
    rw [← hj]
    cases hcommand : order.command with
    | broadcast packet exclude =>
      obtain ⟨report, link, targets, ws, hrun, -, hwired, -⟩ :=
        Node.broadcast_apply packet exclude node
      obtain ⟨hcarries, hname⟩ := Mailbox.Carries.of_wired hn hwired hseats.size hseats.name
      have hfinal : Node.final ((Command.broadcast packet exclude).run node) = { node with link } := by
        simp only [Command.run, Node.bind_apply, hrun]
        rfl
      simp only [hfinal]
      exact hturn (m := { node with link }) hown (hcarries.size.trans hseats.size) hname
    | consume message =>
      obtain ⟨g, hheeds, hrest⟩ :=
        Node.handleControl_heeds (fun _ => True) (fun _ => True) message node
      have hdecode := Packet.message?_eq_some.mp (Packet.message?_toPacket message ⟨0⟩)
      obtain ⟨hlast, hsize, hname⟩ :=
        hcourse hrest hseats.size hseats.name (hacts hown (.message hdecode hheeds))
      exact hturn hlast hsize hname
    | shutdown => exact ⟨_, h.close hseats, hF⟩
    | _ =>
      have hruns : Node.Runs (fun _ => True) (fun _ => True) node (order.command.moments node)
          (order.command.run node) :=
        order.command.runs (fun _ _ => trivial) (fun _ _ => trivial) (by simp [hcommand, Command.isByHand])
          (by simp [hcommand])
      rw [hcommand] at hruns
      obtain ⟨hlast, hsize, hname⟩ := hcourse hruns hseats.size hseats.name hown
      exact hturn hlast hsize hname

/-- What the shifts and acts of each process keep is kept by all orders. -/
theorem Presents.fronts (h : c.Presents F) (hn : n < IdSource.wordSize) (hF : ∀ i, I i (F.front i))
    (orders : List (Order σ)) :
    ∃ G : Forum n σ, (orders.foldl Cluster.obey c).Presents G ∧ ∀ i, I i (G.front i) :=
  h.foldl_obey (I := fun F => ∀ i, I i (F.front i))
    (fun order _ hc hF => hc.fronts_obey (I := I) hshift hacts hn hF order) hF

end Fronts

theorem history_cons (order : Order σ) (rest : List (Order σ)) :
    c.history (order :: rest) = c.history [order] ++ (c.obey order).history rest := by
  simp [history]

theorem history_append (before later : List (Order σ)) :
    c.history (before ++ later) = c.history before ++ (before.foldl Cluster.obey c).history later := by
  induction before generalizing c with
  | nil => rfl
  | cons order rest ih =>
    rw [List.cons_append, history_cons, ih, ← List.append_assoc, ← history_cons]
    rfl

/-- Orders that use only names they drew lead through the saga of their history. -/
theorem Presents.saga (h : c.Presents F) (hn : n < IdSource.wordSize) {spare : List NetId}
    (hspare : ∀ net ∈ spare, F.spare net) (hnames : c.allocates spare orders = true)
    (hrumour : ∀ order ∈ orders, order.command.isRumour = false) :
    ∃ G : Forum n σ, (orders.foldl Cluster.obey c).Presents G ∧ F.Saga True (c.history orders) G := by
  induction orders generalizing c F spare with
  | nil => exact ⟨F, h, .nil⟩
  | cons order rest ih =>
    obtain ⟨hchosen, hnames⟩ := Bool.and_eq_true_iff.mp hnames
    have hheld : ∀ net, order.command.chosenName? = some net → F.spare net := by
      intro net hname
      rw [hname] at hchosen
      exact hspare net (by simpa using hchosen)
    obtain ⟨G, hG, hfirst, hafter⟩ := h.obey hn hheld (fun _ => trivial)
      (hrumour order (List.mem_cons_self ..))
    obtain ⟨K, hK, hrest⟩ := ih hG (hafter spare hspare) hnames
      fun o ho => hrumour o (List.mem_cons_of_mem _ ho)
    rw [history_cons]
    exact ⟨K, hK, hfirst.trans hrest⟩

/-- If callers choose no names, all names are drawn for their nets. -/
theorem allocates_of_none (hnone : ∀ order ∈ orders, order.command.chosenName? = none)
    (spare : List NetId) : c.allocates spare orders = true := by
  induction orders generalizing c spare with
  | nil => rfl
  | cons order rest ih =>
    rw [allocates, hnone order (List.mem_cons_self ..)]
    exact ih (fun o ho => hnone o (List.mem_cons_of_mem _ ho)) _

end Cluster

/-! ## New clusters -/

variable {n : Nat} {σ : Type} {settings : Settings} {templates : List (Template σ)}

/-- A new cluster. -/
def Forum.fresh (n : Nat) (settings : Settings) (templates : List (Template σ)) : Forum n σ where
  front i := ⟨.at i, n, settings, templates, ⟨i, n, 0⟩, .create Registry.retiredWindow,
    .create (.at i) n settings.probeInterval, .create n, false, false⟩
  hub := ⟨List.replicate n {}⟩
  spare _ := False

@[simp] theorem Forum.mail_fresh (i : Fin n) : (fresh n settings templates).mail i = [] := by
  simp only [fresh, mail, Mailbox.Hub.mail, Mailbox.Hub.queue, Mailbox.Hub.box?,
    List.getElem?_replicate]
  split <;> rfl

theorem Process.front_create {id : ProcessId} {p : Process σ}
    (h : Process.create settings templates id n = .ok p) :
    p.front = ⟨id, n, settings, templates, ⟨id.index, n, 0⟩, .create Registry.retiredWindow,
      .create id n settings.probeInterval, .create n, false, false⟩ := by
  unfold create at h
  split at h
  · cases h
  · split at h
    · cases h
    · rename_i ids hids
      cases h
      unfold IdSource.create at hids
      split at hids
      · cases hids
      · split at hids <;> cases hids
        rfl

theorem Cluster.create_presents {c : Cluster σ} {storage : Storage}
    (h : create n settings templates storage = .ok c) :
    0 < n ∧ n < IdSource.wordSize ∧ c.Presents (Forum.fresh n settings templates) := by
  obtain ⟨hpos, hhub, hcount, hmember⟩ := create_eq_ok h
  have hfirst : 0 < c.members.length := hcount ▸ hpos
  have hn : n < IdSource.wordSize := by
    have hnew := (hmember ⟨0, hpos⟩ _ (List.getElem?_eq_getElem hfirst)).1
    exact (Process.create_eq_ok hnew).2.2.2.1
  refine ⟨hpos, hn, hcount, by simp [Forum.fresh], hhub, fun i m hm => ?_⟩
  obtain ⟨hprocess, hendpoint⟩ := hmember i m hm
  refine ⟨?_, hendpoint⟩
  rw [Process.front_create hprocess, ProcessId.index_at hn]
  rfl

end PetriCluster
