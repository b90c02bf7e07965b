import PetriCluster.Proofs.Identity

/-!
# The news of a net comes before its use

When a process makes a global net, the news goes to all mailboxes before anybody knows the name. The
mailboxes are queues, so whatever is sent to a peer later is taken in later: by then the peer has taken
in the news and made its copy, and it still knows the net unless it has retired more nets since than it
remembers.
-/

namespace PetriCluster

variable {parent requested : Option NetId} {packet : Packet} {template : UInt32} {owner : WorkerId}
  {net : NetId} {index : Nat}

/-- The packets that a process takes in at the moments of a history. -/
def takenBy {σ τ : Type} (q : Nat) (history : List (Nat × Moment σ τ)) : List Packet :=
  history.filterMap fun e => if e.1 = q then e.2.occasion.packet? else none

section Lists

variable {σ τ : Type} {q i : Nat} {m : Moment σ τ} {history : List (Nat × Moment σ τ)}

theorem takenBy_cons : takenBy q ((i, m) :: history) =
    (if i = q then m.occasion.packet?.toList else []) ++ takenBy q history := by
  by_cases hi : i = q
  · cases hpacket : m.occasion.packet? <;> simp [takenBy, hi, hpacket]
  · simp [takenBy, hi]

theorem takenBy_append (later : List (Nat × Moment σ τ)) :
    takenBy q (history ++ later) = takenBy q history ++ takenBy q later :=
  List.filterMap_append ..

theorem takenBy_map (ms : List (Moment σ τ)) :
    takenBy q (ms.map (i, ·)) = if i = q then ms.filterMap (·.occasion.packet?) else [] := by
  by_cases hi : i = q <;> simp [takenBy, List.filterMap_map, hi]

theorem mem_takenBy (h : packet ∈ takenBy q history) :
    ∃ m, (q, m) ∈ history ∧ m.occasion = .packet packet := by
  obtain ⟨⟨i, m⟩, hmem, htaken⟩ := List.mem_filterMap.mp h
  dsimp only at htaken
  split at htaken
  · rename_i hi
    refine ⟨m, hi ▸ hmem, ?_⟩
    cases hoccasion : m.occasion with
    | spawn => simp [hoccasion, Occasion.packet?] at htaken
    | packet p =>
      simp only [hoccasion, Occasion.packet?, Option.some.injEq] at htaken
      rw [htaken]
  · cases htaken

end Lists

/-! ## First in, first out -/

namespace Forum

variable {n : Nat} {σ : Type} {F G K : Forum n σ} {i q : Fin n} {g : Front σ} {hub : Mailbox.Hub}
  {ws : List Wire} {taken taken' : List Packet}

/-- What a process has taken in and what waits for it then is what waited before and some more; and
nothing more if the process has shut down, which it stays. -/
def Passes (F : Forum n σ) (q : Fin n) (taken : List Packet) (G : Forum n σ) : Prop :=
  ∃ more, F.mail q ++ more = taken ++ G.mail q ∧
    (F.hub.isClosed (.at q) = true → more = [] ∧ G.hub.isClosed (.at q) = true)

namespace Passes

theorem refl : F.Passes q [] F := ⟨[], by simp, fun hclosed => ⟨rfl, hclosed⟩⟩

theorem trans (h : F.Passes q taken G) (h' : G.Passes q taken' K) : F.Passes q (taken ++ taken') K := by
  obtain ⟨more, hmail, hclosed⟩ := h
  obtain ⟨more', hmail', hclosed'⟩ := h'
  -- what came in on the way is behind what waited, so it is taken after that
  refine ⟨more ++ more', ?_, fun hF => ?_⟩
  · rw [← List.append_assoc, hmail, List.append_assoc, hmail', List.append_assoc]
  · obtain ⟨rfl, hG⟩ := hclosed hF
    obtain ⟨rfl, hK⟩ := hclosed' hG
    exact ⟨rfl, hK⟩

theorem of_carries (hcarries : Mailbox.Carries i F.hub ws hub) (q : Fin n) :
    F.Passes q (if q = i then ws.filterMap Wire.took? else []) (F.turn i g hub) := by
  refine ⟨ws.filterMap (Wire.sentTo? (.at q)), (hcarries.traffic.queue q).symm, fun hclosed => ?_⟩
  refine ⟨?_, (hcarries.closed _).trans hclosed⟩
  rw [List.filterMap_eq_nil_iff]
  intro w hw
  cases w with
  | took | refused => rfl
  | sent target packet =>
    have hopen := hcarries.sent target packet hw
    have hne : target ≠ .at q := by
      rintro rfl
      simp [hclosed] at hopen
    simp [Wire.sentTo?, hne]

theorem of_silent (hcarries : Mailbox.Carries i F.hub ws hub) (hnone : ws.filterMap Wire.took? = []) :
    F.Passes q [] (F.turn i g hub) := by
  have h := of_carries (g := g) hcarries q
  rwa [hnone, ite_self] at h

end Passes

theorem Stirs.passes {hand : Prop} (h : F.Stirs hand G) (q : Fin n) : F.Passes q [] G := by
  cases h with
  | shift hshift hcarries => exact .of_silent hcarries hshift.took_eq_nil
  | close i =>
    refine ⟨[], by simp, fun hclosed => ⟨rfl, ?_⟩⟩
    by_cases hname : ProcessId.at q = ProcessId.at i
    · rw [hname]
      exact Mailbox.Hub.isClosed_close_self
    · exact (Mailbox.Hub.isClosed_update_of_ne hname _).trans hclosed
  | reserve => exact (Passes.refl : F.Passes q [] F)
  | cast _ _ hcast hcarries => exact .of_silent hcarries (Front.took_of_broadcast hcast)
  | heed => exact .of_silent .nil rfl

variable [NetBehaviour σ] {hand : Prop} {H : List (Nat × Moment σ Mailbox.Link)}

/-- What leaves the mailbox of a process in a saga is what it takes in, in order. -/
theorem Saga.passes (h : F.Saga hand H G) (q : Fin n) : F.Passes q (takenBy q H) G := by
  induction h with
  | nil => exact .refl
  | stir hstirs _ ih => exact (hstirs.passes q).trans ih
  | @moment F K i m ws g hub later _ _ hacts hcarries _ _ ihinner ihrest =>
    have hfirst : F.Passes q (if i.val = q.val then m.occasion.packet?.toList else [])
        ((F.turn i g hub).spend m.spent?) := by
      have hpasses : F.Passes q _ ((F.turn i g hub).spend m.spent?) :=
        Passes.of_carries (g := g) hcarries q
      rw [hacts.took_eq] at hpasses
      simpa only [Fin.ext_iff, eq_comm] using hpasses
    rw [takenBy_cons]
    exact hfirst.trans (ihinner.trans ihrest)

/-- If a process takes in a packet, and has already taken in as many like it as waited for it earlier,
then it is open and has taken in all that waited for it. -/
theorem Saga.taken_of_later (h : F.Saga hand H G) {rest : List Packet}
    (hnext : G.mail q = packet :: rest) (hlater : (F.mail q).count packet ≤ (takenBy q H).count packet) :
    F.hub.isClosed (.at q) = false ∧ ∀ p ∈ F.mail q, p ∈ takenBy q H := by
  obtain ⟨more, hmail, hclosed⟩ := h.passes q
  rw [hnext] at hmail
  have hall : ∃ since, takenBy q H = F.mail q ++ since ∧ more ≠ [] := by
    rcases List.append_eq_append_iff.mp hmail with ⟨since, htaken, hmore⟩ | ⟨waiting, hwaiting, hmore⟩
    · exact ⟨since, htaken, by simp [hmore]⟩
    · cases waiting with
      | nil => exact ⟨[], by simpa using hwaiting.symm, fun hnone => by simp [hnone] at hmore⟩
      | cons first waiting =>
        -- the packet itself would be among those that waited
        obtain ⟨rfl, -⟩ := List.cons.inj hmore
        rw [hwaiting, List.count_append, List.count_cons_self] at hlater
        omega
  obtain ⟨since, htaken, hmore⟩ := hall
  refine ⟨?_, fun p hp => by simp [htaken, hp]⟩
  by_contra hshut
  exact hmore (hclosed (by simpa using hshut)).1

/-! ## What is kept -/

theorem Saga.templates (h : F.Saga hand H G) {templates : List (Template σ)}
    (hF : ∀ q, (F.front q).templates = templates) : ∀ q, (G.front q).templates = templates := by
  refine h.invariant (I := fun F => ∀ q, (F.front q).templates = templates) ?_ ?_ hF
  · intro F G hF hstirs q
    exact (hstirs.quiet.calm q).place.2.2.trans (hF q)
  · intro F i o made spent ws g hub hF hacts hcarries
    refine turn_cases hub (P := fun _ f => f.templates = templates) (Eq.trans ?_ (hF i)) fun q _ => hF q
    rcases hacts.inv with ⟨hcalm, -⟩ | ⟨net, hbirths⟩ | ⟨net, hcopies⟩
    · exact hcalm.place.2.2
    · exact hbirths.place.2.2
    · exact hcopies.place.2.2

theorem Saga.remembers (h : F.Saga hand H G) (hn : n < IdSource.wordSize) (hF : F.Allotted)
    {since : Nat} (hold : (F.front q).registry.Remembers since net) :
    (G.front q).registry.Remembers since net := by
  have hcalm {r r' : Registry} (hr : r.Healthy) (hsame : r' = r ∨ r.Changes r')
      (hold : r.Remembers since net) : r'.Remembers since net := by
    rcases hsame with rfl | hchanges
    · exact hold
    · exact hold.changes hr hchanges
  refine h.keeps hn hF (I := fun F => (F.front q).registry.Remembers since net) ?_ ?_ hold
  · intro F G hF hquiet hold
    exact hcalm (hF.healthy q) (hquiet.calm q).registry hold
  · intro F i o made spent ws g hub hF hacts hcarries hold
    rw [front_spend]
    by_cases hq : q = i
    · subst hq
      rw [front_turn_self]
      rcases hacts.inv with ⟨hstill, -⟩ | ⟨net, hbirths⟩ | ⟨net, hcopies⟩
      · exact hcalm (hF.healthy q) hstill.registry hold
      · obtain ⟨_, _, _, _, hinsert⟩ := hbirths.registered
        exact hold.insert hinsert
      · obtain ⟨_, _, _, hinsert⟩ := hcopies.registered
        exact hold.insert hinsert
    · rwa [front_turn_of_ne hq]

end Forum

/-! ## Making and copying a global net -/

/-- The registry of a process that was told of a net has the new slot. -/
theorem Node.registry_of_spawned {σ τ : Type} [NetBehaviour σ] [Transport τ] {n : Node σ τ}
    (origin : ProcessId) {registry : Registry} (htemplate : template.toNat < n.process.templates.length)
    (hinsert : n.process.registry.insert net template.toNat
      (.ofIndex (n.process.copies % n.process.settings.threads)) parent true = .ok registry) :
    (final (handleControl (.spawned net template parent origin) n)).process.registry = registry := by
  simp only [handleControl, bind_apply, recordReceived, modifyProcess_apply, attempt_apply,
    spawnCopy, nextOwner, getProcess_apply, pure_apply, getTemplate_apply,
    List.getElem?_eq_getElem htemplate, createInstance_apply, hinsert]
  by_cases hid : NetBehaviour.id (n.process.templates[template.toNat].create
      ⟨net, template.toNat, parent, n.process.id, n.process.processCount, true⟩) = net
  · simp only [hid, if_true, post_apply]
    by_cases howner : (WorkerId.ofIndex (n.process.copies % n.process.settings.threads)).index <
        n.process.inboxes.length
    · simp only [howner, if_true]
      rfl
    · simp only [howner, if_false]
      rfl
  · simp only [hid, if_false]
    rfl

namespace Moment

variable {σ τ : Type} [NetBehaviour σ] [Transport τ] {m : Moment σ τ} {net : NetId}

theorem template_of_spawned {isGlobal : Bool}
    (hspawn : m.occasion = .spawn owner index requested parent isGlobal) (hmade : m.spawned? = some net) :
    index < m.node.process.templates.length := by
  by_contra hlt
  have hnone : m.node.process.templates[index]? = none := List.getElem?_eq_none (Nat.not_lt.mp hlt)
  simp only [spawned?, hspawn, Node.spawn_eq, Node.bind_apply, Node.checkWorker_apply] at hmade
  by_cases howner : owner.index < m.node.process.inboxes.length
  · simp only [if_pos howner, Node.getTemplate_apply, hnone] at hmade
    cases hmade
  · simp only [if_neg howner] at hmade
    cases hmade

theorem copy_of_unknown {origin : ProcessId} (hpacket : m.occasion = .packet packet)
    (hmessage : packet.message? = some (.spawned net template parent origin))
    (htemplate : template.toNat < m.node.process.templates.length)
    (hslot : m.node.process.registry.slot? net = none)
    (hretired : m.node.process.registry.isRetired net = false) :
    ∃ slot, m.after.process.registry.slot? net = some slot ∧
      slot.origin = (template.toNat, parent, true) := by
  have hdecode := Packet.message?_eq_some.mp hmessage
  obtain ⟨registry, hinsert⟩ : ∃ registry, m.node.process.registry.insert net template.toNat
      (.ofIndex (m.node.process.copies % m.node.process.settings.threads)) parent true = .ok registry := by
    simp [Registry.insert, hslot, hretired]
  have hafter : m.after.process.registry = registry := by
    simp only [after, hpacket, Node.dispatch, Packet.tag_of_message hdecode, hdecode]
    exact Node.registry_of_spawned origin htemplate hinsert
  rw [hafter, (Registry.insert_eq_ok hinsert).2, Function.update_self]
  exact ⟨_, rfl, rfl⟩

end Moment

/-- Who makes a global net tells all peers. -/
theorem Front.Acts.tells {σ : Type} {f g : Front σ} {ws : List Wire} {naming : NetId → Prop}
    {spent : Option NetId}
    (h : f.Acts naming (.spawn owner index requested parent true) (some net) spent ws g)
    (hpeers : 1 < f.processCount) : f.Tells (.spawned net (UInt32.ofNat index) parent f.id) ws := by
  cases h with
  | made _ _ htells =>
    rw [if_pos ⟨rfl, hpeers⟩] at htells
    exact htells

namespace Forum.Meets

variable {n : Nat} {σ : Type} [NetBehaviour σ] {hand : Prop} {F : Forum n σ} {i q : Fin n}
  {m : Moment σ Mailbox.Link} {ws : List Wire} {g : Front σ} {hub : Mailbox.Hub} {net : NetId}
  (h : F.Meets hand i m ws g hub) (hF : F.Allotted) (hn : n < IdSource.wordSize)

include h

/-- What a process sends to a peer at a moment is in the mailbox then. -/
theorem mem_mail (hq : q ≠ i) (hsent : Wire.sent (.at q) packet ∈ ws) :
    packet ∈ (F.past i m).mail q := by
  have hturned : hub.mail n q = F.mail q ++ ws.filterMap (Wire.sentTo? (.at q)) :=
    h.carries.traffic.mail_other hq
  have hmem : packet ∈ hub.mail n q := by
    rw [hturned]
    exact List.mem_append_right _ (List.mem_filterMap.mpr ⟨_, hsent, by simp [Wire.sentTo?]⟩)
  obtain ⟨more, hmail, -⟩ := h.past.passes q
  have hthere : packet ∈ ((F.turn i g hub).spend m.spent?).mail q ++ more := List.mem_append_left _ hmem
  rwa [hmail] at hthere

theorem open_before (hpeer : (F.past i m).hub.isClosed (.at q) = false) :
    F.hub.isClosed (.at q) = false := by
  obtain ⟨_, -, hclosed⟩ := h.past.passes q
  by_contra hshut
  have hturned : hub.isClosed (.at q) = true := (h.carries.closed _).trans (by simpa using hshut)
  simp [(hclosed hturned).2] at hpeer

include hn

theorem next (hpacket : m.occasion = .packet packet) : ∃ rest, F.mail i = packet :: rest := by
  have htook := h.acts.took_eq
  have hown := h.carries.traffic.mail_own hn
  rw [htook, hpacket] at hown
  exact ⟨_, hown⟩

include hF

theorem news (hspawn : m.occasion = .spawn owner index requested parent true)
    (hmade : m.spawned? = some net) (hopen : m.node.link.hub.isClosed (.at i) = false) (hq : q ≠ i)
    (hpeer : (F.past i m).hub.isClosed (.at q) = false) :
    (ControlMessage.spawned net (UInt32.ofNat index) parent (.at i)).toPacket (.at i) ∈
      (F.past i m).mail q := by
  have hacts := h.acts
  rw [hspawn, hmade] at hacts
  have hpeers : 1 < (F.front i).processCount := by
    rw [hF.processCount]
    have hlt := q.isLt
    have hlt' := i.isLt
    have hne : q.val ≠ i.val := fun e => hq (Fin.ext e)
    omega
  have htells := hacts.tells hpeers
  rw [Front.Tells, Front.peers, hF.id, hF.processCount] at htells
  have hhub : m.node.link.hub = F.hub := h.found (by simp [hspawn, Occasion.isPacket])
  refine h.mem_mail hq ?_
  rcases htells.sent_or_refused (ProcessId.at_mem_peers hn hq) with hsent | hrefused
  · exact hsent
  · rcases h.carries.refused _ _ hrefused with hself | hother | hsame
    · simp [← hhub, hopen] at hself
    · simp [h.open_before hpeer] at hother
    · exact absurd (ProcessId.at_inj hn hsame) hq

theorem copies {origin : ProcessId} (hpacket : m.occasion = .packet packet)
    (hmessage : packet.message? = some (.spawned net template parent origin))
    (htemplate : template.toNat < (F.front i).templates.length) :
    m.makes net = true ∧ ∃ slot, m.after.process.registry.slot? net = some slot ∧
      slot.origin = (template.toNat, parent, true) := by
  -- the name is neither in a slot nor remembered, or the news could not be there
  have hnot := h.not_settled hn hpacket (Packet.spawns_iff.mpr ⟨_, _, _, hmessage⟩)
  have hslot : m.node.process.registry.slot? net = none := by
    by_contra hsome
    exact hnot (hF.settled i net (.inl (h.slots.1 ▸ hsome)))
  have hretired : m.node.process.registry.isRetired net = false := by
    by_contra hold
    exact hnot (hF.settled i net (.inr (h.slots.1 ▸ by simpa using hold)))
  have htemplates : m.node.process.templates = (F.front i).templates :=
    congrArg Front.templates h.front
  obtain ⟨slot, hnew, horigin⟩ :=
    Moment.copy_of_unknown hpacket hmessage (htemplates ▸ htemplate) hslot hretired
  refine ⟨?_, slot, hnew, horigin⟩
  simp [Moment.makes, hslot, hnew]

end Forum.Meets

/-- If callers choose only names that were drawn and are not used up, and tell of no net by hand: when
a process that has not shut down makes a global net, then before a peer takes in a packet that was sent
to it later, whatever the packet is, it has taken in the news of the net and made its copy of it. When
it takes in the packet, it knows the net, unless it has retired more nets since than it remembers. That
the packet was sent later is said without regard to the order of packets: the peer has taken in as many
like it as waited when the net was made. -/
theorem news_comes_before_use {σ : Type} [NetBehaviour σ] {n : Nat} {settings : Settings}
    {templates : List (Template σ)} {storage : Storage} {start : Cluster σ}
    (hcreate : Cluster.create n settings templates storage = .ok start)
    {orders : List (Cluster.Order σ)} (hnames : start.allocates [] orders = true)
    (hrumour : ∀ order ∈ orders, order.command.isRumour = false)
    {before between rest : List (Nat × Moment σ Mailbox.Link)} {p q : Nat}
    {s d : Moment σ Mailbox.Link}
    (hhistory : start.history orders = before ++ (p, s) :: (between ++ (q, d) :: rest))
    {owner : WorkerId} {index : Nat} {requested parent : Option NetId} {net : NetId}
    (hspawn : s.occasion = .spawn owner index requested parent true) (hmade : s.spawned? = some net)
    (hopen : s.node.link.hub.isClosed (.ofIndex p) = false) (hq : q ≠ p) {packet : Packet}
    (hpacket : d.occasion = .packet packet)
    (hlater : (s.after.link.hub.queue (.ofIndex q)).count packet ≤ (takenBy q between).count packet) :
    ∃ early a late, between = early ++ (q, a) :: late ∧
      a.occasion = .packet ((ControlMessage.spawned net (UInt32.ofNat index) parent
        (.ofIndex p)).toPacket (.ofIndex p)) ∧
      a.makes net = true ∧
      (∃ slot, a.after.process.registry.slot? net = some slot ∧
        slot.template = index % IdSource.wordSize ∧ index < templates.length ∧
        slot.parent = parent ∧ slot.isGlobal = true) ∧
      (d.node.process.registry.state? net = none →
        a.after.process.registry.retiredCount + Registry.retiredWindow <
          d.node.process.registry.retiredCount) := by
  obtain ⟨-, hn, hpresents⟩ := Cluster.create_presents hcreate
  obtain ⟨G, -, hsaga⟩ := hpresents.saga hn (by simp) hnames hrumour
  rw [hhistory] at hsaga
  obtain ⟨i, F, ws, g, hub, rfl, hbefore, hmeets, hafter⟩ := hsaga.split
  obtain ⟨j, D, ws', g', hub', rfl, hbetween, hmeets', -⟩ := hafter.split
  have hne : j ≠ i := fun e => hq (congrArg Fin.val e)
  have hF := hbefore.allotted hn Forum.fresh_allotted
  have hP := hmeets.allotted hF hn
  -- all that waited for the peer is taken in, the news included
  obtain ⟨_, hnext⟩ := hmeets'.next hn hpacket
  obtain ⟨hpeer, htaken⟩ := hbetween.taken_of_later hnext hlater
  obtain ⟨a, ha, hnews⟩ := mem_takenBy (htaken _ (hmeets.news hF hn hspawn hmade hopen hne hpeer))
  obtain ⟨early, late, rfl⟩ := List.append_of_mem ha
  obtain ⟨k, A, ws'', g'', hub'', hk, hearly, hcopies, hlate⟩ := hbetween.split
  obtain rfl : k = j := Fin.ext hk
  have hA := hearly.allotted hn hP
  -- the peer has the template, since all have the same ones
  have hown : s.node.process.templates = templates :=
    (congrArg Front.templates hmeets.front).trans (hbefore.templates (fun _ => rfl) i)
  have hpeers : (A.front k).templates = templates :=
    ((hbefore.trans hmeets.saga).trans hearly).templates (fun _ => rfl) k
  have hindex : index < templates.length := hown ▸ Moment.template_of_spawned hspawn hmade
  have hcarried : (UInt32.ofNat index).toNat = index % IdSource.wordSize := UInt32.toNat_ofNat'
  have htemplate : (UInt32.ofNat index).toNat < (A.front k).templates.length := by
    rw [hcarried, hpeers]
    exact Nat.lt_of_le_of_lt (Nat.mod_le ..) hindex
  obtain ⟨hmakes, slot, hslot, horigin⟩ :=
    hcopies.copies hA hn hnews (Packet.message?_toPacket ..) htemplate
  have hfirst : ((A.past k a).front k).registry.Remembers a.after.process.registry.retiredCount net := by
    rw [← hcopies.slots.2]
    exact .inl ⟨by simp [hslot], Nat.le_refl _⟩
  have hlast := hlate.remembers hn (hcopies.allotted hA hn) hfirst
  refine ⟨early, a, late, rfl, hnews, hmakes, ⟨slot, hslot, ?_, hindex, ?_, ?_⟩, fun hunknown => ?_⟩
  · exact (congrArg Prod.fst horigin).trans hcarried
  · exact congrArg (·.2.1) horigin
  · exact congrArg (·.2.2) horigin
  · rw [hmeets'.slots.1] at hunknown ⊢
    exact hlast.known ((hbetween.allotted hn hP).healthy k) hunknown

/-- Process 0 makes a global net, process 1 sends tokens for it to process 2, and process 2 takes in two
packets: the first of them is the news. -/
theorem news_comes_before_use_third_process :
    ∃ (start : Cluster Bare) (orders : List (Cluster.Order Bare)) (s a d : Moment Bare Mailbox.Link),
      start.history orders = [(0, s), (2, a), (2, d)] ∧ s.spawned? = some ⟨0⟩ ∧
      d.occasion = .packet (.ofTokens ⟨1⟩ ⟨⟨0⟩, ⟨0⟩, ⟨1, []⟩⟩) ∧ a.makes ⟨0⟩ = true ∧
      ∃ slot, a.after.process.registry.slot? ⟨0⟩ = some slot ∧ slot.isGlobal = true := by
  let tokens : Packet := .ofTokens ⟨1⟩ ⟨⟨0⟩, ⟨0⟩, ⟨1, []⟩⟩
  let orders : List (Cluster.Order Bare) := [⟨0, .act (.operation (.spawn ⟨0⟩ 0 none none true)), 0⟩,
    ⟨1, .act (.operation (.send ⟨2⟩ ⟨⟨0⟩, ⟨0⟩, ⟨1, []⟩⟩)), 0⟩,
    ⟨2, .act (.operation (.receivePackets 2)), 0⟩]
  obtain ⟨start, hcreate⟩ : ∃ start : Cluster Bare,
      Cluster.create 3 ⟨1, false, 0, 0, none⟩ [Bare.template] (.create []) = .ok start := ⟨_, rfl⟩
  have hnames : start.allocates [] orders = true := by
    cases hcreate
    cbv
  have hviews : (start.history orders).map (fun e => (e.1, e.2.occasion, e.2.spawned?,
      e.2.node.link.hub.isClosed ⟨0⟩, (e.2.after.link.hub.queue ⟨2⟩).count tokens)) =
      [(0, .spawn ⟨0⟩ 0 none none true, some ⟨0⟩, false, 0),
        (2, .packet ((ControlMessage.spawned ⟨0⟩ 0 none ⟨0⟩).toPacket ⟨0⟩), none, false, 1),
        (2, .packet tokens, none, false, 0)] := by
    cases hcreate
    cbv
  obtain ⟨⟨i, s⟩, ⟨j, a⟩, ⟨k, d⟩, hhistory⟩ : ∃ x y z, start.history orders = [x, y, z] :=
    List.length_eq_three.mp (by simpa using congrArg List.length hviews)
  simp only [hhistory, List.map_cons, List.map_nil, List.cons.injEq, Prod.mk.injEq, and_true] at hviews
  obtain ⟨⟨rfl, hspawn, hmade, hopen, hlater⟩, ⟨rfl, -⟩, rfl, hpacket, -⟩ := hviews
  have hsplit : start.history orders = [] ++ (0, s) :: ([(2, a)] ++ (2, d) :: []) := hhistory
  obtain ⟨early, a', late, hbetween, -, hmakes, ⟨slot, hslot, -, -, -, hglobal⟩, -⟩ :=
    news_comes_before_use hcreate hnames (by decide) hsplit hspawn hmade hopen (by decide) hpacket
      (Nat.le_trans (Nat.le_of_eq hlater) (Nat.zero_le _))
  obtain ⟨rfl, hmoment⟩ := (List.append_eq_singleton_iff.mp hbetween.symm).resolve_right (by simp)
  cases (List.cons.inj hmoment).1
  exact ⟨start, orders, s, a, d, hhistory, hmade, hpacket, hmakes, slot, hslot, hglobal⟩

/-- A process that has shut down makes a global net all the same, and nobody hears of it: process 1
sends tokens for it to process 2, which has never had the net. -/
theorem no_news_from_a_closed_end :
    ∃ (start : Cluster Bare) (orders : List (Cluster.Order Bare)) (s d : Moment Bare Mailbox.Link),
      Cluster.create 3 ⟨1, false, 0, 0, none⟩ [Bare.template] (.create []) = .ok start ∧
      start.allocates [] orders = true ∧ (∀ order ∈ orders, order.command.isByHand = false) ∧
      start.history orders = [(0, s), (2, d)] ∧
      s.occasion = .spawn ⟨0⟩ 0 none none true ∧ s.spawned? = some ⟨0⟩ ∧
      s.after.link.hub.queue ⟨2⟩ = [] ∧
      d.occasion = .packet (.ofTokens ⟨1⟩ ⟨⟨0⟩, ⟨0⟩, ⟨1, []⟩⟩) ∧
      d.node.process.registry.state? ⟨0⟩ = none := by
  let orders : List (Cluster.Order Bare) := [⟨0, .shutdown, 0⟩,
    ⟨0, .act (.operation (.spawn ⟨0⟩ 0 none none true)), 0⟩,
    ⟨1, .act (.operation (.send ⟨2⟩ ⟨⟨0⟩, ⟨0⟩, ⟨1, []⟩⟩)), 0⟩,
    ⟨2, .act (.operation (.receivePackets 1)), 0⟩]
  obtain ⟨start, hcreate⟩ : ∃ start : Cluster Bare,
      Cluster.create 3 ⟨1, false, 0, 0, none⟩ [Bare.template] (.create []) = .ok start := ⟨_, rfl⟩
  have hnames : start.allocates [] orders = true := by
    cases hcreate
    cbv
  have hviews : (start.history orders).map (fun e => (e.1, e.2.occasion, e.2.spawned?,
      e.2.after.link.hub.queue ⟨2⟩, e.2.node.process.registry.state? ⟨0⟩)) =
      [(0, .spawn ⟨0⟩ 0 none none true, some ⟨0⟩, [], none),
        (2, .packet (.ofTokens ⟨1⟩ ⟨⟨0⟩, ⟨0⟩, ⟨1, []⟩⟩), none, [], none)] := by
    cases hcreate
    cbv
  obtain ⟨⟨i, s⟩, ⟨k, d⟩, hhistory⟩ : ∃ x y, start.history orders = [x, y] :=
    List.length_eq_two.mp (by simpa using congrArg List.length hviews)
  simp only [hhistory, List.map_cons, List.map_nil, List.cons.injEq, Prod.mk.injEq, and_true] at hviews
  obtain ⟨⟨rfl, hspawn, hmade, hqueue, -⟩, rfl, hpacket, -, -, hstate⟩ := hviews
  exact ⟨start, orders, s, d, hcreate, hnames, by decide, hhistory, hspawn, hmade, hqueue, hpacket, hstate⟩

end PetriCluster
