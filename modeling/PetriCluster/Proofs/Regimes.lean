import PetriCluster.Proofs.Books
import PetriCluster.Proofs.Seats

/-!
# From scenes to schedulers

What holds of the books of a process, of its scene and of its link is kept by every call of a scheduler
if it is kept when an item is dealt with, when a packet is taken in, when the process hears of a net,
and when a transition is asked to fire (`Node.Regime`).
-/

namespace PetriCluster

/-- The books of a process in a cluster that runs one of the nets of the command line. -/
structure Books.Home {n : Nat} (limit : UInt32) (i : Fin n) (b : Books DemoNet) : Prop where
  id : b.id = .at i
  processCount : b.processCount = n
  templates : b.templates = DemoNet.templates limit
  inboxes : ∀ box ∈ b.unnamedInboxes, box = []
  nets : ∀ x ∈ b.unnamedNets, x = (∅, ∅)

namespace Node

open Scene

variable {σ : Type} [NetBehaviour σ]

/-- What every deed of a process keeps. The number counts the firings that are not on the books yet. -/
structure Regime (E : TokenEvent → Prop) (A : Books σ → Scene σ → Nat → Mailbox.Link → Prop) :
    Prop where
  unmoved : ∀ {b s t link link' ws}, A b s 0 link → Wired link ws link' →
    Wire.Utters (Packet.Tells ControlMessage.isAside) ws → s.Unmoved t → A b t 0 link'
  hear : ∀ {b s t link link' packet ws}, A b s 0 link → Wired link (.took packet :: ws) link' →
    packet.Tells ControlMessage.isAside → Wire.Utters (Packet.Tells ControlMessage.isAside) ws →
    s.Unmoved t → A b t 0 link'
  tally : ∀ {b s k link}, A b s k link → A { b with firings := b.firings + k } s 0 link
  plain : ∀ {b s link item rest}, A b s 0 link → s.hand = item :: rest →
    ∀ net transition, item ≠ .fire net transition
  deal : ∀ {b s t link link' item rest ws events}, A b s 0 link → s.Sound → s.hand = item :: rest →
    Deals s item ws events t → Wired link ws link' →
    (∀ e ∈ events, E e) ∧ A b (t.finish item rest) 0 link'
  fail : ∀ {b s t link item rest c}, A b s 0 link → s.hand = item :: rest → Fails s item c t →
    ((∀ parcel, item ≠ .tokens parcel) ∨ ∀ e, E e) ∧ A b t.letGo 0 link
  take : ∀ {b s t link mid link' packet ws events}, A b s 0 link → s.Sound →
    Transport.receive link = (.ok (some packet), mid) →
    (∀ message, ControlMessage.ofPacket packet = .ok message → message.isNotice = true) →
    Takes s packet ws events t → Wired mid ws link' → (∀ e ∈ events, E e) ∧ A b t 0 link'
  /-- The process hears of a net: it makes its copy, or refuses to, which it may be unable to. -/
  news : ∀ {b s link link' packet net template parent origin}, A b s 0 link →
    Transport.receive link = (.ok (some packet), link') →
    ControlMessage.ofPacket packet = .ok (.spawned net template parent origin) →
    ∃ made, b.templates[template.toNat]? = some made ∧
      NetBehaviour.id (made.create ⟨net, template.toNat, parent, b.id, b.processCount, true⟩) = net ∧
      ((∀ owner, ∃ registry,
          s.registry.insert net template.toNat owner parent true = .ok registry) ∨
        ∀ termination, A b (s.setTermination termination) 0 link') ∧
      ∀ owner registry termination, s.HasWorker owner →
        s.registry.insert net template.toNat owner parent true = .ok registry →
        A b (((s.setRegistry registry).setTermination termination).post owner (.adopt
          (made.create ⟨net, template.toNat, parent, b.id, b.processCount, true⟩))) 0 link'
  fire : ∀ {w k n net state}, ∀ transition, (n.process.scene w []).Sound →
    A n.process.books (n.process.scene w []) k n.link →
    (n.process.worker w).nets.find? net = some state →
    Honours E
      (fun outcome m => A m.process.books (m.process.scene w [])
        (if outcome.result = .fired then k + 1 else k) m.link)
      (fun m => A m.process.books (m.process.scene w []) 0 m.link)
      (firingEvents w net state transition n) (fireAndRecord w net state transition n)

/-- What a regime says of a node; there is a worker if there are firings to count. -/
def Stands (A : Books σ → Scene σ → Nat → Mailbox.Link → Prop) (w : WorkerId)
    (hand : List (WorkItem σ)) (k : Nat) (n : Node σ Mailbox.Link) : Prop :=
  (k ≠ 0 → w.index < n.process.workers.length) ∧
    A n.process.books (n.process.scene w hand) k n.link

namespace Regime

variable {E : TokenEvent → Prop} {A : Books σ → Scene σ → Nat → Mailbox.Link → Prop}
  (h : Regime E A) {w : WorkerId} {n : Node σ Mailbox.Link} {item : WorkItem σ}
  {rest : List (WorkItem σ)} {packet : Packet} {link : Mailbox.Link}

include h

theorem checks {b : Books σ} {s t : Scene σ} {link link' : Mailbox.Link} {ws : List Wire}
    (hA : A b s 0 link) (hchecks : Checks s ws t) (hwired : Wired link ws link') : A b t 0 link' :=
  h.unmoved hA hwired hchecks.unmoved.2 hchecks.unmoved.1

theorem dealWith (hs : (n.process.scene w (item :: rest)).Sound) (hA : Stands A w (item :: rest) 0 n) :
    Honours E (fun _ => Stands A w rest 0) (Stands A w [] 0) (itemEvents w item n)
      (dealWith w item n) := by
  have hfire := h.plain hA.2 rfl
  have hconcludes := dealWith_concludes hfire hs
  have hsteady := (dealWith_within w (.inr hfire) (.inl trivial)).steady n
  rcases hrun : Node.dealWith w item n with ⟨_, m⟩ | ⟨e | c, m⟩ <;> rw [hrun] at hconcludes hsteady
  · obtain ⟨t, ws, mid, later, hdeals, hwired, hchecks, hlater⟩ := hconcludes
    obtain ⟨hevents, hmid⟩ := h.deal hA.2 hs rfl hdeals hwired
    refine ⟨hevents, absurd rfl, ?_⟩
    rw [show m.process.books = n.process.books from hsteady]
    exact h.checks hmid hchecks hlater
  · exact hconcludes.elim
  · obtain ⟨t, hfails, hscene, hlink⟩ := hconcludes
    obtain ⟨hitem, hleft⟩ := h.fail hA.2 rfl hfails
    constructor
    · rcases hitem with hitem | hall
      · cases item with
        | tokens parcel => exact absurd rfl (hitem parcel)
        | fire net transition => exact absurd rfl (hfire net transition)
        | _ => simp [itemEvents]
      · exact fun e _ => hall e
    · refine ⟨absurd rfl, ?_⟩
      rwa [show m.process.books = n.process.books from hsteady, hscene, hlink]

theorem hearOf {net : NetId} {template : UInt32} {parent : Option NetId} {origin : ProcessId}
    (hs : (n.process.scene w []).Sound) (hA : Stands A w [] 0 n)
    (hreceive : Transport.receive n.link = (.ok (some packet), link))
    (hmessage : ControlMessage.ofPacket packet = .ok (.spawned net template parent origin)) :
    Honours E (fun _ => Stands A w [] 0) (Stands A w [] 0) (packetEvents packet n)
      (dispatch packet { n with link }) := by
  obtain ⟨made, htemplate, hname, hrefused, hgo⟩ := h.news hA.2 hreceive hmessage
  have htag := Packet.tag_of_message hmessage
  have hdispatch : dispatch packet { n with link } =
      handleControl (.spawned net template parent origin) { n with link } := by
    simp only [dispatch, htag, hmessage]
  have hsteady := (dispatch_within packet).steady { n with link }
  refine ⟨by simp [packetEvents_of_service htag], ?_⟩
  rw [hdispatch] at hsteady ⊢
  rcases handleControl_spawned_cases (n := { n with link }) net template parent origin hs with
    ⟨p, hrun, hwhy, hscene⟩ | ⟨owner, found, registry, howner, hfound, hok, hcases⟩
  · rw [hrun] at hsteady ⊢
    refine ⟨absurd rfl, ?_⟩
    rw [show p.books = n.process.books from hsteady, hscene]
    rcases hrefused with hroom | hstays
    · rcases hwhy with hnone | ⟨owner, e, herror⟩
      · cases hnone.symm.trans htemplate
      · obtain ⟨registry, hok⟩ := hroom owner
        cases herror.symm.trans hok
    · exact hstays _
  · cases hfound.symm.trans htemplate
    rcases hcases with ⟨p, hrun, -, hscene⟩ | ⟨p, -, hforeign, -⟩
    · rw [hrun] at hsteady ⊢
      refine ⟨absurd rfl, ?_⟩
      rw [show p.books = n.process.books from hsteady, hscene]
      exact hgo owner registry _ howner hok
    · exact absurd hname hforeign

theorem dispatch (hs : (n.process.scene w []).Sound) (hA : Stands A w [] 0 n)
    (hreceive : Transport.receive n.link = (.ok (some packet), link)) :
    Honours E (fun _ => Stands A w [] 0) (Stands A w [] 0) (packetEvents packet n)
      (dispatch packet { n with link }) := by
  by_cases hnews : ∃ net template parent origin,
      ControlMessage.ofPacket packet = .ok (.spawned net template parent origin)
  · obtain ⟨net, template, parent, origin, hmessage⟩ := hnews
    exact h.hearOf hs hA hreceive hmessage
  have hnotice (message : ControlMessage) (hmessage : ControlMessage.ofPacket packet = .ok message) :
      message.isNotice = true := by
    cases message with
    | spawned net template parent origin => exact absurd ⟨_, _, _, _, hmessage⟩ hnews
    | _ => rfl
  have habsorbs : Absorbs False False w [] packet { n with link } _ _ :=
    dispatch_absorbs (n := { n with link }) packet hs
  have hsteady := (dispatch_within packet).steady { n with link }
  rcases hrun : Node.dispatch packet { n with link } with ⟨_, m⟩ | ⟨e | c, m⟩ <;>
    rw [hrun] at habsorbs hsteady
  · obtain ⟨t, ws, mid, later, htakes, hwired, hchecks, hlater⟩ := habsorbs
    obtain ⟨hevents, hmid⟩ := h.take hA.2 hs hreceive hnotice htakes hwired
    refine ⟨hevents, absurd rfl, ?_⟩
    rw [show m.process.books = n.process.books from hsteady]
    exact h.checks hmid hchecks hlater
  · exact habsorbs.elim
  · obtain ⟨hwreck, hlink⟩ := habsorbs
    generalize hscene : m.process.scene w [] = u at hwreck
    cases hwreck with
    | misfitCopy hmessage => cases hnotice _ hmessage
    | overflow hmessage =>
      have htag := Packet.tag_of_message hmessage
      have haside : packet.Tells ControlMessage.isAside := by
        refine ⟨htag, fun message hm => ?_⟩
        cases hmessage.symm.trans hm
        rfl
      refine ⟨by simp [packetEvents_of_service htag], absurd rfl, ?_⟩
      rw [show m.process.books = n.process.books from hsteady, hscene, hlink]
      exact h.hear hA.2 (.took hreceive .nil) haside Wire.utters_nil
        ⟨rfl, rfl, rfl, fun v => items_letGo rfl v, fun _ => rfl⟩

/-- What is kept by what happens to scenes is kept by every deed of a process. -/
theorem upholds : Upholds E (Stands A) where
  turn w hA := ⟨absurd rfl, h.unmoved hA.2 .nil Wire.utters_nil (.turnTo rfl w)⟩
  drain {w n} hA := by
    refine ⟨absurd rfl, ?_⟩
    rw [Process.books_emptyInbox]
    exact h.unmoved hA.2 .nil Wire.utters_nil (.drain rfl)
  deal hs hA := h.dealWith hs hA
  fire {w k n net state} transition hs hA _ hfound := by
    obtain ⟨hevents, hresult⟩ := h.fire transition hs hA.2 hfound
    refine ⟨hevents, ?_⟩
    rcases hrun : fireAndRecord w net state transition n with ⟨outcome, m⟩ | ⟨e, m⟩ <;>
      rw [hrun] at hresult
    · exact ⟨fun _ => Process.lt_of_find?_nets (fireAndRecord_found hfound hs hrun), hresult⟩
    · exact ⟨absurd rfl, hresult⟩
  tally {w k n f} hf hA := by
    have hbooks := Process.books_tallyFirings (p := n.process) (w := w)
      (f := fun worker => { worker with stats := f worker.stats }) hA.1 fun x => hf x.stats
    refine ⟨absurd rfl, ?_⟩
    rw [hbooks, Process.scene_updateWorker_quiet]
    · exact h.tally hA.2
    all_goals exact fun _ => rfl
  take hs hA hreceive := h.dispatch hs hA hreceive
  tick {w n m} hA hrun := by
    have hsteady := tick_within.steady n
    obtain ⟨after, ws, htick, hchecks, hwired⟩ := tick_checks w [] n
    rw [hrun] at hsteady htick
    cases htick
    refine ⟨absurd rfl, ?_⟩
    rw [show m.process.books = n.process.books from hsteady]
    exact h.checks hA.2 hchecks hwired

end Regime

end Node

namespace Cluster

variable {σ : Type} [NetBehaviour σ]

/-- Each process has a regime that keeps what holds of the cluster. -/
structure Governs (E : TokenEvent → Prop) (P : Cluster σ → Prop) : Prop where
  timed : ∀ {c} now, P c → P { c with now }
  node : ∀ {c i node}, P c → c.node? i = some node → node.process.outline.Sound ∧
    ∃ A, Node.Regime E A ∧ A node.process.books node.process.outline 0 node.link ∧
      ∀ {after}, A after.process.books after.process.outline 0 after.link →
        after.process.outline.Sound → P (c.update i after)

variable {E : TokenEvent → Prop} {P : Cluster σ → Prop} {c : Cluster σ}

theorem Governs.next (h : Governs E P) (hc : P c) {call : Call}
    (hcall : call.operation.isScheduling = true) : (∀ e ∈ c.events call, E e.2) ∧ P (c.next call) := by
  cases hnode : { c with now := call.now }.node? call.process with
  | none =>
    refine ⟨by simp [Cluster.events, hnode], ?_⟩
    rwa [Cluster.next, act, hnode]
  | some node =>
    obtain ⟨hs, A, hregime, hA, hgo⟩ := h.node (h.timed call.now hc) hnode
    obtain ⟨hevents, -, hfinal⟩ := hregime.upholds.run hcall hs ⟨absurd rfl, hA⟩
    obtain ⟨events, hpath⟩ := Operation.obeys_steps hcall node hs
    rw [next_eq hnode]
    refine ⟨fun e he => ?_, ?_⟩
    · rw [Cluster.events, hnode] at he
      obtain ⟨event, hevent, rfl⟩ := List.mem_map.mp he
      exact hevents event hevent
    · exact hgo hfinal (hpath.sound hs)

/-- What the deeds of every process keep holds after all calls. -/
theorem Governs.foldl (h : Governs E P) (hc : P c) {calls : List Call}
    (hcalls : ∀ call ∈ calls, call.operation.isScheduling = true) : P (calls.foldl Cluster.next c) := by
  induction calls generalizing c with
  | nil => exact hc
  | cons call rest ih =>
    exact ih (h.next hc (hcalls call (List.mem_cons_self ..))).2
      fun other hother => hcalls other (List.mem_cons_of_mem _ hother)

end Cluster

end PetriCluster
