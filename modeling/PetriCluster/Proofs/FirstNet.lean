import PetriCluster.Proofs.Regimes
import PetriCluster.Proofs.Remnants

/-!
# The first net of a cluster

The processes of a new cluster have no nets (`Scene.Lacks`) and nothing on their books. Process 0 makes
the first net and tells the others of it; the news is then in their mailboxes.
-/

namespace PetriCluster

variable {n : Nat} {limit : UInt32}

namespace Scene

variable {s t : Scene DemoNet} {owner : WorkerId}

/-- A process that has no net yet. -/
structure Lacks (s : Scene DemoNet) : Prop where
  slots : ∀ net, s.registry.slot? net = none
  retired : s.registry.retired = .create Registry.retiredWindow
  active : ∀ w net, s.active w net = none
  halting : ∀ w net, s.halting w net = none
  items : ∀ w, s.items w = []

theorem Lacks.congr (h : s.Lacks) (hsame : s.Unmoved t) : t.Lacks where
  slots := by rw [hsame.registry]; exact h.slots
  retired := by rw [hsame.registry]; exact h.retired
  active := by rw [hsame.active]; exact h.active
  halting := by rw [hsame.halting]; exact h.halting
  items w := (hsame.items w).trans (h.items w)

theorem Lacks.isRetired (h : s.Lacks) (net : NetId) : s.registry.isRetired net = false := by
  rw [Registry.isRetired, h.retired]
  exact Registry.isRetired_create Registry.retiredWindow net

theorem Lacks.not_stopped (h : s.Lacks) (net : NetId) : ¬ s.registry.Stopped net := by
  simp [Registry.Stopped, Registry.state?, h.slots, h.isRetired]

theorem Lacks.exists_insert (h : s.Lacks) (net : NetId) (index : Nat) (owner : WorkerId)
    (parent : Option NetId) (isGlobal : Bool) :
    ∃ registry, s.registry.insert net index owner parent isGlobal = .ok registry := by
  refine ⟨s.registry.setSlot net ⟨index, owner, parent, isGlobal, .spawned, 0⟩, ?_⟩
  simp [Registry.insert, h.isRetired, h.slots]

theorem Lacks.hand_eq_nil (h : s.Lacks) : s.hand = [] := by
  have hitems := h.items s.worker
  rw [Scene.items, if_pos rfl] at hitems
  exact (List.append_eq_nil_iff.mp hitems).1

/-- A copy of the first net is registered and put before a worker. -/
theorem Lacks.register (h : s.Lacks) {net : NetId} {state : DemoNet} (hid : NetBehaviour.id state = net)
    {index : Nat} {parent : Option NetId} {isGlobal : Bool} {registry : Registry}
    (hinsert : s.registry.insert net index owner parent isGlobal = .ok registry)
    (hregistry : t.registry = registry) (hactive : t.active = s.active)
    (hhalting : t.halting = s.halting) (hitems : ∀ w, t.items w = s.items w) (ht : t.HasWorker owner) :
    (t.post owner (.adopt state)).Seats net owner false state [] where
  name := hid
  aimed := by simp
  slot := by
    obtain ⟨-, hslot⟩ := Registry.insert_eq_ok hinsert
    have hold : s.registry.slot? = fun _ => none := funext h.slots
    refine ⟨⟨index, owner, parent, isGlobal, .spawned, 0⟩, rfl, rfl, ?_⟩
    rw [post_registry, hregistry, hslot, hold]
  retired := by
    obtain ⟨-, -, hsame⟩ := Registry.insert_eq_setSlot hinsert
    rw [post_registry, hregistry, hsame]
    exact h.retired
  active w m := by
    rw [post_active, hactive, h.active]
    simp
  halting w m := by rw [post_halting, hhalting, h.halting]
  items w := by
    rw [items_post ht, hitems, h.items]
    simp

end Scene

/-- The main copy of the first net is that of process 0. -/
theorem SpawnContext.isMain_at (hn : n < IdSource.wordSize) (i : Fin n) (index : Nat)
    (parent : Option NetId) (isGlobal : Bool) :
    SpawnContext.isMain ⟨⟨0⟩, index, parent, .at i, n, isGlobal⟩ = decide (i.val = 0) := by
  have hzero : NetId.mainProcess ⟨0⟩ n = .ofIndex 0 := by simp [NetId.mainProcess, NetId.index]
  show (NetId.mainProcess ⟨0⟩ n == ProcessId.at i) = _
  rw [hzero, beq_eq_decide]
  refine decide_eq_decide.mpr ⟨fun heq => ?_, fun heq => ?_⟩
  · rw [← ProcessId.index_at hn i, ← heq]
    rfl
  · rw [ProcessId.at, heq]

/-- Nothing is on the books yet. -/
structure Books.Blank (b : Books DemoNet) : Prop where
  localDeliveries : b.localDeliveries = 0
  remoteDeliveries : b.remoteDeliveries = 0
  firings : b.firings = 0

theorem Process.create_home {settings : Settings} {i : Fin n} {p : Process DemoNet}
    (h : Process.create settings (DemoNet.templates limit) (.at i) n = .ok p) :
    p.books.Home limit i ∧ p.books.Blank ∧ p.outline.Lacks := by
  obtain ⟨-, -, -, -, hfresh⟩ := Process.create_eq_ok h
  have hitems (w : WorkerId) : p.outline.items w = [] := by
    simp only [Scene.items, hfresh.hand, ite_self, List.nil_append, Scene.inbox, hfresh.inboxes,
      List.getElem?_replicate]
    split <;> rfl
  unfold create at h
  split at h
  · cases h
  · split at h <;> cases h
    refine ⟨⟨rfl, rfl, rfl, ?_, ?_⟩, ?_,
      ⟨hfresh.slots, rfl, hfresh.active, hfresh.halting, hitems⟩⟩
    · simp [books]
    · simp [books]
    · exact ⟨rfl, rfl, by simp [books, firings]⟩

/-- Process 0 makes the first net, and tells the other processes of it. -/
theorem DemoNet.spawnInitial_apply (node : Node DemoNet Mailbox.Link) {i : Fin n} (hi : i.val = 0)
    (hhome : node.process.books.Home limit i) (hlacks : node.process.outline.Lacks)
    (hids : node.process.ids = ⟨0, n, 0⟩) (hs : node.process.outline.Sound)
    (hsettled : ∀ net, node.process.outline.Accounted net) {index : Nat} {template : Template DemoNet} {made : DemoNet}
    (htemplate : (DemoNet.templates limit)[index]? = some template)
    (hmade : template.create ⟨⟨0⟩, index, none, .at i, n, true⟩ = made)
    (hname : NetBehaviour.id made = ⟨0⟩) :
    ∃ m ws, (Operation.spawnInitial index).run node = .ok () m ∧
      (if 1 < n then Wire.Broadcast ((ControlMessage.spawned ⟨0⟩ (UInt32.ofNat index) none ⟨0⟩).toPacket ⟨0⟩)
        ((ProcessId.at i).peers n) ws else ws = []) ∧
      Wired node.link ws m.link ∧ m.process.books = node.process.books ∧ m.process.outline.Sound ∧
      (∀ net, m.process.outline.Accounted net) ∧ m.process.outline.Seats ⟨0⟩ ⟨0⟩ false made [] := by
  have hid : node.process.id = .at i := hhome.id
  have hcount : node.process.processCount = n := hhome.processCount
  have hzero : ProcessId.at i = ⟨0⟩ := by rw [ProcessId.at, hi]; rfl
  have howner : (⟨0⟩ : WorkerId).index < node.process.inboxes.length :=
    Nat.lt_of_lt_of_eq hs.threads_pos hs.inboxes_length.symm
  rw [← show node.process.templates = _ from hhome.templates] at htemplate
  have hdraw : node.process.ids.draw = .ok (⟨0⟩, ⟨0, n, 1⟩) := by
    simp [hids, IdSource.draw, IdSource.wordSize]
  obtain ⟨registry, hinsert⟩ := hlacks.exists_insert ⟨0⟩ index ⟨0⟩ none true
  rw [← hid, ← hcount] at hmade
  obtain ⟨m, ws, hrun, hcast, hwired, hscene⟩ := Node.spawnNamed_apply
    (n := { node with process := { node.process with ids := ⟨0, n, 1⟩ } }) howner hinsert
    (hmade.symm ▸ hname)
  have hspawn : Node.spawn ⟨0⟩ index none none true node = .ok ⟨0⟩ m := by
    simp only [Node.spawn_eq, Node.bind_apply, Node.checkWorker_apply, howner, if_true,
      Node.getTemplate_apply, htemplate, Node.drawId_apply, hdraw, hrun]
  have hsteady := (Node.spawn_within ⟨0⟩ index none none true).steady node
  rw [hspawn] at hsteady
  have hinitial : (Operation.spawnInitial index).run node = .ok () m := by
    simp only [Operation.run, Node.spawnInitial, Node.bind_apply, Node.getProcess_apply, hid, hzero,
      if_true, hspawn, Node.pure_apply]
  have hobeys : (Operation.spawnInitial index).Obeys (Scene.requests (σ := DemoNet) True) :=
    Operation.obeys_requests rfl
  obtain ⟨events, hpath⟩ := hobeys node hs
  have hsound := hpath.sound hs
  rw [hinitial] at hsound
  refine ⟨m, ws, hinitial, ?_, hwired, hsteady, hsound, fun net => ?_, ?_⟩
  · simp only [hid, hcount, hzero, true_and] at hcast
    rw [hzero]
    exact hcast
  · rw [show m.process.outline = _ from hscene ⟨0⟩ [], hmade]
    exact ((hsettled net).insertAny howner hinsert hname).congr (.of_eq rfl rfl rfl rfl rfl rfl)
  · rw [show m.process.outline = _ from hscene ⟨0⟩ [], hmade]
    exact hlacks.register hname hinsert rfl rfl rfl (fun _ => rfl) howner

/-- The news of the first net is in every mailbox but that of process 0. -/
theorem mail_announced {news : Packet} {i : Fin n} (hn : n < IdSource.wordSize) (hi : i.val = 0)
    {mail mail' : Fin n → List Packet} {ws : List Wire} (h : Exchange i mail ws mail')
    (hempty : ∀ j, mail j = [])
    (hcast : if 1 < n then Wire.Broadcast news ((ProcessId.at i).peers n) ws else ws = []) :
    mail' i = [] ∧ ∀ j, j ≠ i → mail' j = [news] := by
  constructor
  · have hqueue := h.mail_own hn
    rw [hempty] at hqueue
    exact (List.append_eq_nil_iff.mp hqueue.symm).2
  · intro j hj
    have htwo : 1 < n := by
      have hlt := j.isLt
      have hne : j.val ≠ i.val := fun heq => hj (Fin.ext heq)
      omega
    rw [if_pos htwo] at hcast
    rw [h.mail_other hj, h.sentTo_peer hn hcast hj, hempty, List.nil_append]

namespace Cluster

/-- The processes of a new cluster have no nets and nothing on their books. -/
theorem create_members {settings : Settings} {storage : Storage} {start : Cluster DemoNet}
    (hcreate : create n settings (DemoNet.templates limit) storage = .ok start) (j : Fin n) :
    ∃ m : Member DemoNet, start.members[j.val]? = some m ∧ m.endpoint.process = .at j ∧
      m.process.books.Home limit j ∧ m.process.books.Blank ∧ m.process.outline.Lacks ∧ m.process.outline.Sound ∧
      (∀ net, m.process.outline.Accounted net) ∧ m.process.ids = ⟨j, n, 0⟩ := by
  obtain ⟨-, -, hlength, hmember⟩ := create_eq_ok hcreate
  have hfound := List.getElem?_eq_getElem (hlength ▸ j.isLt : j.val < start.members.length)
  obtain ⟨hprocess, hendpoint⟩ := hmember j _ hfound
  obtain ⟨hid, hcount, -, hn, hfresh⟩ := Process.create_eq_ok hprocess
  obtain ⟨hhome, hblank, hlacks⟩ := Process.create_home hprocess
  refine ⟨_, hfound, hendpoint, hhome, hblank, hlacks, hfresh.sound, hfresh.accounted,
    hfresh.ids.trans ?_⟩
  show IdSource.mk (Process.id _).index (Process.processCount _) 0 = _
  rw [hid, hcount, ProcessId.index_at hn]

/-- A cluster right after process 0 has made the first net. -/
structure Starts (c : Cluster DemoNet) (n : Nat) (limit : UInt32) (made : DemoNet) (news : Packet) :
    Prop where
  length : c.members.length = n
  serves : c.hub.Serves n
  mail : ∀ j : Fin n, c.hub.mail n j = if j.val = 0 then [] else [news]
  member : ∀ (j : Fin n) m, c.members[j.val]? = some m → m.endpoint.process = .at j ∧
    m.process.books.Home limit j ∧ m.process.books.Blank ∧ m.process.outline.Sound ∧
    (∀ net, m.process.outline.Accounted net) ∧
    if j.val = 0 then m.process.outline.Seats ⟨0⟩ ⟨0⟩ false made [] else m.process.outline.Lacks

theorem starts {settings : Settings} {storage : Storage} {start : Cluster DemoNet} {index : Nat}
    {template : Template DemoNet} {made : DemoNet}
    (hcreate : create n settings (DemoNet.templates limit) storage = .ok start) (now : Nat)
    (htemplate : (DemoNet.templates limit)[index]? = some template)
    (hmade : n < IdSource.wordSize → ∀ i : Fin n, i.val = 0 →
      template.create ⟨⟨0⟩, index, none, .at i, n, true⟩ = made)
    (hname : NetBehaviour.id made = ⟨0⟩) :
    n < IdSource.wordSize ∧ (start.next ⟨0, .spawnInitial index, now⟩).Starts n limit made
      ((ControlMessage.spawned ⟨0⟩ (UInt32.ofNat index) none ⟨0⟩).toPacket ⟨0⟩) := by
  obtain ⟨hpos, -, -, -⟩ := create_eq_ok hcreate
  obtain ⟨w, hshows, hfresh⟩ := create_shows hcreate
  have hn := hfresh.size
  choose member hfound hendpoint hhome hblank hlacks hsound hsettled hids using create_members hcreate
  let i : Fin n := ⟨0, hpos⟩
  let node : Node DemoNet Mailbox.Link :=
    ⟨(member i).process, ⟨(member i).endpoint, start.hub⟩, start.storage, now⟩
  have hnode : { start with now }.node? 0 = some node := by
    rw [node?, show start.members[0]? = _ from hfound i]
    rfl
  obtain ⟨m, ws, hrun, hcast, hwired, hbooks, hafter, hsettled', hseats⟩ :=
    DemoNet.spawnInitial_apply node rfl (hhome i) (hlacks i) (hids i) (hsound i) (hsettled i) htemplate
      (hmade hn i rfl) hname
  have hnext : start.next ⟨0, .spawnInitial index, now⟩ = start.update i m :=
    (next_eq hnode).trans (by rw [hrun]; rfl)
  obtain ⟨hexchange, hserves, hsame⟩ :=
    Mailbox.exchange_of_wired hn hwired hshows.serves (hendpoint i)
  have hempty (j : Fin n) : start.hub.mail n j = [] := by rw [← hshows.mail, hfresh.mail]
  obtain ⟨hown, hothers⟩ := mail_announced hn rfl hexchange hempty hcast
  have hi : i.val < start.members.length := hshows.length ▸ i.isLt
  rw [hnext]
  refine ⟨hn, by simp [Cluster.update, hshows.length], hserves, fun j => ?_, fun j x hx => ?_⟩
  · by_cases hj : j = i
    · rw [hj]
      exact hown
    · rw [if_neg fun heq => hj (Fin.ext heq)]
      exact hothers j hj
  · by_cases hj : j = i
    · subst hj
      simp only [Cluster.update, List.getElem?_set_self hi, Option.some.injEq] at hx
      subst hx
      exact ⟨hsame, hbooks ▸ hhome i, hbooks ▸ hblank i, hafter, hsettled', hseats⟩
    · have hne : i.val ≠ j.val := fun e => hj (Fin.ext e).symm
      simp only [Cluster.update, List.getElem?_set_ne hne, hfound j, Option.some.injEq] at hx
      subst hx
      rw [if_neg (Ne.symm hne)]
      exact ⟨hendpoint j, hhome j, hblank j, hsound j, hsettled j, hlacks j⟩

end Cluster

end PetriCluster
