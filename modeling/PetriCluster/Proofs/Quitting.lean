import PetriCluster.Proofs.Tidings
import Mathlib

/-!
# The end of the run reaches everybody

A process that ends the run says so to all its peers once, and a process that is told so ends the run
too. As long as no end of the transport shuts down and callers send no packets of their own, the news
is in the mailbox of every process that does not end the run yet (`Forum.Farewell`).
-/

namespace PetriCluster

namespace Packet

/-- Whether a packet says that the given process ends the run. -/
def isQuitOf (origin : ProcessId) (p : Packet) : Bool := p.message? = some (.quit origin)

/-- Whether a packet says that some process ends the run. -/
def isQuit (p : Packet) : Bool :=
  match p.message? with
  | some (.quit _) => true
  | _ => false

variable {p : Packet}

theorem isQuit_iff : p.isQuit = true ↔ ∃ origin, p.message? = some (.quit origin) := by
  unfold isQuit
  split
  · rename_i origin h
    simp [h]
  · rename_i h
    simpa using h

theorem isQuit_of_isQuitOf {origin : ProcessId} (h : p.isQuitOf origin = true) : p.isQuit = true :=
  isQuit_iff.mpr ⟨origin, of_decide_eq_true h⟩

end Packet

namespace Wire

variable {ws : List Wire} {packet : Packet}

theorem mem_of_mem_took? (h : packet ∈ ws.filterMap took?) : took packet ∈ ws := by
  obtain ⟨w, hw, htook⟩ := List.mem_filterMap.mp h
  cases w with
  | took => cases htook; exact hw
  | sent | refused => cases htook

theorem mem_of_mem_sentTo? {q : ProcessId} (h : packet ∈ ws.filterMap (sentTo? q)) :
    sent q packet ∈ ws := by
  obtain ⟨w, hw, hsent⟩ := List.mem_filterMap.mp h
  cases w with
  | sent target p =>
    simp only [sentTo?] at hsent
    split at hsent
    · rename_i htarget
      cases hsent
      exact htarget ▸ hw
    · cases hsent
  | took | refused => cases hsent

end Wire

namespace Front

variable {σ : Type} {f g : Front σ} {ws : List Wire} {told : Prop}

/-- What a process does about the end of the run, if a caller may have told it by hand of it. -/
structure Parts (told : Prop) (f : Front σ) (ws : List Wire) (g : Front σ) : Prop where
  place : g.id = f.id ∧ g.processCount = f.processCount
  kept : f.quitting = true → g.quitting = true
  heard : ∀ packet, Wire.took packet ∈ ws → packet.isQuit = true → g.quitting = true
  cause : g.quitting = true → f.quitting = true ∨ told ∨ g.quitSent = true ∨
    ∃ packet, Wire.took packet ∈ ws ∧ packet.isQuit = true
  /-- The process says nothing, or it does so for the first time. -/
  tells : g.quitSent = f.quitSent ∧
      (∀ target packet, Wire.sent target packet ∈ ws → packet.isQuit = false) ∨
    f.quitSent = false ∧ g.quitSent = true ∧ g.quitting = true ∧ f.Tells (.quit f.id) ws

theorem Parts.quiet (hplace : g.id = f.id ∧ g.processCount = f.processCount)
    (hquit : g.quitting = f.quitting ∧ g.quitSent = f.quitSent)
    (htook : ∀ packet, Wire.took packet ∈ ws → packet.isQuit = false)
    (hsent : ∀ target packet, Wire.sent target packet ∈ ws → packet.isQuit = false) :
    f.Parts told ws g where
  place := hplace
  kept := by simp [hquit.1]
  heard packet hmem hpacket := by simp [htook packet hmem] at hpacket
  cause h := .inl (hquit.1 ▸ h)
  tells := .inl ⟨hquit.2, hsent⟩

theorem Parts.of_tells (hplace : g.id = f.id ∧ g.processCount = f.processCount)
    (hquit : g.quitting = f.quitting ∧ g.quitSent = f.quitSent) {message : ControlMessage}
    (htells : f.Tells message ws) (hmessage : ∀ origin, message ≠ .quit origin) :
    f.Parts told ws g := by
  refine .quiet hplace hquit (fun packet hmem => (htells.took_notMem packet hmem).elim)
    fun target packet hmem => ?_
  have hpacket : packet = message.toPacket f.id := htells.packet_eq _ hmem
  by_contra hyes
  obtain ⟨origin, horigin⟩ := Packet.isQuit_iff.mp (by simpa using hyes)
  rw [hpacket, Packet.message?_toPacket] at horigin
  exact hmessage origin (Option.some.inj horigin)

theorem Shift.parts {entering : BarrierPhase → Prop} (h : f.Shift entering ws g) :
    f.Parts told ws g := by
  cases h with
  | rest | change | draw | refused => exact .quiet ⟨rfl, rfl⟩ ⟨rfl, rfl⟩ (by simp) (by simp)
  | tokens | haltAck | reply =>
    exact .quiet ⟨rfl, rfl⟩ ⟨rfl, rfl⟩ (by simp) (by simp [Packet.isQuit])
  | halted htells | probe _ htells | barrier _ htells =>
    exact .of_tells ⟨rfl, rfl⟩ ⟨rfl, rfl⟩ htells (by simp)
  | quit htells =>
    split at htells
    · rename_i hsent
      subst htells
      exact ⟨⟨rfl, rfl⟩, fun _ => rfl, by simp, fun _ => .inr (.inr (.inl rfl)),
        .inl ⟨hsent.symm, by simp⟩⟩
    · rename_i hsent
      have hcast : f.Tells (.quit f.id) ws := htells
      exact ⟨⟨rfl, rfl⟩, fun _ => rfl, fun _ _ _ => rfl, fun _ => .inr (.inr (.inl rfl)),
        .inr ⟨by simpa using hsent, rfl, rfl, hcast⟩⟩

theorem Heeds.parts {message : ControlMessage} (h : f.Heeds message g)
    (htook : ∀ packet, Wire.took packet ∈ ws → packet.message? = some message)
    (hsent : ∀ target packet, Wire.sent target packet ∉ ws)
    (hcause : ∀ origin, message = .quit origin → told ∨ ∃ packet, Wire.took packet ∈ ws) :
    f.Parts told ws g := by
  have hquiet (hmessage : ∀ origin, message ≠ .quit origin) (packet : Packet)
      (hmem : Wire.took packet ∈ ws) : packet.isQuit = false := by
    by_contra hyes
    obtain ⟨origin, horigin⟩ := Packet.isQuit_iff.mp (by simpa using hyes)
    rw [htook packet hmem] at horigin
    exact hmessage origin (Option.some.inj horigin)
  have hnone : ∀ target packet, Wire.sent target packet ∈ ws → packet.isQuit = false :=
    fun target packet hmem => (hsent target packet hmem).elim
  cases h with
  | copy | noCopy | barrier | reply =>
    exact .quiet ⟨rfl, rfl⟩ ⟨rfl, rfl⟩ (hquiet (by simp)) hnone
  | note _ hmessage => exact .quiet ⟨rfl, rfl⟩ ⟨rfl, rfl⟩ (hquiet hmessage) hnone
  | @quit sender =>
    refine ⟨⟨rfl, rfl⟩, fun _ => rfl, fun _ _ _ => rfl, fun _ => ?_, .inl ⟨rfl, hnone⟩⟩
    rcases hcause sender rfl with htold | ⟨packet, hmem⟩
    · exact .inr (.inl htold)
    · exact .inr (.inr (.inr ⟨packet, hmem, Packet.isQuit_iff.mpr ⟨sender, htook packet hmem⟩⟩))

/-- What a process does about the end of the run when it acts. -/
theorem Acts.parts {naming : NetId → Prop} {o : Occasion} {made spent : Option NetId}
    (h : f.Acts naming o made spent ws g) : f.Parts told ws g := by
  cases h with
  | made _ _ htells =>
    split at htells
    · exact .of_tells ⟨rfl, rfl⟩ ⟨rfl, rfl⟩ htells (by simp)
    · subst htells
      exact .quiet ⟨rfl, rfl⟩ ⟨rfl, rfl⟩ (by simp) (by simp)
  | misfit | notMade => exact .quiet ⟨rfl, rfl⟩ ⟨rfl, rfl⟩ (by simp) (by simp)
  | tokens htag =>
    exact .quiet ⟨rfl, rfl⟩ ⟨rfl, rfl⟩ (by simp [Packet.isQuit, Packet.message?_of_tokens htag]) (by simp)
  | noise _ hnone => exact .quiet ⟨rfl, rfl⟩ ⟨rfl, rfl⟩ (by simp [Packet.isQuit, hnone]) (by simp)
  | @message packet message _ hdecode hheeds =>
    refine hheeds.parts ?_ (by simp) fun _ _ => .inr ⟨packet, by simp⟩
    simpa using Packet.message?_eq_some.mpr hdecode

end Front

namespace Forum

variable {n : Nat} {σ : Type} {F G : Forum n σ} {i : Fin n} {g : Front σ} {hub : Mailbox.Hub}
  {ws : List Wire} {told : Fin n → Prop} {taken : Fin n → List Packet}

/-- What holds of the end of the run in a cluster whose processes have taken in the given packets, some
of them having been told of the end by hand. -/
structure Farewell (told : Fin n → Prop) (taken : Fin n → List Packet) (F : Forum n σ) : Prop where
  place : ∀ i, (F.front i).id = .at i ∧ (F.front i).processCount = n
  serves : F.hub.Serves n
  cause : ∀ i, (F.front i).quitting = true → told i ∨ ∃ k, (F.front k).quitSent = true
  spread : ∀ i, (F.front i).quitSent = true → ∀ j, (F.front j).quitting = true ∨
    ∃ packet ∈ F.mail j, packet.isQuit = true
  mailed : ∀ q, ∀ packet ∈ F.mail q, packet.isQuit = true → ∃ k, (F.front k).quitSent = true
  /-- Who has said that the run ends has said so once to each of the others. -/
  once : ∀ p q, q ≠ p → (taken q ++ F.mail q).countP (Packet.isQuitOf (.at p)) =
    if (F.front p).quitSent then 1 else 0

theorem farewell_fresh (settings : Settings) (templates : List (Template σ)) :
    (fresh n settings templates).Farewell told (fun _ => []) where
  place _ := ⟨rfl, rfl⟩
  serves := by simp [fresh, Mailbox.Hub.Serves]
  cause i h := by cases h
  spread i h := by cases h
  mailed q packet hmem := by simp at hmem
  once p q _ := by
    rw [mail_fresh]
    simp [fresh]

theorem quitSent_turn (hparts : (F.front i).Parts (told i) ws g) (hub : Mailbox.Hub) {k : Fin n}
    (hk : (F.front k).quitSent = true) : ((F.turn i g hub).front k).quitSent = true := by
  by_cases hi : k = i
  · subst hi
    rw [front_turn_self]
    rcases hparts.tells with ⟨hsame, -⟩ | ⟨-, hsent, -⟩
    · rwa [hsame]
    · exact hsent
  · rwa [front_turn_of_ne hi]

theorem quitting_turn (hparts : (F.front i).Parts (told i) ws g) (hub : Mailbox.Hub) {k : Fin n}
    (hk : (F.front k).quitting = true) : ((F.turn i g hub).front k).quitting = true := by
  by_cases hi : k = i
  · subst hi
    rw [front_turn_self]
    exact hparts.kept hk
  · rwa [front_turn_of_ne hi]

namespace Farewell

variable (hF : F.Farewell told taken) (hn : n < IdSource.wordSize)
  (hcarries : Mailbox.Carries i F.hub ws hub)

include hF hn hcarries

theorem sentTo_peer (htells : (F.front i).Tells (.quit (F.front i).id) ws) {q : Fin n} (hq : q ≠ i) :
    ws.filterMap (Wire.sentTo? (.at q)) = [(ControlMessage.quit (.at i)).toPacket (.at i)] := by
  obtain ⟨hid, hcount⟩ := hF.place i
  rw [Front.Tells, Front.peers, hid, hcount] at htells
  exact (hcarries.exchange hn hF.serves).sentTo_peer hn htells hq

variable (hparts : (F.front i).Parts (told i) ws g)

include hparts

theorem spread_turn {k : Fin n} (hk : ((F.turn i g hub).front k).quitSent = true) (j : Fin n) :
    ((F.turn i g hub).front j).quitting = true ∨
      ∃ packet ∈ (F.turn i g hub).mail j, packet.isQuit = true := by
  by_cases hold : (F.front k).quitSent = true
  · rcases hF.spread k hold j with hquitting | ⟨packet, hmem, hquit⟩
    · exact .inl (quitting_turn hparts hub hquitting)
    · by_cases hj : j = i
      · -- the news is still there, or the process has taken it in and ends the run
        subst hj
        have hmail : packet ∈ ws.filterMap Wire.took? ++ hub.mail n j :=
          hcarries.traffic.mail_own hn ▸ hmem
        rcases List.mem_append.mp hmail with htook | hleft
        · rw [front_turn_self]
          exact .inl (hparts.heard packet (Wire.mem_of_mem_took? htook) hquit)
        · exact .inr ⟨packet, hleft, hquit⟩
      · refine .inr ⟨packet, ?_, hquit⟩
        show packet ∈ hub.mail n j
        rw [hcarries.traffic.mail_other hj]
        exact List.mem_append_left _ hmem
  · obtain rfl : k = i := by
      by_contra hne
      rw [front_turn_of_ne hne] at hk
      exact hold hk
    rw [front_turn_self] at hk
    rcases hparts.tells with ⟨hsame, -⟩ | ⟨-, -, hquitting, htells⟩
    · exact (hold (hsame ▸ hk)).elim
    · by_cases hj : j = k
      · subst hj
        rw [front_turn_self]
        exact .inl hquitting
      · refine .inr ⟨_, ?_, Packet.isQuit_iff.mpr ⟨.at k, Packet.message?_toPacket _ (.at k)⟩⟩
        show _ ∈ hub.mail n j
        rw [hcarries.traffic.mail_other hj, hF.sentTo_peer hn hcarries htells hj]
        simp

theorem once_turn {p q : Fin n} (hq : q ≠ p) :
    ((taken q ++ if q = i then ws.filterMap Wire.took? else []) ++
        (F.turn i g hub).mail q).countP (Packet.isQuitOf (.at p)) =
      if ((F.turn i g hub).front p).quitSent then 1 else 0 := by
  have hcount : ((taken q ++ if q = i then ws.filterMap Wire.took? else []) ++
      (F.turn i g hub).mail q).countP (Packet.isQuitOf (.at p)) =
      (if (F.front p).quitSent then 1 else 0) +
        (ws.filterMap (Wire.sentTo? (.at q))).countP (Packet.isQuitOf (.at p)) := by
    rw [List.append_assoc, show (F.turn i g hub).mail q = hub.mail n q from rfl,
      hcarries.traffic.queue q, ← List.append_assoc, List.countP_append, ← hF.once p q hq]
    rfl
  rw [hcount]
  rcases hparts.tells with ⟨hsame, hnone⟩ | ⟨hfirst, hsent, -, htells⟩
  · have hzero : (ws.filterMap (Wire.sentTo? (.at q))).countP (Packet.isQuitOf (.at p)) = 0 := by
      rw [List.countP_eq_zero]
      intro packet hmem hquit
      have hno := hnone _ packet (Wire.mem_of_mem_sentTo? hmem)
      simp [Packet.isQuit_of_isQuitOf hquit] at hno
    rw [hzero, Nat.add_zero]
    by_cases hp : p = i
    · subst hp
      rw [front_turn_self, hsame]
    · rw [front_turn_of_ne hp]
  · by_cases hp : p = i
    · subst hp
      rw [front_turn_self, hF.sentTo_peer hn hcarries htells hq, hfirst, hsent]
      simp [Packet.isQuitOf]
    · have hzero : (ws.filterMap (Wire.sentTo? (.at q))).countP (Packet.isQuitOf (.at p)) = 0 := by
        rw [List.countP_eq_zero]
        intro packet hmem hquit
        have hpacket : packet = (ControlMessage.quit (F.front i).id).toPacket (F.front i).id :=
          htells.packet_eq _ (Wire.mem_of_mem_sentTo? hmem)
        have hmessage := of_decide_eq_true hquit
        rw [hpacket, Packet.message?_toPacket, (hF.place i).1] at hmessage
        exact hp (ProcessId.at_inj hn (ControlMessage.quit.inj (Option.some.inj hmessage))).symm
      rw [hzero, Nat.add_zero, front_turn_of_ne hp]

theorem turn : (F.turn i g hub).Farewell told fun q =>
    taken q ++ if q = i then ws.filterMap Wire.took? else [] where
  place := turn_cases (P := fun j f => f.id = .at j ∧ f.processCount = n) hub
    ⟨hparts.place.1.trans (hF.place i).1, hparts.place.2.trans (hF.place i).2⟩ fun j _ => hF.place j
  serves := hcarries.serves hn hF.serves
  cause j hj := by
    by_cases hi : j = i
    · subst hi
      have hg := hj
      rw [front_turn_self] at hg
      rcases hparts.cause hg with hold | htold | hsent | ⟨packet, hmem, hquit⟩
      · exact (hF.cause j hold).imp id (Exists.imp fun _ => quitSent_turn hparts hub)
      · exact .inl htold
      · exact .inr ⟨j, by rwa [front_turn_self]⟩
      · obtain ⟨k, hk⟩ := hF.mailed j packet (hcarries.traffic.took_mem hn hmem) hquit
        exact .inr ⟨k, quitSent_turn hparts hub hk⟩
    · rw [front_turn_of_ne hi] at hj
      exact (hF.cause j hj).imp id (Exists.imp fun _ => quitSent_turn hparts hub)
  spread k hk := hF.spread_turn hn hcarries hparts hk
  mailed q packet hmem hquit := by
    rcases hcarries.traffic.mem hmem with hold | hsent
    · obtain ⟨k, hk⟩ := hF.mailed q packet hold hquit
      exact ⟨k, quitSent_turn hparts hub hk⟩
    · rcases hparts.tells with ⟨-, hnone⟩ | ⟨-, hfirst, -⟩
      · simp [hnone _ packet hsent] at hquit
      · exact ⟨i, by rwa [front_turn_self]⟩
  once p q hq := hF.once_turn hn hcarries hparts hq

end Farewell

variable [NetBehaviour σ]

theorem Farewell.course (hF : F.Farewell told taken) (hn : n < IdSource.wordSize)
    {naming : NetId → Prop} {entering : BarrierPhase → Prop} {f : Front σ} {l k : Mailbox.Link}
    {ms : List (Moment σ Mailbox.Link)} (h : Course naming entering f l ms g k)
    (hfront : F.front i = f) (hhub : F.hub = l.hub) (hname : l.endpoint.process = .at i) :
    ((F.turn i g k.hub).Farewell told (fun q =>
        taken q ++ if q = i then ms.filterMap (·.occasion.packet?) else []) ∧
      ∀ q, (F.front q).quitting = true → ((F.turn i g k.hub).front q).quitting = true) ∧
    k.hub.boxes.length = n ∧ k.endpoint.process = .at i := by
  let I (f : Front σ) (hub : Mailbox.Hub) (packets : List Packet) : Prop :=
    ((F.turn i f hub).Farewell told fun q => taken q ++ if q = i then packets else []) ∧
      ∀ q, (F.front q).quitting = true → ((F.turn i f hub).front q).quitting = true
  have hstep {f g : Front σ} {ws : List Wire} {hub hub' : Mailbox.Hub} {packets : List Packet}
      (hI : I f hub packets) (hparts : f.Parts (told i) ws g)
      (hcarries : Mailbox.Carries i hub ws hub') : I g hub' (packets ++ ws.filterMap Wire.took?) := by
    obtain ⟨hfarewell, hkept⟩ := hI
    have hself : ((F.turn i f hub).front i).Parts (told i) ws g := by rwa [front_turn_self]
    have hnext := hfarewell.turn hn hcarries hself
    rw [turn_turn] at hnext
    refine ⟨?_, fun q hq => ?_⟩
    · convert hnext using 2 with q
      split <;> simp
    · have := quitting_turn hself hub' (hkept q hq)
      rwa [turn_turn] at this
  have hstart : I f l.hub [] := by
    simp only [I, ← hfront, ← hhub, turn_self, ite_self, List.append_nil]
    exact ⟨hF, fun _ => id⟩
  simpa using keeps_of_course hn (I := I) (fun hI hshift => hstep hI hshift.parts)
    (fun hI hacts => hstep hI hacts.parts) [] h (hhub ▸ hF.serves.1) hname hstart

end Forum

namespace Cluster

variable {n : Nat} {σ : Type} [NetBehaviour σ] {c : Cluster σ} {F : Forum n σ} {told : Fin n → Prop}
  {taken : Fin n → List Packet}

theorem Presents.farewell_obey (h : c.Presents F) (hn : n < IdSource.wordSize)
    (hF : F.Farewell told taken) {order : Order σ} (hopen : order.command ≠ .shutdown)
    (hcast : ∀ packet exclude, order.command ≠ .broadcast packet exclude)
    (htold : ∀ (j : Fin n) origin, order.process = j → order.command = .consume (.quit origin) →
      told j) :
    ∃ G : Forum n σ, (c.obey order).Presents G ∧
      G.Farewell told (fun q => taken q ++ takenBy q (c.history [order])) ∧
      ∀ q, (F.front q).quitting = true → (G.front q).quitting = true := by
  simp only [Cluster.obey, history, List.append_nil]
  cases hnode : { c with now := order.now }.node? order.process with
  | none => exact ⟨F, h, by simpa [takenBy] using hF, fun _ => id⟩
  | some node =>
    obtain ⟨j, hj, hseats⟩ := h.seats hnode
    simp only [← hj, takenBy_map, ← Fin.ext_iff, eq_comm (a := j)]
    by_cases hhand : order.command.isByHand = false
    · have hruns : Node.Runs (fun _ => True) (fun _ => True) node (order.command.moments node)
          (order.command.run node) :=
        order.command.runs (fun _ _ => trivial) (fun _ _ => trivial) hhand hopen
      obtain ⟨⟨hG, hkept⟩, hsize, hname⟩ := hF.course hn hruns hseats.front hseats.hub hseats.name
      exact ⟨_, h.update _ hsize hname, hG, hkept⟩
    · cases hcommand : order.command with
      | broadcast packet exclude => exact (hcast packet exclude hcommand).elim
      | consume message =>
        obtain ⟨g, hheeds, hcourse⟩ :=
          Node.handleControl_heeds (fun _ => False) (fun _ => False) message node
        have hparts : (F.front j).Parts (told j) [] g := by
          rw [hseats.front]
          refine hheeds.parts (by simp) (by simp) fun origin hquit => .inl ?_
          exact htold j origin hj.symm (hquit ▸ hcommand)
        have hfirst := hF.turn hn .nil hparts
        obtain ⟨⟨hG, hkept⟩, hsize, hname⟩ := hfirst.course hn hcourse Forum.front_turn_self
          hseats.hub hseats.name
        rw [Forum.turn_turn] at hG hkept
        refine ⟨_, h.update _ hsize hname, ?_, fun q hq => hkept q (Forum.quitting_turn hparts F.hub hq)⟩
        simpa [Command.moments, Command.run] using hG
      | _ => simp [hcommand, Command.isByHand] at hhand

omit [NetBehaviour σ] in
theorem Presents.quitting_eq (h : c.Presents F) {i : Fin n} {m : Member σ}
    (hm : c.members[i.val]? = some m) : m.process.quitting = (F.front i).quitting :=
  congrArg Front.quitting (h.member i m hm).1

/-- After all orders the end of the run has spread as it should. -/
theorem Presents.farewell (h : c.Presents F) (hn : n < IdSource.wordSize)
    (hF : F.Farewell told taken) {orders : List (Order σ)}
    (hplain : ∀ order ∈ orders, order.command ≠ .shutdown ∧
      ∀ packet exclude, order.command ≠ .broadcast packet exclude)
    (htold : ∀ order ∈ orders, ∀ (j : Fin n) origin, order.process = j →
      order.command = .consume (.quit origin) → told j) :
    ∃ G : Forum n σ, (orders.foldl Cluster.obey c).Presents G ∧
      G.Farewell told (fun q => taken q ++ takenBy q (c.history orders)) ∧
      ∀ q, (F.front q).quitting = true → (G.front q).quitting = true := by
  induction orders generalizing c F taken with
  | nil => exact ⟨F, h, by simpa [history, takenBy] using hF, fun _ => id⟩
  | cons order rest ih =>
    have hfirst := List.mem_cons_self (a := order) (l := rest)
    obtain ⟨G, hG, hfarewell, hkept⟩ := h.farewell_obey hn hF (hplain order hfirst).1
      (hplain order hfirst).2 (htold order hfirst)
    obtain ⟨K, hK, hend, hkept'⟩ := ih hG hfarewell
      (fun o ho => hplain o (List.mem_cons_of_mem _ ho)) fun o ho => htold o (List.mem_cons_of_mem _ ho)
    refine ⟨K, hK, ?_, fun q hq => hkept' q (hkept q hq)⟩
    simpa [history_cons order rest, takenBy_append, List.append_assoc] using hend

end Cluster

/-- In a cluster of any size, whatever callers have its processes do short of sending packets of their
own and closing ends of the transport: if a process ends the run, then a caller has told it so by hand,
or every process ends the run or has the news in its mailbox. A process that ends the run does not go
on. And the news that a process ends the run has reached each of the others once if the process has
told it, and not at all if not. -/
theorem quit_reaches_everybody {σ : Type} [NetBehaviour σ] {n : Nat} {settings : Settings}
    {templates : List (Template σ)} {storage : Storage} {start : Cluster σ}
    (hcreate : Cluster.create n settings templates storage = .ok start)
    {before later : List (Cluster.Order σ)}
    (hplain : ∀ order ∈ before ++ later, order.command ≠ .shutdown ∧
      ∀ packet exclude, order.command ≠ .broadcast packet exclude) :
    let earlier := before.foldl Cluster.obey start
    let c := later.foldl Cluster.obey earlier
    (∀ (i : Fin n) (m : Member σ), c.members[i.val]? = some m → m.process.quitting = true →
      (∃ origin now, ⟨i, .consume (.quit origin), now⟩ ∈ before ++ later) ∨
      ∀ (j : Fin n) (m : Member σ), c.members[j.val]? = some m →
        m.process.quitting = true ∨ ∃ packet ∈ c.hub.queue (.at j), packet.isQuit = true) ∧
    (∀ (i : Fin n) (m m' : Member σ), earlier.members[i.val]? = some m → c.members[i.val]? = some m' →
      m.process.quitting = true → m'.process.quitting = true) ∧
    ∀ (i j : Fin n) (m : Member σ), j ≠ i → c.members[i.val]? = some m →
      (takenBy j (start.history (before ++ later)) ++ c.hub.queue (.at j)).countP
          (Packet.isQuitOf (.at i)) = if m.process.quitSent then 1 else 0 := by
  intro earlier c
  let told (i : Fin n) : Prop := ∃ origin now, ⟨i, .consume (.quit origin), now⟩ ∈ before ++ later
  have htold : ∀ order ∈ before ++ later, ∀ (j : Fin n) origin, order.process = j →
      order.command = .consume (.quit origin) → told j :=
    fun order hmem j origin hj hquit => ⟨origin, order.now, hj ▸ hquit ▸ hmem⟩
  obtain ⟨-, hn, hstart⟩ := Cluster.create_presents hcreate
  have hfresh : (Forum.fresh n settings templates).Farewell told (fun _ => []) :=
    Forum.farewell_fresh settings templates
  obtain ⟨F, hF, hfirst, -⟩ := hstart.farewell hn hfresh
    (fun o ho => hplain o (List.mem_append_left _ ho)) fun o ho => htold o (List.mem_append_left _ ho)
  obtain ⟨G, hG, hlast, hkept⟩ := hF.farewell hn hfirst
    (fun o ho => hplain o (List.mem_append_right _ ho)) fun o ho => htold o (List.mem_append_right _ ho)
  have hmail (j : Fin n) : c.hub.queue (.at j) = G.mail j := by
    rw [Forum.mail, ← hG.hub]
    rfl
  refine ⟨fun i m hm hquitting => ?_, fun i m m' hm hm' hquitting => ?_, fun i j m hj hm => ?_⟩
  · rw [hG.quitting_eq hm] at hquitting
    rcases hlast.cause i hquitting with hhand | ⟨k, hk⟩
    · exact .inl hhand
    · refine .inr fun j m hm => ?_
      rw [hG.quitting_eq hm, hmail]
      exact hlast.spread k hk j
  · rw [hF.quitting_eq hm] at hquitting
    rw [hG.quitting_eq hm']
    exact hkept i hquitting
  · have hsent : m.process.quitSent = (G.front i).quitSent :=
      congrArg Front.quitSent (hG.member i m hm).1
    rw [hsent, ← hlast.once i j hj, Cluster.history_append, takenBy_append, hmail, List.nil_append]

/-- Process 0 ends the run twice over, and process 1 takes the news in; process 2 has it waiting. -/
theorem quit_reaches_everybody_news_waits :
    ∃ (c : Cluster Bare) (m : Member Bare), c.members[2]? = some m ∧ m.process.quitting = false ∧
      ∃ packet ∈ c.hub.queue (.at (2 : Fin 3)), packet.isQuit = true := by
  let before : List (Cluster.Order Bare) := [⟨0, .quitAll, 0⟩]
  let later : List (Cluster.Order Bare) :=
    [⟨1, .act (.operation (.receivePackets 1)), 0⟩, ⟨0, .quitAll, 0⟩]
  obtain ⟨start, hcreate⟩ : ∃ start : Cluster Bare,
      Cluster.create 3 ⟨1, false, 0, 0, none⟩ [Bare.template] (.create []) = .ok start := ⟨_, rfl⟩
  have hends : ((later.foldl Cluster.obey (before.foldl Cluster.obey start)).members.map
      (·.process.quitting)) = [true, true, false] := by
    cases hcreate
    cbv
  have hplain : ∀ order ∈ before ++ later, order.command ≠ .shutdown ∧
      ∀ packet exclude, order.command ≠ .broadcast packet exclude := by simp [before, later]
  obtain ⟨hreaches, -⟩ := quit_reaches_everybody hcreate hplain
  have hmember (i : Nat) {q : Bool} (hq : [true, true, false][i]? = some q) :
      ∃ m, (later.foldl Cluster.obey (before.foldl Cluster.obey start)).members[i]? = some m ∧
        m.process.quitting = q := by
    rw [← hends, List.getElem?_map] at hq
    exact Option.map_eq_some_iff.mp hq
  obtain ⟨m, hm, hquitting⟩ := hmember 0 rfl
  obtain ⟨m', hm', hgoing⟩ := hmember 2 rfl
  refine ⟨_, m', hm', hgoing, ?_⟩
  rcases hreaches 0 m hm hquitting with ⟨origin, now, htold⟩ | hall
  · simp [before, later] at htold
  · exact (hall 2 m' hm').resolve_left (by simp [hgoing])

end PetriCluster
