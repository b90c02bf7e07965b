import PetriCluster.Proofs.Extinction
import PetriCluster.Proofs.Forums
import PetriCluster.Proofs.Retirement

/-!
# Every name is for one net

A name that is drawn was never drawn before, by any process. So a net that is made has a name that no
process knows and no packet tells of; and from then on the name is taken for good (`Forum.Taken`).
-/

namespace PetriCluster

variable {naming : NetId → Prop} {spent : Option NetId} {packet : Packet} {ids : IdSource}

namespace Forum

variable {n : Nat} {σ : Type} {F G : Forum n σ} {i q : Fin n} {net m : NetId}

/-- The name was drawn from some process. -/
def Issued (F : Forum n σ) (net : NetId) : Prop := ∃ q, (F.front q).ids.Drawn net

/-- A name was drawn, and callers do not have it. -/
def Taken (F : Forum n σ) (net : NetId) : Prop := F.Issued net ∧ ¬F.spare net

/-- A name is taken, and a process is not going to be told of its net. -/
def Settled (F : Forum n σ) (q : Fin n) (net : NetId) : Prop :=
  F.Taken net ∧ (F.mail q).countP (Packet.spawns net) = 0

/-- Names are given out in order. -/
structure Allotted (F : Forum n σ) : Prop where
  id : ∀ i, (F.front i).id = .at i
  processCount : ∀ i, (F.front i).processCount = n
  supply : ∀ i, (F.front i).ids.process = i ∧ (F.front i).ids.count = n
  healthy : ∀ i, (F.front i).registry.Healthy
  held : ∀ net, F.spare net → F.Issued net
  settled : ∀ i net, (F.front i).registry.slot? net ≠ none ∨
    (F.front i).registry.isRetired net = true → F.Settled i net
  mailed : ∀ i net, 0 < (F.mail i).countP (Packet.spawns net) → F.Taken net
  once : ∀ i net, (F.mail i).countP (Packet.spawns net) ≤ 1

theorem fresh_allotted {settings : Settings} {templates : List (Template σ)} :
    (fresh n settings templates).Allotted where
  id _ := rfl
  processCount _ := rfl
  supply _ := ⟨rfl, rfl⟩
  healthy _ := Registry.healthy_create
  held _ hspare := hspare.elim
  settled i net hknown := by
    rcases hknown with hslot | hretired
    · exact absurd rfl hslot
    · simp [fresh] at hretired
  mailed i net hpos := by simp at hpos
  once i net := by simp

namespace Allotted

variable (hF : F.Allotted)

include hF

theorem place (i : Fin n) : (F.front i).ids.process < (F.front i).ids.count := by
  rw [(hF.supply i).1, (hF.supply i).2]
  exact i.isLt

theorem mod_of_draw (hdraw : (F.front i).ids.draw = .ok (net, ids)) :
    net.index % n = i := by
  have hmod := IdSource.mod_of_draw hdraw (hF.place i)
  rwa [(hF.supply i).1, (hF.supply i).2] at hmod

theorem not_issued (hdraw : (F.front i).ids.draw = .ok (net, ids)) :
    ¬F.Issued net := by
  -- the remainder of a name tells who drew it, and the quotient how many that process had drawn
  rintro ⟨q, hmod, hdiv⟩
  rw [(hF.supply q).1, (hF.supply q).2] at hmod
  obtain rfl : q = i := Fin.ext (hmod.symm.trans (hF.mod_of_draw hdraw))
  have hlast := IdSource.div_of_draw hdraw (hF.place q)
  omega

theorem not_taken {requested : Option NetId}
    (hname : (F.front i).Names F.spare requested net ids) : ¬F.Taken net := by
  rintro ⟨hissued, hfree⟩
  rcases hname.inv with ⟨-, hdraw⟩ | ⟨-, hspare, -⟩
  · exact hF.not_issued hdraw hissued
  · exact hfree hspare

theorem unmailed (hnot : ¬F.Taken net) (q : Fin n) :
    (F.mail q).countP (Packet.spawns net) = 0 := by
  by_contra hpos
  exact hnot (hF.mailed q net (Nat.pos_of_ne_zero hpos))

end Allotted

end Forum

/-! ## Nothing is made -/

/-- A process makes no net. -/
structure Front.Calm {σ : Type} (f g : Front σ) : Prop where
  place : g.id = f.id ∧ g.processCount = f.processCount ∧ g.templates = f.templates
  ids : g.ids = f.ids ∨ ∃ net, f.ids.draw = .ok (net, g.ids)
  registry : g.registry = f.registry ∨ f.registry.Changes g.registry

theorem Front.Calm.refl {σ : Type} {f : Front σ} : f.Calm f := ⟨⟨rfl, rfl, rfl⟩, .inl rfl, .inl rfl⟩

namespace Forum

variable {n : Nat} {σ : Type} {F G : Forum n σ} {i q : Fin n} {net m : NetId}

/-- No net is made, and nobody is told of one. -/
structure Quiet (F G : Forum n σ) : Prop where
  calm : ∀ i, (F.front i).Calm (G.front i)
  spare : ∀ net, G.spare net →
    F.spare net ∨ ∃ i, (F.front i).ids.draw = .ok (net, (G.front i).ids)
  mail : ∀ i net, (G.mail i).countP (Packet.spawns net) ≤ (F.mail i).countP (Packet.spawns net)

namespace Quiet

theorem refl : Quiet F F where
  calm _ := .refl
  spare _ hspare := .inl hspare
  mail _ _ := Nat.le_refl _

section

variable (h : Quiet F G)

include h

theorem issued (hF : F.Issued net) : G.Issued net := by
  obtain ⟨q, hq⟩ := hF
  exact ⟨q, hq.mono (h.calm q).ids⟩

theorem taken (hF : F.Allotted) (htaken : F.Taken net) : G.Taken net := by
  refine ⟨h.issued htaken.1, fun hspare => ?_⟩
  rcases h.spare net hspare with hold | ⟨i, hdraw⟩
  · exact htaken.2 hold
  · exact hF.not_issued hdraw htaken.1

theorem settled (hF : F.Allotted) (hsettled : F.Settled q net) : G.Settled q net :=
  ⟨h.taken hF hsettled.1, Nat.le_zero.mp (hsettled.2 ▸ h.mail q net)⟩

theorem covers (q : Fin n) : (F.front q).registry.Covers (G.front q).registry := by
  rcases (h.calm q).registry with hsame | hchanges
  · exact hsame ▸ .refl
  · exact hchanges.covers

theorem allotted (hF : F.Allotted) : G.Allotted where
  id i := (h.calm i).place.1.trans (hF.id i)
  processCount i := (h.calm i).place.2.1.trans (hF.processCount i)
  supply i := by
    rcases (h.calm i).ids with hsame | ⟨m, hdraw⟩
    · rw [hsame]
      exact hF.supply i
    · rw [(IdSource.draw_eq_ok hdraw).2]
      exact hF.supply i
  healthy i := by
    rcases (h.calm i).registry with hsame | hchanges
    · exact hsame ▸ hF.healthy i
    · exact (hF.healthy i).changes hchanges
  held net hspare := by
    rcases h.spare net hspare with hold | ⟨i, hdraw⟩
    · exact h.issued (hF.held net hold)
    · exact ⟨i, .of_draw hdraw (hF.place i)⟩
  settled i net hknown := by
    refine h.settled hF (hF.settled i net ?_)
    rcases hknown with hslot | hretired
    · exact .inl fun hnone => hslot ((h.covers i).slot?_none hnone)
    · rcases (h.calm i).registry with hsame | hchanges
      · exact .inr (hsame ▸ hretired)
      · exact (hchanges.isRetired hretired).symm
  mailed i net hpos := h.taken hF (hF.mailed i net (Nat.lt_of_lt_of_le hpos (h.mail i net)))
  once i net := (h.mail i net).trans (hF.once i net)

end

end Quiet

end Forum

theorem Packet.spawns_eq_false {p : Packet} (h : p.message?.any ControlMessage.isSpawn = false)
    (net : NetId) : p.spawns net = false := by
  by_contra hspawns
  obtain ⟨template, parent, origin, hmessage⟩ := spawns_iff.mp (by simpa using hspawns)
  simp [hmessage, ControlMessage.isSpawn] at h

namespace Front

variable {σ : Type} {f g : Front σ} {ws : List Wire}

/-- Nobody is told of a new net. -/
def Silent (ws : List Wire) : Prop :=
  ∀ target packet, Wire.sent target packet ∈ ws → ∀ net, packet.spawns net = false

theorem silent_of_broadcast {targets : List ProcessId} (h : Wire.Broadcast packet targets ws)
    (hnone : packet.message?.any ControlMessage.isSpawn = false) : Silent ws := by
  intro target sent hsent
  obtain rfl : sent = packet := h.packet_eq _ hsent
  exact Packet.spawns_eq_false hnone

theorem silent_singleton {target : ProcessId}
    (hnone : packet.message?.any ControlMessage.isSpawn = false) : Silent [.sent target packet] := by
  intro other sent hsent
  simp only [List.mem_singleton, Wire.sent.injEq] at hsent
  exact hsent.2 ▸ Packet.spawns_eq_false hnone

theorem Shift.calm {entering : BarrierPhase → Prop} (h : f.Shift entering ws g) : f.Calm g := by
  cases h with
  | change hchanges => exact ⟨⟨rfl, rfl, rfl⟩, .inl rfl, .inr hchanges⟩
  | draw hdraw => exact ⟨⟨rfl, rfl, rfl⟩, .inr ⟨_, hdraw⟩, .inl rfl⟩
  | _ => exact ⟨⟨rfl, rfl, rfl⟩, .inl rfl, .inl rfl⟩

theorem Shift.silent {entering : BarrierPhase → Prop} (h : f.Shift entering ws g) : Silent ws := by
  cases h with
  | rest | change | draw | refused => simp [Silent]
  | tokens | haltAck | reply => exact silent_singleton (by simp [ControlMessage.isSpawn])
  | halted htells | barrier _ htells | probe _ htells =>
    exact silent_of_broadcast htells (by simp [ControlMessage.isSpawn])
  | quit htells =>
    split at htells
    · simp [Silent, htells]
    · exact silent_of_broadcast htells (by simp [ControlMessage.isSpawn])

theorem Heeds.calm {message : ControlMessage} (h : f.Heeds message g) (hspawn : message.isSpawn = false) :
    f.Calm g := by
  cases h with
  | copy | noCopy => cases hspawn
  | _ => exact ⟨⟨rfl, rfl, rfl⟩, .inl rfl, .inl rfl⟩

/-- A process makes a net that it was asked for. -/
structure Births (naming : NetId → Prop) (f : Front σ) (o : Occasion) (spent : Option NetId)
    (ws : List Wire) (g : Front σ) (net : NetId) : Prop where
  place : g.id = f.id ∧ g.processCount = f.processCount ∧ g.templates = f.templates
  asked : o.isPacket = false
  named : f.Names naming spent net g.ids
  registered : ∃ index owner parent isGlobal,
    f.registry.insert net index owner parent isGlobal = .ok g.registry
  told : ws = [] ∨ ∃ template parent, f.Tells (.spawned net template parent f.id) ws

/-- A process makes a copy of a net that it is told of. -/
structure Copies (f : Front σ) (o : Occasion) (ws : List Wire) (g : Front σ) (net : NetId) : Prop where
  place : g.id = f.id ∧ g.processCount = f.processCount ∧ g.templates = f.templates
  ids : g.ids = f.ids
  registered : ∃ index owner parent, f.registry.insert net index owner parent true = .ok g.registry
  took : ∃ packet, o = .packet packet ∧ ws = [.took packet] ∧ packet.spawns net = true

theorem Acts.births {o : Occasion} {net : NetId} (h : f.Acts naming o (some net) spent ws g) :
    f.Births naming o spent ws g net := by
  cases h with
  | made hinsert hname htells =>
    refine ⟨⟨rfl, rfl, rfl⟩, rfl, hname, ⟨_, _, _, _, hinsert⟩, ?_⟩
    split at htells
    · exact .inr ⟨_, _, htells⟩
    · exact .inl htells

theorem Acts.inv {o : Occasion} {made : Option NetId} (h : f.Acts naming o made spent ws g) :
    (f.Calm g ∧ Silent ws) ∨
      (∃ net, f.Births naming o spent ws g net) ∨ ∃ net, f.Copies o ws g net := by
  cases h with
  | made hinsert hname htells => exact .inr (.inl ⟨_, Acts.births (.made hinsert hname htells)⟩)
  | misfit hinsert hname =>
    exact .inr (.inl ⟨_, ⟨rfl, rfl, rfl⟩, rfl, hname, ⟨_, _, _, _, hinsert⟩, .inl rfl⟩)
  | notMade | tokens | noise =>
    exact .inl ⟨⟨⟨rfl, rfl, rfl⟩, .inl rfl, .inl rfl⟩, by simp [Silent]⟩
  | @message packet message _ hdecode hheeds =>
    cases hheeds with
    | @copy net template parent origin owner registry hinsert =>
      refine .inr (.inr ⟨net, ⟨rfl, rfl, rfl⟩, rfl, ⟨_, _, _, hinsert⟩, packet, rfl, rfl, ?_⟩)
      exact Packet.spawns_iff.mpr ⟨template, parent, origin, Packet.message?_eq_some.mpr hdecode⟩
    | _ => exact .inl ⟨⟨⟨rfl, rfl, rfl⟩, .inl rfl, .inl rfl⟩, by simp [Silent]⟩

theorem Acts.took {made : Option NetId} (h : f.Acts naming (.packet packet) made spent ws g) :
    ws = [.took packet] := by
  cases h <;> rfl

end Front

namespace Forum

variable {n : Nat} {σ : Type} {F G : Forum n σ} {i q : Fin n} {net m : NetId} {g : Front σ}
  {hub : Mailbox.Hub} {ws : List Wire} {o : Occasion} {spent : Option NetId}

theorem Quiet.turn (hcalm : (F.front i).Calm g) (hsilent : Front.Silent ws)
    (hcarries : Mailbox.Carries i F.hub ws hub) : Quiet F (F.turn i g hub) := by
  refine ⟨?_, fun _ hspare => .inl hspare, fun j m => ?_⟩
  · exact turn_cases hub (P := fun j f => (F.front j).Calm f) hcalm fun _ _ => .refl
  · have hcount := hcarries.traffic.count j (Packet.spawns m)
    have hnone : Wire.acceptedFor (.at j) (Packet.spawns m) ws = 0 := by
      rw [Wire.acceptedFor, List.countP_eq_zero]
      intro w hw
      cases w with
      | took | refused => simp [Wire.isAcceptedFor]
      | sent target packet => simp [Wire.isAcceptedFor, hsilent target packet hw m]
    show (hub.mail n j).countP _ ≤ (F.hub.mail n j).countP _
    omega

theorem Quiet.spend (h : Quiet F G) (spent : Option NetId) : Quiet F (G.spend spent) :=
  { h with spare := fun net hspare => h.spare net hspare.1 }

theorem Stirs.quiet {hand : Prop} (h : F.Stirs hand G) : Quiet F G := by
  cases h with
  | shift hshift hcarries => exact .turn hshift.calm hshift.silent hcarries
  | close i => exact { Quiet.refl with mail := fun _ _ => by rw [mail_close] }
  | @reserve i net ids hdraw =>
    have hcalm : (F.front i).Calm { F.front i with ids } :=
      ⟨⟨rfl, rfl, rfl⟩, .inr ⟨net, hdraw⟩, .inl rfl⟩
    have hturn : Quiet F (F.turn i { F.front i with ids } F.hub) :=
      .turn hcalm (by simp [Front.Silent]) .nil
    refine { hturn with spare := ?_ }
    rintro m (hspare | rfl)
    · exact .inl hspare
    · refine .inr ⟨i, ?_⟩
      have hfront : (F.reserve i m ids).front i = { F.front i with ids } := Function.update_self ..
      rw [hfront]
      exact hdraw
  | cast _ hnone hcast hcarries =>
    exact .turn ⟨⟨rfl, rfl, rfl⟩, .inl rfl, .inl rfl⟩ (Front.silent_of_broadcast hcast hnone) hcarries
  | heed _ hspawn hheeds => exact .turn (hheeds.calm hspawn) (by simp [Front.Silent]) .nil

/-! ## A net is made -/

theorem Taken.mono (htaken : F.Taken net) (hids : ∀ q, (G.front q).ids = (F.front q).ids ∨
      ∃ m, (F.front q).ids.draw = .ok (m, (G.front q).ids))
    (hspare : G.spare net → F.spare net) : G.Taken net := by
  obtain ⟨⟨q, hdrawn⟩, hfree⟩ := htaken
  exact ⟨⟨q, hdrawn.mono (hids q)⟩, fun hheld => hfree (hspare hheld)⟩

theorem ids_acted (hub : Mailbox.Hub) (spent : Option NetId)
    (hids : g.ids = (F.front i).ids ∨ ∃ m, (F.front i).ids.draw = .ok (m, g.ids)) (q : Fin n) :
    (((F.turn i g hub).spend spent).front q).ids = (F.front q).ids ∨
      ∃ m, (F.front q).ids.draw = .ok (m, (((F.turn i g hub).spend spent).front q).ids) := by
  exact turn_cases hub
    (P := fun q f => f.ids = (F.front q).ids ∨ ∃ m, (F.front q).ids.draw = .ok (m, f.ids))
    hids (fun _ _ => .inl rfl) q

section Births

variable (h : (F.front i).Births F.spare o spent ws g net)

include h

theorem births_ids : g.ids = (F.front i).ids ∨ ∃ m, (F.front i).ids.draw = .ok (m, g.ids) := by
  rcases h.named.inv with ⟨-, hdraw⟩ | ⟨-, -, hsame⟩
  · exact .inr ⟨net, hdraw⟩
  · exact .inl hsame

theorem births_taken (hF : F.Allotted) : ((F.turn i g hub).spend spent).Taken net := by
  rcases h.named.inv with ⟨-, hdraw⟩ | ⟨hspent, hspare, -⟩
  · refine ⟨⟨i, ?_⟩, fun hspare => hF.not_issued hdraw (hF.held net hspare.1)⟩
    rw [front_spend, front_turn_self]
    exact .of_draw hdraw (hF.place i)
  · obtain ⟨q, hdrawn⟩ := hF.held net hspare
    exact ⟨⟨q, hdrawn.mono (ids_acted hub spent (births_ids h) q)⟩, fun hspare => hspare.2 hspent⟩

theorem births_taken_nil (f : Packet → Bool) : Wire.taken f ws = 0 := by
  rcases h.told with rfl | ⟨template, parent, htells⟩
  · rfl
  · exact htells.taken_eq

theorem births_accepted_of_ne (hm : m ≠ net) (q : ProcessId) :
    Wire.acceptedFor q (Packet.spawns m) ws = 0 := by
  rcases h.told with rfl | ⟨template, parent, htells⟩
  · rfl
  · refine Wire.acceptedFor_eq_zero (fun w hw => ?_) q
    rw [htells.packet_eq w hw]
    simp [Packet.spawns, Ne.symm hm]

theorem births_accepted_le (hF : F.Allotted) (hn : n < IdSource.wordSize) (m : NetId) (q : ProcessId) :
    Wire.acceptedFor q (Packet.spawns m) ws ≤ 1 := by
  rcases h.told with rfl | ⟨template, parent, htells⟩
  · simp [Wire.acceptedFor]
  · have hnodup : (F.front i).peers.Nodup := by
      rw [Front.peers, hF.processCount]
      exact ProcessId.nodup_peers hn _
    rw [← Wire.countP_sentTo?]
    exact (List.countP_le_length ..).trans (htells.length_sentTo?_le hnodup q)

end Births

theorem mail_acted (g : Front σ) (spent : Option NetId) (hcarries : Mailbox.Carries i F.hub ws hub)
    (q : Fin n) (f : Packet → Bool) :
    (((F.turn i g hub).spend spent).mail q).countP f + (if q = i then Wire.taken f ws else 0) =
      (F.mail q).countP f + Wire.acceptedFor (.at q) f ws :=
  hcarries.traffic.count q f

section

variable (hF : F.Allotted)

include hF

theorem Allotted.register
    (hplace : g.id = (F.front i).id ∧ g.processCount = (F.front i).processCount)
    (hids : g.ids = (F.front i).ids ∨ ∃ m, (F.front i).ids.draw = .ok (m, g.ids))
    (hinsert : ∃ index owner parent isGlobal,
      (F.front i).registry.insert net index owner parent isGlobal = .ok g.registry)
    (hsettled : ((F.turn i g hub).spend spent).Settled i net)
    (hkeep : ∀ q m, F.Settled q m → ((F.turn i g hub).spend spent).Settled q m)
    (hmailed : ∀ q m, 0 < (((F.turn i g hub).spend spent).mail q).countP (Packet.spawns m) →
      ((F.turn i g hub).spend spent).Taken m)
    (honce : ∀ q m, (((F.turn i g hub).spend spent).mail q).countP (Packet.spawns m) ≤ 1) :
    ((F.turn i g hub).spend spent).Allotted := by
  obtain ⟨index, owner, parent, isGlobal, hinsert⟩ := hinsert
  refine ⟨?_, ?_, fun j => ?_, ?_, fun m hspare => ?_, fun j m => ?_, hmailed, honce⟩
  · exact turn_cases hub (P := fun j f => f.id = .at j) (hplace.1.trans (hF.id i)) fun j _ => hF.id j
  · exact turn_cases hub (P := fun _ f => f.processCount = n) (hplace.2.trans (hF.processCount i))
      fun j _ => hF.processCount j
  · rcases ids_acted hub spent hids j with hsame | ⟨m, hdraw⟩
    · rw [hsame]
      exact hF.supply j
    · rw [(IdSource.draw_eq_ok hdraw).2]
      exact hF.supply j
  · exact turn_cases hub (P := fun _ f => f.registry.Healthy) ((hF.healthy i).insert hinsert)
      fun j _ => hF.healthy j
  · obtain ⟨q, hdrawn⟩ := hF.held m hspare.1
    exact ⟨q, hdrawn.mono (ids_acted hub spent hids q)⟩
  · refine turn_cases hub (P := fun j f => f.registry.slot? m ≠ none ∨ f.registry.isRetired m = true →
      ((F.turn i g hub).spend spent).Settled j m) ?_ ?_ j
    · obtain ⟨-, -, hregistry⟩ := Registry.insert_eq_setSlot hinsert
      rw [hregistry, Registry.slot?_setSlot, Registry.isRetired_setSlot]
      by_cases hm : m = net
      · exact fun _ => hm ▸ hsettled
      · rw [Function.update_of_ne hm]
        exact fun hknown => hkeep i m (hF.settled i m hknown)
    · exact fun j _ hknown => hkeep j m (hF.settled j m hknown)

theorem births_settled_keep (h : (F.front i).Births F.spare o spent ws g net)
    (hcarries : Mailbox.Carries i F.hub ws hub) (hsettled : F.Settled q m) :
    ((F.turn i g hub).spend spent).Settled q m := by
  have hm : m ≠ net := by
    rintro rfl
    exact hF.not_taken h.named hsettled.1
  refine ⟨hsettled.1.mono (ids_acted hub spent (births_ids h)) fun hspare => hspare.1, ?_⟩
  have hmail := mail_acted g spent hcarries q (Packet.spawns m)
  have hnone := births_accepted_of_ne h hm (.at q)
  have hzero := hsettled.2
  omega

theorem births_settled (hn : n < IdSource.wordSize)
    (h : (F.front i).Births F.spare o spent ws g net) (hcarries : Mailbox.Carries i F.hub ws hub) :
    ((F.turn i g hub).spend spent).Settled i net := by
  refine ⟨births_taken h hF, ?_⟩
  have hmail := mail_acted g spent hcarries i (Packet.spawns net)
  have hnone := hcarries.traffic.acceptedFor_own hn (Packet.spawns net)
  have hzero := hF.unmailed (hF.not_taken h.named) i
  omega

theorem births_allotted (hn : n < IdSource.wordSize)
    (h : (F.front i).Births F.spare o spent ws g net) (hcarries : Mailbox.Carries i F.hub ws hub) :
    ((F.turn i g hub).spend spent).Allotted := by
  have hnot := hF.not_taken h.named
  refine hF.register ⟨h.place.1, h.place.2.1⟩ (births_ids h) h.registered
    (births_settled hF hn h hcarries) (fun q m => births_settled_keep hF h hcarries)
    (fun q m hpos => ?_) fun q m => ?_
  all_goals
    have hmail := mail_acted g spent hcarries q (Packet.spawns m)
    rw [births_taken_nil h, ite_self, Nat.add_zero] at hmail
  · by_cases hm : m = net
    · exact hm ▸ births_taken h hF
    · rw [births_accepted_of_ne h hm, Nat.add_zero] at hmail
      have hbefore := hF.mailed q m (hmail ▸ hpos)
      exact hbefore.mono (ids_acted hub spent (births_ids h)) fun hspare => hspare.1
  · by_cases hm : m = net
    · subst hm
      have hzero := hF.unmailed hnot q
      have hone := births_accepted_le h hF hn m (.at q)
      omega
    · rw [births_accepted_of_ne h hm, Nat.add_zero] at hmail
      exact hmail ▸ hF.once q m

end

section Copies

variable (hF : F.Allotted) (h : (F.front i).Copies o ws g net)
  (hcarries : Mailbox.Carries i F.hub ws hub)

include h hcarries

/-- The news of the net was in the mailbox, and there is nothing new in any. -/
theorem copies_mail (spent : Option NetId) : 0 < (F.mail i).countP (Packet.spawns net) ∧
    (((F.turn i g hub).spend spent).mail i).countP (Packet.spawns net) + 1 =
      (F.mail i).countP (Packet.spawns net) ∧
    ∀ q m, (((F.turn i g hub).spend spent).mail q).countP (Packet.spawns m) ≤
      (F.mail q).countP (Packet.spawns m) := by
  obtain ⟨packet, -, rfl, hspawns⟩ := h.took
  have hmail q m := mail_acted g spent hcarries q (Packet.spawns m)
  have hnone q m : Wire.acceptedFor q (Packet.spawns m) [.took packet] = 0 := by
    rw [Wire.acceptedFor_took]
    rfl
  have htaken := hmail i net
  rw [if_pos rfl, Wire.taken_took, hspawns, hnone] at htaken
  simp only [Wire.taken_nil, Nat.zero_add, if_true, Nat.add_zero] at htaken
  refine ⟨by omega, htaken, fun q m => ?_⟩
  have hq := hmail q m
  rw [hnone] at hq
  omega

include hF

omit hF hcarries in
theorem copies_taken (htaken : F.Taken m) : ((F.turn i g hub).spend spent).Taken m :=
  htaken.mono (ids_acted hub spent (.inl h.ids)) fun hspare => hspare.1

omit hF in
theorem copies_settled_keep (hsettled : F.Settled q m) : ((F.turn i g hub).spend spent).Settled q m :=
  ⟨copies_taken h hsettled.1,
    Nat.le_zero.mp (hsettled.2 ▸ (copies_mail h hcarries spent).2.2 q m)⟩

theorem copies_settled : ((F.turn i g hub).spend spent).Settled i net := by
  obtain ⟨hpos, htaken, -⟩ := copies_mail h hcarries spent
  refine ⟨copies_taken h (hF.mailed i net hpos), ?_⟩
  have honce := hF.once i net
  omega

theorem copies_allotted : ((F.turn i g hub).spend spent).Allotted := by
  obtain ⟨-, -, hle⟩ := copies_mail h hcarries spent
  obtain ⟨index, owner, parent, hinsert⟩ := h.registered
  refine hF.register ⟨h.place.1, h.place.2.1⟩ (.inl h.ids) ⟨index, owner, parent, true, hinsert⟩
    (copies_settled hF h hcarries) (fun q m => copies_settled_keep h hcarries)
    (fun q m hpos => ?_) fun q m => (hle q m).trans (hF.once q m)
  exact copies_taken h (hF.mailed q m (Nat.lt_of_lt_of_le hpos (hle q m)))

end Copies

/-! ## Whatever goes on -/

section Acts

variable {made : Option NetId} (hF : F.Allotted) (hn : n < IdSource.wordSize)
  (h : (F.front i).Acts F.spare o made spent ws g) (hcarries : Mailbox.Carries i F.hub ws hub)

include hF hn h hcarries

theorem acts_allotted : ((F.turn i g hub).spend spent).Allotted := by
  rcases h.inv with ⟨hcalm, hsilent⟩ | ⟨net, hbirths⟩ | ⟨net, hcopies⟩
  · exact ((Quiet.turn hcalm hsilent hcarries).spend spent).allotted hF
  · exact births_allotted hF hn hbirths hcarries
  · exact copies_allotted hF hcopies hcarries

omit hn in
theorem acts_taken (htaken : F.Taken m) : ((F.turn i g hub).spend spent).Taken m := by
  rcases h.inv with ⟨hcalm, hsilent⟩ | ⟨net, hbirths⟩ | ⟨net, hcopies⟩
  · exact ((Quiet.turn hcalm hsilent hcarries).spend spent).taken hF htaken
  · exact htaken.mono (ids_acted hub spent (births_ids hbirths)) fun hspare => hspare.1
  · exact copies_taken hcopies htaken

omit hn in
theorem acts_settled (hsettled : F.Settled q m) : ((F.turn i g hub).spend spent).Settled q m := by
  rcases h.inv with ⟨hcalm, hsilent⟩ | ⟨net, hbirths⟩ | ⟨net, hcopies⟩
  · exact ((Quiet.turn hcalm hsilent hcarries).spend spent).settled hF hsettled
  · exact births_settled_keep hF hbirths hcarries hsettled
  · exact copies_settled_keep hcopies hcarries hsettled

omit hF hn hcarries in
theorem acts_slot? (hub : Mailbox.Hub) {slot' : Slot}
    (hslot : (((F.turn i g hub).spend spent).front q).registry.slot? m = some slot') :
    (∃ slot, (F.front q).registry.slot? m = some slot ∧ slot'.origin = slot.origin) ∨
      q = i ∧ (F.front i).registry.slot? m = none ∧
        ((F.front i).Births F.spare o spent ws g m ∨
          (F.front i).Copies o ws g m ∧ slot'.isGlobal = true) := by
  rw [front_spend] at hslot
  by_cases hq : q = i
  · subst hq
    rw [front_turn_self] at hslot
    -- a slot for another net than the new one was there before
    have hother {net : NetId} {index : Nat} {owner : WorkerId} {parent : Option NetId} {isGlobal : Bool}
        (hinsert : (F.front q).registry.insert net index owner parent isGlobal = .ok g.registry)
        (hne : m ≠ net) :
        ∃ slot, (F.front q).registry.slot? m = some slot ∧ slot'.origin = slot.origin := by
      rw [(Registry.insert_eq_ok hinsert).2, Function.update_of_ne hne] at hslot
      exact ⟨slot', hslot, rfl⟩
    rcases h.inv with ⟨hcalm, -⟩ | ⟨net, hbirths⟩ | ⟨net, hcopies⟩
    · rcases hcalm.registry with hsame | hchanges
      · exact .inl ⟨slot', hsame ▸ hslot, rfl⟩
      · exact .inl (hchanges.covers m slot' hslot)
    · obtain ⟨_, _, _, _, hregistered⟩ := hbirths.registered
      by_cases hm : m = net
      · subst hm
        exact .inr ⟨rfl, (Registry.insert_eq_setSlot hregistered).2.1, .inl hbirths⟩
      · exact .inl (hother hregistered hm)
    · obtain ⟨_, _, _, hregistered⟩ := hcopies.registered
      by_cases hm : m = net
      · subst hm
        obtain ⟨-, hnone, hregistry⟩ := Registry.insert_eq_setSlot hregistered
        rw [hregistry, Registry.slot?_setSlot, Function.update_self] at hslot
        cases hslot
        exact .inr ⟨rfl, hnone, .inr ⟨hcopies, rfl⟩⟩
      · exact .inl (hother hregistered hm)
  · rw [front_turn_of_ne hq] at hslot
    exact .inl ⟨slot', hslot, rfl⟩

omit hn in
/-- A process that has had its part in a net gets no slot for it any more. -/
theorem acts_slot?_none (hsettled : F.Settled q m) (hnone : (F.front q).registry.slot? m = none) :
    (((F.turn i g hub).spend spent).front q).registry.slot? m = none := by
  by_contra hsome
  obtain ⟨slot', hslot'⟩ := Option.ne_none_iff_exists'.mp hsome
  rcases acts_slot? h hub hslot' with ⟨slot, hslot, -⟩ | ⟨rfl, -, hbirths | ⟨hcopies, -⟩⟩
  · simp [hnone] at hslot
  · exact hF.not_taken hbirths.named hsettled.1
  · have hpos := (copies_mail hcopies hcarries spent).1
    simp [hsettled.2] at hpos

end Acts

variable [NetBehaviour σ] {hand : Prop} {H : List (Nat × Moment σ Mailbox.Link)}

theorem Saga.covers_of_nil (h : F.Saga hand [] G) (q : Fin n) :
    (F.front q).registry.Covers (G.front q).registry :=
  h.invariant_of_nil (I := fun G => (F.front q).registry.Covers (G.front q).registry)
    (fun hcovers hstirs => hcovers.trans (hstirs.quiet.covers q)) .refl

section

variable (h : F.Saga hand H G)

include h

theorem Saga.allotted (hn : n < IdSource.wordSize) (hF : F.Allotted) :
    G.Allotted :=
  h.invariant (I := Allotted) (fun hF hstirs => hstirs.quiet.allotted hF)
    (fun hF hacts hcarries => acts_allotted hF hn hacts hcarries) hF

/-- What quiet steps and acts keep as long as names are given out in order. -/
theorem Saga.keeps (hn : n < IdSource.wordSize) (hF : F.Allotted)
    {I : Forum n σ → Prop} (hquiet : ∀ {F G : Forum n σ}, F.Allotted → Quiet F G → I F → I G)
    (hacts : ∀ {F : Forum n σ} {i o made spent ws g hub}, F.Allotted →
      (F.front i).Acts F.spare o made spent ws g → Mailbox.Carries i F.hub ws hub → I F →
      I ((F.turn i g hub).spend spent)) (hI : I F) : I G := by
  have hboth : G.Allotted ∧ I G := by
    refine h.invariant (I := fun F => F.Allotted ∧ I F) ?_ ?_ ⟨hF, hI⟩
    · rintro F G ⟨hF, hI⟩ hstirs
      exact ⟨hstirs.quiet.allotted hF, hquiet hF hstirs.quiet hI⟩
    · rintro F i o made spent ws g hub ⟨hF, hI⟩ ha hcarries
      exact ⟨acts_allotted hF hn ha hcarries, hacts hF ha hcarries hI⟩
  exact hboth.2

theorem Saga.taken (hn : n < IdSource.wordSize) (hF : F.Allotted)
    (htaken : F.Taken m) : G.Taken m :=
  h.keeps hn hF (I := fun F => F.Taken m) (fun hF hquiet => hquiet.taken hF)
    (fun hF hacts hcarries => acts_taken hF hacts hcarries) htaken

/-- A process that has had its part in a net is never told of it again. -/
theorem Saga.settled (hn : n < IdSource.wordSize) (hF : F.Allotted)
    (hsettled : F.Settled q m) : G.Settled q m :=
  h.keeps hn hF (I := fun F => F.Settled q m) (fun hF hquiet => hquiet.settled hF)
    (fun hF hacts hcarries => acts_settled hF hacts hcarries) hsettled

end

end Forum

end PetriCluster
