import PetriCluster.Proofs.Acknowledgments

/-!
# What a step does to one net

For the life and death of one net it matters where it has slots, what of it is told to others, and how
many acknowledgments of its halt are waited for. Nearly all changes of a registry let a net only fade
(`Registry.Wanes`): it gets no slot, does not come back to life and is not waited for anew.
-/

namespace PetriCluster

namespace Packet

/-- The packet tells that the net was spawned. -/
def spawns (net : NetId) (p : Packet) : Bool :=
  match p.message? with
  | some (.spawned m ..) => decide (m = net)
  | _ => false

/-- The packet tells that the net was halted. -/
def halts (net : NetId) (p : Packet) : Bool :=
  match p.message? with
  | some (.halted m _) => decide (m = net)
  | _ => false

/-- The packet says that a net was spawned or halted. -/
def concerns (net : NetId) (p : Packet) : Bool := p.spawns net || p.halts net

/-- The packet says of some net that it was spawned or halted. -/
def isNews (p : Packet) : Bool :=
  match p.message? with
  | some (.spawned ..) | some (.halted ..) => true
  | _ => false

variable {net m : NetId} {p : Packet}

theorem spawns_iff : p.spawns net = true ↔
    ∃ template parent origin, p.message? = some (.spawned net template parent origin) := by
  unfold spawns
  split <;> simp_all

theorem halts_iff : p.halts net = true ↔ ∃ origin, p.message? = some (.halted net origin) := by
  unfold halts
  split <;> simp_all

theorem isNews_of_concerns (h : p.concerns net = true) : p.isNews = true := by
  rw [concerns, Bool.or_eq_true, spawns_iff, halts_iff] at h
  obtain ⟨template, parent, origin, hmessage⟩ | ⟨origin, hmessage⟩ := h <;> simp [isNews, hmessage]

theorem concerns_of_spawns (h : p.spawns net = true) : p.concerns net = true := by simp [concerns, h]

theorem concerns_of_halts (h : p.halts net = true) : p.concerns net = true := by simp [concerns, h]

theorem halts_of_isHaltedOf {origin : ProcessId} (h : p.isHaltedOf net origin = true) :
    p.halts net = true :=
  halts_iff.mpr ⟨origin, of_decide_eq_true h⟩

end Packet

theorem Retired.contains_insert {r : Retired} {net m : NetId}
    (h : (r.insert net).contains m = true) : m = net ∨ r.contains m = true := by
  have hadd (h : (r.ids.insert net).contains m = true) : m = net ∨ r.contains m = true := by
    rw [Std.HashSet.contains_insert, Bool.or_eq_true, beq_iff_eq] at h
    exact h.imp Eq.symm id
  unfold insert at h
  split at h
  · exact .inr h
  · unfold evict at h
    split at h
    · exact hadd h
    · split at h
      · refine hadd ?_
        rw [contains, Std.HashSet.contains_erase, Bool.and_eq_true] at h
        exact h.2
      · exact hadd h

namespace Registry

/-- A net fades from a registry, or stays as it is. -/
structure Wanes (r r' : Registry) (net : NetId) : Prop where
  slot : ∀ slot', r'.slot? net = some slot' → ∃ slot, r.slot? net = some slot ∧
    (slot'.state.isLive = true → slot.state.isLive = true) ∧ slot'.pendingAcks ≤ slot.pendingAcks
  retired : r'.isRetired net = true → r.isRetired net = true ∨ r'.slot? net = none

variable {r r' : Registry} {net m : NetId} {slot slot' : Slot}

theorem Wanes.refl : Wanes r r net where
  slot slot' h := ⟨slot', h, id, Nat.le_refl _⟩
  retired := .inl

theorem Wanes.setSlot_of_ne (h : net ≠ m) : Wanes r (r.setSlot m slot') net where
  slot slot' hslot := by
    rw [slot?_setSlot, Function.update_of_ne h] at hslot
    exact ⟨slot', hslot, id, Nat.le_refl _⟩
  retired := .inl

theorem Wanes.setSlot (h : r.slot? m = some slot)
    (hlive : slot'.state.isLive = true → slot.state.isLive = true)
    (hacks : slot'.pendingAcks ≤ slot.pendingAcks) : Wanes r (r.setSlot m slot') net := by
  by_cases hm : net = m
  · subst hm
    refine ⟨fun found hfound => ?_, .inl⟩
    rw [slot?_setSlot, Function.update_self] at hfound
    cases hfound
    exact ⟨slot, h, hlive, hacks⟩
  · exact .setSlot_of_ne hm

theorem wanes_activate {w : WorkerId} {state : NetState} (h : r.activate m w = .ok (state, r')) :
    Wanes r r' net := by
  obtain ⟨slot, hslot, hstate, rfl⟩ := activate_eq_setSlot h
  refine .setSlot hslot (fun hlive => ?_) (Nat.le_refl _)
  rw [hstate] at hlive
  split at hlive
  · rename_i hspawned
    simp [hspawned, NetState.isLive]
  · exact hlive

theorem wanes_setOwner {w : WorkerId} (h : r.setOwner m w = .ok r') : Wanes r r' net := by
  obtain ⟨slot, hslot, rfl⟩ := setOwner_eq_setSlot h
  exact .setSlot hslot id (Nat.le_refl _)

theorem wanes_beginHalt {owner : WorkerId} {isGlobal : Bool}
    (h : r.beginHalt m = .ok (.started owner isGlobal, r')) : Wanes r r' net := by
  obtain ⟨slot, hslot, -, -, -, rfl⟩ := beginHalt_eq_setSlot h
  exact .setSlot hslot (by simp [NetState.isLive]) (Nat.le_refl _)

theorem wanes_acknowledge {outcome : AckOutcome} (h : r.acknowledge m = .ok (outcome, r')) :
    Wanes r r' net := by
  obtain ⟨slot, hslot, -, -, -, rfl⟩ := acknowledge_eq_setSlot h
  exact .setSlot hslot id (Nat.sub_le ..)

theorem wanes_retire (h : r.retire m = .ok (slot, r')) : Wanes r r' net := by
  obtain ⟨_, -, -, hupdate⟩ := retire_eq_ok h
  have hslot : net = m → r'.slot? net = none := by
    rintro rfl
    rw [hupdate, Function.update_self]
  have hsame (hm : net ≠ m) : r'.slot? net = r.slot? net := by rw [hupdate, Function.update_of_ne hm]
  refine ⟨fun found hfound => ?_, fun hretired => ?_⟩
  · have hm : net ≠ m := fun hm => by simp [hslot hm] at hfound
    exact ⟨found, by rw [← hsame hm, hfound], id, Nat.le_refl _⟩
  · obtain ⟨_, -, -, -, rfl⟩ := retire_eq_erase h
    exact (Retired.contains_insert hretired).symm.imp id hslot

/-- A retired name has no slot. -/
def TidyAt (r : Registry) (net : NetId) : Prop := r.isRetired net = true → r.slot? net = none

theorem TidyAt.wanes (h : r.TidyAt net) (hw : Wanes r r' net) : r'.TidyAt net := by
  intro hretired
  rcases hw.retired hretired with hold | hnone
  · by_contra hsome
    obtain ⟨slot', hslot'⟩ := Option.ne_none_iff_exists'.mp hsome
    obtain ⟨slot, hslot, -⟩ := hw.slot slot' hslot'
    simp [h hold] at hslot
  · exact hnone

theorem TidyAt.not_live (h : r.TidyAt net)
    (hidle : ∀ owner isGlobal r', r.beginHalt net ≠ .ok (.started owner isGlobal, r'))
    (hslot : r.slot? net = some slot) : slot.state.isLive = false := by
  have hretired : r.isRetired net = false := by
    by_contra htrue
    simp [h (by simpa using htrue)] at hslot
  by_contra hlive
  refine hidle slot.owner slot.isGlobal (r.setSlot net { slot with state := .halting }) ?_
  simp [beginHalt, hretired, hslot, hlive]

end Registry

namespace Scene

variable {σ : Type} {s t : Scene σ} {net m : NetId} {n : Nat} {i : Fin n} {ws : List Wire}

/-- The net is live. -/
def Lives (s : Scene σ) (net : NetId) : Prop :=
  ∃ slot, s.registry.slot? net = some slot ∧ slot.state.isLive = true

/-- What a step of process `i` does to one net. -/
structure Fate (i : Fin n) (net : NetId) (s : Scene σ) (ws : List Wire) (t : Scene σ) : Prop where
  ids : t.ids = s.ids ∨ ∃ m, s.ids.draw = .ok (m, t.ids)
  tidy : s.registry.TidyAt net → t.registry.TidyAt net
  /-- It gets a slot only if a peer said so, or its name was just drawn. -/
  arrives : t.registry.slot? net ≠ none → s.registry.slot? net ≠ none ∨
    (∃ packet, .took packet ∈ ws ∧ packet.spawns net = true) ∨ s.ids.draw = .ok (net, t.ids)
  lives : t.Lives net → s.Lives net ∨
    (∃ packet, .took packet ∈ ws ∧ packet.spawns net = true) ∨ s.ids.draw = .ok (net, t.ids)
  stops : ∀ packet, .took packet ∈ ws → packet.halts net = true → ¬t.Lives net
  /-- Others are told that it was spawned, once each, only if its name was just drawn. -/
  tells : ∀ target packet, .sent target packet ∈ ws → packet.spawns net = true →
    s.ids.draw = .ok (net, t.ids) ∧ ws.filterMap (Wire.sentTo? target) = [packet]
  /-- Others are told that it halted only if it has a slot. -/
  announces : ∀ target packet, .sent target packet ∈ ws → packet.halts net = true →
    s.registry.slot? net ≠ none
  /-- Acknowledgments are waited for anew only if it stops here and all peers are told. -/
  waits : 0 < t.pending net → 0 < s.pending net ∨ s.registry.slot? net ≠ none ∧ ¬t.Lives net ∧
    ∀ q, q ≠ i → ∃ packet, .sent (.at q) packet ∈ ws ∧ packet.isHaltedOf net (.at i) = true

theorem Fate.of_wanes (hids : t.ids = s.ids ∨ ∃ m, s.ids.draw = .ok (m, t.ids))
    (hw : s.registry.Wanes t.registry net)
    (htook : ∀ packet, .took packet ∈ ws → packet.halts net = true → ¬t.Lives net)
    (hsent : ∀ target packet, .sent target packet ∈ ws → packet.concerns net = false) :
    Fate i net s ws t where
  ids := hids
  tidy h := h.wanes hw
  arrives h := by
    obtain ⟨slot', hslot'⟩ := Option.ne_none_iff_exists'.mp h
    obtain ⟨slot, hslot, -⟩ := hw.slot slot' hslot'
    exact .inl (by simp [hslot])
  lives h := by
    obtain ⟨slot', hslot', hlive⟩ := h
    obtain ⟨slot, hslot, hback, -⟩ := hw.slot slot' hslot'
    exact .inl ⟨slot, hslot, hback hlive⟩
  stops := htook
  tells target packet hmem h :=
    absurd (Packet.concerns_of_spawns h) (by simp [hsent target packet hmem])
  announces target packet hmem h :=
    absurd (Packet.concerns_of_halts h) (by simp [hsent target packet hmem])
  waits h := by
    left
    cases hslot' : t.registry.slot? net with
    | none => simp [pending_of_none hslot'] at h
    | some slot' =>
      obtain ⟨slot, hslot, -, hacks⟩ := hw.slot slot' hslot'
      rw [pending_of_slot hslot'] at h
      rw [pending_of_slot hslot]
      omega

theorem Fate.quiet (hids : t.ids = s.ids) (hw : s.registry.Wanes t.registry net)
    (hws : ∀ w ∈ ws, w.packet.isNews = false) : Fate i net s ws t := by
  have hnone w (hmem : w ∈ ws) : w.packet.concerns net = false := by
    by_contra hconcerns
    have hnews := Packet.isNews_of_concerns (Bool.not_eq_false _ ▸ hconcerns)
    simp [hws w hmem] at hnews
  refine .of_wanes (.inl hids) hw (fun packet hmem hhalts => ?_) fun _ _ hmem => hnone _ hmem
  have hquiet : packet.concerns net = false := hnone _ hmem
  exact absurd (Packet.concerns_of_halts hhalts) (by simp [hquiet])

theorem Fate.still (hids : t.ids = s.ids) (hregistry : t.registry = s.registry)
    (hws : ∀ w ∈ ws, w.packet.isNews = false) : Fate i net s ws t :=
  .quiet hids (hregistry ▸ .refl) hws

theorem countAck_wanes (s : Scene σ) (m net : NetId) :
    (s.countAck m).ids = s.ids ∧ s.registry.Wanes (s.countAck m).registry net := by
  unfold countAck
  split
  · exact ⟨rfl, .refl⟩
  · exact ⟨rfl, Registry.wanes_acknowledge ‹_›⟩
  · exact ⟨rfl, Registry.wanes_acknowledge ‹_›⟩

theorem not_lives_of_halting {slot : Slot} (h : s.registry.slot? net = some slot)
    (hstate : slot.state = .halting) : ¬s.Lives net := by
  rintro ⟨found, hfound, hlive⟩
  rw [h] at hfound
  cases hfound
  simp [hstate, NetState.isLive] at hlive

variable [NetBehaviour σ] {events : List TokenEvent}

/-- A net that is asked for is new here; a halt that is asked for is told to nobody yet. -/
theorem Asks.fate (h : Asks False s ws events t) (hn : n < IdSource.wordSize) (hs : s.Orderly i) :
    Fate i net s ws t := by
  cases h with
  | sendLocal => exact .still rfl rfl (by simp)
  | sendRemote | sendRefused =>
    exact .still rfl rfl (by simp [Wire.packet, Packet.isNews])
  | draw hdraw => exact .of_wanes (.inr ⟨_, hdraw⟩) .refl (by simp) (by simp)
  | @spawn owner index m parent isGlobal registry made _ ids _ hinsert _ hws hname =>
    have hdraw := hname.draw_eq
    -- A local net is told to no targets, so both kinds of nets go the same way from here.
    obtain ⟨targets, hnodup, hcast⟩ : ∃ targets : List ProcessId, targets.Nodup ∧ Wire.Broadcast
        ((ControlMessage.spawned m (UInt32.ofNat index) parent s.id).toPacket s.id) targets ws := by
      split at hws
      · refine ⟨_, ?_, hws⟩
        rw [Scene.peers, hs.processCount]
        exact ProcessId.nodup_peers hn s.id
      · exact ⟨[], .nil, hws ▸ .nil⟩
    obtain ⟨hretired, -, rfl⟩ := Registry.insert_eq_setSlot hinsert
    have hnone packet : Wire.took packet ∉ ws := hcast.took_notMem packet
    have hpacket target packet (hmem : Wire.sent target packet ∈ ws) : packet = _ :=
      hcast.packet_eq _ hmem
    by_cases hm : net = m
    · subst hm
      refine ⟨.inr ⟨_, hdraw⟩, fun _ hnow => ?_, fun _ => .inr (.inr hdraw), fun _ => .inr (.inr hdraw),
        fun packet hmem => absurd hmem (hnone packet), fun target packet hmem _ =>
          ⟨hdraw, hcast.sentTo?_eq hnodup hmem⟩, fun target packet hmem hhalts => ?_, fun hpos => ?_⟩
      · exact absurd hnow (by simpa using hretired)
      · rw [hpacket target packet hmem] at hhalts
        simp [Packet.halts] at hhalts
      · exact .inl (Nat.lt_of_lt_of_eq hpos (pending_insert hinsert rfl net))
    · refine .of_wanes (.inr ⟨_, hdraw⟩) (.setSlot_of_ne hm)
        (fun packet hmem => absurd hmem (hnone packet)) fun target packet hmem => ?_
      simp [hpacket target packet hmem, Packet.concerns, Packet.spawns, Packet.halts, Ne.symm hm]
  | halt h => exact .quiet rfl (Registry.wanes_beginHalt h) (by simp)

/-- By the kind of packet: a net comes to be when the process is told that it was spawned, and ends
when it is told of the halt. -/
theorem Takes.fate {packet : Packet} (h : Takes s packet ws events t) (htidy : s.registry.TidyAt net) :
    Fate i net s (.took packet :: ws) t := by
  have hquiet (hfirst : packet.isNews = false) (hws : ∀ w ∈ ws, w.packet.isNews = false) :
      ∀ w ∈ Wire.took packet :: ws, w.packet.isNews = false :=
    List.forall_mem_cons.mpr ⟨hfirst, hws⟩
  cases h with
  | tokens hparcel | lateTokens hparcel =>
    have hmessage := Packet.message?_of_tokens (Packet.tag_of_parcel hparcel)
    exact .still rfl rfl (hquiet (by simp [Packet.isNews, hmessage]) (by simp))
  | badTokens htag =>
    have hmessage := Packet.message?_of_tokens htag
    exact .still rfl rfl (hquiet (by simp [Packet.isNews, hmessage]) (by simp))
  | @spawned m template parent origin owner registry made hdecode _ hinsert =>
    have hmessage := Packet.message?_eq_some.mpr hdecode
    have hstops other (hmem : Wire.took other ∈ [Wire.took packet]) : other.halts net = false := by
      obtain rfl : other = packet := by simpa using hmem
      simp [Packet.halts, hmessage]
    obtain ⟨hretired, -, rfl⟩ := Registry.insert_eq_setSlot hinsert
    by_cases hm : net = m
    · subst hm
      have hspawns : packet.spawns net = true := by simp [Packet.spawns, hmessage]
      have htook : ∃ p, Wire.took p ∈ [Wire.took packet] ∧ p.spawns net = true :=
        ⟨packet, by simp, hspawns⟩
      refine ⟨.inl rfl, fun _ hnow => ?_, fun _ => .inr (.inl htook), fun _ => .inr (.inl htook),
        fun other hmem hhalts => ?_, by simp, by simp, fun hpos => ?_⟩
      · exact absurd hnow (by simpa using hretired)
      · simp [hstops other hmem] at hhalts
      · exact .inl (Nat.lt_of_lt_of_eq hpos (pending_insert hinsert rfl net))
    · refine .of_wanes (.inl rfl) (.setSlot_of_ne hm) (fun other hmem hhalts => ?_) (by simp)
      simp [hstops other hmem] at hhalts
  | spawnRefused hdecode =>
    have hmessage := Packet.message?_eq_some.mpr hdecode
    refine .of_wanes (.inl rfl) .refl (fun other hmem hhalts => ?_) (by simp)
    obtain rfl : other = packet := by simpa using hmem
    simp [Packet.halts, hmessage] at hhalts
  | @halted m origin owner isGlobal registry hdecode hbegin =>
    have hmessage := Packet.message?_eq_some.mpr hdecode
    refine .of_wanes (.inl rfl) (Registry.wanes_beginHalt hbegin) (fun other hmem hhalts => ?_) (by simp)
    obtain rfl : other = packet := by simpa using hmem
    obtain rfl : m = net := by simpa [Packet.halts, hmessage] using hhalts
    obtain ⟨slot, -, -, -, -, hupdate⟩ := Registry.beginHalt_eq_started hbegin
    have hslot : registry.slot? m = some { slot with state := .halting } := by
      rw [hupdate, Function.update_self]
    exact not_lives_of_halting hslot rfl
  | @haltedBefore m origin _ hdecode hsingle hidle =>
    have hmessage := Packet.message?_eq_some.mpr hdecode
    refine .of_wanes (.inl rfl) .refl (fun other hmem hhalts => ?_) fun target other hmem => ?_
    · obtain rfl : other = packet := by rcases hsingle with rfl | rfl <;> simpa using hmem
      obtain rfl : m = net := by simpa [Packet.halts, hmessage] using hhalts
      -- A retired name cannot be stopped either, but then it has no slot.
      rintro ⟨slot, hslot, hlive⟩
      simp [htidy.not_live hidle hslot] at hlive
    · rcases hsingle with rfl | rfl
      · obtain ⟨-, rfl⟩ : target = origin ∧ other = _ := by simpa using hmem
        simp [Packet.concerns, Packet.spawns, Packet.halts]
      · simp at hmem
  | @haltAck m sender hdecode =>
    have hmessage := Packet.message?_eq_some.mpr hdecode
    obtain ⟨hids, hwanes⟩ := countAck_wanes s m net
    exact .quiet hids hwanes (hquiet (by simp [Packet.isNews, hmessage]) (by simp))
  | quit hdecode | reply hdecode =>
    have hmessage := Packet.message?_eq_some.mpr hdecode
    exact .still rfl rfl (hquiet (by simp [Packet.isNews, hmessage]) (by simp))
  | ignored htag hmessages =>
    refine .still rfl rfl (hquiet ?_ (by simp))
    unfold Packet.isNews
    split
    · rename_i hmessage
      simpa [isTalk] using hmessages _ (Packet.message?_eq_some.mp hmessage)
    · rename_i hmessage
      simpa [isTalk] using hmessages _ (Packet.message?_eq_some.mp hmessage)
    · rfl
  | probe hdecode _ hsingle =>
    have hmessage := Packet.message?_eq_some.mpr hdecode
    refine .still rfl rfl (hquiet (by simp [Packet.isNews, hmessage]) ?_)
    rcases hsingle with rfl | rfl <;> simp [Wire.packet, Packet.isNews]

variable {mail mail' : Fin n → List Packet} {item : WorkItem σ} {rest : List (WorkItem σ)}

theorem Fate.stopGlobal (hn : n < IdSource.wordSize) (hs : s.Orderly i) (hex : Exchange i mail ws mail')
    (state : σ) {registry : Registry}
    (hexpect : s.registry.expectAcks m (s.processCount - 1) = .ok registry)
    (hcast : Wire.Broadcast ((ControlMessage.halted m s.id).toPacket s.id) s.peers ws) :
    Fate i net s ws (((s.setRegistry registry).stop s.worker m state).finish item rest) := by
  rw [Scene.peers, hs.id, hs.processCount] at hcast
  obtain ⟨slot, hslot, hstate, rfl⟩ := Registry.expectAcks_eq_setSlot hexpect
  have hnone packet : Wire.took packet ∉ ws := hcast.took_notMem packet
  have hpacket target packet (hmem : Wire.sent target packet ∈ ws) : packet = _ :=
    hcast.packet_eq _ hmem
  by_cases hm : net = m
  · subst hm
    have hdead : ¬(((s.setRegistry (s.registry.setSlot net
        { slot with pendingAcks := s.processCount - 1 })).stop s.worker net state).finish item
          rest).Lives net := by
      have hnew : (s.registry.setSlot net { slot with pendingAcks := s.processCount - 1 }).slot? net =
          some { slot with pendingAcks := s.processCount - 1 } := by
        rw [Registry.slot?_setSlot, Function.update_self]
      exact not_lives_of_halting hnew hstate
    have hsome : s.registry.slot? net ≠ none := by simp [hslot]
    refine ⟨.inl rfl, fun htidy hnow => ?_, fun _ => .inl hsome, fun hlives => absurd hlives hdead,
      fun packet hmem => absurd hmem (hnone packet), fun target packet hmem hspawns => ?_,
      fun _ _ _ _ => hsome, fun _ => .inr ⟨hsome, hdead, fun q hq => ?_⟩⟩
    · exact absurd (htidy hnow) hsome
    · rw [hpacket target packet hmem] at hspawns
      simp [Packet.spawns] at hspawns
    · refine ⟨_, (hcast.sent_or_refused (ProcessId.at_mem_peers hn hq)).resolve_right fun hmem => ?_, ?_⟩
      · exact hq (hex.refused _ _ hmem q rfl)
      · simp [Packet.isHaltedOf]
  · refine .of_wanes (.inl rfl) (.setSlot_of_ne hm) (fun packet hmem => absurd hmem (hnone packet))
      fun target packet hmem => ?_
    simp [hpacket target packet hmem, Packet.concerns, Packet.spawns, Packet.halts, Ne.symm hm]

/-- Dealing with an item tells the peers of a halt, and makes no net. -/
theorem Deals.fate (h : Deals s item ws events t) (hn : n < IdSource.wordSize) (hs : s.Orderly i)
    (hex : Exchange i mail ws mail') : Fate i net s ws (t.finish item rest) := by
  cases h with
  | adopt hactivate =>
    exact .quiet (by simp) (by simpa using Registry.wanes_activate hactivate) (by simp)
  | hand | reroute | drop | dropHalt | stopForgotten | stopLocal | reclaimRefused | fired | log =>
    exact .still (by simp) (by simp) (by simp)
  | stopCopy _ hsingle =>
    refine .still (by simp) (by simp) ?_
    rcases hsingle with rfl | rfl <;> simp [Wire.packet, Packet.isNews]
  | @stopGlobal m state registry _ _ _ hexpect hcast =>
    have hnone : ws.countP Wire.isRefused = 0 := by
      rw [Scene.peers, hs.id, hs.processCount] at hcast
      exact hex.none_refused hcast
    rw [hnone]
    exact .stopGlobal hn hs hex state hexpect hcast
  | reclaim hretire => exact .quiet (by simp) (by simpa using Registry.wanes_retire hretire) (by simp)

/-- One step does to a net only what its `Fate` allows. -/
theorem Step.fate {open_ : Prop} (h : Step False open_ s ws events t) (hn : n < IdSource.wordSize)
    (hs : s.Orderly i) (hex : Exchange i mail ws mail') (htidy : s.registry.TidyAt net) :
    Fate i net s ws t := by
  cases h with
  | rest | turn | drain | store | requestFiring | migrateLost => exact .still rfl rfl (by simp)
  | ask _ h => exact h.fate hn hs
  | quit hfarewell =>
    refine .still rfl rfl fun w hw => ?_
    simp [hfarewell.packet_eq w hw, Packet.isNews]
  | take h => exact h.fate htidy
  | deal _ h => exact h.fate hn hs hex
  | probe _ _ hcast =>
    refine .still rfl rfl fun w hw => ?_
    simp [hcast.packet_eq w hw, Packet.isNews]
  | migrate _ _ _ howner => exact .quiet rfl (Registry.wanes_setOwner howner) (by simp)

end Scene

end PetriCluster
