import PetriCluster.Proofs.Seats

/-!
# What stays within bounds

Two things that no deed of a process undoes. A registry that has slots for one net only has it no
otherwise later, and a halt of that net stays begun (`Registry.Fades`). And if the instances of a
process are of a kind that tokens cannot change, and nothing but such instances and harmless items wait
for its workers, then that stays so (`Scene.Confines`).
-/

namespace PetriCluster

namespace Registry

variable {r r' r'' : Registry} {net m : NetId} {slot : Slot}

/-- A net that has begun to halt, or is gone after that. -/
def Stopped (r : Registry) (net : NetId) : Prop :=
  r.state? net = some .halting ∨ r.state? net = some .halted

instance (r : Registry) (net : NetId) : Decidable (r.Stopped net) :=
  inferInstanceAs (Decidable (_ ∨ _))

theorem state?_of_slot (h : r.slot? net = some slot) : r.state? net = some slot.state := by
  simp [state?, h]

theorem slot?_setSlot_self : (r.setSlot net slot).slot? net = some slot := by
  rw [slot?_setSlot, Function.update_self]

/-- A halt is not undone by a change of the slot that keeps its state. -/
theorem Stopped.setSlot (h : r.Stopped net) (hslot : r.slot? net = some slot) (slot' : Slot)
    (hstate : slot.state ≠ .spawned → slot'.state = slot.state) :
    (r.setSlot net slot').Stopped net := by
  unfold Stopped at h ⊢
  rw [state?_of_slot hslot] at h
  rw [state?_of_slot slot?_setSlot_self, hstate]
  · exact h
  · rcases h with h | h <;> simp [Option.some.inj h]

theorem Stopped.not_live (h : r.Stopped net) : r.liveOwner? net = none := by
  by_contra hsome
  obtain ⟨owner, howner⟩ := Option.ne_none_iff_exists'.mp hsome
  obtain ⟨slot, hslot, hlive, -⟩ := liveOwner?_eq_some.mp howner
  rw [Stopped, state?_of_slot hslot] at h
  cases hstate : slot.state <;> simp_all [NetState.isLive]

theorem contains_insert_create (window : Nat) (net : NetId) :
    ((Retired.create window).insert net).contains net = true := by
  have hroom : 1 ≤ max window 1 := Nat.le_max_right ..
  simp [Retired.insert, Retired.contains, Retired.create, Retired.evict, hroom]

/-- No other net has a slot or had one. -/
structure Lone (r : Registry) (net : NetId) : Prop where
  slots : ∀ m, m ≠ net → r.slot? m = none
  retired : r.retired = .create retiredWindow ∨
    r.retired = (Retired.create retiredWindow).insert net ∧ r.slot? net = none

namespace Lone

theorem net_eq (h : r.Lone net) (hslot : r.slot? m = some slot) : m = net := by
  by_contra hne
  rw [h.slots m hne] at hslot
  cases hslot

theorem setSlot (h : r.Lone net) (hslot : r.slot? m = some slot) (slot' : Slot) :
    (r.setSlot m slot').Lone net := by
  obtain rfl := h.net_eq hslot
  constructor
  · intro k hne
    rw [slot?_setSlot, Function.update_of_ne hne]
    exact h.slots k hne
  · rcases h.retired with hretired | ⟨-, hnone⟩
    · exact .inl hretired
    · rw [hslot] at hnone
      cases hnone

/-- The slot goes, and the name is retired. -/
theorem retire (h : r.Lone net) (hslot : r.slot? m = some slot) :
    Lone ⟨r.slots.erase m, r.retired.insert m⟩ net ∧
      Stopped ⟨r.slots.erase m, r.retired.insert m⟩ net := by
  obtain rfl := h.net_eq hslot
  rcases h.retired with hretired | ⟨-, hnone⟩
  · refine ⟨⟨fun k hne => ?_, .inr ⟨by rw [hretired], ?_⟩⟩, .inr ?_⟩
    · rw [slot?_erase, Function.update_of_ne hne]
      exact h.slots k hne
    · rw [slot?_erase, Function.update_self]
    · have hgone := contains_insert_create retiredWindow m
      simp [state?, slot?_erase, isRetired, hretired, hgone]
  · rw [hslot] at hnone
    cases hnone

end Lone

/-- What has slots for one net only stays so, and a halt stays begun. -/
def Fades (net : NetId) (r r' : Registry) : Prop :=
  r.Lone net → r'.Lone net ∧ (r.Stopped net → r'.Stopped net)

theorem Fades.refl (net : NetId) (r : Registry) : Fades net r r := fun h => ⟨h, id⟩

theorem Fades.trans (h : Fades net r r') (h' : Fades net r' r'') : Fades net r r'' := by
  intro hlone
  obtain ⟨hlone', hstopped⟩ := h hlone
  obtain ⟨hlone'', hstopped'⟩ := h' hlone'
  exact ⟨hlone'', hstopped' ∘ hstopped⟩

theorem fades_setSlot (hslot : r.slot? m = some slot) (slot' : Slot)
    (hstate : slot.state ≠ .spawned → slot'.state = slot.state) : Fades net r (r.setSlot m slot') := by
  intro hlone
  obtain rfl := hlone.net_eq hslot
  exact ⟨hlone.setSlot hslot slot', fun hstopped => hstopped.setSlot hslot slot' hstate⟩

end Registry

namespace ControlMessage

/-- Whether a message neither makes a net nor halts one. -/
def isMild : ControlMessage → Bool
  | spawned .. | halted .. => false
  | _ => true

theorem isMild_of_isAside {m : ControlMessage} (h : m.isAside = true) : m.isMild = true := by
  cases m <;> first | rfl | cases h

theorem isNotice_of_isMild {m : ControlMessage} (h : m.isMild = true) : m.isNotice = true := by
  cases m <;> first | rfl | cases h

end ControlMessage

namespace Scene

variable {σ : Type} {s t : Scene σ} {net : NetId} {item : WorkItem σ} {rest : List (WorkItem σ)}
  {packet : Packet} {ws : List Wire} {events : List TokenEvent}

/-! ## Registries -/

theorem fades_countAck (s : Scene σ) (m : NetId) :
    Registry.Fades net s.registry (s.countAck m).registry := by
  unfold countAck
  rcases hack : s.registry.acknowledge m with e | ⟨outcome, registry⟩
  · exact .refl _ _
  · obtain ⟨slot, hslot, -, -, -, rfl⟩ := Registry.acknowledge_eq_setSlot hack
    have hfades : Registry.Fades net s.registry
        (s.registry.setSlot m { slot with pendingAcks := slot.pendingAcks - 1 }) :=
      Registry.fades_setSlot hslot _ fun _ => rfl
    cases outcome <;> exact hfades

theorem fades_excuse (s : Scene σ) (m : NetId) (count : Nat) :
    Registry.Fades net s.registry (s.excuse m count).registry := by
  induction count generalizing s with
  | zero => exact .refl _ _
  | succ count ih => exact (s.fades_countAck m).trans (ih _)

variable [NetBehaviour σ]

/-- Dealing with an item lets every net only fade. -/
theorem Deals.fades (h : Deals s item ws events t) : Registry.Fades net s.registry t.registry := by
  cases h with
  | adopt hactivate =>
    obtain ⟨slot, hslot, hstate, rfl⟩ := Registry.activate_eq_setSlot hactivate
    exact Registry.fades_setSlot hslot _ fun hnew => hstate.trans (if_neg hnew)
  | @stopGlobal m state registry _ _ _ hexpect =>
    obtain ⟨slot, hslot, -, rfl⟩ := Registry.expectAcks_eq_setSlot hexpect
    exact (Registry.fades_setSlot hslot { slot with pendingAcks := s.processCount - 1 } fun _ => rfl).trans
      (fades_excuse ((s.setRegistry _).stop s.worker m state) m _)
  | reclaim hretire =>
    obtain ⟨slot, hslot, -, -, rfl⟩ := Registry.retire_eq_erase hretire
    exact fun hlone => ⟨(hlone.retire hslot).1, fun _ => (hlone.retire hslot).2⟩
  | _ => exact .refl _ _

/-- A packet that makes no net lets every net only fade. -/
theorem Takes.fades (h : Takes s packet ws events t)
    (hnotice : ∀ message, ControlMessage.ofPacket packet = .ok message → message.isNotice = true) :
    Registry.Fades net s.registry t.registry := by
  cases h with
  | spawned hmessage => cases hnotice _ hmessage
  | halted _ hbegin =>
    obtain ⟨slot, hslot, rfl, -, -, rfl⟩ := Registry.beginHalt_eq_setSlot hbegin
    intro hlone
    obtain rfl := hlone.net_eq hslot
    exact ⟨hlone.setSlot hslot _, fun _ => .inl (Registry.state?_of_slot Registry.slot?_setSlot_self)⟩
  | haltAck => exact fades_countAck _ _
  | _ => exact .refl _ _

/-! ## What is said -/

theorem Deals.utters (h : Deals s item ws events t) :
    Wire.Utters (Packet.Tells ControlMessage.isNotice) ws ∧
      ((∀ m, item ≠ .halt m none) → Wire.Utters (Packet.Tells ControlMessage.isMild) ws) := by
  cases h with
  | stopCopy _ hsingle =>
    exact ⟨hsingle.utters (Packet.tells_toPacket rfl _),
      fun _ => hsingle.utters (Packet.tells_toPacket rfl _)⟩
  | stopGlobal _ _ _ hcast =>
    exact ⟨hcast.utters (Packet.tells_toPacket rfl _), fun hitem => absurd rfl (hitem _)⟩
  | _ => exact ⟨Wire.utters_nil, fun _ => Wire.utters_nil⟩

theorem Takes.utters (h : Takes s packet ws events t) :
    Wire.Utters (Packet.Tells ControlMessage.isMild) ws := by
  cases h with
  | haltedBefore _ hsingle => exact hsingle.utters (Packet.tells_toPacket rfl _)
  | probe _ _ hsingle => exact hsingle.utters (Packet.tells_toPacket rfl _)
  | _ => exact Wire.utters_nil

/-! ## Instances and items -/

omit [NetBehaviour σ] in
theorem mem_items_post {w v : WorkerId} {x : WorkItem σ} (h : x ∈ (s.post w item).items v) :
    x ∈ s.items v ∨ x = item := by
  rw [items, List.mem_append] at h
  rw [items, List.mem_append]
  rcases h with h | h
  · exact .inl (.inl h)
  · have hinbox : x ∈ s.inbox v ∨ x = item := by
      rw [inbox, post_inboxes, List.getElem?_modify] at h
      rw [inbox]
      cases hbox : s.inboxes[v.index]? with
      | none => simp [hbox] at h
      | some box =>
        by_cases hw : w.index = v.index
        · simpa [hbox, hw] using h
        · exact .inl (by simpa [hbox, hw] using h)
    exact hinbox.imp_left .inr

/-- Instances are of one kind, and items that wait of another. -/
structure Confines (Q : σ → Prop) (T : WorkItem σ → Prop) (s : Scene σ) : Prop where
  active : ∀ w m state, s.active w m = some state → Q state
  halting : ∀ w m state, s.halting w m = some state → Q state
  items : ∀ w, ∀ x ∈ s.items w, T x

/-- What is adopted is of the kind, tokens do not change it, and it may be released. -/
structure Closed (Q : σ → Prop) (T : WorkItem σ → Prop) : Prop where
  adopt : ∀ {made}, T (.adopt made) → Q made
  tokens : ∀ {parcel state}, T (.tokens parcel) → Q state →
    Q (NetBehaviour.receive state parcel.place parcel.batch).state
  reclaim : ∀ m, T (.reclaim m)

namespace Confines

variable {Q : σ → Prop} {T : WorkItem σ → Prop}

section

variable (h : s.Confines Q T)

include h

omit [NetBehaviour σ] in
theorem congr (hsame : s.Unmoved t) : t.Confines Q T := by
  constructor
  · rw [hsame.active]
    exact h.active
  · rw [hsame.halting]
    exact h.halting
  · intro w
    rw [hsame.items]
    exact h.items w

omit [NetBehaviour σ] in
theorem setActive (w : WorkerId) (m : NetId) {o : Option σ}
    (ho : ∀ state, o = some state → Q state) : (s.setActive w m o).Confines Q T := by
  refine ⟨fun v k state hstate => ?_, h.halting, h.items⟩
  rw [setActive_active] at hstate
  by_cases hv : v = w
  · subst hv
    rw [Function.update_self] at hstate
    by_cases hk : k = m
    · subst hk
      exact ho state (by rwa [Function.update_self] at hstate)
    · rw [Function.update_of_ne hk] at hstate
      exact h.active v k state hstate
  · rw [Function.update_of_ne hv] at hstate
    exact h.active v k state hstate

omit [NetBehaviour σ] in
theorem setHalting (w : WorkerId) (m : NetId) {o : Option σ}
    (ho : ∀ state, o = some state → Q state) : (s.setHalting w m o).Confines Q T := by
  -- the two maps are alike, so a scene with one in the place of the other tells the same
  have hswap : ({ s with active := s.halting } : Scene σ).Confines Q T :=
    ⟨h.halting, h.halting, h.items⟩
  exact ⟨h.active, (hswap.setActive w m ho).active, h.items⟩

omit [NetBehaviour σ] in
theorem stop (w : WorkerId) (m : NetId) {state : σ} (hstate : Q state) :
    (s.stop w m state).Confines Q T := by
  refine (h.setActive w m ?_).setHalting w m ?_
  · simp
  · rintro _ ⟨⟩
    exact hstate

omit [NetBehaviour σ] in
theorem post (w : WorkerId) (hitem : T item) : (s.post w item).Confines Q T := by
  refine ⟨h.active, h.halting, fun v x hx => ?_⟩
  rcases mem_items_post hx with hx | rfl
  · exact h.items v x hx
  · exact hitem

omit [NetBehaviour σ] in
theorem finish (hhand : s.hand = item :: rest) :
    (s.finish item rest).Confines Q T := by
  refine ⟨h.active, h.halting, fun w x hx => h.items w x ?_⟩
  rw [items_finish hhand w]
  exact List.mem_append_right _ hx

omit [NetBehaviour σ] in
theorem letGo : s.letGo.Confines Q T := by
  refine ⟨h.active, h.halting, fun w x hx => h.items w x ?_⟩
  rw [Scene.items, letGo_hand, ite_self, List.nil_append] at hx
  exact List.mem_append_right _ hx

theorem countAck (hclosed : Closed Q T) (m : NetId) :
    (s.countAck m).Confines Q T := by
  unfold Scene.countAck
  rcases s.registry.acknowledge m with e | ⟨_ | owner, registry⟩
  · exact h
  · exact ⟨h.active, h.halting, h.items⟩
  · exact Confines.post (s := s.setRegistry registry) ⟨h.active, h.halting, h.items⟩ owner
      (hclosed.reclaim m)

theorem excuse (hclosed : Closed Q T) (m : NetId) (count : Nat) :
    (s.excuse m count).Confines Q T := by
  induction count generalizing s with
  | zero => exact h
  | succ count ih => exact ih (h.countAck hclosed m)

omit [NetBehaviour σ] in
theorem of_hand (hhand : s.hand = item :: rest) : T item :=
  h.items s.worker item (by simp [Scene.items, hhand])

theorem deal (hclosed : Closed Q T) (hhand : s.hand = item :: rest)
    (hdeals : Deals s item ws events t) : (t.finish item rest).Confines Q T := by
  have hitem := h.of_hand hhand
  have hregistry (registry : Registry) : (s.setRegistry registry).Confines Q T :=
    ⟨h.active, h.halting, h.items⟩
  suffices ht : t.Confines Q T from ht.finish (hdeals.hand_eq.1.trans hhand)
  cases hdeals with
  | adopt hactivate =>
    refine (hregistry _).setActive _ _ ?_
    rintro _ ⟨⟩
    exact hclosed.adopt hitem
  | hand hactive =>
    refine h.setActive _ _ ?_
    rintro _ ⟨⟩
    exact hclosed.tokens hitem (h.active _ _ _ hactive)
  | reroute => exact h.post _ hitem
  | drop | dropHalt | fired | log => exact h
  | stopForgotten hactive => exact h.stop _ _ (h.active _ _ _ hactive)
  | stopCopy hactive | stopLocal hactive =>
    exact (h.stop _ _ (h.active _ _ _ hactive)).post _ (hclosed.reclaim _)
  | stopGlobal hactive =>
    exact ((hregistry _).stop _ _ (h.active _ _ _ hactive)).excuse hclosed _ _
  | reclaim => exact (hregistry _).setHalting _ _ (by simp)
  | reclaimRefused => exact h.setHalting _ _ (by simp)

theorem fail (hclosed : Closed Q T) (hhand : s.hand = item :: rest) {c : Crash}
    (hfails : Fails s item c t) : t.letGo.Confines Q T := by
  cases hfails with
  | orphan | stray => exact h.letGo
  | broken hactive hreceive =>
    have hafter := hclosed.tokens (h.of_hand hhand) (h.active _ _ _ hactive)
    rw [hreceive] at hafter
    refine (h.setActive _ _ ?_).letGo
    rintro _ ⟨⟩
    exact hafter

theorem take (hclosed : Closed Q T)
    (hnotice : ∀ message, ControlMessage.ofPacket packet = .ok message → message.isNotice = true)
    (htokens : ∀ parcel, packet.parcel = .ok parcel → T (.tokens parcel))
    (hhalts : ∀ m origin, ControlMessage.ofPacket packet = .ok (.halted m origin) →
      T (.halt m (some origin))) (htakes : Takes s packet ws events t) : t.Confines Q T := by
  have hregistry (registry : Registry) : (s.setRegistry registry).Confines Q T :=
    ⟨h.active, h.halting, h.items⟩
  have htermination (termination : Termination) : (s.setTermination termination).Confines Q T :=
    ⟨h.active, h.halting, h.items⟩
  cases htakes with
  | tokens hparcel => exact (htermination _).post _ (htokens _ hparcel)
  | spawned hmessage => cases hnotice _ hmessage
  | halted hmessage => exact (hregistry _).post _ (hhalts _ _ hmessage)
  | haltAck => exact h.countAck hclosed _
  | _ => exact ⟨h.active, h.halting, h.items⟩

end

end Confines

end Scene

end PetriCluster
