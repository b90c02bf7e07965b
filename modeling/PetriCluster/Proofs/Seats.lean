import PetriCluster.Proofs.Contents
import PetriCluster.Proofs.Mail
import PetriCluster.Proofs.Names

/-!
# The only net of a process

Much of what goes on in a process moves no net (`Scene.Unmoved`): probes are answered, barriers are
noted, the run ends. In a process that has only one net, which is live, a worker has the instance or
will adopt it next, and nothing but tokens for it waits (`Scene.Seats`).
-/

namespace PetriCluster

/-! ## What goes around beside tokens -/

namespace ControlMessage

/-- The message is not about a net. -/
def isAside : ControlMessage → Bool
  | spawned .. | halted .. | haltAck .. => false
  | quit .. | barrier .. | probe .. | probeReply .. => true

/-- The message makes no net. -/
def isNotice : ControlMessage → Bool
  | spawned .. => false
  | _ => true

theorem isNotice_of_isAside {m : ControlMessage} (h : m.isAside = true) : m.isNotice = true := by
  cases m <;> first | rfl | cases h

end ControlMessage

/-- A service packet whose message, if it can be read, is of a kind. -/
def Packet.Tells (f : ControlMessage → Bool) (p : Packet) : Prop :=
  p.tag = .service ∧ ∀ m, ControlMessage.ofPacket p = .ok m → f m = true

namespace Packet

variable {f g : ControlMessage → Bool} {p : Packet}

theorem tells_toPacket {m : ControlMessage} (h : f m = true) (source : ProcessId) :
    (m.toPacket source).Tells f := by
  refine ⟨rfl, fun message hmessage => ?_⟩
  have hsame := message?_eq_some.mp (message?_toPacket m source)
  rw [hsame] at hmessage
  cases hmessage
  exact h

theorem Tells.mono (h : p.Tells f) (himp : ∀ m, f m = true → g m = true) : p.Tells g :=
  ⟨h.1, fun m hm => himp m (h.2 m hm)⟩

theorem Tells.parcel? (h : p.Tells f) : p.parcel? = none := parcel?_of_service h.1

end Packet

namespace Wire

/-- Nothing is taken, and what goes out is of a kind. -/
def Utters (P : Packet → Prop) (ws : List Wire) : Prop :=
  ∀ w ∈ ws, w.took? = none ∧ P w.packet

variable {P Q : Packet → Prop} {ws : List Wire} {packet : Packet}

theorem utters_nil : Utters P [] := by simp [Utters]

theorem Utters.mono (h : Utters P ws) (himp : ∀ p, P p → Q p) : Utters Q ws :=
  fun w hw => ⟨(h w hw).1, himp _ (h w hw).2⟩

theorem Broadcast.utters {targets : List ProcessId} (h : Broadcast packet targets ws) (hp : P packet) :
    Utters P ws := by
  induction h with
  | nil => exact utters_nil
  | sent _ ih | refused _ ih =>
    intro w hw
    rcases List.mem_cons.mp hw with rfl | hw
    · exact ⟨rfl, hp⟩
    · exact ih w hw

theorem Single.utters {target : ProcessId} (h : Single target packet ws) (hp : P packet) :
    Utters P ws := by
  rcases h with rfl | rfl <;> exact fun w hw => by
    obtain rfl := List.mem_singleton.mp hw
    exact ⟨rfl, hp⟩

theorem filterMap_took? (h : Utters P ws) : ws.filterMap took? = [] := by
  rw [List.filterMap_eq_nil_iff]
  exact fun w hw => (h w hw).1

theorem forall_sentTo? (h : Utters P ws) (q : ProcessId) :
    ∀ p ∈ ws.filterMap (sentTo? q), P p := by
  intro p hp
  obtain ⟨w, hw, hsent⟩ := List.mem_filterMap.mp hp
  cases w with
  | took | refused => cases hsent
  | sent target packet =>
    simp only [sentTo?] at hsent
    split at hsent <;> cases hsent
    exact (h _ hw).2

end Wire

namespace Scene

/-- The nets and what waits for the workers are as before. -/
structure Unmoved {σ : Type} (s t : Scene σ) : Prop where
  registry : t.registry = s.registry
  active : t.active = s.active
  halting : t.halting = s.halting
  items : ∀ w, t.items w = s.items w
  count : ∀ f, t.count f = s.count f

section Unmoved

variable {σ : Type} {s t : Scene σ} {ws : List Wire}

theorem Unmoved.refl (s : Scene σ) : s.Unmoved s :=
  ⟨rfl, rfl, rfl, fun _ => rfl, fun _ => rfl⟩

theorem Unmoved.turnTo (h : s.hand = []) (w : WorkerId) : s.Unmoved (s.turnTo w) :=
  ⟨rfl, rfl, rfl, items_turnTo h w, fun _ => rfl⟩

theorem Unmoved.drain (h : s.hand = []) : s.Unmoved s.drain :=
  ⟨rfl, rfl, rfl, items_drain h, count_drain h⟩

theorem items_letGo (h : s.hand = []) (w : WorkerId) : s.letGo.items w = s.items w := by
  rw [items, items, letGo_hand, h]
  rfl

theorem setActive_self {w : WorkerId} {net : NetId} {state : σ} (h : s.active w net = some state) :
    s.setActive w net (some state) = s := by
  rw [setActive, ← h, Function.update_eq_self, Function.update_eq_self]

theorem Checks.unmoved (h : Checks s ws t) :
    s.Unmoved t ∧ Wire.Utters (Packet.Tells ControlMessage.isAside) ws := by
  cases h with
  | rest => exact ⟨.refl s, Wire.utters_nil⟩
  | quit hfarewell =>
    refine ⟨⟨rfl, rfl, rfl, fun _ => rfl, fun _ => rfl⟩, ?_⟩
    unfold Farewell at hfarewell
    split at hfarewell
    · exact hfarewell ▸ Wire.utters_nil
    · exact hfarewell.utters (Packet.tells_toPacket rfl _)
  | probe _ _ hcast =>
    exact ⟨⟨rfl, rfl, rfl, fun _ => rfl, fun _ => rfl⟩, hcast.utters (Packet.tells_toPacket rfl _)⟩

variable [NetBehaviour σ] {packet : Packet} {events : List TokenEvent}

/-- A packet that is not about a net moves none. -/
theorem Takes.unmoved (h : Takes s packet ws events t)
    (hpacket : packet.Tells ControlMessage.isAside) :
    s.Unmoved t ∧ Wire.Utters (Packet.Tells ControlMessage.isAside) ws ∧ events = [] := by
  have hsame {u : Scene σ} (hregistry : u.registry = s.registry) (hactive : u.active = s.active)
      (hhalting : u.halting = s.halting) (hitems : ∀ w, u.items w = s.items w)
      (hcount : ∀ f, u.count f = s.count f) : s.Unmoved u :=
    ⟨hregistry, hactive, hhalting, hitems, hcount⟩
  have htag := hpacket.1
  cases h with
  | tokens hparcel => simp [Packet.tag_of_parcel hparcel] at htag
  | lateTokens hparcel => simp [Packet.tag_of_parcel hparcel] at htag
  | badTokens htokens => simp [htokens] at htag
  | spawned hmessage => cases hpacket.2 _ hmessage
  | spawnRefused hmessage => cases hpacket.2 _ hmessage
  | halted hmessage => cases hpacket.2 _ hmessage
  | haltedBefore hmessage => cases hpacket.2 _ hmessage
  | haltAck hmessage => cases hpacket.2 _ hmessage
  | quit => exact ⟨hsame rfl rfl rfl (fun _ => rfl) fun _ => rfl, Wire.utters_nil, rfl⟩
  | ignored => exact ⟨.refl s, Wire.utters_nil, rfl⟩
  | probe _ _ hsingle => exact ⟨.refl s, hsingle.utters (Packet.tells_toPacket rfl _), rfl⟩
  | reply => exact ⟨hsame rfl rfl rfl (fun _ => rfl) fun _ => rfl, Wire.utters_nil, rfl⟩

end Unmoved

end Scene

/-- Whether tokens are dropped. -/
def TokenEvent.isDrop : TokenEvent → Bool
  | dropped .. => true
  | _ => false

/-! ## The only instance -/

namespace Scene

variable {σ : Type} [NetBehaviour σ] {s t : Scene σ} {net : NetId} {owner : WorkerId} {adopted : Bool}
  {state : σ} {bound : List Parcel} {item : WorkItem σ} {rest : List (WorkItem σ)} {ws : List Wire}
  {events : List TokenEvent}

/-- A worker has the only instance there is, or will adopt it next, and nothing but tokens for it
waits. -/
structure Seats (s : Scene σ) (net : NetId) (owner : WorkerId) (adopted : Bool) (state : σ)
    (bound : List Parcel) : Prop where
  name : NetBehaviour.id state = net
  aimed : ∀ parcel ∈ bound, parcel.net = net
  slot : ∃ slot, slot.owner = owner ∧ slot.state.isLive = true ∧
    s.registry.slot? = Function.update (fun _ => none) net (some slot)
  retired : s.registry.retired = .create Registry.retiredWindow
  active : ∀ w m, s.active w m = if adopted = true ∧ w = owner ∧ m = net then some state else none
  halting : ∀ w m, s.halting w m = none
  items : ∀ w, s.items w = if w = owner then
      (if adopted = true then [] else [.adopt state]) ++ bound.map .tokens
    else []

namespace Seats

section

variable (h : s.Seats net owner adopted state bound)

include h

theorem congr (hsame : s.Unmoved t) :
    t.Seats net owner adopted state bound where
  name := h.name
  aimed := h.aimed
  slot := by rw [hsame.registry]; exact h.slot
  retired := by rw [hsame.registry]; exact h.retired
  active := by rw [hsame.active]; exact h.active
  halting := by rw [hsame.halting]; exact h.halting
  items w := (hsame.items w).trans (h.items w)

theorem slot?_net :
    ∃ slot, slot.owner = owner ∧ slot.state.isLive = true ∧ s.registry.slot? net = some slot := by
  obtain ⟨slot, howner, hlive, hslot⟩ := h.slot
  exact ⟨slot, howner, hlive, by rw [hslot, Function.update_self]⟩

theorem isRetired (m : NetId) :
    s.registry.isRetired m = false := by
  rw [Registry.isRetired, h.retired]
  exact Registry.isRetired_create Registry.retiredWindow m

theorem liveOwner? :
    s.registry.liveOwner? net = some owner := by
  obtain ⟨slot, howner, hlive, hslot⟩ := h.slot?_net
  exact Registry.liveOwner?_eq_some.mpr ⟨slot, hslot, hlive, howner⟩

theorem hasWorker (hs : s.Sound) : s.HasWorker owner := by
  obtain ⟨slot, rfl, -, hslot⟩ := h.slot?_net
  exact hs.owner_valid _ _ hslot

/-- Tokens are put into the inbox of the owner. -/
theorem post (hw : s.HasWorker owner) {parcel : Parcel}
    (hparcel : parcel.net = net) :
    (s.post owner (.tokens parcel)).Seats net owner adopted state (bound ++ [parcel]) where
  name := h.name
  aimed other hother := by
    rcases List.mem_append.mp hother with hother | hother
    · exact h.aimed other hother
    · rw [List.mem_singleton.mp hother, hparcel]
  slot := h.slot
  retired := h.retired
  active := h.active
  halting := h.halting
  items w := by
    rw [items_post hw, h.items w]
    by_cases heq : w = owner <;> simp [heq]

theorem hand_cases (hhand : s.hand = item :: rest) :
    s.worker = owner ∧ ((adopted = false ∧ item = .adopt state ∧
        (s.finish item rest).items owner = bound.map .tokens) ∨
      adopted = true ∧ ∃ parcel later, bound = parcel :: later ∧ item = .tokens parcel ∧
        (s.finish item rest).items owner = later.map .tokens) := by
  have hitems := h.items s.worker
  rw [items_finish hhand, if_pos rfl, List.singleton_append] at hitems
  have howner : s.worker = owner := by
    by_contra hne
    rw [if_neg hne] at hitems
    cases hitems
  rw [howner, if_pos rfl] at hitems
  refine ⟨howner, ?_⟩
  cases adopted with
  | false =>
    obtain ⟨rfl, hrest⟩ := List.cons.inj hitems
    exact .inl ⟨rfl, rfl, hrest⟩
  | true =>
    cases bound with
    | nil => cases hitems
    | cons parcel later =>
      obtain ⟨rfl, hrest⟩ := List.cons.inj hitems
      exact .inr ⟨rfl, parcel, later, rfl, rfl, hrest⟩

theorem eq_of_active {w : WorkerId} {m : NetId} {found : σ}
    (hfound : s.active w m = some found) : adopted = true ∧ w = owner ∧ m = net ∧ found = state := by
  rw [h.active] at hfound
  split at hfound
  · rename_i hheld
    exact ⟨hheld.1, hheld.2.1, hheld.2.2, (Option.some.inj hfound).symm⟩
  · cases hfound

end

theorem active_self (h : s.Seats net owner true state bound) : s.active owner net = some state := by
  simp [h.active]

theorem not_fails (h : s.Seats net owner adopted state bound) (hhand : s.hand = item :: rest)
    (htokens : ∀ parcel ∈ bound, ∀ after c,
      NetBehaviour.receive state parcel.place parcel.batch ≠ .crashed after c) {c : Crash} :
    ¬ Fails s item c t := by
  obtain ⟨slot, -, -, hslot⟩ := h.slot?_net
  have hstate : s.registry.state? net ≠ none := by simp [Registry.state?, hslot]
  obtain ⟨howner, ⟨-, rfl, -⟩ | ⟨-, parcel, later, rfl, rfl, -⟩⟩ := h.hand_cases hhand
  · intro hfails
    cases hfails with
    | orphan hnone =>
      rw [h.name, hslot] at hnone
      cases hnone
    | stray hnet _ hunknown =>
      cases hnet
      rw [h.name] at hunknown
      exact hstate hunknown
  · have hparcel := List.mem_cons_self (a := parcel) (l := later)
    intro hfails
    cases hfails with
    | stray hnet _ hunknown =>
      cases hnet
      rw [h.aimed parcel hparcel] at hunknown
      exact hstate hunknown
    | broken hactive hreceive =>
      obtain ⟨-, -, -, rfl⟩ := h.eq_of_active hactive
      exact htokens parcel hparcel _ _ hreceive

/-- The owner has the instance as it is from now on. -/
theorem store (h : s.Seats net owner adopted state bound) {after : σ} {later : List Parcel}
    (hid : NetBehaviour.id after = net) (haimed : ∀ parcel ∈ later, parcel.net = net)
    (hslot : ∃ slot, slot.owner = owner ∧ slot.state.isLive = true ∧
      t.registry.slot? = Function.update (fun _ => none) net (some slot))
    (hretired : t.registry.retired = s.registry.retired)
    (hactive : t.active = (s.setActive owner net (some after)).active)
    (hhalting : t.halting = s.halting)
    (hitems : ∀ w, t.items w = if w = owner then later.map .tokens else []) :
    t.Seats net owner true after later where
  name := hid
  aimed := haimed
  slot := hslot
  retired := hretired.trans h.retired
  active w m := by
    rw [hactive, setActive_active]
    by_cases hw : w = owner
    · subst hw
      by_cases hm : m = net
      · simp [hm]
      · simp [hm, h.active]
    · simp [hw, h.active]
  halting := by rw [hhalting]; exact h.halting
  items w := by simpa using hitems w

theorem setState (h : s.Seats net owner true state bound) (after : σ)
    (hid : NetBehaviour.id after = net) :
    (s.setActive owner net (some after)).Seats net owner true after bound :=
  h.store hid h.aimed h.slot rfl rfl rfl h.items

theorem slot_of_activate (h : s.Seats net owner adopted state bound) {life : NetState}
    {registry : Registry} (hactivate : s.registry.activate net owner = .ok (life, registry)) :
    ∃ slot, slot.owner = owner ∧ slot.state.isLive = true ∧
      registry.slot? = Function.update (fun _ => none) net (some slot) := by
  obtain ⟨found, hfound, hlife, hslots⟩ := Registry.activate_eq_ok hactivate
  obtain ⟨slot, -, hlive, hold⟩ := h.slot
  obtain rfl : slot = found := by
    rw [hold, Function.update_self] at hfound
    exact Option.some.inj hfound
  refine ⟨{ slot with owner, state := life }, rfl, ?_, by rw [hslots, hold, Function.update_idem]⟩
  show life.isLive = true
  rw [hlife]
  split
  · rfl
  · exact hlive

theorem deal [LawfulNet σ] (h : s.Seats net owner adopted state bound) (hhand : s.hand = item :: rest)
    (hdeals : Deals s item ws events t) :
    ws = [] ∧ (∀ e ∈ events, e.isDrop = false) ∧ ∃ after later,
      (t.finish item rest).Seats net owner true after later ∧
      (after = state ∧ later = bound ∨ ∃ parcel, bound = parcel :: later ∧
        after = (NetBehaviour.receive state parcel.place parcel.batch).state) := by
  -- Only the owner has items, so what is left is what is left with the owner.
  have hleftover {later : List Parcel} (hleft : (s.finish item rest).items owner = later.map .tokens)
      (w : WorkerId) :
      (s.finish item rest).items w = if w = owner then later.map .tokens else [] := by
    by_cases hw : w = owner
    · rw [if_pos hw, hw, hleft]
    · have hnone := (h.items w).trans (if_neg hw)
      rw [items_finish hhand w] at hnone
      rw [if_neg hw]
      exact (List.append_eq_nil_iff.mp hnone).2
  obtain ⟨howner, ⟨rfl, rfl, hleft⟩ | ⟨rfl, parcel, later, rfl, rfl, hleft⟩⟩ := h.hand_cases hhand
  · cases hdeals with
    | @adopt _ life registry hactivate =>
      rw [h.name] at hactivate ⊢
      rw [howner] at hactivate ⊢
      obtain ⟨slot, -, -, hsame⟩ := Registry.activate_eq_setSlot hactivate
      refine ⟨rfl, by simp, state, bound, h.store h.name h.aimed (h.slot_of_activate hactivate) ?_ rfl
        rfl (hleftover hleft), .inl ⟨rfl, rfl⟩⟩
      rw [finish_registry, setActive_registry, setRegistry_registry, hsame]
      rfl
    | reroute _ hadopt => exact absurd rfl (hadopt _)
    | log hweight => cases hweight
  · have hnet := h.aimed parcel (List.mem_cons_self ..)
    have hactive : s.active s.worker parcel.net = some state := by simp [h.active, howner, hnet]
    cases hdeals with
    | @hand _ found hfound =>
      cases hactive.symm.trans hfound
      refine ⟨rfl, by simp [TokenEvent.isDrop], _, later, h.store ?_ ?_ h.slot rfl ?_ rfl
        (hleftover hleft), .inr ⟨parcel, rfl, rfl⟩⟩
      · exact (LawfulNet.id_receive state _ _).trans h.name
      · exact fun other hother => h.aimed other (List.mem_cons_of_mem _ hother)
      · rw [howner, hnet]
        rfl
    | reroute hitem _ _ hnone =>
      cases hitem
      cases hactive.symm.trans hnone
    | drop hnone => cases hactive.symm.trans hnone
    | log hweight => cases hweight

end Seats

end Scene

end PetriCluster
