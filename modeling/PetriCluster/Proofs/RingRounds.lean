import PetriCluster.Proofs.RingLines

/-!
# Schedulers and the ring

Every deed of a process keeps the ring going as it should (`Ring.Attends`): dealing with an item, taking
in a packet, asking the transition to fire, and seeing whether the run can end. So does every call of a
scheduler (`Ring.upholds`), and no call drops a token.
-/

namespace PetriCluster

variable {later : List UInt32} {a : UInt32} {w : WorkerId}

/-- A process by its books, its scene, and the firings that it has not counted yet. -/
def Books.station (b : Books DemoNet) (s : Scene DemoNet) (k : Nat) : Ring.Station :=
  ⟨s, b.localDeliveries + b.remoteDeliveries, b.firings + k⟩

namespace Ring

open Scene
open Wire (filterMap_took? forall_sentTo?)

variable {n : Nat} {limit : UInt32} {l : Line n} {i : Fin n} {b b' : Books DemoNet}
  {s t : Scene DemoNet} {k : Nat} {link link' : Mailbox.Link} {ws : List Wire}
  {events : List TokenEvent} {item : WorkItem DemoNet} {rest : List (WorkItem DemoNet)}
  {packet : Packet}

/-- Process `i` of the line is at work, and all goes on as it should. -/
structure Attends (limit : UInt32) (l : Line n) (i : Fin n) (b : Books DemoNet) (s : Scene DemoNet)
    (k : Nat) (link : Mailbox.Link) : Prop where
  serves : link.hub.Serves n
  endpoint : link.endpoint.process = .at i
  home : b.Home limit i
  goes : Goes limit (l.turn i (b.station s k) (link.hub.mail n))

namespace Attends

theorem turn (h : Attends limit l i b s k link) (hn : n < IdSource.wordSize)
    (hwired : Wired link ws link') (hhome : b'.Home limit i) {k' : Nat}
    (hgoes : Traffic i (link.hub.mail n) ws (link'.hub.mail n) →
      Goes limit ((l.turn i (b.station s k) (link.hub.mail n)).turn i (b'.station t k')
        (link'.hub.mail n))) : Attends limit l i b' t k' link' := by
  obtain ⟨hexchange, hserves, hendpoint⟩ := Mailbox.exchange_of_wired hn hwired h.serves h.endpoint
  refine ⟨hserves, hendpoint, hhome, ?_⟩
  rw [← l.turn_turn i (b.station s k) (b'.station t k') (link.hub.mail n)]
  exact hgoes hexchange.toTraffic

theorem station_eq (l : Line n) (i : Fin n) (b : Books DemoNet) (s : Scene DemoNet) (k : Nat)
    (mail : Fin n → List Packet) : (l.turn i (b.station s k) mail).station i = b.station s k := by
  simp [Line.turn]

theorem unmoved (h : Attends limit l i b s k link) (hn : n < IdSource.wordSize)
    (hwired : Wired link ws link') (hws : Wire.Utters (Packet.Tells ControlMessage.isAside) ws)
    (hsame : s.Unmoved t) : Attends limit l i b t k link' := by
  refine h.turn hn hwired h.home fun htraffic => h.goes.unmoved hn htraffic hws ?_ ?_ ?_
  all_goals rw [station_eq]
  · exact hsame
  · rfl
  · rfl

theorem cases (h : Attends limit l i b s k link) :
    (∃ hop seat x, Running limit hop seat (l.turn i (b.station s k) (link.hub.mail n)) ∧
      seat i = x ∧ x.Fits limit i (b.station s k) (link.hub.mail n i)) ∨
    Spent limit (l.turn i (b.station s k) (link.hub.mail n)) ∧
      Remains i (b.station s k) (link.hub.mail n i) := by
  rcases h.goes with ⟨hop, seat, hrunning⟩ | hspent
  · have hfits := hrunning.fits i
    rw [station_eq] at hfits
    exact .inl ⟨hop, seat, _, hrunning, rfl, hfits⟩
  · have hremains := hspent.remains i
    rw [station_eq] at hremains
    exact .inr ⟨hspent, hremains⟩

/-! ## Items -/

section

variable (h : Attends limit l i b s 0 link)

include h

theorem not_fire (hhand : s.hand = item :: rest) (m : NetId)
    (transition : TransitionIndex) : item ≠ .fire m transition := by
  rintro rfl
  rcases h.cases with ⟨hop, seat, x, -, -, hfits⟩ | ⟨-, hremains⟩
  · cases hfits with
    | absent hawaits => cases hhand.symm.trans hawaits.lacks.hand_eq_nil
    | held hholds =>
      obtain ⟨-, ⟨-, heq, -⟩ | ⟨-, _, _, -, heq, -⟩⟩ := hholds.hand_cases hhand <;> cases heq
  · cases hremains with
    | absent hawaits => cases hhand.symm.trans hawaits.lacks.hand_eq_nil
    | idle hcopy =>
      rcases hcopy.of_hand hhand with heq | hexit
      · cases heq
      · cases hexit

/-- Whatever is done about an item keeps the token of the ring. -/
theorem deal (hn : n < IdSource.wordSize) (hs : s.Sound)
    (hhand : s.hand = item :: rest) (hdeals : Deals s item ws events t)
    (hwired : Wired link ws link') :
    (∀ e ∈ events, e.isDrop = false) ∧ Attends limit l i b (t.finish item rest) 0 link' := by
  rcases h.cases with ⟨hop, seat, x, hrunning, hseat, hfits⟩ | ⟨hspent, hremains⟩
  · cases hfits with
    | absent hawaits => cases hhand.symm.trans hawaits.lacks.hand_eq_nil
    | @held owner adopted copy bound hholds hlimit hforwarded hplain =>
      obtain ⟨rfl, hdrops, waiting, later, hholds, hperm⟩ := hholds.deal hhand hdeals
      refine ⟨hdrops, h.turn hn hwired h.home fun htraffic => .inl ⟨hop, _,
        hrunning.keep (x := .held owner true { copy with waiting } later) hn htraffic
          Wire.utters_nil (.held hholds hlimit hforwarded hplain) ?_ ?_ ?_⟩⟩
      · rw [hseat]
        exact hperm
      all_goals rw [station_eq]; rfl
  · cases hremains with
    | absent hawaits => cases hhand.symm.trans hawaits.lacks.hand_eq_nil
    | idle hcopy hwaiting hforwarded hnotices =>
      obtain ⟨hsubsides, hcopy⟩ := hcopy.deal hs hhand hdeals
      refine ⟨by simp [hsubsides.events], h.turn hn hwired h.home fun htraffic => .inr ?_⟩
      have hmail := htraffic.mail_own hn
      rw [filterMap_took? hsubsides.utters, List.nil_append] at hmail
      refine hspent.turn htraffic (fun q => forall_sentTo? hsubsides.utters (.at q))
        (.idle hcopy hwaiting hforwarded (hmail ▸ hnotices)) ?_ ?_ ?_
      all_goals rw [station_eq]
      · exact hsubsides.stopped
      · rfl
      · rfl

theorem fail (hn : n < IdSource.wordSize)
    (hhand : s.hand = item :: rest) {c : Crash} (hfails : Fails s item c t) :
    (∀ parcel, item ≠ .tokens parcel) ∧ Attends limit l i b t.letGo 0 link := by
  rcases h.cases with ⟨hop, seat, x, -, -, hfits⟩ | ⟨hspent, hremains⟩
  · cases hfits with
    | absent hawaits => cases hhand.symm.trans hawaits.lacks.hand_eq_nil
    | held hholds => exact (hholds.not_fails hhand hfails).elim
  · cases hremains with
    | absent hawaits => cases hhand.symm.trans hawaits.lacks.hand_eq_nil
    | idle hcopy hwaiting hforwarded hnotices =>
      obtain ⟨hleft, hregistry⟩ := hcopy.fail hhand hfails
      constructor
      · rintro parcel rfl
        rcases hcopy.of_hand hhand with heq | hexit
        · cases heq
        · cases hexit
      · refine h.turn hn .nil h.home fun htraffic => .inr ?_
        refine hspent.turn htraffic (by simp) (.idle hleft hwaiting hforwarded hnotices) ?_ ?_ ?_
        all_goals rw [station_eq]
        · intro hstopped
          show t.registry.Stopped net
          rwa [hregistry]
        · rfl
        · rfl

end

/-! ## Packets -/

theorem mail_eq (h : Attends limit l i b s k link) (hn : n < IdSource.wordSize)
    (hreceive : Transport.receive link = (.ok (some packet), link')) :
    link.hub.mail n i = packet :: link'.hub.mail n i := by
  obtain ⟨hexchange, -, -⟩ :=
    Mailbox.exchange_of_wired hn (.took hreceive .nil) h.serves h.endpoint
  exact hexchange.mail_own hn

theorem hear (h : Attends limit l i b s 0 link) (hn : n < IdSource.wordSize)
    (hwired : Wired link (.took packet :: ws) link') (hpacket : packet.Tells ControlMessage.isAside)
    (hws : Wire.Utters (Packet.Tells ControlMessage.isAside) ws) (hsame : s.Unmoved t) :
    Attends limit l i b t 0 link' := by
  refine h.turn hn hwired h.home fun htraffic =>
    h.goes.hear hn htraffic hpacket hws ?_ ?_ ?_
  all_goals rw [station_eq]
  · exact hsame
  · rfl
  · rfl

/-- Taking in a packet, the news of the ring apart, keeps its token. -/
theorem take (h : Attends limit l i b s 0 link) (hn : n < IdSource.wordSize) (hs : s.Sound)
    {mid : Mailbox.Link} (hreceive : Transport.receive link = (.ok (some packet), mid))
    (hother : packet ≠ announcement) (htakes : Takes s packet ws events t)
    (hwired : Wired mid ws link') :
    (∀ e ∈ events, e.isDrop = false) ∧ Attends limit l i b t 0 link' := by
  have hall : Wired link (.took packet :: ws) link' := .took hreceive hwired
  have hmail := h.mail_eq hn hreceive
  rcases h.cases with ⟨hop, seat, x, hrunning, hseat, hfits⟩ | ⟨hspent, hremains⟩
  · cases hfits with
    | absent hawaits => exact absurd (hmail ▸ hawaits).head_eq hother
    | @held owner adopted copy bound hholds hlimit hforwarded hplain =>
      rcases hplain packet (by simp [hmail]) with haside | ⟨a, hparcel⟩
      · obtain ⟨hsame, hws, rfl⟩ := htakes.unmoved haside
        exact ⟨by simp, h.hear hn hall haside hws hsame⟩
      · obtain ⟨rfl, rfl, hholds⟩ := hholds.take hs hparcel htakes
        refine ⟨by simp, h.turn hn hall h.home fun htraffic => .inl ⟨hop, _,
          hrunning.take (x := .held owner adopted copy (bound ++ [a])) hn htraffic Wire.utters_nil
            (.held hholds hlimit hforwarded fun p hp => hplain p ?_) (fun c => ?_) ?_ ?_⟩⟩
        · rw [htraffic.mail_own hn]
          exact List.mem_append_right _ hp
        · rw [hseat, carries_iff hparcel]
          simp only [Seat.hops, List.count_append, List.count_singleton, beq_iff_eq, decide_eq_true_eq,
            eq_comm (a := c)]
          omega
        all_goals rw [station_eq]; rfl
  · cases hremains with
    | absent hawaits => exact absurd (hmail ▸ hawaits).head_eq hother
    | idle hcopy hwaiting hforwarded hnotices =>
      obtain ⟨hsubsides, hcopy⟩ := hcopy.take hs (hnotices packet (by simp [hmail])) htakes
      refine ⟨by simp [hsubsides.events], h.turn hn hall h.home fun htraffic => .inr ?_⟩
      refine hspent.turn htraffic (fun q => forall_sentTo? hsubsides.utters (.at q))
        (.idle hcopy hwaiting hforwarded fun p hp => hnotices p ?_) ?_ ?_ ?_
      · rw [htraffic.mail_own hn]
        exact List.mem_append_right _ hp
      all_goals rw [station_eq]
      · exact hsubsides.stopped
      · rfl
      · rfl

theorem message_isNotice (h : Attends limit l i b s k link) (hn : n < IdSource.wordSize)
    (hreceive : Transport.receive link = (.ok (some packet), link'))
    (hother : packet ≠ announcement) {message : ControlMessage}
    (hmessage : ControlMessage.ofPacket packet = .ok message) : message.isNotice = true := by
  have hmail := h.mail_eq hn hreceive
  rcases h.cases with ⟨hop, seat, x, -, -, hfits⟩ | ⟨-, hremains⟩
  · cases hfits with
    | absent hawaits => exact absurd (hmail ▸ hawaits).head_eq hother
    | held _ _ _ hplain =>
      rcases hplain packet (by simp [hmail]) with haside | ⟨a, hparcel⟩
      · exact ControlMessage.isNotice_of_isAside (haside.2 _ hmessage)
      · have htag := Packet.tag_of_parcel (Packet.parcel?_eq_some.mp hparcel)
        cases htag.symm.trans (Packet.tag_of_message hmessage)
  · cases hremains with
    | absent hawaits => exact absurd (hmail ▸ hawaits).head_eq hother
    | idle _ _ _ hnotices => exact (hnotices packet (by simp [hmail])).2 _ hmessage

theorem news (h : Attends limit l i b s 0 link) (hn : n < IdSource.wordSize)
    (hreceive : Transport.receive link = (.ok (some announcement), link')) :
    s.Lacks ∧ i.val ≠ 0 ∧ ∀ {t owner}, t.Holds owner false ⟨net, limit, [], 0⟩ [] →
      Attends limit l i b t 0 link' := by
  have hmail := h.mail_eq hn hreceive
  have hall : Wired link [.took announcement] link' := .took hreceive .nil
  rcases h.cases with ⟨hop, seat, x, hrunning, hseat, hfits⟩ | ⟨hspent, hremains⟩
  · cases hfits with
    | held _ _ _ hplain => exact (not_isPlain_announcement (hplain _ (by simp [hmail]))).elim
    | absent hawaits =>
      obtain ⟨later, heq, hlater⟩ := hawaits.mail
      obtain rfl := (List.cons.inj (hmail.symm.trans heq)).2
      refine ⟨hawaits.lacks, hawaits.other, fun {t owner} hholds => ?_⟩
      refine h.turn hn hall h.home fun htraffic => .inl ⟨hop, _,
        hrunning.take (x := .held owner false ⟨net, limit, [], 0⟩ []) hn htraffic Wire.utters_nil
          (.held hholds rfl hawaits.deliveries.symm hlater) (fun c => ?_) ?_ ?_⟩
      · simp [hseat, Seat.hops, carries, announcement]
      all_goals rw [station_eq]; rfl
  · cases hremains with
    | idle _ _ _ hnotices =>
      exact (not_tells_announcement (fun _ h => h) (hnotices _ (by simp [hmail]))).elim
    | absent hawaits =>
      obtain ⟨later, heq, hlater⟩ := hawaits.mail
      obtain rfl := (List.cons.inj (hmail.symm.trans heq)).2
      refine ⟨hawaits.lacks, hawaits.other, fun {t owner} hholds => ?_⟩
      refine h.turn hn hall h.home fun htraffic => .inr ?_
      refine hspent.turn htraffic (by simp [Wire.sentTo?])
        (.idle hholds.dwindles rfl hawaits.deliveries.symm hlater) ?_ ?_ ?_
      all_goals rw [station_eq]
      · exact fun hstopped => absurd hstopped (hawaits.lacks.not_stopped net)
      · rfl
      · rfl

/-! ## Firings -/

theorem exists_copy (h : Attends limit l i b s k link) {m : NetId} {state : DemoNet}
    (hactive : s.active w m = some state) : ∃ copy : Ring, m = net ∧ state = .inl copy := by
  rcases h.cases with ⟨hop, seat, x, -, -, hfits⟩ | ⟨-, hremains⟩
  · cases hfits with
    | absent hawaits => cases hactive.symm.trans (hawaits.lacks.active w m)
    | held hholds =>
      have hcopy := hactive.symm.trans (hholds.active w m)
      split at hcopy <;> cases hcopy
      rename_i hheld
      exact ⟨_, hheld.2.2, rfl⟩
  · cases hremains with
    | absent hawaits => cases hactive.symm.trans (hawaits.lacks.active w m)
    | idle hcopy => exact ⟨_, hcopy.eq_of_active hactive⟩

variable {copy : Ring}

section

variable (h : Attends limit l i b s k link)

include h

theorem running_of_waiting
    (hactive : s.active w net = some (.inl copy)) (hwaiting : copy.waiting = a :: later) :
    ∃ hop seat bound, Running limit hop seat (l.turn i (b.station s k) (link.hub.mail n)) ∧
      seat i = .held w true copy bound ∧ s.Holds w true copy bound ∧ copy.limit = limit ∧
      copy.forwarded.toNat = b.localDeliveries + b.remoteDeliveries := by
  rcases h.cases with ⟨hop, seat, x, hrunning, hseat, hfits⟩ | ⟨-, hremains⟩
  · cases hfits with
    | absent hawaits => cases hactive.symm.trans (hawaits.lacks.active w net)
    | @held owner adopted _ bound hholds hlimit hforwarded =>
      have hcopy := hactive.symm.trans (hholds.active w net)
      split at hcopy <;> cases hcopy
      rename_i hheld
      obtain ⟨rfl, rfl, -⟩ := hheld
      exact ⟨hop, seat, bound, hrunning, hseat, hholds, hlimit, hforwarded⟩
  · cases hremains with
    | absent hawaits => cases hactive.symm.trans (hawaits.lacks.active w net)
    | idle hcopy hnone =>
      cases (hcopy.eq_of_active hactive).2
      cases hwaiting.symm.trans hnone

/-- The copy hands the token on, to the own process or to another one. -/
theorem forward (hn : n < IdSource.wordSize) (hs : s.Sound)
    (hactive : s.active w net = some (.inl copy)) (hwaiting : copy.waiting = a :: later)
    (hlt : ¬ copy.limit ≤ a) (hwired : Wired link ws link')
    (hsent : ws = [] ∧ t = s.post w (.tokens (token net (a + 1))) ∨ ∃ target source termination,
      ws = [.sent target (.ofTokens source (token net (a + 1)))] ∧ t = s.setTermination termination)
    (hhome : b'.Home limit i) (hdeliveries : b'.localDeliveries + b'.remoteDeliveries =
      b.localDeliveries + b.remoteDeliveries + 1) (hfirings : b'.firings = b.firings) :
    Attends limit l i b' (t.setActive w net
      (some (.inl { copy with waiting := later, forwarded := copy.forwarded + 1 }))) (k + 1) link' := by
  obtain ⟨hop, seat, bound, hrunning, hseat, hholds, hlimit, -⟩ := h.running_of_waiting hactive hwaiting
  refine h.turn hn hwired hhome fun htraffic => .inl ?_
  have hgo {bound' : List UInt32} (hu : t.Holds w true copy bound')
      (hcase : ws = [] ∧ bound' = bound ++ [a + 1] ∨ ∃ target source,
        ws = [.sent target (.ofTokens source (token net (a + 1)))] ∧ bound' = bound) := by
    refine hrunning.forward hn htraffic hseat hwaiting
      (UInt32.not_le.mp (hlimit ▸ hlt)) (s := b'.station (t.setActive w net (some (.inl
        { copy with waiting := later, forwarded := copy.forwarded + 1 }))) (k + 1))
      (hu.setCopy _ hu.name) hcase ?_ ?_
    all_goals rw [station_eq]
    · exact hdeliveries
    · show b'.firings + (k + 1) = b.firings + k + 1
      omega
  rcases hsent with ⟨hws, rfl⟩ | ⟨target, source, termination, hws, rfl⟩
  · exact hgo (hholds.post hs (a + 1)) (.inl ⟨hws, rfl⟩)
  · exact hgo (hholds.congr ⟨rfl, rfl, rfl, fun _ => rfl, fun _ => rfl⟩) (.inr ⟨target, source, hws, rfl⟩)

theorem halt (hn : n < IdSource.wordSize) (hs : s.Sound)
    (hactive : s.active w net = some (.inl copy)) (hwaiting : copy.waiting = a :: later)
    (hle : copy.limit ≤ a) {slot : Slot} (hslot : s.registry.slot? net = some slot) :
    Attends limit l i b (((s.setRegistry (s.registry.setSlot net { slot with state := .halting })).post
      slot.owner (.halt net none)).setActive w net (some (.inl { copy with waiting := later })))
      (k + 1) link := by
  obtain ⟨hop, seat, bound, hrunning, hseat, hholds, hlimit, hforwarded⟩ :=
    h.running_of_waiting hactive hwaiting
  have hhops : (seat i).hops = a :: (later ++ bound) := by rw [hseat, Seat.hops, hwaiting]; rfl
  obtain ⟨-, hnone, -, -⟩ := hrunning.only hhops
  obtain ⟨rfl, rfl⟩ := List.append_eq_nil_iff.mp hnone
  have hstored := hholds.setCopy { copy with waiting := [] } hholds.name
  have hleft := hstored.halts hslot (hs.owner_valid _ _ hslot)
  refine h.turn hn .nil h.home fun _ => .inr ?_
  refine hrunning.halt hhops (hlimit ▸ hle) hleft rfl hforwarded ?_ ?_ ?_
  · exact .inl (Registry.state?_of_slot Registry.slot?_setSlot_self)
  all_goals rw [station_eq]; rfl

end

end Attends

end Ring

/-! ## Nodes -/

namespace Node

variable {σ τ : Type} [Transport τ] [NetBehaviour σ]

omit [Transport τ] [NetBehaviour σ] in
theorem forall_andThen {α : Type} {P : TokenEvent → Prop} {events : List TokenEvent}
    {result : EStateM.Result Fault (Node σ τ) α} {next : α → Node σ τ → List TokenEvent}
    (hfirst : ∀ e ∈ events, P e) (hnext : ∀ a m, ∀ e ∈ next a m, P e) :
    ∀ e ∈ andThen events result next, P e := by
  intro e he
  rcases List.mem_append.mp he with he | he
  · exact hfirst e he
  · cases result with
    | ok a m => exact hnext a m e he
    | error => cases he

omit [NetBehaviour σ] in
theorem isDrop_sendEvents (target : ProcessId) (parcel : Parcel) (n : Node σ τ) :
    ∀ e ∈ sendEvents target parcel n, e.isDrop = false := by
  unfold sendEvents
  split <;> simp [TokenEvent.isDrop]

omit [NetBehaviour σ] in
theorem isDrop_multicastEvents (parcel : Parcel) (targets : List ProcessId) (n : Node σ τ) :
    ∀ e ∈ multicastEvents parcel targets n, e.isDrop = false := by
  induction targets generalizing n with
  | nil => simp [multicastEvents]
  | cons target rest ih => exact forall_andThen (isDrop_sendEvents target parcel n) fun _ m => ih m

theorem isDrop_performEvents (w : WorkerId) (net : NetId) (firing : Firing σ) (n : Node σ τ) :
    ∀ e ∈ performEvents w net firing n, e.isDrop = false := by
  induction firing generalizing n with
  | fired | notEnabled | failed | crashed => simp [performEvents]
  | send target parcel next ih =>
    exact forall_andThen (isDrop_sendEvents target parcel n) fun r m => ih r m
  | multicast targets parcel next ih =>
    exact forall_andThen (isDrop_multicastEvents parcel _ n) fun r m => ih r m
  | spawn | halt | haltNet => exact forall_andThen (by simp) fun r m => by solve_by_elim
  | quit next ih => exact forall_andThen (by simp) fun _ m => ih m

end Node

namespace Ring

open Node Scene

theorem create_template {n : Nat} (hn : n < IdSource.wordSize) (limit : UInt32) (i : Fin n)
    (index : Nat) (parent : Option NetId) (isGlobal : Bool) :
    ((template limit).map Sum.inl).create ⟨net, index, parent, .at i, n, isGlobal⟩ =
      (.inl ⟨net, limit, if i.val = 0 then [0] else [], 0⟩ : DemoNet) := by
  have hmain := SpawnContext.isMain_at hn i index parent isGlobal
  simp [template, Template.map, net, hmain]

section Fire

variable {r : Ring} {a : UInt32} {later : List UInt32} (context : FireContext)
  (transition : TransitionIndex)

theorem fire_eq_map :
    NetBehaviour.fire (.inl r : DemoNet) context transition = (r.fire context).map Sum.inl := rfl

theorem fire_of_nil (hwaiting : r.waiting = []) :
    NetBehaviour.fire (.inl r : DemoNet) context transition = .notEnabled (.inl r) := by
  simp [fire_eq_map, fire, hwaiting, Firing.map]

theorem fire_of_limit_le (hwaiting : r.waiting = a :: later) (hle : r.limit ≤ a) :
    ∃ next, NetBehaviour.fire (.inl r : DemoNet) context transition = .halt next ∧
      next (.ok ()) = .fired (.inl { r with waiting := later }) := by
  simp only [fire_eq_map, fire, hwaiting, hle, if_true, Firing.map]
  exact ⟨_, rfl, rfl⟩

theorem fire_of_lt (hwaiting : r.waiting = a :: later) (hlt : ¬ r.limit ≤ a) :
    ∃ next, NetBehaviour.fire (.inl r : DemoNet) context transition =
        .send (successor context.process context.processCount) (token r.id (a + 1)) next ∧
      next (.ok ()) = .fired (.inl { r with waiting := later, forwarded := r.forwarded + 1 }) := by
  simp only [fire_eq_map, fire, hwaiting, hlt, if_false, Firing.map]
  exact ⟨_, rfl, rfl⟩

end Fire

variable {n : Nat} {limit : UInt32} {l : Line n} {i : Fin n} {w : WorkerId} {k : Nat}
  {m : Node DemoNet Mailbox.Link} {item : WorkItem DemoNet} {rest : List (WorkItem DemoNet)}

/-- A node attends to the ring; `k` of its firings are not in the books yet. -/
def Tends (limit : UInt32) (l : Line n) (i : Fin n) (w : WorkerId) (hand : List (WorkItem DemoNet))
    (k : Nat) (m : Node DemoNet Mailbox.Link) : Prop :=
  Attends limit l i m.process.books (m.process.scene w hand) k m.link

variable {copy : Ring}

theorem Tends.fire_idle (h : Tends limit l i w [] k m) (hwaiting : copy.waiting = [])
    (transition : TransitionIndex) (hfound : (m.process.worker w).nets.find? net = some (.inl copy)) :
    ∃ m', fireAndRecord w net (.inl copy) transition m = .ok ⟨.inl copy, .notEnabled, false⟩ m' ∧
      Tends limit l i w [] k m' := by
  have hperform : perform w net false (NetBehaviour.fire (.inl copy : DemoNet)
      ⟨net, w, m.process.id, m.process.processCount⟩ transition) m =
        .ok ⟨.inl copy, .notEnabled, false⟩ m := by
    rw [fire_of_nil _ _ hwaiting]
    rfl
  obtain ⟨m', hrun, hlink, hbooks, hscene⟩ :=
    fireAndRecord_apply (Process.lt_of_find?_nets hfound) hperform (by simp)
  refine ⟨m', hrun, ?_⟩
  show Attends limit l i m'.process.books (m'.process.scene w []) k m'.link
  rw [hbooks, hscene, setActive_self hfound, hlink]
  exact h

theorem Tends.fire_halt (h : Tends limit l i w [] k m) (hn : n < IdSource.wordSize)
    (hs : (m.process.scene w []).Sound) (hwaiting : copy.waiting = a :: later) (hle : copy.limit ≤ a)
    (transition : TransitionIndex) (hfound : (m.process.worker w).nets.find? net = some (.inl copy)) :
    ∃ m', fireAndRecord w net (.inl copy) transition m =
        .ok ⟨.inl { copy with waiting := later }, .fired, true⟩ m' ∧ Tends limit l i w [] (k + 1) m' := by
  have hactive : (m.process.scene w []).active w net = some (.inl copy) := hfound
  have hworker := Process.lt_of_find?_nets hfound
  obtain ⟨hop, seat, bound, -, -, hholds, -, -⟩ := Attends.running_of_waiting h hactive hwaiting
  obtain ⟨slot, howner, hlive, hslot⟩ := hholds.slot?_net
  have hbox : slot.owner.index < m.process.inboxes.length := hs.owner_valid _ _ hslot
  have hown : w.index < m.process.inboxes.length := howner ▸ hbox
  obtain ⟨mid, hhalt, hlink, hscene⟩ := halt_apply hown (hholds.isRetired net) hslot hlive hbox
  have hsteady : mid.process.books = m.process.books := by
    have hsteady := (halt_within w net).steady m
    rwa [hhalt] at hsteady
  obtain ⟨next, hfire, hnext⟩ :=
    fire_of_limit_le ⟨net, w, m.process.id, m.process.processCount⟩ transition hwaiting hle
  have hperform := perform_halt false hhalt hnext
  rw [← hfire] at hperform
  have hmid : w.index < mid.process.workers.length := by
    rw [show mid.process.workers.length = _ from congrArg Scene.workerCount (hscene w [])]
    exact hworker
  obtain ⟨m', hrun, hlink', hbooks, hscene'⟩ := fireAndRecord_apply hmid hperform (by simp)
  refine ⟨m', hrun, ?_⟩
  show Attends limit l i m'.process.books (m'.process.scene w []) (k + 1) m'.link
  rw [hbooks, hsteady, hscene', hscene, hlink', hlink]
  exact Attends.halt h hn hs hactive hwaiting hle hslot

theorem at_successor (hn : n < IdSource.wordSize) (i : Fin n) :
    ∃ q : Fin n, successor (.at i) n = .at q := by
  have hpos : 0 < n := Nat.lt_of_le_of_lt (Nat.zero_le i) i.isLt
  refine ⟨⟨(i.val + 1) % n, Nat.mod_lt _ hpos⟩, ?_⟩
  rw [successor, ProcessId.index_at hn]
  rfl

section

variable (h : Tends limit l i w [] k m)

include h

theorem Tends.send (hn : n < IdSource.wordSize)
    (hs : (m.process.scene w []).Sound) (hwaiting : copy.waiting = a :: later) (hlt : ¬ copy.limit ≤ a)
    (hfound : (m.process.worker w).nets.find? net = some (.inl copy)) :
    ∃ mid, sendTokens (successor m.process.id m.process.processCount) (token copy.id (a + 1)) m =
        .ok () mid ∧ mid.process.workers.length = m.process.workers.length ∧
      Attends limit l i mid.process.books ((mid.process.scene w []).setActive w net (some
        (.inl { copy with waiting := later, forwarded := copy.forwarded + 1 }))) (k + 1) mid.link := by
  have hactive : (m.process.scene w []).active w net = some (.inl copy) := hfound
  have hhome : m.process.books.Home limit i := h.home
  have hid : m.process.id = .at i := hhome.id
  have hcount : m.process.processCount = n := hhome.processCount
  obtain ⟨hop, seat, bound, -, -, hholds, -, -⟩ := Attends.running_of_waiting h hactive hwaiting
  obtain ⟨q, hq⟩ := at_successor hn i
  rw [show token copy.id (a + 1) = token net (a + 1) by rw [show copy.id = net from hholds.name], hid,
    hcount, hq]
  by_cases hself : q = i
  · obtain ⟨mid, hsend, hlink, hbooks, hscene⟩ : ∃ mid, sendTokens m.process.id (token net (a + 1)) m =
        .ok () mid ∧ mid.link = m.link ∧ _ :=
      sendTokens_local hholds.liveOwner? (hholds.hasWorker hs)
    have hwired : Wired m.link [] mid.link := hlink ▸ .nil
    refine ⟨mid, hself ▸ hid ▸ hsend, congrArg Scene.workerCount (hscene w []), ?_⟩
    refine Attends.forward h hn hs hactive hwaiting hlt hwired (.inl ⟨rfl, hscene w []⟩) ?_ ?_ ?_
    all_goals rw [hbooks]
    · exact ⟨hhome.id, hhome.processCount, hhome.templates, hhome.inboxes, hhome.nets⟩
    · exact Nat.add_right_comm ..
  · obtain ⟨link, hrun⟩ := Mailbox.send_of_serves hn h.serves h.endpoint hself
      (.ofTokens m.process.id (token net (a + 1)))
    have hother : ProcessId.at q ≠ m.process.id := fun heq =>
      hself (ProcessId.at_inj hn (heq.trans hid))
    obtain ⟨mid, hsend, hlink, hbooks, hscene⟩ := sendTokens_remote hother hrun
    have hwired : Wired m.link [.sent (.at q) (.ofTokens m.process.id (token net (a + 1)))] mid.link :=
      hlink ▸ .sent hrun .nil
    refine ⟨mid, hsend, congrArg Scene.workerCount (hscene w []), ?_⟩
    refine Attends.forward h hn hs hactive hwaiting hlt hwired (.inr ⟨_, _, _, rfl, hscene w []⟩)
      ?_ ?_ ?_
    all_goals rw [hbooks]
    · exact ⟨hhome.id, hhome.processCount, hhome.templates, hhome.inboxes, hhome.nets⟩
    · exact (Nat.add_assoc ..).symm

theorem Tends.fire_forward (hn : n < IdSource.wordSize)
    (hs : (m.process.scene w []).Sound) (hwaiting : copy.waiting = a :: later) (hlt : ¬ copy.limit ≤ a)
    (transition : TransitionIndex) (hfound : (m.process.worker w).nets.find? net = some (.inl copy)) :
    ∃ m', fireAndRecord w net (.inl copy) transition m =
        .ok ⟨.inl { copy with waiting := later, forwarded := copy.forwarded + 1 }, .fired, false⟩ m' ∧
      Tends limit l i w [] (k + 1) m' := by
  obtain ⟨mid, hsend, hworkers, hattends⟩ := h.send hn hs hwaiting hlt hfound
  obtain ⟨next, hfire, hnext⟩ :=
    fire_of_lt ⟨net, w, m.process.id, m.process.processCount⟩ transition hwaiting hlt
  have hperform : perform w net false _ m = _ := perform_send false hsend hnext
  rw [← hfire] at hperform
  obtain ⟨m', hrun, hlink, hbooks, hscene⟩ := fireAndRecord_apply
    (hworkers ▸ Process.lt_of_find?_nets hfound) hperform (by simp)
  refine ⟨m', hrun, ?_⟩
  show Attends limit l i m'.process.books (m'.process.scene w []) (k + 1) m'.link
  rwa [hbooks, hscene, hlink]

theorem Tends.fire (hn : n < IdSource.wordSize)
    (hs : (m.process.scene w []).Sound) (transition : TransitionIndex) {m' : NetId} {state : DemoNet}
    (hfound : (m.process.worker w).nets.find? m' = some state) :
    Honours (fun e => e.isDrop = false)
      (fun outcome => Tends limit l i w [] (if outcome.result = .fired then k + 1 else k))
      (Tends limit l i w [] 0) (firingEvents w m' state transition m)
      (fireAndRecord w m' state transition m) := by
  refine ⟨isDrop_performEvents _ _ _ _, ?_⟩
  obtain ⟨copy, rfl, rfl⟩ := Attends.exists_copy h hfound
  cases hwaiting : copy.waiting with
  | nil =>
    obtain ⟨after, hrun, htends⟩ := h.fire_idle hwaiting transition hfound
    rw [hrun]
    exact htends
  | cons a later =>
    by_cases hle : copy.limit ≤ a
    · obtain ⟨after, hrun, htends⟩ := h.fire_halt hn hs hwaiting hle transition hfound
      rw [hrun]
      exact htends
    · obtain ⟨after, hrun, htends⟩ := h.fire_forward hn hs hwaiting hle transition hfound
      rw [hrun]
      exact htends

end

/-- Every deed of process `i` keeps all in order and drops no token. -/
theorem regime (hn : n < IdSource.wordSize) (limit : UInt32) (l : Line n) (i : Fin n) :
    Regime (fun e => e.isDrop = false) (Attends limit l i) where
  unmoved h := h.unmoved hn
  hear h := h.hear hn
  tally h := by
    obtain ⟨hid, hcount, htemplates, hinboxes, hnets⟩ := h.home
    exact ⟨h.serves, h.endpoint, ⟨hid, hcount, htemplates, hinboxes, hnets⟩, h.goes⟩
  plain h := h.not_fire
  deal h := h.deal hn
  fail h hhand hfails := (h.fail hn hhand hfails).imp_left .inl
  take h hs hreceive hnotice := by
    refine h.take hn hs hreceive ?_
    rintro rfl
    cases hnotice _ ofPacket_announcement
  news {b s link link' packet net template parent origin} h hreceive hmessage := by
    obtain rfl : packet = announcement := by
      by_contra hother
      cases h.message_isNotice hn hreceive hother hmessage
    cases hmessage.symm.trans ofPacket_announcement
    obtain ⟨hlacks, hother, hgo⟩ := h.news hn hreceive
    have hmade := create_template hn limit i (0 : UInt32).toNat none true
    rw [if_neg hother, ← h.home.id] at hmade
    nth_rewrite 1 [← h.home.processCount] at hmade
    refine ⟨_, by rw [h.home.templates]; rfl, by rw [hmade]; rfl,
      .inl fun owner => hlacks.exists_insert .., fun owner registry termination howner hinsert => ?_⟩
    rw [hmade]
    exact hgo (hlacks.register rfl hinsert rfl rfl rfl (fun _ => rfl) howner)
  fire transition hs h hfound := Tends.fire h hn hs transition hfound

end Ring

end PetriCluster
